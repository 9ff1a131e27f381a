import LogShift.Format

/-! Log records, one shape for each format. -/
namespace LogShift

structure ApacheRecord where
  /-- Number of the line in its batch, from 0. -/
  seq : Nat
  timestamp : Moment
  severity : Text
  /-- The address of a `[client …]` note. -/
  client : Option Text
  /-- A `name()` at the front of the message. -/
  function : Option Text
  /-- A path at the end of the message. -/
  path : Option Text
  msg : Text
  /-- The whole line. -/
  logline : Text
deriving DecidableEq

structure HadoopRecord where
  seq : Nat
  timestamp : Moment
  severity : Text
  thread : Text
  source : Text
  msg : Text
  logline : Text
deriving DecidableEq

structure LinuxRecord where
  seq : Nat
  timestamp : Moment
  hostname : Text
  source : Text
  pid : Option Nat
  msg : Text
  logline : Text
deriving DecidableEq

structure OpenSshRecord where
  seq : Nat
  timestamp : Moment
  hostname : Text
  source : Text
  pid : Nat
  msg : Text
  logline : Text
  /-- The first address in the message. -/
  ip : Option Text
  /-- The user that the message names. -/
  user : Option Text
deriving DecidableEq

inductive Record where
  | apache (r : ApacheRecord)
  | hadoop (r : HadoopRecord)
  | linux (r : LinuxRecord)
  | openssh (r : OpenSshRecord)
deriving DecidableEq

namespace Record

def format : Record → LogFormat
  | apache _ => .apache
  | hadoop _ => .hadoop
  | linux _ => .linux
  | openssh _ => .openssh

def seq : Record → Nat
  | apache r => r.seq
  | hadoop r => r.seq
  | linux r => r.seq
  | openssh r => r.seq

def timestamp : Record → Moment
  | apache r => r.timestamp
  | hadoop r => r.timestamp
  | linux r => r.timestamp
  | openssh r => r.timestamp

def msg : Record → Text
  | apache r => r.msg
  | hadoop r => r.msg
  | linux r => r.msg
  | openssh r => r.msg

def logline : Record → Text
  | apache r => r.logline
  | hadoop r => r.logline
  | linux r => r.logline
  | openssh r => r.logline

def withTimestamp (t : Moment) : Record → Record
  | apache r => apache { r with timestamp := t }
  | hadoop r => hadoop { r with timestamp := t }
  | linux r => linux { r with timestamp := t }
  | openssh r => openssh { r with timestamp := t }

def withMsg (t : Text) : Record → Record
  | apache r => apache { r with msg := t }
  | hadoop r => hadoop { r with msg := t }
  | linux r => linux { r with msg := t }
  | openssh r => openssh { r with msg := t }

def withLogline (t : Text) : Record → Record
  | apache r => apache { r with logline := t }
  | hadoop r => hadoop { r with logline := t }
  | linux r => linux { r with logline := t }
  | openssh r => openssh { r with logline := t }

/-- The timestamp at the precision of the format. -/
def timestampText (r : Record) : Text :=
  r.format.precision.render r.timestamp

/-- One line for a reader. -/
def display (r : Record) : Text :=
  '#' :: Decimal.natural r.seq ++ " [".toList ++ r.format.name.toList ++ "] ".toList ++
    r.timestampText ++ ' ' :: r.msg

end Record

end LogShift
