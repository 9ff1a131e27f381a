import LogShift.Format

/-! The command line: which arguments there are, and what a list of them asks for. -/
namespace LogShift

/-- How a command reports. -/
inductive ReportStyle where
  | text
  | json
deriving DecidableEq, Repr

/-- Where lines come from and where records go. -/
structure Job where
  format : LogFormat
  input : Text
  output : Text
  year : Option Int
deriving DecidableEq

inductive Command where
  | parse (job : Job)
  | process (job : Job) (now : Option Moment)
  | validateConfig
  | showConfig (part : Option Text)
deriving DecidableEq

/-- A command line that was understood. -/
structure Invocation where
  config : Text
  logLevel : Option Text
  report : ReportStyle
  command : Command
deriving DecidableEq

/-- Why a command line is not carried out. -/
inductive UsageError where
  | displayHelp
  | displayVersion
  /-- Nothing was asked for. -/
  | nothingAsked
  | missingSubcommand
  | invalidSubcommand
  | missingArgument
  | unknownArgument
  | invalidValue
  | unreadableValue
  | unknownFormat (name : Text)
  | repeatedArgument
  | surplusValue
deriving DecidableEq, Repr

namespace UsageError

/-- Help and version are no failures. -/
def exitCode : UsageError → Nat
  | displayHelp | displayVersion => 0
  | _ => 2

def message? : UsageError → Option String
  | unknownFormat name =>
    some s!"unknown format '{String.ofList name}' (expected: {LogFormat.choices})"
  | _ => none

end UsageError

namespace CommandLine

/-- An argument that takes a value. -/
inductive Slot where
  | config
  | logLevel
  | report
  | year
  | now
  | part
  | format
  | input
  | output
deriving DecidableEq, Repr

/-- An argument with its value. -/
inductive Given where
  | config (path : Text)
  | logLevel (level : Text)
  | report (style : ReportStyle)
  | year (n : Int)
  | now (t : Moment)
  | part (name : Text)
  | format (f : LogFormat)
  | input (path : Text)
  | output (path : Text)
deriving DecidableEq

def Given.slot : Given → Slot
  | config _ => .config
  | logLevel _ => .logLevel
  | report _ => .report
  | year _ => .year
  | now _ => .now
  | part _ => .part
  | format _ => .format
  | input _ => .input
  | output _ => .output

def orError {α : Type} (e : UsageError) : Option α → Except UsageError α
  | some a => .ok a
  | none => .error e

def path (t : Text) : Except UsageError Text :=
  if t.isEmpty then .error .invalidValue else .ok t

/-- Reads the value of an argument. -/
def Slot.read (value : Text) : Slot → Except UsageError Given
  | config => (path value).map .config
  | logLevel => .ok (.logLevel value)
  | report =>
    if value = "text".toList then .ok (.report .text)
    else if value = "json".toList then .ok (.report .json)
    else .error .invalidValue
  | year => (orError .unreadableValue (Decimal.signed? 32 value)).map .year
  | now =>
    (orError .unreadableValue ((Moment.ofIso? value).or (Moment.ofSpaced? value))).map .now
  | part => .ok (.part value)
  | format => (orError (.unknownFormat value) (LogFormat.ofLooseName? value)).map .format
  | input => (path value).map .input
  | output => (path value).map .output

/-- A command or a command of a command. -/
inductive Level where
  | root
  | parse
  | process
  | config
  | validate
  | display
  | help
deriving DecidableEq, Repr

namespace Level

/-- Accepted by all commands. -/
def globalOptions : List (String × Slot) :=
  [("config", .config), ("log-level", .logLevel), ("output", .report)]

def options : Level → List (String × Slot)
  | root | config | validate | help => globalOptions
  | parse => ("year", .year) :: globalOptions
  | process => ("year", .year) :: ("now", .now) :: globalOptions
  | display => ("section", .part) :: globalOptions

def positionals : Level → List Slot
  | parse | process => [.format, .input, .output]
  | root | config | validate | display | help => []

def subcommands : Level → List (String × Level)
  | root => [("parse", parse), ("process", process), ("config", config), ("help", help)]
  | config => [("validate", validate), ("show", display), ("help", help)]
  | parse | process | validate | display | help => []

def subcommand? (l : Level) (name : Text) : Option Level :=
  l.subcommands.lookup (String.ofList name)

def needsSubcommand (l : Level) : Bool :=
  !l.subcommands.isEmpty

/-- The option with a long name. -/
def long? (l : Level) (name : Text) : Option Slot :=
  l.options.lookup (String.ofList name)

/-- Names of flags that end the reading, and what they show. -/
def flags (l : Level) : List (String × Char × UsageError) :=
  ("help", 'h', .displayHelp) ::
    if l = root then [("version", 'V', .displayVersion)] else []

def longFlag? (l : Level) (name : Text) : Option UsageError :=
  (l.flags.find? fun (long, _) => long.toList = name).map fun (_, _, e) => e

def shortFlag? (l : Level) (c : Char) : Option UsageError :=
  (l.flags.find? fun (_, short, _) => short = c).map fun (_, _, e) => e

/-- What help on the commands of a path shows. -/
def helpOn : Level → List Text → UsageError
  | _, [] => .displayHelp
  | l, name :: names =>
    match l.subcommand? name with
    | some l => helpOn l names
    | none => .invalidSubcommand

end Level

/-- What has been read on one level. The value of an argument is looked at only when the next
argument comes, or at the end. -/
structure Scan where
  given : List Given
  /-- The argument in hand, and its value if that has come. -/
  pending : Option (Slot × Option Text)
  /-- The positional arguments still to come. -/
  positionals : List Slot
  /-- Whether options have ended. -/
  trailing : Bool

namespace Scan

def start (l : Level) : Scan :=
  ⟨[], none, l.positionals, false⟩

/-- Takes an argument with its value. -/
def take (s : Scan) (slot : Slot) (value : Text) : Except UsageError Scan := do
  if s.given.any fun g => g.slot = slot then .error .repeatedArgument
  let g ← slot.read value
  return { s with given := s.given ++ [g] }

/-- Settles the argument in hand. -/
def settle (s : Scan) : Except UsageError Scan :=
  match s.pending with
  | none => .ok s
  | some (_, none) => .error .invalidValue
  | some (slot, some value) => take { s with pending := none } slot value

/-- An option with its value attached, or one whose value is to come. -/
def option (s : Scan) (slot : Slot) (attached : Option Text) : Except UsageError Scan := do
  let s ← s.settle
  match attached with
  | some value => s.take slot value
  | none => return { s with pending := some (slot, none) }

/-- A flag that ends the reading. -/
def flag (s : Scan) (e : UsageError) : Except UsageError Scan := do
  let _ ← s.settle
  .error e

/-- An argument that starts with two hyphens. -/
def long (s : Scan) (l : Level) (t : Text) : Except UsageError Scan :=
  let (name, attached) := match t.span (· ≠ '=') with
    | (name, _ :: value) => (name, some value)
    | (name, []) => (name, none)
  match l.long? name, l.longFlag? name with
  | some slot, _ => s.option slot attached
  | none, some e => if attached.isSome then .error .surplusValue else s.flag e
  | none, none => .error .unknownArgument

/-- An argument that starts with one hyphen; an equals sign may stand before the value. -/
def short (s : Scan) (l : Level) : Text → Except UsageError Scan
  | 'c' :: [] => s.option .config none
  | 'c' :: '=' :: value => s.option .config (some value)
  | 'c' :: value => s.option .config (some value)
  | c :: _ =>
    match l.shortFlag? c with
    | some e => s.flag e
    | none => .error .unknownArgument
  | [] => .error .unknownArgument

/-- An argument for which there is no place. -/
def surplus (s : Scan) (l : Level) (t : Text) : UsageError :=
  if !l.needsSubcommand then .unknownArgument
  else if s.trailing && (l.subcommand? t).isSome then .unknownArgument
  else .invalidSubcommand

/-- The option whose value comes next. -/
def awaited? (s : Scan) : Option Slot :=
  match s.pending with
  | some (slot, none) => if s.trailing then none else some slot
  | _ => none

/-- An argument without hyphens: the value that is waited for, or the next positional one. -/
def plain (s : Scan) (l : Level) (t : Text) : Except UsageError Scan :=
  match s.awaited?, s.positionals with
  | some slot, _ => .ok { s with pending := some (slot, some t) }
  | none, slot :: rest => do
    let s ← s.settle
    return { s with pending := some (slot, some t), positionals := rest }
  | none, [] => .error (s.surplus l t)

/-- What a level without further arguments has been given. -/
def finish (s : Scan) (l : Level) : Except UsageError (List Given) := do
  let s ← s.settle
  if l.needsSubcommand then
    .error (if s.given.isEmpty then .nothingAsked else .missingSubcommand)
  if !s.positionals.isEmpty then .error .missingArgument
  return s.given

end Scan

/-- Reads arguments on a level. The result is the last level and what was given, the deepest
level first; on the way back each level settles its last argument. -/
def scan (l : Level) (s : Scan) : List Text → Except UsageError (Level × List Given)
  | [] => (s.finish l).map (l, ·)
  | arg :: args =>
    match if s.trailing || s.awaited?.isSome then none else l.subcommand? arg with
    | some .help => .error (l.helpOn args)
    | some sub => do
      let (last, inner) ← scan sub (.start sub) args
      let s ← s.settle
      return (last, inner ++ s.given)
    | none => do
      let s ← match s.trailing, arg with
        | false, ['-', '-'] => .ok { s with trailing := true }
        | false, '-' :: '-' :: t => s.long l t
        | false, '-' :: c :: t => s.short l (c :: t)
        | _, _ => s.plain l arg
      scan l s args

/-! ### What was asked for -/

def Given.config? : Given → Option Text
  | config t => some t
  | _ => none

def Given.logLevel? : Given → Option Text
  | logLevel t => some t
  | _ => none

def Given.report? : Given → Option ReportStyle
  | report r => some r
  | _ => none

def Given.year? : Given → Option Int
  | year n => some n
  | _ => none

def Given.now? : Given → Option Moment
  | now t => some t
  | _ => none

def Given.part? : Given → Option Text
  | part t => some t
  | _ => none

def Given.format? : Given → Option LogFormat
  | format f => some f
  | _ => none

def Given.input? : Given → Option Text
  | input t => some t
  | _ => none

def Given.output? : Given → Option Text
  | output t => some t
  | _ => none

def job (given : List Given) : Except UsageError Job := do
  let format ← orError .missingArgument (given.findSome? Given.format?)
  let input ← orError .missingArgument (given.findSome? Given.input?)
  let output ← orError .missingArgument (given.findSome? Given.output?)
  return ⟨format, input, output, given.findSome? Given.year?⟩

def command (l : Level) (given : List Given) : Except UsageError Command :=
  match l with
  | .parse => (job given).map .parse
  | .process => (job given).map fun j => .process j (given.findSome? Given.now?)
  | .validate => .ok .validateConfig
  | .display => .ok (.showConfig (given.findSome? Given.part?))
  | .root | .config | .help => .error .missingSubcommand

def defaultConfig : Text := "logrebase.toml".toList

/-- What the arguments behind the name of the program ask for. Of an option given on several levels
the deepest counts. -/
def read (args : List Text) : Except UsageError Invocation := do
  let (l, given) ← scan .root (.start .root) args
  let command ← command l given
  return ⟨(given.findSome? Given.config?).getD defaultConfig, given.findSome? Given.logLevel?,
    (given.findSome? Given.report?).getD .text, command⟩

end CommandLine

end LogShift
