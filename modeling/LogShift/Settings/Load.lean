import LogShift.Settings.Environment
import LogShift.Settings.Toml
import LogShift.Text.Utf8

/-! Settings from a file and the environment. The settings of the file must be valid by themselves,
and once more with the environment in place. -/
namespace LogShift

inductive LoadError where
  | config (cause : ConfigError)
  | io (cause : FileFault)
deriving DecidableEq

namespace LoadError

def message : LoadError → String
  | config cause => s!"config error: {cause.message}"
  | io cause => s!"io error: {cause.message}"

def toCommandError : LoadError → CommandError
  | config cause => .config cause
  | io cause => .io cause

end LoadError

namespace Settings

/-- The valid settings in the bytes of a file. -/
def ofBytes (bs : Bytes) : Except LoadError Settings :=
  match Utf8.decode? bs with
  | none => .error (.io .notText)
  | some t => do
    let s ← (parse t).mapError .config
    s.validate.mapError .config
    return s

/-- The valid settings in the file at `path`, of which `content` could be read. -/
def ofFile (path : Text) (content : Except FileFault Bytes) : Except LoadError Settings :=
  match content with
  | .error .notFound => .error (.config (.fileNotFound path))
  | .error fault => .error (.io fault)
  | .ok bs => ofBytes bs

/-- The settings under an environment. -/
def underEnvironment (env : Environment) (s : Settings) : Except LoadError Settings := do
  let effective := (env.apply s).1
  effective.validate.mapError .config
  return effective

def load (path : Text) (content : Except FileFault Bytes) (env : Environment) :
    Except LoadError Settings := do
  underEnvironment env (← ofFile path content)

/-- As `load`, with the defaults if there is no file. -/
def loadOrDefault (path : Text) (content : Except FileFault Bytes) (env : Environment) :
    Except LoadError Settings :=
  match content with
  | .error .notFound => underEnvironment env defaults
  | content => load path content env

end Settings

end LogShift
