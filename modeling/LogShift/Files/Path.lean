import LogShift.Text.Basic

/-! Paths: names with slashes between them. -/
namespace LogShift.Path

/-- The names of a path; empty ones are left out. -/
def names (path : Text) : List Text :=
  (Text.splitOn '/' path).filter fun name => !name.isEmpty

def isAbsolute (path : Text) : Bool :=
  path.head? == some '/'

/-- A slash at the end asks for a directory. -/
def endsInSlash (path : Text) : Bool :=
  path.getLast? == some '/'

/-- The last name, unless that is the parent directory; a single point names nothing. -/
def fileName? (path : Text) : Option Text :=
  match ((names path).filter fun name => name ≠ ['.']).getLast? with
  | some name => if name = ['.', '.'] then none else some name
  | none => none

/-- What follows the last point of the file name, if anything stands before that point. -/
def extension? (path : Text) : Option Text := do
  let name ← fileName? path
  let extension := (name.reverse.takeWhile (· ≠ '.')).reverse
  if extension.length + 1 < name.length then some extension else none

/-- Compressed files end in `gz`, in any case. -/
def isGzip (path : Text) : Bool :=
  (extension? path).any fun e => e.map Char.toLower = ['g', 'z']

end LogShift.Path
