import SampleTap.Writer

/-!
# File names

Whether a capture file can be created under a name, in a directory that holds nothing yet. The name
is walked from directory to directory; each but the last part must be a directory that exists, and
the last must not be one.
-/

namespace SampleTap.Path

/-! ## Parts of a name -/

/-- The parts of a name, between its separators. -/
def parts (path : String) : List String := path.splitOn "/"

/-- Whether a part leads nowhere else. -/
def isIdle (part : String) : Bool := part = "" || part = "."

/-- Whether a name stands for the standard output: a dash, and behind it only parts that lead
nowhere else. -/
def isStandardOutput (path : String) : Bool :=
  match parts path with
  | "-" :: rest => rest.all isIdle
  | _ => false

/-! ## Creating files -/

/-- The most bytes of one part of a name. -/
def maxPart : Nat := 255

/-- The most bytes of a name. -/
def maxLength : Nat := 4095

/-- Whether a part names a directory that exists: the current one or the one above. -/
def isDirectory (part : String) : Bool := part = "." || part = ".."

/-- What prevents creating a file from the parts of a name; an empty part stands where two
separators meet or at an end. -/
def walk : List String → Option Int
  | [] => some Errno.isDirectory
  | part :: rest =>
    if rest.all (· = "") then
      -- The last part: a separator after it asks for a directory.
      if part = "" || isDirectory part || !rest.isEmpty then some Errno.isDirectory
      else if maxPart < part.utf8ByteSize then some Errno.nameTooLong
      else none
    else if part = "" || isDirectory part then walk rest
    else if maxPart < part.utf8ByteSize then some Errno.nameTooLong
    else some Errno.noEntry

/-- What prevents creating a file under a name. -/
def creationFailure? (path : String) : Option IoFailure :=
  if path.contains (Char.ofNat 0) then some .zeroInName
  else if path.isEmpty then some (.os Errno.noEntry)
  else if maxLength < path.utf8ByteSize then some (.os Errno.nameTooLong)
  else (walk (parts path)).map .os

/-- The writer of a capture: a file holds bytes back, the standard output does not. -/
def openWriter (path : String) : Except IoFailure Writer :=
  if isStandardOutput path then .ok {}
  else
    match creationFailure? path with
    | some failure => .error failure
    | none => .ok { buffered := true }

/-! ## Places of files -/

/-- The place of a file: its name, and how many levels above a directory it is, unless it is counted
from the root. -/
structure Place where
  fromRoot : Bool
  levelsUp : Nat
  name : String
deriving DecidableEq, Repr

/-- The place of the file that can be created under a name. Idle parts of the name do not matter. -/
def place? (path : String) : Option Place :=
  if (creationFailure? path).isSome then none
  else
    let fromRoot := path.startsWith "/"
    let levelsUp := if fromRoot then 0 else (parts path).count ".."
    some ⟨fromRoot, levelsUp, (parts path).getLastD ""⟩

end SampleTap.Path
