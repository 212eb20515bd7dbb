import PageStencil.Storage.Path
import PageStencil.Text.Line
import PageStencil.Text.Utf8

/-!
A directory with files below it. A path leads to a file if every part before the last is a directory, and no double
dot leads out of the whole. A path that is too long as a whole leads nowhere; a part that is too long matters once it
is looked for in a directory that is there.
-/

namespace PageStencil.Storage

structure Directory where
  files : List (List String × ByteArray) := []
  deriving Inhabited

inductive Absence
  | missing
  | tooLong
  deriving DecidableEq, Repr

def Path.absence (p : Path) : Absence :=
  if textLimit ≤ p.text.utf8ByteSize || p.parts.any fun part => partLimit < part.utf8ByteSize then .tooLong
  else .missing

namespace Directory

def isDirectory (d : Directory) (place : List String) : Bool :=
  place.isEmpty || d.files.any fun f => place.isPrefixOf f.1 && place != f.1

def follow (d : Directory) (place : List String) : List String → Except Absence (List String)
  | [] => .ok place
  | p :: ps =>
    if !d.isDirectory place then .error .missing
    else if Path.partLimit < p.utf8ByteSize then .error .tooLong
    else if p = ".." then if place.isEmpty then .error .missing else d.follow place.dropLast ps
    else d.follow (place ++ [p]) ps

/-- The octets of the file that a path leads to, its text as it is looked up being `text`. Outside the directory only
the root is known to be there. -/
def read (d : Directory) (text : String) (p : Path) : Except Absence ByteArray :=
  if Path.textLimit ≤ text.utf8ByteSize then .error .tooLong
  else if p.isAbsolute then
    .error (Path.absence ⟨p.root, p.parts.take 1⟩)
  else
    match d.follow [] p.parts with
    | .error a => .error a
    | .ok place => (d.files.lookup place).elim (.error .missing) .ok

def write (d : Directory) (p : Path) (content : ByteArray) : Directory :=
  match d.follow [] p.parts with
  | .error _ => ⟨(p.parts, content) :: d.files⟩
  | .ok place => ⟨(place, content) :: d.files.filter fun f => f.1 != place⟩

end Directory

def decodeText (content : ByteArray) : Except Text.Utf8.Fault String :=
  (Text.Utf8.decode content).map Text.withUnifiedLineEnds

end PageStencil.Storage
