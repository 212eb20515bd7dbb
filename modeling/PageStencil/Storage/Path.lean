/-!
Paths as texts between slashes. Empty parts and single dots do not count; double dots stay, since only a directory
tells where they lead.
-/

namespace PageStencil.Storage

structure Path where
  root : String := ""
  parts : List String := []
  deriving DecidableEq, Inhabited, Repr

namespace Path

def split : List Char → List (List Char)
  | [] => [[]]
  | c :: s =>
    if c = '/' then [] :: split s
    else match split s with
      | [] => [[c]]
      | p :: ps => (c :: p) :: ps

/-- Exactly two slashes in front are a root of their own; any other number is one. -/
def rootOf (s : List Char) : String :=
  match (s.takeWhile (· == '/')).length with
  | 0 => ""
  | 2 => "//"
  | _ => "/"

def ofText (s : String) : Path where
  root := rootOf s.toList
  parts := ((split s.toList).filter fun p => !p.isEmpty && p != ['.']).map String.ofList

def text (p : Path) : String :=
  let s := p.root ++ "/".intercalate p.parts
  if s.isEmpty then "." else s

def partLimit : Nat := 255
def textLimit : Nat := 4096

def isAbsolute (p : Path) : Bool := !p.root.isEmpty

def join (base p : Path) : Path := if p.isAbsolute then p else { base with parts := base.parts ++ p.parts }

/-- Parts with each double dot taken together with the part before it; at the top it leads nowhere. -/
def resolveParts (done : List String) : List String → List String
  | [] => done.reverse
  | p :: ps => if p = ".." then resolveParts (done.drop 1) ps else resolveParts (p :: done) ps

def resolve (p : Path) : Path := ⟨"/", resolveParts [] p.parts⟩

end Path

end PageStencil.Storage
