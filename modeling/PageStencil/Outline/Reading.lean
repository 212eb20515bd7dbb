import PageStencil.Outline.Lexeme
import PageStencil.Outline.Margin
import PageStencil.Outline.Nesting

/-!
Menus from outlines. Lines are taken one at a time, so the first line that cannot be read or placed is the one
that is reported, whatever follows it. The last title wins.
-/

namespace PageStencil.Outline

/-- What the lines so far amount to: the title, the items with the latest first, and the margin. -/
structure Draft where
  title : Option Link := none
  entries : List Entry := []
  margin : Margin := {}
  deriving DecidableEq, Repr

namespace Draft

def openLatest (d : Draft) : Draft :=
  match d.entries with
  | [] => d
  | e :: es => { d with entries := { e with opened := true } :: es }

def addItem (d : Draft) (label : Link) : Draft :=
  { d with entries := ⟨d.margin.depth, label, false⟩ :: d.entries, margin := d.margin.addItem }

def place (strict : Bool) (d : Draft) (l : Lexeme) : Except Cause Draft := do
  let (margin, opens) ← d.margin.move strict l.indentation
  let d := { (if opens then d.openLatest else d) with margin }
  return match l.marker with
    | .title => { d with title := some l.link }
    | .item => d.addItem l.link

def addLine (strict : Bool) (d : Draft) (line : Nat × List Char) : Except Fault Draft := do
  let l ← Lexeme.ofLine (some line.1) line.2
  (d.place strict l).mapError fun cause => ⟨cause, String.ofList line.2, some line.1, some l.indentation⟩

/-- The root carries the title and is always a group. -/
def menu (d : Draft) : Menu := .group d.title none (Entry.nest d.entries.reverse)

end Draft

def lexemes : List (Nat × List Char) → List (Nat × List Char × Lexeme) × Option Fault
  | [] => ([], none)
  | (n, line) :: rest =>
    match Lexeme.ofLine (some n) line with
    | .error f => ([], some f)
    | .ok l =>
      let (ls, f) := lexemes rest
      ((n, line, l) :: ls, f)

def draft (strict : Bool) (text : List Char) : Except Fault Draft :=
  (numberedLines text).foldlM (Draft.addLine strict) {}

def parse (strict : Bool) (text : String) : Except Fault Menu := do
  return (← draft strict text.toList).menu

end PageStencil.Outline
