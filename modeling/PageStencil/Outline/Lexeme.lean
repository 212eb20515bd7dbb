import PageStencil.Menu.Link
import PageStencil.Outline.Fault
import PageStencil.Text.Blank
import PageStencil.Text.Line

/-!
Lines of the outline dialect. A line is indented by spaces and tabs, each one column wide; then comes a marker,
and then a text, part of which may be a link: a label in square brackets and an address in round ones behind it.
What follows the address is not read, and neither bracket has to be closed.
-/

namespace PageStencil.Outline

inductive Marker
  | title
  | item
  deriving DecidableEq, Repr

def Marker.ofChar? : Char → Option Marker
  | '#' => some title
  | '-' => some item
  | _ => none

structure Lexeme where
  indentation : Nat
  marker : Marker
  text : String
  href : Option String
  deriving DecidableEq, Repr

def Lexeme.link (l : Lexeme) : Link where
  text := some l.text
  href := l.href

structure Stop where
  cause : Cause
  column : Option Nat
  deriving DecidableEq, Repr

def scanAddress (done : List Char) : List Char → List Char
  | [] => done.reverse
  | c :: s => if c = ')' then done.reverse else scanAddress (c :: done) s

def scanGap (column : Nat) : List Char → Except Stop (Option (List Char))
  | [] => .ok none
  | c :: s =>
    if Text.isIndent c then scanGap (column + 1) s
    else if c = '(' then .ok (some (scanAddress [] s))
    else .error ⟨.badLink c, some column⟩

/-- Inside the square brackets; the text before them is part of the label. -/
def scanLabel (column : Nat) (done : List Char) : List Char → Except Stop (List Char × Option (List Char))
  | [] => .ok (done.reverse, none)
  | c :: s =>
    if c = ']' then do return (done.reverse, ← scanGap (column + 1) s)
    else scanLabel (column + 1) (c :: done) s

def scanText (column : Nat) (done : List Char) : List Char → Except Stop (List Char × Option (List Char))
  | [] => .ok (done.reverse, none)
  | c :: s =>
    if c = '[' then scanLabel (column + 1) done s
    else scanText (column + 1) (c :: done) s

def scanLine (column : Nat) : List Char → Except Stop Lexeme
  | [] => .error ⟨.noMarker, none⟩
  | c :: s =>
    if Text.isIndent c then scanLine (column + 1) s
    else match Marker.ofChar? c with
      | none => .error ⟨.badStart c, some column⟩
      | some m => do
        let (text, address) ← scanText (column + 1) [] s
        return ⟨column, m, String.ofList (Text.trim text), address.map fun a => String.ofList (Text.trim a)⟩

def Lexeme.ofLine (number : Option Int) (line : List Char) : Except Fault Lexeme :=
  (scanLine 0 line).mapError fun stop => ⟨stop.cause, String.ofList line, number, stop.column⟩

def numberedLines (text : List Char) : List (Nat × List Char) :=
  ((Text.lines text).zipIdx 1).filterMap fun (line, n) => if Text.allBlank line then none else some (n, line)

end PageStencil.Outline
