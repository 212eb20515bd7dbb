import PageStencil.Text.Quoted

namespace PageStencil.Outline

inductive Cause
  | noMarker
  | badStart (found : Char)
  | badLink (found : Char)
  | orphan
  | noLevel
  | uneven (unit : Nat)
  | aboveTop
  deriving DecidableEq, Repr

def Cause.isStructural : Cause → Bool
  | noMarker | badStart _ | badLink _ => false
  | orphan | noLevel | uneven _ | aboveTop => true

def Cause.message : Cause → String
  | noMarker => "Line has no list marker"
  | badStart c => "Unsupported markdown, expected '#' or '-' but found " ++ Text.quoted (String.singleton c)
  | badLink c => "Unsupported markdown, expected '(' after link text but found " ++ Text.quoted (String.singleton c)
  | orphan => "Indented line has no parent item"
  | noLevel => "Dedent without an enclosing level"
  | uneven unit => "Indentation is not a multiple of the " ++ toString unit ++ "-column unit"
  | aboveTop => "Dedent goes past the top level"

/-- Columns count from zero here and from one in the message. -/
structure Fault where
  cause : Cause
  line : String
  number : Option Int
  column : Option Nat
  deriving DecidableEq, Repr

def Fault.place (f : Fault) : String :=
  (match f.number with
    | some n => "line " ++ toString n
    | none => "line") ++
  match f.column with
    | some c => ", column " ++ toString (c + 1)
    | none => ""

def Fault.message (f : Fault) : String :=
  f.cause.message ++ " (" ++ f.place ++ ": " ++ Text.quoted f.line ++ ")"

end PageStencil.Outline
