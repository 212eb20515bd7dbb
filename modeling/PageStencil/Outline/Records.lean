import PageStencil.Outline.Reading

namespace PageStencil.Outline

def dedentRecord (steps line : Nat) : String := "Dedent by " ++ toString steps ++ " level(s) at line " ++ toString line

def Margin.leaves? (m : Margin) (indentation : Nat) : Option Nat :=
  match m.current, m.unit with
  | some current, some unit => if indentation < current then some ((current - indentation) / unit) else none
  | _, _ => none

def recordsFrom (strict : Bool) (d : Draft) : List (Nat × List Char) → List String
  | [] => []
  | (n, line) :: lines =>
    match Lexeme.ofLine (some n) line with
    | .error _ => []
    | .ok l =>
      match d.place strict l with
      | .error _ => []
      | .ok d' =>
        ((d.margin.leaves? l.indentation).map fun steps => dedentRecord steps n).toList ++ recordsFrom strict d' lines

def records (strict : Bool) (text : String) : List String := recordsFrom strict {} (numberedLines text.toList)

end PageStencil.Outline
