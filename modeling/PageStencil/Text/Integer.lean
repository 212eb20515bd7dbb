import PageStencil.Text.Blank
import PageStencil.Text.DecimalDigit

/-!
Integers as they are written in settings: blanks around, a sign, and decimal digits of any script with single
underscores between them. No number has more digits than a fixed limit, zeros in front included; a number beyond it
is refused even if what follows it is no number.
-/

namespace PageStencil.Text

def digitLimit : Nat := 4300

def leastTooLong : Nat := Nat.pow 10 digitLimit

inductive IntegerFault
  | malformed
  | tooLong (digits : Nat)
  deriving DecidableEq, Repr

def isPadding (c : Char) : Bool := isBlank c && !(0x1C ≤ c.toNat && c.toNat ≤ 0x1F)

def unpad (s : List Char) : List Char :=
  ((s.dropWhile isPadding).reverse.dropWhile isPadding).reverse

def leadingDigits? (behindDigit : Bool) : List Char → Option (List Nat × List Char)
  | [] => if behindDigit then some ([], []) else none
  | c :: s =>
    match digit? c with
    | some d => (leadingDigits? true s).map fun (ds, r) => (d :: ds, r)
    | none =>
      if !behindDigit then none
      else if c = '_' then leadingDigits? false s
      else some ([], c :: s)

def valueOfDigits (ds : List Nat) : Nat := ds.foldl (fun n d => 10 * n + d) 0

def natural (s : List Char) : Except IntegerFault Nat :=
  match leadingDigits? false s with
  | none => .error .malformed
  | some (ds, r) =>
    if digitLimit < ds.length then .error (.tooLong ds.length)
    else if r.isEmpty then .ok (valueOfDigits ds)
    else .error .malformed

def integer (s : List Char) : Except IntegerFault Int :=
  match unpad s with
  | '-' :: ds => (natural ds).map fun n => -(n : Int)
  | '+' :: ds => (natural ds).map fun n => (n : Int)
  | ds => (natural ds).map fun n => (n : Int)

end PageStencil.Text
