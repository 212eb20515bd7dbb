/-!
Numbers of double precision: a mantissa below two to the 53rd times a power of two. A quotient becomes the number
nearest to it, and of two equally near ones the one whose mantissa is even; beyond the largest number lies infinity.
-/

namespace PageStencil

inductive Double
  | nan
  | infinite (negative : Bool)
  | finite (negative : Bool) (mantissa : Nat) (exponent : Int)
  deriving DecidableEq, Inhabited, Repr

namespace Double

def leastExponent : Int := -1074
def greatestExponent : Int := 971
def mantissaBits : Nat := 53
def mantissaLimit : Nat := Nat.pow 2 mantissaBits

def roundDiv (n d : Nat) : Nat :=
  let q := n / d
  let r := n % d
  if 2 * r < d then q
  else if d < 2 * r then q + 1
  else q + q % 2

def scaledDown (base n d : Nat) (e : Int) : Nat × Nat :=
  if 0 ≤ e then (n, d * base.pow e.toNat) else (n * base.pow (-e).toNat, d)

def floorLog2 (n d : Nat) : Int :=
  let e : Int := n.log2 - d.log2
  let (a, b) := scaledDown 2 n d e
  if a < b then e - 1 else e

def ofQuotient (negative : Bool) (n d : Nat) : Double :=
  if n = 0 then finite negative 0 leastExponent
  else
    let exponent := max leastExponent (floorLog2 n d + 1 - mantissaBits)
    let (a, b) := scaledDown 2 n d exponent
    let mantissa := roundDiv a b
    let (mantissa, exponent) :=
      if mantissa = mantissaLimit then (mantissaLimit / 2, exponent + 1) else (mantissa, exponent)
    if greatestExponent < exponent then infinite negative else finite negative mantissa exponent

/-- Past this many places before or behind the point a number is infinite or zero whatever its digits. -/
def placeLimit : Int := 400

/-- The number nearest to a decimal one, which is `digits` times a power of ten. -/
def ofDecimal (negative : Bool) (digits : List Nat) (scale : Int) : Double :=
  let digits := digits.dropWhile (· == 0)
  let places := digits.length + scale
  if digits.isEmpty || places < -placeLimit then ofQuotient negative 0 1
  else if placeLimit < places then infinite negative
  else
    let value := digits.foldl (fun n d => 10 * n + d) 0
    let (n, d) := scaledDown 10 value 1 (-scale)
    ofQuotient negative n d

def isFinite : Double → Bool
  | finite _ _ _ => true
  | _ => false

def whole? : Double → Option Int
  | finite negative mantissa exponent =>
    let (n, d) := scaledDown 2 mantissa 1 (-exponent)
    if n % d = 0 then
      let size : Int := (n / d : Nat)
      some (if negative then -size else size)
    else none
  | _ => none

end Double

end PageStencil
