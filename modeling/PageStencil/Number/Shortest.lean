import PageStencil.Number.Double

/-!
The shortest text of a number: the fewest decimal digits that no other number of double precision is nearer to, and
of those the nearest to the number itself. Numbers from a ten-thousandth up to ten to the 16th have a point and at least
one digit on either side of it; others have an exponent.
-/

namespace PageStencil.Double

/-- The numbers that round to a given one lie between two ends, all told over one denominator. -/
structure Surrounding where
  value : Nat
  low : Nat
  high : Nat
  denominator : Nat
  closed : Bool

def surrounding (mantissa : Nat) (exponent : Int) : Surrounding :=
  let below := if mantissa = mantissaLimit / 2 && leastExponent < exponent then 1 else 2
  let (unit, denominator) := scaledDown 2 1 1 (2 - exponent)
  ⟨4 * mantissa * unit, (4 * mantissa - below) * unit, (4 * mantissa + 2) * unit, denominator, mantissa % 2 = 0⟩

def Surrounding.holds (s : Surrounding) (n d : Nat) : Bool :=
  let low := s.low * d
  let high := s.high * d
  let x := n * s.denominator
  if s.closed then low ≤ x && x ≤ high else low < x && x < high

def powerAbove (n d : Nat) : Nat → Int → Int
  | 0, e => e
  | fuel + 1, e =>
    let (a, b) := scaledDown 10 n d e
    if a < b then e else powerAbove n d fuel (e + 1)

/-- The multiple of a power of ten nearest to the number, if it rounds to the number. -/
def Surrounding.multiple? (s : Surrounding) (power : Int) : Option Nat :=
  let (a, b) := scaledDown 10 s.value s.denominator power
  let below := a / b
  let candidates := if 2 * (a % b) < b then [below, below + 1]
    else if b < 2 * (a % b) then [below + 1, below]
    else if below % 2 = 0 then [below, below + 1] else [below + 1, below]
  candidates.find? fun c =>
    let (n, d) := scaledDown 10 c 1 (-power)
    s.holds n d

def Surrounding.digits (s : Surrounding) (top : Int) : Nat → Nat → Nat × Int
  | 0, _ => (s.value, 0)
  | fuel + 1, count =>
    match s.multiple? (top - count) with
    | some m => (m, top - count)
    | none => s.digits top fuel (count + 1)

def shortest (mantissa : Nat) (exponent : Int) : List Char × Int :=
  let s := surrounding mantissa exponent
  let top := powerAbove s.value s.denominator 800 (-400)
  let (m, power) := s.digits top 17 1
  let written := Nat.toDigits 10 m
  let kept := (written.reverse.dropWhile (· == '0')).reverse
  (kept, written.length + power)

def zeros (n : Int) : List Char := List.replicate n.toNat '0'

def exponentText (e : Int) : List Char :=
  let digits := Nat.toDigits 10 e.natAbs
  'e' :: (if e < 0 then '-' else '+') :: zeros (2 - digits.length) ++ digits

def layOut (digits : List Char) (point : Int) : List Char :=
  if point ≤ -4 || 16 < point then
    match digits with
    | [d] => d :: exponentText (point - 1)
    | d :: ds => d :: '.' :: ds ++ exponentText (point - 1)
    | [] => []
  else if point ≤ 0 then '0' :: '.' :: zeros (-point) ++ digits
  else if digits.length ≤ point then digits ++ zeros (point - digits.length) ++ ['.', '0']
  else digits.take point.toNat ++ '.' :: digits.drop point.toNat

def write (notANumber infinity : String) : Double → List Char
  | nan => notANumber.toList
  | infinite negative => (if negative then ['-'] else []) ++ infinity.toList
  | finite negative mantissa exponent =>
    let (digits, point) := if mantissa = 0 then (['0'], 1) else shortest mantissa exponent
    (if negative then ['-'] else []) ++ layOut digits point

end PageStencil.Double
