/-!
Surrogates: code points that halve a character and are none themselves. No text of characters holds one, but what is
read may name one by itself. It is then worked on with a stand-in for each surrogate that it names, a character that it
does not hold, and a text with stand-ins cannot be encoded.
-/

namespace PageStencil.Text

def isSurrogate (n : Nat) : Bool := 0xD800 ≤ n && n < 0xE000

def isHighSurrogate (n : Nat) : Bool := 0xD800 ≤ n && n < 0xDC00
def isLowSurrogate (n : Nat) : Bool := 0xDC00 ≤ n && n < 0xE000

def joinSurrogates (high low : Nat) : Char := Char.ofNat (0x10000 + (high - 0xD800) * 0x400 + (low - 0xDC00))

structure Surrogate where
  number : Nat
  halves : isSurrogate number = true
  deriving DecidableEq, Repr

inductive CodePoint
  | char (c : Char)
  | surrogate (u : Surrogate)
  deriving DecidableEq, Repr

namespace CodePoint

def ofNat (n : Nat) : CodePoint := if h : isSurrogate n = true then surrogate ⟨n, h⟩ else char (Char.ofNat n)

def char? : CodePoint → Option Char
  | char c => some c
  | surrogate _ => none

def surrogate? : CodePoint → Option Surrogate
  | char _ => none
  | surrogate u => some u

end CodePoint

/-- Characters with the surrogates that they stand for. -/
abbrev StandIns := List (Char × Surrogate)

/-- What may stand in for a surrogate: the characters that are as far above a multiple of `0x800` as it is itself. The
last of them, which are for private use, come first. No two surrogates have one in common. -/
def Surrogate.candidates (u : Surrogate) : List Char :=
  (List.range 512).map fun k => Char.ofNat (0x10F800 - 0x800 * k + (u.number - 0xD800))

def replacement : Char := '\uFFFD'

def Surrogate.standIn (u : Surrogate) (taken : List Char) : Char :=
  (u.candidates.find? fun c => !taken.contains c).getD replacement

namespace StandIns

def choose (us : List Surrogate) (taken : List Char) : StandIns := us.map fun u => (u.standIn taken, u)

def char (t : StandIns) (u : Surrogate) : Char := ((t.find? fun e => e.2 = u).map Prod.fst).getD replacement

def spell (t : StandIns) : CodePoint → Char
  | .char c => c
  | .surrogate u => t.char u

end StandIns

structure SurrogateRun where
  position : Nat
  first : Surrogate
  length : Nat
  deriving DecidableEq, Repr

def surrogateRunFrom? (t : StandIns) (position : Nat) : List Char → Option SurrogateRun
  | [] => none
  | c :: s =>
    match t.lookup c with
    | some u => some ⟨position, u, (s.takeWhile fun d => (t.lookup d).isSome).length + 1⟩
    | none => surrogateRunFrom? t (position + 1) s

def surrogateRun? (t : StandIns := []) (s : String) : Option SurrogateRun := surrogateRunFrom? t 0 s.toList

@[simp] theorem surrogateRunFrom?_nil (position : Nat) (s : List Char) : surrogateRunFrom? [] position s = none := by
  induction s generalizing position with
  | nil => rfl
  | cons c s ih => exact ih (position + 1)

@[simp] theorem surrogateRun?_nil (s : String) : surrogateRun? [] s = none := surrogateRunFrom?_nil 0 s.toList

end PageStencil.Text
