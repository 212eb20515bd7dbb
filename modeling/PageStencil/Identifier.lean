import PageStencil.Text.Integer

/-!
Identifiers from a counter. Each takes one value of the counter, so no two of an allocator are the same number. The
first value is the seed, or the configured one, or drawn by lot. A value with too many digits is used up, but gives
no identifier.
-/

namespace PageStencil

/-- `taken` values have been given out, `first` before all others. -/
structure Allocator where
  first : Int
  taken : Nat := 0
  deriving DecidableEq, Inhabited, Repr

namespace Allocator

def lowestDraw : Int := 1000
def highestDraw : Int := 99999

def ofDraw (lot : Nat) : Int := lowestDraw + lot % (highestDraw - lowestDraw + 1)

def start (seed configured : Option Int) (lot : Nat) : Allocator :=
  ⟨(seed <|> configured).getD (ofDraw lot), 0⟩

def peek (a : Allocator) : Option Int := if a.taken = 0 then none else some (a.first + a.taken)

def value (a : Allocator) : Int := a.first + a.taken

def next? (a : Allocator) (kind : String) : Option String × Allocator :=
  (if Text.leastTooLong ≤ a.value.natAbs then none else some (kind ++ "-" ++ toString a.value),
    { a with taken := a.taken + 1 })

@[simp] theorem value_next? (a : Allocator) (kind : String) : (a.next? kind).2.value = a.value + 1 := by
  simp only [next?, value]
  omega

@[simp] theorem peek_next? (a : Allocator) (kind : String) : (a.next? kind).2.peek = some (a.value + 1) := by
  simp only [next?, peek, value, Nat.add_one_ne_zero, if_false, Option.some.injEq]
  omega

theorem ofDraw_mem (lot : Nat) : lowestDraw ≤ ofDraw lot ∧ ofDraw lot ≤ highestDraw := by
  simp only [ofDraw, lowestDraw, highestDraw]
  omega

end Allocator

end PageStencil
