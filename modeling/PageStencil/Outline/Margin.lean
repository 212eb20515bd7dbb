import PageStencil.Outline.Fault

/-!
Indentation read as nesting. The first increase of the indentation fixes the unit. A deeper line goes below the
latest item; a shallower one leaves as many levels as its decrease holds units. A decrease that is not a whole
number of units is refused in strict mode and rounded down in lenient mode.
-/

namespace PageStencil.Outline

/-- Where the next item goes: its depth, the indentation of the line before, the unit once an increase has fixed
it, and the depth of the latest item. -/
structure Margin where
  depth : Nat := 0
  current : Option Nat := none
  unit : Option Nat := none
  latest : Option Nat := none
  deriving DecidableEq, Repr

namespace Margin

/-- The margin after a line of some indentation, and whether that line opens a list below the latest item. -/
def move (strict : Bool) (m : Margin) (indentation : Nat) : Except Cause (Margin × Bool) :=
  match m.current with
  | none => .ok ({ m with current := some indentation }, false)
  | some current =>
    if current < indentation then
      match m.latest with
      | none => .error .orphan
      | some latest =>
        .ok ({ m with
          depth := latest + 1
          current := some indentation
          unit := some (m.unit.getD (indentation - current)) }, true)
    else if indentation < current then
      match m.unit with
      | none => .error .noLevel
      | some unit =>
        let drop := current - indentation
        if strict ∧ drop % unit ≠ 0 then .error (.uneven unit)
        else if m.depth < drop / unit then .error .aboveTop
        else .ok ({ m with depth := m.depth - drop / unit, current := some indentation }, false)
    else .ok (m, false)

def addItem (m : Margin) : Margin := { m with latest := some m.depth }

end Margin

end PageStencil.Outline
