import Mathlib.Algebra.Group.Nat.Defs
import Mathlib.Data.List.Induction
import Mathlib.Tactic.Lemma
import PageStencil.Settings

/-!
Numbers from the settings. None has more digits than can be written, so a seed may be written as an identifier.
-/

namespace PageStencil

namespace Text

end Text

namespace Settings

end Settings

end PageStencil
