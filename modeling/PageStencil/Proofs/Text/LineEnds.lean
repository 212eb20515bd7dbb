import Mathlib.Tactic.Lemma
import PageStencil.Text.Line

namespace PageStencil.Text

def ReturnsPaired (s : List Char) : Prop := ∀ i < s.length, s[i]? = some '\r' → s[i + 1]? = some '\n'

instance (s : List Char) : Decidable (ReturnsPaired s) := Nat.decidableBallLT _ _

variable {s : List Char}

lemma returnsPaired_cons {c : Char} : ReturnsPaired (c :: s) ↔ (c = '\r' → s.head? = some '\n') ∧ ReturnsPaired s := by
  constructor
  · intro h
    refine ⟨fun hc => ?_, fun i hi hs => h (i + 1) (Nat.succ_lt_succ hi) hs⟩
    rw [List.head?_eq_getElem?]
    exact h 0 (Nat.zero_lt_succ _) (congrArg some hc)
  · rintro ⟨hc, h⟩ i hi hs
    cases i with
    | zero =>
      rw [List.getElem?_cons_succ, ← List.head?_eq_getElem?]
      exact hc (Option.some.inj hs)
    | succ i => exact h i (Nat.lt_of_succ_lt_succ hi) hs

theorem lines_unifyLineEnds (h : ReturnsPaired s) : lines (unifyLineEnds s) = lines s := by
  fun_induction unifyLineEnds s with
  | case1 => rfl
  | case2 s ih =>
    have hs := (returnsPaired_cons.mp (returnsPaired_cons.mp h).2).2
    simp only [lines, ih hs]
  | case3 s hnext =>
    -- A carriage return that stands alone.
    cases s with
    | nil => cases (returnsPaired_cons.mp h).1 rfl
    | cons c s => exact absurd (congrArg (· :: s) (Option.some.inj ((returnsPaired_cons.mp h).1 rfl))) (hnext s)
  | case4 c s _ hc ih =>
    have hs := ih (returnsPaired_cons.mp h).2
    by_cases hfeed : c = '\n'
    · subst hfeed
      simp only [lines, hs]
    · have hlines : ∀ t : List Char, lines (c :: t) = consLine c (lines t) := by
        intro t
        rw [lines]
        · rintro _ rfl
          exact fun _ => hc rfl
        · exact hfeed
      rw [hlines, hlines, hs]

end PageStencil.Text
