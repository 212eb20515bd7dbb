import Mathlib.Tactic.Lemma
import PageStencil.Text.Blank
import PageStencil.Text.Line

/-!
Lines put together to a text, each line end spelled in either way. Taking the lines of the text gives them back,
but for a carriage return at the end of a line that was joined by a line feed alone.
-/

namespace PageStencil.Text

inductive JoinsTo : List (List Char) → List Char → Prop
  | last {l} : '\n' ∉ l → JoinsTo [l] l
  | lf {l ls s} : '\n' ∉ l → JoinsTo ls s → JoinsTo (l :: ls) (l ++ '\n' :: s)
  | crlf {l ls s} : '\n' ∉ l → JoinsTo ls s → JoinsTo (l :: ls) (l ++ '\r' :: '\n' :: s)

def isWritten (l : List Char) : Bool := !allBlank l

lemma lines_cons {c : Char} {s : List Char} (hc : c ≠ '\n') (hr : c = '\r' → s.head? ≠ some '\n') :
    lines (c :: s) = consLine c (lines s) := by
  rw [lines.eq_4]
  · rintro t rfl rfl
    exact hr rfl rfl
  · exact hc

lemma lines_crlf {l s : List Char} (h : '\n' ∉ l) : lines (l ++ '\r' :: '\n' :: s) = l :: lines s := by
  induction l with
  | nil => rfl
  | cons c l ih =>
    rw [List.mem_cons, not_or] at h
    rw [List.cons_append, lines_cons (Ne.symm h.1), ih h.2, consLine]
    intro _ hl
    cases l with
    | nil => simp at hl
    | cons d l => simp_all

lemma lines_lf {l s : List Char} (h : '\n' ∉ l) (hr : l.getLast? ≠ some '\r') :
    lines (l ++ '\n' :: s) = l :: lines s := by
  induction l with
  | nil => rfl
  | cons c l ih =>
    rw [List.mem_cons, not_or] at h
    have hl : l.getLast? ≠ some '\r' := by
      cases l with
      | nil => simp
      | cons d l => simpa using hr
    rw [List.cons_append, lines_cons (Ne.symm h.1), ih h.2 hl, consLine]
    rintro rfl hd
    cases l with
    | nil => simp at hr
    | cons d l => simp_all

lemma lines_last {l : List Char} (h : '\n' ∉ l) : lines l = [l] := by
  induction l with
  | nil => rfl
  | cons c l ih =>
    rw [List.mem_cons, not_or] at h
    rw [lines_cons (Ne.symm h.1), ih h.2, consLine]
    intro _ hl
    exact h.2 (List.mem_of_head? hl)

lemma mem_lines_ne {s l : List Char} (h : l ∈ lines s) : '\n' ∉ l := by
  fun_induction lines s generalizing l with
  | case1 => simp_all
  | case2 s ih =>
    rcases List.mem_cons.mp h with rfl | h
    · simp
    · exact ih h
  | case3 s ih =>
    rcases List.mem_cons.mp h with rfl | h
    · simp
    · exact ih h
  | case4 c s _ hc ih =>
    cases hs : lines s with
    | nil => exact absurd hs (lines_ne_nil s)
    | cons k ks =>
      rw [hs] at h ih
      rcases List.mem_cons.mp h with rfl | h
      · have hk := ih List.mem_cons_self
        simp_all [eq_comm]
      · exact ih (List.mem_cons_of_mem _ h)

lemma isWritten_concat {l : List Char} : isWritten (l ++ ['\r']) = isWritten l := by
  have h : isBlank '\r' = true := by decide
  simp [isWritten, allBlank, h]

theorem written_lines {ls : List (List Char)} {s : List Char} (h : JoinsTo ls s)
    (hr : ∀ l ∈ ls, isWritten l = true → l.getLast? ≠ some '\r') :
    (lines s).filter isWritten = ls.filter isWritten := by
  induction h with
  | last hl => rw [lines_last hl]
  | @lf l ls s hl _ ih =>
    have hs := ih fun k hk => hr k (List.mem_cons_of_mem _ hk)
    by_cases he : l.getLast? = some '\r'
    · -- the carriage return goes to the line end, and what is left of a blank line is blank
      obtain ⟨k, rfl⟩ := List.getLast?_eq_some_iff.mp he
      have hb : isWritten (k ++ ['\r']) = false :=
        Bool.eq_false_iff.mpr fun hw => hr _ List.mem_cons_self hw he
      have hk : '\n' ∉ k := fun hm => hl (List.mem_append_left _ hm)
      rw [List.append_assoc, List.cons_append, List.nil_append, lines_crlf hk, List.filter_cons, List.filter_cons, hs,
        ← isWritten_concat (l := k)]
      simp [hb]
    · rw [lines_lf hl he, List.filter_cons, List.filter_cons, hs]
  | crlf hl _ ih =>
    have hs := ih fun k hk => hr k (List.mem_cons_of_mem _ hk)
    rw [lines_crlf hl, List.filter_cons, List.filter_cons, hs]

end PageStencil.Text
