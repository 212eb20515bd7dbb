import Mathlib.Tactic.Lemma
import PageStencil.Outline.Lexeme

namespace PageStencil.Outline

open Text

def numberedFrom (n : Nat) (ls : List (List Char)) : List (Nat × List Char) :=
  (ls.zipIdx n).filterMap fun (line, n) => if allBlank line then none else some (n, line)

variable {n : Nat} {l : List Char} {ls ks : List (List Char)}

lemma numberedFrom_blank (h : allBlank l = true) : numberedFrom n (l :: ls) = numberedFrom (n + 1) ls := by
  simp [numberedFrom, h]

lemma numberedFrom_written (h : allBlank l = false) :
    numberedFrom n (l :: ls) = (n, l) :: numberedFrom (n + 1) ls := by
  simp [numberedFrom, h]

lemma numberedFrom_append : numberedFrom n (ls ++ ks) = numberedFrom n ls ++ numberedFrom (n + ls.length) ks := by
  rw [numberedFrom, List.zipIdx_append, List.filterMap_append, Nat.add_comm]
  rfl

lemma le_of_mem_numberedFrom {line : Nat × List Char} (h : line ∈ numberedFrom n ls) : n ≤ line.1 := by
  induction ls generalizing n with
  | nil => cases h
  | cons l ls ih =>
    cases hl : allBlank l with
    | true =>
      rw [numberedFrom_blank hl] at h
      exact Nat.le_of_succ_le (ih h)
    | false =>
      rw [numberedFrom_written hl] at h
      rcases List.mem_cons.mp h with rfl | h
      · exact Nat.le_refl n
      · exact Nat.le_of_succ_le (ih h)

theorem numberedFrom_split {before after : List (Nat × List Char)} {k : Nat}
    (h : numberedFrom n ls = before ++ (k, l) :: after) :
    ∃ front back, ls = front ++ l :: back ∧ k = n + front.length ∧ allBlank l = false ∧
      before = numberedFrom n front ∧ after = numberedFrom (k + 1) back := by
  induction ls generalizing n before with
  | nil => simp [numberedFrom] at h
  | cons a ls ih =>
    cases ha : allBlank a with
    | true =>
      rw [numberedFrom_blank ha] at h
      obtain ⟨front, back, rfl, rfl, hl, rfl, rfl⟩ := ih h
      refine ⟨a :: front, back, rfl, ?_, hl, (numberedFrom_blank ha).symm, rfl⟩
      rw [List.length_cons]
      omega
    | false =>
      rw [numberedFrom_written ha] at h
      cases before with
      | nil =>
        rw [List.nil_append, List.cons.injEq, Prod.mk.injEq] at h
        obtain ⟨⟨rfl, rfl⟩, rfl⟩ := h
        exact ⟨[], ls, rfl, rfl, ha, rfl, rfl⟩
      | cons b before =>
        rw [List.cons_append, List.cons.injEq] at h
        obtain ⟨rfl, h⟩ := h
        obtain ⟨front, back, rfl, rfl, hl, rfl, rfl⟩ := ih h
        refine ⟨a :: front, back, rfl, ?_, hl, (numberedFrom_written ha).symm, rfl⟩
        rw [List.length_cons]
        omega

lemma le_of_mem_behind {before after : List (Nat × List Char)} {line other : Nat × List Char}
    (h : numberedFrom n ls = before ++ line :: after) (ho : other ∈ line :: after) : line.1 ≤ other.1 := by
  obtain ⟨_, _, _, _, _, _, rfl⟩ := numberedFrom_split h
  rcases List.mem_cons.mp ho with rfl | ho
  · exact Nat.le_refl _
  · exact Nat.le_of_succ_le (le_of_mem_numberedFrom ho)

end PageStencil.Outline
