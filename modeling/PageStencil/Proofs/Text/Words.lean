import Mathlib.Data.List.Basic
import Mathlib.Tactic.Lemma
import PageStencil.Text.Blank

namespace PageStencil.Text

def IsWord (w : String) : Prop := wordsOf w = [w]

instance (w : String) : Decidable (IsWord w) := inferInstanceAs (Decidable (_ = _))

section Stretches

variable {s : List Char} {c : Char}

lemma stretches_eq_splitOnP (s : List Char) : stretches s = s.splitOnP isBlank := by
  induction s with
  | nil => simp [stretches]
  | cons c s ih =>
    obtain ⟨w, ws, hs⟩ := List.exists_cons_of_ne_nil (List.splitOnP_ne_nil isBlank s)
    rw [List.splitOnP_cons_eq_if_modifyHead, stretches, ih, hs]
    rfl

lemma words_append (hc : isBlank c = true) (s t : List Char) : words (s ++ c :: t) = words s ++ words t := by
  simp only [words, stretches_eq_splitOnP, List.splitOnP_append_cons s t hc, List.filter_append]

lemma words_of_no_blank (hs : s ≠ []) (h : ∀ c ∈ s, isBlank c = false) : words s = [s] := by
  rw [words, stretches_eq_splitOnP, List.splitOnP_eq_singleton h]
  simp [hs]

lemma words_eq_cons (hs : s ≠ []) (h : ∀ c ∈ s.head?, isBlank c = false) :
    ∃ ws, words s = s.takeWhile (!isBlank ·) :: ws := by
  have hne : s.takeWhile (!isBlank ·) ≠ [] := by
    obtain ⟨c, s, rfl⟩ := List.exists_cons_of_ne_nil hs
    simp [h c rfl]
  have hno : ∀ c ∈ s.takeWhile (!isBlank ·), isBlank c = false := fun c hc => by
    simpa using List.all_eq_true.mp List.all_takeWhile c hc
  have hsplit := List.takeWhile_append_dropWhile (p := (!isBlank ·)) (l := s)
  cases hrest : s.dropWhile (!isBlank ·) with
  | nil =>
    rw [hrest, List.append_nil] at hsplit
    exact ⟨[], by rw [hsplit] at hne hno ⊢; exact words_of_no_blank hne hno⟩
  | cons c rest =>
    have hc : isBlank c = true := by
      have hhead := List.head?_dropWhile_not (!isBlank ·) s
      rw [hrest] at hhead
      simpa using hhead
    refine ⟨words rest, ?_⟩
    conv_lhs => rw [← hsplit, hrest, words_append hc, words_of_no_blank hne hno]
    rfl

end Stretches

section Words

variable {w s : String} {ws : List String}

lemma isWord_of_mem (h : w ∈ wordsOf s) : IsWord w := by
  obtain ⟨l, hl, rfl⟩ := List.mem_map.mp h
  rw [IsWord, wordsOf, String.toList_ofList, words_of_no_blank (words_ne_nil hl) (words_no_blank hl)]
  rfl

lemma IsWord.solid (h : IsWord w) : w ≠ "" ∧ ∀ c ∈ w.toList, isBlank c = false := by
  have hm : w ∈ wordsOf w := h ▸ List.mem_singleton_self w
  obtain ⟨l, hl, rfl⟩ := List.mem_map.mp hm
  rw [String.toList_ofList]
  exact ⟨fun hempty => words_ne_nil hl (String.ofList_eq_empty_iff.mp hempty), words_no_blank hl⟩

lemma flatMap_wordsOf (h : ∀ w ∈ ws, IsWord w) : ws.flatMap wordsOf = ws := by
  rw [List.flatMap_congr fun w hw => h w hw, List.flatMap_singleton']

lemma wordsOf_append_space (s t : String) : wordsOf (s ++ " " ++ t) = wordsOf s ++ wordsOf t := by
  have hlist : (s ++ " " ++ t).toList = s.toList ++ ' ' :: t.toList := by simp
  rw [wordsOf, hlist, words_append (by decide), List.map_append]
  rfl

theorem wordsOf_intercalate (ws : List String) : wordsOf (" ".intercalate ws) = ws.flatMap wordsOf := by
  induction ws with
  | nil => rfl
  | cons w ws ih =>
    cases ws with
    | nil => simp
    | cons v vs => rw [String.intercalate_cons_cons, wordsOf_append_space, ih, ← List.flatMap_cons]

lemma wordsOf_intercalate_words (h : ∀ w ∈ ws, IsWord w) : wordsOf (" ".intercalate ws) = ws :=
  (wordsOf_intercalate ws).trans (flatMap_wordsOf h)

end Words

end PageStencil.Text
