import Mathlib.Tactic.Lemma
import PageStencil.Text.Blank

/-!
Trimming as a relation: the trimmed text is the one stretch of a text that has no blank at either end and only
blanks around it. A text that is blank throughout trims to nothing.
-/

namespace PageStencil.Text

structure Tight (t : List Char) : Prop where
  head : ∀ c ∈ t.head?, isBlank c = false
  last : ∀ c ∈ t.getLast?, isBlank c = false

structure Trims (s t : List Char) : Prop where
  tight : Tight t
  split : ∃ a b, (∀ c ∈ a, isBlank c = true) ∧ (∀ c ∈ b, isBlank c = true) ∧ s = a ++ t ++ b

lemma Trims.mem {s t : List Char} (h : Trims s t) {c : Char} (hc : c ∈ t) : c ∈ s := by
  obtain ⟨_, a, b, _, _, rfl⟩ := h
  simp [hc]

lemma dropWhile_head {s : List Char} : ∀ c ∈ (s.dropWhile isBlank).head?, isBlank c = false := by
  intro c hc
  have h := List.head?_dropWhile_not isBlank s
  rw [Option.mem_def.mp hc] at h
  exact h

lemma Tight.reverse {t : List Char} (h : Tight t) : Tight t.reverse where
  head := by simpa using h.last
  last := by simpa using h.head

lemma trimLeft_eq_self {t : List Char} (h : ∀ c ∈ t.head?, isBlank c = false) : trimLeft t = t := by
  cases t with
  | nil => rfl
  | cons c t => exact List.dropWhile_cons_of_neg (by simpa using h)

lemma trimLeft_append {a s : List Char} (h : ∀ c ∈ a, isBlank c = true) : trimLeft (a ++ s) = trimLeft s :=
  List.dropWhile_append_of_pos h

lemma trimRight_append {s b : List Char} (h : ∀ c ∈ b, isBlank c = true) : trimRight (s ++ b) = trimRight s := by
  have hr : ∀ c ∈ b.reverse, isBlank c = true := by simpa using h
  simp only [trimRight, List.reverse_append, List.dropWhile_append_of_pos hr]

lemma trimRight_eq_self {t : List Char} (h : Tight t) : trimRight t = t := by
  have hr : t.reverse.dropWhile isBlank = t.reverse := trimLeft_eq_self h.reverse.head
  rw [trimRight, hr, List.reverse_reverse]

lemma trimLeft_split (s : List Char) : ∃ a, (∀ c ∈ a, isBlank c = true) ∧ s = a ++ trimLeft s :=
  ⟨s.takeWhile isBlank, fun _ hc => List.all_eq_true.mp List.all_takeWhile _ hc, List.takeWhile_append_dropWhile.symm⟩

lemma trimRight_split (s : List Char) : ∃ b, (∀ c ∈ b, isBlank c = true) ∧ s = trimRight s ++ b := by
  obtain ⟨b, hb, hs⟩ := trimLeft_split s.reverse
  refine ⟨b.reverse, by simpa using hb, ?_⟩
  have h := congrArg List.reverse hs
  rwa [List.reverse_reverse, List.reverse_append] at h

lemma trimRight_head {s : List Char} (h : ∀ c ∈ s.head?, isBlank c = false) :
    ∀ c ∈ (trimRight s).head?, isBlank c = false := by
  obtain ⟨b, _, hs⟩ := trimRight_split s
  intro c hc
  apply h c
  rw [hs, List.head?_append, Option.mem_def.mp hc]
  rfl

theorem trims_trim (s : List Char) : Trims s (trim s) := by
  obtain ⟨a, ha, hs⟩ := trimLeft_split s
  obtain ⟨b, hb, hl⟩ := trimRight_split (trimLeft s)
  refine ⟨⟨trimRight_head dropWhile_head, ?_⟩, a, b, ha, hb, ?_⟩
  · intro c hc
    rw [trim, trimRight, List.getLast?_reverse] at hc
    exact dropWhile_head c hc
  · rw [trim, List.append_assoc, ← hl]
    exact hs

lemma trim_of_blank {s : List Char} (h : ∀ c ∈ s, isBlank c = true) : trim s = [] := by
  have hl : trimLeft s = [] := by simpa [trimLeft] using trimLeft_append (s := []) h
  rw [trim, hl]
  rfl

theorem trims_iff {s t : List Char} : Trims s t ↔ trim s = t := by
  constructor
  · rintro ⟨ht, a, b, ha, hb, rfl⟩
    cases t with
    | nil =>
      apply trim_of_blank
      intro c hc
      rw [List.append_nil] at hc
      exact (List.mem_append.mp hc).elim (ha c) (hb c)
    | cons c t =>
      have hl : trimLeft (c :: t ++ b) = c :: t ++ b := trimLeft_eq_self ht.head
      rw [trim, List.append_assoc, trimLeft_append ha, hl, trimRight_append hb]
      exact trimRight_eq_self ht
  · rintro rfl
    exact trims_trim s

lemma tight_iff {t : List Char} : Tight t ↔ trim t = t := by
  constructor
  · intro h
    exact trims_iff.mp ⟨h, [], [], by simp, by simp, by simp⟩
  · intro h
    exact (trims_iff.mpr h).tight

end PageStencil.Text
