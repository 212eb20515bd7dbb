import Mathlib.Data.List.Induction
import Mathlib.Data.String.Basic
import PageStencil.Command.Survey

/-!
The tally of a survey: every name once, with the number of times that it appears, the greater numbers first and equal
ones in the order of first appearance.
-/

namespace PageStencil

section Tally

variable {names ks : List String} {name : String}

lemma countName_map (hks : ks.Nodup) {count : String → Nat} (hnew : name ∉ ks → count name = 0) :
    countName (ks.map fun n => (n, count n)) name =
      (ks ++ [name].removeAll ks).map fun n => (n, if n = name then count n + 1 else count n) := by
  induction ks with
  | nil =>
    have hzero := hnew List.not_mem_nil
    simp [countName, List.removeAll, hzero]
  | cons k ks ih =>
    obtain ⟨hk, hks⟩ := List.nodup_cons.mp hks
    rw [List.map_cons, countName]
    split_ifs with h
    · subst h
      have hgone : [k].removeAll (k :: ks) = [] := by simp [List.removeAll]
      have hrest : ∀ n ∈ ks, (n, count n) = (n, if n = k then count n + 1 else count n) := by
        intro n hn
        rw [if_neg (ne_of_mem_of_not_mem hn hk)]
      rw [hgone, List.append_nil, List.map_cons, if_pos rfl, List.map_congr_left hrest]
    · have hsame : [name].removeAll (k :: ks) = [name].removeAll ks := by
        rw [List.removeAll, List.removeAll]
        exact List.filter_congr fun n hn => by simp [List.mem_singleton.mp hn, Ne.symm h]
      rw [ih hks fun hn => hnew (List.not_mem_cons_of_ne_of_not_mem (Ne.symm h) hn), hsame, List.cons_append,
        List.map_cons, if_neg h]

lemma pairwise_eraseDups (names : List String) :
    names.eraseDups.Pairwise fun a b => names.idxOf a < names.idxOf b := by
  induction names using List.reverseRecOn with
  | nil => exact List.Pairwise.nil
  | append_singleton names name ih =>
    have hold : names.eraseDups.Pairwise fun a b => (names ++ [name]).idxOf a < (names ++ [name]).idxOf b := by
      refine ih.imp_of_mem fun {a b} ha hb h => ?_
      rwa [List.idxOf_append_of_mem (List.mem_eraseDups.mp ha), List.idxOf_append_of_mem (List.mem_eraseDups.mp hb)]
    rw [List.eraseDups_append]
    by_cases hname : name ∈ names
    · have hgone : [name].removeAll names = [] := by simp [List.removeAll, hname]
      rwa [hgone, List.eraseDups_nil, List.append_nil]
    · have hnew : ([name].removeAll names).eraseDups = [name] := by simp [List.removeAll, hname, List.eraseDups_cons]
      rw [hnew, List.pairwise_append]
      refine ⟨hold, List.pairwise_singleton _ _, fun a ha b hb => ?_⟩
      have ha := List.mem_eraseDups.mp ha
      rw [List.mem_singleton.mp hb, List.idxOf_append_of_mem ha, List.idxOf_append_of_notMem hname]
      exact Nat.lt_add_right _ (List.idxOf_lt_length_of_mem ha)

lemma nodup_eraseDups (names : List String) : names.eraseDups.Nodup := by
  refine (pairwise_eraseDups names).imp ?_
  rintro a _ h rfl
  exact Nat.lt_irrefl _ h

theorem countNames_eq (names : List String) : countNames names = names.eraseDups.map fun n => (n, names.count n) := by
  induction names using List.reverseRecOn with
  | nil => rfl
  | append_singleton names name ih =>
    have hnew : name ∉ names.eraseDups → names.count name = 0 := fun h =>
      List.count_eq_zero.mpr fun hn => h (List.mem_eraseDups.mpr hn)
    have hkeys : names.eraseDups ++ [name].removeAll names.eraseDups = (names ++ [name]).eraseDups := by
      rw [List.eraseDups_append]
      by_cases hname : name ∈ names <;> simp [List.removeAll, hname, List.eraseDups_cons]
    rw [countNames, List.foldl_append, List.foldl_cons, List.foldl_nil, ← countNames, ih,
      countName_map (nodup_eraseDups names) hnew, hkeys]
    refine List.map_congr_left fun n _ => ?_
    rw [List.count_append, List.count_singleton]
    by_cases h : n = name
    · simp [h]
    · simp [h, Ne.symm h]

lemma pairwise_mergeSort_key {α : Type} {R : α → α → Prop} {l : List α} (key : α → Nat) (h : l.Pairwise R) :
    (l.mergeSort fun a b => key b ≤ key a).Pairwise fun a b => key b < key a ∨ key a = key b ∧ R a b := by
  have htrans : ∀ a b c : α, decide (key b ≤ key a) = true → decide (key c ≤ key b) = true →
      decide (key c ≤ key a) = true := by
    intro a b c hab hbc
    rw [decide_eq_true_eq] at hab hbc ⊢
    exact Nat.le_trans hbc hab
  have htotal : ∀ a b : α, (decide (key b ≤ key a) || decide (key a ≤ key b)) = true := by
    intro a b
    rw [Bool.or_eq_true, decide_eq_true_eq, decide_eq_true_eq]
    exact Nat.le_total _ _
  have hsame : ∀ k, (l.mergeSort fun a b => key b ≤ key a).filter (fun a => key a = k) =
      l.filter fun a => key a = k := by
    intro k
    have hpairwise : (l.filter fun a => key a = k).Pairwise fun a b => decide (key b ≤ key a) = true := by
      refine List.pairwise_of_forall_mem_list fun a ha b hb => ?_
      rw [List.mem_filter, decide_eq_true_eq] at ha hb
      exact decide_eq_true (Nat.le_of_eq (hb.2.trans ha.2.symm))
    have hsub := (List.sublist_mergeSort htrans htotal hpairwise List.filter_sublist).filter fun a => decide (key a = k)
    simp only [List.filter_filter, Bool.and_self] at hsub
    exact (hsub.eq_of_length ((List.mergeSort_perm l _).filter _).length_eq.symm).symm
  rw [List.pairwise_iff_forall_sublist]
  intro a b hab
  have hle := List.pairwise_iff_forall_sublist.mp (List.pairwise_mergeSort htrans htotal l) hab
  rw [decide_eq_true_eq] at hle
  by_cases heq : key a = key b
  · refine Or.inr ⟨heq, List.pairwise_iff_forall_sublist.mp h ?_⟩
    have hboth : [a, b].filter (fun c => decide (key c = key b)) = [a, b] := by simp [heq]
    have hfilter := hab.filter fun c => decide (key c = key b)
    rw [hsame, hboth] at hfilter
    exact hfilter.trans List.filter_sublist
  · exact Or.inl (Nat.lt_of_le_of_ne hle (Ne.symm heq))

lemma mem_tally {e : String × Nat} : e ∈ tally names ↔ e.1 ∈ names ∧ e.2 = names.count e.1 := by
  rw [tally, (List.mergeSort_perm _ _).mem_iff, countNames_eq, List.mem_map]
  constructor
  · rintro ⟨n, hn, rfl⟩
    exact ⟨List.mem_eraseDups.mp hn, rfl⟩
  · rintro ⟨hn, hcount⟩
    exact ⟨e.1, List.mem_eraseDups.mpr hn, Prod.ext rfl hcount.symm⟩

lemma mem_map_fst_tally : name ∈ (tally names).map Prod.fst ↔ name ∈ names := by
  rw [List.mem_map]
  constructor
  · rintro ⟨e, he, rfl⟩
    exact (mem_tally.mp he).1
  · exact fun h => ⟨(name, names.count name), mem_tally.mpr ⟨h, rfl⟩, rfl⟩

lemma nodup_tally (names : List String) : ((tally names).map Prod.fst).Nodup := by
  rw [tally, ((List.mergeSort_perm _ _).map Prod.fst).nodup_iff, countNames_eq, List.map_map]
  exact (List.map_id _).symm ▸ nodup_eraseDups names

lemma pairwise_tally (names : List String) : (tally names).Pairwise fun a b =>
    b.2 < a.2 ∨ a.2 = b.2 ∧ names.idxOf a.1 < names.idxOf b.1 := by
  refine pairwise_mergeSort_key Prod.snd ?_
  rw [countNames_eq, List.pairwise_map]
  exact pairwise_eraseDups names

end Tally

end PageStencil
