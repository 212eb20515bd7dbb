import PageStencil.Markup.Forest
import PageStencil.Proofs.Markup.Place

/-!
What stands below a node after a change to a forest. A node that is taken out keeps all that is below it, and the
trees that held it are what they were without it.
-/

namespace PageStencil.Markup

namespace Tree

variable {α : Type}

@[simp] lemma label_withChildren (cs : List (Tree α)) (t : Tree α) : (t.withChildren cs).label = t.label := by
  cases t <;> rfl

@[simp] lemma label_mapTag (f : Tag → Tag) (t : Tree α) : (t.mapTag f).label = t.label := by
  cases t <;> rfl

@[simp] lemma label_append (cs : List (Tree α)) (t : Tree α) : (t.append cs).label = t.label := by
  cases t <;> rfl

@[simp] lemma label_number (start : Nat) (t : Tree α) : (t.number start).label = start := by
  cases t <;> rfl

@[simp] lemma children_mapTag (f : Tag → Tag) (t : Tree α) : (t.mapTag f).children = t.children := by
  cases t <;> rfl

variable [DecidableEq α]

def modify (n : α) (change : Tree α → Tree α) (t : Tree α) : Tree α :=
  if t.label = n then change t else t.inside n fun u => [change u]

def without (n : α) (t : Tree α) : Tree α := if t.label = n then t else t.inside n fun _ => []

lemma modify_self (t : Tree α) (change : Tree α → Tree α) : t.modify t.label change = change t := if_pos rfl

lemma modify_of_ne {n : α} {t : Tree α} (h : t.label ≠ n) (change : Tree α → Tree α) :
    t.modify n change = t.inside n fun u => [change u] := if_neg h

lemma modify_of_not_mem {n : α} {t : Tree α} (h : n ∉ t.labels) (change : Tree α → Tree α) :
    t.modify n change = t := by
  have hl : t.label ≠ n := by
    rintro rfl
    exact h t.label_mem
  rw [modify_of_ne hl, inside_of_not_mem h]

lemma without_self (t : Tree α) : t.without t.label = t := if_pos rfl

lemma without_number {β : Type} (start : Nat) (t : Tree β) : (t.number start).without start = t.number start :=
  if_pos (label_number start t)

lemma without_of_ne {n : α} {t : Tree α} (h : t.label ≠ n) : t.without n = t.inside n fun _ => [] := if_neg h

lemma without_of_not_mem {n : α} {t : Tree α} (h : n ∉ t.labels) : t.without n = t := by
  rw [without, inside_of_not_mem h, ite_self]

lemma replace_single (n : α) (change : Tree α → Tree α) (t : Tree α) :
    t.replace n (fun u => [change u]) = [t.modify n change] := by
  by_cases h : t.label = n
  · rw [← h, replace_self, modify_self]
  · rw [replace_of_ne h, modify_of_ne h]

@[simp] lemma label_inside (n : α) (new : Tree α → List (Tree α)) (t : Tree α) : (t.inside n new).label = t.label := by
  cases t <;> rfl

lemma not_mem_of_find?_ne {k : α} {s u : Tree α} (hs : s.labels.Nodup) (hk : k ≠ s.label) (h : s.find? k = some u) :
    s.label ∉ u.labels := by
  rw [find?_of_ne (Ne.symm hk)] at h
  obtain ⟨c, hc, hu⟩ := List.exists_of_findSome?_eq_some h
  rw [labels_eq, List.nodup_cons] at hs
  exact fun hm => hs.1 (List.mem_flatMap.mpr ⟨c, hc, (sublist_of_find? hu).subset hm⟩)

end Tree

namespace Forest

variable {f : Forest} {n k : Nat} {s : Tree Node}

lemma nodes_eq (f : Forest) : f.nodes = f.trees.flatMap Tree.labels := Tree.labelsOfAll_eq f.trees

lemma find?_eq (f : Forest) (n : Nat) : f.find? n = f.trees.findSome? (Tree.find? n) := Tree.findIn?_eq n f.trees

lemma replace_trees (f : Forest) (n : Nat) (new : Tree Node → List (Tree Node)) :
    (f.replace n new).trees = f.trees.flatMap (Tree.replace n new) := Tree.replaceIn_eq n new f.trees

lemma find?_eq_none_iff : f.find? n = none ↔ n ∉ f.nodes := by
  rw [find?_eq, nodes_eq, Tree.findIn?_eq_none_iff]

lemma label_of_find? (h : f.find? n = some s) : s.label = n := by
  rw [find?_eq] at h
  obtain ⟨t, _, hs⟩ := List.exists_of_findSome?_eq_some h
  exact Tree.label_of_find? hs

lemma sublist_of_find? (h : f.find? n = some s) : s.labels.Sublist f.nodes := by
  rw [find?_eq] at h
  obtain ⟨t, ht, hs⟩ := List.exists_of_findSome?_eq_some h
  rw [nodes_eq]
  exact (Tree.sublist_of_find? hs).trans (Tree.sublist_flatMap ht Tree.labels)

lemma replace_of_none (h : f.find? n = none) (new : Tree Node → List (Tree Node)) : f.replace n new = f := by
  rw [find?_eq_none_iff, nodes_eq] at h
  rw [replace, Tree.replaceIn_eq, Tree.replaceIn_of_not_mem h]

lemma find?_map_of_none (h : f.find? n = none) {change : Tree Node → Tree Node}
    (hchange : ∀ u, n ∉ u.labels → change u = u) : (f.find? k).map change = f.find? k := by
  rw [find?_eq_none_iff] at h
  cases hu : f.find? k with
  | none => rfl
  | some u => rw [Option.map_some, hchange u fun hm => h ((sublist_of_find? hu).subset hm)]

lemma find?_plant {α : Type} (f : Forest) (t : Tree α) : (f.plant t).2.find? f.next = some (t.number f.next) := by
  have hl := (t.number f.next).find?_label
  rw [Tree.label_number] at hl
  rw [find?_eq, plant, List.findSome?_cons, hl]

namespace Sound

lemma exists_place (hf : f.Sound) (h : f.find? n = some s) :
    ∃ p : Tree.Place Node, f.trees = p.fill [s] ∧ s.label = n ∧ p.labels.Disjoint s.labels ∧
      ∀ new, (f.replace n new).trees = p.fill (new s) := by
  rw [find?_eq] at h
  have hn : (f.trees.flatMap Tree.labels).Nodup := nodes_eq f ▸ hf.nodup
  obtain ⟨p, hp, rfl, hd⟩ := Tree.exists_place_apart hn h
  refine ⟨p, hp, rfl, hd, fun new => ?_⟩
  rw [replace_trees, hp, Tree.Place.replace_fill (fun hm => hd hm s.label_mem)]

lemma nodup_of_find? (hf : f.Sound) (h : f.find? n = some s) : s.labels.Nodup :=
  (sublist_of_find? h).nodup hf.nodup

lemma mem_of_below (hf : f.Sound) (h : f.find? n = some s) (hk : k ∈ s.children.flatMap Tree.labels) :
    k ∈ s.labels ∧ k ≠ n := by
  rw [Tree.labels_eq]
  refine ⟨List.mem_cons_of_mem _ hk, ?_⟩
  rintro rfl
  have hnodup := hf.nodup_of_find? h
  rw [Tree.labels_eq, label_of_find? h, List.nodup_cons] at hnodup
  exact hnodup.1 hk

lemma find?_of_mem (hf : f.Sound) (h : f.find? n = some s) (hk : k ∈ s.labels) : f.find? k = s.find? k := by
  obtain ⟨p, hp, rfl, hd, _⟩ := hf.exists_place h
  rw [find?_eq, hp, Tree.Place.find?_fill_of_not_mem (fun hm => hd hm hk)]
  simp

lemma find?_replace_of_not_mem (hf : f.Sound) (h : f.find? n = some s) {new : Tree Node → List (Tree Node)}
    (hold : k ∉ s.labels) (hnew : k ∉ (new s).flatMap Tree.labels) :
    (f.replace n new).find? k = (f.find? k).map (Tree.inside n new) := by
  obtain ⟨p, hp, rfl, hd, hr⟩ := hf.exists_place h
  rw [find?_eq, hr, find?_eq, hp, Tree.Place.find?_fill_of_mem (fun hm => hd hm s.label_mem) new hold hnew]

lemma find?_replace_of_mem (hf : f.Sound) (h : f.find? n = some s) {new : Tree Node → List (Tree Node)}
    (hk : k ∈ s.labels) : (f.replace n new).find? k = (new s).findSome? (Tree.find? k) := by
  obtain ⟨p, hp, rfl, hd, hr⟩ := hf.exists_place h
  rw [find?_eq, hr, Tree.Place.find?_fill_of_not_mem (fun hm => hd hm hk)]

lemma find?_map_of_below (hf : f.Sound) (h : f.find? n = some s) (hk : k ∈ s.labels) (hne : k ≠ n)
    {change : Tree Node → Tree Node} (hchange : ∀ u, n ∉ u.labels → change u = u) :
    (f.find? k).map change = f.find? k := by
  have hl := label_of_find? h
  rw [hf.find?_of_mem h hk]
  cases hu : s.find? k with
  | none => rfl
  | some u =>
    rw [← hl] at hne
    rw [Option.map_some, hchange u (hl ▸ Tree.not_mem_of_find?_ne (hf.nodup_of_find? h) hne hu)]

lemma find?_update (hf : f.Sound) (change : Tree Node → Tree Node)
    (hlabel : ∀ s, f.find? n = some s → (change s).label = n)
    (hold : ∀ s, f.find? n = some s → k ∉ s.children.flatMap Tree.labels)
    (hnew : ∀ s, f.find? n = some s → k ∉ (change s).children.flatMap Tree.labels) :
    (f.update n change).find? k = (f.find? k).map (Tree.modify n change) := by
  cases h : f.find? n with
  | none =>
    rw [update, replace_of_none h, find?_map_of_none h fun u hu => Tree.modify_of_not_mem hu change]
  | some s =>
    have hl := label_of_find? h
    by_cases hk : k = n
    · subst hk
      rw [update, hf.find?_replace_of_mem h (hl ▸ s.label_mem), h, Option.map_some, List.findSome?_cons]
      have hc := (change s).find?_label
      rw [hlabel s h] at hc
      rw [hc, ← hl, Tree.modify_self]
    · have hs : k ∉ s.labels := by
        rw [Tree.labels_eq, List.mem_cons, not_or, hl]
        exact ⟨hk, hold s h⟩
      have hc : k ∉ [change s].flatMap Tree.labels := by
        rw [List.flatMap_singleton, Tree.labels_eq, List.mem_cons, not_or, hlabel s h]
        exact ⟨hk, hnew s h⟩
      rw [update, hf.find?_replace_of_not_mem h hs hc]
      cases hu : f.find? k with
      | none => rfl
      | some u =>
        have hne : u.label ≠ n := label_of_find? hu ▸ hk
        rw [Option.map_some, Option.map_some, Tree.modify_of_ne hne]

lemma find?_setTag (hf : f.Sound) (change : Tag → Tag) :
    (f.setTag n change).find? k = (f.find? k).map (Tree.modify n (Tree.mapTag change)) := by
  by_cases hk : ∃ s, f.find? n = some s ∧ k ∈ s.labels ∧ k ≠ n
  · obtain ⟨s, hs, hk, hne⟩ := hk
    have hl := label_of_find? hs
    rw [setTag, update, hf.find?_replace_of_mem hs hk,
      hf.find?_map_of_below hs hk hne fun u hu => Tree.modify_of_not_mem hu _, hf.find?_of_mem hs hk,
      Tree.find?_of_ne (hl ▸ Ne.symm hne), List.findSome?_cons, Tree.find?_of_ne, Tree.children_mapTag]
    · cases s.children.findSome? (Tree.find? k) <;> rfl
    · rw [Tree.label_mapTag, hl]
      exact Ne.symm hne
  · simp only [not_exists, not_and, not_not] at hk
    have hbelow : ∀ s, f.find? n = some s → k ∉ s.children.flatMap Tree.labels := by
      intro s hs hm
      obtain ⟨hmem, hne⟩ := hf.mem_of_below hs hm
      exact hne (hk s hs hmem)
    apply hf.find?_update
    · intro s hs
      rw [Tree.label_mapTag, label_of_find? hs]
    · exact hbelow
    · intro s hs
      rw [Tree.children_mapTag]
      exact hbelow s hs

theorem find?_detach (hf : f.Sound) : (f.detach n).find? k = (f.find? k).map (Tree.without n) := by
  rw [detach]
  cases hs : f.find? n with
  | none => exact (find?_map_of_none hs fun u hu => Tree.without_of_not_mem hu).symm
  | some s =>
    have hl := label_of_find? hs
    have hi : ((f.remove n).insert [s]).find? k = (s.find? k).or ((f.remove n).find? k) := by
      rw [find?_eq, find?_eq, insert, List.findSome?_append]
      cases hu : s.find? k <;> simp [hu]
    dsimp only
    rw [hi]
    by_cases hk : k ∈ s.labels
    · by_cases hkn : k = n
      · subst hkn
        rw [hs, Option.map_some, ← hl, Tree.find?_label, Tree.without_self, Option.some_or]
      · rw [hf.find?_map_of_below hs hk hkn fun u hu => Tree.without_of_not_mem hu, hf.find?_of_mem hs hk]
        cases hu : s.find? k with
        | none => exact absurd hk (Tree.find?_eq_none_iff.mp hu)
        | some u => rfl
    · rw [Tree.find?_eq_none_iff.mpr hk, Option.none_or, remove,
        hf.find?_replace_of_not_mem hs hk List.not_mem_nil]
      cases hu : f.find? k with
      | none => rfl
      | some u =>
        have hne : u.label ≠ n := by
          rw [label_of_find? hu]
          rintro rfl
          exact hk (hl ▸ s.label_mem)
        rw [Option.map_some, Option.map_some, Tree.without_of_ne hne]

lemma clear_eq (hf : f.Sound) (h : f.find? n = some s) :
    f.clear n = (f.update n (Tree.withChildren [])).insert s.children := by
  rw [clear, children, h, Option.map_some, Option.getD_some]
  split
  next hc =>
    obtain ⟨p, hp, _, _, hr⟩ := hf.exists_place h
    have hs : s.withChildren [] = s := by
      cases s with
      | leaf l c => rfl
      | element l t cs => rw [Tree.withChildren, show cs = [] from hc]
    have ht : (f.update n (Tree.withChildren [])).trees = f.trees := by rw [update, hr, hs, hp]
    rw [insert, ht, hc]
    rfl
  next => rfl

theorem find?_clear (hf : f.Sound) :
    (f.clear n).find? k = (f.find? k).map (Tree.modify n (Tree.withChildren [])) := by
  cases hs : f.find? n with
  | none =>
    rw [find?_map_of_none hs fun u hu => Tree.modify_of_not_mem hu _, clear, children, hs]
    rfl
  | some s =>
    have hi : ((f.update n (Tree.withChildren [])).insert s.children).find? k =
        (s.children.findSome? (Tree.find? k)).or ((f.update n (Tree.withChildren [])).find? k) := by
      rw [find?_eq, find?_eq, insert, List.findSome?_append]
    rw [hf.clear_eq hs, hi]
    by_cases hk : k ∈ s.children.flatMap Tree.labels
    · obtain ⟨hmem, hne⟩ := hf.mem_of_below hs hk
      rw [hf.find?_map_of_below hs hmem hne fun u hu => Tree.modify_of_not_mem hu _, hf.find?_of_mem hs hmem,
        Tree.find?_of_ne (label_of_find? hs ▸ Ne.symm hne)]
      cases hu : s.children.findSome? (Tree.find? k) with
      | none => exact absurd hk (Tree.findIn?_eq_none_iff.mp hu)
      | some u => rfl
    · rw [Tree.findIn?_eq_none_iff.mpr hk, Option.none_or]
      apply hf.find?_update
      · intro u hu
        rw [Tree.label_withChildren, label_of_find? hu]
      · intro u hu
        rwa [Option.some.inj (hu.symm.trans hs)]
      · intro u _
        cases u <;> exact List.not_mem_nil

end Sound

end Forest

end PageStencil.Markup
