import Mathlib.Data.List.Pairwise
import PageStencil.Proofs.Markup.Confined

/-!
What becomes of a tree when one of its nodes is filled. Every change of a node shows in the trees around it as the same
change in the same place.
-/

namespace PageStencil.Markup

namespace Tree

variable {α : Type}

lemma labels_withChildren_nil (t : Tree α) : (t.withChildren []).labels ⊆ t.labels := by
  cases t <;> simp [withChildren, labels]

lemma children_withChildren_nil (t : Tree α) : (t.withChildren []).children = [] := by cases t <;> rfl

lemma eq_of_mem_labels {ts : List (Tree α)} (hn : (ts.flatMap labels).Nodup) {t u : Tree α} (ht : t ∈ ts) (hu : u ∈ ts)
    {k : α} (hkt : k ∈ t.labels) (hku : k ∈ u.labels) : t = u := by
  by_contra hne
  have hsymm : Std.Symm (Function.onFun List.Disjoint (labels (α := α))) := ⟨fun _ _ h _ hk hk' => h hk' hk⟩
  exact (List.nodup_flatMap.mp hn).2.forall ht hu hne hkt hku

variable [DecidableEq α] {n : α} {change other : Tree α → Tree α}

lemma modify_of_eq {t : Tree α} (h : t.label = n) (change : Tree α → Tree α) : t.modify n change = change t := if_pos h

lemma modify_element {l : α} (h : l ≠ n) (change : Tree α → Tree α) (tag : Tag) (cs : List (Tree α)) :
    (element l tag cs).modify n change = element l tag (cs.map (modify n change)) := by
  have hne : (element l tag cs).label ≠ n := h
  rw [modify_of_ne hne, inside, List.flatMap_congr fun c _ => replace_single n change c, ← List.map_eq_flatMap]

lemma modify_element_self (l : α) (change : Tree α → Tree α) (tag : Tag) (cs : List (Tree α)) :
    (element l tag cs).modify l change = change (element l tag cs) := if_pos rfl

lemma modify_leaf {l : α} (h : l ≠ n) (change : Tree α → Tree α) (c : Leaf) :
    (leaf l c).modify n change = leaf l c := if_neg h

lemma modify_modify (hlabel : ∀ u, (change u).label = u.label) (t : Tree α) :
    (t.modify n change).modify n other = t.modify n (other ∘ change) := by
  have hat : ∀ t : Tree α, t.label = n → (t.modify n change).modify n other = t.modify n (other ∘ change) := by
    intro t h
    rw [modify_of_eq h, modify_of_eq ((hlabel t).trans h), modify_of_eq h, Function.comp_apply]
  induction t using ind with
  | hleaf l c =>
    by_cases h : l = n
    · exact hat (leaf l c) h
    · rw [modify_leaf h, modify_leaf h, modify_leaf h]
  | helement l tag cs ih =>
    by_cases h : l = n
    · exact hat (element l tag cs) h
    · rw [modify_element h, modify_element h, modify_element h, List.map_map]
      congr 1
      exact List.map_congr_left ih

lemma labels_modify_subset (h : ∀ u, (change u).labels ⊆ u.labels) (t : Tree α) :
    (t.modify n change).labels ⊆ t.labels := by
  induction t using ind with
  | hleaf l c =>
    by_cases hl : l = n
    · exact modify_of_eq (t := leaf l c) hl change ▸ h _
    · rw [modify_leaf hl]
      exact List.Subset.refl _
  | helement l tag cs ih =>
    by_cases hl : l = n
    · exact modify_of_eq (t := element l tag cs) hl change ▸ h _
    · rw [modify_element hl, labels, labels, labelsOfAll_eq, labelsOfAll_eq]
      refine List.cons_subset_cons l fun k hk => ?_
      obtain ⟨_, hu, hk⟩ := List.mem_flatMap.mp hk
      obtain ⟨c, hc, rfl⟩ := List.mem_map.mp hu
      exact List.mem_flatMap.mpr ⟨c, hc, ih c hc hk⟩

end Tree

namespace Forest

def NotBelow (f : Forest) (n k : Nat) : Prop := ∀ s, f.find? n = some s → k ∉ s.children.flatMap Tree.labels

variable {f g : Forest} {n k : Nat} {s : Tree Node}

namespace Sound

lemma lt_of_find? (hf : f.Sound) (h : f.find? n = some s) (hk : k ∈ s.labels) : k < f.next :=
  hf.bounded k ((sublist_of_find? h).subset hk)

lemma later (hf : f.Sound) (htrees : g.trees = f.trees) (hle : f.next ≤ g.next) : g.Sound where
  nodup := by
    rw [Forest.nodes, htrees]
    exact hf.nodup
  bounded k hk := by
    rw [Forest.nodes, htrees] at hk
    exact Nat.lt_of_lt_of_le (hf.bounded k hk) hle

lemma lt_of_find?_self (hf : f.Sound) (h : f.find? n = some s) : n < f.next :=
  hf.lt_of_find? h (label_of_find? h ▸ s.label_mem)

lemma find?_modify (hf : f.Sound) (change : Tree Node → Tree Node) (hlabel : ∀ s, (change s).label = s.label)
    (hk : f.NotBelow n k) (hnew : ∀ s, f.find? n = some s → k ∉ (change s).children.flatMap Tree.labels) :
    (f.update n change).find? k = (f.find? k).map (Tree.modify n change) :=
  hf.find?_update change (fun s hs => (hlabel s).trans (label_of_find? hs)) hk hnew

lemma find?_append (hf : f.Sound) {ts : List (Tree Node)} (hts : k ∉ ts.flatMap Tree.labels) :
    (f.update n (Tree.append ts)).find? k = (f.find? k).map (Tree.modify n (Tree.append ts)) := by
  by_cases hk : f.NotBelow n k
  · refine hf.find?_modify _ (Tree.label_append ts) hk fun s hs => ?_
    cases s with
    | leaf l c => exact List.not_mem_nil
    | element l tag cs =>
      rw [Tree.append, Tree.children, List.flatMap_append, List.mem_append, not_or]
      exact ⟨hk _ hs, hts⟩
  · -- What stood below the node stays where it is, in front of what is new.
    simp only [NotBelow, not_forall, not_not] at hk
    obtain ⟨s, hs, hbelow⟩ := hk
    obtain ⟨hmem, hne⟩ := hf.mem_of_below hs hbelow
    have hl := label_of_find? hs
    have hold : s.label ≠ k := hl ▸ Ne.symm hne
    have hsame : (s.append ts).label ≠ k := by rwa [Tree.label_append]
    have hnew : ts.findSome? (Tree.find? k) = none := Tree.findIn?_eq_none_iff.mpr hts
    rw [update, hf.find?_replace_of_mem hs hmem, hf.find?_map_of_below hs hmem hne fun u hu => Tree.modify_of_not_mem hu _,
      hf.find?_of_mem hs hmem, List.findSome?_singleton, Tree.find?_of_ne hsame, Tree.find?_of_ne hold]
    cases s with
    | leaf l c => rfl
    | element l tag cs => rw [Tree.append, Tree.children, Tree.children, List.findSome?_append, hnew, Option.or_none]

lemma removed (hf : f.Sound) (n : Nat) : (f.remove n).Sound := by
  cases hs : f.find? n with
  | none => rwa [remove, replace_of_none hs]
  | some s =>
    have hm := Confined.move hf.beside_nil (outside_nil n) hs [] (fun _ => []) (Nat.le_refl _) fun k => by simp
    rw [List.nil_append, ← replace_trees] at hm
    exact hf.confined hm

lemma find?_adopt (hf : f.Sound) (hs : f.find? n = some s) {parent : Nat} (hparent : parent ∉ s.labels)
    (hk : k ∉ s.labels) : (f.adopt parent n).find? k =
      ((f.find? k).map (Tree.inside n fun _ => [])).map (Tree.modify parent (Tree.append [s])) := by
  have hcontains : s.contains parent = false := by
    rw [← Bool.not_eq_true, Tree.contains_iff]
    exact hparent
  rw [adopt, hs]
  simp only [hcontains, Bool.false_eq_true, if_false]
  rw [(hf.removed n).find?_append (by rwa [List.flatMap_singleton]), remove,
    hf.find?_replace_of_not_mem hs hk List.not_mem_nil]

lemma find?_replace_new (hf : f.Sound) (h : f.find? n = some s) (hk : k ∉ f.nodes)
    {new : Tree Node → List (Tree Node)} : (f.replace n new).find? k = (new s).findSome? (Tree.find? k) := by
  obtain ⟨p, hp, rfl, _, hr⟩ := hf.exists_place h
  have haround : k ∉ p.labels := fun hm =>
    hk (by rw [nodes_eq, hp]; exact (p.labels_fill_perm [s]).mem_iff.mpr (List.mem_append_left _ hm))
  rw [find?_eq, hr, Tree.Place.find?_fill_of_not_mem haround]

lemma children_of_cleared (hf : f.Sound) (h : (f.clear n).find? n = some s) : s.children = [] := by
  rw [hf.find?_clear] at h
  obtain ⟨u, hu, rfl⟩ := Option.map_eq_some_iff.mp h
  rw [Tree.modify_of_eq (label_of_find? hu), Tree.children_withChildren_nil]

lemma find?_refill (hf : f.Sound) {ts : List (Tree Node)} (hts : k ∉ ts.flatMap Tree.labels) :
    ((f.clear n).update n (Tree.withChildren ts)).find? k = (f.find? k).map (Tree.modify n (Tree.withChildren ts)) := by
  rw [(hf.clear n).find?_modify _ (Tree.label_withChildren ts)]
  · rw [hf.find?_clear, Option.map_map]
    congr 1
    funext t
    rw [Function.comp_apply, Tree.modify_modify (Tree.label_withChildren _)]
    congr 1
    funext u
    cases u <;> rfl
  · intro s hs
    rw [hf.children_of_cleared hs]
    exact List.not_mem_nil
  · intro s _
    cases s with
    | leaf l c => exact List.not_mem_nil
    | element l tag cs => exact hts

theorem find?_setText? (hf : f.Sound) (hlt : k < f.next) (text : String) :
    (f.setText? n (some text)).find? k =
      (f.find? k).map (Tree.modify n (Tree.withChildren [.leaf f.next (.text text)])) := by
  rw [Forest.setText?, Confined.next_clear]
  refine hf.find?_refill ?_
  rw [List.flatMap_singleton, Tree.labels, List.mem_singleton]
  exact Nat.ne_of_lt hlt

lemma find?_plant_of_lt {α : Type} (t : Tree α) (hlt : k < f.next) : (f.plant t).2.find? k = f.find? k := by
  have hnone : (t.number f.next).find? k = none := by
    rw [Tree.find?_eq_none_iff, mem_labels_number]
    omega
  rw [find?_eq, Forest.plant, List.findSome?_cons, hnone, ← find?_eq]

lemma find?_plant_element (f : Forest) (tag : Tag) (cs : List (Tree Unit)) :
    (f.plant (.element () tag cs)).2.find? f.next = some (.element f.next tag (Tree.numberAll (f.next + 1) cs)) := by
  rw [find?_plant, Tree.number]

section Merge

variable {target source : Nat} {tag : Tag} {cs : List (Tree Node)}

lemma clear_source (hf : f.Sound) (hsource : f.find? source = some (.element source tag cs))
    (htarget : target ∉ (Tree.element source tag cs).labels) :
    (f.clear target).find? source = some (.element source tag cs) := by
  rw [hf.find?_clear, hsource, Option.map_some, Tree.modify_of_not_mem htarget]

lemma merge_eq (hf : f.Sound) (hsource : f.find? source = some (.element source tag cs))
    (htarget : target ∉ (Tree.element source tag cs).labels) :
    f.merge target source = (((f.clear target).update source (Tree.withChildren [])).update target
      (Tree.withChildren cs)).setTag target fun t => t.merge tag := by
  have hcontains : (Tree.element source tag cs).contains target = false := by
    rw [← Bool.not_eq_true, Tree.contains_iff]
    exact htarget
  rw [Forest.merge, hf.clear_source hsource htarget]
  simp only [hcontains, Bool.false_eq_true, if_false, Tree.tag?, Tree.children]

lemma emptied (hf : f.Sound) (n : Nat) : (f.update n (Tree.withChildren [])).Sound := by
  refine hf.confined (Confined.update hf.beside_nil (outside_nil n) fun s j _ => ?_)
  have hw := count_withChildren_le [] s j
  rw [count_labels s]
  rw [uses_nil] at hw
  omega

lemma poured (hf : f.Sound) (hsource : f.find? source = some (.element source tag cs))
    (htarget : target ∉ (Tree.element source tag cs).labels) :
    (((f.clear target).update source (Tree.withChildren [])).update target (Tree.withChildren cs)).Sound :=
  (hf.clear target).confined (Confined.pour (hf.clear target).beside_nil (outside_nil source) (outside_nil target)
    (hf.clear_source hsource htarget))

lemma find?_emptied (hf : f.Sound) (hk : f.NotBelow n k) :
    (f.update n (Tree.withChildren [])).find? k = (f.find? k).map (Tree.modify n (Tree.withChildren [])) := by
  refine hf.find?_modify _ (Tree.label_withChildren []) hk fun s _ => ?_
  rw [Tree.children_withChildren_nil]
  exact List.not_mem_nil

theorem find?_merge (hf : f.Sound) (hsource : f.find? source = some (.element source tag cs))
    (htarget : target ∉ (Tree.element source tag cs).labels) (hk : k ∉ cs.flatMap Tree.labels) :
    (f.merge target source).find? k = (f.find? k).map fun u => ((u.modify target (Tree.withChildren [])).modify source
      (Tree.withChildren [])).modify target fun u => (u.withChildren cs).mapTag fun t => t.merge tag := by
  have hsame := hf.clear_source hsource htarget
  have hbelow : ∀ {j : Nat}, j ∉ cs.flatMap Tree.labels → (f.clear target).NotBelow source j := by
    intro j hj s hs
    cases hsame.symm.trans hs
    exact hj
  have hbare : ((f.clear target).update source (Tree.withChildren [])).NotBelow target k := by
    intro s hs
    rw [Tree.labels, Tree.labelsOfAll_eq, List.mem_cons, not_or] at htarget
    rw [(hf.clear target).find?_emptied (hbelow htarget.2)] at hs
    obtain ⟨u, hu, rfl⟩ := Option.map_eq_some_iff.mp hs
    have hchildren := hf.children_of_cleared hu
    have haway : source ∉ u.labels := by
      rw [Tree.labels_eq, hchildren, List.flatMap_nil, List.mem_singleton, label_of_find? hu]
      exact Ne.symm htarget.1
    rw [Tree.modify_of_not_mem haway, hchildren]
    exact List.not_mem_nil
  rw [hf.merge_eq hsource htarget, (hf.poured hsource htarget).find?_setTag,
    ((hf.clear target).emptied source).find?_modify _ (Tree.label_withChildren cs) hbare,
    (hf.clear target).find?_emptied (hbelow hk), hf.find?_clear, Option.map_map, Option.map_map, Option.map_map]
  · congr 1
    funext t
    rw [Function.comp_apply, Function.comp_apply, Function.comp_apply, Tree.modify_modify (Tree.label_withChildren _)]
    rfl
  · intro s _
    cases s with
    | leaf l c => exact List.not_mem_nil
    | element l tag' ds => exact hk

theorem find?_merge_moved (hf : f.Sound) (hsource : f.find? source = some (.element source tag cs))
    (htarget : target ∉ (Tree.element source tag cs).labels) {t : Tag} {ts : List (Tree Node)}
    (hfound : f.find? target = some (.element target t ts)) (hk : k ∈ cs.flatMap Tree.labels) :
    (f.merge target source).find? k = f.find? k := by
  have hsame := hf.clear_source hsource htarget
  obtain ⟨hmem, hne⟩ := hf.mem_of_below hsource hk
  have hlabel : target ≠ source ∧ target ∉ cs.flatMap Tree.labels := by
    rw [Tree.labels, Tree.labelsOfAll_eq, List.mem_cons, not_or] at htarget
    exact htarget
  -- Between the two places the children stand nowhere.
  have hgone : k ∉ ((f.clear target).update source (Tree.withChildren [])).nodes := by
    rw [← find?_eq_none_iff, update, (hf.clear target).find?_replace_of_mem hsame hmem, List.findSome?_singleton,
      Tree.find?_eq_none_iff, Tree.withChildren, Tree.labels, Tree.labelsOfAll, List.mem_singleton]
    exact hne
  have hcleared : (f.clear target).find? target = some (.element target t []) := by
    rw [hf.find?_clear, hfound, Option.map_some, Tree.modify_element_self, Tree.withChildren]
  have hempty : ((f.clear target).update source (Tree.withChildren [])).find? target = some (.element target t []) := by
    have hnot : source ∉ (Tree.element target t []).labels := by
      rw [Tree.labels, Tree.labelsOfAll, List.mem_singleton]
      exact Ne.symm hlabel.1
    rw [(hf.clear target).find?_emptied, hcleared, Option.map_some, Tree.modify_of_not_mem hnot]
    intro u hu
    cases hsame.symm.trans hu
    exact hlabel.2
  have hne' : target ≠ k := fun heq => hlabel.2 (heq ▸ hk)
  have hto : (Tree.element target t cs).find? k = (Tree.element source tag cs).find? k := by
    rw [Tree.find?_of_ne (t := .element target t cs) hne', Tree.find?_of_ne (t := .element source tag cs) (Ne.symm hne)]
    rfl
  rw [hf.merge_eq hsource htarget, (hf.poured hsource htarget).find?_setTag, update,
    ((hf.clear target).emptied source).find?_replace_new hempty hgone, List.findSome?_singleton, Tree.withChildren, hto,
    ← hf.find?_of_mem hsource hmem]
  cases hu : f.find? k with
  | none => rfl
  | some u =>
    have haway : target ∉ u.labels := by
      rw [hf.find?_of_mem hsource hmem] at hu
      exact fun hm => htarget ((Tree.sublist_of_find? hu).subset hm)
    rw [Option.map_some, Tree.modify_of_not_mem haway]

theorem find?_merge_plant (hf : f.Sound) {target : Nat} (htarget : target < f.next) (hlt : k < f.next) (tag : Tag)
    (cs : List (Tree Unit)) :
    ((f.plant (.element () tag cs)).2.merge target f.next).find? k = (f.find? k).map (Tree.modify target fun u =>
      (u.withChildren (Tree.numberAll (f.next + 1) cs)).mapTag fun t => t.merge tag) := by
  have haway : ∀ {k : Nat}, k < f.next → k ∉ (Tree.element f.next tag (Tree.numberAll (f.next + 1) cs)).labels := by
    intro k hk hm
    have hr := labels_number f.next (Tree.element () tag cs)
    rw [Tree.number] at hr
    rw [hr, List.mem_range'_1] at hm
    omega
  have hk := haway hlt
  rw [Tree.labels, Tree.labelsOfAll_eq, List.mem_cons, not_or] at hk
  rw [(hf.plant _).find?_merge (find?_plant_element f tag cs) (haway htarget) hk.2, find?_plant_of_lt _ hlt]
  cases hu : f.find? k with
  | none => rfl
  | some u =>
    -- The new element stands apart, so emptying it shows in no other tree.
    have hapart : f.next ∉ (u.modify target (Tree.withChildren [])).labels := fun hm =>
      Nat.lt_irrefl _ (hf.lt_of_find? hu (Tree.labels_modify_subset Tree.labels_withChildren_nil u hm))
    rw [Option.map_some, Option.map_some, Tree.modify_of_not_mem hapart, Tree.modify_modify (Tree.label_withChildren [])]
    congr 2
    funext u
    cases u <;> rfl

end Merge

lemma adopt_plant (hf : f.Sound) {parent : Nat} (hparent : parent < f.next) (t : Tree Unit) :
    (f.plant t).2.adopt parent f.next =
      ({ f with next := f.next + t.size } : Forest).update parent (Tree.append [t.number f.next]) := by
  have hcontains : (t.number f.next).contains parent = false := by
    rw [← Bool.not_eq_true, Tree.contains_iff, mem_labels_number]
    omega
  have hgone : f.trees.flatMap (Tree.replace f.next fun _ => []) = f.trees := by
    refine Tree.replaceIn_of_not_mem (fun hm => ?_) _
    exact Nat.lt_irrefl _ (hf.bounded f.next (nodes_eq f ▸ hm))
  have hself : (t.number f.next).replace f.next (fun _ => []) = [] := by
    cases t <;> simp [Tree.number, Tree.replace]
  have hremove : (f.plant t).2.remove f.next = { f with next := f.next + t.size } := by
    rw [remove, Forest.replace, Forest.plant, Tree.replaceIn_eq, List.flatMap_cons, hself, hgone, List.nil_append]
  rw [adopt, find?_plant]
  simp only [hcontains, Bool.false_eq_true, if_false, hremove]

lemma isRoot_of_below (hf : f.Sound) {root : Nat} {t : Tree Node} (ht : f.find? root = some t) (hn : n ∈ t.labels)
    (hne : n ≠ root) : f.isRoot n = false := by
  rw [← Bool.not_eq_true, isRoot, List.any_eq_true]
  rintro ⟨u, hu, hlabel⟩
  rw [beq_iff_eq] at hlabel
  subst hlabel
  have hfu : f.find? u.label = some u := by
    rw [find?_eq, Tree.find?_eq_some_iff (nodes_eq f ▸ hf.nodup)]
    exact ⟨u, hu, u.find?_label⟩
  -- The root would stand below its own node.
  rw [find?_eq] at ht
  obtain ⟨v, hv, hvt⟩ := List.exists_of_findSome?_eq_some ht
  have huv : u = v := by
    have hvu : u.label ∈ v.labels := (Tree.sublist_of_find? hvt).subset hn
    have hnodup : (f.trees.flatMap Tree.labels).Nodup := nodes_eq f ▸ hf.nodup
    exact Tree.eq_of_mem_labels hnodup hu hv u.label_mem hvu
  subst huv
  have hnodup := hf.nodup_of_find? hfu
  have hroot : u.label ≠ root := hne
  rw [Tree.find?_of_ne hroot] at hvt
  obtain ⟨c, hc, hct⟩ := List.exists_of_findSome?_eq_some hvt
  rw [Tree.labels_eq, List.nodup_cons] at hnodup
  exact hnodup.1 (List.mem_flatMap.mpr ⟨c, hc, (Tree.sublist_of_find? hct).subset hn⟩)

theorem find?_unwrap (hf : f.Sound) (hs : f.find? n = some s) (hroot : f.isRoot n = false) :
    ∃ g, f.unwrap n = .ok g ∧ g.next = f.next ∧
      ∀ k, k ∉ s.labels → g.find? k = (f.find? k).map (Tree.inside n Tree.children) := by
  refine ⟨(f.replace n Tree.children).insert [s.withChildren []], ?_, rfl, fun k hk => ?_⟩
  · rw [unwrap, hs]
    simp [hroot]
  · have hchildren : k ∉ s.children.flatMap Tree.labels := by
      rw [Tree.labels_eq, List.mem_cons, not_or] at hk
      exact hk.2
    have haway : (s.withChildren []).find? k = none := by
      rw [Tree.find?_eq_none_iff]
      exact fun hm => hk (Tree.labels_withChildren_nil s hm)
    rw [find?_eq, insert, List.findSome?_append, List.findSome?_singleton, haway, Option.none_or, ← find?_eq,
      hf.find?_replace_of_not_mem hs hk hchildren]

end Sound

end Forest

end PageStencil.Markup
