import PageStencil.Proofs.Markup.Effect
import PageStencil.Proofs.Markup.Root

/-!
A forest node by node: what each node is by itself, and which nodes stand directly below it. A change to the forest
shows at the nodes that it names and at no other.
-/

namespace PageStencil.Markup

namespace Tree

variable {α : Type}

def own : Tree α → Leaf ⊕ Tag
  | leaf _ c => .inl c
  | element _ t _ => .inr t

def childLabels (t : Tree α) : List α := t.children.map label

@[simp] lemma own_withChildren (cs : List (Tree α)) (t : Tree α) : (t.withChildren cs).own = t.own := by
  cases t <;> rfl

@[simp] lemma own_append (cs : List (Tree α)) (t : Tree α) : (t.append cs).own = t.own := by
  cases t <;> rfl

@[simp] lemma own_mapTag (change : Tag → Tag) (t : Tree α) : (t.mapTag change).own = t.own.map id change := by
  cases t <;> rfl

@[simp] lemma childLabels_mapTag (change : Tag → Tag) (t : Tree α) : (t.mapTag change).childLabels = t.childLabels := by
  cases t <;> rfl

lemma own_eq_inl_iff {t : Tree α} {c : Leaf} : t.own = .inl c ↔ t = .leaf t.label c := by
  cases t <;> simp [own, label]

lemma own_eq_inr_iff {t : Tree α} {tag : Tag} : t.own = .inr tag ↔ t = .element t.label tag t.children := by
  cases t <;> simp [own, label, children]

lemma mem_labels_of_childLabels {t : Tree α} {k : α} (h : k ∈ t.childLabels) : k ∈ t.children.flatMap labels := by
  obtain ⟨c, hc, rfl⟩ := List.mem_map.mp h
  exact List.mem_flatMap.mpr ⟨c, hc, c.label_mem⟩

@[simp] lemma label_mapTags (change : Tag → Tag) (t : Tree α) : (t.mapTags change).label = t.label := by
  cases t <;> rfl

lemma children_mapTags (change : Tag → Tag) (t : Tree α) :
    (t.mapTags change).children = t.children.map (mapTags change) := by
  cases t with
  | leaf l c => rfl
  | element l tag cs => rw [mapTags, children, mapTagsOfAll_eq, children]

lemma own_mapTags (change : Tag → Tag) (t : Tree α) : (t.mapTags change).own = t.own.map id change := by
  cases t <;> rfl

lemma childLabels_mapTags (change : Tag → Tag) (t : Tree α) : (t.mapTags change).childLabels = t.childLabels := by
  rw [childLabels, children_mapTags, List.map_map, childLabels]
  exact List.map_congr_left fun c _ => label_mapTags change c

section Change

variable [DecidableEq α] {n : α} {change : Tree α → Tree α} {t : Tree α}

@[simp] lemma own_inside (n : α) (new : Tree α → List (Tree α)) (t : Tree α) : (t.inside n new).own = t.own := by
  cases t <;> rfl

lemma childLabels_inside (n : α) (new : Tree α → List (Tree α)) (t : Tree α) :
    (t.inside n new).childLabels = t.children.flatMap fun c => (c.replace n new).map label := by
  cases t with
  | leaf l c => rfl
  | element l tag cs => rw [inside, childLabels, children, List.map_flatMap, children]

lemma own_modify (h : t.label ≠ n) (change : Tree α → Tree α) : (t.modify n change).own = t.own := by
  rw [modify_of_ne h, own_inside]

lemma label_modify (hlabel : ∀ u, (change u).label = u.label) (n : α) (t : Tree α) :
    (t.modify n change).label = t.label := by
  by_cases h : t.label = n
  · rw [modify_of_eq h, hlabel]
  · rw [modify_of_ne h, label_inside]

lemma map_label_replace (hlabel : ∀ u, (change u).label = u.label) (n : α) (t : Tree α) :
    (t.replace n fun u => [change u]).map label = [t.label] := by
  rw [replace_single, List.map_singleton, label_modify hlabel]

lemma childLabels_modify (h : t.label ≠ n) (hlabel : ∀ u, (change u).label = u.label) :
    (t.modify n change).childLabels = t.childLabels := by
  rw [modify_of_ne h, childLabels_inside, List.flatMap_congr fun c _ => map_label_replace hlabel n c,
    ← List.map_eq_flatMap, childLabels]

lemma own_without (n : α) (t : Tree α) : (t.without n).own = t.own := by
  rw [without]
  split_ifs
  · rfl
  · rw [own_inside]

lemma childLabels_without (hn : t.labels.Nodup) (n : α) : (t.without n).childLabels = t.childLabels.filter (· ≠ n) := by
  by_cases h : t.label = n
  · have hself : n ∉ t.childLabels := by
      rw [labels_eq, List.nodup_cons, h] at hn
      exact fun hm => hn.1 (mem_labels_of_childLabels hm)
    rw [without, if_pos h, eq_comm, List.filter_eq_self]
    intro k hk
    rw [decide_eq_true_eq]
    rintro rfl
    exact hself hk
  · have hone : ∀ c : Tree α, (c.replace n fun _ => []).map label = [c.label].filter (· ≠ n) := by
      intro c
      by_cases hc : c.label = n
      · rw [← hc, replace_self]
        simp
      · rw [replace_of_ne hc]
        simp [hc]
    rw [without_of_ne h, childLabels_inside, List.flatMap_congr fun c _ => hone c, childLabels, List.map_eq_flatMap,
      List.filter_flatMap]

mutual

lemma find?_mapTags (change : Tag → Tag) (k : α) :
    (t : Tree α) → (t.mapTags change).find? k = (t.find? k).map (mapTags change)
  | leaf l c => by by_cases h : l = k <;> simp [mapTags, find?, h]
  | element l tag cs => by
    rw [mapTags, find?, find?]
    split_ifs
    · rfl
    · exact findIn?_mapTags change k cs

lemma findIn?_mapTags (change : Tag → Tag) (k : α) :
    (ts : List (Tree α)) → findIn? k (mapTagsOfAll change ts) = (findIn? k ts).map (mapTags change)
  | [] => rfl
  | t :: ts => by
    rw [mapTagsOfAll, findIn?, findIn?, find?_mapTags change k t, findIn?_mapTags change k ts]
    cases find? k t <;> rfl

end

end Change

end Tree

namespace Forest

def own? (f : Forest) (n : Nat) : Option (Leaf ⊕ Tag) := (f.find? n).map Tree.own

def childNodes (f : Forest) (n : Nat) : List Nat := (f.children n).map Tree.label

def roots (f : Forest) : List Nat := f.trees.map Tree.label

variable {f g : Forest} {n k : Nat} {s : Tree Node}

lemma tag?_eq_some_iff {t : Tag} : f.tag? n = some t ↔ ∃ cs, f.find? n = some (.element n t cs) := by
  rw [tag?, Option.bind_eq_some_iff]
  constructor
  · rintro ⟨u, hu, ht⟩
    cases u with
    | leaf l c => cases ht
    | element l tag cs =>
      cases label_of_find? hu
      cases ht
      exact ⟨cs, hu⟩
  · rintro ⟨cs, hu⟩
    exact ⟨_, hu, rfl⟩

lemma own?_eq_inr_iff {t : Tag} : f.own? n = some (.inr t) ↔ f.tag? n = some t := by
  rw [own?, tag?]
  cases f.find? n with
  | none => simp
  | some u => cases u <;> simp [Tree.own, Tree.tag?]

lemma children_of_find? (h : f.find? n = some s) : f.children n = s.children := by
  rw [children, h]
  rfl

lemma within_iff : f.within n k = true ↔ ∃ t, f.find? n = some t ∧ k ∈ t.labels := by
  rw [within]
  cases f.find? n <;> simp [Tree.contains_iff]

lemma within_self (h : f.find? n = some s) : f.within n n = true :=
  within_iff.mpr ⟨s, h, label_of_find? h ▸ s.label_mem⟩

lemma roots_update {change : Tree Node → Tree Node} (hlabel : ∀ u, (change u).label = u.label) :
    (f.update n change).roots = f.roots := by
  rw [roots, update, replace_trees, List.map_flatMap,
    List.flatMap_congr fun u _ => Tree.map_label_replace hlabel n u, ← List.map_eq_flatMap, roots]

lemma childNodes_of_find? (h : f.find? n = some s) : f.childNodes n = s.childLabels := by
  rw [childNodes, children, h]
  rfl

lemma childNodes_of_none (h : f.find? n = none) : f.childNodes n = [] := by
  rw [childNodes, children, h]
  rfl

lemma find?_of_childNodes (h : k ∈ f.childNodes n) : ∃ s, f.find? n = some s ∧ k ∈ s.childLabels := by
  cases hs : f.find? n with
  | none =>
    rw [childNodes_of_none hs] at h
    exact absurd h List.not_mem_nil
  | some s => exact ⟨s, rfl, childNodes_of_find? hs ▸ h⟩

lemma childNodes_eq (f : Forest) (n : Nat) : f.childNodes n = ((f.find? n).map Tree.childLabels).getD [] := by
  rw [childNodes, children]
  cases f.find? n <;> rfl

section Changed

variable {change : Tree Node → Tree Node}

lemma own?_of_find? (h : g.find? k = (f.find? k).map change) (hown : ∀ u, u.label = k → (change u).own = u.own) :
    g.own? k = f.own? k := by
  rw [own?, own?, h, Option.map_map]
  cases hu : f.find? k with
  | none => rfl
  | some u => exact congrArg some (hown u (label_of_find? hu))

lemma childNodes_of_find?_map (h : g.find? k = (f.find? k).map change)
    (hchildren : ∀ u, u.label = k → (change u).childLabels = u.childLabels) : g.childNodes k = f.childNodes k := by
  rw [childNodes_eq, childNodes_eq, h, Option.map_map]
  cases hu : f.find? k with
  | none => rfl
  | some u => exact hchildren u (label_of_find? hu)

lemma own?_of_modify (h : g.find? k = (f.find? k).map (Tree.modify n change)) (hk : k ≠ n) : g.own? k = f.own? k :=
  own?_of_find? h fun _ hu => Tree.own_modify (hu.symm ▸ hk) change

lemma childNodes_of_modify (h : g.find? k = (f.find? k).map (Tree.modify n change))
    (hlabel : ∀ u, (change u).label = u.label) (hk : k ≠ n) : g.childNodes k = f.childNodes k :=
  childNodes_of_find?_map h fun _ hu => Tree.childLabels_modify (hu.symm ▸ hk) hlabel

lemma find?_of_modify_self (h : g.find? n = (f.find? n).map (Tree.modify n change)) :
    g.find? n = (f.find? n).map change := by
  rw [h]
  cases hu : f.find? n with
  | none => rfl
  | some u => rw [Option.map_some, Option.map_some, Tree.modify_of_eq (label_of_find? hu)]

end Changed

namespace Sound

lemma own?_setTag_self (hf : f.Sound) (change : Tag → Tag) :
    (f.setTag n change).own? n = (f.own? n).map (Sum.map id change) := by
  rw [own?, own?, find?_of_modify_self (hf.find?_setTag change), Option.map_map, Option.map_map]
  congr 1
  exact funext (Tree.own_mapTag change)

lemma own?_setTag (hf : f.Sound) (hk : k ≠ n) (change : Tag → Tag) : (f.setTag n change).own? k = f.own? k :=
  own?_of_modify (hf.find?_setTag change) hk

lemma childNodes_setTag (hf : f.Sound) (change : Tag → Tag) : (f.setTag n change).childNodes k = f.childNodes k := by
  by_cases hk : k = n
  · subst hk
    exact childNodes_of_find?_map (find?_of_modify_self (hf.find?_setTag change)) fun u _ =>
      Tree.childLabels_mapTag change u
  · exact childNodes_of_modify (hf.find?_setTag change) (Tree.label_mapTag change) hk

lemma own?_detach (hf : f.Sound) : (f.detach n).own? k = f.own? k :=
  own?_of_find? hf.find?_detach fun _ _ => Tree.own_without n _

lemma childNodes_detach (hf : f.Sound) : (f.detach n).childNodes k = (f.childNodes k).filter (· ≠ n) := by
  rw [childNodes_eq, childNodes_eq, hf.find?_detach, Option.map_map]
  cases hu : f.find? k with
  | none => rfl
  | some u => exact Tree.childLabels_without (hf.nodup_of_find? hu) n

lemma own?_clear (hf : f.Sound) : (f.clear n).own? k = f.own? k := by
  by_cases hk : k = n
  · subst hk
    exact own?_of_find? (find?_of_modify_self hf.find?_clear) fun u _ => Tree.own_withChildren [] u
  · exact own?_of_modify hf.find?_clear hk

lemma roots_clear (hf : f.Sound) : (f.clear n).roots = f.childNodes n ++ f.roots := by
  cases hs : f.find? n with
  | none =>
    rw [childNodes_of_none hs, Forest.clear, children, hs]
    rfl
  | some s =>
    rw [hf.clear_eq hs, childNodes_of_find? hs, ← roots_update (f := f) (n := n) (Tree.label_withChildren [])]
    exact List.map_append

lemma childNodes_clear_self (hf : f.Sound) : (f.clear n).childNodes n = [] := by
  rw [childNodes_eq, find?_of_modify_self hf.find?_clear, Option.map_map]
  cases f.find? n with
  | none => rfl
  | some u => exact congrArg (List.map Tree.label) (Tree.children_withChildren_nil u)

lemma childNodes_clear (hf : f.Sound) (hk : k ≠ n) : (f.clear n).childNodes k = f.childNodes k :=
  childNodes_of_modify hf.find?_clear (Tree.label_withChildren []) hk

section Text

variable {text : String}

lemma own?_setText? (hf : f.Sound) (hk : k < f.next) : (f.setText? n (some text)).own? k = f.own? k := by
  have hfind := hf.find?_setText? (n := n) hk text
  by_cases hn : k = n
  · subst hn
    exact own?_of_find? (find?_of_modify_self hfind) fun u _ => Tree.own_withChildren _ u
  · exact own?_of_modify hfind hn

lemma childNodes_setText? (hf : f.Sound) (hk : k < f.next) (hn : k ≠ n) :
    (f.setText? n (some text)).childNodes k = f.childNodes k :=
  childNodes_of_modify (hf.find?_setText? hk text) (Tree.label_withChildren _) hn

lemma setText?_self (hf : f.Sound) {tag : Tag} (h : f.own? n = some (.inr tag)) :
    (f.setText? n (some text)).childNodes n = [f.next] ∧
      (f.setText? n (some text)).own? f.next = some (.inl (.text text)) := by
  obtain ⟨u, hu, hown⟩ := Option.map_eq_some_iff.mp h
  rw [Tree.own_eq_inr_iff] at hown
  have hfind : (f.setText? n (some text)).find? n = some (.element u.label tag [.leaf f.next (.text text)]) := by
    rw [find?_of_modify_self (hf.find?_setText? (hf.lt_of_find?_self hu) text), hu, Option.map_some, hown]
    rfl
  refine ⟨childNodes_of_find? hfind, ?_⟩
  have hleaf := (hf.setText? n (some text)).find?_child hfind List.mem_cons_self
  rw [own?]
  exact congrArg (Option.map Tree.own) hleaf

end Text

section New

variable {parent : Nat} {t : Tree Unit}

lemma find?_adopt_plant (hf : f.Sound) (hparent : parent < f.next) (hk : k < f.next) :
    ((f.plant t).2.adopt parent f.next).find? k =
      (f.find? k).map (Tree.modify parent (Tree.append [t.number f.next])) := by
  have hlater : ({ f with next := f.next + t.size } : Forest).Sound := hf.later rfl (Nat.le_add_right _ _)
  rw [hf.adopt_plant hparent, hlater.find?_append]
  · rfl
  · rw [List.flatMap_singleton, mem_labels_number]
    omega

lemma own?_adopt_plant (hf : f.Sound) (hparent : parent < f.next) (hk : k < f.next) :
    ((f.plant t).2.adopt parent f.next).own? k = f.own? k := by
  have hfind := hf.find?_adopt_plant (t := t) hparent hk
  by_cases hn : k = parent
  · subst hn
    exact own?_of_find? (find?_of_modify_self hfind) fun u _ => Tree.own_append _ u
  · exact own?_of_modify hfind hn

lemma childNodes_adopt_plant (hf : f.Sound) (hparent : parent < f.next) (hk : k < f.next) (hn : k ≠ parent) :
    ((f.plant t).2.adopt parent f.next).childNodes k = f.childNodes k :=
  childNodes_of_modify (hf.find?_adopt_plant hparent hk) (Tree.label_append _) hn

lemma childNodes_adopt_plant_self (hf : f.Sound) {tag : Tag} (h : f.own? parent = some (.inr tag)) :
    ((f.plant t).2.adopt parent f.next).childNodes parent = f.childNodes parent ++ [f.next] := by
  obtain ⟨u, hu, hown⟩ := Option.map_eq_some_iff.mp h
  have hlt := hf.lt_of_find?_self hu
  rw [Tree.own_eq_inr_iff] at hown
  have hfind := find?_of_modify_self (hf.find?_adopt_plant (t := t) hlt hlt)
  rw [hu, Option.map_some, hown] at hfind
  rw [childNodes_of_find? hfind, childNodes_of_find? hu, Tree.childLabels, Tree.append, Tree.children, List.map_append,
    List.map_singleton, Tree.label_number, Tree.childLabels]

lemma find?_of_new (hf : f.Sound) (hparent : parent < f.next) {p : Nat} (hp : f.next ≤ p) {u : Tree Node}
    (hu : ((f.plant t).2.adopt parent f.next).find? p = some u) : (t.number f.next).find? p = some u := by
  have hlater : ({ f with next := f.next + t.size } : Forest).Sound := hf.later rfl (Nat.le_add_right _ _)
  have hold : p ∉ f.nodes := fun hm => Nat.not_lt.mpr hp (hf.bounded p hm)
  rw [hf.adopt_plant hparent, update] at hu
  cases hs : ({ f with next := f.next + t.size } : Forest).find? parent with
  | none =>
    rw [replace_of_none hs] at hu
    exact absurd (find?_eq_none_iff.mpr hold) (hu ▸ Option.some_ne_none u)
  | some s =>
    have hnot : p ∉ s.labels := fun hm => hold ((sublist_of_find? (f := f) hs).subset hm)
    rw [hlater.find?_replace_new hs hold, List.findSome?_singleton] at hu
    cases s with
    | leaf l c => exact absurd (Tree.find?_eq_none_iff.mpr hnot) (hu ▸ Option.some_ne_none u)
    | element l tag cs =>
      rw [Tree.labels, Tree.labelsOfAll_eq, List.mem_cons, not_or] at hnot
      have hl : (Tree.element l tag (cs ++ [t.number f.next])).label ≠ p := Ne.symm hnot.1
      rwa [Tree.append, Tree.find?_of_ne hl, Tree.children, List.findSome?_append, Tree.findIn?_eq_none_iff.mpr hnot.2,
        Option.none_or, List.findSome?_singleton] at hu

lemma le_of_mem_childNodes_adopt_plant (hf : f.Sound) (hparent : parent < f.next) {p : Nat} (hp : f.next ≤ p)
    (hk : k ∈ ((f.plant t).2.adopt parent f.next).childNodes p) : f.next ≤ k := by
  cases hu : ((f.plant t).2.adopt parent f.next).find? p with
  | none =>
    rw [childNodes_of_none hu] at hk
    exact absurd hk List.not_mem_nil
  | some u =>
    rw [childNodes_of_find? hu] at hk
    have hmem : k ∈ u.labels := by
      rw [Tree.labels_eq]
      exact List.mem_cons_of_mem _ (Tree.mem_labels_of_childLabels hk)
    have hnew := (Tree.sublist_of_find? (hf.find?_of_new hparent hp hu)).subset hmem
    exact (mem_labels_number.mp hnew).1

end New

section Within

variable {root p q : Nat}

lemma within_trans (hf : f.Sound) (hp : f.within root p = true) (hk : f.within p k = true) :
    f.within root k = true := by
  rw [within_iff] at hp hk ⊢
  obtain ⟨t, ht, hpt⟩ := hp
  obtain ⟨u, hu, hku⟩ := hk
  rw [hf.find?_of_mem ht hpt] at hu
  exact ⟨t, ht, (Tree.sublist_of_find? hu).subset hku⟩

lemma within_of_childNodes (hf : f.Sound) (hk : k ∈ f.childNodes p) : f.within p k = true := by
  obtain ⟨s, hs, hks⟩ := find?_of_childNodes hk
  exact within_iff.mpr ⟨s, hs, (hf.mem_of_below hs (Tree.mem_labels_of_childLabels hks)).1⟩

lemma within_child (hf : f.Sound) (h : f.within root p = true) (hk : k ∈ f.childNodes p) : f.within root k = true :=
  hf.within_trans h (hf.within_of_childNodes hk)

lemma climb (hf : f.Sound) {P : Nat → Prop} (hw : f.within root k = true) (hk : P k)
    (hup : ∀ p c, c ∈ f.childNodes p → P c → P p) : P root := by
  obtain ⟨t, ht, hmem⟩ := within_iff.mp hw
  have hall : ∀ u : Tree Node, f.find? u.label = some u → k ∈ u.labels → P u.label := by
    intro u
    induction u using Tree.ind with
    | hleaf l c =>
      intro _ hm
      rw [Tree.labels, List.mem_singleton] at hm
      exact hm ▸ hk
    | helement l tag cs ih =>
      intro hu hm
      rw [Tree.labels, Tree.labelsOfAll_eq, List.mem_cons] at hm
      rcases hm with rfl | hm
      · exact hk
      · obtain ⟨c, hc, hm⟩ := List.mem_flatMap.mp hm
        refine hup l c.label ?_ (ih c hc (hf.find?_child hu hc) hm)
        have hchildren : f.childNodes l = cs.map Tree.label := childNodes_of_find? hu
        rw [hchildren]
        exact List.mem_map_of_mem hc
  have hl := label_of_find? ht
  exact hl ▸ hall t (by rwa [hl]) hmem

lemma exists_parent (hf : f.Sound) (h : f.within root k = true) (hne : k ≠ root) :
    ∃ p, f.within root p = true ∧ k ∈ f.childNodes p := by
  have hup : ∀ p c, c ∈ f.childNodes p → (c = k ∨ ∃ q, f.within c q = true ∧ k ∈ f.childNodes q) →
      p = k ∨ ∃ q, f.within p q = true ∧ k ∈ f.childNodes q := by
    rintro p c hc (rfl | ⟨q, hq, hkq⟩)
    · obtain ⟨s, hs, _⟩ := find?_of_childNodes hc
      exact Or.inr ⟨p, within_self hs, hc⟩
    · exact Or.inr ⟨q, hf.within_trans (hf.within_of_childNodes hc) hq, hkq⟩
  exact (hf.climb h (Or.inl rfl) hup).resolve_left (Ne.symm hne)

lemma nested (hf : f.Sound) {u : Tree Node} (hs : f.find? p = some s) (hu : f.find? q = some u) (hks : k ∈ s.labels)
    (hku : k ∈ u.labels) : q ∈ s.labels ∨ p ∈ u.labels := by
  by_contra hapart
  rw [not_or] at hapart
  have hkept : (f.remove p).find? q = some u := by
    rw [remove, hf.find?_replace_of_not_mem hs hapart.1 List.not_mem_nil, hu, Option.map_some,
      Tree.inside_of_not_mem hapart.2]
  have hgone : (f.remove p).find? k = none := by
    rw [remove, hf.find?_replace_of_mem hs hks]
    rfl
  exact find?_eq_none_iff.mp hgone ((sublist_of_find? hkept).subset hku)

lemma eq_of_mem_childLabels (hf : f.Sound) {u : Tree Node} (hs : f.find? p = some s) (hu : f.find? q = some u)
    (hks : k ∈ s.childLabels) (hku : k ∈ u.childLabels) (hq : q ∈ s.labels) : p = q := by
  by_contra hne
  have hn := hf.nodup_of_find? hs
  have hl := label_of_find? hs
  rw [Tree.labels_eq, hl, List.mem_cons] at hq
  rw [Tree.labels_eq, List.nodup_cons] at hn
  obtain ⟨c, hc, hqc⟩ := List.mem_flatMap.mp (hq.resolve_left (Ne.symm hne))
  obtain ⟨d, hd, rfl⟩ := List.mem_map.mp hks
  have hfc := hf.find?_child hs hc
  have hbelow := hf.mem_of_below hu (Tree.mem_labels_of_childLabels hku)
  have hqu : c.find? q = some u := by rwa [← hf.find?_of_mem hfc hqc]
  obtain rfl := Tree.eq_of_mem_labels hn.2 hc hd ((Tree.sublist_of_find? hqu).subset hbelow.1) d.label_mem
  exact Tree.not_mem_of_find?_ne (hf.nodup_of_find? hfc) (Ne.symm hbelow.2) hqu hbelow.1

theorem parent_unique (hf : f.Sound) (hp : k ∈ f.childNodes p) (hq : k ∈ f.childNodes q) : p = q := by
  obtain ⟨s, hs, hks⟩ := find?_of_childNodes hp
  obtain ⟨u, hu, hku⟩ := find?_of_childNodes hq
  rcases hf.nested hs hu (hf.mem_of_below hs (Tree.mem_labels_of_childLabels hks)).1
    (hf.mem_of_below hu (Tree.mem_labels_of_childLabels hku)).1 with hbelow | hbelow
  · exact hf.eq_of_mem_childLabels hs hu hks hku hbelow
  · exact (hf.eq_of_mem_childLabels hu hs hku hks hbelow).symm

end Within

section Strip

variable {root : Nat} {change : Tag → Tag}

lemma find?_mapTags_within (hf : f.Sound) (hw : f.within root k = true) :
    (f.update root (Tree.mapTags change)).find? k = (f.find? k).map (Tree.mapTags change) := by
  obtain ⟨t, ht, hk⟩ := within_iff.mp hw
  rw [update, hf.find?_replace_of_mem ht hk, List.findSome?_singleton, Tree.find?_mapTags, hf.find?_of_mem ht hk]

lemma find?_mapTags_outside (hf : f.Sound) (hw : f.within root k = false) :
    (f.update root (Tree.mapTags change)).find? k = (f.find? k).map (Tree.modify root (Tree.mapTags change)) := by
  have hout : ∀ t, f.find? root = some t → k ∉ t.children.flatMap Tree.labels := by
    intro t ht hk
    rw [← Bool.not_eq_true, within_iff] at hw
    exact hw ⟨t, ht, (hf.mem_of_below ht hk).1⟩
  refine hf.find?_modify _ (Tree.label_mapTags change) hout fun t ht => ?_
  have hlabels := labels_mapTags change t
  rw [Tree.labels_eq, Tree.labels_eq t, Tree.label_mapTags, List.cons_inj_right] at hlabels
  rw [hlabels]
  exact hout t ht

lemma own?_mapTags (hf : f.Sound) (hw : f.within root k = true) :
    (f.update root (Tree.mapTags change)).own? k = (f.own? k).map (Sum.map id change) := by
  rw [own?, own?, hf.find?_mapTags_within hw, Option.map_map, Option.map_map]
  congr 1
  exact funext (Tree.own_mapTags change)

lemma childNodes_mapTags (hf : f.Sound) : (f.update root (Tree.mapTags change)).childNodes k = f.childNodes k := by
  cases hw : f.within root k with
  | true => exact childNodes_of_find?_map (hf.find?_mapTags_within hw) fun u _ => Tree.childLabels_mapTags change u
  | false =>
    have hfind : (f.update root (Tree.mapTags change)).find? k =
        (f.find? k).map (Tree.modify root (Tree.mapTags change)) := hf.find?_mapTags_outside hw
    by_cases hk : k = root
    · subst hk
      exact childNodes_of_find?_map (find?_of_modify_self hfind) fun u _ => Tree.childLabels_mapTags change u
    · exact childNodes_of_modify hfind (Tree.label_mapTags change) hk

end Strip

end Sound

end Forest

end PageStencil.Markup
