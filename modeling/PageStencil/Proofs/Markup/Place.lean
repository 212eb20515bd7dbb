import Mathlib.Data.List.Nodup
import Mathlib.Data.List.Perm.Basic
import Mathlib.Tactic.Lemma
import PageStencil.Markup.Tree

/-!
Places in a list of trees. What stands below a label stands at one place as long as no label is used twice; putting
something else there changes the trees around it and nothing beside them.
-/

namespace PageStencil.Markup.Tree

variable {α β : Type}

mutual

theorem ind {P : Tree α → Prop} (hleaf : ∀ l c, P (.leaf l c))
    (helement : ∀ l t cs, (∀ c ∈ cs, P c) → P (.element l t cs)) : (t : Tree α) → P t
  | .leaf l c => hleaf l c
  | .element l t cs => helement l t cs (indAll hleaf helement cs)

theorem indAll {P : Tree α → Prop} (hleaf : ∀ l c, P (.leaf l c))
    (helement : ∀ l t cs, (∀ c ∈ cs, P c) → P (.element l t cs)) : (ts : List (Tree α)) → ∀ t ∈ ts, P t
  | [] => by simp
  | t :: ts => List.forall_mem_cons.mpr ⟨ind hleaf helement t, indAll hleaf helement ts⟩

end

@[simp] lemma labelsOfAll_eq (ts : List (Tree α)) : labelsOfAll ts = ts.flatMap labels := by
  induction ts with
  | nil => rfl
  | cons t ts ih => rw [labelsOfAll, ih, List.flatMap_cons]

@[simp] lemma elementsOfAll_eq (ts : List (Tree α)) : elementsOfAll ts = ts.flatMap elements := by
  induction ts with
  | nil => rfl
  | cons t ts ih => rw [elementsOfAll, ih, List.flatMap_cons]

@[simp] lemma mapTagsOfAll_eq (f : Tag → Tag) (ts : List (Tree α)) : mapTagsOfAll f ts = ts.map (mapTags f) := by
  induction ts with
  | nil => rfl
  | cons t ts ih => rw [mapTagsOfAll, ih, List.map_cons]

@[simp] lemma eraseAll_eq (ts : List (Tree α)) : eraseAll ts = ts.map erase := by
  induction ts with
  | nil => rfl
  | cons t ts ih => rw [eraseAll, ih, List.map_cons]

lemma labels_eq (t : Tree α) : t.labels = t.label :: t.children.flatMap labels := by
  cases t <;> simp [labels, label, children]

lemma label_mem (t : Tree α) : t.label ∈ t.labels := by
  rw [labels_eq]
  exact List.mem_cons_self

lemma labels_of_elements {t : Tree α} {e : α × Tag} (h : e ∈ t.elements) : e.1 ∈ t.labels := by
  induction t using ind with
  | hleaf l c => simp [elements] at h
  | helement l t cs ih =>
    rw [elements, elementsOfAll_eq, List.mem_cons, List.mem_flatMap] at h
    rw [labels, labelsOfAll_eq, List.mem_cons, List.mem_flatMap]
    rcases h with rfl | ⟨c, hc, he⟩
    · exact Or.inl rfl
    · exact Or.inr ⟨c, hc, ih c hc he⟩

lemma sublist_flatMap {a : α} {as : List α} (h : a ∈ as) (f : α → List β) : (f a).Sublist (as.flatMap f) := by
  obtain ⟨bs, cs, rfl⟩ := List.append_of_mem h
  simp

section Search

variable [DecidableEq α]

@[simp] lemma findIn?_eq (n : α) (ts : List (Tree α)) : findIn? n ts = ts.findSome? (find? n) := by
  induction ts with
  | nil => rfl
  | cons t ts ih =>
    rw [findIn?, ih, List.findSome?_cons]
    cases find? n t <;> rfl

@[simp] lemma replaceIn_eq (n : α) (new : Tree α → List (Tree α)) (ts : List (Tree α)) :
    replaceIn n new ts = ts.flatMap (replace n new) := by
  induction ts with
  | nil => rfl
  | cons t ts ih => rw [replaceIn, ih, List.flatMap_cons]

lemma find?_label (t : Tree α) : t.find? t.label = some t := by
  cases t <;> simp [find?, label]

lemma find?_of_ne {n : α} {t : Tree α} (h : t.label ≠ n) : t.find? n = t.children.findSome? (find? n) := by
  cases t with
  | leaf l c =>
    have hl : l ≠ n := h
    simp [find?, children, hl]
  | element l t cs =>
    have hl : l ≠ n := h
    simp [find?, children, hl]

lemma find?_eq_none_iff {n : α} {t : Tree α} : t.find? n = none ↔ n ∉ t.labels := by
  induction t using ind with
  | hleaf l c => simp [find?, labels, eq_comm]
  | helement l t cs ih =>
    by_cases hl : l = n
    · simp [find?, labels, hl]
    · simp only [find?, hl, if_false, findIn?_eq, List.findSome?_eq_none_iff, labels, labelsOfAll_eq, List.mem_cons,
        List.mem_flatMap, not_or, not_exists, not_and]
      exact ⟨fun h => ⟨Ne.symm hl, fun c hc => (ih c hc).mp (h c hc)⟩, fun h c hc => (ih c hc).mpr (h.2 c hc)⟩

lemma findIn?_eq_none_iff {n : α} {ts : List (Tree α)} : ts.findSome? (find? n) = none ↔ n ∉ ts.flatMap labels := by
  simp [find?_eq_none_iff]

lemma contains_iff {n : α} {t : Tree α} : t.contains n = true ↔ n ∈ t.labels := by
  rw [contains, Option.isSome_iff_ne_none, Ne, find?_eq_none_iff, not_not]

lemma label_of_find? {n : α} {t s : Tree α} (h : t.find? n = some s) : s.label = n := by
  induction t using ind with
  | hleaf l c =>
    simp only [find?, Option.ite_none_right_eq_some, Option.some.injEq] at h
    rw [← h.2, ← h.1, label]
  | helement l t cs ih =>
    by_cases hl : l = n
    · simp only [find?, hl, if_true, Option.some.injEq] at h
      rw [← h, label]
    · simp only [find?, hl, if_false, findIn?_eq] at h
      obtain ⟨c, hc, hs⟩ := List.exists_of_findSome?_eq_some h
      exact ih c hc hs

lemma sublist_of_find? {n : α} {t s : Tree α} (h : t.find? n = some s) : s.labels.Sublist t.labels := by
  induction t using ind with
  | hleaf l c =>
    simp only [find?, Option.ite_none_right_eq_some, Option.some.injEq] at h
    rw [h.2]
  | helement l t cs ih =>
    by_cases hl : l = n
    · simp only [find?, hl, if_true, Option.some.injEq] at h
      rw [← h, hl]
    · simp only [find?, hl, if_false, findIn?_eq] at h
      obtain ⟨c, hc, hs⟩ := List.exists_of_findSome?_eq_some h
      rw [labels, labelsOfAll_eq]
      exact ((ih c hc hs).trans (sublist_flatMap hc labels)).cons _

lemma elements_of_find? {n : α} {t s : Tree α} (h : t.find? n = some s) : s.elements.Sublist t.elements := by
  induction t using ind with
  | hleaf l c =>
    simp only [find?, Option.ite_none_right_eq_some, Option.some.injEq] at h
    rw [h.2]
  | helement l t cs ih =>
    by_cases hl : l = n
    · simp only [find?, hl, if_true, Option.some.injEq] at h
      rw [← h, hl]
    · simp only [find?, hl, if_false, findIn?_eq] at h
      obtain ⟨c, hc, hs⟩ := List.exists_of_findSome?_eq_some h
      rw [elements, elementsOfAll_eq]
      exact ((ih c hc hs).trans (sublist_flatMap hc elements)).cons _

lemma replace_of_not_mem {n : α} {t : Tree α} (h : n ∉ t.labels) (new : Tree α → List (Tree α)) :
    t.replace n new = [t] := by
  induction t using ind with
  | hleaf l c =>
    have hl : l ≠ n := by simpa [labels, eq_comm] using h
    rw [replace, if_neg hl]
  | helement l t cs ih =>
    simp only [labels, labelsOfAll_eq, List.mem_cons, List.mem_flatMap, not_or, not_exists, not_and] at h
    have hcs : ∀ c ∈ cs, c.replace n new = [c] := fun c hc => ih c hc (h.2 c hc)
    rw [replace, if_neg (Ne.symm h.1), replaceIn_eq, List.flatMap_congr hcs, List.flatMap_singleton']

lemma replaceIn_of_not_mem {n : α} {ts : List (Tree α)} (h : n ∉ ts.flatMap labels)
    (new : Tree α → List (Tree α)) : ts.flatMap (replace n new) = ts := by
  have ht : ∀ t ∈ ts, t.replace n new = [t] :=
    fun t ht => replace_of_not_mem (fun hn => h (List.mem_flatMap.mpr ⟨t, ht, hn⟩)) new
  rw [List.flatMap_congr ht, List.flatMap_singleton']

lemma replace_self (t : Tree α) (new : Tree α → List (Tree α)) : t.replace t.label new = new t := by
  cases t <;> simp [replace, label]

def inside (n : α) (new : Tree α → List (Tree α)) : Tree α → Tree α
  | leaf l c => leaf l c
  | element l t cs => element l t (cs.flatMap (replace n new))

lemma replace_of_ne {n : α} {t : Tree α} (h : t.label ≠ n) (new : Tree α → List (Tree α)) :
    t.replace n new = [t.inside n new] := by
  cases t with
  | leaf l c =>
    have hl : l ≠ n := h
    rw [replace, if_neg hl, inside]
  | element l t cs =>
    have hl : l ≠ n := h
    rw [replace, if_neg hl, inside, replaceIn_eq]

lemma inside_of_not_mem {n : α} {t : Tree α} (h : n ∉ t.labels) (new : Tree α → List (Tree α)) :
    t.inside n new = t := by
  have hl : t.label ≠ n := by
    rintro rfl
    exact h t.label_mem
  exact List.singleton_inj.mp ((replace_of_ne hl new).symm.trans (replace_of_not_mem h new))

end Search

/-- Where something stands among trees: between others at the top, or below an element. -/
inductive Place (α : Type)
  | top (before after : List (Tree α))
  | under (before : List (Tree α)) (label : α) (tag : Tag) (inner : Place α) (after : List (Tree α))

namespace Place

def fill : Place α → List (Tree α) → List (Tree α)
  | top before after, ts => before ++ (ts ++ after)
  | under before l t inner after, ts => before ++ element l t (inner.fill ts) :: after

def beside (bs as : List (Tree α)) : Place α → Place α
  | top before after => top (bs ++ before) (after ++ as)
  | under before l t inner after => under (bs ++ before) l t inner (after ++ as)

lemma fill_beside (bs as ts : List (Tree α)) (p : Place α) : (p.beside bs as).fill ts = bs ++ (p.fill ts ++ as) := by
  cases p <;> simp [beside, fill]

lemma around {v : List (Tree α) → List β} (happend : ∀ as bs, v (as ++ bs) = v as ++ v bs)
    (helement : ∀ l t cs, v [element l t cs] = v [element l t []] ++ v cs) (p : Place α) :
    ∃ before after, ∀ ts, v (p.fill ts) = before ++ (v ts ++ after) := by
  induction p with
  | top before after => exact ⟨v before, v after, fun ts => by rw [fill, happend, happend]⟩
  | under before l t inner after ih =>
    obtain ⟨b, a, h⟩ := ih
    refine ⟨v before ++ v [element l t []] ++ b, a ++ v after, fun ts => ?_⟩
    rw [fill, ← List.singleton_append, happend, happend, helement, h]
    simp only [List.append_assoc]

lemma labels_around (p : Place α) :
    ∃ before after, ∀ ts, (p.fill ts).flatMap labels = before ++ (ts.flatMap labels ++ after) :=
  p.around (fun _ _ => List.flatMap_append) fun l t cs => by simp [labels]

lemma elements_around (p : Place α) :
    ∃ before after, ∀ ts, (p.fill ts).flatMap elements = before ++ (ts.flatMap elements ++ after) :=
  p.around (fun _ _ => List.flatMap_append) fun l t cs => by simp [elements]

def labels (p : Place α) : List α := (p.fill []).flatMap Tree.labels

lemma labels_fill_perm (p : Place α) (ts : List (Tree α)) :
    ((p.fill ts).flatMap Tree.labels).Perm (p.labels ++ ts.flatMap Tree.labels) := by
  obtain ⟨before, after, h⟩ := p.labels_around
  rw [labels, h ts, h [], List.flatMap_nil, List.nil_append, List.append_assoc]
  exact List.Perm.append_left before List.perm_append_comm

lemma mem_labels_top {before after : List (Tree α)} {k : α} :
    k ∈ (top before after).labels ↔ k ∈ before.flatMap Tree.labels ∨ k ∈ after.flatMap Tree.labels := by
  rw [labels, fill, List.nil_append, List.flatMap_append, List.mem_append]

lemma mem_labels_under {before after : List (Tree α)} {l k : α} {t : Tag} {inner : Place α} :
    k ∈ (under before l t inner after).labels ↔
      k ∈ before.flatMap Tree.labels ∨ k = l ∨ k ∈ inner.labels ∨ k ∈ after.flatMap Tree.labels := by
  rw [labels, fill, List.flatMap_append, List.flatMap_cons, Tree.labels, labelsOfAll_eq, ← labels, List.mem_append,
    List.cons_append, List.mem_cons, List.mem_append]

variable [DecidableEq α]

lemma find?_under (before after : List (Tree α)) (l k : α) (t : Tag) (inner : Place α) (ts : List (Tree α)) :
    ((under before l t inner after).fill ts).findSome? (find? k) = (before.findSome? (find? k)).or
      (((if l = k then some (element l t (inner.fill ts)) else (inner.fill ts).findSome? (find? k))).or
        (after.findSome? (find? k))) := by
  rw [fill, List.findSome?_append, List.findSome?_cons, find?, findIn?_eq]
  generalize (if l = k then some (element l t (inner.fill ts)) else (inner.fill ts).findSome? (find? k)) = u
  cases u <;> rfl

lemma find?_fill_of_not_mem {p : Place α} {k : α} (h : k ∉ p.labels) (ts : List (Tree α)) :
    (p.fill ts).findSome? (find? k) = ts.findSome? (find? k) := by
  induction p with
  | top before after =>
    rw [mem_labels_top, not_or, ← findIn?_eq_none_iff, ← findIn?_eq_none_iff] at h
    simp [fill, List.findSome?_append, h.1, h.2]
  | under before l t inner after ih =>
    simp only [mem_labels_under, not_or] at h
    obtain ⟨hb, hl, hi, ha⟩ := h
    rw [← findIn?_eq_none_iff] at hb ha
    rw [find?_under, hb, ha, if_neg (Ne.symm hl), ih hi, Option.none_or, Option.or_none]

lemma replace_fill {p : Place α} {s : Tree α} (h : s.label ∉ p.labels) (new : Tree α → List (Tree α)) :
    (p.fill [s]).flatMap (replace s.label new) = p.fill (new s) := by
  induction p with
  | top before after =>
    rw [mem_labels_top, not_or] at h
    simp [fill, replaceIn_of_not_mem h.1, replaceIn_of_not_mem h.2, replace_self]
  | under before l t inner after ih =>
    simp only [mem_labels_under, not_or] at h
    obtain ⟨hb, hl, hi, ha⟩ := h
    rw [fill, List.flatMap_append, List.flatMap_cons, replaceIn_of_not_mem hb, replaceIn_of_not_mem ha, replace,
      if_neg (Ne.symm hl), replaceIn_eq, ih hi, fill, List.singleton_append]

lemma find?_inside_of_not_mem {n k : α} {ts : List (Tree α)} (h : n ∉ ts.flatMap Tree.labels)
    (new : Tree α → List (Tree α)) : (ts.findSome? (find? k)).map (inside n new) = ts.findSome? (find? k) := by
  cases hk : ts.findSome? (find? k) with
  | none => rfl
  | some u =>
    obtain ⟨t, ht, hu⟩ := List.exists_of_findSome?_eq_some hk
    have hn : n ∉ u.labels := fun hn => h (List.mem_flatMap.mpr ⟨t, ht, (sublist_of_find? hu).subset hn⟩)
    rw [Option.map_some, inside_of_not_mem hn]

lemma find?_fill_of_mem {p : Place α} {s : Tree α} {k : α} (hs : s.label ∉ p.labels)
    (new : Tree α → List (Tree α)) (hold : k ∉ s.labels) (hnew : k ∉ (new s).flatMap Tree.labels) :
    (p.fill (new s)).findSome? (find? k) =
      ((p.fill [s]).findSome? (find? k)).map (inside s.label new) := by
  rw [← findIn?_eq_none_iff] at hnew
  rw [← find?_eq_none_iff] at hold
  induction p with
  | top before after =>
    rw [mem_labels_top, not_or] at hs
    simp [fill, List.findSome?_append, hnew, hold, find?_inside_of_not_mem hs.1, find?_inside_of_not_mem hs.2,
      Option.map_or]
  | under before l t inner after ih =>
    simp only [mem_labels_under, not_or] at hs
    obtain ⟨hb, hl, hi, ha⟩ := hs
    rw [find?_under, find?_under, ih hi, Option.map_or, Option.map_or, find?_inside_of_not_mem hb,
      find?_inside_of_not_mem ha]
    by_cases hk : l = k
    · simp [hk, inside, replace_fill hi]
    · simp [hk]

end Place

variable [DecidableEq α]

lemma exists_place_in {n : α} {t s : Tree α} (h : t.find? n = some s) : ∃ p : Place α, [t] = p.fill [s] := by
  induction t using ind with
  | hleaf l c =>
    simp only [find?, Option.ite_none_right_eq_some, Option.some.injEq] at h
    exact ⟨.top [] [], by rw [← h.2]; rfl⟩
  | helement l t cs ih =>
    by_cases hl : l = n
    · simp only [find?, hl, if_true, Option.some.injEq] at h
      exact ⟨.top [] [], by rw [← h, hl]; rfl⟩
    · simp only [find?, hl, if_false, findIn?_eq] at h
      obtain ⟨c, hc, hs⟩ := List.exists_of_findSome?_eq_some h
      obtain ⟨bs, as, rfl⟩ := List.append_of_mem hc
      obtain ⟨p, hp⟩ := ih c hc hs
      exact ⟨.under [] l t (p.beside bs as) [], by rw [Place.fill, Place.fill_beside, ← hp]; rfl⟩

lemma exists_place {n : α} {ts : List (Tree α)} {s : Tree α} (h : ts.findSome? (find? n) = some s) :
    ∃ p : Place α, ts = p.fill [s] := by
  obtain ⟨t, ht, hs⟩ := List.exists_of_findSome?_eq_some h
  obtain ⟨bs, as, rfl⟩ := List.append_of_mem ht
  obtain ⟨p, hp⟩ := exists_place_in hs
  exact ⟨p.beside bs as, by rw [Place.fill_beside, ← hp]; rfl⟩

theorem exists_place_apart {n : α} {ts : List (Tree α)} {s : Tree α} (hn : (ts.flatMap labels).Nodup)
    (h : ts.findSome? (find? n) = some s) :
    ∃ p : Place α, ts = p.fill [s] ∧ s.label = n ∧ p.labels.Disjoint s.labels := by
  obtain ⟨p, rfl⟩ := exists_place h
  obtain ⟨t, _, hs⟩ := List.exists_of_findSome?_eq_some h
  have hp := (p.labels_fill_perm [s]).nodup hn
  rw [List.flatMap_singleton] at hp
  exact ⟨p, rfl, label_of_find? hs, List.disjoint_of_nodup_append hp⟩

lemma find?_eq_some_iff {n : α} {ts : List (Tree α)} {s : Tree α} (hn : (ts.flatMap labels).Nodup) :
    ts.findSome? (find? n) = some s ↔ ∃ t ∈ ts, t.find? n = some s := by
  refine ⟨List.exists_of_findSome?_eq_some, ?_⟩
  rintro ⟨t, ht, hs⟩
  obtain ⟨bs, as, rfl⟩ := List.append_of_mem ht
  have hb : n ∉ bs.flatMap labels := by
    intro hb
    rw [List.flatMap_append] at hn
    have hs' : n ∈ t.labels := label_of_find? hs ▸ (sublist_of_find? hs).subset s.label_mem
    exact List.disjoint_of_nodup_append hn hb (List.mem_flatMap.mpr ⟨t, List.mem_cons_self, hs'⟩)
  rw [List.findSome?_append, findIn?_eq_none_iff.mpr hb, Option.none_or, List.findSome?_cons, hs]

lemma find?_perm {n : α} {ts us : List (Tree α)} (hn : (ts.flatMap labels).Nodup) (h : ts.Perm us) :
    ts.findSome? (find? n) = us.findSome? (find? n) := by
  have hu : (us.flatMap labels).Nodup := (h.flatMap_right labels).nodup hn
  apply Option.ext
  intro s
  rw [find?_eq_some_iff hn, find?_eq_some_iff hu]
  simp only [h.mem_iff]

end PageStencil.Markup.Tree
