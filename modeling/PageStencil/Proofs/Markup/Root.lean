import PageStencil.Proofs.Markup.Forest

/-!
The root of a fragment in its document. It is the same whether the document has been numbered or not, and it is found
under its own label.
-/

namespace PageStencil.Markup.Tree

variable {α : Type}

@[simp] lemma children_erase (t : Tree α) : t.erase.children = t.children.map erase := by
  cases t <;> simp [erase, children]

@[simp] lemma isElement_erase (t : Tree α) : t.erase.isElement = t.isElement := by
  cases t <;> rfl

lemma erase_append (cs : List (Tree α)) (t : Tree α) : (t.append cs).erase = t.erase.append (cs.map erase) := by
  cases t <;> simp [erase, append]

lemma erase_mapTags (change : Tag → Tag) (t : Tree α) : (t.mapTags change).erase = t.erase.mapTags change := by
  induction t using ind with
  | hleaf l c => rfl
  | helement l t cs ih =>
    rw [mapTags, erase, erase, mapTags, mapTagsOfAll_eq, mapTagsOfAll_eq, eraseAll_eq, eraseAll_eq, List.map_map,
      List.map_map]
    congr 1
    exact List.map_congr_left ih

mutual

lemma erase_number (start : Nat) : (t : Tree α) → (t.number start).erase = t.erase
  | leaf _ _ => rfl
  | element _ _ cs => by rw [number, erase, erase, erase_numberAll (start + 1) cs]

lemma erase_numberAll (start : Nat) : (ts : List (Tree α)) → eraseAll (numberAll start ts) = eraseAll ts
  | [] => rfl
  | t :: ts => by rw [numberAll, eraseAll, eraseAll, erase_number start t, erase_numberAll (start + t.size) ts]

end

mutual

lemma size_erase : (t : Tree α) → t.erase.size = t.size
  | leaf _ _ => rfl
  | element _ _ cs => by rw [erase, size, size, sizeAll_erase cs]

lemma sizeAll_erase : (ts : List (Tree α)) → sizeAll (eraseAll ts) = sizeAll ts
  | [] => rfl
  | t :: ts => by rw [eraseAll, sizeAll, sizeAll, size_erase t, sizeAll_erase ts]

end

mutual

lemma number_erase (start : Nat) : (t : Tree α) → t.erase.number start = t.number start
  | leaf _ _ => rfl
  | element _ _ cs => by rw [erase, number, number, numberAll_erase (start + 1) cs]

lemma numberAll_erase (start : Nat) : (ts : List (Tree α)) → numberAll start (eraseAll ts) = numberAll start ts
  | [] => rfl
  | t :: ts => by
    rw [eraseAll, numberAll, numberAll, number_erase start t, size_erase, numberAll_erase (start + t.size) ts]

end

lemma erase_unit (t : Tree Unit) : t.erase = t := by
  induction t using ind with
  | hleaf l c => rfl
  | helement l t cs ih => rw [erase, eraseAll_eq, List.map_congr_left ih, List.map_id']

lemma firstElement?_erase (ts : List (Tree α)) : firstElement? (ts.map erase) = (firstElement? ts).map erase := by
  rw [firstElement?, firstElement?, List.find?_map]
  congr 2
  exact funext isElement_erase

mutual

lemma descendant?_erase (name : String) : (t : Tree α) → t.erase.descendant? name = (t.descendant? name).map erase
  | leaf _ _ => rfl
  | element _ _ cs => by rw [erase, descendant?, descendant?, descendantIn?_erase name cs]

lemma descendantIn?_erase (name : String) :
    (ts : List (Tree α)) → descendantIn? name (eraseAll ts) = (descendantIn? name ts).map erase
  | [] => by rw [eraseAll, descendantIn?, descendantIn?, Option.map_none]
  | leaf _ _ :: ts => by rw [eraseAll, erase, descendantIn?, descendantIn?, descendantIn?_erase name ts]
  | element _ t cs :: ts => by
    rw [eraseAll, erase, descendantIn?, descendantIn?, descendantIn?_erase name cs, descendantIn?_erase name ts]
    split
    · rw [Option.map_some, erase]
    · cases descendantIn? name cs <;> rfl

end

theorem fragmentRoot?_erase (t : Tree α) : t.erase.fragmentRoot? = t.fragmentRoot?.map erase := by
  rw [fragmentRoot?, fragmentRoot?, descendant?_erase]
  cases t.descendant? "body" with
  | none => rw [Option.map_none, Option.getD_none, Option.getD_none, children_erase, firstElement?_erase]
  | some body => rw [Option.map_some, Option.getD_some, Option.getD_some, children_erase, firstElement?_erase]

lemma descendantIn?_eq_some {name : String} {ts : List (Tree α)} {u : Tree α} (h : descendantIn? name ts = some u) :
    ∃ c ∈ ts, c = u ∨ c.descendant? name = some u := by
  induction ts with
  | nil =>
    rw [descendantIn?] at h
    cases h
  | cons c ts ih =>
    cases c with
    | leaf l c =>
      rw [descendantIn?] at h
      obtain ⟨d, hd, hu⟩ := ih h
      exact ⟨d, List.mem_cons_of_mem _ hd, hu⟩
    | element l t cs =>
      rw [descendantIn?] at h
      split at h
      · exact ⟨_, List.mem_cons_self, Or.inl (Option.some.inj h)⟩
      · cases hc : descendantIn? name cs with
        | some v =>
          rw [hc] at h
          refine ⟨_, List.mem_cons_self, Or.inr ?_⟩
          rw [descendant?, hc]
          exact h
        | none =>
          rw [hc] at h
          obtain ⟨d, hd, hu⟩ := ih h
          exact ⟨d, List.mem_cons_of_mem _ hd, hu⟩

lemma nodup_of_child {t c : Tree α} (hn : t.labels.Nodup) (hc : c ∈ t.children) : c.labels.Nodup := by
  rw [labels_eq, List.nodup_cons] at hn
  exact (sublist_flatMap hc labels).nodup hn.2

variable [DecidableEq α]

lemma find?_of_child {t c s : Tree α} {n : α} (hn : t.labels.Nodup) (hc : c ∈ t.children) (h : c.find? n = some s) :
    t.find? n = some s := by
  rw [labels_eq, List.nodup_cons] at hn
  have hmem : n ∈ c.labels := label_of_find? h ▸ (sublist_of_find? h).subset s.label_mem
  have hne : t.label ≠ n := by
    rintro rfl
    exact hn.1 (List.mem_flatMap.mpr ⟨c, hc, hmem⟩)
  rw [find?_of_ne hne, find?_eq_some_iff hn.2]
  exact ⟨c, hc, h⟩

lemma find?_of_descendant? {name : String} {t u : Tree α} (hn : t.labels.Nodup) (h : t.descendant? name = some u) :
    t.find? u.label = some u := by
  induction t using ind with
  | hleaf l c => cases h
  | helement l t cs ih =>
    obtain ⟨c, hc, rfl | hu⟩ := descendantIn?_eq_some h
    · exact find?_of_child hn hc c.find?_label
    · exact find?_of_child hn hc (ih c hc (nodup_of_child hn hc) hu)

theorem find?_of_fragmentRoot? {t u : Tree α} (hn : t.labels.Nodup) (h : t.fragmentRoot? = some u) :
    t.find? u.label = some u := by
  have hfirst : ∀ b : Tree α, firstElement? b.children = some u → u ∈ b.children := fun b hu => List.mem_of_find?_eq_some hu
  rw [fragmentRoot?] at h
  cases hb : t.descendant? "body" with
  | none =>
    rw [hb, Option.getD_none] at h
    exact find?_of_child hn (hfirst t h) u.find?_label
  | some b =>
    rw [hb, Option.getD_some] at h
    have hbody := find?_of_descendant? hn hb
    have hbn : b.labels.Nodup := (sublist_of_find? hbody).nodup hn
    have hub := find?_of_child hbn (hfirst b h) u.find?_label
    have hn' : ([t].flatMap labels).Nodup := by rwa [List.flatMap_singleton]
    obtain ⟨p, hp, _, hd⟩ := exists_place_apart hn' (by rw [List.findSome?_singleton, hbody])
    have hmem : u.label ∈ b.labels := (sublist_of_find? hub).subset u.label_mem
    have hfill := Place.find?_fill_of_not_mem (fun hm => hd hm hmem) [b]
    rwa [← hp, List.findSome?_singleton, List.findSome?_singleton, hub] at hfill

end PageStencil.Markup.Tree

namespace PageStencil.Markup.Forest.Sound

lemma find?_child {f : Forest} (hf : f.Sound) {n : Nat} {t c : Tree Node} (h : f.find? n = some t)
    (hc : c ∈ t.children) : f.find? c.label = some c := by
  have hmem : c.label ∈ t.labels := by
    rw [Tree.labels_eq]
    exact List.mem_cons_of_mem _ (List.mem_flatMap.mpr ⟨c, hc, c.label_mem⟩)
  rw [hf.find?_of_mem h hmem]
  exact Tree.find?_of_child (hf.nodup_of_find? h) hc c.find?_label

lemma find?_mapTags_self {f : Forest} (hf : f.Sound) {n : Nat} {t : Tree Node} (h : f.find? n = some t)
    (change : Tag → Tag) : (f.update n (Tree.mapTags change)).find? n = some (t.mapTags change) := by
  have hl := label_of_find? h
  have hself : (t.mapTags change).find? n = some (t.mapTags change) := by
    have hlabel : (t.mapTags change).label = n := by
      rw [← hl]
      cases t <;> rfl
    exact hlabel ▸ (t.mapTags change).find?_label
  rw [Forest.update, hf.find?_replace_of_mem h (hl ▸ t.label_mem), List.findSome?_cons, hself]

end PageStencil.Markup.Forest.Sound
