import PageStencil.Proofs.Markup.Confined
import PageStencil.Proofs.Running
import PageStencil.Proofs.Stencil.Lookup
import PageStencil.Studio.Basic

/-!
An index while nodes are taken out of its tree. The entries that still stand in the tree are those of an index that is
built anew, in the same order, so that the two answer every lookup alike.
-/

namespace PageStencil

open Markup

namespace Stencil

inductive Removal
  | take (marker : String)
  | detach (n : Node)
  | clear (n : Node)

def Removal.run (id : IndexId) : Removal → Session Unit
  | take marker => discard (Session.take id marker)
  | detach n => Session.edit fun f => f.detach n
  | clear n => Session.edit fun f => f.clear n

/-- One removal after the other; one that fails is passed over. -/
def Removal.runAll (id : IndexId) (rs : List Removal) (s : Studio) : Studio :=
  rs.foldl (fun s r => ((r.run id).run s).2) s

structure Index.Agrees (i j : Index) (f : Forest) : Prop where
  contains : ∀ marker, i.contains f marker = j.contains f marker
  single : ∀ marker, i.single f marker = j.single f marker
  first : ∀ marker, i.first f marker = j.first f marker

/-- A node has been taken out of the tree of `root`, with all that is below it. -/
structure TakenOut (f g : Forest) (root n : Nat) : Prop where
  alone : g.isRoot n = true
  whole : g.find? n = f.find? n
  order : ∃ before after, (f.tree root).labels = before ++ ((f.tree n).labels ++ after) ∧
    (g.tree root).labels = before ++ after
  rest : ∀ k, g.find? k = (f.find? k).map (Tree.without n)

def rootMarkers (name : String) (f : Forest) (root : Node) : List String :=
  ((f.tag? root).map (markers name)).getD []

/-- The index answers as one that is built anew. A take takes the only node of its marker out of the tree; where there
are more or none, it fails and does nothing. -/
structure Fresh (name : String) (root : Node) (id : IndexId) (s : Studio) : Prop where
  agrees : (s.index id).Agrees (Index.build name s.forest root) s.forest
  take : ∀ marker, marker ∉ rootMarkers name s.forest root →
    match (Index.build name s.forest root).single s.forest marker with
    | .ok n => ∃ later, (Session.take id marker).run s = (.ok n, later) ∧ TakenOut s.forest later.forest root n
    | .error e => (Session.take id marker).run s = (.error (.notFound e), s)

section Pruning

variable {name : String} {t : Markup.Tree Node} {n k : Nat}

structure Pruned (t u : Markup.Tree Node) : Prop where
  labels : u.labels ⊆ t.labels
  elements : u.elements = t.elements.filter fun e => u.contains e.1
  tag : u.tag? = t.tag?

lemma pruned_of_place {p : Markup.Tree.Place Node} {s u : Markup.Tree Node} {us : List (Markup.Tree Node)}
    (ht : [t] = p.fill [s]) (hu : [u] = p.fill us) (hd : p.labels.Disjoint s.labels) (htag : u.tag? = t.tag?)
    (hsub : us.flatMap Tree.labels ⊆ s.labels)
    (helements : us.flatMap Tree.elements = s.elements.filter fun e => decide (e.1 ∈ us.flatMap Tree.labels)) :
    Pruned t u := by
  have hold : ∀ k, k ∈ t.labels ↔ k ∈ p.labels ∨ k ∈ s.labels := by
    intro k
    have hm := (p.labels_fill_perm [s]).mem_iff (a := k)
    rwa [← ht, List.flatMap_singleton, List.flatMap_singleton, List.mem_append] at hm
  have hnew : ∀ k, k ∈ u.labels ↔ k ∈ p.labels ∨ k ∈ us.flatMap Tree.labels := by
    intro k
    have hm := (p.labels_fill_perm us).mem_iff (a := k)
    rwa [← hu, List.flatMap_singleton, List.mem_append] at hm
  obtain ⟨before, after, he⟩ := p.elements_around
  have haround : ∀ e ∈ before ++ after, e.1 ∈ p.labels := by
    intro e hm
    have hn := he []
    rw [List.flatMap_nil, List.nil_append] at hn
    rw [← hn] at hm
    obtain ⟨c, hc, hm⟩ := List.mem_flatMap.mp hm
    exact List.mem_flatMap.mpr ⟨c, hc, Tree.labels_of_elements hm⟩
  have hkeep : ∀ es : List (Node × Tag), (∀ e ∈ es, e.1 ∈ p.labels) →
      es.filter (fun e => u.contains e.1) = es := by
    intro es hes
    rw [List.filter_eq_self]
    intro e hm
    exact Tree.contains_iff.mpr ((hnew e.1).mpr (Or.inl (hes e hm)))
  have hcut : s.elements.filter (fun e => u.contains e.1) = us.flatMap Tree.elements := by
    rw [helements]
    apply List.filter_congr
    intro e hm
    rw [Bool.eq_iff_iff, Tree.contains_iff, hnew, decide_eq_true_iff]
    exact or_iff_right fun hp => hd hp (Tree.labels_of_elements hm)
  refine ⟨fun k hk => ?_, ?_, htag⟩
  · rw [hold]
    exact ((hnew k).mp hk).imp id fun h => hsub h
  · have hes := he [s]
    have heu := he us
    rw [← ht, List.flatMap_singleton, List.flatMap_singleton] at hes
    rw [← hu, List.flatMap_singleton] at heu
    rw [heu, hes, List.filter_append, List.filter_append, hcut,
      hkeep before fun e hm => haround e (List.mem_append_left _ hm),
      hkeep after fun e hm => haround e (List.mem_append_right _ hm)]

lemma pruned_refl (t : Markup.Tree Node) : Pruned t t where
  labels := fun _ h => h
  elements := by
    rw [eq_comm, List.filter_eq_self]
    intro e he
    exact Tree.contains_iff.mpr (Tree.labels_of_elements he)
  tag := rfl

lemma exists_place_below (hn : t.labels.Nodup) (hk : k ∈ t.labels) :
    ∃ (p : Markup.Tree.Place Node) (s : Markup.Tree Node), [t] = p.fill [s] ∧ s.label = k ∧ p.labels.Disjoint s.labels := by
  have hn' : ([t].flatMap Tree.labels).Nodup := by rwa [List.flatMap_singleton]
  cases hs : [t].findSome? (Tree.find? k) with
  | none =>
    rw [Tree.findIn?_eq_none_iff, List.flatMap_singleton] at hs
    exact absurd hk hs
  | some s =>
    obtain ⟨p, hp, hl, hd⟩ := Tree.exists_place_apart hn' hs
    exact ⟨p, s, hp, hl, hd⟩

lemma pruned_without (hn : t.labels.Nodup) (k : Nat) : Pruned t (t.without k) := by
  by_cases hk : t.label ≠ k ∧ k ∈ t.labels
  · obtain ⟨p, s, hp, rfl, hd⟩ := exists_place_below hn hk.2
    have hr := Markup.Tree.Place.replace_fill (fun hm => hd hm s.label_mem) fun _ => []
    rw [← hp, List.flatMap_singleton, Tree.replace_of_ne hk.1, ← Tree.without_of_ne hk.1] at hr
    refine pruned_of_place hp hr hd ?_ (List.nil_subset _) ?_
    · rw [Tree.without_of_ne hk.1]
      cases t <;> rfl
    · simp
  · have ht : t.without k = t := by
      by_cases hl : t.label = k
      · exact if_pos hl
      · exact Tree.without_of_not_mem fun hm => hk ⟨hl, hm⟩
    rw [ht]
    exact pruned_refl t

lemma pruned_clear (hn : t.labels.Nodup) (k : Nat) : Pruned t (t.modify k (Tree.withChildren [])) := by
  by_cases hk : k ∈ t.labels
  · obtain ⟨p, s, hp, rfl, hd⟩ := exists_place_below hn hk
    have hr := Markup.Tree.Place.replace_fill (fun hm => hd hm s.label_mem) fun u => [u.withChildren []]
    rw [← hp, List.flatMap_singleton, Tree.replace_single] at hr
    refine pruned_of_place hp hr hd ?_ ?_ ?_
    · rw [Tree.modify]
      split
      · cases t <;> rfl
      · cases t <;> rfl
    · cases s <;> simp [Tree.withChildren, Tree.labels]
    · have hs : s.labels.Nodup := by
        have hall := (p.labels_fill_perm [s]).nodup (by rwa [← hp, List.flatMap_singleton])
        rw [List.flatMap_singleton] at hall
        exact hall.of_append_right
      cases s with
      | leaf l c => rfl
      | element l tag cs =>
        rw [Tree.labels, List.nodup_cons] at hs
        simp only [Tree.withChildren, List.flatMap_singleton, Tree.elements, Tree.labels, Tree.elementsOfAll_eq,
          Tree.labelsOfAll_eq, List.flatMap_nil, List.mem_singleton] at hs ⊢
        rw [List.filter_cons_of_pos (by simp), List.filter_eq_nil_iff.mpr]
        intro e he hl
        obtain ⟨c, hc, he⟩ := List.mem_flatMap.mp he
        exact hs.1 (of_decide_eq_true hl ▸ List.mem_flatMap.mpr ⟨c, hc, Tree.labels_of_elements he⟩)
  · rw [Tree.modify_of_not_mem hk]
    exact pruned_refl t

lemma Pruned.markersOf {u : Markup.Tree Node} (h : Pruned t u) (name : String) :
    markersOf name u = (markersOf name t).filter fun e => u.contains e.2 := by
  rw [Stencil.markersOf, Stencil.markersOf, h.elements]
  induction t.elements with
  | nil => rfl
  | cons e es ih =>
    obtain ⟨k, tag⟩ := e
    have hmap : ((markers name tag).map (·, k)).filter (fun e => u.contains e.2) =
        if u.contains k = true then (markers name tag).map (·, k) else [] := by
      rw [List.filter_map]
      split
      next hk => simp [Function.comp_def, hk]
      next hk => simp [Function.comp_def, hk]
    rw [List.flatMap_cons, List.filter_append, hmap, ← ih, List.filter_cons]
    split
    · rw [List.flatMap_cons]
    · rw [List.nil_append]

end Pruning

structure Index.Current (i : Index) (name : String) (f : Forest) (root : Nat) : Prop where
  same_root : i.root = root
  found : (i.found.filter fun e => f.within root e.2) = (Index.build name f root).found

namespace Index.Current

variable {name : String} {f g : Forest} {root n : Nat} {i : Index} {t u : Markup.Tree Node}

lemma within_eq (ht : f.find? root = some t) (k : Nat) : f.within root k = t.contains k := by
  rw [Forest.within, ht]
  rfl

lemma build_found (ht : f.find? root = some t) : (Index.build name f root).found = markersOf name t := by
  rw [Index.build, ht]
  rfl

lemma build (name : String) (f : Forest) (root : Nat) : (Index.build name f root).Current name f root where
  same_root := rfl
  found := by
    rw [List.filter_eq_self]
    intro e he
    obtain ⟨t, ht, hmarked⟩ := Index.mem_build.mp he
    obtain ⟨tag, hk, _⟩ := mem_markersOf.mp hmarked
    rw [within_eq ht]
    exact Tree.contains_iff.mpr (Tree.labels_of_elements hk)

lemma live_eq (h : i.Current name f root) (marker : String) :
    i.live f marker = (Index.build name f root).live f marker := by
  have live_standing : ∀ j : Index, j.root = root →
      j.live f marker = ((j.found.filter fun e => f.within root e.2).filter fun e => e.1 == marker).map (·.2) := by
    rintro j rfl
    rw [Index.live, List.filter_map, List.filter_filter, List.filter_filter]
    congr 1
    apply List.filter_congr
    intro e _
    exact Bool.and_comm _ _
  rw [live_standing i h.same_root, live_standing (Index.build name f root) rfl, h.found,
    (build name f root).found]

lemma agrees (h : i.Current name f root) : i.Agrees (Index.build name f root) f where
  contains marker := by rw [Index.contains, Index.contains, h.live_eq]
  single marker := by rw [Index.single, Index.single, h.live_eq]
  first marker := by rw [Index.first, Index.first, h.live_eq]

lemma prune (h : i.Current name f root) (ht : f.find? root = some t) (hu : g.find? root = some u)
    (hp : Pruned t u) : i.Current name g root where
  same_root := h.same_root
  found := by
    rw [build_found hu, hp.markersOf, ← build_found ht, ← h.found, List.filter_filter]
    apply List.filter_congr
    intro e _
    rw [within_eq hu, within_eq ht, Bool.eq_iff_iff, Bool.and_eq_true, Tree.contains_iff, Tree.contains_iff]
    exact ⟨fun hm => ⟨hm, hp.labels hm⟩, fun hm => hm.1⟩

lemma of_none (h : i.Current name f root) (ht : f.find? root = none) (hu : g.find? root = none) :
    i.Current name g root where
  same_root := h.same_root
  found := by
    have hf := h.found
    simp only [Forest.within, Index.build, ht, hu] at hf ⊢
    exact hf

lemma detach (hf : f.Sound) (h : i.Current name f root) (n : Nat) : i.Current name (f.detach n) root := by
  cases ht : f.find? root with
  | none => exact h.of_none ht (by rw [hf.find?_detach, ht]; rfl)
  | some t => exact h.prune ht (by rw [hf.find?_detach, ht]; rfl) (pruned_without (hf.nodup_of_find? ht) n)

lemma clear (hf : f.Sound) (h : i.Current name f root) (n : Nat) : i.Current name (f.clear n) root := by
  cases ht : f.find? root with
  | none => exact h.of_none ht (by rw [hf.find?_clear, ht]; rfl)
  | some t => exact h.prune ht (by rw [hf.find?_clear, ht]; rfl) (pruned_clear (hf.nodup_of_find? ht) n)

lemma forget (h : i.Current name f root) {gone : List Node} (hgone : ∀ k ∈ gone, f.within root k = false) :
    (i.forget gone).Current name f root where
  same_root := h.same_root
  found := by
    rw [← h.found, Index.forget, List.filter_filter]
    apply List.filter_congr
    intro e _
    by_cases hk : e.2 ∈ gone
    · rw [hgone e.2 hk, Bool.false_and]
    · rw [List.contains_eq_mem, decide_eq_false hk, Bool.not_false, Bool.and_true]

end Index.Current

section Taking

variable {name : String} {f : Forest} {root n : Nat} {i : Index} {t u : Markup.Tree Node} {marker : String}

lemma tag?_of_elements {tag : Tag} (hn : t.labels.Nodup) (h : (t.label, tag) ∈ t.elements) : t.tag? = some tag := by
  cases t with
  | leaf l c => simp [Tree.elements] at h
  | element l tag' cs =>
    rw [Tree.elements, List.mem_cons, Tree.elementsOfAll_eq] at h
    rcases h with h | h
    · rw [(Prod.mk.inj h).2]
      rfl
    · obtain ⟨c, hc, h⟩ := List.mem_flatMap.mp h
      rw [Tree.labels, Tree.labelsOfAll_eq, List.nodup_cons] at hn
      exact absurd (List.mem_flatMap.mpr ⟨c, hc, Tree.labels_of_elements h⟩) hn.1

lemma below_of_single (hf : f.Sound) (hc : i.Current name f root) (h : i.single f marker = .ok n)
    (hm : marker ∉ rootMarkers name f root) : ∃ t, f.find? root = some t ∧ n ∈ t.labels ∧ t.label ≠ n := by
  have hlive : n ∈ (Index.build name f root).live f marker := hc.live_eq marker ▸ Index.mem_live_of_single h
  obtain ⟨t, ht, hmarked⟩ := Index.mem_build.mp (Index.mem_live.mp hlive).1
  obtain ⟨tag, he, hmem⟩ := mem_markersOf.mp hmarked
  refine ⟨t, ht, Tree.labels_of_elements he, ?_⟩
  rintro rfl
  refine hm ?_
  rw [rootMarkers, Forest.tag?, ht, Option.bind_some, tag?_of_elements (hf.nodup_of_find? ht) he]
  exact hmem

lemma takenOut_detach (hf : f.Sound) (ht : f.find? root = some t) (hn : n ∈ t.labels) (hne : t.label ≠ n) :
    TakenOut f (f.detach n) root n ∧ ∀ k ∈ (f.tree n).labels, (f.detach n).within root k = false := by
  obtain ⟨p, s, hp, rfl, hd⟩ := exists_place_below (hf.nodup_of_find? ht) hn
  have hs : f.find? s.label = some s := by
    have hmem : s.label ∉ p.labels := fun hm => hd hm s.label_mem
    have h₁ := Markup.Tree.Place.find?_fill_of_not_mem hmem [s]
    rw [← hp, List.findSome?_singleton, List.findSome?_singleton, Tree.find?_label] at h₁
    rw [hf.find?_of_mem ht hn, h₁]
  have hwithout : [t.without s.label] = p.fill [] := by
    have hfill := Markup.Tree.Place.replace_fill (fun hm => hd hm s.label_mem) fun _ => []
    rwa [← hp, List.flatMap_singleton, Tree.replace_of_ne hne, ← Tree.without_of_ne hne] at hfill
  have hroot : (f.detach s.label).find? root = some (t.without s.label) := by rw [hf.find?_detach, ht, Option.map_some]
  have hsub : f.tree s.label = s := by rw [Forest.tree, hs, Option.getD_some]
  refine ⟨⟨?_, ?_, ?_, fun k => hf.find?_detach⟩, ?_⟩
  · rw [Forest.detach, hs, Forest.isRoot]
    simp [Forest.insert]
  · rw [hf.find?_detach, hs, Option.map_some, Tree.without_self]
  · obtain ⟨before, after, h⟩ := p.labels_around
    have hold := h [s]
    have hnew := h []
    rw [← hp, List.flatMap_singleton, List.flatMap_singleton] at hold
    rw [← hwithout, List.flatMap_singleton] at hnew
    refine ⟨before, after, ?_, ?_⟩
    · rw [Forest.tree, ht, Option.getD_some, hold, hsub]
    · rw [Forest.tree, hroot, Option.getD_some, hnew]
      rfl
  · intro k hk
    rw [hsub] at hk
    rw [Index.Current.within_eq hroot, ← Bool.not_eq_true, Tree.contains_iff]
    intro hm
    refine hd ?_ hk
    rwa [Markup.Tree.Place.labels, ← hwithout, List.flatMap_singleton]

lemma rootMarkers_of_pruned {g : Forest} (ht : f.find? root = some t) (hu : g.find? root = some u) (h : Pruned t u) :
    rootMarkers name g root = rootMarkers name f root := by
  rw [rootMarkers, rootMarkers, Forest.tag?, Forest.tag?, ht, hu, Option.bind_some, Option.bind_some, h.tag]

lemma rootMarkers_detach (hf : f.Sound) (name : String) (root n : Nat) :
    rootMarkers name (f.detach n) root = rootMarkers name f root := by
  cases ht : f.find? root with
  | none => rw [rootMarkers, rootMarkers, Forest.tag?, Forest.tag?, hf.find?_detach, ht, Option.map_none]
  | some t =>
    exact rootMarkers_of_pruned ht (by rw [hf.find?_detach, ht, Option.map_some])
      (pruned_without (hf.nodup_of_find? ht) n)

lemma rootMarkers_clear (hf : f.Sound) (name : String) (root n : Nat) :
    rootMarkers name (f.clear n) root = rootMarkers name f root := by
  cases ht : f.find? root with
  | none => rw [rootMarkers, rootMarkers, Forest.tag?, Forest.tag?, hf.find?_clear, ht, Option.map_none]
  | some t =>
    exact rootMarkers_of_pruned ht (by rw [hf.find?_clear, ht, Option.map_some])
      (pruned_clear (hf.nodup_of_find? ht) n)

end Taking

structure InUse (name : String) (root : Nat) (top : List String) (id : IndexId) (s : Studio) : Prop where
  sound : s.forest.Sound
  current : (s.index id).Current name s.forest root
  held : id < s.indexes.size
  top : rootMarkers name s.forest root = top

namespace InUse

variable {name : String} {root : Nat} {top : List String} {id : IndexId} {s : Studio}

lemma run_take (id : IndexId) (marker : String) (s : Studio) :
    (Session.take id marker).run s = match (s.index id).take s.forest marker with
      | .ok (n, rest, forest) => (.ok n, { s with forest, indexes := s.indexes.setIfInBounds id rest })
      | .error e => (.error (.notFound e), s) := by
  rw [Session.take, run_bind_ok (run_get s)]
  cases (s.index id).take s.forest marker <;> rfl

lemma run_take_error {marker : String} {e : NotFound} (h : (s.index id).single s.forest marker = .error e) :
    (Session.take id marker).run s = (.error (.notFound e), s) := by
  rw [run_take, Index.take_of_not_single h]

lemma fst_run_take {marker : String} {n : Node} (h : (s.index id).single s.forest marker = .ok n) :
    ((Session.take id marker).run s).1 = .ok n := by
  rw [run_take, Index.take_of_single h]

lemma index_set (held : id < s.indexes.size) (rest : Index) (forest : Forest) :
    ({ s with forest, indexes := s.indexes.setIfInBounds id rest } : Studio).index id = rest := by
  simp [Studio.index, held]

lemma take (h : InUse name root top id s) {marker : String} (hm : marker ∉ top) :
    match (Index.build name s.forest root).single s.forest marker with
    | .ok n => ∃ later, (Session.take id marker).run s = (.ok n, later) ∧ TakenOut s.forest later.forest root n ∧
        InUse name root top id later
    | .error e => (Session.take id marker).run s = (.error (.notFound e), s) := by
  rw [← h.current.agrees.single]
  cases hs : (s.index id).single s.forest marker with
  | error e => exact run_take_error hs
  | ok n =>
    rw [run_take, Index.take_of_single hs]
    obtain ⟨t, ht, hn, hne⟩ := below_of_single h.sound h.current hs (h.top ▸ hm)
    obtain ⟨hout, hgone⟩ := takenOut_detach h.sound ht hn hne
    refine ⟨_, rfl, hout, h.sound.detach n, ?_, ?_, ?_⟩
    · rw [index_set h.held]
      refine (h.current.detach h.sound n).forget fun k hk => hgone k ?_
      obtain ⟨u, hu, hmem⟩ := Index.labels_of_gone hk
      rwa [Forest.tree, hu, Option.getD_some]
    · rw [Array.size_setIfInBounds]
      exact h.held
    · rw [← h.top]
      exact rootMarkers_detach h.sound name root n

lemma step (h : InUse name root top id s) {r : Removal} (hr : ∀ marker, r = .take marker → marker ∉ top) :
    InUse name root top id ((r.run id).run s).2 := by
  cases r with
  | take marker =>
    have ht := h.take (hr marker rfl)
    rw [Removal.run, run_discard]
    split at ht
    next =>
      obtain ⟨later, hrun, _, hlater⟩ := ht
      rwa [hrun]
    next => rwa [ht]
  | detach n =>
    exact ⟨h.sound.detach n, h.current.detach h.sound n, h.held, h.top ▸ rootMarkers_detach h.sound name root n⟩
  | clear n =>
    exact ⟨h.sound.clear n, h.current.clear h.sound n, h.held, h.top ▸ rootMarkers_clear h.sound name root n⟩

lemma runAll (h : InUse name root top id s) {rs : List Removal}
    (hrs : ∀ marker, Removal.take marker ∈ rs → marker ∉ top) : InUse name root top id (Removal.runAll id rs s) := by
  induction rs generalizing s with
  | nil => exact h
  | cons r rs ih =>
    refine ih (h.step fun marker hr => hrs marker ?_) fun marker hm => hrs marker (List.mem_cons_of_mem _ hm)
    rw [hr]
    exact List.mem_cons_self

end InUse

lemma InUse.fresh {name : String} {root : Nat} {top : List String} {id : IndexId} {s : Studio}
    (h : InUse name root top id s) : Fresh name root id s where
  agrees := h.current.agrees
  take marker hm := by
    have ht := h.take (h.top ▸ hm)
    split at ht
    next =>
      obtain ⟨later, hrun, hout, _⟩ := ht
      exact ⟨later, hrun, hout⟩
    next => exact ht

/-- Whatever is taken out of a tree, by a marker that its root has not or by hand, an index of the tree stays fresh. -/
theorem index_stays_fresh {s : Studio} (hs : s.forest.Sound) (name : String) (root : Node) (rs : List Removal)
    (hrs : ∀ marker, Removal.take marker ∈ rs → marker ∉ rootMarkers name s.forest root) :
    ∃ id s₁, (Session.newIndex name root).run s = (.ok id, s₁) ∧ Fresh name root id (Removal.runAll id rs s₁) := by
  refine ⟨_, _, rfl, ?_⟩
  have hstart : InUse name root (rootMarkers name s.forest root) s.indexes.size
      { s with indexes := s.indexes.push (.build name s.forest root) } := by
    refine ⟨hs, ?_, by simp, rfl⟩
    simpa [Studio.index] using Index.Current.build name s.forest root
  exact (hstart.runAll hrs).fresh

def cardStudio : Studio where
  source := default
  forest.trees := [.element 0 { name := "html" } [
    .element 1 { name := "div", attributes := [("data-stencil", .text "card")] } [
      .element 2 { name := "span", attributes := [("data-stencil", .text "head link")] } [
        .element 3 { name := "a", attributes := [("data-stencil", .text "link")] } []],
      .leaf 4 (.text "Text")]]]
  forest.next := 5

def cardRemovals : List Removal := [.take "link", .detach 3, .take "link", .clear 1]

def cardIndexed : Studio := { cardStudio with indexes := #[.build markerAttribute cardStudio.forest 1] }

lemma take_card_fails :
    (Session.take 0 "link").run cardIndexed = (.error (.notFound ⟨"link", 2⟩), cardIndexed) :=
  InUse.run_take_error (by decide +kernel)

lemma take_card : ((Session.take 0 "link").run (Removal.runAll 0 (cardRemovals.take 2) cardIndexed)).1 = .ok 2 := by
  have hrun : Removal.runAll 0 (cardRemovals.take 2) cardIndexed =
      { cardIndexed with forest := cardStudio.forest.detach 3 } := by
    rw [cardRemovals, List.take_succ_cons, List.take_succ_cons, List.take_zero, Removal.runAll, List.foldl_cons,
      Removal.run, run_discard, take_card_fails]
    rfl
  rw [hrun]
  exact InUse.fst_run_take (by decide +kernel)

theorem card_stays_fresh : cardStudio.forest.Sound ∧
    (∀ marker, Removal.take marker ∈ cardRemovals → marker ∉ rootMarkers markerAttribute cardStudio.forest 1) ∧
    ∃ id s₁, (Session.newIndex markerAttribute 1).run cardStudio = (.ok id, s₁) ∧
      ((Session.take id "link").run s₁).1 = .error (.notFound ⟨"link", 2⟩) ∧
      ((Session.take id "link").run (Removal.runAll id (cardRemovals.take 2) s₁)).1 = .ok 2 ∧
      Fresh markerAttribute 1 id (Removal.runAll id cardRemovals s₁) := by
  have hsound : cardStudio.forest.Sound := ⟨by decide, by decide⟩
  have hroot : ∀ marker, Removal.take marker ∈ cardRemovals →
      marker ∉ rootMarkers markerAttribute cardStudio.forest 1 := by
    intro marker hm
    have hlink : marker = "link" := by simpa [cardRemovals] using hm
    rw [hlink]
    decide
  obtain ⟨id, s₁, hrun, hfresh⟩ := index_stays_fresh hsound markerAttribute 1 cardRemovals hroot
  have hindexed : (Session.newIndex markerAttribute 1).run cardStudio = (.ok 0, cardIndexed) := rfl
  obtain ⟨hid, rfl⟩ := Prod.mk.inj (hrun.symm.trans hindexed)
  obtain rfl := Except.ok.inj hid
  exact ⟨hsound, hroot, _, _, hrun, congrArg Prod.fst take_card_fails, take_card, hfresh⟩

end Stencil

end PageStencil
