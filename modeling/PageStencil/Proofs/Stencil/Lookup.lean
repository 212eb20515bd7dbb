import PageStencil.Proofs.Markup.Place
import PageStencil.Stencil.Index

namespace PageStencil.Stencil

open Markup

variable {name marker : String} {f : Forest} {i : Index} {root n : Nat}

lemma mem_markersOf {t : Markup.Tree Node} {e : String × Node} :
    e ∈ markersOf name t ↔ ∃ tag, (e.2, tag) ∈ t.elements ∧ e.1 ∈ markers name tag := by
  rw [markersOf, List.mem_flatMap]
  constructor
  · rintro ⟨⟨k, tag⟩, hk, he⟩
    obtain ⟨m, hm, rfl⟩ := List.mem_map.mp he
    exact ⟨tag, hk, hm⟩
  · rintro ⟨tag, hk, hm⟩
    exact ⟨(e.2, tag), hk, List.mem_map.mpr ⟨e.1, hm, rfl⟩⟩

namespace Index

lemma mem_build {e : String × Node} :
    e ∈ (build name f root).found ↔ ∃ t, f.find? root = some t ∧ e ∈ markersOf name t := by
  rw [build]
  cases f.find? root <;> simp

lemma mem_live : n ∈ i.live f marker ↔ (marker, n) ∈ i.found ∧ f.within i.root n = true := by
  rw [live, List.mem_filter, List.mem_map]
  constructor
  · rintro ⟨⟨⟨marker', n'⟩, hfound, rfl⟩, hw⟩
    rw [List.mem_filter, beq_iff_eq] at hfound
    obtain ⟨hfound, rfl⟩ := hfound
    exact ⟨hfound, hw⟩
  · rintro ⟨hfound, hw⟩
    exact ⟨⟨(marker, n), List.mem_filter.mpr ⟨hfound, beq_self_eq_true marker⟩, rfl⟩, hw⟩

lemma single_of_not_found (h : ∀ n, (marker, n) ∉ i.found) : i.single f marker = .error ⟨marker, 0⟩ := by
  have hlive : i.live f marker = [] := by
    rw [List.eq_nil_iff_forall_not_mem]
    exact fun n hn => h n (mem_live.mp hn).1
  rw [single, hlive]
  rfl

lemma mem_live_of_single (h : i.single f marker = .ok n) : n ∈ i.live f marker := by
  rw [single] at h
  split at h
  next k hl =>
    rw [hl, Except.ok.inj h]
    exact List.mem_singleton_self n
  next => cases h

lemma live_of_found (hfound : i.found.filter (fun e => e.1 == marker) = [(marker, n)]) :
    i.live f marker = [n].filter (f.within i.root) := by
  rw [live, hfound, List.map_singleton]

lemma single_of_found (hfound : i.found.filter (fun e => e.1 == marker) = [(marker, n)])
    (hw : f.within i.root n = true) : i.single f marker = .ok n := by
  rw [single, live_of_found hfound, List.filter_cons_of_pos hw, List.filter_nil]

lemma contains_of_found (hfound : i.found.filter (fun e => e.1 == marker) = [(marker, n)]) :
    i.contains f marker = f.within i.root n := by
  rw [contains, live_of_found hfound, List.filter_singleton]
  cases f.within i.root n <;> rfl

lemma single_build {t : Markup.Tree Node} (ht : f.find? root = some t)
    (hfound : (markersOf name t).filter (fun e => e.1 == marker) = [(marker, n)]) :
    (build name f root).single f marker = .ok n := by
  have hb : (build name f root).found = markersOf name t := by
    rw [build, ht]
    rfl
  refine single_of_found (hb ▸ hfound) ?_
  have hmem : (marker, n) ∈ markersOf name t := List.mem_of_mem_filter (hfound ▸ List.mem_singleton_self _)
  obtain ⟨tag, he, _⟩ := mem_markersOf.mp hmem
  change f.within root n = true
  rw [Forest.within, ht]
  exact Tree.contains_iff.mpr (Tree.labels_of_elements he)

def gone (f : Forest) (n : Node) : List Node := ((f.find? n).map fun t => t.elements.map (·.1)).getD []

lemma take_of_single (h : i.single f marker = .ok n) :
    i.take f marker = .ok (n, i.forget (gone f n), f.detach n) := by
  rw [take, h]
  rfl

lemma take_of_not_single {e : NotFound} (h : i.single f marker = .error e) : i.take f marker = .error e := by
  rw [take, h]
  rfl

lemma forget_subset (i : Index) (nodes : List Node) : (i.forget nodes).found ⊆ i.found := List.filter_subset_self _

lemma labels_of_gone {k : Nat} (h : k ∈ gone f n) : ∃ t, f.find? n = some t ∧ k ∈ t.labels := by
  rw [gone] at h
  cases ht : f.find? n with
  | none =>
    rw [ht] at h
    exact absurd h List.not_mem_nil
  | some t =>
    rw [ht] at h
    obtain ⟨e, he, rfl⟩ := List.mem_map.mp h
    exact ⟨t, rfl, Tree.labels_of_elements he⟩

end Index

end PageStencil.Stencil
