import Mathlib.Algebra.GroupWithZero.Nat
import PageStencil.Proofs.Markup.Local
import PageStencil.Proofs.Stencil.Lookup

/-!
Lookup of a marker, against the nodes of the tree that have it. An index has an entry for each time that a node has a
marker, so a strict lookup finds a node if it is the only one that has the marker, and has it once.
-/

namespace PageStencil.Stencil

open Markup

variable {name marker : String} {f : Forest} {root n : Nat} {i : Index} {e : NotFound}

def Carries (name marker : String) (f : Forest) (n : Node) : Prop :=
  ∃ tag, f.tag? n = some tag ∧ marker ∈ markers name tag

def occurrences (name marker : String) (f : Forest) (n : Node) : Nat :=
  ((f.tag? n).map fun tag => (markers name tag).count marker).getD 0

lemma occurrences_pos_iff : 0 < occurrences name marker f n ↔ Carries name marker f n := by
  rw [occurrences, Carries]
  cases f.tag? n with
  | none => simp
  | some tag => simp [List.count_pos_iff]

instance (name marker : String) (f : Forest) (n : Node) : Decidable (Carries name marker f n) :=
  decidable_of_iff _ occurrences_pos_iff

def carriers (name marker : String) (f : Forest) (root : Node) : List Node :=
  (f.tree root).labels.filter fun n => Carries name marker f n

def totalOccurrences (name marker : String) (f : Forest) (root : Node) : Nat :=
  ((carriers name marker f root).map (occurrences name marker f)).sum

def answerOf (marker : String) : List Node → Except NotFound Node
  | [n] => .ok n
  | ns => .error ⟨marker, ns.length⟩

lemma mem_carriers : n ∈ carriers name marker f root ↔ n ∈ (f.tree root).labels ∧ Carries name marker f n := by
  rw [carriers, List.mem_filter, decide_eq_true_eq]

lemma nodup_carriers (hf : f.Sound) : (carriers name marker f root).Nodup := by
  refine List.Nodup.filter _ ?_
  rw [Forest.tree]
  cases ht : f.find? root with
  | none => exact List.nodup_singleton root
  | some t => exact hf.nodup_of_find? ht

section Repeated

variable {times : Node → Nat} {ns : List Node}

def repeated (times : Node → Nat) (ns : List Node) : List Node := ns.flatMap fun n => List.replicate (times n) n

lemma repeated_cons (times : Node → Nat) (n : Node) (ns : List Node) :
    repeated times (n :: ns) = List.replicate (times n) n ++ repeated times ns := List.flatMap_cons

lemma length_repeated (times : Node → Nat) (ns : List Node) : (repeated times ns).length = (ns.map times).sum := by
  simp [repeated, List.length_flatMap]

lemma repeated_filter (times : Node → Nat) (ns : List Node) :
    repeated times (ns.filter fun n => 0 < times n) = repeated times ns := by
  induction ns with
  | nil => rfl
  | cons n ns ih =>
    rw [List.filter_cons, repeated_cons]
    split_ifs with h
    · rw [repeated_cons, ih]
    · have hzero : times n = 0 := by simpa using h
      rw [hzero, List.replicate_zero, List.nil_append, ih]

lemma head?_repeated (h : ∀ n ∈ ns, 0 < times n) : (repeated times ns).head? = ns.head? := by
  cases ns with
  | nil => rfl
  | cons n ns =>
    obtain ⟨k, hk⟩ := Nat.exists_eq_succ_of_ne_zero (Nat.ne_of_gt (h n List.mem_cons_self))
    rw [repeated_cons, hk, List.replicate_succ, List.cons_append, List.head?_cons, List.head?_cons]

lemma length_le_sum (h : ∀ n ∈ ns, 0 < times n) : ns.length ≤ (ns.map times).sum := by
  induction ns with
  | nil => exact Nat.le_refl 0
  | cons n ns ih =>
    obtain ⟨hn, hns⟩ := List.forall_mem_cons.mp h
    have := ih hns
    rw [List.map_cons, List.sum_cons, List.length_cons]
    omega

lemma sum_eq_length_iff (h : ∀ n ∈ ns, 0 < times n) :
    (ns.map times).sum = ns.length ↔ ∀ n ∈ ns, times n = 1 := by
  induction ns with
  | nil => simp
  | cons n ns ih =>
    obtain ⟨hn, hns⟩ := List.forall_mem_cons.mp h
    have := length_le_sum hns
    rw [List.map_cons, List.sum_cons, List.length_cons, List.forall_mem_cons, ← ih hns]
    omega

lemma repeated_eq_singleton_iff (h : ∀ n ∈ ns, 0 < times n) : repeated times ns = [n] ↔ ns = [n] ∧ times n = 1 := by
  constructor
  · intro heq
    have hsum : (ns.map times).sum = 1 := by rw [← length_repeated, heq, List.length_singleton]
    have hhead : ns.head? = some n := by rw [← head?_repeated h, heq, List.head?_singleton]
    have hle := length_le_sum h
    obtain ⟨rest, rfl⟩ := List.head?_eq_some_iff.mp hhead
    have hrest : rest = [] := by
      rw [hsum, List.length_cons] at hle
      exact List.length_eq_zero_iff.mp (by omega)
    subst hrest
    exact ⟨rfl, by simpa using hsum⟩
  · rintro ⟨rfl, hone⟩
    rw [repeated, List.flatMap_singleton, hone, List.replicate_one]

lemma repeated_of_once (h : ∀ n ∈ ns, times n = 1) : repeated times ns = ns := by
  rw [repeated, List.flatMap_congr fun n hn => congrArg (List.replicate · n) (h n hn)]
  exact List.flatMap_singleton' ns

end Repeated

section Entries

lemma elements_eq (hf : f.Sound) {t : Markup.Tree Node} (ht : f.find? t.label = some t) :
    t.elements = t.labels.filterMap fun n => (f.tag? n).map fun tag => (n, tag) := by
  induction t using Markup.Tree.ind with
  | hleaf l c =>
    have hnone : f.tag? l = none := by
      rw [Forest.tag?, show f.find? l = some (.leaf l c) from ht]
      rfl
    rw [Markup.Tree.elements, Markup.Tree.labels, List.filterMap_cons, hnone]
    rfl
  | helement l tag cs ih =>
    have htag : f.tag? l = some tag := Forest.tag?_eq_some_iff.mpr ⟨cs, ht⟩
    have hchildren : ∀ c ∈ cs, c.elements = c.labels.filterMap fun n => (f.tag? n).map fun tag => (n, tag) :=
      fun c hc => ih c hc (hf.find?_child ht hc)
    rw [Markup.Tree.elements, Markup.Tree.labels, Markup.Tree.elementsOfAll_eq, Markup.Tree.labelsOfAll_eq,
      List.filterMap_cons, htag, List.filterMap_flatMap, List.flatMap_congr hchildren]
    rfl

lemma entries_eq (hf : f.Sound) {t : Markup.Tree Node} (ht : f.find? t.label = some t) :
    ((markersOf name t).filter fun e => e.1 == marker).map (·.2) = repeated (occurrences name marker f) t.labels := by
  rw [markersOf, elements_eq hf ht, List.filterMap_eq_flatMap_toList, List.flatMap_assoc, List.filter_flatMap,
    List.map_flatMap, repeated]
  refine List.flatMap_congr fun n _ => ?_
  rw [occurrences]
  cases f.tag? n with
  | none => rfl
  | some tag =>
    rw [Option.map_some, Option.toList_some, List.flatMap_singleton, List.filter_map, List.map_map, Option.map_some,
      Option.getD_some, List.count_eq_length_filter, ← List.map_const']
    rfl

lemma live_of_find? {t : Markup.Tree Node} (ht : f.find? root = some t) (name marker : String) :
    (Index.build name f root).live f marker = ((markersOf name t).filter fun e => e.1 == marker).map (·.2) := by
  have hfound : (Index.build name f root).found = markersOf name t := by
    rw [Index.build, ht]
    rfl
  rw [Index.live, hfound, List.filter_eq_self]
  intro n hn
  obtain ⟨e, he, rfl⟩ := List.mem_map.mp hn
  obtain ⟨tag, htag, _⟩ := mem_markersOf.mp (List.mem_of_mem_filter he)
  exact Forest.within_iff.mpr ⟨t, ht, Tree.labels_of_elements htag⟩

lemma length_live {t : Markup.Tree Node} (ht : f.find? root = some t) (name marker : String) :
    ((Index.build name f root).live f marker).length = ((markersOf name t).map Prod.fst).count marker := by
  rw [live_of_find? ht, List.length_map, List.count_eq_length_filter, List.filter_map, List.length_map]
  rfl

lemma live_build (hf : f.Sound) (name marker : String) (root : Node) :
    (Index.build name f root).live f marker = repeated (occurrences name marker f) (carriers name marker f root) := by
  have hfilter : carriers name marker f root = (f.tree root).labels.filter fun n => 0 < occurrences name marker f n :=
    List.filter_congr fun n _ => decide_eq_decide.mpr occurrences_pos_iff.symm
  rw [hfilter, repeated_filter]
  cases ht : f.find? root with
  | none =>
    have hnone : occurrences name marker f root = 0 := by
      rw [occurrences, Forest.tag?, ht]
      rfl
    rw [Index.live, Index.build, ht, Forest.tree, ht, Option.getD_none, Markup.Tree.labels, repeated,
      List.flatMap_singleton, hnone]
    rfl
  | some t =>
    obtain rfl := Forest.label_of_find? ht
    rw [live_of_find? ht, entries_eq hf ht, Forest.tree, ht, Option.getD_some]

end Entries

section Answers

lemma single_eq_answerOf (i : Index) (f : Forest) (marker : String) :
    i.single f marker = answerOf marker (i.live f marker) := rfl

lemma answerOf_eq_ok_iff {ns : List Node} : answerOf marker ns = .ok n ↔ ns = [n] := by
  constructor
  · intro h
    unfold answerOf at h
    split at h
    next k => rw [Except.ok.inj h]
    next => cases h
  · rintro rfl
    rfl

lemma answerOf_eq_error_iff {ns : List Node} :
    answerOf marker ns = .error e ↔ ns.length ≠ 1 ∧ e = ⟨marker, ns.length⟩ := by
  unfold answerOf
  split
  next k => simp
  next hns =>
    have hone : ns.length ≠ 1 := by
      intro hlength
      obtain ⟨k, rfl⟩ := List.length_eq_one_iff.mp hlength
      exact hns k rfl
    simp [hone, eq_comm]

lemma length_of_answerOf {ns ks : List Node} (h : answerOf marker ns = answerOf marker ks) : ns.length = ks.length := by
  cases hns : answerOf marker ns with
  | ok n => rw [answerOf_eq_ok_iff.mp hns, answerOf_eq_ok_iff.mp (h.symm.trans hns)]
  | error e =>
    have hcount := (answerOf_eq_error_iff.mp hns).2.symm.trans (answerOf_eq_error_iff.mp (h.symm.trans hns)).2
    exact congrArg NotFound.count hcount

lemma answerOf_repeated_iff {times : Node → Nat} {ns : List Node} (h : ∀ n ∈ ns, 0 < times n) :
    answerOf marker (repeated times ns) = answerOf marker ns ↔ ∀ n ∈ ns, times n = 1 := by
  constructor
  · intro heq
    rw [← sum_eq_length_iff h, ← length_repeated]
    exact length_of_answerOf heq
  · intro honce
    rw [repeated_of_once honce]

lemma first_eq_ok_iff : i.first f marker = .ok n ↔ (i.live f marker).head? = some n := by
  rw [Index.first]
  split
  next k ks hlive => simp [hlive]
  next hlive => simp [hlive]

lemma first_eq_error_iff : i.first f marker = .error e ↔ i.live f marker = [] ∧ e = ⟨marker, 0⟩ := by
  rw [Index.first]
  split
  next k ks hlive => simp [hlive]
  next hlive => simp [hlive, eq_comm]

end Answers

/-- How an index answers to a marker, told by the nodes that have it. A strict lookup counts how often they have it, and
not how many they are. -/
structure CountsOccurrences (name marker : String) (f : Forest) (root : Node) (i : Index) : Prop where
  nodup : (carriers name marker f root).Nodup
  found : ∀ n, i.single f marker = .ok n ↔ carriers name marker f root = [n] ∧ occurrences name marker f n = 1
  missed : ∀ e, i.single f marker = .error e ↔
    totalOccurrences name marker f root ≠ 1 ∧ e = ⟨marker, totalOccurrences name marker f root⟩
  by_nodes : i.single f marker = answerOf marker (carriers name marker f root) ↔
    ∀ n ∈ carriers name marker f root, occurrences name marker f n = 1
  first : ∀ n, i.first f marker = .ok n ↔ (carriers name marker f root).head? = some n
  none : ∀ e, i.first f marker = .error e ↔ carriers name marker f root = [] ∧ e = ⟨marker, 0⟩

theorem build_counts_occurrences (hf : f.Sound) (name marker : String) (root : Node) :
    CountsOccurrences name marker f root (Index.build name f root) := by
  have hlive := live_build hf name marker root
  have hpos : ∀ n ∈ carriers name marker f root, 0 < occurrences name marker f n := fun n hn =>
    occurrences_pos_iff.mpr (mem_carriers.mp hn).2
  have hlength : ((Index.build name f root).live f marker).length = totalOccurrences name marker f root := by
    rw [hlive, length_repeated, totalOccurrences]
  have hhead : ((Index.build name f root).live f marker).head? = (carriers name marker f root).head? := by
    rw [hlive, head?_repeated hpos]
  exact {
    nodup := nodup_carriers hf
    found := fun n => by rw [single_eq_answerOf, answerOf_eq_ok_iff, hlive, repeated_eq_singleton_iff hpos]
    missed := fun e => by rw [single_eq_answerOf, answerOf_eq_error_iff, hlength]
    by_nodes := by rw [single_eq_answerOf, hlive, answerOf_repeated_iff hpos]
    first := fun n => by rw [first_eq_ok_iff, hhead]
    none := fun e => by rw [first_eq_error_iff, ← List.head?_eq_none_iff, hhead, List.head?_eq_none_iff] }

def badges : Forest where
  trees := [.element 0 { name := "body" } [
    .element 1 { name := "div", attributes := [("data-stencil", .text "card")] } [
      .element 2 { name := "a", attributes := [("data-stencil", .text "link")] } [.leaf 3 (.text "more")],
      .element 4 { name := "b", attributes := [("data-stencil", .tokens ["badge", " badge"])] } []]]]
  next := 5

theorem badges_counted : badges.Sound ∧
    CountsOccurrences markerAttribute "link" badges 1 (.build markerAttribute badges 1) ∧
    carriers markerAttribute "link" badges 1 = [2] ∧
    CountsOccurrences markerAttribute "badge" badges 1 (.build markerAttribute badges 1) ∧
    carriers markerAttribute "badge" badges 1 = [4] ∧ occurrences markerAttribute "badge" badges 4 = 2 := by
  have hsound : badges.Sound := ⟨by decide, by decide⟩
  exact ⟨hsound, build_counts_occurrences hsound markerAttribute "link" 1, by decide +kernel,
    build_counts_occurrences hsound markerAttribute "badge" 1, by decide +kernel, by decide +kernel⟩

theorem not_lookup_by_nodes : ¬ ∀ (f : Forest) (root : Node) (name marker : String), f.Sound →
    (Index.build name f root).single f marker = answerOf marker (carriers name marker f root) := by
  intro h
  have hbadge := h badges 1 markerAttribute "badge" ⟨by decide, by decide⟩
  have hlone : carriers markerAttribute "badge" badges 1 = [4] := by decide +kernel
  have hmissed : (Index.build markerAttribute badges 1).single badges "badge" = .error ⟨"badge", 2⟩ := by decide +kernel
  rw [hlone, hmissed] at hbadge
  cases hbadge

end PageStencil.Stencil
