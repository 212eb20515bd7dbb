import PageStencil.Proofs.Component.Stages
import PageStencil.Proofs.Markup.Local

/-!
The box around what stands in a navigation bar. Whether it is kept shows in the bar in no other way: what stood in it
stands in its place, and the same identifiers are taken.
-/

namespace PageStencil.Navbar

open Markup Stencil Forest Work

section Markup

variable {T : Tags} {r : Nat} {bar : Bar}

lemma boxed_of_erase {nav : Tag} {boxed : Bool} {inner : List (Markup.Tree Unit)}
    (h : (bar.tree T r).erase = T.barWith nav boxed (gap :: inner)) :
    bar.boxed = boxed ∧ ({ bar with boxed := false }.tree T r).erase = T.barWith nav false (gap :: inner) := by
  rw [Bar.erase_tree] at h ⊢
  cases hb : bar.boxed <;> cases boxed <;> simp_all [Tags.barWith, gap]

lemma inside_mapTags (hboxed : bar.boxed = true) (change : Tag → Tag) :
    ((bar.tree T r).mapTags change).inside (r + 2) Markup.Tree.children =
      ({ bar with boxed := false }.tree T r).mapTags change := by
  simp [Bar.tree, hboxed, Markup.Tree.mapTags, Markup.Tree.inside, Markup.Tree.replace, Markup.Tree.children, Bar.inner]

end Markup

/-- Two benches that were the same until a bar was rendered on each, on one in its box and on the other without. -/
structure Unboxed (box : Node) (b c d : Bench) : Prop where
  marked : b.copy.targets.single b.forest "positioning" = .ok box
  stands : ∃ tag ts, (c.forest.tree b.copy.root).find? box = some (.element box tag ts) ∧ tag.classes = ["container"]
  bare : (d.forest.tree b.copy.root).erase = ((c.forest.tree b.copy.root).inside box Markup.Tree.children).erase

variable {b : Bench} {n : Navbar Menu} {parts : List Menu}

def boxed (n : Navbar Menu) (inContainer : Bool) : Navbar Menu := { n with inContainer }

lemma single_positioning {T : Tags} (h : New T b) :
    b.copy.targets.single b.forest "positioning" = .ok (b.copy.root + 2) := by
  rw [h.targets]
  refine Index.single_of_found ?_ ?_
  · rw [markersOf_template h.marked]
    simp [places]
  · rw [within_iff]
    refine ⟨_, h.tree, ?_⟩
    rw [mem_labels_number, size_template]
    exact ⟨Nat.le_add_right _ 2, Nat.add_lt_add_left (by decide) _⟩

lemma classes_positioning (xml : Bool) :
    ((packaged xml).positioning.remove markerAttribute).classes = ["container"] := by
  cases xml <;> decide +kernel

lemma run_both (xml : Bool) (h : New (packaged xml) b) (hname : b.copy.markerName = markerAttribute)
    (hshown : n.shown = .ok parts) (hshort : b.uids.Short (1 + dropdownsIn parts)) :
    ∃ c d, (Work.once (n.boxed true).render).run b = (.ok b.copy.root, c) ∧
      (Work.once (n.boxed false).render).run b = (.ok b.copy.root, d) ∧ c.uids = d.uids ∧
      ∃ box, Unboxed box b c d := by
  obtain ⟨bar, f, hrun, htaken, herase⟩ := run_render (n := n.boxed true) h hshown hshort
  obtain ⟨d, u, hrun', huids, _, hfind, hbare⟩ := run_once_render (n := n.boxed false) h hshown hshort
  obtain ⟨hboxed, hunboxed⟩ := boxed_of_erase herase
  have honce := run_once_ok h.rendered hrun
  have htree : (stripMarkers b.copy.markerName f b.copy.root).tree b.copy.root = _ :=
    tree_of_find? (htaken.sound.find?_mapTags_self htaken.tree fun t => t.remove b.copy.markerName)
  refine ⟨_, d, honce, hrun', huids.symm, b.copy.root + 2, single_positioning h,
    ⟨(packaged xml).positioning.remove markerAttribute, (bar.inner (packaged xml) b.copy.root).map
      (Markup.Tree.mapTags fun t => t.remove markerAttribute), ?_, classes_positioning xml⟩, ?_⟩
  · rw [htree, hname]
    simp [Bar.tree, hboxed, boxed, Markup.Tree.mapTags, Markup.Tree.find?]
  · rw [tree_of_find? hfind, htree, hbare, inside_mapTags hboxed, Markup.Tree.erase_mapTags, hunboxed]
    rfl

/-- A bar is rendered in its box and without, each on a copy of the packaged template. -/
theorem once_render_boxed {s : Source} (hdir : s.directory = Packaged.directory) {template : Markup.Tree Unit}
    (hread : s.readRoot templateName = .ok template) {f : Forest} (hf : f.Sound) (name : String) (uids : Allocator)
    (n : Navbar Menu) :
    ∃ o c d, (Work.once (n.boxed true).render).run (Bench.withCopy name kind template f uids) = (o, c) ∧
      (Work.once (n.boxed false).render).run (Bench.withCopy name kind template f uids) = (o, d) ∧ c.uids = d.uids ∧
      (∀ root, o = .ok root → root = f.next ∧ ∃ box, Unboxed box (Bench.withCopy name kind template f uids) c d) ∧
      (name = markerAttribute → n.menu = none ∨ n.parts = none → uids.Short (1 + dropdownsIn n.menus) →
        o = .ok f.next) := by
  obtain rfl := eq_packaged hdir hread
  cases hshown : n.shown with
  | error e =>
    refine ⟨_, _, _, run_once_refused rfl hshown, run_once_refused rfl hshown, rfl, (fun _ h => nomatch h),
      fun _ hn => ?_⟩
    rw [shown_of hn] at hshown
    cases hshown
  | ok parts =>
    by_cases hname : name = markerAttribute
    · subst hname
      have hnew := new_withCopy s.isXml hf uids
      by_cases hshort : uids.Short (1 + dropdownsIn parts)
      · obtain ⟨c, d, hrun, hrun', huids, hunboxed⟩ := run_both s.isXml hnew rfl hshown hshort
        exact ⟨_, c, d, hrun, hrun', huids, fun _ h => ⟨(Except.ok.inj h).symm, hunboxed⟩, fun _ _ _ => rfl⟩
      · obtain ⟨c, hrun, _, _, hstop⟩ := run_once_stops (n := n.boxed true) hnew hshown hshort
        obtain ⟨d, hrun', _, _, hstop'⟩ := run_once_stops (n := n.boxed false) hnew hshown hshort
        refine ⟨_, c, d, hrun, hrun', hstop.unique hstop', (fun _ h => nomatch h), fun _ _ hmenus => ?_⟩
        rw [← shown_eq hshown] at hmenus
        exact absurd hmenus hshort
    · obtain ⟨c, hrun, _⟩ := run_once_lacking rfl (lacks_item s.isXml hname hf uids)
      exact ⟨_, c, c, hrun (n.boxed true) hshown, hrun (n.boxed false) hshown, rfl, (fun _ h => nomatch h),
        fun h => absurd h hname⟩

theorem sample_unboxed : ∃ template c d, shelves.readRoot templateName = .ok template ∧
    (Work.once (sample.boxed true).render).run (Bench.withCopy markerAttribute kind template {} ⟨1000, 0⟩) = (.ok 0, c) ∧
    (Work.once (sample.boxed false).render).run (Bench.withCopy markerAttribute kind template {} ⟨1000, 0⟩) = (.ok 0, d) ∧
    c.uids = d.uids ∧ ∃ box, Unboxed box (Bench.withCopy markerAttribute kind template {} ⟨1000, 0⟩) c d := by
  obtain ⟨_, hread⟩ := read_packaged (s := shelves) rfl (by decide +kernel) (d := .asWritten) rfl
  have hempty : ({} : Forest).Sound := ⟨List.nodup_nil, fun _ hn => absurd hn List.not_mem_nil⟩
  obtain ⟨o, c, d, hrun, hrun', huids, hok, hdone⟩ :=
    once_render_boxed (s := shelves) rfl hread hempty markerAttribute ⟨1000, 0⟩ sample
  obtain rfl := hdone rfl (.inr rfl) (by decide +kernel)
  exact ⟨_, c, d, hread, hrun, hrun', huids, (hok _ rfl).2⟩

end PageStencil.Navbar
