import PageStencil.Proofs.Component.Identifiers
import PageStencil.Proofs.Component.Stopping
import PageStencil.Proofs.Stencil.Removal

/-!
How far a copy has come: it is new, or its rendering has come to a stop, or it is rendered and shows the identifiers
that it took.
-/

namespace PageStencil

open Markup Stencil Forest Work

structure Moved (b c : Bench) : Prop where
  copy : c.copy = b.copy
  sound : c.forest.Sound
  next : b.forest.next ≤ c.forest.next
  kept : ∀ t, b.forest.find? b.copy.root = some t → c.forest.find? b.copy.root = some t

structure Bench.Lacks (marker : String) (b : Bench) : Prop where
  sound : b.forest.Sound
  root : b.copy.targets.root = b.copy.root
  lacks : ∃ t, b.forest.find? b.copy.root = some t ∧ ∀ e ∈ t.elements, marker ∉ markers b.copy.markerName e.2

section Lacks

variable {marker other : String} {b c : Bench}

lemma Bench.Lacks.moved (h : b.Lacks marker) (hm : Moved b c) : c.Lacks marker := by
  obtain ⟨t, ht, hlacks⟩ := h.lacks
  exact ⟨hm.sound, hm.copy ▸ h.root, t, hm.copy ▸ hm.kept t ht, hm.copy ▸ hlacks⟩

lemma Bench.Lacks.take (h : b.Lacks marker) (other : String) :
    (∃ e, b.copy.targets.single b.forest other = .error e ∧
        (Work.takeTarget none other).run b = (.error (.notFound e), b)) ∨
      ∃ n c, b.copy.targets.single b.forest other = .ok n ∧ (Work.takeTarget none other).run b = (.ok n, c) ∧
        c.Lacks marker ∧ c.uids = b.uids ∧ c.copy = { b.copy with targets := c.copy.targets } ∧
        (Work.takeTarget (some n) marker).run c = (.error (.notFound ⟨marker, 0⟩), c) := by
  cases hs : b.copy.targets.single b.forest other with
  | error e =>
    exact Or.inl ⟨e, rfl, run_takeTarget_error hs⟩
  | ok n =>
    obtain ⟨t, ht, hlacks⟩ := h.lacks
    have hlive := (Index.mem_live.mp (Index.mem_live_of_single hs)).2
    rw [h.root, Forest.within, ht, Option.map_some, Option.getD_some, Markup.Tree.contains, Option.isSome_iff_exists] at hlive
    obtain ⟨s, hn⟩ := hlive
    have hlabel := Markup.Tree.label_of_find? hn
    have hfind : b.forest.find? n = some s :=
      (h.sound.find?_of_mem ht ((Markup.Tree.sublist_of_find? hn).subset (hlabel ▸ s.label_mem))).trans hn
    have hpruned := pruned_without (h.sound.nodup_of_find? ht) n
    refine Or.inr ⟨n, { b with
      forest := b.forest.detach n
      copy := { b.copy with targets := b.copy.targets.forget (Index.gone b.forest n) } }, rfl, ?_, ?_, rfl, rfl, ?_⟩
    · have htake : (b.index none).take b.forest other = _ := Index.take_of_single hs
      rw [run_takeTarget, htake]
      rfl
    · refine ⟨h.sound.detach n, h.root, t.without n, ?_, fun e he => hlacks e ?_⟩
      · rw [h.sound.find?_detach, ht, Option.map_some]
      · rw [hpruned.elements] at he
        exact (List.mem_filter.mp he).1
    · have htaken : (b.forest.detach n).find? n = some s := by
        rw [h.sound.find?_detach, hfind, Option.map_some, ← hlabel, Markup.Tree.without_self]
      refine run_takeTarget_error (Index.single_of_not_found fun k hk => ?_)
      obtain ⟨u, hu, hm⟩ := Index.mem_build.mp hk
      cases htaken.symm.trans hu
      obtain ⟨tag, htag, hmarker⟩ := mem_markersOf.mp hm
      exact hlacks _ ((Markup.Tree.elements_of_find? hn).subset htag) hmarker

end Lacks

def Bench.withCopy {α : Type} (name kind : String) (template : Markup.Tree α) (f : Forest) (uids : Allocator) : Bench :=
  ⟨(WorkingCopy.make name kind template f).2, uids, (WorkingCopy.make name kind template f).1⟩

section Copies

variable {α : Type} {name kind : String} {f : Forest} {uids : Allocator}

lemma withCopy_erase (t : Markup.Tree α) : Bench.withCopy name kind t.erase f uids = Bench.withCopy name kind t f uids := by
  simp only [Bench.withCopy, WorkingCopy.make, Forest.plant, Markup.Tree.number_erase, Markup.Tree.size_erase]

lemma find?_withCopy (t : Markup.Tree α) :
    (Bench.withCopy name kind t f uids).forest.find? f.next = some (t.number f.next) := f.find?_plant t

lemma targets_withCopy (t : Markup.Tree α) : (Bench.withCopy name kind t f uids).copy.targets =
    ⟨f.next, markersOf name (t.number f.next)⟩ := by
  change Index.build name (f.plant t).2 f.next = _
  rw [Index.build, f.find?_plant t, Option.map_some, Option.getD_some]

lemma tags_of_elements {t : Markup.Tree Unit} {start : Nat} {e : Nat × Tag} (h : e ∈ (t.number start).elements) :
    e.2 ∈ t.tags := by
  have htag : e.2 ∈ (t.number start).tags := List.mem_map_of_mem h
  rwa [← Markup.Tree.tags_erase, Markup.Tree.erase_number, Markup.Tree.erase_unit] at htag

lemma lacks_withCopy {marker : String} {t : Markup.Tree Unit} (hf : f.Sound)
    (ht : ∀ tag ∈ t.tags, marker ∉ markers name tag) : (Bench.withCopy name kind t f uids).Lacks marker where
  sound := hf.plant t
  root := by
    rw [targets_withCopy]
    rfl
  lacks := ⟨t.number f.next, find?_withCopy t, fun _ he => ht _ (tags_of_elements he)⟩

lemma not_mem_markers {marker : String} {ts : List Tag}
    (h : ∀ t ∈ ts, ∀ a ∈ t.attributes, a.1 ≠ markerAttribute → marker ∉ Text.wordsOf a.2.plain)
    (hname : name ≠ markerAttribute) : ∀ t ∈ ts, marker ∉ markers name t := by
  intro t ht
  rw [markers, Tag.get?]
  cases hv : t.attributes.lookup name with
  | none => exact List.not_mem_nil
  | some v =>
    obtain ⟨before, after, heq, _⟩ := List.lookup_eq_some_iff.mp hv
    exact h t ht (name, v) (heq ▸ List.mem_append_right before List.mem_cons_self) hname

end Copies

namespace Navbar

inductive Pending (xml : Bool) (b : Bench) : Prop
  | copied : New (packaged xml) b → b.copy.markerName = markerAttribute → Pending xml b
  | stopped : b.copy.kind = kind → Stopped b → Pending xml b
  | lacking : b.copy.kind = kind → b.copy.rendered = false → b.Lacks "item" → Pending xml b

variable {xml : Bool} {b c : Bench} {n : Navbar Menu}

lemma Pending.kind (h : Pending xml b) : b.copy.kind = Navbar.kind := by
  cases h with
  | copied hnew _ => exact hnew.kind
  | stopped hkind _ => exact hkind
  | lacking hkind _ _ => exact hkind

lemma Pending.rendered (h : Pending xml b) : b.copy.rendered = false := by
  cases h with
  | copied hnew _ => exact hnew.rendered
  | stopped _ hstopped => exact hstopped.rendered
  | lacking _ hrendered _ => exact hrendered

lemma New.moved {T : Tags} (h : New T b) (hm : Moved b c) : New T c := by
  have hcopy := hm.copy
  refine ⟨?_, ?_, hm.sound, ?_, ?_, ?_⟩ <;> rw [hcopy]
  · exact h.marked
  · exact h.kind
  · exact hm.kept _ h.tree
  · exact h.targets
  · exact h.rendered

lemma Pending.moved (h : Pending xml b) (hm : Moved b c) : Pending xml c := by
  have hcopy := hm.copy
  cases h with
  | copied hnew hname => exact .copied (hnew.moved hm) (by rw [hcopy, hname])
  | stopped hkind hstopped =>
    refine .stopped (by rw [hcopy, hkind]) ⟨?_, ?_⟩ <;> rw [hcopy]
    · exact hstopped.rendered
    · exact hstopped.gone
  | lacking hkind hrendered hlacks => exact .lacking (by rw [hcopy, hkind]) (by rw [hcopy, hrendered]) (hlacks.moved hm)

lemma lacks_item (xml : Bool) {name : String} (hname : name ≠ markerAttribute) {f : Forest} (hf : f.Sound)
    (uids : Allocator) : (Bench.withCopy name kind (packaged xml).template f uids).Lacks "item" := by
  have htags : ∀ t ∈ (packaged xml).template.tags, ∀ a ∈ t.attributes, a.1 ≠ markerAttribute →
      "item" ∉ Text.wordsOf a.2.plain := by
    cases xml <;> decide +kernel
  exact lacks_withCopy hf (not_mem_markers htags hname)

lemma new_withCopy (xml : Bool) {f : Forest} (hf : f.Sound) (uids : Allocator) :
    New (packaged xml) (Bench.withCopy markerAttribute kind (packaged xml).template f uids) :=
  new_benchOf (marked_packaged xml) hf uids

lemma pending_withCopy (xml : Bool) (name : String) {f : Forest} (hf : f.Sound) (uids : Allocator) :
    Pending xml (Bench.withCopy name kind (packaged xml).template f uids) := by
  by_cases hname : name = markerAttribute
  · subst hname
    exact .copied (new_withCopy xml hf uids) rfl
  · exact .lacking rfl rfl (lacks_item xml hname hf uids)

structure Bar.Shown (xml : Bool) (n : Navbar Menu) (parts : List Menu) (value : Int) (b : Bench) : Prop where
  kind : b.copy.kind = Navbar.kind
  rendered : b.copy.rendered = true
  tree : ∃ t, b.forest.find? b.copy.root = some t ∧
    t.erase = stripped ((packaged xml).markup n.cssClass n.inContainer value parts)

def lacking (b : Bench) : NotFound :=
  match b.copy.targets.single b.forest "container" with
  | .ok _ => ⟨"item", 0⟩
  | .error e => e

lemma run_once_lacking (hrendered : b.copy.rendered = false) (h : b.Lacks "item") :
    ∃ c, (∀ (n : Navbar Menu) {parts : List Menu}, n.shown = .ok parts →
        (Work.once n.render).run b = (.error (.notFound (lacking b)), c)) ∧
      c.copy = { b.copy with targets := c.copy.targets } ∧ c.uids = b.uids ∧ c.Lacks "item" := by
  rw [lacking]
  rcases h.take "container" with ⟨e, hsingle, hrun⟩ | ⟨container, c, hsingle, hrun, hlacks, huids, hcopy, hitem⟩
  · refine ⟨b, fun n parts hshown => ?_, rfl, rfl, h⟩
    have hrender : n.render.run b = (.error (.notFound e), b) := by
      rw [render, run_bind_ok (run_shown hshown b), run_bind_error hrun]
    rw [Work.run_once _ hrendered, run_bind_error hrender, hsingle]
  · refine ⟨c, fun n parts hshown => ?_, hcopy, huids, hlacks⟩
    rw [hsingle]
    have hrender : n.render.run b = (.error (.notFound ⟨"item", 0⟩), c) := by
      rw [render, run_bind_ok (run_shown hshown b), run_bind_ok hrun, run_bind_error hitem]
    rw [Work.run_once _ hrendered, run_bind_error hrender]

theorem Pending.run_once (h : Pending xml b) (n : Navbar Menu) :
    (∃ e c, (Work.once n.render).run b = (.error e, c) ∧ Pending xml c ∧ (c.uids = b.uids ∨ b.uids.Overrun c.uids)) ∨
      ∃ c parts, n.shown = .ok parts ∧ b.uids.Short (1 + dropdownsIn parts) ∧
        (Work.once n.render).run b = (.ok b.copy.root, c) ∧ c.uids = b.uids.skip (1 + dropdownsIn parts) ∧
        Bar.Shown xml n parts b.uids.value c := by
  cases hshown : n.shown with
  | error e => exact .inl ⟨e, b, run_once_refused h.rendered hshown, h, .inl rfl⟩
  | ok parts =>
    cases h with
    | stopped hkind hstopped =>
      obtain ⟨e, hrun⟩ := hstopped.run_once n
      exact .inl ⟨e, b, hrun, .stopped hkind hstopped, .inl rfl⟩
    | copied hnew hname =>
      by_cases hshort : b.uids.Short (1 + dropdownsIn parts)
      · obtain ⟨c, t, hrun, huids, hcopy, ht, herase⟩ := run_once_render hnew hshown hshort
        rw [hname] at herase
        refine .inr ⟨c, parts, rfl, hshort, hrun, huids, ?_, ?_, t, ?_, herase⟩ <;> rw [hcopy]
        · exact hnew.kind
        · exact ht
      · obtain ⟨c, hrun, hstopped, hcopy, hover⟩ := run_once_stops hnew hshown hshort
        refine .inl ⟨_, c, hrun, .stopped ?_ hstopped, .inr hover.overrun⟩
        rw [hcopy]
        exact hnew.kind
    | lacking hkind hrendered hlacks =>
      obtain ⟨c, hrun, hcopy, huids, hlacks'⟩ := run_once_lacking hrendered hlacks
      refine .inl ⟨_, c, hrun n hshown, .lacking ?_ ?_ hlacks', .inl huids⟩ <;> rw [hcopy]
      · exact hkind
      · exact hrendered

end Navbar

namespace Modal

variable {xml : Bool} {b c : Bench} {m : Modal}

lemma Unrendered.moved {root : Tag} {buttons : List (Markup.Tree Unit)} (h : Unrendered xml m root buttons b)
    (hm : Moved b c) : Unrendered xml m root buttons c := by
  have hcopy := hm.copy
  obtain ⟨bs, hbs, hlaid⟩ := h.laid
  refine ⟨?_, ?_, ?_, ?_, ⟨bs, hbs, ?_⟩, h.elements, ?_, ?_, ?_⟩ <;> rw [hcopy]
  · exact h.kind
  · exact h.marker
  · exact h.rendered
  · exact h.targets
  · exact ⟨hm.sound, hm.kept _ hlaid.tree, hlaid.apart, Nat.le_trans hlaid.le hm.next⟩
  · exact h.header
  · exact h.body
  · exact h.footer

def Pending (xml : Bool) (m : Modal) (b : Bench) : Prop := ∃ root : Tag, root.name = "div" ∧ Unrendered xml m root [] b

lemma Pending.kind (h : Pending xml m b) : b.copy.kind = Modal.kind := by
  obtain ⟨_, _, h⟩ := h
  exact h.kind

lemma Pending.rendered (h : Pending xml m b) : b.copy.rendered = false := by
  obtain ⟨_, _, h⟩ := h
  exact h.rendered

lemma Pending.moved (h : Pending xml m b) (hm : Moved b c) : Pending xml m c := by
  obtain ⟨root, hname, h⟩ := h
  exact ⟨root, hname, h.moved hm⟩

structure Shown (xml : Bool) (value : Int) (b : Bench) : Prop where
  kind : b.copy.kind = Modal.kind
  rendered : b.copy.rendered = true
  tree : ∃ (t : Markup.Tree Node) (root : Tag) (title text : Option String), b.forest.find? b.copy.root = some t ∧
    root.name = "div" ∧ t.erase = Navbar.stripped (markup xml root (identifier value) title text [])

theorem Pending.run_once (h : Pending xml m b) :
    (∃ e c, (Work.once m.render).run b = (.error e, c) ∧ Pending xml m c ∧ c.uids = b.uids.skip 1) ∨
      ∃ c, (Work.once m.render).run b = (.ok b.copy.root, c) ∧ c.uids = b.uids.skip 1 ∧ Shown xml b.uids.value c := by
  obtain ⟨root, hname, h⟩ := h
  by_cases hshort : b.uids.Short 1
  · obtain ⟨c, t, hrun, huids, hcopy, ht, herase⟩ := h.run_once hshort
    refine .inr ⟨c, hrun, huids, ?_, ?_, t, rootTag m root, m.title, m.text, ?_, (name_rootTag m root).trans hname, herase⟩ <;>
      rw [hcopy]
    · exact h.kind
    · exact ht
  · obtain ⟨c, hrun, huids, hagain⟩ := h.run_once_stops hshort
    exact .inl ⟨_, c, hrun, ⟨_, (name_rootTag m root).trans hname, hagain⟩, huids⟩

lemma run_make_new (xml : Bool) {f : Forest} (hf : f.Sound) (uids : Allocator) (title text id cssClass : Option String) :
    ∃ header body footer, (make title text id cssClass).run
        (Bench.withCopy markerAttribute kind (packaged xml) f uids) =
          (.ok ⟨title, text, id, cssClass, header, body, footer⟩, Bench.withCopy markerAttribute kind (packaged xml) f uids) ∧
      Unrendered xml ⟨title, text, id, cssClass, header, body, footer⟩ (tags xml).root []
        (Bench.withCopy markerAttribute kind (packaged xml) f uids) :=
  run_make (hf.plant _) rfl rfl rfl (find?_withCopy _) (targets_withCopy _)

lemma run_make_lacking (xml : Bool) {name : String} (hname : name ≠ markerAttribute) (f : Forest) (uids : Allocator)
    (title text id cssClass : Option String) : (make title text id cssClass).run
      (Bench.withCopy name kind (packaged xml) f uids) =
        (.error (.notFound ⟨"header", 0⟩), Bench.withCopy name kind (packaged xml) f uids) := by
  have htags : ∀ t ∈ (packaged xml).tags, ∀ a ∈ t.attributes, a.1 ≠ markerAttribute →
      "header" ∉ Text.wordsOf a.2.plain := by
    cases xml <;> decide +kernel
  have hsingle : ((Bench.withCopy name kind (packaged xml) f uids).index none).single
      (Bench.withCopy name kind (packaged xml) f uids).forest "header" = .error ⟨"header", 0⟩ := by
    refine Index.single_of_not_found fun n hn => ?_
    change ("header", n) ∈ (Bench.withCopy name kind (packaged xml) f uids).copy.targets.found at hn
    rw [targets_withCopy] at hn
    obtain ⟨tag, htag, hmarker⟩ := mem_markersOf.mp hn
    exact not_mem_markers htags hname tag (tags_of_elements htag) hmarker
  have hheader : (Work.target none "header").run (Bench.withCopy name kind (packaged xml) f uids) =
      (.error (.notFound ⟨"header", 0⟩), Bench.withCopy name kind (packaged xml) f uids) := by
    rw [run_target, hsingle]
  rw [make, run_bind_error hheader]

lemma run_make_withCopy (xml : Bool) (name : String) {f : Forest} (hf : f.Sound) (uids : Allocator)
    (title text id cssClass : Option String) :
    (∃ e, (make title text id cssClass).run (Bench.withCopy name kind (packaged xml) f uids) =
        (.error e, Bench.withCopy name kind (packaged xml) f uids)) ∨
      ∃ header body footer, (make title text id cssClass).run (Bench.withCopy name kind (packaged xml) f uids) =
          (.ok ⟨title, text, id, cssClass, header, body, footer⟩, Bench.withCopy name kind (packaged xml) f uids) ∧
        Unrendered xml ⟨title, text, id, cssClass, header, body, footer⟩ (tags xml).root []
          (Bench.withCopy name kind (packaged xml) f uids) := by
  by_cases hname : name = markerAttribute
  · subst hname
    exact .inr (run_make_new xml hf uids title text id cssClass)
  · exact .inl ⟨_, run_make_lacking xml hname f uids title text id cssClass⟩

end Modal

end PageStencil
