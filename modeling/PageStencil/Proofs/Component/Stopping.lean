import PageStencil.Proofs.Component.NavbarRendering

/-!
Where the rendering of a navigation bar stops: at the first identifier that is too long. It takes that one and all
before it, and does nothing more.
-/

namespace PageStencil

open Markup Stencil

variable {α β : Type}

lemma Allocator.Short.add {a : Allocator} {n m : Nat} (h : a.Short n) (h' : (a.skip n).Short m) : a.Short (n + m) := by
  intro i hi
  rcases Nat.lt_or_ge i n with hlt | hge
  · exact h i hlt
  · have hrest := h' (i - n) (by omega)
    rw [value_skip, Int.add_assoc, ← Int.natCast_add, Nat.add_sub_of_le hge] at hrest
    exact hrest

lemma Allocator.short_zero (a : Allocator) : a.Short 0 := fun _ hi => absurd hi (Nat.not_lt_zero _)

def Allocator.Overrun (a a' : Allocator) : Prop := ∃ k, a' = a.skip (k + 1) ∧ ¬ (a.skip k).Short 1

def Allocator.StopsAt (a a' : Allocator) : Prop := ∃ k, a' = a.skip (k + 1) ∧ a.Short k ∧ ¬ (a.skip k).Short 1

lemma Allocator.StopsAt.overrun {a a' : Allocator} (h : a.StopsAt a') : a.Overrun a' := by
  obtain ⟨k, huids, _, hlong⟩ := h
  exact ⟨k, huids, hlong⟩

lemma Allocator.StopsAt.unique {a a' a'' : Allocator} (h : a.StopsAt a') (h' : a.StopsAt a'') : a' = a'' := by
  have hle : ∀ {k m : Nat}, a.Short m → ¬ (a.skip k).Short 1 → m ≤ k := by
    intro k m hshort hlong
    by_contra hlt
    obtain ⟨j, rfl⟩ := Nat.exists_eq_add_of_lt (Nat.not_le.mp hlt)
    rw [Nat.add_assoc, Nat.add_comm j] at hshort
    exact hlong hshort.right.left
  obtain ⟨k, rfl, hshort, hlong⟩ := h
  obtain ⟨m, rfl, hshort', hlong'⟩ := h'
  rw [Nat.le_antisymm (hle hshort hlong') (hle hshort' hlong)]

namespace Work

def Overruns (w : Work α) (b : Bench) : Prop :=
  ∃ c, w.run b = (.error .identifierTooLong, c) ∧ c.copy = b.copy ∧ b.uids.StopsAt c.uids

variable {b c : Bench} {w : Work α}

lemma overruns_nextId (h : ¬ b.uids.Short 1) : Overruns nextId b :=
  ⟨_, Navbar.run_nextId_of_long h, rfl, 0, rfl, Allocator.short_zero _, h⟩

lemma Overruns.bind (h : Overruns w b) (k : α → Work β) : Overruns (w >>= k) b := by
  obtain ⟨c, hrun, hcopy, hover⟩ := h
  exact ⟨c, run_bind_error hrun, hcopy, hover⟩

lemma Overruns.later {v : Work β} {w : Work β} (h : Overruns v c) (hrun : w.run b = v.run c) (hcopy : c.copy = b.copy)
    {n : Nat} (huids : c.uids = b.uids.skip n) (hshort : b.uids.Short n) : Overruns w b := by
  obtain ⟨d, hstop, hcopy', m, huids', hshort', hlong⟩ := h
  refine ⟨d, hrun.trans hstop, hcopy'.trans hcopy, n + m, ?_, hshort.add (huids ▸ hshort'), ?_⟩
  · rw [huids', huids, Allocator.skip_skip, Nat.add_assoc]
  · rwa [huids, Allocator.skip_skip] at hlong

lemma Overruns.same {v w : Work β} (h : Overruns v c) (hrun : w.run b = v.run c) (hcopy : c.copy = b.copy)
    (huids : c.uids = b.uids) : Overruns w b :=
  h.later hrun hcopy (huids.trans (Allocator.skip_zero _).symm) (Allocator.short_zero b.uids)

end Work

namespace Navbar

open Work

variable {T : Tags} {bar : Bar} {b : Bench} {moulds : Moulds} {n : Navbar Menu} {parts : List Menu}

lemma overruns_dropdown (hT : T.Marked b.copy.markerName) (hb : b.forest.Sound) {mould : Node}
    (hmould : b.forest.markup? mould = some T.dropdownMould) (m : Menu) (hlong : ¬ b.uids.Short 1) :
    Overruns (dropdown mould m) b := by
  have hfrom : ∀ (n text container item : Node) (f : Forest),
      Overruns (dropdownFrom m n text container item) { b with forest := f } := by
    intro n text container item f
    have hnext := overruns_nextId (b := { b with forest := f.setText? text (m.label.bind Link.text) }) hlong
    exact (hnext.bind _).same (run_bind_ok (run_edit _ _)) rfl rfl
  exact (hfrom _ _ _ _ _).same (run_dropdown_eq hT hb hmould m) rfl rfl

lemma overruns_entry (hT : T.Marked b.copy.markerName) (hb : b.forest.Sound)
    (hdropdown : b.forest.markup? moulds.dropdown = some T.dropdownMould) (m : Menu)
    (hlong : ¬ b.uids.Short (dropdowns [m])) : Overruns (entry moulds m) b := by
  rw [entry]
  cases h : m.isLeaf with
  | true =>
    have hnone : dropdowns [m] = 0 := by simp [dropdowns, h]
    exact absurd (Allocator.short_zero b.uids) (hnone ▸ hlong)
  | false =>
    have hone : dropdowns [m] = 1 := by simp [dropdowns, h]
    exact overruns_dropdown hT hb hdropdown m (hone ▸ hlong)

lemma overruns_entries {parent : Nat} (hT : T.Marked b.copy.markerName) (hkind : b.copy.kind = kind)
    (hb : b.forest.Sound) (hparent : parent < b.forest.next)
    (hitem : Forest.Mould parent moulds.item T.itemMould b.forest)
    (hdropdown : Forest.Mould parent moulds.dropdown T.dropdownMould b.forest) (ms : List Menu)
    (hlong : ¬ b.uids.Short (dropdowns ms)) : Overruns (appendEach parent (entry moulds) ms) b := by
  induction ms generalizing b with
  | nil => exact absurd (Allocator.short_zero b.uids) hlong
  | cons m ms ih =>
    rw [dropdowns_cons] at hlong
    by_cases hshort : b.uids.Short (dropdowns [m])
    · obtain ⟨_, hmakes, _⟩ := makes_entry hT hkind hb hitem.markup hdropdown.markup m hshort
      obtain ⟨u, f, hrun, hput, _⟩ := hmakes.run_append hb hparent fun _ => appendEach parent (entry moulds) ms
      have hrest := ih (b := { b with forest := f, uids := b.uids.skip (dropdowns [m]) }) hT hkind hput.sound
        (Nat.lt_of_lt_of_le hparent hput.le) (hput.mould hb hitem) (hput.mould hb hdropdown)
        fun h => hlong (hshort.add h)
      exact hrest.later hrun rfl rfl hshort
    · exact (overruns_entry hT hb hdropdown.markup m hshort).bind _

lemma overruns_part (hT : T.Marked b.copy.markerName) (hkind : b.copy.kind = kind) (hb : b.forest.Sound)
    (hm : moulds.Of T b.forest) (first : Bool) (m : Menu) (hlong : ¬ b.uids.Short (dropdowns m.entries)) :
    Overruns (part moulds first m) b := by
  obtain ⟨hadded, hlt, _⟩ := added_shell hb T (align first m.cssClass)
  obtain ⟨hitem, hdropdown⟩ := hm.added hb hadded (Nat.le_refl _)
  have hentries := overruns_entries (b := { b with
    forest := (b.forest.plant T.shell).2.setTag b.forest.next (align first m.cssClass) })
    hT hkind (hadded.added hb).1 hlt hitem hdropdown m.entries hlong
  rw [part]
  exact (hentries.bind _).same ((run_bind_ok (run_instantiate_of_markup hm.container)).trans
    (run_bind_ok (run_setTag _ _ _))) rfl rfl

lemma overruns_addParts (h : Ready T bar b) (first : Bool) (parts : List Menu)
    (hlong : ¬ b.uids.Short (dropdownsIn parts)) :
    Overruns (addParts (b.copy.root + 12) (mouldsAt b.copy.root) first parts) b := by
  induction parts generalizing first b bar with
  | nil => exact absurd (Allocator.short_zero b.uids) hlong
  | cons m ms ih =>
    rw [dropdownsIn_cons] at hlong
    by_cases hshort : b.uids.Short (dropdowns m.entries)
    · obtain ⟨u, f, hrun, hready, _⟩ := h.run_part first m ms hshort
      exact (ih hready false fun hrest => hlong (hshort.add hrest)).later hrun rfl rfl hshort
    · exact (overruns_part h.marked h.kind h.taken.sound h.moulds first m hshort).bind _

lemma Ready.overruns_rest (h : Ready T bar b) (hbar : bar = { barOf T b.copy.root [] with boxed := bar.boxed })
    (cssClass : Option String) (parts : List Menu) (hlong : ¬ b.uids.Short (1 + dropdownsIn parts)) :
    Overruns (renderRest cssClass parts (b.copy.root + 14) (b.copy.root + 16) (b.copy.root + 22)) b := by
  obtain ⟨us, f, hbranded, hlinked, _⟩ := h.run_branded hbar cssClass parts (b.copy.root + 14) (b.copy.root + 16)
    (b.copy.root + 22)
  by_cases hshort : b.uids.Short 1
  · obtain ⟨g, hnamed, hcontent⟩ := hlinked.run_named parts hshort
    have hparts := overruns_addParts hcontent true parts fun hrest => hlong (hshort.add hrest)
    exact hparts.later (hbranded.trans hnamed) rfl rfl hshort
  · have hnext := overruns_nextId (b := { b with forest := f }) hshort
    exact (hnext.bind _).same hbranded rfl rfl

/-- A copy whose rendering has come to a stop. The mould of its lists is gone, so it is never rendered. -/
structure Stopped (b : Bench) : Prop where
  rendered : b.copy.rendered = false
  gone : ∀ n, ("container", n) ∉ b.copy.targets.found

lemma run_shown (h : n.shown = .ok parts) (b : Bench) :
    (((n.shown : Except Fault (List Menu)) : Work (List Menu))).run b = (.ok parts, b) := by
  rw [h]
  rfl

lemma run_once_refused {e : Fault} (hr : b.copy.rendered = false) (h : n.shown = .error e) :
    (Work.once n.render).run b = (.error e, b) := by
  have hlift : ((n.shown : Except Fault (List Menu)) : Work (List Menu)).run b = (.error e, b) := by
    rw [h]
    rfl
  rw [run_once _ hr, render, run_bind_error (run_bind_error hlift)]

lemma Stopped.run_once (h : Stopped b) (n : Navbar Menu) : ∃ e, (Work.once n.render).run b = (.error e, b) := by
  cases hshown : n.shown with
  | error e => exact ⟨e, run_once_refused h.rendered hshown⟩
  | ok parts =>
    have hsingle : (b.index none).single b.forest "container" = .error ⟨"container", 0⟩ :=
      Index.single_of_not_found h.gone
    have hrender : n.render.run b = (.error (.notFound ⟨"container", 0⟩), b) := by
      rw [render, run_bind_ok (run_shown hshown b), run_bind_error (run_takeTarget_error hsingle)]
    refine ⟨.notFound ⟨"container", 0⟩, ?_⟩
    rw [Work.run_once _ h.rendered, run_bind_error hrender]

theorem run_once_stops (h : New T b) (hshown : n.shown = .ok parts) (hlong : ¬ b.uids.Short (1 + dropdownsIn parts)) :
    ∃ c, (Work.once n.render).run b = (.error .identifierTooLong, c) ∧ Stopped c ∧
      c.copy = { b.copy with targets := c.copy.targets } ∧ b.uids.StopsAt c.uids := by
  obtain ⟨f, hboxed, hready⟩ := h.run_boxed hshown
  obtain ⟨c, hrun, hcopy, hover⟩ := hready.overruns_rest rfl n.cssClass parts hlong
  refine ⟨c, ?_, ⟨?_, fun m hm => ?_⟩, ?_, hover⟩
  · rw [Work.run_once _ h.rendered, run_bind_error (hboxed.trans hrun)]
  · rw [hcopy]
    exact h.rendered
  · rw [hcopy] at hm
    simp [places] at hm
  · rw [hcopy]

end Navbar

end PageStencil
