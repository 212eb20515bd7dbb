import PageStencil.Proofs.Studio.Outcomes

/-!
Whatever fragments are made and rendered in a studio, and in whatever order, their identifiers are all different, and
each fragment refers to its own. What is rendered for the first time is rendered unless an identifier is too long.
-/

namespace PageStencil

open Markup Stencil Forest

/-- The identifiers that a rendering has put on the elements of a fragment, in document order. -/
def Content.identifiers {α : Type} (t : Markup.Tree α) : Content → List String
  | .bare => []
  | .modal _ => Modal.identifiers t
  | .navbar _ => Navbar.identifiers t

namespace Studio

def treeOf (s : Studio) (id : FragmentId) : Markup.Tree Unit := (s.forest.tree (s.fragment id).copy.root).erase

def identifiersOf (s : Studio) (id : FragmentId) : List String :=
  if (s.fragment id).copy.rendered then (s.fragment id).content.identifiers (s.treeOf id) else []

def allocatorOf (s : Studio) (id : FragmentId) : Allocator := s.allocator (s.fragment id).uids

def menusOf (s : Studio) (n : Navbar MenuId) : List Menu := (n.map s.menus.menu).menus

/-- A rendering takes some identifiers from the allocator of its fragment, and none from any other. -/
structure Takes (s s' : Studio) (id : FragmentId) (names : List String) : Prop where
  identifiers : s'.identifiersOf id = names
  allocators : s'.allocators =
    s.allocators.setIfInBounds (s.fragment id).uids ((s.allocatorOf id).skip names.length)

/-- What holds in a studio in which it has been tried to render some fragments. -/
structure Consistent (tried : FragmentId → Prop) (s : Studio) : Prop where
  distinct : ((List.range s.fragments.size).flatMap s.identifiersOf).Nodup
  again : ∀ id, (s.fragment id).copy.rendered = true →
    (Session.render id).run s = (.ok (s.fragment id).copy.root, s)
  refused : ∀ id n, (s.fragment id).content = .navbar n → (s.fragment id).copy.rendered = false →
    n.menu.isSome = true → n.parts.isSome = true → (Session.render id).run s = (.error .menuAndParts, s)
  bar : ∀ id n root s', (s.fragment id).content = .navbar n → (s.fragment id).copy.rendered = false →
    (Session.render id).run s = (.ok root, s') →
      Takes s s' id (Navbar.block (s.allocatorOf id).value (1 + Navbar.dropdownsIn (s.menusOf n)))
  dialog : ∀ id m root s', (s.fragment id).content = .modal m → (s.fragment id).copy.rendered = false →
    (Session.render id).run s = (.ok root, s') → Takes s s' id [Modal.identifier (s.allocatorOf id).value]
  firstBar : ∀ id n parts, (s.fragment id).content = .navbar n → ¬tried id →
    (s.fragment id).copy.markerName = markerAttribute → (n.map s.menus.menu).shown = .ok parts →
      ((∃ root s', (Session.render id).run s = (.ok root, s')) ↔ (s.allocatorOf id).Short (1 + Navbar.dropdownsIn parts))
  firstDialog : ∀ id m, (s.fragment id).content = .modal m → (s.fragment id).copy.rendered = false →
    ((∃ root s', (Session.render id).run s = (.ok root, s')) ↔ (s.allocatorOf id).Short 1)
  showsBar : ∀ id n, (s.fragment id).content = .navbar n → (s.fragment id).copy.rendered = true →
    ∃ shown parts value, Navbar.ShowsBar s.source.isXml shown parts value (s.treeOf id)
  showsDialog : ∀ id m, (s.fragment id).content = .modal m → (s.fragment id).copy.rendered = true →
    ∃ uid, Modal.ShowsDialog uid (s.treeOf id)

end Studio

lemma Navbar.New.exists_run_once_iff {xml : Bool} {b : Bench} (h : New (packaged xml) b) {n : Navbar Menu}
    {parts : List Menu} (hshown : n.shown = .ok parts) :
    (∃ root c, (Work.once n.render).run b = (.ok root, c)) ↔ b.uids.Short (1 + dropdownsIn parts) := by
  constructor
  · rintro ⟨root, c, hrun⟩
    by_contra hlong
    obtain ⟨c', hstops, _⟩ := run_once_stops h hshown hlong
    cases hrun.symm.trans hstops
  · intro hshort
    obtain ⟨c, t, hrun, _⟩ := run_once_render h hshown hshort
    exact ⟨_, c, hrun⟩

lemma Modal.Pending.exists_run_once_iff {xml : Bool} {b : Bench} {m : Modal} (h : Pending xml m b) :
    (∃ root c, (Work.once m.render).run b = (.ok root, c)) ↔ b.uids.Short 1 := by
  obtain ⟨root, _, h⟩ := h
  constructor
  · rintro ⟨root, c, hrun⟩
    by_contra hlong
    obtain ⟨c', hstops, _⟩ := h.run_once_stops hlong
    cases hrun.symm.trans hstops
  · intro hshort
    obtain ⟨c, t, hrun, _⟩ := h.run_once hshort
    exact ⟨_, c, hrun⟩

namespace Stage

variable {xml : Bool} {b : Bench} {content : Content} {span : Span}

lemma kind (h : Stage xml b content span) : span = none ∨ b.copy.kind = Navbar.kind ∨ b.copy.kind = Modal.kind := by
  cases h with
  | bare _ | bar _ | dialog _ => exact .inl rfl
  | barShown hshown => exact .inr (.inl hshown.kind)
  | dialogShown hshown => exact .inr (.inr hshown.kind)

lemma kind_bar {n : Navbar MenuId} (h : Stage xml b (.navbar n) span) : b.copy.kind = Navbar.kind := by
  cases h with
  | bar hpending => exact hpending.kind
  | barShown hshown => exact hshown.kind

lemma kind_dialog {m : Modal} (h : Stage xml b (.modal m) span) : b.copy.kind = Modal.kind := by
  cases h with
  | dialog hpending => exact hpending.kind
  | dialogShown hshown => exact hshown.kind

lemma pending {m : Modal} (h : Stage xml b (.modal m) span) (hr : b.copy.rendered = false) : Modal.Pending xml m b := by
  cases h with
  | dialog hpending => exact hpending
  | dialogShown hshown => cases hshown.rendered.symm.trans hr

lemma showsBar {n : Navbar MenuId} (h : Stage xml b (.navbar n) span) (hr : b.copy.rendered = true) :
    ∃ shown parts value, Navbar.ShowsBar xml shown parts value (b.forest.tree b.copy.root).erase := by
  cases h with
  | bar hpending => cases hpending.rendered.symm.trans hr
  | @barShown _ shown parts value hshown =>
    obtain ⟨t, ht, herase⟩ := hshown.tree
    refine ⟨shown, parts, value, ?_⟩
    rw [Navbar.tree_of_find? ht, herase]
    exact Navbar.showsBar xml shown parts value

lemma showsDialog {m : Modal} (h : Stage xml b (.modal m) span) (hr : b.copy.rendered = true) :
    ∃ uid, Modal.ShowsDialog uid (b.forest.tree b.copy.root).erase := by
  cases h with
  | dialog hpending => cases hpending.rendered.symm.trans hr
  | @dialogShown _ value hshown =>
    obtain ⟨t, root, title, text, ht, hname, herase⟩ := hshown.tree
    refine ⟨Modal.identifier value, ?_⟩
    rw [Navbar.tree_of_find? ht, herase]
    exact Modal.showsDialog_markup hname _ title text (List.forall_mem_nil _)

lemma identifiers (h : Stage xml b content span) :
    (if b.copy.rendered then content.identifiers (b.forest.tree b.copy.root).erase else []) =
      Span.names b.copy.kind span := by
  cases h with
  | bare hrendered => rw [hrendered]; rfl
  | bar hpending => rw [hpending.rendered]; rfl
  | dialog hpending => rw [hpending.rendered]; rfl
  | barShown hshown =>
    obtain ⟨t, ht, herase⟩ := hshown.tree
    rw [if_pos hshown.rendered, hshown.kind, Navbar.tree_of_find? ht, Content.identifiers, herase,
      Navbar.identifiers_stripped, Navbar.identifiers_markup]
    rfl
  | dialogShown hshown =>
    obtain ⟨t, root, title, text, ht, hname, herase⟩ := hshown.tree
    rw [if_pos hshown.rendered, hshown.kind, Navbar.tree_of_find? ht, Content.identifiers, herase,
      (Modal.showsDialog_markup hname _ title text (List.forall_mem_nil _)).title]
    simp [Span.names, Modal.identifier]

end Stage

namespace Studio

lemma exists_render_iff {s : Studio} {id : FragmentId} {content : Content} (hc : (s.fragment id).content = content) :
    (∃ root s', (Session.render id).run s = (.ok root, s')) ↔
      ∃ root c, (Work.once (Session.rendering s.menus content)).run (s.bench id) = (.ok root, c) := by
  rw [Session.render, run_bind_ok (run_get s), Session.run_work, hc]
  constructor
  · rintro ⟨root, s', hrun⟩
    exact ⟨root, _, Prod.ext (Prod.mk.inj hrun).1 rfl⟩
  · rintro ⟨root, c, hrun⟩
    exact ⟨root, _, by rw [hrun]⟩

namespace Orderly

variable {uids : Option AllocatorId} {tried : FragmentId → Prop} {span : FragmentId → Span} {s s' : Studio}
  {id : FragmentId}

lemma lt_size_of_content {content : Content} (hc : (s.fragment id).content = content) (hne : content ≠ .bare) :
    id < s.fragments.size := by
  by_contra hle
  rw [fragment_of_le (Nat.not_lt.mp hle)] at hc
  exact hne hc.symm

lemma lt_size (h : (s.fragment id).copy.rendered = true ∨ ∃ root, ((Session.render id).run s).1 = .ok root) :
    id < s.fragments.size := by
  by_contra hle
  have hle := Nat.not_lt.mp hle
  rcases h with h | ⟨root, h⟩
  · rw [fragment_of_le hle] at h
    cases h
  · rw [Session.run_render_of_le hle] at h
    cases h

lemma identifiersOf_eq (h : Orderly uids tried span s) (hid : id < s.fragments.size) :
    s.identifiersOf id = Span.names (s.fragment id).copy.kind (span id) := (h.counted.stage id hid).identifiers

lemma distinct (h : Orderly uids tried span s) : ((List.range s.fragments.size).flatMap s.identifiersOf).Nodup := by
  rw [List.nodup_flatMap]
  constructor
  · intro i hi
    rw [h.identifiersOf_eq (List.mem_range.mp hi)]
    exact nodup_names _ _
  · refine List.nodup_range.pairwise_of_forall_ne fun i hi j hj hne => ?_
    have hi := List.mem_range.mp hi
    have hj := List.mem_range.mp hj
    change (s.identifiersOf i).Disjoint (s.identifiersOf j)
    rw [h.identifiersOf_eq hi, h.identifiersOf_eq hj]
    by_cases hkind : (s.fragment i).copy.kind = (s.fragment j).copy.kind
    · -- One kind has one allocator, so the values are others.
      have huids := h.counted.pool i hi
      rw [hkind, h.counted.pool j hj] at huids
      rw [hkind]
      exact disjoint_names (h.counted.apart i hi j hj hne (Option.some.inj huids).symm)
    · rcases (h.counted.stage i hi).kind with hi | hi | hi
      · rw [hi]
        exact List.disjoint_nil_left _
      all_goals
        change (s.fragment i).copy.kind = _ at hi
        rcases (h.counted.stage j hj).kind with hj | hj | hj
        · rw [hj]
          exact List.disjoint_nil_right _
        all_goals change (s.fragment j).copy.kind = _ at hj
      · exact absurd (hi.trans hj.symm) hkind
      · rw [hi, hj]
        exact disjoint_kinds _ _
      · rw [hi, hj]
        exact List.disjoint_symm (disjoint_kinds _ _)
      · exact absurd (hi.trans hj.symm) hkind

lemma stage (h : Orderly uids tried span s) (hid : id < s.fragments.size) {content : Content}
    (hc : (s.fragment id).content = content) : Stage s.source.isXml (s.bench id) content (span id) :=
  hc ▸ h.counted.stage id hid

lemma takes (h : Orderly uids tried span s) {root : Node} (hr : (s.fragment id).copy.rendered = false)
    (hrun : (Session.render id).run s = (.ok root, s')) :
    Takes s s' id (Span.names (s.fragment id).copy.kind
      (some ((s.allocatorOf id).value, (s.fragment id).content.need s.menus))) := by
  obtain ⟨owner, read, hs, hread⟩ := h.separate
  have hid : id < s.fragments.size := lt_size (.inr ⟨root, by rw [hrun]⟩)
  obtain ⟨o, c, span', hrun', hbench, hkind, hrendering, hcounted⟩ := h.counted.render hs hid
  obtain ⟨rfl, rfl⟩ := Prod.mk.inj (hrun.symm.trans hrun')
  have hidentifiers : (s.back id c).identifiersOf id = _ := (hcounted.stage id (s.size_back id c ▸ hid)).identifiers
  rw [Function.update_self, hbench, hkind] at hidentifiers
  generalize span id = old at hrendering
  cases hrendering with
  | again hrendered => cases hr.symm.trans hrendered
  | shows huids =>
    constructor
    · exact hidentifiers
    · rw [Span.names, List.length_map, List.length_range]
      exact congrArg (s.allocators.setIfInBounds (s.fragment id).uids) huids

theorem consistent (h : Orderly uids tried span s) : Consistent tried s where
  distinct := h.distinct
  again id hr := by
    have hrun : (Work.once (Session.rendering s.menus (s.fragment id).content)).run (s.bench id) =
        (.ok (s.fragment id).copy.root, s.bench id) := Work.run_once_rendered _ hr
    rw [Session.render, run_bind_ok (run_get s), Session.run_work, hrun, Studio.back_bench]
  refused id n hc hr hmenu hparts := by
    have hshown : (n.map s.menus.menu).shown = .error .menuAndParts := by
      obtain ⟨menu, hmenu⟩ := Option.isSome_iff_exists.mp hmenu
      obtain ⟨parts, hparts⟩ := Option.isSome_iff_exists.mp hparts
      rw [Navbar.shown, Navbar.map, hmenu, hparts]
      rfl
    have hrun : (Work.once (Session.rendering s.menus (s.fragment id).content)).run (s.bench id) =
        (.error .menuAndParts, s.bench id) := by
      rw [hc]
      exact Navbar.run_once_refused hr hshown
    rw [Session.render, run_bind_ok (run_get s), Session.run_work, hrun, Studio.back_bench]
  bar id n root s' hc hr hrun := by
    have htakes := h.takes hr hrun
    have hstage := h.stage (lt_size (.inr ⟨root, by rw [hrun]⟩)) hc
    rw [show (s.fragment id).copy.kind = Navbar.kind from hstage.kind_bar, hc] at htakes
    exact htakes
  dialog id m root s' hc hr hrun := by
    have htakes := h.takes hr hrun
    have hstage := h.stage (lt_size (.inr ⟨root, by rw [hrun]⟩)) hc
    have hone : Span.names Modal.kind (some ((s.allocatorOf id).value, 1)) =
        [Modal.identifier (s.allocatorOf id).value] := by
      simp [Span.names, Modal.identifier]
    rw [show (s.fragment id).copy.kind = Modal.kind from hstage.kind_dialog, hc] at htakes
    exact hone ▸ htakes
  firstBar id n parts hc htried hmarker hshown := by
    rw [exists_render_iff hc]
    exact (h.untried id (lt_size_of_content hc (by simp)) htried n hc hmarker).exists_run_once_iff hshown
  firstDialog id m hc hr := by
    rw [exists_render_iff hc]
    have hstage := h.stage (lt_size_of_content hc (by simp)) hc
    exact (hstage.pending hr).exists_run_once_iff
  showsBar id n hc hr := (h.stage (lt_size (.inl hr)) hc).showsBar hr
  showsDialog id m hc hr := (h.stage (lt_size (.inl hr)) hc).showsDialog hr

end Orderly

/-- Fragments are made and rendered in any order, all with one allocator or all with the default ones of their kinds. -/
theorem identifiers_consistent {s : Studio} (hs : s.Unused) (hdir : s.source.directory = Packaged.directory)
    {uids : Option AllocatorId} (held : ∀ kind id, s.pool? uids kind = some id → id < s.allocators.size)
    (turns : List Turn) : Consistent (fun id => Turn.render id ∈ turns) (afterTurns uids turns s) := by
  obtain ⟨_, h⟩ := (hs.orderly hdir held).turns turns
  exact (h.mono fun _ ht => ht.resolve_left id).consistent

def outcomes (uids : Option AllocatorId) : List Turn → Studio → List Bool
  | [], _ => []
  | t :: ts, s => ((t.run uids).run s).1.isOk :: outcomes uids ts ((t.run uids).run s).2

lemma outcomes_cons {α : Type} {uids : Option AllocatorId} {t : Turn} {x : Session α} (ht : t.run uids = discard x)
    {s s' : Studio} {o : Except Fault α} (h : x.run s = (o, s')) (ts : List Turn) :
    outcomes uids (t :: ts) s = o.isOk :: outcomes uids ts s' := by
  rw [outcomes, ht, run_discard, h]
  cases o <;> rfl

namespace Working

variable {tried : FragmentId → Prop} {id : FragmentId} {s : Studio}

lemma allocatorOf_eq {k : FragmentKind} {content : Content} (h : Lies k content id s) :
    s.allocatorOf id = s.counter k.name := (counter_of_lookup h.owns.counter).symm

lemma rendered_of_identifiersOf {name : String} {names : List String} (h : s.identifiersOf id = name :: names) :
    (s.fragment id).copy.rendered = true := by
  by_contra hr
  rw [identifiersOf, if_neg hr] at h
  cases h

lemma consistent (h : Working tried s) : Consistent tried s := by
  obtain ⟨_, horderly⟩ := h.orderly
  exact horderly.consistent

theorem render_bar (h : Working tried s) {n : Navbar MenuId} (hlies : Lies .bar (.navbar n) id s) (htried : ¬tried id)
    {parts : List Menu} (hshown : (n.map s.menus.menu).shown = .ok parts)
    (hshort : (s.counter Navbar.kind).Short (1 + Navbar.dropdownsIn parts)) :
    ∃ root c, (Session.render id).run s = (.ok root, s.back id c) ∧
      Working (fun i => tried i ∨ i = id) (s.back id c) ∧ ((s.back id c).fragment id).copy.rendered = true := by
  obtain ⟨o, c, hrun, hworking⟩ := h.render hlies.owns.made
  obtain ⟨root, s', hok⟩ := (h.consistent.firstBar id n parts hlies.content htried hlies.marker hshown).mpr
    ((allocatorOf_eq hlies).symm ▸ hshort)
  obtain rfl := congrArg Prod.fst (hrun.symm.trans hok)
  have htakes := (h.consistent.bar id n root _ hlies.content hlies.rendered hrun).identifiers
  rw [Navbar.block_add, Navbar.block_one] at htakes
  exact ⟨root, c, hrun, hworking, rendered_of_identifiersOf htakes⟩

theorem render_dialog (h : Working tried s) {m : Modal} (hlies : Lies .dialog (.modal m) id s)
    (hshort : (s.counter Modal.kind).Short 1) :
    ∃ root c, (Session.render id).run s = (.ok root, s.back id c) ∧ Working (fun i => tried i ∨ i = id) (s.back id c) := by
  obtain ⟨o, c, hrun, hworking⟩ := h.render hlies.owns.made
  obtain ⟨root, s', hok⟩ := (h.consistent.firstDialog id m hlies.content hlies.rendered).mpr
    ((allocatorOf_eq hlies).symm ▸ hshort)
  obtain rfl := congrArg Prod.fst (hrun.symm.trans hok)
  exact ⟨root, c, hrun, hworking⟩

lemma outcomes_renders (h : Working (fun _ => False) s) {i j k : FragmentId} {n n' : Navbar MenuId} {m : Modal}
    (hi : Lies .bar (.navbar n) i s) (hj : Lies .bar (.navbar n') j s) (hk : Lies .dialog (.modal m) k s)
    (hji : j ≠ i) (hki : k ≠ i) (hmenu : n'.menu.isSome = true) (hparts : n'.parts.isSome = true) {parts : List Menu}
    (hshown : (n.map s.menus.menu).shown = .ok parts)
    (hshort : (s.counter Navbar.kind).Short (1 + Navbar.dropdownsIn parts)) (hone : (s.counter Modal.kind).Short 1) :
    outcomes none [.render i, .render j, .render k, .render i] s = [true, false, true, true] := by
  obtain ⟨root, c, hfirst, h', hrendered⟩ := h.render_bar hi id hshown hshort
  have hj' := hj.back hi.owns.made hji c
  have hk' := hk.back hi.owns.made hki c
  have hrefused := h'.consistent.refused j n' hj'.content hj'.rendered hmenu hparts
  have hone' : ((s.back i c).counter Modal.kind).Short 1 := by
    rwa [hi.owns.counter_back h.sound, if_neg (by decide)]
  obtain ⟨root', d, hsecond, h''⟩ := h'.render_dialog hk' hone'
  rw [← Counted.fragment_of_ne hk'.owns.made d hki.symm] at hrendered
  have hagain := h''.consistent.again i hrendered
  rw [outcomes_cons rfl hfirst, outcomes_cons rfl hrefused, outcomes_cons rfl hsecond, outcomes_cons rfl hagain]
  rfl

end Working

def sampleTurns : List Turn :=
  [.setMenus fun g => (g.plant none (.group none none [.item none none, .group none none []])).2,
    .newNavbar { menu := some 0 }, .newNavbar { menu := some 0, parts := some [] }, .newModal none none none none,
    .render 0, .render 1, .render 2, .render 0]

lemma working_workshop : Working (fun _ => False) workshop := by
  have hunused : workshop.Unused := ⟨⟨List.nodup_nil, fun _ hn => absurd hn List.not_mem_nil⟩, rfl, rfl⟩
  exact ⟨hunused.to_sound rfl, ⟨rfl, (stocked_startingAt 0).reach, rfl, rfl⟩, _, hunused.orderly rfl nofun⟩

lemma outcomes_sampleTurns :
    outcomes none sampleTurns workshop = [true, true, true, true, true, false, true, true] := by
  have h₁ := working_workshop.setMenus fun g => (g.plant none (.group none none [.item none none, .group none none []])).2
  generalize hs₁ : ((Session.setMenus _).run workshop).2 = s₁ at h₁
  have hrun₁ : (Session.setMenus _).run workshop = (.ok (), s₁) := Prod.ext rfl hs₁
  have hsize : s₁.fragments.size = 0 := hs₁ ▸ rfl
  have hcounter : ∀ k : FragmentKind, s₁.counter k.name = ⟨1000, 0⟩ := by
    intro k
    rw [← hs₁]
    rfl
  have hmenu : s₁.menus.menu 0 = .group none none [.item none none, .group none none []] := by
    rw [← hs₁]
    exact (workshop.menus.stands_plant _).menu_eq
  obtain ⟨s₂, hrun₂, h₂, hadds₂, hi⟩ := h₁.newNavbar { menu := some 0 }
  obtain ⟨s₃, hrun₃, h₃, hadds₃, hj⟩ := h₂.newNavbar { menu := some 0, parts := some [] }
  obtain ⟨m, s₄, hrun₄, h₄, hadds₄, hk⟩ := h₃.newModal none none none none
  have hcounter' : ∀ k : FragmentKind, s₄.counter k.name = ⟨1000, 0⟩ := fun k => by
    rw [hadds₄.counter, hadds₃.counter, hadds₂.counter, hcounter]
  have hshown : (Navbar.map s₄.menus.menu { menu := some 0 }).shown =
      .ok [.group none none [.item none none, .group none none []]] := by
    rw [hadds₄.menus, hadds₃.menus, hadds₂.menus, ← hmenu]
    rfl
  rw [hsize] at hi
  rw [hadds₂.size, hsize] at hj
  rw [hadds₃.size, hadds₂.size, hsize] at hk
  have hrenders := h₄.outcomes_renders ((hi.adds hadds₃).adds hadds₄) (hj.adds hadds₄) hk (by decide) (by decide) rfl rfl
    hshown (hcounter' .bar ▸ by decide +kernel) (hcounter' .dialog ▸ by decide +kernel)
  rw [sampleTurns, outcomes_cons rfl hrun₁, outcomes_cons rfl hrun₂, outcomes_cons rfl hrun₃, outcomes_cons rfl hrun₄]
  exact congrArg (true :: true :: true :: true :: ·) hrenders

theorem workshop_consistent : workshop.Unused ∧ workshop.source.directory = Packaged.directory ∧
    (∀ kind id, workshop.pool? none kind = some id → id < workshop.allocators.size) ∧
    outcomes none sampleTurns workshop = [true, true, true, true, true, false, true, true] ∧
    Consistent (fun id => Turn.render id ∈ sampleTurns) (afterTurns none sampleTurns workshop) := by
  have hunused : workshop.Unused := ⟨⟨List.nodup_nil, fun _ hn => absurd hn List.not_mem_nil⟩, rfl, rfl⟩
  have held : ∀ kind id, workshop.pool? none kind = some id → id < workshop.allocators.size := fun _ _ h => nomatch h
  exact ⟨hunused, rfl, held, outcomes_sampleTurns, identifiers_consistent hunused rfl held sampleTurns⟩

end Studio

end PageStencil
