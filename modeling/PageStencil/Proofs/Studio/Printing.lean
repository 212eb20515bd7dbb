import PageStencil.Proofs.Component.Printing
import PageStencil.Proofs.Menu.Family
import PageStencil.Proofs.Studio.Counting
import PageStencil.Proofs.Studio.Sharing

/-!
Fragments that are printed in one studio. All of a kind come from one tree that has been loaded once and share one
counter; each is printed as it would be with nothing else in the studio.
-/

namespace PageStencil

open Markup Stencil Forest

namespace Studio

/-- The shelf holds what reading the templates yields, and no two kinds share a counter. So it is at the start and after
all that is printed. -/
structure Sound (s : Studio) : Prop where
  separate : ∃ owner read, Separate owner read s ∧ ∀ name t, read name = some t → s.source.readRoot name = .ok t
  held : ∀ kind id, s.defaults.lookup kind = some id → id < s.allocators.size
  apart : ∀ kind kind' id, s.defaults.lookup kind = some id → s.defaults.lookup kind' = some id → kind = kind'

/-- Studios that print fragments of a kind alike. -/
structure Alike (kind : String) (s s' : Studio) : Prop where
  settings : s'.settings = s.settings
  source : s'.source = s.source
  counter : s'.counter kind = s.counter kind

/-- A fragment has been made in a studio as it would have been in a sound forest. -/
structure Made (k : FragmentKind) (w : Work String) (s : Studio) (r : Except Fault String × Studio) : Prop where
  sound : r.2.Sound
  settings : r.2.settings = s.settings
  source : r.2.source = s.source
  outcome : ∃ f : Forest, f.Sound ∧
    (r.1, r.2.counter k.name) = s.source.made s.settings.markerName k f (s.counter k.name) w
  others : ∀ kind ≠ k.name, r.2.counter kind = s.counter kind

section Alike

variable {kind : String} {s s' s'' : Studio}

lemma Alike.refl (kind : String) (s : Studio) : Alike kind s s := ⟨rfl, rfl, rfl⟩

lemma Alike.symm (h : Alike kind s s') : Alike kind s' s := ⟨h.settings.symm, h.source.symm, h.counter.symm⟩

lemma Alike.trans (h : Alike kind s s') (h' : Alike kind s' s'') : Alike kind s s'' :=
  ⟨h'.settings.trans h.settings, h'.source.trans h.source, h'.counter.trans h.counter⟩

end Alike

section Counters

variable {s s' : Studio} {kind other : String} {id : AllocatorId}

lemma counter_of_lookup (h : s.defaults.lookup kind = some id) : s.counter kind = s.allocator id := by
  rw [counter, h]

structure Supplied (kind : String) (id : AllocatorId) (s s' : Studio) : Prop where
  own : s'.defaults.lookup kind = some id
  held : ∀ kind id, s'.defaults.lookup kind = some id → id < s'.allocators.size
  apart : ∀ kind kind' id, s'.defaults.lookup kind = some id → s'.defaults.lookup kind' = some id → kind = kind'
  counter : ∀ other, s'.counter other = s.counter other

lemma Sound.supplied_push (hs : s.Sound) (hid : s.defaults.lookup kind = none) : Supplied kind s.allocators.size s
    { s with
      allocators := s.allocators.push (.start none s.settings.uidSeed s.lot)
      defaults := (kind, s.allocators.size) :: s.defaults } := by
  have hlookup : ∀ other, ((kind, s.allocators.size) :: s.defaults).lookup other =
      if other = kind then some s.allocators.size else s.defaults.lookup other := by
    intro other
    rw [List.lookup_cons]
    by_cases hne : other = kind
    · rw [if_pos hne, beq_iff_eq.mpr hne]
    · rw [if_neg hne, beq_eq_false_iff_ne.mpr hne]
  refine ⟨(hlookup kind).trans (if_pos rfl), fun other id h => ?_, fun other other' id h h' => ?_, fun other => ?_⟩
  · rw [Array.size_push]
    rw [hlookup] at h
    split at h
    next => exact Option.some.inj h ▸ Nat.lt_succ_self _
    next => exact Nat.lt_succ_of_lt (hs.held other id h)
  · rw [hlookup] at h h'
    split at h <;> split at h'
    next heq heq' => rw [heq, heq']
    next => exact absurd (hs.held other' id h') (Option.some.inj h ▸ Nat.lt_irrefl _)
    next => exact absurd (hs.held other id h) (Option.some.inj h' ▸ Nat.lt_irrefl _)
    next => exact hs.apart other other' id h h'
  · rw [counter, hlookup]
    by_cases hne : other = kind
    · subst hne
      rw [if_pos rfl, counter, hid]
      simp only [allocator, Array.getElem?_push_size, Option.getD_some]
    · rw [if_neg hne, counter]
      cases hother : s.defaults.lookup other with
      | none => rfl
      | some id =>
        have hlt := hs.held other id hother
        simp only [allocator, Array.getElem?_push_lt hlt, Array.getElem?_eq_getElem hlt]

lemma Sound.run_defaultAllocator (hs : s.Sound) (kind : String) : ∃ id allocators defaults,
    (Session.defaultAllocator kind).run s = (.ok id, { s with allocators, defaults }) ∧
      Supplied kind id s { s with allocators, defaults } := by
  rw [Session.defaultAllocator, run_bind_ok (run_get s)]
  cases hid : s.defaults.lookup kind with
  | some id => exact ⟨id, s.allocators, s.defaults, rfl, hid, hs.held, hs.apart, fun _ => rfl⟩
  | none => exact ⟨_, _, _, rfl, hs.supplied_push hid⟩

end Counters

section Loading

variable {s : Studio} {name : String} {t : Markup.Tree Unit}

lemma Sound.congr {s' : Studio} (hs : s.Sound) (hsource : s'.source = s.source) (hforest : s'.forest = s.forest)
    (hshelf : s'.shelf = s.shelf) (hfragments : s'.fragments = s.fragments) (hdefaults : s'.defaults = s.defaults)
    (hsize : s'.allocators.size = s.allocators.size) : s'.Sound where
  separate := by
    obtain ⟨owner, read, h, hread⟩ := hs.separate
    refine ⟨owner, read, h.congr hforest hshelf fun i hi n hn => h.fragments i (hfragments ▸ hi) n ?_, hsource ▸ hread⟩
    rwa [fragment, hfragments] at hn
  held := hdefaults ▸ hsize ▸ hs.held
  apart := hdefaults ▸ hs.apart

theorem Sound.readRoot_of_shelf (hs : s.Sound) {root : Node} (h : s.shelf.get? name = some root) :
    s.source.readRoot name = .ok (s.forest.tree root).erase := by
  obtain ⟨owner, read, hseparate, hread⟩ := hs.separate
  cases hname : read name with
  | none => cases (hseparate.unread name hname).symm.trans h
  | some t =>
    obtain ⟨root', hget, _, u, hu, rfl⟩ := hseparate.shelved name t hname
    cases hget.symm.trans h
    rw [hread name _ hname, Navbar.tree_of_find? hu]

lemma readRoot_of_reread {read : String → Option (Markup.Tree Unit)} {source : Source}
    (hread : ∀ name t, read name = some t → source.readRoot name = .ok t) {other : String}
    (h : reread name source read other = some t) : source.readRoot other = .ok t := by
  rw [reread] at h
  split at h
  next heq =>
    subst heq
    cases hother : read other with
    | some u =>
      rw [hother] at h
      exact Option.some.inj h ▸ hread other u hother
    | none =>
      rw [hother] at h
      cases hroot : source.readRoot other with
      | error e =>
        rw [hroot] at h
        cases h
      | ok u =>
        rw [hroot] at h
        exact congrArg Except.ok (Option.some.inj h)
  next => exact hread other t h

lemma Sound.of_separate {owner : Nat → Owner} {read : String → Option (Markup.Tree Unit)} {s' : Studio} (hs : s.Sound)
    (h : Separate owner read s') (hsource : s'.source = s.source)
    (hread : ∀ name t, read name = some t → s.source.readRoot name = .ok t) (hdefaults : s'.defaults = s.defaults)
    (hsize : s'.allocators.size = s.allocators.size) : s'.Sound where
  separate := ⟨owner, read, h, hsource ▸ hread⟩
  held := hdefaults ▸ hsize ▸ hs.held
  apart := hdefaults ▸ hs.apart

lemma Sound.run_load_error (hs : s.Sound) {e : Fault} (h : s.source.readRoot name = .error e) :
    (Session.load name).run s = (.error e, s) := by
  obtain ⟨owner, read, hseparate, hread⟩ := hs.separate
  cases hname : read name with
  | none => exact load_of_refused hseparate hname h
  | some t => cases (hread name t hname).symm.trans h

lemma Sound.run_load (hs : s.Sound) (h : s.source.readRoot name = .ok t) :
    ∃ root forest shelf, (Session.load name).run s = (.ok root, { s with forest, shelf }) ∧
      (forest.tree root).erase = t ∧ Sound { s with forest, shelf } := by
  have hkept : ∀ {root forest shelf}, (Session.load name).run s = (.ok root, { s with forest, shelf }) →
      shelf.get? name = some root → Sound { s with forest, shelf } → ∃ root forest shelf,
        (Session.load name).run s = (.ok root, { s with forest, shelf }) ∧
          (forest.tree root).erase = t ∧ Sound { s with forest, shelf } := by
    intro root forest shelf hrun hget hsound
    exact ⟨root, forest, shelf, hrun, Except.ok.inj ((hsound.readRoot_of_shelf hget).symm.trans h), hsound⟩
  obtain ⟨owner, read, hseparate, hread⟩ := hs.separate
  cases hname : read name with
  | some u =>
    obtain ⟨root, hget⟩ := hseparate.get?_of_read hname
    exact hkept (Session.run_load_of_get hget) hget hs
  | none =>
    cases hdoc : s.source.readDocument name with
    | error e =>
      rw [Source.readRoot, hdoc] at h
      cases h
    | ok document =>
      have hrun := Session.run_load_of_ok (hseparate.unread name hname) hdoc
      obtain ⟨owner', h', _⟩ := hseparate.load name
      rw [hrun] at h'
      exact hkept hrun (Shelf.get?_cons_self _ _ _)
        (hs.of_separate h' rfl (fun _ _ => readRoot_of_reread hread) rfl rfl)

end Loading

section Fragments

variable {s : Studio} {k : FragmentKind} {t : Markup.Tree Unit} {id : FragmentId}

structure Owns (kind : String) (id : FragmentId) (s : Studio) : Prop where
  made : id < s.fragments.size
  counter : s.defaults.lookup kind = some (s.fragment id).uids

structure Copied (k : FragmentKind) (t : Markup.Tree Unit) (id : FragmentId) (s s' : Studio) : Prop where
  sound : s'.Sound
  owns : Owns k.name id s'
  bench : ∃ f : Forest, f.Sound ∧ s'.bench id = Bench.withCopy s.settings.markerName k.name t f (s.counter k.name)
  alike : ∀ kind, Alike kind s s'

lemma Sound.run_newFragment (hs : s.Sound) (h : s.source.readRoot k.templateName = .ok t) :
    ∃ s', (Session.newFragment k.templateName k.name none).run s = (.ok s.fragments.size, s') ∧
      Copied k t s.fragments.size s s' ∧ s'.menus = s.menus := by
  obtain ⟨root, forest, shelf, hload, herase, hloaded⟩ := hs.run_load h
  obtain ⟨id, allocators, defaults, hdefault, hsupplied⟩ := hloaded.run_defaultAllocator k.name
  obtain ⟨owner, read, hseparate, hread⟩ := hloaded.separate
  have hsep : Separate owner read { s with forest, shelf, allocators, defaults } :=
    hseparate.congr rfl rfl hseparate.fragments
  obtain ⟨owner', hcopied⟩ := hsep.addCopy k.name root id
  refine ⟨Studio.addCopy { s with forest, shelf, allocators, defaults } k.name root id, ?_,
    ⟨⟨⟨owner', read, hcopied, hread⟩, hsupplied.held, hsupplied.apart⟩, ⟨?_, ?_⟩, ⟨forest, hseparate.sound, ?_⟩,
      fun kind => ⟨rfl, rfl, hsupplied.counter kind⟩⟩, rfl⟩
  · rw [Session.newFragment_eq, run_bind_ok hload, Session.allocatorFor, run_bind_ok hdefault]
    rfl
  · exact (Array.size_push _).symm ▸ Nat.lt_succ_self _
  · rw [Studio.fragment_push rfl, if_pos rfl]
    exact hsupplied.own
  · have hcounter : Studio.allocator { s with forest, shelf, allocators, defaults } id = s.counter k.name :=
      (counter_of_lookup hsupplied.own).symm.trans (hsupplied.counter k.name)
    rw [Studio.bench, Studio.fragment_push rfl, if_pos rfl, ← herase, withCopy_erase, ← hcounter]
    rfl

lemma Owns.held (hs : s.Sound) {kind : String} (h : Owns kind id s) : (s.fragment id).uids < s.allocators.size :=
  hs.held kind _ h.counter

lemma Owns.counter_back (hs : s.Sound) {kind : String} (h : Owns kind id s) (c : Bench) (other : String) :
    (s.back id c).counter other = if other = kind then c.uids else s.counter other := by
  have hlookup : (s.back id c).defaults = s.defaults := rfl
  rw [Studio.counter, hlookup]
  by_cases hne : other = kind
  · subst hne
    rw [if_pos rfl, h.counter]
    exact (Counted.allocator_back (h.held hs) c _).trans (if_pos rfl)
  · rw [if_neg hne, Studio.counter]
    cases hother : s.defaults.lookup other with
    | none => rfl
    | some a =>
      refine (Counted.allocator_back (h.held hs) c a).trans (if_neg ?_)
      rintro rfl
      exact hne (hs.apart _ _ _ hother h.counter)

end Fragments

end Studio

namespace Session

variable {α β : Type} {id : FragmentId} {s : Studio} {x : Session α} {w : Work α}

/-- A session does to a fragment what some work does to its bench. -/
def Acts (id : FragmentId) (x : Session α) (w : Work α) (s : Studio) : Prop :=
  x.run s = ((w.run (s.bench id)).1, s.back id (w.run (s.bench id)).2)

structure Workable (id : FragmentId) (s : Studio) : Prop where
  made : id < s.fragments.size
  held : (s.fragment id).uids < s.allocators.size

lemma Workable.bench_back (h : Workable id s) (c : Bench) : (s.back id c).bench id = c :=
  Counted.bench_back h.made h.held c

lemma Workable.fragment_back (h : Workable id s) (c : Bench) :
    (s.back id c).fragment id = { s.fragment id with copy := c.copy } :=
  (Studio.fragment_back h.made c id).trans (if_pos rfl)

lemma Workable.back (h : Workable id s) (c : Bench) : Workable id (s.back id c) where
  made := (s.size_back id c).symm ▸ h.made
  held := by
    rw [h.fragment_back]
    exact Nat.lt_of_lt_of_eq h.held Array.size_setIfInBounds.symm

lemma Workable.back_back (h : Workable id s) (c d : Bench) : (s.back id c).back id d = s.back id d := by
  rw [Studio.back, h.fragment_back]
  simp only [Studio.back, Array.setIfInBounds_setIfInBounds]

lemma Acts.bind (h : Workable id s) {k : α → Session β} {v : α → Work β} (hx : Acts id x w s)
    (hk : ∀ a c, w.run (s.bench id) = (.ok a, c) → Acts id (k a) (v a) (s.back id c)) :
    Acts id (x >>= k) (w >>= v) s := by
  rw [Acts] at hx ⊢
  rw [run_bind, hx, run_bind]
  rcases hw : w.run (s.bench id) with ⟨e | a, c⟩
  · rfl
  · have hnext := hk a c hw
    rw [Acts, h.bench_back, h.back_back] at hnext
    exact hnext

lemma Acts.discard (hx : Acts id x w s) : Acts id (discard x) (discard w) s := by
  rw [Acts] at hx ⊢
  rw [run_discard, run_discard, hx]

lemma acts_work (id : FragmentId) (w : Work α) (s : Studio) : Acts id (work id w) w s := rfl

lemma acts_render (id : FragmentId) (s : Studio) :
    Acts id (render id) (Work.once (rendering s.menus (s.fragment id).content)) s := by
  rw [Acts, render, run_bind_ok (run_get s)]
  rfl

lemma acts_renderHtml (h : Workable id s) (pretty : Bool) : Acts id (renderHtml id pretty)
    (discard (Work.once (rendering s.menus (s.fragment id).content)) >>= fun _ => Work.written pretty) s :=
  (acts_render id s).discard.bind h fun _ _ _ => acts_work id _ _

lemma acts_addButton {m : Modal} (hm : (s.fragment id).content = .modal m) (b : Button) :
    Acts id (discard (addButton id b)) (discard (m.addButton b)) s := by
  rw [Acts, run_discard, run_discard, addButton, run_bind_ok (run_get s), hm]
  change _ = (((m.addButton b).run (s.bench id)).1.map fun _ => (), _)
  rw [run_work, run_map]
  cases ((m.addButton b).run (s.bench id)).1 <;> rfl

lemma acts_addButtons (h : Workable id s) {m : Modal} (hm : (s.fragment id).content = .modal m) (bs : List Button) :
    Acts id (bs.forM fun b => discard (addButton id b)) (bs.forM fun b => discard (m.addButton b)) s := by
  induction bs generalizing s with
  | nil => exact Prod.ext rfl (s.back_bench id).symm
  | cons b bs ih =>
    refine (acts_addButton hm b).bind h fun _ c _ => ih (h.back c) ?_
    rw [h.fragment_back]
    exact hm

lemma acts_printing (h : Workable id s) {m : Modal} (hm : (s.fragment id).content = .modal m) (bs : List Button)
    (pretty : Bool) : Acts id (bs.forM (fun b => discard (addButton id b)) >>= fun _ => renderHtml id pretty)
      (m.printing bs pretty) s := by
  refine (acts_addButtons h hm bs).bind h fun _ c _ => ?_
  have hcontent : ((s.back id c).fragment id).content = .modal m := by
    rw [h.fragment_back]
    exact hm
  have hrender := acts_renderHtml (h.back c) pretty
  rw [hcontent] at hrender
  exact hrender

lemma run_newMenus (ms : List Menu) (s : Studio) : ∃ ids menus, (ms.mapM newMenu).run s = (.ok ids, { s with menus }) ∧
    s.menus.Extends menus ∧ List.Forall₂ menus.Stands ids ms := by
  induction ms generalizing s with
  | nil => exact ⟨[], s.menus, rfl, .refl _, .nil⟩
  | cons m ms ih =>
    have hplanted := (s.menus.plant_spec none m).grown
    obtain ⟨ids, menus, hrun, hgrown, hstand⟩ := ih { s with menus := (s.menus.plant none m).2 }
    refine ⟨_, menus, ?_, hplanted.trans hgrown, .cons ((s.menus.stands_plant m).extend hgrown) hstand⟩
    have hnew : (newMenu m).run s = (.ok (s.menus.plant none m).1, { s with menus := (s.menus.plant none m).2 }) := rfl
    rw [List.mapM_cons, run_bind_ok hnew, run_bind_ok hrun]
    rfl

lemma map_menu_of_stand {g : MenuGraph} {ids : List MenuId} {ms : List Menu} (h : List.Forall₂ g.Stands ids ms) :
    ids.map g.menu = ms := by
  induction h with
  | nil => rfl
  | cons hm _ ih => rw [List.map_cons, hm.menu_eq, ih]

lemma run_optional {γ δ : Type} {f : γ → Session δ} {R : MenuGraph → δ → γ → Prop}
    (hf : ∀ c s, ∃ d menus, (f c).run s = (.ok d, { s with menus }) ∧ s.menus.Extends menus ∧ R menus d c)
    (c : Option γ) (s : Studio) : ∃ d menus, (c.mapM f).run s = (.ok d, { s with menus }) ∧ s.menus.Extends menus ∧
      Option.Rel (R menus) d c := by
  cases c with
  | none => exact ⟨none, s.menus, rfl, .refl _, .none⟩
  | some c =>
    obtain ⟨d, menus, hrun, hgrown, hd⟩ := hf c s
    refine ⟨some d, menus, ?_, hgrown, .some hd⟩
    change (some <$> f c).run s = _
    rw [run_map, hrun]
    rfl

lemma run_placeMenus (n : Navbar Menu) (s : Studio) : ∃ n' menus, (placeMenus n).run s = (.ok n', { s with menus }) ∧
    n'.map menus.menu = n := by
  obtain ⟨menu, parts, cssClass, inContainer⟩ := n
  have hnew : ∀ m s, ∃ id menus, (newMenu m).run s = (.ok id, { s with menus }) ∧ s.menus.Extends menus ∧
      menus.Stands id m := fun m s => ⟨_, _, rfl, (s.menus.plant_spec none m).grown, s.menus.stands_plant m⟩
  obtain ⟨menu', g, hmenu, hgrown, hstand⟩ := run_optional hnew menu s
  obtain ⟨parts', g', hparts, hgrown', hstand'⟩ := run_optional run_newMenus parts { s with menus := g }
  refine ⟨⟨menu', parts', cssClass, inContainer⟩, g', ?_, ?_⟩
  · rw [placeMenus, run_bind_ok hmenu, run_bind_ok hparts]
    rfl
  · have hfirst : menu'.map g'.menu = menu := by
      cases hstand with
      | none => rfl
      | some h => exact congrArg some (h.extend hgrown').menu_eq
    have hrest : parts'.map (fun ids => ids.map g'.menu) = parts := by
      cases hstand' with
      | none => rfl
      | some h => exact congrArg some (map_menu_of_stand h)
    rw [Navbar.map, hfirst, hrest]

end Session

namespace Studio

variable {s : Studio} {id : FragmentId}

lemma Sound.back {α : Type} (hs : s.Sound) (hid : id < s.fragments.size) {w : Work α}
    (hw : ∀ owner read, Separate owner read s → ∃ Q, Work.Tame (strangers owner (.fragment id) s.forest) w Q) :
    (s.back id (w.run (s.bench id)).2).Sound := by
  obtain ⟨owner, read, h, hread⟩ := hs.separate
  obtain ⟨Q, hQ⟩ := hw owner read h
  obtain ⟨owner', h'⟩ := h.work hid hQ
  exact hs.of_separate h' rfl hread rfl Array.size_setIfInBounds

lemma Sound.setContent (hs : s.Sound) (hid : id < s.fragments.size) {content : Content}
    (hc : ∀ n ∈ ({ s.fragment id with content } : Fragment).nodes, n ∈ (s.fragment id).nodes) :
    (s.setFragment id fun f => { f with content }).Sound := by
  obtain ⟨owner, read, h, hread⟩ := hs.separate
  exact hs.of_separate (h.setContent hid hc) rfl hread rfl rfl

lemma Owns.setContent {kind : String} (h : Owns kind id s) (content : Content) :
    Owns kind id (s.setFragment id fun f => { f with content }) where
  made := Nat.lt_of_lt_of_eq h.made Array.size_modify.symm
  counter := by
    rw [fragment_setContent h.made]
    exact h.counter

section Tame

open Work

variable {others : List (Markup.Tree Node)}

lemma tame_written {w : Work Unit} (hw : Tame others w fun _ => True) (pretty : Bool) :
    Tame others (discard (once w) >>= fun _ => Work.written pretty) fun _ => True :=
  (Tame.once hw).discard.bind fun _ _ => Tame.written pretty

lemma tame_modal_printing {m : Modal} (hm : m.Of others) (bs : List Button) (pretty : Bool) :
    Tame others (m.printing bs pretty) fun _ => True := by
  have hbuttons : Tame others (bs.forM fun b => discard (m.addButton b)) fun _ => True := by
    induction bs with
    | nil => exact (Local.pure trivial).tame
    | cons b bs ih => exact (Modal.addButton_local hm b).tame.discard.bind fun _ _ => ih
  exact hbuttons.bind fun _ _ => tame_written (Modal.render_tame hm) pretty

end Tame

section Copies

variable {k : FragmentKind} {t : Markup.Tree Unit} {s s' : Studio}

lemma Copied.workable (h : Copied k t id s s') : Session.Workable id s' := ⟨h.owns.made, h.owns.held h.sound⟩

lemma Copied.setContent (h : Copied k t id s s') (content : Content)
    (hc : ∀ n ∈ ({ s'.fragment id with content } : Fragment).nodes, n ∈ (s'.fragment id).nodes) :
    Copied k t id s (s'.setFragment id fun f => { f with content }) where
  sound := h.sound.setContent h.owns.made hc
  owns := h.owns.setContent content
  bench := by
    rw [bench_setContent h.owns.made]
    exact h.bench
  alike kind := ⟨(h.alike kind).settings, (h.alike kind).source, (h.alike kind).counter⟩

lemma made_of_error {e : Fault} {w : Work String} (hs : s'.Sound) (h : ∀ kind, Alike kind s s')
    (hread : s.source.readRoot k.templateName = .error e) : Made k w s (.error e, s') where
  sound := hs
  settings := (h k.name).settings
  source := (h k.name).source
  outcome := ⟨{}, sound_nil, by rw [PageStencil.made_of_error hread, (h k.name).counter]⟩
  others kind _ := (h kind).counter

lemma Copied.made (h : Copied k t id s s') (hread : s.source.readRoot k.templateName = .ok t) {x : Session String}
    {w : Work String} (hx : Session.Acts id x w s') (hback : (s'.back id (w.run (s'.bench id)).2).Sound) :
    Made k w s (x.run s') := by
  rw [show x.run s' = _ from hx]
  refine ⟨hback, (h.alike k.name).settings, (h.alike k.name).source, ?_, fun kind hne => ?_⟩
  · obtain ⟨f, hf, hbench⟩ := h.bench
    refine ⟨f, hf, ?_⟩
    rw [PageStencil.made_of_ok hread, h.owns.counter_back h.sound, if_pos rfl, hbench]
    rfl
  · rw [h.owns.counter_back h.sound, if_neg hne]
    exact (h.alike kind).counter

lemma Copied.of_alike {s₀ : Studio} (h : Copied k t id s₀ s') (hs : ∀ kind, Alike kind s s₀) : Copied k t id s s' where
  sound := h.sound
  owns := h.owns
  bench := (hs k.name).settings ▸ (hs k.name).counter ▸ h.bench
  alike kind := (hs kind).trans (h.alike kind)

lemma Copied.made_filled (h : Copied .dialog t id s s') (hread : s.source.readRoot Modal.templateName = .ok t)
    {o : ModalOrder} {m : Modal}
    (hmake : (Modal.make o.title o.text o.id o.cssClass).run (s'.bench id) = (.ok m, s'.bench id))
    (hfound : ∀ n ∈ [m.header, m.body, m.footer], n ∈ (s'.bench id).copy.targets.found.map (·.2)) (pretty : Bool) :
    Made .dialog (o.printing pretty) s
      ((o.buttons.forM (fun b => discard (Session.addButton id b)) >>= fun _ => Session.renderHtml id pretty).run
        (s'.setFragment id fun f => { f with content := .modal m })) := by
  have hset := h.setContent (.modal m) fun x hx => by
    rw [Fragment.nodes, List.mem_append] at hx
    rcases hx with hx | hx
    · exact List.mem_append_left _ hx
    · exact List.mem_append_left _ (List.mem_cons_of_mem _ (hfound x hx))
  have hcontent := congrArg Fragment.content (fragment_setContent h.owns.made (.modal m))
  have hprinting : (o.printing pretty).run ((s'.setFragment id fun f => { f with content := .modal m }).bench id) =
      (m.printing o.buttons pretty).run ((s'.setFragment id fun f => { f with content := .modal m }).bench id) := by
    rw [bench_setContent h.owns.made, ModalOrder.printing, run_bind_ok hmake]
  refine hset.made (w := o.printing pretty) hread ?_ ?_
  · rw [Session.Acts, hprinting]
    exact Session.acts_printing hset.workable hcontent o.buttons pretty
  · rw [hprinting]
    refine hset.sound.back hset.owns.made fun owner read h' => ⟨_, tame_modal_printing ?_ o.buttons pretty⟩
    exact h'.of_content hset.owns.made hcontent

end Copies

theorem Sound.navbar (hs : s.Sound) (n : Navbar Menu) (pretty : Bool) :
    Made .bar (n.printing pretty) s (s.navbar n pretty) := by
  obtain ⟨n', menus, hplaced, hmap⟩ := Session.run_placeMenus n s
  have hs' : Sound { s with menus } := hs.congr rfl rfl rfl rfl rfl rfl
  have halike : ∀ kind, Alike kind s { s with menus } := fun _ => ⟨rfl, rfl, rfl⟩
  rw [Studio.navbar, Studio.print, Session.makeBar]
  simp only [bind_assoc]
  rw [run_bind_ok hplaced, Session.newNavbar]
  simp only [bind_assoc, pure_bind]
  cases hread : s.source.readRoot Navbar.templateName with
  | error e =>
    have hfragment : (Session.newFragment Navbar.templateName Navbar.kind none).run { s with menus } =
        (.error e, { s with menus }) := by
      rw [Session.newFragment_eq, run_bind_error (hs'.run_load_error hread)]
    rw [run_bind_error hfragment]
    exact made_of_error hs' halike hread
  | ok t =>
    obtain ⟨s₁, hrun, hmade, hmenus⟩ := hs'.run_newFragment (k := .bar) hread
    have hfragment : (Session.newFragment Navbar.templateName Navbar.kind none).run { s with menus } =
        (.ok s.fragments.size, s₁) := hrun
    have hcopied : Copied .bar t s.fragments.size s s₁ := hmade.of_alike halike
    have hset := hcopied.setContent (.navbar n') fun x hx => by
      rw [Fragment.nodes, List.append_nil] at hx
      exact List.mem_append_left _ hx
    have hacts := Session.acts_renderHtml hset.workable pretty
    rw [fragment_setContent hcopied.owns.made] at hacts
    change Session.Acts _ _ (discard (Work.once (n'.map s₁.menus.menu).render) >>= _) _ at hacts
    rw [hmenus, hmap] at hacts
    rw [run_bind_ok hfragment]
    refine hset.made hread hacts (hset.sound.back hset.owns.made fun owner read _ => ?_)
    exact ⟨_, tame_written (Navbar.render_tame _ n) pretty⟩

theorem Sound.modal (hs : s.Sound) (o : ModalOrder) (pretty : Bool) :
    Made .dialog (o.printing pretty) s (s.modal o pretty) := by
  rw [Studio.modal, Studio.print, Session.makeDialog, Session.newModal]
  simp only [bind_assoc, pure_bind]
  cases hread : s.source.readRoot Modal.templateName with
  | error e =>
    have hfragment : (Session.newFragment Modal.templateName Modal.kind none).run s = (.error e, s) := by
      rw [Session.newFragment_eq, run_bind_error (hs.run_load_error hread)]
    rw [run_bind_error hfragment]
    exact made_of_error hs (fun _ => .refl _ _) hread
  | ok t =>
    obtain ⟨s₁, hrun, hcopied, _⟩ := hs.run_newFragment (k := .dialog) hread
    have hfragment : (Session.newFragment Modal.templateName Modal.kind none).run s = (.ok s.fragments.size, s₁) := hrun
    rw [run_bind_ok hfragment]
    generalize s.fragments.size = id at hcopied
    cases hmake : (Modal.make o.title o.text o.id o.cssClass).run (s₁.bench id) with
    | mk r c =>
      have hwork : (Session.work id (Modal.make o.title o.text o.id o.cssClass)).run s₁ = (r, s₁.back id c) := by
        rw [Session.run_work, hmake]
      cases r with
      | error e =>
        have hprinting : (o.printing pretty).run (s₁.bench id) = (.error e, c) := by
          rw [ModalOrder.printing, run_bind_error hmake]
        refine hcopied.made (w := o.printing pretty) hread ?_ ?_
        · rw [Session.Acts, run_bind_error hwork, hprinting]
        · rw [hprinting, ← congrArg Prod.snd hmake]
          exact hcopied.sound.back hcopied.owns.made fun _ _ _ => ⟨_, Modal.make_tame o.title o.text o.id o.cssClass⟩
      | ok m =>
        obtain ⟨rfl, hfound⟩ := Modal.make_found hmake
        rw [Studio.back_bench] at hwork
        have hrun : (Session.setContent id (.modal m)).run s₁ =
            (.ok (), s₁.setFragment id fun f => { f with content := .modal m }) := rfl
        rw [run_bind_ok hwork, run_bind_ok hrun]
        exact hcopied.made_filled hread hmake hfound pretty

section Packaged

variable {k : FragmentKind} {w : Work String} {s s' : Studio} {r r' : Except Fault String × Studio}

/-- What a fragment comes to with nothing else in the studio. -/
def alone (s : Studio) (k : FragmentKind) (w : Work String) : Except Fault String × Allocator :=
  s.source.made s.settings.markerName k {} (s.counter k.name) w

lemma Made.eq_alone (h : Made k w s r) (hdir : s.source.directory = Packaged.directory)
    (hw : ∃ pretty, Settled k s.source.isXml pretty s.settings.markerName (s.counter k.name) w) :
    (r.1, r.2.counter k.name) = s.alone k w := by
  obtain ⟨f, hf, houtcome⟩ := h.outcome
  obtain ⟨pretty, hw⟩ := hw
  exact houtcome.trans (hw.made_same hdir hf)

lemma Made.alike (h : Made k w s r) (h' : Made k w s' r') (hsame : Alike k.name s s')
    (hdir : s.source.directory = Packaged.directory) (hw : ∀ xml name a, ∃ pretty, Settled k xml pretty name a w) :
    r'.1 = r.1 ∧ Alike k.name r.2 r'.2 := by
  have hresult := h.eq_alone hdir (hw _ _ _)
  have hresult' := h'.eq_alone (hsame.source ▸ hdir) (hw _ _ _)
  rw [alone, hsame.source, hsame.settings, hsame.counter, ← alone, ← hresult] at hresult'
  obtain ⟨houtcome, hcounter⟩ := Prod.mk.inj hresult'
  refine ⟨houtcome, ?_, ?_, hcounter⟩
  · rw [h'.settings, h.settings, hsame.settings]
  · rw [h'.source, h.source, hsame.source]

lemma Made.of_ne (h : Made k w s r) {kind : String} (hne : kind ≠ k.name) : Alike kind s r.2 :=
  ⟨h.settings, h.source, h.others kind hne⟩

theorem Sound.navbar_alone (hs : s.Sound) (hdir : s.source.directory = Packaged.directory) (n : Navbar Menu)
    (pretty : Bool) : ((s.navbar n pretty).1, (s.navbar n pretty).2.counter Navbar.kind) =
      s.alone .bar (n.printing pretty) :=
  (hs.navbar n pretty).eq_alone hdir ⟨_, Navbar.settled _ pretty _ _ n⟩

theorem Sound.modal_alone (hs : s.Sound) (hdir : s.source.directory = Packaged.directory) (o : ModalOrder)
    (pretty : Bool) : ((s.modal o pretty).1, (s.modal o pretty).2.counter Modal.kind) =
      s.alone .dialog (o.printing pretty) :=
  (hs.modal o pretty).eq_alone hdir ⟨_, o.settled _ pretty _ _⟩

lemma Made.printed (h : Made k w s r) (hdir : s.source.directory = Packaged.directory) {pretty : Bool}
    (hw : Settled k s.source.isXml pretty s.settings.markerName (s.counter k.name) w) :
    Printed k s.source.isXml pretty (s.counter k.name) r.1 (r.2.counter k.name) := by
  have hprinted := hw.printed_made hdir
  rwa [← alone, ← h.eq_alone hdir ⟨_, hw⟩] at hprinted

lemma Unused.to_sound (h : s.Unused) (hdefaults : s.defaults = []) : s.Sound where
  separate := ⟨_, _, h.separate, nofun⟩
  held kind id hid := by
    rw [hdefaults] at hid
    cases hid
  apart kind kind' id hid := by
    rw [hdefaults] at hid
    cases hid

end Packaged

/-- The templates of the program can be read, and go by their own marker. -/
structure Stocked (s : Studio) : Prop where
  directory : s.source.directory = Packaged.directory
  reach : ∀ k : FragmentKind, (s.source.pathOf k.templateName).utf8ByteSize < Storage.Path.textLimit
  parser : (Dialect.ofName? s.source.parser).isSome
  marker : s.settings.markerName = markerAttribute

section Stocked

variable {s : Studio}

lemma Stocked.readRoot (h : s.Stocked) (k : FragmentKind) :
    s.source.readRoot k.templateName = .ok (k.packaged s.source.isXml) := by
  obtain ⟨d, hd⟩ := Option.isSome_iff_exists.mp h.parser
  rw [isXml_eq hd]
  cases k with
  | bar => exact (Navbar.read_packaged h.directory (h.reach .bar) hd).2
  | dialog => exact (Modal.read_packaged h.directory (h.reach .dialog) hd).2

lemma Stocked.alone_eq (h : s.Stocked) (k : FragmentKind) (w : Work String) :
    s.alone k w = w.onCopy markerAttribute k.name (k.packaged s.source.isXml) {} (s.counter k.name) := by
  rw [alone, PageStencil.made_of_ok (h.readRoot k), h.marker]

lemma eq_error_iff_of_stops {α : Type} {x : Except Fault α} {short : Prop} {e : Fault} (hok : short → ∃ a, x = .ok a)
    (hstop : ¬short → x = .error e) (f : Fault) : x = .error f ↔ f = e ∧ ¬short := by
  by_cases hshort : short
  · obtain ⟨a, rfl⟩ := hok hshort
    exact ⟨nofun, fun h => absurd hshort h.2⟩
  · rw [hstop hshort]
    exact ⟨fun h => ⟨(Except.error.inj h).symm, hshort⟩, fun h => by rw [h.1]⟩

lemma exists_ok_iff_of_error_iff {α : Type} {x : Except Fault α} {short : Prop} {e : Fault}
    (h : ∀ f, x = .error f ↔ f = e ∧ ¬short) : (∃ a, x = .ok a) ↔ short := by
  cases x with
  | error f => exact ⟨nofun, fun hshort => absurd hshort ((h f).mp rfl).2⟩
  | ok a => exact ⟨fun _ => by_contra fun hlong => (nomatch (h e).mpr ⟨rfl, hlong⟩), fun _ => ⟨a, rfl⟩⟩

theorem Stocked.navbar_fails_iff (h : s.Stocked) (hs : s.Sound) {n : Navbar Menu} {parts : List Menu}
    (hshown : n.shown = .ok parts) (pretty : Bool) (f : Fault) : (s.navbar n pretty).1 = .error f ↔
      f = .identifierTooLong ∧ ¬(s.counter Navbar.kind).Short (1 + Navbar.dropdownsIn parts) := by
  have halone := congrArg Prod.fst ((hs.navbar_alone h.directory n pretty).trans (h.alone_eq .bar _))
  rw [show (s.navbar n pretty).1 = _ from halone]
  refine eq_error_iff_of_stops (fun hshort => ?_) (fun hlong => ?_) f
  · obtain ⟨c, _, hrun, _⟩ := Navbar.run_once_render (Navbar.new_withCopy _ sound_nil _) hshown hshort
    exact ⟨_, congrArg Prod.fst (onCopy_of_run (run_printing hrun))⟩
  · obtain ⟨c, hrun, _⟩ := Navbar.run_once_stops (Navbar.new_withCopy _ sound_nil _) hshown hlong
    exact congrArg Prod.fst (onCopy_of_run (run_printing hrun))

theorem Stocked.modal_fails_iff (h : s.Stocked) (hs : s.Sound) (o : ModalOrder) (pretty : Bool) (f : Fault) :
    (s.modal o pretty).1 = .error f ↔ f = .identifierTooLong ∧ ¬(s.counter Modal.kind).Short 1 := by
  have halone := congrArg Prod.fst ((hs.modal_alone h.directory o pretty).trans (h.alone_eq .dialog _))
  obtain ⟨_, _, _, g, hrun, hfull⟩ :=
    o.run_printing_new s.source.isXml pretty sound_nil (s.counter Modal.kind)
  rw [show (s.modal o pretty).1 = _ from halone]
  refine eq_error_iff_of_stops (fun hshort => ?_) (fun hlong => ?_) f
  · obtain ⟨c, _, hok, _⟩ := hfull.run_once hshort
    exact ⟨_, congrArg Prod.fst (onCopy_of_run (hrun.trans (run_printing hok)))⟩
  · obtain ⟨c, hstop, _⟩ := hfull.run_once_stops hlong
    exact congrArg Prod.fst (onCopy_of_run (hrun.trans (run_printing hstop)))

end Stocked

def startingAt (seed : Int) : Studio := { settings := { uidSeed := some seed }, source := Navbar.shelves }

lemma unused_startingAt (seed : Int) : (startingAt seed).Unused :=
  ⟨⟨List.nodup_nil, fun _ hn => absurd hn List.not_mem_nil⟩, rfl, rfl⟩

lemma sound_startingAt (seed : Int) : (startingAt seed).Sound := (unused_startingAt seed).to_sound rfl

lemma stocked_startingAt (seed : Int) : (startingAt seed).Stocked := by
  have hreach : ∀ k : FragmentKind, (Navbar.shelves.pathOf k.templateName).utf8ByteSize < Storage.Path.textLimit := by
    intro k
    cases k <;> decide +kernel
  exact ⟨rfl, hreach, rfl, rfl⟩

end Studio

end PageStencil
