import PageStencil.Proofs.Component.Spans
import PageStencil.Proofs.Component.Stages
import PageStencil.Proofs.Studio.Making

/-!
The identifiers of the fragments of a studio. Each rendering takes the next values of its allocator, as many as it
needs, and no value is taken twice.
-/

namespace PageStencil

open Markup Stencil Forest

inductive Stage (xml : Bool) (b : Bench) : Content → Span → Prop
  | bare : b.copy.rendered = false → Stage xml b .bare none
  | bar {n : Navbar MenuId} : Navbar.Pending xml b → Stage xml b (.navbar n) none
  | barShown {n : Navbar MenuId} {shown : Navbar Menu} {parts : List Menu} {value : Int} :
    Navbar.Bar.Shown xml shown parts value b → Stage xml b (.navbar n) (some (value, 1 + Navbar.dropdownsIn parts))
  | dialog {m : Modal} : Modal.Pending xml m b → Stage xml b (.modal m) none
  | dialogShown {m : Modal} {value : Int} : Modal.Shown xml value b → Stage xml b (.modal m) (some (value, 1))

def Content.need (menus : MenuGraph) : Content → Nat
  | .bare => 0
  | .modal _ => 1
  | .navbar n => 1 + Navbar.dropdownsIn (n.map menus.menu).menus

/-- What comes of asking for a rendering that needs some identifiers. -/
inductive Rendering (need : Nat) (b : Bench) : Span → Except Fault Node → Bench → Span → Prop
  | again {value : Int} {k : Nat} : b.copy.rendered = true →
    Rendering need b (some (value, k)) (.ok b.copy.root) b (some (value, k))
  | fails {e : Fault} {c : Bench} {k : Nat} : c.uids = b.uids.skip k → Rendering need b none (.error e) c none
  | shows {c : Bench} : c.uids = b.uids.skip need →
    Rendering need b none (.ok b.copy.root) c (some (b.uids.value, need))

namespace Rendering

variable {need : Nat} {b c : Bench} {span span' other : Span} {o : Except Fault Node}

lemma le (h : Rendering need b span o c span') : b.uids.value ≤ c.uids.value := by
  have hskip : ∀ k : Nat, b.uids.value ≤ (b.uids.skip k).value := fun k => by
    rw [Allocator.value_skip]
    omega
  cases h with
  | again _ => exact Int.le_refl _
  | fails huids => exact huids ▸ hskip _
  | shows huids => exact huids ▸ hskip _

lemma below (h : Rendering need b span o c span') (hspan : Below span b.uids.value) : Below span' c.uids.value := by
  cases h with
  | again _ => exact hspan
  | fails _ => exact below_none _
  | shows huids =>
    rintro value k ⟨⟩
    refine Int.le_of_eq ?_
    rw [huids, Allocator.value_skip]

lemma clear (h : Rendering need b span o c span') (hspan : Clear span other) (hother : Below other b.uids.value) :
    Clear span' other := by
  cases h with
  | again _ => exact hspan
  | fails _ => exact clear_none other
  | shows _ =>
    rintro value k value' k' ⟨⟩ hv
    exact .inr (hother value' k' hv)

end Rendering

namespace Stage

variable {xml : Bool} {b c : Bench} {content : Content} {span : Span}

lemma moved (h : Stage xml b content span) (hm : Moved b c) : Stage xml c content span := by
  have hcopy := hm.copy
  cases h with
  | bare hrendered => exact .bare (by rw [hcopy, hrendered])
  | bar hpending => exact .bar (hpending.moved hm)
  | barShown hshown =>
    obtain ⟨t, ht, herase⟩ := hshown.tree
    exact .barShown ⟨by rw [hcopy, hshown.kind], by rw [hcopy, hshown.rendered], t, by rw [hcopy, hm.kept t ht], herase⟩
  | dialog hpending => exact .dialog (hpending.moved hm)
  | dialogShown hshown =>
    obtain ⟨t, root, title, text, ht, hname, herase⟩ := hshown.tree
    refine .dialogShown ⟨by rw [hcopy, hshown.kind], by rw [hcopy, hshown.rendered], t, root, title, text, ?_, hname, herase⟩
    rw [hcopy, hm.kept _ ht]

theorem render (h : Stage xml b content span) (menus : MenuGraph) :
    ∃ o c span', (Work.once (Session.rendering menus content)).run b = (o, c) ∧ c.copy.kind = b.copy.kind ∧
      Rendering (content.need menus) b span o c span' ∧ Stage xml c content span' := by
  cases h with
  | bare hrendered =>
    refine ⟨.error .nothingToRender, b, none, ?_, rfl, .fails (k := 0) rfl, .bare hrendered⟩
    rw [Work.run_once _ hrendered]
    rfl
  | @bar n hpending =>
    rcases hpending.run_once (n.map menus.menu) with ⟨e, c, hrun, hagain, huids⟩ | ⟨c, parts, hshown, _, hrun, huids, hbar⟩
    · have htaken : ∃ k, c.uids = b.uids.skip k := by
        rcases huids with huids | ⟨k, huids, _⟩
        · exact ⟨0, huids⟩
        · exact ⟨k + 1, huids⟩
      obtain ⟨k, huids⟩ := htaken
      exact ⟨_, c, none, hrun, hagain.kind.trans hpending.kind.symm, .fails huids, .bar hagain⟩
    · obtain rfl := Navbar.shown_eq hshown
      exact ⟨_, c, _, hrun, hbar.kind.trans hpending.kind.symm, .shows huids, .barShown hbar⟩
  | barShown hshown =>
    exact ⟨_, b, _, Work.run_once_rendered _ hshown.rendered, rfl, .again hshown.rendered, .barShown hshown⟩
  | dialog hpending =>
    rcases hpending.run_once with ⟨e, c, hrun, hagain, huids⟩ | ⟨c, hrun, huids, hshown⟩
    · exact ⟨_, c, none, hrun, hagain.kind.trans hpending.kind.symm, .fails huids, .dialog hagain⟩
    · exact ⟨_, c, _, hrun, hshown.kind.trans hpending.kind.symm, .shows huids, .dialogShown hshown⟩
  | dialogShown hshown =>
    exact ⟨_, b, _, Work.run_once_rendered _ hshown.rendered, rfl, .again hshown.rendered, .dialogShown hshown⟩

end Stage

/-- The allocator of a kind, where all fragments share one or have the default one of their kind. -/
def Studio.pool? (s : Studio) (uids : Option AllocatorId) (kind : String) : Option AllocatorId :=
  uids <|> s.defaults.lookup kind

def Studio.Rivals (s : Studio) (i j : FragmentId) : Prop :=
  i < s.fragments.size ∧ j < s.fragments.size ∧ (s.fragment i).uids = (s.fragment j).uids

lemma Studio.Rivals.symm {s : Studio} {i j : FragmentId} (h : s.Rivals i j) : s.Rivals j i :=
  ⟨h.2.1, h.1, h.2.2.symm⟩

/-- All rendered fragments have values of their own, none of which their allocators will give out again. -/
structure Counted (xml : Bool) (uids : Option AllocatorId) (span : FragmentId → Span) (s : Studio) : Prop where
  stage : ∀ i < s.fragments.size, Stage xml (s.bench i) (s.fragment i).content (span i)
  pool : ∀ i < s.fragments.size, s.pool? uids (s.fragment i).copy.kind = some (s.fragment i).uids
  held : ∀ kind id, s.pool? uids kind = some id → id < s.allocators.size
  below : ∀ i < s.fragments.size, Below (span i) (s.allocator (s.fragment i).uids).value
  apart : ∀ i < s.fragments.size, ∀ j < s.fragments.size, i ≠ j → (s.fragment i).uids = (s.fragment j).uids →
    Clear (span i) (span j)

structure Supplies (uids : Option AllocatorId) (kind : String) (id : AllocatorId) (s s' : Studio) : Prop where
  own : s'.pool? uids kind = some id
  pool : ∀ kind id, s.pool? uids kind = some id → s'.pool? uids kind = some id
  held : ∀ kind id, s'.pool? uids kind = some id → id < s'.allocators.size
  allocator : ∀ id < s.allocators.size, s'.allocator id = s.allocator id

lemma Session.supplies_allocatorFor {uids : Option AllocatorId} {s : Studio}
    (held : ∀ kind id, s.pool? uids kind = some id → id < s.allocators.size) (kind : String) :
    ∃ id allocators defaults, (allocatorFor kind uids).run s = (.ok id, { s with allocators, defaults }) ∧
      Supplies uids kind id s { s with allocators, defaults } := by
  cases uids with
  | some id => exact ⟨id, s.allocators, s.defaults, rfl, rfl, fun _ _ h => h, held, fun _ _ => rfl⟩
  | none =>
    rw [allocatorFor, defaultAllocator, run_bind_ok (run_get s)]
    cases hid : s.defaults.lookup kind with
    | some id => exact ⟨id, s.allocators, s.defaults, rfl, hid, fun _ _ h => h, held, fun _ _ => rfl⟩
    | none =>
      refine ⟨s.allocators.size, s.allocators.push (.start none s.settings.uidSeed s.lot),
        (kind, s.allocators.size) :: s.defaults, rfl, ?_, fun kind' id h => ?_, fun kind' id h => ?_, fun id h => ?_⟩
      · exact List.lookup_cons_self
      · have hne : kind' ≠ kind := by
          rintro rfl
          cases hid.symm.trans h
        change ((kind, s.allocators.size) :: s.defaults).lookup kind' = some id
        rw [List.lookup_cons, beq_eq_false_iff_ne.mpr hne]
        exact h
      · change ((kind, s.allocators.size) :: s.defaults).lookup kind' = some id at h
        rw [List.lookup_cons] at h
        rw [Array.size_push]
        split at h
        next => exact Option.some.inj h ▸ Nat.lt_succ_self _
        next => exact Nat.lt_succ_of_lt (held kind' id h)
      · rw [Studio.allocator, Array.getElem?_push_lt h, Studio.allocator, Array.getElem?_eq_getElem h]

structure Grown (f g : Forest) : Prop where
  sound : g.Sound
  next : f.next ≤ g.next
  kept : ∀ n t, f.find? n = some t → g.find? n = some t

lemma grown_refl {f : Forest} (hf : f.Sound) : Grown f f := ⟨hf, Nat.le_refl _, fun _ _ ht => ht⟩

lemma grown_trans {f g h : Forest} (hfg : Grown f g) (hgh : Grown g h) : Grown f h :=
  ⟨hgh.sound, Nat.le_trans hfg.next hgh.next, fun n t ht => hgh.kept n t (hfg.kept n t ht)⟩

lemma grown_plant {α : Type} {f : Forest} (hf : f.Sound) (t : Markup.Tree α) : Grown f (f.plant t).2 :=
  ⟨hf.plant t, (Confined.plant [] f t).le, fun _ _ hu => (Sound.find?_plant_of_lt t (hf.lt_of_find?_self hu)).trans hu⟩

namespace Counted

variable {xml : Bool} {uids : Option AllocatorId} {span : FragmentId → Span} {s s' : Studio} {id : FragmentId}
  {owner : Nat → Owner} {read : String → Option (Markup.Tree Unit)}

lemma clear (h : Counted xml uids span s) {i j : FragmentId} (hr : s.Rivals i j) (hne : i ≠ j) : Clear (span i) (span j) :=
  h.apart i hr.1 j hr.2.1 hne hr.2.2

lemma allocator_back (hid : (s.fragment id).uids < s.allocators.size) (c : Bench) (a : AllocatorId) :
    (s.back id c).allocator a = if a = (s.fragment id).uids then c.uids else s.allocator a := by
  rw [Studio.allocator, Studio.back, Array.getElem?_setIfInBounds]
  by_cases h : (s.fragment id).uids = a
  · rw [if_pos h, if_pos h.symm, if_pos (h ▸ hid), Option.getD_some]
  · rw [if_neg h, if_neg (Ne.symm h), Studio.allocator]

lemma fragment_of_ne (hid : id < s.fragments.size) (c : Bench) {i : FragmentId} (h : i ≠ id) :
    (s.back id c).fragment i = s.fragment i := by
  rw [Studio.fragment_back hid, if_neg h]

lemma uids_back (hid : id < s.fragments.size) (c : Bench) (i : FragmentId) :
    ((s.back id c).fragment i).uids = (s.fragment i).uids := by
  rw [Studio.fragment_back hid]
  split
  next h => rw [h]
  next => rfl

lemma bench_back (hid : id < s.fragments.size) (huids : (s.fragment id).uids < s.allocators.size) (c : Bench) :
    (s.back id c).bench id = c := by
  rw [Studio.bench, uids_back hid, allocator_back huids, if_pos rfl, Studio.fragment_back hid, if_pos rfl]
  rfl

lemma value_le_back (huids : (s.fragment id).uids < s.allocators.size) {c : Bench}
    (hle : (s.bench id).uids.value ≤ c.uids.value) (a : AllocatorId) :
    (s.allocator a).value ≤ ((s.back id c).allocator a).value := by
  rw [allocator_back huids]
  split
  next ha => exact ha ▸ hle
  next => exact Int.le_refl _

lemma moved_back (hs : Separate owner read s) (hid : id < s.fragments.size) {α : Type} {Q : α → Prop} {w : Work α}
    (hw : Work.Tame (strangers owner (.fragment id) s.forest) w Q) {i : FragmentId} (hi : i < s.fragments.size)
    (hne : i ≠ id) : Moved (s.bench i) ((s.back id (w.run (s.bench id)).2).bench i) := by
  obtain ⟨hkept, _⟩ := hw _ (hs.bench_apart hid)
  have hsound := (hkept.confined.beside (beside_strangers hs.sound owner (.fragment id))).sound
  refine ⟨?_, hsound, hkept.confined.le, fun t ht => hs.find?_other hi hne hkept.confined ht⟩
  exact congrArg Fragment.copy (fragment_of_ne hid _ hne)

lemma back (h : Counted xml uids span s) (hid : id < s.fragments.size) {need : Nat} {o : Except Fault Node} {c : Bench}
    {span' : Span} (hkind : c.copy.kind = (s.fragment id).copy.kind)
    (hrendering : Rendering need (s.bench id) (span id) o c span') (hstage : Stage xml c (s.fragment id).content span')
    (hmoved : ∀ i < s.fragments.size, i ≠ id → Moved (s.bench i) ((s.back id c).bench i)) :
    Counted xml uids (Function.update span id span') (s.back id c) := by
  have hheld := h.held _ _ (h.pool id hid)
  have hself : (s.back id c).fragment id = { s.fragment id with copy := c.copy } := by
    rw [Studio.fragment_back hid, if_pos rfl]
  have hsize := s.size_back id c
  refine ⟨fun i hi => ?_, fun i hi => ?_, ?_, fun i hi => ?_, fun i hi j hj hne huids => ?_⟩
  · by_cases hne : i = id
    · subst hne
      rw [Function.update_self, bench_back hid hheld, hself]
      exact hstage
    · rw [Function.update_of_ne hne, fragment_of_ne hid c hne]
      exact (h.stage i (hsize ▸ hi)).moved (hmoved i (hsize ▸ hi) hne)
  · rw [uids_back hid]
    refine Eq.trans ?_ (h.pool i (hsize ▸ hi))
    by_cases hne : i = id
    · subst hne
      rw [hself]
      exact congrArg (s.pool? uids) hkind
    · rw [fragment_of_ne hid c hne]
      rfl
  · intro kind a ha
    exact Nat.lt_of_lt_of_eq (h.held kind a ha) Array.size_setIfInBounds.symm
  · rw [uids_back hid]
    by_cases hne : i = id
    · subst hne
      rw [Function.update_self, allocator_back hheld, if_pos rfl]
      exact hrendering.below (h.below i hid)
    · rw [Function.update_of_ne hne]
      exact below_of_le (h.below i (hsize ▸ hi)) (value_le_back hheld hrendering.le _)
  · rw [uids_back hid, uids_back hid] at huids
    have hrivals : s.Rivals i j := ⟨hsize ▸ hi, hsize ▸ hj, huids⟩
    refine clear_update s.Rivals Studio.Rivals.symm (fun j hj hr => ?_) (fun i j hne _ _ hr => h.clear hr hne) hne hrivals
    refine hrendering.clear (h.clear hr hj.symm) ?_
    change Below (span j) (s.allocator (s.fragment id).uids).value
    exact hr.2.2 ▸ h.below j hr.2.1

theorem render (h : Counted xml uids span s) (hs : Separate owner read s) (hid : id < s.fragments.size) :
    ∃ o c span', (Session.render id).run s = (o, s.back id c) ∧ (s.back id c).bench id = c ∧
      c.copy.kind = (s.fragment id).copy.kind ∧
      Rendering ((s.fragment id).content.need s.menus) (s.bench id) (span id) o c span' ∧
      Counted xml uids (Function.update span id span') (s.back id c) := by
  obtain ⟨o, c, span', hrun, hkind, hrendering, hstage⟩ := (h.stage id hid).render s.menus
  have hmoved := fun i hi => moved_back hs hid (Work.Tame.once (hs.rendering_tame hid)) (i := i) hi
  rw [hrun] at hmoved
  refine ⟨o, c, span', ?_, bench_back hid (h.held _ _ (h.pool id hid)) c, hkind, hrendering,
    h.back hid hkind hrendering hstage hmoved⟩
  rw [Session.render, run_bind_ok (run_get s), Session.run_work, hrun]

lemma grow (h : Counted xml uids span s) {f : Fragment} (hfragments : s'.fragments = s.fragments.push f)
    (hbare : f.content = .bare) (hrendered : f.copy.rendered = false) (hforest : Grown s.forest s'.forest)
    (hsupply : Supplies uids f.copy.kind f.uids s s') :
    Counted xml uids (Function.update span s.fragments.size none) s' := by
  have hsize : s'.fragments.size = s.fragments.size + 1 := hfragments ▸ Array.size_push f
  have hnew : s'.fragment s.fragments.size = f := by rw [Studio.fragment_push hfragments, if_pos rfl]
  have hold : ∀ {i}, i ≠ s.fragments.size → s'.fragment i = s.fragment i := fun hne => by
    rw [Studio.fragment_push hfragments, if_neg hne]
  have hlt : ∀ {i}, i < s'.fragments.size → i ≠ s.fragments.size → i < s.fragments.size := fun hi hne => by omega
  have hkept : ∀ {i}, i < s.fragments.size → s'.allocator (s.fragment i).uids = s.allocator (s.fragment i).uids :=
    fun hi => hsupply.allocator _ (h.held _ _ (h.pool _ hi))
  refine ⟨fun i hi => ?_, fun i hi => ?_, hsupply.held, fun i hi => ?_, fun i hi j hj hne huids => ?_⟩
  · by_cases hne : i = s.fragments.size
    · subst hne
      rw [Function.update_self, hnew, hbare]
      refine .bare ?_
      rw [Studio.bench, hnew, hrendered]
    · rw [Function.update_of_ne hne, hold hne]
      refine (h.stage i (hlt hi hne)).moved ⟨?_, hforest.sound, hforest.next, fun t ht => hforest.kept _ t ht⟩
      exact congrArg Fragment.copy (hold hne)
  · by_cases hne : i = s.fragments.size
    · subst hne
      rw [hnew, hsupply.own]
    · rw [hold hne, hsupply.pool _ _ (h.pool i (hlt hi hne))]
  · by_cases hne : i = s.fragments.size
    · subst hne
      rw [Function.update_self]
      exact below_none _
    · rw [Function.update_of_ne hne, hold hne, hkept (hlt hi hne)]
      exact h.below i (hlt hi hne)
  · have hrivals : s'.Rivals i j := ⟨hi, hj, huids⟩
    refine clear_update s'.Rivals Studio.Rivals.symm (fun j _ _ => clear_none _) (fun i j hne hi hj hr => ?_) hne hrivals
    refine h.apart i (hlt hr.1 hi) j (hlt hr.2.1 hj) hne ?_
    rw [← hold hi, ← hold hj, hr.2.2]

lemma setContent (h : Counted xml uids span s) (hid : id < s.fragments.size) (hspan : span id = none) {content : Content}
    (hstage : Stage xml (s.bench id) content none) :
    Counted xml uids span ((Session.setContent id content).run s).2 := by
  change Counted xml uids span (s.setFragment id fun f => { f with content })
  have hsize : (s.setFragment id fun f => { f with content }).fragments.size = s.fragments.size := Array.size_modify
  have huids : ∀ i, ((s.setFragment id fun f => { f with content }).fragment i).uids = (s.fragment i).uids := by
    intro i
    rw [s.fragment_setFragment hid]
    split <;> rfl
  have hcopy : ∀ i, ((s.setFragment id fun f => { f with content }).fragment i).copy = (s.fragment i).copy := by
    intro i
    rw [s.fragment_setFragment hid]
    split <;> rfl
  refine ⟨fun i hi => ?_, fun i hi => ?_, h.held, fun i hi => ?_, fun i hi j hj hne => ?_⟩
  · have hbench : (s.setFragment id fun f => { f with content }).bench i = s.bench i := by
      rw [Studio.bench, Studio.bench, hcopy, huids]
      rfl
    rw [hbench, s.fragment_setFragment hid]
    split
    next heq =>
      subst heq
      rw [hspan]
      exact hstage
    next => exact h.stage i (hsize ▸ hi)
  · rw [hcopy, huids]
    exact h.pool i (hsize ▸ hi)
  · rw [huids]
    exact h.below i (hsize ▸ hi)
  · rw [huids, huids]
    exact h.apart i (hsize ▸ hi) j (hsize ▸ hj) hne

end Counted

end PageStencil
