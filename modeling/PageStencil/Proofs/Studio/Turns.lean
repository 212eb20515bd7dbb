import PageStencil.Proofs.Studio.Counting
import PageStencil.Proofs.Studio.Sharing
import PageStencil.Studio.Menus

/-!
Fragments are made and rendered in a studio in any order. They stay apart, and one that is not rendered stays as it was
made.
-/

namespace PageStencil

open Markup Stencil Forest

section Loading

variable {owner : Nat → Owner} {read : String → Option (Markup.Tree Unit)} {s : Studio}

lemma Session.run_load_grows (hs : s.forest.Sound) (name : String) :
    (∃ e, (load name).run s = (.error e, s)) ∨ ∃ root shelf forest,
      (load name).run s = (.ok root, { s with shelf, forest }) ∧ shelf.get? name = some root ∧ Grown s.forest forest := by
  cases hget : s.shelf.get? name with
  | some root => exact .inr ⟨root, s.shelf, s.forest, run_load_of_get hget, hget, grown_refl hs⟩
  | none =>
    cases hdoc : s.source.readDocument name with
    | error e => exact .inl ⟨e, run_load_of_error hget hdoc⟩
    | ok document =>
      exact .inr ⟨_, _, _, run_load_of_ok hget hdoc, Shelf.get?_cons_self _ _ _, grown_plant hs document⟩

lemma Separate.run_newFragment (h : Separate owner read s) {uids : Option AllocatorId}
    (held : ∀ kind id, s.pool? uids kind = some id → id < s.allocators.size) (name kind : String) :
    (∃ e, (Session.newFragment name kind uids).run s = (.error e, s)) ∨
      ∃ s' f t id, (Session.newFragment name kind uids).run s = (.ok s.fragments.size, s') ∧
        reread name s.source read name = some t ∧ f.Sound ∧ Grown s.forest s'.forest ∧
        Supplies uids kind id s s' ∧ s'.menus = s.menus ∧
        s'.fragments = s.fragments.push
          ⟨(Bench.withCopy s.settings.markerName kind t f (s'.allocator id)).copy, id, .bare⟩ ∧
        s'.forest = (Bench.withCopy s.settings.markerName kind t f (s'.allocator id)).forest := by
  obtain ⟨owner', h', _, _⟩ := h.load name
  rcases Session.run_load_grows h.sound name with ⟨e, hload⟩ | ⟨root, shelf, forest, hload, hget, hgrown⟩
  · refine .inl ⟨e, ?_⟩
    rw [Session.newFragment_eq, run_bind_error hload]
  · rw [hload] at h'
    have ht : ∃ t, reread name s.source read name = some t := by
      rw [← Option.ne_none_iff_exists']
      intro hnone
      cases (h'.unread name hnone).symm.trans hget
    obtain ⟨t, ht⟩ := ht
    obtain ⟨root', hget', _, u, hu, herase⟩ := h'.shelved name t ht
    cases hget.symm.trans hget'
    obtain ⟨id, allocators, defaults, hrun, hsupply⟩ :=
      Session.supplies_allocatorFor (s := { s with shelf, forest }) held kind
    have htree : Bench.withCopy s.settings.markerName kind t forest default =
        Bench.withCopy s.settings.markerName kind (forest.tree root) forest default := by
      rw [← herase, withCopy_erase, Navbar.tree_of_find? hu]
    have hcopy := congrArg Bench.copy htree
    have hforest := congrArg Bench.forest htree
    refine .inr ⟨({ s with shelf, forest, allocators, defaults } : Studio).addCopy kind root id, forest, t, id, ?_, ht,
      hgrown.sound, grown_trans hgrown (grown_plant hgrown.sound (forest.tree root)),
      ⟨hsupply.own, hsupply.pool, hsupply.held, hsupply.allocator⟩, rfl, ?_, hforest.symm⟩
    · rw [Session.newFragment_eq, run_bind_ok hload, run_bind_ok hrun]
      rfl
    · change s.fragments.push _ = s.fragments.push _
      exact congrArg (fun copy => s.fragments.push ⟨copy, id, .bare⟩) hcopy.symm

end Loading

/-- All that has been read under the names of the packaged templates is the packaged templates. -/
structure ReadsPackaged (source : Source) (read : String → Option (Markup.Tree Unit)) : Prop where
  directory : source.directory = Packaged.directory
  navbar : ∀ t, read Navbar.templateName = some t → t = (Navbar.packaged source.isXml).template
  modal : ∀ t, read Modal.templateName = some t → t = Modal.packaged source.isXml

lemma ReadsPackaged.reread {source : Source} {read : String → Option (Markup.Tree Unit)} (h : ReadsPackaged source read)
    (name : String) : ReadsPackaged source (reread name source read) := by
  have hread : ∀ other t, PageStencil.reread name source read other = some t →
      read other = some t ∨ source.readRoot other = .ok t := by
    intro other t ht
    rw [PageStencil.reread] at ht
    split at ht
    next heq =>
      subst heq
      rcases hr : read other with _ | u
      · rw [hr] at ht
        refine .inr ?_
        cases hroot : source.readRoot other with
        | error e =>
          rw [hroot] at ht
          cases ht
        | ok u =>
          rw [hroot] at ht
          exact congrArg Except.ok (Option.some.inj ht)
      · rw [hr] at ht
        exact .inl ht
    next => exact .inl ht
  refine ⟨h.directory, fun t ht => ?_, fun t ht => ?_⟩
  · exact (hread _ t ht).elim (h.navbar t) (Navbar.eq_packaged h.directory)
  · exact (hread _ t ht).elim (h.modal t) (Modal.eq_packaged h.directory)

namespace Studio

structure Kept (i : FragmentId) (s s' : Studio) : Prop where
  moved : Moved (s.bench i) (s'.bench i)
  content : (s'.fragment i).content = (s.fragment i).content

section Kept

variable {i id : FragmentId} {s s' s'' : Studio}

lemma Kept.refl (hs : s.forest.Sound) (i : FragmentId) : Kept i s s := ⟨⟨rfl, hs, Nat.le_refl _, fun _ h => h⟩, rfl⟩

lemma Kept.trans (h : Kept i s s') (h' : Kept i s' s'') : Kept i s s'' where
  moved := by
    refine ⟨h'.moved.copy.trans h.moved.copy, h'.moved.sound, Nat.le_trans h.moved.next h'.moved.next, fun t ht => ?_⟩
    have hkept := h.moved.kept t ht
    rw [← h.moved.copy] at hkept ⊢
    exact h'.moved.kept t hkept
  content := h'.content.trans h.content

lemma kept_push {f : Fragment} (hfragments : s'.fragments = s.fragments.push f) (hforest : Grown s.forest s'.forest)
    (hi : i < s.fragments.size) : Kept i s s' := by
  have hold : s'.fragment i = s.fragment i := by rw [fragment_push hfragments, if_neg (Nat.ne_of_lt hi)]
  exact ⟨⟨congrArg Fragment.copy hold, hforest.sound, hforest.next, fun t => hforest.kept _ t⟩,
    congrArg Fragment.content hold⟩

lemma kept_setContent (hs : s.forest.Sound) (hid : id < s.fragments.size) (hne : i ≠ id) (content : Content) :
    Kept i s ((Session.setContent id content).run s).2 := by
  have hold : ((Session.setContent id content).run s).2.fragment i = s.fragment i :=
    (s.fragment_setFragment hid _ i).trans (if_neg hne)
  exact ⟨⟨congrArg Fragment.copy hold, hs, Nat.le_refl _, fun _ ht => ht⟩, congrArg Fragment.content hold⟩

end Kept

def Untried (s : Studio) (id : FragmentId) : Prop :=
  ∀ n, (s.fragment id).content = .navbar n → (s.fragment id).copy.markerName = markerAttribute →
    Navbar.New (Navbar.packaged s.source.isXml) (s.bench id)

lemma Untried.kept {id : FragmentId} {s s' : Studio} (h : s.Untried id) (hk : Kept id s s')
    (hsource : s'.source = s.source) : s'.Untried id := by
  intro n hn hmarker
  have hcopy : (s'.fragment id).copy = (s.fragment id).copy := hk.moved.copy
  rw [hsource]
  exact (h n (hk.content ▸ hn) (hcopy ▸ hmarker)).moved hk.moved

/-- Fragments are apart from each other and from the templates, and so are their identifiers. -/
structure Orderly (uids : Option AllocatorId) (tried : FragmentId → Prop) (span : FragmentId → Span) (s : Studio) :
    Prop where
  separate : ∃ owner read, Separate owner read s ∧ ReadsPackaged s.source read
  counted : Counted s.source.isXml uids span s
  untried : ∀ i < s.fragments.size, ¬tried i → s.Untried i

namespace Orderly

variable {uids : Option AllocatorId} {tried : FragmentId → Prop} {span : FragmentId → Span} {s s' : Studio}
  {id : FragmentId}

structure Holds (uids : Option AllocatorId) (span : FragmentId → Span) (name kind : String) (s s' : Studio)
    (id : FragmentId) : Prop where
  counted : Counted s.source.isXml uids span s'
  held : id < s'.fragments.size
  bare : span id = none
  bench : ∃ read t f, ReadsPackaged s.source read ∧ read name = some t ∧ f.Sound ∧
    s'.bench id = Bench.withCopy s.settings.markerName kind t f (s'.bench id).uids
  sound : s'.forest.Sound
  content : (s'.fragment id).content = .bare
  kept : ∀ i < s'.fragments.size, i ≠ id → i < s.fragments.size ∧ Kept i s s'

lemma sound (h : Orderly uids tried span s) : s.forest.Sound := by
  obtain ⟨_, _, hs, _⟩ := h.separate
  exact hs.sound

lemma newFragment (h : Orderly uids tried span s) (name kind : String) :
    (∃ e, (Session.newFragment name kind uids).run s = (.error e, s)) ∨
      ∃ s', (Session.newFragment name kind uids).run s = (.ok s.fragments.size, s') ∧
        Holds uids (Function.update span s.fragments.size none) name kind s s' s.fragments.size := by
  obtain ⟨owner, read, hs, hread⟩ := h.separate
  rcases hs.run_newFragment h.counted.held name kind with
    ⟨e, hrun⟩ | ⟨s', f, t, a, hrun, ht, hf, hgrown, hsupply, _, hfragments, hforest⟩
  · exact .inl ⟨e, hrun⟩
  · have hnew : s'.fragment s.fragments.size =
        ⟨(Bench.withCopy s.settings.markerName kind t f (s'.allocator a)).copy, a, .bare⟩ := by
      rw [Studio.fragment_push hfragments, if_pos rfl]
    have hsize : s'.fragments.size = s.fragments.size + 1 := hfragments ▸ Array.size_push _
    refine .inr ⟨s', hrun, h.counted.grow hfragments rfl rfl hgrown hsupply, ?_, Function.update_self _ _ _,
      ⟨_, t, f, hread.reread name, ht, hf, ?_⟩, hgrown.sound, congrArg Fragment.content hnew, fun i hi hne => ?_⟩
    · rw [hsize]
      exact Nat.lt_succ_self _
    · rw [Studio.bench, hnew, hforest]
      rfl
    · have hlt : i < s.fragments.size := by omega
      exact ⟨hlt, kept_push hfragments hgrown hlt⟩

lemma Holds.untried {name kind : String} {span' : FragmentId → Span} {s'' : Studio} (hnew : Holds uids span' name kind s s' id)
    (h : Orderly uids tried span s) (hsource : s''.source = s.source)
    (hkept : ∀ i < s''.fragments.size, i ≠ id → i < s'.fragments.size ∧ Kept i s' s'') (hself : s''.Untried id) :
    ∀ i < s''.fragments.size, ¬tried i → s''.Untried i := by
  intro i hi htried
  by_cases hne : i = id
  · exact hne ▸ hself
  · obtain ⟨hi', hkept'⟩ := hkept i hi hne
    obtain ⟨hlt, hbefore⟩ := hnew.kept i hi' hne
    exact (h.untried i hlt htried).kept (hbefore.trans hkept') hsource

lemma Holds.setContent {name kind : String} {span' : FragmentId → Span} (hnew : Holds uids span' name kind s s' id)
    (content : Content) : ∀ i < ((Session.setContent id content).run s').2.fragments.size, i ≠ id →
      i < s'.fragments.size ∧ Kept i s' ((Session.setContent id content).run s').2 := by
  intro i hi hne
  have hsize : ((Session.setContent id content).run s').2.fragments.size = s'.fragments.size := Array.size_modify
  exact ⟨hsize ▸ hi, kept_setContent hnew.sound hnew.held hne content⟩

theorem newNavbar (h : Orderly uids tried span s) (n : Navbar MenuId) :
    ∃ span', Orderly uids tried span' ((Session.newNavbar n uids).run s).2 := by
  obtain ⟨owner, read, hs, hread⟩ := h.separate
  obtain ⟨owner', hs', hlater⟩ := hs.newNavbar n uids
  have hseparate : ∃ owner read, Separate owner read ((Session.newNavbar n uids).run s).2 ∧
      ReadsPackaged ((Session.newNavbar n uids).run s).2.source read :=
    ⟨owner', _, hs', hlater.source ▸ hread.reread Navbar.templateName⟩
  have hsource := hlater.source
  rcases h.newFragment Navbar.templateName Navbar.kind with ⟨e, hrun⟩ | ⟨s', hrun, hnew⟩
  · refine ⟨span, hseparate, ?_, ?_⟩ <;> rw [Session.newNavbar, run_bind_error hrun]
    · exact h.counted
    · exact h.untried
  · obtain ⟨read', t, f, hread', ht, hf, hbench⟩ := hnew.bench
    rw [hread'.navbar t ht] at hbench
    refine ⟨Function.update span s.fragments.size none, hseparate, ?_, ?_⟩
    · rw [hlater.source, Session.newNavbar, run_bind_ok hrun]
      refine hnew.counted.setContent hnew.held hnew.bare (.bar ?_)
      rw [hbench]
      exact Navbar.pending_withCopy _ _ hf _
    · rw [Session.newNavbar, run_bind_ok hrun] at hsource ⊢
      refine hnew.untried h hsource (hnew.setContent _) fun n' _ hmarker => ?_
      have hcopy := bench_setContent hnew.held (.navbar n)
      have hname : (Bench.withCopy s.settings.markerName Navbar.kind (Navbar.packaged s.source.isXml).template f
          (s'.bench s.fragments.size).uids).copy.markerName = markerAttribute := by
        rw [← hbench, ← hcopy]
        exact hmarker
      rw [hsource]
      change Navbar.New _ ((s'.setFragment s.fragments.size fun f => { f with content := .navbar n }).bench _)
      rw [hcopy, hbench, show s.settings.markerName = markerAttribute from hname]
      exact Navbar.new_withCopy _ hf _

theorem newModal (h : Orderly uids tried span s) (title text id cssClass : Option String) :
    ∃ span', Orderly uids tried span' ((Session.newModal title text id cssClass uids).run s).2 := by
  obtain ⟨owner, read, hs, hread⟩ := h.separate
  obtain ⟨owner', hs', hlater⟩ := hs.newModal title text id cssClass uids
  have hseparate : ∃ owner read, Separate owner read ((Session.newModal title text id cssClass uids).run s).2 ∧
      ReadsPackaged ((Session.newModal title text id cssClass uids).run s).2.source read :=
    ⟨owner', _, hs', hlater.source ▸ hread.reread Modal.templateName⟩
  have hsource := hlater.source
  rcases h.newFragment Modal.templateName Modal.kind with ⟨e, hrun⟩ | ⟨s', hrun, hnew⟩
  · refine ⟨span, hseparate, ?_, ?_⟩ <;> rw [Session.newModal, run_bind_error hrun]
    · exact h.counted
    · exact h.untried
  · obtain ⟨read', t, f, hread', ht, hf, hbench⟩ := hnew.bench
    rw [hread'.modal t ht] at hbench
    rw [Session.newModal, run_bind_ok hrun, run_bind, Session.run_work] at hseparate hsource ⊢
    rcases Modal.run_make_withCopy s.source.isXml s.settings.markerName hf (s'.bench s.fragments.size).uids title text id
      cssClass with ⟨e, hmake⟩ | ⟨header, body, footer, hmake, hnew'⟩
    · rw [← hbench] at hmake
      rw [hmake, Studio.back_bench] at hseparate hsource ⊢
      refine ⟨Function.update span s.fragments.size none, hseparate, hsource.symm ▸ hnew.counted, ?_⟩
      refine hnew.untried h hsource (fun i hi _ => ⟨hi, .refl hnew.sound i⟩) fun n hn _ => ?_
      cases hnew.content.symm.trans hn
    · rw [← hbench] at hmake hnew'
      rw [hmake, Studio.back_bench] at hseparate hsource ⊢
      refine ⟨Function.update span s.fragments.size none, hseparate, ?_, ?_⟩
      · exact hsource.symm ▸ hnew.counted.setContent hnew.held hnew.bare (.dialog ⟨_, rfl, hnew'⟩)
      · refine hnew.untried h hsource (hnew.setContent _) fun n hn _ => ?_
        cases (congrArg Fragment.content (fragment_setContent hnew.held _)).symm.trans hn

theorem render (h : Orderly uids tried span s) (id : FragmentId) :
    ∃ span', Orderly uids (fun i => tried i ∨ i = id) span' ((Session.render id).run s).2 := by
  obtain ⟨owner, read, hs, hread⟩ := h.separate
  by_cases hid : id < s.fragments.size
  · obtain ⟨owner', hs', hlater⟩ := hs.render id
    obtain ⟨o, c, span', hrun, _, _, _, hcounted⟩ := h.counted.render hs hid
    refine ⟨Function.update span id span', ⟨owner', read, hs', hlater.source ▸ hread⟩, ?_, ?_⟩
    · rw [hrun]
      exact hcounted
    · intro i hi htried
      have hne : i ≠ id := fun heq => htried (.inr heq)
      have hmoved := Counted.moved_back hs hid (Work.Tame.once (hs.rendering_tame hid)) (i := i)
      rw [Session.render, run_bind_ok (run_get s), Session.run_work] at hi ⊢
      rw [Studio.size_back] at hi
      refine (h.untried i hi fun ht => htried (.inl ht)).kept ⟨hmoved hi hne, ?_⟩ rfl
      exact congrArg Fragment.content (Counted.fragment_of_ne hid _ hne)
  · rw [Session.run_render_of_le (Nat.not_lt.mp hid)]
    exact ⟨span, h.separate, h.counted, fun i hi htried => h.untried i hi fun ht => htried (.inl ht)⟩

lemma setMenus (h : Orderly uids tried span s) (change : MenuGraph → MenuGraph) :
    Orderly uids tried span ((Session.setMenus change).run s).2 := by
  obtain ⟨owner, read, hs, hread⟩ := h.separate
  exact ⟨⟨owner, read, hs.congr rfl rfl hs.fragments, hread⟩,
    ⟨h.counted.stage, h.counted.pool, h.counted.held, h.counted.below, h.counted.apart⟩, h.untried⟩

end Orderly

inductive Turn
  | newModal (title text id cssClass : Option String)
  | newNavbar (n : Navbar MenuId)
  | setMenus (change : MenuGraph → MenuGraph)
  | render (id : FragmentId)

def Turn.run (uids : Option AllocatorId) : Turn → Session Unit
  | newModal title text id cssClass => discard (Session.newModal title text id cssClass uids)
  | newNavbar n => discard (Session.newNavbar n uids)
  | setMenus change => Session.setMenus change
  | render id => discard (Session.render id)

def afterTurns (uids : Option AllocatorId) (turns : List Turn) (s : Studio) : Studio :=
  turns.foldl (fun s t => ((t.run uids).run s).2) s

namespace Orderly

variable {uids : Option AllocatorId} {tried : FragmentId → Prop} {span : FragmentId → Span} {s : Studio}

lemma mono (h : Orderly uids tried span s) {tried' : FragmentId → Prop} (ht : ∀ i, tried i → tried' i) :
    Orderly uids tried' span s :=
  ⟨h.separate, h.counted, fun i hi htried => h.untried i hi fun hold => htried (ht i hold)⟩

lemma turn (h : Orderly uids tried span s) (t : Turn) :
    ∃ span', Orderly uids (fun i => tried i ∨ t = .render i) span' ((t.run uids).run s).2 := by
  cases t with
  | newModal title text id cssClass =>
    rw [Turn.run, run_discard]
    obtain ⟨span', h'⟩ := h.newModal title text id cssClass
    exact ⟨span', h'.mono fun _ => .inl⟩
  | newNavbar n =>
    rw [Turn.run, run_discard]
    obtain ⟨span', h'⟩ := h.newNavbar n
    exact ⟨span', h'.mono fun _ => .inl⟩
  | setMenus change => exact ⟨span, (h.setMenus change).mono fun _ => .inl⟩
  | render id =>
    rw [Turn.run, run_discard]
    obtain ⟨span', h'⟩ := h.render id
    exact ⟨span', h'.mono fun _ ht => ht.imp_right fun heq => congrArg Turn.render heq.symm⟩

lemma turns (h : Orderly uids tried span s) (ts : List Turn) :
    ∃ span', Orderly uids (fun i => tried i ∨ Turn.render i ∈ ts) span' (afterTurns uids ts s) := by
  induction ts generalizing tried span s with
  | nil => exact ⟨span, h.mono fun _ => .inl⟩
  | cons t ts ih =>
    obtain ⟨_, h'⟩ := h.turn t
    obtain ⟨span', h''⟩ := ih h'
    refine ⟨span', h''.mono fun i hi => ?_⟩
    rw [List.mem_cons, ← or_assoc]
    exact hi.imp_left fun ht => ht.imp_right Eq.symm

end Orderly

lemma Unused.orderly {s : Studio} (hs : s.Unused) (hdir : s.source.directory = Packaged.directory)
    {uids : Option AllocatorId} (held : ∀ kind id, s.pool? uids kind = some id → id < s.allocators.size) :
    Orderly uids (fun _ => False) (fun _ => none) s := by
  have hnone : ∀ i, ¬ i < s.fragments.size := by
    rw [hs.fragments]
    exact fun i => Nat.not_lt_zero i
  refine ⟨⟨_, _, hs.separate, hdir, (fun _ ht => nomatch ht), (fun _ ht => nomatch ht)⟩, ⟨?_, ?_, held, ?_, ?_⟩,
    fun i hi => absurd hi (hnone i)⟩
  · exact fun i hi => absurd hi (hnone i)
  · exact fun i hi => absurd hi (hnone i)
  · exact fun i hi => absurd hi (hnone i)
  · exact fun i hi => absurd hi (hnone i)

end Studio

end PageStencil
