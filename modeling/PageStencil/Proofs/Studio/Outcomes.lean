import PageStencil.Proofs.Studio.Printing
import PageStencil.Proofs.Studio.Turns

namespace PageStencil.Studio

open Markup Stencil Forest

/-- A studio in which all fragments have the default allocators of their kinds. -/
structure Working (tried : FragmentId → Prop) (s : Studio) : Prop where
  sound : s.Sound
  stocked : s.Stocked
  orderly : ∃ span, Orderly none tried span s

structure Lies (k : FragmentKind) (content : Content) (id : FragmentId) (s : Studio) : Prop where
  owns : Owns k.name id s
  content : (s.fragment id).content = content
  marker : (s.fragment id).copy.markerName = markerAttribute
  rendered : (s.fragment id).copy.rendered = false

structure Adds (s s' : Studio) : Prop where
  size : s'.fragments.size = s.fragments.size + 1
  fragment : ∀ i < s.fragments.size, s'.fragment i = s.fragment i
  defaults : ∀ kind id, s.defaults.lookup kind = some id → s'.defaults.lookup kind = some id
  counter : ∀ kind, s'.counter kind = s.counter kind
  menus : s'.menus = s.menus

variable {tried : FragmentId → Prop} {k : FragmentKind} {content : Content} {id : FragmentId} {s s' : Studio}

lemma Adds.setContent (h : Adds s s') (content : Content) :
    Adds s (s'.setFragment s.fragments.size fun f => { f with content }) where
  size := Array.size_modify.trans h.size
  fragment i hi := by
    rw [s'.fragment_setFragment (h.size ▸ Nat.lt_succ_self _), if_neg (Nat.ne_of_lt hi), h.fragment i hi]
  defaults := h.defaults
  counter := h.counter
  menus := h.menus

lemma Lies.adds (h : Lies k content id s) (hadds : Adds s s') : Lies k content id s' := by
  have hold := hadds.fragment id h.owns.made
  refine ⟨⟨hadds.size ▸ Nat.lt_succ_of_lt h.owns.made, ?_⟩, ?_, ?_, ?_⟩ <;> rw [hold]
  · exact hadds.defaults _ _ h.owns.counter
  · exact h.content
  · exact h.marker
  · exact h.rendered

lemma Lies.back (h : Lies k content id s) {other : FragmentId} (hother : other < s.fragments.size) (hne : id ≠ other)
    (c : Bench) : Lies k content id (s.back other c) := by
  have hold : (s.back other c).fragment id = s.fragment id := Counted.fragment_of_ne hother c hne
  refine ⟨⟨(s.size_back other c).symm ▸ h.owns.made, ?_⟩, ?_, ?_, ?_⟩ <;> rw [hold]
  · exact h.owns.counter
  · exact h.content
  · exact h.marker
  · exact h.rendered

lemma Lies.setContent (h : Lies k .bare id s) (content : Content) :
    Lies k content id (s.setFragment id fun f => { f with content }) := by
  have hnew := fragment_setContent h.owns.made content
  refine ⟨h.owns.setContent content, ?_, ?_, ?_⟩ <;> rw [hnew]
  · exact h.marker
  · exact h.rendered

lemma Stocked.congr (h : s.Stocked) (hsettings : s'.settings = s.settings) (hsource : s'.source = s.source) :
    s'.Stocked :=
  ⟨hsource ▸ h.directory, hsource ▸ h.reach, hsource ▸ h.parser, hsettings ▸ h.marker⟩

namespace Working

lemma setMenus (h : Working tried s) (change : MenuGraph → MenuGraph) :
    Working tried ((Session.setMenus change).run s).2 := by
  obtain ⟨span, horderly⟩ := h.orderly
  exact ⟨h.sound.congr rfl rfl rfl rfl rfl rfl, h.stocked.congr rfl rfl, span, horderly.setMenus change⟩

lemma newFragment (h : Working tried s) (k : FragmentKind) :
    ∃ s', (Session.newFragment k.templateName k.name none).run s = (.ok s.fragments.size, s') ∧ Adds s s' ∧
      Copied k (k.packaged s.source.isXml) s.fragments.size s s' ∧ Lies k .bare s.fragments.size s' := by
  obtain ⟨owner, read, hseparate, -⟩ := h.sound.separate
  obtain ⟨s', hrun, hcopied, hmenus⟩ := h.sound.run_newFragment (h.stocked.readRoot k)
  have held : ∀ kind id, s.pool? none kind = some id → id < s.allocators.size := h.sound.held
  rcases hseparate.run_newFragment held k.templateName k.name with
    ⟨e, hfails⟩ | ⟨s'', f, t, a, hrun', -, -, -, hsupply, -, hfragments, -⟩
  · cases hrun.symm.trans hfails
  · obtain rfl : s' = s'' := congrArg Prod.snd (hrun.symm.trans hrun')
    have hnew := fragment_push hfragments s.fragments.size
    rw [if_pos rfl] at hnew
    refine ⟨s', hrun, ⟨hfragments ▸ Array.size_push _, fun i hi => ?_, hsupply.pool,
      fun kind => (hcopied.alike kind).counter, hmenus⟩, hcopied, hcopied.owns, ?_, ?_, ?_⟩
    · rw [fragment_push hfragments, if_neg (Nat.ne_of_lt hi)]
    all_goals rw [hnew]
    · exact h.stocked.marker
    · rfl

theorem newNavbar (h : Working tried s) (n : Navbar MenuId) :
    ∃ s', (Session.newNavbar n none).run s = (.ok s.fragments.size, s') ∧ Working tried s' ∧ Adds s s' ∧
      Lies .bar (.navbar n) s.fragments.size s' := by
  obtain ⟨s₁, hrun, hadds, hcopied, hlies⟩ := h.newFragment .bar
  have hset := hcopied.setContent (.navbar n) fun x hx => by
    rw [Fragment.nodes, List.append_nil] at hx
    exact List.mem_append_left _ hx
  have hnavbar : (Session.newNavbar n none).run s =
      (.ok s.fragments.size, s₁.setFragment s.fragments.size fun f => { f with content := .navbar n }) := by
    change (Session.newFragment Navbar.templateName Navbar.kind none).run s = _ at hrun
    rw [Session.newNavbar, run_bind_ok hrun]
    rfl
  obtain ⟨span, horderly⟩ := h.orderly
  obtain ⟨span', horderly'⟩ := horderly.newNavbar n
  rw [hnavbar] at horderly'
  exact ⟨_, hnavbar, ⟨hset.sound, h.stocked.congr (hset.alike Navbar.kind).settings (hset.alike Navbar.kind).source,
    span', horderly'⟩, hadds.setContent _, hlies.setContent _⟩

theorem newModal (h : Working tried s) (title text id cssClass : Option String) :
    ∃ m s', (Session.newModal title text id cssClass none).run s = (.ok s.fragments.size, s') ∧ Working tried s' ∧
      Adds s s' ∧ Lies .dialog (.modal m) s.fragments.size s' := by
  obtain ⟨s₁, hrun, hadds, hcopied, hlies⟩ := h.newFragment .dialog
  obtain ⟨f, hf, hbench⟩ := hcopied.bench
  rw [h.stocked.marker] at hbench
  obtain ⟨header, body, footer, hmake, -⟩ :=
    Modal.run_make_new s.source.isXml hf (s.counter FragmentKind.dialog.name) title text id cssClass
  change s₁.bench _ = Bench.withCopy markerAttribute Modal.kind (Modal.packaged s.source.isXml) f _ at hbench
  rw [← hbench] at hmake
  generalize (⟨title, text, id, cssClass, header, body, footer⟩ : Modal) = m at hmake
  obtain ⟨-, hfound⟩ := Modal.make_found hmake
  have hset := hcopied.setContent (.modal m) fun x hx => by
    rw [Fragment.nodes, List.mem_append] at hx
    rcases hx with hx | hx
    · exact List.mem_append_left _ hx
    · exact List.mem_append_left _ (List.mem_cons_of_mem _ (hfound x hx))
  have hwork : (Session.work s.fragments.size (Modal.make title text id cssClass)).run s₁ = (.ok m, s₁) := by
    rw [Session.run_work, hmake, Studio.back_bench]
  have hmodal : (Session.newModal title text id cssClass none).run s =
      (.ok s.fragments.size, s₁.setFragment s.fragments.size fun f => { f with content := .modal m }) := by
    change (Session.newFragment Modal.templateName Modal.kind none).run s = _ at hrun
    rw [Session.newModal, run_bind_ok hrun, run_bind_ok hwork]
    rfl
  obtain ⟨span, horderly⟩ := h.orderly
  obtain ⟨span', horderly'⟩ := horderly.newModal title text id cssClass
  rw [hmodal] at horderly'
  exact ⟨m, _, hmodal, ⟨hset.sound, h.stocked.congr (hset.alike Modal.kind).settings (hset.alike Modal.kind).source,
    span', horderly'⟩, hadds.setContent _, hlies.setContent _⟩

theorem render (h : Working tried s) (hid : id < s.fragments.size) :
    ∃ o c, (Session.render id).run s = (o, s.back id c) ∧ Working (fun i => tried i ∨ i = id) (s.back id c) := by
  obtain ⟨span, horderly⟩ := h.orderly
  obtain ⟨owner, read, hseparate, -⟩ := horderly.separate
  obtain ⟨o, c, span', hrun, -⟩ := horderly.counted.render hseparate hid
  have hsound : ((Session.render id).run s).2.Sound := by
    rw [Session.render, run_bind_ok (run_get s), Session.run_work]
    exact h.sound.back hid fun _ _ hs => ⟨_, Work.Tame.once (hs.rendering_tame hid)⟩
  obtain ⟨span'', horderly'⟩ := horderly.render id
  rw [hrun] at hsound horderly'
  exact ⟨o, c, hrun, hsound, h.stocked.congr rfl rfl, span'', horderly'⟩

end Working

end PageStencil.Studio
