import PageStencil.Proofs.Studio.Separation

namespace PageStencil

open Markup Stencil Forest Work

def Studio.addCopy (s : Studio) (kind : String) (root : Node) (uids : AllocatorId) : Studio :=
  { s with
    forest := (WorkingCopy.make s.settings.markerName kind (s.forest.tree root) s.forest).2
    fragments := s.fragments.push
      ⟨(WorkingCopy.make s.settings.markerName kind (s.forest.tree root) s.forest).1, uids, .bare⟩ }

namespace Session

def allocatorFor (kind : String) : Option AllocatorId → Session AllocatorId
  | some id => pure id
  | none => defaultAllocator kind

lemma newFragment_eq (name kind : String) (uids : Option AllocatorId) :
    newFragment name kind uids = load name >>= fun root => allocatorFor kind uids >>= fun a =>
      modifyGet fun s => (s.fragments.size, s.addCopy kind root a) := by
  cases uids <;> rfl

lemma run_allocatorFor (kind : String) (uids : Option AllocatorId) (s : Studio) :
    ∃ id allocators defaults, (allocatorFor kind uids).run s = (.ok id, { s with allocators, defaults }) := by
  cases uids with
  | some id => exact ⟨id, s.allocators, s.defaults, rfl⟩
  | none =>
    rw [allocatorFor, defaultAllocator, run_bind_ok (run_get s)]
    cases s.defaults.lookup kind with
    | some id => exact ⟨id, s.allocators, s.defaults, rfl⟩
    | none => exact ⟨_, _, _, rfl⟩

end Session

namespace Separate

variable {α : Type} {owner : Nat → Owner} {read : String → Option (Markup.Tree Unit)} {s : Studio} {id : FragmentId}
  {name : String}

lemma outside (h : Separate owner read s) (hid : id < s.fragments.size) {n : Nat} (hn : n ∈ (s.fragment id).nodes) :
    Outside (strangers owner (.fragment id) s.forest) n :=
  outside_strangers h.uniform (h.fragments id hid n hn).1

lemma of_content (h : Separate owner read s) (hid : id < s.fragments.size) {m : Modal}
    (hm : (s.fragment id).content = .modal m) : m.Of (strangers owner (.fragment id) s.forest) := by
  have hnodes : ∀ n ∈ [m.header, m.body, m.footer], Outside (strangers owner (.fragment id) s.forest) n := by
    intro n hn
    refine h.outside hid (List.mem_append_right _ ?_)
    rwa [hm]
  refine ⟨hnodes _ ?_, hnodes _ ?_, hnodes _ ?_⟩ <;> simp

lemma bench_apart (h : Separate owner read s) (hid : id < s.fragments.size) :
    (s.bench id).Apart (strangers owner (.fragment id) s.forest) := by
  refine ⟨beside_strangers h.sound _ _, h.outside hid ?_, fun e he => h.outside hid ?_⟩
  · exact List.mem_append_left _ List.mem_cons_self
  · exact List.mem_append_left _ (List.mem_cons_of_mem _ (List.mem_map.mpr ⟨e, he, rfl⟩))

lemma find?_other (h : Separate owner read s) {i : FragmentId} (hi : i < s.fragments.size) (hne : i ≠ id) {g : Forest}
    (hc : Confined (strangers owner (.fragment id) s.forest) s.forest g) {t : Markup.Tree Node}
    (ht : s.forest.find? (s.fragment i).copy.root = some t) : g.find? (s.fragment i).copy.root = some t := by
  have hb := beside_strangers h.sound owner (.fragment id)
  have hown : owner (s.fragment i).copy.root = .fragment i :=
    (h.fragments i hi _ (List.mem_append_left _ List.mem_cons_self)).1
  have hother : owner (s.fragment i).copy.root ≠ .fragment id := fun ho => hne (Owner.fragment.inj (hown.symm.trans ho))
  exact (hb.find?_other (hc.beside hb) (not_outside_strangers h.uniform hother ht)).trans ht

theorem work (h : Separate owner read s) (hid : id < s.fragments.size) {w : Work α} {Q : α → Prop}
    (hw : Tame (strangers owner (.fragment id) s.forest) w Q) :
    ∃ owner', Separate owner' read ((Session.work id w).run s).2 := by
  obtain ⟨hkept, _⟩ := hw _ (h.bench_apart hid)
  rw [Session.run_work]
  generalize w.run (s.bench id) = r at hkept
  have hc := h.change hkept.confined fun _ _ _ => Owner.noConfusion
  refine ⟨_, hc.congr rfl rfl fun i hi n hn => hc.fragments i (Studio.size_back s id r.2 ▸ hi) n ?_⟩
  rw [Studio.fragment_back hid] at hn
  change n ∈ (s.fragment i).nodes
  split at hn
  next heq =>
    rw [heq]
    rw [Fragment.nodes, List.mem_append, List.mem_cons] at hn ⊢
    refine hn.imp (Or.imp (fun hr => hr.trans hkept.root) fun hf => ?_) fun hm => hm
    obtain ⟨e, he, rfl⟩ := List.mem_map.mp hf
    exact List.mem_map.mpr ⟨e, hkept.targets he, rfl⟩
  next => exact hn

lemma addCopy (h : Separate owner read s) (kind : String) (root : Node) (uids : AllocatorId) :
    ∃ owner', Separate owner' read (s.addCopy kind root uids) := by
  have hc := h.change (Confined.plant (strangers owner (.fragment s.fragments.size) s.forest) s.forest (s.forest.tree root))
    fun _ _ _ => Owner.noConfusion
  have htop := find?_plant s.forest (s.forest.tree root)
  have hin : ∀ k ∈ ((s.forest.tree root).number s.forest.next).labels,
      s.forest.next ≤ k ∧ k < (s.forest.plant (s.forest.tree root)).2.next := by
    intro k hk
    rw [labels_number] at hk
    exact List.mem_range'_1.mp hk
  refine ⟨_, hc.congr rfl rfl fun i hi n hn => ?_⟩
  rw [Studio.fragment_push rfl i] at hn
  split at hn
  next heq =>
    subst heq
    have hlabel : n ∈ ((s.forest.tree root).number s.forest.next).labels := by
      rw [Fragment.nodes, List.append_nil, List.mem_cons] at hn
      rcases hn with rfl | hn
      · have hm := ((s.forest.tree root).number s.forest.next).label_mem
        rwa [Markup.Tree.label_number] at hm
      · obtain ⟨e, he, rfl⟩ := List.mem_map.mp hn
        obtain ⟨u, hu, hm⟩ := Index.mem_build.mp he
        cases htop.symm.trans hu
        obtain ⟨tag, hk, _⟩ := mem_markersOf.mp hm
        exact Markup.Tree.labels_of_elements hk
    obtain ⟨hle, hlt⟩ := hin n hlabel
    exact ⟨grant_of_le hle hlt, hlt⟩
  next hne =>
    refine hc.fragments i ?_ n hn
    change i < (s.fragments.push _).size at hi
    rw [Array.size_push] at hi
    exact Nat.lt_of_le_of_ne (Nat.lt_succ_iff.mp hi) hne

lemma later_work (id : FragmentId) (w : Work α) (s : Studio) : Later s ((Session.work id w).run s).2 :=
  ⟨rfl, rfl, fun _ _ h => h⟩

theorem newFragment (h : Separate owner read s) (name kind : String) (uids : Option AllocatorId) :
    ∃ owner', Separate owner' (reread name s.source read) ((Session.newFragment name kind uids).run s).2 ∧
      Later s ((Session.newFragment name kind uids).run s).2 ∧
      ∀ id, ((Session.newFragment name kind uids).run s).1 = .ok id →
        id < ((Session.newFragment name kind uids).run s).2.fragments.size := by
  obtain ⟨owner₁, h₁, hlater, hfragments⟩ := h.load name
  rw [Session.newFragment_eq, run_bind]
  rcases hload : (Session.load name).run s with ⟨_ | root, s₁⟩
  · rw [hload] at h₁ hlater
    exact ⟨owner₁, h₁, hlater, fun _ hid => nomatch hid⟩
  · rw [hload] at h₁ hlater
    obtain ⟨a, allocators, defaults, ha⟩ := Session.run_allocatorFor kind uids s₁
    dsimp only at h₁ hlater ⊢
    rw [run_bind_ok ha]
    have h₂ : Separate owner₁ (reread name s.source read) { s₁ with allocators, defaults } :=
      h₁.congr rfl rfl h₁.fragments
    obtain ⟨owner₃, h₃⟩ := h₂.addCopy kind root a
    refine ⟨owner₃, h₃, ⟨hlater.source, hlater.menus, hlater.shelf⟩, fun id hid => ?_⟩
    cases hid
    exact (Array.size_push _).symm ▸ Nat.lt_succ_self _

lemma setContent (h : Separate owner read s) (hid : id < s.fragments.size) {content : Content}
    (hc : ∀ n ∈ ({ s.fragment id with content } : Fragment).nodes, n ∈ (s.fragment id).nodes) :
    Separate owner read ((Session.setContent id content).run s).2 := by
  refine h.congr rfl rfl fun i hi n hn => ?_
  change i < (s.fragments.modify id _).size at hi
  rw [Array.size_modify] at hi
  refine h.fragments i hi n ?_
  change n ∈ ((s.setFragment id fun f => { f with content }).fragment i).nodes at hn
  rw [s.fragment_setFragment hid] at hn
  split at hn
  next heq =>
    subst heq
    exact hc n hn
  next => exact hn

theorem newModal (h : Separate owner read s) (title text id cssClass : Option String) (uids : Option AllocatorId) :
    ∃ owner', Separate owner' (reread Modal.templateName s.source read)
        ((Session.newModal title text id cssClass uids).run s).2 ∧
      Later s ((Session.newModal title text id cssClass uids).run s).2 := by
  obtain ⟨owner₁, h₁, hlater, hid⟩ := h.newFragment Modal.templateName Modal.kind uids
  rw [Session.newModal, run_bind]
  rcases hnew : (Session.newFragment Modal.templateName Modal.kind uids).run s with ⟨_ | fragment, s₁⟩
  · rw [hnew] at h₁ hlater
    exact ⟨owner₁, h₁, hlater⟩
  · rw [hnew] at h₁ hlater hid
    have hlt := hid fragment rfl
    dsimp only at h₁ hlater hlt ⊢
    obtain ⟨owner₂, h₂⟩ := h₁.work hlt (Modal.make_tame title text id cssClass)
    have hlater₂ := later_trans hlater (later_work fragment (Modal.make title text id cssClass) s₁)
    rw [run_bind]
    rcases hmake : (Session.work fragment (Modal.make title text id cssClass)).run s₁ with ⟨_ | m, s₂⟩
    · rw [hmake] at h₂ hlater₂
      exact ⟨owner₂, h₂, hlater₂⟩
    · rw [hmake] at h₂ hlater₂
      obtain ⟨c, hrun, hs₂⟩ := Session.work_ok hmake
      obtain ⟨rfl, hfound⟩ := Modal.make_found hrun
      have hsame : s₂ = s₁ := hs₂.trans (s₁.back_bench fragment)
      refine ⟨owner₂, h₂.setContent ?_ fun n hn => ?_, later_trans hlater₂ ⟨rfl, rfl, fun _ _ h => h⟩⟩
      · exact hsame.symm ▸ hlt
      · rw [hsame] at hn ⊢
        rw [Fragment.nodes, List.mem_append] at hn
        rcases hn with hn | hn
        · exact List.mem_append_left _ hn
        · exact List.mem_append_left _ (List.mem_cons_of_mem _ (hfound n hn))

theorem newNavbar (h : Separate owner read s) (n : Navbar MenuId) (uids : Option AllocatorId) :
    ∃ owner', Separate owner' (reread Navbar.templateName s.source read) ((Session.newNavbar n uids).run s).2 ∧
      Later s ((Session.newNavbar n uids).run s).2 := by
  obtain ⟨owner₁, h₁, hlater, hid⟩ := h.newFragment Navbar.templateName Navbar.kind uids
  rw [Session.newNavbar, run_bind]
  rcases hnew : (Session.newFragment Navbar.templateName Navbar.kind uids).run s with ⟨_ | fragment, s₁⟩
  · rw [hnew] at h₁ hlater
    exact ⟨owner₁, h₁, hlater⟩
  · rw [hnew] at h₁ hlater hid
    refine ⟨owner₁, h₁.setContent (hid fragment rfl) fun n hn => ?_, later_trans hlater ⟨rfl, rfl, fun _ _ h => h⟩⟩
    rw [Fragment.nodes, List.append_nil] at hn
    exact List.mem_append_left _ hn

lemma rendering_tame (h : Separate owner read s) (hid : id < s.fragments.size) :
    Tame (strangers owner (.fragment id) s.forest) (Session.rendering s.menus (s.fragment id).content) fun _ => True := by
  cases hc : (s.fragment id).content with
  | bare => exact (Local.throw _).tame
  | navbar n => exact Navbar.render_tame _ _
  | modal m => exact Modal.render_tame (h.of_content hid hc)

theorem render (h : Separate owner read s) (id : FragmentId) :
    ∃ owner', Separate owner' read ((Session.render id).run s).2 ∧ Later s ((Session.render id).run s).2 := by
  by_cases hid : id < s.fragments.size
  · rw [Session.render, run_bind_ok (run_get s)]
    obtain ⟨owner', h'⟩ := h.work hid (Tame.once (h.rendering_tame hid))
    exact ⟨owner', h', later_work id _ s⟩
  · rw [Session.run_render_of_le (Nat.not_lt.mp hid)]
    exact ⟨owner, h, later_refl s⟩

theorem renderHtml (h : Separate owner read s) (id : FragmentId) (pretty : Bool) :
    ∃ owner', Separate owner' read ((Session.renderHtml id pretty).run s).2 ∧
      Later s ((Session.renderHtml id pretty).run s).2 := by
  obtain ⟨owner₁, h₁, hlater⟩ := h.render id
  have hdiscard := run_discard (Session.render id) s
  rw [Session.renderHtml, run_bind, hdiscard]
  rcases hrun : (Session.render id).run s with ⟨_ | n, s₁⟩
  · rw [hrun] at h₁ hlater
    exact ⟨owner₁, h₁, hlater⟩
  · rw [hrun] at h₁ hlater
    obtain ⟨text, htext⟩ := run_written pretty (s₁.bench id)
    have hsame : (Session.work id (Work.written pretty)).run s₁ = (.ok text, s₁) := by
      rw [Session.run_work, htext, Studio.back_bench]
    refine ⟨owner₁, ?_⟩
    change Separate owner₁ read ((Session.work id (Work.written pretty)).run s₁).2 ∧
      Later s ((Session.work id (Work.written pretty)).run s₁).2
    rw [hsame]
    exact ⟨h₁, hlater⟩

theorem addButton (h : Separate owner read s) (id : FragmentId) (b : Button) :
    ∃ owner', Separate owner' read ((Session.addButton id b).run s).2 ∧ Later s ((Session.addButton id b).run s).2 := by
  rw [Session.addButton, run_bind_ok (run_get s)]
  cases hc : (s.fragment id).content with
  | bare => exact ⟨owner, h, later_refl s⟩
  | navbar n => exact ⟨owner, h, later_refl s⟩
  | modal m =>
    have hid : id < s.fragments.size := by
      by_contra hle
      rw [Studio.fragment_of_le (Nat.not_lt.mp hle)] at hc
      cases hc
    have hm := h.of_content hid hc
    have hadd : Tame (strangers owner (.fragment id) s.forest) (some <$> m.addButton b) fun _ => True := by
      rw [← bind_pure_comp]
      exact ((Modal.addButton_local hm b).bind fun n _ => Local.pure trivial).tame
    obtain ⟨owner', h'⟩ := h.work hid hadd
    exact ⟨owner', h', later_work id _ s⟩

end Separate

end PageStencil
