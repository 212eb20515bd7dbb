import PageStencil.Component.Modal
import PageStencil.Component.Navbar
import PageStencil.Proofs.Component.Running
import PageStencil.Proofs.Markup.Confined
import PageStencil.Proofs.Stencil.Lookup

/-!
Work on a fragment stays with the fragment. Whether it is done or stops half way, the trees that are not of its copy
are the same afterwards, and nothing of them has come into the copy.
-/

namespace PageStencil

open Markup Stencil Forest

/-- Some trees on the bench have no part in the copy. -/
structure Bench.Apart (others : List (Markup.Tree Node)) (b : Bench) : Prop where
  beside : Beside others b.forest
  root : Outside others b.copy.root
  targets : ∀ e ∈ b.copy.targets.found, Outside others e.2

structure Bench.Kept (others : List (Markup.Tree Node)) (b c : Bench) : Prop where
  confined : Confined others b.forest c.forest
  root : c.copy.root = b.copy.root
  targets : c.copy.targets.found ⊆ b.copy.targets.found

namespace Work

variable {α β : Type} {others : List (Markup.Tree Node)} {b c : Bench} {n : Node}

/-- Keeps the other trees out of what it changes and the copy's own record as it is; what it yields is as `Q` says. -/
def Local (others : List (Markup.Tree Node)) (w : Work α) (Q : α → Prop) : Prop :=
  ∀ b, Beside others b.forest → Confined others b.forest (w.run b).2.forest ∧ (w.run b).2.copy = b.copy ∧
    ∀ a, (w.run b).1 = .ok a → Q a

/-- Keeps the other trees out of the copy, whatever comes of it; what it yields is as `Q` says. -/
def Tame (others : List (Markup.Tree Node)) (w : Work α) (Q : α → Prop) : Prop :=
  ∀ b, b.Apart others → b.Kept others (w.run b).2 ∧ ∀ a, (w.run b).1 = .ok a → Q a

lemma kept_refl (others : List (Markup.Tree Node)) (b : Bench) : b.Kept others b :=
  ⟨Confined.refl others b.forest, rfl, List.Subset.refl _⟩

lemma kept_trans {d : Bench} (hbc : b.Kept others c) (hcd : c.Kept others d) : b.Kept others d :=
  ⟨hbc.confined.trans hcd.confined, hcd.root.trans hbc.root, List.Subset.trans hcd.targets hbc.targets⟩

lemma apart_of_kept (hb : b.Apart others) (h : b.Kept others c) : c.Apart others :=
  ⟨h.confined.beside hb.beside, h.root ▸ hb.root, fun e he => hb.targets e (h.targets he)⟩

lemma outside_build {f : Forest} (hf : Beside others f) (hn : Outside others n) {name : String} {e : String × Node}
    (he : e ∈ (Index.build name f n).found) : Outside others e.2 := by
  obtain ⟨t, ht, hm⟩ := Index.mem_build.mp he
  obtain ⟨tag, hk, _⟩ := mem_markersOf.mp hm
  exact hf.outside_of_find? hn ht (Tree.labels_of_elements hk)

namespace Local

variable {Q : α → Prop} {R : β → Prop} {w : Work α} {k : α → Work β} {marker : String}

lemma of_run (h : ∀ b, Beside others b.forest → ∃ r c, w.run b = (r, c) ∧ Confined others b.forest c.forest ∧
    c.copy = b.copy ∧ ∀ a, r = .ok a → Q a) : Local others w Q := by
  intro b hb
  obtain ⟨r, c, hr, h⟩ := h b hb
  rw [hr]
  exact h

lemma look (h : ∀ b, Beside others b.forest → ∃ r, w.run b = (r, b) ∧ ∀ a, r = .ok a → Q a) : Local others w Q :=
  of_run fun b hb =>
    have ⟨r, hr, hq⟩ := h b hb
    ⟨r, b, hr, Confined.refl others b.forest, rfl, hq⟩

lemma tame (h : Local others w Q) : Tame others w Q := by
  intro b hb
  obtain ⟨hforest, hcopy, hq⟩ := h b hb.beside
  exact ⟨⟨hforest, congrArg WorkingCopy.root hcopy, hcopy ▸ List.Subset.refl _⟩, hq⟩

lemma pure {a : α} (h : Q a) : Local others (Pure.pure a : Work α) Q :=
  look fun b _ => ⟨_, run_pure a b, fun _ ha => Except.ok.inj ha ▸ h⟩

lemma throw (e : Fault) : Local others (MonadExcept.throw e : Work α) Q :=
  look fun b _ => ⟨_, run_throw e b, fun _ ha => nomatch ha⟩

lemma bind (hw : Local others w Q) (hk : ∀ a, Q a → Local others (k a) R) : Local others (w >>= k) R := by
  intro b hb
  obtain ⟨hforest, hcopy, hq⟩ := hw b hb
  rw [run_bind]
  rcases h : w.run b with ⟨_ | a, c⟩
  · rw [h] at hforest hcopy
    exact ⟨hforest, hcopy, fun _ ha => nomatch ha⟩
  · rw [h] at hforest hcopy hq
    obtain ⟨hforest', hcopy', hr⟩ := hk a (hq a rfl) c (hforest.beside hb)
    exact ⟨hforest.trans hforest', hcopy'.trans hcopy, hr⟩

lemma edit {change : Forest → Forest} (h : ∀ f, Beside others f → Confined others f (change f)) :
    Local others (Work.edit change) fun _ => True :=
  of_run fun b hb => ⟨_, _, run_edit change b, h b.forest hb, rfl, fun _ _ => trivial⟩

lemma attempt {change : Forest → Except Misuse Forest}
    (h : ∀ f g, Beside others f → change f = .ok g → Confined others f g) :
    Local others (Work.attempt change) fun _ => True := by
  intro b hb
  rw [run_attempt]
  cases hc : change b.forest with
  | error m => exact ⟨Confined.refl others b.forest, rfl, fun _ _ => trivial⟩
  | ok g => exact ⟨h b.forest g hb hc, rfl, fun _ _ => trivial⟩

lemma setTag (hn : Outside others n) (change : Tag → Tag) : Local others (Work.setTag n change) fun _ => True :=
  edit fun _ hf => Confined.setTag hf hn change

lemma tree (n : Node) : Local others (Work.tree n) fun _ => True :=
  look fun b _ => ⟨_, run_tree n b, fun _ _ => trivial⟩

lemma target (hn : Outside others n) : Local others (Work.target (some n) marker) (Outside others) := by
  intro b hb
  rw [run_target]
  cases h : (b.index (some n)).single b.forest marker with
  | error e => exact ⟨Confined.refl others b.forest, rfl, fun _ ha => nomatch ha⟩
  | ok m =>
    refine ⟨Confined.refl others b.forest, rfl, fun a ha => ?_⟩
    rw [← Except.ok.inj ha]
    exact outside_build hb hn (Index.mem_live.mp (Index.mem_live_of_single h)).1

lemma takeTarget (hn : Outside others n) : Local others (Work.takeTarget (some n) marker) (Outside others) := by
  intro b hb
  cases h : (b.index (some n)).single b.forest marker with
  | error e =>
    rw [run_takeTarget_error h]
    exact ⟨Confined.refl others b.forest, rfl, fun _ ha => nomatch ha⟩
  | ok m =>
    have hm := outside_build hb hn (Index.mem_live.mp (Index.mem_live_of_single h)).1
    rw [run_takeTarget_below h]
    exact ⟨Confined.detach hb hm, rfl, fun a ha => Except.ok.inj ha ▸ hm⟩

lemma nextId : Local others Work.nextId fun _ => True := by
  intro b _
  rw [run_nextId]
  cases (b.uids.next? b.copy.kind).1 with
  | none => exact ⟨Confined.refl _ _, rfl, fun _ _ => trivial⟩
  | some id => exact ⟨Confined.refl _ _, rfl, fun _ _ => trivial⟩

lemma plant {γ : Type} (t : Markup.Tree γ) : Local others (Work.plant t) (Outside others) :=
  of_run fun b hb => ⟨_, _, run_plant t b, Confined.plant others b.forest t, rfl,
    fun _ ha => Except.ok.inj ha ▸ hb.outside_of_le (Nat.le_refl _)⟩

lemma instantiate (n : Node) : Local others (Work.instantiate n) (Outside others) :=
  (tree n).bind fun t _ => plant t

lemma append {parent : Node} (hp : Outside others parent) (hn : Outside others n) :
    Local others (Work.append parent n) fun _ => True :=
  attempt fun _ _ hf h => Confined.append hf hn hp h

lemma appendEach {parent : Node} (hp : Outside others parent) {make : α → Work Node}
    (hmake : ∀ x, Local others (make x) (Outside others)) (xs : List α) :
    Local others (Work.appendEach parent make xs) fun _ => True := by
  induction xs with
  | nil => exact pure trivial
  | cons x xs ih => exact (hmake x).bind fun n hn => (append hp hn).bind fun _ _ => ih

end Local

namespace Tame

variable {Q : α → Prop} {R : β → Prop} {w : Work α} {k : α → Work β} {marker : String}

lemma of_run (h : ∀ b, b.Apart others → ∃ r c, w.run b = (r, c) ∧ b.Kept others c ∧ ∀ a, r = .ok a → Q a) :
    Tame others w Q := by
  intro b hb
  obtain ⟨r, c, hr, hk, hq⟩ := h b hb
  rw [hr]
  exact ⟨hk, hq⟩

lemma look (h : ∀ b, b.Apart others → ∃ r, w.run b = (r, b) ∧ ∀ a, r = .ok a → Q a) : Tame others w Q :=
  of_run fun b hb =>
    have ⟨r, hr, hq⟩ := h b hb
    ⟨r, b, hr, kept_refl others b, hq⟩

lemma bind (hw : Tame others w Q) (hk : ∀ a, Q a → Tame others (k a) R) : Tame others (w >>= k) R := by
  intro b hb
  obtain ⟨hkept, hq⟩ := hw b hb
  rw [run_bind]
  rcases h : w.run b with ⟨_ | a, c⟩
  · rw [h] at hkept
    exact ⟨hkept, fun _ ha => nomatch ha⟩
  · rw [h] at hkept hq
    obtain ⟨hkept', hr⟩ := hk a (hq a rfl) c (apart_of_kept hb hkept)
    exact ⟨kept_trans hkept hkept', hr⟩

lemma discard (hw : Tame others w Q) : Tame others (Functor.discard w) fun _ => True := by
  intro b hb
  rw [run_discard]
  exact ⟨(hw b hb).1, fun _ _ => trivial⟩

lemma lift (r : Except Fault α) : Tame others (liftM r : Work α) fun a => r = .ok a := by
  cases r with
  | error e => exact (Local.throw e).tame
  | ok a => exact look fun b _ => ⟨_, run_pure a b, fun _ ha => ha⟩

lemma root : Tame others Work.root (Outside others) :=
  look fun b hb => ⟨_, run_root b, fun _ ha => Except.ok.inj ha ▸ hb.root⟩

lemma written (pretty : Bool) : Tame others (Work.written pretty) fun _ => True :=
  root.bind fun _ _ => (Local.tree _).tame.bind fun _ _ => (Local.pure trivial).tame

lemma contains (scope : Option Node) (marker : String) : Tame others (Work.contains scope marker) fun _ => True :=
  look fun b _ => ⟨_, run_contains scope marker b, fun _ _ => trivial⟩

lemma target : Tame others (Work.target none marker) (Outside others) := by
  intro b hb
  rw [run_target]
  cases h : (b.index none).single b.forest marker with
  | error e => exact ⟨kept_refl others b, fun _ ha => nomatch ha⟩
  | ok n =>
    refine ⟨kept_refl others b, fun a ha => ?_⟩
    rw [← Except.ok.inj ha]
    exact hb.targets _ (Index.mem_live.mp (Index.mem_live_of_single h)).1

lemma takeTarget : Tame others (Work.takeTarget none marker) (Outside others) := by
  intro b hb
  rw [run_takeTarget]
  cases h : (b.index none).single b.forest marker with
  | error e =>
    rw [Index.take_of_not_single h]
    exact ⟨kept_refl others b, fun _ ha => nomatch ha⟩
  | ok n =>
    have hn := hb.targets _ (Index.mem_live.mp (Index.mem_live_of_single h)).1
    rw [Index.take_of_single h]
    exact ⟨⟨Confined.detach hb.beside hn, rfl, Index.forget_subset _ _⟩, fun a ha => Except.ok.inj ha ▸ hn⟩

lemma finish : Tame others Work.finish fun _ => True :=
  of_run fun b hb => ⟨_, _, run_finish b,
    ⟨Confined.mapTags hb.beside hb.root _, rfl, List.Subset.refl _⟩, fun _ _ => trivial⟩

theorem once {w : Work Unit} (hw : Tame others w fun _ => True) : Tame others (Work.once w) (Outside others) := by
  intro b hb
  cases hr : b.copy.rendered with
  | true =>
    rw [run_once_rendered w hr]
    exact ⟨kept_refl others b, fun _ ha => Except.ok.inj ha ▸ hb.root⟩
  | false =>
    rw [run_once w hr]
    exact (hw.bind fun _ _ => finish.bind fun _ _ => root) b hb

end Tame

end Work

variable {others : List (Markup.Tree Node)} {n : Nat}

namespace Navbar

open Work

variable {μ : Type}

lemma fill_local {target : Node} (ht : Outside others target) (l : Link) :
    Local others (fill target l) fun _ => True :=
  (Local.plant l.tree).bind fun _ hs => Local.edit fun _ hf => Confined.merge hf ht hs

/-- The mould may stand anywhere: what is made of it is a copy. -/
lemma labelled_local (mould : Node) (marker : String) (label : Option Link) :
    Local others (labelled mould marker label) (Outside others) := by
  refine (Local.instantiate mould).bind fun n hn => ?_
  cases label with
  | none => exact Local.pure hn
  | some l =>
    exact (Local.target hn).bind fun target ht => (fill_local ht l).bind fun _ _ => Local.pure hn

lemma dropdown_local (mould : Node) (m : Menu) : Local others (dropdown mould m) (Outside others) := by
  refine (Local.instantiate mould).bind fun n hn => ?_
  refine (Local.target hn).bind fun text htext => (Local.target hn).bind fun container hcontainer => ?_
  refine (Local.takeTarget hcontainer).bind fun item _ => ?_
  refine (Local.edit fun f hf => Confined.setText? hf htext (m.label.bind Link.text)).bind fun _ _ => ?_
  refine Local.nextId.bind fun uid _ => (Local.setTag htext _).bind fun _ _ => (Local.setTag hcontainer _).bind fun _ _ => ?_
  refine (Local.appendEach hcontainer (fun m => ?_) m.entries).bind fun _ _ => Local.pure hn
  exact labelled_local item "dropdown-link" m.label

lemma entry_local (moulds : Moulds) (m : Menu) : Local others (entry moulds m) (Outside others) := by
  rw [entry]
  split
  · exact labelled_local moulds.item "item-link" m.label
  · exact dropdown_local moulds.dropdown m

lemma part_local (moulds : Moulds) (first : Bool) (m : Menu) : Local others (part moulds first m) (Outside others) := by
  refine (Local.instantiate moulds.container).bind fun n hn => (Local.setTag hn _).bind fun _ _ => ?_
  exact (Local.appendEach hn (entry_local moulds) m.entries).bind fun _ _ => Local.pure hn

lemma addParts_local {content : Node} (hc : Outside others content) (moulds : Moulds) (first : Bool)
    (ms : List Menu) : Local others (addParts content moulds first ms) fun _ => True := by
  induction ms generalizing first with
  | nil => exact Local.pure trivial
  | cons m ms ih => exact (part_local moulds first m).bind fun n hn => (Local.append hc hn).bind fun _ _ => ih false

lemma setBrand_local {brand : Node} (hb : Outside others brand) (label : Option Link) :
    Local others (setBrand brand label) fun _ => True := by
  cases label with
  | none => exact Local.edit fun f hf => Confined.detach hf hb
  | some l => exact fill_local hb l

theorem render_tame (others : List (Markup.Tree Node)) (n : Navbar Menu) : Tame others n.render fun _ => True := by
  rw [render]
  refine (Tame.lift n.shown).bind fun parts _ => Tame.takeTarget.bind fun container hcontainer => ?_
  refine (Local.takeTarget hcontainer).tame.bind fun item _ => ?_
  refine (Local.takeTarget hcontainer).tame.bind fun dropdown _ => ?_
  extract_lets rest
  have hrest : ∀ u, Tame others (rest u) fun _ => True := by
    intro u
    refine Tame.root.bind fun root hroot => (Local.setTag hroot _).tame.bind fun _ _ => ?_
    refine Tame.target.bind fun brand hbrand => (setBrand_local hbrand _).tame.bind fun _ _ => ?_
    refine Local.nextId.tame.bind fun uid _ => ?_
    refine Tame.target.bind fun toggler htoggler => (Local.setTag htoggler _).tame.bind fun _ _ => ?_
    refine Tame.target.bind fun content hcontent => (Local.setTag hcontent _).tame.bind fun _ _ => ?_
    exact (addParts_local hcontent _ true parts).tame
  split
  · refine Tame.target.bind fun positioning hpositioning => ?_
    exact (Local.attempt fun f g hf h => Confined.unwrap hf hpositioning h).tame.bind fun u _ => hrest u
  · exact hrest ()

end Navbar

namespace Modal

open Work

structure Of (others : List (Markup.Tree Node)) (m : Modal) : Prop where
  header : Outside others m.header
  body : Outside others m.body
  footer : Outside others m.footer

lemma make_tame (title text id cssClass : Option String) : Tame others (make title text id cssClass) (Of others) := by
  refine Tame.target.bind fun header hheader => Tame.target.bind fun body hbody => ?_
  exact Tame.target.bind fun footer hfooter => (Local.pure ⟨hheader, hbody, hfooter⟩).tame

lemma make_found {title text id cssClass : Option String} {b c : Bench} {m : Modal}
    (h : (make title text id cssClass).run b = (.ok m, c)) :
    c = b ∧ ∀ n ∈ [m.header, m.body, m.footer], n ∈ b.copy.targets.found.map (·.2) := by
  have hfound : ∀ {marker : String} {n : Node}, (b.index none).single b.forest marker = .ok n →
      n ∈ b.copy.targets.found.map (·.2) := fun hs =>
    List.mem_map.mpr ⟨_, (Index.mem_live.mp (Index.mem_live_of_single hs)).1, rfl⟩
  rw [make, run_bind, run_target] at h
  cases hheader : (b.index none).single b.forest "header" with
  | error e =>
    rw [hheader] at h
    cases h
  | ok header =>
    rw [hheader] at h
    dsimp only at h
    rw [run_bind, run_target] at h
    cases hbody : (b.index none).single b.forest "body" with
    | error e =>
      rw [hbody] at h
      cases h
    | ok body =>
      rw [hbody] at h
      dsimp only at h
      rw [run_bind, run_target] at h
      cases hfooter : (b.index none).single b.forest "footer" with
      | error e =>
        rw [hfooter] at h
        cases h
      | ok footer =>
        rw [hfooter] at h
        cases h
        refine ⟨rfl, ?_⟩
        simp only [List.forall_mem_cons]
        exact ⟨hfound hheader, hfound hbody, hfound hfooter, List.forall_mem_nil _⟩

lemma addButton_local {m : Modal} (hm : m.Of others) (b : Button) : Local others (m.addButton b) (Outside others) :=
  (Local.plant b.tree).bind fun _ hn => (Local.append hm.footer hn).bind fun _ _ => Local.pure hn

lemma setTitle_tame (m : Modal) : Tame others m.setTitle fun _ => True := by
  refine Local.nextId.tame.bind fun uid _ => ?_
  refine Tame.root.bind fun root hroot => (Local.setTag hroot _).tame.bind fun _ _ => ?_
  refine Tame.target.bind fun title htitle => (Local.setTag htitle _).tame.bind fun _ _ => ?_
  exact (Local.edit fun f hf => Confined.setText? hf htitle m.title).tame

lemma dropIfEmpty_local (hn : Outside others n) : Local others (dropIfEmpty n) fun _ => True := by
  refine (Local.tree n).bind fun t _ => ?_
  split
  · exact Local.edit fun f hf => Confined.detach hf hn
  · exact Local.pure trivial

theorem render_tame {m : Modal} (hm : m.Of others) : Tame others m.render fun _ => True := by
  rw [render]
  refine Tame.root.bind fun root hroot => (Local.setTag hroot _).tame.bind fun _ _ => ?_
  refine (Tame.contains none "title").bind fun titled _ => ?_
  extract_lets rest
  have hrest : ∀ u, Tame others (rest u) fun _ => True := by
    intro u
    refine (Local.edit fun f hf => Confined.setText? hf hm.body m.text).tame.bind fun _ _ => ?_
    exact ((dropIfEmpty_local hm.header).bind fun _ _ => dropIfEmpty_local hm.footer).tame
  split
  · exact (setTitle_tame m).bind fun u _ => hrest u
  · exact hrest ()

end Modal

end PageStencil
