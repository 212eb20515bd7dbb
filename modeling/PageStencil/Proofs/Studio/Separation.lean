import PageStencil.Proofs.Component.Confinement
import PageStencil.Proofs.Markup.Root
import PageStencil.Proofs.Studio.Bench

/-!
Whom the nodes of a studio belong to. The trees of the templates and those of every fragment have nodes of their own;
each new node goes to the one it was made for.
-/

namespace PageStencil

open Markup Stencil Forest

inductive Owner
  | nobody
  | template (name : String)
  | fragment (id : FragmentId)
  deriving DecidableEq

def Uniform (owner : Nat → Owner) (f : Forest) : Prop := ∀ t ∈ f.trees, ∀ k ∈ t.labels, owner k = owner t.label

def grant (owner : Nat → Owner) (o : Owner) (start stop k : Nat) : Owner :=
  if start ≤ k ∧ k < stop then o else owner k

def strangers (owner : Nat → Owner) (o : Owner) (f : Forest) : List (Markup.Tree Node) :=
  f.trees.filter fun t => !decide (owner t.label = o)

section Owners

variable {owner : Nat → Owner} {o : Owner} {f g : Forest} {k n start stop : Nat}

lemma grant_of_lt (h : k < start) : grant owner o start stop k = owner k :=
  if_neg fun hk => Nat.not_le.mpr h hk.1

lemma grant_of_le (h : start ≤ k) (h' : k < stop) : grant owner o start stop k = o := if_pos ⟨h, h'⟩

lemma split_strangers (owner : Nat → Owner) (o : Owner) (f : Forest) :
    f.trees.Perm ((f.trees.filter fun t => decide (owner t.label = o)) ++ strangers owner o f) :=
  (List.filter_append_perm _ f.trees).symm

lemma beside_strangers (hf : f.Sound) (owner : Nat → Owner) (o : Owner) : Beside (strangers owner o f) f :=
  ⟨hf, _, split_strangers owner o f⟩

lemma outside_strangers (hu : Uniform owner f) (hn : owner n = o) : Outside (strangers owner o f) n := by
  intro hm
  obtain ⟨t, ht, hk⟩ := List.mem_flatMap.mp hm
  obtain ⟨ht, hne⟩ := List.mem_filter.mp ht
  rw [← hu t ht n hk, hn] at hne
  simp at hne

lemma not_outside_strangers {s : Markup.Tree Node} (hu : Uniform owner f) (hn : owner n ≠ o)
    (h : f.find? n = some s) : ¬ Outside (strangers owner o f) n := by
  rw [find?_eq] at h
  obtain ⟨t, ht, hs⟩ := List.exists_of_findSome?_eq_some h
  have hk : n ∈ t.labels := Tree.label_of_find? hs ▸ (Tree.sublist_of_find? hs).subset s.label_mem
  refine fun ho => ho (List.mem_flatMap.mpr ⟨t, List.mem_filter.mpr ⟨ht, ?_⟩, hk⟩)
  rw [← hu t ht n hk]
  simpa using hn

lemma uniform_grant (hf : f.Sound) (hu : Uniform owner f) (hc : Confined (strangers owner o f) f g) :
    Uniform (grant owner o f.next g.next) g := by
  obtain ⟨mine, hm, huses⟩ := hc.keeps (split_strangers owner o f)
  have hold : ∀ k, k ∈ f.nodes → grant owner o f.next g.next k = owner k := fun k hk => grant_of_lt (hf.bounded k hk)
  have hmine : ∀ k, 0 < uses mine k → grant owner o f.next g.next k = o := by
    intro k hk
    have hle := huses k
    by_cases hnew : f.next ≤ k ∧ k < g.next
    · exact grant_of_le hnew.1 hnew.2
    · rw [fresh, if_neg hnew] at hle
      have hpos : 0 < uses (f.trees.filter fun t => decide (owner t.label = o)) k := by omega
      obtain ⟨t, ht, hk⟩ := List.mem_flatMap.mp (List.count_pos_iff.mp hpos)
      obtain ⟨ht, ho⟩ := List.mem_filter.mp ht
      rw [hold k (nodes_eq f ▸ List.mem_flatMap.mpr ⟨t, ht, hk⟩), hu t ht k hk]
      exact of_decide_eq_true ho
  intro t ht k hk
  rcases List.mem_append.mp (hm.mem_iff.mp ht) with ht | ht
  · have hlabel : ∀ k ∈ t.labels, 0 < uses mine k := fun k hk =>
      List.count_pos_iff.mpr (List.mem_flatMap.mpr ⟨t, ht, hk⟩)
    rw [hmine k (hlabel k hk), hmine t.label (hlabel t.label t.label_mem)]
  · have ht := (List.mem_filter.mp ht).1
    have hnode : ∀ k ∈ t.labels, k ∈ f.nodes := fun k hk => nodes_eq f ▸ List.mem_flatMap.mpr ⟨t, ht, hk⟩
    rw [hold k (hnode k hk), hold t.label (hnode t.label t.label_mem), hu t ht k hk]

end Owners

def Fragment.nodes (f : Fragment) : List Node :=
  f.copy.root :: f.copy.targets.found.map (·.2) ++
    match f.content with
    | .modal m => [m.header, m.body, m.footer]
    | _ => []

structure Shelved (owner : Nat → Owner) (s : Studio) (name : String) (t : Markup.Tree Unit) (root : Node) : Prop where
  get : s.shelf.get? name = some root
  owned : owner root = .template name
  kept : ∃ u, s.forest.find? root = some u ∧ u.erase = t

structure Separate (owner : Nat → Owner) (read : String → Option (Markup.Tree Unit)) (s : Studio) : Prop where
  sound : s.forest.Sound
  uniform : Uniform owner s.forest
  fragments : ∀ i < s.fragments.size, ∀ n ∈ (s.fragment i).nodes, owner n = .fragment i ∧ n < s.forest.next
  shelved : ∀ name t, read name = some t → ∃ root, Shelved owner s name t root
  unread : ∀ name, read name = none → s.shelf.get? name = none

/-- Nothing is taken back: sources and menus stay, and what has been read is kept. -/
structure Later (s s' : Studio) : Prop where
  source : s'.source = s.source
  menus : s'.menus = s.menus
  shelf : ∀ name root, s.shelf.get? name = some root → s'.shelf.get? name = some root

lemma later_refl (s : Studio) : Later s s := ⟨rfl, rfl, fun _ _ h => h⟩

lemma later_trans {s s' s'' : Studio} (h : Later s s') (h' : Later s' s'') : Later s s'' :=
  ⟨h'.source.trans h.source, h'.menus.trans h.menus, fun name root hr => h'.shelf name root (h.shelf name root hr)⟩

namespace Separate

variable {owner : Nat → Owner} {read : String → Option (Markup.Tree Unit)} {s s' : Studio} {o : Owner} {g : Forest}

lemma change (h : Separate owner read s) (hc : Confined (strangers owner o s.forest) s.forest g)
    (ho : ∀ name t, read name = some t → o ≠ .template name) :
    Separate (grant owner o s.forest.next g.next) read { s with forest := g } where
  sound := (hc.beside (beside_strangers h.sound owner o)).sound
  uniform := uniform_grant h.sound h.uniform hc
  fragments i hi n hn := by
    obtain ⟨hown, hlt⟩ := h.fragments i hi n hn
    exact ⟨(grant_of_lt hlt).trans hown, Nat.lt_of_lt_of_le hlt hc.le⟩
  shelved name t ht := by
    obtain ⟨root, hget, hown, u, hu, he⟩ := h.shelved name t ht
    have hb := beside_strangers h.sound owner o
    have hroot : owner root ≠ o := fun hr => ho name t ht (hr.symm.trans hown)
    have hlt : root < s.forest.next := h.sound.bounded root (label_of_find? hu ▸ (sublist_of_find? hu).subset u.label_mem)
    refine ⟨root, hget, (grant_of_lt hlt).trans hown, u, ?_, he⟩
    exact (hb.find?_other (hc.beside hb) (not_outside_strangers h.uniform hroot hu)).trans hu
  unread := h.unread

lemma congr (h : Separate owner read s) (hforest : s'.forest = s.forest) (hshelf : s'.shelf = s.shelf)
    (hf : ∀ i < s'.fragments.size, ∀ n ∈ (s'.fragment i).nodes, owner n = .fragment i ∧ n < s.forest.next) :
    Separate owner read s' where
  sound := hforest ▸ h.sound
  uniform := hforest ▸ h.uniform
  fragments := hforest ▸ hf
  shelved name t ht := by
    obtain ⟨root, hget, hown, hkept⟩ := h.shelved name t ht
    exact ⟨root, hshelf ▸ hget, hown, hforest ▸ hkept⟩
  unread name hn := hshelf ▸ h.unread name hn

end Separate

/-- What has been read of templates after one more has been looked for. -/
def reread (name : String) (source : Source) (read : String → Option (Markup.Tree Unit)) (other : String) :
    Option (Markup.Tree Unit) :=
  if other = name then read name <|> (source.readRoot name).toOption else read other

namespace Session

variable {name : String} {s : Studio}

def rootIn (top : Node) (f : Forest) : Node := (((f.find? top).bind Markup.Tree.fragmentRoot?).map Markup.Tree.label).getD top

lemma run_load_of_get {root : Node} (h : s.shelf.get? name = some root) : (load name).run s = (.ok root, s) := by
  rw [load, run_bind_ok (run_get s), Shelf.load, h]
  rfl

lemma run_load_of_error (h : s.shelf.get? name = none) {e : Fault} (hr : s.source.readDocument name = .error e) :
    (load name).run s = (.error e, s) := by
  rw [load, run_bind_ok (run_get s), Shelf.load, h, hr]
  rfl

lemma run_load_of_ok (h : s.shelf.get? name = none) {document : Markup.Tree Unit}
    (hr : s.source.readDocument name = .ok document) :
    (load name).run s = (.ok (rootIn s.forest.next (s.forest.plant document).2), { s with
      shelf := ⟨(name, rootIn s.forest.next (s.forest.plant document).2) :: s.shelf.loaded⟩
      forest := (s.forest.plant document).2 }) := by
  rw [load, run_bind_ok (run_get s), Shelf.load, h, hr]
  rfl

end Session

namespace Stencil.Shelf

lemma get?_cons_self (name : String) (root : Node) (loaded : List (String × Node)) :
    (⟨(name, root) :: loaded⟩ : Shelf).get? name = some root :=
  List.lookup_cons_self

lemma get?_cons_of_ne {name other : String} (h : other ≠ name) (root : Node) (loaded : List (String × Node)) :
    (⟨(name, root) :: loaded⟩ : Shelf).get? other = (⟨loaded⟩ : Shelf).get? other := by
  rw [Shelf.get?, List.lookup_cons, beq_eq_false_iff_ne.mpr h]
  rfl

end Stencil.Shelf

namespace Separate

variable {owner : Nat → Owner} {read : String → Option (Markup.Tree Unit)} {s : Studio} {name : String}

lemma find?_rootIn {f : Forest} {document : Markup.Tree Unit} (hf : (f.plant document).2.Sound) :
    ∃ u, (f.plant document).2.find? (Session.rootIn f.next (f.plant document).2) = some u ∧
      u.erase = document.fragmentRoot?.getD document ∧
        f.next ≤ Session.rootIn f.next (f.plant document).2 ∧
        Session.rootIn f.next (f.plant document).2 < (f.plant document).2.next := by
  have htop := find?_plant f document
  have hroot := Markup.Tree.fragmentRoot?_erase (document.number f.next)
  rw [Markup.Tree.erase_number, Markup.Tree.erase_unit] at hroot
  rw [Session.rootIn, htop, Option.bind_some, hroot]
  have hin : ∀ k ∈ (document.number f.next).labels, f.next ≤ k ∧ k < (f.plant document).2.next := by
    intro k hk
    rw [labels_number] at hk
    exact List.mem_range'_1.mp hk
  cases hu : (document.number f.next).fragmentRoot? with
  | none =>
    refine ⟨_, htop, ?_, hin f.next ?_⟩
    · rw [Markup.Tree.erase_number, Markup.Tree.erase_unit, Option.map_none, Option.getD_none]
    · have hm := (document.number f.next).label_mem
      rwa [Markup.Tree.label_number] at hm
  | some u =>
    have hfind := Markup.Tree.find?_of_fragmentRoot? (hf.nodup_of_find? htop) hu
    have hmem : u.label ∈ (document.number f.next).labels := (Markup.Tree.sublist_of_find? hfind).subset u.label_mem
    refine ⟨u, ?_, by rw [Option.map_some, Option.getD_some], hin u.label hmem⟩
    rw [Option.map_some, Option.getD_some, hf.find?_of_mem htop hmem, hfind]

lemma get?_of_read (h : Separate owner read s) {t : Markup.Tree Unit} (ht : read name = some t) :
    ∃ root, s.shelf.get? name = some root :=
  have ⟨root, hroot⟩ := h.shelved name t ht
  ⟨root, hroot.get⟩

lemma readRoot_of_ok {document : Markup.Tree Unit} (h : s.source.readDocument name = .ok document) :
    s.source.readRoot name = .ok (document.fragmentRoot?.getD document) := by
  rw [Source.readRoot, h]
  rfl

lemma reread_of_read {t : Markup.Tree Unit} (h : read name = some t) : reread name s.source read = read := by
  funext other
  rw [reread]
  split
  next ho => rw [ho, h]; rfl
  next => rfl

lemma reread_of_error {e : Fault} (h : s.source.readRoot name = .error e) : reread name s.source read = read := by
  funext other
  rw [reread, h]
  split
  next ho => rw [ho]; cases read name <;> rfl
  next => rfl

lemma reread_of_ok {t : Markup.Tree Unit} (hread : read name = none) (h : s.source.readRoot name = .ok t) (other : String) :
    reread name s.source read other = if other = name then some t else read other := by
  rw [reread, hread, h]
  rfl

lemma put (h : Separate owner read s) (hread : read name = none) {t : Markup.Tree Unit}
    (ht : s.source.readRoot name = .ok t) {g : Forest} (hg : Confined (strangers owner (.template name) s.forest) s.forest g)
    {root : Node} (hle : s.forest.next ≤ root) (hlt : root < g.next) (hroot : ∃ u, g.find? root = some u ∧ u.erase = t) :
    Separate (grant owner (.template name) s.forest.next g.next) (reread name s.source read)
      { s with shelf := ⟨(name, root) :: s.shelf.loaded⟩, forest := g } := by
  have hne : ∀ other t, read other = some t → Owner.template name ≠ .template other := by
    rintro other t hother ⟨⟩
    cases hread.symm.trans hother
  have hc := h.change hg hne
  refine ⟨hc.sound, hc.uniform, hc.fragments, fun other t' hother => ?_, fun other hother => ?_⟩
  · rw [reread_of_ok hread ht] at hother
    split at hother
    next heq =>
      subst heq
      cases hother
      exact ⟨root, Shelf.get?_cons_self _ _ _, grant_of_le hle hlt, hroot⟩
    next hne =>
      obtain ⟨root', hget, hown, hkept⟩ := hc.shelved other t' hother
      exact ⟨root', (Shelf.get?_cons_of_ne hne _ _).trans hget, hown, hkept⟩
  · rw [reread_of_ok hread ht] at hother
    split at hother
    next => cases hother
    next hne => exact (Shelf.get?_cons_of_ne hne _ _).trans (hc.unread other hother)

theorem load (h : Separate owner read s) (name : String) :
    ∃ owner', Separate owner' (reread name s.source read) ((Session.load name).run s).2 ∧
      Later s ((Session.load name).run s).2 ∧ ((Session.load name).run s).2.fragments = s.fragments := by
  cases hread : read name with
  | some t =>
    obtain ⟨root, hget⟩ := h.get?_of_read hread
    rw [Session.run_load_of_get hget, reread_of_read hread]
    exact ⟨owner, h, later_refl s, rfl⟩
  | none =>
    have hget := h.unread name hread
    cases hdoc : s.source.readDocument name with
    | error e =>
      have hroot : s.source.readRoot name = .error e := by rw [Source.readRoot, hdoc]; rfl
      rw [Session.run_load_of_error hget hdoc, reread_of_error hroot]
      exact ⟨owner, h, later_refl s, rfl⟩
    | ok document =>
      rw [Session.run_load_of_ok hget hdoc]
      have hg := Confined.plant (strangers owner (.template name) s.forest) s.forest document
      obtain ⟨u, hu, he, hle, hlt⟩ := find?_rootIn (hg.beside (beside_strangers h.sound owner _)).sound
      refine ⟨_, h.put hread (readRoot_of_ok hdoc) hg hle hlt ⟨u, hu, he⟩, ⟨rfl, rfl, fun other root' hget' => ?_⟩, rfl⟩
      have hother : other ≠ name := by
        rintro rfl
        cases hget.symm.trans hget'
      exact (Shelf.get?_cons_of_ne hother _ _).trans hget'

end Separate

end PageStencil
