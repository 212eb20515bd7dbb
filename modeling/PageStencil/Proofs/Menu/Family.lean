import Mathlib.Logic.ExistsUnique
import PageStencil.Proofs.Menu.Planting

/-!
Parents and lists in a planted menu. Every node but the root stands in exactly one list, once; its parent is the
node whose list that is. The graph shows the menu that was planted.
-/

namespace PageStencil.MenuGraph

open Menu

def parentOf (g : MenuGraph) (n : Nat) : Option Nat := (g.node? n).bind (·.parent)

def entriesOf (g : MenuGraph) (n : Nat) : List Nat := ((g.node? n).bind (·.entries)).getD []

def labelOf (g : MenuGraph) (n : Nat) : Option Link := (g.node? n).bind fun m => m.label.bind g.link?

def Looks (g : MenuGraph) (n : MenuId) (l : Option Link) (c : Option String) (opened : Bool) : Prop :=
  ∃ m, g.node? n = some m ∧ g.Wears m l c ∧ m.entries.isSome = opened

/-- The nodes from `n` up to `next`, of which `ids` stand in a list outside. -/
structure Family (g : MenuGraph) (parent : Option Nat) (n next : Nat) (ids : List Nat) : Prop where
  ordered : ids.Pairwise (· < ·)
  within : ∀ k ∈ ids, n ≤ k ∧ k < next
  parent : ∀ k ∈ ids, g.parentOf k = parent
  inner_ordered : ∀ q, n ≤ q → q < next → (g.entriesOf q).Pairwise (· < ·)
  inner : ∀ q, n ≤ q → q < next → ∀ k ∈ g.entriesOf q, q < k ∧ k < next ∧ g.parentOf k = some q
  placed : ∀ k, n ≤ k → k < next → k ∈ ids ∨ ∃ q, n ≤ q ∧ q < k ∧ k ∈ g.entriesOf q

section Holding

variable {g : MenuGraph} {parent : Option Nat} {n next : Nat} {ms : List Menu} {ids : List Nat}

lemma Family.nil : Family g parent n n [] where
  ordered := .nil
  within := by simp
  parent := by simp
  inner_ordered q hq hn := absurd hq (Nat.not_le.mpr hn)
  inner q hq hn := absurd hq (Nat.not_le.mpr hn)
  placed k hk hn := absurd hk (Nat.not_le.mpr hn)

lemma Family.cons {mid : Nat} (hp : g.parentOf n = parent) (hle : n < mid) (hle' : mid ≤ next)
    (hes : Family g (some n) (n + 1) mid (g.entriesOf n)) (hms : Family g parent mid next ids) :
    Family g parent n next (n :: ids) where
  ordered := by
    refine List.pairwise_cons.mpr ⟨?_, hms.ordered⟩
    intro k hk
    exact Nat.lt_of_lt_of_le hle (hms.within k hk).1
  within k hk := by
    rcases List.mem_cons.mp hk with rfl | hk
    · omega
    · have := hms.within k hk
      omega
  parent k hk := by
    rcases List.mem_cons.mp hk with rfl | hk
    · exact hp
    · exact hms.parent k hk
  inner_ordered q hq hn := by
    by_cases hm : mid ≤ q
    · exact hms.inner_ordered q hm hn
    · obtain rfl | hq := Nat.eq_or_lt_of_le hq
      · exact hes.ordered
      · exact hes.inner_ordered q hq (by omega)
  inner q hq hn k hk := by
    by_cases hm : mid ≤ q
    · exact hms.inner q hm hn k hk
    · obtain rfl | hq := Nat.eq_or_lt_of_le hq
      · have hw := hes.within k hk
        exact ⟨by omega, by omega, hes.parent k hk⟩
      · obtain ⟨h₁, h₂, h₃⟩ := hes.inner q hq (by omega) k hk
        exact ⟨h₁, by omega, h₃⟩
  placed k hk hn := by
    by_cases hm : mid ≤ k
    · rcases hms.placed k hm hn with h | ⟨q, hq, hqk, h⟩
      · exact Or.inl (List.mem_cons_of_mem _ h)
      · exact Or.inr ⟨q, by omega, hqk, h⟩
    · obtain rfl | hk := Nat.eq_or_lt_of_le hk
      · exact Or.inl List.mem_cons_self
      · rcases hes.placed k hk (by omega) with h | ⟨q, hq, hqk, h⟩
        · exact Or.inr ⟨n, Nat.le_refl _, by omega, h⟩
        · exact Or.inr ⟨q, by omega, hqk, h⟩

lemma Holds.uncons {m : Menu} (h : Holds g parent n (m :: ms) ids next) : ∃ mid rest, ids = n :: rest ∧
    Holds g (some n) (n + 1) m.entries (g.entriesOf n) mid ∧ Holds g parent mid ms rest next := by
  cases h with
  | item hm _ _ he hms =>
    have hentries : g.entriesOf n = [] := by simp [entriesOf, hm, he]
    exact ⟨n + 1, _, rfl, hentries ▸ .nil, hms⟩
  | @group _ _ mid _ _ _ _ _ kids _ _ hm _ _ he hes hms =>
    have hentries : g.entriesOf n = kids := by simp [entriesOf, hm, he]
    exact ⟨mid, _, rfl, hentries ▸ hes, hms⟩

theorem Holds.family (h : Holds g parent n ms ids next) : Family g parent n next ids := by
  induction h with
  | nil => exact .nil
  | @item parent n next m l c ms ids hm _ hp he hms ih =>
    have hentries : g.entriesOf n = [] := by simp [entriesOf, hm, he]
    exact .cons (by simp [parentOf, hm, hp]) (Nat.lt_succ_self n) hms.le (hentries ▸ .nil) ih
  | @group parent n mid next m l c es kids ms ids hm _ hp he hes hms ihe ihm =>
    have hentries : g.entriesOf n = kids := by simp [entriesOf, hm, he]
    exact .cons (by simp [parentOf, hm, hp]) hes.le hms.le (hentries ▸ ihe) ihm

lemma Wears.bind {m : MenuNode} {l : Option Link} {c : Option String} (h : g.Wears m l c) :
    m.label.bind g.link? = l := by
  have hl := h.label
  cases hm : m.label with
  | none => cases l <;> simp_all
  | some id => cases l <;> simp_all

lemma Looks.labelOf {k : MenuId} {l : Option Link} {c : Option String} {opened : Bool} (h : g.Looks k l c opened) :
    g.labelOf k = l := by
  obtain ⟨m, hm, hw, _⟩ := h
  rw [MenuGraph.labelOf, hm]
  exact hw.bind

theorem Holds.preorder (h : Holds g parent n ms ids next) : next = n + (preorderAll ms).length ∧
    ∀ k x, (preorderAll ms)[k]? = some x → g.Looks (n + k) x.label x.cssClass !x.isLeaf := by
  induction h with
  | nil => exact ⟨rfl, by simp [preorderAll]⟩
  | @item parent n next m l c ms ids hm hw _ he _ ih =>
    obtain ⟨hnext, hlooks⟩ := ih
    rw [preorderAll, Menu.preorder, List.singleton_append]
    refine ⟨by simp only [List.length_cons]; omega, ?_⟩
    intro k x hk
    cases k with
    | zero =>
      cases hk
      exact ⟨m, hm, hw, by rw [he]; rfl⟩
    | succ k =>
      rw [show n + (k + 1) = n + 1 + k by omega]
      exact hlooks k x hk
  | @group parent n mid next m l c es kids ms ids hm hw _ he _ _ ihe ihm =>
    obtain ⟨hmid, hkids⟩ := ihe
    obtain ⟨hnext, hlooks⟩ := ihm
    rw [preorderAll, Menu.preorder, List.cons_append]
    refine ⟨by simp only [List.length_cons, List.length_append]; omega, ?_⟩
    intro k x hk
    cases k with
    | zero =>
      cases hk
      exact ⟨m, hm, hw, by rw [he]; rfl⟩
    | succ k =>
      rw [List.getElem?_cons_succ, List.getElem?_append] at hk
      split at hk
      · rw [show n + (k + 1) = n + 1 + k by omega]
        exact hkids k x hk
      · rw [show n + (k + 1) = mid + (k - (preorderAll es).length) by omega]
        exact hlooks _ x hk

theorem Holds.unfold (h : Holds g parent n ms ids next) {fuel : Nat} (hf : next ≤ n + fuel) :
    ids.map (g.unfoldWithin fuel) = ms := by
  induction h generalizing fuel with
  | nil => rfl
  | item hm hw _ he hms ih =>
    have hle := hms.le
    cases fuel with
    | zero => omega
    | succ fuel =>
      rw [List.map_cons, ih (by omega)]
      simp [unfoldWithin, hm, he, hw.bind, hw.cssClass]
  | @group parent n mid next m l c es kids ms ids hm hw _ he hes hms ihe ihm =>
    have hle := hes.le
    have hle' := hms.le
    cases fuel with
    | zero => omega
    | succ fuel =>
      have hkids := ihe (show mid ≤ n + 1 + fuel by omega)
      rw [List.map_cons, ihm (by omega)]
      simp [unfoldWithin, hm, he, hw.bind, hw.cssClass, hkids]

end Holding

structure Rooted (g : MenuGraph) (root next : Nat) : Prop where
  top : g.parentOf root = none
  ordered : ∀ q, root ≤ q → q < next → (g.entriesOf q).Pairwise (· < ·)
  parent : ∀ q, root ≤ q → q < next → ∀ k ∈ g.entriesOf q, q < k ∧ k < next ∧ g.parentOf k = some q
  once : ∀ k, root < k → k < next → ∃! q, root ≤ q ∧ q < next ∧ k ∈ g.entriesOf q

lemma Family.rooted {g : MenuGraph} {root next : Nat} (h : Family g none root next [root]) : Rooted g root next where
  top := h.parent root List.mem_cons_self
  ordered := h.inner_ordered
  parent := h.inner
  once k hk hn := by
    rcases h.placed k (by omega) hn with hm | ⟨q, hq, hqk, hm⟩
    · have := List.mem_singleton.mp hm
      omega
    · refine ⟨q, ⟨hq, by omega, hm⟩, ?_⟩
      rintro q' ⟨hq', hn', hm'⟩
      have hp := (h.inner q hq (by omega) k hm).2.2
      have hp' := (h.inner q' hq' hn' k hm').2.2
      rw [hp] at hp'
      exact (Option.some.inj hp').symm

section Standing

variable {g g' : MenuGraph} {n : MenuId} {m : Menu}

/-- A menu stands at a node and those behind it, whatever is planted later. -/
def Stands (g : MenuGraph) (n : MenuId) (m : Menu) : Prop :=
  ∃ next, Holds g none n [m] [n] next ∧ next ≤ g.nodes.size

lemma Stands.extend (h : Stands g n m) (he : Extends g g') : Stands g' n m := by
  obtain ⟨next, hholds, hle⟩ := h
  exact ⟨next, hholds.extend he, Nat.le_trans hle he.size_le⟩

lemma Stands.menu_eq (h : Stands g n m) : g.menu n = m := by
  obtain ⟨next, hholds, hle⟩ := h
  exact List.singleton_inj.mp (hholds.unfold (by omega))

end Standing

section Planting

variable (g : MenuGraph) (m : Menu)

lemma plant_fst (parent : Option Nat) : (g.plant parent m).1 = g.nodes.size := by
  have h := (g.plant_spec parent m).holds
  generalize (g.plant parent m).1 = n at h
  generalize (g.plant parent m).2 = g' at h
  generalize g.nodes.size = k at h
  cases h <;> rfl

theorem plant_rooted : Rooted (g.plant none m).2 (g.plant none m).1 (g.plant none m).2.nodes.size := by
  have h := (g.plant_spec none m).holds.family
  rw [← plant_fst g m none] at h
  exact h.rooted

lemma stands_plant : Stands (g.plant none m).2 (g.plant none m).1 m := by
  have h := (g.plant_spec none m).holds
  rw [← plant_fst g m none] at h
  exact ⟨_, h, Nat.le_refl _⟩

theorem menu_plant : (g.plant none m).2.menu (g.plant none m).1 = m := (stands_plant g m).menu_eq

lemma plant_holds_entries {root : Nat} {g' : MenuGraph} (h : g.plant none m = (root, g')) :
    Holds g' (some root) (root + 1) m.entries (g'.entriesOf root) g'.nodes.size := by
  have hm := (g.plant_spec none m).holds
  rw [← plant_fst g m none, h] at hm
  obtain ⟨mid, rest, _, hes, hr⟩ := hm.uncons
  cases hr
  exact hes

theorem plant_looks : (g.plant none m).2.nodes.size = (g.plant none m).1 + 1 + (preorderAll m.entries).length ∧
    (g.plant none m).2.Looks (g.plant none m).1 m.label m.cssClass !m.isLeaf ∧
    ∀ k x, (preorderAll m.entries)[k]? = some x →
      (g.plant none m).2.Looks ((g.plant none m).1 + 1 + k) x.label x.cssClass !x.isLeaf := by
  obtain ⟨hsize, hlooks⟩ := (g.plant_spec none m).holds.preorder
  have hm : preorderAll [m] = m :: preorderAll m.entries := by
    cases m <;> simp [preorderAll, Menu.preorder, Menu.entries]
  rw [hm] at hsize hlooks
  rw [plant_fst]
  refine ⟨by rw [hsize, List.length_cons]; omega, hlooks 0 m rfl, ?_⟩
  intro k x hk
  rw [show g.nodes.size + 1 + k = g.nodes.size + (k + 1) by omega]
  exact hlooks (k + 1) x hk

theorem plant_entries : (g.plant none m).2.nodes.size = (g.plant none m).1 + 1 + (preorderAll m.entries).length ∧
    ∀ k x, (preorderAll m.entries)[k]? = some x →
      (g.plant none m).2.labelOf ((g.plant none m).1 + 1 + k) = x.label := by
  obtain ⟨hsize, _, hlooks⟩ := g.plant_looks m
  exact ⟨hsize, fun k x hk => (hlooks k x hk).labelOf⟩

end Planting

lemma Rooted.parentsAgreeWithin {g : MenuGraph} {root next : Nat} (h : Rooted g root next) (fuel : Nat) {n : Nat}
    (hr : root ≤ n) (hn : n < next) : g.parentsAgreeWithin fuel n = true := by
  induction fuel generalizing n with
  | zero => rfl
  | succ fuel ih =>
    rw [MenuGraph.parentsAgreeWithin, Option.all_eq_true]
    intro es hes
    rw [List.all_eq_true]
    intro k hk
    have he : g.entriesOf n = es := by rw [entriesOf, hes]; rfl
    obtain ⟨hq, hkn, hp⟩ := h.parent n hr hn k (he ▸ hk)
    rw [Bool.and_eq_true, beq_iff_eq]
    exact ⟨hp, ih (by omega) hkn⟩

theorem parentsAgree_plant (g : MenuGraph) (m : Menu) :
    (g.plant none m).2.parentsAgree (g.plant none m).1 = true := by
  have h := plant_rooted g m
  have hle := (g.plant_spec none m).holds.le
  have hs := (plant_entries g m).1
  rw [parentsAgree, Bool.and_eq_true]
  exact ⟨by rw [Option.isNone_iff_eq_none]; exact h.top, h.parentsAgreeWithin _ (Nat.le_refl _) (by omega)⟩

end PageStencil.MenuGraph
