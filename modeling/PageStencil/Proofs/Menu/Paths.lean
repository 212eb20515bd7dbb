import Mathlib.Data.Finset.Card
import Mathlib.Data.Finset.Range
import PageStencil.Proofs.Menu.Family

/-!
Paths through menus whose nodes may be shared. Two nodes agree if the same paths can be followed from them, and lead to
nodes that have the same of their own. Where no node holds itself, the nodes that agree are those that show the same
menu.
-/

namespace PageStencil.MenuGraph

/-- What a node has of its own: its label, its class, and the number of its entries, which a leaf does not have. -/
structure Face where
  label : Option Link
  cssClass : Option String
  size : Option Nat
  deriving DecidableEq, Repr

def Face.menu (f : Face) (es : List Menu) : Menu :=
  match f.size with
  | none => .item f.label f.cssClass
  | some _ => .group f.label f.cssClass es

def face (g : MenuGraph) (n : MenuId) : Face where
  label := g.labelOf n
  cssClass := (g.node? n).bind (·.cssClass)
  size := ((g.node? n).bind (·.entries)).map List.length

def follow (g : MenuGraph) : MenuId → List Nat → Option MenuId
  | n, [] => some n
  | n, i :: path => (g.entriesOf n)[i]?.bind fun e => g.follow e path

/-- Two nodes, of the same graph or of two, agree at every level; their parents do not count. -/
def Agree (g : MenuGraph) (n : MenuId) (h : MenuGraph) (k : MenuId) : Prop :=
  ∀ path, (g.follow n path).map g.face = (h.follow k path).map h.face

def Acyclic (g : MenuGraph) (n : MenuId) : Prop :=
  ∀ path k, g.follow n path = some k → ∀ way, g.follow k way = some k → way = []

section Following

variable {g : MenuGraph} {n k e i : Nat} {path way : List Nat}

lemma follow_cons (he : (g.entriesOf n)[i]? = some e) : g.follow n (i :: path) = g.follow e path := by
  rw [follow, he, Option.bind_some]

lemma follow_cons_eq_some (h : g.follow n (i :: path) = some k) :
    ∃ e, (g.entriesOf n)[i]? = some e ∧ g.follow e path = some k := by
  rw [follow] at h
  exact Option.bind_eq_some_iff.mp h

lemma Acyclic.entry (h : g.Acyclic n) (he : (g.entriesOf n)[i]? = some e) : g.Acyclic e := by
  intro path k hk
  exact h (i :: path) k ((follow_cons he).trans hk)

lemma Acyclic.not_below (h : g.Acyclic n) (he : (g.entriesOf n)[i]? = some e) : g.follow e way ≠ some n := by
  intro hway
  cases h [] n rfl (i :: way) ((follow_cons he).trans hway)

lemma lt_of_entriesOf (he : (g.entriesOf n)[i]? = some e) : n < g.nodes.size := by
  cases hn : g.node? n with
  | none => simp [entriesOf, hn] at he
  | some m => exact node?_lt hn

lemma length_add_card_le {visited : Finset Nat} (hn : g.Acyclic n) (hpath : g.follow n path = some k)
    (hvisited : visited ⊆ Finset.range g.nodes.size) (hleft : ∀ way m, g.follow n way = some m → m ∉ visited) :
    path.length + visited.card ≤ g.nodes.size := by
  -- What the path has left behind is in `visited`, and nothing there is met again.
  induction path generalizing n visited with
  | nil =>
    have hcard := Finset.card_le_card hvisited
    rw [Finset.card_range] at hcard
    rwa [List.length_nil, Nat.zero_add]
  | cons i path ih =>
    obtain ⟨e, he, hrest⟩ := follow_cons_eq_some hpath
    have hnew : n ∉ visited := hleft [] n rfl
    have hinserted : insert n visited ⊆ Finset.range g.nodes.size :=
      Finset.insert_subset (Finset.mem_range.mpr (lt_of_entriesOf he)) hvisited
    have hbound := ih (hn.entry he) hrest hinserted fun way m hway => by
      rw [Finset.mem_insert, not_or]
      refine ⟨?_, hleft (i :: way) m ((follow_cons he).trans hway)⟩
      rintro rfl
      exact hn.not_below he hway
    rw [Finset.card_insert_of_notMem hnew] at hbound
    rw [List.length_cons]
    omega

lemma Acyclic.length_le (hn : g.Acyclic n) (hpath : g.follow n path = some k) : path.length ≤ g.nodes.size :=
  length_add_card_le hn hpath (Finset.empty_subset _) fun _ _ _ => Finset.notMem_empty _

end Following

section Agreeing

variable {g h : MenuGraph} {n k : Nat}

lemma length_entriesOf (g : MenuGraph) (n : MenuId) : (g.entriesOf n).length = (g.face n).size.getD 0 := by
  rw [entriesOf, face]
  cases (g.node? n).bind (·.entries) <;> rfl

lemma length_entriesOf_congr (hface : g.face n = h.face k) : (g.entriesOf n).length = (h.entriesOf k).length := by
  rw [length_entriesOf, length_entriesOf, hface]

lemma agree_iff : g.Agree n h k ↔ g.face n = h.face k ∧
    ∀ (i : Nat) (hi : i < (g.entriesOf n).length) (hi' : i < (h.entriesOf k).length),
      g.Agree (g.entriesOf n)[i] h (h.entriesOf k)[i] := by
  constructor
  · intro hagree
    refine ⟨Option.some.inj (hagree []), fun i hi hi' path => ?_⟩
    rw [← follow_cons (List.getElem?_eq_getElem hi), ← follow_cons (List.getElem?_eq_getElem hi')]
    exact hagree (i :: path)
  · rintro ⟨hface, hentries⟩ path
    cases path with
    | nil => exact congrArg some hface
    | cons i path =>
      have hlength := length_entriesOf_congr hface
      by_cases hi : i < (g.entriesOf n).length
      · have hi' : i < (h.entriesOf k).length := hlength ▸ hi
        rw [follow_cons (List.getElem?_eq_getElem hi), follow_cons (List.getElem?_eq_getElem hi')]
        exact hentries i hi hi' path
      · have hi' : ¬i < (h.entriesOf k).length := hlength ▸ hi
        rw [follow, follow, List.getElem?_eq_none (Nat.not_lt.mp hi), List.getElem?_eq_none (Nat.not_lt.mp hi')]
        rfl

lemma Face.menu_inj {f f' : Face} {es es' : List Menu} (hes : es.length = f.size.getD 0)
    (hes' : es'.length = f'.size.getD 0) : f.menu es = f'.menu es' ↔ f = f' ∧ es = es' := by
  obtain ⟨label, cssClass, size⟩ := f
  obtain ⟨label', cssClass', size'⟩ := f'
  cases size with
  | none =>
    cases List.length_eq_zero_iff.mp hes
    cases size' with
    | none =>
      cases List.length_eq_zero_iff.mp hes'
      simp [menu]
    | some m' => simp [menu]
  | some m =>
    cases size' with
    | none => simp [menu]
    | some m' =>
      cases (show es.length = m from hes)
      cases (show es'.length = m' from hes')
      simp only [menu, Menu.group.injEq, mk.injEq, Option.some.injEq]
      constructor
      · rintro ⟨rfl, rfl, rfl⟩
        exact ⟨⟨rfl, rfl, rfl⟩, rfl⟩
      · rintro ⟨⟨rfl, rfl, -⟩, rfl⟩
        exact ⟨rfl, rfl, rfl⟩

lemma unfoldWithin_succ (g : MenuGraph) (fuel : Nat) (n : MenuId) :
    g.unfoldWithin (fuel + 1) n = (g.face n).menu ((g.entriesOf n).map (g.unfoldWithin fuel)) := by
  rw [unfoldWithin, Face.menu, face, labelOf, entriesOf]
  cases g.node? n with
  | none => rfl
  | some m => cases hm : m.entries <;> simp [hm]

lemma unfoldWithin_eq_iff {fuel fuel' : Nat} (hg : ∀ path m, g.follow n path = some m → path.length < fuel)
    (hh : ∀ path m, h.follow k path = some m → path.length < fuel') :
    g.unfoldWithin fuel n = h.unfoldWithin fuel' k ↔ g.Agree n h k := by
  induction fuel generalizing n k fuel' with
  | zero => exact absurd (hg [] n rfl) (Nat.not_lt_zero _)
  | succ fuel ih =>
    cases fuel' with
    | zero => exact absurd (hh [] k rfl) (Nat.not_lt_zero _)
    | succ fuel' =>
      have hentries : ∀ (i : Nat) (hi : i < (g.entriesOf n).length) (hi' : i < (h.entriesOf k).length),
          g.unfoldWithin fuel (g.entriesOf n)[i] = h.unfoldWithin fuel' (h.entriesOf k)[i] ↔
            g.Agree (g.entriesOf n)[i] h (h.entriesOf k)[i] := by
        intro i hi hi'
        refine ih (fun path m hm => ?_) fun path m hm => ?_
        · exact Nat.lt_of_succ_lt_succ (hg (i :: path) m ((follow_cons (List.getElem?_eq_getElem hi)).trans hm))
        · exact Nat.lt_of_succ_lt_succ (hh (i :: path) m ((follow_cons (List.getElem?_eq_getElem hi')).trans hm))
      rw [unfoldWithin_succ, unfoldWithin_succ, agree_iff, Face.menu_inj (by rw [List.length_map, length_entriesOf])
        (by rw [List.length_map, length_entriesOf])]
      refine and_congr_right fun hface => ?_
      rw [List.ext_getElem_iff]
      simp only [List.length_map, List.getElem_map, hentries]
      exact and_iff_right (length_entriesOf_congr hface)

theorem menu_eq_iff (hn : g.Acyclic n) (hk : h.Acyclic k) : g.menu n = h.menu k ↔ g.Agree n h k := by
  refine unfoldWithin_eq_iff (fun path m hm => ?_) fun path m hm => ?_
  · exact Nat.lt_add_right 2 (Nat.lt_succ_of_le (hn.length_le hm))
  · exact Nat.lt_add_right 2 (Nat.lt_succ_of_le (hk.length_le hm))

end Agreeing

section Ordered

variable {g : MenuGraph} {root next n k : Nat} {path : List Nat}

lemma follow_le (h : ∀ q, root ≤ q → q < next → ∀ e ∈ g.entriesOf q, q < e ∧ e < next) (hr : root ≤ n) (hn : n < next)
    (hpath : g.follow n path = some k) : n + path.length ≤ k ∧ k < next := by
  induction path generalizing n with
  | nil =>
    cases hpath
    exact ⟨Nat.le_refl _, hn⟩
  | cons i path ih =>
    obtain ⟨e, he, hrest⟩ := follow_cons_eq_some hpath
    obtain ⟨hlt, hnext⟩ := h n hr hn e (List.mem_of_getElem? he)
    obtain ⟨hle, hk⟩ := ih (by omega) hnext hrest
    rw [List.length_cons]
    omega

lemma acyclic_of_lt (h : ∀ q, root ≤ q → q < next → ∀ e ∈ g.entriesOf q, q < e ∧ e < next) (hr : root < next) :
    g.Acyclic root := by
  intro path k hk way hway
  obtain ⟨hle, hlt⟩ := follow_le h (Nat.le_refl _) hr hk
  have hback := (follow_le h (by omega) hlt hway).1
  exact List.length_eq_zero_iff.mp (by omega)

theorem acyclic_plant (g : MenuGraph) (m : Menu) : (g.plant none m).2.Acyclic (g.plant none m).1 := by
  have hsize := (plant_entries g m).1
  refine acyclic_of_lt (fun q hr hn e he => ?_) (show _ < (g.plant none m).2.nodes.size by omega)
  obtain ⟨hlt, hnext, -⟩ := (plant_rooted g m).parent q hr hn e he
  exact ⟨hlt, hnext⟩

end Ordered

end PageStencil.MenuGraph
