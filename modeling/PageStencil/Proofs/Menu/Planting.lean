import Mathlib.Tactic.Lemma
import PageStencil.Menu.Graph

/-!
Menus planted in a graph. The graph only grows, and the new nodes are numbered one after another in the order in
which the menu shows its entries.
-/

namespace PageStencil.MenuGraph

structure Wears (g : MenuGraph) (m : MenuNode) (label : Option Link) (cssClass : Option String) : Prop where
  label : m.label.map g.link? = label.map some
  cssClass : m.cssClass = cssClass

/-- From `n` on, the nodes of `g` hold the menus, which stand in the list `ids` of their parent; `next` is behind
the last of these nodes. -/
inductive Holds (g : MenuGraph) : Option Nat → Nat → List Menu → List Nat → Nat → Prop
  | nil {parent n} : Holds g parent n [] [] n
  | item {parent} {n next : Nat} {m l c ms ids} : g.node? n = some m → g.Wears m l c → m.parent = parent →
      m.entries = none → Holds g parent (n + 1) ms ids next → Holds g parent n (.item l c :: ms) (n :: ids) next
  | group {parent} {n mid next : Nat} {m l c es kids ms ids} : g.node? n = some m → g.Wears m l c →
      m.parent = parent → m.entries = some kids → Holds g (some n) (n + 1) es kids mid →
      Holds g parent mid ms ids next → Holds g parent n (.group l c es :: ms) (n :: ids) next

structure Extends (g g' : MenuGraph) : Prop where
  node : ∀ {n m}, g.node? n = some m → g'.node? n = some m
  link : ∀ {n l}, g.link? n = some l → g'.link? n = some l

section Growing

variable {g g' : MenuGraph}

lemma Extends.refl (g : MenuGraph) : Extends g g := ⟨id, id⟩

lemma Extends.trans {g'' : MenuGraph} (h : Extends g g') (h' : Extends g' g'') : Extends g g'' where
  node hn := h'.node (h.node hn)
  link hl := h'.link (h.link hl)

lemma node?_lt {n : Nat} {m : MenuNode} (h : g.node? n = some m) : n < g.nodes.size :=
  (Array.getElem?_eq_some_iff.mp h).1

lemma Extends.size_le (h : Extends g g') : g.nodes.size ≤ g'.nodes.size := by
  refine Nat.le_of_not_lt fun hlt => ?_
  have hlast : g.node? g'.nodes.size = some g.nodes[g'.nodes.size] := Array.getElem?_eq_getElem hlt
  exact Nat.lt_irrefl _ (node?_lt (h.node hlast))

lemma addNode_extends (m : MenuNode) : Extends g (g.addNode m).2 where
  node h := by
    have hn := node?_lt h
    simpa [node?, addNode, Array.getElem?_push, Nat.ne_of_lt hn] using h
  link h := h

lemma addLink_extends (l : Link) : Extends g (g.addLink l).2 where
  node h := h
  link {n l'} h := by
    have hn : n < g.links.size := (Array.getElem?_eq_some_iff.mp h).1
    simpa [link?, addLink, Array.getElem?_push, Nat.ne_of_lt hn] using h

lemma setEntries_node {n : Nat} {m : MenuNode} (h : g.node? n = some m) (entries : Option (List Nat)) :
    (g.setEntries n entries).node? n = some { m with entries } := by
  have hn : g.nodes[n]? = some m := h
  simp [node?, setEntries, setNode, Array.getElem?_modify, hn]

lemma setEntries_node_ne {k n : Nat} (h : n ≠ k) (entries : Option (List Nat)) :
    (g.setEntries n entries).node? k = g.node? k := by
  simp [node?, setEntries, setNode, Array.getElem?_modify, h]

lemma addLabelled_spec (g : MenuGraph) (parent : Option Nat) (label : Option Link) (cssClass : Option String) :
    ∃ m g', g.addLabelled parent label cssClass = (g.nodes.size, g') ∧ Extends g g' ∧
      g'.nodes.size = g.nodes.size + 1 ∧ g'.node? g.nodes.size = some m ∧ g'.Wears m label cssClass ∧
      m.parent = parent ∧ m.entries = none := by
  cases label with
  | none =>
    refine ⟨{ cssClass, parent }, _, rfl, addNode_extends _, ?_, ?_, ⟨rfl, rfl⟩, rfl, rfl⟩
    · simp
    · simp [node?]
  | some l =>
    have he := (addLink_extends (g := g) l).trans (addNode_extends { label := some g.links.size, cssClass, parent })
    refine ⟨{ label := some g.links.size, cssClass, parent }, _, rfl, he, ?_, ?_, ⟨?_, rfl⟩, rfl, rfl⟩
    · simp
    · simp [node?]
    · simp [link?]

lemma Wears.mono {m : MenuNode} {l : Option Link} {c : Option String} (h : g.Wears m l c) (he : Extends g g') :
    g'.Wears m l c where
  label := by
    have hl := h.label
    cases hm : m.label with
    | none => simpa [hm] using hl
    | some id =>
      cases l with
      | none => simp [hm] at hl
      | some l => simpa [hm] using he.link (by simpa [hm] using hl)
  cssClass := h.cssClass

lemma Holds.le {parent : Option Nat} {n next : Nat} {ms : List Menu} {ids : List Nat}
    (h : Holds g parent n ms ids next) : n ≤ next := by
  induction h with
  | nil => exact Nat.le_refl _
  | item _ _ _ _ _ ih => omega
  | group _ _ _ _ _ _ ihe ihm => omega

lemma Holds.mono {parent : Option Nat} {n next : Nat} {ms : List Menu} {ids : List Nat}
    (h : Holds g parent n ms ids next) (hn : ∀ k m, n ≤ k → g.node? k = some m → g'.node? k = some m)
    (hw : ∀ m l c, g.Wears m l c → g'.Wears m l c) : Holds g' parent n ms ids next := by
  induction h with
  | nil => exact .nil
  | item hm hl hp he _ ih =>
    exact .item (hn _ _ (Nat.le_refl _) hm) (hw _ _ _ hl) hp he (ih fun k m hk => hn k m (by omega))
  | group hm hl hp he hes _ ihe ihm =>
    have hle := hes.le
    exact .group (hn _ _ (Nat.le_refl _) hm) (hw _ _ _ hl) hp he (ihe fun k m hk => hn k m (by omega))
      (ihm fun k m hk => hn k m (by omega))

lemma Holds.extend {parent : Option Nat} {n next : Nat} {ms : List Menu} {ids : List Nat}
    (h : Holds g parent n ms ids next) (he : Extends g g') : Holds g' parent n ms ids next :=
  h.mono (fun _ _ _ hm => he.node hm) fun _ _ _ hw => hw.mono he

lemma Holds.cons {parent : Option Nat} {n k mid next : Nat} {m : Menu} {ms : List Menu} {ids : List Nat}
    (h : Holds g parent n [m] [k] mid) (hm : Holds g parent mid ms ids next) :
    Holds g parent n (m :: ms) (k :: ids) next := by
  cases h with
  | item hn hw hp he hr =>
    cases hr
    exact .item hn hw hp he hm
  | group hn hw hp he hes hr =>
    cases hr
    exact .group hn hw hp he hes hm

lemma wears_setEntries {n : Nat} {entries : Option (List Nat)} {m : MenuNode} {l : Option Link}
    {c : Option String} (h : g.Wears m l c) :
    (g.setEntries n entries).Wears m l c ∧ (g.setEntries n entries).Wears { m with entries } l c :=
  ⟨⟨h.label, h.cssClass⟩, ⟨h.label, h.cssClass⟩⟩

end Growing

structure Planted (g : MenuGraph) (parent : Option Nat) (ms : List Menu) (ids : List Nat) (g' : MenuGraph) :
    Prop where
  grown : Extends g g'
  holds : Holds g' parent g.nodes.size ms ids g'.nodes.size

lemma plant_group {g g₁ g₂ : MenuGraph} {parent : Option Nat} {m : MenuNode} {l : Option Link} {c : Option String}
    {es : List Menu} {kids : List Nat} (hg : Extends g g₁) (hs : g₁.nodes.size = g.nodes.size + 1)
    (hm : g₁.node? g.nodes.size = some m) (hw : g₁.Wears m l c) (hp : m.parent = parent)
    (h : Planted g₁ (some g.nodes.size) es kids g₂) :
    Planted g parent [.group l c es] [g.nodes.size] (g₂.setEntries g.nodes.size (some kids)) := by
  have hn := setEntries_node (h.grown.node hm) (some kids)
  have hsize : (g₂.setEntries g.nodes.size (some kids)).nodes.size = g₂.nodes.size := by simp [setEntries, setNode]
  have hes : Holds (g₂.setEntries g.nodes.size (some kids)) (some g.nodes.size) (g.nodes.size + 1) es kids
      g₂.nodes.size := by
    rw [← hs]
    apply h.holds.mono
    · intro k x hk hx
      rwa [setEntries_node_ne (by omega)]
    · intro x l' c' hx
      exact (wears_setEntries hx).1
  refine ⟨⟨?_, ?_⟩, ?_⟩
  · intro k x hx
    have hk := node?_lt hx
    rw [setEntries_node_ne (by omega)]
    exact (hg.trans h.grown).node hx
  · intro k x hx
    exact (hg.trans h.grown).link hx
  · rw [hsize]
    exact .group hn (wears_setEntries (hw.mono h.grown)).2 hp rfl hes .nil

mutual

theorem plant_spec (g : MenuGraph) (parent : Option Nat) :
    (m : Menu) → Planted g parent [m] [(g.plant parent m).1] (g.plant parent m).2
  | .item l c => by
    obtain ⟨m, g', ha, hg, hs, hm, hw, hp, he⟩ := g.addLabelled_spec parent l c
    rw [plant, ha]
    exact ⟨hg, .item hm hw hp he (hs ▸ .nil)⟩
  | .group l c es => by
    obtain ⟨m, g₁, ha, hg, hs, hm, hw, hp, _⟩ := g.addLabelled_spec parent l c
    have h := plantAll_spec g₁ g.nodes.size es
    rw [plant, ha]
    exact plant_group hg hs hm hw hp h

theorem plantAll_spec (g : MenuGraph) (parent : Nat) :
    (ms : List Menu) → Planted g (some parent) ms (g.plantAll parent ms).1 (g.plantAll parent ms).2
  | [] => ⟨.refl g, .nil⟩
  | m :: ms => by
    have h := plant_spec g (some parent) m
    have hms := plantAll_spec (g.plant (some parent) m).2 parent ms
    exact ⟨h.grown.trans hms.grown, (h.holds.extend hms.grown).cons hms.holds⟩

end

end PageStencil.MenuGraph
