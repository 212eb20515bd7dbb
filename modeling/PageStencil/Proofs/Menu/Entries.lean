import PageStencil.Proofs.Menu.Family

namespace PageStencil.MenuGraph

section Nodes

variable {g : MenuGraph} {k n : MenuId} {l : Option Link} {c : Option String} {opened : Bool}

lemma node?_setNode (g : MenuGraph) (n k : MenuId) (change : MenuNode → MenuNode) :
    (g.setNode n change).node? k = if n = k then (g.node? k).map change else g.node? k := by
  rw [node?, setNode, Array.getElem?_modify]
  rfl

lemma node?_addNode (g : MenuGraph) (m : MenuNode) (k : MenuId) :
    (g.addNode m).2.node? k = if k = g.nodes.size then some m else g.node? k := by
  rw [node?, addNode, Array.getElem?_push]
  rfl

lemma Looks.mono {g' : MenuGraph} (h : g.Looks n l c opened) (hg : Extends g g') : g'.Looks n l c opened := by
  obtain ⟨m, hm, hw, ho⟩ := h
  exact ⟨m, hg.node hm, hw.mono hg, ho⟩

lemma parentOf_setNode {change : MenuNode → MenuNode} (hc : ∀ m, (change m).parent = m.parent) :
    (g.setNode n change).parentOf k = g.parentOf k := by
  rw [parentOf, parentOf, node?_setNode]
  split
  · cases g.node? k with
    | none => rfl
    | some m => exact hc m
  · rfl

lemma entriesOf_setNode {change : MenuNode → MenuNode} (hc : ∀ m, (change m).entries.getD [] = m.entries.getD []) :
    (g.setNode n change).entriesOf k = g.entriesOf k := by
  rw [entriesOf, entriesOf, node?_setNode]
  split
  · cases g.node? k with
    | none => rfl
    | some m => exact hc m
  · rfl

lemma Looks.setNode_of_ne (h : g.Looks k l c opened) (hne : n ≠ k) (change : MenuNode → MenuNode) :
    (g.setNode n change).Looks k l c opened := by
  obtain ⟨m, hm, hw, ho⟩ := h
  exact ⟨m, by rw [node?_setNode, if_neg hne, hm], ⟨hw.label, hw.cssClass⟩, ho⟩

lemma Looks.setNode {change : MenuNode → MenuNode} {l' : Option Link} {opened' : Bool} (h : g.Looks n l c opened)
    (hw : ∀ m, g.Wears m l c → g.Wears (change m) l' c)
    (ho : ∀ m : MenuNode, m.entries.isSome = opened → (change m).entries.isSome = opened') :
    (g.setNode n change).Looks n l' c opened' := by
  obtain ⟨m, hm, hm', ho'⟩ := h
  exact ⟨change m, by rw [node?_setNode, if_pos rfl, hm]; rfl, ⟨(hw m hm').label, (hw m hm').cssClass⟩, ho m ho'⟩

lemma Extends.setNode {base : MenuGraph} (h : Extends base g) (hn : base.nodes.size ≤ n)
    (change : MenuNode → MenuNode) : Extends base (g.setNode n change) where
  node {k m} hk := by
    have hlt := node?_lt hk
    rw [node?_setNode, if_neg (Nat.ne_of_gt (Nat.lt_of_lt_of_le hlt hn))]
    exact h.node hk
  link hl := h.link hl

lemma size_setNode (g : MenuGraph) (n : MenuId) (change : MenuNode → MenuNode) :
    (g.setNode n change).nodes.size = g.nodes.size := Array.size_modify

section Entry

variable {parent : MenuId} {label : LinkId}

lemma size_addEntry (g : MenuGraph) (parent : MenuId) (label : LinkId) :
    (g.addEntry parent label).2.nodes.size = g.nodes.size + 1 := by
  change (((g.addNode _).2.setNode _ _).setNode parent _).nodes.size = _
  rw [size_setNode, size_setNode]
  exact Array.size_push _

lemma node?_addEntry (hparent : parent < g.nodes.size) (k : MenuId) : (g.addEntry parent label).2.node? k =
    if k = g.nodes.size then some { label := some label, parent := some parent }
    else if k = parent then (g.node? k).map fun m => { m with entries := some (m.entries.getD [] ++ [g.nodes.size]) }
    else g.node? k := by
  change (((g.addNode { label := some label }).2.setNode g.nodes.size _).setNode parent _).node? k = _
  have hne : parent ≠ g.nodes.size := Nat.ne_of_lt hparent
  rw [node?_setNode, node?_setNode, node?_addNode]
  by_cases hk : k = g.nodes.size
  · subst hk
    simp only [if_true, if_neg hne]
    rfl
  · simp only [if_neg hk, if_neg (Ne.symm hk), eq_comm (a := parent)]

lemma parentOf_addEntry (hparent : parent < g.nodes.size) (k : MenuId) : (g.addEntry parent label).2.parentOf k =
    if k = g.nodes.size then some parent else g.parentOf k := by
  rw [parentOf, node?_addEntry hparent, parentOf]
  split
  · rfl
  · split
    · cases g.node? k <;> rfl
    · rfl

lemma entriesOf_addEntry (hparent : parent < g.nodes.size) (q : MenuId) : (g.addEntry parent label).2.entriesOf q =
    g.entriesOf q ++ if q = parent then [g.nodes.size] else [] := by
  have hlast : g.node? g.nodes.size = none := Array.getElem?_eq_none (Nat.le_refl _)
  have hnode : g.node? parent = some g.nodes[parent] := Array.getElem?_eq_getElem hparent
  have hne : g.nodes.size ≠ parent := Ne.symm (Nat.ne_of_lt hparent)
  rw [entriesOf, node?_addEntry hparent, entriesOf]
  by_cases hq : q = g.nodes.size
  · subst hq
    rw [if_pos rfl, if_neg hne, hlast]
    rfl
  · rw [if_neg hq]
    by_cases hp : q = parent
    · rw [if_pos hp, if_pos hp, hp, hnode]
      rfl
    · rw [if_neg hp, if_neg hp, List.append_nil]

lemma extends_addEntry {base : MenuGraph} (h : Extends base g) (hparent : parent < g.nodes.size)
    (hbase : base.nodes.size ≤ parent) : Extends base (g.addEntry parent label).2 where
  node {k m} hk := by
    have hlt := node?_lt hk
    have hle := h.size_le
    have hnew : k ≠ g.nodes.size := Nat.ne_of_lt (Nat.lt_of_lt_of_le hlt hle)
    have hne : k ≠ parent := Nat.ne_of_lt (Nat.lt_of_lt_of_le hlt hbase)
    rw [node?_addEntry hparent, if_neg hnew, if_neg hne]
    exact h.node hk
  link hl := h.link hl

lemma Looks.addEntry (h : g.Looks k l c opened)
    (hparent : parent < g.nodes.size) (hopened : k = parent → opened = true) :
    (g.addEntry parent label).2.Looks k l c opened := by
  obtain ⟨m, hm, hw, ho⟩ := h
  have hne : k ≠ g.nodes.size := Nat.ne_of_lt (node?_lt hm)
  by_cases hk : k = parent
  · refine ⟨{ m with entries := some (m.entries.getD [] ++ [g.nodes.size]) }, ?_, ⟨hw.label, hw.cssClass⟩,
      (hopened hk).symm⟩
    rw [node?_addEntry hparent, if_neg hne, if_pos hk, hm]
    rfl
  · refine ⟨m, ?_, ⟨hw.label, hw.cssClass⟩, ho⟩
    rw [node?_addEntry hparent, if_neg hne, if_neg hk, hm]

end Entry

lemma link?_addLink (g : MenuGraph) (l : Link) : (g.addLink l).2.link? (g.addLink l).1 = some l :=
  Array.getElem?_push_size

end Nodes

end PageStencil.MenuGraph
