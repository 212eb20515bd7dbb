import PageStencil.Outline.Growth
import PageStencil.Proofs.Menu.Entries
import PageStencil.Proofs.Outline.Nesting

/-!
A menu that grows in a graph while its outline is read. The stack leads, level by level, to the nodes that hold the
entries of these levels, and every node hangs below the nearest one before it that is less deep.
-/

namespace PageStencil.Outline

open Entry MenuGraph

/-- The node, counted from the root, that holds what comes at depth `t` behind entries of some depths, the latest
first. -/
def holder (t : Nat) : List Nat → Nat
  | [] => 0
  | x :: xs => if x < t then xs.length + 1 else holder t xs

section Holder

variable {t x : Nat} {xs : List Nat}

lemma holder_cons_of_lt (h : x < t) : holder t (x :: xs) = xs.length + 1 := if_pos h

lemma holder_cons_of_le (h : t ≤ x) : holder t (x :: xs) = holder t xs := if_neg (Nat.not_lt.mpr h)

lemma holder_spec (t : Nat) (xs : List Nat) : (holder t xs = 0 ∧ ∀ x ∈ xs, t ≤ x) ∨ ∃ later x before,
    xs = later ++ x :: before ∧ x < t ∧ (∀ y ∈ later, t ≤ y) ∧ holder t xs = before.length + 1 := by
  induction xs with
  | nil => exact .inl ⟨rfl, fun _ hx => absurd hx List.not_mem_nil⟩
  | cons x xs ih =>
    by_cases hx : x < t
    · exact .inr ⟨[], x, xs, rfl, hx, fun _ hy => absurd hy List.not_mem_nil, holder_cons_of_lt hx⟩
    · have hx := Nat.not_lt.mp hx
      rw [holder_cons_of_le hx]
      rcases ih with ⟨hzero, hle⟩ | ⟨later, y, before, rfl, hy, hlater, hholder⟩
      · exact .inl ⟨hzero, List.forall_mem_cons.mpr ⟨hx, hle⟩⟩
      · exact .inr ⟨x :: later, y, before, rfl, hy, List.forall_mem_cons.mpr ⟨hx, hlater⟩, hholder⟩

lemma holder_le (t : Nat) (xs : List Nat) : holder t xs ≤ xs.length := by
  rcases holder_spec t xs with ⟨h, _⟩ | ⟨later, x, before, rfl, _, _, h⟩
  · omega
  · rw [h, List.length_append, List.length_cons]
    omega

end Holder

/-- Behind a graph stand nodes for entries of some depths, the latest first. Each names its holder, and each list has
the nodes that name its own, in their order. -/
structure Placed (base : MenuGraph) (xs : List Nat) (g : MenuGraph) : Prop where
  grown : base.Extends g
  size : g.nodes.size = base.nodes.size + 1 + xs.length
  top : g.parentOf base.nodes.size = none
  parent : ∀ later x before, xs = later ++ x :: before →
    g.parentOf (base.nodes.size + 1 + before.length) = some (base.nodes.size + holder x before)
  entries : ∀ q, base.nodes.size ≤ q → q < g.nodes.size →
    g.entriesOf q = (List.range' (base.nodes.size + 1) xs.length).filter fun k => g.parentOf k == some q

structure Labelled (base : MenuGraph) (title : Option Link) (es : List Entry) (g : MenuGraph) : Prop where
  top : g.Looks base.nodes.size title none true
  item : ∀ later e before, es = later ++ e :: before →
    g.Looks (base.nodes.size + 1 + before.length) (some e.label) none e.opened

section Placing

variable {base g : MenuGraph} {xs : List Nat} {n : MenuId} {t : Nat} {label : LinkId}

lemma Placed.setNode (h : Placed base xs g) (hn : base.nodes.size ≤ n) {change : MenuNode → MenuNode}
    (hparent : ∀ m, (change m).parent = m.parent) (hentries : ∀ m, (change m).entries.getD [] = m.entries.getD []) :
    Placed base xs (g.setNode n change) where
  grown := h.grown.setNode hn change
  size := (size_setNode _ _ _).trans h.size
  top := (parentOf_setNode hparent).trans h.top
  parent later x before hxs := (parentOf_setNode hparent).trans (h.parent later x before hxs)
  entries q hq hlt := by
    rw [entriesOf_setNode hentries, h.entries q hq (size_setNode _ _ _ ▸ hlt)]
    exact List.filter_congr fun k _ => by rw [parentOf_setNode hparent]

lemma Placed.addLink (h : Placed base xs g) (l : Link) : Placed base xs (g.addLink l).2 :=
  ⟨h.grown.trans (addLink_extends l), h.size, h.top, h.parent, h.entries⟩

lemma exists_split {α : Type} {xs : List α} {root k : Nat} (hk : k ∈ List.range' (root + 1) xs.length) :
    ∃ later x before, xs = later ++ x :: before ∧ root + 1 + before.length = k := by
  obtain ⟨hle, hlt⟩ := List.mem_range'_1.mp hk
  -- the position of `k` from the back of the list
  have hback : xs.length - 1 - (k - (root + 1)) < xs.length := by omega
  have hsplit := List.take_append_drop (xs.length - 1 - (k - (root + 1))) xs
  rw [List.drop_eq_getElem_cons hback] at hsplit
  refine ⟨_, _, _, hsplit.symm, ?_⟩
  rw [List.length_drop]
  omega

lemma Placed.parent_lt (h : Placed base xs g) {k : MenuId}
    (hk : k ∈ List.range' (base.nodes.size + 1) xs.length) : ∃ p, g.parentOf k = some p ∧ p < k := by
  obtain ⟨later, x, before, hxs, rfl⟩ := exists_split hk
  have hholder := holder_le x before
  exact ⟨_, h.parent later x before hxs, by omega⟩

lemma Placed.entriesOf_eq (h : Placed base xs g) {q : Nat} (hq : base.nodes.size ≤ q) :
    g.entriesOf q = (List.range' (base.nodes.size + 1) xs.length).filter fun k => g.parentOf k == some q := by
  by_cases hqs : q < g.nodes.size
  · exact h.entries q hq hqs
  · have hlast : g.node? q = none := Array.getElem?_eq_none (Nat.not_lt.mp hqs)
    rw [entriesOf, hlast]
    refine (List.filter_eq_nil_iff.mpr fun k hk hkq => ?_).symm
    obtain ⟨p, hp, hlt⟩ := h.parent_lt hk
    have hk := h.size ▸ (List.mem_range'_1.mp hk).2
    rw [hp, beq_iff_eq, Option.some.injEq] at hkq
    omega

lemma Placed.addEntry (h : Placed base xs g) (t : Nat) (label : LinkId) :
    Placed base (t :: xs) (g.addEntry (base.nodes.size + holder t xs) label).2 := by
  have hholder := holder_le t xs
  have hsize := h.size
  have hlt : base.nodes.size + holder t xs < g.nodes.size := by omega
  refine ⟨extends_addEntry h.grown hlt (Nat.le_add_right _ _), ?_, ?_, fun later x before hxs => ?_, fun q hq hqlt => ?_⟩
  · rw [size_addEntry, h.size, List.length_cons]
    omega
  · have hne : base.nodes.size ≠ g.nodes.size := by omega
    rw [parentOf_addEntry hlt, if_neg hne, h.top]
  · rw [parentOf_addEntry hlt]
    cases later with
    | nil =>
      obtain ⟨rfl, rfl⟩ := List.cons.inj hxs
      rw [if_pos h.size.symm]
    | cons y later =>
      have htail : xs = later ++ x :: before := (List.cons.inj hxs).2
      have hne : base.nodes.size + 1 + before.length ≠ g.nodes.size := by
        rw [h.size, htail, List.length_append, List.length_cons]
        omega
      rw [if_neg hne, h.parent later x before htail]
  · have hold : ((List.range' (base.nodes.size + 1) xs.length).filter fun k =>
        (g.addEntry (base.nodes.size + holder t xs) label).2.parentOf k == some q) =
          (List.range' (base.nodes.size + 1) xs.length).filter fun k => g.parentOf k == some q := by
      refine List.filter_congr fun k hk => ?_
      have hne : k ≠ g.nodes.size := Nat.ne_of_lt (h.size ▸ (List.mem_range'_1.mp hk).2)
      rw [parentOf_addEntry hlt, if_neg hne]
    have hnew : (if q = base.nodes.size + holder t xs then [g.nodes.size] else []) =
        [g.nodes.size].filter fun k => (g.addEntry (base.nodes.size + holder t xs) label).2.parentOf k == some q := by
      rw [List.filter_singleton, parentOf_addEntry hlt, if_pos rfl]
      by_cases hq : q = base.nodes.size + holder t xs
      · rw [if_pos hq, hq, beq_self_eq_true]
        rfl
      · rw [if_neg hq, beq_eq_false_iff_ne.mpr fun h => hq (Option.some.inj h).symm]
        rfl
    rw [entriesOf_addEntry hlt, List.length_cons, List.range'_concat, List.filter_append, hold, Nat.one_mul, ← h.size,
      hnew]
    exact congrArg (· ++ _) (h.entriesOf_eq hq)

end Placing

section Labelling

variable {base g : MenuGraph} {title : Option Link} {e : Entry} {es : List Entry}

lemma Labelled.mono {g' : MenuGraph} (h : Labelled base title es g) (hg : g.Extends g') : Labelled base title es g' where
  top := h.top.mono hg
  item later e before hes := (h.item later e before hes).mono hg

lemma ne_of_before {later before : List Entry} (hes : es = later ++ e :: before) :
    base.nodes.size + 1 + es.length ≠ base.nodes.size + 1 + before.length := by
  rw [hes, List.length_append, List.length_cons]
  omega

lemma Labelled.makeGroup (h : Labelled base title (e :: es) g) :
    Labelled base title ({ e with opened := true } :: es) (g.makeGroup (base.nodes.size + 1 + es.length)) where
  top := h.top.setNode_of_ne (Nat.ne_of_gt (by omega)) _
  item later d before hes := by
    cases later with
    | nil =>
      obtain ⟨rfl, rfl⟩ := List.cons.inj hes
      exact (h.item [] e es rfl).setNode (fun m hw => ⟨hw.label, hw.cssClass⟩) fun m _ => rfl
    | cons d' later =>
      have htail : es = later ++ d :: before := (List.cons.inj hes).2
      refine (h.item (e :: later) d before ?_).setNode_of_ne (ne_of_before htail) _
      rw [htail, List.cons_append]

lemma Labelled.setTitle (h : Labelled base title es g) {id : LinkId} {l : Link} (hl : g.link? id = some l) :
    Labelled base (some l) es (g.setNode base.nodes.size fun m => { m with label := some id }) where
  top := h.top.setNode (fun m hw => ⟨congrArg some hl, hw.cssClass⟩) fun m ho => ho
  item later e before hes := (h.item later e before hes).setNode_of_ne (Nat.ne_of_lt (by omega)) _

lemma Labelled.addEntry (h : Labelled base title es g) (hsize : g.nodes.size = base.nodes.size + 1 + es.length)
    {label : LinkId} {l : Link} (hl : g.link? label = some l) {t : Nat}
    (hopened : ∀ later e before, es = later ++ e :: before → holder t (es.map Entry.depth) = before.length + 1 →
      e.opened = true) :
    Labelled base title (⟨t, l, false⟩ :: es)
      (g.addEntry (base.nodes.size + holder t (es.map Entry.depth)) label).2 := by
  have hholder := holder_le t (es.map Entry.depth)
  rw [List.length_map] at hholder
  have hlt : base.nodes.size + holder t (es.map Entry.depth) < g.nodes.size := by omega
  refine ⟨h.top.addEntry hlt fun _ => rfl, fun later e before hes => ?_⟩
  cases later with
  | nil =>
    obtain ⟨rfl, rfl⟩ := List.cons.inj hes
    refine ⟨{ label := some label, parent := some (base.nodes.size + holder t (es.map Entry.depth)) }, ?_,
      ⟨congrArg some hl, rfl⟩, rfl⟩
    rw [node?_addEntry hlt, if_pos hsize.symm]
  | cons d later =>
    have htail : es = later ++ e :: before := (List.cons.inj hes).2
    refine (h.item later e before htail).addEntry hlt fun heq => hopened later e before htail ?_
    change base.nodes.size + 1 + before.length = base.nodes.size + holder t (es.map Entry.depth) at heq
    omega

end Labelling

def path (root : MenuId) (xs : List Nat) (depth : Nat) : List MenuId :=
  (List.range (depth + 1)).map fun t => root + holder t xs

structure Grown (base : MenuGraph) (d : Draft) (b : Growth) : Prop where
  root : b.root = base.nodes.size
  current : b.current = d.margin.current
  unit : b.unit = d.margin.unit
  stack : b.stack = path base.nodes.size (d.entries.map Entry.depth) d.margin.depth
  latest : b.latest = d.margin.latest.map fun t =>
    ⟨base.nodes.size + d.entries.length, path base.nodes.size (d.entries.map Entry.depth) t⟩
  placed : Placed base (d.entries.map Entry.depth) b.graph
  labelled : Labelled base d.title d.entries b.graph

section Stack

variable {root : MenuId} {xs : List Nat} {depth t : Nat}

lemma length_path : (path root xs depth).length = depth + 1 := by rw [path, List.length_map, List.length_range]

lemma path_succ : path root xs (depth + 1) = path root xs depth ++ [root + holder (depth + 1) xs] := by
  rw [path, List.range_succ, List.map_append]
  rfl

lemma getLastD_path (n : MenuId) : (path root xs depth).getLastD n = root + holder depth xs := by
  rw [path, List.range_succ, List.map_append, List.map_singleton, List.getLastD_concat]

lemma take_path {k : Nat} (hk : k ≤ depth) :
    (path root xs depth).take ((path root xs depth).length - k) = path root xs (depth - k) := by
  rw [length_path, path, ← List.map_take, List.take_range, path]
  congr 2
  omega

lemma path_cons (h : depth ≤ t) : path root (t :: xs) depth = path root xs depth := by
  refine List.map_congr_left fun k hk => ?_
  rw [holder_cons_of_le (by have := List.mem_range.mp hk; omega)]

end Stack

section Steps

variable {base : MenuGraph} {strict : Bool} {d : Draft} {b : Growth} {m : Margin} {opens : Bool}

lemma grown_start (base : MenuGraph) : Grown base {} (.start base) where
  root := rfl
  current := rfl
  unit := rfl
  stack := rfl
  latest := rfl
  placed := by
    have hnode : (base.addNode { entries := some [] }).2.node? base.nodes.size = some { entries := some [] } := by
      rw [node?_addNode, if_pos rfl]
    refine ⟨addNode_extends _, Array.size_push _, ?_, fun later x before h => ?_, fun q hq hlt => ?_⟩
    · exact congrArg (fun m => m.bind MenuNode.parent) hnode
    · cases later <;> cases h
    · obtain rfl : q = base.nodes.size := by
        have hsize : (base.addNode { entries := some [] }).2.nodes.size = base.nodes.size + 1 := Array.size_push _
        exact Nat.le_antisymm (Nat.le_of_lt_succ (Nat.lt_of_lt_of_eq hlt hsize)) hq
      exact congrArg (fun m => (m.bind MenuNode.entries).getD []) hnode
  labelled := by
    refine ⟨⟨{ entries := some [] }, ?_, ⟨rfl, rfl⟩, rfl⟩, fun later e before h => ?_⟩
    · exact (node?_addNode _ _ _).trans (if_pos rfl)
    · cases later <;> cases h

lemma Sound.move (h : Sound d) {indentation : Nat} (hm : Moves strict indentation d.margin m opens) :
    Sound ⟨d.title, openedIf opens d.entries, m⟩ := by
  obtain ⟨hnext, hlatest⟩ := h.next_move hm
  refine ⟨isChain_openedIf h.opened, hnext, ?_⟩
  rw [hlatest, h.latest, head?_openedIf, Option.map_map]
  rfl

lemma Sound.opened_of_holder (h : Sound d) {later before : List Entry} {e : Entry}
    (hes : d.entries = later ++ e :: before)
    (hholder : holder d.margin.depth (d.entries.map Entry.depth) = before.length + 1) : e.opened = true := by
  rcases holder_spec d.margin.depth (d.entries.map Entry.depth) with ⟨hzero, _⟩ | ⟨ys, x, zs, hsplit, hlt, hle, hh⟩
  · omega
  · have hdepths := hsplit
    rw [hes, List.map_append, List.map_cons] at hdepths
    obtain ⟨rfl, htail⟩ := List.append_inj' hdepths (by simp only [List.length_cons, List.length_map]; omega)
    obtain ⟨rfl, -⟩ := List.cons.inj htail
    rcases List.eq_nil_or_concat later with rfl | ⟨init, y, rfl⟩
    · exact h.next e (by rw [hes]; rfl) hlt
    · have hchain := h.opened
      rw [hes, List.concat_eq_append, List.append_assoc] at hchain
      refine (List.isChain_cons_cons.mp hchain.right_of_append).1 (Nat.lt_of_lt_of_le hlt (hle y.depth ?_))
      exact List.mem_map_of_mem (by simp)

lemma Grown.deeper (h : Grown base d b) (hd : Sound d) {latest : Nat} (hlatest : d.margin.latest = some latest)
    (current unit : Option Nat) : ∃ node, b.latest = some node ∧
      Grown base ⟨d.title, openedIf true d.entries, ⟨latest + 1, current, unit, some latest⟩⟩
        { b with graph := b.graph.makeGroup node.node, stack := node.path ++ [node.node], current, unit } := by
  obtain ⟨title, entries, margin⟩ := d
  have hnode := h.latest
  rw [hlatest, Option.map_some] at hnode
  refine ⟨_, hnode, ?_⟩
  cases entries with
  | nil => cases hlatest.symm.trans hd.latest
  | cons e es =>
    obtain rfl : latest = e.depth := Option.some.inj (hlatest.symm.trans hd.latest)
    have hplace : base.nodes.size + (e :: es).length = base.nodes.size + 1 + es.length := by
      rw [List.length_cons]
      omega
    have hgroup : ({ e with opened := true } : Entry) :: es = openedIf true (e :: es) := by
      rw [openedIf, Bool.or_true]
    refine ⟨h.root, rfl, rfl, ?_, hnode, ?_, ?_⟩
    · change _ = path base.nodes.size (e.depth :: es.map Entry.depth) (e.depth + 1)
      rw [path_succ, holder_cons_of_lt (Nat.lt_succ_self _), List.length_map]
      rfl
    · exact h.placed.setNode (Nat.le_add_right _ _) (fun _ => rfl) fun _ => rfl
    · rw [hplace, ← hgroup]
      exact h.labelled.makeGroup

lemma Grown.shallower (h : Grown base d b) {levels : Nat} (hle : levels ≤ d.margin.depth) (current : Option Nat) :
    Grown base ⟨d.title, d.entries, ⟨d.margin.depth - levels, current, d.margin.unit, d.margin.latest⟩⟩
      ⟨b.graph, b.root, b.stack.take (b.stack.length - levels), b.latest, current, b.unit⟩ where
  root := h.root
  current := rfl
  unit := h.unit
  stack := by
    rw [h.stack]
    exact take_path hle
  latest := h.latest
  placed := h.placed
  labelled := h.labelled

theorem Grown.move (h : Grown base d b) (hd : Sound d) (strict : Bool) (indentation : Nat) :
    match d.margin.move strict indentation with
    | .error cause => b.move strict indentation = .error cause
    | .ok (m, opens) => ∃ b', b.move strict indentation = .ok b' ∧ Grown base ⟨d.title, openedIf opens d.entries, m⟩ b' := by
  rw [Margin.move, Growth.move, h.current]
  cases hcurrent : d.margin.current with
  | none =>
    refine ⟨_, rfl, ?_⟩
    rw [openedIf_false]
    exact ⟨h.root, rfl, h.unit, h.stack, h.latest, h.placed, h.labelled⟩
  | some current =>
    simp only
    by_cases hdeeper : current < indentation
    · simp only [if_pos hdeeper]
      cases hlatest : d.margin.latest with
      | none =>
        have hnone := h.latest
        rw [hlatest] at hnone
        rw [hnone]
        rfl
      | some latest =>
        obtain ⟨node, hnode, hgrown⟩ :=
          h.deeper hd hlatest (some indentation) (some (d.margin.unit.getD (indentation - current)))
        rw [hnode, h.unit]
        rw [hnode] at hgrown
        exact ⟨_, rfl, hgrown⟩
    · simp only [if_neg hdeeper]
      by_cases hshallower : indentation < current
      · simp only [if_pos hshallower]
        rw [h.unit]
        cases hunit : d.margin.unit with
        | none => rfl
        | some unit =>
          simp only
          by_cases huneven : strict = true ∧ (current - indentation) % unit ≠ 0
          · rw [if_pos huneven, if_pos huneven]
          · have hlength : b.stack.length = d.margin.depth + 1 := by rw [h.stack, length_path]
            rw [if_neg huneven, if_neg huneven]
            by_cases htop : d.margin.depth < (current - indentation) / unit
            · rw [if_pos htop, if_pos (by omega)]
            · have hgrown := h.shallower (Nat.not_lt.mp htop) (some indentation)
              rw [h.unit, hunit] at hgrown
              rw [if_neg htop, if_neg (by omega)]
              refine ⟨_, rfl, ?_⟩
              rw [openedIf_false]
              exact hgrown
      · simp only [if_neg hshallower]
        refine ⟨b, rfl, ?_⟩
        rw [openedIf_false]
        exact h

lemma Grown.setTitle (h : Grown base d b) (l : Link) : Grown base { d with title := some l }
    { b with graph := (b.graph.addLink l).2.setNode b.root fun m => { m with label := some (b.graph.addLink l).1 } } where
  root := h.root
  current := h.current
  unit := h.unit
  stack := h.stack
  latest := h.latest
  placed := (h.placed.addLink l).setNode (Nat.le_of_eq h.root.symm) (fun _ => rfl) fun _ => rfl
  labelled := by
    rw [h.root]
    exact (h.labelled.mono (addLink_extends l)).setTitle (link?_addLink _ _)

lemma Grown.addItem (h : Grown base d b) (hd : Sound d) (l : Link) : Grown base (d.addItem l)
    { b with
      graph := ((b.graph.addLink l).2.addEntry (b.stack.getLastD b.root) (b.graph.addLink l).1).2
      latest := some ⟨((b.graph.addLink l).2.addEntry (b.stack.getLastD b.root) (b.graph.addLink l).1).1, b.stack⟩ } := by
  have hplaced := h.placed.addLink l
  have hsize : (b.graph.addLink l).2.nodes.size = base.nodes.size + 1 + d.entries.length := by
    rw [hplaced.size, List.length_map]
  have hstack : b.stack = path base.nodes.size (d.margin.depth :: d.entries.map Entry.depth) d.margin.depth :=
    h.stack.trans (path_cons (Nat.le_refl _)).symm
  have hparent : b.stack.getLastD b.root = base.nodes.size + holder d.margin.depth (d.entries.map Entry.depth) := by
    rw [h.stack, getLastD_path]
  rw [hparent]
  refine ⟨h.root, h.current, h.unit, hstack, ?_, hplaced.addEntry _ _, ?_⟩
  · refine congrArg some (congrArg₂ Latest.mk ?_ hstack)
    change (b.graph.addLink l).2.nodes.size = base.nodes.size + (d.entries.length + 1)
    omega
  · exact (h.labelled.mono (addLink_extends l)).addEntry hsize (link?_addLink _ _) fun _ _ _ => hd.opened_of_holder

theorem Grown.put (h : Grown base d b) (hd : Sound d) (l : Lexeme) :
    Grown base (match l.marker with | .title => { d with title := some l.link } | .item => d.addItem l.link) (b.put l) := by
  rw [Growth.put]
  cases l.marker with
  | title => exact h.setTitle l.link
  | item => exact h.addItem hd l.link

end Steps

section Lines

variable {base : MenuGraph} {d : Draft} {b : Growth}

lemma put_eq (d : Draft) (l : Lexeme) (m : Margin) (opens : Bool) : d.put l m opens =
    match l.marker with
    | .title => { (⟨d.title, openedIf opens d.entries, m⟩ : Draft) with title := some l.link }
    | .item => (⟨d.title, openedIf opens d.entries, m⟩ : Draft).addItem l.link := by
  rw [Draft.put]
  cases l.marker <;> rfl

theorem Grown.addLine (h : Grown base d b) (hd : Sound d) (strict : Bool) (line : Nat × List Char) :
    match d.addLine strict line with
    | .error f => b.addLine strict line = .error f
    | .ok d' => Sound d' ∧ ∃ b', b.addLine strict line = .ok b' ∧ Grown base d' b' := by
  cases hl : Lexeme.ofLine (some line.1) line.2 with
  | error f =>
    rw [Draft.addLine, Growth.addLine, hl]
    rfl
  | ok l =>
    have hmove := h.move hd strict l.indentation
    rw [addLine_eq hl, place_eq, Growth.addLine, hl]
    cases hm : d.margin.move strict l.indentation with
    | error cause =>
      rw [hm] at hmove
      simp only [bind, Except.bind, hmove]
      rfl
    | ok moved =>
      obtain ⟨m, opens⟩ := moved
      rw [hm] at hmove
      obtain ⟨b', hb', hgrown⟩ := hmove
      have hmoves := moves_of_move hm
      refine ⟨hd.put hmoves, b'.put l, ?_, ?_⟩
      · simp only [bind, Except.bind, hb']
        rfl
      · change Grown base (d.put l m opens) _
        rw [put_eq]
        exact hgrown.put (hd.move hmoves) l

theorem Grown.addLines (h : Grown base d b) (hd : Sound d) (strict : Bool) (lines : List (Nat × List Char)) :
    match lines.foldlM (Draft.addLine strict) d with
    | .error f => lines.foldlM (Growth.addLine strict) b = .error f
    | .ok d' => Sound d' ∧ ∃ b', lines.foldlM (Growth.addLine strict) b = .ok b' ∧ Grown base d' b' := by
  induction lines generalizing d b with
  | nil => exact ⟨hd, b, rfl, h⟩
  | cons line lines ih =>
    have hline := h.addLine hd strict line
    rw [List.foldlM_cons, List.foldlM_cons]
    cases ha : d.addLine strict line with
    | error f =>
      rw [ha] at hline
      rw [hline]
      rfl
    | ok d' =>
      rw [ha] at hline
      obtain ⟨hd', b', hb', h'⟩ := hline
      rw [hb']
      exact ih h' hd'

end Lines

end PageStencil.Outline
