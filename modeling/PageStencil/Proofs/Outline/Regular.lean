import PageStencil.Proofs.Outline.Rows

/-!
Outlines that grow by one unit at a time, and only below an item. There the margin's depth counts units: the
indentation of a line is that of the first line and one unit for each level, less what lenient mode has dropped by
rounding. Strict mode drops nothing and takes exactly the lines that stand whole units behind the first one.
-/

namespace PageStencil.Outline

open Entry

def firstIncrease : List Lexeme → Option Nat
  | a :: b :: ls =>
    if a.indentation < b.indentation then some (b.indentation - a.indentation) else firstIncrease (b :: ls)
  | _ => none

def Grows (unit : Nat) (a b : Lexeme) : Prop :=
  a.indentation < b.indentation → a.marker = .item ∧ b.indentation = a.indentation + unit

/-- Every increase is as large as the first one and stands below an item. -/
def Regular (ls : List Lexeme) : Prop := ∀ unit ∈ firstIncrease ls, ls.IsChain (Grows unit)

/-- Where each item counts as standing: what rounding has dropped so far is added to its indentation. -/
def settled (unit dropped before : Nat) : List Lexeme → List Nat
  | [] => []
  | l :: ls =>
    let dropped := dropped + (before - l.indentation) % unit
    if isItem l then (l.indentation + dropped) :: settled unit dropped l.indentation ls
    else settled unit dropped l.indentation ls

structure Level (base unit dropped : Nat) (prev : Lexeme) (m : Margin) : Prop where
  current : m.current = some prev.indentation
  depth : prev.indentation + dropped = base + unit * m.depth
  latest : prev.marker = .item → m.latest = some m.depth
  unit : m.unit = some unit ∨ m.unit = none ∧ m.depth = 0 ∧ dropped = 0

section Levels

variable {base unit dropped : Nat} {prev l : Lexeme} {m m' : Margin} {strict opens : Bool}

lemma shallower_depth {i before depth : Nat} (hi : i < before) (ht : (before - i) / unit ≤ depth)
    (hd : before + dropped = base + unit * depth) :
    i + (dropped + (before - i) % unit) = base + unit * (depth - (before - i) / unit) := by
  have hdiv := Nat.div_add_mod (before - i) unit
  have hle : unit * ((before - i) / unit) ≤ unit * depth := Nat.mul_le_mul_left unit ht
  rw [Nat.mul_sub]
  omega

lemma Level.move (h : Level base unit dropped prev m) (hg : Grows unit prev l)
    (hm : Moves strict l.indentation m m' opens) :
    m'.current = some l.indentation ∧
      l.indentation + (dropped + (prev.indentation - l.indentation) % unit) = base + unit * m'.depth ∧
      (m'.unit = some unit ∨
        m'.unit = none ∧ m'.depth = 0 ∧ dropped + (prev.indentation - l.indentation) % unit = 0) := by
  obtain ⟨hc, hd, hl, hu⟩ := h
  cases hm with
  | first => cases hc
  | @deeper depth current u latest hlt =>
    obtain rfl : current = prev.indentation := Option.some.inj hc
    obtain ⟨hi, hind⟩ := hg hlt
    -- the line before is the latest item, so one level below that item is one level below the margin
    obtain rfl : latest = depth := Option.some.inj (hl hi)
    have hd : prev.indentation + dropped = base + unit * latest := hd
    have hzero : (prev.indentation - l.indentation) % unit = 0 := by
      rw [Nat.sub_eq_zero_of_le (Nat.le_of_lt hlt), Nat.zero_mod]
    have hunit : u.getD (l.indentation - prev.indentation) = unit := by
      rcases hu with rfl | ⟨rfl, _⟩
      · rfl
      · rw [Option.getD_none]
        omega
    refine ⟨rfl, ?_, Or.inl (congrArg some hunit)⟩
    rw [hzero, Nat.mul_add]
    omega
  | @shallower depth current u latest hlt _ ht =>
    obtain rfl : current = prev.indentation := Option.some.inj hc
    rcases hu with hu | ⟨hu, _⟩
    · obtain rfl : u = unit := Option.some.inj hu
      exact ⟨rfl, shallower_depth hlt ht hd, Or.inl rfl⟩
    · cases hu
  | level =>
    have hi : l.indentation = prev.indentation := Option.some.inj hc
    rw [← hi, Nat.sub_self, Nat.zero_mod, Nat.add_zero, hi]
    exact ⟨rfl, hd, hu⟩

lemma Level.put (h : Level base unit dropped prev m) (hg : Grows unit prev l)
    (hm : Moves strict l.indentation m m' opens) (d : Draft) :
    Level base unit (dropped + (prev.indentation - l.indentation) % unit) l (d.put l m' opens).margin := by
  obtain ⟨hc, hd, hu⟩ := h.move hg hm
  unfold Draft.put
  cases hk : l.marker with
  | title => exact ⟨hc, hd, by simp [hk], hu⟩
  | item => exact ⟨hc, hd, fun _ => rfl, hu⟩

lemma Level.nothing_dropped (h : Level base unit dropped prev m) (hm : Moves true l.indentation m m' opens) :
    (prev.indentation - l.indentation) % unit = 0 := by
  obtain ⟨hc, _, _, hu⟩ := h
  cases hm with
  | first => cases hc
  | deeper hlt =>
    obtain rfl := Option.some.inj hc
    rw [Nat.sub_eq_zero_of_le (Nat.le_of_lt hlt), Nat.zero_mod]
  | shallower _ heven _ =>
    obtain rfl := Option.some.inj hc
    rcases hu with hu | ⟨hu, _⟩
    · obtain rfl := Option.some.inj hu
      exact heven rfl
    · cases hu
  | level =>
    have hi : l.indentation = prev.indentation := Option.some.inj hc
    rw [hi, Nat.sub_self, Nat.zero_mod]

lemma Level.moves_iff (h : Level base unit 0 prev m) (hg : Grows unit prev l) (hpos : 0 < unit) :
    (∃ m' opens, Moves true l.indentation m m' opens) ↔ ∃ k, l.indentation = base + unit * k := by
  constructor
  · rintro ⟨m', opens, hm⟩
    have hd := (h.move hg hm).2.1
    rw [h.nothing_dropped hm] at hd
    exact ⟨m'.depth, hd⟩
  · rintro ⟨k, hk⟩
    obtain ⟨hc, hd, hl, hu⟩ := h
    obtain ⟨depth, current, u, latest⟩ := m
    obtain rfl : current = some prev.indentation := hc
    have hprev : prev.indentation = base + unit * depth := hd
    rcases Nat.lt_trichotomy prev.indentation l.indentation with hlt | he | hlt
    · obtain rfl : latest = some depth := hl (hg hlt).1
      exact ⟨_, _, .deeper hlt⟩
    · rw [← he]
      exact ⟨_, _, .level⟩
    · rcases hu with hu | ⟨_, hu, _⟩
      · obtain rfl : u = some unit := hu
        have hsub : prev.indentation - l.indentation = unit * (depth - k) := by
          rw [hprev, hk, Nat.mul_sub]
          omega
        refine ⟨_, _, .shallower hlt ?_ ?_⟩
        · intro _
          rw [hsub, Nat.mul_mod_right]
        · rw [hsub, Nat.mul_div_cancel_left _ hpos]
          exact Nat.sub_le _ _
      · obtain rfl : depth = 0 := hu
        omega

end Levels

section Running

variable {base unit dropped : Nat} {prev : Lexeme} {d d' : Draft} {ls : List Lexeme} {strict : Bool}

def columns (base unit : Nat) (es : List Entry) : List Nat := es.reverse.map fun e => base + unit * e.depth

lemma columns_put (base unit : Nat) (d : Draft) (l : Lexeme) (m : Margin) (opens : Bool) :
    columns base unit (d.put l m opens).entries =
      columns base unit d.entries ++ if isItem l then [base + unit * m.depth] else [] := by
  have ho : columns base unit (openedIf opens d.entries) = columns base unit d.entries := by
    cases h : d.entries <;> simp [columns, openedIf]
  unfold Draft.put
  cases hk : l.marker with
  | title => simp [isItem, hk, ho]
  | item =>
    rw [← ho]
    simp [isItem, hk, columns]

lemma Runs.columns_eq (h : Runs strict d ls d') (hl : Level base unit dropped prev d.margin)
    (hg : (prev :: ls).IsChain (Grows unit)) : columns base unit d'.entries =
      columns base unit d.entries ++ settled unit dropped prev.indentation ls := by
  induction h generalizing dropped prev with
  | nil => simp [settled]
  | @cons d l m opens ls d' hm _ ih =>
    obtain ⟨hgl, hgs⟩ := List.isChain_cons.mp hg
    have hgl := hgl l rfl
    have hd := (hl.move hgl hm).2.1
    rw [ih (hl.put hgl hm d) hgs, columns_put, settled, ← hd]
    split <;> simp

lemma Level.runs_iff (hl : Level base unit 0 prev d.margin) (hg : (prev :: ls).IsChain (Grows unit))
    (hpos : 0 < unit) : (∃ d', Runs true d ls d') ↔ ∀ l ∈ ls, ∃ k, l.indentation = base + unit * k := by
  induction ls generalizing prev d with
  | nil => exact ⟨fun _ => by simp, fun _ => ⟨d, .nil⟩⟩
  | cons l ls ih =>
    obtain ⟨hgl, hgs⟩ := List.isChain_cons.mp hg
    have hgl := hgl l rfl
    rw [List.forall_mem_cons, ← hl.moves_iff hgl hpos]
    constructor
    · rintro ⟨d', h⟩
      cases h with
      | @cons _ _ m opens _ _ hm h =>
        have hput := hl.put hgl hm d
        rw [hl.nothing_dropped hm] at hput
        exact ⟨⟨m, opens, hm⟩, (ih hput hgs).mp ⟨d', h⟩⟩
    · rintro ⟨⟨m, opens, hm⟩, h⟩
      have hput := hl.put hgl hm d
      rw [hl.nothing_dropped hm] at hput
      obtain ⟨d', h⟩ := (ih hput hgs).mpr h
      exact ⟨d', .cons hm h⟩

lemma settled_eq {before depth : Nat} (hb : before = base + unit * depth)
    (h : ∀ l ∈ ls, ∃ k, l.indentation = base + unit * k) :
    settled unit 0 before ls = (items ls).map (·.indentation) := by
  induction ls generalizing before depth with
  | nil => rfl
  | cons l ls ih =>
    obtain ⟨⟨k, hk⟩, h⟩ := List.forall_mem_cons.mp h
    have hzero : (before - l.indentation) % unit = 0 := by
      rw [hb, hk, Nat.add_sub_add_left, ← Nat.mul_sub, Nat.mul_mod_right]
    rw [settled, hzero, ih hk h, items_cons]
    split <;> rfl

end Running

section Starting

variable {unit : Nat} {first : Lexeme} {rest : List Lexeme} {d : Draft} {strict : Bool}

def startOf (first : Lexeme) : Draft := Draft.put {} first ⟨0, some first.indentation, none, none⟩ false

lemma startOf_level : Level first.indentation unit 0 first (startOf first).margin := by
  unfold startOf Draft.put
  cases hk : first.marker with
  | title => exact ⟨rfl, rfl, by simp [hk], Or.inr ⟨rfl, rfl, rfl⟩⟩
  | item => exact ⟨rfl, rfl, fun _ => rfl, Or.inr ⟨rfl, rfl, rfl⟩⟩

lemma runs_start_iff : Runs strict {} (first :: rest) d ↔ Runs strict (startOf first) rest d := by
  constructor
  · intro h
    cases h with
    | cons hm h =>
      generalize hs : Draft.margin {} = start at hm
      cases hm with
      | first =>
        obtain ⟨rfl, _, rfl, rfl⟩ := Margin.mk.inj hs
        exact h
      | deeper => cases hs
      | shallower => cases hs
      | level => cases hs
  · intro h
    exact .cons .first h

lemma Runs.columns_start (h : Runs strict {} (first :: rest) d) (hg : (first :: rest).IsChain (Grows unit)) :
    columns first.indentation unit d.entries = settled unit 0 first.indentation (first :: rest) := by
  have hrun := runs_start_iff.mp h
  rw [hrun.columns_eq startOf_level hg, startOf, columns_put]
  simp only [settled, Nat.sub_self, Nat.zero_mod, Nat.add_zero]
  split <;> simp [columns]

lemma exists_run_iff (hg : (first :: rest).IsChain (Grows unit)) (hpos : 0 < unit) :
    (∃ d, Runs true {} (first :: rest) d) ↔ ∀ l ∈ rest, ∃ k, l.indentation = first.indentation + unit * k := by
  simp only [runs_start_iff]
  exact startOf_level.runs_iff hg hpos

lemma exists_run_of_levels {base : Nat} {ls : List Lexeme} (hg : ls.IsChain (Grows unit)) (hpos : 0 < unit)
    (hfirst : ∀ l ∈ ls.head?, l.indentation = base) (hk : ∀ l ∈ ls, ∃ k, l.indentation = base + unit * k) :
    ∃ d, Runs true {} ls d ∧ columns base unit d.entries = (items ls).map (·.indentation) := by
  cases ls with
  | nil => exact ⟨{}, .nil, rfl⟩
  | cons first rest =>
    obtain rfl := hfirst first rfl
    obtain ⟨d, hd⟩ := (exists_run_iff hg hpos).mpr (List.forall_mem_cons.mp hk).2
    have hzero : first.indentation = first.indentation + unit * 0 := rfl
    exact ⟨d, hd, (hd.columns_start hg).trans (settled_eq hzero hk)⟩

end Starting

end PageStencil.Outline
