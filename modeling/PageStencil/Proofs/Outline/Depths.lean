import Mathlib.Data.Nat.Find
import PageStencil.Proofs.Outline.Indentation

/-!
How deep the items of a run come to lie. A line that is deeper than the one before goes one level below the latest
item, however large the increase; a shallower one goes up by its decrease, counted in first increases. So depths
change by one at most on the way down, and they tell which items stand in one list.
-/

namespace PageStencil.Outline

open Entry MenuGraph

def Draft.depths (d : Draft) : List Nat := d.entries.reverse.map Entry.depth

/-- The levels of the items of some lines, behind a line of indentation `before` at level `now`. -/
def heights (unit before : Nat) (now latest : Int) : List Lexeme → List Int
  | [] => []
  | l :: ls =>
    let now := if before < l.indentation then latest + 1 else now - ((before - l.indentation) / unit : Nat)
    if isItem l then now :: heights unit l.indentation now now ls else heights unit l.indentation now latest ls

section Heights

lemma heights_add (unit before : Nat) (now latest k : Int) (ls : List Lexeme) :
    heights unit before (k + now) (k + latest) ls = (heights unit before now latest ls).map (k + ·) := by
  induction ls generalizing before now latest with
  | nil => rfl
  | cons l ls ih =>
    have hnow : (if before < l.indentation then k + latest + 1 else k + now - ((before - l.indentation) / unit : Nat)) =
        k + if before < l.indentation then latest + 1 else now - ((before - l.indentation) / unit : Nat) := by
      split <;> omega
    rw [heights, heights, hnow]
    split
    · rw [ih, List.map_cons]
    · rw [ih]

lemma length_heights (unit before : Nat) (now latest : Int) (ls : List Lexeme) :
    (heights unit before now latest ls).length = (items ls).length := by
  induction ls generalizing before now latest with
  | nil => rfl
  | cons l ls ih =>
    rw [heights, items_cons]
    split
    · rw [List.length_cons, List.length_cons, ih]
    · exact ih _ _ _

lemma heights_append (unit before : Nat) (now latest : Int) (ls ks : List Lexeme) :
    ∃ hs, heights unit before now latest (ls ++ ks) = heights unit before now latest ls ++ hs := by
  induction ls generalizing before now latest with
  | nil => exact ⟨_, rfl⟩
  | cons l ls ih =>
    rw [List.cons_append, heights, heights]
    split
    · obtain ⟨hs, he⟩ := ih l.indentation _ _
      exact ⟨hs, by rw [he, List.cons_append]⟩
    · exact ih _ _ _

end Heights

section Running

variable {strict opens : Bool} {m m' : Margin} {d d' d'' : Draft} {prev l : Lexeme} {ls ks : List Lexeme}

lemma Runs.split (h : Runs strict d (ls ++ ks) d'') : ∃ d', Runs strict d ls d' ∧ Runs strict d' ks d'' := by
  induction ls generalizing d with
  | nil => exact ⟨d, .nil, h⟩
  | cons l ls ih =>
    cases h with
    | cons hm h =>
      obtain ⟨d', hls, hks⟩ := ih h
      exact ⟨d', .cons hm hls, hks⟩

lemma Moves.unit_eq (h : Moves strict l.indentation m m' opens) (hc : m.current = some prev.indentation) :
    m'.unit = m.unit.or
      (if prev.indentation < l.indentation then some (l.indentation - prev.indentation) else none) := by
  cases h with
  | first => cases hc
  | @deeper depth current unit latest hlt =>
    obtain rfl : current = prev.indentation := Option.some.inj hc
    cases unit <;> simp [hlt]
  | shallower hlt =>
    obtain rfl := Option.some.inj hc
    rfl
  | level =>
    have hi : l.indentation = prev.indentation := Option.some.inj hc
    simp [hi]

lemma put_unit (d : Draft) (l : Lexeme) (m : Margin) (opens : Bool) : (d.put l m opens).margin.unit = m.unit := by
  unfold Draft.put
  split <;> rfl

lemma Runs.unit_eq (h : Runs strict d ls d') (hc : d.margin.current = some prev.indentation) :
    d'.margin.unit = d.margin.unit.or (firstIncrease (prev :: ls)) := by
  induction h generalizing prev with
  | nil => simp [firstIncrease]
  | @cons d l m opens ls d' hm _ ih =>
    have hl : (d.put l m opens).margin.current = some l.indentation := by rw [Draft.put_margin_current, hm.current]
    rw [ih hl, put_unit, hm.unit_eq hc, firstIncrease]
    split <;> simp

lemma Runs.unit_start (h : Runs strict {} ls d) : d.margin.unit = firstIncrease ls := by
  cases ls with
  | nil =>
    cases h
    rfl
  | cons first rest =>
    have hc : (startOf first).margin.current = some first.indentation := Draft.put_margin_current ..
    have hu : (startOf first).margin.unit = none := put_unit ..
    rw [(runs_start_iff.mp h).unit_eq hc, hu, Option.none_or]

lemma Runs.length_depths (h : Runs strict {} ls d) : d.depths.length = (items ls).length := by
  have hrows := congrArg List.length h.rows_start
  have hlabels := congrArg List.length (rows_labels ls)
  simp only [List.length_map] at hrows hlabels
  rw [← hlabels, ← hrows, Draft.depths, List.length_map]

lemma depths_put (d : Draft) (l : Lexeme) (m : Margin) (opens : Bool) :
    (d.put l m opens).depths = d.depths ++ if isItem l then [m.depth] else [] := by
  have hopened : (openedIf opens d.entries).reverse.map Entry.depth = d.depths := by
    cases h : d.entries <;> simp [Draft.depths, openedIf, h]
  unfold Draft.put
  cases hk : l.marker with
  | title => simpa [isItem, hk, Draft.depths] using hopened
  | item =>
    rw [← hopened]
    simp [isItem, hk, Draft.depths]

lemma Moves.depth_eq {unit latest : Nat} (h : Moves strict l.indentation m m' opens)
    (hc : m.current = some prev.indentation) (hl : m.latest = some latest) (hu : ∀ u ∈ m'.unit, u = unit) :
    m'.latest = some latest ∧ (m'.depth : Int) = if prev.indentation < l.indentation then (latest : Int) + 1
      else m.depth - ((prev.indentation - l.indentation) / unit : Nat) := by
  cases h with
  | first => cases hc
  | @deeper depth current u k hlt =>
    obtain rfl : current = prev.indentation := Option.some.inj hc
    obtain rfl : k = latest := Option.some.inj hl
    rw [if_pos hlt]
    exact ⟨rfl, rfl⟩
  | @shallower depth current u k hlt _ htop =>
    obtain rfl : current = prev.indentation := Option.some.inj hc
    obtain rfl := hu u rfl
    rw [if_neg (Nat.lt_asymm hlt)]
    exact ⟨hl, Int.ofNat_sub htop⟩
  | level =>
    have hi : l.indentation = prev.indentation := Option.some.inj hc
    simpa [hi] using hl

theorem Runs.depths_eq {unit latest : Nat} (h : Runs strict d ls d') (hc : d.margin.current = some prev.indentation)
    (hl : d.margin.latest = some latest) (hu : ∀ u ∈ d'.margin.unit, u = unit) :
    d'.depths.map Int.ofNat =
      d.depths.map Int.ofNat ++ heights unit prev.indentation d.margin.depth latest ls := by
  induction h generalizing prev latest with
  | nil => simp [heights]
  | @cons d l m opens ls d' hm h ih =>
    have hc' : (d.put l m opens).margin.current = some l.indentation := by rw [Draft.put_margin_current, hm.current]
    -- the unit stays as it is once it is fixed
    have hu' : ∀ u ∈ m.unit, u = unit := by
      intro u hm
      apply hu
      rw [h.unit_eq hc', put_unit, Option.mem_def.mp hm]
      rfl
    obtain ⟨hlatest, hdepth⟩ := hm.depth_eq hc hl hu'
    rw [heights, ← hdepth]
    cases hk : l.marker with
    | title =>
      have hput : (d.put l m opens).margin = m := by rw [Draft.put, hk]
      rw [ih hc' (by rw [hput, hlatest]) hu, hput, depths_put]
      simp [isItem, hk]
    | item =>
      have hput : (d.put l m opens).margin = m.addItem := by rw [Draft.put, hk]
      rw [ih hc' (by rw [hput]; rfl) hu, hput, depths_put]
      simp [isItem, hk, Margin.addItem]

end Running

structure Stepped (xs : List Nat) : Prop where
  first : ∀ x ∈ xs.head?, x = 0
  next : xs.IsChain fun a b => b ≤ a + 1

section Stepping

variable {strict opens : Bool} {d d' : Draft} {l : Lexeme} {m : Margin} {ls : List Lexeme} {xs : List Nat}

structure Draft.Climbs (d : Draft) : Prop where
  stepped : Stepped d.depths
  next : ∀ x ∈ d.depths.getLast?, d.margin.latest = some x ∧ d.margin.depth ≤ x + 1
  start : d.depths = [] → d.margin.latest = none ∧ d.margin.depth = 0

lemma climbs_empty : Draft.Climbs {} := ⟨⟨by simp [Draft.depths], .nil⟩, by simp [Draft.depths], fun _ => ⟨rfl, rfl⟩⟩

lemma Draft.Climbs.move (h : d.Climbs) (hm : Moves strict l.indentation d.margin m opens) :
    (∀ x ∈ d.depths.getLast?, m.latest = some x ∧ m.depth ≤ x + 1) ∧
      (d.depths = [] → m.latest = none ∧ m.depth = 0) := by
  obtain ⟨_, hnext, hstart⟩ := h
  generalize d.margin = before at hm hnext hstart
  cases hm with
  | first => exact ⟨hnext, hstart⟩
  | deeper =>
    refine ⟨?_, fun he => ?_⟩
    · intro x hx
      obtain ⟨hl, _⟩ := hnext x hx
      exact ⟨hl, by rw [Option.some.inj hl]⟩
    · cases (hstart he).1
  | shallower =>
    refine ⟨fun x hx => ⟨(hnext x hx).1, ?_⟩, fun he => ⟨(hstart he).1, ?_⟩⟩
    · exact (Nat.sub_le _ _).trans (hnext x hx).2
    · have := (hstart he).2
      simp_all
  | level => exact ⟨hnext, hstart⟩

lemma Draft.Climbs.put (h : d.Climbs) (hm : Moves strict l.indentation d.margin m opens) :
    (d.put l m opens).Climbs := by
  obtain ⟨hnext, hstart⟩ := h.move hm
  have hdepths := depths_put d l m opens
  cases hk : l.marker with
  | title =>
    have hput : (d.put l m opens).margin = m := by rw [Draft.put, hk]
    have hsame : (d.put l m opens).depths = d.depths := by simpa [isItem, hk] using hdepths
    refine ⟨?_, ?_, ?_⟩ <;> rw [hsame]
    · exact h.stepped
    · rwa [hput]
    · rwa [hput]
  | item =>
    have hput : (d.put l m opens).margin = m.addItem := by rw [Draft.put, hk]
    have hadd : (d.put l m opens).depths = d.depths ++ [m.depth] := by simpa [isItem, hk] using hdepths
    refine ⟨⟨?_, ?_⟩, ?_, ?_⟩ <;> rw [hadd]
    · cases hd : d.depths with
      | nil => simpa using (hstart hd).2
      | cons x xs =>
        have hf := h.stepped.first
        rw [hd] at hf
        simpa using hf
    · refine List.isChain_append.mpr ⟨h.stepped.next, .singleton _, ?_⟩
      rintro x hx y hy
      obtain rfl := Option.some.inj hy
      exact (hnext x hx).2
    · simp [hput, Margin.addItem]
    · simp

lemma Runs.climbs (h : Runs strict d ls d') (hd : d.Climbs) : d'.Climbs := by
  induction h with
  | nil => exact hd
  | cons hm _ ih => exact ih (hd.put hm)

lemma Stepped.getElem? (h : Stepped xs) {j a b : Nat} (ha : xs[j]? = some a) (hb : xs[j + 1]? = some b) :
    b ≤ a + 1 := by
  obtain ⟨hj, rfl⟩ := List.getElem?_eq_some_iff.mp ha
  obtain ⟨hk, rfl⟩ := List.getElem?_eq_some_iff.mp hb
  exact List.isChain_iff_getElem.mp h.next j hk

lemma Stepped.succ_of_encloses (h : Stepped xs) {j k b : Nat} (hj : Encloses xs j k) (hb : xs[k]? = some b) :
    ∃ a, xs[j]? = some a ∧ b = a + 1 := by
  obtain ⟨⟨hjk, a, b', ha, hb', hab⟩, hbetween⟩ := hj
  obtain rfl : b = b' := Option.some.inj (hb.symm.trans hb')
  have hk := (List.getElem?_eq_some_iff.mp hb).1
  refine ⟨a, ha, ?_⟩
  obtain ⟨x, hx⟩ : ∃ x, xs[j + 1]? = some x := ⟨_, List.getElem?_eq_getElem (by omega)⟩
  have hstep := h.getElem? ha hx
  rcases Nat.eq_or_lt_of_le hjk with rfl | hlt
  · have := Option.some.inj (hb.symm.trans hx)
    omega
  · have hnot : ¬x < b := fun hxb => hbetween (j + 1) (Nat.lt_succ_self j) ⟨hlt, _, _, hx, hb, hxb⟩
    omega

lemma Stepped.zero_of_top (h : Stepped xs) {k b : Nat} (hk : ∀ j, ¬Shallower xs j k) (hb : xs[k]? = some b) :
    b = 0 := by
  cases k with
  | zero => exact h.first b (by rwa [List.head?_eq_getElem?])
  | succ k =>
    have hlen := (List.getElem?_eq_some_iff.mp hb).1
    have hx : xs[0]? = some xs[0] := List.getElem?_eq_getElem (by omega)
    have hzero := h.first xs[0] (by rwa [List.head?_eq_getElem?])
    have hnot : ¬xs[0] < b := fun hxb => hk 0 ⟨Nat.succ_pos k, _, _, hx, hb, hxb⟩
    omega

lemma exists_encloses {j k : Nat} (h : Shallower xs j k) : ∃ i, Encloses xs i k := by
  classical
  let P : Nat → Prop := fun i => Shallower xs i k
  refine ⟨Nat.findGreatest P k, Nat.findGreatest_spec (P := P) (Nat.le_of_lt h.1) h, ?_⟩
  intro i hi hs
  exact Nat.findGreatest_is_greatest hi (Nat.le_of_lt hs.1) hs

end Stepping

end PageStencil.Outline
