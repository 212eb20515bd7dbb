import PageStencil.Proofs.Outline.Depths

/-!
Items with one parent. Two items stand in one list exactly when the lines between them lead back to the level of the
first, and no item between them lies above it. Indentation alone tells so where each increase stands directly below
an item and is as large as the first one, and each decrease is a whole number of such increases.
-/

namespace PageStencil.Outline

open Entry MenuGraph

section Parents

variable {xs : List Nat} {i j k a b : Nat}

lemma Shallower.of_le (h : Shallower xs k i) (ha : xs[i]? = some a) (hb : xs[j]? = some b) (hij : i ≤ j)
    (hab : a ≤ b) : Shallower xs k j := by
  obtain ⟨hki, x, y, hx, hy, hxy⟩ := h
  obtain rfl := Option.some.inj (ha.symm.trans hy)
  exact ⟨by omega, x, b, hx, hb, by omega⟩

lemma Shallower.back (h : Shallower xs k j) (ha : xs[i]? = some a) (hb : xs[j]? = some a)
    (hbetween : ∀ n x, i < n → n < j → xs[n]? = some x → a ≤ x) : k < i ∧ Shallower xs k i := by
  obtain ⟨hkj, x, y, hx, hy, hxy⟩ := h
  obtain rfl := Option.some.inj (hb.symm.trans hy)
  have hki : k < i := by
    apply Nat.lt_of_not_le
    intro hik
    rcases Nat.eq_or_lt_of_le hik with rfl | hlt
    · have := Option.some.inj (ha.symm.trans hx)
      omega
    · have := hbetween k x hlt hkj hx
      omega
  exact ⟨hki, hki, x, a, hx, ha, hxy⟩

lemma Encloses.forth (h : Encloses xs k i) (ha : xs[i]? = some a) (hb : xs[j]? = some a) (hij : i < j)
    (hbetween : ∀ n x, i < n → n < j → xs[n]? = some x → a ≤ x) : Encloses xs k j := by
  refine ⟨h.1.of_le ha hb (Nat.le_of_lt hij) (Nat.le_refl a), ?_⟩
  intro n hn hs
  exact h.2 n hn (hs.back ha hb hbetween).2

/-- The node behind `root` for each position, below the node of what encloses it, or below `root`. -/
structure Ordered (g : MenuGraph) (root : Nat) (xs : List Nat) : Prop where
  enclosed : ∀ j k, Encloses xs j k → g.parentOf (root + 1 + k) = some (root + 1 + j)
  top : ∀ k, k < xs.length → (∀ j, ¬Shallower xs j k) → g.parentOf (root + 1 + k) = some root

lemma Ordered.parent_cases {g : MenuGraph} {root : Nat} (h : Ordered g root xs) (hk : k < xs.length) :
    (∃ j, Encloses xs j k ∧ g.parentOf (root + 1 + k) = some (root + 1 + j)) ∨
      (∀ j, ¬Shallower xs j k) ∧ g.parentOf (root + 1 + k) = some root := by
  by_cases hs : ∃ j, Shallower xs j k
  · obtain ⟨j, hj⟩ := exists_encloses hs.choose_spec
    exact .inl ⟨j, hj, h.enclosed j k hj⟩
  · exact .inr ⟨not_exists.mp hs, h.top k hk (not_exists.mp hs)⟩

theorem Ordered.parentOf_eq_iff {g : MenuGraph} {root : Nat} (h : Ordered g root xs) (hxs : Stepped xs)
    (ha : xs[i]? = some a) (hb : xs[j]? = some b) (hij : i < j) :
    g.parentOf (root + 1 + i) = g.parentOf (root + 1 + j) ↔
      b = a ∧ ∀ n x, i < n → n < j → xs[n]? = some x → a ≤ x := by
  have hi := (List.getElem?_eq_some_iff.mp ha).1
  have hj := (List.getElem?_eq_some_iff.mp hb).1
  constructor
  · intro hp
    rcases h.parent_cases hi with ⟨k, hk, hpi⟩ | ⟨hk, hpi⟩
    · rcases h.parent_cases hj with ⟨n, hn, hpj⟩ | ⟨_, hpj⟩
      · obtain rfl : k = n := by
          have := Option.some.inj (hpi.symm.trans (hp.trans hpj))
          omega
        obtain ⟨x, hx, rfl⟩ := hxs.succ_of_encloses hk ha
        obtain ⟨y, hy, rfl⟩ := hxs.succ_of_encloses hn hb
        obtain rfl := Option.some.inj (hx.symm.trans hy)
        refine ⟨rfl, fun m z him hmj hz => Nat.le_of_not_lt fun hlt => ?_⟩
        have hki := hk.1.1
        exact hn.2 m (by omega) ⟨hmj, z, _, hz, hb, hlt⟩
      · have := Option.some.inj (hpi.symm.trans (hp.trans hpj))
        omega
    · obtain rfl := hxs.zero_of_top hk ha
      rcases h.parent_cases hj with ⟨n, _, hpj⟩ | ⟨hn, _⟩
      · have := Option.some.inj (hpi.symm.trans (hp.trans hpj))
        omega
      · exact ⟨hxs.zero_of_top hn hb, fun _ _ _ _ _ => Nat.zero_le _⟩
  · rintro ⟨rfl, hbetween⟩
    rcases h.parent_cases hi with ⟨k, hk, hpi⟩ | ⟨hk, hpi⟩
    · rw [hpi, h.enclosed k j (hk.forth ha hb hij hbetween)]
    · rw [hpi, h.top j hj fun n hn => hk n (hn.back ha hb hbetween).2]

lemma Ordered.exists_parentOf {g : MenuGraph} {root : Nat} (h : Ordered g root xs) (hk : k < xs.length) :
    ∃ p, g.parentOf (root + 1 + k) = some p := by
  rcases h.parent_cases hk with ⟨j, _, hp⟩ | ⟨_, hp⟩
  · exact ⟨_, hp⟩
  · exact ⟨_, hp⟩

lemma Sound.ordered {d : Draft} (h : Sound d) (g : MenuGraph) {root : Nat} {g' : MenuGraph}
    (hg : g.plant none d.menu = (root, g')) : Ordered g' root d.depths := by
  obtain ⟨henclosed, htop⟩ := h.enclosed g hg rfl
  have hrooted := g.plant_rooted d.menu
  obtain ⟨hsize, _⟩ := g.plant_entries d.menu
  have hcount := congrArg List.length (preorder_nest h.nested)
  simp only [List.length_map] at hcount
  have hlength : (Menu.preorderAll d.menu.entries).length = d.depths.length := by
    rw [Draft.depths, List.length_map, ← hcount]
    rfl
  rw [hg] at hrooted hsize
  rw [hlength] at hsize
  constructor
  · intro j k hjk
    obtain ⟨hlt, _, _, _, hb, _⟩ := hjk.1
    have hk := (List.getElem?_eq_some_iff.mp hb).1
    exact (hrooted.parent _ (by omega) (by omega) _ (henclosed j k hjk)).2.2
  · intro k hk hnone
    exact (hrooted.parent _ (Nat.le_refl _) (by omega) _ (htop k hk hnone)).2.2

end Parents

/-- Counted from an item at level zero, the last item of the lines lies at level zero again, and none above it. -/
def Returns (unit : Nat) (a : Lexeme) (ls : List Lexeme) : Prop :=
  (heights unit a.indentation 0 0 ls).getLast? = some 0 ∧ ∀ h ∈ heights unit a.indentation 0 0 ls, 0 ≤ h

def Whole (unit : Nat) (a b : Lexeme) : Prop := unit ∣ a.indentation - b.indentation

section Returning

variable {strict : Bool} {unit : Nat} {a b : Lexeme} {before between after ls : List Lexeme} {d : Draft}

lemma Runs.depths_around (h : Runs strict {} (before ++ a :: ls) d) (ha : a.marker = .item) :
    ∃ (xs : List Nat) (depth : Nat), xs.length = (items before).length ∧ d.depths.map Int.ofNat =
      xs.map Int.ofNat ++ (depth : Int) ::
        (heights (unitOf (before ++ a :: ls)) a.indentation 0 0 ls).map ((depth : Int) + ·) := by
  obtain ⟨d₁, hbefore, hrest⟩ := h.split
  have hunit : ∀ u ∈ d.margin.unit, u = unitOf (before ++ a :: ls) := by
    intro u hu
    rw [unitOf, ← h.unit_start, Option.mem_def.mp hu]
    rfl
  generalize unitOf (before ++ a :: ls) = unit at hunit ⊢
  cases hrest with
  | @cons _ _ m opens _ _ hm hrest =>
    have hput : (d₁.put a m opens).margin = m.addItem := by rw [Draft.put, ha]
    have hcurrent : (d₁.put a m opens).margin.current = some a.indentation := by
      rw [Draft.put_margin_current, hm.current]
    have hdepths := hrest.depths_eq hcurrent (by rw [hput]; rfl) hunit
    have hshift := heights_add unit a.indentation 0 0 m.depth ls
    rw [Int.add_zero] at hshift
    rw [depths_put, hput, Margin.addItem, hshift] at hdepths
    refine ⟨d₁.depths, m.depth, hbefore.length_depths, ?_⟩
    simpa [isItem, ha] using hdepths

lemma getElem?_around {ds xs : List Nat} {depth : Nat} {hs : List Int}
    (hds : ds.map Int.ofNat = xs.map Int.ofNat ++ (depth : Int) :: hs.map ((depth : Int) + ·)) {k : Nat} {h : Int}
    (hk : hs[k]? = some h) : ∃ x, ds[xs.length + 1 + k]? = some x ∧ (x : Int) = depth + h := by
  have hget : (ds.map Int.ofNat)[xs.length + 1 + k]? = some (depth + h) := by
    rw [hds, List.getElem?_append_right (by simp; omega), List.length_map,
      show xs.length + 1 + k - xs.length = k + 1 by omega, List.getElem?_cons_succ, List.getElem?_map, hk]
    rfl
  rw [List.getElem?_map] at hget
  exact Option.map_eq_some_iff.mp hget

lemma level_between {ds xs : List Nat} {depth : Nat} {hs rest : List Int} (hne : hs ≠ [])
    (hds : ds.map Int.ofNat = xs.map Int.ofNat ++ (depth : Int) :: (hs ++ rest).map ((depth : Int) + ·)) :
    ds[xs.length]? = some depth ∧ ∃ x, ds[xs.length + hs.length]? = some x ∧
      ((x = depth ∧ ∀ n y, xs.length < n → n < xs.length + hs.length → ds[n]? = some y → depth ≤ y) ↔
        hs.getLast? = some 0 ∧ ∀ h ∈ hs, 0 ≤ h) := by
  have hpos := List.length_pos_of_ne_nil hne
  have hbehind : ∀ k h, hs[k]? = some h → ∃ x, ds[xs.length + 1 + k]? = some x ∧ (x : Int) = depth + h := by
    intro k h hk
    apply getElem?_around hds
    rwa [List.getElem?_append_left (List.getElem?_eq_some_iff.mp hk).1]
  have hfirst : (ds.map Int.ofNat)[xs.length]? = some (depth : Int) := by
    rw [hds, List.getElem?_append_right (by simp)]
    simp
  rw [List.getElem?_map] at hfirst
  obtain ⟨y, hy, hyd⟩ := Option.map_eq_some_iff.mp hfirst
  obtain ⟨last, hlast⟩ : ∃ h, hs.getLast? = some h := ⟨_, List.getLast?_eq_some_getLast hne⟩
  obtain ⟨x, hx, hxd⟩ := hbehind (hs.length - 1) last (by rwa [← List.getLast?_eq_getElem?])
  refine ⟨by rw [hy, Int.ofNat.inj hyd], x, by rw [← hx]; congr 1; omega, ?_⟩
  rw [hlast, Option.some.injEq]
  constructor
  · rintro ⟨rfl, hbetween⟩
    refine ⟨by omega, ?_⟩
    intro h hmem
    obtain ⟨k, hk⟩ := List.mem_iff_getElem?.mp hmem
    have hlt := (List.getElem?_eq_some_iff.mp hk).1
    rcases Nat.lt_or_ge (k + 1) hs.length with hkl | hkl
    · obtain ⟨z, hz, hzd⟩ := hbehind k h hk
      have := hbetween (xs.length + 1 + k) z (by omega) (by omega) hz
      omega
    · rw [show k = hs.length - 1 by omega, ← List.getLast?_eq_getElem?, hlast] at hk
      have := Option.some.inj hk
      omega
  · rintro ⟨rfl, hnone⟩
    refine ⟨by omega, ?_⟩
    intro n y hn hlt hy
    obtain ⟨h, hk⟩ : ∃ h, hs[n - (xs.length + 1)]? = some h := ⟨_, List.getElem?_eq_getElem (by omega)⟩
    obtain ⟨z, hz, hzd⟩ := hbehind _ h hk
    rw [show xs.length + 1 + (n - (xs.length + 1)) = n by omega, hy] at hz
    have := hnone h (List.mem_iff_getElem?.mpr ⟨_, hk⟩)
    have := Option.some.inj hz
    omega

def SameParent (g : MenuGraph) (j k : Nat) : Prop := ∃ p, g.parentOf j = some p ∧ g.parentOf k = some p

theorem Runs.sameParent_iff (h : Runs strict {} ls d) (hls : ls = before ++ a :: (between ++ b :: after))
    (ha : a.marker = .item) (hb : b.marker = .item) (g : MenuGraph) {root : Nat} {g' : MenuGraph}
    (hg : g.plant none d.menu = (root, g')) :
    SameParent g' (root + 1 + (items before).length) (root + 1 + (items (before ++ a :: between)).length) ↔
      Returns (unitOf ls) a (between ++ [b]) := by
  have hordered := (h.sound sound_empty).ordered g hg
  have hstepped := (h.climbs climbs_empty).stepped
  subst hls
  obtain ⟨xs, depth, hlength, hdepths⟩ := h.depths_around ha
  generalize unitOf (before ++ a :: (between ++ b :: after)) = unit at hdepths ⊢
  obtain ⟨rest, hrest⟩ := heights_append unit a.indentation 0 0 (between ++ [b]) after
  rw [List.append_assoc, List.singleton_append] at hrest
  rw [hrest] at hdepths
  have hcount : (heights unit a.indentation 0 0 (between ++ [b])).length = (items between).length + 1 := by
    rw [length_heights, items, List.filter_append]
    simp [isItem, hb, items]
  have hne : heights unit a.indentation 0 0 (between ++ [b]) ≠ [] := by
    apply List.ne_nil_of_length_pos
    omega
  have hindex : (items (before ++ a :: between)).length = xs.length +
      (heights unit a.indentation 0 0 (between ++ [b])).length := by
    rw [hcount, hlength, items, List.filter_append, List.length_append]
    simp [isItem, ha, items]
  obtain ⟨hi, x, hj, hiff⟩ := level_between hne hdepths
  have hparent := hordered.parentOf_eq_iff hstepped hi hj (by omega)
  rw [hindex, ← hlength, Returns, ← hiff, ← hparent]
  constructor
  · rintro ⟨p, ha, hb⟩
    exact ha.trans hb.symm
  · intro heq
    obtain ⟨p, hp⟩ := hordered.exists_parentOf (List.getElem?_eq_some_iff.mp hi).1
    exact ⟨p, hp, heq ▸ hp⟩

lemma heights_even (base : Nat) (now latest : Int) {prev : Lexeme} (hg : (prev :: ls).IsChain (Grows unit))
    (hw : (prev :: ls).IsChain (Whole unit)) (hnow : (unit : Int) * now = prev.indentation - base)
    (hlatest : prev.marker = .item → latest = now) :
    (heights unit prev.indentation now latest ls).map ((unit : Int) * ·) =
      (items ls).map fun l => (l.indentation : Int) - base := by
  induction ls generalizing prev now latest with
  | nil => rfl
  | cons l ls ih =>
    obtain ⟨hgl, hg⟩ := List.isChain_cons_cons.mp hg
    obtain ⟨hwl, hw⟩ := List.isChain_cons_cons.mp hw
    have hstep : (unit : Int) * (if prev.indentation < l.indentation then latest + 1
        else now - ((prev.indentation - l.indentation) / unit : Nat)) = l.indentation - base := by
      split_ifs with hlt
      · obtain ⟨hi, hind⟩ := hgl hlt
        rw [hlatest hi, Int.mul_add, hnow, hind]
        push_cast
        omega
      · have hle := Nat.le_of_not_lt hlt
        have hdiv : (unit : Int) * ((prev.indentation - l.indentation) / unit : Nat) =
            prev.indentation - l.indentation := by
          rw [← Int.ofNat_sub hle, ← Int.natCast_mul, Nat.mul_div_cancel' hwl]
        rw [Int.mul_sub, hnow, hdiv]
        omega
    rw [heights, items_cons]
    generalize (if prev.indentation < l.indentation then latest + 1
        else now - ((prev.indentation - l.indentation) / unit : Nat)) = level at hstep ⊢
    split_ifs with hl
    · rw [List.map_cons, List.map_cons, hstep, ih _ _ hg hw hstep fun _ => rfl]
    · exact ih _ _ hg hw hstep fun hi => absurd (isItem_iff.mpr hi) hl

lemma returns_of_even (hpos : 0 < unit) (hg : (a :: (between ++ [b])).IsChain (Grows unit))
    (hw : (a :: (between ++ [b])).IsChain (Whole unit)) (hb : b.marker = .item) (hab : a.indentation = b.indentation)
    (hbetween : ∀ l ∈ between, a.indentation ≤ l.indentation) : Returns unit a (between ++ [b]) := by
  have heven := heights_even a.indentation 0 0 hg hw (by simp) fun _ => rfl
  have hitems : items (between ++ [b]) = items between ++ [b] := by simp [items, isItem, hb]
  have hunit : (0 : Int) < unit := Int.natCast_pos.mpr hpos
  constructor
  · have hlast := congrArg List.getLast? heven
    rw [List.getLast?_map, hitems, List.map_append, List.map_singleton, List.getLast?_concat, hab, Int.sub_self] at hlast
    obtain ⟨h, hh, hzero⟩ := Option.map_eq_some_iff.mp hlast
    rw [hab, hh, (Int.mul_eq_zero.mp hzero).resolve_left (Int.ne_of_gt hunit)]
  · intro h hh
    have hmem : (unit : Int) * h ∈ (items (between ++ [b])).map fun l => (l.indentation : Int) - a.indentation := by
      rw [← heven]
      exact List.mem_map_of_mem hh
    obtain ⟨l, hl, heq⟩ := List.mem_map.mp hmem
    have hle : a.indentation ≤ l.indentation := by
      rcases List.mem_append.mp (List.mem_of_mem_filter hl) with hm | hm
      · exact hbetween l hm
      · rw [List.mem_singleton.mp hm, hab]
    apply Int.not_lt.mp
    intro hneg
    have := Int.mul_neg_of_pos_of_neg hunit hneg
    omega

lemma Moves.whole {prev l : Lexeme} {m m' : Margin} {opens : Bool} (h : Moves true l.indentation m m' opens)
    (hc : m.current = some prev.indentation) (hu : ∀ u ∈ m'.unit, u = unit) : Whole unit prev l := by
  unfold Whole
  cases h with
  | first => cases hc
  | deeper hlt =>
    obtain rfl := Option.some.inj hc
    rw [Nat.sub_eq_zero_of_le (Nat.le_of_lt hlt)]
    exact Nat.dvd_zero _
  | shallower _ heven _ =>
    obtain rfl := Option.some.inj hc
    obtain rfl := hu _ rfl
    exact Nat.dvd_of_mod_eq_zero (heven rfl)
  | level =>
    have hi : l.indentation = prev.indentation := Option.some.inj hc
    simp [hi]

lemma Runs.whole {prev : Lexeme} {d d' : Draft} (h : Runs true d ls d')
    (hc : d.margin.current = some prev.indentation) (hu : ∀ u ∈ d'.margin.unit, u = unit) :
    (prev :: ls).IsChain (Whole unit) := by
  generalize hs : true = strict at h
  induction h generalizing prev with
  | nil => exact .singleton _
  | @cons d l m opens ls d' hm h ih =>
    subst hs
    have hc' : (d.put l m opens).margin.current = some l.indentation := by rw [Draft.put_margin_current, hm.current]
    have hu' : ∀ u ∈ m.unit, u = unit := by
      intro u hm
      apply hu
      rw [h.unit_eq hc', put_unit, Option.mem_def.mp hm]
      rfl
    exact .cons_cons (hm.whole hc hu') (ih hc' hu)

lemma isChain_gap {R : Lexeme → Lexeme → Prop} (h : (a :: (between ++ b :: after)).IsChain R) :
    (a :: (between ++ [b])).IsChain R := by
  rw [show a :: (between ++ b :: after) = a :: (between ++ [b]) ++ after by simp] at h
  exact h.left_of_append

lemma Runs.whole_behind (h : Runs true {} ls d) (hls : ls = before ++ a :: after) :
    (a :: after).IsChain (Whole (unitOf ls)) := by
  have hunit : ∀ u ∈ d.margin.unit, u = unitOf ls := by
    intro u hu
    rw [unitOf, ← h.unit_start, Option.mem_def.mp hu]
    rfl
  generalize unitOf ls = unit at hunit ⊢
  subst hls
  obtain ⟨d₁, _, hrest⟩ := h.split
  cases hrest with
  | @cons _ _ m opens _ _ hm hrest =>
    have hc : (d₁.put a m opens).margin.current = some a.indentation := by rw [Draft.put_margin_current, hm.current]
    exact hrest.whole hc hunit

theorem parse_siblings {text : String} {m : Menu} (hr : ReadAs (numberedLines text.toList) ls)
    (hm : parse strict text = .ok m) (hls : ls = before ++ a :: (between ++ b :: after)) (ha : a.marker = .item)
    (hb : b.marker = .item) (g : MenuGraph) (root : Nat) (g' : MenuGraph) (hg : g.plant none m = (root, g')) :
    ∃ j k, j = root + 1 + (items before).length ∧ k = root + 1 + (items (before ++ a :: between)).length ∧
      g'.labelOf j = some a.link ∧ g'.labelOf k = some b.link ∧
      (SameParent g' j k ↔ Returns (unitOf ls) a (between ++ [b])) ∧
      (a.indentation = b.indentation → (∀ l ∈ between, a.indentation ≤ l.indentation) →
        (a :: (between ++ [b])).IsChain (Grows (unitOf ls)) →
        (strict = false → (a :: (between ++ [b])).IsChain (Whole (unitOf ls))) → SameParent g' j k) := by
  obtain ⟨ks, d, hk, hd, rfl⟩ := parse_eq_ok_iff.mp hm
  obtain rfl := hr.unique hk
  have hiff := hd.sameParent_iff hls ha hb g hg
  obtain ⟨_, hlabel⟩ := hd.shows.plant g hg
  have hitems : items ls = items before ++ a :: (items between ++ b :: items after) := by
    rw [hls]
    simp [items, isItem, ha, hb]
  have hindex : (items (before ++ a :: between)).length = (items before).length + 1 + (items between).length := by
    simp [items, isItem, ha]
    omega
  refine ⟨_, _, rfl, rfl, hlabel _ a ?_, hlabel _ b ?_, hiff, ?_⟩
  · rw [hitems]
    simp
  · rw [hitems, hindex, List.getElem?_append_right (by omega)]
    rw [show (items before).length + 1 + (items between).length - (items before).length = (items between).length + 1
      by omega, List.getElem?_cons_succ, List.getElem?_append_right (Nat.le_refl _), Nat.sub_self]
    rfl
  · intro hab hbetween hgrows hwhole
    refine hiff.mpr (returns_of_even (unitOf_pos ls) hgrows ?_ hb hab hbetween)
    cases strict with
    | false => exact hwhole rfl
    | true =>
      exact isChain_gap (hd.whole_behind hls)

end Returning

def staircase : String := "- a\n  - b\n    - c\n  - d"

def staircaseLexemes : List Lexeme :=
  [⟨0, .item, "a", none⟩, ⟨2, .item, "b", none⟩, ⟨4, .item, "c", none⟩, ⟨2, .item, "d", none⟩]

def staircaseMenu : Menu :=
  .group none none [.group (some { text := some "a" }) none [.group (some { text := some "b" }) none
    [.item (some { text := some "c" }) none], .item (some { text := some "d" }) none]]

lemma staircase_readAs : ReadAs (numberedLines staircase.toList) staircaseLexemes :=
  .cons rfl (.cons rfl (.cons rfl (.cons rfl .nil)))

lemma staircase_parse : parse true staircase = .ok staircaseMenu := by
  have hd : draft true staircase.toList = .ok ⟨none, [⟨1, { text := some "d" }, false⟩,
      ⟨2, { text := some "c" }, false⟩, ⟨1, { text := some "b" }, true⟩, ⟨0, { text := some "a" }, true⟩],
      ⟨1, some 2, some 2, some 1⟩⟩ := by rfl
  rw [parse_of_draft hd]
  simp [Draft.menu, Entry.nest, Entry.menu, staircaseMenu]

theorem staircase_siblings : SameParent (MenuGraph.plant {} none staircaseMenu).2 2 4 := by
  have hls : staircaseLexemes = [⟨0, .item, "a", none⟩] ++ ⟨2, .item, "b", none⟩ ::
      ([⟨4, .item, "c", none⟩] ++ ⟨2, .item, "d", none⟩ :: []) := rfl
  obtain ⟨j, k, rfl, rfl, _, _, _, hsame⟩ := parse_siblings staircase_readAs staircase_parse hls rfl rfl {} 0 _ rfl
  apply hsame
  · rfl
  · simp
  · simp [Grows, unitOf, firstIncrease, staircaseLexemes]
  · simp

/-- The third line is two units deeper than the second, but one level only; so the last line goes up too far. -/
def leaping : String := "- a\n  - b\n      - c\n  - d"

def leapingLexemes : List Lexeme :=
  [⟨0, .item, "a", none⟩, ⟨2, .item, "b", none⟩, ⟨6, .item, "c", none⟩, ⟨2, .item, "d", none⟩]

def leapingMenu : Menu :=
  .group none none [.group (some { text := some "a" }) none [.group (some { text := some "b" }) none
    [.item (some { text := some "c" }) none]], .item (some { text := some "d" }) none]

lemma leaping_readAs : ReadAs (numberedLines leaping.toList) leapingLexemes :=
  .cons rfl (.cons rfl (.cons rfl (.cons rfl .nil)))

lemma leaping_parse : parse true leaping = .ok leapingMenu := by
  have hd : draft true leaping.toList = .ok ⟨none, [⟨0, { text := some "d" }, false⟩,
      ⟨2, { text := some "c" }, false⟩, ⟨1, { text := some "b" }, true⟩, ⟨0, { text := some "a" }, true⟩],
      ⟨0, some 2, some 2, some 0⟩⟩ := by rfl
  rw [parse_of_draft hd]
  simp [Draft.menu, Entry.nest, Entry.menu, leapingMenu]

theorem not_siblings_by_indentation : ¬∀ strict text m ls before between after a b,
    ReadAs (numberedLines text.toList) ls → parse strict text = .ok m →
    ls = before ++ a :: (between ++ b :: after) → a.marker = .item → b.marker = .item →
    a.indentation = b.indentation → (∀ l ∈ between, a.indentation ≤ l.indentation) →
    ∀ (g : MenuGraph) root g', g.plant none m = (root, g') →
      SameParent g' (root + 1 + (items before).length) (root + 1 + (items (before ++ a :: between)).length) := by
  intro h
  have hls : leapingLexemes = [⟨0, .item, "a", none⟩] ++ ⟨2, .item, "b", none⟩ ::
      ([⟨6, .item, "c", none⟩] ++ ⟨2, .item, "d", none⟩ :: []) := rfl
  obtain ⟨p, hb, hd⟩ := h true leaping leapingMenu leapingLexemes _ _ _ _ _ leaping_readAs leaping_parse hls rfl rfl
    rfl (by simp) {} 0 _ rfl
  -- the second line lies in the list of the first one, the last line in the list of the root
  have hfirst : (MenuGraph.plant {} none leapingMenu).2.parentOf 2 = some 1 := by decide
  have hroot : (MenuGraph.plant {} none leapingMenu).2.parentOf 4 = some 0 := by decide
  obtain rfl := Option.some.inj (hfirst.symm.trans hb)
  cases hroot.symm.trans hd

end PageStencil.Outline
