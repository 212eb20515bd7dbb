import PageStencil.Proofs.Menu.Family
import PageStencil.Proofs.Outline.Nesting

/-!
What encloses an entry: the nearest entry before it that is less deep. In a planted menu that is the node in whose
list the entry stands; an entry that nothing encloses stands in the list of the root.
-/

namespace PageStencil.Outline

open Entry MenuGraph

def Shallower (xs : List Nat) (j k : Nat) : Prop := j < k ∧ ∃ a b, xs[j]? = some a ∧ xs[k]? = some b ∧ a < b

def Encloses (xs : List Nat) (j k : Nat) : Prop := Shallower xs j k ∧ ∀ i, j < i → ¬Shallower xs i k

lemma Encloses.unique {xs : List Nat} {i j k : Nat} (hi : Encloses xs i k) (hj : Encloses xs j k) : i = j := by
  rcases Nat.lt_trichotomy i j with h | h | h
  · exact absurd hj.1 (hi.2 j h)
  · exact h
  · exact absurd hi.1 (hj.2 i h)

lemma shallower_map {f : Nat → Nat} (hf : ∀ a b, f a < f b ↔ a < b) {xs : List Nat} {j k : Nat} :
    Shallower (xs.map f) j k ↔ Shallower xs j k := by
  constructor
  · rintro ⟨hjk, a, b, ha, hb, hab⟩
    rw [List.getElem?_map] at ha hb
    obtain ⟨x, hx, rfl⟩ := Option.map_eq_some_iff.mp ha
    obtain ⟨y, hy, rfl⟩ := Option.map_eq_some_iff.mp hb
    exact ⟨hjk, x, y, hx, hy, (hf x y).mp hab⟩
  · rintro ⟨hjk, a, b, ha, hb, hab⟩
    exact ⟨hjk, f a, f b, by rw [List.getElem?_map, ha]; rfl, by rw [List.getElem?_map, hb]; rfl, (hf a b).mpr hab⟩

/-- The nodes from `n` up to `next` with their depths: each list holds nodes that are deeper than its own node and
not deeper than any node in between. -/
structure Ranked (g : MenuGraph) (f : Nat → Nat) (n next : Nat) (ids : List Nat) : Prop where
  top : ∀ k ∈ ids, ∀ j, n ≤ j → j < k → f k ≤ f j
  inner : ∀ q, n ≤ q → q < next → ∀ k ∈ g.entriesOf q, f q < f k ∧ ∀ j, q < j → j < k → f k ≤ f j

section Ranking

variable {g : MenuGraph} {f : Nat → Nat} {n mid next : Nat} {ids : List Nat}

lemma Ranked.nil : Ranked g f n n [] where
  top := by simp
  inner q hq hn := absurd hq (Nat.not_le.mpr hn)

lemma Ranked.cons {parent : Option Nat} (hes : Ranked g f (n + 1) mid (g.entriesOf n))
    (hkids : Family g (some n) (n + 1) mid (g.entriesOf n)) (hms : Ranked g f mid next ids)
    (hids : Family g parent mid next ids) (hbelow : ∀ j, n < j → j < mid → f n < f j)
    (hafter : mid < next → f mid ≤ f n) :
    Ranked g f n next (n :: ids) where
  top k hk j hj hjk := by
    rcases List.mem_cons.mp hk with rfl | hk
    · omega
    have hw := hids.within k hk
    have hkn : f k ≤ f n := by
      obtain rfl | hm := Nat.eq_or_lt_of_le hw.1
      · exact hafter hw.2
      · exact (hms.top k hk mid (Nat.le_refl _) hm).trans (hafter (by omega))
    by_cases hm : mid ≤ j
    · exact hms.top k hk j hm hjk
    · obtain rfl | hj := Nat.eq_or_lt_of_le hj
      · exact hkn
      · have := hbelow j hj (by omega)
        omega
  inner q hq hn k hk := by
    by_cases hm : mid ≤ q
    · exact hms.inner q hm hn k hk
    · obtain rfl | hq := Nat.eq_or_lt_of_le hq
      · have hw := hkids.within k hk
        exact ⟨hbelow k hw.1 hw.2, fun j hj hjk => hes.top k hk j hj hjk⟩
      · exact hes.inner q hq (by omega) k hk

def At (f : Nat → Nat) (n : Nat) (es : List Entry) : Prop := ∀ k e, es[k]? = some e → f (n + k) = e.depth

lemma At.append {es fs : List Entry} (h : At f n (es ++ fs)) : At f n es ∧ At f (n + es.length) fs := by
  constructor
  · intro k e hk
    have hlt := (List.getElem?_eq_some_iff.mp hk).1
    exact h k e (by rwa [List.getElem?_append_left hlt])
  · intro k e hk
    rw [Nat.add_assoc]
    apply h
    rw [List.getElem?_append_right (Nat.le_add_right _ _)]
    rwa [Nat.add_sub_cancel_left]

lemma At.tail {e : Entry} {es : List Entry} (h : At f n (e :: es)) : f n = e.depth ∧ At f (n + 1) es := by
  refine ⟨h 0 e rfl, ?_⟩
  intro k d hk
  rw [show n + 1 + k = n + (k + 1) by omega]
  exact h (k + 1) d hk

lemma At.exists {es : List Entry} (h : At f n es) {j : Nat} (hj : n ≤ j) (hn : j < n + es.length) :
    ∃ e ∈ es, f j = e.depth := by
  have hlt : j - n < es.length := by omega
  have hk : es[j - n]? = some es[j - n] := List.getElem?_eq_getElem hlt
  have hf := h _ _ hk
  rw [show n + (j - n) = j by omega] at hf
  exact ⟨_, List.getElem_mem hlt, hf⟩

lemma menu_entries {e : Entry} {below : List Entry} (hc : e.opened = false → below = []) :
    (e.menu (nest below)).entries = nest below := by
  cases ho : e.opened with
  | true => simp [Entry.menu, ho, Menu.entries]
  | false =>
    rw [hc ho, nest]
    simp [Entry.menu, ho, Menu.entries]

theorem Nested.ranked {es : List Entry} (hes : Nested es) {parent : Option Nat} (hf : At f n es)
    (h : Holds g parent n (nest es) ids next) : next = n + es.length ∧ Ranked g f n next ids := by
  induction hes generalizing parent n ids next with
  | nil =>
    rw [nest] at h
    cases h
    exact ⟨rfl, .nil⟩
  | @cons e below after hs hc _ _ ihb iha =>
    rw [nest_of_splits hs] at h
    obtain ⟨mid, rest, rfl, hbelow, hafter⟩ := h.uncons
    rw [menu_entries hc] at hbelow
    obtain ⟨hn, hf⟩ := hf.tail
    obtain ⟨hfb, hfa⟩ := hf.append
    obtain ⟨rfl, hrb⟩ := ihb hfb hbelow
    obtain ⟨rfl, hra⟩ := iha hfa hafter
    refine ⟨by simp only [List.length_cons, List.length_append]; omega, ?_⟩
    apply hrb.cons hbelow.family hra hafter.family
    · intro j hj hm
      obtain ⟨d, hd, hj⟩ := hfb.exists hj hm
      rw [hn, hj]
      exact hs.below d hd
    · intro hlt
      cases after with
      | nil => simp at hlt
      | cons d after =>
        rw [hn, hfa.tail.1]
        exact hs.after d rfl

end Ranking

lemma shallower_iff {xs : List Nat} {f : Nat → Nat} {n : Nat} (hf : ∀ k x, xs[k]? = some x → f (n + k) = x)
    {j k : Nat} : Shallower xs j k ↔ j < k ∧ k < xs.length ∧ f (n + j) < f (n + k) := by
  constructor
  · rintro ⟨hjk, a, b, ha, hb, hab⟩
    have hk := (List.getElem?_eq_some_iff.mp hb).1
    rw [hf j a ha, hf k b hb]
    exact ⟨hjk, hk, hab⟩
  · rintro ⟨hjk, hk, hlt⟩
    have ha : xs[j]? = some xs[j] := List.getElem?_eq_getElem (by omega)
    have hb : xs[k]? = some xs[k] := List.getElem?_eq_getElem hk
    rw [hf j _ ha, hf k _ hb] at hlt
    exact ⟨hjk, _, _, ha, hb, hlt⟩

lemma Ranked.shallower {g : MenuGraph} {xs : List Nat} {f : Nat → Nat} {n : Nat} {ids : List Nat}
    (h : Ranked g f n (n + xs.length) ids) (hf : ∀ k x, xs[k]? = some x → f (n + k) = x) {k : Nat} :
    (n + k ∈ ids → ∀ j, ¬Shallower xs j k) ∧
      ∀ i, i < k → k < xs.length → n + k ∈ g.entriesOf (n + i) → Encloses xs i k := by
  constructor
  · intro hk j hj
    obtain ⟨hjk, _, hlt⟩ := (shallower_iff hf).mp hj
    have hle := h.top (n + k) hk (n + j) (Nat.le_add_right _ _) (by omega)
    omega
  · intro i hik hk hmem
    obtain ⟨hlt, hbetween⟩ := h.inner (n + i) (Nat.le_add_right _ _) (by omega) (n + k) hmem
    refine ⟨(shallower_iff hf).mpr ⟨hik, hk, hlt⟩, ?_⟩
    intro j hij hj
    obtain ⟨hjk, _, hlt⟩ := (shallower_iff hf).mp hj
    have hle := hbetween (n + j) (by omega) (by omega)
    omega

theorem Sound.enclosed {d : Draft} (hd : Sound d) (g : MenuGraph) {root : Nat} {g' : MenuGraph}
    (hp : g.plant none d.menu = (root, g')) {xs : List Nat} (hxs : xs = d.entries.reverse.map Entry.depth) :
    (∀ j k, Encloses xs j k → root + 1 + k ∈ g'.entriesOf (root + 1 + j)) ∧
      ∀ k, k < xs.length → (∀ j, ¬Shallower xs j k) → root + 1 + k ∈ g'.entriesOf root := by
  let f : Nat → Nat := fun n => xs[n - (root + 1)]?.getD 0
  have hf : ∀ k x, xs[k]? = some x → f (root + 1 + k) = x := by
    intro k x hk
    simp only [f, Nat.add_sub_cancel_left, hk, Option.getD_some]
  have hat : At f (root + 1) d.entries.reverse := by
    intro k e hk
    exact hf k e.depth (by rw [hxs, List.getElem?_map, hk]; rfl)
  have hes := g.plant_holds_entries d.menu hp
  obtain ⟨hnext, hr⟩ := hd.nested.ranked hat hes
  have hfam := hes.family
  have hlen : d.entries.reverse.length = xs.length := by rw [hxs, List.length_map]
  rw [hlen] at hnext
  rw [hnext] at hr hfam
  have hplaced : ∀ k, k < xs.length → root + 1 + k ∈ g'.entriesOf root ∨
      ∃ i, i < k ∧ root + 1 + k ∈ g'.entriesOf (root + 1 + i) := by
    intro k hk
    rcases hfam.placed (root + 1 + k) (Nat.le_add_right _ _) (by omega) with h | ⟨q, hq, hqk, h⟩
    · exact Or.inl h
    · obtain ⟨i, rfl⟩ := Nat.exists_eq_add_of_le hq
      exact Or.inr ⟨i, by omega, h⟩
  constructor
  · intro j k hjk
    have hk : k < xs.length := ((shallower_iff hf).mp hjk.1).2.1
    rcases hplaced k hk with h | ⟨i, hik, h⟩
    · exact absurd hjk.1 ((hr.shallower hf).1 h j)
    · rwa [hjk.unique ((hr.shallower hf).2 i hik hk h)]
  · intro k hk hnone
    rcases hplaced k hk with h | ⟨i, hik, h⟩
    · exact h
    · exact absurd ((hr.shallower hf).2 i hik hk h).1 (hnone i)

end PageStencil.Outline
