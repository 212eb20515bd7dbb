import Mathlib.Data.Set.Insert
import PageStencil.Proofs.Markup.Local

/-!
A forest that has been worked on. Its nodes may have got other tags and other children, but no old node has come to
another place than it had.
-/

namespace PageStencil.Markup.Forest

variable {f g h : Forest} {n k p root : Nat} {tags kids tags' kids' : Set Nat}

def shape? (f : Forest) (n : Nat) : Option (Leaf ⊕ Unit) := (f.own? n).map (Sum.map id fun _ => ())

/-- Only some nodes have got other tags and only some other children; an old node that stands below another stood there
before. -/
structure Touched (tags kids : Set Nat) (f g : Forest) : Prop where
  sound : g.Sound
  le : f.next ≤ g.next
  shape : ∀ k < f.next, g.shape? k = f.shape? k
  own : ∀ k < f.next, k ∉ tags → g.own? k = f.own? k
  children : ∀ k < f.next, k ∉ kids → g.childNodes k = f.childNodes k
  place : ∀ k < f.next, ∀ p, k ∈ g.childNodes p → k ∈ f.childNodes p

def Filled (f : Forest) (n : Nat) : Prop :=
  ∃ t ∈ f.children n, t.isElement = true ∨ ∃ k content, t = .leaf k content ∧ Text.isBlankText content.content = false

lemma shape?_congr (h : g.own? k = f.own? k) : g.shape? k = f.shape? k := by
  rw [shape?, h, shape?]

lemma own?_of_shape? (h : f.shape? n = some (.inr ())) : ∃ tag, f.own? n = some (.inr tag) := by
  obtain ⟨o, ho, hs⟩ := Option.map_eq_some_iff.mp h
  cases o with
  | inl c => cases hs
  | inr tag => exact ⟨tag, ho⟩

lemma shape?_of_own? {tag : Tag} (h : f.own? n = some (.inr tag)) : f.shape? n = some (.inr ()) := by
  rw [shape?, h]
  rfl

lemma childNodes_of_leaf {c : Leaf} (h : f.own? n = some (.inl c)) : f.childNodes n = [] := by
  obtain ⟨t, ht, hown⟩ := Option.map_eq_some_iff.mp h
  rw [childNodes_of_find? ht, Tree.own_eq_inl_iff.mp hown]
  rfl

lemma next_setText? (f : Forest) (n : Nat) (s : String) : (f.setText? n (some s)).next = f.next + 1 := by
  have hclear : (f.clear n).next = f.next := by
    rw [clear]
    split <;> rfl
  rw [setText?, hclear]

lemma exists_find? {o : Leaf ⊕ Tag} (h : f.own? n = some o) : ∃ t, f.find? n = some t := by
  obtain ⟨t, ht, _⟩ := Option.map_eq_some_iff.mp h
  exact ⟨t, ht⟩

lemma filled_iff : f.Filled n ↔ (f.tree n).isEmpty = false := by
  have hchildren : (f.tree n).children = f.children n := by
    rw [tree, Forest.children]
    cases f.find? n <;> rfl
  rw [Tree.isEmpty, hchildren, List.all_eq_false, Filled]
  refine exists_congr fun t => and_congr_right fun _ => ?_
  cases t with
  | leaf k content => simp [Tree.isElement, Tree.tag?]
  | element k tag cs => simp [Tree.isElement, Tree.tag?]

namespace Sound

lemma lt_of_own? (hf : f.Sound) {o : Leaf ⊕ Tag} (h : f.own? n = some o) : n < f.next := by
  obtain ⟨t, ht⟩ := exists_find? h
  exact hf.lt_of_find?_self ht

lemma lt_of_shape? (hf : f.Sound) {o : Leaf ⊕ Unit} (h : f.shape? n = some o) : n < f.next := by
  obtain ⟨o, ho, _⟩ := Option.map_eq_some_iff.mp h
  exact hf.lt_of_own? ho

lemma lt_of_childNodes (hf : f.Sound) (h : k ∈ f.childNodes p) : k < f.next := by
  obtain ⟨s, hs, hk⟩ := find?_of_childNodes h
  exact hf.lt_of_find? hs (hf.mem_of_below hs (Tree.mem_labels_of_childLabels hk)).1

lemma find?_of_children (hf : f.Sound) {t : Tree Node} (h : t ∈ f.children n) : f.find? t.label = some t := by
  cases hs : f.find? n with
  | none =>
    rw [Forest.children, hs] at h
    cases h
  | some s => exact hf.find?_child hs (children_of_find? hs ▸ h)

lemma children_eq_leaf (hf : f.Sound) (hn : f.childNodes n = [k]) {c : Leaf} (hk : f.own? k = some (.inl c)) :
    f.children n = [.leaf k c] := by
  obtain ⟨t, ht, rfl⟩ := List.map_eq_singleton_iff.mp hn
  obtain ⟨u, hu, hown⟩ := Option.map_eq_some_iff.mp hk
  rw [hf.find?_of_children (ht ▸ List.mem_singleton_self t)] at hu
  cases hu
  rw [ht, ← Tree.own_eq_inl_iff.mp hown]

lemma filled_iff_shape? (hf : f.Sound) : f.Filled n ↔ ∃ k ∈ f.childNodes n,
    ∀ content, f.shape? k = some (.inl content) → Text.isBlankText content.content = false := by
  have hone : ∀ t ∈ f.children n,
      (t.isElement = true ∨ ∃ k content, t = .leaf k content ∧ Text.isBlankText content.content = false) ↔
        ∀ content, f.shape? t.label = some (.inl content) → Text.isBlankText content.content = false := by
    intro t ht
    rw [shape?, own?, hf.find?_of_children ht]
    cases t <;> simp [Tree.isElement, Tree.tag?, Tree.own]
  rw [Filled, childNodes]
  simp only [List.mem_map, exists_exists_and_eq_and]
  exact exists_congr fun t => and_congr_right (hone t)

lemma filled_congr (hf : f.Sound) (hg : g.Sound) (hchildren : g.childNodes n = f.childNodes n)
    (hshape : ∀ k ∈ f.childNodes n, g.shape? k = f.shape? k) : g.Filled n ↔ f.Filled n := by
  rw [hf.filled_iff_shape?, hg.filled_iff_shape?, hchildren]
  exact exists_congr fun k => and_congr_right fun hk => by rw [hshape k hk]

lemma within_iff_under (hf : f.Sound) (hplace : ∀ q, k ∈ f.childNodes q → q = p) (hne : k ≠ root) :
    f.within root k = true ↔ f.within root p = true ∧ k ∈ f.childNodes p := by
  constructor
  · intro hw
    obtain ⟨q, hq, hk⟩ := hf.exists_parent hw hne
    obtain rfl := hplace q hk
    exact ⟨hq, hk⟩
  · rintro ⟨hw, hk⟩
    exact hf.within_child hw hk

end Sound

namespace Touched

lemma refl (hf : f.Sound) : Touched ∅ ∅ f f :=
  ⟨hf, Nat.le_refl _, fun _ _ => rfl, fun _ _ _ => rfl, fun _ _ _ => rfl, fun _ _ _ hp => hp⟩

lemma trans (hfg : Touched tags kids f g) (hgh : Touched tags' kids' g h) : Touched (tags ∪ tags') (kids ∪ kids') f h where
  sound := hgh.sound
  le := Nat.le_trans hfg.le hgh.le
  shape k hk := (hgh.shape k (Nat.lt_of_lt_of_le hk hfg.le)).trans (hfg.shape k hk)
  own k hk hn := by
    rw [Set.mem_union, not_or] at hn
    exact (hgh.own k (Nat.lt_of_lt_of_le hk hfg.le) hn.2).trans (hfg.own k hk hn.1)
  children k hk hn := by
    rw [Set.mem_union, not_or] at hn
    exact (hgh.children k (Nat.lt_of_lt_of_le hk hfg.le) hn.2).trans (hfg.children k hk hn.1)
  place k hk p hp := hfg.place k hk p (hgh.place k (Nat.lt_of_lt_of_le hk hfg.le) p hp)

lemma mono (h : Touched tags kids f g) (htags : tags ⊆ tags') (hkids : kids ⊆ kids') : Touched tags' kids' f g where
  sound := h.sound
  le := h.le
  shape := h.shape
  own k hk hn := h.own k hk fun hm => hn (htags hm)
  children k hk hn := h.children k hk fun hm => hn (hkids hm)
  place := h.place

lemma loose (h : Touched tags kids f g) : Touched tags Set.univ f g := h.mono (Set.Subset.refl _) (Set.subset_univ _)

lemma filled_iff (h : Touched tags kids f g) (hf : f.Sound) (hn : n < f.next) (hkids : n ∉ kids) :
    g.Filled n ↔ f.Filled n :=
  hf.filled_congr h.sound (h.children n hn hkids) fun k hk => h.shape k (hf.lt_of_childNodes hk)

section Steps

lemma setTag (hf : f.Sound) (n : Nat) (change : Tag → Tag) : Touched {n} ∅ f (f.setTag n change) where
  sound := hf.setTag n change
  le := Nat.le_refl _
  shape k _ := by
    by_cases hk : k = n
    · subst hk
      rw [shape?, hf.own?_setTag_self, Option.map_map, shape?]
      congr 1
      funext o
      cases o <;> rfl
    · exact shape?_congr (hf.own?_setTag hk change)
  own k _ hk := hf.own?_setTag hk change
  children k _ _ := hf.childNodes_setTag change
  place k _ p hp := by rwa [hf.childNodes_setTag] at hp

lemma detach (hf : f.Sound) (n : Nat) : Touched ∅ {p | n ∈ f.childNodes p} f (f.detach n) where
  sound := hf.detach n
  le := (Confined.detach hf.beside_nil (Sound.outside_nil n)).le
  shape k _ := shape?_congr hf.own?_detach
  own k _ _ := hf.own?_detach
  children k _ hk := by
    rw [hf.childNodes_detach, List.filter_eq_self]
    intro c hc
    rw [decide_eq_true_eq]
    rintro rfl
    exact hk hc
  place k _ p hp := by
    rw [hf.childNodes_detach] at hp
    exact (List.mem_filter.mp hp).1

lemma clear (hf : f.Sound) (n : Nat) : Touched ∅ {n} f (f.clear n) where
  sound := hf.clear n
  le := (Confined.clear hf.beside_nil (Sound.outside_nil n)).le
  shape k _ := shape?_congr hf.own?_clear
  own k _ _ := hf.own?_clear
  children k _ hk := hf.childNodes_clear hk
  place k _ p hp := by
    by_cases hpn : p = n
    · subst hpn
      rw [hf.childNodes_clear_self] at hp
      cases hp
    · rwa [hf.childNodes_clear hpn] at hp

lemma setText? (hf : f.Sound) (hn : f.shape? n = some (.inr ())) (text : Option String) :
    Touched ∅ {n} f (f.setText? n text) := by
  cases text with
  | none => exact (refl hf).mono (Set.Subset.refl _) (Set.empty_subset _)
  | some s =>
    obtain ⟨tag, htag⟩ := own?_of_shape? hn
    have hlt := hf.lt_of_own? htag
    obtain ⟨hself, hnew⟩ : (f.setText? n (some s)).childNodes n = [f.next] ∧
        (f.setText? n (some s)).own? f.next = some (.inl (.text s)) := hf.setText?_self htag
    have hsound := hf.setText? n (some s)
    refine ⟨hsound, (Confined.setText? hf.beside_nil (Sound.outside_nil n) (some s)).le,
      fun k hk => shape?_congr (hf.own?_setText? hk), fun k hk _ => hf.own?_setText? hk,
      fun k hk hne => hf.childNodes_setText? hk hne, fun k hk p hp => ?_⟩
    -- The only new node is the text, which holds nothing.
    by_cases hpn : p = n
    · rw [hpn, hself, List.mem_singleton] at hp
      exact absurd hp (Nat.ne_of_lt hk)
    · rcases Nat.lt_trichotomy p f.next with hlt | rfl | hgt
      · rwa [hf.childNodes_setText? hlt hpn] at hp
      · rw [childNodes_of_leaf hnew] at hp
        cases hp
      · obtain ⟨u, hu, _⟩ := find?_of_childNodes hp
        have hle := hsound.lt_of_find?_self hu
        rw [next_setText?] at hle
        omega

lemma adopt_plant (hf : f.Sound) {parent : Nat} (hparent : f.shape? parent = some (.inr ())) (t : Tree Unit) :
    Touched ∅ {parent} f ((f.plant t).2.adopt parent f.next) := by
  obtain ⟨tag, htag⟩ := own?_of_shape? hparent
  have hlt := hf.lt_of_own? htag
  have hadopted := Confined.adopt (hf.plant t).beside_nil (Sound.outside_nil f.next) (Sound.outside_nil parent)
  refine ⟨(hf.plant t).confined hadopted, Nat.le_trans (Nat.le_add_right _ _) hadopted.le,
    fun k hk => shape?_congr (hf.own?_adopt_plant hlt hk), fun k hk _ => hf.own?_adopt_plant hlt hk,
    fun k hk hne => hf.childNodes_adopt_plant hlt hk hne, fun k hk p hp => ?_⟩
  rcases Nat.lt_or_ge p f.next with hp' | hp'
  · by_cases hpn : p = parent
    · subst hpn
      rw [hf.childNodes_adopt_plant_self htag, List.mem_append, List.mem_singleton] at hp
      exact hp.resolve_right (Nat.ne_of_lt hk)
    · rwa [hf.childNodes_adopt_plant hlt hp' hpn] at hp
  · exact absurd hk (Nat.not_lt.mpr (hf.le_of_mem_childNodes_adopt_plant hlt hp' hp))

lemma mapTags (hf : f.Sound) (root : Nat) (change : Tag → Tag) :
    Touched Set.univ ∅ f (f.update root (Tree.mapTags change)) where
  sound := hf.confined (Confined.mapTags hf.beside_nil (Sound.outside_nil root) change)
  le := Nat.le_refl _
  shape k _ := by
    cases hw : f.within root k with
    | true =>
      rw [shape?, hf.own?_mapTags hw, Option.map_map, shape?]
      congr 1
      funext o
      cases o <;> rfl
    | false =>
      have hfind : (f.update root (Tree.mapTags change)).find? k =
          (f.find? k).map (Tree.modify root (Tree.mapTags change)) := hf.find?_mapTags_outside hw
      by_cases hk : k = root
      · subst hk
        cases ht : f.find? k with
        | none =>
          rw [ht] at hfind
          rw [shape?, own?, hfind, shape?, own?, ht]
          rfl
        | some t =>
          rw [within_self ht] at hw
          cases hw
      · exact shape?_congr (own?_of_modify hfind hk)
  own k _ hk := absurd (Set.mem_univ k) hk
  children k _ _ := hf.childNodes_mapTags
  place k _ p hp := by rwa [hf.childNodes_mapTags] at hp

end Steps

end Touched

end PageStencil.Markup.Forest
