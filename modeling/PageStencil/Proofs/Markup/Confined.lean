import PageStencil.Proofs.Markup.Forest

/-!
Changes to a forest that leave some of its trees alone. The other trees may be taken apart and put together in any
way; what they hold afterwards they held before, or it is new, and no node comes to stand in two places.
-/

namespace PageStencil.Markup

def uses (ts : List (Tree Node)) (k : Nat) : Nat := (ts.flatMap Tree.labels).count k

def fresh (start stop k : Nat) : Nat := if start ≤ k ∧ k < stop then 1 else 0

section Uses

variable {ts us : List (Tree Node)} {k n : Nat}

@[simp] lemma uses_nil (k : Nat) : uses [] k = 0 := rfl

@[simp] lemma uses_append (ts us : List (Tree Node)) (k : Nat) : uses (ts ++ us) k = uses ts k + uses us k := by
  rw [uses, List.flatMap_append, List.count_append, uses, uses]

@[simp] lemma uses_cons (t : Tree Node) (ts : List (Tree Node)) (k : Nat) :
    uses (t :: ts) k = t.labels.count k + uses ts k := by
  rw [uses, List.flatMap_cons, List.count_append, uses]

lemma uses_perm (h : ts.Perm us) (k : Nat) : uses ts k = uses us k := (h.flatMap_right Tree.labels).count_eq k

lemma uses_eq_zero_iff : uses ts k = 0 ↔ k ∉ ts.flatMap Tree.labels := List.count_eq_zero

lemma nodup_iff_uses : (ts.flatMap Tree.labels).Nodup ↔ ∀ k, uses ts k ≤ 1 := List.nodup_iff_count_le_one

lemma count_labels (t : Tree Node) (k : Nat) :
    t.labels.count k = (if t.label = k then 1 else 0) + uses t.children k := by
  rw [Tree.labels_eq, List.count_cons, uses, Nat.add_comm]
  simp

lemma count_withChildren_le (ts : List (Tree Node)) (t : Tree Node) (k : Nat) :
    (t.withChildren ts).labels.count k ≤ (if t.label = k then 1 else 0) + uses ts k := by
  rw [count_labels, Tree.label_withChildren]
  cases t <;> simp [Tree.withChildren, Tree.children]

lemma count_append_le (ts : List (Tree Node)) (t : Tree Node) (k : Nat) :
    (t.append ts).labels.count k ≤ t.labels.count k + uses ts k := by
  rw [count_labels, count_labels, Tree.label_append]
  cases t <;> simp [Tree.append, Tree.children, Nat.add_assoc]

lemma labels_mapTags {α : Type} (change : Tag → Tag) (t : Tree α) : (t.mapTags change).labels = t.labels := by
  induction t using Tree.ind with
  | hleaf l c => rfl
  | helement l t cs ih =>
    rw [Tree.mapTags, Tree.labels, Tree.labels, Tree.mapTagsOfAll_eq, Tree.labelsOfAll_eq, Tree.labelsOfAll_eq,
      List.flatMap_map, List.flatMap_congr ih]

mutual

lemma labels_number {α : Type} (start : Nat) : (t : Tree α) → (t.number start).labels = List.range' start t.size
  | .leaf _ _ => rfl
  | .element _ _ cs => by
    rw [Tree.number, Tree.labels, Tree.labelsOfAll_eq, labels_numberAll (start + 1) cs, Tree.size, List.range'_succ]

lemma labels_numberAll {α : Type} (start : Nat) :
    (ts : List (Tree α)) → (Tree.numberAll start ts).flatMap Tree.labels = List.range' start (Tree.sizeAll ts)
  | [] => rfl
  | t :: ts => by
    rw [Tree.numberAll, List.flatMap_cons, labels_number start t, labels_numberAll (start + t.size) ts, Tree.sizeAll,
      List.range'_append_1]

end

lemma mem_labels_number {α : Type} {start k : Nat} {t : Tree α} :
    k ∈ (t.number start).labels ↔ start ≤ k ∧ k < start + t.size := by
  rw [labels_number, List.mem_range'_1]

lemma count_number_le {α : Type} (t : Tree α) (start k : Nat) :
    (t.number start).labels.count k ≤ fresh start (start + t.size) k := by
  rw [labels_number, fresh]
  split_ifs with h
  · exact List.nodup_iff_count_le_one.mp List.nodup_range' k
  · rw [Nat.le_zero, List.count_eq_zero, List.mem_range'_1]
    exact h

lemma uses_replace {s : Tree Node} (hn : (ts.flatMap Tree.labels).Nodup) (hs : ts.findSome? (Tree.find? n) = some s)
    (new : Tree Node → List (Tree Node)) (k : Nat) :
    uses (ts.flatMap (Tree.replace n new)) k + s.labels.count k = uses ts k + uses (new s) k := by
  obtain ⟨p, rfl, rfl, hd⟩ := Tree.exists_place_apart hn hs
  have hnew := (p.labels_fill_perm (new s)).count_eq k
  have hold := (p.labels_fill_perm [s]).count_eq k
  rw [List.count_append, List.flatMap_singleton] at hold
  rw [List.count_append] at hnew
  rw [Tree.Place.replace_fill fun hm => hd hm s.label_mem, uses, uses, uses, hnew, hold]
  omega

lemma uses_replace_le (hn : (ts.flatMap Tree.labels).Nodup) (new : Tree Node → List (Tree Node)) (more : Nat)
    (h : ∀ s, ts.findSome? (Tree.find? n) = some s → uses (new s) k ≤ s.labels.count k + more) :
    uses (ts.flatMap (Tree.replace n new)) k ≤ uses ts k + more := by
  cases hs : ts.findSome? (Tree.find? n) with
  | none =>
    rw [Tree.replaceIn_of_not_mem (Tree.findIn?_eq_none_iff.mp hs)]
    omega
  | some s =>
    have hr := uses_replace hn hs new k
    have hm := h s hs
    omega

end Uses

namespace Forest

lemma Sound.uses_le {f : Forest} (hf : f.Sound) (k : Nat) : uses f.trees k ≤ 1 :=
  nodup_iff_uses.mp (nodes_eq f ▸ hf.nodup) k

lemma Sound.uses_eq_zero {f : Forest} (hf : f.Sound) {k : Nat} (hk : f.next ≤ k) : uses f.trees k = 0 := by
  rw [uses_eq_zero_iff, ← nodes_eq]
  exact fun hm => Nat.not_lt.mpr hk (hf.bounded k hm)

lemma sound_of_uses {f : Forest} (h : ∀ k, uses f.trees k ≤ fresh 0 f.next k) : f.Sound where
  nodup := by
    rw [nodes_eq, nodup_iff_uses]
    intro k
    have hk := h k
    rw [fresh] at hk
    split at hk <;> omega
  bounded (k : Nat) hk := by
    have hu := h k
    rw [nodes_eq] at hk
    have hpos : 0 < uses f.trees k := List.count_pos_iff.mpr hk
    have hlt : k < f.next := by
      rw [fresh] at hu
      split at hu <;> omega
    exact hlt

structure Beside (others : List (Tree Node)) (f : Forest) : Prop where
  sound : f.Sound
  split : ∃ mine, f.trees.Perm (mine ++ others)

def Outside (others : List (Tree Node)) (n : Nat) : Prop := n ∉ others.flatMap Tree.labels

/-- The change keeps `others`, and takes no node for the rest that it had not, but for new ones. -/
structure Confined (others : List (Tree Node)) (f g : Forest) : Prop where
  le : f.next ≤ g.next
  keeps : ∀ {mine}, f.trees.Perm (mine ++ others) → ∃ mine', g.trees.Perm (mine' ++ others) ∧
    ∀ k, uses mine' k ≤ uses mine k + fresh f.next g.next k

variable {others : List (Tree Node)} {f g h : Forest} {n k : Nat} {s : Tree Node}

lemma Beside.find?_mine (hb : Beside others f) {mine : List (Tree Node)} (hm : f.trees.Perm (mine ++ others))
    (hn : Outside others n) : f.find? n = mine.findSome? (Tree.find? n) := by
  rw [find?_eq, Tree.find?_perm (nodes_eq f ▸ hb.sound.nodup) hm, List.findSome?_append,
    Tree.findIn?_eq_none_iff.mpr hn, Option.or_none]

lemma Beside.uses_le (hb : Beside others f) {mine : List (Tree Node)} (hm : f.trees.Perm (mine ++ others)) (k : Nat) :
    uses mine k + uses others k ≤ 1 := by
  rw [← uses_append, ← uses_perm hm]
  exact hb.sound.uses_le k

lemma Beside.nodup_mine (hb : Beside others f) {mine : List (Tree Node)} (hm : f.trees.Perm (mine ++ others)) :
    (mine.flatMap Tree.labels).Nodup := by
  rw [nodup_iff_uses]
  intro k
  have := hb.uses_le hm k
  omega

lemma Beside.outside_of_le (hb : Beside others f) (hk : f.next ≤ k) : Outside others k := by
  obtain ⟨mine, hm⟩ := hb.split
  have hz := hb.sound.uses_eq_zero hk
  rw [uses_perm hm, uses_append] at hz
  exact uses_eq_zero_iff.mp (by omega)

lemma Beside.outside_of_find? (hb : Beside others f) (hn : Outside others n) (hs : f.find? n = some s)
    (hk : k ∈ s.labels) : Outside others k := by
  obtain ⟨mine, hm⟩ := hb.split
  rw [hb.find?_mine hm hn] at hs
  obtain ⟨t, ht, hs⟩ := List.exists_of_findSome?_eq_some hs
  have hpos : 0 < uses mine k :=
    List.count_pos_iff.mpr (List.mem_flatMap.mpr ⟨t, ht, (Tree.sublist_of_find? hs).subset hk⟩)
  have hle := hb.uses_le hm k
  exact uses_eq_zero_iff.mp (by omega)

lemma Beside.find?_other (hb : Beside others f) (hg : Beside others g) (hk : ¬ Outside others k) :
    g.find? k = f.find? k := by
  rw [Outside, not_not] at hk
  have find?_others : ∀ {f : Forest}, Beside others f → f.find? k = others.findSome? (Tree.find? k) := by
    intro f hf
    obtain ⟨mine, hm⟩ := hf.split
    have hpos : 0 < uses others k := List.count_pos_iff.mpr hk
    have hle := hf.uses_le hm k
    have hz : uses mine k = 0 := by omega
    rw [find?_eq, Tree.find?_perm (nodes_eq f ▸ hf.sound.nodup) hm, List.findSome?_append,
      Tree.findIn?_eq_none_iff.mpr (uses_eq_zero_iff.mp hz), Option.none_or]
  rw [find?_others hb, find?_others hg]

namespace Confined

lemma refl (others : List (Tree Node)) (f : Forest) : Confined others f f where
  le := Nat.le_refl _
  keeps {mine} hm := ⟨mine, hm, fun _ => Nat.le_add_right _ _⟩

lemma trans (hfg : Confined others f g) (hgh : Confined others g h) : Confined others f h where
  le := Nat.le_trans hfg.le hgh.le
  keeps hm := by
    obtain ⟨mine', hm', hu⟩ := hfg.keeps hm
    obtain ⟨mine'', hm'', hu'⟩ := hgh.keeps hm'
    refine ⟨mine'', hm'', fun k => ?_⟩
    have h₁ := hu k
    have h₂ := hu' k
    have hle := hfg.le
    have hle' := hgh.le
    simp only [fresh] at h₁ h₂ ⊢
    split_ifs at h₁ h₂ ⊢ <;> omega

lemma beside (hc : Confined others f g) (hb : Beside others f) : Beside others g := by
  obtain ⟨mine, hm⟩ := hb.split
  obtain ⟨mine', hm', hu⟩ := hc.keeps hm
  refine ⟨sound_of_uses fun k => ?_, mine', hm'⟩
  have hk := hu k
  have hle := hc.le
  have hone := hb.uses_le hm k
  rw [uses_perm hm', uses_append]
  by_cases hn : f.next ≤ k
  · have hzero := hb.sound.uses_eq_zero hn
    rw [uses_perm hm, uses_append] at hzero
    simp only [fresh] at hk ⊢
    split_ifs at hk ⊢ <;> omega
  · simp only [fresh] at hk ⊢
    split_ifs at hk ⊢ <;> omega

lemma move (hb : Beside others f) (hn : Outside others n) (hs : f.find? n = some s) (ts : List (Tree Node))
    (new : Tree Node → List (Tree Node)) {next : Nat} (hle : f.next ≤ next)
    (hu : ∀ k, uses ts k + uses (new s) k ≤ s.labels.count k + fresh f.next next k) :
    Confined others f ⟨ts ++ f.trees.flatMap (Tree.replace n new), next⟩ where
  le := hle
  keeps {mine} hm := by
    refine ⟨ts ++ mine.flatMap (Tree.replace n new), ?_, fun k => ?_⟩
    · rw [List.append_assoc]
      refine List.Perm.append_left ts ((hm.flatMap_right _).trans ?_)
      rw [List.flatMap_append, Tree.replaceIn_of_not_mem hn]
    · rw [hb.find?_mine hm hn] at hs
      have hr := uses_replace (hb.nodup_mine hm) hs new k
      have hk := hu k
      rw [uses_append]
      change _ ≤ _ + fresh f.next next k
      omega

lemma update (hb : Beside others f) (hn : Outside others n) {change : Tree Node → Tree Node}
    (hu : ∀ s k, f.find? n = some s → (change s).labels.count k ≤ s.labels.count k) :
    Confined others f (f.update n change) := by
  cases hs : f.find? n with
  | none =>
    rw [Forest.update, replace_of_none hs]
    exact refl others f
  | some s =>
    have hm := move hb hn hs [] (fun u => [change u]) (Nat.le_refl _) (fun k => by
      have := hu s k hs
      simp only [uses_nil, uses_cons, Nat.zero_add, Nat.add_zero]
      omega)
    rwa [List.nil_append, ← replace_trees] at hm

lemma setTag (hb : Beside others f) (hn : Outside others n) (change : Tag → Tag) :
    Confined others f (f.setTag n change) := by
  refine update hb hn fun s k _ => ?_
  exact Nat.le_of_eq (by rw [count_labels, count_labels, Tree.label_mapTag, Tree.children_mapTag])

lemma detach (hb : Beside others f) (hn : Outside others n) : Confined others f (f.detach n) := by
  rw [Forest.detach]
  cases hs : f.find? n with
  | none => exact refl others f
  | some s =>
    have hm := move hb hn hs [s] (fun _ => []) (Nat.le_refl _) fun k => by simp
    rwa [← replace_trees] at hm

lemma clear (hb : Beside others f) (hn : Outside others n) : Confined others f (f.clear n) := by
  rw [Forest.clear, children]
  cases hs : f.find? n with
  | none => exact refl others f
  | some s =>
    rw [Option.map_some, Option.getD_some]
    split
    · exact refl others f
    · have hm := move hb hn hs s.children (fun u => [u.withChildren []]) (Nat.le_refl _) fun k => by
        have hc := count_withChildren_le [] s k
        rw [count_labels s]
        simp only [uses_cons, uses_nil] at hc ⊢
        omega
      rwa [← replace_trees] at hm

lemma next_clear (f : Forest) (n : Nat) : (f.clear n).next = f.next := by
  rw [Forest.clear]
  split <;> rfl

lemma skip (others : List (Tree Node)) (f : Forest) {next : Nat} (h : f.next ≤ next) :
    Confined others f { f with next } where
  le := h
  keeps {mine} hm := ⟨mine, hm, fun _ => Nat.le_add_right _ _⟩

lemma setText? (hb : Beside others f) (hn : Outside others n) (text : Option String) :
    Confined others f (f.setText? n text) := by
  cases text with
  | none => exact refl others f
  | some text =>
    have hc := clear hb hn
    refine hc.trans ?_
    simp only [Forest.setText?, Forest.update]
    cases hs : (f.clear n).find? n with
    | none =>
      rw [replace_of_none hs]
      exact skip others _ (Nat.le_succ _)
    | some s =>
      have hm := move (hc.beside hb) hn hs []
        (fun u => [u.withChildren [.leaf (f.clear n).next (.text text)]]) (Nat.le_succ _) fun k => by
          have hw := count_withChildren_le [.leaf (f.clear n).next (.text text)] s k
          rw [count_labels s]
          simp only [uses_cons, uses_nil, Tree.labels, List.count_singleton, fresh, beq_iff_eq] at hw ⊢
          split_ifs at hw ⊢ <;> omega
      rwa [List.nil_append, ← replace_trees] at hm

lemma unwrap (hb : Beside others f) (hn : Outside others n) (h : f.unwrap n = .ok g) : Confined others f g := by
  rw [Forest.unwrap] at h
  cases hs : f.find? n with
  | none =>
    rw [hs] at h
    cases h
    exact refl others f
  | some s =>
    rw [hs] at h
    simp only at h
    split at h
    · cases h
    · cases h
      have hm := move hb hn hs [s.withChildren []] Tree.children (Nat.le_refl _) fun k => by
        have hc := count_withChildren_le [] s k
        rw [count_labels s]
        simp only [uses_cons, uses_nil] at hc ⊢
        omega
      rwa [← replace_trees] at hm

lemma plant {α : Type} (others : List (Tree Node)) (f : Forest) (t : Tree α) : Confined others f (f.plant t).2 where
  le := Nat.le_add_right _ _
  keeps {mine} hm := by
    refine ⟨t.number f.next :: mine, hm.cons _, fun k => ?_⟩
    have hc := count_number_le t f.next k
    rw [uses_cons]
    change _ ≤ _ + fresh f.next (f.next + t.size) k
    omega

lemma carry (hb : Beside others f) (hn : Outside others n) {taker : Nat} (ht : Outside others taker)
    (hs : f.find? n = some s) (ts : List (Tree Node)) {new : Tree Node → List (Tree Node)}
    {change : Tree Node → Tree Node} (htake : ∀ k, uses (new s) k + uses ts k ≤ s.labels.count k)
    (hgive : ∀ u k, (change u).labels.count k ≤ u.labels.count k + uses ts k) :
    Confined others f ((f.replace n new).update taker change) where
  le := Nat.le_refl _
  keeps {mine} hm := by
    have hleft : ∀ k, uses (mine.flatMap (Tree.replace n new)) k + uses ts k ≤ uses mine k := by
      intro k
      have hr := uses_replace (hb.nodup_mine hm) (hb.find?_mine hm hn ▸ hs) new k
      have hk := htake k
      omega
    have hnodup : ((mine.flatMap (Tree.replace n new)).flatMap Tree.labels).Nodup := by
      rw [nodup_iff_uses]
      intro k
      have hl := hleft k
      have hu := hb.uses_le hm k
      omega
    refine ⟨(mine.flatMap (Tree.replace n new)).flatMap (Tree.replace taker fun u => [change u]), ?_, fun k => ?_⟩
    · have hp := (hm.flatMap_right (Tree.replace n new)).flatMap_right (Tree.replace taker fun u => [change u])
      rwa [List.flatMap_append, Tree.replaceIn_of_not_mem hn, List.flatMap_append, Tree.replaceIn_of_not_mem ht,
        ← replace_trees, ← replace_trees] at hp
    · have hg := uses_replace_le (n := taker) (k := k) hnodup (fun u => [change u]) (uses ts k)
        fun u _ => by simpa only [uses_cons, uses_nil, Nat.add_zero] using hgive u k
      have hl := hleft k
      omega

lemma adopt (hb : Beside others f) (hn : Outside others n) {parent : Nat} (hp : Outside others parent) :
    Confined others f (f.adopt parent n) := by
  rw [Forest.adopt]
  cases hs : f.find? n with
  | none => exact refl others f
  | some s =>
    simp only
    split
    · exact refl others f
    · exact carry hb hn hp hs [s] (fun k => by simp) fun u k => count_append_le [s] u k

lemma append (hb : Beside others f) (hn : Outside others n) {parent : Nat} (hp : Outside others parent)
    (h : f.append parent n = .ok g) : Confined others f g := by
  rw [Forest.append] at h
  split at h
  · cases h
  · cases h
    exact adopt hb hn hp

lemma pour (hb : Beside others f) (hn : Outside others n) {taker : Nat} (ht : Outside others taker)
    (hs : f.find? n = some s) :
    Confined others f ((f.update n (Tree.withChildren [])).update taker (Tree.withChildren s.children)) := by
  refine carry hb hn ht hs s.children (fun k => ?_) fun u k => ?_
  · have hw := count_withChildren_le [] s k
    rw [count_labels s]
    simp only [uses_cons, uses_nil] at hw ⊢
    omega
  · have hw := count_withChildren_le s.children u k
    rw [count_labels u]
    omega

lemma merge (hb : Beside others f) (hn : Outside others n) {source : Nat} (hsource : Outside others source) :
    Confined others f (f.merge n source) := by
  have hc := clear hb hn
  have hb := hc.beside hb
  refine hc.trans ?_
  simp only [Forest.merge]
  cases hs : (f.clear n).find? source with
  | none => exact refl others _
  | some s =>
    have hp : Confined others (f.clear n) (if s.contains n then f.clear n else
        ((f.clear n).update source (Tree.withChildren [])).update n (Tree.withChildren s.children)) := by
      split
      · exact refl others _
      · exact pour hb hsource hn hs
    dsimp only
    cases s.tag? with
    | none => exact hp
    | some tag => exact hp.trans (setTag (hp.beside hb) hn _)

lemma mapTags (hb : Beside others f) (hn : Outside others n) (change : Tag → Tag) :
    Confined others f (f.update n (Tree.mapTags change)) :=
  update hb hn fun s k _ => Nat.le_of_eq (by rw [labels_mapTags])

end Confined

namespace Sound

lemma outside_nil (n : Nat) : Outside [] n := List.not_mem_nil

lemma beside_nil (hf : f.Sound) : Beside [] f := ⟨hf, f.trees, by rw [List.append_nil]⟩

lemma beside_self (hf : f.Sound) : Beside f.trees f := ⟨hf, [], by rw [List.nil_append]⟩

lemma confined (hf : f.Sound) (hc : Confined [] f g) : g.Sound := (hc.beside hf.beside_nil).sound

lemma detach (hf : f.Sound) (n : Nat) : (f.detach n).Sound := hf.confined (Confined.detach hf.beside_nil (outside_nil n))

lemma clear (hf : f.Sound) (n : Nat) : (f.clear n).Sound := hf.confined (Confined.clear hf.beside_nil (outside_nil n))

lemma setTag (hf : f.Sound) (n : Nat) (change : Tag → Tag) : (f.setTag n change).Sound :=
  hf.confined (Confined.setTag hf.beside_nil (outside_nil n) change)

lemma setText? (hf : f.Sound) (n : Nat) (text : Option String) : (f.setText? n text).Sound :=
  hf.confined (Confined.setText? hf.beside_nil (outside_nil n) text)

lemma plant {α : Type} (hf : f.Sound) (t : Tree α) : (f.plant t).2.Sound := hf.confined (Confined.plant [] f t)

lemma merge (hf : f.Sound) (target source : Nat) : (f.merge target source).Sound :=
  hf.confined (Confined.merge hf.beside_nil (outside_nil target) (outside_nil source))

end Sound

lemma Confined.added (hf : f.Sound) (h : Confined f.trees f g) : g.Sound ∧
    ∃ new, g.trees.Perm (new ++ f.trees) ∧ ∀ k < f.next, k ∉ new.flatMap Tree.labels := by
  have hself : f.trees.Perm ([] ++ f.trees) := List.Perm.refl _
  obtain ⟨new, hnew, huses⟩ := h.keeps hself
  refine ⟨(h.beside hf.beside_self).sound, new, hnew, fun k hk => uses_eq_zero_iff.mp ?_⟩
  have hu := huses k
  rw [uses_nil, fresh, if_neg (fun hle => absurd hle.1 (Nat.not_le_of_lt hk))] at hu
  omega

lemma Confined.find?_old (hf : f.Sound) (h : Confined f.trees f g) (hk : k < f.next) : g.find? k = f.find? k := by
  obtain ⟨hg, new, hnew, hfresh⟩ := h.added hf
  rw [find?_eq, Tree.find?_perm (nodes_eq g ▸ hg.nodup) hnew, List.findSome?_append,
    Tree.findIn?_eq_none_iff.mpr (hfresh k hk), Option.none_or, find?_eq]

lemma Confined.le_of_find? (hf : f.Sound) (h : Confined f.trees f g) (hn : f.next ≤ n) (hs : g.find? n = some s)
    (hk : k ∈ s.labels) : f.next ≤ k := by
  obtain ⟨hg, new, hnew, hfresh⟩ := h.added hf
  have hout : Outside f.trees n := hf.beside_self.outside_of_le hn
  rw [(h.beside hf.beside_self).find?_mine hnew hout] at hs
  obtain ⟨t, ht, hs⟩ := List.exists_of_findSome?_eq_some hs
  by_contra hlt
  exact hfresh k (Nat.not_le.mp hlt) (List.mem_flatMap.mpr ⟨t, ht, (Tree.sublist_of_find? hs).subset hk⟩)

end Forest

end PageStencil.Markup
