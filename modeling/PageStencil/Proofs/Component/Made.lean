import PageStencil.Proofs.Component.Confinement
import PageStencil.Proofs.Markup.Effect
import PageStencil.Proofs.Markup.Root

/-!
Trees that are made first and put in their place then. Making one adds to the forest and leaves all that stands in it
as it is; putting it in its place shows at its new parent and nowhere else.
-/

namespace PageStencil

open Markup Stencil Forest

namespace Allocator

def skip (a : Allocator) (n : Nat) : Allocator := { a with taken := a.taken + n }

/-- The next `n` values can all be written. -/
def Short (a : Allocator) (n : Nat) : Prop := ∀ i < n, (a.value + i).natAbs < Text.leastTooLong

instance (a : Allocator) (n : Nat) : Decidable (a.Short n) :=
  inferInstanceAs (Decidable (∀ i < n, (a.value + i).natAbs < Text.leastTooLong))

@[simp] lemma skip_zero (a : Allocator) : a.skip 0 = a := rfl

@[simp] lemma skip_skip (a : Allocator) (n m : Nat) : (a.skip n).skip m = a.skip (n + m) := by
  rw [skip, skip, skip, Nat.add_assoc]

@[simp] lemma value_skip (a : Allocator) (n : Nat) : (a.skip n).value = a.value + n := by
  simp only [skip, value]
  omega

variable {a : Allocator} {n m : Nat}

lemma Short.left (h : a.Short (n + m)) : a.Short n := fun i hi => h i (Nat.lt_of_lt_of_le hi (Nat.le_add_right n m))

lemma Short.right (h : a.Short (n + m)) : (a.skip n).Short m := by
  intro i hi
  have hs := h (n + i) (Nat.add_lt_add_left hi n)
  rwa [value_skip, Int.add_assoc, ← Int.natCast_add]

lemma next?_of_short (h : a.Short 1) (kind : String) :
    a.next? kind = (some (kind ++ "-" ++ toString a.value), a.skip 1) := by
  have hs := h 0 Nat.one_pos
  rw [Int.natCast_zero, Int.add_zero] at hs
  rw [next?, if_neg (Nat.not_le.mpr hs), skip]

lemma next?_of_long (h : ¬ a.Short 1) (kind : String) : a.next? kind = (none, a.skip 1) := by
  have hlong : Text.leastTooLong ≤ a.value.natAbs := by
    refine Nat.not_lt.mp fun hlt => h fun i hi => ?_
    obtain rfl : i = 0 := Nat.lt_one_iff.mp hi
    rwa [Int.natCast_zero, Int.add_zero]
  rw [next?, if_pos hlong, skip]

end Allocator

namespace Markup

namespace Tree

variable {α : Type}

lemma append_nil (t : Tree α) : t.append [] = t := by
  cases t with
  | leaf l c => rfl
  | element l tag cs => rw [append, List.append_nil]

lemma append_append (cs ds : List (Tree α)) (t : Tree α) : (t.append cs).append ds = t.append (cs ++ ds) := by
  cases t with
  | leaf l c => rfl
  | element l tag es => rw [append, append, append, List.append_assoc]

lemma modify_append_nil [DecidableEq α] (n : α) (t : Tree α) : t.modify n (append []) = t := by
  induction t using ind with
  | hleaf l c =>
    by_cases hl : l = n
    · exact modify_of_eq (t := leaf l c) hl _
    · exact modify_leaf hl _ c
  | helement l tag cs ih =>
    by_cases hl : l = n
    · exact (modify_of_eq (t := element l tag cs) hl _).trans (append_nil _)
    · rw [modify_element hl, List.map_congr_left ih, List.map_id']

end Tree

namespace Forest

variable {f g h : Forest} {n parent k : Nat} {t : Markup.Tree Unit}

def markup? (f : Forest) (n : Node) : Option (Markup.Tree Unit) := (f.find? n).map Markup.Tree.erase

lemma markup?_eq_some : f.markup? n = some t ↔ ∃ u, f.find? n = some u ∧ u.erase = t := Option.map_eq_some_iff

lemma plant_tree (hn : f.markup? n = some t) : (f.plant (f.tree n)).2 = (f.plant t).2 := by
  obtain ⟨u, hu, rfl⟩ := markup?_eq_some.mp hn
  rw [tree, hu, Option.getD_some, plant, plant, Tree.number_erase, Tree.size_erase]

/-- What stands at a node looks like `t` and does not hold `parent`. -/
def Mould (parent n : Nat) (t : Markup.Tree Unit) (f : Forest) : Prop :=
  ∃ u, f.find? n = some u ∧ u.erase = t ∧ parent ∉ u.labels

lemma Mould.markup (h : Mould parent n t f) : f.markup? n = some t := by
  obtain ⟨u, hu, ht, _⟩ := h
  exact markup?_eq_some.mpr ⟨u, hu, ht⟩

lemma mould_of_added (hf : f.Sound) (hg : Confined f.trees f g) (hn : f.markup? n = some t) (hp : f.next ≤ parent) :
    Mould parent n t g := by
  obtain ⟨u, hu, ht⟩ := markup?_eq_some.mp hn
  refine ⟨u, (hg.find?_old hf (hf.lt_of_find?_self hu)).trans hu, ht, fun hm => ?_⟩
  exact Nat.not_lt.mpr hp (hf.lt_of_find? hu hm)

/-- Some trees have been put at the end of a node, and what stood in the forest shows no other change. -/
structure Appended (parent : Nat) (us : List (Markup.Tree Node)) (f g : Forest) : Prop where
  sound : g.Sound
  le : f.next ≤ g.next
  find : ∀ k : Nat, k < f.next → g.find? k = (f.find? k).map (Markup.Tree.modify parent (Markup.Tree.append us))
  new : ∀ k : Nat, k ∈ us.flatMap Markup.Tree.labels → f.next ≤ k

namespace Appended

variable {us vs : List (Markup.Tree Node)}

lemma refl (hf : f.Sound) (parent : Nat) : Appended parent [] f f where
  sound := hf
  le := Nat.le_refl _
  find k _ := by rw [funext (Tree.modify_append_nil parent), Option.map_id']
  new k hk := absurd hk List.not_mem_nil

lemma trans (hfg : Appended parent us f g) (hgh : Appended parent vs g h) : Appended parent (us ++ vs) f h where
  sound := hgh.sound
  le := Nat.le_trans hfg.le hgh.le
  find k hk := by
    rw [hgh.find k (Nat.lt_of_lt_of_le hk hfg.le), hfg.find k hk, Option.map_map]
    congr 1
    funext t
    rw [Function.comp_apply, Tree.modify_modify (Tree.label_append us)]
    congr 1
    funext t
    exact Tree.append_append us vs t
  new k hk := by
    rw [List.flatMap_append, List.mem_append] at hk
    exact hk.elim (hfg.new k) fun hk => Nat.le_trans hfg.le (hgh.new k hk)

lemma mould (h : Appended parent us f g) (hf : f.Sound) (hm : Mould parent n t f) : Mould parent n t g := by
  obtain ⟨u, hu, ht, hfree⟩ := hm
  refine ⟨u, ?_, ht, hfree⟩
  rw [h.find n (hf.lt_of_find?_self hu), hu, Option.map_some, Tree.modify_of_not_mem hfree]

end Appended

lemma appended_adopt (hf : f.Sound) (hg : Confined f.trees f g) {u : Markup.Tree Node} (hu : g.find? f.next = some u)
    (hparent : parent < f.next) : Appended parent [u] f (g.adopt parent f.next) := by
  have hsound := (hg.added hf).1
  have hadopt := Confined.adopt hsound.beside_nil (Sound.outside_nil f.next) (Sound.outside_nil parent)
  have hnew : ∀ k : Nat, k ∈ u.labels → f.next ≤ k := fun k => hg.le_of_find? hf (Nat.le_refl _) hu
  have hold : ∀ {k : Nat}, k < f.next → k ∉ u.labels := fun hk hm => Nat.not_lt.mpr (hnew _ hm) hk
  refine ⟨hsound.confined hadopt, Nat.le_trans hg.le hadopt.le, fun k hk => ?_, fun k hk => ?_⟩
  · rw [hsound.find?_adopt hu (hold hparent) (hold hk), hg.find?_old hf hk]
    cases hs : f.find? k with
    | none => rfl
    | some s =>
      have hroot : f.next ∉ s.labels := fun hm => Nat.lt_irrefl _ (hf.lt_of_find? hs hm)
      rw [Option.map_some, Tree.inside_of_not_mem hroot]
  · rw [List.flatMap_singleton] at hk
    exact hnew k hk

end Forest

end Markup

/-- From one bench to the next, a tree has been made at a new node, and `taken` identifiers have been used. -/
structure Made (b c : Bench) (taken : Nat) (t : Markup.Tree Unit) : Prop where
  added : Confined b.forest.trees b.forest c.forest
  copy : c.copy = b.copy
  uids : c.uids = b.uids.skip taken
  markup : c.forest.markup? b.forest.next = some t

namespace Work

variable {α : Type} {b c : Bench} {w : Work Node} {taken : Nat} {t : Markup.Tree Unit} {n parent : Nat}

def Makes (w : Work Node) (b : Bench) (taken : Nat) (t : Markup.Tree Unit) : Prop :=
  ∃ c, w.run b = (.ok b.forest.next, c) ∧ Made b c taken t

lemma makes_of_run {Q : Node → Prop} (hb : b.forest.Sound) (hw : Local b.forest.trees w Q)
    (hrun : w.run b = (.ok b.forest.next, c)) (huids : c.uids = b.uids.skip taken)
    (hmarkup : c.forest.markup? b.forest.next = some t) : Makes w b taken t := by
  obtain ⟨hadded, hcopy, _⟩ := hw b hb.beside_self
  rw [hrun] at hadded hcopy
  exact ⟨c, hrun, hadded, hcopy, huids, hmarkup⟩

lemma run_instantiate_of_markup (h : b.forest.markup? n = some t) :
    (instantiate n).run b = (.ok b.forest.next, { b with forest := (b.forest.plant t).2 }) := by
  rw [run_instantiate, plant_tree h]

lemma Makes.run_append (h : Makes w b taken t) (hb : b.forest.Sound) (hparent : parent < b.forest.next)
    (k : Unit → Work α) : ∃ u f, (w >>= fun n => append parent n >>= k).run b =
        (k ()).run { b with forest := f, uids := b.uids.skip taken } ∧
      Appended parent [u] b.forest f ∧ u.erase = t := by
  obtain ⟨c, hrun, hmade⟩ := h
  obtain ⟨u, hu, hmarkup⟩ := markup?_eq_some.mp hmade.markup
  refine ⟨u, c.forest.adopt parent b.forest.next, ?_, appended_adopt hb hmade.added hu hparent, hmarkup⟩
  rw [run_bind_ok hrun, run_bind_ok (Work.run_append (Nat.ne_of_lt hparent)), ← hmade.copy, ← hmade.uids]

end Work

end PageStencil
