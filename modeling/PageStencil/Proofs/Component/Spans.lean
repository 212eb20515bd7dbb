import Mathlib.Data.List.Nodup
import PageStencil.Component.Modal
import PageStencil.Component.Navbar
import PageStencil.Proofs.Identifier

namespace PageStencil

/-- The value of the first identifier of a rendering, and how many it has. -/
abbrev Span := Option (Int × Nat)

def Below (span : Span) (next : Int) : Prop := ∀ value k, span = some (value, k) → value + k ≤ next

def Clear (span other : Span) : Prop :=
  ∀ value k value' k', span = some (value, k) → other = some (value', k') → value + k ≤ value' ∨ value' + k' ≤ value

lemma below_none (next : Int) : Below none next := fun _ _ h => nomatch h

lemma below_of_le {span : Span} {next later : Int} (h : Below span next) (hle : next ≤ later) : Below span later :=
  fun value k hspan => Int.le_trans (h value k hspan) hle

lemma clear_none (other : Span) : Clear none other := fun _ _ _ _ h => nomatch h

lemma clear_symm {span other : Span} (h : Clear span other) : Clear other span :=
  fun value k value' k' hspan hother => (h value' k' value k hother hspan).symm

lemma clear_update {ι : Type} [DecidableEq ι] (rivals : ι → ι → Prop) (hsymm : ∀ {i j}, rivals i j → rivals j i)
    {span : ι → Span} {id : ι} {new : Span} (hnew : ∀ j ≠ id, rivals id j → Clear new (span j))
    (hold : ∀ i j, i ≠ j → i ≠ id → j ≠ id → rivals i j → Clear (span i) (span j)) {i j : ι} (hne : i ≠ j)
    (h : rivals i j) : Clear (Function.update span id new i) (Function.update span id new j) := by
  by_cases hi : i = id
  · subst hi
    rw [Function.update_self, Function.update_of_ne hne.symm]
    exact hnew j hne.symm h
  · by_cases hj : j = id
    · subst hj
      rw [Function.update_self, Function.update_of_ne hne]
      exact clear_symm (hnew i hne (hsymm h))
    · rw [Function.update_of_ne hi, Function.update_of_ne hj]
      exact hold i j hne hi hj h

def Span.names (kind : String) : Span → List String
  | none => []
  | some (value, k) => (List.range k).map fun (i : Nat) => kind ++ "-" ++ toString (value + i)

section Names

variable {kind kind' : String} {span span' : Span}

lemma mem_names {name : String} : name ∈ Span.names kind span ↔
    ∃ value k, ∃ i : Nat, span = some (value, k) ∧ i < k ∧ kind ++ "-" ++ toString (value + (i : Int)) = name := by
  constructor
  · intro h
    rcases span with _ | ⟨value, k⟩
    · exact absurd h List.not_mem_nil
    · obtain ⟨i, hi, hname⟩ := List.mem_map.mp h
      exact ⟨value, k, i, rfl, List.mem_range.mp hi, hname⟩
  · rintro ⟨value, k, i, rfl, hi, hname⟩
    exact List.mem_map.mpr ⟨i, List.mem_range.mpr hi, hname⟩

lemma names_add (kind : String) (value : Int) (n m : Nat) : Span.names kind (some (value, n + m)) =
    Span.names kind (some (value, n)) ++ Span.names kind (some (value + n, m)) := by
  rw [Span.names, List.range_add, List.map_append, List.map_map, Span.names, Span.names]
  congr 1
  refine List.map_congr_left fun k _ => ?_
  rw [Function.comp_apply, Int.natCast_add, Int.add_assoc]

lemma nodup_names (kind : String) (span : Span) : (Span.names kind span).Nodup := by
  rcases span with _ | ⟨value, k⟩
  · exact List.nodup_nil
  · refine List.nodup_range.map fun i j h => ?_
    have := Allocator.value_of_written h
    omega

lemma disjoint_names (h : Clear span span') : (Span.names kind span).Disjoint (Span.names kind span') := by
  intro name hname hname'
  obtain ⟨value, k, i, hspan, hi, rfl⟩ := mem_names.mp hname
  obtain ⟨value', k', j, hspan', hj, heq⟩ := mem_names.mp hname'
  have := Allocator.value_of_written heq
  have := h value k value' k' hspan hspan'
  omega

lemma disjoint_kinds (span span' : Span) :
    (Span.names Navbar.kind span).Disjoint (Span.names Modal.kind span') := by
  intro name hname hname'
  obtain ⟨_, _, _, _, _, rfl⟩ := mem_names.mp hname
  obtain ⟨_, _, _, _, _, heq⟩ := mem_names.mp hname'
  have hchars := congrArg String.toList heq
  simp [Navbar.kind, Modal.kind] at hchars

end Names

end PageStencil
