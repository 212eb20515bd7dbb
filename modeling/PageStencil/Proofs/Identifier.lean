import Mathlib.Algebra.Ring.Int.Defs
import PageStencil.Identifier

/-!
Identifiers that one allocator gives out, one after the other, for kinds of any text. Two of them are the same only
where a negative value and its opposite meet, and the later kind is the earlier one with a dash behind it: the dash is
then read as that of the number.
-/

namespace PageStencil

lemma Text.repr_inj {n m : Nat} (h : n.repr = m.repr) : n = m := by
  have hdigits := congrArg String.toList h
  rw [Nat.toList_repr, Nat.toList_repr] at hdigits
  rw [← Nat.ofDigitChars_ten_toDigits (n := n), hdigits, Nat.ofDigitChars_ten_toDigits]

namespace Allocator

def written? (kind : String) (value : Int) : Option String :=
  if Text.leastTooLong ≤ value.natAbs then none else some (kind ++ "-" ++ toString value)

def allWritten (value : Int) (kinds : List String) : List (Option String) :=
  kinds.mapIdx fun i kind => written? kind (value + i)

def nextAll (a : Allocator) : List String → List (Option String) × Allocator
  | [] => ([], a)
  | kind :: kinds =>
    let (name, a) := a.next? kind
    let (names, a) := a.nextAll kinds
    (name :: names, a)

section Run

lemma next?_eq (a : Allocator) (kind : String) :
    a.next? kind = (written? kind a.value, { a with taken := a.taken + 1 }) := rfl

lemma nextAll_cons (a : Allocator) (kind : String) (kinds : List String) : a.nextAll (kind :: kinds) =
    (written? kind a.value :: ((a.next? kind).2.nextAll kinds).1, ((a.next? kind).2.nextAll kinds).2) := rfl

lemma allWritten_cons (value : Int) (kind : String) (kinds : List String) :
    allWritten value (kind :: kinds) = written? kind value :: allWritten (value + 1) kinds := by
  have hshift : (fun (i : Nat) kind => written? kind (value + (i + 1 : Nat))) = fun (i : Nat) kind =>
      written? kind (value + 1 + i) := by
    funext i kind
    rw [Int.natCast_add, Int.natCast_one, Int.add_assoc, Int.add_comm 1]
  rw [allWritten, List.mapIdx_cons, Int.natCast_zero, Int.add_zero, hshift, allWritten]

lemma nextAll_names (a : Allocator) (kinds : List String) : (a.nextAll kinds).1 = allWritten a.value kinds := by
  induction kinds generalizing a with
  | nil => rfl
  | cons kind kinds ih => rw [nextAll_cons, ih, allWritten_cons, value_next?]

lemma nextAll_allocator (a : Allocator) (kinds : List String) :
    (a.nextAll kinds).2 = { a with taken := a.taken + kinds.length } := by
  induction kinds generalizing a with
  | nil => rfl
  | cons kind kinds ih => rw [nextAll_cons, ih, next?_eq, List.length_cons, Nat.add_assoc, Nat.add_comm 1]

end Run

section Written

variable {kind kind' name : String} {value later : Int}

def stem (kind : String) (value : Int) : String := if value < 0 then kind ++ "-" else kind

lemma written_eq (kind : String) (value : Int) :
    kind ++ "-" ++ toString value = stem kind value ++ "-" ++ Nat.repr value.natAbs := by
  cases value with
  | ofNat n => rfl
  | negSucc n =>
    have hminus : toString (Int.negSucc n) = "-" ++ Nat.repr (n + 1) := rfl
    rw [stem, if_pos (Int.negSucc_lt_zero n), hminus, ← String.append_assoc]
    rfl

lemma not_mem_repr (n : Nat) : '-' ∉ (Nat.repr n).toList := by
  intro hm
  have hdigit := Nat.isDigit_of_mem_toDigits (by decide) (by decide) (Nat.toList_repr ▸ hm)
  exact absurd hdigit (by decide)

lemma split_last {before before' digits digits' : List Char} (hd : '-' ∉ digits) (hd' : '-' ∉ digits')
    (h : before ++ '-' :: digits = before' ++ '-' :: digits') : before = before' ∧ digits = digits' := by
  rcases List.append_eq_append_iff.mp h with ⟨between, hbefore, hrest⟩ | ⟨between, hbefore, hrest⟩
  · cases between with
    | nil => exact ⟨by rw [hbefore, List.append_nil], (List.cons.inj hrest).2⟩
    | cons c between =>
      rw [(List.cons.inj hrest).2] at hd
      exact absurd (List.mem_append_right _ List.mem_cons_self) hd
  · cases between with
    | nil => exact ⟨by rw [hbefore, List.append_nil], (List.cons.inj hrest).2.symm⟩
    | cons c between =>
      rw [(List.cons.inj hrest).2] at hd'
      exact absurd (List.mem_append_right _ List.mem_cons_self) hd'

lemma written_inj : kind ++ "-" ++ toString value = kind' ++ "-" ++ toString later ↔
    stem kind value = stem kind' later ∧ value.natAbs = later.natAbs := by
  rw [written_eq, written_eq]
  constructor
  · intro h
    have hlist := congrArg String.toList h
    simp only [String.toList_append, List.append_assoc] at hlist
    obtain ⟨hstem, hdigits⟩ := split_last (not_mem_repr _) (not_mem_repr _) hlist
    exact ⟨String.toList_inj.mp hstem, Text.repr_inj (String.toList_inj.mp hdigits)⟩
  · rintro ⟨hstem, hdigits⟩
    rw [hstem, hdigits]

lemma written_eq_later_iff (h : value < later) : kind ++ "-" ++ toString value = kind' ++ "-" ++ toString later ↔
    value < 0 ∧ later = -value ∧ kind' = kind ++ "-" := by
  rw [written_inj]
  constructor
  · rintro ⟨hstem, hdigits⟩
    have hneg : value < 0 := by omega
    have hopposite : later = -value := by omega
    rw [stem, if_pos hneg, stem, if_neg (by omega)] at hstem
    exact ⟨hneg, hopposite, hstem.symm⟩
  · rintro ⟨hneg, rfl, rfl⟩
    rw [stem, if_pos hneg, stem, if_neg (by omega)]
    exact ⟨rfl, (Int.natAbs_neg value).symm⟩

lemma value_of_written (h : kind ++ "-" ++ toString value = kind ++ "-" ++ toString later) : value = later := by
  have hne : kind ≠ kind ++ "-" := fun hkind => by simpa using congrArg String.length hkind
  rcases Int.lt_trichotomy value later with hlt | heq | hgt
  · exact absurd ((written_eq_later_iff hlt).mp h).2.2 hne
  · exact heq
  · exact absurd ((written_eq_later_iff hgt).mp h.symm).2.2 hne

lemma written?_eq_some_iff : written? kind value = some name ↔
    value.natAbs < Text.leastTooLong ∧ kind ++ "-" ++ toString value = name := by
  rw [written?]
  split_ifs with h
  · simp [Nat.not_lt.mpr h]
  · simp [Nat.not_le.mp h]

lemma written?_eq_later_iff (h : value < later) (hname : written? kind value = some name) :
    written? kind' later = some name ↔ value < 0 ∧ later = -value ∧ kind' = kind ++ "-" := by
  obtain ⟨hshort, rfl⟩ := written?_eq_some_iff.mp hname
  rw [written?_eq_some_iff, eq_comm (a := kind' ++ _ ++ _), written_eq_later_iff h]
  constructor
  · exact fun h => h.2
  · rintro ⟨hneg, rfl, hkind⟩
    exact ⟨by rwa [Int.natAbs_neg], hneg, rfl, hkind⟩

end Written

/-- The identifiers that an allocator has given out for some kinds, from its seed on, and the allocator behind them.
Where a value has too many digits there is no identifier. -/
structure Numbers (seed : Int) (kinds : List String) (names : List (Option String)) (a : Allocator) : Prop where
  written : names = allWritten seed kinds
  peek : a.peek = if kinds = [] then none else some (seed + kinds.length)
  collide : ∀ (i j : Nat) kind kind' name, i < j → kinds[i]? = some kind → kinds[j]? = some kind' →
    names[i]? = some (some name) →
      (names[j]? = some (some name) ↔ seed + i < 0 ∧ seed + j = -(seed + i) ∧ kind' = kind ++ "-")
  distinct : (0 ≤ seed ∨ ∀ kind ∈ kinds, kind ++ "-" ∉ kinds) → (names.filterMap id).Nodup

section Numbered

variable {seed : Int} {kinds : List String} {i j : Nat} {kind kind' name : String}

lemma allWritten_collide (hij : i < j) (hi : kinds[i]? = some kind) (hj : kinds[j]? = some kind')
    (hname : (allWritten seed kinds)[i]? = some (some name)) : (allWritten seed kinds)[j]? = some (some name) ↔
      seed + i < 0 ∧ seed + j = -(seed + i) ∧ kind' = kind ++ "-" := by
  rw [allWritten, List.getElem?_mapIdx, hi, Option.map_some, Option.some.injEq] at hname
  rw [allWritten, List.getElem?_mapIdx, hj, Option.map_some, Option.some.injEq]
  exact written?_eq_later_iff (by omega) hname

lemma nodup_allWritten (h : 0 ≤ seed ∨ ∀ kind ∈ kinds, kind ++ "-" ∉ kinds) :
    ((allWritten seed kinds).filterMap id).Nodup := by
  rw [List.Nodup, List.pairwise_filterMap, List.pairwise_iff_getElem]
  rintro i j hi hj hij name hname _ hname' rfl
  have hlength : (allWritten seed kinds).length = kinds.length := List.length_mapIdx
  have hkind := List.getElem?_eq_getElem (hlength ▸ hi)
  have hkind' := List.getElem?_eq_getElem (hlength ▸ hj)
  obtain ⟨hneg, -, hdash⟩ := (allWritten_collide hij hkind hkind' (List.getElem?_eq_some_iff.mpr ⟨hi, hname⟩)).mp
    (List.getElem?_eq_some_iff.mpr ⟨hj, hname'⟩)
  rcases h with hseed | hkinds
  · omega
  · exact hkinds _ (List.getElem_mem _) (hdash ▸ List.getElem_mem _)

end Numbered

theorem nextAll_numbers (seed : Int) (configured : Option Int) (lot : Nat) (kinds : List String) :
    Numbers seed kinds ((start (some seed) configured lot).nextAll kinds).1
      ((start (some seed) configured lot).nextAll kinds).2 := by
  have hvalue : (start (some seed) configured lot).value = seed := Int.add_zero seed
  have hnames := nextAll_names (start (some seed) configured lot) kinds
  rw [hvalue] at hnames
  refine ⟨hnames, ?_, fun i j kind kind' name hij hi hj hname => ?_, fun h => ?_⟩
  · rw [nextAll_allocator, peek]
    cases kinds with
    | nil => rfl
    | cons kind kinds => simp [start]
  · rw [hnames] at hname ⊢
    exact allWritten_collide hij hi hj hname
  · rw [hnames]
    exact nodup_allWritten h

/-- A dash at the end of a kind makes the opposite of a negative value look like that value. -/
theorem not_all_distinct : ¬ ∀ (seed : Int) (configured : Option Int) (lot : Nat) (kinds : List String),
    (((start (some seed) configured lot).nextAll kinds).1.filterMap id).Nodup := by
  intro h
  have hnames : ((start (some (-1)) none 0).nextAll ["x", "y", "x-"]).1 = [some "x--1", some "y-0", some "x--1"] := by
    decide +kernel
  have hnodup := h (-1) none 0 ["x", "y", "x-"]
  rw [hnames] at hnodup
  exact absurd hnodup (by decide)

end Allocator

end PageStencil
