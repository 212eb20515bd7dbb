import PageStencil.Json.Octets
import PageStencil.Proofs.Text.Encoding

/-!
A JSON text that is sent in UTF-8 is read as it was written. If no escape in it names a surrogate, nothing stands in for
one.
-/

namespace PageStencil.Json

open Text

variable {s : List Char} {octets : List Nat}

lemma unmarked_of_not_mem (h : 0 ∉ octets) : Width.unmarked octets = .octets := by
  fun_cases Width.unmarked octets <;> simp_all

lemma le_of_mem_octetsOf {c : Char} {b : Nat} (h : b ∈ octetsOf c) : b ≤ 0xF7 := by
  rw [octetsOf_eq] at h
  split_ifs at h
  all_goals
    simp only [List.map_cons, List.map_nil, List.mem_cons, List.not_mem_nil, or_false] at h
    repeat rw [toNat_octet (by omega)] at h
    omega

lemma eq_mark {c : Char} {bs tail : List Nat} (h : octetsOf c ++ bs = 0xEF :: 0xBB :: 0xBF :: tail) : c = '\uFEFF' := by
  have hvalid : c.toNat < 0xD800 ∨ 0xDFFF < c.toNat ∧ c.toNat < 0x110000 := c.valid
  suffices hc : c.toNat = 0xFEFF by
    rw [← Char.ofNat_toNat c, hc]
  rw [octetsOf_eq] at h
  generalize c.toNat = v at hvalid h
  split_ifs at h
  all_goals
    simp only [List.map_cons, List.map_nil, List.cons_append, List.nil_append, List.cons.injEq] at h
    repeat rw [toNat_octet (by omega)] at h
    omega

lemma marked?_toUTF8 (hzero : '\x00' ∉ s) (hmark : s.head? ≠ some '\uFEFF') :
    Width.marked? (s.flatMap octetsOf) = none := by
  have hle : ∀ b ∈ s.flatMap octetsOf, b ≤ 0xF7 := fun b hb =>
    have ⟨_, _, hoctet⟩ := List.mem_flatMap.mp hb
    le_of_mem_octetsOf hoctet
  have hpos : 0 ∉ s.flatMap octetsOf := zero_not_mem_flatMap hzero
  cases s with
  | nil => rfl
  | cons c s =>
    have hc : ∀ tail, octetsOf c ++ s.flatMap octetsOf ≠ 0xEF :: 0xBB :: 0xBF :: tail :=
      fun tail h => hmark (congrArg some (eq_mark h))
    rw [List.flatMap_cons] at hle hpos ⊢
    generalize octetsOf c ++ s.flatMap octetsOf = octets at hc hle hpos
    fun_cases Width.marked? octets <;> simp_all

lemma decodeOctets_toUTF8 (hzero : '\x00' ∉ s) (hmark : s.head? ≠ some '\uFEFF') :
    decodeOctets (s.flatMap octetsOf) = some (s.map .char) := by
  have hunmarked : Width.unmarked ((s.flatMap octetsOf).take 5) = .octets :=
    unmarked_of_not_mem fun h => zero_not_mem_flatMap hzero (List.mem_of_mem_take h)
  rw [decodeOctets, marked?_toUTF8 hzero hmark]
  simp only [hunmarked, Width.decode, Utf8.decodeFrom_octets, Except.toOption]

lemma standIns_eq_nil (h : ∀ u ∈ escapes s, isSurrogate u = false) : standIns (s.map .char) = [] := by
  have hraw : (s.map CodePoint.char).filterMap CodePoint.surrogate? = [] := by
    simp [CodePoint.surrogate?]
  have hnamed : (escapes s).filterMap (fun u => (CodePoint.ofNat u).surrogate?) = [] := by
    refine List.filterMap_eq_nil_iff.mpr fun u hu => ?_
    rw [CodePoint.ofNat, dif_neg (Bool.eq_false_iff.mp (h u hu))]
    rfl
  simp only [standIns, CodePoint.filterMap_char?, hraw, hnamed, List.append_nil, List.eraseDups_nil, StandIns.choose,
    List.map_nil]

theorem ofOctets_toUTF8 (hzero : '\x00' ∉ s) (hmark : s.head? ≠ some '\uFEFF')
    (hescapes : ∀ u ∈ escapes s, isSurrogate u = false) :
    ofOctets (String.ofList s).toUTF8 = (parse s).map fun v => ⟨v, []⟩ := by
  have hspell : (s.map CodePoint.char).map (StandIns.spell []) = s := by
    rw [List.map_map]
    exact List.map_id s
  rw [ofOctets, octets_toUTF8, decodeOctets_toUTF8 hzero hmark]
  simp only [ofCodePoints, standIns_eq_nil hescapes, hspell, List.filter_nil]
  rfl

end PageStencil.Json
