import Mathlib.Tactic.Lemma
import Mathlib.Tactic.SplitIfs
import PageStencil.Storage.Directory

namespace PageStencil.Text

lemma isSurrogate_toNat (c : Char) : isSurrogate c.toNat = false := by
  have hvalid : c.toNat < 0xD800 ∨ 0xDFFF < c.toNat ∧ c.toNat < 0x110000 := c.valid
  simp only [isSurrogate, Bool.and_eq_false_iff, decide_eq_false_iff_not]
  omega

namespace CodePoint

lemma ofNat_toNat (c : Char) : CodePoint.ofNat c.toNat = .char c := by
  rw [CodePoint.ofNat, dif_neg (Bool.eq_false_iff.mp (isSurrogate_toNat c)), Char.ofNat_toNat]

lemma filterMap_char? (s : List Char) : (s.map char).filterMap char? = s := by
  rw [List.filterMap_map]
  exact List.filterMap_some

end CodePoint

lemma toList_loop (bytes : ByteArray) (i : Nat) (r : List UInt8) :
    ByteArray.toList.loop bytes i r = r.reverse ++ bytes.data.toList.drop i := by
  fun_induction ByteArray.toList.loop bytes i r with
  | case1 i r h ih =>
    have hi : i < bytes.data.toList.length := h
    have hget : bytes.get! i = bytes.data.toList[i] := by
      rw [ByteArray.get!, getElem!_pos bytes.data i h, Array.getElem_toList]
    rw [ih, List.drop_eq_getElem_cons hi, hget, List.reverse_cons, List.append_assoc, List.singleton_append]
  | case2 i r h =>
    have hi : bytes.data.toList.length ≤ i := Nat.le_of_not_lt h
    rw [List.drop_of_length_le hi, List.append_nil]

def octetsOf (c : Char) : List Nat := (String.utf8EncodeChar c).map UInt8.toNat

lemma octetsOf_eq (c : Char) : octetsOf c = List.map UInt8.toNat (if c.toNat ≤ 127 then [UInt8.ofNat c.toNat]
    else if c.toNat ≤ 2047 then [UInt8.ofNat (c.toNat / 64 % 32 + 192), UInt8.ofNat (c.toNat % 64 + 128)]
    else if c.toNat ≤ 65535 then [UInt8.ofNat (c.toNat / 4096 % 16 + 224), UInt8.ofNat (c.toNat / 64 % 64 + 128),
      UInt8.ofNat (c.toNat % 64 + 128)]
    else [UInt8.ofNat (c.toNat / 262144 % 8 + 240), UInt8.ofNat (c.toNat / 4096 % 64 + 128),
      UInt8.ofNat (c.toNat / 64 % 64 + 128), UInt8.ofNat (c.toNat % 64 + 128)]) := rfl

lemma toNat_octet {n : Nat} (h : n < 256) : (UInt8.ofNat n).toNat = n := by
  rw [UInt8.toNat_ofNat', Nat.mod_eq_of_lt h]

lemma zero_not_mem_octetsOf {c : Char} (h : c.toNat ≠ 0) : 0 ∉ octetsOf c := by
  rw [octetsOf_eq]
  split_ifs
  all_goals
    simp only [List.map_cons, List.map_nil, List.mem_cons, List.not_mem_nil, or_false]
    repeat rw [toNat_octet (by omega)]
    omega

lemma zero_not_mem_flatMap {s : List Char} (h : '\x00' ∉ s) : 0 ∉ s.flatMap octetsOf := by
  intro hm
  obtain ⟨c, hc, hoctet⟩ := List.mem_flatMap.mp hm
  refine zero_not_mem_octetsOf (fun hnull => h ?_) hoctet
  have hback := Char.ofNat_toNat c
  rw [hnull] at hback
  exact hback ▸ hc

lemma octets_toUTF8 (s : List Char) : (String.ofList s).toUTF8.toList.map UInt8.toNat = s.flatMap octetsOf := by
  rw [ByteArray.toList, toList_loop, String.toUTF8_eq_toByteArray, String.toByteArray_ofList, List.utf8Encode,
    List.toList_data_toByteArray, List.reverse_nil, List.nil_append, List.drop_zero, List.map_flatMap]
  rfl

namespace Utf8

variable {passing : Bool} {position b : Nat} {bs : List Nat}

section Continuing

variable {first byte value owed low high : Nat}

lemma continueFrom_last (hlow : low ≤ b) (hhigh : b ≤ high) :
    continueFrom passing ⟨first, byte, value, 1, low, high⟩ position (b :: bs) =
      (decodeFrom passing (position + 1) bs).map (.ofNat (64 * value + (b - 0x80)) :: ·) := by
  have hrange : ¬ (b < low || high < b) = true := by simp [hlow, hhigh]
  rw [continueFrom, if_neg hrange]
  rfl

lemma continueFrom_more (hlow : low ≤ b) (hhigh : b ≤ high) :
    continueFrom passing ⟨first, byte, value, owed + 2, low, high⟩ position (b :: bs) =
      continueFrom passing ⟨first, byte, 64 * value + (b - 0x80), owed + 1, 0x80, 0xBF⟩ (position + 1) bs := by
  have hrange : ¬ (b < low || high < b) = true := by simp [hlow, hhigh]
  rw [continueFrom, if_neg hrange]
  have howed : ¬ owed + 2 ≤ 1 := by omega
  exact if_neg howed

lemma decodeFrom_opening {p : Pending} (hb : 0x80 ≤ b) (hp : opening? passing position b = some p) :
    decodeFrom passing position (b :: bs) = continueFrom passing p (position + 1) bs := by
  rw [decodeFrom, if_neg (Nat.not_lt.mpr hb), hp]

end Continuing

section Sizes

variable {v : Nat}

lemma decodeFrom_one (h : v < 0x80) :
    decodeFrom passing position (v :: bs) = (decodeFrom passing (position + 1) bs).map (.ofNat v :: ·) := by
  rw [decodeFrom, if_pos h]

lemma decodeFrom_two (h : 0x80 ≤ v) (h' : v < 0x800) :
    decodeFrom passing position ((v / 64 + 192) :: (v % 64 + 128) :: bs) =
      (decodeFrom passing (position + 2) bs).map (.ofNat v :: ·) := by
  have hp : opening? passing position (v / 64 + 192) = some ⟨position, v / 64 + 192, v / 64, 1, 0x80, 0xBF⟩ := by
    rw [opening?, if_neg (by omega), if_pos (by omega), Nat.add_sub_cancel]
  have hvalue : 64 * (v / 64) + (v % 64 + 128 - 0x80) = v := by omega
  rw [decodeFrom_opening (by omega) hp, continueFrom_last (by omega) (by omega), hvalue]

lemma decodeFrom_three (h : 0x800 ≤ v) (h' : v < 0xD800 ∨ 0xDFFF < v ∧ v < 0x10000) :
    decodeFrom passing position ((v / 4096 + 224) :: (v / 64 % 64 + 128) :: (v % 64 + 128) :: bs) =
      (decodeFrom passing (position + 3) bs).map (.ofNat v :: ·) := by
  have hp : opening? passing position (v / 4096 + 224) = some ⟨position, v / 4096 + 224, v / 4096, 2,
      if v / 4096 + 224 = 0xE0 then 0xA0 else 0x80, if v / 4096 + 224 = 0xED && !passing then 0x9F else 0xBF⟩ := by
    rw [opening?, if_neg (by omega), if_neg (by omega), if_pos (by omega), Nat.add_sub_cancel]
  have hvalue : 64 * (64 * (v / 4096) + (v / 64 % 64 + 128 - 0x80)) + (v % 64 + 128 - 0x80) = v := by omega
  have hhigh : v / 64 % 64 + 128 ≤ if v / 4096 + 224 = 0xED && !passing then 0x9F else 0xBF := by
    split
    next h =>
      have hlead := of_decide_eq_true (Bool.and_eq_true_iff.mp h).1
      omega
    next => omega
  rw [decodeFrom_opening (by omega) hp, continueFrom_more (by split <;> omega) hhigh,
    continueFrom_last (by omega) (by omega), hvalue]

lemma decodeFrom_four (h : 0x10000 ≤ v) (h' : v < 0x110000) :
    decodeFrom passing position ((v / 262144 + 240) :: (v / 4096 % 64 + 128) :: (v / 64 % 64 + 128) :: (v % 64 + 128) :: bs) =
      (decodeFrom passing (position + 4) bs).map (.ofNat v :: ·) := by
  have hp : opening? passing position (v / 262144 + 240) = some ⟨position, v / 262144 + 240, v / 262144, 3,
      if v / 262144 + 240 = 0xF0 then 0x90 else 0x80, if v / 262144 + 240 = 0xF4 then 0x8F else 0xBF⟩ := by
    rw [opening?, if_neg (by omega), if_neg (by omega), if_neg (by omega), if_pos (by omega), Nat.add_sub_cancel]
  have hvalue : 64 * (64 * (64 * (v / 262144) + (v / 4096 % 64 + 128 - 0x80)) + (v / 64 % 64 + 128 - 0x80)) +
      (v % 64 + 128 - 0x80) = v := by omega
  rw [decodeFrom_opening (by omega) hp, continueFrom_more (by split <;> omega) (by split <;> omega),
    continueFrom_more (by omega) (by omega), continueFrom_last (by omega) (by omega), hvalue]

end Sizes

lemma decodeFrom_octetsOf (c : Char) (position : Nat) (bs : List Nat) :
    ∃ later, decodeFrom passing position (octetsOf c ++ bs) = (decodeFrom passing later bs).map (.char c :: ·) := by
  have hvalid : c.toNat < 0xD800 ∨ 0xDFFF < c.toNat ∧ c.toNat < 0x110000 := c.valid
  have hoctets := octetsOf_eq c
  have hc := CodePoint.ofNat_toNat c
  generalize c.toNat = v at hvalid hoctets hc
  rw [hoctets, ← hc]
  split_ifs with h1 h2 h3
  · rw [List.map_singleton, toNat_octet (by omega)]
    exact ⟨_, decodeFrom_one (by omega)⟩
  · rw [List.map_cons, List.map_singleton, toNat_octet (by omega), toNat_octet (by omega), Nat.mod_eq_of_lt (by omega)]
    exact ⟨_, decodeFrom_two (by omega) (by omega)⟩
  · rw [List.map_cons, List.map_cons, List.map_singleton, toNat_octet (by omega), toNat_octet (by omega),
      toNat_octet (by omega), Nat.mod_eq_of_lt (by omega)]
    exact ⟨_, decodeFrom_three (by omega) (by omega)⟩
  · rw [List.map_cons, List.map_cons, List.map_cons, List.map_singleton, toNat_octet (by omega), toNat_octet (by omega),
      toNat_octet (by omega), toNat_octet (by omega), Nat.mod_eq_of_lt (by omega)]
    exact ⟨_, decodeFrom_four (by omega) (by omega)⟩

lemma decodeFrom_octets (s : List Char) (position : Nat) :
    decodeFrom passing position (s.flatMap octetsOf) = .ok (s.map .char) := by
  induction s generalizing position with
  | nil => rw [List.flatMap_nil, decodeFrom, List.map_nil]
  | cons c s ih =>
    obtain ⟨later, hc⟩ := @decodeFrom_octetsOf passing c position (s.flatMap octetsOf)
    rw [List.flatMap_cons, hc, ih]
    rfl

theorem decode_toUTF8 (s : List Char) : decode (String.ofList s).toUTF8 = .ok (String.ofList s) := by
  rw [decode, octets_toUTF8, decodeFrom_octets]
  exact congrArg (fun cs => Except.ok (String.ofList cs)) (CodePoint.filterMap_char? s)

end Utf8

lemma unifyLineEnds_of_not_mem {s : List Char} (h : '\r' ∉ s) : unifyLineEnds s = s := by
  fun_induction unifyLineEnds s with
  | case1 => rfl
  | case2 s ih => exact absurd List.mem_cons_self h
  | case3 s _ ih => exact absurd List.mem_cons_self h
  | case4 c s _ _ ih => rw [ih fun hm => h (List.mem_cons_of_mem c hm)]

theorem decodeText_toUTF8 (s : List Char) :
    Storage.decodeText (String.ofList s).toUTF8 = .ok (String.ofList (unifyLineEnds s)) := by
  rw [Storage.decodeText, Utf8.decode_toUTF8]
  change Except.ok (withUnifiedLineEnds (String.ofList s)) = _
  rw [withUnifiedLineEnds, String.toList_ofList]

end PageStencil.Text
