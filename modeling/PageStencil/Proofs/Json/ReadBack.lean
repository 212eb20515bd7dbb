import Mathlib.Data.Nat.Digits.Defs
import PageStencil.Json.Print
import PageStencil.Json.Read
import PageStencil.Proofs.Text.Encoding

namespace PageStencil

namespace Text

lemma numeral_append (base : Nat) (ds : List Char) (c : Char) :
    numeral base (ds ++ [c]) = base * numeral base ds + digitValue c := by
  rw [numeral, numeral, List.foldl_append, List.foldl_cons, List.foldl_nil]

lemma digitValue_digitChar {n : Nat} (h : n < 16) :
    digitValue n.digitChar = n ∧ isHexadecimal n.digitChar = true := by
  revert n
  decide

lemma toDigits_hexadecimal (n : Nat) :
    numeral 16 (Nat.toDigits 16 n) = n ∧ ∀ c ∈ Nat.toDigits 16 n, isHexadecimal c = true := by
  induction n using Nat.strong_induction_on with
  | h n ih =>
    by_cases hn : n < 16
    · obtain ⟨hvalue, hdigit⟩ := digitValue_digitChar hn
      rw [Nat.toDigits_of_lt_base hn]
      refine ⟨?_, List.forall_mem_singleton.mpr hdigit⟩
      rw [numeral, List.foldl_cons, List.foldl_nil, hvalue, Nat.mul_zero, Nat.zero_add]
    · obtain ⟨hquotient, hdigits⟩ := ih (n / 16) (by omega)
      obtain ⟨hvalue, hdigit⟩ := digitValue_digitChar (Nat.mod_lt n (by decide : 0 < 16))
      rw [Nat.toDigits_of_base_le (by decide) (Nat.not_lt.mp hn)]
      refine ⟨?_, List.forall_mem_append.mpr ⟨hdigits, List.forall_mem_singleton.mpr hdigit⟩⟩
      rw [numeral_append, hquotient, hvalue, Nat.div_add_mod]

lemma numeral_zeros (k : Nat) (ds : List Char) : numeral 16 (List.replicate k '0' ++ ds) = numeral 16 ds := by
  induction k with
  | zero => rfl
  | succ k ih => exact ih

lemma hexPadded_spec {width n : Nat} (hwidth : 0 < width) (hn : n < 16 ^ width) :
    (hexPadded width n).length = width ∧ numeral 16 (hexPadded width n) = n ∧
      ∀ c ∈ hexPadded width n, isHexadecimal c = true := by
  have hlength := (Nat.length_toDigits_le_iff (by decide : 1 < 16) hwidth).mpr hn
  obtain ⟨hvalue, hdigits⟩ := toDigits_hexadecimal n
  rw [hexPadded]
  refine ⟨?_, ?_, ?_⟩
  · rw [List.length_append, List.length_replicate]
    omega
  · rw [numeral_zeros, hvalue]
  · refine List.forall_mem_append.mpr ⟨fun c hc => ?_, hdigits⟩
    rw [List.eq_of_mem_replicate hc]
    rfl

end Text

namespace Json

open Text

section Characters

variable {half : Surrogate → Char} {r : List Char} {c : Char} {u : Nat}

lemma unit?_hexPadded (hu : u < 16 ^ 4) (hr : r ≠ []) : unit? (hexPadded 4 u ++ r) = some (u, r) := by
  obtain ⟨hlength, hvalue, hdigits⟩ := hexPadded_spec (by decide) hu
  have htake : (hexPadded 4 u ++ r).take 4 = hexPadded 4 u := by
    rw [List.take_append_of_le_length (by omega), List.take_of_length_le (by omega)]
  have hdrop : (hexPadded 4 u ++ r).drop 4 = r := by
    rw [List.drop_append_of_le_length (by omega), List.drop_of_length_le (by omega), List.nil_append]
  have hall : (hexPadded 4 u).all isHexadecimal = true := List.all_eq_true.mpr hdigits
  rw [unit?, htake, hdrop, hall, hvalue]
  simp [hr]

lemma unicodeEscape_single (hu : u < 16 ^ 4) (hhigh : isHighSurrogate u = false) (hr : r ≠ []) :
    unicodeEscape half (hexPadded 4 u ++ r) = .ok (unitChar half u, r) := by
  rw [unicodeEscape, unit?_hexPadded hu hr]
  split
  next h => cases h
  next h =>
    cases h
    rw [hhigh]
    rfl
  next h =>
    cases h
    rfl

lemma unicodeEscape_pair {v : Nat} (hu : u < 16 ^ 4) (hhigh : isHighSurrogate u = true) (hv : v < 16 ^ 4)
    (hlow : isLowSurrogate v = true) (hr : r ≠ []) :
    unicodeEscape half (hexPadded 4 u ++ '\\' :: 'u' :: (hexPadded 4 v ++ r)) = .ok (joinSurrogates u v, r) := by
  have hdrop : (hexPadded 4 v ++ r).drop 4 = r := by
    rw [List.drop_append_of_le_length (by rw [(hexPadded_spec (by decide) hv).1]),
      List.drop_of_length_le (by rw [(hexPadded_spec (by decide) hv).1]), List.nil_append]
  rw [unicodeEscape, unit?_hexPadded hu (List.cons_ne_nil _ _)]
  simp only [hhigh, hdrop, unit?_hexPadded hv hr, hlow, List.isEmpty_eq_false_iff.mpr hr, Bool.not_false, Bool.and_self,
    if_true]

lemma unitChar_toNat (c : Char) : unitChar half c.toNat = c := by
  rw [unitChar, CodePoint.ofNat_toNat]

lemma isHighSurrogate_toNat (c : Char) : isHighSurrogate c.toNat = false := by
  have hc := isSurrogate_toNat c
  simp only [isSurrogate, isHighSurrogate, Bool.and_eq_false_iff, decide_eq_false_iff_not] at hc ⊢
  omega

lemma joinSurrogates_units {n : Nat} (h : 0x10000 ≤ n) :
    joinSurrogates (0xD800 + (n - 0x10000) / 0x400) (0xDC00 + (n - 0x10000) % 0x400) = Char.ofNat n := by
  have hn : 0x10000 + (0xD800 + (n - 0x10000) / 0x400 - 0xD800) * 0x400 +
      (0xDC00 + (n - 0x10000) % 0x400 - 0xDC00) = n := by
    omega
  rw [joinSurrogates, hn]

variable {opened fuel : Nat} {done : List Char}

lemma textFrom_unicode (opened fuel : Nat) (done s : List Char) :
    textFrom half opened (fuel + 1) done ('\\' :: 'u' :: s) =
      unicodeEscape half s >>= fun found => textFrom half opened fuel (found.1 :: done) found.2 := by
  rw [textFrom]

lemma textFrom_units (hr : r ≠ []) :
    textFrom half opened (fuel + 1) done ((units c).flatMap unitEscape ++ r) =
      textFrom half opened fuel (c :: done) r := by
  rw [units]
  split_ifs with hplane
  · have hread : unicodeEscape half (hexPadded 4 c.toNat ++ r) = .ok (c, r) := by
      rw [unicodeEscape_single hplane (isHighSurrogate_toNat c) hr, unitChar_toNat]
    rw [List.flatMap_singleton, unitEscape, List.cons_append, List.cons_append, textFrom_unicode, hread]
    rfl
  · -- Beyond the first plane a character is written as a pair of surrogates.
    have hlimit : c.toNat < 0x110000 := by
      have hvalid : c.toNat < 0xD800 ∨ 0xDFFF < c.toNat ∧ c.toNat < 0x110000 := c.valid
      omega
    have hhigh : isHighSurrogate (0xD800 + (c.toNat - 0x10000) / 0x400) = true := by
      simp only [isHighSurrogate, Bool.and_eq_true, decide_eq_true_eq]
      omega
    have hlow : isLowSurrogate (0xDC00 + (c.toNat - 0x10000) % 0x400) = true := by
      simp only [isLowSurrogate, Bool.and_eq_true, decide_eq_true_eq]
      omega
    have hread := @unicodeEscape_pair half _ _ _ (by omega) hhigh (by omega) hlow hr
    rw [joinSurrogates_units (Nat.not_lt.mp hplane), Char.ofNat_toNat] at hread
    rw [List.flatMap_cons, List.flatMap_singleton, unitEscape, unitEscape, List.cons_append, List.cons_append,
      List.cons_append, List.cons_append, List.append_assoc, List.cons_append, List.cons_append, textFrom_unicode,
      hread]
    rfl

lemma textFrom_escapedChar (hr : r ≠ []) :
    textFrom half opened (fuel + 1) done (escapedChar c ++ r) = textFrom half opened fuel (c :: done) r := by
  unfold escapedChar
  split_ifs with h₁ h₂ h₃ h₄ h₅ h₆ h₇
  · rcases h₁ with rfl | rfl <;> simp [textFrom, letterEscape?, doubleQuote]
  · subst h₂
    simp [textFrom, letterEscape?]
  · subst h₃
    simp [textFrom, letterEscape?]
  · subst h₄
    simp [textFrom, letterEscape?]
  · subst h₅
    simp [textFrom, letterEscape?]
  · subst h₆
    simp [textFrom, letterEscape?]
  · have hquote : c ≠ '\x22' := fun h => h₁ (.inl h)
    have hslash : c ≠ '\\' := fun h => h₁ (.inr h)
    have hcontrol : ¬c.toNat ≤ 0x1F := by omega
    rw [List.singleton_append, textFrom.eq_def]
    simp [hslash, hquote, hcontrol]
  · exact textFrom_units hr

lemma textFrom_escapedText {s : List Char} (hfuel : s.length < fuel) :
    textFrom half opened fuel done (s.flatMap escapedChar ++ doubleQuote :: r) =
      .ok (String.ofList (done.reverse ++ s), r) := by
  induction s generalizing fuel done with
  | nil =>
    obtain ⟨fuel, rfl⟩ := Nat.exists_eq_add_one.mpr hfuel
    rw [List.flatMap_nil, List.nil_append, List.append_nil, textFrom.eq_def]
    simp [doubleQuote]
  | cons c s ih =>
    obtain ⟨fuel, rfl⟩ := Nat.exists_eq_add_one.mpr (Nat.zero_lt_of_lt hfuel)
    rw [List.flatMap_cons, List.append_assoc, textFrom_escapedChar (by simp),
      ih (Nat.lt_of_succ_lt_succ hfuel), List.reverse_cons, List.append_assoc, List.singleton_append]

lemma units_ne_nil (c : Char) : units c ≠ [] := by
  fun_cases units c <;> exact List.cons_ne_nil _ _

lemma escapedChar_ne_nil (c : Char) : escapedChar c ≠ [] := by
  unfold escapedChar
  split_ifs
  case neg =>
    obtain ⟨u, us, hu⟩ := List.exists_cons_of_ne_nil (units_ne_nil c)
    rw [hu, List.flatMap_cons, unitEscape]
    exact List.cons_ne_nil _ _
  all_goals exact List.cons_ne_nil _ _

lemma length_le_flatMap (s : List Char) : s.length ≤ (s.flatMap escapedChar).length := by
  induction s with
  | nil => exact Nat.le_refl _
  | cons c s ih =>
    have hc := List.length_pos_iff.mpr (escapedChar_ne_nil c)
    rw [List.flatMap_cons, List.length_append, List.length_cons]
    omega

lemma readText_escapedText {s : String} :
    readText half (s.toList.flatMap escapedChar ++ doubleQuote :: r) = .ok (s, r) := by
  have hlength := length_le_flatMap s.toList
  rw [readText, textFrom_escapedText (by rw [List.length_append]; omega), List.reverse_nil, List.nil_append,
    String.ofList_toList]

end Characters

/-- Null, truth values and texts, and lists and objects of such values. No two names in an object are the same. -/
inductive Worded : Json → Prop
  | null : Worded .null
  | bool {b : Bool} : Worded (.bool b)
  | text {s : String} : Worded (.text s)
  | list {vs : List Json} : (∀ v ∈ vs, Worded v) → Worded (.list vs)
  | object {fields : List (String × Json)} : (fields.map Prod.fst).Nodup →
      (∀ f ∈ fields, Worded f.2) → Worded (.object fields)

def ReadsBack (half : Surrogate → Char) (v : Json) : Prop :=
  ∀ depth fuel r, (write depth v).length ≤ fuel → readValue half fuel (write depth v ++ r) = .ok (v, r)

section Values

variable {half : Surrogate → Char} {r : List Char} {v : Json} {vs : List Json} {f : String × Json}
  {fs done : List (String × Json)} {depth fuel : Nat}

lemma skipSpace_newLine (depth : Nat) (s : List Char) : skipSpace (newLine depth ++ s) = skipSpace s := by
  refine List.dropWhile_append_of_pos fun c hc => ?_
  rcases List.mem_cons.mp hc with rfl | hc
  · rfl
  · rw [List.eq_of_mem_replicate hc]
    rfl

lemma skipSpace_of_head {c : Char} {s : List Char} (h : isSpace c = false) : skipSpace (c :: s) = c :: s :=
  List.dropWhile_cons_of_neg (Bool.eq_false_iff.mp h)

lemma Worded.head (h : Worded v) (depth : Nat) : ∃ c s, write depth v = c :: s ∧ isSpace c = false ∧ c ≠ ']' := by
  cases h with
  | null => exact ⟨_, _, rfl, rfl, by decide⟩
  | @bool b => cases b <;> exact ⟨_, _, rfl, rfl, by decide⟩
  | text => exact ⟨_, _, rfl, rfl, by decide⟩
  | @list vs => cases vs <;> exact ⟨_, _, rfl, rfl, by decide⟩
  | @object fs => cases fs <;> exact ⟨_, _, rfl, rfl, by decide⟩

lemma Worded.skipSpace_write (h : Worded v) (depth : Nat) (r : List Char) :
    skipSpace (write depth v ++ r) = write depth v ++ r := by
  obtain ⟨c, s, hs, hc, -⟩ := h.head depth
  rw [hs]
  exact skipSpace_of_head hc

lemma Worded.head?_write (h : Worded v) (depth : Nat) (r : List Char) : (write depth v ++ r).head? ≠ some ']' := by
  obtain ⟨c, s, hs, -, hc⟩ := h.head depth
  rw [hs]
  exact fun heq => hc (Option.some.inj heq)

lemma setField_of_not_mem {name : String} (h : name ∉ fs.map Prod.fst) : setField name v fs = fs ++ [(name, v)] := by
  induction fs with
  | nil => rfl
  | cons f fs ih =>
    rw [List.map_cons, List.mem_cons, not_or] at h
    rw [setField, if_neg (Ne.symm h.1), ih h.2, List.cons_append]

lemma readItems_last {s t : List Char} (hv : readValue half fuel s = .ok (v, t)) (ht : skipSpace t = ']' :: r) :
    readItems half (fuel + 1) s = .ok ([v], r) := by
  rw [readItems, hv]
  simp only [bind, Except.bind, ht]
  rfl

lemma readItems_more {s t t' : List Char} (hv : readValue half fuel s = .ok (v, t)) (ht : skipSpace t = ',' :: t')
    (hvs : readItems half fuel (skipSpace t') = .ok (vs, r)) : readItems half (fuel + 1) s = .ok (v :: vs, r) := by
  rw [readItems, hv]
  simp only [bind, Except.bind, ht, hvs]
  rfl

lemma escapedText_append (s : String) (r : List Char) :
    escapedText s ++ r = doubleQuote :: (s.toList.flatMap escapedChar ++ doubleQuote :: r) := by
  rw [escapedText, inQuotes, List.cons_append, List.cons_append, List.append_assoc, List.singleton_append]

lemma readValue_text (fuel : Nat) (s : List Char) : readValue half (fuel + 1) (doubleQuote :: s) =
    readText half s >>= fun found => .ok (.text found.1, found.2) := rfl

lemma readValue_list {s s' : List Char} (hs : skipSpace s = s') (hc : s'.head? ≠ some ']') :
    readValue half (fuel + 1) ('[' :: s) = readItems half fuel s' >>= fun found => .ok (.list found.1, found.2) := by
  rw [readValue, if_neg (by decide), if_neg (by decide), if_pos rfl, hs]
  split
  next => exact absurd rfl hc
  next => rfl

lemma readValue_object {s s' : List Char} (hs : skipSpace s = s') (hc : s'.head? ≠ some '\x7d') :
    readValue half (fuel + 1) ('\x7b' :: s) =
      readFields half fuel [] s' >>= fun found => .ok (.object found.1, found.2) := by
  rw [readValue, if_neg (by decide), if_pos rfl, hs]
  split
  next => exact absurd rfl hc
  next => rfl

lemma readItems_write {tail : List Char} (htail : skipSpace tail = ']' :: r) (hvs : ∀ w ∈ v :: vs, Worded w)
    (hback : ∀ w ∈ v :: vs, ReadsBack half w) (hfuel : (write depth v ++ writeItems depth vs).length < fuel) :
    readItems half fuel (write depth v ++ (writeItems depth vs ++ tail)) = .ok (v :: vs, r) := by
  induction vs generalizing v fuel with
  | nil =>
    obtain ⟨fuel, rfl⟩ := Nat.exists_eq_add_one.mpr (Nat.zero_lt_of_lt hfuel)
    rw [writeItems, List.append_nil] at hfuel
    exact readItems_last (hback v List.mem_cons_self _ _ _ (Nat.le_of_lt_succ hfuel)) htail
  | cons w vs ih =>
    obtain ⟨fuel, rfl⟩ := Nat.exists_eq_add_one.mpr (Nat.zero_lt_of_lt hfuel)
    obtain ⟨-, hvs⟩ := List.forall_mem_cons.mp hvs
    obtain ⟨hv, hback⟩ := List.forall_mem_cons.mp hback
    simp only [writeItems, List.length_append, List.length_cons, List.cons_append, List.append_assoc] at hfuel ⊢
    refine readItems_more (hv _ _ _ (by omega)) (skipSpace_of_head rfl) ?_
    rw [skipSpace_newLine, (hvs w List.mem_cons_self).skipSpace_write]
    exact ih hvs hback (by rw [List.length_append]; omega)

lemma writeField_append (depth : Nat) (name : String) (v : Json) (r : List Char) :
    writeField depth (name, v) ++ r =
      doubleQuote :: (name.toList.flatMap escapedChar ++ doubleQuote :: ':' :: ' ' :: (write depth v ++ r)) := by
  rw [writeField, List.append_assoc, List.append_assoc, escapedText_append]
  rfl

lemma skipSpace_writeField (depth : Nat) (f : String × Json) (r : List Char) :
    skipSpace (writeField depth f ++ r) = writeField depth f ++ r := by
  rw [writeField_append]
  exact skipSpace_of_head rfl

lemma head?_writeField (depth : Nat) (f : String × Json) (r : List Char) :
    (writeField depth f ++ r).head? = some doubleQuote := by
  rw [writeField_append, List.head?_cons]

lemma skipSpace_named (h : Worded v) (depth : Nat) (r : List Char) :
    skipSpace (' ' :: (write depth v ++ r)) = write depth v ++ r :=
  (List.dropWhile_cons_of_pos rfl).trans (h.skipSpace_write depth r)

lemma not_mem_of_nodup (h : ((done ++ f :: fs).map Prod.fst).Nodup) : f.1 ∉ done.map Prod.fst := by
  rw [List.map_append, List.nodup_append] at h
  exact fun hmem => h.2.2 f.1 hmem f.1 List.mem_cons_self rfl

lemma readFields_field (hv : Worded f.2) (hback : ReadsBack half f.2)
    (hnew : f.1 ∉ done.map Prod.fst) (hfuel : (writeField depth f).length ≤ fuel) (s : List Char) :
    readFields half (fuel + 1) done (writeField depth f ++ s) = match skipSpace s with
      | '\x7d' :: r => .ok (done ++ [f], r)
      | ',' :: r => readFields half fuel (done ++ [f]) (skipSpace r)
      | r => stop r.length := by
  obtain ⟨name, v⟩ := f
  have hlength : (write depth v).length ≤ fuel := by
    rw [writeField, List.length_append] at hfuel
    omega
  have hcolon : skipSpace (':' :: ' ' :: (write depth v ++ s)) = ':' :: ' ' :: (write depth v ++ s) :=
    skipSpace_of_head rfl
  have hvalue := hback depth fuel s hlength
  rw [writeField_append, doubleQuote, readFields, ← doubleQuote, readText_escapedText]
  simp only [bind, Except.bind, hcolon, skipSpace_named hv, hvalue, setField_of_not_mem hnew]
  rfl

lemma readFields_write {tail : List Char} (htail : skipSpace tail = '\x7d' :: r)
    (hvs : ∀ g ∈ f :: fs, Worded g.2)
    (hback : ∀ g ∈ f :: fs, ReadsBack half g.2) (hnodup : ((done ++ f :: fs).map Prod.fst).Nodup)
    (hfuel : (writeField depth f ++ writeFields depth fs).length < fuel) :
    readFields half fuel done (writeField depth f ++ (writeFields depth fs ++ tail)) = .ok (done ++ f :: fs, r) := by
  induction fs generalizing f done fuel with
  | nil =>
    obtain ⟨fuel, rfl⟩ := Nat.exists_eq_add_one.mpr (Nat.zero_lt_of_lt hfuel)
    rw [writeFields, List.append_nil] at hfuel
    rw [readFields_field (hvs f List.mem_cons_self) (hback f List.mem_cons_self)
      (not_mem_of_nodup hnodup) (Nat.le_of_lt_succ hfuel), writeFields, List.nil_append, htail]
    rfl
  | cons g fs ih =>
    obtain ⟨fuel, rfl⟩ := Nat.exists_eq_add_one.mpr (Nat.zero_lt_of_lt hfuel)
    obtain ⟨hv, hvs⟩ := List.forall_mem_cons.mp hvs
    obtain ⟨hfield, hback⟩ := List.forall_mem_cons.mp hback
    simp only [writeFields, List.length_append, List.length_cons, List.cons_append, List.append_assoc] at hfuel ⊢
    have hrest : readFields half fuel (done ++ [f]) (writeField depth g ++ (writeFields depth fs ++ tail)) =
        .ok (done ++ [f] ++ g :: fs, r) :=
      ih hvs hback (by rwa [List.append_cons] at hnodup) (by rw [List.length_append]; omega)
    rw [readFields_field hv hfield (not_mem_of_nodup hnodup) (by omega), skipSpace_of_head rfl]
    change readFields half fuel (done ++ [f]) (skipSpace (newLine depth ++ _)) = _
    rw [skipSpace_newLine, skipSpace_writeField, hrest, ← List.append_cons]

lemma Worded.readsBack_of_succ (h : Worded v) (hsucc : ∀ depth fuel r, (write depth v).length ≤ fuel + 1 →
    readValue half (fuel + 1) (write depth v ++ r) = .ok (v, r)) : ReadsBack half v := by
  intro depth fuel r hfuel
  obtain ⟨c, s, hs, -⟩ := h.head depth
  obtain ⟨fuel, rfl⟩ : ∃ k, fuel = k + 1 := Nat.exists_eq_add_one.mpr (Nat.lt_of_lt_of_le (by simp [hs]) hfuel)
  exact hsucc depth fuel r hfuel

theorem Worded.readsBack (h : Worded v) : ReadsBack half v := by
  induction h with
  | null => exact readsBack_of_succ .null fun _ _ _ _ => rfl
  | @bool b => exact readsBack_of_succ .bool fun _ _ _ _ => by cases b <;> rfl
  | @text s =>
    refine readsBack_of_succ .text fun depth fuel r _ => ?_
    rw [write, escapedText_append, readValue_text, readText_escapedText]
    rfl
  | @list vs hvs ih =>
    refine readsBack_of_succ (.list hvs) fun depth fuel r hfuel => ?_
    cases vs with
    | nil => rfl
    | cons v vs =>
      have hv := hvs v List.mem_cons_self
      have hend : skipSpace (newLine depth ++ ']' :: r) = ']' :: r := by
        rw [skipSpace_newLine, skipSpace_of_head rfl]
      simp only [write, List.cons_append, List.append_assoc, List.nil_append, List.length_cons,
        List.length_append] at hfuel ⊢
      have hitems : readItems half fuel
          (write (depth + 1) v ++ (writeItems (depth + 1) vs ++ (newLine depth ++ ']' :: r))) =
          .ok (v :: vs, r) :=
        readItems_write hend hvs ih (by rw [List.length_append]; omega)
      rw [readValue_list ((skipSpace_newLine _ _).trans (hv.skipSpace_write _ _)) (hv.head?_write _ _), hitems]
      rfl
  | @object fs hnodup hfs ih =>
    refine readsBack_of_succ (.object hnodup hfs) fun depth fuel r hfuel => ?_
    cases fs with
    | nil => rfl
    | cons f fs =>
      have hend : skipSpace (newLine depth ++ '\x7d' :: r) = '\x7d' :: r := by
        rw [skipSpace_newLine, skipSpace_of_head rfl]
      simp only [write, List.cons_append, List.append_assoc, List.nil_append, List.length_cons,
        List.length_append] at hfuel ⊢
      have hfields : readFields half fuel []
          (writeField (depth + 1) f ++ (writeFields (depth + 1) fs ++ (newLine depth ++ '\x7d' :: r))) =
          .ok (f :: fs, r) :=
        readFields_write hend hfs ih hnodup (by rw [List.length_append]; omega)
      rw [readValue_object ((skipSpace_newLine _ _).trans (skipSpace_writeField _ _ _))
        (by rw [head?_writeField]; decide), hfields]
      rfl

theorem parse_indented (h : Worded v) (half : Surrogate → Char) {r : List Char} (hr : skipSpace r = []) :
    parse (v.indented.toList ++ r) half = .ok v := by
  have hread : readValue half (2 * (write 0 v ++ r).length + 2) (write 0 v ++ r) = .ok (v, r) :=
    h.readsBack 0 _ r (by rw [List.length_append]; omega)
  rw [indented, String.toList_ofList, parse, h.skipSpace_write, hread]
  simp only [bind, Except.bind, hr]
  rfl

end Values

end Json

end PageStencil
