import PageStencil.Outline.Lexeme
import PageStencil.Proofs.Text.Trimming

/-!
The grammar of a line. Behind the indentation and the marker stands a text without square brackets, or a label with
brackets around its end and perhaps an address behind them. Reading a line gives what the grammar says of it, and
nothing else; only spaces and tabs count as blank where a line is taken apart, and all blanks where a text is trimmed.
-/

namespace PageStencil.Outline

open Text

def Indent (w : List Char) : Prop := ∀ c ∈ w, c = ' ' ∨ c = '\t'

inductive Marks : Char → Marker → Prop
  | title : Marks '#' .title
  | item : Marks '-' .item

/-- What may stand behind a marker, with the label and the address in it, both as they were written. -/
inductive Labels : List Char → List Char → Option (List Char) → Prop
  | plain {r} : '[' ∉ r → Labels r r none
  | openLabel {p s} : '[' ∉ p → ']' ∉ s → Labels (p ++ '[' :: s) (p ++ s) none
  | bracketed {p q g} : '[' ∉ p → ']' ∉ q → Indent g → Labels (p ++ '[' :: (q ++ ']' :: g)) (p ++ q) none
  | openAddress {p q g h} : '[' ∉ p → ']' ∉ q → Indent g → ')' ∉ h →
      Labels (p ++ '[' :: (q ++ ']' :: (g ++ '(' :: h))) (p ++ q) (some h)
  | address {p q g h ignored} : '[' ∉ p → ']' ∉ q → Indent g → ')' ∉ h →
      Labels (p ++ '[' :: (q ++ ']' :: (g ++ '(' :: (h ++ ')' :: ignored)))) (p ++ q) (some h)

inductive Reads (number : Option Int) : List Char → Except Fault Lexeme → Prop
  | noMarker {w} : Indent w → Reads number w (.error ⟨.noMarker, String.ofList w, number, none⟩)
  | badStart {w c r} : Indent w → ¬Indent [c] → (∀ m, ¬Marks c m) →
      Reads number (w ++ c :: r) (.error ⟨.badStart c, String.ofList (w ++ c :: r), number, some w.length⟩)
  | badLink {w c m p q g x r} : Indent w → Marks c m → '[' ∉ p → ']' ∉ q → Indent g → ¬Indent [x] → x ≠ '(' →
      Reads number (w ++ c :: (p ++ '[' :: (q ++ ']' :: (g ++ x :: r))))
        (.error ⟨.badLink x, String.ofList (w ++ c :: (p ++ '[' :: (q ++ ']' :: (g ++ x :: r)))), number,
          some (w ++ c :: (p ++ '[' :: (q ++ ']' :: g))).length⟩)
  | lexeme {w c m r label address text href} : Indent w → Marks c m → Labels r label address → Trims label text →
      Option.Rel Trims address href →
      Reads number (w ++ c :: r) (.ok ⟨w.length, m, String.ofList text, href.map String.ofList⟩)

section Scanning

variable {column : Nat} {done : List Char}

lemma isIndent_iff {c : Char} : isIndent c = true ↔ c = ' ' ∨ c = '\t' := by
  simp [isIndent]

lemma not_isIndent {c : Char} (h : ¬Indent [c]) : isIndent c = false := by
  apply Bool.eq_false_iff.mpr
  intro hc
  apply h
  simpa [Indent] using isIndent_iff.mp hc

lemma Indent.cons {c : Char} {w : List Char} (h : Indent (c :: w)) : isIndent c = true ∧ Indent w :=
  ⟨isIndent_iff.mpr (h c List.mem_cons_self), fun d hd => h d (List.mem_cons_of_mem _ hd)⟩

lemma scanAddress_open {h : List Char} (hh : ')' ∉ h) : scanAddress done h = done.reverse ++ h := by
  induction h generalizing done with
  | nil => simp [scanAddress]
  | cons c h ih =>
    rw [List.mem_cons, not_or] at hh
    rw [scanAddress, if_neg (Ne.symm hh.1), ih hh.2]
    simp

lemma scanAddress_closed {h s : List Char} (hh : ')' ∉ h) : scanAddress done (h ++ ')' :: s) = done.reverse ++ h := by
  induction h generalizing done with
  | nil => simp [scanAddress]
  | cons c h ih =>
    rw [List.mem_cons, not_or] at hh
    rw [List.cons_append, scanAddress, if_neg (Ne.symm hh.1), ih hh.2]
    simp

lemma scanGap_append {g s : List Char} (hg : Indent g) : scanGap column (g ++ s) = scanGap (column + g.length) s := by
  induction g generalizing column with
  | nil => rfl
  | cons c g ih =>
    obtain ⟨hc, hg⟩ := hg.cons
    rw [List.cons_append, scanGap, if_pos hc, ih hg, List.length_cons]
    congr 1
    omega

lemma scanGap_end {g : List Char} (hg : Indent g) : scanGap column g = .ok none := by
  have h : scanGap column (g ++ []) = scanGap (column + g.length) [] := scanGap_append hg
  rwa [List.append_nil] at h

lemma scanGap_address {g s : List Char} (hg : Indent g) :
    scanGap column (g ++ '(' :: s) = .ok (some (scanAddress [] s)) := by
  rw [scanGap_append hg]
  rfl

lemma scanGap_bad {g s : List Char} {x : Char} (hg : Indent g) (hi : ¬Indent [x]) (hx : x ≠ '(') :
    scanGap column (g ++ x :: s) = .error ⟨.badLink x, some (column + g.length)⟩ := by
  rw [scanGap_append hg, scanGap, not_isIndent hi, if_neg hx]
  rfl

lemma scanLabel_open {s : List Char} (hs : ']' ∉ s) : scanLabel column done s = .ok (done.reverse ++ s, none) := by
  induction s generalizing column done with
  | nil => simp [scanLabel]
  | cons c s ih =>
    rw [List.mem_cons, not_or] at hs
    rw [scanLabel, if_neg (Ne.symm hs.1), ih hs.2]
    simp

lemma scanLabel_closed {q g : List Char} (hq : ']' ∉ q) :
    scanLabel column done (q ++ ']' :: g) =
      (scanGap (column + q.length + 1) g).map fun address => (done.reverse ++ q, address) := by
  induction q generalizing column done with
  | nil =>
    rw [List.nil_append, scanLabel, if_pos rfl, List.append_nil]
    rfl
  | cons c q ih =>
    rw [List.mem_cons, not_or] at hq
    rw [List.cons_append, scanLabel, if_neg (Ne.symm hq.1), ih hq.2, List.length_cons,
      show column + 1 + q.length + 1 = column + (q.length + 1) + 1 by omega]
    simp

lemma scanText_plain {r : List Char} (hr : '[' ∉ r) : scanText column done r = .ok (done.reverse ++ r, none) := by
  induction r generalizing column done with
  | nil => simp [scanText]
  | cons c r ih =>
    rw [List.mem_cons, not_or] at hr
    rw [scanText, if_neg (Ne.symm hr.1), ih hr.2]
    simp

lemma scanText_label {p s : List Char} (hp : '[' ∉ p) :
    scanText column done (p ++ '[' :: s) = scanLabel (column + p.length + 1) (p.reverse ++ done) s := by
  induction p generalizing column done with
  | nil => simp [scanText]
  | cons c p ih =>
    rw [List.mem_cons, not_or] at hp
    rw [List.cons_append, scanText, if_neg (Ne.symm hp.1), ih hp.2, List.length_cons,
      show column + 1 + p.length + 1 = column + (p.length + 1) + 1 by omega]
    simp

end Scanning

lemma scanText_labels {column : Nat} {r label : List Char} {address : Option (List Char)}
    (h : Labels r label address) : scanText column [] r = .ok (label, address) := by
  cases h with
  | plain hr => exact scanText_plain hr
  | openLabel hp hs => simp [scanText_label hp, scanLabel_open hs]
  | bracketed hp hq hg => simp [scanText_label hp, scanLabel_closed hq, scanGap_end hg, Except.map]
  | openAddress hp hq hg hh =>
    simp [scanText_label hp, scanLabel_closed hq, scanGap_address hg, scanAddress_open hh, Except.map]
  | address hp hq hg hh =>
    simp [scanText_label hp, scanLabel_closed hq, scanGap_address hg, scanAddress_closed hh, Except.map]

lemma scanLine_append {column : Nat} {w s : List Char} (hw : Indent w) :
    scanLine column (w ++ s) = scanLine (column + w.length) s := by
  induction w generalizing column with
  | nil => rfl
  | cons c w ih =>
    obtain ⟨hc, hw⟩ := hw.cons
    rw [List.cons_append, scanLine, if_pos hc, ih hw, List.length_cons]
    congr 1
    omega

lemma ofChar_of_marks {c : Char} {m : Marker} (h : Marks c m) : Marker.ofChar? c = some m ∧ isIndent c = false := by
  cases h <;> decide

lemma ofChar_eq_none {c : Char} (h : ∀ m, ¬Marks c m) : Marker.ofChar? c = none := by
  unfold Marker.ofChar?
  split
  · exact absurd .title (h .title)
  · exact absurd .item (h .item)
  · rfl

lemma scanLine_marker {w r : List Char} {c : Char} {m : Marker} (hw : Indent w) (hc : Marks c m) :
    scanLine 0 (w ++ c :: r) = (scanText (w.length + 1) [] r).map fun read =>
      ⟨w.length, m, String.ofList (trim read.1), read.2.map fun a => String.ofList (trim a)⟩ := by
  obtain ⟨hm, hi⟩ := ofChar_of_marks hc
  rw [scanLine_append hw, Nat.zero_add, scanLine, hi, hm]
  cases scanText (w.length + 1) [] r <;> rfl

lemma map_trim {address href : Option (List Char)} (h : Option.Rel Trims address href) :
    address.map (fun a => String.ofList (trim a)) = href.map String.ofList := by
  cases h with
  | none => rfl
  | some ht => rw [Option.map_some, trims_iff.mp ht, Option.map_some]

lemma rel_trim (address : Option (List Char)) : Option.Rel Trims address (address.map trim) := by
  cases address with
  | none => exact .none
  | some a => exact .some (trims_trim a)

lemma ofLine_error {number : Option Int} {line : List Char} {stop : Stop} (h : scanLine 0 line = .error stop) :
    Lexeme.ofLine number line = .error ⟨stop.cause, String.ofList line, number, stop.column⟩ := by
  rw [Lexeme.ofLine, h]
  rfl

lemma ofLine_ok {number : Option Int} {line : List Char} {l : Lexeme} (h : scanLine 0 line = .ok l) :
    Lexeme.ofLine number line = .ok l := by
  rw [Lexeme.ofLine, h]
  rfl

lemma ofLine_of_reads {number : Option Int} {line : List Char} {outcome : Except Fault Lexeme}
    (h : Reads number line outcome) : Lexeme.ofLine number line = outcome := by
  cases h with
  | noMarker hw =>
    have hs : scanLine 0 (line ++ []) = scanLine (0 + line.length) [] := scanLine_append hw
    rw [List.append_nil] at hs
    exact ofLine_error hs
  | @badStart w c r hw hi hc =>
    have hs : scanLine 0 (w ++ c :: r) = .error ⟨.badStart c, some w.length⟩ := by
      rw [scanLine_append hw, scanLine, not_isIndent hi, ofChar_eq_none hc, Nat.zero_add]
      rfl
    exact ofLine_error hs
  | @badLink w c m p q g x r hw hc hp hq hg hi hx =>
    have hs : scanLine 0 (w ++ c :: (p ++ '[' :: (q ++ ']' :: (g ++ x :: r)))) =
        .error ⟨.badLink x, some (w.length + 1 + p.length + 1 + q.length + 1 + g.length)⟩ := by
      rw [scanLine_marker hw hc, scanText_label hp, scanLabel_closed hq, scanGap_bad hg hi hx]
      rfl
    rw [ofLine_error hs]
    simp
    omega
  | @lexeme w c m r label address text href hw hc hl ht hh =>
    have hs : scanLine 0 (w ++ c :: r) =
        .ok ⟨w.length, m, String.ofList (trim label), address.map fun a => String.ofList (trim a)⟩ := by
      rw [scanLine_marker hw hc, scanText_labels hl]
      rfl
    rw [ofLine_ok hs, trims_iff.mp ht, map_trim hh]

lemma split_at (c : Char) (s : List Char) : c ∉ s ∨ ∃ p r, s = p ++ c :: r ∧ c ∉ p := by
  by_cases h : c ∈ s
  · obtain ⟨p, r, hs, hp⟩ := List.eq_append_cons_of_mem h
    exact Or.inr ⟨p, r, hs, hp⟩
  · exact Or.inl h

lemma split_indent (s : List Char) : Indent s ∨ ∃ w c r, s = w ++ c :: r ∧ Indent w ∧ ¬Indent [c] := by
  induction s with
  | nil => exact Or.inl (by simp [Indent])
  | cons d s ih =>
    by_cases hd : Indent [d]
    · have hd : d = ' ' ∨ d = '\t' := by simpa [Indent] using hd
      rcases ih with h | ⟨w, c, r, rfl, hw, hc⟩
      · exact Or.inl (by simpa [Indent, hd] using h)
      · exact Or.inr ⟨d :: w, c, r, rfl, by simpa [Indent, hd] using hw, hc⟩
    · exact Or.inr ⟨[], d, s, rfl, by simp [Indent], hd⟩

lemma labels_or_bad (r : List Char) : (∃ label address, Labels r label address) ∨
    ∃ p q g x s, r = p ++ '[' :: (q ++ ']' :: (g ++ x :: s)) ∧
      '[' ∉ p ∧ ']' ∉ q ∧ Indent g ∧ ¬Indent [x] ∧ x ≠ '(' := by
  rcases split_at '[' r with hr | ⟨p, s, rfl, hp⟩
  · exact Or.inl ⟨_, _, .plain hr⟩
  rcases split_at ']' s with hs | ⟨q, t, rfl, hq⟩
  · exact Or.inl ⟨_, _, .openLabel hp hs⟩
  rcases split_indent t with hg | ⟨g, x, u, rfl, hg, hi⟩
  · exact Or.inl ⟨_, _, .bracketed hp hq hg⟩
  by_cases hx : x = '('
  · subst hx
    rcases split_at ')' u with hu | ⟨h, v, rfl, hh⟩
    · exact Or.inl ⟨_, _, .openAddress hp hq hg hu⟩
    · exact Or.inl ⟨_, _, .address hp hq hg hh⟩
  · exact Or.inr ⟨p, q, g, x, u, rfl, hp, hq, hg, hi, hx⟩

lemma exists_reads (number : Option Int) (line : List Char) : ∃ outcome, Reads number line outcome := by
  rcases split_indent line with hw | ⟨w, c, r, rfl, hw, hc⟩
  · exact ⟨_, .noMarker hw⟩
  by_cases hm : ∃ m, Marks c m
  · obtain ⟨m, hm⟩ := hm
    rcases labels_or_bad r with ⟨label, address, hl⟩ | ⟨p, q, g, x, s, rfl, hp, hq, hg, hi, hx⟩
    · exact ⟨_, .lexeme hw hm hl (trims_trim label) (rel_trim address)⟩
    · exact ⟨_, .badLink hw hm hp hq hg hi hx⟩
  · exact ⟨_, .badStart hw hc (not_exists.mp hm)⟩

lemma ofLine_eq_iff_reads (number : Option Int) (line : List Char) (outcome : Except Fault Lexeme) :
    Lexeme.ofLine number line = outcome ↔ Reads number line outcome := by
  constructor
  · rintro rfl
    obtain ⟨outcome, h⟩ := exists_reads number line
    rwa [ofLine_of_reads h]
  · exact ofLine_of_reads

lemma isStructural_of_reads {number : Option Int} {line : List Char} {f : Fault} (h : Reads number line (.error f)) :
    f.cause.isStructural = false := by
  cases h with
  | noMarker => rfl
  | badStart => rfl
  | badLink => rfl

theorem ofLine_grammar (number : Option Int) (line : List Char) :
    (∀ outcome, Lexeme.ofLine number line = outcome ↔ Reads number line outcome) ∧
      ∀ f, Lexeme.ofLine number line = .error f → f.cause.isStructural = false := by
  refine ⟨ofLine_eq_iff_reads number line, ?_⟩
  intro f hf
  exact isStructural_of_reads ((ofLine_eq_iff_reads number line _).mp hf)

theorem ofLine_grammar_badLink :
    Reads (some 3) "- a [b] x".toList (.error ⟨.badLink 'x', "- a [b] x", some 3, some 8⟩) ∧
      (Cause.badLink 'x').isStructural = false :=
  ⟨((ofLine_grammar (some 3) "- a [b] x".toList).1 _).mp rfl, (ofLine_grammar (some 3) "- a [b] x".toList).2 _ rfl⟩

end PageStencil.Outline
