import PageStencil.Proofs.Outline.Grammar
import PageStencil.Proofs.Outline.Numbering
import PageStencil.Proofs.Outline.Placing
import PageStencil.Proofs.Text.LineEnds

/-!
Where an outline fails. The lines before the one that is refused make a draft of their own, and the fault tells that
line's number and a column of it. What comes behind the line has no part in this, and neither has how the lines end.
-/

namespace PageStencil.Outline

open Text

/-- Line `n` is the first one that cannot be read or placed. -/
inductive FailsAt (strict : Bool) (text : String) (n : Nat) (f : Fault) : Prop
  | of {before after : List (Nat × List Char)} {line : List Char} {d : Draft} :
      numberedLines text.toList = before ++ (n, line) :: after →
      before.foldlM (Draft.addLine strict) {} = .ok d → d.addLine strict (n, line) = .error f → FailsAt strict text n f

/-- The place that a fault tells of a line: a column of it, where a marker stands if the indentation is at fault. -/
structure Fault.PointsInto (f : Fault) (chars : List Char) : Prop where
  quoted : f.line = String.ofList chars
  column : ∃ c x, f.column = some c ∧ chars[c]? = some x ∧ (f.cause.isStructural = true → x = '#' ∨ x = '-')

/-- A fault behind `n` lines that are in order, which no line further on can change. -/
structure Pinpoints (strict : Bool) (text : String) (f : Fault) (n : Nat) : Prop where
  number : f.number = some ((n + 1 : Nat) : Int)
  place : ∃ line, (lines text.toList)[n]? = some line ∧ f.PointsInto line
  front : ∀ text' : String, lines text'.toList = (lines text.toList).take n → ∃ m, parse strict text' = .ok m
  same : ∀ text' : String, (lines text'.toList).take (n + 1) = (lines text.toList).take (n + 1) →
    parse strict text' = .error f

variable {strict : Bool} {text : String} {n : Nat} {f : Fault} {d : Draft} {line : List Char}

section Lines

variable {number : Option Int} {l : Lexeme}

lemma allBlank_of_indent (h : Indent line) : allBlank line = true := by
  rw [allBlank, List.all_eq_true]
  intro c hc
  exact isBlank_of_isIndent (isIndent_iff.mpr (h c hc))

lemma Reads.pointsInto (h : Reads number line (.error f)) (hw : allBlank line = false) :
    f.number = number ∧ f.PointsInto line := by
  have hlexical : ¬f.cause.isStructural = true := by simp [isStructural_of_reads h]
  cases h with
  | noMarker hindent =>
    rw [allBlank_of_indent hindent] at hw
    cases hw
  | @badStart w c r => exact ⟨rfl, rfl, w.length, c, rfl, by simp, fun hs => absurd hs hlexical⟩
  | @badLink w c m p q g x r =>
    refine ⟨rfl, rfl, _, x, rfl, ?_, fun hs => absurd hs hlexical⟩
    have hsplit : w ++ c :: (p ++ '[' :: (q ++ ']' :: (g ++ x :: r))) =
        (w ++ c :: (p ++ '[' :: (q ++ ']' :: g))) ++ x :: r := by simp
    rw [hsplit, List.getElem?_append_right (Nat.le_refl _), Nat.sub_self]
    rfl

lemma Reads.marker {chars : List Char} (h : Reads number chars (.ok l)) :
    ∃ x, chars[l.indentation]? = some x ∧ (x = '#' ∨ x = '-') := by
  cases h with
  | @lexeme w c m r label address text href _ hmarks =>
    refine ⟨c, by simp, ?_⟩
    cases hmarks with
    | title => exact Or.inl rfl
    | item => exact Or.inr rfl

lemma addLine_pointsInto (h : d.addLine strict (n, line) = .error f) (hw : allBlank line = false) :
    f.number = some (n : Int) ∧ f.PointsInto line := by
  cases hl : Lexeme.ofLine (some (n : Int)) line with
  | error e =>
    rw [Draft.addLine, hl] at h
    cases h
    exact ((ofLine_eq_iff_reads _ _ _).mp hl).pointsInto hw
  | ok l =>
    rw [addLine_eq hl] at h
    cases hp : d.place strict l with
    | error cause =>
      rw [hp] at h
      cases h
      obtain ⟨x, hx, hmarker⟩ := ((ofLine_eq_iff_reads _ _ _).mp hl).marker
      exact ⟨rfl, rfl, l.indentation, x, rfl, hx, fun _ => hmarker⟩
    | ok d' =>
      rw [hp] at h
      cases h

end Lines

section Runs

variable {before after : List (Nat × List Char)}

lemma foldlM_addLine_stops {lines : List (Nat × List Char)} (h : lines.foldlM (Draft.addLine strict) d = .error f) :
    ∃ before line after d', lines = before ++ line :: after ∧ before.foldlM (Draft.addLine strict) d = .ok d' ∧
      d'.addLine strict line = .error f := by
  induction lines generalizing d with
  | nil => cases h
  | cons line lines ih =>
    rw [List.foldlM_cons] at h
    cases ha : d.addLine strict line with
    | error e =>
      rw [ha] at h
      cases h
      exact ⟨[], line, lines, d, rfl, rfl, ha⟩
    | ok d₁ =>
      rw [ha] at h
      obtain ⟨before, bad, after, d', rfl, hbefore, hbad⟩ := ih h
      refine ⟨line :: before, bad, after, d', rfl, ?_, hbad⟩
      rw [List.foldlM_cons, ha]
      exact hbefore

lemma foldlM_addLine_fails {d' : Draft} {line : Nat × List Char} (h : before.foldlM (Draft.addLine strict) d = .ok d')
    (hbad : d'.addLine strict line = .error f) :
    (before ++ line :: after).foldlM (Draft.addLine strict) d = .error f := by
  rw [List.foldlM_append, h]
  change List.foldlM (Draft.addLine strict) d' _ = _
  rw [List.foldlM_cons, hbad]
  rfl

lemma foldlM_addLine_front {d' : Draft} (h : (before ++ after).foldlM (Draft.addLine strict) d = .ok d') :
    ∃ d₁, before.foldlM (Draft.addLine strict) d = .ok d₁ := by
  rw [List.foldlM_append] at h
  cases hd : before.foldlM (Draft.addLine strict) d with
  | error e =>
    rw [hd] at h
    cases h
  | ok d₁ => exact ⟨d₁, rfl⟩

lemma exists_parse_of_draft (h : draft strict text.toList = .ok d) : ∃ m, parse strict text = .ok m :=
  ⟨d.menu, parse_of_draft h⟩

lemma exists_draft_of_parse {m : Menu} (h : parse strict text = .ok m) : ∃ d, draft strict text.toList = .ok d := by
  cases hd : draft strict text.toList with
  | error e =>
    rw [parse, hd] at h
    cases h
  | ok d => exact ⟨d, rfl⟩

theorem parse_eq_error_iff : parse strict text = .error f ↔ ∃ n, FailsAt strict text n f := by
  constructor
  · intro h
    cases hd : draft strict text.toList with
    | ok d =>
      rw [parse, hd] at h
      cases h
    | error e =>
      rw [parse, hd] at h
      cases h
      obtain ⟨before, ⟨n, line⟩, after, d, hlines, hbefore, hbad⟩ := foldlM_addLine_stops hd
      exact ⟨n, .of hlines hbefore hbad⟩
  · rintro ⟨n, hlines, hbefore, hbad⟩
    have hd : draft strict text.toList = .error f := by
      rw [draft, hlines, foldlM_addLine_fails hbefore hbad]
    rw [parse, hd]
    rfl

end Runs

lemma FailsAt.number (h : FailsAt strict text n f) : f.number = some (n : Int) := by
  cases h with
  | of hlines _ hbad =>
    obtain ⟨_, _, _, _, hw, _⟩ := numberedFrom_split hlines
    exact (addLine_pointsInto hbad hw).1

lemma FailsAt.pinpoints (h : FailsAt strict text n f) : ∃ k, Pinpoints strict text f k := by
  cases h with
  | @of before after line d hlines hbefore hbad =>
    obtain ⟨front, back, hsplit, rfl, hw, rfl, rfl⟩ := numberedFrom_split hlines
    obtain ⟨hnumber, hplace⟩ := addLine_pointsInto hbad hw
    refine ⟨front.length, ?_, ⟨line, ?_, hplace⟩, ?_, ?_⟩
    · rw [hnumber, Nat.add_comm]
    · simp [hsplit]
    · intro text' htext
      have hfront : lines text'.toList = front := by simpa [hsplit] using htext
      apply exists_parse_of_draft (d := d)
      rw [draft, numberedLines, hfront]
      exact hbefore
    · intro text' htext
      have hsame : (lines text'.toList).take (front.length + 1) = front ++ [line] := by
        rw [htext, hsplit, List.append_cons]
        exact List.take_left' (by simp)
      obtain ⟨back', hback⟩ : ∃ back', lines text'.toList = front ++ line :: back' := by
        refine ⟨(lines text'.toList).drop (front.length + 1), ?_⟩
        rw [← List.take_append_drop (front.length + 1) (lines text'.toList), hsame]
        simp
      have hnumbered : numberedLines text'.toList =
          numberedFrom 1 front ++ (1 + front.length, line) :: numberedFrom (1 + front.length + 1) back' := by
        change numberedFrom 1 (lines text'.toList) = _
        rw [hback, numberedFrom_append, numberedFrom_written hw]
      exact parse_eq_error_iff.mpr ⟨1 + front.length, .of hnumbered hbefore hbad⟩

theorem parse_pinpoints (strict : Bool) (text : String) :
    (∀ f, parse strict text = .error f → ∃ n, Pinpoints strict text f n) ∧
      ∀ m, parse strict text = .ok m → ∀ text' : String, lines text'.toList <+: lines text.toList →
        ∃ m', parse strict text' = .ok m' := by
  constructor
  · intro f hf
    obtain ⟨n, hn⟩ := parse_eq_error_iff.mp hf
    exact hn.pinpoints
  · intro m hm text' ⟨back, hback⟩
    obtain ⟨d, hd⟩ := exists_draft_of_parse hm
    have hsplit : numberedLines text.toList =
        numberedLines text'.toList ++ numberedFrom (1 + (lines text'.toList).length) back := by
      change numberedFrom 1 _ = _
      rw [← hback, numberedFrom_append]
      rfl
    rw [draft, hsplit] at hd
    obtain ⟨d₁, hd₁⟩ := foldlM_addLine_front hd
    exact exists_parse_of_draft hd₁

def torn : String := "- a\r\n  - b\n - c\n> d"

def tornFault : Fault := ⟨.uneven 2, " - c", some 3, some 1⟩

theorem torn_pinpoints : parse true torn = .error tornFault ∧ (∃ n, Pinpoints true torn tornFault n) ∧
    (∃ m, parse true "- a\n  - b" = .ok m) ∧ ∃ m, parse true "- a" = .ok m := by
  have htorn : parse true torn = .error tornFault := by rfl
  have hwhole : ∃ m, parse true "- a\n  - b" = .ok m := ⟨_, rfl⟩
  obtain ⟨m, hm⟩ := hwhole
  exact ⟨htorn, (parse_pinpoints true torn).1 _ htorn, ⟨m, hm⟩,
    (parse_pinpoints true "- a\n  - b").2 m hm "- a" ⟨["  - b".toList], by rfl⟩⟩

theorem parse_unifyLineEnds (h : ReturnsPaired text.toList) (strict : Bool) :
    parse strict (String.ofList (unifyLineEnds text.toList)) = parse strict text := by
  rw [parse, parse, draft, draft, numberedLines, numberedLines, String.toList_ofList, lines_unifyLineEnds h]

end PageStencil.Outline
