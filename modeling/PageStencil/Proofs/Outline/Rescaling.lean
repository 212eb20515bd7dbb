import PageStencil.Proofs.Outline.Failing

/-!
Scaling and shifting the indentation. Every increase and decrease grows by the same factor, and so does the unit; so
each line does to the scaled margin what it did to the margin, and the columns of a fault are all that changes.
-/

namespace PageStencil.Outline

open Text

/-- A line and the same line with another indentation, `a` times as wide and `b` columns more. -/
inductive Reindents (a b : Nat) : List Char → List Char → Prop
  | blank {l} : allBlank l = true → Reindents a b l l
  | written {w w' c s} : Indent w → Indent w' → ¬Indent [c] → allBlank (w ++ c :: s) = false →
      w'.length = a * w.length + b → Reindents a b (w ++ c :: s) (w' ++ c :: s)

variable {a b : Nat}

def Cause.scale (a : Nat) : Cause → Cause
  | uneven unit => uneven (a * unit)
  | cause => cause

@[simp] lemma Cause.scale_isStructural (a : Nat) (cause : Cause) :
    (cause.scale a).isStructural = cause.isStructural := by
  cases cause <;> rfl

lemma Cause.scale_of_lexical {cause : Cause} (h : cause.isStructural = false) : cause.scale a = cause := by
  cases cause with
  | uneven => cases h
  | _ => rfl

def Lexeme.scale (a b : Nat) (l : Lexeme) : Lexeme := { l with indentation := a * l.indentation + b }

def Margin.scale (a b : Nat) (m : Margin) : Margin :=
  { m with current := m.current.map (a * · + b), unit := m.unit.map (a * ·) }

def Draft.scale (a b : Nat) (d : Draft) : Draft := { d with margin := d.margin.scale a b }

/-- Results that are related, or faults of scaled causes at lines of one number. -/
inductive Alike {α : Type} (a : Nat) (R : α → α → Prop) : Except Fault α → Except Fault α → Prop
  | ok {x y} : R x y → Alike a R (.ok x) (.ok y)
  | error {f f' : Fault} : f'.number = f.number → f'.cause = f.cause.scale a → Alike a R (.error f) (.error f')

lemma Alike.bind {α β : Type} {R : α → α → Prop} {S : β → β → Prop} {x x' : Except Fault α}
    {k k' : α → Except Fault β} (h : Alike a R x x') (hk : ∀ y y', R y y' → Alike a S (k y) (k' y')) :
    Alike a S (x >>= k) (x' >>= k') := by
  cases h with
  | ok hr => exact hk _ _ hr
  | error hnumber hcause => exact .error hnumber hcause

section Lines

lemma scanGap_column (k k' : Nat) (s : List Char) :
    (scanGap k s).mapError Stop.cause = (scanGap k' s).mapError Stop.cause := by
  induction s generalizing k k' with
  | nil => rfl
  | cons c s ih =>
    rw [scanGap, scanGap]
    split
    · exact ih (k + 1) (k' + 1)
    · split <;> rfl

lemma mapError_map {ε ε' α β : Type} (x : Except ε α) (g : α → β) (cause : ε → ε') :
    (x.map g).mapError cause = (x.mapError cause).map g := by
  cases x <;> rfl

lemma scanLabel_column (k k' : Nat) (done s : List Char) :
    (scanLabel k done s).mapError Stop.cause = (scanLabel k' done s).mapError Stop.cause := by
  induction s generalizing k k' done with
  | nil => rfl
  | cons c s ih =>
    rw [scanLabel, scanLabel]
    split
    · change ((scanGap (k + 1) s).map (done.reverse, ·)).mapError _ =
        ((scanGap (k' + 1) s).map (done.reverse, ·)).mapError _
      rw [mapError_map, mapError_map, scanGap_column (k + 1) (k' + 1)]
    · exact ih (k + 1) (k' + 1) (c :: done)

lemma scanText_column (k k' : Nat) (done s : List Char) :
    (scanText k done s).mapError Stop.cause = (scanText k' done s).mapError Stop.cause := by
  induction s generalizing k k' done with
  | nil => rfl
  | cons c s ih =>
    rw [scanText, scanText]
    split
    · exact scanLabel_column (k + 1) (k' + 1) done s
    · exact ih (k + 1) (k' + 1) (c :: done)

lemma scanLine_column {w w' s : List Char} {c : Char} (hw : Indent w) (hw' : Indent w') (hc : ¬Indent [c]) :
    (scanLine 0 (w' ++ c :: s)).mapError Stop.cause =
      ((scanLine 0 (w ++ c :: s)).mapError Stop.cause).map fun l => { l with indentation := w'.length } := by
  by_cases hmarked : ∃ m, Marks c m
  · obtain ⟨m, hm⟩ := hmarked
    rw [scanLine_marker hw hm, scanLine_marker hw' hm, mapError_map, mapError_map,
      scanText_column (w.length + 1) (w'.length + 1)]
    cases (scanText (w'.length + 1) [] s).mapError Stop.cause <;> rfl
  · rw [scanLine_append hw, scanLine_append hw', scanLine, scanLine, not_isIndent hc,
      ofChar_eq_none (not_exists.mp hmarked)]
    rfl

lemma ofLine_reindent {w w' s : List Char} {c : Char} {number : Option Int} (hw : Indent w) (hw' : Indent w')
    (hc : ¬Indent [c]) (hlength : w'.length = a * w.length + b) :
    Alike a (fun l l' => l' = l.scale a b) (Lexeme.ofLine number (w ++ c :: s))
      (Lexeme.ofLine number (w' ++ c :: s)) := by
  have hsame := scanLine_column (s := s) hw hw hc
  have hmoved := scanLine_column (s := s) hw hw' hc
  cases hl : scanLine 0 (w ++ c :: s) with
  | error stop =>
    cases hl' : scanLine 0 (w' ++ c :: s) with
    | error stop' =>
      rw [hl, hl'] at hmoved
      have hcause : stop'.cause = stop.cause := Except.error.inj hmoved
      have hlexical := isStructural_of_reads ((ofLine_eq_iff_reads number _ _).mp (ofLine_error hl))
      rw [ofLine_error hl, ofLine_error hl']
      exact .error rfl (hcause.trans (Cause.scale_of_lexical hlexical).symm)
    | ok l' =>
      rw [hl, hl'] at hmoved
      cases hmoved
  | ok l =>
    cases hl' : scanLine 0 (w' ++ c :: s) with
    | error stop' =>
      rw [hl, hl'] at hmoved
      cases hmoved
    | ok l' =>
      rw [hl, hl'] at hmoved
      rw [hl] at hsame
      have hindentation : l.indentation = w.length := congrArg Lexeme.indentation (Except.ok.inj hsame)
      have hscaled : l' = l.scale a b := by
        rw [Except.ok.inj hmoved, Lexeme.scale, hindentation, hlength]
      rw [ofLine_ok hl, ofLine_ok hl']
      exact .ok hscaled

lemma allBlank_reindent {w w' s : List Char} (hw : Indent w) (hw' : Indent w') :
    allBlank (w' ++ s) = allBlank (w ++ s) := by
  have h := allBlank_of_indent hw
  have h' := allBlank_of_indent hw'
  rw [allBlank] at h h'
  simp [allBlank, List.all_append, h, h']

end Lines

section Steps

lemma scaled_sub (a b i j : Nat) : a * i + b - (a * j + b) = a * (i - j) := by
  rw [Nat.add_sub_add_right, Nat.mul_sub]

lemma scaled_lt (ha : 0 < a) {i j : Nat} : a * i + b < a * j + b ↔ i < j := by
  rw [Nat.add_lt_add_iff_right, Nat.mul_lt_mul_left ha]

lemma scaled_mod (ha : 0 < a) {i j : Nat} : a * i % (a * j) = 0 ↔ i % j = 0 := by
  rw [Nat.mul_mod_mul_left, Nat.mul_eq_zero, or_iff_right (Nat.ne_of_gt ha)]

lemma move_scale (ha : 0 < a) (strict : Bool) (m : Margin) (indentation : Nat) :
    (m.scale a b).move strict (a * indentation + b) =
      ((m.move strict indentation).map fun moved => (moved.1.scale a b, moved.2)).mapError (Cause.scale a) := by
  obtain ⟨depth, current, unit, latest⟩ := m
  cases current with
  | none => rfl
  | some current =>
    simp only [Margin.move, Margin.scale, Option.map_some, scaled_lt ha, scaled_sub]
    by_cases hdeeper : current < indentation
    · cases latest with
      | none => simp [hdeeper, Except.mapError, Except.map, Cause.scale]
      | some latest => cases unit <;> simp [hdeeper, Except.mapError, Except.map]
    · by_cases hshallower : indentation < current
      · cases unit with
        | none => simp [hdeeper, hshallower, Except.mapError, Except.map, Cause.scale]
        | some unit =>
          simp only [hdeeper, hshallower, Option.map_some, if_true, if_false, ne_eq, scaled_mod ha,
            Nat.mul_div_mul_left _ _ ha]
          split
          · rfl
          split <;> rfl
      · simp [hdeeper, hshallower, Except.mapError, Except.map]

lemma put_scale (d : Draft) (l : Lexeme) (m : Margin) (opens : Bool) :
    (d.scale a b).put (l.scale a b) (m.scale a b) opens = (d.put l m opens).scale a b := by
  obtain ⟨indentation, marker, text, href⟩ := l
  cases marker <;> rfl

lemma place_scale (ha : 0 < a) (strict : Bool) (d : Draft) (l : Lexeme) :
    (d.scale a b).place strict (l.scale a b) =
      ((d.place strict l).map (Draft.scale a b)).mapError (Cause.scale a) := by
  rw [place_eq, place_eq]
  change ((d.margin.scale a b).move strict (a * l.indentation + b)).map _ = _
  rw [move_scale ha]
  cases d.margin.move strict l.indentation with
  | error cause => rfl
  | ok moved => exact congrArg Except.ok (put_scale d l moved.1 moved.2)

lemma addLine_reindent (ha : 0 < a) {w w' s : List Char} {c : Char} (hw : Indent w) (hw' : Indent w')
    (hc : ¬Indent [c]) (hlength : w'.length = a * w.length + b) (strict : Bool) (d : Draft) (n : Nat) :
    Alike a (fun d d' => d' = d.scale a b) (d.addLine strict (n, w ++ c :: s))
      ((d.scale a b).addLine strict (n, w' ++ c :: s)) := by
  refine (ofLine_reindent hw hw' hc hlength).bind ?_
  rintro l _ rfl
  rw [place_scale ha]
  cases d.place strict l with
  | error cause => exact .error rfl rfl
  | ok d' => exact .ok rfl

end Steps

lemma foldlM_addLine_reindent (ha : 0 < a) {ls ls' : List (List Char)} (h : List.Forall₂ (Reindents a b) ls ls')
    (strict : Bool) (d : Draft) (n : Nat) :
    Alike a (fun d d' => d' = d.scale a b) ((numberedFrom n ls).foldlM (Draft.addLine strict) d)
      ((numberedFrom n ls').foldlM (Draft.addLine strict) (d.scale a b)) := by
  induction h generalizing d n with
  | nil => exact .ok rfl
  | cons hline _ ih =>
    cases hline with
    | blank hblank =>
      rw [numberedFrom_blank hblank, numberedFrom_blank hblank]
      exact ih d (n + 1)
    | written hw hw' hc hwritten hlength =>
      rw [numberedFrom_written hwritten, numberedFrom_written ((allBlank_reindent hw hw').trans hwritten),
        List.foldlM_cons, List.foldlM_cons]
      refine (addLine_reindent ha hw hw' hc hlength strict d n).bind ?_
      rintro d' _ rfl
      exact ih d' (n + 1)

lemma parse_alike (ha : 0 < a) {text text' : String}
    (h : List.Forall₂ (Reindents a b) (lines text.toList) (lines text'.toList)) (strict : Bool) :
    Alike a (fun m m' => m' = m) (parse strict text) (parse strict text') := by
  refine (foldlM_addLine_reindent ha h strict {} 1).bind ?_
  rintro d _ rfl
  exact .ok rfl

theorem parse_reindent (ha : 0 < a) {text text' : String}
    (h : List.Forall₂ (Reindents a b) (lines text.toList) (lines text'.toList)) (strict : Bool) :
    (∀ m, parse strict text = .ok m ↔ parse strict text' = .ok m) ∧
      ∀ f, parse strict text = .error f → ∃ f', parse strict text' = .error f' ∧ f'.number = f.number ∧
        f'.cause = f.cause.scale a ∧ f'.cause.isStructural = f.cause.isStructural := by
  have halike := parse_alike ha h strict
  generalize parse strict text = x at halike ⊢
  generalize parse strict text' = x' at halike ⊢
  cases halike with
  | ok hm =>
    subst hm
    exact ⟨fun _ => Iff.rfl, fun _ hf => nomatch hf⟩
  | @error f f' hnumber hcause =>
    refine ⟨fun m => ⟨nofun, nofun⟩, ?_⟩
    rintro _ ⟨⟩
    exact ⟨f', rfl, hnumber, hcause, by rw [hcause, Cause.scale_isStructural]⟩

def lopsided : String := "- a\n  - b\n\n - c"

def widened : String := " - a\n\t      - b\n\n \t\t - c"

lemma lopsided_widened : List.Forall₂ (Reindents 3 1) (lines lopsided.toList) (lines widened.toList) := by
  have hdash : isBlank '-' = false := by decide
  have hitem {w w' : List Char} (c : Char) (hw : Indent w) (hw' : Indent w') (h : w'.length = 3 * w.length + 1) :
      Reindents 3 1 (w ++ ['-', ' ', c]) (w' ++ ['-', ' ', c]) :=
    .written hw hw' (by simp [Indent]) (by simp [allBlank, hdash]) h
  have hlopsided : lines lopsided.toList =
      [[] ++ ['-', ' ', 'a'], [' ', ' '] ++ ['-', ' ', 'b'], [], [' '] ++ ['-', ' ', 'c']] := by rfl
  have hwidened : lines widened.toList =
      [[' '] ++ ['-', ' ', 'a'], '\t' :: List.replicate 6 ' ' ++ ['-', ' ', 'b'], [],
        [' ', '\t', '\t', ' '] ++ ['-', ' ', 'c']] := by rfl
  rw [hlopsided, hwidened]
  refine .cons (hitem 'a' ?_ ?_ rfl) (.cons (hitem 'b' ?_ ?_ rfl) (.cons (.blank rfl)
    (.cons (hitem 'c' ?_ ?_ rfl) .nil))) <;> simp [Indent]

theorem lopsided_reindent : parse true lopsided = .error ⟨.uneven 2, " - c", some 4, some 1⟩ ∧
    (∃ f, parse true widened = .error f ∧ f.number = some 4 ∧ f.cause = .uneven 6) ∧
    ∃ m, parse false lopsided = .ok m ∧ parse false widened = .ok m := by
  have hlopsided : parse true lopsided = .error ⟨.uneven 2, " - c", some 4, some 1⟩ := by rfl
  have hlenient : ∃ m, parse false lopsided = .ok m := ⟨_, rfl⟩
  obtain ⟨f, hf, hnumber, hcause, -⟩ := (parse_reindent (by decide) lopsided_widened true).2 _ hlopsided
  obtain ⟨m, hm⟩ := hlenient
  exact ⟨hlopsided, ⟨f, hf, hnumber, hcause⟩, m, hm, ((parse_reindent (by decide) lopsided_widened false).1 m).mp hm⟩

end PageStencil.Outline
