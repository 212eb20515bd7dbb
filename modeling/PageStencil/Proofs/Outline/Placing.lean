import Mathlib.Data.List.Forall2
import PageStencil.Outline.Reading

/-!
One line after another. What a line can do to the margin and to the draft is said once, as a relation; reading a
whole text takes the lines through it in turn, and the first line that cannot be placed is the one reported.
-/

namespace PageStencil.Outline

inductive Moves (strict : Bool) (indentation : Nat) : Margin → Margin → Bool → Prop
  | first {depth unit latest} :
      Moves strict indentation ⟨depth, none, unit, latest⟩ ⟨depth, some indentation, unit, latest⟩ false
  | deeper {depth current unit latest} : current < indentation →
      Moves strict indentation ⟨depth, some current, unit, some latest⟩
        ⟨latest + 1, some indentation, some (unit.getD (indentation - current)), some latest⟩ true
  | shallower {depth current unit latest} : indentation < current →
      (strict = true → (current - indentation) % unit = 0) → (current - indentation) / unit ≤ depth →
      Moves strict indentation ⟨depth, some current, some unit, latest⟩
        ⟨depth - (current - indentation) / unit, some indentation, some unit, latest⟩ false
  | level {depth unit latest} :
      Moves strict indentation ⟨depth, some indentation, unit, latest⟩ ⟨depth, some indentation, unit, latest⟩ false

section Moving

variable {strict : Bool} {indentation : Nat} {m m' : Margin} {opens : Bool}

lemma moves_of_move (h : m.move strict indentation = .ok (m', opens)) : Moves strict indentation m m' opens := by
  obtain ⟨depth, current, unit, latest⟩ := m
  cases current with
  | none =>
    simp only [Margin.move, Except.ok.injEq, Prod.mk.injEq] at h
    obtain ⟨rfl, rfl⟩ := h
    exact .first
  | some current =>
    simp only [Margin.move] at h
    split at h
    case isTrue hd =>
      cases latest with
      | none => cases h
      | some latest =>
        simp only [Except.ok.injEq, Prod.mk.injEq] at h
        obtain ⟨rfl, rfl⟩ := h
        exact .deeper hd
    case isFalse hd =>
      split at h
      case isTrue hs =>
        cases unit with
        | none => cases h
        | some unit =>
          simp only at h
          split at h
          · cases h
          rename_i hu
          split at h
          · cases h
          rename_i ht
          simp only [Except.ok.injEq, Prod.mk.injEq] at h
          obtain ⟨rfl, rfl⟩ := h
          exact .shallower hs (by simpa using hu) (Nat.le_of_not_lt ht)
      case isFalse hs =>
        obtain rfl : current = indentation := by omega
        simp only [Except.ok.injEq, Prod.mk.injEq] at h
        obtain ⟨rfl, rfl⟩ := h
        exact .level

lemma move_of_moves (h : Moves strict indentation m m' opens) : m.move strict indentation = .ok (m', opens) := by
  cases h with
  | first => rfl
  | deeper hd => simp [Margin.move, hd]
  | shallower hs hu ht =>
    have hd := Nat.lt_asymm hs
    have hn := Nat.not_lt.mpr ht
    simp only [Margin.move, hd, hs, if_true, if_false]
    rw [if_neg (by simpa using hu), if_neg hn]
  | level => simp [Margin.move]

lemma move_eq_ok_iff : m.move strict indentation = .ok (m', opens) ↔ Moves strict indentation m m' opens :=
  ⟨moves_of_move, move_of_moves⟩

lemma isStructural_of_move {cause : Cause} (h : m.move strict indentation = .error cause) :
    cause.isStructural = true := by
  unfold Margin.move at h
  split at h
  · cases h
  split at h
  · split at h <;> cases h
    rfl
  split at h
  · split at h
    · cases h
      rfl
    · simp only at h
      split at h
      · cases h
        rfl
      split at h <;> cases h
      rfl
  · cases h

lemma Moves.lenient (h : Moves strict indentation m m' opens) : Moves false indentation m m' opens := by
  cases h with
  | first => exact .first
  | deeper hd => exact .deeper hd
  | shallower hs _ ht => exact .shallower hs (by simp) ht
  | level => exact .level

lemma Moves.current (h : Moves strict indentation m m' opens) : m'.current = some indentation := by
  cases h <;> rfl

lemma Moves.opens_iff (h : Moves strict indentation m m' opens) :
    opens = true ↔ ∃ c ∈ m.current, c < indentation := by
  cases h with
  | first => simp
  | deeper hd => simpa using hd
  | shallower hs => simpa using Nat.le_of_lt hs
  | level => simp

end Moving

def openedIf (opens : Bool) : List Entry → List Entry
  | [] => []
  | e :: es => { e with opened := e.opened || opens } :: es

lemma openedIf_false (es : List Entry) : openedIf false es = es := by
  cases es with
  | nil => rfl
  | cons e es => simp [openedIf]

lemma openLatest_entries (d : Draft) : d.openLatest = { d with entries := openedIf true d.entries } := by
  obtain ⟨title, entries, margin⟩ := d
  cases entries with
  | nil => rfl
  | cons e es => simp [Draft.openLatest, openedIf]

def Draft.put (d : Draft) (l : Lexeme) (m : Margin) (opens : Bool) : Draft :=
  match l.marker with
  | .title => ⟨some l.link, openedIf opens d.entries, m⟩
  | .item => ⟨d.title, ⟨m.depth, l.link, false⟩ :: openedIf opens d.entries, m.addItem⟩

lemma place_eq (strict : Bool) (d : Draft) (l : Lexeme) :
    d.place strict l = (d.margin.move strict l.indentation).map fun moved => d.put l moved.1 moved.2 := by
  cases hm : d.margin.move strict l.indentation with
  | error cause =>
    rw [Draft.place, hm]
    rfl
  | ok moved =>
    obtain ⟨m, opens⟩ := moved
    rw [Draft.place, hm]
    cases opens with
    | false =>
      cases hk : l.marker <;> simp [bind, Except.bind, pure, Except.pure, Except.map, Draft.put, hk, Draft.addItem,
        openedIf_false]
    | true =>
      cases hk : l.marker <;> simp [bind, Except.bind, pure, Except.pure, Except.map, Draft.put, hk, Draft.addItem,
        openLatest_entries]

lemma place_eq_ok_iff {strict : Bool} {l : Lexeme} {d d' : Draft} :
    d.place strict l = .ok d' ↔ ∃ m opens, Moves strict l.indentation d.margin m opens ∧ d' = d.put l m opens := by
  rw [place_eq]
  cases hm : d.margin.move strict l.indentation with
  | error cause =>
    constructor
    · intro h
      cases h
    · rintro ⟨m, opens, h, _⟩
      rw [move_eq_ok_iff.mpr h] at hm
      cases hm
  | ok moved =>
    constructor
    · intro h
      cases h
      exact ⟨moved.1, moved.2, move_eq_ok_iff.mp hm, rfl⟩
    · rintro ⟨m, opens, h, rfl⟩
      rw [move_eq_ok_iff.mpr h] at hm
      cases hm
      rfl

lemma place_eq_error_iff {strict : Bool} {l : Lexeme} {d : Draft} {cause : Cause} :
    d.place strict l = .error cause ↔ d.margin.move strict l.indentation = .error cause := by
  rw [place_eq]
  cases d.margin.move strict l.indentation <;> simp [Except.map]

@[simp] lemma Draft.put_margin_current (d : Draft) (l : Lexeme) (m : Margin) (opens : Bool) :
    (d.put l m opens).margin.current = m.current := by
  unfold Draft.put
  split <;> rfl

inductive Runs (strict : Bool) : Draft → List Lexeme → Draft → Prop
  | nil {d} : Runs strict d [] d
  | cons {d l m opens ls d'} : Moves strict l.indentation d.margin m opens → Runs strict (d.put l m opens) ls d' →
      Runs strict d (l :: ls) d'

lemma Runs.lenient {strict : Bool} {d d' : Draft} {ls : List Lexeme} (h : Runs strict d ls d') :
    Runs false d ls d' := by
  induction h with
  | nil => exact .nil
  | cons hm _ ih => exact .cons hm.lenient ih

lemma Runs.append {strict : Bool} {d d' d'' : Draft} {ls ks : List Lexeme} (h : Runs strict d ls d')
    (hk : Runs strict d' ks d'') : Runs strict d (ls ++ ks) d'' := by
  induction h with
  | nil => exact hk
  | cons hm _ ih => exact .cons hm (ih hk)

def ReadAs : List (Nat × List Char) → List Lexeme → Prop :=
  List.Forall₂ fun line l => Lexeme.ofLine (some line.1) line.2 = .ok l

lemma addLine_eq {strict : Bool} {d : Draft} {line : Nat × List Char} {l : Lexeme}
    (h : Lexeme.ofLine (some line.1) line.2 = .ok l) : d.addLine strict line =
      (d.place strict l).mapError fun cause => ⟨cause, String.ofList line.2, some line.1, some l.indentation⟩ := by
  rw [Draft.addLine, h]
  rfl

lemma addLine_eq_ok {strict : Bool} {d d' : Draft} {line : Nat × List Char} (h : d.addLine strict line = .ok d') :
    ∃ l m opens, Lexeme.ofLine (some line.1) line.2 = .ok l ∧ Moves strict l.indentation d.margin m opens ∧
      d' = d.put l m opens := by
  cases hl : Lexeme.ofLine (some line.1) line.2 with
  | error f =>
    rw [Draft.addLine, hl] at h
    cases h
  | ok l =>
    rw [addLine_eq hl] at h
    cases hp : d.place strict l with
    | error cause =>
      rw [hp] at h
      cases h
    | ok d'' =>
      rw [hp] at h
      cases h
      obtain ⟨m, opens, hm, hd⟩ := place_eq_ok_iff.mp hp
      exact ⟨l, m, opens, rfl, hm, hd⟩

lemma foldlM_addLine_eq_ok_iff {strict : Bool} {d d' : Draft} {lines : List (Nat × List Char)} :
    lines.foldlM (Draft.addLine strict) d = .ok d' ↔ ∃ ls, ReadAs lines ls ∧ Runs strict d ls d' := by
  induction lines generalizing d with
  | nil =>
    constructor
    · intro h
      cases h
      exact ⟨[], .nil, .nil⟩
    · rintro ⟨ls, hr, h⟩
      cases hr
      cases h
      rfl
  | cons line lines ih =>
    rw [List.foldlM_cons]
    constructor
    · intro h
      cases ha : d.addLine strict line with
      | error f =>
        rw [ha] at h
        cases h
      | ok d₁ =>
        rw [ha] at h
        obtain ⟨ls, hr, hd⟩ := ih.mp h
        obtain ⟨l, m, opens, hl, hm, rfl⟩ := addLine_eq_ok ha
        exact ⟨l :: ls, .cons hl hr, .cons hm hd⟩
    · rintro ⟨ls, hr, h⟩
      cases hr with
      | cons hl hr =>
        cases h with
        | cons hm h =>
          rw [addLine_eq hl, place_eq_ok_iff.mpr ⟨_, _, hm, rfl⟩]
          exact ih.mpr ⟨_, hr, h⟩

lemma foldlM_addLine_error {strict : Bool} {d d' : Draft} {lines : List (Nat × List Char)} {ls ks : List Lexeme}
    {l : Lexeme} {cause : Cause} (hr : ReadAs lines (ls ++ l :: ks)) (h : Runs strict d ls d')
    (hl : d'.place strict l = .error cause) :
    ∃ line, lines[ls.length]? = some line ∧ lines.foldlM (Draft.addLine strict) d =
      .error ⟨cause, String.ofList line.2, some line.1, some l.indentation⟩ := by
  induction h generalizing lines with
  | nil =>
    cases hr with
    | @cons line _ lines _ hr _ =>
      refine ⟨line, rfl, ?_⟩
      rw [List.foldlM_cons, addLine_eq hr, hl]
      rfl
  | cons hm _ ih =>
    cases hr with
    | @cons line _ lines _ hl' hr =>
      obtain ⟨bad, hb, he⟩ := ih hr hl
      refine ⟨bad, by simpa using hb, ?_⟩
      rw [List.foldlM_cons, addLine_eq hl', place_eq_ok_iff.mpr ⟨_, _, hm, rfl⟩]
      exact he

lemma parse_of_draft {strict : Bool} {text : String} {d : Draft} (h : draft strict text.toList = .ok d) :
    parse strict text = .ok d.menu := by
  rw [parse, h]
  rfl

theorem parse_eq_ok_iff {strict : Bool} {text : String} {menu : Menu} :
    parse strict text = .ok menu ↔
      ∃ ls d, ReadAs (numberedLines text.toList) ls ∧ Runs strict {} ls d ∧ menu = d.menu := by
  constructor
  · intro h
    cases hd : draft strict text.toList with
    | error f =>
      rw [parse, hd] at h
      cases h
    | ok d =>
      rw [parse, hd] at h
      cases h
      obtain ⟨ls, hr, hd⟩ := foldlM_addLine_eq_ok_iff.mp hd
      exact ⟨ls, d, hr, hd, rfl⟩
  · rintro ⟨ls, d, hr, hd, rfl⟩
    exact parse_of_draft (foldlM_addLine_eq_ok_iff.mpr ⟨ls, hr, hd⟩)

lemma parse_lenient {text : String} {m : Menu} (h : parse true text = .ok m) : parse false text = .ok m := by
  obtain ⟨ls, d, hr, hd, hm⟩ := parse_eq_ok_iff.mp h
  exact parse_eq_ok_iff.mpr ⟨ls, d, hr, hd.lenient, hm⟩

lemma parse_eq_error {strict : Bool} {text : String} {ls ks : List Lexeme} {l : Lexeme} {d : Draft} {cause : Cause}
    (hr : ReadAs (numberedLines text.toList) (ls ++ l :: ks)) (h : Runs strict {} ls d)
    (hl : d.place strict l = .error cause) :
    ∃ line, (numberedLines text.toList)[ls.length]? = some line ∧ parse strict text =
      .error ⟨cause, String.ofList line.2, some line.1, some l.indentation⟩ := by
  obtain ⟨line, hn, he⟩ := foldlM_addLine_error hr h hl
  refine ⟨line, hn, ?_⟩
  rw [parse, draft, he]
  rfl

lemma ReadAs.unique {lines : List (Nat × List Char)} {ls ks : List Lexeme} (h : ReadAs lines ls)
    (hk : ReadAs lines ks) : ls = ks := by
  induction h generalizing ks with
  | nil =>
    cases hk
    rfl
  | cons hl _ ih =>
    cases hk with
    | cons hl' hk =>
      rw [hl] at hl'
      cases hl'
      rw [ih hk]

end PageStencil.Outline
