import PageStencil.Proofs.Outline.Failing

/-!
Strict and lenient mode. They part at a line that goes back by no whole number of units, and at no other: strict mode
stops there, and lenient mode goes on from the same draft.
-/

namespace PageStencil.Outline

inductive Margin.Uneven (m : Margin) (indentation unit : Nat) : Prop
  | of {current : Nat} : m.current = some current → m.unit = some unit → indentation < current →
      (current - indentation) % unit ≠ 0 → m.Uneven indentation unit

/-- Strict mode takes the lines in front of a line to a draft, and that line goes back by no whole number of units. -/
inductive MeetsUneven (text : String) (before : List (Nat × List Char)) (line : Nat × List Char) (l : Lexeme)
    (unit : Nat) : Prop
  | of {after : List (Nat × List Char)} {d : Draft} : numberedLines text.toList = before ++ line :: after →
      before.foldlM (Draft.addLine true) {} = .ok d → Lexeme.ofLine (some line.1) line.2 = .ok l →
      d.margin.Uneven l.indentation unit → MeetsUneven text before line l unit

variable {text : String} {d d' : Draft} {line : Nat × List Char} {l : Lexeme} {unit : Nat} {f : Fault}

section Steps

variable {m : Margin} {indentation : Nat}

lemma Margin.Uneven.move (h : m.Uneven indentation unit) : m.move true indentation = .error (.uneven unit) := by
  cases h with
  | of hcurrent hunit hlt hrest =>
    have hnot := Nat.lt_asymm hlt
    simp [Margin.move, hcurrent, hunit, hlt, hnot, hrest]

lemma move_strict (m : Margin) (indentation : Nat) :
    m.move true indentation = m.move false indentation ∨ ∃ unit, m.Uneven indentation unit := by
  cases hcurrent : m.current with
  | none => exact Or.inl (by simp [Margin.move, hcurrent])
  | some current =>
    by_cases hlt : indentation < current
    · cases hunit : m.unit with
      | none => exact Or.inl (by simp [Margin.move, hcurrent, hunit])
      | some unit =>
        by_cases hrest : (current - indentation) % unit = 0
        · exact Or.inl (by simp [Margin.move, hcurrent, hunit, hrest])
        · exact Or.inr ⟨unit, .of hcurrent hunit hlt hrest⟩
    · exact Or.inl (by simp [Margin.move, hcurrent, hlt])

lemma addLine_strict (d : Draft) (line : Nat × List Char) : d.addLine true line = d.addLine false line ∨
    ∃ l unit, Lexeme.ofLine (some line.1) line.2 = .ok l ∧ d.margin.Uneven l.indentation unit := by
  cases hl : Lexeme.ofLine (some line.1) line.2 with
  | error f => exact Or.inl (by rw [Draft.addLine, Draft.addLine, hl]; rfl)
  | ok l =>
    rcases move_strict d.margin l.indentation with hsame | ⟨unit, huneven⟩
    · exact Or.inl (by rw [addLine_eq hl, addLine_eq hl, place_eq, place_eq, hsame])
    · exact Or.inr ⟨l, unit, rfl, huneven⟩

lemma Margin.Uneven.addLine (hl : Lexeme.ofLine (some line.1) line.2 = .ok l) (h : d.margin.Uneven l.indentation unit) :
    d.addLine true line = .error ⟨.uneven unit, String.ofList line.2, some line.1, some l.indentation⟩ := by
  rw [addLine_eq hl, place_eq, h.move]
  rfl

end Steps

section Runs

variable {lines before : List (Nat × List Char)}

lemma foldlM_lenient (h : lines.foldlM (Draft.addLine true) d = .ok d') :
    lines.foldlM (Draft.addLine false) d = .ok d' := by
  obtain ⟨ls, hr, hd⟩ := foldlM_addLine_eq_ok_iff.mp h
  exact foldlM_addLine_eq_ok_iff.mpr ⟨ls, hr, hd.lenient⟩

lemma foldlM_strict (lines : List (Nat × List Char)) (d : Draft) :
    lines.foldlM (Draft.addLine true) d = lines.foldlM (Draft.addLine false) d ∨
      ∃ before line after d' l unit, lines = before ++ line :: after ∧
        before.foldlM (Draft.addLine true) d = .ok d' ∧ Lexeme.ofLine (some line.1) line.2 = .ok l ∧
        d'.margin.Uneven l.indentation unit := by
  induction lines generalizing d with
  | nil => exact Or.inl rfl
  | cons line lines ih =>
    rcases addLine_strict d line with hsame | ⟨l, unit, hl, huneven⟩
    · rw [List.foldlM_cons, List.foldlM_cons, ← hsame]
      cases hd : d.addLine true line with
      | error f => exact Or.inl rfl
      | ok d₁ =>
        rcases ih d₁ with hrest | ⟨before, bad, after, d', l, unit, rfl, hbefore, hl, huneven⟩
        · exact Or.inl hrest
        · refine Or.inr ⟨line :: before, bad, after, d', l, unit, rfl, ?_, hl, huneven⟩
          rw [List.foldlM_cons, hd]
          exact hbefore
    · exact Or.inr ⟨[], line, lines, d, l, unit, rfl, rfl, hl, huneven⟩

end Runs

namespace MeetsUneven

variable {before : List (Nat × List Char)}

lemma failsAt (h : MeetsUneven text before line l unit) :
    FailsAt true text line.1 ⟨.uneven unit, String.ofList line.2, some line.1, some l.indentation⟩ := by
  cases h with
  | of hlines hbefore hl huneven => exact .of hlines hbefore (huneven.addLine hl)

lemma same (h : MeetsUneven text before line l unit) (k : Nat) :
    ∃ d, (before.take k).foldlM (Draft.addLine true) {} = .ok d ∧
      (before.take k).foldlM (Draft.addLine false) {} = .ok d := by
  cases h with
  | of hlines hbefore hl huneven =>
    rw [← List.take_append_drop k before] at hbefore
    obtain ⟨d, hd⟩ := foldlM_addLine_front hbefore
    exact ⟨d, hd, foldlM_lenient hd⟩

lemma le_of_failsAt (h : MeetsUneven text before line l unit) {n : Nat} (hf : FailsAt false text n f) :
    line.1 ≤ n := by
  cases h with
  | @of after d hlines hbefore _ _ =>
    cases hf with
    | @of front back bad d' hsplit hfront hbad =>
      rcases List.append_eq_append_iff.mp (hlines.symm.trans hsplit) with ⟨as, _, hbehind⟩ | ⟨bs, hahead, hrest⟩
      · have hmem : (n, bad) ∈ line :: after := by
          rw [hbehind]
          exact List.mem_append_right as List.mem_cons_self
        exact le_of_mem_behind hlines hmem
      · cases bs with
        | nil =>
          obtain ⟨rfl, _⟩ := List.cons.inj hrest
          exact Nat.le_refl n
        | cons b bs =>
          obtain ⟨rfl, _⟩ := List.cons.inj hrest
          have hok := foldlM_lenient hbefore
          rw [hahead, foldlM_addLine_fails hfront hbad] at hok
          cases hok

end MeetsUneven

lemma parse_strict_or_uneven (text : String) : parse true text = parse false text ∨
    ∃ before line l unit, MeetsUneven text before line l unit := by
  rcases foldlM_strict (numberedLines text.toList) {} with
    hsame | ⟨before, line, after, d, l, unit, hlines, hbefore, hl, huneven⟩
  · exact Or.inl (by rw [parse, parse, draft, draft, hsame])
  · exact Or.inr ⟨before, line, l, unit, .of hlines hbefore hl huneven⟩

theorem parse_lenient_extends (text : String) :
    ((¬∃ before line l unit, MeetsUneven text before line l unit) → parse true text = parse false text) ∧
      (∀ before line l unit, MeetsUneven text before line l unit →
        parse true text = .error ⟨.uneven unit, String.ofList line.2, some line.1, some l.indentation⟩ ∧
        ∀ k, ∃ d, (before.take k).foldlM (Draft.addLine true) {} = .ok d ∧
          (before.take k).foldlM (Draft.addLine false) {} = .ok d) ∧
      (∀ m, parse true text = .ok m → parse false text = .ok m) ∧
      ∀ f, parse false text = .error f → ∃ (f' : Fault) (n n' : Nat), parse true text = .error f' ∧
        f.number = some (n : Int) ∧ f'.number = some (n' : Int) ∧ n' ≤ n := by
  refine ⟨?_, ?_, ?_, ?_⟩
  · intro hnever
    exact (parse_strict_or_uneven text).resolve_right hnever
  · intro before line l unit h
    exact ⟨parse_eq_error_iff.mpr ⟨_, h.failsAt⟩, h.same⟩
  · intro m hm
    exact parse_lenient hm
  · intro f hf
    obtain ⟨n, hn⟩ := parse_eq_error_iff.mp hf
    rcases parse_strict_or_uneven text with hsame | ⟨before, line, l, unit, h⟩
    · exact ⟨f, n, n, hsame.trans hf, hn.number, hn.number, Nat.le_refl n⟩
    · exact ⟨_, n, line.1, parse_eq_error_iff.mpr ⟨_, h.failsAt⟩, hn.number, rfl, h.le_of_failsAt hn⟩

def skewed : String := "- a\n    - b\n  - c\n> d"

def skewedFault : Fault := ⟨.badStart '>', "> d", some 4, some 0⟩

theorem skewed_extends :
    parse true skewed = .error ⟨.uneven 4, "  - c", some 3, some 2⟩ ∧
      (∃ (f' : Fault) (n n' : Nat), parse true skewed = .error f' ∧ skewedFault.number = some (n : Int) ∧
        f'.number = some (n' : Int) ∧ n' ≤ n) ∧
      ∃ m, parse true "- a\n    - b" = .ok m ∧ parse false "- a\n    - b" = .ok m := by
  have hskewed : parse false skewed = .error skewedFault := by rfl
  have hlines : numberedLines skewed.toList =
      [(1, "- a".toList), (2, "    - b".toList)] ++ (3, "  - c".toList) :: [(4, "> d".toList)] := by rfl
  have huneven : MeetsUneven skewed [(1, "- a".toList), (2, "    - b".toList)] (3, "  - c".toList)
      ⟨2, .item, "c", none⟩ 4 :=
    .of hlines (by rfl) (by rfl) (.of (by rfl) (by rfl) (by decide) (by decide))
  have hfront : ∃ m, parse true "- a\n    - b" = .ok m := ⟨_, rfl⟩
  obtain ⟨-, hstop, -, hlater⟩ := parse_lenient_extends skewed
  obtain ⟨m, hm⟩ := hfront
  exact ⟨(hstop _ _ _ _ huneven).1, hlater _ hskewed, m, hm, (parse_lenient_extends "- a\n    - b").2.2.1 m hm⟩

end PageStencil.Outline
