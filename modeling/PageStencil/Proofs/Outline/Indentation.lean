import PageStencil.Proofs.Outline.Conservation
import PageStencil.Proofs.Outline.Enclosure
import PageStencil.Proofs.Outline.Regular

/-!
What indentation means in a regular outline. Strict mode takes it if every line stands whole units behind the first
one, and else reports the first line that does not. An item stands below the nearest item before it that is less
indented, where lenient mode counts what it has dropped by rounding as part of the indentation.
-/

namespace PageStencil.Outline

open Entry

def unitOf (ls : List Lexeme) : Nat := (firstIncrease ls).getD 1

/-- The line stands a whole number of first increases behind the first line; just as deep, if there is no increase. -/
def Aligned (ls : List Lexeme) (l : Lexeme) : Prop :=
  ∀ first ∈ ls.head?, match firstIncrease ls with
    | some unit => ∃ k, l.indentation = first.indentation + unit * k
    | none => l.indentation = first.indentation

def standing (ls : List Lexeme) : List Nat :=
  match ls with
  | [] => []
  | first :: _ => settled (unitOf ls) 0 first.indentation ls

/-- The nodes behind `root` are the items, each in the list of the node that encloses it by the columns `xs`, or of
the root if there is none; and lists are in line order. -/
structure Hangs (g : MenuGraph) (root : Nat) (is : List Lexeme) (xs : List Nat) : Prop where
  length_eq : xs.length = is.length
  label : ∀ k l, is[k]? = some l → g.labelOf (root + 1 + k) = some l.link
  enclosed : ∀ j k, Encloses xs j k → root + 1 + k ∈ g.entriesOf (root + 1 + j)
  top : ∀ k, k < xs.length → (∀ j, ¬Shallower xs j k) → root + 1 + k ∈ g.entriesOf root
  ordered : ∀ q, root ≤ q → q < root + 1 + is.length → (g.entriesOf q).Pairwise (· < ·)

lemma firstIncrease_pos {ls : List Lexeme} {unit : Nat} (h : firstIncrease ls = some unit) : 0 < unit := by
  fun_induction firstIncrease ls with
  | case1 a b ls hlt =>
    have := Option.some.inj h
    omega
  | case2 a b ls _ ih => exact ih h
  | case3 => cases h

lemma unitOf_pos (ls : List Lexeme) : 0 < unitOf ls := by
  unfold unitOf
  cases h : firstIncrease ls with
  | none => exact Nat.one_pos
  | some unit => exact firstIncrease_pos h

lemma never_deeper {ls : List Lexeme} (h : firstIncrease ls = none) :
    ls.IsChain fun a b => b.indentation ≤ a.indentation := by
  fun_induction firstIncrease ls with
  | case1 => cases h
  | case2 a b ls hle ih => exact .cons_cons (Nat.not_lt.mp hle) (ih h)
  | case3 ls hls =>
    cases ls with
    | nil => exact .nil
    | cons a ls =>
      cases ls with
      | nil => exact .singleton a
      | cons b ls => exact absurd rfl (hls a b ls)

lemma le_first {first : Lexeme} {ls : List Lexeme} (h : firstIncrease (first :: ls) = none) :
    ∀ l ∈ first :: ls, l.indentation ≤ first.indentation := by
  have hp : (first :: ls).Pairwise fun a b => b.indentation ≤ a.indentation := by
    have : Trans (fun a b : Lexeme => b.indentation ≤ a.indentation)
        (fun a b : Lexeme => b.indentation ≤ a.indentation)
        (fun a b : Lexeme => b.indentation ≤ a.indentation) := ⟨fun hab hbc => hbc.trans hab⟩
    exact List.isChain_iff_pairwise.mp (never_deeper h)
  intro l hl
  rcases List.mem_cons.mp hl with rfl | hl
  · exact Nat.le_refl _
  · exact (List.pairwise_cons.mp hp).1 l hl

lemma Regular.isChain {ls : List Lexeme} (h : Regular ls) : ls.IsChain (Grows (unitOf ls)) := by
  unfold unitOf
  cases hu : firstIncrease ls with
  | none => exact (never_deeper hu).imp fun a b hle hlt => absurd hlt (Nat.not_lt.mpr hle)
  | some unit => exact h unit hu

lemma aligned_iff {first l : Lexeme} {ls : List Lexeme} (hl : l ∈ first :: ls) :
    Aligned (first :: ls) l ↔ ∃ k, l.indentation = first.indentation + unitOf (first :: ls) * k := by
  unfold Aligned unitOf
  simp only [List.head?_cons, Option.mem_def, Option.some.injEq, forall_eq']
  cases hu : firstIncrease (first :: ls) with
  | some unit => rfl
  | none =>
    have hle := le_first hu l hl
    simp only [Option.getD_none]
    constructor
    · intro he
      exact ⟨0, he⟩
    · rintro ⟨k, hk⟩
      omega

lemma strict_runs_iff {ls front back : List Lexeme} (hls : ls = front ++ back) (h : Regular ls) :
    (∃ d, Runs true {} front d) ↔ ∀ l ∈ front, Aligned ls l := by
  cases front with
  | nil => exact ⟨fun _ => by simp, fun _ => ⟨{}, .nil⟩⟩
  | cons first rest =>
    rw [List.cons_append] at hls
    subst hls
    have hchain := h.isChain
    rw [← List.cons_append] at hchain
    rw [exists_run_iff (List.IsChain.left_of_append hchain) (unitOf_pos _), List.forall_mem_cons]
    constructor
    · intro hk
      refine ⟨(aligned_iff List.mem_cons_self).mpr ⟨0, rfl⟩, ?_⟩
      intro l hl
      exact (aligned_iff (List.mem_cons_of_mem _ (List.mem_append_left _ hl))).mpr (hk l hl)
    · rintro ⟨_, hk⟩ l hl
      exact (aligned_iff (List.mem_cons_of_mem _ (List.mem_append_left _ hl))).mp (hk l hl)

section Parsing

variable {strict : Bool} {text : String} {ls : List Lexeme}

lemma exists_parse_iff (hr : ReadAs (numberedLines text.toList) ls) :
    (∃ m, parse strict text = .ok m) ↔ ∃ d, Runs strict {} ls d := by
  constructor
  · rintro ⟨m, hm⟩
    obtain ⟨ks, d, hk, hd, _⟩ := parse_eq_ok_iff.mp hm
    obtain rfl := hr.unique hk
    exact ⟨d, hd⟩
  · rintro ⟨d, hd⟩
    exact ⟨d.menu, parse_eq_ok_iff.mpr ⟨ls, d, hr, hd, rfl⟩⟩

lemma strict_parse_error {before after : List Lexeme} {l : Lexeme} (hr : ReadAs (numberedLines text.toList) ls)
    (h : Regular ls) (hls : ls = before ++ l :: after) (hb : ∀ k ∈ before, Aligned ls k) (hl : ¬Aligned ls l) :
    ∃ f line, parse true text = .error f ∧ f.cause.isStructural = true ∧ f.column = some l.indentation ∧
      (numberedLines text.toList)[before.length]? = some line ∧ f.number = some line.1 ∧
        f.line = String.ofList line.2 := by
  obtain ⟨d, hd⟩ := (strict_runs_iff hls h).mpr hb
  have hstop : ¬∃ d', Runs true {} (before ++ [l]) d' := by
    rw [strict_runs_iff (show ls = (before ++ [l]) ++ after by simp [hls]) h]
    intro hall
    exact hl (hall l (by simp))
  cases hp : d.place true l with
  | ok d' =>
    -- one more line would be got through, and that line is not aligned
    obtain ⟨m, opens, hm, _⟩ := place_eq_ok_iff.mp hp
    exact absurd ⟨_, hd.append (.cons hm .nil)⟩ hstop
  | error cause =>
    obtain ⟨line, hline, he⟩ := parse_eq_error (hls ▸ hr) hd hp
    exact ⟨_, line, he, isStructural_of_move (place_eq_error_iff.mp hp), rfl, hline, rfl, rfl⟩

lemma standing_eq (h : ∀ l ∈ ls, Aligned ls l) : standing ls = (items ls).map (·.indentation) := by
  cases ls with
  | nil => rfl
  | cons first rest =>
    have hall : ∀ l ∈ first :: rest, ∃ k, l.indentation = first.indentation + unitOf (first :: rest) * k := by
      intro l hl
      exact (aligned_iff hl).mp (h l hl)
    exact settled_eq (show first.indentation = first.indentation + unitOf (first :: rest) * 0 from rfl) hall

theorem Runs.hangs {d : Draft} (hd : Runs strict {} ls d) (h : Regular ls) (g : MenuGraph) {root : Nat}
    {g' : MenuGraph} (hg : g.plant none d.menu = (root, g')) : Hangs g' root (items ls) (standing ls) := by
  obtain ⟨base, unit, hpos, hcolumns⟩ : ∃ base unit, 0 < unit ∧ standing ls = columns base unit d.entries := by
    cases ls with
    | nil =>
      cases hd
      exact ⟨0, 1, Nat.one_pos, rfl⟩
    | cons first rest => exact ⟨_, _, unitOf_pos _, (hd.columns_start h.isChain).symm⟩
  let depths := d.entries.reverse.map Entry.depth
  have hmap : standing ls = depths.map fun k => base + unit * k := by
    rw [hcolumns, columns, List.map_map]
    rfl
  have hmono : ∀ a b, base + unit * a < base + unit * b ↔ a < b := by
    intro a b
    rw [Nat.add_lt_add_iff_left, Nat.mul_lt_mul_left hpos]
  have hshallower : ∀ j k, Shallower (standing ls) j k ↔ Shallower depths j k := by
    intro j k
    rw [hmap, shallower_map hmono]
  obtain ⟨hrooted, hlabel⟩ := hd.shows.plant g hg
  obtain ⟨henclosed, htop⟩ := (hd.sound sound_empty).enclosed g hg rfl
  have hlength : (items ls).length = depths.length := by
    have := congrArg List.length hd.rows_start
    have hr := congrArg List.length (rows_labels ls)
    simp only [List.length_map] at this hr
    rw [← hr, ← this, List.length_map]
  exact {
    length_eq := by rw [hmap, List.length_map, hlength]
    label := hlabel
    enclosed := by
      rintro j k ⟨hjk, hbetween⟩
      refine henclosed j k ⟨(hshallower j k).mp hjk, ?_⟩
      intro i hi hs
      exact hbetween i hi ((hshallower i k).mpr hs)
    top := by
      intro k hk hnone
      rw [hmap, List.length_map] at hk
      refine htop k hk ?_
      intro j hs
      exact hnone j ((hshallower j k).mpr hs)
    ordered := hrooted.ordered }

theorem parse_regular (hr : ReadAs (numberedLines text.toList) ls) (h : Regular ls) :
    ((∃ m, parse true text = .ok m) ↔ ∀ l ∈ ls, Aligned ls l) ∧
      (∀ before l after, ls = before ++ l :: after → (∀ k ∈ before, Aligned ls k) → ¬Aligned ls l →
        ∃ f line, parse true text = .error f ∧ f.cause.isStructural = true ∧ f.column = some l.indentation ∧
          (numberedLines text.toList)[before.length]? = some line ∧ f.number = some line.1 ∧
            f.line = String.ofList line.2) ∧
      (∀ m, parse true text = .ok m → parse false text = .ok m) ∧
      ((∀ l ∈ ls, Aligned ls l) → standing ls = (items ls).map (·.indentation)) ∧
      ∀ strict m, parse strict text = .ok m → ∀ (g : MenuGraph) root g', g.plant none m = (root, g') →
        Hangs g' root (items ls) (standing ls) := by
  refine ⟨?_, ?_, ?_, standing_eq, ?_⟩
  · rw [exists_parse_iff hr, strict_runs_iff (List.append_nil ls).symm h]
  · intro before l after hls hb hl
    exact strict_parse_error hr h hls hb hl
  · intro m hm
    exact parse_lenient hm
  · intro strict m hm g root g' hg
    obtain ⟨ks, d, hk, hd, rfl⟩ := parse_eq_ok_iff.mp hm
    obtain rfl := hr.unique hk
    exact hd.hangs h g hg

end Parsing

/-- Lenient mode rounds both decreases of this text down to no level at all. -/
def rounded : String := "- a\n    - b\n  - c\n- d"

def roundedLexemes : List Lexeme :=
  [⟨0, .item, "a", none⟩, ⟨4, .item, "b", none⟩, ⟨2, .item, "c", none⟩, ⟨0, .item, "d", none⟩]

def roundedMenu : Menu :=
  .group none none [.group (some { text := some "a" }) none [.item (some { text := some "b" }) none,
    .item (some { text := some "c" }) none, .item (some { text := some "d" }) none]]

lemma rounded_readAs : ReadAs (numberedLines rounded.toList) roundedLexemes :=
  .cons rfl (.cons rfl (.cons rfl (.cons rfl .nil)))

lemma rounded_regular : Regular roundedLexemes := by
  simp [Regular, Grows, roundedLexemes, firstIncrease]

lemma rounded_parse : parse false rounded = .ok roundedMenu := by
  have hd : draft false rounded.toList = .ok ⟨none, [⟨1, { text := some "d" }, false⟩,
      ⟨1, { text := some "c" }, false⟩, ⟨1, { text := some "b" }, false⟩, ⟨0, { text := some "a" }, true⟩],
      ⟨1, some 0, some 4, some 1⟩⟩ := by rfl
  rw [parse_of_draft hd]
  simp [Draft.menu, Entry.nest, Entry.menu, roundedMenu]

theorem rounded_hangs : standing roundedLexemes = [0, 4, 4, 4] ∧
    Hangs (MenuGraph.plant {} none roundedMenu).2 0 (items roundedLexemes) [0, 4, 4, 4] :=
  ⟨rfl, (parse_regular rounded_readAs rounded_regular).2.2.2.2 false roundedMenu rounded_parse {} 0 _ rfl⟩

theorem not_hangs_by_indentation : ¬∀ text ls, ReadAs (numberedLines text.toList) ls → Regular ls →
    ∀ m, parse false text = .ok m → ∀ (g : MenuGraph) root g', g.plant none m = (root, g') →
      Hangs g' root (items ls) ((items ls).map (·.indentation)) := by
  intro h
  have hangs := h rounded roundedLexemes rounded_readAs rounded_regular roundedMenu rounded_parse {} 0 _ rfl
  have hnone : ∀ j, ¬Shallower ((items roundedLexemes).map (·.indentation)) j 3 := by
    rintro j ⟨_, a, b, _, hb, hab⟩
    obtain rfl : b = 0 := (Option.some.inj hb).symm
    exact Nat.not_lt_zero a hab
  have htop := hangs.top 3 (by decide) hnone
  revert htop
  decide

end PageStencil.Outline
