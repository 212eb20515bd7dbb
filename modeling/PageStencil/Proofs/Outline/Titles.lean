import Mathlib.Data.Nat.ModEq
import PageStencil.Proofs.Outline.RoundTrip
import PageStencil.Proofs.Outline.Siblings

/-!
What titles do to the entries. A title is no entry, but its indentation counts like that of any line. Taking all
titles out leaves the entries as they are exactly when the lines from one item to the next lead where the next item
alone would lead: below the item if it is deeper, with no detour through deeper lines if it is not.
-/

namespace PageStencil.Outline

open Entry MenuGraph

inductive LastRises : List Lexeme → Prop
  | here {a b ls} : a.indentation < b.indentation → (∀ l ∈ ls, l.indentation = b.indentation) → LastRises (a :: b :: ls)
  | there {a ls} : LastRises ls → LastRises (a :: ls)

def NeverRises (ls : List Lexeme) : Prop := ls.IsChain fun a b => b.indentation ≤ a.indentation

def levelAfter (unit before : Nat) (now latest : Int) : List Lexeme → Int
  | [] => now
  | l :: ls => levelAfter unit l.indentation (if before < l.indentation then latest + 1
      else now - ((before - l.indentation) / unit : Nat)) latest ls

section Gaps

variable {unit : Nat} {now latest : Int} {prev b : Lexeme} {ts ls : List Lexeme}

lemma heights_gap (before : Nat) (ht : ∀ t ∈ ts, t.marker = .title) (hb : b.marker = .item) :
    heights unit before now latest (ts ++ b :: ls) =
      levelAfter unit before now latest (ts ++ [b]) ::
        heights unit b.indentation (levelAfter unit before now latest (ts ++ [b]))
          (levelAfter unit before now latest (ts ++ [b])) ls := by
  induction ts generalizing before now with
  | nil => rw [List.nil_append, heights, if_pos (isItem_iff.mpr hb), List.nil_append, levelAfter, levelAfter]
  | cons t ts ih =>
    obtain ⟨htitle, ht⟩ := List.forall_mem_cons.mp ht
    have hitem : isItem t = false := by simp [isItem, htitle]
    rw [List.cons_append, heights, hitem, if_neg Bool.false_ne_true, ih _ ht, List.cons_append, levelAfter]

lemma levelAfter_rises (h : LastRises (prev :: ls)) :
    levelAfter unit prev.indentation now latest ls = latest + 1 := by
  have hlevel : ∀ {before : Nat} {ks : List Lexeme}, (∀ l ∈ ks, l.indentation = before) →
      levelAfter unit before (latest + 1) latest ks = latest + 1 := by
    intro before ks hks
    induction ks with
    | nil => rfl
    | cons k ks ih =>
      obtain ⟨hk, hks⟩ := List.forall_mem_cons.mp hks
      rw [levelAfter, hk, if_neg (Nat.lt_irrefl before), Nat.sub_self, Nat.zero_div]
      simpa using ih hks
  induction ls generalizing prev now with
  | nil =>
    cases h with
    | there h => cases h
  | cons l ls ih =>
    rw [levelAfter]
    cases h with
    | here hlt hls => rw [if_pos hlt, hlevel hls]
    | there h => exact ih h

lemma levelAfter_never (now latest : Int) (hn : NeverRises (prev :: (ls ++ [b])))
    (hw : (prev :: (ls ++ [b])).IsChain (Whole unit)) :
    b.indentation ≤ prev.indentation ∧ unit ∣ prev.indentation - b.indentation ∧
      levelAfter unit prev.indentation now latest (ls ++ [b]) =
        now - ((prev.indentation - b.indentation) / unit : Nat) := by
  induction ls generalizing prev now with
  | nil =>
    have hle := (List.isChain_cons_cons.mp hn).1
    refine ⟨hle, (List.isChain_cons_cons.mp hw).1, ?_⟩
    rw [List.nil_append, levelAfter, levelAfter, if_neg (Nat.not_lt.mpr hle)]
  | cons l ls ih =>
    obtain ⟨hle, hn⟩ := List.isChain_cons_cons.mp hn
    obtain ⟨hwl, hw⟩ := List.isChain_cons_cons.mp hw
    obtain ⟨hbl, hdvd, hlevel⟩ := ih (now - ((prev.indentation - l.indentation) / unit : Nat)) hn hw
    have hsum : prev.indentation - b.indentation =
        (prev.indentation - l.indentation) + (l.indentation - b.indentation) := by omega
    refine ⟨hbl.trans hle, hsum ▸ Nat.dvd_add hwl hdvd, ?_⟩
    rw [List.cons_append, levelAfter, if_neg (Nat.not_lt.mpr hle), hlevel, hsum, Nat.add_div_of_dvd_right hwl]
    push_cast
    omega

lemma lastRises_of_levelAfter (hw : (prev :: ls).IsChain (Whole unit)) (hle : now ≤ latest + 1)
    (h : levelAfter unit prev.indentation now latest ls = latest + 1) :
    LastRises (prev :: ls) ∨ now = latest + 1 ∧ ∀ l ∈ ls, l.indentation = prev.indentation := by
  induction ls generalizing prev now with
  | nil => exact .inr ⟨h, by simp⟩
  | cons l ls ih =>
    obtain ⟨hwl, hw⟩ := List.isChain_cons_cons.mp hw
    rw [levelAfter] at h
    split_ifs at h with hlt
    · rcases ih hw (Int.le_refl _) h with hrises | ⟨_, hls⟩
      · exact .inl (.there hrises)
      · exact .inl (.here hlt hls)
    · have hdrop := Int.natCast_nonneg ((prev.indentation - l.indentation) / unit)
      generalize hsteps : (prev.indentation - l.indentation) / unit = steps at h hdrop
      rcases ih hw (by omega) h with hrises | ⟨hnow, hls⟩
      · exact .inl (.there hrises)
      · have hzero : (prev.indentation - l.indentation) / unit = 0 := by omega
        have hdrop := Nat.eq_mul_of_div_eq_right hwl hzero
        have heq : l.indentation = prev.indentation := by
          rw [Nat.mul_zero] at hdrop
          omega
        refine .inr ⟨by omega, List.forall_mem_cons.mpr ⟨heq, ?_⟩⟩
        intro k hk
        rw [hls k hk, heq]

end Gaps

/-- What the lines between one item and the next, or behind the last one, may do. -/
structure Clear (ls : List Lexeme) : Prop where
  rises : ∀ before a ts b after, ls = before ++ a :: (ts ++ b :: after) → a.marker = .item → b.marker = .item →
    (∀ t ∈ ts, t.marker = .title) → a.indentation < b.indentation → LastRises (a :: (ts ++ [b]))
  never : ∀ before a ts b after, ls = before ++ a :: (ts ++ b :: after) → a.marker = .item → b.marker = .item →
    (∀ t ∈ ts, t.marker = .title) → b.indentation ≤ a.indentation → NeverRises (a :: (ts ++ [b]))
  last : ∀ before a ts, ls = before ++ a :: ts → a.marker = .item → (∀ t ∈ ts, t.marker = .title) →
    NeverRises (a :: ts)
  unit : unitOf ls = unitOf (items ls) ∨ (items ls).IsChain fun a b => a.indentation ≤ b.indentation

section Items

variable {unit other : Nat} {ls : List Lexeme} {a b l : Lexeme} {d d' : Draft}

lemma not_isItem_iff : isItem l = false ↔ l.marker = .title := by
  cases h : l.marker <;> simp [isItem, h]

lemma items_titles (h : ∀ t ∈ ls, t.marker = .title) : items ls = [] :=
  List.filter_eq_nil_iff.mpr fun t ht => Bool.eq_false_iff.mp (not_isItem_iff.mpr (h t ht))

lemma items_skip {ts after : List Lexeme} (ht : ∀ t ∈ ts, t.marker = .title) (hb : b.marker = .item) :
    items (ts ++ b :: after) = b :: items after := by
  rw [items, List.filter_append, List.filter_cons, if_pos (isItem_iff.mpr hb)]
  exact congrArg (· ++ b :: items after) (items_titles ht)

lemma exists_gap (ls : List Lexeme) : (∀ t ∈ ls, t.marker = .title) ∨
    ∃ ts b rest, ls = ts ++ b :: rest ∧ (∀ t ∈ ts, t.marker = .title) ∧ b.marker = .item := by
  induction ls with
  | nil => exact .inl (by simp)
  | cons l ls ih =>
    cases hl : l.marker with
    | item => exact .inr ⟨[], l, ls, rfl, by simp, hl⟩
    | title =>
      rcases ih with h | ⟨ts, b, rest, rfl, hts, hb⟩
      · exact .inl (List.forall_mem_cons.mpr ⟨hl, h⟩)
      · exact .inr ⟨l :: ts, b, rest, rfl, List.forall_mem_cons.mpr ⟨hl, hts⟩, hb⟩

lemma items_gap {before ts after : List Lexeme} (ha : a.marker = .item) (hb : b.marker = .item)
    (ht : ∀ t ∈ ts, t.marker = .title) :
    items (before ++ a :: (ts ++ b :: after)) = items before ++ a :: b :: items after := by
  have hts := items_titles ht
  rw [items] at hts
  simp [items, isItem_iff.mpr ha, isItem_iff.mpr hb, hts]

lemma exists_gap_of_items {front back : List Lexeme} (h : items ls = front ++ a :: b :: back) :
    a.marker = .item ∧ b.marker = .item ∧ ∃ before ts after, ls = before ++ a :: (ts ++ b :: after) ∧
      ∀ t ∈ ts, t.marker = .title := by
  obtain ⟨before, rest, rfl, _, hrest⟩ := List.filter_eq_append_iff.mp h
  obtain ⟨skipped, rest', rfl, _, ha, hrest'⟩ := List.filter_eq_cons_iff.mp hrest
  obtain ⟨ts, after, rfl, hts, hb, _⟩ := List.filter_eq_cons_iff.mp hrest'
  refine ⟨isItem_iff.mp ha, isItem_iff.mp hb, before ++ skipped, ts, after, by simp, ?_⟩
  intro t ht
  exact not_isItem_iff.mp (Bool.eq_false_iff.mpr (hts t ht))

lemma exists_run_of_heights {prev : Lexeme} {depth : Nat} {u : Option Nat} (hitems : ∀ l ∈ ls, l.marker = .item)
    (hd : d.margin = ⟨depth, some prev.indentation, u, some depth⟩)
    (hu : u = some unit ∨ u = none ∧ depth = 0 ∧ ∀ k ∈ firstIncrease (prev :: ls), k = unit)
    (hw : (prev :: ls).IsChain (Whole unit)) (hh : ∀ h ∈ heights unit prev.indentation depth depth ls, 0 ≤ h) :
    ∃ d', Runs true d ls d' := by
  induction ls generalizing d prev depth u with
  | nil => exact ⟨d, .nil⟩
  | cons l ls ih =>
    obtain ⟨hl, hitems⟩ := List.forall_mem_cons.mp hitems
    obtain ⟨hwl, hw⟩ := List.isChain_cons_cons.mp hw
    rw [heights, if_pos (isItem_iff.mpr hl), List.forall_mem_cons] at hh
    have hgo : ∀ (k : Nat) (v : Option Nat) (opens : Bool),
        Moves true l.indentation d.margin ⟨k, some l.indentation, v, some depth⟩ opens →
        (v = some unit ∨ v = none ∧ k = 0 ∧ ∀ n ∈ firstIncrease (l :: ls), n = unit) →
        ((k : Int) = if prev.indentation < l.indentation then (depth : Int) + 1
          else depth - ((prev.indentation - l.indentation) / unit : Nat)) → ∃ d', Runs true d (l :: ls) d' := by
      intro k v opens hm hv hk
      have hput : (d.put l ⟨k, some l.indentation, v, some depth⟩ opens).margin = ⟨k, some l.indentation, v, some k⟩ := by
        rw [Draft.put, hl]
        rfl
      rw [← hk] at hh
      obtain ⟨d', hd'⟩ := ih hitems hput hv hw hh.2
      exact ⟨d', .cons hm hd'⟩
    rw [hd] at hgo
    rcases Nat.lt_trichotomy prev.indentation l.indentation with hlt | heq | hlt
    · refine hgo _ _ _ (.deeper hlt) (.inl ?_) (by rw [if_pos hlt]; rfl)
      rcases hu with rfl | ⟨rfl, _, hfirst⟩
      · rfl
      · rw [firstIncrease, if_pos hlt] at hfirst
        exact congrArg some (hfirst _ rfl)
    · rw [heq] at hgo
      refine hgo _ _ _ .level ?_ (by simp)
      rcases hu with rfl | ⟨rfl, hzero, hfirst⟩
      · exact .inl rfl
      · rw [firstIncrease, if_neg (Nat.not_lt.mpr (Nat.le_of_eq heq.symm))] at hfirst
        exact .inr ⟨rfl, hzero, hfirst⟩
    · have htop := hh.1
      rw [if_neg (Nat.lt_asymm hlt)] at htop
      have hle : (prev.indentation - l.indentation) / unit ≤ depth := by omega
      rcases hu with rfl | ⟨rfl, rfl, _⟩
      · refine hgo _ _ _ (.shallower hlt (fun _ => Nat.mod_eq_zero_of_dvd hwl) hle) (.inl rfl) ?_
        rw [if_neg (Nat.lt_asymm hlt)]
        exact Int.ofNat_sub hle
      · -- before any increase no item can fall, since it would lie above the top
        have hdrop := Nat.eq_mul_of_div_eq_right hwl (Nat.le_zero.mp hle)
        rw [Nat.mul_zero] at hdrop
        omega

end Items

section Opening

variable {prev b : Lexeme} {ts ls : List Lexeme}

lemma deepens_titles (ht : ∀ t ∈ ts, t.marker = .title) :
    deepens prev.indentation ts = false ↔ NeverRises (prev :: ts) := by
  induction ts generalizing prev with
  | nil => exact ⟨fun _ => .singleton prev, fun _ => rfl⟩
  | cons t ts ih =>
    obtain ⟨htitle, ht⟩ := List.forall_mem_cons.mp ht
    rw [deepens, isTitle_iff.mpr htitle, Bool.true_and, Bool.or_eq_false_iff, decide_eq_false_iff_not, Nat.not_lt, ih ht,
      NeverRises, NeverRises, List.isChain_cons_cons]

lemma deepens_gap (ht : ∀ t ∈ ts, t.marker = .title) (hb : b.marker = .item) :
    deepens prev.indentation (ts ++ b :: ls) = false ↔ NeverRises (prev :: (ts ++ [b])) := by
  induction ts generalizing prev with
  | nil =>
    have hitem : isTitle b = false := by simp [isTitle, hb]
    rw [List.nil_append, deepens, hitem, Bool.false_and, Bool.or_false, decide_eq_false_iff_not, Nat.not_lt]
    exact ⟨fun h => .cons_cons h (.singleton b), fun h => (List.isChain_cons_cons.mp h).1⟩
  | cons t ts ih =>
    obtain ⟨htitle, ht⟩ := List.forall_mem_cons.mp ht
    rw [List.cons_append, deepens, isTitle_iff.mpr htitle, Bool.true_and, Bool.or_eq_false_iff, decide_eq_false_iff_not,
      Nat.not_lt, ih ht, NeverRises, NeverRises, List.cons_append, List.isChain_cons_cons]

lemma LastRises.not_never (h : LastRises ls) : ¬NeverRises ls := by
  induction h with
  | here hlt => exact fun hn => Nat.not_lt.mpr (List.isChain_cons_cons.mp hn).1 hlt
  | there _ ih => exact fun hn => ih hn.tail

end Opening

section Clearing

variable {unit other : Nat} {all front rest : List Lexeme} {a : Lexeme} {d : Draft}

lemma Clear.deepens_eq (h : Clear all) (hall : all = front ++ a :: rest) (ha : a.marker = .item) :
    deepens a.indentation rest = deepens a.indentation (items rest) := by
  rcases exists_gap rest with ht | ⟨ts, b, after, rfl, ht, hb⟩
  · rw [items_titles ht, (deepens_titles ht).mpr (h.last _ _ _ hall ha ht)]
    rfl
  · have hitem : isTitle b = false := by simp [isTitle, hb]
    rw [items_skip ht hb, deepens, hitem, Bool.false_and, Bool.or_false]
    by_cases hlt : a.indentation < b.indentation
    · rw [decide_eq_true hlt, ← Bool.not_eq_false, deepens_gap ht hb]
      exact (h.rises _ _ _ _ _ hall ha hb ht hlt).not_never
    · rw [decide_eq_false hlt, deepens_gap ht hb]
      exact h.never _ _ _ _ _ hall ha hb ht (Nat.not_lt.mp hlt)

lemma Clear.rows_eq (h : Clear all) (front : List Lexeme) (hall : all = front ++ rest) : rows rest = rows (items rest) := by
  induction rest generalizing front with
  | nil => rfl
  | cons l ls ih =>
    have ih := ih (front ++ [l]) (by simp [hall])
    rw [rows, items_cons]
    cases hl : isItem l with
    | true =>
      have hitem : isItem l = true := hl
      rw [if_pos rfl, if_pos rfl, rows, if_pos hl, ih, h.deepens_eq hall (isItem_iff.mp hl)]
    | false => rw [if_neg Bool.false_ne_true, if_neg Bool.false_ne_true, ih]

lemma Clear.step_eq {ts after : List Lexeme} {b : Lexeme} (h : Clear all)
    (hunit : unit = other ∨ (items all).IsChain fun a b => a.indentation ≤ b.indentation)
    (hall : all = front ++ a :: (ts ++ b :: after)) (ha : a.marker = .item) (hb : b.marker = .item)
    (ht : ∀ t ∈ ts, t.marker = .title) (hw : (a :: (ts ++ [b])).IsChain (Whole unit)) (now : Int) :
    levelAfter unit a.indentation now now (ts ++ [b]) = levelAfter other a.indentation now now [b] ∧ Whole other a b := by
  rw [levelAfter, levelAfter]
  by_cases hlt : a.indentation < b.indentation
  · rw [levelAfter_rises (h.rises _ _ _ _ _ hall ha hb ht hlt), if_pos hlt, Whole,
      Nat.sub_eq_zero_of_le (Nat.le_of_lt hlt)]
    exact ⟨rfl, Nat.dvd_zero _⟩
  · have hnever := h.never _ _ _ _ _ hall ha hb ht (Nat.not_lt.mp hlt)
    obtain ⟨hle, hdvd, hlevel⟩ := levelAfter_never now now hnever hw
    rw [hlevel, if_neg hlt, Whole]
    rcases hunit with rfl | hmono
    · exact ⟨rfl, hdvd⟩
    · rw [hall, items_gap ha hb ht] at hmono
      have hab := (List.isChain_cons_cons.mp hmono.right_of_append).1
      rw [Nat.sub_eq_zero_of_le hab, Nat.zero_div, Nat.zero_div]
      exact ⟨rfl, Nat.dvd_zero _⟩

lemma Clear.heights_eq (h : Clear all)
    (hunit : unit = other ∨ (items all).IsChain fun a b => a.indentation ≤ b.indentation)
    (hall : all = front ++ a :: rest) (ha : a.marker = .item) (hw : (a :: rest).IsChain (Whole unit)) (now : Int) :
    heights unit a.indentation now now rest = heights other a.indentation now now (items rest) ∧
      (a :: items rest).IsChain (Whole other) := by
  induction hn : rest.length using Nat.strong_induction_on generalizing front a rest now with
  | _ n ih =>
    rcases exists_gap rest with ht | ⟨ts, b, after, rfl, ht, hb⟩
    · have hnone := length_heights unit a.indentation now now rest
      rw [items_titles ht] at hnone ⊢
      exact ⟨List.eq_nil_of_length_eq_zero hnone, .singleton a⟩
    · have hwb : (b :: after).IsChain (Whole unit) :=
        List.IsChain.right_of_append (show ((a :: ts) ++ b :: after).IsChain (Whole unit) from hw)
      obtain ⟨hlevel, hstep⟩ := h.step_eq hunit hall ha hb ht (isChain_gap hw) now
      have hlength : after.length < n := by
        rw [← hn, List.length_append, List.length_cons]
        omega
      have hback : all = (front ++ a :: ts) ++ b :: after := by simp [hall]
      obtain ⟨hheights, hwhole⟩ := ih _ hlength hback hb hwb (levelAfter other a.indentation now now [b]) rfl
      rw [items_skip ht hb, heights_gap _ ht hb, hlevel, hheights]
      refine ⟨?_, .cons_cons hstep hwhole⟩
      exact (heights_gap _ (List.forall_mem_nil _) hb).symm

lemma Runs.depths_first {strict : Bool} {ls : List Lexeme} (h : Runs strict {} ls d) (hls : ls = front ++ a :: rest)
    (hfront : ∀ t ∈ front, t.marker = .title) (ha : a.marker = .item) :
    d.depths.map Int.ofNat = 0 :: heights (unitOf ls) a.indentation 0 0 rest := by
  subst hls
  obtain ⟨xs, depth, hlength, hdepths⟩ := h.depths_around ha
  rw [items_titles hfront] at hlength
  obtain rfl := List.eq_nil_of_length_eq_zero hlength
  have hzero : depth = 0 := by
    apply (h.climbs climbs_empty).stepped.first
    have hhead := congrArg List.head? hdepths
    rw [List.head?_map] at hhead
    obtain ⟨x, hx, hxd⟩ := Option.map_eq_some_iff.mp hhead
    rw [hx, Int.ofNat.inj hxd]
    rfl
  subst hzero
  simpa using hdepths

lemma exists_first (ls : List Lexeme) : items ls = [] ∨
    ∃ front a rest, ls = front ++ a :: rest ∧ (∀ t ∈ front, t.marker = .title) ∧ a.marker = .item ∧
      items ls = a :: items rest := by
  rcases exists_gap ls with ht | ⟨front, a, rest, rfl, ht, ha⟩
  · exact .inl (items_titles ht)
  · exact .inr ⟨front, a, rest, rfl, ht, ha, items_skip ht ha⟩

lemma items_items (ls : List Lexeme) : items (items ls) = items ls := by
  simp [items]

theorem Clear.exists_run {ls : List Lexeme} (h : Clear ls) (hd : Runs true {} ls d) :
    ∃ d', Runs true {} (items ls) d' ∧ d'.entries = d.entries := by
  have hrows := h.rows_eq [] rfl
  rcases exists_first ls with hnone | ⟨front, a, rest, hls, ht, ha, hitems⟩
  · have hempty : d.entries = [] := by
      have hr := hd.rows_start
      rw [hrows, hnone] at hr
      simpa [rows] using hr
    exact ⟨{}, hnone ▸ .nil, hempty.symm⟩
  · have hdepths := hd.depths_first hls ht ha
    obtain ⟨hheights, hwhole⟩ := h.heights_eq h.unit hls ha (hd.whole_behind hls) 0
    rw [hheights] at hdepths
    have hnonneg : ∀ k ∈ heights (unitOf (items ls)) a.indentation 0 0 (items rest), 0 ≤ k := by
      intro k hk
      have hmem : k ∈ d.depths.map Int.ofNat := by
        rw [hdepths]
        exact List.mem_cons_of_mem _ hk
      obtain ⟨n, _, rfl⟩ := List.mem_map.mp hmem
      exact Int.natCast_nonneg n
    have hmargin : (startOf a).margin = ⟨0, some a.indentation, none, some 0⟩ := by
      rw [startOf, Draft.put, ha]
      rfl
    have hunit : ∀ k ∈ firstIncrease (a :: items rest), k = unitOf (items ls) := by
      intro k hk
      rw [unitOf, hitems, Option.mem_def.mp hk]
      rfl
    have hmarkers : ∀ l ∈ items rest, l.marker = .item := fun l hl => isItem_iff.mp (List.mem_filter.mp hl).2
    obtain ⟨d', hd'⟩ := exists_run_of_heights hmarkers hmargin (.inr ⟨rfl, rfl, hunit⟩) hwhole hnonneg
    have hrun : Runs true {} (items ls) d' := by
      rw [hitems]
      exact runs_start_iff.mpr hd'
    have hdepths' := hrun.depths_first (show items ls = [] ++ a :: items rest from hitems) (by simp) ha
    have hsame : d'.depths = d.depths := List.map_injective_iff.mpr (fun _ _ => Int.ofNat.inj) (hdepths'.trans hdepths.symm)
    refine ⟨d', hrun, List.reverse_injective (eq_of_map hsame ?_)⟩
    rw [hrun.rows_start, hd.rows_start, hrows]

lemma exists_fall {ls : List Lexeme} (h : ¬ls.IsChain fun a b => a.indentation ≤ b.indentation) :
    ∃ front a b back, ls = front ++ a :: b :: back ∧ b.indentation < a.indentation := by
  induction ls with
  | nil => exact absurd .nil h
  | cons a ls ih =>
    cases ls with
    | nil => exact absurd (.singleton a) h
    | cons b ls =>
      rw [List.isChain_cons_cons, not_and_or, Nat.not_le] at h
      rcases h with hlt | h
      · exact ⟨[], a, b, ls, rfl, hlt⟩
      · obtain ⟨front, x, y, back, hls, hlt⟩ := ih h
        exact ⟨a :: front, x, y, back, by rw [hls, List.cons_append], hlt⟩

section Comparing

variable {ls before ts after : List Lexeme} {b : Lexeme} {d' : Draft}

lemma level_eq (hd : Runs true {} ls d) (hd' : Runs true {} (items ls) d') (hdepths : d'.depths = d.depths)
    (hls : ls = before ++ a :: (ts ++ b :: after)) (ha : a.marker = .item) (hb : b.marker = .item)
    (ht : ∀ t ∈ ts, t.marker = .title) : levelAfter (unitOf ls) a.indentation 0 0 (ts ++ [b]) =
      levelAfter (unitOf (items ls)) a.indentation 0 0 [b] := by
  have hitems : items ls = items before ++ a :: b :: items after := hls ▸ items_gap ha hb ht
  obtain ⟨xs, depth, hlength, heq⟩ := Runs.depths_around (hls ▸ hd) ha
  obtain ⟨xs', depth', hlength', heq'⟩ := Runs.depths_around (hitems ▸ hd') ha
  rw [← hls, heights_gap _ ht hb] at heq
  rw [← hitems] at heq'
  have hgap : heights (unitOf (items ls)) a.indentation 0 0 ([] ++ b :: items after) = _ :=
    heights_gap _ (List.forall_mem_nil _) hb
  simp only [List.nil_append] at hgap
  rw [hgap, hdepths, heq] at heq'
  rw [items_items] at hlength'
  obtain ⟨_, hrest⟩ := List.append_inj heq' (by simp [hlength, hlength'])
  obtain ⟨hdepth, hlevels⟩ := List.cons.inj hrest
  have hlevel := (List.cons.inj hlevels).1
  beta_reduce at hlevel
  omega

lemma deepens_items (hrows : rows ls = rows (items ls)) (hls : ls = before ++ a :: after) (ha : a.marker = .item) :
    deepens a.indentation after = deepens a.indentation (items after) := by
  have hitems : items ls = items before ++ a :: items after := by
    rw [hls, items, List.filter_append, List.filter_cons, if_pos (isItem_iff.mpr ha)]
    rfl
  have hrow : (rows (before ++ a :: after))[(items before).length]? = _ := rows_getElem? (isItem_iff.mpr ha)
  have hrow' : (rows (items before ++ a :: items after))[(items (items before)).length]? = _ :=
    rows_getElem? (isItem_iff.mpr ha)
  rw [items_items, ← hitems, ← hrows, hls, hrow] at hrow'
  exact (Prod.mk.inj (Option.some.inj hrow')).2

lemma never_of_rows (hrows : rows ls = rows (items ls)) (hls : ls = before ++ a :: (ts ++ b :: after))
    (ha : a.marker = .item) (hb : b.marker = .item) (ht : ∀ t ∈ ts, t.marker = .title)
    (hle : b.indentation ≤ a.indentation) : NeverRises (a :: (ts ++ [b])) := by
  have hiff : deepens a.indentation (ts ++ b :: after) = false ↔ _ := deepens_gap ht hb
  have hitem : isTitle b = false := by simp [isTitle, hb]
  rw [← hiff, deepens_items hrows hls ha, items_skip ht hb, deepens, hitem, Bool.false_and, Bool.or_false,
    decide_eq_false (Nat.not_lt.mpr hle)]

lemma rises_of_runs (hd : Runs true {} ls d) (hd' : Runs true {} (items ls) d') (hdepths : d'.depths = d.depths)
    (hls : ls = before ++ a :: (ts ++ b :: after)) (ha : a.marker = .item) (hb : b.marker = .item)
    (ht : ∀ t ∈ ts, t.marker = .title) (hlt : a.indentation < b.indentation) : LastRises (a :: (ts ++ [b])) := by
  have hlevel := level_eq hd hd' hdepths hls ha hb ht
  rw [levelAfter, levelAfter, if_pos hlt] at hlevel
  rcases lastRises_of_levelAfter (isChain_gap (hd.whole_behind hls)) (by omega) hlevel with hrises | ⟨hfalse, _⟩
  · exact hrises
  · cases hfalse

lemma unitOf_items_of_fall (hd : Runs true {} ls d) (hd' : Runs true {} (items ls) d') (hdepths : d'.depths = d.depths)
    (hls : ls = before ++ a :: (ts ++ b :: after)) (ha : a.marker = .item) (hb : b.marker = .item)
    (ht : ∀ t ∈ ts, t.marker = .title) (hn : NeverRises (a :: (ts ++ [b]))) (hlt : b.indentation < a.indentation) :
    unitOf ls = unitOf (items ls) := by
  obtain ⟨_, hdvd, hsteps⟩ := levelAfter_never 0 0 hn (isChain_gap (hd.whole_behind hls))
  have hitems : items ls = items before ++ a :: b :: items after := hls ▸ items_gap ha hb ht
  have hdvd' : Whole (unitOf (items ls)) a b := (List.isChain_cons_cons.mp (hd'.whole_behind hitems)).1
  have hlevel := level_eq hd hd' hdepths hls ha hb ht
  rw [hsteps, levelAfter, levelAfter, if_neg (Nat.lt_asymm hlt)] at hlevel
  have hquot : (a.indentation - b.indentation) / unitOf ls = (a.indentation - b.indentation) / unitOf (items ls) := by
    omega
  have hmul := Nat.div_mul_cancel hdvd
  have hmul' := Nat.div_mul_cancel hdvd'
  rw [← hquot] at hmul'
  have hpos : 0 < (a.indentation - b.indentation) / unitOf ls := by
    apply Nat.pos_of_ne_zero
    intro hzero
    rw [hzero, Nat.zero_mul] at hmul
    omega
  exact Nat.eq_of_mul_eq_mul_left hpos (hmul.trans hmul'.symm)

theorem clear_of_runs (hd : Runs true {} ls d) (hd' : Runs true {} (items ls) d') (h : d'.entries = d.entries) :
    Clear ls := by
  have hdepths : d'.depths = d.depths := by rw [Draft.depths, h, Draft.depths]
  have hrows : rows ls = rows (items ls) := by rw [← hd.rows_start, ← hd'.rows_start, h]
  refine ⟨fun before a ts b after hls ha hb ht hlt => rises_of_runs hd hd' hdepths hls ha hb ht hlt,
    fun before a ts b after hls ha hb ht hle => never_of_rows hrows hls ha hb ht hle, ?_, ?_⟩
  · intro before a ts hls ha ht
    rw [← deepens_titles ht, deepens_items hrows hls ha, items_titles ht]
    rfl
  · by_cases hmono : (items ls).IsChain fun a b => a.indentation ≤ b.indentation
    · exact .inr hmono
    · obtain ⟨front, a, b, back, hitems, hlt⟩ := exists_fall hmono
      obtain ⟨ha, hb, before, ts, after, hls, ht⟩ := exists_gap_of_items hitems
      have hn := never_of_rows hrows hls ha hb ht (Nat.le_of_lt hlt)
      exact .inl (unitOf_items_of_fall hd hd' hdepths hls ha hb ht hn hlt)

end Comparing

end Clearing

section Menus

variable {xs ys : List Nat}

lemma Ordered.depths_unique {g : MenuGraph} {root : Nat} (hx : Ordered g root xs) (hy : Ordered g root ys)
    (hsx : Stepped xs) (hsy : Stepped ys) (hlength : xs.length = ys.length) : xs = ys := by
  have hget : ∀ k a b : Nat, xs[k]? = some a → ys[k]? = some b → a = b := by
    intro k
    induction k using Nat.strong_induction_on with
    | _ k ih =>
      intro a b ha hb
      rcases hx.parent_cases (List.getElem?_eq_some_iff.mp ha).1 with ⟨j, hj, hpx⟩ | ⟨hj, hpx⟩
      · obtain ⟨a', ha', rfl⟩ := hsx.succ_of_encloses hj ha
        rcases hy.parent_cases (List.getElem?_eq_some_iff.mp hb).1 with ⟨i, hi, hpy⟩ | ⟨_, hpy⟩
        · obtain ⟨b', hb', rfl⟩ := hsy.succ_of_encloses hi hb
          obtain rfl : i = j := by
            have := Option.some.inj (hpx.symm.trans hpy)
            omega
          rw [ih i hi.1.1 a' b' ha' hb']
        · have := Option.some.inj (hpx.symm.trans hpy)
          omega
      · rcases hy.parent_cases (List.getElem?_eq_some_iff.mp hb).1 with ⟨i, _, hpy⟩ | ⟨hi, _⟩
        · have := Option.some.inj (hpx.symm.trans hpy)
          omega
        · rw [hsx.zero_of_top hj ha, hsy.zero_of_top hi hb]
  apply List.ext_getElem hlength
  intro k hkx hky
  exact hget k _ _ (List.getElem?_eq_getElem hkx) (List.getElem?_eq_getElem hky)

lemma entries_unique {strict : Bool} {ls ks : List Lexeme} {d d' : Draft} (hd : Runs strict {} ls d)
    (hd' : Runs strict {} ks d') (h : d.menu.entries = d'.menu.entries) : d.entries = d'.entries := by
  have hrows : rows ls = rows ks := by
    have hinj : Function.Injective fun r : Link × Bool => (some r.1, (none : Option String), !r.2) := by
      rintro ⟨l, o⟩ ⟨l', o'⟩ heq
      simpa using heq
    apply List.map_injective_iff.mpr hinj
    rw [← hd.faces, ← hd'.faces, h]
  rw [← hd.rows_start, ← hd'.rows_start] at hrows
  have hlength : d.depths.length = d'.depths.length := by
    have := congrArg List.length hrows
    simpa [Draft.depths] using this
  -- the title is no part of the entries, so that both plant the same graph
  have huntitled : ({ d with title := none } : Draft).menu = ({ d' with title := none } : Draft).menu := by
    have hnest : nest d.entries.reverse = nest d'.entries.reverse := h
    rw [Draft.menu, Draft.menu, hnest]
  have hs : Sound { d with title := none } := ⟨(hd.sound sound_empty).opened, (hd.sound sound_empty).next,
    (hd.sound sound_empty).latest⟩
  have hs' : Sound { d' with title := none } := ⟨(hd'.sound sound_empty).opened, (hd'.sound sound_empty).next,
    (hd'.sound sound_empty).latest⟩
  obtain ⟨root, g, hg⟩ : ∃ root g, MenuGraph.plant {} none ({ d with title := none } : Draft).menu = (root, g) :=
    ⟨_, _, rfl⟩
  have ho := hs.ordered {} hg
  have ho' := hs'.ordered {} (huntitled ▸ hg)
  have hdepths := ho.depths_unique ho' (hd.climbs climbs_empty).stepped (hd'.climbs climbs_empty).stepped hlength
  exact List.reverse_injective (eq_of_map hdepths hrows)

end Menus

def isTitleLine (line : List Char) : Bool :=
  match Lexeme.ofLine none line with
  | .ok l => isTitle l
  | .error _ => false

/-- The lines of the second text that are not blank are those of the first one that say no title. -/
def Untitled (text text' : String) : Prop :=
  (numberedLines text'.toList).map Prod.snd =
    ((numberedLines text.toList).map Prod.snd).filter fun line => !isTitleLine line

def withoutTitles (text : String) : String :=
  String.ofList (['\r', '\n'].intercalate ((Text.lines text.toList).filter fun line => !isTitleLine line))

section Deleting

variable {text text' : String} {ls : List Lexeme}

lemma ofLine_eq_ok_iff {number : Option Int} {line : List Char} {l : Lexeme} :
    Lexeme.ofLine number line = .ok l ↔ scanLine 0 line = .ok l := by
  unfold Lexeme.ofLine
  cases scanLine 0 line <;> simp [Except.mapError]

lemma isTitleLine_of_ofLine {number : Option Int} {line : List Char} {l : Lexeme}
    (h : Lexeme.ofLine number line = .ok l) : isTitleLine line = !isItem l := by
  rw [isTitleLine, ofLine_eq_ok_iff.mpr (ofLine_eq_ok_iff.mp h)]
  cases hl : l.marker <;> simp [isTitle, isItem, hl]

lemma Untitled.readAs (h : Untitled text text') (hr : ReadAs (numberedLines text.toList) ls) :
    ReadAs (numberedLines text'.toList) (items ls) := by
  have hitems : ∀ {lines : List (Nat × List Char)} {ks : List Lexeme}, ReadAs lines ks →
      List.Forall₂ (fun l line => ∀ number, Lexeme.ofLine number line = .ok l) (items ks)
        ((lines.map Prod.snd).filter fun line => !isTitleLine line) := by
    intro lines ks hks
    induction hks with
    | nil => exact .nil
    | @cons line l lines ks hl _ ih =>
      rw [items_cons, List.map_cons, List.filter_cons, isTitleLine_of_ofLine hl, Bool.not_not]
      split
      · exact .cons (fun number => ofLine_eq_ok_iff.mpr (ofLine_eq_ok_iff.mp hl)) ih
      · exact ih
  apply readAs_of_lines
  rw [← numberedLines_snd, h]
  exact hitems hr

lemma lines_intercalate {ks : List (List Char)} (hne : ks ≠ []) (h : ∀ k ∈ ks, '\n' ∉ k) :
    Text.lines (['\r', '\n'].intercalate ks) = ks := by
  induction ks with
  | nil => exact absurd rfl hne
  | cons k ks ih =>
    obtain ⟨hk, hks⟩ := List.forall_mem_cons.mp h
    cases ks with
    | nil => rw [List.intercalate_singleton, Text.lines_last hk]
    | cons j ks =>
      rw [List.intercalate_cons_cons, List.append_assoc]
      exact (Text.lines_crlf hk).trans (congrArg (k :: ·) (ih (List.cons_ne_nil j ks) hks))

lemma untitled_withoutTitles (text : String) : Untitled text (withoutTitles text) := by
  rw [Untitled, numberedLines_snd, numberedLines_snd, withoutTitles, String.toList_ofList, List.filter_comm]
  cases hk : (Text.lines text.toList).filter fun line => !isTitleLine line with
  | nil => rfl
  | cons k ks =>
    rw [lines_intercalate (List.cons_ne_nil k ks)]
    intro j hj
    rw [← hk] at hj
    exact Text.mem_lines_ne (List.mem_filter.mp hj).1

theorem titles_clear_iff {m : Menu} (hr : ReadAs (numberedLines text.toList) ls) (hm : parse true text = .ok m)
    (hdel : Untitled text text') : (∃ m', parse true text' = .ok m' ∧ m'.entries = m.entries) ↔ Clear ls := by
  obtain ⟨ks, d, hk, hd, rfl⟩ := parse_eq_ok_iff.mp hm
  obtain rfl := hr.unique hk
  have hr' := hdel.readAs hr
  constructor
  · rintro ⟨m', hm', hentries⟩
    obtain ⟨ks, d', hk', hd', rfl⟩ := parse_eq_ok_iff.mp hm'
    obtain rfl := hr'.unique hk'
    exact clear_of_runs hd hd' (entries_unique hd' hd hentries)
  · intro hclear
    obtain ⟨d', hd', hentries⟩ := hclear.exists_run hd
    refine ⟨d'.menu, parse_eq_ok_iff.mpr ⟨_, d', hr', hd', rfl⟩, ?_⟩
    rw [Draft.menu, Draft.menu, hentries]
    rfl

end Deleting

def titled : String := "# t\n- a\n  # u\n  - b\n- c"

def titledLexemes : List Lexeme :=
  [⟨0, .title, "t", none⟩, ⟨0, .item, "a", none⟩, ⟨2, .title, "u", none⟩, ⟨2, .item, "b", none⟩, ⟨0, .item, "c", none⟩]

def titledEntries : List Menu :=
  [.group (some { text := some "a" }) none [.item (some { text := some "b" }) none],
    .item (some { text := some "c" }) none]

lemma titled_readAs : ReadAs (numberedLines titled.toList) titledLexemes :=
  .cons rfl (.cons rfl (.cons rfl (.cons rfl (.cons rfl .nil))))

lemma titled_parse : parse true titled = .ok (.group (some { text := some "u" }) none titledEntries) := by
  have hd : draft true titled.toList = .ok ⟨some { text := some "u" }, [⟨0, { text := some "c" }, false⟩,
      ⟨1, { text := some "b" }, false⟩, ⟨0, { text := some "a" }, true⟩], ⟨0, some 0, some 2, some 0⟩⟩ := by rfl
  rw [parse_of_draft hd]
  simp [Draft.menu, Entry.nest, Entry.menu, titledEntries]

lemma untitled_parse : parse true (withoutTitles titled) = .ok (.group none none titledEntries) := by
  have hd : draft true (withoutTitles titled).toList = .ok ⟨none, [⟨0, { text := some "c" }, false⟩,
      ⟨1, { text := some "b" }, false⟩, ⟨0, { text := some "a" }, true⟩], ⟨0, some 0, some 2, some 0⟩⟩ := by rfl
  rw [parse_of_draft hd]
  simp [Draft.menu, Entry.nest, Entry.menu, titledEntries]

theorem titled_clear : Clear titledLexemes :=
  (titles_clear_iff titled_readAs titled_parse (untitled_withoutTitles titled)).mp ⟨_, untitled_parse, rfl⟩

/-- The title leads back to the top, so the item behind it lies below the latest item. -/
def sunk : String := "- a\n  - b\n# t\n  - c"

def sunkEntries : List Menu :=
  [.group (some { text := some "a" }) none
    [.group (some { text := some "b" }) none [.item (some { text := some "c" }) none]]]

def raisedEntries : List Menu :=
  [.group (some { text := some "a" }) none
    [.item (some { text := some "b" }) none, .item (some { text := some "c" }) none]]

lemma sunk_parse : parse true sunk = .ok (.group (some { text := some "t" }) none sunkEntries) := by
  have hd : draft true sunk.toList = .ok ⟨some { text := some "t" }, [⟨2, { text := some "c" }, false⟩,
      ⟨1, { text := some "b" }, true⟩, ⟨0, { text := some "a" }, true⟩], ⟨2, some 2, some 2, some 2⟩⟩ := by rfl
  rw [parse_of_draft hd]
  simp [Draft.menu, Entry.nest, Entry.menu, sunkEntries]

lemma raised_parse : parse true (withoutTitles sunk) = .ok (.group none none raisedEntries) := by
  have hd : draft true (withoutTitles sunk).toList = .ok ⟨none, [⟨1, { text := some "c" }, false⟩,
      ⟨1, { text := some "b" }, false⟩, ⟨0, { text := some "a" }, true⟩], ⟨1, some 2, some 2, some 1⟩⟩ := by rfl
  rw [parse_of_draft hd]
  simp [Draft.menu, Entry.nest, Entry.menu, raisedEntries]

theorem not_titles_harmless : ¬∀ text text' m, parse true text = .ok m → Untitled text text' →
    ∃ m', parse true text' = .ok m' ∧ m'.entries = m.entries := by
  intro h
  obtain ⟨m', hm', hentries⟩ := h sunk (withoutTitles sunk) _ sunk_parse (untitled_withoutTitles sunk)
  rw [raised_parse] at hm'
  cases hm'
  simp [Menu.entries, raisedEntries, sunkEntries] at hentries

end PageStencil.Outline
