import PageStencil.Proofs.Outline.Conservation
import PageStencil.Proofs.Outline.Regular
import PageStencil.Proofs.Outline.Writing

/-!
Menus laid out as lines. The entries of a menu in the order in which they are shown, each with its depth, nest to the
menu again. The lines that stand as many units behind the title as the entries are deep make a run in strict mode, and
the run finds these entries.
-/

namespace PageStencil.Outline

open Entry Menu

mutual

def flat (depth : Nat) : Menu → List Entry
  | .item l _ => [⟨depth, l.getD {}, false⟩]
  | .group l _ es => ⟨depth, l.getD {}, true⟩ :: flatAll (depth + 1) es

def flatAll (depth : Nat) : List Menu → List Entry
  | [] => []
  | m :: ms => flat depth m ++ flatAll depth ms

end

lemma flatAll_item (depth : Nat) (label : Link) (c : Option String) (ms : List Menu) :
    flatAll depth (.item (some label) c :: ms) = ⟨depth, label, false⟩ :: flatAll depth ms := by
  rw [flatAll, flat]
  rfl

lemma flatAll_group (depth : Nat) (label : Link) (c : Option String) (es ms : List Menu) :
    flatAll depth (.group (some label) c es :: ms) =
      ⟨depth, label, true⟩ :: (flatAll (depth + 1) es ++ flatAll depth ms) := by
  rw [flatAll, flat]
  rfl

/-- Menus as an outline can say them: no group without entries, and no classes. -/
inductive Outlined : List Menu → Prop
  | nil : Outlined []
  | item {label ms} : Writable label → Outlined ms → Outlined (.item (some label) none :: ms)
  | group {label es ms} : Writable label → es ≠ [] → Outlined es → Outlined ms →
      Outlined (.group (some label) none es :: ms)

def Steps (e d : Entry) : Prop := d.depth ≤ e.depth + 1 ∧ (e.opened = true ↔ e.depth < d.depth)

def lexemeAt (indentation : Nat) (marker : Marker) (l : Link) : Lexeme :=
  ⟨indentation, marker, l.text.getD "", l.href⟩

def lineOf (base unit : Nat) (e : Entry) : Lexeme := lexemeAt (base + unit * e.depth) .item e.label

def sheet (base unit : Nat) (title : Option Link) (ms : List Menu) : List Lexeme :=
  (title.map (lexemeAt base .title)).toList ++ (flatAll 0 ms).map (lineOf base unit)

lemma lexemeAt_link {l : Link} (h : Writable l) (indentation : Nat) (marker : Marker) :
    (lexemeAt indentation marker l).link = l := by
  obtain ⟨text, href, rfl, _⟩ := h
  rfl

section Flattening

variable {ms : List Menu}

lemma Outlined.depths (h : Outlined ms) (depth : Nat) :
    (∀ e ∈ flatAll depth ms, depth ≤ e.depth) ∧ (∀ e ∈ (flatAll depth ms).head?, e.depth = depth) ∧
      (ms ≠ [] → flatAll depth ms ≠ []) := by
  induction h generalizing depth with
  | nil => simp [flatAll]
  | @item label ms _ _ ih =>
    obtain ⟨hall, _, _⟩ := ih depth
    rw [flatAll_item]
    exact ⟨by simpa using hall, by simp, by simp⟩
  | @group label es ms _ _ _ _ ihe ihm =>
    obtain ⟨hes, _, _⟩ := ihe (depth + 1)
    obtain ⟨hms, _, _⟩ := ihm depth
    rw [flatAll_group]
    refine ⟨?_, by simp, by simp⟩
    intro e he
    simp only [List.mem_cons, List.mem_append] at he
    rcases he with rfl | he | he
    · exact Nat.le_refl _
    · exact Nat.le_of_succ_le (hes e he)
    · exact hms e he

lemma Outlined.splits (hms : Outlined ms) {es : List Menu} (hes : Outlined es) {e : Entry} :
    Splits e (flatAll (e.depth + 1) es) (flatAll e.depth ms) where
  below d hd := (hes.depths (e.depth + 1)).1 d hd
  after d hd := Nat.le_of_eq ((hms.depths e.depth).2.1 d hd)

lemma Outlined.nest_flatAll (h : Outlined ms) (depth : Nat) : nest (flatAll depth ms) = ms := by
  induction h generalizing depth with
  | nil => rw [flatAll, nest]
  | @item label ms _ hms ih =>
    have hn := nest_of_splits (hms.splits .nil (e := ⟨depth, label, false⟩))
    rw [flatAll, List.nil_append, ih depth] at hn
    rw [flatAll_item]
    exact hn.trans rfl
  | @group label es ms _ _ hes hms ihe ihm =>
    have hn := nest_of_splits (hms.splits hes (e := ⟨depth, label, true⟩))
    rw [ihe (depth + 1), ihm depth] at hn
    rw [flatAll_group]
    exact hn.trans rfl

lemma Outlined.writable (h : Outlined ms) (depth : Nat) : ∀ e ∈ flatAll depth ms, Writable e.label := by
  induction h generalizing depth with
  | nil => simp [flatAll]
  | @item label ms hl _ ih =>
    rw [flatAll_item]
    exact List.forall_mem_cons.mpr ⟨hl, ih depth⟩
  | @group label es ms hl _ _ _ ihe ihm =>
    rw [flatAll_group]
    exact List.forall_mem_cons.mpr ⟨hl, List.forall_mem_append.mpr ⟨ihe (depth + 1), ihm depth⟩⟩

lemma forall_last_cons {e : Entry} {es : List Entry} (he : es = [] → e.opened = false)
    (h : ∀ d ∈ es.getLast?, d.opened = false) : ∀ d ∈ (e :: es).getLast?, d.opened = false := by
  cases es with
  | nil => simpa using he
  | cons d es => simpa [List.getLast?_cons_cons] using h

lemma Outlined.steps (h : Outlined ms) (depth : Nat) :
    (flatAll depth ms).IsChain Steps ∧ ∀ e ∈ (flatAll depth ms).getLast?, e.opened = false := by
  induction h generalizing depth with
  | nil => simp [flatAll]
  | @item label ms _ hms ih =>
    obtain ⟨hc, hl⟩ := ih depth
    rw [flatAll_item]
    refine ⟨List.isChain_cons.mpr ⟨?_, hc⟩, forall_last_cons (fun _ => rfl) hl⟩
    intro e he
    have hd := (hms.depths depth).2.1 e he
    simp [Steps, hd]
  | @group label es ms _ hne hes hms ihe ihm =>
    obtain ⟨hce, hle⟩ := ihe (depth + 1)
    obtain ⟨hcm, hlm⟩ := ihm depth
    obtain ⟨hall, hhead, hnil⟩ := hes.depths (depth + 1)
    rw [flatAll_group]
    refine ⟨List.isChain_cons.mpr ⟨?_, List.isChain_append.mpr ⟨hce, hcm, ?_⟩⟩, forall_last_cons ?_ ?_⟩
    · intro e he
      rw [List.head?_append_of_ne_nil _ (hnil hne)] at he
      simp [Steps, hhead e he]
    · intro e he d hd
      have hed := hall e (List.mem_of_getLast? he)
      have hdd := (hms.depths depth).2.1 d hd
      rw [Steps, hle e he]
      exact ⟨by omega, by simp; omega⟩
    · -- a group has entries behind it, so it is not the last one
      intro h
      exact absurd (List.append_eq_nil_iff.mp h).1 (hnil hne)
    · intro e he
      rw [List.getLast?_append, Option.mem_def, Option.or_eq_some_iff] at he
      rcases he with he | ⟨_, he⟩
      · exact hlm e he
      · exact hle e he

end Flattening

section Lines

variable {base unit : Nat} {es : List Entry}

lemma isItem_lineOf (e : Entry) : isItem (lineOf base unit e) = true := rfl

lemma items_map_lineOf : items (es.map (lineOf base unit)) = es.map (lineOf base unit) := by
  apply List.filter_eq_self.mpr
  intro l hl
  obtain ⟨e, _, rfl⟩ := List.mem_map.mp hl
  rfl

lemma grows_lineOf {e d : Entry} (h : Steps e d) : Grows unit (lineOf base unit e) (lineOf base unit d) := by
  intro hlt
  refine ⟨rfl, ?_⟩
  simp only [lineOf, lexemeAt] at hlt ⊢
  obtain ⟨hle, _⟩ := h
  have hed : e.depth < d.depth := by
    apply Nat.lt_of_not_le
    intro hde
    have := Nat.mul_le_mul_left unit hde
    omega
  rw [show d.depth = e.depth + 1 by omega, Nat.mul_add]
  omega

lemma deepens_lineOf (hpos : 0 < unit) {e : Entry} (hs : ∀ d ∈ es.head?, Steps e d)
    (hl : es = [] → e.opened = false) :
    deepens (lineOf base unit e).indentation (es.map (lineOf base unit)) = e.opened := by
  cases es with
  | nil => rw [hl rfl]; rfl
  | cons d es =>
    have ht : isTitle (lineOf base unit d) = false := rfl
    have hlt : (lineOf base unit e).indentation < (lineOf base unit d).indentation ↔ e.opened = true := by
      rw [(hs d rfl).2]
      simp only [lineOf, lexemeAt]
      rw [Nat.add_lt_add_iff_left, Nat.mul_lt_mul_left hpos]
    rw [List.map_cons, deepens, ht, Bool.false_and, Bool.or_false]
    cases ho : e.opened <;> simp [hlt, ho]

lemma rows_lineOf (hpos : 0 < unit) (hc : es.IsChain Steps) (hl : ∀ e ∈ es.getLast?, e.opened = false)
    (hw : ∀ e ∈ es, Writable e.label) : rows (es.map (lineOf base unit)) = es.map row := by
  induction es with
  | nil => rfl
  | cons e es ih =>
    obtain ⟨hs, hc⟩ := List.isChain_cons.mp hc
    obtain ⟨he, hw⟩ := List.forall_mem_cons.mp hw
    have hlast : es = [] → e.opened = false := by
      rintro rfl
      exact hl e rfl
    have hl' : ∀ d ∈ es.getLast?, d.opened = false := by
      intro d hd
      cases es with
      | nil => cases hd
      | cons k es => exact hl d (by rwa [List.getLast?_cons_cons])
    rw [List.map_cons, rows, isItem_lineOf, if_pos rfl, deepens_lineOf hpos hs hlast, ih hc hl' hw, List.map_cons]
    exact congrArg (fun l => (l, e.opened) :: es.map row) (lexemeAt_link he _ _)

end Lines

section Laying

variable {base unit : Nat} {title : Option Link} {ms : List Menu}

lemma eq_of_map {es fs : List Entry} (hd : es.map Entry.depth = fs.map Entry.depth) (hr : es.map row = fs.map row) :
    es = fs := by
  induction es generalizing fs with
  | nil => simpa using hd
  | cons e es ih =>
    cases fs with
    | nil => cases hd
    | cons f fs =>
      obtain ⟨hd, hds⟩ := List.cons.inj hd
      obtain ⟨hr, hrs⟩ := List.cons.inj hr
      obtain ⟨hl, ho⟩ := Prod.mk.inj hr
      rw [ih hds hrs]
      exact congrArg (· :: fs) (by cases e; cases f; simp_all)

lemma items_sheet : items (sheet base unit title ms) = (flatAll 0 ms).map (lineOf base unit) := by
  have ht : items (title.map (lexemeAt base .title)).toList = [] := by
    cases title <;> rfl
  rw [sheet, items, List.filter_append]
  exact (congrArg₂ (· ++ ·) ht items_map_lineOf).trans (List.nil_append _)

lemma rows_sheet : rows (sheet base unit title ms) = rows ((flatAll 0 ms).map (lineOf base unit)) := by
  cases title <;> rfl

lemma lastTitle_sheet (ht : ∀ l ∈ title, Writable l) : lastTitle (sheet base unit title ms) = title := by
  have hnone : ((flatAll 0 ms).map (lineOf base unit)).filter isTitle = [] := by
    apply List.filter_eq_nil_iff.mpr
    intro l hl
    obtain ⟨e, _, rfl⟩ := List.mem_map.mp hl
    exact Bool.false_ne_true
  rw [lastTitle, sheet, List.filter_append, hnone, List.append_nil]
  cases title with
  | none => rfl
  | some l => exact congrArg some (lexemeAt_link (ht l rfl) base .title)

lemma sheet_levels (h : Outlined ms) : (sheet base unit title ms).IsChain (Grows unit) ∧
    (∀ l ∈ (sheet base unit title ms).head?, l.indentation = base) ∧
      ∀ l ∈ sheet base unit title ms, ∃ k, l.indentation = base + unit * k := by
  have hc : ((flatAll 0 ms).map (lineOf base unit)).IsChain (Grows unit) := by
    rw [List.isChain_map]
    exact (h.steps 0).1.imp fun _ _ => grows_lineOf
  have hhead : ∀ l ∈ ((flatAll 0 ms).map (lineOf base unit)).head?, l.indentation = base := by
    intro l hl
    rw [List.head?_map] at hl
    obtain ⟨e, he, rfl⟩ := Option.map_eq_some_iff.mp hl
    have hd := (h.depths 0).2.1 e he
    simp [lineOf, lexemeAt, hd]
  have hall : ∀ l ∈ (flatAll 0 ms).map (lineOf base unit), ∃ k, l.indentation = base + unit * k := by
    intro l hl
    obtain ⟨e, _, rfl⟩ := List.mem_map.mp hl
    exact ⟨e.depth, rfl⟩
  cases title with
  | none => exact ⟨hc, hhead, hall⟩
  | some t =>
    refine ⟨List.isChain_cons.mpr ⟨?_, hc⟩, ?_, List.forall_mem_cons.mpr ⟨⟨0, rfl⟩, hall⟩⟩
    · intro l hl hlt
      rw [hhead l hl] at hlt
      exact absurd hlt (Nat.lt_irrefl base)
    · intro l hl
      obtain rfl := Option.some.inj hl
      rfl

theorem Outlined.runs (h : Outlined ms) (ht : ∀ l ∈ title, Writable l) (hpos : 0 < unit) (strict : Bool) :
    ∃ d, Runs strict {} (sheet base unit title ms) d ∧ d.menu = .group title none ms := by
  obtain ⟨hc, hfirst, hall⟩ := @sheet_levels base unit title ms h
  obtain ⟨d, hd, hcol⟩ := exists_run_of_levels hc hpos hfirst hall
  have hdepth : d.entries.reverse.map Entry.depth = (flatAll 0 ms).map Entry.depth := by
    rw [items_sheet, columns, List.map_map] at hcol
    have hinj : Function.Injective fun k => base + unit * k := by
      intro a b hab
      exact Nat.eq_of_mul_eq_mul_left hpos (Nat.add_left_cancel hab)
    apply (List.map_injective_iff.mpr hinj)
    rw [List.map_map, List.map_map]
    exact hcol
  have hrow : d.entries.reverse.map row = (flatAll 0 ms).map row := by
    obtain ⟨hsteps, hlast⟩ := h.steps 0
    rw [hd.rows_start, rows_sheet, rows_lineOf hpos hsteps hlast (h.writable 0)]
  have htitle : d.title = title := by
    rw [hd.title, lastTitle_sheet ht, Option.or_none]
  refine ⟨d, ?_, ?_⟩
  · cases strict with
    | true => exact hd
    | false => exact hd.lenient
  · rw [Draft.menu, htitle, eq_of_map hdepth hrow, h.nest_flatAll 0]

end Laying

end PageStencil.Outline
