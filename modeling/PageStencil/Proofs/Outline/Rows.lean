import PageStencil.Proofs.Outline.Nesting

/-!
What a run makes of its lines: one entry for each item line, in line order, and the last title. Which entries hold a
list can be told from the lines alone: those below which the indentation grows before the next item.
-/

namespace PageStencil.Outline

open Entry

def isItem (l : Lexeme) : Bool := l.marker == .item

def isTitle (l : Lexeme) : Bool := l.marker == .title

def items (ls : List Lexeme) : List Lexeme := ls.filter isItem

def lastTitle (ls : List Lexeme) : Option Link := (ls.filter isTitle).getLast?.map Lexeme.link

def deepens (before : Nat) : List Lexeme → Bool
  | [] => false
  | l :: ls => before < l.indentation || (isTitle l && deepens l.indentation ls)

def rows : List Lexeme → List (Link × Bool)
  | [] => []
  | l :: ls => if isItem l then (l.link, deepens l.indentation ls) :: rows ls else rows ls

def Entry.row (e : Entry) : Link × Bool := (e.label, e.opened)

lemma items_cons (l : Lexeme) (ls : List Lexeme) :
    items (l :: ls) = if isItem l then l :: items ls else items ls := List.filter_cons

lemma isItem_iff {l : Lexeme} : isItem l = true ↔ l.marker = .item := by
  simp [isItem]

lemma isTitle_iff {l : Lexeme} : isTitle l = true ↔ l.marker = .title := by
  simp [isTitle]

lemma openedIf_openedIf (a b : Bool) (es : List Entry) : openedIf b (openedIf a es) = openedIf (a || b) es := by
  cases es with
  | nil => rfl
  | cons e es => simp [openedIf, Bool.or_assoc]

lemma Moves.opens_eq {strict : Bool} {indentation before : Nat} {m m' : Margin} {opens : Bool}
    (h : Moves strict indentation m m' opens) (hb : m.current = some before) :
    opens = decide (before < indentation) := by
  have hi := h.opens_iff
  rw [hb] at hi
  cases opens with
  | true => simpa using hi
  | false => simpa [eq_comm] using hi

theorem Runs.rows_eq {strict : Bool} {d d' : Draft} {ls : List Lexeme} (h : Runs strict d ls d') {before : Nat}
    (hb : d.margin.current = some before) :
    d'.entries.reverse.map row = (openedIf (deepens before ls) d.entries).reverse.map row ++ rows ls := by
  induction h generalizing before with
  | nil => simp [deepens, openedIf_false, rows]
  | @cons d l m opens ls d' hm _ ih =>
    have hc : (d.put l m opens).margin.current = some l.indentation := by rw [Draft.put_margin_current, hm.current]
    rw [ih hc, hm.opens_eq hb, deepens]
    cases hk : l.marker with
    | title =>
      have ht : isTitle l = true := isTitle_iff.mpr hk
      have hi : isItem l = false := by simp [isItem, hk]
      simp [Draft.put, hk, ht, hi, rows, openedIf_openedIf]
    | item =>
      have hi : isItem l = true := isItem_iff.mpr hk
      have ht : isTitle l = false := by simp [isTitle, hk]
      simp [Draft.put, hk, ht, hi, rows, openedIf, row]

lemma Runs.rows_start {strict : Bool} {d : Draft} {ls : List Lexeme} (h : Runs strict {} ls d) :
    d.entries.reverse.map row = rows ls := by
  cases h with
  | nil => rfl
  | @cons _ l m opens ls _ hm h =>
    have hc : (Draft.put {} l m opens).margin.current = some l.indentation := by
      rw [Draft.put_margin_current, hm.current]
    -- there is no line before the first one, so it opens nothing
    rw [h.rows_eq hc]
    cases hk : l.marker with
    | title => simp [Draft.put, hk, isItem, rows, openedIf]
    | item => simp [Draft.put, hk, isItem, rows, openedIf, row]

lemma lastTitle_cons (l : Lexeme) (ls : List Lexeme) :
    lastTitle (l :: ls) = (lastTitle ls).or (if isTitle l then some l.link else none) := by
  unfold lastTitle
  rw [List.filter_cons]
  split
  · rw [List.getLast?_cons, ← List.getLast?_map]
    cases h : (ls.filter isTitle).getLast? <;> simp [h]
  · simp

theorem Runs.title {strict : Bool} {d d' : Draft} {ls : List Lexeme} (h : Runs strict d ls d') :
    d'.title = (lastTitle ls).or d.title := by
  induction h with
  | nil => rfl
  | @cons d l m opens ls d' _ _ ih =>
    rw [ih, lastTitle_cons]
    cases hk : l.marker with
    | title => simp [Draft.put, hk, isTitle]
    | item => simp [Draft.put, hk, isTitle]

lemma rows_labels (ls : List Lexeme) : (rows ls).map Prod.fst = (items ls).map Lexeme.link := by
  induction ls with
  | nil => rfl
  | cons l ls ih =>
    rw [rows, items_cons]
    split
    · rw [List.map_cons, List.map_cons, ih]
    · exact ih

lemma rows_getElem? {ls ks : List Lexeme} {l : Lexeme} (hl : isItem l = true) :
    (rows (ls ++ l :: ks))[(items ls).length]? = some (l.link, deepens l.indentation ks) := by
  induction ls with
  | nil => simp [rows, hl, items]
  | cons k ls ih =>
    rw [List.cons_append, rows, items_cons]
    split
    · rw [List.length_cons, List.getElem?_cons_succ, ih]
    · exact ih

lemma deepens_iff {before : Nat} {l : Lexeme} {ls : List Lexeme} (hl : l.indentation = before) :
    deepens before ls = true ↔ ∃ between next rest, ls = between ++ next :: rest ∧
      (∀ k ∈ between, isTitle k = true) ∧ (between.getLastD l).indentation < next.indentation := by
  induction ls generalizing before l with
  | nil => simp [deepens]
  | cons k ls ih =>
    rw [deepens, Bool.or_eq_true, Bool.and_eq_true, decide_eq_true_eq, ih rfl]
    constructor
    · rintro (h | ⟨hk, between, next, rest, rfl, ht, hd⟩)
      · exact ⟨[], k, ls, rfl, by simp, by rwa [← hl] at h⟩
      · exact ⟨k :: between, next, rest, rfl, by simpa [hk] using ht, by rwa [List.getLastD_cons]⟩
    · rintro ⟨between, next, rest, hs, ht, hd⟩
      cases between with
      | nil =>
        obtain ⟨rfl, rfl⟩ := List.cons.inj hs
        exact Or.inl (by rwa [← hl])
      | cons k' between =>
        obtain ⟨rfl, rfl⟩ := List.cons.inj hs
        refine Or.inr ⟨ht k List.mem_cons_self, between, next, rest, rfl, ?_, ?_⟩
        · intro x hx
          exact ht x (List.mem_cons_of_mem _ hx)
        · rwa [List.getLastD_cons] at hd

end PageStencil.Outline
