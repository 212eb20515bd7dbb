import Mathlib.Data.List.Chain
import PageStencil.Proofs.Outline.Placing

/-!
Entries in line order as a menu. An entry has deeper ones right behind it only if a list has been opened below it,
which every run keeps; so no entry is left out, and the entries stand in the menu in line order.
-/

namespace PageStencil.Outline

open Entry

def WellOpened (es : List Entry) : Prop := es.IsChain fun e d => e.depth < d.depth → e.opened = true

structure Splits (e : Entry) (below after : List Entry) : Prop where
  below : ∀ d ∈ below, e.depth < d.depth
  after : ∀ d ∈ after.head?, d.depth ≤ e.depth

lemma nest_of_splits {e : Entry} {below after : List Entry} (h : Splits e below after) :
    nest (e :: (below ++ after)) = e.menu (nest below) :: nest after := by
  have hb : ∀ d ∈ below, decide (e.depth < d.depth) = true := fun d hd => decide_eq_true (h.below d hd)
  have ha : after.takeWhile (fun d => decide (e.depth < d.depth)) = [] ∧
      after.dropWhile (fun d => decide (e.depth < d.depth)) = after := by
    cases after with
    | nil => exact ⟨rfl, rfl⟩
    | cons d after =>
      have hd : ¬e.depth < d.depth := Nat.not_lt.mpr (h.after d rfl)
      simp [hd]
  rw [nest, List.takeWhile_append_of_pos hb, List.dropWhile_append_of_pos hb, ha.1, ha.2, List.append_nil]

lemma exists_splits (e : Entry) (rest : List Entry) :
    ∃ below after, rest = below ++ after ∧ Splits e below after := by
  refine ⟨rest.takeWhile fun d => decide (e.depth < d.depth), rest.dropWhile fun d => decide (e.depth < d.depth),
    List.takeWhile_append_dropWhile.symm, ?_, ?_⟩
  · intro d hd
    exact of_decide_eq_true (List.all_eq_true.mp List.all_takeWhile d hd)
  · intro d hd
    have h := List.head?_dropWhile_not (fun d => decide (e.depth < d.depth)) rest
    rw [Option.mem_def.mp hd] at h
    exact Nat.not_lt.mp (of_decide_eq_false h)

inductive Nested : List Entry → Prop
  | nil : Nested []
  | cons {e below after} : Splits e below after → (e.opened = false → below = []) → Nested below → Nested after →
      Nested (e :: (below ++ after))

theorem WellOpened.nested {es : List Entry} (h : WellOpened es) : Nested es := by
  induction hn : es.length using Nat.strong_induction_on generalizing es with
  | _ n ih =>
    subst hn
    cases es with
    | nil => exact .nil
    | cons e rest =>
      obtain ⟨below, after, rfl, hs⟩ := exists_splits e rest
      have hr : WellOpened (below ++ after) := h.tail
      -- on the length: neither part need be a tail of the list, but both are shorter
      have hb : below.length < (e :: (below ++ after)).length := by
        simp only [List.length_cons, List.length_append]
        omega
      have ha : after.length < (e :: (below ++ after)).length := by
        simp only [List.length_cons, List.length_append]
        omega
      refine .cons hs ?_ (ih _ hb hr.left_of_append rfl) (ih _ ha hr.right_of_append rfl)
      intro hc
      cases below with
      | nil => rfl
      | cons d below =>
        have hd : e.opened = true := (List.isChain_cons.mp h).1 d rfl (hs.below d List.mem_cons_self)
        rw [hc] at hd
        cases hd

def Entry.face (e : Entry) : Option Link × Option String × Bool := (some e.label, none, !e.opened)

end PageStencil.Outline

namespace PageStencil.Menu

def face (m : Menu) : Option Link × Option String × Bool := (m.label, m.cssClass, m.isLeaf)

end PageStencil.Menu

namespace PageStencil.Outline

open Entry

theorem preorder_nest {es : List Entry} (h : Nested es) :
    (Menu.preorderAll (nest es)).map Menu.face = es.map Entry.face := by
  induction h with
  | nil => rw [nest]; rfl
  | @cons e below after hs hc _ _ ihb iha =>
    rw [nest_of_splits hs, Menu.preorderAll, List.map_append, iha, List.map_cons, List.map_append, ← List.cons_append]
    congr 1
    cases ho : e.opened with
    | true =>
      rw [Entry.menu, ho, if_pos rfl, Menu.preorder, List.map_cons, ihb]
      simp [Menu.face, Entry.face, Menu.label, Menu.cssClass, Menu.isLeaf, ho]
    | false =>
      rw [Entry.menu, ho, hc ho]
      simp [Menu.preorder, Menu.face, Entry.face, Menu.label, Menu.cssClass, Menu.isLeaf, ho]

/-- What every line keeps: only an item with a list is followed, or about to be followed, by a deeper one. -/
structure Sound (d : Draft) : Prop where
  opened : d.entries.IsChain fun later e => e.depth < later.depth → e.opened = true
  next : ∀ e ∈ d.entries.head?, e.depth < d.margin.depth → e.opened = true
  latest : d.margin.latest = d.entries.head?.map Entry.depth

lemma sound_empty : Sound {} := ⟨.nil, by simp, rfl⟩

lemma head?_openedIf (opens : Bool) (es : List Entry) :
    (openedIf opens es).head? = es.head?.map fun e => { e with opened := e.opened || opens } := by
  cases es <;> rfl

lemma isChain_openedIf {opens : Bool} {es : List Entry}
    (h : es.IsChain fun later e => e.depth < later.depth → e.opened = true) :
    (openedIf opens es).IsChain fun later e => e.depth < later.depth → e.opened = true := by
  cases es with
  | nil => exact .nil
  | cons e es => exact List.isChain_cons.mpr (List.isChain_cons.mp h)

lemma Sound.next_move {strict : Bool} {indentation : Nat} {d : Draft} {m : Margin} {opens : Bool} (h : Sound d)
    (hm : Moves strict indentation d.margin m opens) :
    (∀ e ∈ (openedIf opens d.entries).head?, e.depth < m.depth → e.opened = true) ∧ m.latest = d.margin.latest := by
  obtain ⟨title, entries, margin⟩ := d
  rw [head?_openedIf]
  cases entries with
  | nil => exact ⟨by simp, by cases hm <;> rfl⟩
  | cons e es =>
    have hn := h.next e rfl
    cases hm with
    | first => exact ⟨by simpa using hn, rfl⟩
    | deeper => exact ⟨by simp, rfl⟩
    | shallower => exact ⟨by simpa using fun hd => hn (Nat.lt_of_lt_of_le hd (Nat.sub_le _ _)), rfl⟩
    | level => exact ⟨by simpa using hn, rfl⟩

lemma Sound.put {strict : Bool} {l : Lexeme} {d : Draft} {m : Margin} {opens : Bool} (h : Sound d)
    (hm : Moves strict l.indentation d.margin m opens) : Sound (d.put l m opens) := by
  obtain ⟨hn, hl⟩ := h.next_move hm
  have hc : (openedIf opens d.entries).IsChain fun later e => e.depth < later.depth → e.opened = true :=
    isChain_openedIf h.opened
  unfold Draft.put
  cases l.marker with
  | title => exact ⟨hc, hn, by rw [hl, h.latest, head?_openedIf, Option.map_map]; rfl⟩
  | item => exact ⟨hc.cons fun e he => hn e he, by simp [Margin.addItem], rfl⟩

lemma Runs.sound {strict : Bool} {d d' : Draft} {ls : List Lexeme} (h : Runs strict d ls d') (hd : Sound d) :
    Sound d' := by
  induction h with
  | nil => exact hd
  | cons hm _ ih => exact ih (hd.put hm)

lemma Sound.nested {d : Draft} (h : Sound d) : Nested d.entries.reverse := by
  apply WellOpened.nested
  exact List.isChain_reverse.mpr h.opened

end PageStencil.Outline
