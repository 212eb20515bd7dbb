import PageStencil.Proofs.Menu.Family
import PageStencil.Proofs.Outline.Rows

/-!
Nothing is lost, repeated or reordered between the lines and the menu, however irregular the indentation: the
entries of the menu, each before what it holds, are the item lines in their order.
-/

namespace PageStencil.Outline

open Entry Menu

/-- Some line behind `l`, up to and including the next item, is deeper than the line before it. -/
def OpensBelow (l : Lexeme) (after : List Lexeme) : Prop :=
  ∃ between next rest, after = between ++ next :: rest ∧ (∀ k ∈ between, k.marker = .title) ∧
    (between.getLastD l).indentation < next.indentation

structure Shows (m : Menu) (ls : List Lexeme) : Prop where
  labels : (preorderAll m.entries).map Menu.label = (items ls).map fun l => some l.link
  title : m.label = lastTitle ls
  isGroup : m.isLeaf = false
  isGroup_iff : ∀ before l after, ls = before ++ l :: after → l.marker = .item →
    ∃ e, (preorderAll m.entries)[(items before).length]? = some e ∧ (e.isLeaf = false ↔ OpensBelow l after)

lemma deepens_iff_opensBelow (l : Lexeme) (after : List Lexeme) :
    deepens l.indentation after = true ↔ OpensBelow l after := by
  rw [deepens_iff rfl]
  simp only [isTitle_iff]
  rfl

lemma Runs.faces {strict : Bool} {d : Draft} {ls : List Lexeme} (h : Runs strict {} ls d) :
    (preorderAll d.menu.entries).map Menu.face = (rows ls).map fun r => (some r.1, none, !r.2) := by
  have hn := preorder_nest (h.sound sound_empty).nested
  rw [← h.rows_start, List.map_map]
  exact hn

theorem Runs.shows {strict : Bool} {d : Draft} {ls : List Lexeme} (h : Runs strict {} ls d) : Shows d.menu ls where
  labels := by
    have hl := congrArg (List.map Prod.fst) h.faces
    rw [List.map_map, List.map_map] at hl
    have hr : (rows ls).map (fun r => some r.1) = ((rows ls).map Prod.fst).map some := by rw [List.map_map]; rfl
    calc (preorderAll d.menu.entries).map Menu.label = (rows ls).map fun r => some r.1 := hl
      _ = (items ls).map fun l => some l.link := by rw [hr, rows_labels, List.map_map]; rfl
  title := by
    have ht := h.title
    rwa [Option.or_none] at ht
  isGroup := rfl
  isGroup_iff := by
    rintro before l after rfl hl
    have hf := congrArg (fun fs => fs[(items before).length]?) h.faces
    rw [List.getElem?_map, List.getElem?_map, rows_getElem? (isItem_iff.mpr hl)] at hf
    obtain ⟨e, he, hface⟩ := Option.map_eq_some_iff.mp hf
    refine ⟨e, he, ?_⟩
    have hleaf : e.isLeaf = !deepens l.indentation after := congrArg (fun f => f.2.2) hface
    rw [hleaf, Bool.not_eq_false', deepens_iff_opensBelow]

lemma Shows.plant {m : Menu} {ls : List Lexeme} (hs : Shows m ls) (g : MenuGraph) {root : Nat} {g' : MenuGraph}
    (hg : g.plant none m = (root, g')) : g'.Rooted root (root + 1 + (items ls).length) ∧
      ∀ k l, (items ls)[k]? = some l → g'.labelOf (root + 1 + k) = some l.link := by
  have ht := g.plant_rooted m
  have hp := g.plant_entries m
  rw [hg] at ht hp
  have hlength : (preorderAll m.entries).length = (items ls).length := by
    simpa using congrArg List.length hs.labels
  obtain ⟨hsize, hlabel⟩ := hp
  rw [hlength] at hsize
  refine ⟨hsize ▸ ht, ?_⟩
  intro k l hk
  have hl := congrArg (fun ls => ls[k]?) hs.labels
  rw [List.getElem?_map, List.getElem?_map, hk] at hl
  obtain ⟨e, he, hlab⟩ := Option.map_eq_some_iff.mp hl
  exact (hlabel k e he).trans hlab

theorem parse_conserves {strict : Bool} {text : String} {m : Menu} (h : parse strict text = .ok m) :
    ∃ ls, ReadAs (numberedLines text.toList) ls ∧ Shows m ls ∧
      ∀ (g : MenuGraph) root g', g.plant none m = (root, g') →
        g'.menu root = m ∧ g'.parentsAgree root = true ∧ g'.Rooted root (root + 1 + (items ls).length) ∧
          ∀ k l, (items ls)[k]? = some l → g'.labelOf (root + 1 + k) = some l.link := by
  obtain ⟨ls, d, hr, hd, rfl⟩ := parse_eq_ok_iff.mp h
  refine ⟨ls, hr, hd.shows, ?_⟩
  intro g root g' hg
  have hm := g.menu_plant d.menu
  have ha := g.parentsAgree_plant d.menu
  rw [hg] at hm ha
  exact ⟨hm, ha, hd.shows.plant g hg⟩

def ragged : String := "# t\n- a\n    - b\n  - c\n      # u\n- d"

def raggedMenu : Menu :=
  .group (some { text := some "u" }) none [.group (some { text := some "a" }) none
    [.item (some { text := some "b" }) none, .group (some { text := some "c" }) none [],
      .item (some { text := some "d" }) none]]

lemma ragged_parse : parse false ragged = .ok raggedMenu := by
  have hd : draft false ragged.toList = .ok ⟨some { text := some "u" }, [⟨1, { text := some "d" }, false⟩,
      ⟨1, { text := some "c" }, true⟩, ⟨1, { text := some "b" }, false⟩, ⟨0, { text := some "a" }, true⟩],
      ⟨1, some 0, some 4, some 1⟩⟩ := by rfl
  rw [parse_of_draft hd]
  simp [Draft.menu, Entry.nest, Entry.menu, raggedMenu]

theorem ragged_conserved : ∃ ls, ReadAs (numberedLines ragged.toList) ls ∧ Shows raggedMenu ls ∧
    (MenuGraph.plant {} none raggedMenu).2.menu 0 = raggedMenu ∧
      (MenuGraph.plant {} none raggedMenu).2.parentsAgree 0 = true ∧
        (MenuGraph.plant {} none raggedMenu).2.Rooted 0 (0 + 1 + (items ls).length) := by
  obtain ⟨ls, hr, hs, hg⟩ := parse_conserves ragged_parse
  obtain ⟨hm, ha, ht, _⟩ := hg {} 0 _ rfl
  exact ⟨ls, hr, hs, hm, ha, ht⟩

end PageStencil.Outline
