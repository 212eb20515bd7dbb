import Mathlib.Data.List.TakeDrop
import PageStencil.Proofs.Command.Tally
import PageStencil.Proofs.Component.Identifiers
import PageStencil.Proofs.Markup.Openings
import PageStencil.Proofs.Stencil.Carriers
import PageStencil.Proofs.Stencil.Packaged
import PageStencil.Proofs.Studio.Separation
import PageStencil.Proofs.Text.Joining

/-!
A survey of a template foretells the answers to strict lookups in it. What is printed of a marker can be read in one way
only: it tells how often the nodes of the template have the marker, and a strict lookup finds a node if that is once.
-/

namespace PageStencil

open Markup

namespace Survey

structure MarkerLine where
  marker : String
  count : Nat
  flagged : Bool

def MarkerLine.flag (l : MarkerLine) : String := if l.flagged then "  (not unique: strict lookup fails)" else ""

def MarkerLine.text (l : MarkerLine) : String := l.marker ++ ": " ++ toString l.count ++ l.flag

def markerLines (printed : String) : List String :=
  (((Text.lines printed.toList).drop 1).takeWhile (· ≠ [])).map String.ofList

def lineOf (e : String × Nat) : MarkerLine := ⟨e.1, e.2, e.2 ≠ 1⟩

lemma markerLine_eq (e : String × Nat) : markerLine e = (lineOf e).text ++ "\n" := by
  rw [markerLine, MarkerLine.text, MarkerLine.flag, lineOf]
  by_cases h : e.2 = 1 <;> simp [h]

lemma isBlank_digits (n : Nat) : ∀ c ∈ (toString n).toList, Text.isBlank c = false := by
  intro c hc
  have hdigit := Nat.isDigit_of_mem_toDigits (by decide) (by decide) (Nat.toList_repr ▸ hc)
  simp only [Char.isDigit, Bool.and_eq_true, decide_eq_true_eq] at hdigit
  have hall : ∀ n < 58, 48 ≤ n → Text.inRanges Text.blankRanges n = false := by decide +kernel
  exact hall c.toNat (Nat.lt_succ_of_le hdigit.2) hdigit.1

lemma toList_text (l : MarkerLine) :
    l.text.toList = (l.marker.toList ++ [':']) ++ ' ' :: ((toString l.count).toList ++ l.flag.toList) := by
  have hcolon : ": ".toList = [':', ' '] := by decide +kernel
  rw [MarkerLine.text, String.toList_append, String.toList_append, String.toList_append, hcolon]
  simp

lemma not_mem_text {l : MarkerLine} (h : Text.IsWord l.marker) : ∀ c ∈ l.text.toList, c ≠ '\n' ∧ c ≠ '\r' := by
  have hsolid : ∀ c : Char, Text.isBlank c = false → c ≠ '\n' ∧ c ≠ '\r' := by
    intro c hc
    constructor <;> rintro rfl <;> exact absurd hc (by decide)
  have hflag : ∀ c ∈ l.flag.toList, c ≠ '\n' ∧ c ≠ '\r' := by
    have hall : l.flag.toList.all (fun c => c != '\n' && c != '\r') = true := by
      rw [MarkerLine.flag]
      split_ifs <;> decide +kernel
    simpa [List.all_eq_true] using hall
  rw [toList_text, List.forall_mem_append, List.forall_mem_append, List.forall_mem_singleton, List.forall_mem_cons,
    List.forall_mem_append]
  exact ⟨⟨fun c hc => hsolid c (h.solid.2 c hc), by decide⟩, by decide,
    fun c hc => hsolid c (isBlank_digits _ c hc), hflag⟩

lemma text_ne_nil (l : MarkerLine) : l.text.toList ≠ [] := by
  simp [MarkerLine.text]

lemma lines_ended {ls : List (List Char)} (h : ∀ l ∈ ls, ∀ c ∈ l, c ≠ '\n' ∧ c ≠ '\r') (rest : List Char) :
    Text.lines (ls.flatMap (· ++ ['\n']) ++ rest) = ls ++ Text.lines rest := by
  induction ls with
  | nil => rfl
  | cons l ls ih =>
    obtain ⟨hl, hls⟩ := List.forall_mem_cons.mp h
    have hlf : '\n' ∉ l := fun hm => (hl _ hm).1 rfl
    have hcr : l.getLast? ≠ some '\r' := fun hlast => (hl _ (List.mem_of_getLast? hlast)).2 rfl
    rw [List.flatMap_cons, List.append_assoc, List.append_assoc, List.singleton_append, Text.lines_lf hlf hcr, ih hls]
    rfl

lemma toList_printed (s : Survey) (markersOnly : Bool) : ∃ rest more, (s.text markersOnly).toList =
    "Markers:".toList ++ '\n' :: ((s.markers.map fun e => (lineOf e).text.toList).flatMap (· ++ ['\n']) ++ rest) ∧
      Text.lines rest = [] :: more := by
  have hheading : "Markers:\n".toList = "Markers:".toList ++ ['\n'] := by decide +kernel
  have hline : ∀ e ∈ s.markers, (markerLine e).toList = (lineOf e).text.toList ++ ['\n'] := fun e _ => by
    rw [markerLine_eq, String.toList_append]
    rfl
  have hrest : ∃ more, Text.lines (if markersOnly then "" else "\nTags:\n" ++ String.join (s.tags.map countLine) ++
      "\nClasses:\n" ++ String.join (s.classes.map countLine)).toList = [] :: more := by
    split_ifs
    · exact ⟨[], rfl⟩
    · rw [String.toList_append, String.toList_append, String.toList_append, List.append_assoc, List.append_assoc]
      exact ⟨_, rfl⟩
  obtain ⟨more, hmore⟩ := hrest
  refine ⟨_, more, ?_, hmore⟩
  rw [text, String.toList_append, String.toList_append, String.toList_join, List.flatMap_map,
    List.flatMap_congr hline, List.flatMap_map, hheading, List.append_assoc, List.append_assoc]
  rfl

lemma markerLines_text (s : Survey) (h : ∀ e ∈ s.markers, Text.IsWord e.1) (markersOnly : Bool) :
    markerLines (s.text markersOnly) = s.markers.map fun e => (lineOf e).text := by
  have hlines : ∀ l ∈ s.markers.map fun e => (lineOf e).text.toList, ∀ c ∈ l, c ≠ '\n' ∧ c ≠ '\r' :=
    List.forall_mem_map.mpr fun e he => not_mem_text (l := lineOf e) (h e he)
  obtain ⟨rest, more, hprinted, hrest⟩ := s.toList_printed markersOnly
  rw [markerLines, hprinted, Text.lines_lf (by decide) (by decide), lines_ended hlines, hrest, List.drop_one,
    List.tail_cons, List.takeWhile_append_of_pos, List.takeWhile_cons_of_neg (by simp), List.append_nil, List.map_map]
  · exact List.map_congr_left fun e _ => String.ofList_toList
  · intro l hl
    obtain ⟨e, _, rfl⟩ := List.mem_map.mp hl
    simpa using text_ne_nil (lineOf e)

section Reading

variable {w v rest more : List Char}

lemma span_solid (hw : ∀ c ∈ w, Text.isBlank c = false) (hrest : rest.head?.all Text.isBlank = true) :
    (w ++ rest).span (!Text.isBlank ·) = (w, rest) := by
  have hsolid : ∀ c ∈ w, (!Text.isBlank c) = true := fun c hc => by rw [hw c hc]; rfl
  rw [List.span_eq_takeWhile_dropWhile, List.takeWhile_append_of_pos hsolid, List.dropWhile_append_of_pos hsolid]
  cases rest with
  | nil => rw [List.takeWhile_nil, List.dropWhile_nil, List.append_nil]
  | cons c rest =>
    have hc : Text.isBlank c = true := hrest
    rw [List.takeWhile_cons, List.dropWhile_cons, hc]
    simp

lemma append_inj_of_solid (hw : ∀ c ∈ w, Text.isBlank c = false) (hv : ∀ c ∈ v, Text.isBlank c = false)
    (hrest : rest.head?.all Text.isBlank = true) (hmore : more.head?.all Text.isBlank = true)
    (h : w ++ rest = v ++ more) : w = v ∧ rest = more := by
  have hspan := span_solid hw hrest
  rw [h, span_solid hv hmore] at hspan
  exact ⟨(congrArg Prod.fst hspan).symm, (congrArg Prod.snd hspan).symm⟩

end Reading

lemma text_inj {a b : MarkerLine} (ha : Text.IsWord a.marker) (hb : Text.IsWord b.marker) (h : a.text = b.text) :
    a = b := by
  have hflag : ∀ l : MarkerLine, l.flag.toList.head?.all Text.isBlank = true := fun l => by
    rw [MarkerLine.flag]
    split_ifs <;> decide +kernel
  have hname : ∀ l : MarkerLine, Text.IsWord l.marker → ∀ c ∈ l.marker.toList ++ [':'], Text.isBlank c = false :=
    fun l hl => List.forall_mem_append.mpr ⟨hl.solid.2, List.forall_mem_singleton.mpr (by decide +kernel)⟩
  have htext := congrArg String.toList h
  rw [toList_text, toList_text] at htext
  obtain ⟨hmarker, htext⟩ := append_inj_of_solid (hname a ha) (hname b hb) rfl rfl htext
  obtain ⟨hcount, hflagged⟩ :=
    append_inj_of_solid (isBlank_digits _) (isBlank_digits _) (hflag a) (hflag b) (List.cons.inj htext).2
  have hm : a.marker = b.marker := String.toList_inj.mp (List.append_cancel_right hmarker)
  have hc : a.count = b.count := Text.repr_inj (String.toList_inj.mp hcount)
  have hfl : a.flagged = b.flagged := by
    revert hflagged
    rw [MarkerLine.flag, MarkerLine.flag]
    cases a.flagged <;> cases b.flagged <;> decide +kernel
  cases a
  cases b
  simp_all

lemma map_text_inj {ks ls : List MarkerLine} (hk : ∀ l ∈ ks, Text.IsWord l.marker)
    (hl : ∀ l ∈ ls, Text.IsWord l.marker) (h : ks.map MarkerLine.text = ls.map MarkerLine.text) : ks = ls := by
  induction ks generalizing ls with
  | nil => exact (List.map_eq_nil_iff.mp h.symm).symm
  | cons k ks ih =>
    obtain ⟨l, ls, rfl, hline, hrest⟩ := List.map_eq_cons_iff.mp h.symm
    obtain ⟨hk, hks⟩ := List.forall_mem_cons.mp hk
    obtain ⟨hl, hls⟩ := List.forall_mem_cons.mp hl
    rw [text_inj hk hl hline.symm, ih hks hls hrest.symm]

/-- What the lines about markers foretell of a marker: whether it has a line, and what a strict lookup answers to it. -/
structure Foretells (ls : List MarkerLine) (marker : String) (nodes : List Node)
    (found : Except Stencil.NotFound Node) : Prop where
  lines : (ls.map MarkerLine.marker).count marker = if nodes = [] then 0 else 1
  flagged : ∀ l ∈ ls, l.marker = marker → (l.flagged = true ↔ ∃ e, found = .error e)
  count : ∀ l ∈ ls, l.marker = marker → ∀ e, found = .error e → e = ⟨marker, l.count⟩
  absent : marker ∉ ls.map MarkerLine.marker → found = .error ⟨marker, 0⟩

open Stencil

section Trees

variable {name marker markerName : String} {f : Forest} {root : Node} {t : Markup.Tree Node}

lemma markers_ofTree {α : Type} {t : Markup.Tree α} (h : t.Named) (markerName : String) :
    (ofTree markerName t).markers = tally (t.tags.flatMap (Stencil.markers markerName)) := by
  have hall : tagsOf t = t.tags := by
    refine List.filter_eq_self.mpr fun tag htag => ?_
    obtain ⟨e, he, rfl⟩ := List.mem_map.mp htag
    exact bne_iff_ne.mpr (h e he).ne
  rw [ofTree, hall]

lemma map_fst_markersOf (markerName : String) (t : Markup.Tree Node) :
    (markersOf markerName t).map Prod.fst = t.tags.flatMap (Stencil.markers markerName) := by
  rw [markersOf, List.map_flatMap, Markup.Tree.tags, List.flatMap_map]
  exact List.flatMap_congr fun e _ => by rw [List.map_map]; exact List.map_id _

lemma isWord_of_mem_markers {tag : Tag} (h : marker ∈ Stencil.markers markerName tag) : Text.IsWord marker := by
  rw [Stencil.markers] at h
  cases hv : tag.get? markerName with
  | none =>
    rw [hv] at h
    exact absurd h List.not_mem_nil
  | some v =>
    rw [hv] at h
    exact Text.isWord_of_mem h

lemma map_marker_lineOf (es : List (String × Nat)) : (es.map lineOf).map MarkerLine.marker = es.map Prod.fst := by
  rw [List.map_map]
  rfl

lemma mem_lines {names : List String} {l : MarkerLine} (h : l ∈ (tally names).map lineOf) :
    l.marker ∈ names ∧ l.count = names.count l.marker ∧ (l.flagged = true ↔ l.count ≠ 1) := by
  obtain ⟨e, he, rfl⟩ := List.mem_map.mp h
  obtain ⟨hmem, hcount⟩ := mem_tally.mp he
  exact ⟨hmem, hcount, decide_eq_true_iff⟩

lemma carriers_eq_nil_iff (hf : f.Sound) (ht : f.find? root = some t) :
    carriers markerName marker f root = [] ↔ marker ∉ (markersOf markerName t).map Prod.fst := by
  have hpos : ∀ n ∈ carriers markerName marker f root, 0 < occurrences markerName marker f n := fun n hn =>
    occurrences_pos_iff.mpr (mem_carriers.mp hn).2
  rw [← List.count_eq_zero, ← length_live ht, List.length_eq_zero_iff, live_build hf, ← List.head?_eq_none_iff,
    ← List.head?_eq_none_iff, head?_repeated hpos]

lemma foretells_tally (hf : f.Sound) (ht : f.find? root = some t) (markerName marker : String) :
    Foretells ((tally ((markersOf markerName t).map Prod.fst)).map lineOf) marker (carriers markerName marker f root)
      ((Index.build markerName f root).single f marker) where
  lines := by
    rw [map_marker_lineOf]
    split_ifs with hnil
    · exact List.count_eq_zero.mpr fun h => (carriers_eq_nil_iff hf ht).mp hnil (mem_map_fst_tally.mp h)
    · have hmarked := not_not.mp (mt (carriers_eq_nil_iff hf ht).mpr hnil)
      exact List.count_eq_one_of_mem (nodup_tally _) (mem_map_fst_tally.mpr hmarked)
  flagged l hl hmarker := by
    obtain ⟨_, hcount, hflagged⟩ := mem_lines hl
    subst hmarker
    rw [hflagged, hcount, ← length_live ht, single_eq_answerOf]
    constructor
    · exact fun hne => ⟨_, answerOf_eq_error_iff.mpr ⟨hne, rfl⟩⟩
    · rintro ⟨e, he⟩
      exact (answerOf_eq_error_iff.mp he).1
  count l hl hmarker e he := by
    obtain ⟨_, hcount, _⟩ := mem_lines hl
    subst hmarker
    rw [single_eq_answerOf] at he
    rw [(answerOf_eq_error_iff.mp he).2, length_live ht, hcount]
  absent h := by
    rw [map_marker_lineOf, mem_map_fst_tally, ← List.count_eq_zero, ← length_live ht, List.length_eq_zero_iff] at h
    rw [single_eq_answerOf, h]
    rfl

end Trees

section Templates

variable {source : Source} {shelf shelf' : Shelf} {f f' : Forest} {root : Node} {name markerName : String}
  {o : Command.SurveyOrder}

lemma named_erase {α : Type} (t : Markup.Tree α) : t.erase.Named ↔ t.Named := by
  have htags : ∀ {β : Type} (t : Markup.Tree β), t.Named ↔ ∀ tag ∈ t.tags, IsElementName tag.name := by
    intro β t
    rw [Markup.Tree.tags, List.forall_mem_map]
    rfl
  rw [htags, htags, Markup.Tree.tags_erase]

lemma named_readDocument {document : Markup.Tree Unit} (h : source.readDocument name = .ok document) :
    (document.fragmentRoot?.getD document).Named := by
  obtain ⟨_, _, _, root, _, _, _, hread, hroot⟩ := Source.readDocument_eq_ok h
  rw [hroot]
  exact Markup.Tree.named_fragmentRoot? (Document.named_read hread) hroot

lemma load_of_readDocument (hnew : shelf.get? name = none) {document : Markup.Tree Unit}
    (h : source.readDocument name = .ok document) : shelf.load source f name =
      .ok (Session.rootIn f.next (f.plant document).2,
        ⟨(name, Session.rootIn f.next (f.plant document).2) :: shelf.loaded⟩, (f.plant document).2) := by
  rw [Shelf.load, hnew, h]
  rfl

lemma load_eq_ok (hf : f.Sound) (hnew : shelf.get? name = none)
    (h : shelf.load source f name = .ok (root, shelf', f')) :
    f'.Sound ∧ ∃ t, f'.find? root = some t ∧ t.Named ∧ source.readRoot name = .ok t.erase := by
  obtain ⟨document, hdocument⟩ : ∃ document, source.readDocument name = .ok document := by
    rw [Shelf.load, hnew] at h
    obtain ⟨document, hdocument, _⟩ := bind_eq_ok h
    exact ⟨document, hdocument⟩
  rw [load_of_readDocument hnew hdocument] at h
  have hloaded := Prod.ext_iff.mp (Except.ok.inj h)
  obtain rfl : Session.rootIn f.next (f.plant document).2 = root := hloaded.1
  obtain rfl : (f.plant document).2 = f' := (Prod.ext_iff.mp hloaded.2).2
  have hsound := hf.plant document
  obtain ⟨t, ht, herase, _⟩ := Separate.find?_rootIn hsound
  refine ⟨hsound, t, ht, (named_erase t).mp ?_, ?_⟩
  · rw [herase]
    exact named_readDocument hdocument
  · rw [herase, Source.readRoot, hdocument]
    rfl

/-- What is printed of a template, whatever else is asked for, and what an index of the template answers. -/
theorem run_foretells (ho : o.name = some name) (hf : f.Sound) (hnew : shelf.get? name = none)
    (hload : shelf.load source f name = .ok (root, shelf', f'))
    (readFile : Storage.Path → Except Storage.Absence ByteArray) (markerName : String) :
    ∃ printed ls, o.run readFile markerName source = .ok printed ∧ markerLines printed = ls.map MarkerLine.text ∧
      (∀ l ∈ ls, Text.IsWord l.marker) ∧
      (∀ ks, (∀ l ∈ ks, Text.IsWord l.marker) → markerLines printed = ks.map MarkerLine.text → ks = ls) ∧
      (ls.Pairwise fun a b => b.count < a.count ∨ a.count = b.count ∧
        ((markersOf markerName (f'.tree root)).map Prod.fst).idxOf a.marker <
          ((markersOf markerName (f'.tree root)).map Prod.fst).idxOf b.marker) ∧
      ∀ marker, Foretells ls marker (carriers markerName marker f' root)
        ((Index.build markerName f' root).single f' marker) := by
  obtain ⟨hsound, t, ht, hnamed, hread⟩ := load_eq_ok hf hnew hload
  have hmarkers : (ofTree markerName t.erase).markers = tally ((markersOf markerName t).map Prod.fst) := by
    rw [markers_ofTree ((named_erase t).mpr hnamed), Markup.Tree.tags_erase, map_fst_markersOf]
  have hwords : ∀ e ∈ tally ((markersOf markerName t).map Prod.fst), Text.IsWord e.1 := by
    intro e he
    have hmem := (mem_tally.mp he).1
    rw [map_fst_markersOf] at hmem
    obtain ⟨tag, _, hmarker⟩ := List.mem_flatMap.mp hmem
    exact isWord_of_mem_markers hmarker
  have hprinted : markerLines ((ofTree markerName t.erase).text o.markersOnly) =
      ((tally ((markersOf markerName t).map Prod.fst)).map lineOf).map MarkerLine.text := by
    rw [markerLines_text _ (hmarkers ▸ hwords), hmarkers, List.map_map]
    rfl
  have hlines : ∀ l ∈ (tally ((markersOf markerName t).map Prod.fst)).map lineOf, Text.IsWord l.marker :=
    List.forall_mem_map.mpr hwords
  refine ⟨_, _, ?_, hprinted, hlines, fun ks hks heq => map_text_inj hks hlines (heq.symm.trans hprinted), ?_,
    fun marker => foretells_tally hsound ht markerName marker⟩
  · rw [Command.SurveyOrder.run, ho]
    dsimp only
    rw [hread]
    rfl
  · rw [Forest.tree, ht, Option.getD_some, List.pairwise_map]
    exact pairwise_tally _

def card : Markup.Tree Unit :=
  .element () { name := "div", attributes := [("data-stencil", .text "line card")] } [
    .element () { name := "p", attributes := [("data-stencil", .text "line")] } [.leaf () (.text "a")]]

def cardText : String := "<div data-stencil=\x22line card\x22><p data-stencil=line>a</p></div>\n"

def cards : Source where
  location := Storage.Path.ofText "templates"
  directory := ⟨[(["card.html"], cardText.toUTF8)]⟩
  parser := "html.parser"

lemma fragmentRoot?_card : (Document.around card .asWritten).fragmentRoot? = some card :=
  fragmentRoot?_around (by decide) (by simp [Markup.Tree.descendantIn?]) .asWritten

lemma readDocument_cards : cards.readDocument "card.html" = .ok (Document.around card .asWritten) := by
  have hfile : cards.directory.read (cards.pathOf "card.html") (Storage.Path.ofText "card.html") =
      .ok cardText.toUTF8 := by decide +kernel
  have htext : Storage.decodeText cardText.toUTF8 = .ok cardText := by decide +kernel
  have hparser : Dialect.ofName? cards.parser = some .asWritten := by decide +kernel
  have hread : Document.read .asWritten cardText.toList = .ok (Document.around card .asWritten) := by decide +kernel
  unfold Source.readDocument
  simp only [hfile, htext, hparser, hread, Except.mapError, bind, Except.bind, fragmentRoot?_card, Option.isNone_some,
    Bool.false_eq_true, if_false]
  rfl

lemma readRoot_cards : cards.readRoot "card.html" = .ok card := by
  rw [Source.readRoot, readDocument_cards, Except.map, fragmentRoot?_card, Option.getD_some]

theorem cards_foretold : ∃ o root shelf f,
    Command.SurveyOrder.read ["--name", "card.html"] = .ok o ∧ o.name = some "card.html" ∧
    ({} : Shelf).load cards {} "card.html" = .ok (root, shelf, f) ∧
    (o.run (fun _ => .error .missing) markerAttribute cards).map markerLines =
      .ok ["line: 2  (not unique: strict lookup fails)", "card: 1"] ∧
    (Index.build markerAttribute f root).single f "line" = .error ⟨"line", 2⟩ ∧
    (∃ n, (Index.build markerAttribute f root).single f "card" = .ok n) ∧
    (Index.build markerAttribute f root).single f "text" = .error ⟨"text", 0⟩ := by
  have hread : Command.SurveyOrder.read ["--name", "card.html"] = .ok ⟨some "card.html", none, false⟩ := by
    decide +kernel
  have hsound : ({} : Forest).Sound := ⟨by decide, by decide⟩
  have hnew : ({} : Shelf).get? "card.html" = none := rfl
  have hload := load_of_readDocument (f := {}) hnew readDocument_cards
  obtain ⟨printed, ls, hrun, hlines, _, honly, _, hforetells⟩ :=
    run_foretells (o := ⟨some "card.html", none, false⟩) rfl hsound hnew hload (fun _ => .error .missing) markerAttribute
  have hmarkers : (ofTree markerAttribute card).markers = [("line", 2), ("card", 1)] :=
    List.mergeSort_of_pairwise (l := countNames _) (by decide +kernel)
  have hprinted : markerLines printed =
      ([⟨"line", 2, true⟩, ⟨"card", 1, false⟩] : List MarkerLine).map MarkerLine.text := by
    rw [Command.SurveyOrder.run] at hrun
    dsimp only at hrun
    rw [readRoot_cards] at hrun
    rw [← Except.ok.inj hrun, markerLines_text, hmarkers]
    · decide +kernel
    · rw [hmarkers]
      decide +kernel
  obtain rfl := honly _ (by decide +kernel) hprinted
  refine ⟨_, _, _, _, hread, rfl, hload, ?_, ?_, ?_, ?_⟩
  · rw [hrun, Except.map, hprinted]
    exact congrArg Except.ok (by decide +kernel)
  · obtain ⟨e, he⟩ := ((hforetells "line").flagged _ List.mem_cons_self rfl).mp rfl
    rw [he, (hforetells "line").count _ List.mem_cons_self rfl e he]
  · have hcard := (hforetells "card").flagged _ (List.mem_cons_of_mem _ List.mem_cons_self) rfl
    cases hsingle : (Index.build markerAttribute _ _).single _ "card" with
    | ok n => exact ⟨n, rfl⟩
    | error e => exact absurd (hcard.mpr ⟨e, hsingle⟩) Bool.false_ne_true
  · exact (hforetells "text").absent (by decide +kernel)

end Templates

end Survey

end PageStencil
