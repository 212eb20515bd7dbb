import Mathlib.Data.List.TakeWhile
import PageStencil.Proofs.Menu.LinkMarkup
import PageStencil.Proofs.Text.Trimming

/-!
A link that is read back from its element: its text comes back trimmed, its classes come back with single spaces
between them, and of its icon comes back what stands in front of the first blank.
-/

namespace PageStencil

open Text

namespace Markup.Tag

lemma ofTexts_span (s : String) :
    ofTexts "span" [("class", s)] = { name := "span", attributes := [("class", .tokens (wordsOf s))] } := by
  simp [ofTexts, ofValues, markEncoding, splitValue, isListValued, listValuedAnywhere]

lemma classes_ofTexts_span (s : String) : (ofTexts "span" [("class", s)]).classes = wordsOf s := by
  rw [ofTexts_span]
  exact flatMap_wordsOf fun w hw => isWord_of_mem hw

end Markup.Tag

namespace Link

open Markup Form

def iconHead (icon : String) : String := String.ofList (icon.toList.takeWhile (!isBlank ·))

def readBack (l : Link) : Link where
  text := (l.text.filter (trimmed · ≠ "")).map trimmed
  href := l.href
  icon := (l.icon.filter (· ≠ "")).map iconHead
  cssClass := (l.cssClass.filter (wordsOf · ≠ [])).map fun s => " ".intercalate (wordsOf s)
  id := l.id
  rel := l.rel
  target := l.target

/-- A link without blanks that its element could lose. -/
structure Plain (l : Link) : Prop where
  text : ∀ s ∈ l.text, s ≠ "" ∧ Tight s.toList
  icon : ∀ s ∈ l.icon, s ≠ "" ∧ ∀ c ∈ s.toList, isBlank c = false
  cssClass : ∀ s ∈ l.cssClass, ∃ ws, ws ≠ [] ∧ (∀ w ∈ ws, IsWord w) ∧ s = " ".intercalate ws

section Icon

lemma iconOfToken?_prefixed (s : List Char) : iconOfToken? (String.ofList (iconClass ++ s)) = some (String.ofList s) := by
  simp [iconOfToken?]

lemma findSome?_icon (icon : String) :
    (wordsOf ("fa fa-" ++ icon)).findSome? iconOfToken? = some (iconHead icon) := by
  have hsplit : "fa fa-" ++ icon = "fa" ++ " " ++ String.ofList (iconClass ++ icon.toList) := by
    rw [← String.toList_inj]
    simp [iconClass]
  have hplain : ∀ c ∈ iconClass, (!isBlank c) = true := List.all_eq_true.mp (by decide)
  have hfirst : (wordsOf "fa").findSome? iconOfToken? = none := by decide
  obtain ⟨ws, hws⟩ := words_eq_cons (s := iconClass ++ icon.toList) (by simp [iconClass]) (by simp [iconClass]; decide)
  rw [List.takeWhile_append_of_pos hplain] at hws
  rw [hsplit, wordsOf_append_space, List.findSome?_append, hfirst, wordsOf, String.toList_ofList, hws, List.map_cons,
    List.findSome?_cons, iconOfToken?_prefixed]
  rfl

lemma iconOfTree?_iconTree (icon : String) : iconOfTree? (iconTree icon) = some (iconHead icon) := by
  have hname : (Tag.ofTexts "span" [("class", "fa fa-" ++ icon)]).name = "span" := by rw [Tag.ofTexts_span]
  rw [iconTree, iconOfTree?, if_pos hname, Tag.classes_ofTexts_span, findSome?_icon]

end Icon

section Reading

variable (l : Link)

lemma contents_eq : l.contents =
    (l.text.map fun s => Markup.Tree.leaf () (.text s)).toList ++ ((l.icon.filter (· ≠ "")).map iconTree).toList := by
  rw [contents]
  cases l.icon with
  | none => rfl
  | some icon => by_cases h : icon = "" <;> simp [h, Option.filter_some]

lemma findSome?_contents : l.contents.findSome? iconOfTree? = l.readBack.icon := by
  have htext : ((l.text.map fun s => Markup.Tree.leaf () (.text s)).toList).findSome? iconOfTree? = none := by
    cases l.text <;> rfl
  rw [contents_eq, List.findSome?_append, htext, Option.none_or, readBack]
  cases l.icon.filter (· ≠ "") with
  | none => rfl
  | some icon => simp [iconOfTree?_iconTree]

lemma textOf_contents : textOf l.contents = trimmed (l.text.getD "") := by
  rw [contents_eq, textOf]
  cases l.text <;> cases l.icon.filter (· ≠ "") <;> simp [iconTree, String.join, Leaf.content]

lemma nonEmpty_textOf : nonEmpty (textOf l.contents) = l.readBack.text := by
  rw [textOf_contents, readBack]
  cases l.text with
  | none => rfl
  | some s => by_cases h : trimmed s = "" <;> simp [nonEmpty, h, Option.filter_some]

lemma nonEmpty_classes : nonEmpty (" ".intercalate l.tag.classes) = l.readBack.cssClass := by
  rw [classes_tag, readBack]
  cases l.cssClass with
  | none => rfl
  | some s =>
    have hempty : " ".intercalate (wordsOf s) = "" ↔ wordsOf s = [] := by
      constructor
      · intro h
        have hwords := wordsOf_intercalate_words fun w (hw : w ∈ wordsOf s) => isWord_of_mem hw
        rw [← hwords, h]
        decide
      · intro h
        rw [h]
        rfl
    by_cases h : wordsOf s = [] <;> simp [nonEmpty, hempty, h, Option.filter_some]

lemma attributeText_of_text {t : Tag} {name : String} {s : Option String} (h : t.get? name = s.map .text) :
    attributeText t name = .accepted s := by
  rw [attributeText, h]
  cases s <;> rfl

lemma ofElement_eq : ofElement l.tag l.contents = .accepted l.readBack := by
  rw [ofElement, attributeText_of_text (get?_href l), attributeText_of_text (get?_id l),
    attributeText_of_text (get?_target l), findSome?_contents, nonEmpty_textOf, nonEmpty_classes, get?_rel]
  have hrel : (l.rel.map Value.text).map Value.plain = l.rel := by
    rw [Option.map_map]
    exact Option.map_id'
  rw [hrel]
  rfl

end Reading

section Plain

variable {o : Option String} {p : String → Bool} {f : String → String} {l : Link} {s : String}

lemma map_filter_eq_self_iff : (o.filter p).map f = o ↔ ∀ s ∈ o, p s = true ∧ f s = s := by
  cases o with
  | none => simp
  | some s => by_cases h : p s = true <;> simp [h, Option.filter_some]

lemma trimmed_eq_self_iff : trimmed s = s ↔ Tight s.toList := by
  rw [tight_iff, ← String.toList_inj, trimmed, String.toList_ofList]

lemma iconHead_eq_self_iff : iconHead s = s ↔ ∀ c ∈ s.toList, isBlank c = false := by
  rw [← String.toList_inj, iconHead, String.toList_ofList, List.takeWhile_eq_self_iff]
  simp

lemma intercalate_wordsOf_eq_self_iff :
    wordsOf s ≠ [] ∧ " ".intercalate (wordsOf s) = s ↔
      ∃ ws, ws ≠ [] ∧ (∀ w ∈ ws, IsWord w) ∧ s = " ".intercalate ws := by
  constructor
  · rintro ⟨hne, hs⟩
    exact ⟨wordsOf s, hne, fun w hw => isWord_of_mem hw, hs.symm⟩
  · rintro ⟨ws, hne, hws, rfl⟩
    rw [wordsOf_intercalate_words hws]
    exact ⟨hne, rfl⟩

lemma readBack_eq_self_iff : l.readBack = l ↔ l.Plain := by
  constructor
  · intro h
    have htext := map_filter_eq_self_iff.mp (congrArg Link.text h)
    have hicon := map_filter_eq_self_iff.mp (congrArg Link.icon h)
    have hclass := map_filter_eq_self_iff.mp (congrArg Link.cssClass h)
    refine ⟨fun s hs => ?_, fun s hs => ?_, fun s hs => ?_⟩
    · obtain ⟨hne, heq⟩ := htext s hs
      rw [heq, decide_eq_true_eq] at hne
      exact ⟨hne, trimmed_eq_self_iff.mp heq⟩
    · obtain ⟨hne, heq⟩ := hicon s hs
      exact ⟨of_decide_eq_true hne, iconHead_eq_self_iff.mp heq⟩
    · obtain ⟨hne, heq⟩ := hclass s hs
      exact intercalate_wordsOf_eq_self_iff.mp ⟨of_decide_eq_true hne, heq⟩
  · intro h
    have htext : l.readBack.text = l.text := map_filter_eq_self_iff.mpr fun s hs => by
      have heq := trimmed_eq_self_iff.mpr (h.text s hs).2
      exact ⟨decide_eq_true (heq.symm ▸ (h.text s hs).1), heq⟩
    have hicon : l.readBack.icon = l.icon := map_filter_eq_self_iff.mpr fun s hs =>
      ⟨decide_eq_true (h.icon s hs).1, iconHead_eq_self_iff.mpr (h.icon s hs).2⟩
    have hclass : l.readBack.cssClass = l.cssClass := map_filter_eq_self_iff.mpr fun s hs => by
      obtain ⟨hne, heq⟩ := intercalate_wordsOf_eq_self_iff.mpr (h.cssClass s hs)
      exact ⟨decide_eq_true hne, heq⟩
    calc l.readBack
        = ⟨l.readBack.text, l.href, l.readBack.icon, l.readBack.cssClass, l.id, l.rel, l.target⟩ := rfl
      _ = l := by rw [htext, hicon, hclass]

end Plain

theorem ofElement_tree (l : Link) : ∃ t ts, l.tree = .element () t ts ∧ ofElement t ts = .accepted l.readBack ∧
    (ofElement t ts = .accepted l ↔ l.Plain) := by
  refine ⟨l.tag, l.contents, rfl, ofElement_eq l, ?_⟩
  rw [ofElement_eq, Checked.accepted.injEq, readBack_eq_self_iff]

end Link

end PageStencil
