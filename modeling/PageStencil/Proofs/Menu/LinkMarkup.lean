import PageStencil.Menu.LinkMarkup
import PageStencil.Proofs.Markup.Classes

namespace PageStencil

open Markup

namespace Markup.Tag

variable {t : Tag} {name other : String}

lemma get?_setText? (t : Tag) (name : String) (s : Option String) :
    (t.setText? name s).get? name = (s.map Value.text).or (t.get? name) := by
  cases s with
  | none => rfl
  | some s => exact get?_set t name (.text s)

lemma get?_setText?_of_ne (h : other ≠ name) (s : Option String) : (t.setText? name s).get? other = t.get? other := by
  cases s with
  | none => rfl
  | some s => exact get?_set_of_ne t h (.text s)

lemma mem_keys_putAttribute {v : Value} {as : List (String × Value)} :
    other ∈ (putAttribute name v as).map Prod.fst ↔ other = name ∨ other ∈ as.map Prod.fst := by
  induction as with
  | nil => simp [putAttribute]
  | cons a as ih =>
    rw [putAttribute]
    split_ifs with h
    · rw [List.map_cons, List.map_cons, List.mem_cons, List.mem_cons, h, ← or_assoc, or_self]
    · rw [List.map_cons, List.map_cons, List.mem_cons, List.mem_cons, ih, or_left_comm]

lemma nodup_putAttribute {as : List (String × Value)} (h : (as.map Prod.fst).Nodup) (name : String) (v : Value) :
    ((putAttribute name v as).map Prod.fst).Nodup := by
  induction as with
  | nil => exact List.nodup_singleton name
  | cons a as ih =>
    rw [List.map_cons, List.nodup_cons] at h
    rw [putAttribute]
    split_ifs with hn
    · rw [List.map_cons, List.nodup_cons, ← hn]
      exact h
    · rw [List.map_cons, List.nodup_cons, mem_keys_putAttribute, not_or]
      exact ⟨⟨hn, h.1⟩, ih h.2⟩

lemma nodup_setText? (h : (t.attributes.map Prod.fst).Nodup) (name : String) (s : Option String) :
    ((t.setText? name s).attributes.map Prod.fst).Nodup := by
  cases s with
  | none => exact h
  | some s => exact nodup_putAttribute h name (.text s)

end Markup.Tag

namespace Link

open Markup.Tag

lemma nodup_tag (l : Link) : (l.tag.attributes.map Prod.fst).Nodup := by
  have hnil : (([] : List (String × Value)).map Prod.fst).Nodup := List.nodup_nil
  rw [tag]
  exact nodup_setText? (nodup_setText? (nodup_setText? (nodup_setText? (nodup_setText? hnil _ _) _ _) _ _) _ _) _ _

lemma get?_href (l : Link) : l.tag.get? "href" = l.href.map .text := by
  rw [tag, get?_setText?_of_ne (by decide), get?_setText?_of_ne (by decide), get?_setText?_of_ne (by decide),
    get?_setText?_of_ne (by decide), get?_setText?]
  exact Option.or_none

lemma get?_class (l : Link) : l.tag.get? "class" = l.cssClass.map .text := by
  rw [tag, get?_setText?_of_ne (by decide), get?_setText?_of_ne (by decide), get?_setText?_of_ne (by decide),
    get?_setText?, get?_setText?_of_ne (by decide)]
  exact Option.or_none

lemma get?_id (l : Link) : l.tag.get? "id" = l.id.map .text := by
  rw [tag, get?_setText?_of_ne (by decide), get?_setText?_of_ne (by decide), get?_setText?,
    get?_setText?_of_ne (by decide), get?_setText?_of_ne (by decide)]
  exact Option.or_none

lemma get?_rel (l : Link) : l.tag.get? "rel" = l.rel.map .text := by
  rw [tag, get?_setText?_of_ne (by decide), get?_setText?, get?_setText?_of_ne (by decide),
    get?_setText?_of_ne (by decide), get?_setText?_of_ne (by decide)]
  exact Option.or_none

lemma get?_target (l : Link) : l.tag.get? "target" = l.target.map .text := by
  rw [tag, get?_setText?, get?_setText?_of_ne (by decide), get?_setText?_of_ne (by decide),
    get?_setText?_of_ne (by decide), get?_setText?_of_ne (by decide)]
  exact Option.or_none

lemma get?_other {name : String} (h : name ∉ ["href", "class", "id", "rel", "target"]) (l : Link) :
    l.tag.get? name = none := by
  simp only [List.mem_cons, List.not_mem_nil, or_false, not_or] at h
  obtain ⟨hhref, hclass, hid, hrel, htarget⟩ := h
  rw [tag, get?_setText?_of_ne htarget, get?_setText?_of_ne hrel, get?_setText?_of_ne hid, get?_setText?_of_ne hclass,
    get?_setText?_of_ne hhref]
  rfl

lemma classes_tag (l : Link) : l.tag.classes = (l.cssClass.map Text.wordsOf).getD [] := by
  rw [classes, get?_class, Option.map_map]
  rfl

end Link

end PageStencil
