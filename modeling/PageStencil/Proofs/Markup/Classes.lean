import Mathlib.Data.List.Nodup
import PageStencil.Markup.Classes
import PageStencil.Proofs.Text.Words

namespace PageStencil

namespace Markup

open Text

section AppendNew

variable {c : String} {cs ts : List String}

lemma appendNew_cons (cs : List String) (t : String) (ts : List String) :
    appendNew cs (t :: ts) = appendNew (if t ∈ cs then cs else cs ++ [t]) ts := rfl

lemma mem_appendNew : c ∈ appendNew cs ts ↔ c ∈ cs ∨ c ∈ ts := by
  induction ts generalizing cs with
  | nil => simp [appendNew]
  | cons t ts ih =>
    rw [appendNew_cons, ih, List.mem_cons]
    split_ifs with h
    · constructor
      · rintro (hc | hc)
        · exact Or.inl hc
        · exact Or.inr (Or.inr hc)
      · rintro (hc | rfl | hc)
        · exact Or.inl hc
        · exact Or.inl h
        · exact Or.inr hc
    · rw [List.mem_append, List.mem_singleton, or_assoc]

lemma nodup_appendNew (h : cs.Nodup) : (appendNew cs ts).Nodup := by
  induction ts generalizing cs with
  | nil => exact h
  | cons t ts ih =>
    rw [appendNew_cons]
    split_ifs with ht
    · exact ih h
    · refine ih (List.nodup_append.mpr ⟨h, List.nodup_singleton t, ?_⟩)
      rintro a ha b hb rfl
      exact ht (List.mem_singleton.mp hb ▸ ha)

lemma appendNew_of_nodup (h : (cs ++ ts).Nodup) : appendNew cs ts = cs ++ ts := by
  induction ts generalizing cs with
  | nil => rw [List.append_nil]; rfl
  | cons t ts ih =>
    rw [List.append_cons] at h
    have ht : t ∉ cs := fun hm =>
      (List.nodup_append.mp (List.nodup_append.mp h).1).2.2 t hm t (List.mem_singleton_self t) rfl
    rw [appendNew_cons, if_neg ht, ih h, ← List.append_cons]

lemma appendNew_eq (cs ts : List String) : appendNew cs ts = cs ++ (ts.removeAll cs).eraseDups := by
  induction ts generalizing cs with
  | nil => simp [appendNew, List.removeAll]
  | cons t ts ih =>
    rw [appendNew_cons, ih]
    by_cases h : t ∈ cs
    · simp [h, List.removeAll]
    · simp [h, List.removeAll, List.eraseDups_cons, List.filter_filter, Bool.and_comm, beq_eq_decide]

lemma appendNew_nil (ts : List String) : appendNew [] ts = ts.eraseDups := by
  rw [appendNew_eq, List.nil_append]
  simp [List.removeAll]

lemma appendNew_append (cs ts us : List String) : appendNew cs (ts ++ us) = appendNew (appendNew cs ts) us :=
  List.foldl_append

lemma appendNew_nil_appendNew (cs ts : List String) : appendNew [] (appendNew cs ts) = (cs ++ ts).eraseDups := by
  rw [← appendNew_nil, appendNew_append]
  induction ts generalizing cs with
  | nil => rfl
  | cons t ts ih =>
    rw [appendNew_cons, appendNew_cons, ih]
    have hmem : t ∈ appendNew [] cs ↔ t ∈ cs := by simp [mem_appendNew]
    by_cases h : t ∈ cs
    · rw [if_pos h, if_pos (hmem.mpr h)]
    · rw [if_neg h, if_neg (mt hmem.mp h), appendNew_append, appendNew_cons, if_neg (mt hmem.mp h)]
      rfl

lemma eraseDups_append_eraseDups (cs ts : List String) : (cs.eraseDups ++ ts).eraseDups = (cs ++ ts).eraseDups := by
  have hnodup : cs.eraseDups.Nodup := appendNew_nil cs ▸ nodup_appendNew List.nodup_nil
  have hself : appendNew [] cs.eraseDups = cs.eraseDups := by
    rw [appendNew_of_nodup (by rwa [List.nil_append]), List.nil_append]
  rw [← appendNew_nil, appendNew_append, hself, ← appendNew_nil, ← appendNew_nil, appendNew_append]

end AppendNew

namespace Tag

variable {t source : Tag} {name token : String} {cs : List String}

lemma isWord_classes {w : String} (h : w ∈ t.classes) : IsWord w := by
  rw [classes] at h
  cases hv : t.get? "class" with
  | none =>
    rw [hv] at h
    exact absurd h List.not_mem_nil
  | some v =>
    rw [hv] at h
    cases v with
    | tokens ts =>
      obtain ⟨s, _, hw⟩ := List.mem_flatMap.mp h
      exact isWord_of_mem hw
    | text s => exact isWord_of_mem h
    | charset s => exact isWord_of_mem h
    | contentType s => exact isWord_of_mem h

lemma classes_setClasses (h : ∀ w ∈ cs, IsWord w) : (t.setClasses cs).classes = cs := by
  rw [classes, setClasses, get?_set, Option.map_some, Option.getD_some]
  exact flatMap_wordsOf h

lemma classes_set (h : name ≠ "class") (v : Value) : (t.set name v).classes = t.classes := by
  rw [classes, get?_set_of_ne t (Ne.symm h), classes]

lemma classes_remove (h : name ≠ "class") : (t.remove name).classes = t.classes := by
  rw [classes, get?_remove, if_neg (Ne.symm h), classes]

lemma classes_addTokens (h : ∀ w ∈ cs, IsWord w) : (t.addTokens cs).classes = appendNew t.classes cs := by
  cases cs with
  | nil => rfl
  | cons c cs =>
    refine classes_setClasses fun w hw => ?_
    rcases mem_appendNew.mp hw with hw | hw
    · exact isWord_classes hw
    · exact h w hw

lemma get?_addTokens (h : name ≠ "class") (cs : List String) : (t.addTokens cs).get? name = t.get? name := by
  rw [addTokens]
  split_ifs
  · rfl
  · exact get?_set_of_ne t h _

lemma classes_removeClass (t : Tag) (token : String) : (t.removeClass token).classes = t.classes.filter (· != token) := by
  have hword : ∀ w ∈ t.classes.filter (· != token), IsWord w := fun w hw => isWord_classes (List.mem_of_mem_filter hw)
  rw [removeClass]
  split_ifs with h
  · cases hrest : t.classes.filter (· != token) with
    | nil =>
      rw [classes, get?_remove, if_pos rfl]
      rfl
    | cons c cs => exact classes_setClasses (hrest ▸ hword)
  · refine (List.filter_eq_self.mpr fun c hc => ?_).symm
    rw [bne_iff_ne]
    rintro rfl
    exact h hc

def classesOf (as : List (String × Value)) : List String := ((as.lookup "class").map Value.words).getD []

lemma get?_removeClass (h : name ≠ "class") (t : Tag) (token : String) : (t.removeClass token).get? name = t.get? name := by
  rw [removeClass]
  split_ifs
  · split
    · rw [get?_remove, if_neg h]
    · exact get?_set_of_ne t h _
  · rfl

lemma isWord_words (v : Value) {w : String} (h : w ∈ v.words) : IsWord w := by
  cases v with
  | tokens ts =>
    obtain ⟨s, _, hw⟩ := List.mem_flatMap.mp h
    exact isWord_of_mem hw
  | text s => exact isWord_of_mem h
  | charset s => exact isWord_of_mem h
  | contentType s => exact isWord_of_mem h

lemma lookup_of_not_mem {as : List (String × Value)} (h : name ∉ as.map Prod.fst) : as.lookup name = none := by
  rw [List.lookup_eq_none_iff]
  intro a ha
  rw [bne_iff_ne]
  rintro rfl
  exact h (List.mem_map_of_mem ha)

lemma foldl_take {as : List (String × Value)} (has : (as.map Prod.fst).Nodup) (t : Tag) :
    (as.foldl take t).classes = appendNew t.classes (classesOf as) ∧
      ∀ name ≠ "class", (as.foldl take t).get? name = (as.lookup name).or (t.get? name) := by
  induction as generalizing t with
  | nil => exact ⟨rfl, fun _ _ => rfl⟩
  | cons a as ih =>
    obtain ⟨key, v⟩ := a
    rw [List.map_cons, List.nodup_cons] at has
    have hnone := lookup_of_not_mem has.1
    obtain ⟨hclasses, hget⟩ := ih has.2 (t.take (key, v))
    rw [List.foldl_cons]
    by_cases hkey : key = "class"
    · subst hkey
      have htake : t.take ("class", v) = t.addTokens v.words := if_pos rfl
      rw [htake] at hclasses hget
      refine ⟨?_, fun name hname => ?_⟩
      · have hold : classesOf as = [] := by
          rw [classesOf, hnone]
          rfl
        rw [htake, hclasses, hold, classes_addTokens fun w hw => isWord_words v hw, classesOf, List.lookup_cons_self]
        rfl
      · rw [htake, hget name hname, get?_addTokens hname, List.lookup_cons, beq_eq_false_iff_ne.mpr hname]
    · have htake : t.take (key, v) = t.set key v := if_neg hkey
      rw [htake] at hclasses hget
      refine ⟨?_, fun name hname => ?_⟩
      · rw [htake, hclasses, classes_set hkey, classesOf, classesOf, List.lookup_cons,
          beq_eq_false_iff_ne.mpr (Ne.symm hkey)]
      · rw [htake, hget name hname, List.lookup_cons]
        by_cases hn : name = key
        · subst hn
          rw [hnone, get?_set, beq_self_eq_true]
          rfl
        · rw [get?_set_of_ne t hn, beq_eq_false_iff_ne.mpr hn]

lemma get?_merge (hs : (source.attributes.map Prod.fst).Nodup) (hname : name ≠ "class") :
    (t.merge source).get? name = (source.get? name).or (t.get? name) := by
  have hget := (foldl_take hs t).2 name hname
  rw [merge]
  split_ifs
  · exact (get?_set_of_ne _ hname _).trans hget
  · exact hget

lemma classes_merge_eq (hs : (source.attributes.map Prod.fst).Nodup) :
    (t.merge source).classes = (t.classes ++ source.classes).eraseDups := by
  have hclasses : (source.attributes.foldl take t).classes = appendNew t.classes source.classes := (foldl_take hs t).1
  have hall : appendNew [] (source.attributes.foldl take t).classes = (t.classes ++ source.classes).eraseDups := by
    rw [hclasses, appendNew_nil_appendNew]
  rw [merge]
  split_ifs with h
  · rw [classes_setClasses, hall]
    intro w hw
    exact isWord_classes ((mem_appendNew.mp hw).resolve_left List.not_mem_nil)
  · -- Without the attribute there is nothing to be left out.
    have hempty : (source.attributes.foldl take t).classes = [] := by
      rw [has, Bool.not_eq_true, Option.isSome_eq_false_iff, Option.isNone_iff_eq_none] at h
      rw [classes, h]
      rfl
    rw [← hall, hempty]
    rfl

lemma classes_merge (hs : (source.attributes.map Prod.fst).Nodup) (ht : t.classes.Nodup) :
    (t.merge source).classes = appendNew t.classes source.classes := by
  have hnodup : (appendNew t.classes source.classes).Nodup := nodup_appendNew ht
  rw [classes_merge_eq hs, ← appendNew_nil_appendNew, appendNew_of_nodup (by rwa [List.nil_append]), List.nil_append]

lemma name_addTokens (t : Tag) (cs : List String) : (t.addTokens cs).name = t.name := by
  rw [addTokens]
  split_ifs <;> rfl

lemma name_addClasses (t : Tag) (names : ClassNames) : (t.addClasses names).name = t.name := name_addTokens t _

lemma name_removeClass (t : Tag) (token : String) : (t.removeClass token).name = t.name := by
  rw [removeClass]
  split_ifs
  · split <;> rfl
  · rfl

lemma name_merge (target source : Tag) : (target.merge source).name = target.name := by
  have htake : ∀ (as : List (String × Value)) (t : Tag), (as.foldl take t).name = t.name := by
    intro as
    induction as with
    | nil => exact fun t => rfl
    | cons a as ih =>
      intro t
      rw [List.foldl_cons, ih, take]
      split_ifs
      · exact name_addTokens t _
      · rfl
  rw [merge]
  split_ifs
  · exact htake source.attributes target
  · exact htake source.attributes target

end Tag

end Markup

end PageStencil
