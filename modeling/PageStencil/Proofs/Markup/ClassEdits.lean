import PageStencil.Proofs.Markup.Merging

/-!
Class lists under any number of changes. What a change does to the tokens is told by an ordered list; the attribute
itself is left alone where no token comes or goes, and so is all else in the forest.
-/

namespace PageStencil.Markup

open Text

inductive ClassEdit
  | add (names : ClassNames)
  | remove (token : Option String)

namespace ClassEdit

def onTag (e : ClassEdit) (t : Tag) : Tag :=
  match e with
  | add names => t.addClasses names
  | remove token => t.removeClass? token

/-- A change of an ordered list of tokens: new ones come behind the others, once each, and all copies of one go. -/
def onTokens (e : ClassEdit) (tokens : List String) : List String :=
  match e with
  | add names => tokens ++ (names.tokens.removeAll tokens).eraseDups
  | remove none => tokens
  | remove (some token) => tokens.filter (· ≠ token)

def IsIdle (e : ClassEdit) (t : Tag) : Prop :=
  match e with
  | add names => names.tokens = []
  | remove none => True
  | remove (some token) => token ∉ t.classes

def RemovesLast (e : ClassEdit) (t : Tag) : Prop :=
  ∃ token, e = remove (some token) ∧ token ∈ t.classes ∧ ∀ c ∈ t.classes, c = token

structure Follows (e : ClassEdit) (t u : Tag) : Prop where
  classes : u.classes = e.onTokens t.classes
  solid : ∀ token ∈ u.classes, token ≠ "" ∧ ∀ c ∈ token.toList, isBlank c = false
  idle : e.IsIdle t → u = t
  gone : t.has "class" = true ∧ u.has "class" = false ↔ e.RemovesLast t
  rest : u.remove "class" = t.remove "class"

def runAll (n : Node) (es : List ClassEdit) (f : Forest) : Forest := es.foldl (fun f e => f.setTag n e.onTag) f

end ClassEdit

structure Forest.Retagged (n : Node) (f g : Forest) : Prop where
  sound : g.Sound
  own : ∀ k ≠ n, g.own? k = f.own? k
  childNodes : ∀ k, g.childNodes k = f.childNodes k
  roots : g.roots = f.roots

mutual

lemma ClassNames.isWord_tokens : (names : ClassNames) → ∀ w ∈ names.tokens, IsWord w
  | .none => fun _ hw => absurd hw List.not_mem_nil
  | .text _ => fun _ hw => isWord_of_mem hw
  | .all parts => ClassNames.isWord_tokensOfAll parts

lemma ClassNames.isWord_tokensOfAll : (parts : List ClassNames) → ∀ w ∈ ClassNames.tokensOfAll parts, IsWord w
  | [] => fun _ hw => absurd hw List.not_mem_nil
  | c :: cs => by
    rw [ClassNames.tokensOfAll, List.forall_mem_append]
    exact ⟨ClassNames.isWord_tokens c, ClassNames.isWord_tokensOfAll cs⟩

end

lemma appendNew_of_subset {cs ts : List String} (h : ts ⊆ cs) : appendNew cs ts = cs := by
  have hnone : ts.removeAll cs = [] := by
    rw [List.removeAll, List.filter_eq_nil_iff]
    intro t ht
    simpa using h ht
  rw [appendNew_eq, hnone, List.eraseDups_nil, List.append_nil]

lemma count_appendNew (cs ts : List String) (c : String) : (appendNew cs ts).count c ≤ max 1 (cs.count c) := by
  induction ts generalizing cs with
  | nil => exact Nat.le_max_right _ _
  | cons t ts ih =>
    rw [appendNew_cons]
    refine Nat.le_trans (ih _) ?_
    split_ifs with h
    · exact Nat.le_refl _
    · rw [List.count_append, List.count_singleton]
      split_ifs with hc
      · have hzero : cs.count c = 0 := List.count_eq_zero.mpr (beq_iff_eq.mp hc ▸ h)
        omega
      · omega

namespace Tag

variable {t : Tag} {xs ys : List String}

lemma putAttribute_putAttribute (name : String) (v w : Value) (as : List (String × Value)) :
    putAttribute name w (putAttribute name v as) = putAttribute name w as := by
  induction as with
  | nil => simp [putAttribute]
  | cons a as ih =>
    by_cases h : a.1 = name
    · simp [putAttribute, h]
    · simp [putAttribute, h, ih]

lemma filter_putAttribute (name : String) (v : Value) (as : List (String × Value)) :
    (putAttribute name v as).filter (fun a => a.1 != name) = as.filter fun a => a.1 != name := by
  induction as with
  | nil => simp [putAttribute]
  | cons a as ih =>
    by_cases h : a.1 = name
    · simp [putAttribute, h]
    · simp [putAttribute, h, ih]

lemma set_set (t : Tag) (name : String) (v w : Value) : (t.set name v).set name w = t.set name w := by
  rw [set, set, set, putAttribute_putAttribute]

lemma remove_set (t : Tag) (name : String) (v : Value) : (t.set name v).remove name = t.remove name := by
  rw [set, remove, remove, filter_putAttribute]

lemma remove_remove (t : Tag) (name : String) : (t.remove name).remove name = t.remove name := by
  rw [remove, remove, List.filter_filter]
  simp

lemma remove_setClasses (t : Tag) (cs : List String) : (t.setClasses cs).remove "class" = t.remove "class" :=
  t.remove_set "class" _

lemma has_setClasses (t : Tag) (cs : List String) : (t.setClasses cs).has "class" = true := by
  rw [has, setClasses, get?_set, Option.isSome_some]

lemma has_of_classes (h : t.classes ≠ []) : t.has "class" = true := has_iff.mpr (mem_names_of_classes h)

lemma has_remove (t : Tag) : (t.remove "class").has "class" = false := by
  rw [has, get?_remove, if_pos rfl, Option.isSome_none]

lemma addTokens_nil (t : Tag) : t.addTokens [] = t := rfl

lemma addTokens_of_ne_nil (h : xs ≠ []) : t.addTokens xs = t.setClasses (appendNew t.classes xs) := by
  rw [addTokens, if_neg (mt List.isEmpty_iff.mp h)]

lemma addTokens_append (hxs : ∀ w ∈ xs, IsWord w) : t.addTokens (xs ++ ys) = (t.addTokens xs).addTokens ys := by
  by_cases hx : xs = []
  · rw [hx, List.nil_append, addTokens_nil]
  by_cases hy : ys = []
  · rw [hy, List.append_nil, addTokens_nil]
  rw [addTokens_of_ne_nil (List.append_ne_nil_of_left_ne_nil hx ys), addTokens_of_ne_nil hy, classes_addTokens hxs,
    addTokens_of_ne_nil hx, appendNew_append, setClasses, setClasses, setClasses, set_set]

lemma addTokens_twice (hxs : ∀ w ∈ xs, IsWord w) : (t.addTokens xs).addTokens xs = t.addTokens xs := by
  by_cases hx : xs = []
  · rw [hx, addTokens_nil, addTokens_nil]
  have hthere : xs ⊆ (t.addTokens xs).classes := by
    intro x hm
    rw [classes_addTokens hxs]
    exact mem_appendNew.mpr (Or.inr hm)
  rw [addTokens_of_ne_nil hx (t := t.addTokens xs), appendNew_of_subset hthere, classes_addTokens hxs,
    addTokens_of_ne_nil hx, setClasses, setClasses, set_set]

end Tag

namespace ClassEdit

variable {e : ClassEdit} {t : Tag} {names : ClassNames} {token : String}

lemma classes_onTag (e : ClassEdit) (t : Tag) : (e.onTag t).classes = e.onTokens t.classes := by
  cases e with
  | add names => exact (Tag.classes_addTokens names.isWord_tokens).trans (appendNew_eq _ _)
  | remove token =>
    cases token with
    | none => rfl
    | some token =>
      refine (Tag.classes_removeClass t token).trans (List.filter_congr fun c _ => ?_)
      rw [bne, decide_not, Bool.beq_eq_decide_eq]

lemma onTag_of_idle (h : e.IsIdle t) : e.onTag t = t := by
  cases e with
  | add names =>
    have hnil : names.tokens = [] := h
    rw [onTag, Tag.addClasses, hnil, Tag.addTokens_nil]
  | remove token =>
    cases token with
    | none => rfl
    | some token => exact if_neg h

lemma remove_onTag (e : ClassEdit) (t : Tag) : (e.onTag t).remove "class" = t.remove "class" := by
  cases e with
  | add names =>
    rw [onTag, Tag.addClasses, Tag.addTokens]
    split_ifs
    · rfl
    · exact Tag.remove_setClasses t _
  | remove token =>
    cases token with
    | none => rfl
    | some token =>
      rw [onTag, Tag.removeClass?, Tag.removeClass]
      split_ifs
      · split
        · exact Tag.remove_remove t "class"
        · exact Tag.remove_setClasses t _
      · rfl

lemma has_onTag_add (h : t.has "class" = true) : ((add names).onTag t).has "class" = true := by
  rw [onTag, Tag.addClasses, Tag.addTokens]
  split_ifs
  · exact h
  · exact Tag.has_setClasses t _

lemma has_onTag_remove (hm : token ∈ t.classes) :
    ((remove (some token)).onTag t).has "class" = false ↔ ∀ c ∈ t.classes, c = token := by
  have hfilter : t.classes.filter (· != token) = [] ↔ ∀ c ∈ t.classes, c = token := by
    rw [List.filter_eq_nil_iff]
    simp
  rw [← hfilter, onTag, Tag.removeClass?, Tag.removeClass, if_pos hm]
  split
  next hnil => exact iff_of_true (Tag.has_remove t) hnil
  next hrest =>
    rw [Tag.has_setClasses]
    exact iff_of_false Bool.noConfusion hrest

theorem follows_onTag (e : ClassEdit) (t : Tag) : e.Follows t (e.onTag t) where
  classes := classes_onTag e t
  solid _ hc := (Tag.isWord_classes hc).solid
  idle := onTag_of_idle
  gone := by
    constructor
    · rintro ⟨hthere, hgone⟩
      cases e with
      | add names => exact absurd (has_onTag_add hthere) (Bool.eq_false_iff.mp hgone)
      | remove token =>
        by_cases hidle : (remove token).IsIdle t
        · rw [onTag_of_idle hidle, hthere] at hgone
          exact Bool.noConfusion hgone
        · cases token with
          | none => exact absurd trivial hidle
          | some token =>
            have hm : token ∈ t.classes := not_not.mp hidle
            exact ⟨token, rfl, hm, (has_onTag_remove hm).mp hgone⟩
    · rintro ⟨token, rfl, hm, hall⟩
      exact ⟨Tag.has_of_classes (List.ne_nil_of_mem hm), (has_onTag_remove hm).mpr hall⟩
  rest := remove_onTag e t

end ClassEdit

namespace Forest

variable {f g h : Forest} {n : Node} {t : Tag} {es : List ClassEdit}

namespace Retagged

lemma refl (hf : f.Sound) (n : Node) : Retagged n f f := ⟨hf, fun _ _ => rfl, fun _ => rfl, rfl⟩

lemma trans (hfg : Retagged n f g) (hgh : Retagged n g h) : Retagged n f h where
  sound := hgh.sound
  own k hk := (hgh.own k hk).trans (hfg.own k hk)
  childNodes k := (hgh.childNodes k).trans (hfg.childNodes k)
  roots := hgh.roots.trans hfg.roots

lemma setTag (hf : f.Sound) (n : Node) (change : Tag → Tag) : Retagged n f (f.setTag n change) where
  sound := hf.setTag n change
  own _ hk := hf.own?_setTag hk change
  childNodes _ := hf.childNodes_setTag change
  roots := roots_update (Tree.label_mapTag change)

end Retagged

lemma Sound.tag?_setTag (hf : f.Sound) (ht : f.tag? n = some t) (change : Tag → Tag) :
    (f.setTag n change).tag? n = some (change t) := by
  rw [← own?_eq_inr_iff] at ht ⊢
  rw [hf.own?_setTag_self, ht]
  rfl

lemma Sound.runAll (hf : f.Sound) (ht : f.tag? n = some t) (es : List ClassEdit) :
    ∃ u, (ClassEdit.runAll n es f).tag? n = some u ∧ u.classes = es.foldl (fun cs e => e.onTokens cs) t.classes ∧
      u.remove "class" = t.remove "class" ∧ Retagged n f (ClassEdit.runAll n es f) := by
  induction es generalizing f t with
  | nil => exact ⟨t, ht, rfl, rfl, Retagged.refl hf n⟩
  | cons e es ih =>
    have hstep := e.follows_onTag t
    have hretagged := Retagged.setTag hf n e.onTag
    obtain ⟨u, hu, hclasses, hrest, hrun⟩ := ih hretagged.sound (hf.tag?_setTag ht e.onTag)
    rw [hstep.classes] at hclasses
    exact ⟨u, hu, hclasses, hrest.trans hstep.rest, hretagged.trans hrun⟩

/-- Any run of changes leaves the tokens that the changes of an ordered list leave, and nothing else in the forest is
changed; the laws of adding hold wherever the run has come to. -/
theorem runAll_follows (hf : f.Sound) (ht : f.tag? n = some t) (es : List ClassEdit) :
    ∃ u, (ClassEdit.runAll n es f).tag? n = some u ∧ u.classes = es.foldl (fun cs e => e.onTokens cs) t.classes ∧
      (∀ token ∈ u.classes, token ≠ "" ∧ ∀ c ∈ token.toList, isBlank c = false) ∧
      u.remove "class" = t.remove "class" ∧ Retagged n f (ClassEdit.runAll n es f) ∧
      (∀ e : ClassEdit, e.Follows u (e.onTag u)) ∧
      ∀ x y, (∀ c, (u.addClasses x).classes.count c ≤ max 1 (u.classes.count c)) ∧
        (u.addClasses x).addClasses x = u.addClasses x ∧
        (u.addClasses x).addClasses y = u.addClasses (.all [x, y]) := by
  obtain ⟨u, hu, hclasses, hrest, hrun⟩ := hf.runAll ht es
  refine ⟨u, hu, hclasses, fun _ hc => (Tag.isWord_classes hc).solid, hrest, hrun, fun e => e.follows_onTag u,
    fun x y => ⟨fun c => ?_, Tag.addTokens_twice x.isWord_tokens, ?_⟩⟩
  · rw [Tag.addClasses, Tag.classes_addTokens x.isWord_tokens]
    exact count_appendNew _ _ c
  · have htokens : (ClassNames.all [x, y]).tokens = x.tokens ++ y.tokens := by
      rw [ClassNames.tokens, ClassNames.tokensOfAll, ClassNames.tokensOfAll, ClassNames.tokensOfAll, List.append_nil]
    rw [Tag.addClasses, Tag.addClasses, Tag.addClasses, htokens, Tag.addTokens_append x.isWord_tokens]

def badge : Forest where
  trees := [
    .element 0
      { name := "span", attributes := [("id", .text "b"), ("class", .text " new  hot\tnew"), ("title", .text "t")] }
      [.element 1 { name := "hr", attributes := [] } []]]
  next := 2

def badgeEdits : List ClassEdit :=
  [.add (.all [.text " hot wide", .none, .all [.text "old"]]), .remove (some "new"), .remove (some "missing"),
    .add (.text " ")]

theorem badge_follows : ∃ u, (ClassEdit.runAll 0 badgeEdits badge).tag? 0 = some u ∧
    u.classes = ["hot", "wide", "old"] ∧
    u.remove "class" = { name := "span", attributes := [("id", .text "b"), ("title", .text "t")] } ∧
    (u.addClasses (.text "old new")).classes = ["hot", "wide", "old", "new"] := by
  have hsound : badge.Sound := ⟨by decide, by decide⟩
  obtain ⟨u, hu, hclasses, _, hrest, _, hfollows, _⟩ :=
    runAll_follows hsound (show badge.tag? 0 = some _ from rfl) badgeEdits
  have htokens : u.classes = ["hot", "wide", "old"] := hclasses.trans (by decide +kernel)
  refine ⟨u, hu, htokens, hrest.trans (by decide +kernel), ?_⟩
  have hadd := (hfollows (.add (.text "old new"))).classes
  rw [htokens] at hadd
  exact hadd.trans (by decide +kernel)

end Forest

end PageStencil.Markup
