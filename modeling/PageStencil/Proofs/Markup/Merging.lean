import PageStencil.Proofs.Markup.Classes
import PageStencil.Proofs.Markup.Local

namespace PageStencil.Markup

namespace Tag

variable {t s m : Tag} {name : String}

def names (t : Tag) : List String := t.attributes.map Prod.fst

lemma has_iff : t.has name = true ↔ name ∈ t.names := by
  rw [has, get?, ← not_iff_not, Bool.not_eq_true, Option.isSome_eq_false_iff, Option.isNone_iff_eq_none,
    List.lookup_eq_none_iff, names]
  constructor
  · intro h hm
    obtain ⟨a, ha, rfl⟩ := List.mem_map.mp hm
    simpa using h a ha
  · intro h a ha
    rw [bne_iff_ne]
    rintro rfl
    exact h (List.mem_map_of_mem ha)

lemma names_set (t : Tag) (name : String) (v : Value) :
    (t.set name v).names = if name ∈ t.names then t.names else t.names ++ [name] := by
  rw [set, names, names]
  dsimp only
  induction t.attributes with
  | nil => rfl
  | cons a as ih =>
    by_cases h : a.1 = name
    · simp [putAttribute, h]
    · rw [putAttribute, if_neg h, List.map_cons, List.map_cons, ih]
      by_cases hm : name ∈ as.map Prod.fst
      · rw [if_pos hm, if_pos (List.mem_cons_of_mem _ hm)]
      · have hne : name ∉ a.1 :: as.map Prod.fst := by simpa [Ne.symm h] using hm
        rw [if_neg hm, if_neg hne, List.cons_append]

structure Combines (t s m : Tag) : Prop where
  name : m.name = t.name
  names : m.names = t.names ++ s.names.filter fun name => name ∉ t.names ∧ (name = "class" → s.classes ≠ [])
  value : ∀ name ≠ "class", m.get? name = (s.get? name).or (t.get? name)
  present : m.has "class" = true ↔ t.has "class" = true ∨ s.classes ≠ []
  classes : m.classes = (t.classes ++ s.classes).eraseDups
  listed : ∀ v, m.get? "class" = some v → v = .tokens m.classes

lemma names_take (t : Tag) (a : String × Value) :
    (t.take a).names = t.names ++ [a.1].filter fun name => name ∉ t.names ∧ (name = "class" → a.2.words ≠ []) := by
  rw [take]
  split_ifs with h
  · rw [addTokens]
    split_ifs with hwords
    · have hnil := List.isEmpty_iff.mp hwords
      simp [h, hnil]
    · have hne : a.2.words ≠ [] := fun hnil => hwords (List.isEmpty_iff.mpr hnil)
      rw [setClasses, names_set]
      by_cases hm : "class" ∈ t.names <;> simp [h, hm, hne]
  · rw [names_set]
    by_cases hm : a.1 ∈ t.names <;> simp [h, hm]

lemma classesOf_cons (a : String × Value) (as : List (String × Value)) :
    classesOf (a :: as) = if a.1 = "class" then a.2.words else classesOf as := by
  obtain ⟨name, v⟩ := a
  rw [classesOf, List.lookup_cons]
  split_ifs with h
  · rw [← h, beq_self_eq_true]
    rfl
  · rw [beq_eq_false_iff_ne.mpr (Ne.symm h), classesOf]

lemma names_foldl_take {as : List (String × Value)} (has : (as.map Prod.fst).Nodup) (t : Tag) :
    (as.foldl take t).names = t.names ++
      (as.map Prod.fst).filter fun name => name ∉ t.names ∧ (name = "class" → classesOf as ≠ []) := by
  induction as generalizing t with
  | nil => simp
  | cons a as ih =>
    rw [List.map_cons, List.nodup_cons] at has
    have hhead : [a.1].filter (fun name => name ∉ t.names ∧ (name = "class" → a.2.words ≠ [])) =
        [a.1].filter fun name => name ∉ t.names ∧ (name = "class" → classesOf (a :: as) ≠ []) := by
      refine List.filter_congr fun name hname => ?_
      rw [List.mem_singleton.mp hname, classesOf_cons]
      by_cases h : a.1 = "class" <;> simp [h]
    have htail : (as.map Prod.fst).filter
          (fun name => name ∉ (t.take a).names ∧ (name = "class" → classesOf as ≠ [])) =
        (as.map Prod.fst).filter fun name => name ∉ t.names ∧ (name = "class" → classesOf (a :: as) ≠ []) := by
      refine List.filter_congr fun name hname => ?_
      have hne : name ≠ a.1 := fun h => has.1 (h ▸ hname)
      have hmem : name ∈ (t.take a).names ↔ name ∈ t.names := by simp [names_take, hne]
      refine decide_eq_decide.mpr (and_congr (not_congr hmem) (imp_congr_right ?_))
      rintro rfl
      rw [classesOf_cons, if_neg (Ne.symm hne)]
    rw [List.foldl_cons, ih has.2, htail, names_take, hhead, List.append_assoc, ← List.filter_append]
    rfl

lemma names_merge (hs : s.names.Nodup) : (t.merge s).names =
    t.names ++ s.names.filter fun name => name ∉ t.names ∧ (name = "class" → s.classes ≠ []) := by
  have hfold : (s.attributes.foldl take t).names = t.names ++
      s.names.filter fun name => name ∉ t.names ∧ (name = "class" → s.classes ≠ []) := names_foldl_take hs t
  rw [← hfold, merge]
  split_ifs with h
  · rw [setClasses, names_set, if_pos (has_iff.mp h)]
  · rfl

lemma mem_names_of_classes (h : s.classes ≠ []) : "class" ∈ s.names := by
  rw [← has_iff, has]
  by_contra hnone
  rw [Bool.not_eq_true, Option.isSome_eq_false_iff, Option.isNone_iff_eq_none] at hnone
  rw [classes, hnone] at h
  exact h rfl

lemma get?_class_merge {v : Value} (h : (t.merge s).get? "class" = some v) : v = .tokens (t.merge s).classes := by
  rw [merge] at h ⊢
  split_ifs at h ⊢ with hclass
  · rw [classes_setClasses fun w hw => isWord_classes ((mem_appendNew.mp hw).resolve_left List.not_mem_nil)]
    rw [setClasses, get?_set] at h
    exact (Option.some.inj h).symm
  · rw [has, h] at hclass
    exact absurd rfl hclass

theorem combines_merge (hs : s.names.Nodup) : Combines t s (t.merge s) where
  name := name_merge t s
  names := names_merge hs
  value name hname := get?_merge hs hname
  present := by
    rw [has_iff, has_iff, names_merge hs, List.mem_append, List.mem_filter, decide_eq_true_eq]
    constructor
    · rintro (h | ⟨_, _, h⟩)
      · exact Or.inl h
      · exact Or.inr (h rfl)
    · rintro (h | h)
      · exact Or.inl h
      · by_cases ht : "class" ∈ t.names
        · exact Or.inl ht
        · exact Or.inr ⟨mem_names_of_classes h, ht, fun _ => h⟩
  classes := classes_merge_eq hs
  listed _ hv := get?_class_merge hv

end Tag

namespace Forest

variable {f g h : Forest} {target source other : Nat} {t s u m : Tag} {k : Nat}

/-- A forest after one element has been merged into another one, but for the tag of the target. -/
structure Merged (f g : Forest) (target source : Nat) : Prop where
  moved : g.children target = f.children source
  emptied : g.children source = []
  roots : g.roots = f.childNodes target ++ f.roots
  own : ∀ k ≠ target, g.own? k = f.own? k
  childNodes : ∀ k, k ≠ target → k ≠ source → g.childNodes k = f.childNodes k
  apart : ∀ k v, f.find? k = some v → target ∉ v.labels → source ∉ v.labels → g.find? k = some v

lemma not_mem_of_not_within {v : Tree Node} (hv : f.find? source = some v)
    (hout : f.within source target = false) : target ∉ v.labels := by
  intro hm
  rw [← Bool.not_eq_true, within_iff] at hout
  exact hout ⟨v, hv, hm⟩

lemma mergeApart_eq (hout : f.within source target = false) :
    f.mergeApart target source = (.ok (), f.merge target source) := by
  rw [mergeApart, hout, Bool.not_false, Bool.or_true, if_pos rfl]

namespace Sound

section Two

variable {ts cs : List (Tree Node)}

lemma find?_merge_target (hf : f.Sound) (htarget : f.find? target = some (.element target t ts))
    (hsource : f.find? source = some (.element source s cs)) (hnot : target ∉ (Tree.element source s cs).labels) :
    (f.merge target source).find? target = some (.element target (t.merge s) cs) := by
  have hcs : target ≠ source ∧ target ∉ cs.flatMap Tree.labels := by
    rwa [Tree.labels, Tree.labelsOfAll_eq, List.mem_cons, not_or] at hnot
  have haway : source ∉ (Tree.element target t []).labels := by
    rw [Tree.labels, Tree.labelsOfAll, List.mem_singleton]
    exact Ne.symm hcs.1
  rw [hf.find?_merge hsource hnot hcs.2, htarget, Option.map_some, Tree.modify_element_self, Tree.withChildren,
    Tree.modify_of_not_mem haway, Tree.modify_element_self]
  rfl

lemma find?_merge_source (hf : f.Sound) (hsource : f.find? source = some (.element source s cs))
    (hnot : target ∉ (Tree.element source s cs).labels) :
    (f.merge target source).find? source = some (.element source s []) := by
  have hcs : source ∉ cs.flatMap Tree.labels := by
    have hnodup := hf.nodup_of_find? hsource
    rw [Tree.labels, Tree.labelsOfAll_eq, List.nodup_cons] at hnodup
    exact hnodup.1
  have haway : target ∉ (Tree.element source s []).labels := by
    rw [Tree.labels, List.mem_cons, not_or] at hnot
    rw [Tree.labels, Tree.labelsOfAll, List.mem_singleton]
    exact hnot.1
  rw [hf.find?_merge hsource hnot hcs, hsource, Option.map_some, Tree.modify_of_not_mem hnot, Tree.modify_element_self,
    Tree.withChildren, Tree.modify_of_not_mem haway]

lemma merge_other (hf : f.Sound) (htarget : f.find? target = some (.element target t ts))
    (hsource : f.find? source = some (.element source s cs)) (hnot : target ∉ (Tree.element source s cs).labels)
    (hk : k ≠ target) (hks : k ≠ source) :
    (f.merge target source).own? k = f.own? k ∧ (f.merge target source).childNodes k = f.childNodes k := by
  by_cases hm : k ∈ cs.flatMap Tree.labels
  · have hsame := hf.find?_merge_moved hsource hnot htarget hm
    rw [own?, hsame, childNodes_eq, hsame, own?, childNodes_eq]
    exact ⟨rfl, rfl⟩
  · have hfind := hf.find?_merge hsource hnot hm
    have hbare : ∀ n : Nat, ∀ v : Tree Node, (v.modify n (Tree.withChildren [])).label = v.label :=
      Tree.label_modify (Tree.label_withChildren [])
    have hfilled : ∀ v : Tree Node, ((v.withChildren cs).mapTag fun t => t.merge s).label = v.label := fun v => by
      rw [Tree.label_mapTag, Tree.label_withChildren]
    refine ⟨own?_of_find? hfind fun v hv => ?_, childNodes_of_find?_map hfind fun v hv => ?_⟩
    · rw [Tree.own_modify (by rwa [hbare, hbare, hv]), Tree.own_modify (by rwa [hbare, hv]), Tree.own_modify (by rwa [hv])]
    · rw [Tree.childLabels_modify (by rwa [hbare, hbare, hv]) hfilled,
        Tree.childLabels_modify (by rwa [hbare, hv]) (Tree.label_withChildren []),
        Tree.childLabels_modify (by rwa [hv]) (Tree.label_withChildren [])]

theorem merged (hf : f.Sound) (htarget : f.find? target = some (.element target t ts))
    (hsource : f.find? source = some (.element source s cs)) (hnot : target ∉ (Tree.element source s cs).labels) :
    Merged f (f.merge target source) target source where
  moved := by
    rw [children_of_find? (hf.find?_merge_target htarget hsource hnot), children_of_find? hsource]
    rfl
  emptied := by
    rw [children_of_find? (hf.find?_merge_source hsource hnot)]
    rfl
  roots := by
    rw [hf.merge_eq hsource hnot, Forest.setTag, roots_update (Tree.label_mapTag _), roots_update (Tree.label_withChildren _),
      roots_update (Tree.label_withChildren _), hf.roots_clear]
  own k hk := by
    by_cases hks : k = source
    · rw [hks, own?, own?, hf.find?_merge_source hsource hnot, hsource]
      rfl
    · exact (hf.merge_other htarget hsource hnot hk hks).1
  childNodes k hk hks := (hf.merge_other htarget hsource hnot hk hks).2
  apart k v hv hout houts := by
    by_cases hm : k ∈ cs.flatMap Tree.labels
    · rw [hf.find?_merge_moved hsource hnot htarget hm, hv]
    · rw [hf.find?_merge hsource hnot hm, hv, Option.map_some, Tree.modify_of_not_mem hout, Tree.modify_of_not_mem houts,
        Tree.modify_of_not_mem hout]

end Two

lemma mergeApart_merged (hf : f.Sound) (ht : f.tag? target = some t) (hs : f.tag? source = some s)
    (hout : f.within source target = false) : (f.merge target source).Sound ∧
      Merged f (f.merge target source) target source ∧ (f.merge target source).tag? target = some (t.merge s) := by
  obtain ⟨ts, htarget⟩ := tag?_eq_some_iff.mp ht
  obtain ⟨cs, hsource⟩ := tag?_eq_some_iff.mp hs
  have hnot := not_mem_of_not_within hsource hout
  exact ⟨hf.merge target source, hf.merged htarget hsource hnot,
    tag?_eq_some_iff.mpr ⟨cs, hf.find?_merge_target htarget hsource hnot⟩⟩

end Sound

lemma Merged.not_within (hf : f.Sound) (hg : g.Sound) (h : Merged f g target source) (ht : (f.tag? target).isSome)
    (hout : f.within source target = false) (hother : f.within other target = false) :
    g.within other target = false := by
  rw [← Bool.not_eq_true] at hout hother ⊢
  refine fun hw => hother (hg.climb (P := fun n => f.within n target = true) hw ?_ fun p c hc habove => ?_)
  · obtain ⟨t, ht⟩ := Option.isSome_iff_exists.mp ht
    obtain ⟨ts, htarget⟩ := tag?_eq_some_iff.mp ht
    exact within_self htarget
  · by_cases hp : p = target
    · subst hp
      have hmoved : g.childNodes p = f.childNodes source := congrArg (List.map Tree.label) h.moved
      rw [hmoved] at hc
      exact absurd (hf.within_trans (hf.within_of_childNodes hc) habove) hout
    · by_cases hps : p = source
      · subst hps
        have hempty : g.childNodes p = [] := congrArg (List.map Tree.label) h.emptied
        rw [hempty] at hc
        exact absurd hc List.not_mem_nil
      · rw [h.childNodes p hp hps] at hc
        exact hf.within_trans (hf.within_of_childNodes hc) habove

theorem mergeApart_merges (hf : f.Sound) (ht : f.tag? target = some t) (hs : f.tag? source = some s)
    (hnames : s.names.Nodup) (hout : f.within source target = false) :
    ∃ g m, f.mergeApart target source = (.ok (), g) ∧ Merged f g target source ∧ g.tag? target = some m ∧
      t.Combines s m ∧ ∀ other u, f.tag? other = some u → u.names.Nodup → f.within other target = false →
        ∃ h n, g.mergeApart target other = (.ok (), h) ∧ Merged g h target other ∧ h.tag? target = some n ∧
          m.Combines u n ∧ n.classes = (t.classes ++ s.classes ++ u.classes).eraseDups := by
  obtain ⟨hsound, hmerged, htag⟩ := hf.mergeApart_merged ht hs hout
  have hcombines := Tag.combines_merge (t := t) hnames
  refine ⟨_, _, mergeApart_eq hout, hmerged, htag, hcombines, fun other u hu hunames hother => ?_⟩
  have hout' := hmerged.not_within hf hsound (ht ▸ rfl) hout hother
  have hne : other ≠ target := by
    rintro rfl
    obtain ⟨us, hfound⟩ := tag?_eq_some_iff.mp hu
    exact absurd (within_self hfound) (Bool.eq_false_iff.mp hother)
  have hu' : (f.merge target source).tag? other = some u := by
    rw [← own?_eq_inr_iff, hmerged.own other hne, own?_eq_inr_iff, hu]
  obtain ⟨_, hmerged', htag'⟩ := hsound.mergeApart_merged htag hu' hout'
  have hcombines' := Tag.combines_merge (t := t.merge s) hunames
  refine ⟨_, _, mergeApart_eq hout', hmerged', htag', hcombines', ?_⟩
  rw [hcombines'.classes, hcombines.classes, eraseDups_append_eraseDups]

def desk : Forest where
  trees := [
    .element 0 { name := "div", attributes := [("class", .text " card  wide card"), ("id", .text "a")] }
      [.leaf 1 (.text "old"), .element 2 { name := "section", attributes :=
        [("title", .text "t"), ("class", .tokens ["wide", "new"]), ("id", .text "b")] } [.leaf 3 (.text "new")]],
    .element 4 { name := "p", attributes := [("class", .text "new last")] } []]
  next := 5

/-- The section goes into the card that it stands in, and the banner after it. -/
theorem desk_merges : ∃ g m h n, desk.mergeApart 0 2 = (.ok (), g) ∧ Merged desk g 0 2 ∧ g.tag? 0 = some m ∧
    m.names = ["class", "id", "title"] ∧ m.classes = ["card", "wide", "new"] ∧
    g.mergeApart 0 4 = (.ok (), h) ∧ Merged g h 0 4 ∧ h.tag? 0 = some n ∧ n.classes = ["card", "wide", "new", "last"] := by
  have hsound : desk.Sound := ⟨by decide, by decide⟩
  obtain ⟨g, m, hmerge, hmerged, htag, hcombines, hnext⟩ :=
    mergeApart_merges hsound (show desk.tag? 0 = some _ from rfl) (show desk.tag? 2 = some _ from rfl) (by decide) rfl
  obtain ⟨h, n, hmerge', hmerged', htag', _, hclasses⟩ := hnext 4 _ rfl (by decide) rfl
  refine ⟨g, m, h, n, hmerge, hmerged, htag, ?_, ?_, hmerge', hmerged', htag', ?_⟩
  · rw [hcombines.names]
    decide
  · rw [hcombines.classes]
    decide
  · rw [hclasses]
    decide

end Forest

end PageStencil.Markup
