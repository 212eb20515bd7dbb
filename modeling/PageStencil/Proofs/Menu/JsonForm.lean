import PageStencil.Menu.Basic
import PageStencil.Menu.LinkForm
import PageStencil.Proofs.Json.ReadBack
import PageStencil.Proofs.Json.Sameness

/-!
The JSON form of menus. It tells the menus apart, can be read back, and is about twice as deep as the menu is.
-/

namespace PageStencil

lemma Json.fieldLevels_append (fs gs : List (String × Json)) :
    fieldLevels (fs ++ gs) = max (fieldLevels fs) (fieldLevels gs) := by
  induction fs with
  | nil => exact (Nat.zero_max _).symm
  | cons f fs ih =>
    rw [List.cons_append, fieldLevels, fieldLevels, ih]
    omega

lemma Json.fieldLevels_le {fs : List (String × Json)} {n : Nat} (h : ∀ f ∈ fs, f.2.levels ≤ n) : fieldLevels fs ≤ n := by
  induction fs with
  | nil => exact Nat.zero_le n
  | cons f fs ih =>
    obtain ⟨hf, hfs⟩ := List.forall_mem_cons.mp h
    exact Nat.max_le.mpr ⟨hf, ih hfs⟩

lemma Json.eq_of_optional_texts :
    {a b : Option String} → Option.Rel Json.Same (a.map .text) (b.map .text) → a = b
  | none, none, _ => rfl
  | some _, some _, .some h => congrArg some h.text_inj

namespace Link

def shownFields (fields : List (String × Option String)) : List (String × Json) :=
  (fields.filterMap fun (name, value) => value.map (name, ·)).map fun (name, value) => (name, .text value)

lemma shownFields_cons (name : String) (value : Option String) (fields : List (String × Option String)) :
    shownFields ((name, value) :: fields) = (value.map fun s => (name, Json.text s)).toList ++ shownFields fields := by
  cases value <;> rfl

lemma lookup_shownFields {fields : List (String × Option String)} (hnames : (fields.map Prod.fst).Nodup)
    (name : String) : (shownFields fields).lookup name = (fields.lookup name).join.map .text := by
  induction fields with
  | nil => rfl
  | cons f fields ih =>
    obtain ⟨other, value⟩ := f
    obtain ⟨hnew, hnames⟩ := List.nodup_cons.mp hnames
    rw [shownFields_cons, List.lookup_append, ih hnames]
    by_cases h : name = other
    · subst h
      have hnone : fields.lookup name = none := by
        refine List.lookup_eq_none_iff.mpr fun f hf => ?_
        rw [bne_iff_ne]
        intro heq
        have hmem : f.1 ∈ fields.map Prod.fst := List.mem_map_of_mem hf
        exact hnew (heq ▸ hmem)
      rw [hnone, List.lookup_cons_self]
      cases value <;> simp
    · have hne : (name == other) = false := beq_false_of_ne h
      rw [List.lookup_cons, hne]
      cases value <;> simp [List.lookup_cons, hne]

lemma nodup_fields (l : Link) : (l.fields.map Prod.fst).Nodup := show fieldNames.Nodup by decide

lemma field?_toJson (l : Link) (name : String) : l.toJson.field? name = (l.fields.lookup name).join.map .text :=
  lookup_shownFields l.nodup_fields name

theorem eq_of_same {l l' : Link} (h : Json.Same l.toJson l'.toJson) : l = l' := by
  have hfield : ∀ name, (l.fields.lookup name).join = (l'.fields.lookup name).join := by
    intro name
    have hname := h.field? name
    rw [field?_toJson, field?_toJson] at hname
    exact Json.eq_of_optional_texts hname
  obtain ⟨text, href, icon, cssClass, id, rel, target⟩ := l
  obtain ⟨text', href', icon', cssClass', id', rel', target'⟩ := l'
  rw [mk.injEq]
  exact ⟨hfield "text", hfield "href", hfield "icon", hfield "css_class", hfield "id", hfield "rel", hfield "target"⟩

lemma eq_of_same_option :
    {l l' : Option Link} → Json.Same (Json.ofOption toJson l) (Json.ofOption toJson l') → l = l'
  | none, none, _ => rfl
  | some _, some _, h => congrArg some (eq_of_same h)

lemma names_shownFields (fields : List (String × Option String)) :
    (shownFields fields).map Prod.fst = (fields.filter fun f => f.2.isSome).map Prod.fst := by
  induction fields with
  | nil => rfl
  | cons f fields ih =>
    obtain ⟨name, value⟩ := f
    rw [shownFields_cons, List.map_append, ih]
    cases value <;> rfl

lemma mem_shownFields {fields : List (String × Option String)} {f : String × Json} (h : f ∈ shownFields fields) :
    ∃ s, f.2 = .text s ∧ (f.1, some s) ∈ fields := by
  obtain ⟨⟨name, s⟩, hgiven, rfl⟩ := List.mem_map.mp h
  obtain ⟨⟨other, value⟩, hmem, heq⟩ := List.mem_filterMap.mp hgiven
  obtain ⟨_, rfl, hsame⟩ := Option.map_eq_some_iff.mp heq
  cases hsame
  exact ⟨_, rfl, hmem⟩

lemma worded_toJson (l : Link) : l.toJson.Worded := by
  refine .object ?_ fun f hf => ?_
  · change ((shownFields l.fields).map Prod.fst).Nodup
    rw [names_shownFields]
    exact l.nodup_fields.sublist (List.filter_sublist.map _)
  · obtain ⟨s, hs, -⟩ := mem_shownFields hf
    rw [hs]
    exact .text

lemma levels_toJson (l : Link) : 1 ≤ l.toJson.levels ∧ l.toJson.levels ≤ 2 := by
  have htexts : ∀ f ∈ shownFields l.fields, f.2.levels = 1 := by
    intro f hf
    obtain ⟨s, hs, -⟩ := mem_shownFields hf
    rw [hs]
    rfl
  rw [show l.toJson = .object (shownFields l.fields) from rfl, Json.levels]
  have hle := Json.fieldLevels_le fun f hf => Nat.le_of_eq (htexts f hf)
  omega

end Link

namespace Menu

variable {m m' : Menu}

lemma field?_label (m : Menu) : m.toJson.field? "label" = some (Json.ofOption Link.toJson m.label) := by
  cases m <;> rfl

lemma field?_cssClass (m : Menu) : m.toJson.field? "css_class" = m.cssClass.map .text := by
  cases m with
  | item l c => cases c <;> rfl
  | group l c es => cases c <;> rfl

lemma field?_children (m : Menu) :
    m.toJson.field? "children" = if m.isLeaf then none else some (.list (m.entries.map toJson)) := by
  cases m with
  | item l c => cases c <;> rfl
  | group l c es =>
    rw [← entriesToJson_eq_map]
    cases c <;> rfl

lemma label_eq_of_same (h : Json.Same m.toJson m'.toJson) : m.label = m'.label := by
  have hlabel := h.field? "label"
  rw [field?_label, field?_label] at hlabel
  cases hlabel with
  | some hsame => exact Link.eq_of_same_option hsame

lemma cssClass_eq_of_same (h : Json.Same m.toJson m'.toJson) : m.cssClass = m'.cssClass := by
  have hclass := h.field? "css_class"
  rw [field?_cssClass, field?_cssClass] at hclass
  exact Json.eq_of_optional_texts hclass

mutual

theorem eq_of_same : (m m' : Menu) → Json.Same m.toJson m'.toJson → m = m'
  | .item l c, .item l' c', h => by
    rw [show l = l' from label_eq_of_same h, show c = c' from cssClass_eq_of_same h]
  | .item l c, .group l' c' es', h => by
    have hchildren := h.field? "children"
    rw [field?_children, field?_children] at hchildren
    cases hchildren
  | .group l c es, .item l' c', h => by
    have hchildren := h.field? "children"
    rw [field?_children, field?_children] at hchildren
    cases hchildren
  | .group l c es, .group l' c' es', h => by
    have hchildren := h.field? "children"
    rw [field?_children, field?_children] at hchildren
    cases hchildren with
    | some hsame =>
      rw [show l = l' from label_eq_of_same h, show c = c' from cssClass_eq_of_same h, entries_eq_of_same es es' hsame]

theorem entries_eq_of_same :
    (ms ms' : List Menu) → Json.Same (.list (ms.map toJson)) (.list (ms'.map toJson)) → ms = ms'
  | [], [], _ => rfl
  | [], _ :: _, h => nomatch h.length_eq
  | _ :: _, [], h => nomatch h.length_eq
  | m :: ms, m' :: ms', h => by
    obtain ⟨hm, hms⟩ := h.uncons
    rw [eq_of_same m m' hm, entries_eq_of_same ms ms' hms]

end

theorem same_toJson_iff : Json.Same m.toJson m'.toJson ↔ m = m' := by
  constructor
  · exact eq_of_same m m'
  · rintro rfl
    exact .refl _

def viewFields (m : Menu) : List (String × Json) :=
  head m.label m.cssClass ++ if m.isLeaf then [] else [("children", .list (m.entries.map toJson))]

lemma toJson_eq (m : Menu) : m.toJson = .object m.viewFields := by
  cases m with
  | item l c => exact congrArg Json.object (List.append_nil _).symm
  | group l c es =>
    rw [toJson, entriesToJson_eq_map]
    rfl

lemma names_viewFields (m : Menu) : (m.viewFields.map Prod.fst).Sublist ["label", "css_class", "children"] := by
  rw [viewFields, head]
  cases m.cssClass <;> cases m.isLeaf <;> simp

lemma worded_of_entries (hentries : ∀ v ∈ m.entries.map toJson, v.Worded) : m.toJson.Worded := by
  rw [toJson_eq]
  refine .object (m.names_viewFields.nodup (by decide)) ?_
  refine List.forall_mem_append.mpr ⟨List.forall_mem_cons.mpr ⟨?_, ?_⟩, ?_⟩
  · cases m.label with
    | none => exact .null
    | some l => exact l.worded_toJson
  · cases m.cssClass with
    | none => exact List.forall_mem_nil _
    | some s => exact List.forall_mem_singleton.mpr .text
  · split
    · exact List.forall_mem_nil _
    · exact List.forall_mem_singleton.mpr (.list hentries)

mutual

theorem worded_toJson : (m : Menu) → m.toJson.Worded
  | .item _ _ => worded_of_entries (List.forall_mem_nil _)
  | .group _ _ es => worded_of_entries (entriesToJson_eq_map es ▸ worded_entriesToJson es)

theorem worded_entriesToJson : (ms : List Menu) → ∀ v ∈ entriesToJson ms, v.Worded
  | [] => List.forall_mem_nil _
  | m :: ms => List.forall_mem_cons.mpr ⟨worded_toJson m, worded_entriesToJson ms⟩

end

theorem indented_toJson_inj : m.toJson.indented = m'.toJson.indented ↔ m = m' := by
  constructor
  · intro h
    have hread := Json.parse_indented m.worded_toJson (fun _ => Text.replacement) (r := []) rfl
    rw [h, Json.parse_indented m'.worded_toJson _ rfl] at hread
    exact same_toJson_iff.mp (Except.ok.inj hread ▸ .refl _)
  · rintro rfl
    rfl

theorem parse_indented_line (m : Menu) : Json.parse (m.toJson.indented ++ "\n").toList = .ok m.toJson := by
  rw [String.toList_append]
  exact Json.parse_indented m.worded_toJson _ rfl

mutual

def nesting : Menu → Nat
  | item _ _ => 0
  | group _ _ es => nestingOf es

def nestingOf : List Menu → Nat
  | [] => 0
  | m :: ms => max (nesting m + 1) (nestingOf ms)

end

lemma levels_head (label : Option Link) (cssClass : Option String) :
    1 ≤ Json.fieldLevels (head label cssClass) ∧ Json.fieldLevels (head label cssClass) ≤ 2 := by
  have hlabel : 1 ≤ (Json.ofOption Link.toJson label).levels ∧ (Json.ofOption Link.toJson label).levels ≤ 2 := by
    cases label with
    | none => exact ⟨Nat.le_refl 1, Nat.le_succ 1⟩
    | some l => exact l.levels_toJson
  cases cssClass <;> simp only [head, Option.map_none, Option.map_some, Option.toList, Json.fieldLevels, Json.levels] <;>
    omega

mutual

theorem levels_toJson : (m : Menu) → 2 * m.nesting + 2 ≤ m.toJson.levels ∧ m.toJson.levels ≤ 2 * m.nesting + 3
  | .item l c => by
    have hhead := levels_head l c
    rw [toJson, Json.levels, nesting]
    omega
  | .group l c es => by
    have hhead := levels_head l c
    have hentries := levels_entriesToJson es
    rw [toJson, Json.levels, Json.fieldLevels_append, nesting]
    simp only [Json.fieldLevels, Json.levels]
    omega

theorem levels_entriesToJson : (ms : List Menu) →
    2 * nestingOf ms ≤ Json.listLevels (entriesToJson ms) ∧ Json.listLevels (entriesToJson ms) ≤ 2 * nestingOf ms + 1
  | [] => ⟨Nat.le_refl 0, Nat.zero_le 1⟩
  | m :: ms => by
    have hm := levels_toJson m
    have hms := levels_entriesToJson ms
    rw [entriesToJson, Json.listLevels, nestingOf]
    omega

end

end Menu

end PageStencil
