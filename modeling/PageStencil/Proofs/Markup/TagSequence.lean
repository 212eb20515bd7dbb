import PageStencil.Proofs.Markup.Written

/-!
The tags in written markup. A reader who knows nothing of the tree takes each `<` in the text for the start of a tag,
which ends at the next `>` that is not in quotes. What it finds in the written form of a tree are the tags of the
elements, whatever stands in their texts and in the values of their attributes.
-/

namespace PageStencil.Markup

open Text

inductive TagMark
  | opening (name : List Char)
  | closing (name : List Char)
  deriving DecidableEq, Repr

/-- A tag that is being read: whether it is an end tag, its name so far, and whether a slash has just been read. -/
structure Unfinished where
  ends : Bool
  name : List Char
  slashed : Bool := false
  deriving DecidableEq, Repr

/-- A tag with a slash at its end is a start tag and the end tag to it. -/
def Unfinished.marks (u : Unfinished) : List TagMark :=
  if u.ends then [.closing u.name]
  else if u.slashed then [.opening u.name, .closing u.name]
  else [.opening u.name]

/-- Where a reader stands: in text, right behind a `<`, in the name of a tag, behind it, or in a quoted value. -/
inductive Spot
  | text
  | start
  | name (u : Unfinished)
  | inside (u : Unfinished)
  | value (u : Unfinished) (quote : Char)
  deriving DecidableEq, Repr

def Spot.next (c : Char) : Spot → Spot × List TagMark
  | text => (if c = '<' then start else text, [])
  | start => (if c = '/' then name ⟨true, [], false⟩ else name ⟨false, [c], false⟩, [])
  | name u =>
    if c = '>' then (text, u.marks)
    else if c = '/' then (inside { u with slashed := true }, [])
    else if isBlank c then (inside u, [])
    else (name { u with name := u.name ++ [c] }, [])
  | inside u =>
    if c = '>' then (text, u.marks)
    else if c = '\x22' ∨ c = '\x27' then (value { u with slashed := false } c, [])
    else (inside { u with slashed := c == '/' }, [])
  | value u quote => (if c = quote then inside u else value u quote, [])

def tagsFrom (spot : Spot) : List Char → List TagMark
  | [] => []
  | c :: s => (spot.next c).2 ++ tagsFrom (spot.next c).1 s

def tagsIn (s : String) : List TagMark := tagsFrom .text s.toList

def isNameChar (c : Char) : Bool := !isBlank c && !(['<', '>', '/', '=', '\x22', '\x27'].contains c)

structure IsName (s : List Char) : Prop where
  nonempty : s ≠ []
  chars : ∀ c ∈ s, isNameChar c = true

instance (s : List Char) : Decidable (IsName s) :=
  decidable_of_iff (s ≠ [] ∧ s.all isNameChar = true)
    ⟨fun ⟨h, h'⟩ => ⟨h, List.all_eq_true.mp h'⟩, fun h => ⟨h.nonempty, List.all_eq_true.mpr h.chars⟩⟩

structure Tag.WellNamed (t : Tag) : Prop where
  space : t.space = ""
  name : IsName t.name.toList
  escapes : holdsRawText t.name = false
  attributes : ∀ a ∈ t.attributes, IsName a.1.toList

instance (t : Tag) : Decidable t.WellNamed :=
  decidable_of_iff
    (t.space = "" ∧ IsName t.name.toList ∧ holdsRawText t.name = false ∧ ∀ a ∈ t.attributes, IsName a.1.toList)
    ⟨fun ⟨hspace, hname, hescapes, h⟩ => ⟨hspace, hname, hescapes, h⟩,
      fun h => ⟨h.space, h.name, h.escapes, h.attributes⟩⟩

inductive Tree.WellNamed {α : Type} : Tree α → Prop
  | leaf {l : α} {s : String} : WellNamed (leaf l (.text s))
  | element {l : α} {t : Tag} {cs : List (Tree α)} : t.WellNamed → (∀ c ∈ cs, WellNamed c) → WellNamed (element l t cs)

namespace Tree

variable {α : Type}

mutual

def marks : Tree α → List TagMark
  | leaf _ _ => []
  | element _ t cs => .opening t.name.toList :: (marksOfAll cs ++ [.closing t.name.toList])

def marksOfAll : List (Tree α) → List TagMark
  | [] => []
  | t :: ts => marks t ++ marksOfAll ts

end

@[simp] lemma marksOfAll_eq (ts : List (Tree α)) : marksOfAll ts = ts.flatMap marks := by
  induction ts with
  | nil => rfl
  | cons t ts ih => rw [marksOfAll, ih, List.flatMap_cons]

@[simp] lemma marks_leaf (l : α) (c : Leaf) : (leaf l c).marks = [] := rfl

@[simp] lemma marks_element (l : α) (t : Tag) (cs : List (Tree α)) :
    (element l t cs).marks = .opening t.name.toList :: (cs.flatMap marks ++ [.closing t.name.toList]) := by
  rw [marks, marksOfAll_eq]

end Tree

section Reading

variable {u : Unfinished} {s r : List Char}

lemma isNameChar_iff {c : Char} : isNameChar c = true ↔
    isBlank c = false ∧ c ≠ '<' ∧ c ≠ '>' ∧ c ≠ '/' ∧ c ≠ '=' ∧ c ≠ '\x22' ∧ c ≠ '\x27' := by
  simp [isNameChar]

lemma tagsFrom_text (h : '<' ∉ s) : tagsFrom .text (s ++ r) = tagsFrom .text r := by
  induction s with
  | nil => rfl
  | cons c s ih =>
    obtain ⟨hc, hs⟩ := not_or.mp (List.mem_cons.not.mp h)
    rw [List.cons_append, tagsFrom, Spot.next, if_neg (Ne.symm hc)]
    exact ih hs

lemma tagsFrom_name (h : ∀ c ∈ s, isNameChar c = true) :
    tagsFrom (.name u) (s ++ r) = tagsFrom (.name { u with name := u.name ++ s }) r := by
  induction s generalizing u with
  | nil => rw [List.append_nil, List.nil_append]
  | cons c s ih =>
    obtain ⟨hc, hs⟩ := List.forall_mem_cons.mp h
    obtain ⟨hblank, _, hend, hslash, _⟩ := isNameChar_iff.mp hc
    rw [List.cons_append, tagsFrom, Spot.next, if_neg hend, if_neg hslash, hblank]
    change tagsFrom (.name { u with name := u.name ++ [c] }) (s ++ r) = _
    rw [ih hs]
    simp only [List.append_assoc, List.singleton_append]

lemma tagsFrom_inside (hu : u.slashed = false) (h : ∀ c ∈ s, isNameChar c = true) :
    tagsFrom (.inside u) (s ++ r) = tagsFrom (.inside u) r := by
  induction s with
  | nil => rfl
  | cons c s ih =>
    obtain ⟨hc, hs⟩ := List.forall_mem_cons.mp h
    obtain ⟨_, _, hend, hslash, _, hdouble, hsingle⟩ := isNameChar_iff.mp hc
    rw [List.cons_append, tagsFrom, Spot.next, if_neg hend, if_neg (not_or.mpr ⟨hdouble, hsingle⟩),
      beq_eq_false_iff_ne.mpr hslash, ← hu]
    exact ih hs

lemma tagsFrom_value {quote : Char} (h : quote ∉ s) :
    tagsFrom (.value u quote) (s ++ quote :: r) = tagsFrom (.inside u) r := by
  induction s with
  | nil =>
    rw [List.nil_append, tagsFrom, Spot.next, if_pos rfl]
    rfl
  | cons c s ih =>
    obtain ⟨hc, hs⟩ := not_or.mp (List.mem_cons.not.mp h)
    rw [List.cons_append, tagsFrom, Spot.next, if_neg (Ne.symm hc)]
    exact ih hs

lemma not_mem_escape {s : List Char} : '<' ∉ escape s := by
  intro h
  obtain ⟨c, _, hc⟩ := List.mem_flatMap.mp h
  rw [escapeChar] at hc
  split_ifs at hc with h₁ h₂ h₃
  · simp at hc
  · simp at hc
  · simp at hc
  · exact h₂ (List.mem_singleton.mp hc).symm

lemma not_mem_escapeQuote {s : List Char} : '\x22' ∉ s.flatMap escapeQuote := by
  intro h
  obtain ⟨c, _, hc⟩ := List.mem_flatMap.mp h
  rw [escapeQuote] at hc
  split_ifs at hc with h₁
  · simp at hc
  · exact h₁ (List.mem_singleton.mp hc).symm

lemma tagsFrom_quoteValue (hu : u.slashed = false) (s : List Char) :
    tagsFrom (.inside u) (quoteValue s ++ r) = tagsFrom (.inside u) r := by
  have hquoted : ∀ (quote : Char) (s : List Char), quote = '\x22' ∨ quote = '\x27' → quote ∉ s →
      tagsFrom (.inside u) (quote :: s ++ [quote] ++ r) = tagsFrom (.inside u) r := by
    intro quote s hquote hs
    have hend : quote ≠ '>' := by rcases hquote with rfl | rfl <;> decide
    have hsame : { u with slashed := false } = u := by rw [← hu]
    rw [List.append_assoc, List.cons_append, List.singleton_append, tagsFrom, Spot.next, if_neg hend, if_pos hquote,
      hsame]
    exact tagsFrom_value hs
  rw [quoteValue]
  split_ifs with hdouble hsingle
  · exact hquoted _ _ (.inl rfl) (by simpa using hdouble)
  · exact hquoted _ _ (.inr rfl) (by simpa using hsingle)
  · exact hquoted _ _ (.inl rfl) not_mem_escapeQuote

lemma tagsFrom_attribute (hu : u.slashed = false) {a : String × Value} (ha : IsName a.1.toList) :
    tagsFrom (.inside u) (attributeMarkup a ++ r) = tagsFrom (.inside u) r := by
  have hblank : tagsFrom (.inside u) (' ' :: (a.1.toList ++ '=' :: (quoteValue (escape a.2.written.toList) ++ r))) =
      tagsFrom (.inside u) (a.1.toList ++ '=' :: (quoteValue (escape a.2.written.toList) ++ r)) := by
    rw [tagsFrom, Spot.next, if_neg (by decide), if_neg (by decide), show (' ' == '/') = u.slashed from hu.symm]
    rfl
  have hequals : ∀ s, tagsFrom (.inside u) ('=' :: s) = tagsFrom (.inside u) s := by
    intro s
    rw [tagsFrom, Spot.next, if_neg (by decide), if_neg (by decide), show ('=' == '/') = u.slashed from hu.symm]
    rfl
  have hmarkup : attributeMarkup a ++ r =
      ' ' :: (a.1.toList ++ '=' :: (quoteValue (escape a.2.written.toList) ++ r)) := by
    simp [attributeMarkup]
  rw [hmarkup, hblank, tagsFrom_inside hu ha.chars, hequals, tagsFrom_quoteValue hu]

lemma tagsFrom_attributes (hu : u.slashed = false) {as : List (String × Value)} (has : ∀ a ∈ as, IsName a.1.toList) :
    tagsFrom (.inside u) (as.flatMap attributeMarkup ++ r) = tagsFrom (.inside u) r := by
  induction as with
  | nil => rfl
  | cons a as ih =>
    obtain ⟨ha, has⟩ := List.forall_mem_cons.mp has
    rw [List.flatMap_cons, List.append_assoc, tagsFrom_attribute hu ha, ih has]

lemma tagsFrom_end {c : Char} (hc : c = '>' ∨ c = '/') :
    tagsFrom (.name u) (c :: r) = tagsFrom (.inside u) (c :: r) := by
  rcases hc with rfl | rfl <;> rfl

lemma tagsFrom_inner {t : Tag} (h : t.WellNamed) {c : Char} (hc : c = '>' ∨ c = '/') :
    tagsFrom .start (t.inner ++ c :: r) = tagsFrom (.inside ⟨false, t.name.toList, false⟩) (c :: r) := by
  have hfull : t.fullName = t.name := by rw [Tag.fullName, h.space]; rfl
  have hattributes : ∀ a ∈ sortByName t.attributes, IsName a.1.toList := fun a ha => h.attributes a (mem_sortByName ha)
  obtain ⟨x, xs, hx⟩ := List.exists_cons_of_ne_nil h.name.nonempty
  obtain ⟨hx', hxs⟩ := List.forall_mem_cons.mp (hx ▸ h.name.chars)
  have hname : ∀ s, tagsFrom .start (t.name.toList ++ s) = tagsFrom (.name ⟨false, t.name.toList, false⟩) s := by
    intro s
    have hslash := (isNameChar_iff.mp hx').2.2.2.1
    rw [hx, List.cons_append, tagsFrom, Spot.next, if_neg hslash]
    exact tagsFrom_name hxs
  rw [Tag.inner, hfull, List.append_assoc, hname]
  cases hsorted : sortByName t.attributes with
  | nil => exact tagsFrom_end hc
  | cons a as =>
    have hbehind : ∀ s, tagsFrom (.name ⟨false, t.name.toList, false⟩) (' ' :: s) =
        tagsFrom (.inside ⟨false, t.name.toList, false⟩) (' ' :: s) := fun _ => rfl
    rw [← tagsFrom_attributes rfl hattributes, hsorted]
    exact hbehind _

end Reading

section Writing

variable {α : Type} {r : List Char}

lemma tagsFrom_opening {t : Tag} (h : t.WellNamed) :
    tagsFrom .text ((Event.opening t).markup ++ r) = .opening t.name.toList :: tagsFrom .text r := by
  have hmarkup : (Event.opening t).markup ++ r = '<' :: (t.inner ++ '>' :: r) := by simp [Event.markup]
  rw [hmarkup]
  exact tagsFrom_inner h (.inl rfl)

lemma tagsFrom_lone {t : Tag} (h : t.WellNamed) : tagsFrom .text ((Event.lone t).markup ++ r) =
    .opening t.name.toList :: .closing t.name.toList :: tagsFrom .text r := by
  have hmarkup : (Event.lone t).markup ++ r = '<' :: (t.inner ++ '/' :: '>' :: r) := by simp [Event.markup]
  rw [hmarkup]
  exact tagsFrom_inner h (.inr rfl)

lemma tagsFrom_closing {name : String} (h : IsName name.toList) :
    tagsFrom .text ((Event.closing name).markup ++ r) = .closing name.toList :: tagsFrom .text r := by
  have hmarkup : (Event.closing name).markup ++ r = '<' :: '/' :: (name.toList ++ '>' :: r) := by simp [Event.markup]
  have hname : tagsFrom (.name ⟨true, [], false⟩) (name.toList ++ '>' :: r) =
      tagsFrom (.name ⟨true, name.toList, false⟩) ('>' :: r) := tagsFrom_name h.chars
  rw [hmarkup]
  exact hname

def Tree.ReadsBack (xml : Bool) (parent : String) (t : Tree α) : Prop :=
  ∀ r, tagsFrom .text ((t.eventsBelow xml parent).flatMap Event.markup ++ r) = t.marks ++ tagsFrom .text r

lemma tagsFrom_trees {xml : Bool} {parent : String} {ts : List (Tree α)} (h : ∀ t ∈ ts, t.ReadsBack xml parent)
    (r : List Char) : tagsFrom .text ((ts.flatMap (Tree.eventsBelow xml parent)).flatMap Event.markup ++ r) =
      ts.flatMap Tree.marks ++ tagsFrom .text r := by
  induction ts with
  | nil => rfl
  | cons t ts ih =>
    obtain ⟨ht, hts⟩ := List.forall_mem_cons.mp h
    rw [List.flatMap_cons, List.flatMap_append, List.append_assoc, ht, ih hts, List.flatMap_cons, List.append_assoc]

lemma Tree.WellNamed.readsBack {t : Tree α} (h : t.WellNamed) (xml : Bool) {parent : String}
    (hp : holdsRawText parent = false) : t.ReadsBack xml parent := by
  induction h generalizing parent with
  | @leaf l s =>
    intro r
    have hevent : Leaf.event xml parent (.text s) = .text s := by rw [Leaf.event, hp, Bool.and_false]; rfl
    rw [eventsBelow, hevent, List.flatMap_singleton]
    exact tagsFrom_text not_mem_escape
  | @element l t cs ht _ ih =>
    intro r
    have hfull : t.fullName = t.name := by rw [Tag.fullName, ht.space]; rfl
    rw [eventsBelow, eventsOfAll_eq, marks_element, hfull]
    split_ifs with halone
    · have hnone : cs = [] := List.isEmpty_iff.mp (Bool.and_eq_true_iff.mp halone).1
      rw [hnone, List.flatMap_singleton]
      exact tagsFrom_lone ht
    · rw [List.flatMap_cons, List.flatMap_append, List.flatMap_singleton, List.append_assoc, tagsFrom_opening ht,
        List.append_assoc, tagsFrom_trees fun c hc => ih c hc ht.escapes, tagsFrom_closing ht.name]
      simp

theorem tagsIn_html {t : Tree α} (h : t.WellNamed) : tagsIn t.html = t.marks := by
  have hraw : holdsRawText "" = false := by decide
  have htree := h.readsBack (t.tag?.any Tag.isXml) hraw []
  rw [List.append_nil] at htree
  rw [tagsIn, Tree.html, String.toList_ofList, Tree.events, htree]
  exact List.append_nil _

example : tagsIn "<a title=\"<b>\">&lt;i><br/></a>" =
    [.opening ['a'], .opening ['b', 'r'], .closing ['b', 'r'], .closing ['a']] := by
  decide +kernel

end Writing

lemma mem_putAttribute {name : String} {value : Value} {as : List (String × Value)} {a : String × Value}
    (ha : a ∈ putAttribute name value as) : a = (name, value) ∨ a ∈ as := by
  induction as with
  | nil => exact .inl (List.mem_singleton.mp ha)
  | cons b bs ih =>
    rw [putAttribute] at ha
    split at ha
    · rcases List.mem_cons.mp ha with rfl | ha
      · exact .inl rfl
      · exact .inr (List.mem_cons_of_mem b ha)
    · rcases List.mem_cons.mp ha with rfl | ha
      · exact .inr List.mem_cons_self
      · exact (ih ha).imp_right (List.mem_cons_of_mem b)

namespace Tag.WellNamed

variable {t u : Tag} {name : String}

lemma set (h : t.WellNamed) (hname : IsName name.toList) (v : Value) : (t.set name v).WellNamed where
  space := h.space
  name := h.name
  escapes := h.escapes
  attributes a ha := by
    rcases mem_putAttribute ha with rfl | ha
    · exact hname
    · exact h.attributes a ha

lemma setText? (h : t.WellNamed) (hname : IsName name.toList) (s : Option String) : (t.setText? name s).WellNamed := by
  cases s with
  | none => exact h
  | some v => exact h.set hname _

lemma remove (h : t.WellNamed) (name : String) : (t.remove name).WellNamed :=
  ⟨h.space, h.name, h.escapes, fun a ha => h.attributes a (List.mem_filter.mp ha).1⟩

lemma setClasses (h : t.WellNamed) (classes : List String) : (t.setClasses classes).WellNamed :=
  h.set (by decide +kernel) _

lemma addTokens (h : t.WellNamed) (tokens : List String) : (t.addTokens tokens).WellNamed := by
  rw [Tag.addTokens]
  split_ifs
  · exact h
  · exact h.setClasses _

lemma addClasses (h : t.WellNamed) (names : ClassNames) : (t.addClasses names).WellNamed := h.addTokens _

lemma removeClass (h : t.WellNamed) (token : String) : (t.removeClass token).WellNamed := by
  rw [Tag.removeClass]
  split_ifs
  · split
    · exact h.remove _
    · exact h.setClasses _
  · exact h

lemma merge (h : t.WellNamed) (hu : u.WellNamed) : (t.merge u).WellNamed := by
  have htaken : (u.attributes.foldl take t).WellNamed := by
    have hall := hu.attributes
    generalize u.attributes = as at hall
    induction as generalizing t with
    | nil => exact h
    | cons a as ih =>
      obtain ⟨hname, hrest⟩ := List.forall_mem_cons.mp hall
      refine ih ?_ hrest
      rw [take]
      split_ifs
      · exact h.addTokens _
      · exact h.set hname _
  rw [Tag.merge]
  split_ifs
  · exact htaken.setClasses _
  · exact htaken

end Tag.WellNamed

namespace Tree

variable {α : Type} {change : Tag → Tag}

@[simp] lemma wellNamed_text (l : α) (s : String) : (leaf l (.text s)).WellNamed := .leaf

@[simp] lemma wellNamed_element {l : α} {t : Tag} {cs : List (Tree α)} :
    (element l t cs).WellNamed ↔ t.WellNamed ∧ ∀ c ∈ cs, c.WellNamed := by
  constructor
  · rintro ⟨⟩
    exact ⟨‹_›, ‹_›⟩
  · rintro ⟨ht, hcs⟩
    exact .element ht hcs

lemma marks_mapTags (hname : ∀ t : Tag, (change t).name = t.name) (t : Tree α) :
    (t.mapTags change).marks = t.marks := by
  induction t using ind with
  | hleaf l c => rfl
  | helement l t cs ih =>
    rw [mapTags, mapTagsOfAll_eq, marks_element, marks_element, hname, List.flatMap_map, List.flatMap_congr ih]

lemma WellNamed.mapTags (hchange : ∀ t : Tag, t.WellNamed → (change t).WellNamed) {t : Tree α} (h : t.WellNamed) :
    (t.mapTags change).WellNamed := by
  induction h with
  | leaf => exact .leaf
  | element htag _ ih =>
    rw [Tree.mapTags, mapTagsOfAll_eq]
    exact .element (hchange _ htag) (List.forall_mem_map.mpr ih)

end Tree

end PageStencil.Markup
