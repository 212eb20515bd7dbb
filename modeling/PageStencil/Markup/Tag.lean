import PageStencil.Markup.Encoding

/-!
Tags: the name of an element and its attributes. A value is a text or a list of tokens. Attributes keep the order
in which their names came; a new value for a name stays at the old place. Tags of XML have rules of their own.
-/

namespace PageStencil.Markup

/-- The value of an attribute. In tags that tell the encoding of the document, `charset` is a text that names one, and
`contentType` a text that may name one among other things. -/
inductive Value
  | text (s : String)
  | tokens (ts : List String)
  | charset (s : String)
  | contentType (s : String)
  deriving DecidableEq, Inhabited, Repr

structure Tag where
  name : String
  attributes : List (String × Value) := []
  space : String := ""
  isXml : Bool := false
  deriving DecidableEq, Inhabited, Repr

namespace Value

def plain : Value → String
  | text s | charset s | contentType s => s
  | tokens ts => " ".intercalate ts

def written : Value → String
  | text s => s
  | tokens ts => " ".intercalate ts
  | charset _ => encodingName
  | contentType s => renameEncoding s

end Value

def putAttribute (name : String) (value : Value) : List (String × Value) → List (String × Value)
  | [] => [(name, value)]
  | (n, v) :: rest => if n = name then (name, value) :: rest else (n, v) :: putAttribute name value rest

namespace Tag

def fullName (t : Tag) : String := if t.space.isEmpty then t.name else t.space ++ ":" ++ t.name

def get? (t : Tag) (name : String) : Option Value := t.attributes.lookup name

def has (t : Tag) (name : String) : Bool := (t.get? name).isSome

def set (t : Tag) (name : String) (value : Value) : Tag :=
  { t with attributes := putAttribute name value t.attributes }

def setText? (t : Tag) (name : String) : Option String → Tag
  | none => t
  | some s => t.set name (.text s)

def remove (t : Tag) (name : String) : Tag :=
  { t with attributes := t.attributes.filter fun a => a.1 != name }

end Tag

theorem lookup_putAttribute (name : String) (value : Value) (as : List (String × Value)) :
    (putAttribute name value as).lookup name = some value := by
  induction as with
  | nil => simp [putAttribute]
  | cons a as ih =>
    obtain ⟨n, v⟩ := a
    by_cases h : n = name
    · simp [putAttribute, h]
    · simpa [putAttribute, h, List.lookup_cons, beq_eq_false_iff_ne.mpr (Ne.symm h)] using ih

theorem lookup_putAttribute_of_ne {name other : String} (h : other ≠ name) (value : Value)
    (as : List (String × Value)) : (putAttribute name value as).lookup other = as.lookup other := by
  induction as with
  | nil => simp [putAttribute, List.lookup_cons, beq_eq_false_iff_ne.mpr h]
  | cons a as ih =>
    obtain ⟨n, v⟩ := a
    by_cases hn : n = name
    · subst hn
      simp [putAttribute, List.lookup_cons, beq_eq_false_iff_ne.mpr h]
    · by_cases ho : other = n
      · simp [putAttribute, hn, ho]
      · simpa [putAttribute, hn, List.lookup_cons, beq_eq_false_iff_ne.mpr ho] using ih

theorem lookup_filter_ne (name other : String) (as : List (String × Value)) :
    (as.filter fun a => a.1 != name).lookup other = if other = name then none else as.lookup other := by
  induction as with
  | nil => simp
  | cons a as ih =>
    obtain ⟨n, v⟩ := a
    by_cases hn : n = name
    · subst hn
      by_cases ho : other = n
      · simpa [ho] using ih
      · simpa [ho, List.lookup_cons, beq_eq_false_iff_ne.mpr ho] using ih
    · by_cases ho : other = n
      · subst ho
        simp [hn]
      · simpa [hn, List.lookup_cons, beq_eq_false_iff_ne.mpr ho] using ih

namespace Tag

@[simp] theorem get?_set (t : Tag) (name : String) (value : Value) :
    (t.set name value).get? name = some value :=
  lookup_putAttribute name value t.attributes

theorem get?_set_of_ne (t : Tag) {name other : String} (h : other ≠ name) (value : Value) :
    (t.set name value).get? other = t.get? other :=
  lookup_putAttribute_of_ne h value t.attributes

@[simp] theorem get?_remove (t : Tag) (name other : String) :
    (t.remove name).get? other = if other = name then none else t.get? other :=
  lookup_filter_ne name other t.attributes

@[simp] theorem name_set (t : Tag) (name : String) (value : Value) : (t.set name value).name = t.name := rfl

@[simp] theorem name_remove (t : Tag) (name : String) : (t.remove name).name = t.name := rfl

end Tag

end PageStencil.Markup
