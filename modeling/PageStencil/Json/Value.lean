import PageStencil.Number.Double

/-!
JSON values. The fields of an object stand in the order in which their names first came. A number that is written with
a fraction or an exponent is one of double precision.
-/

namespace PageStencil

inductive Json
  | null
  | bool (b : Bool)
  | integer (n : Int)
  | real (x : Double)
  | text (s : String)
  | list (items : List Json)
  | object (fields : List (String × Json))
  deriving Inhabited

namespace Json

def field? (name : String) : Json → Option Json
  | object fields => fields.lookup name
  | _ => none

def setField (name : String) (value : Json) : List (String × Json) → List (String × Json)
  | [] => [(name, value)]
  | (n, v) :: rest => if n = name then (name, value) :: rest else (n, v) :: setField name value rest

mutual

def isFinite : Json → Bool
  | real x => x.isFinite
  | list vs => allFinite vs
  | object fs => fieldsFinite fs
  | _ => true

def allFinite : List Json → Bool
  | [] => true
  | v :: vs => isFinite v && allFinite vs

def fieldsFinite : List (String × Json) → Bool
  | [] => true
  | (_, v) :: fs => isFinite v && fieldsFinite fs

end

mutual

/-- How deep a value is, counting it. -/
def levels : Json → Nat
  | list vs => listLevels vs + 1
  | object fs => fieldLevels fs + 1
  | _ => 1

def listLevels : List Json → Nat
  | [] => 0
  | v :: vs => max (levels v) (listLevels vs)

def fieldLevels : List (String × Json) → Nat
  | [] => 0
  | (_, v) :: fs => max (levels v) (fieldLevels fs)

end

def ofOption (encode : α → Json) : Option α → Json
  | none => null
  | some a => encode a

@[simp] theorem lookup_setField (name : String) (value : Json) (fields : List (String × Json)) :
    (setField name value fields).lookup name = some value := by
  induction fields with
  | nil => simp [setField]
  | cons f rest ih =>
    obtain ⟨n, v⟩ := f
    by_cases h : n = name
    · simp [setField, h]
    · simpa [setField, h, List.lookup_cons, beq_eq_false_iff_ne.mpr (Ne.symm h)] using ih

theorem lookup_setField_of_ne {name other : String} (h : other ≠ name) (value : Json)
    (fields : List (String × Json)) : (setField name value fields).lookup other = fields.lookup other := by
  induction fields with
  | nil => simp [setField, List.lookup_cons, beq_eq_false_iff_ne.mpr h]
  | cons f rest ih =>
    obtain ⟨n, v⟩ := f
    by_cases hn : n = name
    · subst hn
      simp [setField, List.lookup_cons, beq_eq_false_iff_ne.mpr h]
    · by_cases ho : other = n
      · simp [setField, hn, ho]
      · simpa [setField, hn, List.lookup_cons, beq_eq_false_iff_ne.mpr ho] using ih

end Json

end PageStencil
