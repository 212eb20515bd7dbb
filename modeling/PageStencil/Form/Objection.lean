import PageStencil.Json.Value

/-!
What a form has to say against its input: a place in the input, a complaint, and what stands at the place. All
objections are collected, in the order in which the form declares its fields.
-/

namespace PageStencil.Form

inductive Step
  | field (name : String)
  | index (i : Nat)
  deriving DecidableEq, Repr

inductive Complaint
  | missing
  | notText
  | notUnicode
  | tooLong (limit : Int)
  | refused (reason : String)
  | notBool
  | unreadableBool
  | notList
  | notObject
  | unknownField
  | notJson
  deriving DecidableEq, Repr

def Complaint.kind : Complaint → String
  | missing => "missing"
  | notText => "string_type"
  | notUnicode => "string_unicode"
  | tooLong _ => "string_too_long"
  | refused _ => "value_error"
  | notBool => "bool_type"
  | unreadableBool => "bool_parsing"
  | notList => "list_type"
  | notObject => "model_attributes_type"
  | unknownField => "extra_forbidden"
  | notJson => "json_invalid"

def Complaint.message : Complaint → String
  | missing => "Field required"
  | notText => "Input should be a valid string"
  | notUnicode => "Input should be a valid string, unable to parse raw data as a unicode string"
  | tooLong limit =>
    "String should have at most " ++ toString limit ++ (if limit = 1 then " character" else " characters")
  | refused reason => "Value error, " ++ reason
  | notBool => "Input should be a valid boolean"
  | unreadableBool => "Input should be a valid boolean, unable to interpret input"
  | notList => "Input should be a valid list"
  | notObject => "Input should be a valid dictionary or object to extract fields from"
  | unknownField => "Extra inputs are not permitted"
  | notJson => "JSON decode error"

def Complaint.context : Complaint → List (String × Json)
  | tooLong limit => [("max_length", .integer limit)]
  | refused _ => [("error", .object [])]
  | _ => []

/-- A missing field is told with the object that lacks it. -/
structure Objection where
  place : List Step
  complaint : Complaint
  input : Json

def Objection.under (step : Step) (o : Objection) : Objection := { o with place := step :: o.place }

inductive Checked (α : Type)
  | accepted (a : α)
  | refused (objections : List Objection)

namespace Checked

variable {α β : Type}

def object (complaint : Complaint) (input : Json) : Checked α := refused [⟨[], complaint, input⟩]

def map (f : α → β) : Checked α → Checked β
  | accepted a => accepted (f a)
  | refused os => refused os

def apply : Checked (α → β) → Checked α → Checked β
  | accepted f, c => c.map f
  | refused os, accepted _ => refused os
  | refused os, refused os' => refused (os ++ os')

instance : Applicative Checked where
  pure := accepted
  map := map
  seq f c := f.apply (c ())

def under (step : Step) : Checked α → Checked α
  | accepted a => accepted a
  | refused os => refused (os.map (Objection.under step))

def all : List (Checked α) → Checked (List α)
  | [] => accepted []
  | c :: cs => List.cons <$> c <*> all cs

end Checked

end PageStencil.Form
