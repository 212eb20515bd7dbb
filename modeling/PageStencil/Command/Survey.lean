import PageStencil.Command.Arguments
import PageStencil.Stencil.Marker
import PageStencil.Stencil.Template

/-!
A survey of a template: which markers, tags and classes it has, and how often. A marker that more than one node has is
flagged, since a strict lookup of it fails.
-/

namespace PageStencil

open Markup

def countName (counts : List (String × Nat)) (name : String) : List (String × Nat) :=
  match counts with
  | [] => [(name, 1)]
  | (n, k) :: rest => if n = name then (n, k + 1) :: rest else (n, k) :: countName rest name

def countNames (names : List String) : List (String × Nat) := names.foldl countName []

/-- The greater counts first; of equal ones that which appeared first. -/
def tally (names : List String) : List (String × Nat) :=
  (countNames names).mergeSort fun a b => b.2 ≤ a.2

structure Survey where
  markers : List (String × Nat)
  tags : List (String × Nat)
  classes : List (String × Nat)
  deriving DecidableEq, Repr

namespace Survey

variable {α : Type}

def tagsOf (t : Markup.Tree α) : List Tag := (t.elements.map (·.2)).filter fun t => t.name != Document.name

def classEntries (t : Tag) : List String :=
  match t.get? "class" with
  | some (.tokens ts) => ts
  | some v => v.plain.toList.map String.singleton
  | none => []

def ofTree (markerName : String) (t : Markup.Tree α) : Survey :=
  let tags := tagsOf t
  ⟨tally (tags.flatMap (Stencil.markers markerName)), tally (tags.map Tag.name), tally (tags.flatMap classEntries)⟩

def countLine (e : String × Nat) : String := e.1 ++ ": " ++ toString e.2 ++ "\n"

def markerLine (e : String × Nat) : String :=
  e.1 ++ ": " ++ toString e.2 ++ (if e.2 = 1 then "" else "  (not unique: strict lookup fails)") ++ "\n"

def text (s : Survey) (markersOnly : Bool) : String :=
  "Markers:\n" ++ String.join (s.markers.map markerLine) ++
    if markersOnly then ""
    else "\nTags:\n" ++ String.join (s.tags.map countLine) ++ "\nClasses:\n" ++ String.join (s.classes.map countLine)

end Survey

namespace Command

structure SurveyOrder where
  name : Option String := none
  file : Option String := none
  markersOnly : Bool := false
  deriving DecidableEq, Repr

def surveyForms : List OptionForm := [⟨"--name", .value⟩, ⟨"--file", .value⟩, ⟨"--markers-only", .flag⟩]

def nonEmpty? (s : Option String) : Option String := s.filter fun s => !s.isEmpty

def SurveyOrder.read (words : List String) : Except Stop SurveyOrder := do
  let a ← readArguments surveyForms .nothing words
  let order : SurveyOrder := ⟨nonEmpty? (a.value? "--name"), nonEmpty? (a.value? "--file"), a.has "--markers-only"⟩
  if a.excess || order.name.isNone && order.file.isNone then throw .usage
  return order

def readMarkup (readFile : Storage.Path → Except Storage.Absence ByteArray) (file : String) :
    Except Fault (Markup.Tree Unit) :=
  let path := Storage.Path.ofText file
  match readFile path with
  | .error .missing => .error (.noMarkupFile path.text)
  | .error .tooLong => .error (.nameTooLong path.text)
  | .ok content => do
    let text ← (Storage.decodeText content).mapError .undecodable
    (Document.read .asWritten text.toList).mapError .rejected

def SurveyOrder.run (o : SurveyOrder) (readFile : Storage.Path → Except Storage.Absence ByteArray) (markerName : String)
    (source : Stencil.Source) : Except Fault String := do
  let tree ← match o.name with
    | some name => source.readRoot name
    | none => readMarkup readFile (o.file.getD "")
  return (Survey.ofTree markerName tree).text o.markersOnly

end Command

end PageStencil
