import PageStencil.Fault
import PageStencil.Json.Print
import PageStencil.Menu.Basic

/-!
Answers of the service. What is told of a request's mistakes repeats its input, and so there is no answer if that has
numbers that are not finite or surrogates; fields that look like internal ones are not repeated. Nor is there an answer
with a menu that is too deep.
-/

namespace PageStencil.Service

open Form

structure Response where
  status : Nat
  content : Option Json
  deriving Inhabited

namespace Response

def json : Response → Except Fault Json
  | ⟨_, some v⟩ => .ok v
  | ⟨_, none⟩ => .error .noContent

def detail (status : Nat) (v : Json) : Response := ⟨status, some (.object [("detail", v)])⟩

def notFound : Response := detail 404 (.text "Not Found")
def notAllowed : Response := detail 405 (.text "Method Not Allowed")
def unreadable : Response := detail 400 (.text "There was an error parsing the body")
def healthy : Response := ⟨200, some (.object [("status", .text "ok")])⟩

def redirection : Response := ⟨307, none⟩

def badOutline (f : Outline.Fault) : Response :=
  detail 400 (.object [("error", .text f.message), ("line_number", Json.ofOption .integer f.number)])

def levelLimit : Nat := 255

def menu (m : Menu) : Except Fault Response :=
  if m.toJson.levels ≤ levelLimit then .ok ⟨200, some (.object [("menu", m.toJson)])⟩
  else .error (.unserializable .tooDeep)

def html (standIns : Text.StandIns) (s : String) : Except Fault Response :=
  match Text.surrogateRun? standIns s with
  | some run => .error (.unserializable (.surrogates run))
  | none => .ok ⟨200, some (.object [("html", .text s)])⟩

def internalMark : List Char := ['_', 's', 'a']

def isInternal (name : String) : Bool := internalMark.isPrefixOf name.toList

mutual

def repeated : Json → Json
  | .list vs => .list (repeatedAll vs)
  | .object fs => .object (repeatedFields fs)
  | v => v

def repeatedAll : List Json → List Json
  | [] => []
  | v :: vs => repeated v :: repeatedAll vs

def repeatedFields : List (String × Json) → List (String × Json)
  | [] => []
  | (name, v) :: fs => if isInternal name then repeatedFields fs else (name, repeated v) :: repeatedFields fs

end

def stepJson : Step → Json
  | .field name => .text name
  | .index i => .integer i

def objectionJson (o : Objection) : Json :=
  let context := if o.complaint.context.isEmpty then [] else [("ctx", .object o.complaint.context)]
  .object ([("type", .text o.complaint.kind), ("loc", .list (o.place.map stepJson)), ("msg", .text o.complaint.message),
    ("input", repeated o.input)] ++ context)

def encodable (standIns : Text.StandIns) (status : Nat) (v : Json) : Except Fault Response :=
  if v.isFinite then
    match Text.surrogateRun? standIns v.packedPlain with
    | some run => .error (.unencodable run)
    | none => .ok ⟨status, some v⟩
  else .error .notCompliant

def refusal (standIns : Text.StandIns) (objections : List Objection) : Except Fault Response :=
  encodable standIns 422 (.object [("detail", .list (objections.map objectionJson))])

end Response

end PageStencil.Service
