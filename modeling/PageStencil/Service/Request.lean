import PageStencil.Fault
import PageStencil.Json.Print
import PageStencil.Text.LowerCase
import PageStencil.Text.UpperCase

/-!
Requests to the service, as they arrive. The verb is in upper case and the path decoded. Content is read as JSON only if
its type says that it is JSON. A JSON value is sent in UTF-8 and without blanks, and null as no content.
-/

namespace PageStencil.Service

inductive ContentForm
  | json
  | octets
  deriving DecidableEq, Repr

def contentType? (type : List Char) : Option (List Char × List Char) :=
  let name := Text.trimmed (String.ofList (type.takeWhile (· != ';')))
  match (Text.lower name).toList.splitOn '/' with
  | [main, sub] => some (main, sub)
  | _ => none

/-- How content of a type is read; `untyped` tells how content is whose type is not told. -/
def ContentForm.ofType (untyped : ContentForm) : Option String → ContentForm
  | none => untyped
  | some type =>
    if type.isEmpty then untyped
    else match contentType? type.toList with
      | some (main, sub) =>
        if main = "application".toList ∧ (sub = "json".toList ∨ "+json".toList.isSuffixOf sub) then json else octets
      | none => octets

structure Content where
  form : ContentForm := .json
  octets : ByteArray := .empty
  deriving Inhabited

structure Request where
  verb : String := "POST"
  path : List Char
  content : Content := {}
  deriving Inhabited

def readTarget (target : String) : Except Fault (List Char) :=
  match Target.read target with
  | .error f => .error (.badTarget f)
  | .ok t => .ok t.resourcePath

def encodeJson (v : Json) : Except Fault ByteArray :=
  if v.isFinite then .ok v.packedPlain.toUTF8 else .error .notCompliant

namespace Request

def ofText (verb target text : String) (type : Option String := some "application/json")
    (untyped : ContentForm := .json) : Except Fault Request := do
  return { verb := Text.upper verb, path := ← readTarget target, content := ⟨untyped.ofType type, text.toUTF8⟩ }

def ofJson (verb target : String) : Json → Except Fault Request
  | .null => ofText verb target ""
  | v => do
    return { verb := Text.upper verb, path := ← readTarget target, content := ⟨.json, ← encodeJson v⟩ }

end Request

end PageStencil.Service
