import PageStencil.Form.Objection
import PageStencil.Text.Surrogate

/-!
Fields of forms. Texts are taken only from texts; truth values also from the numbers zero and one and from the usual
words, whatever their case. A field that is not required has a value for when it is absent. Where the characters of a
text count, no surrogate may stand among them.
-/

namespace PageStencil.Form

def readText : Json → Checked String
  | .text s => .accepted s
  | v => Checked.object .notText v

def readCharacters {α : Type} (standIns : Text.StandIns) (s : String) (read : String → Checked α) : Checked α :=
  if (Text.surrogateRun? standIns s).isSome then Checked.object .notUnicode (.text s) else read s

def readOptionalText : Json → Checked (Option String)
  | .null => .accepted none
  | v => (readText v).map some

def falseWords : List String := ["0", "off", "f", "false", "n", "no"]
def trueWords : List String := ["1", "on", "t", "true", "y", "yes"]

def boolOfInt (input : Json) (n : Int) : Checked Bool :=
  if n = 0 then .accepted false
  else if n = 1 then .accepted true
  else if -9223372036854775808 ≤ n && n ≤ 9223372036854775807 then Checked.object .unreadableBool input
  else Checked.object .notBool input

def boolOfWord (s : String) : Checked Bool :=
  let word := s.toLower
  if falseWords.contains word then .accepted false
  else if trueWords.contains word then .accepted true
  else Checked.object .unreadableBool (.text s)

def readBool (standIns : Text.StandIns) : Json → Checked Bool
  | .bool b => .accepted b
  | .integer n => boolOfInt (.integer n) n
  | .real x =>
    match x.whole? with
    | some n => if n.natAbs < 9223372036854775808 then boolOfInt (.real x) n else Checked.object .notBool (.real x)
    | none => Checked.object .notBool (.real x)
  | .text s => readCharacters standIns s boolOfWord
  | v => Checked.object .notBool v

def readOptionalBool (standIns : Text.StandIns) : Json → Checked (Option Bool)
  | .null => .accepted none
  | v => (readBool standIns v).map some

def enumerate (i : Nat) (read : Json → Checked α) : List Json → List (Checked α)
  | [] => []
  | v :: vs => (read v).under (.index i) :: enumerate (i + 1) read vs

def readList (read : Json → Checked α) : Json → Checked (List α)
  | .list vs => Checked.all (enumerate 0 read vs)
  | v => Checked.object .notList v

variable {α : Type}

def required (fields : List (String × Json)) (name : String) (read : Json → Checked α) : Checked α :=
  Checked.under (.field name) <|
    match fields.lookup name with
    | some v => read v
    | none => Checked.object .missing (.object fields)

def withDefault (absent : α) (fields : List (String × Json)) (name : String) (read : Json → Checked α) : Checked α :=
  match fields.lookup name with
  | some v => (read v).under (.field name)
  | none => .accepted absent

def readObject (read : List (String × Json) → Checked α) : Json → Checked α
  | .object fields => read fields
  | v => Checked.object .notObject v

def onlyKnown (known : List String) (fields : List (String × Json)) : Checked Unit :=
  let unknown := fields.filter fun f => !known.contains f.1
  let objections : List (Checked Unit) := unknown.map fun f => (Checked.object .unknownField f.2).under (.field f.1)
  (fun _ => ()) <$> Checked.all objections

end PageStencil.Form
