import PageStencil.Fault
import PageStencil.Storage.Path
import PageStencil.Text.Integer

/-!
Settings, from the program's variables in the environment. Flags count as set under a few words only; a number that
is no integer is refused.
-/

namespace PageStencil

abbrev Environment := List (String × String)

/-- `templatePath` is none for the templates that come with the program. -/
structure Settings where
  templatePath : Option String := none
  parser : String := "lxml"
  markerName : String := Stencil.markerAttribute
  uidSeed : Option Int := none
  strict : Bool := true
  logLevel : String := "WARNING"
  maxOutline : Int := 65536
  deriving Inhabited, Repr

namespace Settings

def flagWords : List String := ["1", "true", "yes", "on"]

def isFlagWord (s : String) : Bool := flagWords.contains (Text.trimmed s).toLower

def readInteger (s : String) : Except Fault Int :=
  match Text.integer s.toList with
  | .ok n => .ok n
  | .error .malformed => .error (.notInteger s)
  | .error (.tooLong digits) => .error (.integerTooLong digits)

def readOptionalInteger (s : Option String) : Except Fault (Option Int) :=
  match s with
  | none => .ok none
  | some s => if Text.isBlankText s then .ok none else (readInteger s).map some

def homes : List (String × String) := [("", "/root"), ("root", "/root")]

def homeText (home : Option String) (first : String) : String :=
  let name := String.ofList (first.toList.drop 1)
  let told := if name.isEmpty then home else none
  match told <|> homes.lookup name with
  | none => first
  | some h =>
    let h := String.ofList (h.toList.reverse.dropWhile (· == '/')).reverse
    if h.isEmpty then "/" else h

def expandHome (home : Option String) (p : Storage.Path) : Except Fault Storage.Path :=
  match p.parts with
  | [] => .ok p
  | first :: rest =>
    if p.isAbsolute || !first.startsWith "~" then .ok p
    else
      let h := homeText home first
      if h.startsWith "~" then .error .noHome else .ok ((Storage.Path.ofText h).join ⟨"", rest⟩)

def readPath (home : Option String) (s : String) : Except Fault (Option String) :=
  if s.isEmpty then .ok none
  else do
    let p ← expandHome home (Storage.Path.ofText s)
    return some p.resolve.text

def read (env : Environment) (home : Option String) : Except Fault Settings := do
  let templatePath ← readPath home ((env.lookup "TEMPLATE_PATH").getD "")
  let uidSeed ← readOptionalInteger (env.lookup "UID_SEED")
  let maxOutline ← readInteger ((env.lookup "MAX_OUTLINE_CHARS").getD "65536")
  return {
    templatePath
    parser := (env.lookup "HTML_PARSER").getD "lxml"
    markerName := (env.lookup "MARKER_ATTRIBUTE").getD Stencil.markerAttribute
    uidSeed
    strict := (env.lookup "STRICT_INDENTATION").elim true isFlagWord
    logLevel := (env.lookup "LOG_LEVEL").getD "WARNING"
    maxOutline }

end Settings

structure Serving where
  host : String
  port : Int
  reload : Bool
  deriving Repr

def Serving.read (env : Environment) : Except Fault Serving := do
  let port ← Settings.readInteger ((env.lookup "PORT").getD "8000")
  return {
    host := (env.lookup "HOST").getD "127.0.0.1"
    port
    reload := ((env.lookup "RELOAD").getD "false").toLower == "true" }

end PageStencil
