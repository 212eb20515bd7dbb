import PageStencil.Command.Line
import PageStencil.Json.Print
import PageStencil.Logging
import PageStencil.Outline.Records

/-!
Running a command. Faults of the input end it with a message and an exit code; other faults are passed on. What is
logged goes where complaints go, in front of them; of each record only the message is told.
-/

namespace PageStencil.Command

structure Surroundings where
  readFile : Storage.Path → Except Storage.Absence ByteArray
  input : ByteArray

structure Outcome where
  exitCode : Nat
  output : String := ""
  complaint : String := ""
  records : List String := []
  deriving DecidableEq, Repr

def readOutline (s : Surroundings) (file : String) : Except Fault String :=
  let path := Storage.Path.ofText file
  match if file = "-" then .ok s.input else s.readFile path with
  | .error .missing => .error (.noOutlineFile path.text)
  | .error .tooLong => .error (.nameTooLong path.text)
  | .ok content => (Storage.decodeText content).mapError .undecodable

def readMenu (s : Surroundings) (p : Press) (lenient : Bool) (file : String) : Except Fault Menu := do
  let text ← readOutline s file
  (Outline.parse (!lenient && p.settings.strict) text).mapError .outline

def Order.print (s : Surroundings) (p : Press) (lenient : Bool) : Order → Except Fault String × Press
  | .menu file => ((readMenu s p lenient file).map fun m => m.toJson.indented, p)
  | .navbar file cssClass inContainer pretty =>
    match readMenu s p lenient file with
    | .error f => (.error f, p)
    | .ok m => p.navbar { menu := some m, cssClass, inContainer } pretty
  | .modal order pretty => p.modal order pretty

def isToldOf : Fault → Bool
  | .outline _ | .notFound _ | .template _ _ | .menuAndParts | .noOutlineFile _ => true
  | _ => false

/-- Logging has been set up with the level of the settings when another one is asked for, which an empty name does not. -/
def startLogging (configured : String) (asked : Option String) : Except Fault Logging :=
  let (outcome, l) := Logging.configure {} (Level.ofName configured)
  match outcome, asked.filter fun name => !name.isEmpty with
  | .error f, _ => .error f
  | .ok (), none => .ok l
  | .ok (), some name =>
    let (outcome, l) := l.configure (Level.ofName name)
    outcome.map fun _ => l

/-- The template is read unless it has been before; then, if the fragment can be made, it is rendered. -/
def fragmentRecords (p : Press) (templateName className : String) (make : Session FragmentId) : List String :=
  (if (p.shelf.get? templateName).isNone && (p.source.readRoot templateName).isOk then
    ["Loaded template " ++ templateName ++ " with parser " ++ p.source.parser] else []) ++
  (if (make.run p).1.isOk then ["Rendering " ++ className ++ " from " ++ templateName] else [])

def outlineRecords (s : Surroundings) (p : Press) (lenient : Bool) (file : String) : List String :=
  match readOutline s file with
  | .error _ => []
  | .ok text => Outline.records (!lenient && p.settings.strict) text

def Order.records (s : Surroundings) (p : Press) (lenient : Bool) : Order → List String
  | .menu file => outlineRecords s p lenient file
  | .navbar file cssClass inContainer _ =>
    outlineRecords s p lenient file ++
      match readMenu s p lenient file with
      | .error _ => []
      | .ok m => fragmentRecords p Navbar.templateName "Navbar" (Session.makeBar { menu := some m, cssClass, inContainer })
  | .modal order _ => fragmentRecords p Modal.templateName "Modal" (Session.makeDialog order)

def Order.name : Order → String
  | .menu _ => "menu"
  | .navbar _ _ _ _ => "navbar"
  | .modal _ _ => "modal"

def Invocation.run (i : Invocation) (s : Surroundings) (p : Press) : Except Fault Outcome × Press :=
  match startLogging p.settings.logLevel i.logLevel with
  | .error f => (.error f, p)
  | .ok logging =>
    let shown := fun records : List String => if logging.level.value ≤ Level.debug then records else []
    let records := i.order.records s p i.lenient
    match i.order.print s p i.lenient with
    | (.ok output, p) => (.ok { exitCode := 0, output := output ++ "\n", records := shown records }, p)
    | (.error f, p) =>
      if isToldOf f then
        (.ok {
          exitCode := 2
          complaint := "error: " ++ f.message ++ "\n"
          records := shown (records ++ ["Command " ++ i.order.name ++ " failed"]) }, p)
      else (.error f, p)

end PageStencil.Command
