import PageStencil.Fault
import PageStencil.Json.Shown
import PageStencil.Text.UpperCase

/-!
The level from which on messages are logged. The first call sets up a handler and the level with it, later ones set the
level alone. A first call whose level is refused leaves its handler behind, and then the next call finds that one and
lets the level be.
-/

namespace PageStencil

/-- A level as it stands: a number, or a truth value, which counts as one or zero. -/
inductive Level
  | number (n : Int)
  | flag (b : Bool)
  deriving DecidableEq, Repr

def Level.toJson : Level → Json
  | number n => .integer n
  | flag b => .bool b

namespace Level

def names : List (String × Int) :=
  [("CRITICAL", 50), ("FATAL", 50), ("ERROR", 40), ("WARN", 30), ("WARNING", 30), ("INFO", 20), ("DEBUG", 10),
    ("NOTSET", 0)]

def value : Level → Int
  | number n => n
  | flag b => if b then 1 else 0

def debug : Int := 10

def ofName (name : String) : Except Fault Level :=
  let name := Text.upper name
  match names.lookup name with
  | some n => .ok (.number n)
  | none => .error (.unknownLevel name)

def ofJson (configured : String) : Json → Except Fault Level
  | .null => ofName configured
  | .text name => ofName name
  | .integer n => .ok (.number n)
  | .bool b => .ok (.flag b)
  | v => .error (.badLevel v.shown)

end Level

structure Logging where
  level : Level := .number 30
  hasHandler : Bool := false
  configured : Bool := false
  deriving DecidableEq, Inhabited, Repr

namespace Logging

def silent : Logging := { level := .number 50 }

def configure (l : Logging) (asked : Except Fault Level) : Except Fault Unit × Logging :=
  if l.configured then
    match asked with
    | .error f => (.error f, l)
    | .ok level => (.ok (), { l with level })
  else if l.hasHandler then (.ok (), { l with configured := true })
  else
    match asked with
    | .error f => (.error f, { l with hasHandler := true })
    | .ok level => (.ok (), ⟨level, true, true⟩)

end Logging

end PageStencil
