import PageStencil.Command.Run

/-! The program: it gathers the settings, the files and the input, runs the command, and writes what comes of it. -/

namespace PageStencil.Main

def stem : String := "PAGESTENCIL_"

def settingNames : List String :=
  ["TEMPLATE_PATH", "HTML_PARSER", "MARKER_ATTRIBUTE", "UID_SEED", "STRICT_INDENTATION", "LOG_LEVEL",
    "MAX_OUTLINE_CHARS"]

def environment : IO Environment :=
  settingNames.filterMapM fun name => do
    return (← IO.getEnv (stem ++ name)).map fun value => (name, value)

def readFile? (path : String) : IO (Option ByteArray) := do
  try
    return some (← IO.FS.readBinFile path)
  catch _ =>
    return none

partial def readAll (input : IO.FS.Stream) (done : ByteArray) : IO ByteArray := do
  let more ← input.read 65536
  if more.isEmpty then return done else readAll input (done ++ more)

def templateNames : List String := [Modal.templateName, Navbar.templateName]

def source (settings : Settings) : IO Stencil.Source := do
  match settings.templatePath with
  | none => return ⟨Storage.Path.ofText "templates", Stencil.Packaged.directory, settings.parser⟩
  | some location =>
    let files ← templateNames.filterMapM fun name => do
      return (← readFile? (location ++ "/" ++ name)).map fun content => ((Storage.Path.ofText name).parts, content)
    return ⟨Storage.Path.ofText location, ⟨files⟩, settings.parser⟩

def Order.file? : Command.Order → Option String
  | .menu file => some file
  | .navbar file _ _ _ => some file
  | .modal _ _ => none

def surroundings (order : Command.Order) : IO Command.Surroundings := do
  match Order.file? order with
  | none => return ⟨fun _ => .error .missing, ByteArray.empty⟩
  | some "-" => return ⟨fun _ => .error .missing, ← readAll (← IO.getStdin) ByteArray.empty⟩
  | some file =>
    let content := (← readFile? file).elim (.error (Storage.Path.ofText file).absence) .ok
    return ⟨fun _ => content, ByteArray.empty⟩

def report (f : Fault) : IO UInt32 := do
  IO.eprintln f.message
  return 1

def run (settings : Settings) (invocation : Command.Invocation) : IO UInt32 := do
  let press : Press := { settings, source := ← source settings, lot := ← IO.rand 0 98999 }
  match (invocation.run (← surroundings invocation.order) press).1 with
  | .error f => report f
  | .ok outcome =>
    IO.print outcome.output
    IO.eprint outcome.complaint
    return outcome.exitCode.toUInt32

end PageStencil.Main

open PageStencil in
def main (words : List String) : IO UInt32 := do
  match Settings.read (← Main.environment) (← IO.getEnv "HOME") with
  | .error f => Main.report f
  | .ok settings =>
    match Command.Invocation.read words with
    | .error stop => return stop.exitCode.toUInt32
    | .ok invocation => Main.run settings invocation
