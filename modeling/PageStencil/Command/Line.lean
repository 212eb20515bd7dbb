import PageStencil.Command.Arguments
import PageStencil.Studio.Press

/-!
The command line: options for all commands, then a command with options of its own. Commands print the menu of an
outline, a navigation bar made from one, or a dialog.
-/

namespace PageStencil.Command

inductive Order
  | menu (file : String)
  | navbar (file : String) (cssClass : Option String) (inContainer pretty : Bool)
  | modal (order : ModalOrder) (pretty : Bool)
  deriving DecidableEq, Repr

structure Invocation where
  logLevel : Option String := none
  lenient : Bool := false
  order : Order
  deriving DecidableEq, Repr

def mainForms : List OptionForm := [⟨"--log-level", .value⟩, ⟨"--lenient-indentation", .flag⟩]

def navbarForms : List OptionForm := [⟨"--class", .value⟩, ⟨"--container", .flag⟩, ⟨"--pretty", .flag⟩]

def modalForms : List OptionForm :=
  [⟨"--title", .value⟩, ⟨"--text", .value⟩, ⟨"--id", .value⟩, ⟨"--class", .value⟩, ⟨"--button", .value⟩,
    ⟨"--pretty", .flag⟩]

namespace Arguments

def file (a : Arguments) : String := (a.operand.map (·.1)).getD ""

def menuOrder (a : Arguments) : Order := .menu a.file

def navbarOrder (a : Arguments) : Order :=
  .navbar a.file (a.value? "--class") (a.has "--container") (a.has "--pretty")

def modalOrder (a : Arguments) : Order :=
  .modal {
    title := a.value? "--title"
    text := a.value? "--text"
    id := a.value? "--id"
    cssClass := a.value? "--class"
    buttons := (a.values "--button").map fun label =>
      Modal.footerButton (some label) (some Modal.defaultButtonClass) none true } (a.has "--pretty")

end Arguments

structure Verb where
  name : String
  forms : List OptionForm
  operand : Operand
  order : Arguments → Order

def verbs : List Verb :=
  [⟨"menu", [], .word, Arguments.menuOrder⟩, ⟨"navbar", navbarForms, .word, Arguments.navbarOrder⟩,
    ⟨"modal", modalForms, .nothing, Arguments.modalOrder⟩]

/-- Reads a command line. Words too many are refused last, when all others have been read. -/
def Invocation.read (words : List String) : Except Stop Invocation := do
  let outer ← readArguments mainForms .command words
  let (name, rest) := outer.operand.getD ("", [])
  match verbs.find? fun v => v.name = name with
  | none => throw .usage
  | some verb =>
    let inner ← readArguments verb.forms verb.operand rest
    if outer.excess || inner.excess then throw .usage
    return ⟨outer.value? "--log-level", outer.has "--lenient-indentation", verb.order inner⟩

end PageStencil.Command
