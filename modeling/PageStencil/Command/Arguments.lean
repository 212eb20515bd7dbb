import PageStencil.Text.DecimalDigit

/-!
Arguments of a command line. A word that starts with a dash is an option, unless it is the dash alone, looks like a
negative number or holds a space; behind a double dash no word is one. A long option may be cut short as long as only
one is meant, and may be joined with its value by an equals sign. Help is given as soon as it is asked for, even if
words further on are wrong.
-/

namespace PageStencil.Command

inductive Stop
  | usage
  | help
  deriving DecidableEq, Repr

def Stop.exitCode : Stop → Nat
  | usage => 2
  | help => 0

inductive Role
  | help
  | flag
  | value
  deriving DecidableEq, Repr

structure OptionForm where
  spelling : String
  role : Role
  deriving DecidableEq, Repr

def helpForms : List OptionForm := [⟨"-h", .help⟩, ⟨"--help", .help⟩]

abbrev JoinsTo := List Char

inductive WordSort
  | plain
  | divider
  | option (form : OptionForm) (joined : Option JoinsTo)
  | unknown
  deriving DecidableEq, Repr

structure Word where
  written : String
  sort : WordSort
  deriving DecidableEq, Repr

def splitAtEquals (s : List Char) : List Char × Option (List Char) :=
  (s.takeWhile (· != '='), (s.dropWhile (· != '=')).tail?)

def isDigit (c : Char) : Bool := (Text.digit? c).isSome

def isUnsignedNumber (s : List Char) : Bool :=
  let s := if s.getLast? = some '\n' then s.dropLast else s
  let whole := s.takeWhile isDigit
  match s.dropWhile isDigit with
  | [] => !whole.isEmpty
  | '.' :: places => !places.isEmpty && places.all isDigit
  | _ => false

def candidates (forms : List OptionForm) (word : List Char) : List (OptionForm × Option JoinsTo) :=
  match word with
  | '-' :: '-' :: _ =>
    let (name, value) := splitAtEquals word
    (forms.filter fun f => name.isPrefixOf f.spelling.toList).map fun f => (f, value)
  | '-' :: c :: rest =>
    forms.filterMap fun f =>
      if f.spelling.toList = ['-', c] then some (f, some rest)
      else if word.isPrefixOf f.spelling.toList then some (f, none)
      else none
  | _ => []

def spelledBeforeEquals? (forms : List OptionForm) (word : List Char) : Option (OptionForm × JoinsTo) :=
  match splitAtEquals word with
  | (_, none) => none
  | (name, some value) => (forms.find? fun f => f.spelling.toList = name).map (·, value)

def classify (forms : List OptionForm) (word : List Char) : Except Stop WordSort :=
  match word with
  | '-' :: _ :: _ =>
    match forms.find? fun f => f.spelling.toList = word with
    | some f => .ok (.option f none)
    | none =>
      match spelledBeforeEquals? forms word with
      | some (f, joined) => .ok (.option f (some joined))
      | none =>
        match candidates forms word with
        | [(f, joined)] => .ok (.option f joined)
        | _ :: _ :: _ => .error .usage
        | [] => .ok (if isUnsignedNumber word.tail || word.contains ' ' then .plain else .unknown)
  | _ => .ok .plain

def classifyAll (forms : List OptionForm) : List String → Except Stop (List Word)
  | [] => .ok []
  | w :: ws =>
    if w = "--" then .ok (⟨w, .divider⟩ :: ws.map (⟨·, .plain⟩))
    else do
      let sort ← classify forms w.toList
      return ⟨w, sort⟩ :: (← classifyAll forms ws)

inductive Operand
  | nothing
  | word
  | command
  deriving DecidableEq, Repr

/-- What has been read: the options in their order, with their values; the operand, and for a command the words behind
it; and whether there was a word too many. -/
structure Arguments where
  options : List (String × String) := []
  operand : Option (String × List String) := none
  excess : Bool := false
  deriving DecidableEq, Inhabited, Repr

namespace Arguments

def put (a : Arguments) (name value : String) : Arguments := { a with options := a.options ++ [(name, value)] }

def values (a : Arguments) (name : String) : List String :=
  (a.options.filter fun o => o.1 == name).map (·.2)

def value? (a : Arguments) (name : String) : Option String := (a.values name).getLast?

def has (a : Arguments) (name : String) : Bool := (a.value? name).isSome

end Arguments

/-- A text joined with the short option for help can only ask for help again, with every letter of it. -/
def helpStop (form : OptionForm) : Option JoinsTo → Stop
  | none => .help
  | some joined =>
    if form.spelling == "-h" && !joined.isEmpty && joined.all (· == 'h') then .help else .usage

/-- `fresh` tells that the operand is the word just read; a divider right behind it does no harm. -/
def readWords (operand : Operand) (fresh : Bool) (a : Arguments) : List Word → Except Stop Arguments
  | [] => if operand = .nothing ∨ a.operand.isSome then .ok a else .error .usage
  | ⟨written, sort⟩ :: ws =>
    match sort with
    | .option form joined =>
      match form.role, joined with
      | .help, joined => .error (helpStop form joined)
      | .flag, none => readWords operand false (a.put form.spelling "") ws
      | .flag, some _ => .error .usage
      | .value, some joined => readWords operand false (a.put form.spelling (String.ofList joined)) ws
      | .value, none =>
        match ws with
        | ⟨value, .plain⟩ :: ws => readWords operand false (a.put form.spelling value) ws
        | _ => .error .usage
    | .unknown => readWords operand false { a with excess := true } ws
    | .plain =>
      match operand, a.operand with
      | .word, none => readWords operand true { a with operand := some (written, []) } ws
      | .command, none => .ok { a with operand := some (written, ws.map (·.written)) }
      | _, _ => readWords operand false { a with excess := true } ws
    | .divider =>
      match operand, a.operand with
      | .word, none =>
        match ws with
        | ⟨word, _⟩ :: ws => readWords operand false { a with operand := some (word, []) } ws
        | [] => .error .usage
      | .command, none => .error .usage
      | _, _ => readWords operand false { a with excess := a.excess || !fresh } ws

def readArguments (forms : List OptionForm) (operand : Operand) (words : List String) : Except Stop Arguments := do
  readWords operand false {} (← classifyAll (helpForms ++ forms) words)

end PageStencil.Command
