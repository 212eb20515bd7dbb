import PageStencil.Markup.Tag
import PageStencil.Text.Blank

/-!
The class list of a tag, read from its class attribute in whatever form that stands. Adding appends the tokens that
are not there yet, removing drops every occurrence, and a change that changes no token leaves the attribute alone.
-/

namespace PageStencil.Markup

/-- Class names as a caller gives them: none, a text, or any nesting of these. -/
inductive ClassNames
  | none
  | text (s : String)
  | all (parts : List ClassNames)
  deriving Inhabited

namespace ClassNames

mutual

def tokens : ClassNames → List String
  | none => []
  | text s => Text.wordsOf s
  | all parts => tokensOfAll parts

def tokensOfAll : List ClassNames → List String
  | [] => []
  | c :: cs => tokens c ++ tokensOfAll cs

end

def ofText? : Option String → ClassNames
  | .none => none
  | some s => text s

@[simp] theorem tokensOfAll_eq_flatMap (cs : List ClassNames) : tokensOfAll cs = cs.flatMap tokens := by
  induction cs with
  | nil => rfl
  | cons c cs ih => simp [tokensOfAll, ih]

end ClassNames

def Value.words : Value → List String
  | tokens ts => ts.flatMap Text.wordsOf
  | v => Text.wordsOf v.plain

def appendNew (classes tokens : List String) : List String :=
  tokens.foldl (fun cs t => if t ∈ cs then cs else cs ++ [t]) classes

namespace Tag

def classes (t : Tag) : List String := ((t.get? "class").map Value.words).getD []

def setClasses (t : Tag) (classes : List String) : Tag := t.set "class" (.tokens classes)

def addTokens (t : Tag) (tokens : List String) : Tag :=
  if tokens.isEmpty then t else t.setClasses (appendNew t.classes tokens)

def addClasses (t : Tag) (names : ClassNames) : Tag := t.addTokens names.tokens

def removeClass (t : Tag) (token : String) : Tag :=
  if token ∈ t.classes then
    match t.classes.filter (· != token) with
    | [] => t.remove "class"
    | rest => t.setClasses rest
  else t

def removeClass? (t : Tag) : Option String → Tag
  | none => t
  | some token => t.removeClass token

def take (t : Tag) (a : String × Value) : Tag :=
  if a.1 = "class" then t.addTokens a.2.words else t.set a.1 a.2

def merge (target source : Tag) : Tag :=
  let t := source.attributes.foldl take target
  if t.has "class" then t.setClasses (appendNew [] t.classes) else t

end Tag

end PageStencil.Markup
