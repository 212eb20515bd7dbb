import PageStencil.Markup.Fragment.Report
import PageStencil.Markup.Piece
import PageStencil.Markup.Xml.Namespace

/-!
Pieces of XML, read as far as it can be read. An end tag closes the innermost element whatever its name is. An element
whose start tag is broken off is opened, but no end tag is its own. Reading ends where nothing can be made of the text,
and outside the root element at anything but comments, instructions and a document type.
-/

namespace PageStencil.Markup.Xml

/-- The open elements by namespace and name, the innermost first, and the bindings around, one entry for each element.
`started` tells that the root has come. -/
structure Reader where
  frames : List (String × String) := []
  scope : Scope := outermost
  started : Bool := false

abbrev Step := Option (List Piece × Reader × List Char)

def upTo? (mark s : List Char) : Option (List Char × List Char) :=
  Fragment.Report.cut? (fun t => if mark.isPrefixOf t then some (t.drop mark.length) else none) s

def onlyCharacters (s : List Char) : List Char := s.filter isCharacter

def textPiece (s : List Char) : List Piece := if s.isEmpty then [] else [.text s]

namespace Reader

def instruction (r : Reader) (s : List Char) : Step :=
  match plainName? s with
  | none => some ([], r, s)
  | some (target, rest) => do
    let (body, rest) ← upTo? ['?', '>'] (skipSpace rest)
    return ([.aside .declaration (target ++ ' ' :: onlyCharacters body)], r, rest)

def comment (r : Reader) (s : List Char) : Step := do
  let (body, rest) ← upTo? ['-', '-', '>'] s
  return ([.aside .comment (onlyCharacters body)], r, rest)

def characterData (r : Reader) (s : List Char) : Step := do
  let (body, rest) ← upTo? [']', ']', '>'] s
  return (textPiece (onlyCharacters body), r, rest)

def openTag (r : Reader) (s : List Char) : Step := do
  let (t, rest) ← startTag? s
  let scope : Scope := bindingsOf t.attributes :: r.scope
  let tag := scope.tagOf t
  let r := { r with started := true }
  match t.ending with
  | .opened => return ([.opening tag], { r with frames := (tag.space, tag.name) :: r.frames, scope }, rest)
  | .closed => return ([.opening tag, .closing tag.space tag.name], r, rest)
  | .broken => return ([.opening tag], r, rest)

def afterEndName (s : List Char) : List Char :=
  let s := if s.head?.any fun c => isNameStart c || c == ':' then s.dropWhile fun c => isNameChar c || c == ':' else s
  match skipSpace s with
  | '>' :: rest => rest
  | rest => rest

def closeTag (r : Reader) (s : List Char) : Step :=
  match r.frames with
  | [] => none
  | (space, name) :: frames =>
    some ([.closing space name], { r with frames, scope := r.scope.tail }, afterEndName s)

def shortest : Nat := 9

def content (r : Reader) (s : List Char) : Step :=
  match s with
  | '<' :: '/' :: t => r.closeTag t
  | '<' :: '?' :: t => r.instruction t
  | '<' :: '!' :: '-' :: '-' :: t => r.comment t
  | '<' :: '!' :: '[' :: 'C' :: 'D' :: 'A' :: 'T' :: 'A' :: '[' :: t => r.characterData t
  | '<' :: '!' :: t => if s.length < shortest then none else some ([], r, '!' :: t)
  | '<' :: t => r.openTag t
  | '&' :: t =>
    let (found, rest) := reference t
    some (textPiece found, r, rest)
  | _ =>
    let plain := fun c => c != '<' && c != '&'
    some (textPiece (onlyCharacters (s.takeWhile plain)), r, s.dropWhile plain)

def skipDoctype (inside : Bool) (quote : Option Char) : List Char → List Char
  | [] => []
  | c :: s =>
    match quote with
    | some q => skipDoctype inside (if c = q then none else some q) s
    | none =>
      if c == '\x22' || c == '\x27' then skipDoctype inside (some c) s
      else if c = '[' then skipDoctype true none s
      else if c = ']' then skipDoctype false none s
      else if c = '>' && !inside then s
      else skipDoctype inside none s

def outside (r : Reader) (s : List Char) : Step :=
  match skipSpace s with
  | '<' :: '?' :: t => r.instruction t
  | '<' :: '!' :: '-' :: '-' :: t => r.comment t
  | '<' :: t =>
    if r.started then none
    else if "!DOCTYPE".toList.isPrefixOf t then some ([], r, skipDoctype false none t)
    else r.openTag t
  | _ => none

def run (r : Reader) : Nat → List Char → List Piece
  | 0, _ => []
  | _ + 1, [] => []
  | fuel + 1, s =>
    match if r.frames.isEmpty then r.outside s else r.content s with
    | none => []
    | some (ps, r, rest) => ps ++ r.run fuel rest

end Reader

def afterDeclaration (s : List Char) : List Char :=
  match s with
  | '<' :: '?' :: 'x' :: 'm' :: 'l' :: c :: t => if isSpace c then ((upTo? ['?', '>'] t).map (·.2)).getD [] else s
  | _ => s

def pieces (s : List Char) : List Piece := ({} : Reader).run (s.length + 1) (afterDeclaration s)

end PageStencil.Markup.Xml
