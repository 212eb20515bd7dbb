import PageStencil.Markup.Reference

/-!
Pages cut into tags, comments, document types and texts. Names are lower case, references in texts and values are
resolved, and an attribute without a value has the empty text. What a `<` opens and is no tag is a comment or text. A
tag that never ends is left out with all that follows it.
-/

namespace PageStencil.Markup.Page

open Reference Text

inductive Token
  | opening (name : String) (attributes : List (String × String)) (closed : Bool)
  | closing (name : String)
  | text (s : List Char)
  | comment (s : List Char)
  | doctype (s : List Char)
  deriving Inhabited

namespace Token

def isSeparator (c : Char) : Bool := c == ' ' || c == '\t' || c == '\n' || c == '\r' || c == '\x0c'

def endsName (c : Char) : Bool := isSeparator c || c == '/' || c == '>'

def replaceNull (c : Char) : Char := if c = '\x00' then '\uFFFD' else c

def nameLimit : Nat := 100

def withinOctets (left : Nat) : List Char → List Char
  | [] => []
  | c :: s => if c.utf8Size ≤ left then c :: withinOctets (left - c.utf8Size) s else []

def nameOf (s : List Char) : String := String.ofList (withinOctets nameLimit (s.map fun c => (replaceNull c).toLower))

def numberedReference? (s : List Char) : Option (List Char × List Char) :=
  (number? s).map fun (base, digits, r) => ([numbered (numeral base digits)], dropSemicolon r)

def namedReference? (inValue : Bool) (s : List Char) : Option (List Char × List Char) :=
  let run := s.takeWhile isLetterOrDigit
  let closed := if (s.drop run.length).head? = some ';' then named? run else none
  match closed with
  | some found => some (found, s.drop (run.length + 1))
  | none =>
    let name := unclosedName run
    let rest := s.drop name.length
    if inValue && rest.head?.any fun c => c == '=' || isLetterOrDigit c then none
    else (named? name).map fun found => (found, rest)

def reference? (inValue : Bool) (s : List Char) : Option (List Char × List Char) :=
  match s with
  | '\x23' :: t => numberedReference? t
  | _ => namedReference? inValue s

def resolve (inValue : Bool) (s : List Char) : List Char :=
  Id.run (replaceWithin (fun s => pure (reference? inValue s)) s.length (s.map replaceNull))

def value? (s : List Char) : Option (List Char × List Char) :=
  match s.dropWhile isSeparator with
  | [] => none
  | q :: t =>
    if q = '\x22' ∨ q = '\x27' then
      if t.contains q then some (t.takeWhile (· != q), (t.dropWhile (· != q)).drop 1) else none
    else
      let bare := fun c => !(isSeparator c || c == '>')
      some ((q :: t).takeWhile bare, (q :: t).dropWhile bare)

/-- The attributes up to the end of a tag, whether a slash closes it, and what follows. -/
def attributes? : Nat → List Char → Option (List (String × String) × Bool × List Char)
  | 0, _ => none
  | _ + 1, [] => none
  | _ + 1, '>' :: s => some ([], false, s)
  | _ + 1, '/' :: '>' :: s => some ([], true, s)
  | fuel + 1, c :: s =>
    if c == '/' || isSeparator c then attributes? fuel s
    else
      let inName := fun d => !(endsName d || d == '=')
      let name := nameOf (c :: s.takeWhile inName)
      let rest := s.dropWhile inName
      match rest.dropWhile isSeparator with
      | '=' :: t => do
        let (v, r) ← value? t
        let (as, closed, r) ← attributes? fuel r
        return ((name, String.ofList (resolve true v)) :: as, closed, r)
      | _ => do
        let (as, closed, r) ← attributes? fuel rest
        return ((name, "") :: as, closed, r)

def tagName (s : List Char) : String × List Char :=
  (nameOf (s.takeWhile fun c => !endsName c), s.dropWhile fun c => !endsName c)

def commentFrom : List Char → List Char × List Char
  | [] => ([], [])
  | '-' :: '-' :: '>' :: s => ([], s)
  | '-' :: '-' :: '!' :: '>' :: s => ([], s)
  | c :: s =>
    let (body, r) := commentFrom s
    (c :: body, r)

def commentBody (s : List Char) : List Char × List Char :=
  match s with
  | '>' :: r => ([], r)
  | '-' :: '>' :: r => ([], r)
  | _ => commentFrom s

def upToBracket (s : List Char) : List Char × List Char :=
  (s.takeWhile (· != '>'), (s.dropWhile (· != '>')).drop 1)

def commentOf (found : List Char × List Char) : Token × List Char := (comment (found.1.map replaceNull), found.2)

def quoted? (s : List Char) : Option (List Char × List Char) :=
  match s.dropWhile isSeparator with
  | q :: t =>
    if q = '\x22' ∨ q = '\x27' then
      let inside := fun c => c != q && c != '>'
      let r := t.dropWhile inside
      some (t.takeWhile inside, if r.head? = some q then r.drop 1 else r)
    else none
  | [] => none

def inQuotes (s : List Char) : List Char := '\x22' :: s ++ ['\x22']

def identifiers (s : List Char) : List Char :=
  let word := (s.take 6).map Char.toLower
  let rest := s.drop 6
  if word = "public".toList then
    match quoted? rest with
    | none => []
    | some (public_, r) =>
      " PUBLIC ".toList ++ inQuotes public_ ++ ((quoted? r).map fun (system, _) => ' ' :: inQuotes system).getD []
  else if word = "system".toList then
    ((quoted? rest).map fun (system, _) => " SYSTEM ".toList ++ inQuotes system).getD []
  else []

def doctypeOf (s : List Char) : Token × List Char :=
  let (body, r) := upToBracket s
  let body := body.dropWhile isSeparator
  let name := body.takeWhile fun c => !isSeparator c
  let rest := (body.dropWhile fun c => !isSeparator c).dropWhile isSeparator
  (doctype ((name ++ identifiers rest).map replaceNull), r)

def afterBracket (s : List Char) : List Token × List Char :=
  let one := fun (t : Token × List Char) => ([t.1], t.2)
  match s with
  | '!' :: '-' :: '-' :: t => one (commentOf (commentBody t))
  | '!' :: t =>
    if (t.take 7).map Char.toLower = "doctype".toList then one (doctypeOf (t.drop 7))
    else one (commentOf (upToBracket t))
  | '?' :: _ => one (commentOf (upToBracket s))
  | '/' :: '>' :: t => ([], t)
  | '/' :: c :: t =>
    if isLetter c then
      let (name, r) := tagName (c :: t)
      match attributes? (r.length + 1) r with
      | some (_, _, r) => ([closing name], r)
      | none => ([], [])
    else one (commentOf (upToBracket (c :: t)))
  | c :: t =>
    if isLetter c then
      let (name, r) := tagName (c :: t)
      match attributes? (r.length + 1) r with
      | some (as, closed, r) => ([opening name as closed], r)
      | none => ([], [])
    else ([text ['<']], s)
  | [] => ([text ['<']], [])

inductive Mode
  | markup
  | references
  | raw
  | script
  | rest
  deriving DecidableEq

def modeOf (name : String) : Mode :=
  if ["title", "textarea"].contains name then .references
  else if ["style", "xmp", "iframe", "noembed", "noframes"].contains name then .raw
  else if name = "script" then .script
  else if name = "plaintext" then .rest
  else .markup

def isNamed (name : String) (s : List Char) : Bool :=
  (s.take name.length).map Char.toLower == name.toList && (s.drop name.length).head?.any endsName

def isEndOf (name : String) (s : List Char) : Bool :=
  match s with
  | '<' :: '/' :: t => isNamed name t
  | _ => false

def rawText (name : String) : List Char → List Char × List Char
  | [] => ([], [])
  | c :: s =>
    if isEndOf name (c :: s) then ([], c :: s)
    else
      let (body, r) := rawText name s
      (c :: body, r)

/-- How deep a script is inside a comment that hides it: not, in one, or in a script inside one. -/
inductive Hiding
  | none
  | comment
  | script
  deriving DecidableEq

def Hiding.next (h : Hiding) (s : List Char) : Hiding :=
  match h, s with
  | .none, '<' :: '!' :: '-' :: '-' :: _ => .comment
  | .none, _ => .none
  | _, '-' :: '-' :: '>' :: _ => .none
  | .comment, '<' :: t => if isNamed "script" t then .script else .comment
  | .comment, _ => .comment
  | .script, s => if isEndOf "script" s then .comment else .script

/-- The text of a script. An end tag inside a script that is hidden does not end it. -/
def scriptText (h : Hiding) : List Char → List Char × List Char
  | [] => ([], [])
  | c :: s =>
    if h != .script && isEndOf "script" (c :: s) then ([], c :: s)
    else
      let (body, r) := scriptText (h.next (c :: s)) s
      (c :: body, r)

def textInside (name : String) (s : List Char) : List Char × List Char :=
  match modeOf name with
  | .markup => ([], s)
  | .references =>
    let (body, r) := rawText name s
    (resolve false body, r)
  | .raw => rawText name s
  | .script => scriptText .none s
  | .rest => (s, [])

def textToken (s : List Char) : List Token := if s.isEmpty then [] else [text (s.map replaceNull)]

def behind (ts : List Token) (s : List Char) : List Token × List Char :=
  match ts with
  | [opening name _ false] =>
    let (body, r) := textInside name s
    (textToken body, r)
  | _ => ([], s)

def scan : Nat → List Char → List Token
  | 0, _ => []
  | _ + 1, [] => []
  | fuel + 1, c :: s =>
    if c = '<' then
      let (ts, r) := afterBracket s
      let (inside, r) := behind ts r
      ts ++ inside ++ scan fuel r
    else
      let run := (c :: s).takeWhile (· != '<')
      textToken (resolve false run) ++ scan fuel ((c :: s).dropWhile (· != '<'))

def scanAll (s : List Char) : List Token := scan (s.length + 1) s

end Token

end PageStencil.Markup.Page
