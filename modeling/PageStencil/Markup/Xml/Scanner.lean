import PageStencil.Markup.Reference
import PageStencil.Text.Blank

/-!
The small parts of XML: names, references, and what stands in a start tag. Reading never gives up on its own: what
cannot be read is passed over, as far as that can be told.
-/

namespace PageStencil.Markup.Xml

open Reference Text

def isSpace (c : Char) : Bool := c == ' ' || c == '\t' || c == '\n' || c == '\r'

def inAny (ranges : List (Nat × Nat)) (c : Char) : Bool := Text.inRanges ranges c.toNat

def nameStarts : List (Nat × Nat) :=
  [(0x41, 0x5A), (0x5F, 0x5F), (0x61, 0x7A), (0xC0, 0xD6), (0xD8, 0xF6), (0xF8, 0x2FF), (0x370, 0x37D), (0x37F, 0x1FFF),
    (0x200C, 0x200D), (0x2070, 0x218F), (0x2C00, 0x2FEF), (0x3001, 0xD7FF), (0xF900, 0xFDCF), (0xFDF0, 0xFFFD),
    (0x10000, 0xEFFFF)]

def nameExtras : List (Nat × Nat) :=
  [(0x2D, 0x2E), (0x30, 0x39), (0xB7, 0xB7), (0x300, 0x36F), (0x203F, 0x2040)]

def isNameStart (c : Char) : Bool := inAny nameStarts c

def isNameChar (c : Char) : Bool := isNameStart c || inAny nameExtras c

def isCharacter (c : Char) : Bool :=
  c == '\t' || c == '\n' || c == '\r' || (0x20 ≤ c.toNat && c.toNat != 0xFFFE && c.toNat != 0xFFFF)

structure Name where
  space : String := ""
  base : String
  deriving DecidableEq, Inhabited, Repr

def plainName? (s : List Char) : Option (List Char × List Char) :=
  if s.head?.any isNameStart then some (s.takeWhile isNameChar, s.dropWhile isNameChar) else none

def name? (s : List Char) : Option (Name × List Char) := do
  let (first, r) ← plainName? s
  match r with
  | ':' :: t =>
    match plainName? t with
    | some (second, r) => return (⟨String.ofList first, String.ofList second⟩, r)
    | none => return (⟨"", String.ofList (first ++ [':'])⟩, t)
  | _ => return (⟨"", String.ofList first⟩, r)

def predefined? (name : List Char) : Option Char :=
  [("lt", '<'), ("gt", '>'), ("amp", '&'), ("quot", '\x22'), ("apos", '\x27')].lookup (String.ofList name)

/-- The character of a number that is closed by a semicolon, and what follows. A number that goes on with something
else ends there and has no character. -/
def numbered (s : List Char) : List Char × List Char :=
  let (base, isDigit, t) := match s with
    | 'x' :: t => (16, isHexadecimal, t)
    | t => (10, isDecimal, t)
  let digits := t.takeWhile isDigit
  match t.dropWhile isDigit with
  | ';' :: r =>
    let n := numeral base digits
    (if n.isValidChar && isCharacter (Char.ofNat n) then [Char.ofNat n] else [], r)
  | r => ([], r)

/-- What the reference behind an ampersand stands for, and what follows it. An unknown name stands for nothing. -/
def reference (s : List Char) : List Char × List Char :=
  match s with
  | '\x23' :: t => numbered t
  | _ =>
    match plainName? s with
    | none => ([], s)
    | some (name, ';' :: r) => ((predefined? name).toList, r)
    | some (_, r) => ([], r)

def normalizeWithin : Nat → List Char → List Char
  | 0, s => s
  | _ + 1, [] => []
  | fuel + 1, c :: s =>
    if c = '&' then
      let (found, r) := reference s
      found ++ normalizeWithin fuel r
    else (if isSpace c then ' ' else c) :: normalizeWithin fuel s

def value (s : List Char) : Option String × List Char :=
  match s with
  | q :: t =>
    if q = '\x22' ∨ q = '\x27' then
      let inside := fun c => c != q && c != '<' && isCharacter c
      let body := t.takeWhile inside
      match t.dropWhile inside with
      | c :: r =>
        if c = q then (some (String.ofList (normalizeWithin body.length body)), r) else (none, c :: r)
      | [] => (none, [])
    else (none, s)
  | [] => (none, [])

def skipSpace (s : List Char) : List Char := s.dropWhile isSpace

def attribute? (s : List Char) : Option (Option (Name × String) × List Char) := do
  let (n, r) ← name? s
  match skipSpace r with
  | '=' :: r =>
    let (v, r) := value (skipSpace r)
    return (v.map (n, ·), r)
  | r => return (none, r)

def isAtEnd (s : List Char) : Bool :=
  match s with
  | [] => true
  | '>' :: _ => true
  | '/' :: '>' :: _ => true
  | c :: _ => !isCharacter c

/-- The attributes from a place on. They end where something stands that is none, or where no blank parts two. -/
def attributes : Nat → List Char → List (Name × String) × List Char
  | 0, s => ([], s)
  | fuel + 1, s =>
    if isAtEnd s then ([], s)
    else
      match attribute? s with
      | none => ([], s)
      | some (a, r) =>
        let rest := skipSpace r
        if isAtEnd r || rest.length = r.length then (a.toList, r)
        else
          let (as, r) := attributes fuel rest
          (a.toList ++ as, r)

inductive Ending
  | opened
  | closed
  | broken
  deriving DecidableEq, Repr

structure StartTag where
  name : Name
  attributes : List (Name × String)
  ending : Ending
  deriving DecidableEq, Repr

def startTag? (s : List Char) : Option (StartTag × List Char) := do
  let (n, r) ← name? s
  let (as, r) := attributes (r.length + 1) (skipSpace r)
  match r with
  | '>' :: r => return (⟨n, as, .opened⟩, r)
  | '/' :: '>' :: r => return (⟨n, as, .closed⟩, r)
  | r => return (⟨n, as, .broken⟩, r)

end PageStencil.Markup.Xml
