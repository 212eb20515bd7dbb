import PageStencil.Json.Value
import PageStencil.Number.Shortest
import PageStencil.Text.Quoted

/-!
JSON text, either with one item a line and two columns for each depth, or with no blank in it. Texts are in printable
ASCII, the rest being escaped by its 16-bit units, or they stand as they are but for what has to be escaped.
-/

namespace PageStencil.Json

def units (c : Char) : List Nat :=
  let n := c.toNat
  if n < 0x10000 then [n] else [0xD800 + (n - 0x10000) / 0x400, 0xDC00 + (n - 0x10000) % 0x400]

def unitEscape (u : Nat) : List Char := '\\' :: 'u' :: Text.hexPadded 4 u

def escapedChar (c : Char) : List Char :=
  if c = Text.doubleQuote ∨ c = '\\' then ['\\', c]
  else if c = '\n' then ['\\', 'n']
  else if c = '\r' then ['\\', 'r']
  else if c = '\t' then ['\\', 't']
  else if c = '\x08' then ['\\', 'b']
  else if c = '\x0c' then ['\\', 'f']
  else if 0x20 ≤ c.toNat ∧ c.toNat < 0x7F then [c]
  else (units c).flatMap unitEscape

def plainChar (c : Char) : List Char :=
  if c = Text.doubleQuote ∨ c = '\\' ∨ c.toNat < 0x20 then escapedChar c else [c]

def inQuotes (encode : Char → List Char) (s : String) : List Char :=
  Text.doubleQuote :: s.toList.flatMap encode ++ [Text.doubleQuote]

def escapedText (s : String) : List Char := inQuotes escapedChar s

def newLine (depth : Nat) : List Char := '\n' :: List.replicate (2 * depth) ' '

mutual

def write (depth : Nat) : Json → List Char
  | null => "null".toList
  | bool true => "true".toList
  | bool false => "false".toList
  | integer n => (toString n).toList
  | real x => x.write "NaN" "Infinity"
  | text s => escapedText s
  | list [] => ['[', ']']
  | list (v :: vs) =>
    '[' :: newLine (depth + 1) ++ write (depth + 1) v ++ writeItems (depth + 1) vs ++ newLine depth ++ [']']
  | object [] => ['\x7b', '\x7d']
  | object (f :: fs) =>
    '\x7b' :: newLine (depth + 1) ++ writeField (depth + 1) f ++ writeFields (depth + 1) fs ++
      newLine depth ++ ['\x7d']

def writeItems (depth : Nat) : List Json → List Char
  | [] => []
  | v :: vs => ',' :: newLine depth ++ write depth v ++ writeItems depth vs

def writeField (depth : Nat) : String × Json → List Char
  | (name, value) => escapedText name ++ [':', ' '] ++ write depth value

def writeFields (depth : Nat) : List (String × Json) → List Char
  | [] => []
  | f :: fs => ',' :: newLine depth ++ writeField depth f ++ writeFields depth fs

end

mutual

def pack (encode : Char → List Char) : Json → List Char
  | null => "null".toList
  | bool true => "true".toList
  | bool false => "false".toList
  | integer n => (toString n).toList
  | real x => x.write "NaN" "Infinity"
  | text s => inQuotes encode s
  | list vs => '[' :: packItems encode true vs ++ [']']
  | object fs => '\x7b' :: packFields encode true fs ++ ['\x7d']

def packItems (encode : Char → List Char) (first : Bool) : List Json → List Char
  | [] => []
  | v :: vs => (if first then [] else [',']) ++ pack encode v ++ packItems encode false vs

def packField (encode : Char → List Char) : String × Json → List Char
  | (name, value) => inQuotes encode name ++ ':' :: pack encode value

def packFields (encode : Char → List Char) (first : Bool) : List (String × Json) → List Char
  | [] => []
  | f :: fs => (if first then [] else [',']) ++ packField encode f ++ packFields encode false fs

end

def packed (v : Json) : String := String.ofList (pack escapedChar v)

def packedPlain (v : Json) : String := String.ofList (pack plainChar v)

def indented (v : Json) : String := String.ofList (write 0 v)

end PageStencil.Json
