import PageStencil.Form.Objection
import PageStencil.Markup.Forest
import PageStencil.Markup.Refusal
import PageStencil.Outline.Fault
import PageStencil.Service.Target
import PageStencil.Stencil.Index
import PageStencil.Text.Integer
import PageStencil.Text.Utf8

/-! All that can go wrong, and how it is told. -/

namespace PageStencil

inductive Unreadable
  | decoding (f : Text.Utf8.Fault)
  | parser (name : String)
  deriving Repr

def Unreadable.message : Unreadable → String
  | decoding f => f.message
  | parser name =>
    "Couldn't find a tree builder with the features you requested: " ++ name ++
      ". Do you need to install a parser library?"

inductive TemplateFault
  | missing
  | unreadable (reason : Unreadable)
  | rootless
  deriving Repr

inductive Unserializable
  | surrogates (run : Text.SurrogateRun)
  | tooDeep
  deriving DecidableEq, Repr

def Unserializable.message : Unserializable → String
  | surrogates run => "UnicodeEncodeError: " ++ run.message
  | tooDeep => "ValueError: Circular reference detected (depth exceeded)"

inductive Fault
  | outline (f : Outline.Fault)
  | notFound (e : Stencil.NotFound)
  | template (path : String) (f : TemplateFault)
  | menuAndParts
  | nothingToRender
  | misuse (m : Markup.Misuse)
  | addressForLink
  | badLink (objections : List Form.Objection)
  | notInteger (written : String)
  | integerTooLong (digits : Nat)
  | identifierTooLong
  | noHome
  | nameTooLong (path : String)
  | rejected (r : Markup.Refusal)
  | noOutlineFile (path : String)
  | noMarkupFile (path : String)
  | undecodable (f : Text.Utf8.Fault)
  | badTarget (f : Service.TargetFault)
  | notCompliant
  | unencodable (run : Text.SurrogateRun)
  | unserializable (reason : Unserializable)
  | noContent
  | unknownLevel (name : String)
  | badLevel (shown : String)

def TemplateFault.message (path : String) : TemplateFault → String
  | missing => "Template asset not found: " ++ path
  | unreadable r => "Cannot parse template asset " ++ path ++ ": " ++ r.message
  | rootless => "Template asset has no root element: " ++ path

def tooManyDigits : String :=
  "Exceeds the limit (" ++ toString Text.digitLimit ++ " digits) for integer string conversion"

def moreDigits : String := "; use sys.set_int_max_str_digits() to increase the limit"

def integerTooLongMessage (digits : Nat) : String :=
  tooManyDigits ++ ": value has " ++ toString digits ++ " digits" ++ moreDigits

def rejection (reason : String) : String :=
  "The markup you provided was rejected by the parser. Trying a different parser or a different encoding may help." ++
    "\n\nOriginal error(s) from parser:\n AssertionError: " ++ reason

def Markup.Refusal.message : Markup.Refusal → String
  | unknownSection name => rejection ("unknown status keyword " ++ Text.quoted name ++ " in marked section")
  | unnamedSection start => rejection ("expected name token at " ++ Text.quoted start)
  | numberTooLong digits => integerTooLongMessage digits
  | openNamespace => "not enough values to unpack (expected 2, got 1)"

def Fault.message : Fault → String
  | outline f => f.message
  | notFound e => e.message
  | template path f => f.message path
  | menuAndParts => "Navbar menu and parts are mutually exclusive"
  | nothingToRender => ""
  | misuse m => m.message
  | addressForLink => "href cannot be combined with a Link item"
  | badLink _ => "Link"
  | notInteger s => "invalid literal for int() with base 10: " ++ String.ofList ((Text.quote s.toList).take 200)
  | integerTooLong digits => integerTooLongMessage digits
  | rejected r => r.message
  | identifierTooLong => tooManyDigits ++ moreDigits
  | nameTooLong path => "[Errno 36] File name too long: " ++ Text.quoted path
  | noHome => "Could not determine home directory."
  | noOutlineFile path => "Outline file not found: " ++ path
  | noMarkupFile path => "HTML file not found: " ++ path
  | undecodable f => f.message
  | badTarget f => f.message
  | notCompliant => "Out of range float values are not JSON compliant"
  | unencodable run => run.message
  | unserializable reason => "Error serializing to JSON: " ++ reason.message
  | noContent => "Expecting value: line 1 column 1 (char 0)"
  | unknownLevel name => "Unknown level: " ++ Text.quoted name
  | badLevel shown => "Level not an integer or a valid string: " ++ shown

end PageStencil
