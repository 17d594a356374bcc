import PipelineScript.Yaml.Fault

/-!
# Characters of a document

Control characters are refused before anything else is looked at.  Every spelling of a line end
becomes one line feed; the line and the paragraph separator, which also end a line, stay as they
are.
-/

namespace PipelineScript.Yaml

/-- The characters a text may hold. -/
def isAllowed (c : Char) : Bool :=
  c == '\t' || c == '\n' || c == '\r' || (0x20 ≤ c.val && c.val ≤ 0x7E) || c.val == 0x85 ||
    (0xA0 ≤ c.val && c.val ≤ 0xFFFD) || 0x10000 ≤ c.val

/-- A space or a tab. -/
def isBlank (c : Char) : Bool :=
  c == ' ' || c == '\t'

/-- A character that ends a line, once the text has been read by `readText`. -/
def isBreak (c : Char) : Bool :=
  c == '\n' || c.val == 0x2028 || c.val == 0x2029

/-- The characters of anchors, tag handles and directive names. -/
def isWordChar (c : Char) : Bool :=
  c.isAlphanum || c == '_' || c == '-'

/-- The first character of `cs`, if there is one, is a blank or ends a line. -/
def startsBlank : List Char → Bool
  | [] => true
  | c :: _ => isBlank c || isBreak c

/-- The first character of `cs`, if there is one, ends a line. -/
def startsBreak : List Char → Bool
  | [] => true
  | c :: _ => isBreak c

/-- The text begins with three times `c` and a blank or the end behind them. -/
def startsMarker (c : Char) : List Char → Bool
  | a :: b :: d :: cs => a == c && b == c && d == c && startsBlank cs
  | _ => false

/-- The text begins with the start marker or the end marker of a document. -/
def startsDocumentMarker (cs : List Char) : Bool :=
  startsMarker '-' cs || startsMarker '.' cs

/-- A text with one line feed for each line end. -/
def unifyBreaks : List Char → List Char
  | [] => []
  | '\r' :: '\n' :: cs => '\n' :: unifyBreaks cs
  | '\r' :: cs => '\n' :: unifyBreaks cs
  | '\u0085' :: cs => '\n' :: unifyBreaks cs
  | c :: cs => c :: unifyBreaks cs

/-- The characters of a text, with unified line ends. -/
def readText (text : String) : Except Fault (List Char) :=
  let cs := text.toList
  if cs.all isAllowed then .ok (unifyBreaks cs) else .error .forbiddenCharacter

end PipelineScript.Yaml
