import PipelineScript.Yaml.Token.BlockScalar
import PipelineScript.Yaml.Token.FlowScalar

/-!
# Cutting a text into tokens

The scanner keeps the columns of the open block collections and, for each open flow collection and
for the block context around them, the token that may turn out to be a key.  A key is known only
when its `:` is read; then the key token, and with it perhaps the start of a block mapping, is put
in front of the tokens that make up the key.
-/

namespace PipelineScript.Yaml

/-- A token that may turn out to be the first token of a key. -/
structure PossibleKey where
  /-- The number of tokens before it. -/
  position : Nat
  mark : Mark
  /-- Nothing but a key can stand here. -/
  required : Bool

/-- The state of the scanner. -/
structure Scanner where
  cursor : Cursor
  /-- The column of the innermost block collection, `-1` outside of all. -/
  indent : Int
  /-- The columns of the block collections around it. -/
  outer : List Int
  /-- The possible key of each open flow collection, the innermost first, and of the block
  context. -/
  keys : List (Option PossibleKey)
  /-- A key may begin at the next token. -/
  keyAllowed : Bool
  /-- The tokens so far, the last one first. -/
  tokens : List Token
  /-- The number of the tokens so far. -/
  count : Nat

namespace Scanner

/-- The scanner at the start of a text. -/
def start (cs : List Char) : Scanner :=
  ⟨⟨cs, .start⟩, -1, [], [none], true, [], 0⟩

/-- Some flow collection is open. -/
def inFlow (s : Scanner) : Bool :=
  !(s.keys.drop 1).isEmpty

/-- Appends a token. -/
def push (s : Scanner) (t : Token) : Scanner :=
  { s with tokens := t :: s.tokens, count := s.count + 1 }

/-- Puts a token in front of all but the first `position` tokens. -/
def insert (s : Scanner) (position : Nat) (t : Token) : Scanner :=
  let after := s.count - position
  { s with tokens := s.tokens.take after ++ t :: s.tokens.drop after, count := s.count + 1 }

/-- Moves on by `n` characters of a line. -/
def advance (s : Scanner) (n : Nat) : Scanner :=
  { s with cursor := s.cursor.advance n }

/-! ### Possible keys -/

/-- Gives up the possible key of the innermost flow collection or of the block context. -/
def dropKey (s : Scanner) : Except Fault Scanner :=
  match s.keys with
  | some k :: outer =>
    if k.required then .error .missingValueIndicator else .ok { s with keys := none :: outer }
  | _ => .ok s

/-- Notes that a key may begin here. -/
def saveKey (s : Scanner) : Except Fault Scanner := do
  if !s.keyAllowed then return s
  let s ← s.dropKey
  let key : PossibleKey :=
    ⟨s.count, s.cursor.mark, !s.inFlow && s.indent == s.cursor.column⟩
  return { s with keys := some key :: s.keys.drop 1 }

/-- A key lies within one line and within 1024 bytes. -/
def PossibleKey.isStale (k : PossibleKey) (m : Mark) : Bool :=
  k.mark.line < m.line || k.mark.width + 1024 < m.width

/-- Gives up the innermost possible key if it lies too far back.  Those around it matter no sooner
than they are the innermost ones. -/
def dropStaleKey (s : Scanner) : Except Fault Scanner :=
  match s.keys with
  | some k :: _ => if PossibleKey.isStale k s.cursor.mark then s.dropKey else .ok s
  | _ => .ok s

/-! ### Block collections -/

/-- Opens a block collection at a column that lies deeper than the innermost one; its first token
goes in front of all but the first `position` tokens. -/
def openBlock (s : Scanner) (column position : Nat) (t : Token) : Scanner :=
  if !s.inFlow && s.indent < column then
    { s.insert position t with indent := column, outer := s.indent :: s.outer }
  else s

/-- Closes block collections, given the columns of those that are open, until the innermost one
does not lie deeper than `column`. -/
def closeBlocksFrom (column : Int) : List Int → Scanner → Scanner
  | [], s => s
  | i :: outer, s =>
    if column < s.indent then
      closeBlocksFrom column outer { s.push .blockEnd with indent := i, outer := outer }
    else s

/-- Closes the block collections that lie deeper than `column`. -/
def closeBlocks (s : Scanner) (column : Int) : Scanner :=
  if s.inFlow then s else closeBlocksFrom column s.outer s

/-! ### Between tokens -/

/-- Skips blanks, comments and line ends, given an upper bound on the lines that are left.  A line
may begin with a byte order mark, which takes a column.  In the block context a new line may begin
with a key, and no tab may stand before a key. -/
def skipToToken : Nat → Scanner → Scanner
  | 0, s => s
  | lines + 1, s =>
    let tabs := s.inFlow || !s.keyAllowed
    let c := if s.cursor.column = 0 && s.cursor.rest.head? = some '\uFEFF' then s.cursor.advance 1
      else s.cursor
    let c := c.skipWhile (fun c => c == ' ' || (tabs && c == '\t'))
    let c := if c.rest.head? = some '#' then c.skipWhile (!isBreak ·) else c
    if c.rest.head?.any isBreak then
      skipToToken lines
        { s with cursor := c.skipBreak, keyAllowed := s.keyAllowed || !s.inFlow }
    else { s with cursor := c }

/-! ### Directives, anchors and tags -/

/-- A number of at most nine digits at a cursor. -/
def versionNumber (c : Cursor) : Except Fault (Nat × Cursor) :=
  let digits := c.rest.takeWhile Char.isDigit
  if digits.isEmpty || 9 < digits.length then .error .badDirective
  else .ok (digits.foldl (fun v d => 10 * v + (d.toNat - '0'.toNat)) 0, c.advance digits.length)

/-- The handle of a tag at a cursor: `!`, `!!` or `!word!`; in front of a suffix also `!word`. -/
def tagHandle (c : Cursor) : Option (List Char × Cursor) :=
  match c.rest with
  | '!' :: cs =>
    let word := cs.takeWhile isWordChar
    let c := c.advance (1 + word.length)
    if c.rest.head? = some '!' then some ('!' :: word ++ ['!'], c.advance 1)
    else some ('!' :: word, c)
  | _ => none

/-- The characters of a tag; `verbatim` tags may also hold flow indicators. -/
def isTagChar (verbatim : Bool) (c : Char) : Bool :=
  isWordChar c || ";/?:@&=+$.%!~*'()".toList.contains c || (verbatim && ",[]".toList.contains c)

/-- The number of bytes that must follow a byte that begins a character, none if no character
begins with it. -/
def continuations? (b : UInt8) : Option Nat :=
  if b &&& 0x80 = 0 then some 0
  else if b &&& 0xE0 = 0xC0 then some 1
  else if b &&& 0xF0 = 0xE0 then some 2
  else if b &&& 0xF8 = 0xF0 then some 3
  else none

/-- The bytes of a part of a tag, in which `%` and two hexadecimal digits stand for a byte.  The
first `skip` characters have been read already, and the next `following` bytes must continue a
character. -/
def tagBytes? : List Char → Nat → Nat → Option (List UInt8)
  | [], _, following => if following = 0 then some [] else none
  | _ :: cs, skip + 1, following => tagBytes? cs skip following
  | c :: cs, 0, following =>
    if c = '%' then do
      let b := (← hexNumber? 2 cs).toUInt8
      let following ←
        if following = 0 then continuations? b
        else if b &&& 0xC0 = 0x80 then some (following - 1)
        else none
      return b :: (← tagBytes? cs 2 following)
    else if following = 0 then do
      return c.toNat.toUInt8 :: (← tagBytes? cs 0 0)
    else none

/-- The part of a tag that stands at a cursor. -/
def tagPart (verbatim : Bool) (c : Cursor) : Except Fault (Tag × Cursor) :=
  let cs := c.rest.takeWhile (isTagChar verbatim)
  match tagBytes? cs 0 0 with
  | some bytes => .ok (.ofBytes bytes, c.advance cs.length)
  | none => .error .badTag

/-- The part of a tag that stands at a cursor and takes one character at least. -/
def someTagPart (verbatim : Bool) (c : Cursor) : Except Fault (Tag × Cursor) :=
  if c.rest.head?.any (isTagChar verbatim) then tagPart verbatim c else .error .badTag

/-- The token of the tag at a cursor. -/
def tagAt (c : Cursor) : Except Fault (Token × Cursor) := do
  if c.rest[1]? = some '<' then
    let (suffix, c) ← someTagPart true (c.advance 2)
    if c.rest.head? ≠ some '>' then throw .badTag
    return (.tag "" suffix, c.advance 1)
  match tagHandle c with
  | none => throw .badTag
  | some (handle, behind) =>
    if handle.length ≥ 2 && handle.getLast? = some '!' then
      let (suffix, c) ← someTagPart false behind
      return (.tag (String.ofList handle) suffix, c)
    else
      let (suffix, c) ← tagPart false (c.advance 1)
      return (if suffix.bytes.isEmpty then .tag "" .bare else .tag "!" suffix, c)

/-- The token of the directive at a cursor, without the rest of its line. -/
def directiveAt (c : Cursor) : Except Fault (Token × Cursor) := do
  let name := (c.rest.drop 1).takeWhile isWordChar
  let c := c.advance (1 + name.length)
  if !startsBlank c.rest then throw .badDirective
  let c := c.skipWhile isBlank
  if name = "YAML".toList then
    let (major, c) ← versionNumber c
    if c.rest.head? ≠ some '.' then throw .badDirective
    let (minor, c) ← versionNumber (c.advance 1)
    return (.versionDirective major minor, c)
  else if name = "TAG".toList then
    match tagHandle c with
    | none => throw .badDirective
    | some (handle, c) =>
      if handle ≠ ['!'] && handle.getLast? ≠ some '!' then throw .badDirective
      if !c.rest.head?.any isBlank then throw .badDirective
      let (replacement, c) ← someTagPart true (c.skipWhile isBlank)
      if !startsBlank c.rest then throw .badDirective
      return (.tagDirective (String.ofList handle) replacement, c)
  else throw .badDirective

/-- The characters that may follow an anchor or an alias, beside blanks and line ends. -/
def endsAnchor (c : Char) : Bool :=
  "?:,]\x7d%@`".toList.contains c

/-! ### Tokens -/

/-- Reads a directive and the rest of its line. -/
def fetchDirective (s : Scanner) : Except Fault Scanner := do
  let s ← (s.closeBlocks (-1)).dropKey
  let (t, c) ← directiveAt s.cursor
  let c := c.skipComment
  if !startsBreak c.rest then throw .badDirective
  return { s with cursor := c.skipBreak, keyAllowed := false }.push t

/-- Reads a document marker. -/
def fetchMarker (s : Scanner) (t : Token) : Except Fault Scanner := do
  let s ← (s.closeBlocks (-1)).dropKey
  return ({ s with keyAllowed := false }.push t).advance 3

/-- Reads the opening bracket of a flow collection. -/
def fetchFlowStart (s : Scanner) (t : Token) : Except Fault Scanner := do
  let s ← s.saveKey
  return ({ s with keys := none :: s.keys, keyAllowed := true }.push t).advance 1

/-- Reads the closing bracket of a flow collection. -/
def fetchFlowEnd (s : Scanner) (t : Token) : Except Fault Scanner := do
  let s ← s.dropKey
  let keys := if s.inFlow then s.keys.drop 1 else s.keys
  return ({ s with keys, keyAllowed := false }.push t).advance 1

/-- Reads a comma. -/
def fetchComma (s : Scanner) : Except Fault Scanner := do
  let s ← s.dropKey
  return ({ s with keyAllowed := true }.push .flowEntry).advance 1

/-- Reads the indicator of an entry of a block sequence. -/
def fetchDash (s : Scanner) : Except Fault Scanner := do
  if !s.inFlow && !s.keyAllowed then throw .misplacedIndicator
  let s ← (s.openBlock s.cursor.column s.count .blockSequenceStart).dropKey
  return ({ s with keyAllowed := true }.push .blockEntry).advance 1

/-- Reads the indicator of a key. -/
def fetchKey (s : Scanner) : Except Fault Scanner := do
  if !s.inFlow && !s.keyAllowed then throw .misplacedIndicator
  let s ← (s.openBlock s.cursor.column s.count .blockMappingStart).dropKey
  return ({ s with keyAllowed := !s.inFlow }.push .key).advance 1

/-- Reads the indicator of a value. -/
def fetchValue (s : Scanner) : Except Fault Scanner := do
  match s.keys with
  | some k :: outer =>
    let s := (s.insert k.position .key).openBlock k.mark.column k.position .blockMappingStart
    return ({ s with keys := none :: outer, keyAllowed := false }.push .value).advance 1
  | _ =>
    if !s.inFlow && !s.keyAllowed then throw .misplacedIndicator
    let s := s.openBlock s.cursor.column s.count .blockMappingStart
    return ({ s with keyAllowed := !s.inFlow }.push .value).advance 1

/-- Reads an anchor or an alias. -/
def fetchAnchor (s : Scanner) (token : String → Token) : Except Fault Scanner := do
  let s ← s.saveKey
  let name := (s.cursor.rest.drop 1).takeWhile isWordChar
  let s := s.advance (1 + name.length)
  if name.isEmpty || !(startsBlank s.cursor.rest || s.cursor.rest.head?.any endsAnchor) then
    throw .badAnchor
  return { s with keyAllowed := false }.push (token (String.ofList name))

/-- Reads a tag. -/
def fetchTag (s : Scanner) : Except Fault Scanner := do
  let s ← s.saveKey
  let (t, c) ← tagAt s.cursor
  if !(startsBlank c.rest || (s.inFlow && c.rest.head? = some ',')) then throw .badTag
  return { s with cursor := c, keyAllowed := false }.push t

/-- Reads a block scalar. -/
def fetchBlockScalar (s : Scanner) (literal : Bool) : Except Fault Scanner := do
  let s ← s.dropKey
  let (text, c) ← blockScalar literal s.indent s.cursor
  return { s with cursor := c, keyAllowed := true }.push
    (.scalar (String.ofList text) (if literal then .literal else .folded))

/-- Reads a quoted scalar. -/
def fetchQuoted (s : Scanner) (double : Bool) : Except Fault Scanner := do
  let s ← s.saveKey
  let r ← quotedScalar double s.cursor
  return { s with cursor := r.behind, keyAllowed := false }.push
    (.scalar (String.ofList r.text) (if double then .doubleQuoted else .singleQuoted))

/-- Reads a plain scalar. -/
def fetchPlain (s : Scanner) : Except Fault Scanner := do
  let s ← s.saveKey
  let r ← plainScalar s.inFlow (s.indent + 1) s.cursor
  return { s with cursor := r.behind, keyAllowed := r.endsLine }.push
    (.scalar (String.ofList r.text) .plain)

/-- The characters that begin no plain scalar. -/
def isIndicator (c : Char) : Bool :=
  "-?:,[]\x7b\x7d#&*!|>'\"%@`".toList.contains c

/-- A plain scalar may begin with `c` when `cs` follows. -/
def beginsPlain (flow : Bool) (c : Char) (cs : List Char) : Bool :=
  (!isIndicator c && !isBlank c && !isBreak c) ||
    (c == '-' && !cs.head?.any isBlank) ||
    (!flow && (c == '?' || c == ':') && !startsBlank cs)

/-- Reads the token that begins with `c`, behind which `cs` follows. -/
def fetchToken (s : Scanner) (c : Char) (cs : List Char) : Except Fault Scanner :=
  let atLineStart := s.cursor.column == 0
  if atLineStart && c == '%' then s.fetchDirective
  else if atLineStart && startsMarker '-' (c :: cs) then s.fetchMarker .documentStart
  else if atLineStart && startsMarker '.' (c :: cs) then s.fetchMarker .documentEnd
  else if c == '[' then s.fetchFlowStart .flowSequenceStart
  else if c == '{' then s.fetchFlowStart .flowMappingStart
  else if c == ']' then s.fetchFlowEnd .flowSequenceEnd
  else if c == '}' then s.fetchFlowEnd .flowMappingEnd
  else if c == ',' then s.fetchComma
  else if c == '-' && startsBlank cs then s.fetchDash
  else if c == '?' && (s.inFlow || startsBlank cs) then s.fetchKey
  else if c == ':' && (s.inFlow || startsBlank cs) then s.fetchValue
  else if c == '*' then s.fetchAnchor .reference
  else if c == '&' then s.fetchAnchor .anchor
  else if c == '!' then s.fetchTag
  else if c == '|' && !s.inFlow then s.fetchBlockScalar true
  else if c == '>' && !s.inFlow then s.fetchBlockScalar false
  else if c == '\'' then s.fetchQuoted false
  else if c == '"' then s.fetchQuoted true
  else if beginsPlain s.inFlow c cs then s.fetchPlain
  else .error .unexpectedCharacter

/-- Reads tokens to the end of the text; `bound` exceeds the number of characters that are left,
and each token takes one at least. -/
def run : Nat → Scanner → Except Fault (List Token)
  | 0, _ => .error .unexpectedCharacter
  | bound + 1, s => do
    let s ← (s.skipToToken (bound + 1)).dropStaleKey
    let s := s.closeBlocks s.cursor.column
    match s.cursor.rest with
    | [] =>
      let s ← (s.closeBlocks (-1)).dropKey
      return s.tokens.reverse
    | c :: cs => run bound (← s.fetchToken c cs)

end Scanner

/-- The tokens of a text. -/
def tokens (text : String) : Except Fault (List Token) := do
  let cs ← readText text
  (Scanner.start cs).run (cs.length + 1)

end PipelineScript.Yaml
