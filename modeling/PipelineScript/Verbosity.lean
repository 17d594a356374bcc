import PipelineScript.Number.Decimal
import PipelineScript.Pattern

/-!
# Verbosity

The flag for verbose output is counted, and the count or the configuration gives the level of the
log.  That level may be a list of directives between commas.  A directive is a level, or it has a
target, a span in brackets with a field between braces, or both, and perhaps a level for them behind
an equals sign.  A field may have a value, which is a number or a pattern.  A directive that is not
well-formed is passed over with a warning.
-/

namespace PipelineScript

/-- The level of the log for a count of the flag: the configured one, unless more is asked for. -/
def logLevel (count : Nat) (configured : String) : String :=
  if count ≤ 1 then configured else if count = 2 then "debug" else "trace"

/-- What is wrong with a directive of a log filter. -/
inductive DirectiveFault where
  | badForm
  | unknownLevel
  | badPattern (fault : Pattern.Fault)
  deriving DecidableEq, Repr, Inhabited

/-- What is told about a directive that is passed over. -/
def DirectiveFault.message : DirectiveFault → String
  | badForm => "invalid filter directive"
  | unknownLevel => "error parsing level filter: expected one of \"off\", \"error\", \"warn\", " ++
      "\"info\", \"debug\", \"trace\", or a number 0-5"
  | badPattern fault => "invalid field filter: " ++ fault.message

namespace LogFilter

/-- The names of the levels by their numbers. -/
def levelNames : List String := ["off", "error", "warn", "info", "debug", "trace"]

/-- A text is a level: a name in upper or lower case or a number. -/
def isLevel (cs : List Char) : Bool :=
  let number := match cs with
    | '+' :: digits => Number.natural? 10 digits
    | digits => Number.natural? 10 digits
  levelNames.any (·.toList = cs.map Char.toLower) || number.any (· < levelNames.length)

/-- A text is a numeral or names infinity or what is not a number, with or without a sign. -/
def isNumber (cs : List Char) : Bool :=
  let unsigned := match cs with
    | '+' :: cs => cs
    | '-' :: cs => cs
    | cs => cs
  ["inf", "infinity", "nan"].any (·.toList = unsigned.map Char.toLower) ||
    (Number.Decimal.unsigned? false unsigned).isSome

/-- Checks a field.  Its value is what is behind the first equals sign, up to the next one. -/
def checkField (field : List Char) : Except DirectiveFault Unit :=
  if field.isEmpty then .error .badForm
  else
    match field.dropWhile (· ≠ '=') with
    | [] => .ok ()
    | _ :: cs =>
      let value := cs.takeWhile (· ≠ '=')
      if isNumber value then .ok () else (Pattern.check value).mapError .badPattern

/-- A target may begin with a character. -/
def beginsTarget (c : Char) : Bool :=
  Text.isAlphanumeric c || c == '-' || c == ':' || c == '_'

/-- A directive as it is written, and its characters without the white space around it.  The
characters tell where its parts are, but these are then read from what is written at the same number
of bytes. -/
structure Directive where
  written : String
  trimmed : List Char
  deriving DecidableEq, Repr, Inhabited

namespace Directive

/-- The directive that a text is. -/
def ofString (s : String) : Directive := ⟨s, Text.trimWhite s.toList⟩

/-- The number of bytes before the last characters of the trimmed directive. -/
def place (d : Directive) (last : List Char) : Nat :=
  (String.ofList d.trimmed).utf8ByteSize - (String.ofList last).utf8ByteSize

/-- The characters that are written between two places.  A place inside a character is bad form. -/
def part (d : Directive) (start stop : Nat) : Except DirectiveFault (List Char) :=
  match String.fromUTF8? (d.written.toUTF8.extract start stop) with
  | some s => .ok s.toList
  | none => .error .badForm

/-- The level of a directive, given what is behind its span. -/
def behindSpan : List Char → Except DirectiveFault (Option (List Char))
  | [] => .ok none
  | '=' :: level => .ok (some level)
  | _ => .error .badForm

/-- The level of a directive, given what is behind the opening bracket of its span. -/
def insideSpan (d : Directive) (cs : List Char) : Except DirectiveFault (Option (List Char)) := do
  match cs.dropWhile fun c => c ≠ ']' && c ≠ '\x7b' with
  | [] => throw .badForm
  | ']' :: rest => behindSpan rest
  | _ :: field =>
    match field.dropWhile (· ≠ '\x7d') with
    | [] => throw .badForm
    | brace :: rest =>
      checkField (← d.part (d.place field) (d.place (brace :: rest)))
      match rest with
      | ']' :: rest => behindSpan rest
      | _ => throw .badForm

/-- The level of a directive that gives one to a target or a span. -/
def level (d : Directive) : Except DirectiveFault (Option (List Char)) :=
  match d.trimmed with
  | [] => .error .badForm
  | '[' :: cs => d.insideSpan cs
  | c :: cs =>
    if beginsTarget c then
      match cs.dropWhile fun c => c ≠ '=' && c ≠ '[' with
      | [] => .ok none
      | '=' :: level => .ok (some level)
      | _ :: span => d.insideSpan span
    else .error .badForm

/-- Checks a directive.  What is written behind the place of its level is the level, up to the end
of the untrimmed text. -/
def check (d : Directive) : Except DirectiveFault Unit := do
  match ← d.level with
  | none => return
  | some level =>
    let written ← d.part (d.place level) d.written.utf8ByteSize
    if written.isEmpty || isLevel written then return else throw .unknownLevel

end Directive

/-- The warnings about the directives of a filter that are passed over. -/
def warnings (filter : String) : List String :=
  ((filter.splitOn ",").filter (!·.isEmpty)).filterMap fun directive =>
    match (Directive.ofString directive).check with
    | .ok _ => none
    | .error fault => some s!"ignoring `{directive}`: {fault.message}"

end LogFilter

end PipelineScript
