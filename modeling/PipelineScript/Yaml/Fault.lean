/-!
# Faults of a text

A fault says why a text is not one well-formed document.
-/

namespace PipelineScript.Yaml

/-- The reason why a text is not one well-formed document. -/
inductive Fault where
  | forbiddenCharacter
  | unexpectedCharacter
  | misplacedIndicator
  | missingValueIndicator
  | tabInIndentation
  | unfinishedScalar
  | unknownEscape
  | badBlockHeader
  | badDirective
  | badAnchor
  | badTag
  | undefinedTagHandle
  | unexpectedToken
  | unknownAlias
  | severalDocuments
  | tooDeep
  | tooManyAliases
  | duplicateKey
  | integerTooLarge
  | tagMismatch
  deriving DecidableEq, Repr, Inhabited

/-- What is told about a fault. -/
def Fault.message : Fault → String
  | .forbiddenCharacter => "control characters are not allowed"
  | .unexpectedCharacter => "found a character that cannot start any token"
  | .misplacedIndicator => "an indicator is not allowed in this context"
  | .missingValueIndicator => "could not find the ':' of a key"
  | .tabInIndentation => "found a tab character in the indentation"
  | .unfinishedScalar => "found the end of the text or of the document inside a quoted scalar"
  | .unknownEscape => "found an unknown or incomplete escape sequence"
  | .badBlockHeader => "found a malformed block scalar header"
  | .badDirective => "found a malformed, unknown or repeated directive"
  | .badAnchor => "found a malformed anchor or alias"
  | .badTag => "found a malformed tag"
  | .undefinedTagHandle => "found an undefined tag handle"
  | .unexpectedToken => "did not find the expected structure"
  | .unknownAlias => "unknown anchor"
  | .severalDocuments => "the text holds more than one document"
  | .tooDeep => "the collections are nested too deeply"
  | .tooManyAliases => "the aliases are followed too often"
  | .duplicateKey => "duplicate entry in a mapping"
  | .integerTooLarge => "an integer is out of range"
  | .tagMismatch => "a scalar does not fit its tag"

end PipelineScript.Yaml
