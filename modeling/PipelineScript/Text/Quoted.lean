import PipelineScript.Text.Printable

/-!
# Quoted texts

A text in a message stands between double quotes.  A quote and a backslash in it are escaped with a
backslash, and so is every character that does not show.
-/

namespace PipelineScript.Text

/-- The spelling of a character in a quoted text. -/
def quotedChar (c : Char) : List Char :=
  if c = '"' then "\\\"".toList
  else if c = '\\' then "\\\\".toList
  else if c = '\n' then "\\n".toList
  else if c = '\r' then "\\r".toList
  else if c = '\t' then "\\t".toList
  else if c = '\x00' then "\\0".toList
  else if isPrintable c then [c]
  else "\\u\x7b".toList ++ Nat.toDigits 16 c.toNat ++ ['\x7d']

/-- A text between double quotes. -/
def quoted (s : String) : String :=
  String.ofList ('"' :: s.toList.flatMap quotedChar ++ ['"'])

end PipelineScript.Text
