/-!
# Words of a shell script

A text is written as one word of a shell script: as it is when it holds none of the characters for
which words are quoted, and between single quotes otherwise.  Which characters these are is a
parameter.
-/

namespace PipelineScript

/-- The characters for which a word is quoted. -/
class Quoting where
  needsQuotes : Char → Bool

/-- Words are quoted for the characters that are to be quoted in a POSIX shell. -/
@[reducible] def Quoting.posix : Quoting where
  needsQuotes c := "\n\t '|&;<>()$`\\\"*?[#~=%".toList.contains c

namespace Script

open Quoting (needsQuotes)

/-- The word that stands for a text. -/
def word [Quoting] (text : String) : String :=
  if text.isEmpty then "''"
  else if text.toList.any needsQuotes then
    String.ofList ('\'' :: text.toList.flatMap
      (fun c => if c = '\'' then "'\\''".toList else [c]) ++ ['\''])
  else text

end Script

end PipelineScript
