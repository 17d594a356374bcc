/-!
# White space

White space is the Unicode property `White_Space`.  It bounds the name of a placeholder and is
what a typed answer is trimmed of.
-/

namespace PipelineScript.Text

/-- `isWhite c` holds when `c` has the Unicode property `White_Space`. -/
def isWhite (c : Char) : Bool :=
  (0x09 ≤ c.val && c.val ≤ 0x0D) || c.val == 0x20 || c.val == 0x85 || c.val == 0xA0 ||
    c.val == 0x1680 || (0x2000 ≤ c.val && c.val ≤ 0x200A) || c.val == 0x2028 ||
    c.val == 0x2029 || c.val == 0x202F || c.val == 0x205F || c.val == 0x3000

/-- The text between the first and the last character that is not white space. -/
def trimWhite (cs : List Char) : List Char :=
  ((cs.dropWhile isWhite).reverse.dropWhile isWhite).reverse

/-- `trim s` is `s` without the white space at its two ends. -/
def trim (s : String) : String :=
  String.ofList (trimWhite s.toList)

end PipelineScript.Text
