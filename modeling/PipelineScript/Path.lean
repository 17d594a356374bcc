/-!
# Paths

A path is kept as it is written.  It is read as the segments between its slashes, of which an
empty one and a single dot lead nowhere.
-/

namespace PipelineScript

/-- A path as it is written. -/
structure Path where
  text : String
  deriving DecidableEq, Repr, Inhabited

namespace Path

/-- The segments of a text between slashes. -/
def split : List Char → List (List Char)
  | [] => [[]]
  | c :: cs =>
    if c = '/' then [] :: split cs
    else
      match split cs with
      | [] => [[c]]
      | s :: ss => (c :: s) :: ss

/-- The segments of a path between its slashes. -/
def segments (p : Path) : List String :=
  (split p.text.toList).map String.ofList

/-- A segment that leads nowhere. -/
def isTrivial (segment : String) : Bool :=
  segment.isEmpty || segment == "."

/-- The path begins at the root. -/
def isAbsolute (p : Path) : Bool :=
  p.text.toList.head? = some '/'

/-- The path of a reference made in a directory; an absolute one stays as it is. -/
def join (base : Path) (reference : String) : Path :=
  let r : Path := ⟨reference⟩
  if r.isAbsolute || base.text.isEmpty then r
  else if base.text.toList.getLast? = some '/' then ⟨base.text ++ reference⟩
  else ⟨base.text ++ "/" ++ reference⟩

/-- The root or the leading dot of a path, and the segments behind it. -/
def front (p : Path) : String × List String :=
  let body (cs : List Char) := (split cs).map String.ofList
  match p.text.toList with
  | '/' :: cs => ("/", body cs)
  | ['.'] => (".", [])
  | '.' :: '/' :: cs => (".", body ('/' :: cs))
  | cs => ("", body cs)

/-- The path without its last segment that leads somewhere. -/
def parent? (p : Path) : Option Path :=
  let (front, body) := p.front
  match body.reverse.dropWhile isTrivial with
  | [] => if front = "." then some ⟨""⟩ else none
  | _ :: outer => some ⟨front ++ "/".intercalate (outer.dropWhile isTrivial).reverse⟩

/-- The directory of a file, where its references are made. -/
def directory (p : Path) : Path :=
  p.parent?.getD ⟨"."⟩

/-- The name of the file or directory that a path leads to. -/
def fileName? (p : Path) : Option String :=
  match p.front.2.reverse.dropWhile isTrivial with
  | [] => none
  | name :: _ => if name = ".." then none else some name

/-- The path from the root, given that of the current directory; an empty path has none. -/
def absolute? (p current : Path) : Option Path :=
  if p.text.isEmpty then none
  else
    let start : Path := match p.text.toList with
      | '/' :: '/' :: '/' :: _ => ⟨"/"⟩
      | '/' :: '/' :: _ => ⟨"//"⟩
      | '/' :: _ => ⟨"/"⟩
      | _ => current
    let path := match p.segments.filter (!isTrivial ·) with
      | [] => start
      | segments => start.join ("/".intercalate segments)
    some (if p.text.toList.getLast? = some '/' then path.join "" else path)

end Path

end PipelineScript
