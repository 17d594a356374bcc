import PipelineScript.Path

/-!
# File systems

A file system has an entry at some locations, a directory or a file.  A path is followed segment by
segment from the root or from the current directory, and only directories are passed through.

This abstracts from much of a real file system.  There are no links, and the only permission is that
to run a file, so nothing is forbidden.  One call is whole: a file is written with all of its text
or not at all.  Making a file executable is another call, and a call may fail behind one that did
not.
-/

namespace PipelineScript

/-- The reason why a file was not read or written. -/
inductive FileFault where
  | notFound
  | notDirectory
  | isDirectory
  | nameTooLong
  | notText
  | nulInName
  deriving DecidableEq, Repr, Inhabited

/-- What is told about a file that was not read or written. -/
def FileFault.message : FileFault → String
  | notFound => "No such file or directory (os error 2)"
  | notDirectory => "Not a directory (os error 20)"
  | isDirectory => "Is a directory (os error 21)"
  | nameTooLong => "File name too long (os error 36)"
  | notText => "stream did not contain valid UTF-8"
  | nulInName => "file name contained an unexpected NUL byte"

/-- The names that lead from the root to a place. -/
abbrev Location := List String

/-- A file; its text is `none` if its bytes are no text. -/
structure File where
  text : Option String
  executable : Bool
  deriving DecidableEq, Repr, Inhabited

/-- What is at a location. -/
inductive Entry where
  | directory
  | file (f : File)
  deriving DecidableEq, Repr, Inhabited

/-- A file system with a current directory. -/
structure FileSystem where
  current : Location
  entry : Location → Option Entry

namespace FileSystem

/-- The path of the current directory. -/
def currentPath (fs : FileSystem) : Path :=
  ⟨"/" ++ "/".intercalate fs.current⟩

/-- The path from the root; an empty path has none. -/
def absolute? (fs : FileSystem) (p : Path) : Option Path :=
  p.absolute? fs.currentPath

/-- No name in a directory may have more bytes. -/
def maxNameBytes : Nat := 255

/-- A path must have fewer bytes. -/
def maxPathBytes : Nat := 4096

/-- Follows segments from a location. -/
def walk (fs : FileSystem) : Location → List String → Except FileFault Location
  | here, [] => .ok here
  | here, s :: segments =>
    match fs.entry here with
    | none => .error .notFound
    | some (.file _) => .error .notDirectory
    | some .directory =>
      if Path.isTrivial s then walk fs here segments
      else if s = ".." then walk fs here.dropLast segments
      else if maxNameBytes < s.utf8ByteSize then .error .nameTooLong
      else if (fs.entry (here ++ [s])).isNone then .error .notFound
      else walk fs (here ++ [s]) segments

/-- The location where a path begins, unless the path is not one. -/
def start (fs : FileSystem) (p : Path) : Except FileFault Location :=
  if p.text.toList.contains '\x00' then .error .nulInName
  else if p.text.isEmpty then .error .notFound
  else if maxPathBytes ≤ p.text.utf8ByteSize then .error .nameTooLong
  else .ok (if p.isAbsolute then [] else fs.current)

/-- The location that a path leads to. -/
def locate (fs : FileSystem) (p : Path) : Except FileFault Location := do
  fs.walk (← fs.start p) p.segments

/-- What a path leads to. -/
def find? (fs : FileSystem) (p : Path) : Option Entry :=
  match fs.locate p with
  | .ok l => fs.entry l
  | .error _ => none

/-- The path leads to something. -/
def pathExists (fs : FileSystem) (p : Path) : Bool :=
  (fs.find? p).isSome

/-- The path leads to a file. -/
def isFile (fs : FileSystem) (p : Path) : Bool :=
  match fs.find? p with
  | some (.file _) => true
  | _ => false

/-- The path leads to a directory. -/
def isDirectory (fs : FileSystem) (p : Path) : Bool :=
  fs.find? p = some .directory

/-- The text of a file. -/
def read (fs : FileSystem) (p : Path) : Except FileFault String := do
  match fs.entry (← fs.locate p) with
  | none => throw .notFound
  | some .directory => throw .isDirectory
  | some (.file f) =>
    match f.text with
    | some text => return text
    | none => throw .notText

/-- The location where a file is written; a slash at the end of its path asks for a directory. -/
def writeLocation (fs : FileSystem) (p : Path) : Except FileFault Location := do
  let start ← fs.start p
  let reversed := p.segments.reverse
  match reversed.dropWhile String.isEmpty with
  | [] => throw .isDirectory
  | name :: outer =>
    let directory ← fs.walk start (outer.reverse ++ ["."])
    if name = "." || name = ".." || reversed.head? = some "" then throw .isDirectory
    if maxNameBytes < name.utf8ByteSize then throw .nameTooLong
    if fs.entry (directory ++ [name]) = some .directory then throw .isDirectory
    return directory ++ [name]

/-- The file that a location holds once a text is written there; an executable file stays so. -/
def written (old : Option Entry) (text : String) : Entry :=
  .file ⟨some text, match old with
    | some (.file f) => f.executable
    | _ => false⟩

/-- Puts an entry at a location. -/
def set (fs : FileSystem) (l : Location) (e : Entry) : FileSystem :=
  { fs with entry := fun m => if m = l then some e else fs.entry m }

/-- Writes a file. -/
def write (fs : FileSystem) (p : Path) (text : String) : Except FileFault FileSystem := do
  let l ← fs.writeLocation p
  return fs.set l (written (fs.entry l) text)

/-- Allows a file to be run; a directory stays as it is. -/
def makeExecutable (fs : FileSystem) (p : Path) : Except FileFault FileSystem := do
  let l ← fs.locate p
  match fs.entry l with
  | none => throw .notFound
  | some .directory => return fs
  | some (.file f) => return fs.set l (.file { f with executable := true })

/-- Makes the directories on the way to a location. -/
def makeDirectories (fs : FileSystem) (l : Location) : FileSystem :=
  (List.range (l.length + 1)).foldl (fun fs n => fs.set (l.take n) .directory) fs

/-- The file system with a root and a current directory alone. -/
def empty (current : Location) : FileSystem :=
  makeDirectories ⟨current, fun _ => none⟩ current

end FileSystem

end PipelineScript
