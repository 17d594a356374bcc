import PipelineScript.Definition
import PipelineScript.Text.Replace
import PipelineScript.Text.White

/-!
# Placeholders

A command may hold placeholders: one for the working directory, and one for each parameter, with
the name of the parameter between double braces.  A text is cut into pieces from the left, and
what is put in for a piece is not looked at again.  The placeholder of a parameter without a value
stays as it is.

The openings that stand in one run of name characters all need the same end, so once one of them
has no end, the others of its run are passed over.  `pieces_eq` says that this changes nothing.
-/

namespace PipelineScript

open Text (after? isWhite)

/-- A character of the name of a parameter. -/
def isNameChar (c : Char) : Bool :=
  !isWhite c && c != '\x7d'

/-- The placeholder of a parameter: its name and the white space around it. -/
structure Placeholder where
  before : List Char
  name : List Char
  behind : List Char
  deriving DecidableEq, Repr

namespace Placeholder

/-- What a placeholder begins with. -/
def opening : List Char := "$\x7b\x7b".toList

/-- What stands in front of the name. -/
def word : List Char := "parameters.".toList

/-- What a placeholder ends with. -/
def closing : List Char := "\x7d\x7d".toList

/-- A placeholder as it is written. -/
def written (p : Placeholder) : List Char :=
  opening ++ (p.before ++ (word ++ (p.name ++ (p.behind ++ closing))))

/-- The white space in the opening of a placeholder that a text begins with, and the text from
the name on. -/
def opened? (cs : List Char) : Option (List Char × List Char) := do
  let inside ← after? opening cs
  let named ← after? word (inside.dropWhile isWhite)
  if named.head?.any isNameChar then some (inside.takeWhile isWhite, named) else none

/-- The name that a text begins with, the white space behind it, and the text behind the end of
the placeholder. -/
def closed? (cs : List Char) : Option (List Char × List Char × List Char) := do
  let behindName := cs.dropWhile isNameChar
  let rest ← after? closing (behindName.dropWhile isWhite)
  some (cs.takeWhile isNameChar, behindName.takeWhile isWhite, rest)

/-- The placeholder that a text begins with, and the text behind it. -/
def lead? (cs : List Char) : Option (Placeholder × List Char) := do
  let (before, named) ← opened? cs
  let (name, behind, rest) ← closed? named
  some (⟨before, name, behind⟩, rest)

theorem eq_of_opened? {cs before named : List Char} (h : opened? cs = some (before, named)) :
    cs = opening ++ (before ++ (word ++ named)) := by
  simp only [opened?, Option.bind_eq_bind, Option.bind_eq_some_iff] at h
  obtain ⟨inside, h1, named', h2, h⟩ := h
  split at h
  · simp only [Option.some.injEq, Prod.mk.injEq] at h
    obtain ⟨rfl, rfl⟩ := h
    rw [Text.eq_of_after? h1, ← Text.eq_of_after? h2, List.takeWhile_append_dropWhile]
  · simp at h

theorem eq_of_closed? {cs name behind rest : List Char}
    (h : closed? cs = some (name, behind, rest)) :
    cs = name ++ (behind ++ (closing ++ rest)) := by
  simp only [closed?, Option.bind_eq_bind, Option.bind_eq_some_iff, Option.some.injEq,
    Prod.mk.injEq] at h
  obtain ⟨rest', h1, rfl, rfl, rfl⟩ := h
  rw [← Text.eq_of_after? h1, List.takeWhile_append_dropWhile, List.takeWhile_append_dropWhile]

/-- A placeholder at the front of a text is what the text begins with. -/
theorem eq_of_lead? {cs rest : List Char} {p : Placeholder} (h : lead? cs = some (p, rest)) :
    cs = p.written ++ rest := by
  simp only [lead?, Option.bind_eq_bind, Option.bind_eq_some_iff, Option.some.injEq,
    Prod.mk.injEq, Prod.exists] at h
  obtain ⟨before, named, h1, name, behind, rest', h2, rfl, rfl⟩ := h
  rw [eq_of_opened? h1, eq_of_closed? h2]
  simp [written]

end Placeholder

/-- A piece of a text. -/
inductive Piece where
  | character (c : Char)
  | placeholder (p : Placeholder)
  deriving DecidableEq, Repr

open Placeholder (opened? closed? lead?)

private theorem length_of_closed? {cs before named name behind rest : List Char}
    (h : opened? cs = some (before, named)) (h' : closed? named = some (name, behind, rest)) :
    rest.length < cs.length := by
  rw [Placeholder.eq_of_opened? h, Placeholder.eq_of_closed? h']
  simp only [List.length_append]
  have : Placeholder.opening.length = 3 := by decide
  omega

/-- The pieces of a text.  When `barred` holds, the run of name characters that the text begins
with is known to have no end of a placeholder behind it. -/
def piecesFrom (barred : Bool) : List Char → List Piece
  | [] => []
  | c :: cs =>
    match _h : opened? (c :: cs) with
    | none => .character c :: piecesFrom (barred && isNameChar c) cs
    | some (before, named) =>
      if barred && before.isEmpty then .character c :: piecesFrom true cs
      else
        match _h' : closed? named with
        | none => .character c :: piecesFrom (barred || before.isEmpty) cs
        | some (name, behind, rest) =>
          .placeholder ⟨before, name, behind⟩ :: piecesFrom false rest
termination_by cs => cs.length
decreasing_by
  · simp
  · simp
  · simp
  · exact length_of_closed? _h _h'

/-- The pieces of a text. -/
def pieces (cs : List Char) : List Piece :=
  piecesFrom false cs

private theorem closed?_eq_none_iff {cs : List Char} :
    closed? cs = none ↔
      after? Placeholder.closing ((cs.dropWhile isNameChar).dropWhile isWhite) = none := by
  simp only [closed?, Option.bind_eq_bind, Option.bind_eq_none_iff, reduceCtorEq, imp_false]
  exact Option.eq_none_iff_forall_ne_some.symm

/-- Whether a placeholder ends behind a run of name characters is the same all along the run. -/
private theorem closed?_append {run cs : List Char} (h : ∀ c ∈ run, isNameChar c) :
    closed? (run ++ cs) = none ↔ closed? cs = none := by
  rw [closed?_eq_none_iff, closed?_eq_none_iff, List.dropWhile_append_of_pos h]

private theorem isNameChar_of_opened? {c : Char} {cs : List Char} {o : List Char × List Char}
    (h : opened? (c :: cs) = some o) : isNameChar c := by
  have h := Placeholder.eq_of_opened? h
  rw [show Placeholder.opening = ['$', '\x7b', '\x7b'] by decide, List.cons_append] at h
  rw [(List.cons.inj h).1]
  decide

private theorem closed?_of_opened? {cs named : List Char} (h : opened? cs = some ([], named)) :
    closed? cs = none ↔ closed? named = none := by
  rw [Placeholder.eq_of_opened? h, List.nil_append, ← List.append_assoc]
  exact closed?_append (List.all_eq_true.1 (by decide +kernel))

private theorem piecesFrom_barred {cs : List Char} (h : closed? cs = none) :
    piecesFrom true cs = piecesFrom false cs := by
  induction cs with
  | nil => simp [piecesFrom]
  | cons c cs ih =>
    have along (hc : isNameChar c) : piecesFrom true cs = piecesFrom false cs :=
      ih ((@closed?_append [c] cs (by simpa using hc)).1 h)
    rw [piecesFrom, piecesFrom]
    split
    · cases hc : isNameChar c <;> simp [along, hc]
    · rename_i before named ho
      have hc := along (isNameChar_of_opened? ho)
      cases before with
      | nil =>
        have hn := (closed?_of_opened? ho).1 h
        simp only [List.isEmpty_nil, Bool.and_self, if_true, Bool.false_and, Bool.false_or,
          Bool.false_eq_true, if_false]
        split <;> simp_all
      | cons w before =>
        simp only [List.isEmpty_cons, Bool.and_false, Bool.or_false]
        split <;> simp_all

/-- A text is cut at the placeholder that it begins with, or else behind its first character. -/
theorem pieces_eq (cs : List Char) :
    pieces cs = match lead? cs with
      | some (p, rest) => .placeholder p :: pieces rest
      | none =>
        match cs with
        | [] => []
        | c :: cs => .character c :: pieces cs := by
  cases cs with
  | nil => simp [pieces, piecesFrom, lead?, opened?, after?, Placeholder.opening]
  | cons c cs =>
    rw [pieces, piecesFrom]
    split
    · simp_all [lead?, pieces]
    · rename_i before named ho
      simp only [Bool.false_and, Bool.false_or, Bool.false_eq_true, if_false]
      split
      · rename_i hn
        have hl : lead? (c :: cs) = none := by simp [lead?, ho, hn]
        simp only [hl]
        cases before with
        | nil =>
          have hc : closed? cs = none := by
            rw [← @closed?_append [c] cs (by simpa using isNameChar_of_opened? ho)]
            exact (closed?_of_opened? ho).2 hn
          simp [pieces, piecesFrom_barred hc]
        | cons w before => simp [pieces]
      · simp_all [lead?, pieces]

namespace Piece

/-- A piece as it is written. -/
def written : Piece → List Char
  | character c => [c]
  | placeholder p => p.written

/-- What is put in for a piece. -/
def filled (b : Bindings) : Piece → List Char
  | character c => [c]
  | placeholder p =>
    match b.lookup (String.ofList p.name) with
    | some value => value.toList
    | none => p.written

end Piece

/-- A text with the values of parameters put in. -/
def substituteParameters (b : Bindings) (text : String) : String :=
  String.ofList ((pieces text.toList).flatMap (Piece.filled b))

/-- The placeholder of the working directory. -/
def directoryPlaceholder : String := "$(System.DefaultWorkingDirectory)"

/-- A text with the working directory put in. -/
def substituteDirectory (directory text : String) : String :=
  String.ofList
    (Text.replaceAll '$' (directoryPlaceholder.toList.drop 1) directory.toList text.toList)

/-- A command with the working directory and then the values of parameters put in. -/
def sanitize (directory : String) (b : Bindings) (command : String) : String :=
  substituteParameters b (substituteDirectory directory command)

end PipelineScript
