import Mathlib.Data.List.Basic
import Mathlib.Tactic.Common
import PipelineScript.Placeholder

/-!
# The parameters that a text names

What is put into a text depends on the parameters that its placeholders name and on no others. A
text that is one placeholder becomes the value of its parameter, character by character: the value
is not looked at, whatever it looks like.
-/

namespace PipelineScript

open Text (after? isWhite replaceAll)

/-! ### Naming -/

/-- The bindings give each of these names the same value, or both give it none. -/
def Bindings.AgreeOn (names : List String) (b b' : Bindings) : Prop :=
  ∀ name ∈ names, b.lookup name = b'.lookup name

namespace Piece

/-- The parameter that a piece names. -/
def name? : Piece → Option String
  | character _ => none
  | placeholder p => some (String.ofList p.name)

theorem filled_congr {b b' : Bindings} {piece : Piece}
    (h : ∀ name, piece.name? = some name → b.lookup name = b'.lookup name) :
    piece.filled b = piece.filled b' := by
  cases piece with
  | character c => rfl
  | placeholder p => rw [filled, filled, h _ rfl]

end Piece

/-- The parameters that a text names once the working directory is put in. -/
def namedIn (directory text : String) : List String :=
  (pieces (substituteDirectory directory text).toList).filterMap Piece.name?

/-- Bindings that agree on the parameters that a text names make the same of it. -/
theorem sanitize_congr {directory text : String} {b b' : Bindings}
    (h : Bindings.AgreeOn (namedIn directory text) b b') :
    sanitize directory b text = sanitize directory b' text := by
  have hfilled : ∀ piece ∈ pieces (substituteDirectory directory text).toList,
      piece.filled b = piece.filled b' := fun piece hpiece =>
    Piece.filled_congr fun name hname => h name (List.mem_filterMap.2 ⟨piece, hpiece, hname⟩)
  rw [sanitize, sanitize, substituteParameters, substituteParameters, List.flatMap_congr hfilled]

/-! ### One placeholder -/

namespace Text

theorem after?_append (cs rest : List Char) : after? cs (cs ++ rest) = some rest := by
  induction cs with
  | nil => rfl
  | cons c cs ih => rw [List.cons_append, after?, if_pos rfl, ih]

/-- A text without the character with which the replaced text begins stays as it is. -/
theorem replaceAll_of_not_mem {first : Char} {cs : List Char} (h : first ∉ cs)
    (rest value : List Char) : replaceAll first rest value cs = cs := by
  induction cs with
  | nil => rw [replaceAll]
  | cons c cs ih =>
    rw [List.mem_cons, not_or] at h
    have hafter : after? (first :: rest) (c :: cs) = none := by rw [after?, if_neg h.1]
    rw [replaceAll]
    split
    · rename_i behind hbehind
      rw [hafter] at hbehind
      cases hbehind
    · rw [ih h.2]

end Text

namespace Placeholder

/-- White space around a name, as it is read between the braces. -/
structure Proper (p : Placeholder) : Prop where
  before : ∀ c ∈ p.before, isWhite c = true
  nonempty : p.name ≠ []
  name : ∀ c ∈ p.name, isNameChar c = true
  behind : ∀ c ∈ p.behind, isWhite c = true

instance : DecidablePred Proper := fun p =>
  decidable_of_iff (p.before.all isWhite = true ∧ p.name ≠ [] ∧ p.name.all isNameChar = true ∧
      p.behind.all isWhite = true)
    ⟨fun ⟨before, nonempty, name, behind⟩ => ⟨List.all_eq_true.1 before, nonempty,
        List.all_eq_true.1 name, List.all_eq_true.1 behind⟩,
      fun h => ⟨List.all_eq_true.2 h.before, h.nonempty, List.all_eq_true.2 h.name,
        List.all_eq_true.2 h.behind⟩⟩

theorem not_isNameChar_of_isWhite {c : Char} (h : isWhite c = true) : isNameChar c = false := by
  rw [isNameChar, h]
  rfl

variable {p : Placeholder}

theorem opened?_written (hp : p.Proper) (rest : List Char) :
    opened? (p.written ++ rest) = some (p.before, p.name ++ (p.behind ++ (closing ++ rest))) := by
  obtain ⟨c, cs, hname⟩ := List.exists_cons_of_ne_nil hp.nonempty
  have hc : isNameChar c = true := hp.name c (hname ▸ List.mem_cons_self)
  have hword (l : List Char) : (word ++ l).takeWhile isWhite = [] := rfl
  have hword' (l : List Char) : (word ++ l).dropWhile isWhite = word ++ l := rfl
  simp only [opened?, written, List.append_assoc, Text.after?_append, Option.bind_eq_bind,
    Option.bind_some, List.takeWhile_append_of_pos hp.before, hword,
    List.dropWhile_append_of_pos hp.before, hword', List.append_nil]
  rw [hname, List.cons_append, List.head?_cons, Option.any_some, hc, if_pos rfl]

theorem closed?_written (hp : p.Proper) (rest : List Char) :
    closed? (p.name ++ (p.behind ++ (closing ++ rest))) = some (p.name, p.behind, rest) := by
  have hclosing (l : List Char) : (closing ++ l).takeWhile isWhite = [] := rfl
  have hclosing' (l : List Char) : (closing ++ l).dropWhile isWhite = closing ++ l := rfl
  -- The name ends at the white space behind it or at the brace.
  obtain ⟨c, cs, hbehind, hc⟩ :
      ∃ c cs, p.behind ++ (closing ++ rest) = c :: cs ∧ isNameChar c = false := by
    cases hb : p.behind with
    | nil => exact ⟨_, _, rfl, rfl⟩
    | cons c cs =>
      exact ⟨c, _, rfl, not_isNameChar_of_isWhite (hp.behind c (hb ▸ List.mem_cons_self))⟩
  have htake : (p.behind ++ (closing ++ rest)).takeWhile isNameChar = [] := by
    rw [hbehind, List.takeWhile_cons_of_neg (by simp [hc])]
  have hdrop : (p.behind ++ (closing ++ rest)).dropWhile isNameChar =
      p.behind ++ (closing ++ rest) := by
    rw [hbehind, List.dropWhile_cons_of_neg (by simp [hc])]
  simp only [closed?, List.takeWhile_append_of_pos hp.name, htake, List.append_nil,
    List.dropWhile_append_of_pos hp.name, hdrop, List.takeWhile_append_of_pos hp.behind, hclosing,
    List.dropWhile_append_of_pos hp.behind, hclosing', Text.after?_append, Option.bind_eq_bind,
    Option.bind_some]

/-- A placeholder that is written is read back. -/
theorem lead?_written (hp : p.Proper) (rest : List Char) :
    lead? (p.written ++ rest) = some (p, rest) := by
  simp only [lead?, opened?_written hp, closed?_written hp, Option.bind_eq_bind, Option.bind_some]

theorem pieces_written (hp : p.Proper) : pieces p.written = [.placeholder p] := by
  have hlead := lead?_written hp []
  rw [List.append_nil] at hlead
  rw [pieces_eq, hlead]
  simp [pieces, piecesFrom]

/-- The only dollar of a placeholder is its first character. -/
theorem Proper.exists_written_eq (hp : p.Proper) (hname : '$' ∉ p.name) :
    ∃ cs, p.written = '$' :: '\x7b' :: cs ∧ '$' ∉ '\x7b' :: cs := by
  have hwhite : isWhite '$' ≠ true := by decide
  have hbefore : '$' ∉ p.before := fun h => hwhite (hp.before _ h)
  have hbehind : '$' ∉ p.behind := fun h => hwhite (hp.behind _ h)
  have hword : '$' ∉ word := by decide
  have hclosing : '$' ∉ closing := by decide
  have hopening : opening = ['$', '\x7b', '\x7b'] := by decide
  rw [written, hopening]
  exact ⟨_, rfl, by simp [hbefore, hword, hname, hbehind, hclosing]⟩

/-- A placeholder of a parameter is none of the working directory, and it holds none. -/
theorem substituteDirectory_written (hp : p.Proper) (hname : '$' ∉ p.name) (directory : String) :
    substituteDirectory directory (String.ofList p.written) = String.ofList p.written := by
  obtain ⟨cs, hcs, hdollar⟩ := hp.exists_written_eq hname
  have hplaceholder : directoryPlaceholder.toList.drop 1 =
      '(' :: directoryPlaceholder.toList.drop 2 := rfl
  have hafter (rest : List Char) : after? ('$' :: '(' :: rest) ('$' :: '\x7b' :: cs) = none := rfl
  rw [substituteDirectory, String.toList_ofList, hcs, hplaceholder, replaceAll]
  split
  · rename_i behind h
    rw [hafter] at h
    cases h
  · rw [Text.replaceAll_of_not_mem hdollar]

/-- A text that is one placeholder becomes the value of its parameter. -/
theorem Proper.sanitize_written (hp : p.Proper) (hname : '$' ∉ p.name) {b : Bindings}
    {value : String} (hvalue : b.lookup (String.ofList p.name) = some value) (directory : String) :
    sanitize directory b (String.ofList p.written) = value := by
  rw [sanitize, substituteDirectory_written hp hname, substituteParameters, String.toList_ofList,
    pieces_written hp, List.flatMap_singleton, Piece.filled, hvalue, String.ofList_toList]

end Placeholder

end PipelineScript
