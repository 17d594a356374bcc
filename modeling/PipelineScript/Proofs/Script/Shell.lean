import Mathlib.Tactic.Common
import PipelineScript.Script.Word

/-!
# Reading a shell script

A text is read as the shell splits it before any expansion: a `#` at the start of a word runs to the
end of its line, single quotes are literal, a backslash outside quotes escapes one character, blanks
separate words, and a line feed outside quotes ends a command. The reader takes simple commands of
such words only. A text is refused if a character outside quotes would be read in any other way, or
if the text ends inside quotes or behind a backslash.
-/

namespace PipelineScript

open Quoting (needsQuotes)

/-- Words are quoted for every character that the shell reads in another way than as itself. -/
structure Quoting.IsSafe [Quoting] : Prop where
  /-- The characters that end a word. -/
  separators : ∀ c ∈ " \t\n".toList, needsQuotes c = true
  /-- The characters that quote others. -/
  quotes : ∀ c ∈ "'\"\\".toList, needsQuotes c = true
  /-- The characters that end or redirect a command. -/
  operators : ∀ c ∈ "|&;<>()".toList, needsQuotes c = true
  /-- The characters that begin an expansion. -/
  expansions : ∀ c ∈ "$`".toList, needsQuotes c = true
  /-- The characters that begin a pattern for names of files. -/
  patterns : ∀ c ∈ "*?[".toList, needsQuotes c = true
  comment : needsQuotes '#' = true
  /-- The character that stands for a home directory. -/
  tilde : needsQuotes '~' = true

theorem Quoting.isSafe_posix :
    let _ : Quoting := .posix
    Quoting.IsSafe := by
  intro posix
  exact {
    separators := List.all_eq_true.1 (by decide +kernel)
    quotes := List.all_eq_true.1 (by decide +kernel)
    operators := List.all_eq_true.1 (by decide +kernel)
    expansions := List.all_eq_true.1 (by decide +kernel)
    patterns := List.all_eq_true.1 (by decide +kernel)
    comment := by decide +kernel
    tilde := by decide +kernel }

namespace Shell

/-- The characters that begin something else than a plain word when they stand outside quotes. -/
def isRefused (c : Char) : Bool :=
  "|&;<>()$`\"*?[~".toList.contains c

section Quoting

variable [Quoting]

theorem ne_of_not_needsQuotes {c : Char} (h : needsQuotes c = false) {d : Char}
    (hd : needsQuotes d = true) : c ≠ d := by
  rintro rfl
  rw [h] at hd
  exact absurd hd Bool.false_ne_true

/-- Whatever would be read in another way is a reason to quote a word. -/
theorem isRefused_of_not_needsQuotes (hsafe : Quoting.IsSafe) {c : Char}
    (h : needsQuotes c = false) : isRefused c = false := by
  have hrefused : "|&;<>()$`\"*?[~".toList =
      "|&;<>()".toList ++ ("$`".toList ++ ('"' :: ("*?[".toList ++ ['~']))) := by
    decide +kernel
  rw [isRefused, List.contains_eq_mem, decide_eq_false_iff_not, hrefused]
  simp only [List.mem_append, List.mem_cons, List.not_mem_nil, or_false, not_or]
  have hnot {cs : List Char} (hcs : ∀ d ∈ cs, needsQuotes d = true) : c ∉ cs := fun hmem =>
    ne_of_not_needsQuotes h (hcs c hmem) rfl
  exact ⟨hnot hsafe.operators, hnot hsafe.expansions,
    ne_of_not_needsQuotes h (hsafe.quotes '"' (by decide)), hnot hsafe.patterns,
    ne_of_not_needsQuotes h hsafe.tilde⟩

end Quoting

/-- Where a reader is in its line. -/
inductive Place where
  /-- Between words. -/
  | gap
  | comment
  /-- Outside quotes, in a word that begins with `start`. -/
  | word (start : List Char)
  /-- Inside single quotes, in a word that begins with `start`. -/
  | quoted (start : List Char)
  /-- Behind a backslash, in a word that begins with `start`. -/
  | escaped (start : List Char)
  deriving DecidableEq, Repr

/-- What has been read of the current word. -/
def Place.start : Place → List Char
  | gap | comment => []
  | word start | quoted start | escaped start => start

/-- What has been read of a text: its commands, the words of the current command, and the place in
the current line. -/
structure Reader where
  commands : List (List String)
  words : List String
  place : Place
  deriving DecidableEq, Repr

namespace Reader

/-- The reader between two commands. -/
def between (commands : List (List String)) : Reader :=
  ⟨commands, [], .gap⟩

/-- Ends the current word, if there is one. -/
def endWord (r : Reader) : Reader :=
  match r.place with
  | .word start => { r with words := r.words ++ [String.ofList start], place := .gap }
  | _ => { r with place := .gap }

/-- Ends the current line. A line without words is no command. -/
def endLine (r : Reader) : Reader :=
  match r.endWord.words with
  | [] => between r.commands
  | words => between (r.commands ++ [words])

/-- Reads a character outside quotes and comments. -/
def outside (r : Reader) (c : Char) : Option Reader :=
  if c = '\n' then some r.endLine
  else if c = ' ' ∨ c = '\t' then some r.endWord
  else if c = '\'' then some { r with place := .quoted r.place.start }
  else if c = '\\' then some { r with place := .escaped r.place.start }
  else if isRefused c then none
  else some { r with place := .word (r.place.start ++ [c]) }

/-- Reads one character. -/
def step (r : Reader) (c : Char) : Option Reader :=
  match r.place with
  | .gap => if c = '#' then some { r with place := .comment } else r.outside c
  | .comment => if c = '\n' then some r.endLine else some r
  | .word _ => r.outside c
  | .quoted start =>
    some { r with place := if c = '\'' then .word start else .quoted (start ++ [c]) }
  | .escaped start => some { r with place := .word (start ++ [c]) }

/-- Reads some characters. -/
def scan (r : Reader) (cs : List Char) : Option Reader :=
  cs.foldlM step r

/-- The commands that have been read when the text ends. -/
def finish (r : Reader) : Option (List (List String)) :=
  match r.place with
  | .quoted _ | .escaped _ => none
  | _ => some r.endLine.commands

end Reader

/-- The commands of a text, each with its words, or `none` if the text is refused. -/
def read (text : String) : Option (List (List String)) :=
  ((Reader.between []).scan text.toList).bind Reader.finish

namespace Reader

variable {cs : List Char} {commands : List (List String)} {words : List String}

@[simp] theorem step_comment (c : Char) :
    (⟨commands, words, .comment⟩ : Reader).step c =
      if c = '\n' then some (endLine ⟨commands, words, .comment⟩)
      else some ⟨commands, words, .comment⟩ := rfl

@[simp] theorem step_word (start : List Char) (c : Char) :
    (⟨commands, words, .word start⟩ : Reader).step c =
      outside ⟨commands, words, .word start⟩ c := rfl

@[simp] theorem step_quoted (start : List Char) (c : Char) :
    (⟨commands, words, .quoted start⟩ : Reader).step c =
      some ⟨commands, words, if c = '\'' then .word start else .quoted (start ++ [c])⟩ := rfl

@[simp] theorem scan_nil (r : Reader) : r.scan [] = some r := rfl

@[simp] theorem scan_cons (r : Reader) (c : Char) (cs : List Char) :
    r.scan (c :: cs) = (r.step c).bind fun r' => r'.scan cs := rfl

@[simp] theorem scan_append (r : Reader) (cs cs' : List Char) :
    r.scan (cs ++ cs') = (r.scan cs).bind fun r' => r'.scan cs' :=
  List.foldlM_append

/-! ### Comments -/

/-- Nothing but a line feed ends a comment. -/
theorem scan_comment (h : '\n' ∉ cs) :
    (⟨commands, words, .comment⟩ : Reader).scan cs = some ⟨commands, words, .comment⟩ := by
  induction cs with
  | nil => rfl
  | cons c cs ih =>
    rw [List.mem_cons, not_or] at h
    rw [scan_cons, step_comment, if_neg (Ne.symm h.1), Option.bind_some, ih h.2]

/-! ### Words -/

section Plain

variable [Quoting] (hsafe : Quoting.IsSafe)

include hsafe

/-- A character for which no word is quoted belongs to the word that it is read in. -/
theorem outside_of_not_needsQuotes (r : Reader) {c : Char} (h : needsQuotes c = false) :
    r.outside c = some { r with place := .word (r.place.start ++ [c]) } := by
  have hne {d : Char} (hd : needsQuotes d = true) := ne_of_not_needsQuotes h hd
  simp only [outside, isRefused_of_not_needsQuotes hsafe h,
    hne (hsafe.separators '\n' (by decide)), hne (hsafe.separators ' ' (by decide)),
    hne (hsafe.separators '\t' (by decide)), hne (hsafe.quotes '\'' (by decide)),
    hne (hsafe.quotes '\\' (by decide)), or_self, if_false, Bool.false_eq_true]

theorem scan_plain (start : List Char) (h : ∀ c ∈ cs, needsQuotes c = false) :
    (⟨commands, words, .word start⟩ : Reader).scan cs =
      some ⟨commands, words, .word (start ++ cs)⟩ := by
  induction cs generalizing start with
  | nil => simp
  | cons c cs ih =>
    obtain ⟨hc, hcs⟩ := List.forall_mem_cons.1 h
    rw [scan_cons, step_word, outside_of_not_needsQuotes hsafe _ hc, Option.bind_some]
    exact (ih (start ++ [c]) hcs).trans (by rw [List.append_assoc, List.singleton_append])

end Plain

/-- A quoted text is read up to the quote behind it. -/
theorem scan_quoted (start : List Char) :
    (⟨commands, words, .quoted start⟩ : Reader).scan
        (cs.flatMap (fun c => if c = '\'' then "'\\''".toList else [c]) ++ ['\'']) =
      some ⟨commands, words, .word (start ++ cs)⟩ := by
  induction cs generalizing start with
  | nil => simp
  | cons c cs ih =>
    rw [List.flatMap_cons, List.append_assoc, scan_append]
    have hc : (⟨commands, words, .quoted start⟩ : Reader).scan
        (if c = '\'' then "'\\''".toList else [c]) =
          some ⟨commands, words, .quoted (start ++ [c])⟩ := by
      by_cases hquote : c = '\''
      · -- The quotes are closed, the quote is escaped, and the quotes are opened again.
        subst hquote
        rfl
      · rw [if_neg hquote, scan_cons, step_quoted, if_neg hquote]
        rfl
    rw [hc, Option.bind_some, ih, List.append_assoc, List.singleton_append]

/-- A blank ends a word. -/
theorem scan_blank (start : List Char) :
    (⟨commands, words, .word start⟩ : Reader).scan [' '] =
      some ⟨commands, words ++ [String.ofList start], .gap⟩ := rfl

/-- A line feed ends a word and its command. -/
theorem scan_lineFeed (start : List Char) :
    (⟨commands, words, .word start⟩ : Reader).scan ['\n'] =
      some (between (commands ++ [words ++ [String.ofList start]])) := by
  cases words with
  | nil => rfl
  | cons w words => rfl

/-- Reading the word of a text gives back the text. -/
theorem scan_word [Quoting] (hsafe : Quoting.IsSafe) (text : String) :
    (⟨commands, words, .gap⟩ : Reader).scan (Script.word text).toList =
      some ⟨commands, words, .word text.toList⟩ := by
  rw [Script.word]
  split_ifs with hempty hquotes
  · rw [String.isEmpty_iff] at hempty
    subst hempty
    rfl
  · rw [String.toList_ofList, List.cons_append, scan_cons]
    exact scan_quoted []
  · have hplain : ∀ c ∈ text.toList, needsQuotes c = false := by
      simpa using hquotes
    cases hcs : text.toList with
    | nil => simp_all
    | cons c cs =>
      rw [hcs] at hplain
      obtain ⟨hc, hrest⟩ := List.forall_mem_cons.1 hplain
      rw [scan_cons, step, if_neg (ne_of_not_needsQuotes hc hsafe.comment),
        outside_of_not_needsQuotes hsafe _ hc, Option.bind_some]
      exact scan_plain hsafe [c] hrest

end Reader

end Shell

end PipelineScript
