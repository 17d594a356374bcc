import PipelineScript.Proofs.Script.Braces
import PipelineScript.Proofs.Script.Decoding

/-!
# What bash makes of words

Before bash runs a command it expands the characters of its words that are not quoted, and some of
them change how the line is split. So a line is read here with a mark on each character that says
whether it stands outside single quotes and backslash escapes. A line is refused if a character
there would be expanded or end the command: a dollar, a backquote, a double quote, a glob
character, a tilde, a metacharacter, a line feed, or a `#` at the start of a word.

Braces are the one thing that bash expands and that makes no word be quoted. A text that needs no
quotes and holds a brace expression is expanded to other words; every other text is passed on as it
is. An assignment is not subject to the expansion of braces.
-/

namespace PipelineScript

open Quoting (needsQuotes)

namespace Bash

open Shell (isRefused)

/-- The text of a word without its quotes. -/
def text (w : List Mark) : String :=
  String.ofList (w.filterMap Mark.text?)

/-! ### Splitting a line -/

/-- Where a reader is in its line. -/
inductive Place where
  /-- Between words. -/
  | gap
  /-- Outside quotes, in a word that begins in this way. -/
  | word (start : List Mark)
  /-- Inside single quotes. -/
  | quotes (start : List Mark)
  /-- Behind a backslash. -/
  | escape (start : List Mark)
  deriving DecidableEq, Repr

/-- What has been read of the current word. -/
def Place.start : Place → List Mark
  | gap => []
  | word start | quotes start | escape start => start

/-- What has been read of a line. -/
structure Line where
  words : List (List Mark)
  place : Place
  deriving DecidableEq, Repr

namespace Line

/-- Ends the current word, if there is one. -/
def endWord (l : Line) : Line :=
  match l.place with
  | .word start => ⟨l.words ++ [start], .gap⟩
  | _ => { l with place := .gap }

/-- Reads a character outside quotes. -/
def outside (l : Line) (c : Char) : Option Line :=
  if c = ' ' ∨ c = '\t' then some l.endWord
  else if c = '\'' then some { l with place := .quotes (l.place.start ++ [.delimiter c]) }
  else if c = '\\' then some { l with place := .escape (l.place.start ++ [.delimiter c]) }
  else if c = '\n' ∨ isRefused c then none
  else some { l with place := .word (l.place.start ++ [.bare c]) }

/-- Reads one character. The character without a code is passed over wherever it stands. -/
def step (l : Line) (c : Char) : Option Line :=
  if c = '\x00' then some l
  else match l.place with
    | .gap => if c = '#' then none else l.outside c
    | .word _ => l.outside c
    | .quotes start =>
      if c = '\'' then some { l with place := .word (start ++ [.delimiter c]) }
      else some { l with place := .quotes (start ++ [.quoted c]) }
    | .escape start =>
      if c = '\n' then none else some { l with place := .word (start ++ [.quoted c]) }

/-- Reads some characters. -/
def scan (l : Line) (cs : List Char) : Option Line :=
  cs.foldlM step l

end Line

/-- The words of a line, or `none` if the line is refused. -/
def words? (line : String) : Option (List (List Mark)) := do
  let l ← (⟨[], .gap⟩ : Line).scan line.toList
  match l.place with
  | .gap | .word _ => some l.endWord.words
  | .quotes _ | .escape _ => none

/-! ### What is passed on -/

/-- The arguments of a command, its name among them, or `none` if bash would expand a part of the
line or read it as more than one command. -/
def arguments (line : String) : Option (List String) :=
  (words? line).bind fun ws => if ws.any holdsBraces then none else some (ws.map text)

/-- A character of a variable name. -/
def isNameChar : Mark → Bool
  | .bare c => c.isAlphanum || c == '_'
  | _ => false

/-- The variable that a line assigns and its value, or `none` if the line is no assignment or bash
would expand a part of it. -/
def assignment (line : String) : Option (String × String) := do
  let [w] ← words? line | none
  let name := w.takeWhile (· != .bare '=')
  let some value := (w.drop name.length).tail? | none
  if name.head?.any (fun m => isNameChar m && !m.char.isDigit) && name.all isNameChar then
    some (text name, text value)
  else none

/-! ### Words that stand for texts -/

/-- The marks of characters that are quoted, each quote among them escaped between two pairs of
quotes. -/
def quotedMarks (cs : List Char) : List Mark :=
  cs.flatMap fun c =>
    if c = '\'' then [.delimiter '\'', .delimiter '\\', .quoted '\'', .delimiter '\'']
    else [.quoted c]

/-- The marks of the word that stands for a text: the whole text is quoted, or none of it. -/
def marks [Quoting] (t : String) : List Mark :=
  if t.isEmpty then [.delimiter '\'', .delimiter '\'']
  else if t.toList.any needsQuotes then
    .delimiter '\'' :: quotedMarks t.toList ++ [.delimiter '\'']
  else t.toList.map .bare

theorem filterMap_text_quotedMarks (cs : List Char) :
    (quotedMarks cs).filterMap Mark.text? = cs := by
  induction cs with
  | nil => rfl
  | cons c cs ih =>
    rw [quotedMarks, List.flatMap_cons, List.filterMap_append, ← quotedMarks, ih]
    split_ifs with hquote
    · rw [hquote]
      rfl
    · rfl

theorem bare_not_mem_quotedMarks (d : Char) (cs : List Char) : .bare d ∉ quotedMarks cs := by
  intro hmem
  obtain ⟨c, -, hc⟩ := List.mem_flatMap.1 hmem
  split_ifs at hc <;> simp at hc

/-- A word without its quotes is the text that it stands for. -/
theorem text_marks [Quoting] (t : String) : text (marks t) = t := by
  rw [text, marks]
  split_ifs with hempty
  · rw [String.isEmpty_iff] at hempty
    rw [hempty]
    rfl
  · rw [List.filterMap_append, List.filterMap_cons_none rfl, filterMap_text_quotedMarks]
    simp [Mark.text?]
  · have hbare : Mark.text? ∘ Mark.bare = some := rfl
    rw [List.filterMap_map, hbare, List.filterMap_some, String.ofList_toList]

namespace Line

variable {words : List (List Mark)} {cs : List Char}

theorem scan_cons (l : Line) (c : Char) (cs : List Char) :
    l.scan (c :: cs) = (l.step c).bind fun l' => l'.scan cs := rfl

theorem scan_append (l : Line) (cs cs' : List Char) :
    l.scan (cs ++ cs') = (l.scan cs).bind fun l' => l'.scan cs' :=
  List.foldlM_append

theorem step_quotes {c : Char} (hc : c ≠ '\x00') (start : List Mark) :
    (⟨words, .quotes start⟩ : Line).step c =
      if c = '\'' then some ⟨words, .word (start ++ [.delimiter c])⟩
      else some ⟨words, .quotes (start ++ [.quoted c])⟩ :=
  if_neg hc

theorem outside_of_not_needsQuotes [Quoting] (hsafe : Quoting.IsSafe) (l : Line) {c : Char}
    (h : needsQuotes c = false) :
    l.outside c = some { l with place := .word (l.place.start ++ [.bare c]) } := by
  have hne {d : Char} (hd : needsQuotes d = true) := Shell.ne_of_not_needsQuotes h hd
  simp only [outside, Shell.isRefused_of_not_needsQuotes hsafe h,
    hne (hsafe.separators '\n' (by decide)), hne (hsafe.separators ' ' (by decide)),
    hne (hsafe.separators '\t' (by decide)), hne (hsafe.quotes '\'' (by decide)),
    hne (hsafe.quotes '\\' (by decide)), or_self, if_false, Bool.false_eq_true]

/-- Outside quotes a text that needs none is bare. -/
theorem scan_bare [Quoting] (hsafe : Quoting.IsSafe) (start : List Mark) (hnul : '\x00' ∉ cs)
    (h : ∀ c ∈ cs, needsQuotes c = false) :
    (⟨words, .word start⟩ : Line).scan cs = some ⟨words, .word (start ++ cs.map .bare)⟩ := by
  induction cs generalizing start with
  | nil => simp [scan]
  | cons c cs ih =>
    rw [List.mem_cons, not_or] at hnul
    obtain ⟨hc, hcs⟩ := List.forall_mem_cons.1 h
    rw [scan_cons, step, if_neg (Ne.symm hnul.1), outside_of_not_needsQuotes hsafe _ hc,
      Option.bind_some]
    refine (ih (start ++ [.bare c]) hnul.2 hcs).trans ?_
    rw [List.append_assoc, List.singleton_append, List.map_cons]

/-- A quoted text is read up to the quote behind it. -/
theorem scan_quotes (start : List Mark) (hnul : '\x00' ∉ cs) :
    (⟨words, .quotes start⟩ : Line).scan
        (cs.flatMap (fun c => if c = '\'' then "'\\''".toList else [c]) ++ ['\'']) =
      some ⟨words, .word (start ++ quotedMarks cs ++ [.delimiter '\''])⟩ := by
  induction cs generalizing start with
  | nil =>
    rw [List.flatMap_nil, List.nil_append, scan_cons, step_quotes (by decide), if_pos rfl]
    simp [scan, quotedMarks]
  | cons c cs ih =>
    rw [List.mem_cons, not_or] at hnul
    have hc : (⟨words, .quotes start⟩ : Line).scan
        (if c = '\'' then "'\\''".toList else [c]) =
          some ⟨words, .quotes (start ++ quotedMarks [c])⟩ := by
      by_cases hquote : c = '\''
      · -- The quotes are closed, the quote is escaped, and the quotes are opened again.
        subst hquote
        have hescaped : (⟨words, .quotes start⟩ : Line).scan "'\\''".toList =
            some ⟨words, .quotes
              (start ++ [.delimiter '\''] ++ [.delimiter '\\'] ++ [.quoted '\''] ++
                [.delimiter '\''])⟩ := rfl
        simp only [if_true, hescaped, quotedMarks, List.flatMap_singleton, List.append_assoc,
          List.cons_append, List.nil_append]
      · rw [if_neg hquote, scan_cons, step_quotes (Ne.symm hnul.1), if_neg hquote, quotedMarks,
          List.flatMap_singleton, if_neg hquote]
        rfl
    have hmarks : quotedMarks (c :: cs) = quotedMarks [c] ++ quotedMarks cs := by
      rw [quotedMarks, quotedMarks, quotedMarks, List.flatMap_cons, List.flatMap_singleton]
    rw [List.flatMap_cons, List.append_assoc, scan_append, hc, Option.bind_some, ih _ hnul.2,
      hmarks, List.append_assoc start]

/-- The word of a text is read as its marks. -/
theorem scan_word [Quoting] (hsafe : Quoting.IsSafe) {t : String} (hnul : '\x00' ∉ t.toList)
    {p : Place} (hp : p = .gap ∨ ∃ start, p = .word start) :
    (⟨words, p⟩ : Line).scan (Script.word t).toList =
      some ⟨words, .word (p.start ++ marks t)⟩ := by
  have hstep {c : Char} (hc : c ≠ '\x00') (hhash : c ≠ '#') :
      (⟨words, p⟩ : Line).step c = (⟨words, p⟩ : Line).outside c := by
    rw [step, if_neg hc]
    obtain rfl | ⟨start, rfl⟩ := hp
    · exact if_neg hhash
    · rfl
  have hquote : (⟨words, p⟩ : Line).step '\'' =
      some ⟨words, .quotes (p.start ++ [.delimiter '\''])⟩ :=
    hstep (by decide) (by decide)
  rw [Script.word, marks]
  by_cases hempty : t.isEmpty
  · rw [if_pos hempty, if_pos hempty]
    change (⟨words, p⟩ : Line).scan ['\'', '\''] = _
    rw [scan_cons, hquote, Option.bind_some, scan_cons, step_quotes (by decide), if_pos rfl,
      List.append_assoc]
    rfl
  rw [if_neg hempty, if_neg hempty]
  split_ifs with hquotes
  · rw [String.toList_ofList, List.cons_append, scan_cons, hquote, Option.bind_some]
    refine (scan_quotes _ hnul).trans ?_
    simp only [List.append_assoc, List.cons_append, List.nil_append]
  · have hplain : ∀ c ∈ t.toList, needsQuotes c = false := by
      simpa using hquotes
    cases hcs : t.toList with
    | nil => simp_all
    | cons c cs =>
      rw [hcs, List.mem_cons, not_or] at hnul
      rw [hcs] at hplain
      obtain ⟨hc, hrest⟩ := List.forall_mem_cons.1 hplain
      rw [scan_cons, hstep (Ne.symm hnul.1) (Shell.ne_of_not_needsQuotes hc hsafe.comment),
        outside_of_not_needsQuotes hsafe _ hc, Option.bind_some]
      refine (scan_bare hsafe (p.start ++ [.bare c]) hnul.2 hrest).trans ?_
      rw [List.append_assoc, List.singleton_append, List.map_cons]

/-- A blank ends a word. -/
theorem scan_blank (w : List Mark) :
    (⟨words, .word w⟩ : Line).scan [' '] = some ⟨words ++ [w], .gap⟩ := rfl

end Line

section Calls

variable [Quoting] {c : Command} {t : String}

/-- The line of a call has three words. -/
theorem words?_callLine (hsafe : Quoting.IsSafe) (hlabel : '\x00' ∉ c.label.toList)
    (htext : '\x00' ∉ c.text.toList) :
    words? (Script.callLine c) =
      some ["call_wrapper".toList.map .bare, marks c.label, marks c.text] := by
  have hwrapper : (⟨[], .gap⟩ : Line).scan "call_wrapper ".toList =
      some ⟨["call_wrapper".toList.map .bare], .gap⟩ := by
    decide +kernel
  have hscan : (⟨[], .gap⟩ : Line).scan (Script.callLine c).toList =
      some ⟨["call_wrapper".toList.map .bare, marks c.label], .word (marks c.text)⟩ := by
    rw [Script.toList_callLine, Line.scan_append, hwrapper, Option.bind_some, Line.scan_append,
      Line.scan_word hsafe hlabel (.inl rfl), Option.bind_some, Line.scan_append, Line.scan_blank,
      Option.bind_some, Line.scan_word hsafe htext (.inl rfl)]
    rfl
  rw [words?, hscan]
  rfl

/-! ### Braces and texts -/

/-- A character is bare only in a text that needs no quotes. -/
theorem mem_of_bare_mem {d : Char} (h : .bare d ∈ marks t) :
    d ∈ t.toList ∧ t.toList.any needsQuotes = false := by
  rw [marks] at h
  split_ifs at h with hempty hquotes
  · simp at h
  · simp [bare_not_mem_quotedMarks] at h
  · obtain ⟨c, hc, hcd⟩ := List.mem_map.1 h
    exact ⟨Mark.bare.inj hcd ▸ hc, Bool.eq_false_iff.2 hquotes⟩

/-- A bare character of a text is none for which words are quoted. -/
theorem not_needsQuotes_of_bare_mem {d : Char} (h : .bare d ∈ marks t) : needsQuotes d = false := by
  obtain ⟨hd, hquotes⟩ := mem_of_bare_mem h
  exact Bool.eq_false_iff.2 (List.any_eq_false.1 hquotes d hd)

/-- Bash finds braces to expand only in a text that needs no quotes. -/
theorem not_needsQuotes_of_holdsBraces (h : holdsBraces (marks t) = true) :
    t.toList.any needsQuotes = false := by
  refine Bool.eq_false_iff.2 fun hquotes => ?_
  have hbrace : .bare '\x7b' ∉ marks t := fun hmem => by
    rw [(mem_of_bare_mem hmem).2] at hquotes
    cases hquotes
  rw [holdsBraces_of_not_mem hbrace] at h
  cases h

/-- A call passes on its label and its command, unless bash finds braces to expand in them. -/
theorem arguments_callLine (hsafe : Quoting.IsSafe) (hlabel : '\x00' ∉ c.label.toList)
    (htext : '\x00' ∉ c.text.toList) :
    arguments (Script.callLine c) =
      if holdsBraces (marks c.label) || holdsBraces (marks c.text) then none else some c.call := by
  have hwrapper : holdsBraces ("call_wrapper".toList.map .bare) = false := by decide +kernel
  have hname : text ("call_wrapper".toList.map .bare) = "call_wrapper" := by decide +kernel
  rw [arguments, words?_callLine hsafe hlabel htext, Option.bind_some]
  simp only [List.any_cons, List.any_nil, hwrapper, Bool.false_or, Bool.or_false, List.map_cons,
    List.map_nil, text_marks, hname, Command.call]

/-! ### Assignments -/

/-- The text behind the name of a variable is its value. -/
theorem assignment_directory (hsafe : Quoting.IsSafe) (hnul : '\x00' ∉ t.toList) :
    assignment ("DEFAULT_WORKING_DIRECTORY=" ++ Script.word t) =
      some ("DEFAULT_WORKING_DIRECTORY", t) := by
  let name := "DEFAULT_WORKING_DIRECTORY".toList.map Mark.bare
  have hname : (⟨[], .gap⟩ : Line).scan "DEFAULT_WORKING_DIRECTORY=".toList =
      some ⟨[], .word (name ++ [.bare '='])⟩ := by
    decide +kernel
  have hscan : (⟨[], .gap⟩ : Line).scan
      ("DEFAULT_WORKING_DIRECTORY=" ++ Script.word t).toList =
        some ⟨[], .word (name ++ .bare '=' :: marks t)⟩ := by
    rw [String.toList_append, Line.scan_append, hname, Option.bind_some,
      Line.scan_word hsafe hnul (.inr ⟨_, rfl⟩), Place.start, List.append_assoc,
      List.singleton_append]
  have hwords : words? ("DEFAULT_WORKING_DIRECTORY=" ++ Script.word t) =
      some [name ++ .bare '=' :: marks t] := by
    rw [words?, hscan]
    rfl
  have hbehind : (.bare '=' :: marks t).takeWhile (· != .bare '=') = [] := rfl
  have htake : (name ++ .bare '=' :: marks t).takeWhile (· != .bare '=') = name := by
    rw [List.takeWhile_append_of_pos (List.all_eq_true.1 (by decide +kernel)), hbehind,
      List.append_nil]
  have hfirst : (name.head?.any (fun m => isNameChar m && !m.char.isDigit) && name.all isNameChar) =
      true := by
    decide +kernel
  have hvariable : text name = "DEFAULT_WORKING_DIRECTORY" := by decide +kernel
  rw [assignment, hwords]
  simp only [Option.bind_eq_bind, Option.bind_some, htake, List.drop_left, List.tail?_cons, hfirst,
    if_true, hvariable, text_marks]

end Calls

end Bash

open Bash

/-- What bash reads of a script, if words are quoted for every character that the shell reads in
another way. The call of a command that is added has three words, of which the second and the third
stand for the label and the command. No character is bare in them for which words are quoted, so
bash passes the two on as they are, unless one of them needs no quotes and holds braces that bash
expands. The working directory is assigned as it is. -/
theorem Script.read_literal [Quoting] (hsafe : Quoting.IsSafe) (s : Script) (c : Command)
    (hdirectory : '\x00' ∉ s.directory.toList) (hlabel : '\x00' ∉ c.label.toList)
    (htext : '\x00' ∉ c.text.toList) :
    (s.add (.command c)).contents =
        s.contents ++ joinLines [commentLine c.label, callLine c, ""] ∧
      words? (callLine c) =
        some ["call_wrapper".toList.map .bare, marks c.label, marks c.text] ∧
      (∀ t, text (marks t) = t ∧ (∀ d, .bare d ∈ marks t → needsQuotes d = false) ∧
        (holdsBraces (marks t) = true → t.toList.any needsQuotes = false)) ∧
      arguments (callLine c) =
        (if holdsBraces (marks c.label) || holdsBraces (marks c.text) then none
        else some ["call_wrapper", c.label, c.text]) ∧
      ∃ line ∈ headerLines s.options s.directory,
        assignment line = some ("DEFAULT_WORKING_DIRECTORY", s.directory) := by
  refine ⟨?_, words?_callLine hsafe hlabel htext, fun t => ?_,
    arguments_callLine hsafe hlabel htext, _, ?_, assignment_directory hsafe hdirectory⟩
  · have hadded : String.join ([Entry.command c].map Entry.text) =
        joinLines [commentLine c.label, callLine c, ""] := String.empty_append
    rw [← hadded]
    exact Script.contents_append s [.command c]
  · exact ⟨text_marks t, fun d hd => not_needsQuotes_of_bare_mem hd,
      not_needsQuotes_of_holdsBraces⟩
  · simp only [headerLines, variableLines, List.mem_append, List.mem_cons, true_or, or_true]

/-- Quotes, blanks and braces in quotes are passed on, and so are braces that bash does not expand;
the tilde is no home directory. -/
theorem Script.read_literal_quoted :
    let _ : Quoting := .posix
    let s := Script.start {} "~/it's"
    let c : Command := ⟨"\x7b\x7d,a\x7d", "echo \x7ba,b\x7d $HOME"⟩
    Quoting.IsSafe ∧ arguments (callLine c) = some ["call_wrapper", c.label, c.text] ∧
      ∃ line ∈ headerLines s.options s.directory,
        assignment line = some ("DEFAULT_WORKING_DIRECTORY", "~/it's") := by
  intro posix s c
  obtain ⟨-, -, -, harguments, hassigned⟩ :=
    Script.read_literal Quoting.isSafe_posix s c (by decide) (by decide) (by decide)
  have hbraces : (holdsBraces (marks c.label) || holdsBraces (marks c.text)) = false := by
    decide +kernel
  rw [hbraces] at harguments
  exact ⟨Quoting.isSafe_posix, harguments, hassigned⟩

/-- A label that is a list in braces is written without quotes, and bash expands it. -/
theorem Script.braces_not_literal :
    let _ : Quoting := .posix
    let c : Command := ⟨"\x7ba,b\x7d", "make"⟩
    callLine c = "call_wrapper \x7ba,b\x7d make" ∧
      holdsBraces ("\x7ba,b\x7d".toList.map .bare) = true ∧
      words? (callLine c) = some ["call_wrapper".toList.map .bare,
        "\x7ba,b\x7d".toList.map .bare, "make".toList.map .bare] ∧
      ¬∀ c : Command, '\x00' ∉ c.label.toList → '\x00' ∉ c.text.toList →
        arguments (callLine c) = some ["call_wrapper", c.label, c.text] := by
  intro posix c
  refine ⟨by decide +kernel, by decide +kernel, by decide +kernel, fun h => ?_⟩
  have hnone : arguments (callLine c) = none := by decide +kernel
  rw [h c (by decide) (by decide)] at hnone
  cases hnone

end PipelineScript
