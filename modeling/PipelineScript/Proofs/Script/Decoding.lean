import PipelineScript.Build
import PipelineScript.Proofs.Script.Shell

/-!
# What the text of a script holds

The shell reads the text of a script as the calls of its commands. This holds at each moment of an
expansion, however the expansion ends, and for all labels, commands and names of jobs: no line feed
gets out of a comment, and no character of a label or of a command gets out of its word.
-/

namespace PipelineScript

/-- The words of the call that runs a command. -/
def Command.call (c : Command) : List String :=
  ["call_wrapper", c.label, c.text]

/-! ### Lines and entries -/

namespace Script

theorem toList_joinLines (lines : List String) :
    (joinLines lines).toList = lines.flatMap fun l => l.toList ++ ['\n'] := by
  rw [joinLines, String.toList_join, List.flatMap_map]
  simp only [String.toList_append]
  rfl

/-- The line of a call is made of three words. -/
theorem toList_callLine [Quoting] (c : Command) :
    (callLine c).toList = "call_wrapper ".toList ++
      ((word c.label).toList ++ ([' '] ++ (word c.text).toList)) := by
  simp only [callLine, String.toList_append, List.append_assoc]
  rfl

end Script

namespace Shell.Reader

variable [Quoting] (commands : List (List String))

omit [Quoting] in
/-- A comment adds no command. -/
theorem scan_commentLine (text : String) :
    (between commands).scan ((Script.commentLine text).toList ++ ['\n']) =
      some (between commands) := by
  have hopening : (between commands).scan ("# ".toList) = some ⟨commands, [], .comment⟩ := rfl
  rw [Script.commentLine, String.toList_append, List.append_assoc, scan_append, hopening,
    Option.bind_some, scan_append, scan_comment (Text.lineFeed_not_mem_singleLine text)]
  rfl

/-- The line of a call adds the call. -/
theorem scan_callLine (hsafe : Quoting.IsSafe) (c : Command) :
    (between commands).scan ((Script.callLine c).toList ++ ['\n']) =
      some (between (commands ++ [c.call])) := by
  have hwrapper : (between commands).scan "call_wrapper ".toList =
      some ⟨commands, ["call_wrapper"], .gap⟩ := rfl
  rw [Script.toList_callLine]
  simp only [List.append_assoc]
  rw [scan_append, hwrapper, Option.bind_some, scan_append, scan_word hsafe, Option.bind_some,
    scan_append, scan_blank, Option.bind_some, scan_append, scan_word hsafe, Option.bind_some,
    scan_lineFeed]
  simp only [String.ofList_toList, Command.call, List.nil_append, List.cons_append]

omit [Quoting] in
/-- An empty line adds no command. -/
theorem scan_emptyLine : (between commands).scan ("".toList ++ ['\n']) = some (between commands) :=
  rfl

/-- An entry other than a raw line adds the call of its command, if it has one. -/
theorem scan_entry (hsafe : Quoting.IsSafe) {e : Script.Entry} (h : ∀ line, e ≠ .line line) :
    (between commands).scan e.text.toList =
      some (between (commands ++ e.command?.toList.map Command.call)) := by
  rw [Script.Entry.text, Script.toList_joinLines]
  cases e with
  | line line => exact absurd rfl (h line)
  | comment text =>
    rw [Script.Entry.lines, List.flatMap_singleton, scan_commentLine]
    simp [Script.Entry.command?]
  | job name =>
    simp only [Script.Entry.lines, List.flatMap_cons, List.flatMap_nil, List.append_nil]
    rw [scan_append, scan_commentLine, Option.bind_some, scan_emptyLine]
    simp [Script.Entry.command?]
  | command c =>
    simp only [Script.Entry.lines, List.flatMap_cons, List.flatMap_nil, List.append_nil]
    rw [scan_append, scan_commentLine, Option.bind_some, scan_append, scan_callLine _ hsafe,
      Option.bind_some, scan_emptyLine]
    simp [Script.Entry.command?]

/-- Entries without raw lines add the calls of their commands, in order. -/
theorem scan_entries (hsafe : Quoting.IsSafe) {es : List Script.Entry}
    (h : ∀ line, .line line ∉ es) :
    (between commands).scan (es.flatMap fun e => e.text.toList) =
      some (between (commands ++ (es.filterMap Script.Entry.command?).map Command.call)) := by
  induction es generalizing commands with
  | nil => simp
  | cons e es ih =>
    have he : ∀ line, e ≠ .line line := by
      rintro line rfl
      exact h line List.mem_cons_self
    have hes : ∀ line, .line line ∉ es := fun line hmem => h line (List.mem_cons_of_mem e hmem)
    rw [List.flatMap_cons, scan_append, scan_entry commands hsafe he, Option.bind_some, ih _ hes]
    cases hc : e.command? with
    | none => simp [hc]
    | some c => simp [hc]

end Shell.Reader

/-- Entries without raw lines are read as the calls of their commands. -/
theorem Shell.read_entries [Quoting] (hsafe : Quoting.IsSafe) {es : List Script.Entry}
    (h : ∀ line, .line line ∉ es) :
    Shell.read (String.join (es.map Script.Entry.text)) =
      some ((es.filterMap Script.Entry.command?).map Command.call) := by
  rw [Shell.read, String.toList_join, List.flatMap_map, Shell.Reader.scan_entries [] hsafe h]
  rfl

/-! ### Builders -/

namespace Dialogue

variable {α σ : Type}

theorem Event.entry?_ne_line (e : Event) (line : String) : e.entry? ≠ some (.line line) := by
  rcases e with (_ | _ | _ | _) | _ <;> simp [Event.entry?]

/-- The builder after the first `n` events of a run that started with the builder `b`. -/
def Run.builder (r : Run α σ) (b : Script) (n : Nat) : Script :=
  { b with entries := b.entries ++ (r.events.take n).filterMap Event.entry? }

@[simp] theorem Run.builder_zero (r : Run α σ) (b : Script) : r.builder b 0 = b := by
  simp [Run.builder]

/-- After all events, the builder holds what the run adds. -/
theorem Run.builder_length (r : Run α σ) (b : Script) :
    r.builder b r.events.length = { b with entries := b.entries ++ r.entries } := by
  rw [Run.builder, List.take_length, Run.entries]

/-- A later builder of a run adds entries to an earlier one, none of them a raw line. -/
theorem Run.exists_builder_eq (r : Run α σ) (b : Script) {m n : Nat} (h : m ≤ n) :
    ∃ es, r.builder b n = { r.builder b m with entries := (r.builder b m).entries ++ es } ∧
      ∀ line, .line line ∉ es := by
  refine ⟨((r.events.take n).drop m).filterMap Event.entry?, ?_, fun line hmem => ?_⟩
  · have hsplit : r.events.take n = r.events.take m ++ (r.events.take n).drop m := by
      calc r.events.take n
        _ = (r.events.take n).take m ++ (r.events.take n).drop m :=
          (List.take_append_drop m _).symm
        _ = r.events.take m ++ (r.events.take n).drop m := by
          rw [List.take_take, Nat.min_eq_left h]
    have hentries := congrArg (List.filterMap Event.entry?) hsplit
    rw [List.filterMap_append] at hentries
    simp only [Run.builder, List.append_assoc, ← hentries]
  · obtain ⟨e, -, he⟩ := List.mem_filterMap.1 hmem
    exact e.entry?_ne_line line he

end Dialogue

namespace Script

/-- Nothing but the header is in the text of a script without entries. -/
theorem contents_start [Quoting] (options : Options) (directory : String) :
    (start options directory).contents = header options directory := by
  have hbody : (start options directory).body = "" := String.join_nil
  rw [contents, hbody, String.append_empty]
  rfl

theorem contents_append [Quoting] (s : Script) (es : List Entry) :
    contents { s with entries := s.entries ++ es } =
      s.contents ++ String.join (es.map Entry.text) := by
  simp only [contents, body, List.map_append, String.join_append, String.append_assoc]

theorem commands_append (s : Script) (es : List Entry) :
    commands { s with entries := s.entries ++ es } =
      s.commands ++ es.filterMap Entry.command? := by
  rw [commands, List.filterMap_append, commands]

end Script

variable {σ : Type} [Prompting σ]

/-- The script that is built is the builder behind all events of the expansion. -/
theorem buildScript_eq_builder {library : Library} {path : Path} {p : Pipeline} (s : Settings)
    (hload : Pipeline.load library path = .ok p) (prompter : σ) :
    let r := (expandPipeline s library p path.directory).run prompter
    (buildScript s library path prompter).result = r.outcome.map fun
      | .continued _ => some (r.builder (.start s.script s.workingDirectory) r.events.length)
      | .terminated => none := by
  intro r
  rw [r.builder_length, buildScript, hload]
  rfl

/-- At each moment of an expansion, however it ends, the text of the builder begins with the texts
before, and the shell reads what is behind the first of them as the calls of the commands that were
added. If nothing is in the builder at first, this is all text behind the header, and these are all
commands. -/
theorem expandPipeline_contents [Quoting] (hsafe : Quoting.IsSafe) (s : Settings) (fs : FileSystem)
    (p : Pipeline) (base : Path) (prompter : σ) (b : Script) :
    let r := (expandPipeline s fs.library p base).run prompter
    (∀ m n, m ≤ n → (r.builder b m).contents.toList <+: (r.builder b n).contents.toList) ∧
      (∀ n, ∃ tail added, (r.builder b n).contents = b.contents ++ tail ∧
        (r.builder b n).commands = b.commands ++ added ∧
        Shell.read tail = some (added.map Command.call)) ∧
      ∀ options directory n, ∃ tail,
        (r.builder (.start options directory) n).contents =
          Script.header options directory ++ tail ∧
        Shell.read tail =
          some ((r.builder (.start options directory) n).commands.map Command.call) := by
  intro r
  have hadded (b : Script) (n : Nat) :
      ∃ tail added, (r.builder b n).contents = b.contents ++ tail ∧
      (r.builder b n).commands = b.commands ++ added ∧
      Shell.read tail = some (added.map Command.call) := by
    obtain ⟨es, hes, hlines⟩ := r.exists_builder_eq b (Nat.zero_le n)
    rw [r.builder_zero] at hes
    refine ⟨String.join (es.map Script.Entry.text), es.filterMap Script.Entry.command?, ?_, ?_,
      Shell.read_entries hsafe hlines⟩
    · rw [hes, Script.contents_append]
    · rw [hes, Script.commands_append]
  refine ⟨fun m n hmn => ?_, hadded b, fun options directory n => ?_⟩
  · obtain ⟨es, hes, -⟩ := r.exists_builder_eq b hmn
    rw [hes, Script.contents_append, String.toList_append]
    exact List.prefix_append _ _
  · obtain ⟨tail, added, htail, hcommands, hread⟩ := hadded (.start options directory) n
    refine ⟨tail, ?_, ?_⟩
    · rw [htail, Script.contents_start]
    · rw [hcommands, hread]
      rfl

/-- Neither a line feed in a label or in the name of a job nor a quote in a command begins another
command. -/
theorem expandPipeline_contents_multiline :
    let _ : Quoting := .posix
    let p : Pipeline := ⟨[⟨"J\nK", [⟨none, some ⟨some "a\n#b", none, "it's $x"⟩⟩], true⟩]⟩
    let r := (expandPipeline {} (FileSystem.empty []).library p ⟨"/"⟩).run (⟨""⟩ : Unattended)
    Quoting.IsSafe ∧ ∃ tail, (r.builder (.start {} "/") 2).contents = Script.header {} "/" ++ tail ∧
      Shell.read tail = some [["call_wrapper", "a\n#b", "it's $x"]] := by
  intro posix p r
  have hcommands : (r.builder (.start {} "/") 2).commands = [⟨"a\n#b", "it's $x"⟩] := by
    decide +kernel
  obtain ⟨-, -, htail⟩ := expandPipeline_contents Quoting.isSafe_posix {} (FileSystem.empty []) p
    ⟨"/"⟩ (⟨""⟩ : Unattended) (.start {} "/")
  obtain ⟨tail, hcontents, hread⟩ := htail {} "/" 2
  refine ⟨Quoting.isSafe_posix, tail, hcontents, ?_⟩
  rw [hread, hcommands]
  rfl

end PipelineScript
