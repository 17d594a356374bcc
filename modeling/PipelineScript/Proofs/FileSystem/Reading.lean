import Mathlib.Data.List.Basic
import PipelineScript.Build
import PipelineScript.Proofs.FileSystem.Writing
import PipelineScript.Proofs.Path.Components

/-!
# Reading by another spelling of a path

Two spellings of a path with the same components need not be read alike: one may be too long, or
ask for a directory by a slash at its end. But if both are read, the same file is. However the path
is spelled, the last of its names is that of the file.
-/

namespace PipelineScript.FileSystem

variable {fs : FileSystem} {here l l' : Location} {p q : Path}

/-- Segments that lead nowhere may be left out of a walk. -/
theorem walk_filter {segments : List String} (h : fs.walk here segments = .ok l) :
    fs.walk here (segments.filter (!Path.isTrivial ·)) = .ok l := by
  induction segments generalizing here with
  | nil => exact h
  | cons s segments ih =>
    have hhere := entry_of_walk_cons h
    rw [walk_cons hhere] at h
    split_ifs at h with htrivial hparent hlong hmissing
    · rw [List.filter_cons_of_neg (by simp [htrivial])]
      exact ih h
    all_goals rw [List.filter_cons_of_pos (by simp [htrivial]), walk_cons hhere, if_neg htrivial]
    · rw [if_pos hparent]
      exact ih h
    · rw [if_neg hparent, if_neg hlong, if_neg hmissing]
      exact ih h

/-- A path begins at the root or in the current directory. -/
theorem eq_of_start (h : fs.start p = .ok here) :
    here = if p.components.1 = "/" then [] else fs.current := by
  rw [start] at h
  split_ifs at h with hnul hempty hlong habsolute
  · rw [if_pos (Path.isAbsolute_iff.1 habsolute)]
    exact (Except.ok.inj h).symm
  · rw [if_neg fun hroot => habsolute (Path.isAbsolute_iff.2 hroot)]
    exact (Except.ok.inj h).symm

/-- A path that leads somewhere leads there by its names alone. -/
theorem walk_of_locate (h : fs.locate p = .ok l) :
    fs.walk (if p.components.1 = "/" then [] else fs.current) p.components.2 = .ok l := by
  rw [locate] at h
  cases hstart : fs.start p with
  | error e =>
    rw [hstart] at h
    cases h
  | ok here =>
    rw [hstart] at h
    rw [← eq_of_start hstart]
    exact walk_filter h

/-- Spellings of a path lead to one location, if they lead anywhere. -/
theorem locate_unique (hcomponents : p.components = q.components) (hp : fs.locate p = .ok l)
    (hq : fs.locate q = .ok l') : l = l' := by
  have hwalk := walk_of_locate hp
  rw [hcomponents, walk_of_locate hq] at hwalk
  exact (Except.ok.inj hwalk).symm

/-- A text that is read is in the file to which the path leads. -/
theorem read_cases {text : String} (h : fs.read p = .ok text) :
    ∃ l f, fs.locate p = .ok l ∧ fs.entry l = some (.file f) ∧ f.text = some text := by
  rw [read] at h
  cases hl : fs.locate p with
  | error e =>
    rw [hl] at h
    cases h
  | ok l =>
    rw [hl] at h
    simp only [bind, Except.bind] at h
    split at h
    · cases h
    · cases h
    · rename_i f hf
      split at h
      · rename_i text' htext
        cases h
        exact ⟨l, f, rfl, hf, htext⟩
      · cases h

/-- A definition that is loaded is the text that is read. -/
theorem library_cases {n : Node} (h : fs.library p = .ok n) :
    ∃ text, fs.read p = .ok text ∧ Node.parse text = .ok n := by
  rw [library] at h
  split at h
  · cases h
  · rename_i text hread
    split at h
    · cases h
    · rename_i n' hparse
      cases h
      exact ⟨text, hread, hparse⟩

/-- Spellings of a path have one definition, if they have any. -/
theorem library_unique (hcomponents : p.components = q.components) {n n' : Node}
    (hp : fs.library p = .ok n) (hq : fs.library q = .ok n') : n = n' := by
  obtain ⟨text, hread, hn⟩ := library_cases hp
  obtain ⟨text', hread', hn'⟩ := library_cases hq
  obtain ⟨l, f, hl, hf, htext⟩ := read_cases hread
  obtain ⟨l', f', hl', hf', htext'⟩ := read_cases hread'
  obtain rfl := locate_unique hcomponents hl hl'
  obtain rfl : f = f' := by simpa [hf] using hf'
  obtain rfl : text = text' := by simpa [htext] using htext'
  exact Except.ok.inj (hn.symm.trans hn')

/-- Whatever there is lies in a directory. -/
def IsTree (fs : FileSystem) : Prop :=
  ∀ l name, fs.entry (l ++ [name]) ≠ none → fs.entry l = some .directory

/-- What is above a directory is no file. -/
theorem IsTree.entry_dropLast (h : fs.IsTree) (hl : fs.entry l = some .directory) :
    fs.entry l.dropLast = some .directory := by
  obtain rfl | ⟨outer, name, rfl⟩ := l.eq_nil_or_concat'
  · exact hl
  · rw [List.dropLast_concat]
    exact h outer name (by simp [hl])

/-- A path of which no names are left leads to a directory, where it begins. -/
theorem entry_of_locate_of_names_eq_nil (h : fs.locate p = .ok l) (hnames : p.components.2 = []) :
    fs.entry l = some .directory := by
  have hwalk := walk_of_locate h
  rw [hnames] at hwalk
  obtain ⟨segment, rest, hsegments⟩ := List.exists_cons_of_ne_nil p.segments_ne_nil
  rw [locate, hsegments] at h
  cases hstart : fs.start p with
  | error e =>
    rw [hstart] at h
    cases h
  | ok here =>
    rw [hstart] at h
    rw [← eq_of_start hstart] at hwalk
    rw [← Except.ok.inj hwalk]
    exact entry_of_walk_cons h

/-- The path of a file that is read has the name of the file at its end. -/
theorem exists_fileName_of_read {text : String} (htree : fs.IsTree) (h : fs.read p = .ok text) :
    ∃ name, p.fileName? = some name := by
  obtain ⟨l, f, hlocate, hfile, -⟩ := read_cases h
  rw [Path.fileName?_eq]
  obtain hnames | ⟨outer, name, hnames⟩ := p.components.2.eq_nil_or_concat'
  · rw [entry_of_locate_of_names_eq_nil hlocate hnames] at hfile
    cases hfile
  · have hwalk := walk_of_locate hlocate
    rw [hnames, walk_append] at hwalk
    cases hm : fs.walk (if p.components.1 = "/" then [] else fs.current) outer with
    | error e =>
      rw [hm] at hwalk
      cases hwalk
    | ok m =>
      rw [hm] at hwalk
      have hlast : fs.walk m [name] = .ok l := hwalk
      have hdirectory := entry_of_walk_cons hlast
      -- A path that ends by leading up leads to a directory, since files are not passed through.
      have hdown : name ≠ ".." := by
        rintro rfl
        rw [walk_cons hdirectory, if_neg (by decide), if_pos rfl, walk] at hlast
        obtain rfl := Except.ok.inj hlast
        rw [htree.entry_dropLast hdirectory] at hfile
        cases hfile
      exact ⟨name, by rw [hnames, List.getLast?_concat, Option.bind_some, if_neg hdown]⟩

/-- A definition that is loaded is in a file, whose name is at the end of the path. -/
theorem exists_fileName_of_library {n : Node} (htree : fs.IsTree) (h : fs.library p = .ok n) :
    ∃ name, p.fileName? = some name := by
  obtain ⟨text, hread, -⟩ := library_cases h
  exact exists_fileName_of_read htree hread

/-- A template that is read is described by a node. -/
theorem exists_node {t : Template} (h : (fs.library p).map Template.ofNode = .ok t) :
    ∃ n, fs.library p = .ok n ∧ Template.ofNode n = t := by
  cases hn : fs.library p with
  | error e =>
    rw [hn] at h
    cases h
  | ok n =>
    rw [hn] at h
    exact ⟨n, rfl, Except.ok.inj h⟩

end PipelineScript.FileSystem
