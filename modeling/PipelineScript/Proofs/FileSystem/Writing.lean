import Mathlib.Tactic.Common
import PipelineScript.FileSystem

/-!
# Writing a file

A file is written at one location, to which its path leads from then on. What is at other locations
stays as it is. The location was no directory before, so whatever was passed on the way to it is
passed as before.
-/

namespace PipelineScript.FileSystem

variable {fs : FileSystem} {here l l' : Location} {e : Entry} {p : Path} {segments : List String}

@[simp] theorem set_entry_self (fs : FileSystem) (l : Location) (e : Entry) :
    (fs.set l e).entry l = some e := by
  simp [set]

@[simp] theorem set_entry_of_ne (fs : FileSystem) (e : Entry) (h : l' ≠ l) :
    (fs.set l e).entry l' = fs.entry l' := by
  simp [set, h]

/-- The second of two entries that are put at one location stays there. -/
@[simp] theorem set_set (fs : FileSystem) (l : Location) (e e' : Entry) :
    (fs.set l e).set l e' = fs.set l e' := by
  simp only [set]
  congr 1
  funext m
  split_ifs <;> rfl

/-- Nothing goes away when an entry is put somewhere. -/
theorem set_entry_not_isNone (h : ¬(fs.entry l').isNone) : ¬((fs.set l e).entry l').isNone := by
  by_cases heq : l' = l
  · simp [heq]
  · rwa [set_entry_of_ne fs e heq]

@[simp] theorem set_start (fs : FileSystem) (l : Location) (e : Entry) (p : Path) :
    (fs.set l e).start p = fs.start p := rfl

theorem find?_of_locate (h : fs.locate p = .ok l) : fs.find? p = fs.entry l := by
  rw [find?, h]

theorem makeExecutable_of_file {f : File} (hl : fs.locate p = .ok l)
    (hf : fs.entry l = some (.file f)) :
    fs.makeExecutable p = .ok (fs.set l (.file { f with executable := true })) := by
  simp only [makeExecutable, hl, hf, bind, Except.bind]
  rfl

/-! ### Walks -/

/-- The way through a directory to a segment and on. -/
theorem walk_cons (h : fs.entry here = some .directory) (s : String) (segments : List String) :
    fs.walk here (s :: segments) =
      if Path.isTrivial s then fs.walk here segments
      else if s = ".." then fs.walk here.dropLast segments
      else if maxNameBytes < s.utf8ByteSize then .error .nameTooLong
      else if (fs.entry (here ++ [s])).isNone then .error .notFound
      else fs.walk (here ++ [s]) segments := by
  rw [walk, h]

/-- A walk with a segment begins in a directory. -/
theorem entry_of_walk_cons {s : String} (h : fs.walk here (s :: segments) = .ok l) :
    fs.entry here = some .directory := by
  rw [walk] at h
  split at h
  · cases h
  · cases h
  · assumption

theorem walk_append (here : Location) (segments segments' : List String) :
    fs.walk here (segments ++ segments') =
      (fs.walk here segments).bind fun l => fs.walk l segments' := by
  induction segments generalizing here with
  | nil => rfl
  | cons s segments ih =>
    cases hentry : fs.entry here with
    | none => simp [walk, hentry, Except.bind]
    | some e =>
      cases e with
      | file f => simp [walk, hentry, Except.bind]
      | directory =>
        rw [List.cons_append, walk_cons hentry, walk_cons hentry]
        split_ifs
        · exact ih here
        · exact ih here.dropLast
        · rfl
        · rfl
        · exact ih (here ++ [s])

/-- A walk passes through directories, so it goes on as before if something that was no directory is
replaced. -/
theorem walk_set (hl : fs.entry l ≠ some .directory) (h : fs.walk here segments = .ok l') :
    (fs.set l e).walk here segments = .ok l' := by
  induction segments generalizing here with
  | nil => exact h
  | cons s segments ih =>
    have hhere := entry_of_walk_cons h
    have hne : here ≠ l := by
      rintro rfl
      exact hl hhere
    rw [walk_cons hhere] at h
    rw [walk_cons (by rw [set_entry_of_ne fs e hne, hhere])]
    split_ifs at h with htrivial hparent hlong hmissing
    · rw [if_pos htrivial]
      exact ih h
    · rw [if_neg htrivial, if_pos hparent]
      exact ih h
    · rw [if_neg htrivial, if_neg hparent, if_neg hlong, if_neg (set_entry_not_isNone hmissing)]
      exact ih h

/-! ### The location of a file -/

/-- The location where a file is written: a name in the directory to which the segments before
lead. -/
theorem writeLocation_cases (h : fs.writeLocation p = .ok l) :
    ∃ start outer directory name, fs.start p = .ok start ∧ p.segments = outer ++ [name] ∧
      fs.walk start outer = .ok directory ∧ fs.entry directory = some .directory ∧
      l = directory ++ [name] ∧ Path.isTrivial name = false ∧ name ≠ ".." ∧
      name.utf8ByteSize ≤ maxNameBytes ∧ fs.entry l ≠ some .directory := by
  rw [writeLocation] at h
  cases hstart : fs.start p with
  | error f => simp [hstart, bind, Except.bind] at h
  | ok start =>
  cases hname : p.segments.reverse.dropWhile String.isEmpty with
  | nil => simp [hstart, hname, bind, Except.bind] at h
  | cons name outer =>
  cases hwalk : fs.walk start (outer.reverse ++ ["."]) with
  | error f => simp [hstart, hname, hwalk, bind, Except.bind] at h
  | ok directory =>
  simp only [hstart, hname, hwalk, bind, Except.bind] at h
  split_ifs at h with hslash hlong hdirectory
  cases h
  simp only [Bool.or_eq_true, decide_eq_true_eq, not_or] at hslash
  obtain ⟨⟨hdot, hparent⟩, hlast⟩ := hslash
  -- No slash is at the end, so nothing was dropped.
  have hreverse : p.segments.reverse = name :: outer := by
    rw [← hname]
    cases hsegments : p.segments.reverse with
    | nil => rfl
    | cons s rest =>
      rw [hsegments, List.head?_cons, Option.some.injEq] at hlast
      rw [List.dropWhile_cons_of_neg (by rwa [String.isEmpty_iff])]
  have hempty : name ≠ "" := by
    rwa [hreverse, List.head?_cons, Option.some.injEq] at hlast
  have hsegments : p.segments = outer.reverse ++ [name] := by
    rw [← List.reverse_reverse p.segments, hreverse, List.reverse_cons]
  rw [walk_append] at hwalk
  cases houter : fs.walk start outer.reverse with
  | error f => simp [houter, Except.bind] at hwalk
  | ok d =>
    rw [houter] at hwalk
    have hd := entry_of_walk_cons hwalk
    have hwalked : fs.walk d ["."] = .ok d := by
      rw [walk_cons hd]
      rfl
    obtain rfl : d = directory := Except.ok.inj (hwalked.symm.trans hwalk)
    exact ⟨start, outer.reverse, d, name, rfl, hsegments, houter, hd, rfl,
      by simp [Path.isTrivial, hempty, hdot], hparent, Nat.le_of_not_lt hlong, hdirectory⟩

/-- What is written is at a location that was no directory, to which the path leads, and nothing is
changed anywhere else. -/
theorem write_cases {text : String} {fs' : FileSystem} (h : fs.write p text = .ok fs') :
    ∃ l executable, fs.entry l ≠ some .directory ∧
      fs' = fs.set l (.file ⟨some text, executable⟩) ∧ ∀ e, (fs.set l e).locate p = .ok l := by
  rw [write] at h
  cases hl : fs.writeLocation p with
  | error f => simp [hl, bind, Except.bind] at h
  | ok l =>
  rw [hl] at h
  obtain rfl : fs.set l (written (fs.entry l) text) = fs' := Except.ok.inj h
  obtain ⟨start, outer, directory, name, hstart, hsegments, houter, hdirectory, rfl, htrivial,
    hparent, hlong, hne⟩ := writeLocation_cases hl
  refine ⟨_, _, hne, rfl, fun e => ?_⟩
  have hother : directory ≠ directory ++ [name] := by simp
  have hlast : (fs.set (directory ++ [name]) e).walk directory [name] =
      .ok (directory ++ [name]) := by
    rw [walk_cons (by rw [set_entry_of_ne fs e hother, hdirectory]), htrivial, if_neg hparent,
      if_neg (Nat.not_lt.2 hlong), set_entry_self]
    rfl
  rw [locate, set_start, hstart, hsegments]
  show walk _ _ _ = _
  rw [walk_append, walk_set hne houter]
  exact hlast

/-- A file that has just been written can be made executable, so the second step of writing a script
never fails behind the first. -/
theorem makeExecutable_of_write {text : String} {fs' : FileSystem}
    (h : fs.write p text = .ok fs') :
    ∃ l, fs.entry l ≠ some .directory ∧ (fs.set l (.file ⟨some text, true⟩)).locate p = .ok l ∧
      fs'.makeExecutable p = .ok (fs.set l (.file ⟨some text, true⟩)) := by
  obtain ⟨l, executable, hne, rfl, hlocate⟩ := write_cases h
  refine ⟨l, hne, hlocate _, ?_⟩
  rw [makeExecutable_of_file (hlocate _) (set_entry_self fs l _), set_set]

end PipelineScript.FileSystem
