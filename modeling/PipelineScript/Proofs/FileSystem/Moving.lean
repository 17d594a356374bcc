import PipelineScript.Proofs.FileSystem.Reading
import PipelineScript.Proofs.Path.Below

/-!
# A tree in another place

The same tree may be found in two places. A reference that leads down from there is followed to the
same place in the tree, so the same is read, unless only one of the two paths is too long. A file
that is read has its name from the reference, and so has the directory in which its own references
are made.
-/

namespace PipelineScript.FileSystem

open PipelineScript.Path

variable {fs fs' : FileSystem} {directory directory' : Path} {l l' m : Location}
  {reference : String}

/-- The path begins at the root and leads to the location, if it is not too long. -/
structure LeadsTo (fs : FileSystem) (directory : Path) (l : Location) : Prop where
  absolute : directory.isAbsolute = true
  named : ∀ k ∈ directory.segments, '\x00' ∉ k.toList
  walked : fs.walk [] directory.segments = .ok l

theorem start_of_absolute {p : Path} (h : p.isAbsolute = true) :
    fs.start p =
      if ∃ k ∈ p.segments, '\x00' ∈ k.toList then .error .nulInName
      else if maxPathBytes ≤ p.text.utf8ByteSize then .error .nameTooLong
      else .ok [] := by
  have hempty : p.text.isEmpty = false := by simpa using text_ne_empty h
  simp [start, h, hempty, ← mem_text_iff (show '\x00' ≠ '/' by decide)]

/-- A walk over segments that lead nowhere ends where it begins. -/
theorem eq_of_walk_trivial {segments : List String} (h : ∀ k ∈ segments, isTrivial k = true)
    (hwalk : fs.walk l segments = .ok m) : l = m := by
  have hfilter : segments.filter (!isTrivial ·) = [] := by simpa using h
  have hwalk := walk_filter hwalk
  rw [hfilter] at hwalk
  exact Except.ok.inj hwalk

/-- Walks come from where the first of them ends. -/
theorem walk_append_eq_ok {here : Location} {segments segments' : List String} :
    fs.walk here (segments ++ segments') = .ok l ↔
      ∃ m, fs.walk here segments = .ok m ∧ fs.walk m segments' = .ok l := by
  rw [walk_append]
  cases fs.walk here segments <;> simp [Except.bind]

namespace LeadsTo

theorem of_locate (h : directory.isAbsolute = true) (hl : fs.locate directory = .ok l) :
    LeadsTo fs directory l := by
  rw [locate, start_of_absolute h] at hl
  split_ifs at hl with hnul hlong
  · cases hl
  · cases hl
  · exact ⟨h, by simpa using hnul, hl⟩

protected theorem locate (h : LeadsTo fs directory l)
    (hlength : directory.text.utf8ByteSize < maxPathBytes) : fs.locate directory = .ok l := by
  have hnul : ¬∃ k ∈ directory.segments, '\x00' ∈ k.toList := by simpa using h.named
  rw [FileSystem.locate, start_of_absolute h.absolute, if_neg hnul, if_neg (Nat.not_le.2 hlength)]
  exact h.walked

/-- Dots behind a directory lead nowhere. -/
theorem withDots (h : LeadsTo fs directory l) (hl : fs.entry l = some .directory) (n : Nat) :
    LeadsTo fs (directory.withDots n) l := by
  obtain ⟨body, hbody, hsegments⟩ := isAbsolute_iff_segments.1 h.absolute
  refine ⟨isAbsolute_iff_segments.2 ⟨body ++ List.replicate n ".", by simp [hbody], ?_⟩,
    fun k hk => ?_, ?_⟩
  · rw [segments_withDots, hsegments, List.cons_append]
  · rw [segments_withDots, List.mem_append] at hk
    rcases hk with hk | hk
    · exact h.named k hk
    · rw [List.eq_of_mem_replicate hk]
      decide
  · rw [segments_withDots, walk_append_eq_ok]
    refine ⟨l, h.walked, ?_⟩
    induction n with
    | zero => rfl
    | succ n ih =>
      rw [List.replicate_succ, walk_cons hl]
      exact ih

theorem trimmed (h : LeadsTo fs directory l) : LeadsTo fs directory.trimmed l := by
  obtain ⟨ks, rest, hsegments, -, hrest, htrimmed⟩ := segments_trimmed h.absolute
  have hwalk := h.walked
  rw [hsegments, ← List.cons_append, walk_append_eq_ok] at hwalk
  obtain ⟨m, hks, hwalk⟩ := hwalk
  obtain rfl := eq_of_walk_trivial hrest hwalk
  refine ⟨isAbsolute_trimmed h.absolute, fun k hk => ?_, ?_⟩
  · obtain rfl | hk : k = "" ∨ k ∈ ks := by
      rw [htrimmed] at hk
      split_ifs at hk <;> simp at hk <;> tauto
    · decide
    · refine h.named k ?_
      rw [hsegments]
      exact List.mem_cons_of_mem _ (List.mem_append_left _ hk)
  · rw [htrimmed, ← List.cons_append, walk_append_eq_ok]
    refine ⟨m, hks, ?_⟩
    split_ifs with hempty
    · subst hempty
      obtain rfl := eq_of_walk_trivial (by simp [isTrivial]) hks
      exact hks
    · rfl

/-- A reference from a directory is followed from its location. -/
theorem locate_join (h : LeadsTo fs directory l)
    (hreference : (Path.mk reference).isAbsolute = false) :
    fs.locate (directory.join reference) =
      if ∃ k ∈ (Path.mk reference).segments, '\x00' ∈ k.toList then .error .nulInName
      else if maxPathBytes ≤ (directory.join reference).text.utf8ByteSize then .error .nameTooLong
      else fs.walk l (Path.mk reference).segments := by
  obtain ⟨stem, hstem, hjoin⟩ := exists_segments_join h.absolute
  have hsegments := hjoin reference hreference
  have habsolute : (directory.join reference).isAbsolute = true :=
    isAbsolute_iff_segments.2 ⟨_, by simp [segments_ne_nil], hsegments⟩
  have hwalk : fs.walk [] ("" :: stem) = .ok l := by
    have hwalk := h.walked
    rcases hstem with hstem | hstem
    · rw [← hwalk, hstem]
    · rw [hstem, walk_append_eq_ok] at hwalk
      obtain ⟨m, hm, hwalk⟩ := hwalk
      obtain rfl := eq_of_walk_trivial (by simp [isTrivial]) hwalk
      exact hm
  have hnul : ∀ k ∈ "" :: stem, '\x00' ∉ k.toList := by
    intro k hk
    refine h.named k ?_
    rcases hstem with hstem | hstem <;> rw [hstem]
    · exact hk
    · exact List.mem_append_left _ hk
  have hiff : (∃ k ∈ (directory.join reference).segments, '\x00' ∈ k.toList) ↔
      ∃ k ∈ (Path.mk reference).segments, '\x00' ∈ k.toList := by
    rw [hsegments]
    constructor
    · rintro ⟨k, hk, hchar⟩
      rcases List.mem_append.1 hk with hk | hk
      · exact absurd hchar (hnul k hk)
      · exact ⟨k, hk, hchar⟩
    · rintro ⟨k, hk, hchar⟩
      exact ⟨k, List.mem_append_right _ hk, hchar⟩
  rw [locate, start_of_absolute habsolute]
  simp only [hiff]
  split_ifs
  · rfl
  · rfl
  · show fs.walk [] _ = _
    rw [hsegments, walk_append, hwalk]
    rfl

end LeadsTo

/-! ### The same tree in two places -/

/-- The directories of two file systems are there, and the same is below them. -/
def SameTree (fs : FileSystem) (directory : Path) (fs' : FileSystem) (directory' : Path) : Prop :=
  ∃ l l', fs.locate directory = .ok l ∧ fs'.locate directory' = .ok l' ∧
    ∀ m, fs.entry (l ++ m) = fs'.entry (l' ++ m)

section SameTree

variable (hsame : ∀ m, fs.entry (l ++ m) = fs'.entry (l' ++ m))
include hsame

/-- Segments that lead nowhere up lead to the same place in the tree, or nowhere for the same
reason. -/
theorem walk_sameTree {segments : List String} (hdown : ".." ∉ segments) (m : Location) :
    ∃ place : Except FileFault Location, fs.walk (l ++ m) segments = place.map (l ++ ·) ∧
      fs'.walk (l' ++ m) segments = place.map (l' ++ ·) := by
  induction segments generalizing m with
  | nil => exact ⟨.ok m, rfl, rfl⟩
  | cons s segments ih =>
    rw [List.mem_cons, not_or] at hdown
    cases hentry : fs.entry (l ++ m) with
    | none =>
      refine ⟨.error .notFound, ?_, ?_⟩
      · rw [walk, hentry]
        rfl
      · rw [walk, ← hsame, hentry]
        rfl
    | some e =>
      cases e with
      | file f =>
        refine ⟨.error .notDirectory, ?_, ?_⟩
        · rw [walk, hentry]
          rfl
        · rw [walk, ← hsame, hentry]
          rfl
      | directory =>
        rw [walk_cons hentry, walk_cons ((hsame m).symm.trans hentry), List.append_assoc,
          List.append_assoc, ← hsame]
        split_ifs with htrivial hparent hlong hmissing
        · exact ih hdown.2 m
        · exact absurd hparent.symm hdown.1
        · exact ⟨.error .nameTooLong, rfl, rfl⟩
        · exact ⟨.error .notFound, rfl, rfl⟩
        · exact ih hdown.2 (m ++ [s])

/-- A reference is read alike in two places unless only one of its paths is too long. -/
theorem read_join_sameTree (h : LeadsTo fs directory l) (h' : LeadsTo fs' directory' l')
    (hreference : LeadsDown reference)
    (hlength : (directory.join reference).text.utf8ByteSize < maxPathBytes ↔
      (directory'.join reference).text.utf8ByteSize < maxPathBytes) :
    fs.read (directory.join reference) = fs'.read (directory'.join reference) := by
  have hlong := not_congr hlength
  rw [Nat.not_lt, Nat.not_lt] at hlong
  rw [read, read, h.locate_join hreference.relative, h'.locate_join hreference.relative]
  simp only [hlong]
  split_ifs
  · rfl
  · rfl
  · obtain ⟨place, hplace, hplace'⟩ := walk_sameTree hsame hreference.down []
    rw [List.append_nil] at hplace hplace'
    rw [hplace, hplace']
    cases place with
    | error e => rfl
    | ok m =>
      simp only [Except.map, bind, Except.bind, hsame]

end SameTree

/-- A reference to a file that is read has a name. -/
theorem exists_name_of_read (h : LeadsTo fs directory l) (hreference : LeadsDown reference)
    {text : String} (hread : fs.read (directory.join reference) = .ok text) :
    ∃ k ∈ (Path.mk reference).segments, isTrivial k = false := by
  by_contra hnone
  push Not at hnone
  obtain ⟨m, f, hlocate, hfile, -⟩ := read_cases hread
  rw [h.locate_join hreference.relative] at hlocate
  split_ifs at hlocate
  obtain rfl := eq_of_walk_trivial (by simpa using hnone) hlocate
  -- The location of the directory has been gone through, so no file is there.
  obtain ⟨k, ks, hsegments⟩ := List.exists_cons_of_ne_nil (segments_ne_nil ⟨reference⟩)
  rw [hsegments] at hlocate
  rw [entry_of_walk_cons hlocate] at hfile
  cases hfile

end PipelineScript.FileSystem
