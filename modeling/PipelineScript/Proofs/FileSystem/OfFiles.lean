import PipelineScript.Proofs.FileSystem.Reading

/-!
# File systems of given files

A list of files stands for the file system of these files and of the directories on the way to
them. The current directory is the root.
-/

namespace PipelineScript.FileSystem

/-- The file system of files with these texts, each at its location. -/
def ofFiles (files : List (Location × String)) : FileSystem where
  current := []
  entry l :=
    match files.lookup l with
    | some text => some (.file ⟨some text, false⟩)
    | none => if files.any fun f => l.isPrefixOf f.1 then some .directory else none

theorem mem_of_lookup {files : List (Location × String)} {l : Location} {text : String}
    (h : files.lookup l = some text) : (l, text) ∈ files := by
  obtain ⟨before, behind, rfl, -⟩ := List.lookup_eq_some_iff.1 h
  exact List.mem_append_right before List.mem_cons_self

/-- Files of which none is above another are in a tree. -/
theorem isTree_ofFiles {files : List (Location × String)}
    (h : ∀ f ∈ files, ∀ f' ∈ files, f.1 <+: f'.1 → f.1 = f'.1) : (ofFiles files).IsTree := by
  intro l name hentry
  obtain ⟨f, hf, hbelow⟩ : ∃ f ∈ files, l ++ [name] <+: f.1 := by
    rw [ofFiles] at hentry
    cases hlookup : files.lookup (l ++ [name]) with
    | some text => exact ⟨_, mem_of_lookup hlookup, List.prefix_rfl⟩
    | none =>
      have hany : files.any fun f => (l ++ [name]).isPrefixOf f.1 := by
        by_contra hany
        simp [hlookup, hany] at hentry
      obtain ⟨f, hf, hprefix⟩ := List.any_eq_true.1 hany
      exact ⟨f, hf, List.isPrefixOf_iff_prefix.1 hprefix⟩
  have habove : l <+: f.1 := (List.prefix_append l [name]).trans hbelow
  have hnone : files.lookup l = none := by
    by_contra hsome
    obtain ⟨text, htext⟩ := Option.ne_none_iff_exists'.1 hsome
    have hlength := hbelow.length_le
    rw [← h _ (mem_of_lookup htext) f hf habove, List.length_append,
      List.length_singleton] at hlength
    exact Nat.not_succ_le_self _ hlength
  have hany : files.any fun f => l.isPrefixOf f.1 :=
    List.any_eq_true.2 ⟨f, hf, List.isPrefixOf_iff_prefix.2 habove⟩
  simp only [ofFiles, hnone, hany, if_true]

/-- The file system of files in a directory. -/
def ofFilesIn (l : Location) (files : List (Location × String)) : FileSystem :=
  ofFiles (files.map fun f => (l ++ f.1, f.2))

/-- Whatever the directory is, the same is in it. -/
theorem ofFilesIn_entry_append (l m : Location) (files : List (Location × String)) :
    (ofFilesIn l files).entry (l ++ m) = (ofFiles files).entry m := by
  have hprefix (k : Location) : (l ++ m).isPrefixOf (l ++ k) = m.isPrefixOf k := by
    clear files
    induction l with
    | nil => rfl
    | cons name l ih => simpa using ih
  have hlookup : (files.map fun f => (l ++ f.1, f.2)).lookup (l ++ m) = files.lookup m := by
    induction files with
    | nil => rfl
    | cons f files ih =>
      have hbeq : (l ++ m == l ++ f.1) = (m == f.1) := by
        rw [Bool.eq_iff_iff]
        simp
      rw [List.map_cons, List.lookup_cons, List.lookup_cons, ih, hbeq]
  simp only [ofFilesIn, ofFiles, hlookup, List.any_map, Function.comp_def, hprefix]

end PipelineScript.FileSystem
