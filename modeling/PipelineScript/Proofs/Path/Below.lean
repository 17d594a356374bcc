import Mathlib.Data.List.DropRight
import PipelineScript.Proofs.Path.Components

/-!
# Paths below a directory

A reference that leads down is put behind a directory, and nothing in it depends on what the
directory is. So the directory of the resulting path, the name of its file and the paths of further
references from there are found in the same way below every directory. Slashes and dots that stand
at the end of a directory are the exception: they are lost with the last name behind them.
-/

namespace PipelineScript.Path

/-! ### Texts and segments -/

theorem intercalate_split (cs : List Char) : ['/'].intercalate (split cs) = cs := by
  induction cs with
  | nil => rfl
  | cons c cs ih =>
    by_cases hc : c = '/'
    · obtain ⟨s, ss, hs⟩ := List.exists_cons_of_ne_nil (split_ne_nil cs)
      rw [hs] at ih
      rw [split, if_pos hc, hs, List.intercalate_cons_cons, ih, hc]
      rfl
    · obtain ⟨s, ss, hs, hcons⟩ := split_cons hc cs
      rw [hs] at ih
      rw [hcons, ← ih]
      cases ss <;> rfl

theorem split_injective : Function.Injective split :=
  Function.LeftInverse.injective intercalate_split

/-- Paths with the same segments are written in the same way. -/
theorem eq_of_segments {p q : Path} (h : p.segments = q.segments) : p = q := by
  have hsplit := congrArg (List.map String.toList) h
  simp only [segments, List.map_map, Function.comp_def, String.toList_ofList,
    List.map_id'] at hsplit
  exact congrArg mk (String.toList_inj.1 (split_injective hsplit))

theorem segments_append_slash (a b : String) :
    segments ⟨a ++ "/" ++ b⟩ = segments ⟨a⟩ ++ segments ⟨b⟩ := by
  have htext : (a ++ "/" ++ b).toList = a.toList ++ '/' :: b.toList := by simp
  rw [segments, htext, split_append_slash, List.map_append, segments, segments]

theorem slash_not_mem_segments {p : Path} {k : String} (h : k ∈ p.segments) : '/' ∉ k.toList := by
  obtain ⟨s, hs, rfl⟩ := List.mem_map.1 h
  rw [String.toList_ofList]
  exact slash_not_mem_of_mem_split hs

/-- A character that is no slash is in a path if it is in a segment. -/
theorem mem_text_iff {c : Char} (hc : c ≠ '/') (p : Path) :
    c ∈ p.text.toList ↔ ∃ k ∈ p.segments, c ∈ k.toList := by
  have hsplit (cs : List Char) : c ∈ cs ↔ ∃ s ∈ split cs, c ∈ s := by
    induction cs with
    | nil => simp [split]
    | cons d cs ih =>
      by_cases hd : d = '/'
      · rw [split, if_pos hd, List.mem_cons, ih]
        simp [hd, hc]
      · obtain ⟨s, ss, hs, hcons⟩ := split_cons hd cs
        rw [List.mem_cons, ih, hs, hcons]
        simp [or_assoc]
  rw [hsplit]
  simp [segments]

/-- Segments that are joined by slashes are the segments of the result. -/
theorem segments_intercalate {ks : List String} (hne : ks ≠ []) (h : ∀ k ∈ ks, '/' ∉ k.toList) :
    segments ⟨"/".intercalate ks⟩ = ks := by
  cases ks with
  | nil => exact absurd rfl hne
  | cons k ks =>
    rw [segments, split_intercalate h, List.map_map]
    simp [Function.comp_def]

/-- A path that begins at the root is known by the segments behind the first slash. -/
theorem front_of_segments {p : Path} {body : List String} (h : p.segments = "" :: body)
    (hbody : body ≠ []) : p.front = ("/", body) := by
  obtain ⟨s, ss, hsplit⟩ := List.exists_cons_of_ne_nil (split_ne_nil p.text.toList)
  rw [segments, hsplit, List.map_cons, List.cons.injEq] at h
  obtain rfl : s = [] := by simpa using h.1
  rcases eq_or_append_slash_of_split hsplit with htext | ⟨ds, htext⟩
  · rw [htext, split, List.cons.injEq] at hsplit
    rw [← h.2, ← hsplit.2] at hbody
    exact absurd rfl hbody
  · rw [htext, List.nil_append, split, if_pos rfl, List.cons.injEq] at hsplit
    rw [front, htext, ← h.2, ← hsplit.2]
    rfl

/-- The segments of a path that begins at the root. -/
theorem segments_of_isAbsolute {p : Path} (h : p.isAbsolute = true) :
    ∃ body, body ≠ [] ∧ p.segments = "" :: body ∧ p.front = ("/", body) := by
  rw [isAbsolute, decide_eq_true_iff, List.head?_eq_some_iff] at h
  obtain ⟨cs, hcs⟩ := h
  have hsegments : p.segments = "" :: (split cs).map String.ofList := by
    rw [segments, hcs, split, if_pos rfl]
    rfl
  have hne : (split cs).map String.ofList ≠ [] := by simp [split_ne_nil]
  exact ⟨_, hne, hsegments, front_of_segments hsegments hne⟩

/-! ### References that lead down -/

/-- The reference does not begin at the root, and it leads nowhere up. -/
structure LeadsDown (reference : String) : Prop where
  relative : (Path.mk reference).isAbsolute = false
  down : ".." ∉ (Path.mk reference).segments

instance (reference : String) : Decidable (LeadsDown reference) :=
  decidable_of_iff
    ((Path.mk reference).isAbsolute = false ∧ ".." ∉ (Path.mk reference).segments)
    ⟨fun h => ⟨h.1, h.2⟩, fun h => ⟨h.relative, h.down⟩⟩

theorem leadsDown_append_slash {a b : String} (ha : LeadsDown a) (hne : a ≠ "")
    (hb : LeadsDown b) : LeadsDown (a ++ "/" ++ b) where
  relative := by
    obtain ⟨c, cs, hcs⟩ := List.exists_cons_of_ne_nil fun h => hne (String.toList_eq_nil_iff.1 h)
    have := ha.relative
    simp only [isAbsolute, hcs] at this
    simpa [isAbsolute, hcs] using this
  down := by
    rw [segments_append_slash, List.mem_append, not_or]
    exact ⟨ha.down, hb.down⟩

theorem join_of_relative {directory : Path} (h : directory.text ≠ "") {reference : String}
    (hreference : (Path.mk reference).isAbsolute = false) :
    directory.join reference =
      if directory.text.toList.getLast? = some '/' then ⟨directory.text ++ reference⟩
      else ⟨directory.text ++ "/" ++ reference⟩ := by
  simp [join, hreference, h]

/-- A reference and the directory are in the path, with at most a slash between them. -/
theorem utf8ByteSize_join {directory : Path} (h : directory.text ≠ "") {reference : String}
    (hreference : (Path.mk reference).isAbsolute = false) :
    directory.text.utf8ByteSize + reference.utf8ByteSize ≤
        (directory.join reference).text.utf8ByteSize ∧
      (directory.join reference).text.utf8ByteSize ≤
        directory.text.utf8ByteSize + 1 + reference.utf8ByteSize := by
  have hslash : "/".utf8ByteSize = 1 := by decide
  rw [join_of_relative h hreference]
  split_ifs <;> simp only [String.utf8ByteSize_append, hslash] <;> omega

/-- What stands in front of the slash before a reference that is put behind a directory: the
directory, less a slash at its end. -/
theorem exists_stem {directory : Path} (h : directory.text ≠ "") :
    ∃ stem, (directory.text = stem ∨ directory.text = stem ++ "/") ∧
      ∀ reference, (Path.mk reference).isAbsolute = false →
        directory.join reference = ⟨stem ++ "/" ++ reference⟩ := by
  by_cases hlast : directory.text.toList.getLast? = some '/'
  · obtain ⟨cs, hcs⟩ := List.getLast?_eq_some_iff.1 hlast
    have htext : directory.text = String.ofList cs ++ "/" := by
      rw [← String.toList_inj]
      simp [hcs]
    refine ⟨String.ofList cs, .inr htext, fun reference hreference => ?_⟩
    rw [join_of_relative h hreference, if_pos hlast, htext]
  · refine ⟨directory.text, .inl rfl, fun reference hreference => ?_⟩
    rw [join_of_relative h hreference, if_neg hlast]

theorem text_ne_empty {p : Path} (h : p.isAbsolute = true) : p.text ≠ "" := by
  intro htext
  simp [isAbsolute, htext] at h

/-- The segments of a directory are in front of those of the reference, up to an empty one. -/
theorem exists_segments_join {directory : Path} (h : directory.isAbsolute = true) :
    ∃ stem, (directory.segments = "" :: stem ∨ directory.segments = "" :: stem ++ [""]) ∧
      ∀ reference, (Path.mk reference).isAbsolute = false →
        (directory.join reference).segments = "" :: stem ++ (Path.mk reference).segments := by
  obtain ⟨text, htext, hjoin⟩ := exists_stem (text_ne_empty h)
  obtain ⟨body, hbody, hsegments, -⟩ := segments_of_isAbsolute h
  -- The part in front of the last slash begins at the root, too, unless it is empty.
  obtain ⟨stem, hstem⟩ : ∃ stem, segments ⟨text⟩ = "" :: stem := by
    rcases htext with htext | htext
    · exact ⟨body, by rw [← hsegments, ← htext]⟩
    · have happend := segments_append_slash text ""
      rw [String.append_empty, ← htext, hsegments] at happend
      cases hempty : segments ⟨text⟩ with
      | nil => exact absurd hempty (segments_ne_nil _)
      | cons k ks =>
        rw [hempty] at happend
        exact ⟨ks, by rw [← (List.cons.inj happend).1]⟩
  refine ⟨stem, ?_, fun reference hreference => ?_⟩
  · rcases htext with htext | htext
    · exact .inl (by rw [← hstem, ← htext])
    · have happend := segments_append_slash text ""
      rw [String.append_empty, ← htext, hstem] at happend
      exact .inr happend
  · rw [hjoin reference hreference, segments_append_slash, hstem]

theorem getLast?_segments_of_slash {text : String} (h : text.toList.getLast? = some '/') :
    (segments ⟨text⟩).getLast? = some "" := by
  obtain ⟨cs, hcs⟩ := List.getLast?_eq_some_iff.1 h
  rw [segments, hcs, split_append_slash, List.map_append, List.getLast?_append]
  rfl

/-- A reference from below a directory is a longer reference from the directory. -/
theorem join_join {directory : Path} (h : directory.isAbsolute = true) {outer reference : String}
    (houter : LeadsDown outer) (hlast : (segments ⟨outer⟩).getLast? ≠ some "")
    (hreference : LeadsDown reference) :
    (directory.join outer).join reference = directory.join (outer ++ "/" ++ reference) := by
  have hne : outer ≠ "" := by
    rintro rfl
    exact hlast rfl
  obtain ⟨stem, -, hjoin⟩ := exists_stem (text_ne_empty h)
  have hslash : (stem ++ "/" ++ outer).toList.getLast? ≠ some '/' := by
    intro hslash
    refine hlast (getLast?_segments_of_slash ?_)
    rw [String.toList_append, List.getLast?_append_of_ne_nil] at hslash
    · exact hslash
    · exact fun hnil => hne (String.toList_eq_nil_iff.1 hnil)
  rw [hjoin outer houter.relative, hjoin _ (leadsDown_append_slash houter hne hreference).relative]
  rw [join_of_relative (by simp) hreference.relative, if_neg hslash]
  simp only [String.append_assoc]

/-! ### Directories of paths below -/

/-- The path without the slashes and dots at its end. -/
def trimmed (p : Path) : Path :=
  ⟨p.front.1 ++ "/".intercalate (p.front.2.rdropWhile isTrivial)⟩

/-- A path begins at the root if nothing stands in front of its first slash. -/
theorem isAbsolute_iff_segments {p : Path} :
    p.isAbsolute = true ↔ ∃ body, body ≠ [] ∧ p.segments = "" :: body := by
  constructor
  · intro h
    obtain ⟨body, hbody, hsegments, -⟩ := segments_of_isAbsolute h
    exact ⟨body, hbody, hsegments⟩
  · rintro ⟨body, hbody, hsegments⟩
    rw [isAbsolute_iff, ← front_fst, front_of_segments hsegments hbody]

theorem segments_root {ks : List String} (h : ∀ k ∈ ks, '/' ∉ k.toList) :
    segments ⟨"/" ++ "/".intercalate ks⟩ = "" :: (ks ++ if ks = [] then [""] else []) := by
  have hsplit := segments_append_slash "" ("/".intercalate ks)
  rw [String.empty_append] at hsplit
  rw [hsplit]
  split_ifs with hks
  · rw [hks]
    rfl
  · rw [segments_intercalate hks h, List.append_nil]
    rfl

theorem rdropWhile_append_of_trivial {ks : List String} (rest : List String)
    (h : ∀ k ∈ ks, isTrivial k = true) :
    (rest ++ ks).rdropWhile isTrivial = rest.rdropWhile isTrivial := by
  rw [List.rdropWhile, List.reverse_append, List.dropWhile_append_of_pos, List.rdropWhile]
  simpa using h

/-- A segment that leads somewhere keeps what stands in front of it. -/
theorem rdropWhile_append_of_mem {ks : List String} (rest : List String) {k : String} (hk : k ∈ ks)
    (h : isTrivial k = false) :
    (rest ++ ks).rdropWhile isTrivial = rest ++ ks.rdropWhile isTrivial := by
  have hkept : ((ks.reverse).dropWhile isTrivial).isEmpty = false := by
    rw [Bool.eq_false_iff, Ne, List.isEmpty_iff, List.dropWhile_eq_nil_iff]
    intro hall
    rw [hall k (List.mem_reverse.2 hk)] at h
    cases h
  rw [List.rdropWhile, List.reverse_append, List.dropWhile_append, hkept, if_neg (by simp),
    List.reverse_append, List.reverse_reverse, List.rdropWhile]

/-- Behind the last name of a list stand only segments that lead nowhere. -/
theorem exists_last_name {ks : List String} {k : String} (hk : k ∈ ks) (h : isTrivial k = false) :
    ∃ outer name rest, ks = outer ++ name :: rest ∧ isTrivial name = false ∧
      ∀ j ∈ rest, isTrivial j = true := by
  have hne : ks.rdropWhile isTrivial ≠ [] := by
    rw [Ne, List.rdropWhile_eq_nil_iff]
    intro hall
    rw [hall k hk] at h
    cases h
  refine ⟨(ks.rdropWhile isTrivial).dropLast, (ks.rdropWhile isTrivial).getLast hne,
    ks.rtakeWhile isTrivial, ?_, ?_, fun j hj => List.mem_rtakeWhile_imp hj⟩
  · rw [List.append_cons, List.dropLast_append_getLast, List.rdropWhile_append_rtakeWhile]
  · simpa using List.rdropWhile_last_not isTrivial ks hne

/-- The name of a file and its directory, for a path of which the last name is known. -/
theorem fileName?_and_directory {p : Path} {outer rest : List String} {name : String}
    (hsegments : p.segments = "" :: (outer ++ name :: rest)) (hname : isTrivial name = false)
    (hrest : ∀ k ∈ rest, isTrivial k = true) :
    p.fileName? = (if name = ".." then none else some name) ∧
      p.directory = ⟨"/" ++ "/".intercalate (outer.rdropWhile isTrivial)⟩ := by
  have hfront := front_of_segments hsegments (by simp)
  have hdrop : (outer ++ name :: rest).reverse.dropWhile isTrivial = name :: outer.reverse := by
    rw [List.reverse_append, List.reverse_cons, List.append_assoc,
      List.dropWhile_append_of_pos (by simpa using hrest), List.singleton_append,
      List.dropWhile_cons_of_neg (by simp [hname])]
  constructor
  · rw [fileName?, hfront, hdrop]
  · rw [directory, parent?, hfront]
    simp only [hdrop, Option.getD_some, List.rdropWhile]

section Trimmed

variable {directory : Path} (h : directory.isAbsolute = true)
include h

/-- The segments of a directory that is trimmed, in front of what is cut off. -/
theorem segments_trimmed :
    ∃ ks rest, directory.segments = "" :: (ks ++ rest) ∧ ks ++ rest ≠ [] ∧
      (∀ k ∈ rest, isTrivial k = true) ∧
      directory.trimmed.segments = "" :: (ks ++ if ks = [] then [""] else []) := by
  obtain ⟨body, hbody, hsegments, hfront⟩ := segments_of_isAbsolute h
  have hdivided := List.rdropWhile_append_rtakeWhile (p := isTrivial) (l := body)
  refine ⟨body.rdropWhile isTrivial, body.rtakeWhile isTrivial, by rw [hdivided, hsegments],
    by rwa [hdivided], fun k hk => List.mem_rtakeWhile_imp hk, ?_⟩
  rw [trimmed, hfront]
  refine segments_root fun k hk => slash_not_mem_segments (p := directory) ?_
  rw [hsegments]
  exact List.mem_cons_of_mem _ ((List.rdropWhile_prefix _ _).subset hk)

theorem isAbsolute_trimmed : directory.trimmed.isAbsolute = true := by
  obtain ⟨ks, rest, -, -, -, hsegments⟩ := segments_trimmed h
  refine isAbsolute_iff_segments.2 ⟨_, ?_, hsegments⟩
  split_ifs with hks
  · simp
  · simpa using hks

/-- A directory is trimmed by cutting off segments that lead nowhere. -/
theorem trimmed_eq {stem rest : List String} (hsegments : directory.segments = "" :: (stem ++ rest))
    (hrest : ∀ k ∈ rest, isTrivial k = true) :
    directory.trimmed = ⟨"/" ++ "/".intercalate (stem.rdropWhile isTrivial)⟩ := by
  obtain ⟨body, hbody, hsegments', hfront⟩ := segments_of_isAbsolute h
  obtain rfl : stem ++ rest = body := (List.cons.inj (hsegments.symm.trans hsegments')).2
  rw [trimmed, hfront, rdropWhile_append_of_trivial stem hrest]

theorem trimmed_trimmed : directory.trimmed.trimmed = directory.trimmed := by
  obtain ⟨ks, rest, hsegments, -, hrest, htrimmed⟩ := segments_trimmed h
  have hadded : ∀ k ∈ if ks = [] then [""] else [], isTrivial k = true := by
    split_ifs <;> simp [isTrivial]
  rw [trimmed_eq (isAbsolute_trimmed h) htrimmed hadded, trimmed_eq h hsegments hrest]

end Trimmed

/-- The first segments of a reference, up to a name, are a reference of their own. -/
theorem exists_outer {reference : String} (hreference : LeadsDown reference)
    {outer rest : List String} (hsegments : (Path.mk reference).segments = outer ++ rest)
    {k : String} (hk : k ∈ outer) (htrivial : isTrivial k = false) :
    ∃ r, LeadsDown r ∧ (segments ⟨r⟩).getLast? ≠ some "" ∧
      segments ⟨r⟩ = outer.rdropWhile isTrivial := by
  have hne : outer.rdropWhile isTrivial ≠ [] := by
    rw [Ne, List.rdropWhile_eq_nil_iff]
    intro hall
    rw [hall k hk] at htrivial
    cases htrivial
  have hwhole : (Path.mk reference).segments =
      outer.rdropWhile isTrivial ++ (outer.rtakeWhile isTrivial ++ rest) := by
    rw [← List.append_assoc, List.rdropWhile_append_rtakeWhile, hsegments]
  have hsub {j : String} (hj : j ∈ outer.rdropWhile isTrivial) :
      j ∈ (Path.mk reference).segments := by
    rw [hwhole]
    exact List.mem_append_left _ hj
  have hr : segments ⟨"/".intercalate (outer.rdropWhile isTrivial)⟩ =
      outer.rdropWhile isTrivial :=
    segments_intercalate hne fun j hj => slash_not_mem_segments (hsub hj)
  refine ⟨_, ⟨?_, fun hparent => hreference.down (hsub (hr ▸ hparent))⟩, ?_, hr⟩
  · rw [Bool.eq_false_iff, Ne, isAbsolute_iff_segments]
    rintro ⟨body, hbody, hroot⟩
    have habsolute : (Path.mk reference).isAbsolute = true := by
      rw [hr] at hroot
      rw [hroot, List.cons_append] at hwhole
      exact isAbsolute_iff_segments.2 ⟨_, by simp [hbody], hwhole⟩
    rw [hreference.relative] at habsolute
    cases habsolute
  · rw [hr, List.getLast?_eq_getLast_of_ne_nil hne]
    intro hlast
    have hname := List.rdropWhile_last_not isTrivial outer hne
    rw [Option.some.inj hlast] at hname
    exact hname rfl

/-- The name of a file and its directory, for a reference of which the last name is known. Both are
found from the segments of the directory that the reference is put behind. -/
theorem fileName?_and_directory_join {directory : Path} (h : directory.isAbsolute = true)
    {reference : String} (hreference : LeadsDown reference) {outer rest : List String}
    {name : String} (hsegments : (Path.mk reference).segments = outer ++ name :: rest)
    (hname : isTrivial name = false) (hrest : ∀ k ∈ rest, isTrivial k = true) :
    (directory.join reference).fileName? = some name ∧
    ∃ stem, (directory.segments = "" :: stem ∨ directory.segments = "" :: stem ++ [""]) ∧
      (directory.join reference).directory =
        ⟨"/" ++ "/".intercalate ((stem ++ outer).rdropWhile isTrivial)⟩ ∧
      ∀ r, (Path.mk r).isAbsolute = false →
        (directory.join r).segments = "" :: stem ++ (Path.mk r).segments := by
  obtain ⟨stem, hstem, hjoin⟩ := exists_segments_join h
  have hpath : (directory.join reference).segments = "" :: ((stem ++ outer) ++ name :: rest) := by
    rw [hjoin reference hreference.relative, hsegments, List.cons_append, List.append_assoc]
  have hparent : name ≠ ".." := by
    rintro rfl
    exact hreference.down (by simp [hsegments])
  obtain ⟨hfile, hdirectory⟩ := fileName?_and_directory hpath hname hrest
  rw [if_neg hparent] at hfile
  exact ⟨hfile, stem, hstem, hdirectory, hjoin⟩

/-- A path that leads to a name below a directory ends with this name, and its own directory is the
directory without the slashes and dots at its end, or it is reached from there. -/
theorem exists_directory_join {reference k : String} (hreference : LeadsDown reference)
    (hk : k ∈ (Path.mk reference).segments) (htrivial : isTrivial k = false) :
    (∃ name, ∀ directory : Path, directory.isAbsolute = true →
      (directory.join reference).fileName? = some name) ∧
    ((∀ directory : Path, directory.isAbsolute = true →
        (directory.join reference).directory = directory.trimmed) ∨
      ∃ outer, LeadsDown outer ∧ (segments ⟨outer⟩).getLast? ≠ some "" ∧
        ∀ directory : Path, directory.isAbsolute = true →
          (directory.join reference).directory = directory.join outer) := by
  obtain ⟨outer, name, rest, hsegments, hname, hrest⟩ := exists_last_name hk htrivial
  refine ⟨⟨name, fun directory h =>
    (fileName?_and_directory_join h hreference hsegments hname hrest).1⟩, ?_⟩
  by_cases hall : ∀ j ∈ outer, isTrivial j = true
  · refine .inl fun directory h => ?_
    obtain ⟨-, stem, hstem, hdirectory, -⟩ :=
      fileName?_and_directory_join h hreference hsegments hname hrest
    rw [hdirectory, rdropWhile_append_of_trivial stem hall]
    rcases hstem with hstem | hstem
    · rw [← List.append_nil stem] at hstem
      rw [trimmed_eq h hstem (by simp)]
    · rw [trimmed_eq h hstem (by simp [isTrivial])]
  · push Not at hall
    obtain ⟨j, hj, hjtrivial⟩ := hall
    have hjtrivial := Bool.eq_false_iff.2 hjtrivial
    obtain ⟨r, hr, hlast, hrsegments⟩ := exists_outer hreference hsegments hj hjtrivial
    refine .inr ⟨r, hr, hlast, fun directory h => ?_⟩
    obtain ⟨-, stem, -, hdirectory, hjoin⟩ :=
      fileName?_and_directory_join h hreference hsegments hname hrest
    have hjoined := hjoin r hr.relative
    rw [hrsegments, List.cons_append] at hjoined
    have hslash : ∀ i ∈ stem ++ outer.rdropWhile isTrivial, '/' ∉ i.toList := fun i hi =>
      slash_not_mem_segments (hjoined ▸ List.mem_cons_of_mem _ hi)
    have hne : stem ++ outer.rdropWhile isTrivial ≠ [] := by
      rw [← hrsegments]
      simp [segments_ne_nil]
    refine eq_of_segments ?_
    rw [hdirectory, rdropWhile_append_of_mem stem hj hjtrivial, segments_root hslash, if_neg hne,
      List.append_nil, hjoined]

/-- The path with dots behind it, which lead nowhere. -/
def withDots (p : Path) : Nat → Path
  | 0 => p
  | n + 1 => ⟨(p.withDots n).text ++ "/" ++ "."⟩

theorem segments_withDots (p : Path) (n : Nat) :
    (p.withDots n).segments = p.segments ++ List.replicate n "." := by
  induction n with
  | zero => simp [withDots]
  | succ n ih =>
    have hdot : segments ⟨"."⟩ = ["."] := by decide
    rw [withDots, segments_append_slash, ih, hdot, List.append_assoc, ← List.replicate_succ']

theorem utf8ByteSize_withDots (p : Path) (n : Nat) :
    (p.withDots n).text.utf8ByteSize = p.text.utf8ByteSize + 2 * n := by
  induction n with
  | zero => rfl
  | succ n ih =>
    have hdot : "/".utf8ByteSize = 1 ∧ ".".utf8ByteSize = 1 := by decide
    rw [withDots, String.utf8ByteSize_append, String.utf8ByteSize_append, ih, hdot.1, hdot.2]
    omega

/-! ### Corresponding paths -/

variable {D D' p p' : Path}

/-- Behind the two directories, or behind these without the slashes and dots at their ends, the same
reference stands, which leads down. -/
def Corresponds (D D' p p' : Path) : Prop :=
  ∃ reference, LeadsDown reference ∧ ((p = D.join reference ∧ p' = D'.join reference) ∨
    (p = D.trimmed.join reference ∧ p' = D'.trimmed.join reference))

/-- References that lead down are made alike in two directories. -/
def CorrespondsBelow (D D' p p' : Path) : Prop :=
  ∀ reference, LeadsDown reference → Corresponds D D' (p.join reference) (p'.join reference)

/-- A corresponding path is longer by the text of its directory and a slash at most. -/
theorem Corresponds.utf8ByteSize_le (hD : D.isAbsolute = true) (hD' : D'.isAbsolute = true)
    (h : Corresponds D D' p p') :
    p'.text.utf8ByteSize ≤
      max D'.text.utf8ByteSize D'.trimmed.text.utf8ByteSize + 1 + p.text.utf8ByteSize := by
  have hjoin {E E' : Path} {reference : String} (hE : E.isAbsolute = true)
      (hE' : E'.isAbsolute = true) (hreference : LeadsDown reference) :
      (E'.join reference).text.utf8ByteSize ≤
        E'.text.utf8ByteSize + 1 + (E.join reference).text.utf8ByteSize := by
    have hlower := (utf8ByteSize_join (text_ne_empty hE) hreference.relative).1
    have hupper := (utf8ByteSize_join (text_ne_empty hE') hreference.relative).2
    omega
  obtain ⟨reference, hreference, ⟨rfl, rfl⟩ | ⟨rfl, rfl⟩⟩ := h
  · have := hjoin hD hD' hreference
    omega
  · have := hjoin (isAbsolute_trimmed hD) (isAbsolute_trimmed hD') hreference
    omega

/-- What corresponds behind the trimmed directories corresponds behind the directories. -/
theorem Corresponds.of_trimmed (hD : D.isAbsolute = true) (hD' : D'.isAbsolute = true)
    (h : Corresponds D.trimmed D'.trimmed p p') : Corresponds D D' p p' := by
  obtain ⟨reference, hreference, h⟩ := h
  rw [trimmed_trimmed hD, trimmed_trimmed hD', or_self] at h
  exact ⟨reference, hreference, .inr h⟩

/-- Where a reference leads to a name, the next references are made alike. -/
theorem correspondsBelow_directory (hD : D.isAbsolute = true) (hD' : D'.isAbsolute = true)
    {reference k : String} (hreference : LeadsDown reference)
    (hk : k ∈ (Path.mk reference).segments) (htrivial : isTrivial k = false) :
    CorrespondsBelow D D' (D.join reference).directory (D'.join reference).directory := by
  intro further hfurther
  obtain ⟨-, hdirectory | ⟨outer, houter, hlast, hdirectory⟩⟩ :=
    exists_directory_join hreference hk htrivial
  · rw [hdirectory D hD, hdirectory D' hD']
    exact ⟨further, hfurther, .inr ⟨rfl, rfl⟩⟩
  · rw [hdirectory D hD, hdirectory D' hD', join_join hD houter hlast hfurther,
      join_join hD' houter hlast hfurther]
    have hne : outer ≠ "" := by
      rintro rfl
      exact hlast rfl
    exact ⟨_, leadsDown_append_slash houter hne hfurther, .inl ⟨rfl, rfl⟩⟩

end PipelineScript.Path
