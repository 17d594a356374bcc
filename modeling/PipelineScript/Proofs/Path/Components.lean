import Mathlib.Data.List.TakeWhile
import Mathlib.Tactic.Common
import PipelineScript.Path

/-!
# The components of a path

A path can be written in many ways: slashes side by side, and dots between slashes, make no
difference to what it is. Its components are what is left: whether it begins at the root or with a
dot, and the names behind. The directory of a path and the path of a reference are made from the
components of what they are made from, however that is written.
-/

namespace PipelineScript.Path

/-! ### Segments -/

theorem split_ne_nil (cs : List Char) : split cs ≠ [] := by
  cases cs with
  | nil => simp [split]
  | cons c cs =>
    rw [split]
    split_ifs
    · simp
    · split <;> simp

theorem segments_ne_nil (p : Path) : p.segments ≠ [] := by
  simp [segments, split_ne_nil]

/-- A character that is no slash belongs to the first segment. -/
theorem split_cons {c : Char} (hc : c ≠ '/') (cs : List Char) :
    ∃ s ss, split cs = s :: ss ∧ split (c :: cs) = (c :: s) :: ss := by
  obtain ⟨s, ss, h⟩ := List.exists_cons_of_ne_nil (split_ne_nil cs)
  exact ⟨s, ss, h, by rw [split, if_neg hc, h]⟩

/-- A slash divides the segments. -/
theorem split_append_slash (cs ds : List Char) :
    split (cs ++ '/' :: ds) = split cs ++ split ds := by
  induction cs with
  | nil => simp [split]
  | cons c cs ih =>
    by_cases hc : c = '/'
    · subst hc
      simp [split, ih]
    · obtain ⟨s, ss, h, hcons⟩ := split_cons hc cs
      rw [List.cons_append, split, if_neg hc, ih, h, hcons]
      rfl

theorem split_of_not_mem {cs : List Char} (h : '/' ∉ cs) : split cs = [cs] := by
  induction cs with
  | nil => rfl
  | cons c cs ih =>
    rw [List.mem_cons, not_or] at h
    rw [split, if_neg (Ne.symm h.1), ih h.2]

theorem slash_not_mem_of_mem_split {cs s : List Char} (h : s ∈ split cs) : '/' ∉ s := by
  induction cs generalizing s with
  | nil => simp_all [split]
  | cons c cs ih =>
    by_cases hc : c = '/'
    · rw [split, if_pos hc, List.mem_cons] at h
      rcases h with rfl | h
      · simp
      · exact ih h
    · obtain ⟨t, ts, ht, hcons⟩ := split_cons hc cs
      rw [hcons, List.mem_cons] at h
      rcases h with rfl | h
      · simp [Ne.symm hc, ih (ht ▸ List.mem_cons_self)]
      · exact ih (ht ▸ List.mem_cons_of_mem t h)

/-- A text is its first segment, or a slash stands behind that. -/
theorem eq_or_append_slash_of_split {cs s : List Char} {ss : List (List Char)}
    (h : split cs = s :: ss) : cs = s ∨ ∃ ds, cs = s ++ '/' :: ds := by
  induction cs generalizing s ss with
  | nil =>
    cases h
    exact .inl rfl
  | cons c cs ih =>
    by_cases hc : c = '/'
    · rw [split, if_pos hc] at h
      cases h
      exact .inr ⟨cs, by rw [hc]; rfl⟩
    · obtain ⟨t, ts, ht, hcons⟩ := split_cons hc cs
      rw [hcons] at h
      cases h
      rcases ih ht with rfl | ⟨ds, rfl⟩
      · exact .inl rfl
      · exact .inr ⟨ds, rfl⟩

/-! ### Components -/

/-- The names in a text, which are its segments that lead somewhere. -/
def namesIn (cs : List Char) : List String :=
  ((split cs).map String.ofList).filter (!isTrivial ·)

/-- What a text begins with: the root, a dot that stands for the current directory, or neither. -/
def leadOf : List Char → String
  | '/' :: _ => "/"
  | ['.'] => "."
  | '.' :: '/' :: _ => "."
  | _ => ""

/-- What a path is, however it is written. -/
def components (p : Path) : String × List String :=
  (leadOf p.text.toList, namesIn p.text.toList)

theorem namesIn_append_slash (cs ds : List Char) :
    namesIn (cs ++ '/' :: ds) = namesIn cs ++ namesIn ds := by
  rw [namesIn, split_append_slash, List.map_append, List.filter_append, namesIn, namesIn]

@[simp] theorem namesIn_nil : namesIn [] = [] := by decide

@[simp] theorem namesIn_slash (cs : List Char) : namesIn ('/' :: cs) = namesIn cs :=
  namesIn_append_slash [] cs

@[simp] theorem namesIn_dot_slash (cs : List Char) : namesIn ('.' :: '/' :: cs) = namesIn cs :=
  namesIn_append_slash ['.'] cs

/-- Only the text in front of a slash decides what a text begins with. -/
theorem leadOf_append_slash {cs : List Char} (h : cs ≠ []) (ds : List Char) :
    leadOf (cs ++ '/' :: ds) = leadOf cs := by
  match cs, h with
  | [c], _ =>
    by_cases hc : c = '/'
    · subst hc
      rfl
    · by_cases hd : c = '.'
      · subst hd
        rfl
      · simp [leadOf, hc, hd]
  | c :: d :: cs, _ =>
    by_cases hc : c = '/'
    · subst hc
      rfl
    · by_cases hd : c = '.' ∧ d = '/'
      · obtain ⟨rfl, rfl⟩ := hd
        rfl
      · simp_all [leadOf]

/-! ### References -/

theorem leadOf_eq_root {cs : List Char} : leadOf cs = "/" ↔ cs.head? = some '/' := by
  rw [List.head?_eq_some_iff]
  fun_cases leadOf cs <;> simp_all

theorem isAbsolute_iff {p : Path} : p.isAbsolute = true ↔ p.components.1 = "/" := by
  rw [isAbsolute, decide_eq_true_iff, components, leadOf_eq_root]

/-- A text in which nothing leads anywhere is empty, or it begins at the root or with a dot. -/
theorem eq_nil_of_leadOf {cs : List Char} (hlead : leadOf cs = "") (hnames : namesIn cs = []) :
    cs = [] := by
  cases cs with
  | nil => rfl
  | cons c cs =>
    have hc : c ≠ '/' := by
      rintro rfl
      simp [leadOf] at hlead
    obtain ⟨s, ss, hs, hcons⟩ := split_cons hc cs
    have htrivial := List.filter_eq_nil_iff.1 hnames (String.ofList (c :: s))
      (by rw [hcons]; exact List.mem_cons_self)
    -- The first segment is a dot, so the text begins with one.
    have hdot : c = '.' ∧ s = [] := by
      simpa [isTrivial, ← String.toList_inj] using htrivial
    obtain ⟨rfl, rfl⟩ := hdot
    rcases eq_or_append_slash_of_split hs with rfl | ⟨ds, rfl⟩
    · simp [leadOf] at hlead
    · simp [leadOf] at hlead

/-- Only the empty text is a path without components. -/
theorem text_eq_empty_iff {p : Path} : p.text = "" ↔ p.components = ("", []) := by
  constructor
  · intro h
    rw [components, h]
    rfl
  · intro h
    obtain ⟨hlead, hnames⟩ := Prod.mk.inj h
    rw [← String.toList_inj, eq_nil_of_leadOf hlead hnames]
    rfl

/-- The components of a path that is put together at a slash. -/
theorem components_of_toList {p base : Path} (cs : List Char) {ds : List Char}
    (hp : p.text.toList = cs ++ '/' :: ds)
    (hlead : leadOf (cs ++ ['/']) = base.components.1) (hnames : namesIn cs = base.components.2) :
    p.components = (base.components.1, base.components.2 ++ namesIn ds) := by
  have hslash : leadOf (cs ++ '/' :: ds) = leadOf (cs ++ ['/']) := by
    cases cs with
    | nil => rfl
    | cons c cs => rw [leadOf_append_slash (by simp), leadOf_append_slash (by simp)]
  rw [components, hp, hslash, hlead, namesIn_append_slash, hnames]

/-- The path of a reference has the components of the directory and those of the reference, unless
the reference stands for itself. -/
theorem components_join (base : Path) (reference : String) :
    (base.join reference).components =
      if (components ⟨reference⟩).1 = "/" ∨ base.components = ("", []) then components ⟨reference⟩
      else (base.components.1, base.components.2 ++ (components ⟨reference⟩).2) := by
  rw [join]
  simp only [Bool.or_eq_true, isAbsolute_iff, String.isEmpty_iff, text_eq_empty_iff]
  split_ifs with hroot hlast
  · rfl
  · obtain ⟨cs, hcs⟩ := List.getLast?_eq_some_iff.1 hlast
    refine components_of_toList cs (by simp [hcs]) ?_ ?_
    · rw [components, hcs]
    · rw [components, hcs, namesIn_append_slash, namesIn_nil, List.append_nil]
  · have hne : base.text.toList ≠ [] := by
      intro h
      refine hroot (.inr (text_eq_empty_iff.1 ?_))
      rw [← String.toList_inj, h]
      rfl
    refine components_of_toList base.text.toList (by simp) ?_ rfl
    rw [leadOf_append_slash hne, components]

/-! ### Fronts -/

/-- The ways in which a path is divided into its front and the segments behind it. -/
theorem front_cases (p : Path) :
    (∃ cs, p.text.toList = '/' :: cs ∧ p.front = ("/", (split cs).map String.ofList)) ∨
      (p.text.toList = ['.'] ∧ p.front = (".", [])) ∨
      (∃ cs, p.text.toList = '.' :: '/' :: cs ∧
        p.front = (".", (split ('/' :: cs)).map String.ofList)) ∨
      (leadOf p.text.toList = "" ∧ p.front = ("", (split p.text.toList).map String.ofList)) := by
  rw [front]
  split
  · exact .inl ⟨_, ‹_›, rfl⟩
  · exact .inr (.inl ⟨‹_›, rfl⟩)
  · exact .inr (.inr (.inl ⟨_, ‹_›, rfl⟩))
  · refine .inr (.inr (.inr ⟨?_, rfl⟩))
    simp_all [leadOf]

theorem front_fst (p : Path) : p.front.1 = p.components.1 := by
  obtain ⟨cs, hp, hfront⟩ | ⟨hp, hfront⟩ | ⟨cs, hp, hfront⟩ | ⟨hp, hfront⟩ := p.front_cases
  · rw [hfront, components, hp]
    rfl
  · rw [hfront, components, hp]
    rfl
  · rw [hfront, components, hp]
    rfl
  · rw [hfront, components, hp]

theorem filter_front (p : Path) : p.front.2.filter (!isTrivial ·) = p.components.2 := by
  obtain ⟨cs, hp, hfront⟩ | ⟨hp, hfront⟩ | ⟨cs, hp, hfront⟩ | ⟨hp, hfront⟩ := p.front_cases
  · rw [hfront, components, hp, namesIn_slash]
    rfl
  · rw [hfront, components, hp]
    rfl
  · rw [hfront, components, hp, namesIn_dot_slash, ← namesIn_slash]
    rfl
  · rw [hfront]
    rfl

/-- No slash is in a segment behind the front. -/
theorem slash_not_mem_front {p : Path} {k : String} (hk : k ∈ p.front.2) : '/' ∉ k.toList := by
  have hsplit {cs : List Char} (h : k ∈ (split cs).map String.ofList) : '/' ∉ k.toList := by
    obtain ⟨s, hs, rfl⟩ := List.mem_map.1 h
    rw [String.toList_ofList]
    exact slash_not_mem_of_mem_split hs
  obtain ⟨cs, -, hfront⟩ | ⟨-, hfront⟩ | ⟨cs, -, hfront⟩ | ⟨-, hfront⟩ := p.front_cases
  · exact hsplit (hfront ▸ hk)
  · simp [hfront] at hk
  · exact hsplit (hfront ▸ hk)
  · exact hsplit (hfront ▸ hk)

/-! ### Directories -/

/-- Segments that are joined by slashes are divided again. -/
theorem split_intercalate {k : String} {ks : List String} (h : ∀ j ∈ k :: ks, '/' ∉ j.toList) :
    split ("/".intercalate (k :: ks)).toList = (k :: ks).map String.toList := by
  induction ks generalizing k with
  | nil => simpa using split_of_not_mem (h k List.mem_cons_self)
  | cons j ks ih =>
    have hjoin : ("/".intercalate (k :: j :: ks)).toList =
        k.toList ++ '/' :: ("/".intercalate (j :: ks)).toList := by simp
    rw [hjoin, split_append_slash, split_of_not_mem (h k List.mem_cons_self),
      ih fun i hi => h i (List.mem_cons_of_mem k hi)]
    rfl

theorem namesIn_intercalate {ks : List String} (h : ∀ k ∈ ks, '/' ∉ k.toList) :
    namesIn ("/".intercalate ks).toList = ks.filter (!isTrivial ·) := by
  cases ks with
  | nil => rfl
  | cons k ks =>
    rw [namesIn, split_intercalate h, List.map_map]
    simp [Function.comp_def]

/-- What a text begins with is seen from its first segment. -/
theorem leadOf_of_split {cs s : List Char} {ss : List (List Char)} (h : split cs = s :: ss)
    (hs : s ≠ []) : leadOf cs = leadOf s := by
  rcases eq_or_append_slash_of_split h with rfl | ⟨ds, rfl⟩
  · rfl
  · exact leadOf_append_slash hs ds

/-- A path that is cut off behind some of its segments. -/
theorem components_cut {p : Path} {ks rest : List String} (h : p.front.2 = ks ++ rest) :
    components ⟨p.front.1 ++ "/".intercalate ks⟩ = (p.components.1, ks.filter (!isTrivial ·)) := by
  have hslash (k : String) (hk : k ∈ ks) : '/' ∉ k.toList :=
    slash_not_mem_front (h ▸ List.mem_append_left rest hk)
  have hnames := namesIn_intercalate hslash
  obtain ⟨cs, hp, hfront⟩ | ⟨hp, hfront⟩ | ⟨cs, hp, hfront⟩ | ⟨hp, hfront⟩ := p.front_cases
  · have htext : (p.front.1 ++ "/".intercalate ks).toList = '/' :: ("/".intercalate ks).toList := by
      simp [hfront]
    rw [components, htext, namesIn_slash, hnames, components, hp]
    rfl
  · obtain ⟨rfl, rfl⟩ : ks = [] ∧ rest = [] := by simpa [hfront] using h
    rw [components, components, hp, hfront]
    rfl
  · have hlead : p.front.1 = "." ∧ p.components.1 = "." := by
      rw [hfront, components, hp]
      exact ⟨rfl, rfl⟩
    rw [hlead.1, hlead.2]
    rw [hfront, split, if_pos rfl, List.map_cons] at h
    match ks with
    | [] => decide
    | [k] =>
      obtain rfl : "" = k := (List.cons.inj h).1
      decide
    | k :: j :: ks' =>
      obtain rfl : "" = k := (List.cons.inj h).1
      have htext : ("." ++ "/".intercalate ("" :: j :: ks')).toList =
          '.' :: '/' :: ("/".intercalate (j :: ks')).toList := by simp
      rw [components, htext, namesIn_dot_slash,
        namesIn_intercalate fun i hi => hslash i (List.mem_cons_of_mem "" hi)]
      rfl
  · have hempty : p.front.1 = "" ∧ p.components.1 = "" := by
      rw [hfront, components]
      exact ⟨rfl, hp⟩
    rw [hempty.1, hempty.2, String.empty_append]
    refine Prod.ext ?_ hnames
    -- What is left begins with the first segment of the whole, unless nothing is left.
    cases ks with
    | nil => rfl
    | cons k ks' =>
      obtain ⟨t, ss, hsplit⟩ := List.exists_cons_of_ne_nil (split_ne_nil p.text.toList)
      rw [hfront, hsplit, List.map_cons, List.cons_append, List.cons.injEq] at h
      obtain ⟨rfl, hrest⟩ := h
      cases t with
      | nil =>
        rcases eq_or_append_slash_of_split hsplit with htext | ⟨ds, htext⟩
        · rw [htext, split, List.cons.injEq] at hsplit
          obtain ⟨rfl, rfl⟩ : ks' = [] ∧ rest = [] := by simpa [← hsplit.2] using hrest.symm
          rfl
        · rw [htext] at hp
          exact absurd hp (by simp [leadOf])
      | cons c t =>
        have hjoin := split_intercalate hslash
        rw [List.map_cons, String.toList_ofList] at hjoin
        show leadOf _ = ""
        rw [leadOf_of_split hjoin (by simp), ← leadOf_of_split hsplit (by simp), hp]

private theorem filter_reverse_takeWhile (l : List String) :
    (l.takeWhile isTrivial).reverse.filter (!isTrivial ·) = [] := by
  rw [List.filter_eq_nil_iff]
  intro k hk
  simp [List.mem_takeWhile_imp (List.mem_reverse.1 hk)]

/-- Segments at the end that lead nowhere make no difference to the names. -/
private theorem filter_reverse_dropWhile (l : List String) :
    (l.dropWhile isTrivial).reverse.filter (!isTrivial ·) = l.reverse.filter (!isTrivial ·) := by
  conv_rhs => rw [← List.takeWhile_append_dropWhile (p := isTrivial) (l := l)]
  rw [List.reverse_append, List.filter_append, filter_reverse_takeWhile, List.append_nil]

/-- The name of a file is the last name in its path, unless that leads up. -/
theorem fileName?_eq (p : Path) :
    p.fileName? = p.components.2.getLast?.bind fun name =>
      if name = ".." then none else some name := by
  have hlast : p.components.2.getLast? = (p.front.2.reverse.dropWhile isTrivial).head? := by
    rw [← filter_front, List.getLast?_eq_head?_reverse, ← List.filter_reverse, List.head?_filter,
      List.find?_eq_head?_dropWhile_not]
    simp
  rw [fileName?, hlast]
  cases p.front.2.reverse.dropWhile isTrivial <;> rfl

/-- The path of a file lies in the directory with all names but the last. -/
theorem components_directory (p : Path) :
    p.directory.components =
      if p.components.2 = [] then (if p.components.1 = "." then ("", []) else (".", []))
      else (p.components.1, p.components.2.dropLast) := by
  rw [directory, parent?]
  cases hbody : p.front.2.reverse.dropWhile isTrivial with
  | nil =>
    have hnames : p.components.2 = [] := by
      rw [← filter_front, List.filter_eq_nil_iff]
      simpa [List.dropWhile_eq_nil_iff] using hbody
    simp only [hbody, hnames, if_true, front_fst]
    split_ifs <;> rfl
  | cons x outer =>
    have hx : isTrivial x = false := by
      have hhead := List.head?_dropWhile_not isTrivial p.front.2.reverse
      rwa [hbody] at hhead
    have hsegments : p.front.2 =
        outer.reverse ++ x :: (p.front.2.reverse.takeWhile isTrivial).reverse := by
      calc p.front.2
        _ = (p.front.2.reverse.takeWhile isTrivial ++
            p.front.2.reverse.dropWhile isTrivial).reverse := by
          rw [List.takeWhile_append_dropWhile, List.reverse_reverse]
        _ = outer.reverse ++ x :: (p.front.2.reverse.takeWhile isTrivial).reverse := by
          simp [hbody]
    have hcut : p.front.2 = (outer.dropWhile isTrivial).reverse ++
        ((outer.takeWhile isTrivial).reverse ++
          x :: (p.front.2.reverse.takeWhile isTrivial).reverse) := by
      rw [← List.append_assoc, ← List.reverse_append, List.takeWhile_append_dropWhile]
      exact hsegments
    have hnames : p.components.2 = outer.reverse.filter (!isTrivial ·) ++ [x] := by
      rw [← filter_front, hsegments, List.filter_append, List.filter_cons_of_pos (by simp [hx]),
        filter_reverse_takeWhile]
    simp only [hbody, Option.getD_some]
    rw [components_cut hcut, if_neg (by simp [hnames]), hnames, List.dropLast_concat,
      filter_reverse_dropWhile]

end PipelineScript.Path
