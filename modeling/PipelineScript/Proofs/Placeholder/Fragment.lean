import PipelineScript.Proofs.Placeholder

/-!
# Texts made of fragments

A script is written as literal text with placeholders in between. As long as no dollar of the
literal text stands in front of a brace, a parenthesis or another dollar, no placeholder is found
but those that were written, so each fragment is filled by itself. What is put in must be free of
dollars as well if there is to be no placeholder in the end.
-/

namespace PipelineScript

open Text (after? replaceAll isWhite)

/-! ### Guarded dollars -/

namespace Text

/-- Behind each dollar of the text stands a character of the text that is none of `barred`. -/
def isGuarded (barred : List Char) : List Char → Bool
  | [] => true
  | c :: cs => (c != '$' || cs.head?.any (!barred.contains ·)) && isGuarded barred cs

variable {barred barred' cs ds : List Char} {c : Char}

theorem isGuarded_cons :
    isGuarded barred (c :: cs) ↔
      (c = '$' → ∃ d ds, cs = d :: ds ∧ d ∉ barred) ∧ isGuarded barred cs := by
  rw [isGuarded, Bool.and_eq_true]
  refine and_congr_left fun _ => ?_
  cases cs with
  | nil => simp
  | cons d ds => by_cases hc : c = '$' <;> simp [hc]

theorem isGuarded_of_not_mem (h : '$' ∉ cs) : isGuarded barred cs := by
  induction cs with
  | nil => rfl
  | cons c cs ih =>
    rw [List.mem_cons, not_or] at h
    exact isGuarded_cons.2 ⟨fun hc => absurd hc.symm h.1, ih h.2⟩

theorem isGuarded_mono (hbarred : barred' ⊆ barred) (h : isGuarded barred cs) :
    isGuarded barred' cs := by
  induction cs with
  | nil => rfl
  | cons c cs ih =>
    obtain ⟨hdollar, hrest⟩ := isGuarded_cons.1 h
    refine isGuarded_cons.2 ⟨fun hc => ?_, ih hrest⟩
    obtain ⟨d, ds, hcs, hd⟩ := hdollar hc
    exact ⟨d, ds, hcs, fun hmem => hd (hbarred hmem)⟩

theorem isGuarded_append (h : isGuarded barred cs) (h' : isGuarded barred ds) :
    isGuarded barred (cs ++ ds) := by
  induction cs with
  | nil => exact h'
  | cons c cs ih =>
    obtain ⟨hdollar, hrest⟩ := isGuarded_cons.1 h
    refine isGuarded_cons.2 ⟨fun hc => ?_, ih hrest⟩
    obtain ⟨d, more, rfl, hd⟩ := hdollar hc
    exact ⟨d, more ++ ds, rfl, hd⟩

theorem isGuarded_flatMap {α : Type} {l : List α} {f : α → List Char}
    (h : ∀ a ∈ l, isGuarded barred (f a)) : isGuarded barred (l.flatMap f) := by
  induction l with
  | nil => rfl
  | cons a l ih =>
    rw [List.forall_mem_cons] at h
    exact isGuarded_append h.1 (ih h.2)

/-- No dollar of a guarded text stands in front of a character that is barred. -/
theorem ne_of_isGuarded (h : isGuarded barred cs) {d : Char} (hd : d ∈ barred)
    (before behind : List Char) : cs ≠ before ++ '$' :: d :: behind := by
  induction before generalizing cs with
  | nil =>
    rintro rfl
    obtain ⟨d', ds, heq, hd'⟩ := (isGuarded_cons.1 h).1 rfl
    rw [(List.cons.inj heq).1] at hd
    exact hd' hd
  | cons b before ih =>
    rintro rfl
    exact ih (isGuarded_cons.1 h).2 rfl

/-- In a text that is guarded against the character behind the dollar nothing is replaced, and
nothing that begins in it. -/
theorem replaceAll_append_of_isGuarded {d : Char} (h : isGuarded [d] cs)
    (rest value tail : List Char) :
    replaceAll '$' (d :: rest) value (cs ++ tail) =
      cs ++ replaceAll '$' (d :: rest) value tail := by
  induction cs with
  | nil => rfl
  | cons c cs ih =>
    obtain ⟨hdollar, hrest⟩ := isGuarded_cons.1 h
    have hafter : after? ('$' :: d :: rest) (c :: (cs ++ tail)) = none := by
      by_cases hc : c = '$'
      · obtain ⟨d', ds, rfl, hd'⟩ := hdollar hc
        have hd : d ≠ d' := by simpa [eq_comm] using hd'
        simp [after?, hd]
      · simp [after?, Ne.symm hc]
    rw [List.cons_append, replaceAll]
    split
    · rename_i behind hbehind
      rw [hafter] at hbehind
      cases hbehind
    · rw [ih hrest, List.cons_append]

/-- The text that is replaced is replaced where it stands in front. -/
theorem replaceAll_self_append (first : Char) (rest value tail : List Char) :
    replaceAll first rest value (first :: rest ++ tail) =
      value ++ replaceAll first rest value tail := by
  have hafter : after? (first :: rest) (first :: (rest ++ tail)) = some tail :=
    after?_append (first :: rest) tail
  rw [List.cons_append, replaceAll]
  split
  · rename_i behind hbehind
    rw [Option.some.inj (hbehind.symm.trans hafter)]
  · rename_i hbehind
    rw [hafter] at hbehind
    cases hbehind

end Text

open Text

/-- In a text that is guarded against braces no placeholder of a parameter begins. -/
theorem pieces_append_of_isGuarded {cs : List Char} (h : isGuarded ['\x7b'] cs) (tail : List Char) :
    pieces (cs ++ tail) = cs.map .character ++ pieces tail := by
  induction cs with
  | nil => rfl
  | cons c cs ih =>
    obtain ⟨hdollar, hrest⟩ := isGuarded_cons.1 h
    have hlead : Placeholder.lead? (c :: (cs ++ tail)) = none := by
      refine Option.eq_none_iff_forall_ne_some.2 fun ⟨p, rest⟩ hsome => ?_
      have heq : c :: (cs ++ tail) = '$' :: '\x7b' :: _ := Placeholder.eq_of_lead? hsome
      obtain ⟨rfl, hbehind⟩ := List.cons.inj heq
      obtain ⟨d, ds, rfl, hd⟩ := hdollar rfl
      exact hd (List.mem_singleton.2 (List.cons.inj hbehind).1)
    rw [List.cons_append, pieces_eq, hlead]
    simp only [List.map_cons, List.cons_append, ih hrest]

/-! ### Fragments -/

/-- A part of a script as its author writes it. -/
inductive Fragment where
  | literal (cs : List Char)
  /-- The placeholder of the working directory. -/
  | directory
  /-- The placeholder of a parameter. -/
  | parameter (p : Placeholder)

namespace Fragment

/-- The text of a fragment. -/
def written : Fragment → List Char
  | literal cs => cs
  | directory => directoryPlaceholder.toList
  | parameter p => p.written

/-- The parameter that a fragment names. -/
def name? : Fragment → Option String
  | literal _ => none
  | directory => none
  | parameter p => some (String.ofList p.name)

/-- Literal text shows no beginning of a placeholder, not even together with what is behind it; and
a placeholder has white space and a name where they belong, and no dollar in the name. -/
def IsProper : Fragment → Prop
  | literal cs => isGuarded ['\x7b', '(', '$'] cs
  | directory => True
  | parameter p => p.Proper ∧ '$' ∉ p.name

instance : DecidablePred IsProper
  | literal cs => inferInstanceAs (Decidable (isGuarded ['\x7b', '(', '$'] cs = true))
  | directory => inferInstanceAs (Decidable True)
  | parameter p => inferInstanceAs (Decidable (p.Proper ∧ '$' ∉ p.name))

/-- What becomes of a fragment. -/
def filled (directory : String) (b : Bindings) : Fragment → List Char
  | literal cs => cs
  | .directory => directory.toList
  | parameter p => (b.lookup (String.ofList p.name)).elim p.written String.toList

variable {directory : String} {b : Bindings} {f : Fragment} {l : List Fragment}

/-- The text of a fragment when the working directory has been put in. -/
def located (directory : String) : Fragment → List Char
  | literal cs => cs
  | .directory => directory.toList
  | parameter p => p.written

theorem isGuarded_written_parameter {p : Placeholder} (h : (parameter p).IsProper) :
    isGuarded ['('] p.written := by
  obtain ⟨cs, hwritten, hdollar⟩ := h.1.exists_written_eq h.2
  rw [hwritten]
  exact isGuarded_cons.2 ⟨fun _ => ⟨_, _, rfl, by decide⟩, isGuarded_of_not_mem hdollar⟩

/-- The working directory is put in where its placeholder was written. -/
theorem substituteDirectory_written (directory : String) (h : ∀ f ∈ l, f.IsProper) :
    substituteDirectory directory (String.ofList (l.flatMap written)) =
      String.ofList (l.flatMap (located directory)) := by
  have hplaceholder : directoryPlaceholder.toList.drop 1 =
      '(' :: directoryPlaceholder.toList.drop 2 := rfl
  rw [substituteDirectory, String.toList_ofList, hplaceholder]
  congr 1
  induction l with
  | nil => rw [List.flatMap_nil, List.flatMap_nil, replaceAll]
  | cons f l ih =>
    obtain ⟨hf, hl⟩ := List.forall_mem_cons.1 h
    rw [List.flatMap_cons, List.flatMap_cons, ← ih hl]
    cases f with
    | literal cs => exact replaceAll_append_of_isGuarded (isGuarded_mono (by decide) hf) _ _ _
    | parameter p => exact replaceAll_append_of_isGuarded (isGuarded_written_parameter hf) _ _ _
    | directory => exact replaceAll_self_append _ _ _ _

/-- The values of the parameters are put in where their placeholders were written. -/
theorem substituteParameters_located (b : Bindings) (hdirectory : '$' ∉ directory.toList)
    (h : ∀ f ∈ l, f.IsProper) :
    substituteParameters b (String.ofList (l.flatMap (located directory))) =
      String.ofList (l.flatMap (filled directory b)) := by
  have hcharacters (cs : List Char) : (cs.map .character).flatMap (Piece.filled b) = cs := by
    induction cs with
    | nil => rfl
    | cons c cs ih => exact congrArg (c :: ·) ih
  rw [substituteParameters, String.toList_ofList]
  congr 1
  induction l with
  | nil => simp [pieces, piecesFrom]
  | cons f l ih =>
    obtain ⟨hf, hl⟩ := List.forall_mem_cons.1 h
    rw [List.flatMap_cons, List.flatMap_cons, ← ih hl]
    cases f with
    | literal cs =>
      rw [located, pieces_append_of_isGuarded (isGuarded_mono (by decide) hf),
        List.flatMap_append, hcharacters, filled]
    | directory =>
      rw [located, pieces_append_of_isGuarded (isGuarded_of_not_mem hdirectory),
        List.flatMap_append, hcharacters, filled]
    | parameter p =>
      rw [located, pieces_eq, Placeholder.lead?_written hf.1, filled]
      simp only [List.flatMap_cons, Piece.filled]
      cases b.lookup (String.ofList p.name) with
      | none => rfl
      | some value => rfl

/-- Each fragment of a script is filled by itself. -/
theorem sanitize_written (b : Bindings) (hdirectory : '$' ∉ directory.toList)
    (h : ∀ f ∈ l, f.IsProper) :
    sanitize directory b (String.ofList (l.flatMap written)) =
      String.ofList (l.flatMap (filled directory b)) := by
  rw [sanitize, substituteDirectory_written directory h,
    substituteParameters_located b hdirectory h]

/-! ### Filling again -/

/-- What is left of a fragment: its text stands for itself, but a parameter without a value is still
a placeholder. -/
def settled (directory : String) (b : Bindings) : Fragment → Fragment
  | literal cs => literal cs
  | .directory => literal directory.toList
  | parameter p =>
    (b.lookup (String.ofList p.name)).elim (parameter p) fun value => literal value.toList

theorem written_settled (f : Fragment) :
    (f.settled directory b).written = f.filled directory b := by
  cases f with
  | literal cs => rfl
  | directory => rfl
  | parameter p =>
    rw [settled, filled]
    cases b.lookup (String.ofList p.name) with
    | none => rfl
    | some value => rfl

theorem filled_settled (f : Fragment) :
    (f.settled directory b).filled directory b = f.filled directory b := by
  cases f with
  | literal cs => rfl
  | directory => rfl
  | parameter p =>
    rw [settled]
    cases hvalue : b.lookup (String.ofList p.name) with
    | none => rfl
    | some value => rw [filled, hvalue]; rfl

/-- What is put in without a dollar begins no placeholder. -/
theorem IsProper.settled (hdirectory : '$' ∉ directory.toList)
    (hvalues : ∀ name value, b.lookup name = some value → '$' ∉ value.toList) (h : f.IsProper) :
    (f.settled directory b).IsProper := by
  cases f with
  | literal cs => exact h
  | directory => exact isGuarded_of_not_mem hdirectory
  | parameter p =>
    rw [Fragment.settled]
    cases hvalue : b.lookup (String.ofList p.name) with
    | none => exact h
    | some value => exact isGuarded_of_not_mem (hvalues _ value hvalue)

end Fragment

open Fragment in
/-- A command that is put together from fragments is filled fragment by fragment: literal text and
placeholders of parameters without a value stay as they are. If neither the working directory nor a
value has a dollar in it, filling the result again changes nothing. -/
theorem sanitize_fragments {directory : String} {b : Bindings} {l : List Fragment}
    (hdirectory : '$' ∉ directory.toList)
    (hvalues : ∀ name value, b.lookup name = some value → '$' ∉ value.toList)
    (h : ∀ f ∈ l, f.IsProper) :
    let filled := sanitize directory b (String.ofList (l.flatMap Fragment.written))
    filled = String.ofList (l.flatMap (Fragment.filled directory b)) ∧
      sanitize directory b filled = filled := by
  intro filled
  have hfilled : filled = String.ofList (l.flatMap (Fragment.filled directory b)) :=
    sanitize_written b hdirectory h
  -- The result is put together from fragments of its own, which are filled with themselves.
  let rest := l.map (Fragment.settled directory b)
  have hwritten : filled = String.ofList (rest.flatMap Fragment.written) := by
    rw [hfilled, List.flatMap_map]
    simp only [written_settled]
  have hproper : ∀ f ∈ rest, f.IsProper := by
    intro f hf
    obtain ⟨f, hmem, rfl⟩ := List.mem_map.1 hf
    exact (h f hmem).settled hdirectory hvalues
  refine ⟨hfilled, ?_⟩
  calc sanitize directory b filled
    _ = sanitize directory b (String.ofList (rest.flatMap Fragment.written)) := by rw [← hwritten]
    _ = String.ofList (rest.flatMap (Fragment.filled directory b)) :=
      sanitize_written b hdirectory hproper
    _ = filled := by
      rw [hfilled, List.flatMap_map]
      simp only [filled_settled]

/-- A command with braces beside its placeholders. -/
def bracedFragments : List Fragment :=
  [.literal "a=\x7b".toList, .parameter ⟨[' '], ['x'], ['\t', ' ']⟩, .literal "\x7d \x7b(".toList,
    .directory, .parameter ⟨[], ['y'], []⟩, .literal "$HOME".toList]

/-- A value that looks like the inside of a placeholder is left alone, and so is the placeholder of
a parameter without a value. -/
theorem sanitize_fragments_braced :
    let b : Bindings := [("x", "\x7b\x7bparameters.y\x7d\x7d")]
    let command := String.ofList (bracedFragments.flatMap Fragment.written)
    (∀ f ∈ bracedFragments, f.IsProper) ∧
      (∀ name value, b.lookup name = some value → '$' ∉ value.toList) ∧
      sanitize "/repo" b (sanitize "/repo" b command) =
        "a=\x7b\x7b\x7bparameters.y\x7d\x7d\x7d \x7b(/repo$\x7b\x7bparameters.y\x7d\x7d$HOME" := by
  intro b command
  have hvalues (name value : String) (h : b.lookup name = some value) : '$' ∉ value.toList := by
    rw [List.lookup_cons] at h
    split at h
    · cases h
      decide +kernel
    · cases h
  have hproper : ∀ f ∈ bracedFragments, f.IsProper := by decide +kernel
  have hdirectory : '$' ∉ "/repo".toList := by decide
  obtain ⟨hfilled, hagain⟩ := sanitize_fragments hdirectory hvalues hproper
  refine ⟨hproper, hvalues, ?_⟩
  rw [hagain, hfilled]
  decide +kernel

/-! ### Texts without placeholders -/

/-- Somewhere in the text stands the placeholder of the working directory or that of a parameter. -/
def HoldsPlaceholder (text : String) : Prop :=
  ∃ before placeholder behind, text.toList = before ++ (placeholder ++ behind) ∧
    (placeholder = directoryPlaceholder.toList ∨
      ∃ p : Placeholder, p.Proper ∧ placeholder = p.written)

theorem not_holdsPlaceholder_of_isGuarded {text : String}
    (h : isGuarded ['\x7b', '('] text.toList) : ¬HoldsPlaceholder text := by
  rintro ⟨before, placeholder, behind, heq, rfl | ⟨p, -, rfl⟩⟩
  · exact ne_of_isGuarded h (d := '(') (by decide) before _ heq
  · exact ne_of_isGuarded h (d := '\x7b') (by decide) before _ heq

/-- A script of fragments holds no placeholder any more if the working directory is put into it, and
for each parameter that it names a value, all of them free of dollars. -/
theorem not_holdsPlaceholder_sanitize {directory : String} {b : Bindings} {l : List Fragment}
    (hdirectory : '$' ∉ directory.toList) (h : ∀ f ∈ l, f.IsProper)
    (hnamed : ∀ f ∈ l, ∀ name, f.name? = some name →
      ∃ value, b.lookup name = some value ∧ '$' ∉ value.toList) :
    ¬HoldsPlaceholder (sanitize directory b (String.ofList (l.flatMap Fragment.written))) := by
  rw [Fragment.sanitize_written b hdirectory h]
  refine not_holdsPlaceholder_of_isGuarded ?_
  rw [String.toList_ofList]
  refine isGuarded_flatMap fun f hf => ?_
  cases f with
  | literal cs => exact isGuarded_mono (by decide) (h _ hf)
  | directory => exact isGuarded_of_not_mem hdirectory
  | parameter p =>
    obtain ⟨value, hvalue, hdollar⟩ := hnamed _ hf _ rfl
    rw [Fragment.filled, hvalue]
    exact isGuarded_of_not_mem hdollar

end PipelineScript
