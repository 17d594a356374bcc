import Mathlib.Data.List.DropRight
import PipelineScript.Proofs.Yaml.Token.Forward

/-!
# Plain scalars and their source

The source of a plain scalar is what stands between the place where it begins and the place where
the next token is looked for, without the blanks and the line ends behind it.  A scalar whose
source lies within one line is read as its source, character by character.
-/

namespace PipelineScript.Yaml

/-- A blank or the end of a line. -/
def isSeparator (c : Char) : Bool :=
  isBlank c || isBreak c

/-- The characters without the blanks and line ends behind them. -/
def dropGap (cs : List Char) : List Char :=
  cs.rdropWhile isSeparator

theorem dropGap_isPrefix (cs : List Char) : dropGap cs <+: cs :=
  List.rdropWhile_prefix isSeparator cs

theorem dropGap_cons (c : Char) (cs : List Char) :
    dropGap (c :: cs) = if dropGap cs = [] ∧ isSeparator c then [] else c :: dropGap cs := by
  simp only [dropGap, List.rdropWhile, List.reverse_cons, List.dropWhile_append,
    List.reverse_eq_nil_iff, List.isEmpty_iff]
  by_cases hcs : cs.reverse.dropWhile isSeparator = []
  · by_cases hc : isSeparator c = true <;> simp [hcs, hc]
  · simp [hcs]

theorem dropGap_of_cons_eq_nil {c : Char} {cs : List Char} (h : dropGap (c :: cs) = []) :
    dropGap cs = [] := by
  rw [dropGap_cons] at h
  split_ifs at h with hgap
  exact hgap.1

theorem dropGap_cons_of_ne_nil {c : Char} {cs : List Char} (h : dropGap (c :: cs) ≠ []) :
    dropGap (c :: cs) = c :: dropGap cs := by
  rw [dropGap_cons] at h ⊢
  split_ifs at h ⊢
  · exact absurd rfl h
  · rfl

/-- A plain scalar of a text. -/
structure PlainScalar where
  /-- The characters that it takes in the text, with each line end as one line feed. -/
  source : List Char
  /-- The text that it is read as. -/
  text : String
  deriving DecidableEq, Repr

namespace PlainScalar

/-- The scalar lies within one line. -/
def isOneLine (w : PlainScalar) : Bool :=
  w.source.all (!isBreak ·)

/-- If the scalar lies within one line, its text is its source. -/
def IsKept (w : PlainScalar) : Prop :=
  w.isOneLine → w.text.toList = w.source

end PlainScalar

/-! ### One plain scalar -/

/-- What is taken of the characters belongs to the scalar up to the last gap.  The gap before them
belongs to the scalar if anything behind it does. -/
theorem plainFrom_taken {flow : Bool} {indent : Int} {cs : List Char} {m : Mark}
    {read : List Char} {gap : Gap} {r : ScalarScan}
    (h : plainFrom flow indent cs m read gap = .ok r) :
    ∃ taken, cs = taken ++ r.behind.rest ∧
      (dropGap taken = [] → r.text = read.reverse) ∧
      ∀ blanks, gap = .inLine blanks → dropGap taken ≠ [] → (dropGap taken).all (!isBreak ·) →
        r.text = (blanks ++ read).reverse ++ dropGap taken := by
  have hnil : dropGap [] = [] := rfl
  fun_induction plainFrom flow indent cs m read gap with
  | case3 | case6 => cases h
  | case1 | case5 | case7 =>
    cases h
    exact ⟨[], rfl, fun _ => rfl, fun _ _ hne => absurd hnil hne⟩
  | case2 c cs m read gap hbreak ih =>
    obtain ⟨taken, hcs, hend, -⟩ := ih h
    refine ⟨c :: taken, by rw [hcs]; rfl, fun htaken => hend (dropGap_of_cons_eq_nil htaken),
      fun _ _ hne hline => ?_⟩
    rw [dropGap_cons_of_ne_nil hne] at hline
    simp [hbreak] at hline
  | case4 c cs m read gap _ hblank _ ih =>
    obtain ⟨taken, hcs, hend, hword⟩ := ih h
    refine ⟨c :: taken, by rw [hcs]; rfl, fun htaken => hend (dropGap_of_cons_eq_nil htaken),
      fun blanks hgap hne hline => ?_⟩
    have hne' : dropGap taken ≠ [] := fun hend' =>
      hne (by rw [dropGap_cons, if_pos ⟨hend', by simp [isSeparator, hblank]⟩])
    rw [dropGap_cons_of_ne_nil hne, List.all_cons, Bool.and_eq_true] at hline
    rw [hword (c :: blanks) (by rw [hgap]; rfl) hne' hline.2, dropGap_cons_of_ne_nil hne]
    simp
  | case8 c cs m read gap hbreak hblank _ _ _ ih =>
    obtain ⟨taken, hcs, hend, hword⟩ := ih h
    have htaken : dropGap (c :: taken) = c :: dropGap taken := by
      rw [dropGap_cons, if_neg (by simp [isSeparator, hbreak, hblank])]
    refine ⟨c :: taken, by rw [hcs]; rfl, fun hnil' => ?_, fun blanks hgap _ hline => ?_⟩
    · rw [htaken] at hnil'
      cases hnil'
    · rw [htaken, List.all_cons, Bool.and_eq_true] at hline
      rw [htaken]
      by_cases hend' : dropGap taken = []
      · rw [hend hend', hend', hgap]
        simp [Gap.read]
      · rw [hword [] rfl hend' hline.2, hgap]
        simp [Gap.read]

/-- A plain scalar is read as what is taken of the text, if that lies within one line. -/
theorem plainScalar_taken {flow : Bool} {indent : Int} {c : Cursor} {r : ScalarScan}
    (h : plainScalar flow indent c = .ok r) :
    ∃ taken, c.rest = taken ++ r.behind.rest ∧
      ((dropGap taken).all (!isBreak ·) → r.text = dropGap taken) := by
  obtain ⟨taken, hrest, hend, hword⟩ := plainFrom_taken h
  refine ⟨taken, hrest, fun hline => ?_⟩
  by_cases hnil : dropGap taken = []
  · rw [hend hnil, hnil]
    rfl
  · exact hword [] rfl hnil hline

/-! ### One token -/

/-- The text of a plain scalar.  One without text stands for a node that is left out. -/
def Token.plainText? : Token → Option String
  | .scalar text .plain => if text = "" then none else some text
  | _ => none

namespace Scanner

/-- The texts of the plain scalars so far, the last one first. -/
def texts (s : Scanner) : List String :=
  s.tokens.filterMap Token.plainText?

/-- The characters that are taken between two states. -/
def taken (s s' : Scanner) : List Char :=
  s.cursor.rest.take (s.cursor.rest.length - s'.cursor.rest.length)

/-- The plain scalar between two states, if the last token is one. -/
def plainScalar? (s s' : Scanner) : Option PlainScalar :=
  (s'.tokens.head?.bind Token.plainText?).map (⟨dropGap (s.taken s'), ·⟩)

theorem taken_eq {s s' : Scanner} {cs : List Char}
    (h : s.cursor.rest = cs ++ s'.cursor.rest) : s.taken s' = cs := by
  rw [taken, h, List.length_append, Nat.add_sub_cancel, List.take_left]

theorem isInfix_of_plainScalar? {s s' : Scanner} {w : PlainScalar}
    (h : s.plainScalar? s' = some w) : w.source <:+: s.cursor.rest := by
  obtain ⟨text, -, rfl⟩ := Option.map_eq_some_iff.1 h
  exact ((dropGap_isPrefix _).trans (List.take_prefix _ _)).isInfix

/-- Nothing has been read between two states. -/
structure Keeps (s s' : Scanner) : Prop where
  cursor : s'.cursor = s.cursor
  texts : s'.texts = s.texts

/-- One token has been read between two states. -/
structure Reads (s s' : Scanner) : Prop where
  suffix : s'.cursor.rest <:+ s.cursor.rest
  texts : s'.texts = ((s.plainScalar? s').map PlainScalar.text).toList ++ s.texts
  kept : ∀ w, s.plainScalar? s' = some w → w.IsKept

theorem Keeps.refl (s : Scanner) : s.Keeps s := ⟨rfl, rfl⟩

theorem Keeps.trans {s s₁ s₂ : Scanner} (h : s.Keeps s₁) (h' : s₁.Keeps s₂) : s.Keeps s₂ :=
  ⟨h'.cursor.trans h.cursor, h'.texts.trans h.texts⟩

section Steps

variable {s s' : Scanner} {t : Token}

theorem dropKey_keeps (h : s.dropKey = .ok s') : s.Keeps s' := by
  rw [dropKey] at h
  split at h
  · split_ifs at h
    cases h
    exact ⟨rfl, rfl⟩
  · cases h
    exact .refl s

theorem dropStaleKey_keeps (h : s.dropStaleKey = .ok s') : s.Keeps s' := by
  rw [dropStaleKey] at h
  split at h
  · split_ifs at h
    · exact dropKey_keeps h
    · cases h
      exact .refl s
  · cases h
    exact .refl s

theorem saveKey_keeps (h : s.saveKey = .ok s') : s.Keeps s' := by
  rw [saveKey] at h
  split_ifs at h
  · cases h
    exact .refl s
  · obtain ⟨s₁, hdrop, h⟩ := bind_eq_ok.1 h
    cases h
    exact (dropKey_keeps hdrop).trans ⟨rfl, rfl⟩

theorem insert_keeps (position : Nat) (ht : t.plainText? = none) :
    s.Keeps (s.insert position t) := by
  refine ⟨rfl, ?_⟩
  rw [texts, insert, List.filterMap_append, List.filterMap_cons_none ht, ← List.filterMap_append,
    List.take_append_drop]
  rfl

theorem openBlock_keeps (column position : Nat) (ht : t.plainText? = none) :
    s.Keeps (s.openBlock column position t) := by
  rw [openBlock]
  split_ifs
  · exact (insert_keeps position ht).trans ⟨rfl, rfl⟩
  · exact .refl s

theorem closeBlocksFrom_keeps (column : Int) (outer : List Int) (s : Scanner) :
    s.Keeps (closeBlocksFrom column outer s) := by
  induction outer generalizing s with
  | nil => exact .refl s
  | cons i outer ih =>
    rw [closeBlocksFrom]
    split_ifs
    · have hpush : s.Keeps { s.push .blockEnd with indent := i, outer } := ⟨rfl, rfl⟩
      exact hpush.trans (ih _)
    · exact .refl s

theorem closeBlocks_keeps (column : Int) : s.Keeps (s.closeBlocks column) := by
  rw [closeBlocks]
  split_ifs
  · exact .refl s
  · exact closeBlocksFrom_keeps column _ s

/-- A token that is no plain scalar is pushed, and the place moves on. -/
theorem Keeps.reads {s₁ : Scanner} (h : s.Keeps s₁) (ht : t.plainText? = none)
    (htokens : s'.tokens = t :: s₁.tokens) (hrest : s'.cursor.rest <:+ s₁.cursor.rest) :
    s.Reads s' := by
  have hnone : s.plainScalar? s' = none := by simp [plainScalar?, htokens, ht]
  refine ⟨h.cursor ▸ hrest, ?_, fun w hw => ?_⟩
  · have htexts : s'.texts = s₁.texts := by
      rw [Scanner.texts, htokens, List.filterMap_cons_none ht]
      rfl
    rw [hnone]
    exact htexts.trans h.texts
  · rw [hnone] at hw
    cases hw

theorem fetchDirective_reads (h : s.fetchDirective = .ok s') : s.Reads s' := by
  rw [fetchDirective] at h
  obtain ⟨s₁, hdrop, h⟩ := bind_eq_ok.1 h
  obtain ⟨⟨t, c⟩, hdirective, h⟩ := bind_eq_ok.1 h
  simp only [guard_eq_ok] at h
  obtain ⟨-, h⟩ := h
  cases h
  obtain ⟨htoken, hrest⟩ := directiveAt_suffix hdirective
  have ht : t.plainText? = none := by
    obtain ⟨_, _, rfl⟩ | ⟨_, _, rfl⟩ := htoken
    · rfl
    · rfl
  exact ((closeBlocks_keeps (-1)).trans (dropKey_keeps hdrop)).reads ht rfl
    ((Cursor.skipBreak_suffix _).trans ((Cursor.skipComment_suffix c).trans hrest))

theorem fetchMarker_reads (ht : t.plainText? = none) (h : s.fetchMarker t = .ok s') :
    s.Reads s' := by
  rw [fetchMarker] at h
  obtain ⟨s₁, hdrop, h⟩ := bind_eq_ok.1 h
  cases h
  exact ((closeBlocks_keeps (-1)).trans (dropKey_keeps hdrop)).reads ht rfl
    (Cursor.advance_suffix _ 3)

theorem fetchFlowStart_reads (ht : t.plainText? = none) (h : s.fetchFlowStart t = .ok s') :
    s.Reads s' := by
  rw [fetchFlowStart] at h
  obtain ⟨s₁, hsave, h⟩ := bind_eq_ok.1 h
  cases h
  exact (saveKey_keeps hsave).reads ht rfl (Cursor.advance_suffix _ 1)

theorem fetchFlowEnd_reads (ht : t.plainText? = none) (h : s.fetchFlowEnd t = .ok s') :
    s.Reads s' := by
  rw [fetchFlowEnd] at h
  obtain ⟨s₁, hdrop, h⟩ := bind_eq_ok.1 h
  cases h
  exact (dropKey_keeps hdrop).reads ht rfl (Cursor.advance_suffix _ 1)

theorem fetchComma_reads (h : s.fetchComma = .ok s') : s.Reads s' := by
  rw [fetchComma] at h
  obtain ⟨s₁, hdrop, h⟩ := bind_eq_ok.1 h
  cases h
  exact (dropKey_keeps hdrop).reads rfl rfl (Cursor.advance_suffix _ 1)

theorem fetchDash_reads (h : s.fetchDash = .ok s') : s.Reads s' := by
  simp only [fetchDash, guard_eq_ok] at h
  obtain ⟨-, h⟩ := h
  obtain ⟨s₁, hdrop, h⟩ := bind_eq_ok.1 h
  cases h
  exact ((openBlock_keeps _ _ rfl).trans (dropKey_keeps hdrop)).reads rfl rfl
    (Cursor.advance_suffix _ 1)

theorem fetchKey_reads (h : s.fetchKey = .ok s') : s.Reads s' := by
  simp only [fetchKey, guard_eq_ok] at h
  obtain ⟨-, h⟩ := h
  obtain ⟨s₁, hdrop, h⟩ := bind_eq_ok.1 h
  cases h
  exact ((openBlock_keeps _ _ rfl).trans (dropKey_keeps hdrop)).reads rfl rfl
    (Cursor.advance_suffix _ 1)

theorem fetchValue_reads (h : s.fetchValue = .ok s') : s.Reads s' := by
  rw [fetchValue] at h
  split at h
  · cases h
    exact ((insert_keeps _ rfl).trans (openBlock_keeps _ _ rfl)).reads rfl rfl
      (Cursor.advance_suffix _ 1)
  · simp only [guard_eq_ok] at h
    obtain ⟨-, h⟩ := h
    cases h
    exact (openBlock_keeps _ _ rfl).reads rfl rfl (Cursor.advance_suffix _ 1)

theorem fetchAnchor_reads {token : String → Token} (ht : ∀ name, (token name).plainText? = none)
    (h : s.fetchAnchor token = .ok s') : s.Reads s' := by
  rw [fetchAnchor] at h
  obtain ⟨s₁, hsave, h⟩ := bind_eq_ok.1 h
  simp only [guard_eq_ok] at h
  obtain ⟨-, h⟩ := h
  cases h
  exact (saveKey_keeps hsave).reads (ht _) rfl (Cursor.advance_suffix _ _)

theorem fetchTag_reads (h : s.fetchTag = .ok s') : s.Reads s' := by
  rw [fetchTag] at h
  obtain ⟨s₁, hsave, h⟩ := bind_eq_ok.1 h
  obtain ⟨⟨t, c⟩, htag, h⟩ := bind_eq_ok.1 h
  simp only [guard_eq_ok] at h
  obtain ⟨-, h⟩ := h
  cases h
  obtain ⟨⟨_, _, rfl⟩, hrest⟩ := tagAt_suffix htag
  exact (saveKey_keeps hsave).reads rfl rfl hrest

theorem fetchBlockScalar_reads {literal : Bool} (h : s.fetchBlockScalar literal = .ok s') :
    s.Reads s' := by
  rw [fetchBlockScalar] at h
  obtain ⟨s₁, hdrop, h⟩ := bind_eq_ok.1 h
  obtain ⟨⟨text, c⟩, hscalar, h⟩ := bind_eq_ok.1 h
  cases h
  have ht : (Token.scalar (String.ofList text)
      (if literal then .literal else .folded)).plainText? = none := by
    cases literal with
    | true => rfl
    | false => rfl
  exact (dropKey_keeps hdrop).reads ht rfl (blockScalar_suffix hscalar)

theorem fetchQuoted_reads {double : Bool} (h : s.fetchQuoted double = .ok s') : s.Reads s' := by
  rw [fetchQuoted] at h
  obtain ⟨s₁, hsave, h⟩ := bind_eq_ok.1 h
  obtain ⟨r, hscalar, h⟩ := bind_eq_ok.1 h
  cases h
  have ht : (Token.scalar (String.ofList r.text)
      (if double then .doubleQuoted else .singleQuoted)).plainText? = none := by
    cases double with
    | true => rfl
    | false => rfl
  exact (saveKey_keeps hsave).reads ht rfl (quotedScalar_suffix hscalar)

theorem fetchPlain_reads (h : s.fetchPlain = .ok s') : s.Reads s' := by
  rw [fetchPlain] at h
  obtain ⟨s₁, hsave, h⟩ := bind_eq_ok.1 h
  obtain ⟨r, hscalar, h⟩ := bind_eq_ok.1 h
  have hkeeps := saveKey_keeps hsave
  obtain ⟨cs, hrest, hword⟩ := plainScalar_taken hscalar
  rw [hkeeps.cursor] at hrest
  have hbehind : s'.cursor = r.behind := by
    cases h
    rfl
  have htokens : s'.tokens = .scalar (String.ofList r.text) .plain :: s₁.tokens := by
    cases h
    rfl
  rw [← hbehind] at hrest
  refine ⟨⟨cs, hrest.symm⟩, ?_, fun w hw hline => ?_⟩
  · rw [← hkeeps.texts, plainScalar?, texts, htokens, List.head?_cons, Option.bind_some,
      List.filterMap_cons]
    cases Token.plainText? (.scalar (String.ofList r.text) .plain) with
    | none => rfl
    | some text => rfl
  · obtain ⟨text, htext, rfl⟩ := Option.map_eq_some_iff.1 hw
    rw [htokens, List.head?_cons, Option.bind_some, Token.plainText?] at htext
    split_ifs at htext
    cases htext
    rw [PlainScalar.isOneLine, taken_eq hrest] at hline
    rw [taken_eq hrest]
    exact String.toList_ofList.trans (hword hline)

theorem reads_of_ite {p : Prop} [Decidable p] {x y : Except Fault Scanner}
    (hx : x = .ok s' → s.Reads s') (hy : y = .ok s' → s.Reads s') :
    (if p then x else y) = .ok s' → s.Reads s' := by
  by_cases hp : p
  · rw [if_pos hp]
    exact hx
  · rw [if_neg hp]
    exact hy

theorem fetchToken_reads {c : Char} {cs : List Char} :
    s.fetchToken c cs = .ok s' → s.Reads s' := by
  refine reads_of_ite fetchDirective_reads ?_
  refine reads_of_ite (fetchMarker_reads rfl) ?_
  refine reads_of_ite (fetchMarker_reads rfl) ?_
  refine reads_of_ite (fetchFlowStart_reads rfl) ?_
  refine reads_of_ite (fetchFlowStart_reads rfl) ?_
  refine reads_of_ite (fetchFlowEnd_reads rfl) ?_
  refine reads_of_ite (fetchFlowEnd_reads rfl) ?_
  refine reads_of_ite fetchComma_reads ?_
  refine reads_of_ite fetchDash_reads ?_
  refine reads_of_ite fetchKey_reads ?_
  refine reads_of_ite fetchValue_reads ?_
  refine reads_of_ite (fetchAnchor_reads fun _ => rfl) ?_
  refine reads_of_ite (fetchAnchor_reads fun _ => rfl) ?_
  refine reads_of_ite fetchTag_reads ?_
  refine reads_of_ite fetchBlockScalar_reads ?_
  refine reads_of_ite fetchBlockScalar_reads ?_
  refine reads_of_ite fetchQuoted_reads ?_
  refine reads_of_ite fetchQuoted_reads ?_
  refine reads_of_ite fetchPlain_reads ?_
  intro h
  cases h

end Steps

/-! ### A text -/

section Runs

variable {s s' : Scanner}

theorem skipToToken_keeps (lines : Nat) (s : Scanner) :
    (skipToToken lines s).texts = s.texts ∧
      (skipToToken lines s).cursor.rest <:+ s.cursor.rest := by
  induction lines generalizing s with
  | zero => exact ⟨rfl, List.suffix_rfl⟩
  | succ lines ih =>
    rw [skipToToken]
    generalize hc₀ : (if s.cursor.column = 0 && s.cursor.rest.head? = some '\uFEFF' then
      s.cursor.advance 1 else s.cursor) = c₀
    have h₀ : c₀.rest <:+ s.cursor.rest := by
      rw [← hc₀]
      split_ifs
      · exact s.cursor.advance_suffix 1
      · exact List.suffix_rfl
    generalize hc₁ : c₀.skipWhile (fun c => c == ' ' || ((s.inFlow || !s.keyAllowed) && c == '\t'))
      = c₁
    have h₁ : c₁.rest <:+ s.cursor.rest := hc₁ ▸ (c₀.skipWhile_suffix _).trans h₀
    generalize hc₂ : (if c₁.rest.head? = some '#' then c₁.skipWhile (!isBreak ·) else c₁) = c₂
    have h₂ : c₂.rest <:+ s.cursor.rest := by
      rw [← hc₂]
      split_ifs
      · exact (c₁.skipWhile_suffix _).trans h₁
      · exact h₁
    split
    · obtain ⟨htexts, hrest⟩ := ih { s with
        cursor := c₂.skipBreak, keyAllowed := s.keyAllowed || !s.inFlow }
      exact ⟨htexts, hrest.trans (c₂.skipBreak_suffix.trans h₂)⟩
    · exact ⟨rfl, h₂⟩

/-- The state in which the next token begins. -/
def next (bound : Nat) (s : Scanner) : Except Fault Scanner := do
  let s ← (s.skipToToken bound).dropStaleKey
  return s.closeBlocks s.cursor.column

theorem next_keeps {bound : Nat} (h : s.next bound = .ok s') :
    s'.texts = s.texts ∧ s'.cursor.rest <:+ s.cursor.rest := by
  obtain ⟨s₁, hstale, h⟩ := bind_eq_ok.1 h
  cases h
  have hkeeps := (dropStaleKey_keeps hstale).trans (closeBlocks_keeps s₁.cursor.column)
  obtain ⟨htexts, hrest⟩ := skipToToken_keeps bound s
  exact ⟨hkeeps.texts.trans htexts, hkeeps.cursor ▸ hrest⟩

theorem run_succ (bound : Nat) (s : Scanner) :
    s.run (bound + 1) = s.next (bound + 1) >>= fun s =>
      match s.cursor.rest with
      | [] => (s.closeBlocks (-1)).dropKey >>= fun s => pure s.tokens.reverse
      | c :: cs => s.fetchToken c cs >>= run bound := by
  rw [run, next]
  cases (s.skipToToken (bound + 1)).dropStaleKey with
  | error e => rfl
  | ok s => rfl

/-- The plain scalars that `run` goes through. -/
def plainScalars : Nat → Scanner → Except Fault (List PlainScalar)
  | 0, _ => .error .unexpectedCharacter
  | bound + 1, s => do
    let s ← s.next (bound + 1)
    match s.cursor.rest with
    | [] => return []
    | c :: cs =>
      let s' ← s.fetchToken c cs
      return (s.plainScalar? s').toList ++ (← plainScalars bound s')

/-- The tokens of a run hold the plain scalars that it goes through, and each of them is taken from
the text. -/
theorem run_plainScalars {bound : Nat} {ts : List Token} (h : s.run bound = .ok ts) :
    ∃ ws, s.plainScalars bound = .ok ws ∧
      ts.filterMap Token.plainText? = s.texts.reverse ++ ws.map PlainScalar.text ∧
      ∀ w ∈ ws, w.IsKept ∧ w.source <:+: s.cursor.rest := by
  induction bound generalizing s with
  | zero => cases h
  | succ bound ih =>
    rw [run_succ] at h
    obtain ⟨s₁, hnext, h⟩ := bind_eq_ok.1 h
    obtain ⟨htexts, hrest⟩ := next_keeps hnext
    rw [plainScalars, hnext]
    split at h
    · rename_i hnil
      obtain ⟨s₂, hdrop, h⟩ := bind_eq_ok.1 h
      cases h
      have hlast := ((closeBlocks_keeps (-1)).trans (dropKey_keeps hdrop)).texts
      refine ⟨[], by simp [Bind.bind, Except.bind, hnil]; rfl, ?_, by simp⟩
      rw [List.filterMap_reverse, ← htexts, ← hlast, List.map_nil, List.append_nil]
      rfl
    · rename_i c cs hcons
      obtain ⟨s₂, hfetch, h⟩ := bind_eq_ok.1 h
      have hreads := fetchToken_reads hfetch
      obtain ⟨ws, hws, htokens, hkept⟩ := ih h
      refine ⟨(s₁.plainScalar? s₂).toList ++ ws, ?_, ?_, fun w hw => ?_⟩
      · simp [Bind.bind, Except.bind, hcons, hfetch, hws]
        rfl
      · rw [htokens, hreads.texts, htexts, List.reverse_append, List.append_assoc, List.map_append]
        cases s₁.plainScalar? s₂ with
        | none => rfl
        | some w => rfl
      · rcases List.mem_append.1 hw with hw | hw
        · have hw : s₁.plainScalar? s₂ = some w := Option.mem_toList.1 hw
          exact ⟨hreads.kept w hw, (isInfix_of_plainScalar? hw).trans hrest.isInfix⟩
        · obtain ⟨hword, hsource⟩ := hkept w hw
          exact ⟨hword, hsource.trans (hreads.suffix.trans hrest).isInfix⟩

end Runs

end Scanner

section Lines

variable {w cs : List Char}

theorem eq_nil_of_prefix_feed (hw : ∀ c ∈ w, isBreak c = false) (h : w <+: '\n' :: cs) :
    w = [] := by
  cases w with
  | nil => rfl
  | cons a w =>
    obtain rfl := (List.cons_prefix_cons.1 h).1
    exact absurd (hw '\n' List.mem_cons_self) (by decide)

theorem prefix_of_prefix_unifyBreaks (hw : ∀ c ∈ w, isBreak c = false)
    (h : w <+: unifyBreaks cs) : w <+: cs := by
  fun_induction unifyBreaks cs generalizing w with
  | case1 => exact h
  | case2 | case3 | case4 => exact eq_nil_of_prefix_feed hw h ▸ List.nil_prefix
  | case5 c cs _ _ _ ih =>
    cases w with
    | nil => exact List.nil_prefix
    | cons a w =>
      obtain ⟨rfl, htail⟩ := List.cons_prefix_cons.1 h
      exact List.cons_prefix_cons.2
        ⟨rfl, ih (fun c hc => hw c (List.mem_cons_of_mem _ hc)) htail⟩

/-- What lies within one line of a text with unified line ends stands in the text itself. -/
theorem infix_of_infix_unifyBreaks (hw : ∀ c ∈ w, isBreak c = false)
    (h : w <:+: unifyBreaks cs) : w <:+: cs := by
  fun_induction unifyBreaks cs with
  | case1 => exact h
  | case2 cs ih =>
    obtain h | h := List.infix_cons_iff.1 h
    · exact eq_nil_of_prefix_feed hw h ▸ List.nil_infix
    · exact (ih h).trans (List.suffix_append ['\r', '\n'] cs).isInfix
  | case3 cs _ ih | case4 cs ih =>
    obtain h | h := List.infix_cons_iff.1 h
    · exact eq_nil_of_prefix_feed hw h ▸ List.nil_infix
    · exact (ih h).trans (List.suffix_cons _ cs).isInfix
  | case5 c cs hcrlf hcr hnel ih =>
    obtain h | h := List.infix_cons_iff.1 h
    · have h : w <+: unifyBreaks (c :: cs) := by rw [unifyBreaks] <;> assumption
      exact (prefix_of_prefix_unifyBreaks hw h).isInfix
    · exact (ih h).trans (List.suffix_cons c cs).isInfix

end Lines

/-- The plain scalars of a text, in their order. -/
def plainScalars (text : String) : Except Fault (List PlainScalar) := do
  let cs ← readText text
  (Scanner.start cs).plainScalars (cs.length + 1)

/-- The plain scalars of a text are the plain scalars among its tokens.  One that lies within one
line stands in the text as it is read. -/
theorem plainScalars_of_tokens {text : String} {ts : List Token} (h : tokens text = .ok ts) :
    ∃ ws, plainScalars text = .ok ws ∧
      ts.filterMap Token.plainText? = ws.map PlainScalar.text ∧
      ∀ w ∈ ws, w.isOneLine → w.text.toList = w.source ∧ w.source <:+: text.toList := by
  obtain ⟨cs, hread, h⟩ := bind_eq_ok.1 h
  obtain ⟨ws, hws, htokens, hkept⟩ := Scanner.run_plainScalars h
  have hcs : unifyBreaks text.toList = cs := by
    rw [readText] at hread
    split_ifs at hread
    cases hread
    rfl
  refine ⟨ws, by rw [plainScalars, hread]; exact hws, htokens, fun w hw hline => ?_⟩
  obtain ⟨hword, hsource⟩ := hkept w hw
  have hbreak : ∀ c ∈ w.source, isBreak c = false := by
    simpa [PlainScalar.isOneLine] using hline
  exact ⟨hword hline, infix_of_infix_unifyBreaks hbreak (hcs ▸ hsource)⟩

end PipelineScript.Yaml
