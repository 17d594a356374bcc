import Mathlib.Data.List.Infix
import Mathlib.Tactic.Common
import PipelineScript.Yaml.Token.Scanner

/-!
# The way through a text

Whatever is read of a text, what is left is the end of what was there before. So the scanner goes
through the text from its start to its end and takes each character once at most.
-/

namespace PipelineScript.Yaml

theorem bind_eq_ok {α β : Type} {x : Except Fault α} {f : α → Except Fault β} {b : β} :
    (x >>= f) = .ok b ↔ ∃ a, x = .ok a ∧ f a = .ok b := by
  cases x with
  | error e => simp [Bind.bind, Except.bind]
  | ok a => simp [Bind.bind, Except.bind]

theorem map_eq_ok {α β : Type} {f : α → β} {x : Except Fault α} {b : β} :
    f <$> x = .ok b ↔ ∃ a, x = .ok a ∧ f a = b := by
  cases x with
  | error e => simp [Functor.map, Except.map]
  | ok a => simp [Functor.map, Except.map]

theorem guard_eq_ok {α : Type} {p : Prop} [Decidable p] {e : Fault}
    {f : PUnit → Except Fault α} {a : α} :
    (if p then (throw e : Except Fault PUnit) >>= f else f ⟨⟩) = .ok a ↔ ¬p ∧ f ⟨⟩ = .ok a := by
  by_cases hp : p
  · simp [hp, throw, throwThe, MonadExceptOf.throw, Bind.bind, Except.bind]
  · simp [hp]

namespace Cursor

variable (c : Cursor)

theorem advance_suffix (n : Nat) : (c.advance n).rest <:+ c.rest :=
  List.drop_suffix n c.rest

theorem skipWhile_suffix (p : Char → Bool) : (c.skipWhile p).rest <:+ c.rest :=
  c.advance_suffix _

theorem skipBreak_suffix : c.skipBreak.rest <:+ c.rest := by
  rw [skipBreak]
  split
  · exact List.suffix_rfl
  · rename_i a cs hrest
    split_ifs
    · rw [hrest]
      exact List.suffix_cons a cs
    · exact List.suffix_rfl

theorem skipComment_suffix : c.skipComment.rest <:+ c.rest := by
  rw [skipComment]
  split_ifs
  · exact ((c.skipWhile isBlank).skipWhile_suffix _).trans (c.skipWhile_suffix _)
  · exact c.skipWhile_suffix _

end Cursor

/-! ### Scalars -/

section Scalars

variable {cs : List Char} {m : Mark} {read : List Char} {gap : Gap} {r : ScalarScan}

theorem singleQuotedFrom_suffix (h : singleQuotedFrom cs m read gap = .ok r) :
    r.behind.rest <:+ cs := by
  fun_induction singleQuotedFrom cs m read gap with
  | case1 | case6 => cases h
  | case2 m read gap cs ih => exact (ih h).trans ⟨['\'', '\''], rfl⟩
  | case3 =>
    cases h
    exact List.suffix_cons _ _
  | case4 | case5 | case7 =>
    rename_i ih
    exact (ih h).trans (List.suffix_cons _ _)

theorem doubleQuotedFrom_suffix {skip : Nat} (h : doubleQuotedFrom cs skip m read gap = .ok r) :
    r.behind.rest <:+ cs := by
  fun_induction doubleQuotedFrom cs skip m read gap with
  | case1 | case5 | case8 => cases h
  | case6 =>
    cases h
    exact List.suffix_cons _ _
  | case2 | case3 | case4 | case7 | case9 | case10 =>
    rename_i ih
    exact (ih h).trans (List.suffix_cons _ _)

theorem quotedScalar_suffix {double : Bool} {c : Cursor} (h : quotedScalar double c = .ok r) :
    r.behind.rest <:+ c.rest := by
  rw [quotedScalar] at h
  cases double with
  | true => exact (doubleQuotedFrom_suffix h).trans (c.advance_suffix 1)
  | false => exact (singleQuotedFrom_suffix h).trans (c.advance_suffix 1)

theorem blockFrom_suffix {literal inLine : Bool} {least : Nat} {b b' : BlockLines} {c : Cursor}
    (h : blockFrom literal least cs m inLine b = .ok (b', c)) : c.rest <:+ cs := by
  fun_induction blockFrom literal least cs m inLine b with
  | case1 | case8 =>
    cases h
    exact List.suffix_rfl
  | case5 => cases h
  | case2 | case3 | case4 | case6 | case7 =>
    rename_i ih
    exact (ih h).trans (List.suffix_cons _ _)

theorem blockScalar_suffix {literal : Bool} {parent : Int} {c c' : Cursor} {text : List Char}
    (h : blockScalar literal parent c = .ok (text, c')) : c'.rest <:+ c.rest := by
  rw [blockScalar] at h
  obtain ⟨⟨header, n⟩, -, h⟩ := bind_eq_ok.1 h
  simp only [guard_eq_ok] at h
  obtain ⟨-, h⟩ := h
  obtain ⟨⟨b, behind⟩, hblock, h⟩ := bind_eq_ok.1 h
  cases h
  exact (blockFrom_suffix hblock).trans <| (Cursor.skipBreak_suffix _).trans <|
    (Cursor.skipComment_suffix _).trans (c.advance_suffix _)

end Scalars

/-! ### Directives, anchors and tags -/

namespace Scanner

variable {c c' : Cursor}

theorem versionNumber_suffix {n : Nat} (h : versionNumber c = .ok (n, c')) :
    c'.rest <:+ c.rest := by
  rw [versionNumber] at h
  split_ifs at h
  cases h
  exact c.advance_suffix _

theorem tagHandle_suffix {handle : List Char} (h : tagHandle c = some (handle, c')) :
    c'.rest <:+ c.rest := by
  rw [tagHandle] at h
  split at h
  · dsimp only at h
    split_ifs at h
    · cases h
      exact (Cursor.advance_suffix _ 1).trans (c.advance_suffix _)
    · cases h
      exact c.advance_suffix _
  · cases h

theorem tagPart_suffix {verbatim : Bool} {tag : Tag} (h : tagPart verbatim c = .ok (tag, c')) :
    c'.rest <:+ c.rest := by
  rw [tagPart] at h
  split at h
  · cases h
    exact c.advance_suffix _
  · cases h

theorem someTagPart_suffix {verbatim : Bool} {tag : Tag}
    (h : someTagPart verbatim c = .ok (tag, c')) : c'.rest <:+ c.rest := by
  rw [someTagPart] at h
  split_ifs at h
  exact tagPart_suffix h

theorem tagAt_suffix {t : Token} (h : tagAt c = .ok (t, c')) :
    (∃ handle suffix, t = .tag handle suffix) ∧ c'.rest <:+ c.rest := by
  rw [tagAt] at h
  split_ifs at h
  · obtain ⟨⟨suffix, c₁⟩, hsuffix, h⟩ := bind_eq_ok.1 h
    simp only [guard_eq_ok] at h
    obtain ⟨-, h⟩ := h
    cases h
    exact ⟨⟨_, _, rfl⟩, (c₁.advance_suffix 1).trans <|
      (someTagPart_suffix hsuffix).trans (c.advance_suffix 2)⟩
  · split at h
    · cases h
    · rename_i handle behind hhandle
      split_ifs at h
      · obtain ⟨⟨suffix, c₁⟩, hsuffix, h⟩ := bind_eq_ok.1 h
        cases h
        exact ⟨⟨_, _, rfl⟩, (someTagPart_suffix hsuffix).trans (tagHandle_suffix hhandle)⟩
      · obtain ⟨⟨suffix, c₁⟩, hsuffix, h⟩ := bind_eq_ok.1 h
        cases h
        refine ⟨?_, (tagPart_suffix hsuffix).trans (c.advance_suffix 1)⟩
        split_ifs
        · exact ⟨_, _, rfl⟩
        · exact ⟨_, _, rfl⟩

theorem directiveAt_suffix {t : Token} (h : directiveAt c = .ok (t, c')) :
    ((∃ major minor, t = .versionDirective major minor) ∨
      ∃ handle replacement, t = .tagDirective handle replacement) ∧ c'.rest <:+ c.rest := by
  rw [directiveAt] at h
  simp only [guard_eq_ok] at h
  obtain ⟨-, h⟩ := h
  generalize hname : (c.advance (1 + ((c.rest.drop 1).takeWhile isWordChar).length)).skipWhile
    isBlank = c₁ at h
  have hc₁ : c₁.rest <:+ c.rest :=
    hname ▸ (Cursor.skipWhile_suffix _ isBlank).trans (c.advance_suffix _)
  split_ifs at h
  · obtain ⟨⟨major, c₂⟩, hmajor, h⟩ := bind_eq_ok.1 h
    simp only [guard_eq_ok] at h
    obtain ⟨-, h⟩ := h
    obtain ⟨⟨minor, c₃⟩, hminor, h⟩ := bind_eq_ok.1 h
    cases h
    exact ⟨.inl ⟨_, _, rfl⟩, (versionNumber_suffix hminor).trans <|
      (c₂.advance_suffix 1).trans <| (versionNumber_suffix hmajor).trans hc₁⟩
  · split at h
    · cases h
    · rename_i handle c₂ hhandle
      simp only [guard_eq_ok] at h
      obtain ⟨-, -, h⟩ := h
      obtain ⟨⟨replacement, c₃⟩, hreplacement, h⟩ := bind_eq_ok.1 h
      simp only [guard_eq_ok] at h
      obtain ⟨-, h⟩ := h
      cases h
      exact ⟨.inr ⟨_, _, rfl⟩, (someTagPart_suffix hreplacement).trans <|
        (c₂.skipWhile_suffix isBlank).trans <| (tagHandle_suffix hhandle).trans hc₁⟩

end Scanner

end PipelineScript.Yaml
