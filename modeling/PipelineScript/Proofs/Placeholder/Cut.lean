import Mathlib.Data.List.TakeWhile
import PipelineScript.Proofs.Placeholder

/-!
# Texts cut at their placeholders

There is one way to cut a text at placeholders such that none begins in what is left between them.
The values of parameters are put in along that cut and all else stays, so what was put in is not
looked at again. The cut is unique for two reasons: a placeholder can be read in one way only from
where it begins, and whether one begins somewhere depends on nothing in front of it.
-/

namespace PipelineScript

/-! ### Where placeholders begin -/

namespace Placeholder

variable {cs rest gap behind : List Char} {p : Placeholder}

theorem length_written_pos (p : Placeholder) : 0 < p.written.length := by
  rw [written, List.length_append]
  exact Nat.lt_of_lt_of_le (by decide) (Nat.le_add_right opening.length _)

/-- The text begins with a placeholder. -/
def Begins (cs : List Char) : Prop :=
  ∃ p : Placeholder, p.Proper ∧ p.written <+: cs

/-- What is read as a placeholder has white space and a name where they belong. -/
theorem proper_of_lead? (h : lead? cs = some (p, rest)) : p.Proper := by
  simp only [lead?, opened?, closed?, Option.bind_eq_bind, Option.bind_eq_some_iff,
    Option.some.injEq, Prod.mk.injEq, Prod.exists] at h
  obtain ⟨before, named, ⟨inside, -, named', -, hopened⟩, name, behind, rest', hclosed, rfl, -⟩ := h
  split_ifs at hopened with hhead
  obtain ⟨rfl, rfl⟩ := Prod.mk.inj (Option.some.inj hopened)
  obtain ⟨-, -, rfl, rfl, -⟩ := hclosed
  refine ⟨fun c => List.mem_takeWhile_imp, ?_, fun c => List.mem_takeWhile_imp,
    fun c => List.mem_takeWhile_imp⟩
  cases named' with
  | nil => cases hhead
  | cons c cs =>
    rw [List.takeWhile_cons_of_pos (by simpa using hhead)]
    exact List.cons_ne_nil _ _

/-- No placeholder is read if and only if none begins. -/
theorem lead?_eq_none_iff : lead? cs = none ↔ ¬Begins cs := by
  constructor
  · rintro h ⟨p, hp, rest, rfl⟩
    rw [lead?_written hp] at h
    cases h
  · intro h
    refine Option.eq_none_iff_forall_ne_some.2 fun ⟨p, rest⟩ hlead => h ⟨p, ?_⟩
    exact ⟨proper_of_lead? hlead, rest, (eq_of_lead? hlead).symm⟩

/-- No placeholder begins in the gap, not even one that ends behind it. -/
def IsGap (gap behind : List Char) : Prop :=
  ∀ rest, rest <:+ gap → rest ≠ [] → ¬Begins (rest ++ behind)

theorem isGap_nil : IsGap [] behind := by
  intro rest hrest hne
  exact absurd (List.suffix_nil.1 hrest) hne

theorem isGap_cons {c : Char} :
    IsGap (c :: gap) behind ↔ ¬Begins (c :: (gap ++ behind)) ∧ IsGap gap behind := by
  constructor
  · intro h
    exact ⟨h _ List.suffix_rfl (List.cons_ne_nil c gap),
      fun rest hrest => h rest (hrest.trans (List.suffix_cons c gap))⟩
  · rintro ⟨hfirst, hgap⟩ rest hrest hne
    obtain rfl | hrest := List.suffix_cons_iff.1 hrest
    · exact hfirst
    · exact hgap rest hrest hne

/-- What is put in for a placeholder: the value of its parameter, or the placeholder itself. -/
def filled (b : Bindings) (p : Placeholder) : List Char :=
  (b.lookup (String.ofList p.name)).elim p.written String.toList

/-- The placeholder of a parameter without a value stays as it is. -/
theorem filled_of_unbound {b : Bindings} (h : (b.lookup (String.ofList p.name)).isSome = false) :
    p.filled b = p.written := by
  have hnone : b.lookup (String.ofList p.name) = none :=
    Option.not_isSome_iff_eq_none.1 (Bool.eq_false_iff.1 h)
  rw [filled, hnone]
  rfl

end Placeholder

open Placeholder (Begins IsGap)

/-! ### Cuts -/

/-- A text that is cut at placeholders, with a gap in front of each of them and behind the last. -/
inductive Cut where
  | last (gap : List Char)
  | next (gap : List Char) (p : Placeholder) (behind : Cut)
  deriving DecidableEq, Repr

namespace Cut

variable {c : Cut} {put : Placeholder → List Char} {b : Bindings}

/-- The text with something put in for each placeholder. -/
def fill (put : Placeholder → List Char) : Cut → List Char
  | last gap => gap
  | next gap p behind => gap ++ (put p ++ behind.fill put)

/-- The text that is cut. -/
def written (c : Cut) : List Char :=
  c.fill Placeholder.written

/-- The placeholders at which the text is cut. -/
def placeholders : Cut → List Placeholder
  | last _ => []
  | next _ p behind => p :: behind.placeholders

/-- The text is cut at placeholders, and none begins in a gap. -/
def IsExact : Cut → Prop
  | last gap => IsGap gap []
  | next gap p behind => IsGap gap (p.written ++ behind.written) ∧ p.Proper ∧ behind.IsExact

/-- The cut with a text in front. -/
def prepend (cs : List Char) : Cut → Cut
  | last gap => last (cs ++ gap)
  | next gap p behind => next (cs ++ gap) p behind

theorem fill_prepend (cs : List Char) (c : Cut) : (c.prepend cs).fill put = cs ++ c.fill put := by
  cases c with
  | last gap => rfl
  | next gap p behind => exact List.append_assoc ..

theorem placeholders_prepend (cs : List Char) (c : Cut) :
    (c.prepend cs).placeholders = c.placeholders := by
  cases c <;> rfl

theorem prepend_nil (c : Cut) : c.prepend [] = c := by
  cases c <;> rfl

theorem prepend_append (cs ds : List Char) (c : Cut) :
    c.prepend (cs ++ ds) = (c.prepend ds).prepend cs := by
  cases c <;> simp only [prepend, List.append_assoc]

/-- A character in front at which no placeholder begins makes a gap longer. -/
theorem IsExact.prepend_singleton (h : c.IsExact) {x : Char} (hx : ¬Begins (x :: c.written)) :
    (c.prepend [x]).IsExact := by
  cases c with
  | last gap => exact Placeholder.isGap_cons.2 ⟨by rwa [List.append_nil], h⟩
  | next gap p behind =>
    obtain ⟨hgap, hp, hbehind⟩ := h
    exact ⟨Placeholder.isGap_cons.2 ⟨hx, hgap⟩, hp, hbehind⟩

/-! ### The pieces of a cut -/

/-- The pieces of the text that is cut. -/
def pieces : Cut → List Piece
  | last gap => gap.map .character
  | next gap p behind => gap.map .character ++ .placeholder p :: behind.pieces

/-- The cut between the pieces of a text. -/
def ofPieces : List Piece → Cut
  | [] => last []
  | .character x :: l => (ofPieces l).prepend [x]
  | .placeholder p :: l => next [] p (ofPieces l)

theorem ofPieces_characters_append (cs : List Char) (l : List Piece) :
    ofPieces (cs.map .character ++ l) = (ofPieces l).prepend cs := by
  induction cs with
  | nil => exact (prepend_nil _).symm
  | cons x cs ih =>
    rw [List.map_cons, List.cons_append, ofPieces, ih, ← prepend_append, List.singleton_append]

/-- A cut is known from its pieces. -/
theorem ofPieces_pieces (c : Cut) : ofPieces c.pieces = c := by
  induction c with
  | last gap =>
    rw [pieces, ← List.append_nil (gap.map _), ofPieces_characters_append]
    simp only [ofPieces, prepend, List.append_nil]
  | next gap p behind ih =>
    rw [pieces, ofPieces_characters_append, ofPieces, ih, prepend, List.append_nil]

theorem flatMap_pieces (c : Cut) :
    c.pieces.flatMap (Piece.filled b) = c.fill (Placeholder.filled b) := by
  have hgap (gap : List Char) : (gap.map .character).flatMap (Piece.filled b) = gap := by
    induction gap with
    | nil => rfl
    | cons x gap ih => exact congrArg (x :: ·) ih
  have hp (p : Placeholder) : (Piece.placeholder p).filled b = p.filled b := by
    rw [Piece.filled, Placeholder.filled]
    cases b.lookup (String.ofList p.name) <;> rfl
  induction c with
  | last gap => exact hgap gap
  | next gap p behind ih =>
    rw [pieces, List.flatMap_append, List.flatMap_cons, hgap, hp, ih, fill]

theorem pieces_nil : PipelineScript.pieces [] = [] := by
  rw [pieces_eq]
  rfl

theorem pieces_append_of_isGap {gap behind : List Char} (h : IsGap gap behind) :
    PipelineScript.pieces (gap ++ behind) =
      gap.map .character ++ PipelineScript.pieces behind := by
  induction gap with
  | nil => rfl
  | cons x gap ih =>
    obtain ⟨hfirst, hgap⟩ := Placeholder.isGap_cons.1 h
    rw [List.cons_append, pieces_eq, Placeholder.lead?_eq_none_iff.2 hfirst]
    simp only [ih hgap, List.map_cons, List.cons_append]

/-- The text of an exact cut has the pieces of the cut. -/
theorem IsExact.pieces_written (h : c.IsExact) : PipelineScript.pieces c.written = c.pieces := by
  induction c with
  | last gap =>
    have hpieces := pieces_append_of_isGap h
    rwa [List.append_nil, pieces_nil, List.append_nil] at hpieces
  | next gap p behind ih =>
    obtain ⟨hgap, hp, hbehind⟩ := h
    change PipelineScript.pieces (gap ++ (p.written ++ behind.written)) = _
    rw [pieces_append_of_isGap hgap, pieces_eq, Placeholder.lead?_written hp]
    simp only [ih hbehind, pieces]

/-- Between the pieces of a text the text is cut exactly. -/
theorem ofPieces_exact (cs : List Char) :
    (ofPieces (PipelineScript.pieces cs)).IsExact ∧
      (ofPieces (PipelineScript.pieces cs)).written = cs := by
  -- What is left behind the first piece is shorter.
  generalize hlength : cs.length = n
  induction n using Nat.strongRecOn generalizing cs with
  | ind n ih =>
    rw [pieces_eq]
    cases hlead : Placeholder.lead? cs with
    | some found =>
      obtain ⟨p, rest⟩ := found
      obtain rfl := Placeholder.eq_of_lead? hlead
      have hshorter : rest.length < n := by
        rw [← hlength, List.length_append]
        exact Nat.lt_add_of_pos_left p.length_written_pos
      obtain ⟨hexact, hwritten⟩ := ih rest.length hshorter rest rfl
      refine ⟨⟨Placeholder.isGap_nil, Placeholder.proper_of_lead? hlead, hexact⟩, ?_⟩
      exact congrArg (p.written ++ ·) hwritten
    | none =>
      cases cs with
      | nil => exact ⟨Placeholder.isGap_nil, rfl⟩
      | cons x cs =>
        obtain ⟨hexact, hwritten⟩ := ih cs.length (hlength ▸ Nat.lt_succ_self _) cs rfl
        have hx : ¬Begins (x :: (ofPieces (PipelineScript.pieces cs)).written) := by
          rw [hwritten]
          exact Placeholder.lead?_eq_none_iff.1 hlead
        refine ⟨hexact.prepend_singleton hx, ?_⟩
        simp only [ofPieces, written, fill_prepend]
        exact congrArg (x :: ·) hwritten

/-! ### Cuts at some of the placeholders -/

/-- The cut at those placeholders alone that are kept. -/
def restrict (keep : Placeholder → Bool) : Cut → Cut
  | last gap => last gap
  | next gap p behind =>
    if keep p then next gap p (behind.restrict keep)
    else (behind.restrict keep).prepend (gap ++ p.written)

theorem mem_placeholders_restrict {keep : Placeholder → Bool} {p : Placeholder}
    (h : p ∈ (c.restrict keep).placeholders) : p ∈ c.placeholders ∧ keep p = true := by
  induction c with
  | last gap => cases h
  | next gap p' behind ih =>
    rw [restrict] at h
    split_ifs at h with hkeep
    · obtain rfl | h := List.mem_cons.1 h
      · exact ⟨List.mem_cons_self, hkeep⟩
      · exact (ih h).imp_left (List.mem_cons_of_mem p')
    · rw [placeholders_prepend] at h
      exact (ih h).imp_left (List.mem_cons_of_mem p')

/-- Where nothing is put in there is no need to cut. -/
theorem fill_restrict {keep : Placeholder → Bool}
    (h : ∀ p, keep p = false → put p = p.written) (c : Cut) :
    (c.restrict keep).fill put = c.fill put := by
  induction c with
  | last gap => rfl
  | next gap p behind ih =>
    rw [restrict]
    split_ifs with hkeep
    · rw [fill, fill, ih]
    · rw [fill_prepend, ih, fill, h p (Bool.eq_false_iff.2 hkeep), List.append_assoc]

end Cut

/-- The values of parameters are put into a text along the only cut of it at placeholders with none
that begins in a gap. Each placeholder is replaced by the value of its parameter, or it stays as it
is, and so does all else. Bindings that have the same names fill one cut at the placeholders of
these names, so that what becomes of the text differs in the values alone. -/
theorem substituteParameters_eq_fill (text : String) :
    ∃ c : Cut, (c.IsExact ∧ c.written = text.toList) ∧
      (∀ c' : Cut, c'.IsExact → c'.written = text.toList → c' = c) ∧
      (∀ b : Bindings,
        substituteParameters b text = String.ofList (c.fill (Placeholder.filled b))) ∧
      ∀ b b' : Bindings, (∀ name, (b.lookup name).isSome = (b'.lookup name).isSome) →
        ∃ bound : Cut, bound.written = text.toList ∧
          (∀ p ∈ bound.placeholders, p ∈ c.placeholders ∧
            (b.lookup (String.ofList p.name)).isSome ∧
            (b'.lookup (String.ofList p.name)).isSome) ∧
          substituteParameters b text = String.ofList (bound.fill (Placeholder.filled b)) ∧
          substituteParameters b' text = String.ofList (bound.fill (Placeholder.filled b')) := by
  let c := Cut.ofPieces (pieces text.toList)
  obtain ⟨hexact, hwritten⟩ := Cut.ofPieces_exact text.toList
  have hunique (c' : Cut) (hexact' : c'.IsExact) (hwritten' : c'.written = text.toList) :
      c' = c := by
    rw [← Cut.ofPieces_pieces c', ← hexact'.pieces_written, hwritten']
  have hfill (b : Bindings) :
      substituteParameters b text = String.ofList (c.fill (Placeholder.filled b)) := by
    rw [← Cut.flatMap_pieces, ← hexact.pieces_written, hwritten, substituteParameters]
  refine ⟨c, ⟨hexact, hwritten⟩, hunique, hfill, fun b b' hnames => ?_⟩
  -- A placeholder without a value is left in the text, so it may as well be part of a gap.
  let keep (p : Placeholder) : Bool := (b.lookup (String.ofList p.name)).isSome
  refine ⟨c.restrict keep, ?_, fun p hp => ?_, ?_, ?_⟩
  · exact (Cut.fill_restrict (fun _ _ => rfl) c).trans hwritten
  · obtain ⟨hmem, hkeep⟩ := Cut.mem_placeholders_restrict hp
    exact ⟨hmem, hkeep, hnames _ ▸ hkeep⟩
  · rw [hfill, Cut.fill_restrict fun p => Placeholder.filled_of_unbound]
  · rw [hfill, Cut.fill_restrict fun p hp => Placeholder.filled_of_unbound (hnames _ ▸ hp)]

/-- An opening that is not closed is part of a gap, and a value that looks like a placeholder stays
as it is. -/
example :
    substituteParameters [("a", "$\x7b\x7bparameters.b\x7d\x7d"), ("b", "1")]
        ("$\x7b\x7b parameters.a$\x7b\x7b parameters.b \x7d\x7d" ++
          "$\x7b\x7bparameters.a\x7d\x7d") =
      "$\x7b\x7b parameters.a1$\x7b\x7bparameters.b\x7d\x7d" := by
  decide +kernel

end PipelineScript
