import Mathlib.Data.List.Forall2
import PipelineScript.Proofs.Node.Places
import PipelineScript.Proofs.Yaml.Reading
import PipelineScript.Proofs.Yaml.Spelling

/-!
# The texts of plain scalars

A plain scalar of a definition is read as a value, and the text in the node is what that value is
written as. So the text is read as the same value, and it is the one in the definition just if that
is read as a text or is written as its value is: `1.5` and `true` stay as they are, but `1.10`
becomes `1.1`, and `0x1F` becomes `31`.
-/

namespace PipelineScript

open Number (Binary64 Layout)
open Yaml

namespace Node

/-- A scalar that is written as a value is has that value, and its text is kept in the node. -/
theorem ofValue_of_isWritten {s : String} (h : IsWritten s) :
    ∃ v, plainValue s = .ok v ∧ ofValue v = scalar s := by
  obtain rfl | rfl | ⟨n, hn, rfl⟩ | ⟨x, hx, rfl⟩ := h
  · exact ⟨.bool true, rfl, rfl⟩
  · exact ⟨.bool false, rfl, rfl⟩
  · exact ⟨.integer n, plainValue_toString hn, rfl⟩
  · exact ⟨.real x, plainValue_write hx, rfl⟩

/-- The text in the node is read as the same value as the text in the definition, and it is the same
text if that is a text or is written as its value is. -/
theorem ofValue_of_plainValue {s : String} {v : Value} (h : plainValue s = .ok v) (hs : s ≠ "")
    (hnull : Yaml.isNull s = false) :
    ∃ u, ofValue v = scalar u ∧ plainValue u = plainValue s ∧
      (u = s ↔ plainValue s = .ok (.text s) ∨ IsWritten s) := by
  have hkept : plainValue s = .ok (.text s) ∨ IsWritten s → ofValue v = scalar s := by
    rintro (htext | hwritten)
    · obtain rfl : v = .text s := Except.ok.inj (h.symm.trans htext)
      rfl
    · obtain ⟨v', hv', hs'⟩ := ofValue_of_isWritten hwritten
      obtain rfl : v = v' := Except.ok.inj (h.symm.trans hv')
      exact hs'
  have hwrite {u : String} (hu : ofValue v = scalar u) (hv : plainValue u = .ok v)
      (hwritten : IsWritten u) :
      ∃ u, ofValue v = scalar u ∧ plainValue u = plainValue s ∧
        (u = s ↔ plainValue s = .ok (.text s) ∨ IsWritten s) := by
    refine ⟨u, hu, hv.trans h.symm, fun heq => .inr (heq ▸ hwritten), fun hs => ?_⟩
    exact scalar.inj (hu.symm.trans (hkept hs))
  cases isReading_of_plainValue h with
  | null hempty =>
    obtain hempty | hempty := hempty
    · exact absurd hempty hs
    · rw [hempty] at hnull
      cases hnull
  | bool b =>
    cases b with
    | true => exact hwrite rfl rfl (.inl rfl)
    | false => exact hwrite rfl rfl (.inr (.inl rfl))
  | integer hn => exact hwrite rfl (plainValue_toString hn) (.inr (.inr (.inl ⟨_, hn, rfl⟩)))
  | real hx => exact hwrite rfl (plainValue_write hx) (.inr (.inr (.inr ⟨_, hx, rfl⟩)))
  | text => exact ⟨s, rfl, rfl, fun _ => .inl h, fun _ => rfl⟩

/-- A plain scalar `w` of a text, the scalar `l` of the document that it is, and what the node of
the document has in its place. -/
structure HasScalar (text : String) (n : Node) (w : PlainScalar) (l : Leaf) : Prop where
  text_eq : l.scalar.text = w.text
  /-- A scalar within one line stands in the text as it is. -/
  source : w.isOneLine → w.text.toList = w.source ∧ w.source <:+: text.toList
  /-- If it has no tag and is not null, its node is a scalar with a text that is read as the same
  value. This text is the source of the scalar just if that is no other value than a text or if it
  is what its value is written as. -/
  node : w.isOneLine → l.scalar.tag = none → Yaml.isNull w.text = false →
    ∃ u, (scalar u).IsAt l.way n ∧ plainValue u = plainValue w.text ∧
      (u.toList = w.source ↔ plainValue w.text = .ok (.text w.text) ∨ IsWritten w.text)

theorem HasScalar.of_value {text : String} {n : Node} {w : PlainScalar} {l : Leaf}
    (hw : w.isOneLine → w.text.toList = w.source ∧ w.source <:+: text.toList)
    (hl : ∃ v, l.scalar.value = .ok v ∧ (ofValue v).IsAt l.way n) (hplain : l.scalar.isPlainText)
    (htext : l.scalar.text = w.text) : HasScalar text n w l := by
  refine ⟨htext, hw, fun hline htag hnull => ?_⟩
  obtain ⟨hstyle, hne⟩ : l.scalar.style = .plain ∧ l.scalar.text ≠ "" := by
    simpa [Scalar.isPlainText] using hplain
  obtain ⟨v, hv, hat⟩ := hl
  rw [Scalar.value, htag] at hv
  have hv : plainValue w.text = .ok v := by
    rwa [Scalar.untaggedValue, if_pos hstyle, htext] at hv
  obtain ⟨u, hu, hvalue, hsame⟩ := ofValue_of_plainValue hv (htext ▸ hne) hnull
  refine ⟨u, hu ▸ hat, hvalue, ?_⟩
  rw [← (hw hline).1, String.toList_inj]
  exact hsame

/-- The plain scalars of a text are those of its document, one by one, and each has its place in the
node. -/
theorem scalars_of_parse {text : String} {n : Node} (h : parse text = .ok n) :
    ∃ d ws, Document.parse text = .ok d ∧ plainScalars text = .ok ws ∧
      List.Forall₂ (HasScalar text n) ws (plainLeaves d.leaves) := by
  obtain ⟨d, hd, hplaces⟩ := isAt_of_parse h
  obtain ⟨ts, hts, hdocument⟩ := bind_eq_ok.1 hd
  obtain ⟨ws, hws, htokens, hsource⟩ := plainScalars_of_tokens hts
  refine ⟨d, ws, hd, hws, ?_⟩
  have htexts : ws.map PlainScalar.text = (plainLeaves d.leaves).map (·.scalar.text) :=
    htokens.symm.trans (Document.texts_of_ofTokens hdocument).symm
  refine List.forall₂_iff_get.2 ⟨?_, fun i hi hi' => ?_⟩
  · simpa using congrArg List.length htexts
  · obtain ⟨hleaf, hplain⟩ := List.mem_filter.1 (List.get_mem (plainLeaves d.leaves) ⟨i, hi'⟩)
    have htext := List.getElem_of_eq htexts (by simpa using hi)
    rw [List.getElem_map, List.getElem_map] at htext
    exact .of_value (hsource _ (List.get_mem ws ⟨i, hi⟩)) (hplaces _ hleaf) hplain htext.symm

/-- The scalars of a text are found by reading it. -/
theorem exists_document {text : String} {ls : List Leaf}
    (h : (Document.parse text).toOption.map (plainLeaves ·.leaves) = some ls) :
    ∃ d, Document.parse text = .ok d ∧ plainLeaves d.leaves = ls := by
  obtain ⟨d, hd, hls⟩ := Option.map_eq_some_iff.1 h
  cases hparse : Document.parse text with
  | error e =>
    rw [hparse] at hd
    cases hd
  | ok d' =>
    rw [hparse] at hd
    cases hd
    exact ⟨d, rfl, hls⟩

/-- A version that is written as the number that it is stays as it is. -/
theorem scalars_of_parse_kept :
    parse "version: 1.5" = .ok (mapping [("version", scalar "1.5")]) ∧
    ∃ d v w l₁ l₂, Document.parse "version: 1.5" = .ok d ∧
      plainScalars "version: 1.5" = .ok [v, w] ∧ plainLeaves d.leaves = [l₁, l₂] ∧
      w.source = "1.5".toList ∧
      ∃ u, (scalar u).IsAt l₂.way (mapping [("version", scalar "1.5")]) ∧ u.toList = w.source := by
  have hparse : parse "version: 1.5" = .ok (mapping [("version", scalar "1.5")]) :=
    @parse_of_texts _ [("version", "1.5")] (by decide +kernel)
  have hscalars : plainScalars "version: 1.5" =
      .ok [⟨"version".toList, "version"⟩, ⟨"1.5".toList, "1.5"⟩] := by decide +kernel
  obtain ⟨d, hd, hleaves⟩ := @exists_document "version: 1.5"
    [⟨[.key 0], ⟨"version", .plain, none⟩⟩, ⟨[.value 0], ⟨"1.5", .plain, none⟩⟩]
    (by decide +kernel)
  obtain ⟨d', ws, hd', hws, hall⟩ := scalars_of_parse hparse
  obtain rfl : d = d' := Except.ok.inj (hd.symm.trans hd')
  obtain rfl := Except.ok.inj (hscalars.symm.trans hws)
  rw [hleaves] at hall
  obtain ⟨-, hall⟩ := List.forall₂_cons.1 hall
  obtain ⟨hnumber, -⟩ := List.forall₂_cons.1 hall
  have hwritten : IsWritten "1.5" := .inr <| .inr <| .inr
    ⟨.finite false (3 * 2 ^ 51) (-52), ⟨by decide, .inl (by decide), by decide, by decide⟩,
      by decide +kernel⟩
  obtain ⟨u, hat, -, hsame⟩ := hnumber.node (by decide) rfl (by decide)
  exact ⟨hparse, d, _, _, _, _, hd, hscalars, hleaves, rfl, u, hat, hsame.2 (.inr hwritten)⟩

/-- A version that is written with more digits than the number needs is changed. -/
theorem version_not_kept :
    parse "version: 1.10" = .ok (mapping [("version", scalar "1.1")]) ∧
    ¬∀ text n d ws, parse text = .ok n → Document.parse text = .ok d → plainScalars text = .ok ws →
      List.Forall₂ (fun w l => w.isOneLine → l.scalar.tag = none → Yaml.isNull w.text = false →
        (scalar (String.ofList w.source)).IsAt l.way n) ws (plainLeaves d.leaves) := by
  have hparse : parse "version: 1.10" = .ok (mapping [("version", scalar "1.1")]) :=
    @parse_of_texts _ [("version", "1.1")] (by decide +kernel)
  have hscalars : plainScalars "version: 1.10" =
      .ok [⟨"version".toList, "version"⟩, ⟨"1.10".toList, "1.10"⟩] := by decide +kernel
  obtain ⟨d, hd, hleaves⟩ := @exists_document "version: 1.10"
    [⟨[.key 0], ⟨"version", .plain, none⟩⟩, ⟨[.value 0], ⟨"1.10", .plain, none⟩⟩]
    (by decide +kernel)
  refine ⟨hparse, fun h => ?_⟩
  have hall := h _ _ _ _ hparse hd hscalars
  rw [hleaves] at hall
  obtain ⟨-, hall⟩ := List.forall₂_cons.1 hall
  obtain ⟨hnumber, -⟩ := List.forall₂_cons.1 hall
  have hat := hnumber (by decide) rfl (by decide)
  obtain ⟨k, hn⟩ : ∃ k, [("version", scalar "1.1")][0]? =
      some (k, scalar (String.ofList "1.10".toList)) := by
    cases hat with
    | value hn hat =>
      cases hat
      exact ⟨_, hn⟩
  have htext : some "1.1" = some (String.ofList "1.10".toList) := congrArg (·.bind (·.2.text?)) hn
  revert htext
  decide

end Node

end PipelineScript
