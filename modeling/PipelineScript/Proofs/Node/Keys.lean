import PipelineScript.Proofs.Bindings
import PipelineScript.Proofs.Number.Layout
import PipelineScript.Proofs.Yaml.Resolved

/-!
# Keys of mappings

The keys of a mapping in a document are compared as values, and no two of them are equal. The
definition keeps only their texts. So the number `1` and the text `1` may both be keys, and then a
look-up finds the first of the two entries, while the values of parameters are made from the last.
Keys that are all texts stay different, and so do keys that are all numbers, truth values or null.
-/

namespace PipelineScript

open Yaml (Value)
open Number (Binary64 Layout)

namespace Node

/-! ### Mappings in a node -/

/-- The node `p` is the whole node, or it is found in an item or in the value of an entry. -/
inductive IsPartOf (p : Node) : Node → Prop
  | self : IsPartOf p p
  | item {items : List Node} {m : Node} (hm : m ∈ items) (h : IsPartOf p m) :
      IsPartOf p (.sequence items)
  | value {entries : List (String × Node)} {e : String × Node} (he : e ∈ entries)
      (h : IsPartOf p e.2) : IsPartOf p (.mapping entries)

theorem ofItems_eq_map (items : List Value) : ofItems items = items.map ofValue := by
  induction items with
  | nil => rfl
  | cons v vs ih => rw [ofItems, ih, List.map_cons]

/-- The text of a key. -/
def keyText (k : Value) : String :=
  (ofValue k).display

theorem ofEntries_eq_map (es : List (Value × Value)) :
    ofEntries es = es.map fun e => (keyText e.1, ofValue e.2) := by
  induction es with
  | nil => rfl
  | cons e es ih => rw [ofEntries, ih, List.map_cons, keyText]

/-- A mapping in the node of a value is made of a mapping in the value. -/
theorem exists_isPartOf {v : Value} (hv : v.IsResolved) {entries : List (String × Node)}
    (h : (mapping entries).IsPartOf (ofValue v)) :
    ∃ es, (Value.mapping es).IsPartOf v ∧ entries = ofEntries es := by
  induction hv with
  | null => cases h
  | bool b => cases h
  | integer n => cases h
  | real hx => cases h
  | text s => cases h
  | tagged name hv ih =>
    obtain ⟨es, hes, hentries⟩ := ih h
    exact ⟨es, hes.content name, hentries⟩
  | sequence hitems ih =>
    rw [ofValue, ofItems_eq_map] at h
    cases h with
    | item hm h =>
      obtain ⟨v, hv, rfl⟩ := List.mem_map.1 hm
      obtain ⟨es, hes, hentries⟩ := ih v hv h
      exact ⟨es, .item hv hes, hentries⟩
  | @mapping es hkeys hvalues hdistinct _ ihvalues =>
    rw [ofValue] at h
    generalize hes : ofEntries es = ns at h
    cases h with
    | self => exact ⟨es, .self, hes.symm⟩
    | value he h =>
      rw [← hes, ofEntries_eq_map] at he
      obtain ⟨e', he', rfl⟩ := List.mem_map.1 he
      obtain ⟨es', hes', hentries⟩ := ihvalues e' he' h
      exact ⟨es', .value he' hes', hentries⟩

/-! ### Texts of keys -/

/-- What matters about a key when it is turned into a text. -/
inductive KeyKind where
  | text
  | plain
  | sequence
  | mapping
  | tagged
  deriving DecidableEq, Repr

/-- Texts, the other scalars, the two kinds of collections, and what has a tag. -/
def keyKind : Value → KeyKind
  | .text _ => .text
  | .null | .bool _ | .integer _ | .real _ => .plain
  | .sequence _ => .sequence
  | .mapping _ => .mapping
  | .tagged .. => .tagged

namespace KeyKind

/-- Different keys of these kinds may have the same text: one of them has a tag, or just one is a
text, or both are collections of one kind. -/
def MayClash (k l : KeyKind) : Prop :=
  k = tagged ∨ l = tagged ∨ (k = text ↔ l ≠ text) ∨ (k = l ∧ (k = sequence ∨ k = mapping))

instance (k l : KeyKind) : Decidable (k.MayClash l) :=
  inferInstanceAs (Decidable (_ ∨ _))

/-- The bracket in front of a collection. -/
def bracket? : KeyKind → Option Char
  | sequence => some '['
  | mapping => some '\x7b'
  | _ => none

end KeyKind

theorem keyText_integer (n : Int) : keyText (.integer n) = toString n := rfl

theorem keyText_real (x : Binary64) : keyText (.real x) = Layout.document.write x := rfl

/-- An integer is written with digits and a sign only. -/
theorem isDigit_or_eq_of_mem_integer {n : Int} {c : Char} (hc : c ∈ (toString n).toList) :
    c.isDigit = true ∨ c = '-' := by
  obtain ⟨k, -, htext⟩ | ⟨k, -, htext⟩ := Number.Decimal.toList_toString n
  · rw [htext] at hc
    exact .inl (Number.isDigit_of_mem_toDigits hc)
  · rw [htext, List.mem_cons] at hc
    exact hc.symm.imp Number.isDigit_of_mem_toDigits id

theorem keyText_integer_injective {n n' : Int}
    (h : keyText (.integer n) = keyText (.integer n')) : n = n' := by
  have hread := Number.Decimal.exponent?_toString n
  rw [← keyText_integer, h, keyText_integer, Number.Decimal.exponent?_toString] at hread
  exact (Option.some.inj hread).symm

theorem keyText_integer_ne_real (n : Int) (x : Binary64) :
    keyText (.integer n) ≠ keyText (.real x) := by
  intro h
  obtain ⟨c, hc, hmark⟩ := Layout.exists_mark_mem_write x
  rw [← keyText_real, ← h, keyText_integer] at hc
  rcases isDigit_or_eq_of_mem_integer hc with hdigit | rfl
  · rcases hmark with rfl | rfl <;> cases hdigit
  · simp at hmark

theorem keyText_bool_ne_integer (b : Bool) (n : Int) :
    keyText (.bool b) ≠ keyText (.integer n) := by
  intro h
  have hmem : 'e' ∈ (keyText (.bool b)).toList := by cases b <;> decide
  rw [h, keyText_integer] at hmem
  rcases isDigit_or_eq_of_mem_integer hmem with hdigit | heq
  · cases hdigit
  · simp at heq

theorem keyText_bool_ne_real (b : Bool) {x : Binary64} (hx : x.IsCanonical) :
    keyText (.bool b) ≠ keyText (.real x) := by
  intro h
  have hread : Number.Decimal.read? (keyText (.bool b)).toList = none := by cases b <;> decide
  cases x with
  | finite negative m e =>
    obtain ⟨y, hy, -⟩ := Layout.read?_write_finite hx
    rw [h, keyText_real, hy] at hread
    cases hread
  | infinite negative =>
    revert h
    cases b <;> cases negative <;> decide
  | nan =>
    revert h
    cases b <;> decide

/-- Of the plain keys, only null is written as the empty text. -/
theorem keyText_ne_empty {v : Value} (hplain : keyKind v = .plain) (hv : v ≠ .null) :
    keyText v ≠ "" := by
  intro h
  cases v with
  | null => exact hv rfl
  | bool b => cases b <;> revert h <;> decide
  | integer n =>
    obtain ⟨k, -, htext⟩ | ⟨k, -, htext⟩ := Number.Decimal.toList_toString n
    · rw [← keyText_integer, h] at htext
      exact Nat.toDigits_ne_nil htext.symm
    · rw [← keyText_integer, h] at htext
      cases htext
  | real x =>
    obtain ⟨c, hc, -⟩ := Layout.exists_mark_mem_write x
    rw [← keyText_real, h] at hc
    cases hc
  | _ => cases hplain

/-- Plain keys are told apart by their texts. -/
theorem eq_of_keyText_eq_of_plain {a b : Value} (ha : a.IsResolved) (hb : b.IsResolved)
    (hplain : keyKind a = .plain) (hplain' : keyKind b = .plain) (h : keyText a = keyText b) :
    a = b := by
  by_cases hnull : a = .null
  · subst hnull
    by_contra hne
    exact keyText_ne_empty hplain' (Ne.symm hne) h.symm
  by_cases hnull' : b = .null
  · subst hnull'
    exact absurd h (keyText_ne_empty hplain hnull)
  cases ha with
  | null => exact absurd rfl hnull
  | bool x =>
    cases hb with
    | null => exact absurd rfl hnull'
    | bool y => cases x <;> cases y <;> first | rfl | exact absurd h (by decide)
    | integer n => exact absurd h (keyText_bool_ne_integer x n)
    | real hy => exact absurd h (keyText_bool_ne_real x hy)
    | _ => cases hplain'
  | integer n =>
    cases hb with
    | null => exact absurd rfl hnull'
    | bool y => exact absurd h.symm (keyText_bool_ne_integer y n)
    | integer n' => rw [keyText_integer_injective h]
    | @real y hy => exact absurd h (keyText_integer_ne_real n y)
    | _ => cases hplain'
  | @real x hx =>
    cases hb with
    | null => exact absurd rfl hnull'
    | bool y => exact absurd h.symm (keyText_bool_ne_real y hx)
    | integer n => exact absurd h.symm (keyText_integer_ne_real n x)
    | real hy => rw [Layout.write_injective hx hy h]
    | _ => cases hplain'
  | _ => cases hplain

/-- The brackets of collections. -/
def isBracket (c : Char) : Bool :=
  c = '[' || c = '\x7b'

theorem isBracket_head_keyText_real {x : Binary64} (hx : x.IsCanonical) {c : Char}
    (hc : c ∈ (keyText (.real x)).toList.head?) : isBracket c = false := by
  rw [keyText_real] at hc
  cases x with
  | finite negative m e =>
    obtain ⟨y, hy, -⟩ := Layout.read?_write_finite hx
    obtain ⟨cs, hcs⟩ := List.head?_eq_some_iff.1 hc
    rw [hcs] at hy
    rw [Bool.eq_false_iff]
    intro hbracket
    -- A numeral begins with no bracket.
    rw [isBracket, Bool.or_eq_true, decide_eq_true_iff, decide_eq_true_iff] at hbracket
    rcases hbracket with rfl | rfl <;> cases hy
  | infinite negative =>
    cases negative with
    | false =>
      obtain rfl : '.' = c := Option.some.inj hc
      rfl
    | true =>
      obtain rfl : '-' = c := Option.some.inj hc
      rfl
  | nan =>
    obtain rfl : '.' = c := Option.some.inj hc
    rfl

/-- The text of a collection begins with its bracket, and the text of a plain key with none. -/
theorem bracket?_keyKind {v : Value} (hv : v.IsResolved) (htext : keyKind v ≠ .text)
    (htagged : keyKind v ≠ .tagged) :
    (keyText v).toList.head?.filter isBracket = (keyKind v).bracket? := by
  cases hv with
  | null => rfl
  | bool b => cases b <;> rfl
  | integer n =>
    refine Option.filter_eq_none_iff.2 fun c hc => ?_
    rcases isDigit_or_eq_of_mem_integer (List.mem_of_mem_head? hc) with hdigit | rfl
    · rw [isBracket, Bool.or_eq_true, decide_eq_true_iff, decide_eq_true_iff]
      rintro (rfl | rfl) <;> cases hdigit
    · decide
  | real hx =>
    refine Option.filter_eq_none_iff.2 fun c hc => ?_
    rw [isBracket_head_keyText_real hx hc]
    decide
  | text s => exact absurd rfl htext
  | @sequence items =>
    have htext : (keyText (.sequence items)).toList.head? = some '[' := by
      rw [keyText, ofValue, display, String.toList_append, String.toList_append]
      rfl
    rw [htext]
    rfl
  | @mapping entries =>
    have htext : (keyText (.mapping entries)).toList.head? = some '\x7b' := by
      rw [keyText, ofValue, display, String.toList_append, String.toList_append]
      rfl
    rw [htext]
    rfl
  | tagged name h => exact absurd rfl htagged

theorem text_of_keyKind {v : Value} (h : keyKind v = .text) : v = .text (keyText v) := by
  cases v with
  | text s => rfl
  | _ => cases h

/-- Keys whose kinds do not clash are told apart by their texts. -/
theorem eq_of_keyText_eq {a b : Value} (ha : a.IsResolved) (hb : b.IsResolved)
    (hclash : ¬ (keyKind a).MayClash (keyKind b)) (h : keyText a = keyText b) : a = b := by
  rw [KeyKind.MayClash, not_or, not_or, not_or] at hclash
  obtain ⟨htagged, htagged', htext, hcollection⟩ := hclash
  by_cases ha' : keyKind a = .text
  · have hb' : keyKind b = .text := by tauto
    rw [text_of_keyKind ha', text_of_keyKind hb', h]
  · have hb' : keyKind b ≠ .text := by tauto
    have hbracket : (keyKind a).bracket? = (keyKind b).bracket? := by
      rw [← bracket?_keyKind ha ha' htagged, h, bracket?_keyKind hb hb' htagged']
    have hplain : keyKind a = .plain ∧ keyKind b = .plain := by
      cases hkind : keyKind a <;> cases hkind' : keyKind b <;> simp_all [KeyKind.bracket?]
    exact eq_of_keyText_eq_of_plain ha hb hplain.1 hplain.2 h

/-! ### Keys of a mapping -/

theorem same_self {a : Value} (h : keyKind a = .text ∨ keyKind a = .plain) : a.same a = true := by
  cases a with
  | null => rfl
  | bool b => exact beq_self_eq_true b
  | integer n => exact beq_self_eq_true n
  | real x =>
    rw [Value.same]
    cases x with
    | finite negative m e =>
      cases m with
      | zero => rfl
      | succ m => exact beq_self_eq_true (Binary64.finite negative (m + 1) e)
    | infinite negative => exact beq_self_eq_true (Binary64.infinite negative)
    | nan => rfl
  | text s => exact beq_self_eq_true s
  | _ => simp [keyKind] at h

/-- Two keys of a mapping have the same text only if their kinds clash. -/
theorem pairwise_keys {es : List (Value × Value)} (h : (Value.mapping es).IsResolved) :
    (es.map Prod.fst).Pairwise fun a b =>
      a.same b = false ∧ (keyText a = keyText b → (keyKind a).MayClash (keyKind b)) := by
  cases h with
  | mapping hkeys _ hdistinct =>
    refine hdistinct.imp_of_mem fun {a b} ha hb hab => ⟨hab, fun htext => ?_⟩
    obtain ⟨e, he, rfl⟩ := List.mem_map.1 ha
    obtain ⟨e', he', rfl⟩ := List.mem_map.1 hb
    by_contra hclash
    have heq := eq_of_keyText_eq (hkeys e he) (hkeys e' he') hclash htext
    rw [← heq] at hab hclash
    have hkind : keyKind e.1 = .text ∨ keyKind e.1 = .plain := by
      generalize keyKind e.1 = k at hclash
      revert hclash
      cases k <;> decide
    rw [same_self hkind] at hab
    cases hab

/-- Texts stay different, and so do null, truth values and numbers. -/
theorem nodup_keys {es : List (Value × Value)} {kind : KeyKind}
    (h : (Value.mapping es).IsResolved) (hclash : ¬ kind.MayClash kind)
    (hkind : ∀ e ∈ es, keyKind e.1 = kind) : ((ofEntries es).map Prod.fst).Nodup := by
  have htexts : (ofEntries es).map Prod.fst = (es.map Prod.fst).map keyText := by
    rw [ofEntries_eq_map, List.map_map, List.map_map]
    rfl
  rw [htexts, List.nodup_iff_pairwise_ne, List.pairwise_map]
  refine (pairwise_keys h).imp_of_mem fun {a b} ha hb hab htext => hclash ?_
  obtain ⟨e, he, rfl⟩ := List.mem_map.1 ha
  obtain ⟨e', he', rfl⟩ := List.mem_map.1 hb
  have hclash' := hab.2 htext
  rwa [hkind e he, hkind e' he'] at hclash'

/-- What the keys of a mapping in a definition are, and what is found by them. -/
theorem mapping_of_parse {text : String} {n : Node} {entries : List (String × Node)}
    (hparse : parse text = .ok n) (hpart : (mapping entries).IsPartOf n) :
    (∃ v es, Value.parse text = .ok v ∧ n = ofValue v ∧ (Value.mapping es).IsPartOf v ∧
      entries = ofEntries es ∧
      ((es.map Prod.fst).Pairwise fun a b =>
        a.same b = false ∧ (keyText a = keyText b → (keyKind a).MayClash (keyKind b))) ∧
      ((∀ e ∈ es, keyKind e.1 = .text) ∨ (∀ e ∈ es, keyKind e.1 = .plain) →
        (entries.map Prod.fst).Nodup)) ∧
    ((entries.map Prod.fst).Nodup → ∀ key m,
      ((key, m) ∈ entries ↔ (mapping entries).get? key = some m) ∧
      ((key, m) ∈ entries →
        (Bindings.ofNode (mapping entries)).lookup key = some m.display)) ∧
    ∀ key,
      (∀ m, (mapping entries).get? key = some m ↔
        ∃ before behind, entries = before ++ (key, m) :: behind ∧ key ∉ before.map Prod.fst) ∧
      ∀ value, (Bindings.ofNode (mapping entries)).lookup key = some value ↔
        ∃ before m behind, entries = before ++ (key, m) :: behind ∧ key ∉ behind.map Prod.fst ∧
          m.display = value := by
  refine ⟨?_, get?_and_lookup_ofNode_of_nodup,
    fun key => ⟨fun m => get?_eq_some_iff, fun value => lookup_ofNode_eq_some_iff⟩⟩
  rw [parse] at hparse
  cases hv : Value.parse text with
  | error e =>
    rw [hv] at hparse
    cases hparse
  | ok v =>
    rw [hv] at hparse
    obtain rfl : ofValue v = n := Except.ok.inj hparse
    have hresolved := Value.isResolved_of_parse hv
    obtain ⟨es, hes, rfl⟩ := exists_isPartOf hresolved hpart
    have hmapping := hresolved.of_isPartOf hes
    refine ⟨v, es, rfl, rfl, hes, rfl, pairwise_keys hmapping, ?_⟩
    rintro (htexts | hplain)
    · exact nodup_keys hmapping (by decide) htexts
    · exact nodup_keys hmapping (by decide) hplain

/-- The entries are those of the scalars with these texts. -/
theorem eq_map_scalar {entries : List (String × Node)} {texts : List (String × String)}
    (h : entries.map (fun e => (e.1, e.2.text?)) = texts.map fun e => (e.1, some e.2)) :
    entries = texts.map fun e => (e.1, scalar e.2) := by
  induction texts generalizing entries with
  | nil => exact List.map_eq_nil_iff.1 h
  | cons t ts ih =>
    obtain ⟨e, es, rfl, he, hes⟩ := List.map_eq_cons_iff.1 h
    obtain ⟨key, n⟩ := e
    cases n with
    | scalar text =>
      cases he
      rw [List.map_cons, ih hes]
    | _ => cases he

/-- A mapping of scalars is read from a text if their keys and texts are. -/
theorem parse_of_texts {text : String} {texts : List (String × String)}
    (h : ((parse text).toOption.bind entries?).map (·.map fun e => (e.1, e.2.text?)) =
      some (texts.map fun e => (e.1, some e.2))) :
    parse text = .ok (mapping (texts.map fun e => (e.1, scalar e.2))) := by
  obtain ⟨entries, hentries, htexts⟩ := Option.map_eq_some_iff.1 h
  obtain ⟨n, hn, hentries⟩ := Option.bind_eq_some_iff.1 hentries
  rw [← eq_map_scalar htexts]
  cases hparse : parse text with
  | error e =>
    rw [hparse] at hn
    cases hn
  | ok m =>
    rw [hparse] at hn
    cases hn
    cases n with
    | mapping es =>
      cases hentries
      rfl
    | _ => cases hentries

/-- The values of a number and of a truth value are both found. -/
theorem mapping_of_parse_plain :
    parse "\x7b1: a, true: b\x7d" = .ok (mapping [("1", scalar "a"), ("true", scalar "b")]) ∧
    (mapping [("1", scalar "a"), ("true", scalar "b")]).get? "true" = some (scalar "b") ∧
    (Bindings.ofNode (mapping [("1", scalar "a"), ("true", scalar "b")])).lookup "true" =
      some "b" := by
  have hparse : parse "\x7b1: a, true: b\x7d" =
      .ok (mapping [("1", scalar "a"), ("true", scalar "b")]) :=
    @parse_of_texts _ [("1", "a"), ("true", "b")] (by decide +kernel)
  obtain ⟨-, hfound, -⟩ := mapping_of_parse hparse .self
  have htrue := hfound (by decide) "true" (scalar "b")
  have hmem : ("true", scalar "b") ∈ [("1", scalar "a"), ("true", scalar "b")] :=
    List.mem_of_mem_getLast? rfl
  exact ⟨hparse, htrue.1.1 hmem, htrue.2 hmem⟩

/-- The number and the text are both keys. A look-up misses the second entry, and the bindings miss
the first one. -/
theorem mapping_of_parse_clash :
    parse "\x7b1: a, '1': b\x7d" = .ok (mapping [("1", scalar "a"), ("1", scalar "b")]) ∧
    ¬ ([("1", scalar "a"), ("1", scalar "b")].map Prod.fst).Nodup ∧
    (mapping [("1", scalar "a"), ("1", scalar "b")]).get? "1" ≠ some (scalar "b") ∧
    (Bindings.ofNode (mapping [("1", scalar "a"), ("1", scalar "b")])).lookup "1" ≠ some "a" := by
  refine ⟨@parse_of_texts _ [("1", "a"), ("1", "b")] (by decide +kernel), by decide, ?_, by decide⟩
  intro h
  have htexts : some "a" = some "b" := congrArg (·.bind text?) h
  revert htexts
  decide

end Node

end PipelineScript
