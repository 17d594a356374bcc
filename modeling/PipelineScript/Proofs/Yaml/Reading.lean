import PipelineScript.Proofs.Yaml.Leaves
import PipelineScript.Yaml.OpenDocument

/-!
# The scalars of a document and those of its tokens

While the tokens of a document are read, the texts of the plain scalars in the nodes that are
complete and in the open collections, from the outermost to the innermost, are those of the tokens
so far.  So none is lost, none is made up, and their order stays.
-/

namespace PipelineScript.Yaml

/-! ### Open collections -/

/-- The nodes of the collection are keys and values in turn. -/
def CollectionKind.isMapping : CollectionKind → Bool
  | .blockMapping | .flowMapping | .pair => true
  | _ => false

namespace OpenCollection

/-- The texts of the plain scalars in the nodes of a collection. -/
def texts (c : OpenCollection) : List String :=
  c.nodes.reverse.flatMap Tree.texts

/-- In a mapping, a key without its value is there just if the value is what comes next. -/
def IsPaired (c : OpenCollection) : Prop :=
  c.kind.isMapping →
    match c.place with
    | .entry | .key | .entryRead => c.nodes.length % 2 = 0
    | .keyRead | .value => c.nodes.length % 2 = 1
    | .item => False

variable {c c' : OpenCollection} {t : Token}

theorem texts_empty (anchor : Option Nat) (tag : Option Tag) :
    (Tree.empty anchor tag).texts = [] := rfl

theorem accept_texts (c : OpenCollection) (t : Tree) :
    (c.accept t).texts = c.texts ++ t.texts := by
  have hpush (place : Place) : ({ c with place, nodes := t :: c.nodes } : OpenCollection).texts =
      c.texts ++ t.texts := by
    simp [texts]
  rw [accept]
  split
  · exact hpush _
  · split_ifs
    · simp [texts, texts_empty]
    · exact hpush _
  · exact hpush _

theorem accept_isPaired (hc : c.IsPaired) (hwants : c.wantsNode) (t : Tree) :
    (c.accept t).IsPaired := by
  obtain ⟨kind, properties, place, nodes⟩ := c
  cases kind <;> cases place <;>
    simp [IsPaired, wantsNode, accept, placeBehindEntry, CollectionKind.isMapping,
      CollectionKind.isFlow] at hc hwants ⊢ <;> omega

/-- A node that is left out adds no text. -/
theorem accept_empty (hc : c.IsPaired) (hwants : c.wantsNode) :
    (c.accept (Tree.empty none none)).IsPaired ∧
      (c.accept (Tree.empty none none)).texts = c.texts :=
  ⟨accept_isPaired hc hwants _, by rw [accept_texts, texts_empty, List.append_nil]⟩

theorem wantsNode_of_isEmptyBefore (h : c.isEmptyBefore t) : c.wantsNode := by
  unfold isEmptyBefore at h
  split at h
  case h_8 => cases h
  all_goals
    rename_i hplace
    rw [wantsNode, hplace]

theorem fill_spec (hc : c.IsPaired) (t : Token) :
    (c.fill t).IsPaired ∧ (c.fill t).texts = c.texts := by
  generalize hc₁ : (if c.isEmptyBefore t then c.accept (Tree.empty none none) else c) = c₁
  have h₁ : c₁.IsPaired ∧ c₁.texts = c.texts := by
    rw [← hc₁]
    split_ifs with hempty
    · exact accept_empty hc (wantsNode_of_isEmptyBefore hempty)
    · exact ⟨hc, rfl⟩
  have hfill : c.fill t = if c₁.place = .keyRead && t != .value then
      { c₁ with place := .value }.accept (Tree.empty none none) else c₁ := by
    rw [← hc₁, fill]
  rw [hfill]
  split_ifs with hread
  · have hplace : c₁.place = .keyRead := by simp_all
    have hvalue : ({ c₁ with place := .value } : OpenCollection).IsPaired := by
      have hpaired := h₁.1
      rwa [IsPaired, hplace] at hpaired
    obtain ⟨hpaired, htexts⟩ := accept_empty hvalue rfl
    exact ⟨hpaired, htexts.trans h₁.2⟩
  · exact h₁

theorem flatMap_pairs {nodes : List Tree} (h : nodes.length % 2 = 0) :
    (pairs nodes).flatMap (fun e => e.1.texts ++ e.2.texts) = nodes.flatMap Tree.texts := by
  fun_induction pairs nodes with
  | case1 k v nodes ih =>
    simp only [List.length_cons] at h
    simp [ih (by omega)]
  | case2 nodes hnodes =>
    match nodes, h, hnodes with
    | [], _, _ => rfl
    | [k], h, _ => simp at h
    | k :: v :: nodes, _, hnodes => exact absurd rfl (hnodes k v nodes)

/-- A collection at the end of an entry is complete. -/
theorem tree_texts (hc : c.IsPaired) (hplace : c.place = .entry ∨ c.place = .entryRead) :
    c.tree.texts = c.texts := by
  have hlength : c.kind.isMapping → c.nodes.reverse.length % 2 = 0 := by
    intro hkind
    have hnodes := hc hkind
    rw [List.length_reverse]
    obtain hplace | hplace := hplace
    · rwa [hplace] at hnodes
    · rwa [hplace] at hnodes
  rw [tree]
  split
  · exact Tree.texts_sequence _ _ _
  · exact Tree.texts_sequence _ _ _
  · exact Tree.texts_sequence _ _ _
  all_goals
    rename_i hkind
    rw [Tree.texts_mapping, flatMap_pairs (hlength (by rw [hkind]; rfl))]
    rfl

end OpenCollection

namespace OpenDocument

open OpenCollection

section Turns

variable {c c' : OpenCollection} {t : Token}

theorem turn_moves (hc : c.IsPaired) (h : turn c t = .moves c') :
    c'.IsPaired ∧ c'.texts = c.texts ∧ t.plainText? = none := by
  unfold turn at h
  split at h
  case h_16 | h_17 | h_18 =>
    rename_i hplace
    cases h
    obtain ⟨hpaired, htexts⟩ := accept_empty hc (by rw [wantsNode, hplace])
    exact ⟨hpaired, htexts, rfl⟩
  all_goals cases h
  all_goals
    refine ⟨?_, rfl, rfl⟩
    simp_all [IsPaired, CollectionKind.isMapping]

theorem turn_opensPair (h : turn c t = .opensPair) : c.wantsNode ∧ t.plainText? = none := by
  unfold turn at h
  split at h
  all_goals cases h
  rename_i hkind hplace
  exact ⟨by rw [wantsNode, hplace, hkind]; rfl, rfl⟩

theorem turn_ends (h : turn c t = .ends) :
    (c.place = .entry ∨ c.place = .entryRead) ∧ t.plainText? = none := by
  unfold turn at h
  split at h
  all_goals cases h
  all_goals simp_all [Token.plainText?]

theorem turn_ended (h : turn c t = .ended) : c.place = .entry ∨ c.place = .entryRead := by
  unfold turn at h
  split at h
  all_goals cases h
  all_goals simp_all

end Turns

/-- The texts of the plain scalars read so far. -/
def texts (d : OpenDocument) : List String :=
  d.root.elim [] Tree.texts ++ d.collections.reverse.flatMap OpenCollection.texts

/-- A node may begin. -/
structure Awaits (d : OpenDocument) : Prop where
  paired : ∀ c ∈ d.collections, c.IsPaired
  wants : ∀ c ∈ d.collections, c.wantsNode
  root : d.root = none

/-- What holds between the tokens of a document. -/
structure IsSound (d : OpenDocument) : Prop where
  paired : ∀ c ∈ d.collections, c.IsPaired
  /-- Each collection around another awaits it. -/
  outer : ∀ c ∈ d.collections.tail, c.wantsNode
  root : d.collections ≠ [] → d.root = none
  /-- An anchor and a tag stand where a node may begin. -/
  awaits : d.properties.isSome → d.Awaits

/-- A step that adds texts to a document. -/
def Adds (texts : List String) (d d' : OpenDocument) : Prop :=
  d'.IsSound ∧ d'.texts = d.texts ++ texts

variable {d d' : OpenDocument} {t : Token}

theorem Awaits.accept (hd : d.Awaits) (t : Tree) : Adds t.texts d (d.accept t) := by
  obtain ⟨directives, hasMarker, anchors, properties, collections, root⟩ := d
  obtain ⟨hpaired, hwants, rfl⟩ := hd
  cases collections with
  | nil => exact ⟨⟨by simp [OpenDocument.accept], by simp [OpenDocument.accept],
      by simp [OpenDocument.accept], by simp [OpenDocument.accept]⟩,
      by simp [OpenDocument.accept, texts]⟩
  | cons c cs =>
    rw [List.forall_mem_cons] at hpaired hwants
    refine ⟨⟨?_, hwants.2, fun _ => rfl, by simp [OpenDocument.accept]⟩, ?_⟩
    · exact List.forall_mem_cons.2 ⟨accept_isPaired hpaired.1 hwants.1 t, hpaired.2⟩
    · simp [OpenDocument.accept, texts, accept_texts]

theorem accept_properties (d : OpenDocument) (t : Tree) : (d.accept t).properties = none := by
  rw [OpenDocument.accept]
  split
  · rfl
  · rfl

theorem Awaits.openCollection (hd : d.Awaits) (kind : CollectionKind) {place : Place}
    (hplace : ∀ properties, (⟨kind, properties, place, []⟩ : OpenCollection).IsPaired) :
    Adds [] d (d.openCollection kind place) := by
  refine ⟨⟨?_, hd.wants, fun _ => hd.root, fun h => by cases h⟩, ?_⟩
  · exact List.forall_mem_cons.2 ⟨hplace _, hd.paired⟩
  · simp [OpenDocument.openCollection, texts, OpenCollection.texts]

/-- The properties of the next node change. -/
theorem Awaits.adds_nil (hd : d.Awaits) (hcollections : d'.collections = d.collections)
    (hroot : d'.root = d.root) : Adds [] d d' := by
  have hd' : d'.Awaits :=
    ⟨hcollections ▸ hd.paired, hcollections ▸ hd.wants, hroot.trans hd.root⟩
  refine ⟨⟨hd'.paired, fun c hc => hd'.wants c (List.mem_of_mem_tail hc), fun _ => hd'.root,
    fun _ => hd'⟩, ?_⟩
  rw [texts, hroot, hcollections, List.append_nil]
  rfl

theorem Awaits.beginNode (hd : d.Awaits) (h : beginNode d t = some (.ok d')) :
    Adds t.plainText?.toList d d' := by
  unfold OpenDocument.beginNode at h
  split at h
  case h_1 name =>
    split_ifs at h
    split at h
    · cases h
      exact hd.accept _
    · cases h
  case h_2 name =>
    dsimp only at h
    split_ifs at h
    cases h
    exact hd.adds_nil rfl rfl
  case h_3 handle suffix =>
    dsimp only at h
    split_ifs at h
    cases htag : d.directives.tag handle suffix with
    | error e =>
      rw [htag] at h
      cases h
    | ok tag =>
      rw [htag] at h
      cases h
      exact hd.adds_nil rfl rfl
  case h_4 text style =>
    cases h
    rw [← Tree.texts_scalar _ ⟨text, style, _⟩]
    exact hd.accept _
  case h_9 =>
    split_ifs at h
    cases h
    exact hd.openCollection _ fun _ h => by cases h
  case h_10 => cases h
  all_goals
    cases h
    exact hd.openCollection _ fun _ _ => rfl

section Top

variable {c c' : OpenCollection} {cs : List OpenCollection} {root : Option Tree}

theorem texts_cons :
    ({ d with collections := c :: cs, root } : OpenDocument).texts =
      ({ d with collections := cs, root } : OpenDocument).texts ++ c.texts := by
  simp [texts]

/-- The collections around the innermost one await it. -/
theorem IsSound.awaits_of_cons
    (hd : ({ d with collections := c :: cs, root } : OpenDocument).IsSound) :
    ({ d with collections := cs, root } : OpenDocument).Awaits :=
  ⟨fun c hc => hd.paired c (List.mem_cons_of_mem _ hc), hd.outer, hd.root (by simp)⟩

theorem Awaits.isSound_cons (hd : ({ d with collections := cs, root } : OpenDocument).Awaits)
    (hproperties : d.properties = none) (hc : c.IsPaired) :
    ({ d with collections := c :: cs, root } : OpenDocument).IsSound :=
  ⟨List.forall_mem_cons.2 ⟨hc, hd.paired⟩, hd.wants, fun _ => hd.root,
    fun h => by rw [hproperties] at h; cases h⟩

theorem Awaits.cons (hd : ({ d with collections := cs, root } : OpenDocument).Awaits)
    (hc : c.IsPaired) (hwants : c.wantsNode) :
    ({ d with collections := c :: cs, root } : OpenDocument).Awaits :=
  ⟨List.forall_mem_cons.2 ⟨hc, hd.paired⟩, List.forall_mem_cons.2 ⟨hwants, hd.wants⟩, hd.root⟩

end Top

theorem readFrom_adds {cs : List OpenCollection} {root : Option Tree}
    (hd : ({ d with collections := cs, root } : OpenDocument).IsSound)
    (hproperties : d.properties = none) (h : readFrom d t cs root = .ok d') :
    Adds t.plainText?.toList { d with collections := cs, root } d' := by
  have hgetD {o : Option (Except Fault OpenDocument)} {d' : OpenDocument}
      (h : o.getD (.error .unexpectedToken) = .ok d') : o = some (.ok d') := by
    cases o with
    | none => cases h
    | some r => exact congrArg some h
  fun_induction readFrom d t cs root with
  | case1 => cases h
  | case2 root hroot =>
    have hawaits : ({ d with collections := [], root } : OpenDocument).Awaits :=
      ⟨by simp, by simp, by simpa using hroot⟩
    exact hawaits.beginNode (hgetD h)
  | case3 c cs root c₁ c' hturn =>
    cases h
    obtain ⟨hpaired, htexts⟩ := fill_spec (hd.paired c (by simp)) t
    obtain ⟨hpaired', htexts', htoken⟩ := turn_moves hpaired hturn
    refine ⟨hd.awaits_of_cons.isSound_cons hproperties hpaired', ?_⟩
    rw [texts_cons, texts_cons, htexts', htexts, htoken, Option.toList_none, List.append_nil]
  | case4 c cs root c₁ hturn =>
    cases h
    obtain ⟨hpaired, htexts⟩ := fill_spec (hd.paired c (by simp)) t
    obtain ⟨hwants, htoken⟩ := turn_opensPair hturn
    have hawaits := hd.awaits_of_cons.cons hpaired hwants
    refine ⟨hawaits.isSound_cons hproperties fun _ => rfl, ?_⟩
    rw [texts_cons, texts_cons, texts_cons, htexts, htoken]
    rfl
  | case5 c cs root c₁ hturn =>
    cases h
    obtain ⟨hpaired, htexts⟩ := fill_spec (hd.paired c (by simp)) t
    obtain ⟨hplace, htoken⟩ := turn_ends hturn
    obtain ⟨hsound, haccept⟩ := hd.awaits_of_cons.accept c₁.tree
    refine ⟨hsound, ?_⟩
    rw [haccept, tree_texts hpaired hplace, texts_cons, htexts, htoken, Option.toList_none,
      List.append_nil]
  | case6 c root c₁ hturn => cases h
  | case7 c root c₁ hturn outer cs ih =>
    obtain ⟨hpaired, htexts⟩ := fill_spec (hd.paired c (by simp)) t
    have hawaits := hd.awaits_of_cons
    have hpaired' := accept_isPaired (hawaits.paired outer (by simp))
      (hawaits.wants outer (by simp)) c₁.tree
    have hawaits' : ({ d with collections := cs, root } : OpenDocument).Awaits :=
      ⟨fun c hc => hawaits.paired c (List.mem_cons_of_mem _ hc),
        fun c hc => hawaits.wants c (List.mem_cons_of_mem _ hc), hawaits.root⟩
    obtain ⟨hsound, hrest⟩ := ih (hawaits'.isSound_cons hproperties hpaired') h
    refine ⟨hsound, hrest.trans ?_⟩
    rw [texts_cons, accept_texts, tree_texts hpaired (turn_ended hturn), htexts, texts_cons,
      texts_cons]
    simp only [List.append_assoc]
  | case8 c cs root c₁ hturn hwants =>
    obtain ⟨hpaired, htexts⟩ := fill_spec (hd.paired c (by simp)) t
    obtain ⟨hsound, hbegin⟩ := (hd.awaits_of_cons.cons hpaired hwants).beginNode (hgetD h)
    refine ⟨hsound, hbegin.trans ?_⟩
    rw [texts_cons, texts_cons, htexts]
  | case9 => cases h

theorem IsSound.read (hd : d.IsSound) (h : d.read t = .ok d') :
    Adds t.plainText?.toList d d' := by
  rw [OpenDocument.read] at h
  split at h
  · rename_i hproperties
    exact readFrom_adds hd hproperties h
  · rename_i p hproperties
    have hawaits := hd.awaits (by rw [hproperties]; rfl)
    split at h
    · rename_i r hbegin
      exact hawaits.beginNode (hbegin.trans (congrArg some h))
    · obtain ⟨hsound, htexts⟩ := hawaits.accept (Tree.empty p.anchor p.tag)
      have haccept := d.accept_properties (Tree.empty p.anchor p.tag)
      rw [texts_empty, List.append_nil] at htexts
      rw [Adds, ← htexts]
      generalize d.accept (Tree.empty p.anchor p.tag) = d₁ at h hsound haccept ⊢
      exact readFrom_adds hsound haccept h

theorem texts_of_finish {tree : Tree} (hproperties : d.properties = none)
    (h : d.finish = .ok tree) : tree.texts = d.texts := by
  simp only [OpenDocument.finish, hproperties] at h
  rw [texts]
  split at h
  · rename_i hcollections hroot
    cases h
    rw [hcollections, hroot]
    exact (List.append_nil _).symm
  · rename_i hcollections hroot
    split_ifs at h
    cases h
    rw [hcollections, hroot]
    rfl
  · cases h

theorem IsSound.finish {tree : Tree} (hd : d.IsSound) (h : d.finish = .ok tree) :
    tree.texts = d.texts := by
  cases hproperties : d.properties with
  | none => exact texts_of_finish hproperties h
  | some p =>
    -- Only an anchor and a tag are left, and they belong to a node that is left out.
    have hawaits := hd.awaits (by rw [hproperties]; rfl)
    have haccept := d.accept_properties (Tree.empty p.anchor p.tag)
    have hfinish : (d.accept (Tree.empty p.anchor p.tag)).finish = .ok tree := by
      rw [← h, OpenDocument.finish, OpenDocument.finish, haccept, hproperties]
    rw [texts_of_finish haccept hfinish, (hawaits.accept _).2, texts_empty, List.append_nil]

end OpenDocument

namespace Reading

/-- The texts of the plain scalars read so far. -/
def texts : Reading → List String
  | before _ => []
  | inside d => d.texts
  | behind root => root.texts

/-- What holds between the tokens of a text. -/
def IsSound : Reading → Prop
  | inside d => d.IsSound
  | _ => True

theorem isSound_openWith (d : Directives) (hasMarker : Bool) :
    (openWith d hasMarker).IsSound :=
  ⟨fun _ hc => (List.not_mem_nil hc).elim, fun _ hc => (List.not_mem_nil hc).elim,
    fun h => (h rfl).elim, fun h => by cases h⟩

variable {r r' : Reading} {t : Token}

theorem IsSound.read (hr : r.IsSound) (h : r.read t = .ok r') :
    r'.IsSound ∧ r'.texts = r.texts ++ t.plainText?.toList := by
  unfold Reading.read at h
  split at h
  case h_1 | h_2 =>
    obtain ⟨d', -, rfl⟩ := map_eq_ok.1 h
    exact ⟨trivial, rfl⟩
  case h_3 d =>
    cases h
    exact ⟨isSound_openWith d true, rfl⟩
  case h_4 =>
    split_ifs at h
    obtain ⟨d', hd', rfl⟩ := map_eq_ok.1 h
    exact (isSound_openWith _ false).read hd'
  case h_5 =>
    obtain ⟨tree, htree, rfl⟩ := map_eq_ok.1 h
    exact ⟨trivial, (OpenDocument.IsSound.finish hr htree).trans (List.append_nil _).symm⟩
  case h_9 =>
    obtain ⟨d', hd', rfl⟩ := map_eq_ok.1 h
    exact OpenDocument.IsSound.read hr hd'
  case h_10 =>
    cases h
    exact ⟨trivial, (List.append_nil _).symm⟩
  all_goals cases h

theorem IsSound.foldlM {ts : List Token} (hr : r.IsSound)
    (h : ts.foldlM Reading.read r = .ok r') :
    r'.IsSound ∧ r'.texts = r.texts ++ ts.filterMap Token.plainText? := by
  induction ts generalizing r with
  | nil =>
    cases h
    exact ⟨hr, (List.append_nil _).symm⟩
  | cons t ts ih =>
    rw [List.foldlM_cons] at h
    obtain ⟨r₁, hr₁, h⟩ := bind_eq_ok.1 h
    obtain ⟨hsound, htexts⟩ := hr.read hr₁
    obtain ⟨hsound', htexts'⟩ := ih hsound h
    refine ⟨hsound', ?_⟩
    rw [htexts', htexts, List.append_assoc, List.filterMap_cons]
    cases t.plainText? with
    | none => rfl
    | some text => rfl

theorem IsSound.finish {d : Document} (hr : r.IsSound) (h : r.finish = .ok d) :
    plainTexts d.leaves = r.texts := by
  cases r with
  | before d' =>
    rw [Reading.finish] at h
    split_ifs at h
    cases h
    rfl
  | inside d' =>
    obtain ⟨tree, htree, rfl⟩ := map_eq_ok.1 h
    exact OpenDocument.IsSound.finish hr htree
  | behind root =>
    cases h
    rfl

end Reading

/-- The plain scalars of a document are those of its tokens, in the same order. -/
theorem Document.texts_of_ofTokens {ts : List Token} {d : Document} (h : ofTokens ts = .ok d) :
    plainTexts d.leaves = ts.filterMap Token.plainText? := by
  obtain ⟨r, hr, h⟩ := bind_eq_ok.1 h
  have hstart : (Reading.before Directives.none).IsSound := trivial
  obtain ⟨hsound, htexts⟩ := hstart.foldlM hr
  exact (hsound.finish h).trans htexts

end PipelineScript.Yaml
