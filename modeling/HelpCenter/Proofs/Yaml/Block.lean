import HelpCenter.Proofs.Except
import HelpCenter.Yaml.Value

/-!
# Documents in block style

A document laid out by indentation is a tree of scalars, sequences and mappings (`Block`).  Its tokens
are read as the nodes of that tree (`run_node`), the nodes pass the checks, and the text has the value
that the tree stands for (`Block.parse_eq`).
-/

namespace HelpCenter.Yaml

open Except

/-- A document laid out by indentation; a scalar is plain or quoted, and keys are plain. -/
inductive Block where
  | scalar (plain : Bool) (text : Text)
  | sequence (items : List Block)
  | mapping (entries : List (Text × Block))

namespace Block

mutual

/-- The tokens that lay out a block. -/
def tokens : Block → List Token
  | scalar plain text => [.scalar plain text]
  | sequence items => .blockSequenceStart :: itemTokens items
  | mapping entries => .blockMappingStart :: entryTokens entries

/-- The tokens of the items of a sequence and of its end. -/
def itemTokens : List Block → List Token
  | [] => [.blockEnd]
  | item :: items => .blockEntry :: (item.tokens ++ itemTokens items)

/-- The tokens of the entries of a mapping and of its end. -/
def entryTokens : List (Text × Block) → List Token
  | [] => [.blockEnd]
  | (key, value) :: entries =>
    .key :: .scalar true key :: .value :: (value.tokens ++ entryTokens entries)

end

mutual

/-- The node that a block is. -/
def node : Block → Node
  | scalar plain text => .scalar (NodeReader.scalarTag none plain text) text
  | sequence items => .sequence (coreTag "seq") (itemNodes items)
  | mapping entries => .mapping (coreTag "map") (entryNodes entries)

/-- The nodes of the items of a sequence. -/
def itemNodes : List Block → List Node
  | [] => []
  | item :: items => item.node :: itemNodes items

/-- The nodes of the entries of a mapping. -/
def entryNodes : List (Text × Block) → List (Node × Node)
  | [] => []
  | (key, value) :: entries =>
    (.scalar (NodeReader.scalarTag none true key) key, value.node) :: entryNodes entries

end

mutual

/-- The value that a block stands for; a scalar that does not look like a value of its kind stands
for none. -/
def value? : Block → Option Value
  | scalar plain text => (scalarValue (NodeReader.scalarTag none plain text) text).toOption
  | sequence items => (itemValues? items).map .list
  | mapping entries => (entryValues? entries).map .map

/-- The values of the items of a sequence. -/
def itemValues? : List Block → Option (List Value)
  | [] => some []
  | item :: items => do return (← item.value?) :: (← itemValues? items)

/-- The values of the entries of a mapping, whose keys have to be texts. -/
def entryValues? : List (Text × Block) → Option (List (Value × Value))
  | [] => some []
  | (key, value) :: entries =>
    if NodeReader.scalarTag none true key = coreTag "str" then do
      return (.str key, ← value.value?) :: (← entryValues? entries)
    else none

end

end Block

/-! ## Reading the nodes -/

namespace NodeState

/-- The same state with other tokens ahead. -/
def at_ (s : NodeState) (ts : List Token) : NodeState := { s with tokens := ts }

end NodeState

namespace NodeReader

open Block

variable {s s' : NodeState} {t u : Token} {ts us : List Token} {fuel : ℕ} {indentless : Bool}

@[simp] theorem run_peek : peek.run (s.at_ (t :: ts)) = .ok (some t, s.at_ (t :: ts)) := rfl

@[simp] theorem run_advance : advance.run (s.at_ (t :: ts)) = .ok ((), s.at_ ts) := rfl

@[simp] theorem run_nextIs :
    (nextIs u).run (s.at_ (t :: ts)) = .ok (decide (t = u), s.at_ (t :: ts)) := by
  simp [nextIs]

@[simp] theorem run_nextIn :
    (nextIn us).run (s.at_ (t :: ts)) = .ok (us.contains t, s.at_ (t :: ts)) := rfl

theorem run_scalar (plain : Bool) (text : Text) :
    (node true indentless (fuel + 2)).run (s.at_ (.scalar plain text :: ts)) =
      .ok (.scalar (scalarTag none plain text) text, s.at_ ts) := rfl

/-- A block sequence is read by its own reader behind the token that opens it. -/
theorem run_sequence : (node true indentless (fuel + 2)).run (s.at_ (.blockSequenceStart :: ts)) =
    (.sequence (coreTag "seq") <$> blockSequence fuel).run (s.at_ ts) := by
  simp [node, content]
  rfl

theorem run_mapping : (node true indentless (fuel + 2)).run (s.at_ (.blockMappingStart :: ts)) =
    (.mapping (coreTag "map") <$> blockMapping fuel).run (s.at_ ts) := by
  simp [node, content]
  rfl

theorem run_blockSequence_end :
    (blockSequence (fuel + 1)).run (s.at_ (.blockEnd :: ts)) = .ok ([], s.at_ ts) := rfl

theorem run_blockMapping_end :
    (blockMapping (fuel + 1)).run (s.at_ (.blockEnd :: ts)) = .ok ([], s.at_ ts) := rfl

/-- An item of a block sequence. -/
theorem run_blockSequence_entry {item : Node} {items : List Node}
    (ht : t ∉ [Token.blockEntry, .blockEnd])
    (hitem : (node true false fuel).run (s.at_ (t :: ts)) = .ok (item, s.at_ us))
    (hitems : (blockSequence fuel).run (s.at_ us) = .ok (items, s')) :
    (blockSequence (fuel + 1)).run (s.at_ (.blockEntry :: t :: ts)) = .ok (item :: items, s') := by
  have hin : [Token.blockEntry, .blockEnd].contains t = false := by simpa using ht
  rw [blockSequence]
  simp only [StateT.run_bind, run_nextIs, ok_bind, decide_true, if_true, run_advance, run_nextIn,
    hin, Bool.false_eq_true, if_false, hitem, hitems]
  rfl

theorem run_blockValue {value : Node} (ht : t ∉ [Token.key, .value, .blockEnd])
    (hvalue : (node true true fuel).run (s.at_ (t :: ts)) = .ok (value, s')) :
    (blockValue (fuel + 1)).run (s.at_ (.value :: t :: ts)) = .ok (value, s') := by
  have hin : [Token.key, .value, .blockEnd].contains t = false := by simpa using ht
  rw [blockValue]
  simp only [StateT.run_bind, run_nextIs, ok_bind, decide_true, if_true, run_advance, run_nextIn,
    hin, Bool.false_eq_true, if_false, hvalue]

/-- An entry of a block mapping is a key, then a value, and the other entries follow. -/
theorem run_blockMapping_key {text : Text} :
    (blockMapping (fuel + 3)).run (s.at_ (.key :: .scalar true text :: ts)) =
      (do
        let value ← blockValue (fuel + 2)
        let entries ← blockMapping (fuel + 2)
        return (.scalar (scalarTag none true text) text, value) :: entries : NodeReader _).run
          (s.at_ ts) := by
  have hin : [Token.key, .value, .blockEnd].contains (.scalar true text) = false := rfl
  rw [blockMapping]
  simp only [StateT.run_bind, run_nextIs, ok_bind, decide_true, if_true, run_advance, run_nextIn,
    hin, Bool.false_eq_true, if_false, run_scalar]

/-- Nothing but another entry or the end stands behind an entry of a block mapping. -/
theorem run_blockMapping_refuses (ht : t ∉ [Token.key, .blockEnd]) :
    (blockMapping (fuel + 1)).run (s.at_ (t :: ts)) = .error .malformed := by
  have hkey : decide (t = .key) = false := by simp_all
  have hend : decide (t = .blockEnd) = false := by simp_all
  rw [blockMapping, expect]
  simp only [StateT.run_bind, run_nextIs, ok_bind, hkey, hend, Bool.false_eq_true, if_false]
  rfl

/-- No block begins with a token that belongs to the collection around it. -/
theorem exists_tokens_eq_cons (b : Block) : ∃ t ts, b.tokens = t :: ts ∧
    t ∉ [Token.blockEntry, .key, .value, .blockEnd] := by
  cases b with
  | scalar plain text => exact ⟨_, _, rfl, by simp⟩
  | sequence items => exact ⟨_, _, rfl, by simp⟩
  | mapping entries => exact ⟨_, _, rfl, by simp⟩

mutual

/-- The tokens of a block are read as its node. -/
theorem run_node : ∀ (b : Block) {fuel : ℕ} {indentless : Bool} {ts : List Token},
    2 * b.tokens.length ≤ fuel →
      (NodeReader.node true indentless fuel).run (s.at_ (b.tokens ++ ts)) = .ok (b.node, s.at_ ts)
  | .scalar plain text, fuel, indentless, ts, hfuel => by
    obtain ⟨fuel, rfl⟩ := Nat.exists_eq_add_of_le' hfuel
    exact run_scalar plain text
  | .sequence items, fuel, indentless, ts, hfuel => by
    rw [tokens, List.length_cons] at hfuel
    obtain ⟨fuel, rfl⟩ := Nat.exists_eq_add_of_le' (show 2 ≤ fuel by omega)
    rw [tokens, List.cons_append, run_sequence, StateT.run_map, run_items items (by omega)]
    rfl
  | .mapping entries, fuel, indentless, ts, hfuel => by
    rw [tokens, List.length_cons] at hfuel
    obtain ⟨fuel, rfl⟩ := Nat.exists_eq_add_of_le' (show 2 ≤ fuel by omega)
    rw [tokens, List.cons_append, run_mapping, StateT.run_map, run_entries entries (by omega)]
    rfl

theorem run_items : ∀ (items : List Block) {fuel : ℕ} {ts : List Token},
    2 * (itemTokens items).length ≤ fuel →
      (blockSequence fuel).run (s.at_ (itemTokens items ++ ts)) = .ok (itemNodes items, s.at_ ts)
  | [], fuel, ts, hfuel => by
    rw [itemTokens, List.length_singleton] at hfuel
    obtain ⟨fuel, rfl⟩ := Nat.exists_eq_add_of_le' (show 1 ≤ fuel by omega)
    exact run_blockSequence_end
  | item :: items, fuel, ts, hfuel => by
    obtain ⟨t, us, htokens, ht⟩ := exists_tokens_eq_cons item
    rw [itemTokens, List.length_cons, List.length_append] at hfuel
    obtain ⟨fuel, rfl⟩ := Nat.exists_eq_add_of_le' (show 1 ≤ fuel by omega)
    have hitem : (NodeReader.node true false fuel).run
        (s.at_ (item.tokens ++ (itemTokens items ++ ts))) =
          .ok (item.node, s.at_ (itemTokens items ++ ts)) := run_node item (by omega)
    have hitems : (blockSequence fuel).run (s.at_ (itemTokens items ++ ts)) =
        .ok (itemNodes items, s.at_ ts) := run_items items (by omega)
    rw [htokens] at hitem
    rw [itemTokens, htokens, itemNodes, List.cons_append, List.append_assoc]
    exact run_blockSequence_entry (by simp_all) hitem hitems

theorem run_entries : ∀ (entries : List (Text × Block)) {fuel : ℕ} {ts : List Token},
    2 * (entryTokens entries).length ≤ fuel →
      (blockMapping fuel).run (s.at_ (entryTokens entries ++ ts)) =
        .ok (entryNodes entries, s.at_ ts)
  | [], fuel, ts, hfuel => by
    rw [entryTokens, List.length_singleton] at hfuel
    obtain ⟨fuel, rfl⟩ := Nat.exists_eq_add_of_le' (show 1 ≤ fuel by omega)
    exact run_blockMapping_end
  | (key, value) :: entries, fuel, ts, hfuel => by
    obtain ⟨t, us, htokens, ht⟩ := exists_tokens_eq_cons value
    simp only [entryTokens, List.length_cons, List.length_append] at hfuel
    obtain ⟨fuel, rfl⟩ := Nat.exists_eq_add_of_le' (show 3 ≤ fuel by omega)
    have hvalue : (NodeReader.node true true (fuel + 1)).run
        (s.at_ (value.tokens ++ (entryTokens entries ++ ts))) =
          .ok (value.node, s.at_ (entryTokens entries ++ ts)) := run_node value (by omega)
    have hentries : (blockMapping (fuel + 2)).run (s.at_ (entryTokens entries ++ ts)) =
        .ok (entryNodes entries, s.at_ ts) := run_entries entries (by omega)
    rw [htokens] at hvalue
    rw [entryTokens, htokens, entryNodes]
    simp only [List.cons_append, List.append_assoc]
    rw [run_blockMapping_key, StateT.run_bind]
    refine bind_ok (run_blockValue (by simp_all) hvalue) ?_
    rw [StateT.run_bind]
    exact bind_ok hentries rfl

end

/-- Where the tokens of a block are all, it is the only document. -/
theorem run_document (b : Block) (hs : s.fault = none) (hfuel : 2 * b.tokens.length ≤ fuel) :
    (document (fuel + 1)).run (s.at_ b.tokens) = .ok (some b.node, s.at_ []) := by
  have hstart : atDocumentStart.run (s.at_ b.tokens) = .ok (false, s.at_ b.tokens) := by
    cases b <;> rfl
  have hpeek : peek.run (s.at_ []) = .ok (none, s.at_ []) := by
    unfold peek
    simp [StateT.run_bind, hs, NodeState.at_]
    rfl
  have hroot : (NodeReader.node true false (fuel + 1)).run (s.at_ (b.tokens ++ [])) =
      .ok (b.node, s.at_ []) := run_node b (Nat.le_succ_of_le hfuel)
  rw [List.append_nil] at hroot
  have hnext : (nextIs .documentEnd).run (s.at_ []) = .ok (false, s.at_ []) := by
    rw [nextIs, StateT.run_bind, hpeek]
    rfl
  have hdone : (startDocument (fuel + 1)).run (s.at_ []) = .ok (false, s.at_ []) := by
    rw [startDocument, StateT.run_bind, skipDocumentEnds, StateT.run_bind, hnext]
    simp only [ok_bind, Bool.false_eq_true, if_false]
    show (peek.run (s.at_ []) >>= _) = _
    rw [hpeek]
    rfl
  unfold document
  simp only [StateT.run_bind, hstart, ok_bind, Bool.false_eq_true, if_false, StateT.run_pure,
    pure_bind, Bool.not_true, hroot, hnext, hdone]
  rfl

theorem run_peek_fault {fault : Fault} (hs : s.fault = some fault) :
    peek.run (s.at_ []) = .error fault := by
  unfold peek
  simp [StateT.run_bind, hs, NodeState.at_]
  rfl

theorem run_blockMapping_fault {fault : Fault} (hs : s.fault = some fault) :
    (blockMapping (fuel + 1)).run (s.at_ []) = .error fault := by
  rw [blockMapping, nextIs]
  simp only [StateT.run_bind, run_peek_fault hs]
  rfl

/-- A fault in the entries of the mapping that makes up a document. -/
theorem run_document_error {fault : Fault}
    (h : (blockMapping (fuel + 3)).run (s.at_ ts) = .error fault) :
    (document (fuel + 5)).run (s.at_ (.blockMappingStart :: ts)) = .error fault := by
  have hstart : atDocumentStart.run (s.at_ (.blockMappingStart :: ts)) =
      .ok (false, s.at_ (.blockMappingStart :: ts)) := rfl
  have hroot : (node true false (fuel + 5)).run (s.at_ (.blockMappingStart :: ts)) =
      .error fault := by
    rw [run_mapping, StateT.run_map, h]
    rfl
  unfold document
  simp only [StateT.run_bind, hstart, ok_bind, Bool.false_eq_true, if_false, pure_bind,
    Bool.not_true, hroot]
  rfl

/-- A document that breaks off in front of the value of its first key. -/
theorem run_document_key {key : Text} {fault : Fault} (hs : s.fault = some fault) :
    (document (fuel + 5)).run (s.at_ [.blockMappingStart, .key, .scalar true key, .value]) =
      .error fault := by
  refine run_document_error ?_
  rw [run_blockMapping_key, StateT.run_bind, blockValue]
  simp only [StateT.run_bind, run_nextIs, ok_bind, decide_true, if_true, run_advance, nextIn,
    run_peek_fault hs]
  rfl

/-- A document that breaks off, or goes on with something else than another entry, behind the value
of its first key. -/
theorem run_document_value {key text : Text} {plain : Bool} {fault : Fault}
    (h : (blockMapping (fuel + 3)).run (s.at_ ts) = .error fault) :
    (document (fuel + 6)).run (s.at_ (.blockMappingStart :: .key :: .scalar true key :: .value ::
      .scalar plain text :: ts)) = .error fault := by
  refine run_document_error ?_
  rw [run_blockMapping_key, StateT.run_bind]
  refine bind_eq_error_iff.2 (.inr ⟨_, run_blockValue (by simp) (run_scalar plain text), ?_⟩)
  rw [StateT.run_bind, h]
  rfl

end NodeReader

theorem graphOf_eq {text : Text} {b : Block} (h : tokensOf text = (b.tokens.toArray, none)) :
    graphOf text = .ok (some ⟨b.node, []⟩) := by
  unfold graphOf
  rw [h]
  have hfuel : 2 * b.tokens.length ≤ 4 * b.tokens.toArray.size + 7 := by
    rw [List.size_toArray]
    omega
  let s : NodeState := ⟨[], none, NodeReader.standardHandles, [], []⟩
  have hdocument : (NodeReader.document (4 * b.tokens.toArray.size + 8)).run (s.at_ b.tokens) =
      .ok (some b.node, s.at_ []) := NodeReader.run_document b rfl hfuel
  exact bind_ok hdocument rfl

section Fault

variable {text key value : Text} {plain : Bool} {t : Token} {ts : List Token} {fault : Fault}

theorem graphOf_eq_error_of_document {ts : List Token} {fault? : Option Fault}
    (h : tokensOf text = (ts.toArray, fault?))
    (hdocument : ∀ fuel, (NodeReader.document (fuel + 8)).run
      ⟨ts, fault?, NodeReader.standardHandles, [], []⟩ = .error fault) :
    graphOf text = .error fault := by
  unfold graphOf
  rw [h]
  exact bind_eq_error_iff.2 (.inl (hdocument (4 * ts.toArray.size)))

/-- A text that breaks off in front of its first value. -/
theorem graphOf_of_key
    (h : tokensOf text = (#[.blockMappingStart, .key, .scalar true key, .value], some fault)) :
    graphOf text = .error fault :=
  graphOf_eq_error_of_document h fun _ =>
    NodeReader.run_document_key (s := ⟨[], some fault, _, [], []⟩) rfl

/-- A text that breaks off behind its first value. -/
theorem graphOf_of_value (h : tokensOf text =
    (#[.blockMappingStart, .key, .scalar true key, .value, .scalar plain value], some fault)) :
    graphOf text = .error fault :=
  graphOf_eq_error_of_document h fun _ =>
    NodeReader.run_document_value (s := ⟨[], some fault, _, [], []⟩)
      (NodeReader.run_blockMapping_fault rfl)

/-- A text whose first value is not followed by another entry. -/
theorem graphOf_of_more {fault? : Option Fault} (h : tokensOf text =
      ((.blockMappingStart :: .key :: .scalar true key :: .value :: .scalar plain value :: t ::
        ts).toArray, fault?))
    (ht : t ∉ [Token.key, .blockEnd]) : graphOf text = .error .malformed :=
  graphOf_eq_error_of_document h fun _ =>
    NodeReader.run_document_value (s := ⟨[], fault?, _, [], []⟩)
      (NodeReader.run_blockMapping_refuses ht)

end Fault

/-! ## Checking the nodes -/

/-- The tags of scalars that have a value. -/
def scalarTags : List Text :=
  ["str", "null", "bool", "int", "float", "binary", "timestamp"].map coreTag

theorem mem_scalarTags {tag text : Text} {v : Value} (h : scalarValue tag text = .ok v) :
    tag ∈ scalarTags := by
  by_contra hnot
  simp only [scalarTags, List.map_cons, List.map_nil, List.mem_cons, List.not_mem_nil, or_false,
    not_or] at hnot
  obtain ⟨hstr, hnull, hbool, hint, hfloat, hbinary, htimestamp⟩ := hnot
  rw [scalarValue, if_neg hstr, if_neg hnull, if_neg hbool, if_neg hint, if_neg hfloat,
    if_neg hbinary, if_neg htimestamp] at h
  cases h

theorem Block.exists_of_itemNodes {items : List Block} {vs : List Value} {n : Node}
    (h : itemValues? items = some vs) (hn : n ∈ itemNodes items) :
    ∃ (b : Block) (v : Value), b.value? = some v ∧ n = b.node := by
  induction items generalizing vs with
  | nil => cases hn
  | cons item items ih =>
    simp only [itemValues?, Option.bind_eq_bind, Option.bind_eq_some_iff] at h
    obtain ⟨v, hv, vs', hvs, -⟩ := h
    rcases List.mem_cons.1 hn with rfl | hn
    · exact ⟨item, v, hv, rfl⟩
    · exact ih hvs hn

theorem Block.exists_of_entryNodes {entries : List (Text × Block)} {vs : List (Value × Value)}
    {e : Node × Node} (h : entryValues? entries = some vs) (he : e ∈ entryNodes entries) :
    (∃ key, e.1 = .scalar (coreTag "str") key) ∧
      ∃ (b : Block) (v : Value), b.value? = some v ∧ e.2 = b.node := by
  induction entries generalizing vs with
  | nil => cases he
  | cons entry entries ih =>
    obtain ⟨key, b⟩ := entry
    simp only [entryValues?, Option.bind_eq_bind, Option.bind_eq_some_iff,
      Option.ite_none_right_eq_some] at h
    obtain ⟨htag, v, hv, vs', hvs, -⟩ := h
    rcases List.mem_cons.1 he with rfl | he
    · exact ⟨⟨key, by rw [htag]⟩, b, v, hv, rfl⟩
    · exact ih hvs he

namespace Graph

open Block

variable {g : Graph} {fuel levels : ℕ} {p : Pending} {b : Block} {v : Value} {n : Node}

/-- A collection that is a block with a value. -/
inductive IsLaidOut : Node → Prop
  | sequence {items : List Block} {vs : List Value} (h : itemValues? items = some vs) :
    IsLaidOut (.sequence (coreTag "seq") (itemNodes items))
  | mapping {entries : List (Text × Block)} {vs : List (Value × Value)}
    (h : entryValues? entries = some vs) :
    IsLaidOut (.mapping (coreTag "map") (entryNodes entries))

/-- A check goes on, and all that it puts off are blocks with a value. -/
def Admits (x : Result Pending) : Prop := ∃ p, x = .ok p ∧ ∀ n ∈ p.queue, IsLaidOut n

theorem Admits.bind {x : Result Pending} {f : Pending → Result Pending} (hx : Admits x)
    (hf : ∀ p : Pending, (∀ n ∈ p.queue, IsLaidOut n) → Admits (f p)) : Admits (x >>= f) := by
  obtain ⟨p, rfl, hp⟩ := hx
  exact hf p hp

theorem admits_foldlM {α : Type} {f : Pending → α → Result Pending} {xs : List α}
    (hp : ∀ n ∈ p.queue, IsLaidOut n)
    (hf : ∀ x ∈ xs, ∀ p : Pending, (∀ n ∈ p.queue, IsLaidOut n) → Admits (f p x)) :
    Admits (xs.foldlM f p) := by
  induction xs generalizing p with
  | nil => exact ⟨p, rfl, hp⟩
  | cons x xs ih =>
    rw [List.forall_mem_cons] at hf
    rw [List.foldlM_cons]
    exact (hf.1 p hp).bind fun q hq => ih hq hf.2

theorem admits_scalar {tag text : Text} (hv : scalarValue tag text = .ok v)
    (hp : ∀ n ∈ p.queue, IsLaidOut n) : Admits (g.checkNode (fuel + 1) p (.scalar tag text)) := by
  refine ⟨p, ?_, hp⟩
  have hscalar : ∀ tag ∈ scalarTags, collectionTags.contains tag = false ∧
      (tag = coreTag "null" || tag = coreTag "str" || tag = coreTag "bool" || tag = coreTag "int"
        || tag = coreTag "float" || tag = coreTag "binary" || tag = coreTag "timestamp") = true := by
    decide
  obtain ⟨hcollection, htext⟩ := hscalar tag (mem_scalarTags hv)
  have htag : g.tagOf (.scalar tag text) = tag := rfl
  simp only [checkNode, Bool.false_eq_true, if_false, htag, hcollection, htext, Bool.not_true]
  exact bind_ok (show g.scalarText (fuel + 1) (.scalar tag text) = .ok text from rfl)
    (bind_ok hv rfl)

theorem admits_node (hv : b.value? = some v) (hp : ∀ n ∈ p.queue, IsLaidOut n) :
    Admits (g.checkNode (fuel + 1) p b.node) := by
  -- a collection is put off
  have hput {n : Node} (hn : IsLaidOut n)
      (hcheck : g.checkNode (fuel + 1) p n = .ok { p with queue := p.queue ++ [n] }) :
      Admits (g.checkNode (fuel + 1) p n) := by
    refine ⟨_, hcheck, fun m hm => ?_⟩
    rcases List.mem_append.1 hm with hm | hm
    · exact hp m hm
    · rwa [List.mem_singleton.1 hm]
  cases b with
  | scalar plain text => exact admits_scalar (toOption_eq_some_iff.1 hv) hp
  | sequence items =>
    obtain ⟨vs, hvs, -⟩ := Option.map_eq_some_iff.1 hv
    exact hput (.sequence hvs) rfl
  | mapping entries =>
    obtain ⟨vs, hvs, -⟩ := Option.map_eq_some_iff.1 hv
    exact hput (.mapping hvs) rfl

theorem map_plainKey_entryNodes {entries : List (Text × Block)}
    (htag : ∀ e ∈ entryNodes entries, g.tagOf e.1 = coreTag "str") :
    (entryNodes entries).map (fun (k, v) => (g.plainKey k, v)) = entryNodes entries := by
  refine (List.map_congr_left fun e he => ?_).trans (List.map_id _)
  show (g.plainKey e.1, e.2) = e
  rw [plainKey, if_neg (by rw [htag e he]; decide)]

/-- No entry of a block merges another mapping. -/
theorem mergedEntries_eq {entries : List (Text × Block)} {vs : List (Value × Value)}
    (h : entryValues? entries = some vs) :
    g.mergedEntries fuel [] (entryNodes entries) = .ok (entryNodes entries) := by
  cases fuel with
  | zero => rfl
  | succ fuel =>
    have htag : ∀ e ∈ entryNodes entries, g.tagOf e.1 = coreTag "str" := by
      intro e he
      obtain ⟨⟨key, hkey⟩, -⟩ := exists_of_entryNodes h he
      rw [hkey]
      rfl
    have hmerge : ∀ e ∈ entryNodes entries, decide (g.tagOf e.1 = coreTag "merge") = false := by
      intro e he
      rw [htag e he]
      decide
    have hnone : (entryNodes entries).filter (fun e => decide (g.tagOf e.1 = coreTag "merge")) =
        [] :=
      List.filter_eq_nil_iff.2 fun e he => by simp [hmerge e he]
    have hall : (entryNodes entries).filter (fun e => !decide (g.tagOf e.1 = coreTag "merge")) =
        entryNodes entries :=
      List.filter_eq_self.2 fun e he => by simp [hmerge e he]
    simp only [mergedEntries, hnone, hall, map_plainKey_entryNodes htag]
    rfl

theorem admits_inside (hn : IsLaidOut n) (hp : ∀ n ∈ p.queue, IsLaidOut n) :
    Admits (g.checkInside (fuel + 1) p n) := by
  cases hn with
  | sequence h =>
    refine admits_foldlM hp fun n hn p hp => ?_
    obtain ⟨b, v, hv, rfl⟩ := exists_of_itemNodes h hn
    exact admits_node hv hp
  | @mapping entries vs h =>
    show Admits (g.checkEntries (fuel + 1) p (entryNodes entries))
    unfold checkEntries
    rw [mergedEntries_eq h, ok_bind]
    refine admits_foldlM hp fun ⟨key, value⟩ he p hp => ?_
    obtain ⟨⟨text, rfl⟩, b, v, hv, rfl⟩ := exists_of_entryNodes h he
    refine (admits_scalar (v := .str text) rfl hp).bind fun p hp => ?_
    exact admits_node hv hp

theorem checkLevels_eq (hp : ∀ n ∈ p.queue, IsLaidOut n) :
    g.checkLevels (fuel + 1) levels p = .ok () := by
  induction levels generalizing p with
  | zero => rfl
  | succ levels ih =>
    unfold checkLevels
    split
    · rfl
    · have hlevel : Admits
          (p.queue.foldlM (g.checkInside (fuel + 1)) { p with queue := [] }) :=
        admits_foldlM (List.forall_mem_nil _) fun n hn p hp' => admits_inside (hp n hn) hp'
      obtain ⟨q, hq, hqueue⟩ := hlevel
      rw [hq]
      exact ih hqueue

/-! ## The value -/

mutual

/-- A block that has a value has it as a node. -/
theorem value_node : ∀ (b : Block) {v : Value} {fuel : ℕ}, b.value? = some v →
    b.tokens.length ≤ fuel → g.value fuel b.node = v
  | .scalar plain text, v, fuel, hv, hfuel => by
    obtain ⟨fuel, rfl⟩ := Nat.exists_eq_add_of_le' hfuel
    show ((scalarValue _ text).toOption.getD .null) = v
    rw [show (scalarValue _ text).toOption = some v from hv]
    rfl
  | .sequence items, v, fuel, hv, hfuel => by
    obtain ⟨vs, hvs, rfl⟩ := Option.map_eq_some_iff.1 hv
    rw [tokens, List.length_cons] at hfuel
    obtain ⟨fuel, rfl⟩ := Nat.exists_eq_add_of_le' (show 1 ≤ fuel by omega)
    show Value.list ((itemNodes items).map (g.value fuel)) = .list vs
    rw [value_itemNodes items hvs (by omega)]
  | .mapping entries, v, fuel, hv, hfuel => by
    obtain ⟨vs, hvs, rfl⟩ := Option.map_eq_some_iff.1 hv
    rw [tokens, List.length_cons] at hfuel
    obtain ⟨fuel, rfl⟩ := Nat.exists_eq_add_of_le' (show 1 ≤ fuel by omega)
    show Value.map (((g.mergedEntries fuel [] (entryNodes entries)).toOption.getD []).map _) =
      .map vs
    rw [mergedEntries_eq hvs]
    show Value.map ((entryNodes entries).map _) = .map vs
    rw [value_entryNodes entries hvs (by omega)]

theorem value_itemNodes : ∀ (items : List Block) {vs : List Value} {fuel : ℕ},
    itemValues? items = some vs → (itemTokens items).length ≤ fuel + 1 →
      (itemNodes items).map (g.value fuel) = vs
  | [], vs, fuel, hvs, _ => by
    cases hvs
    rfl
  | item :: items, vs, fuel, hvs, hfuel => by
    simp only [itemValues?, Option.bind_eq_bind, Option.bind_eq_some_iff] at hvs
    obtain ⟨v, hv, vs', hvs, ⟨⟩⟩ := hvs
    rw [itemTokens, List.length_cons, List.length_append] at hfuel
    rw [itemNodes, List.map_cons, value_node item hv (by omega),
      value_itemNodes items hvs (by omega)]

theorem value_entryNodes : ∀ (entries : List (Text × Block)) {vs : List (Value × Value)} {fuel : ℕ},
    entryValues? entries = some vs → (entryTokens entries).length ≤ fuel + 1 →
      (entryNodes entries).map (fun (k, v) => (g.value fuel k, g.value fuel v)) = vs
  | [], vs, fuel, hvs, _ => by
    cases hvs
    rfl
  | (key, value) :: entries, vs, fuel, hvs, hfuel => by
    simp only [entryValues?, Option.bind_eq_bind, Option.bind_eq_some_iff,
      Option.ite_none_right_eq_some] at hvs
    obtain ⟨htag, v, hv, vs', hvs, ⟨⟩⟩ := hvs
    simp only [entryTokens, List.length_cons, List.length_append] at hfuel
    rw [entryNodes, List.map_cons, value_entryNodes entries hvs (by omega)]
    dsimp only
    rw [value_node value hv (by omega), htag]
    obtain ⟨fuel, rfl⟩ := Nat.exists_eq_add_of_le' (show 1 ≤ fuel by omega)
    rfl

end

end Graph

/-- A text that a block lays out has the block's value. -/
theorem Block.parse_eq {text : Text} {b : Block} {v : Value}
    (h : tokensOf text = (b.tokens.toArray, none)) (hlength : b.tokens.length ≤ text.length + 8)
    (hv : b.value? = some v) : parse text = .ok (some ⟨v, []⟩) := by
  unfold parse
  rw [graphOf_eq h, ok_bind]
  obtain ⟨p, hp, hqueue⟩ : Graph.Admits
      (Graph.checkNode ⟨b.node, []⟩ (text.length + 8) ⟨[], []⟩ b.node) :=
    Graph.admits_node hv (List.forall_mem_nil _)
  show (Graph.checkNode ⟨b.node, []⟩ (text.length + 8) ⟨[], []⟩ b.node >>= _) = _
  rw [hp, ok_bind, Graph.checkLevels_eq hqueue, ok_bind, Graph.value_node b hv hlength]
  rfl

end HelpCenter.Yaml
