import Synopsis.Proofs.Yaml.Lines
import Synopsis.Yaml.Reader

/-!
# Printed documents are read back

The tokens of a node are composed into the node again, whatever follows them. The recursion is
bounded by three times their number, and that is enough since a token is passed over in every third
call at the latest.

- `Composed`, `composed_of_printable`: a node is composed from its tokens.
- `read_print`: a printed container is read back.
-/

namespace Synopsis.Yaml

namespace Compose

variable {fuel : Nat} {anchors : List (Text × Nat)} {nodes : List (Nat × Node)} {token : Token}
  {rest : List Token} {indentless : Bool} {node : Node}

theorem nodeUnless_cons {stops : List Token} (h : token ∉ stops) :
    nodeUnless stops true indentless (fuel + 1) ⟨token :: rest, anchors, nodes⟩ =
      Compose.node true indentless fuel ⟨token :: rest, anchors, nodes⟩ := by
  rw [nodeUnless]
  show (if stops.contains token = true then _ else _ : Compose Node) _ = _
  rw [if_neg (by simp [h])]

theorem node_scalar (text : Text) (style : Style) :
    Compose.node true indentless (fuel + 1) ⟨.scalar text style :: rest, anchors, nodes⟩ =
      .ok (.scalar text style none, ⟨rest, anchors, nodes⟩) := by
  rw [Compose.node]
  rfl

theorem node_sequenceStart :
    Compose.node true indentless (fuel + 1) ⟨.sequenceStart :: rest, anchors, nodes⟩ =
      (do return .sequence (← blockItems fuel) : Compose Node) ⟨rest, anchors, nodes⟩ := by
  rw [Compose.node]
  rfl

theorem node_mappingStart :
    Compose.node true indentless (fuel + 1) ⟨.mappingStart :: rest, anchors, nodes⟩ =
      (do return .mapping (← blockEntries fuel) : Compose Node) ⟨rest, anchors, nodes⟩ := by
  rw [Compose.node]
  rfl

theorem blockItems_end :
    blockItems (fuel + 1) ⟨.blockEnd :: rest, anchors, nodes⟩ =
      .ok ([], ⟨rest, anchors, nodes⟩) := by
  rw [blockItems]
  rfl

theorem blockItems_entry :
    blockItems (fuel + 1) ⟨.entry :: rest, anchors, nodes⟩ = (do
      let item ← nodeUnless [.entry, .blockEnd] true false fuel
      return item :: (← blockItems fuel) : Compose (List Node)) ⟨rest, anchors, nodes⟩ := by
  rw [blockItems]
  rfl

theorem blockEntries_end :
    blockEntries (fuel + 1) ⟨.blockEnd :: rest, anchors, nodes⟩ =
      .ok ([], ⟨rest, anchors, nodes⟩) := by
  rw [blockEntries]
  rfl

theorem blockEntries_key :
    blockEntries (fuel + 1) ⟨.key :: rest, anchors, nodes⟩ = (do
      let key ← nodeUnless [.key, .value, .blockEnd] true true fuel
      let value ← blockValue fuel
      return (key, value) :: (← blockEntries fuel) : Compose (List (Node × Node)))
        ⟨rest, anchors, nodes⟩ := by
  rw [blockEntries]
  rfl

theorem blockValue_value :
    blockValue (fuel + 1) ⟨.value :: rest, anchors, nodes⟩ =
      nodeUnless [.key, .value, .blockEnd] true true fuel ⟨rest, anchors, nodes⟩ := by
  rw [blockValue]
  rfl

/-- The node is composed from its tokens, of which the first cannot be taken for what ends a node
that is left out. -/
structure Composed (node : Node) : Prop where
  first : ∃ token others, node.tokens = token :: others ∧
    token ∉ [.entry, .key, .value, .blockEnd, .directive, .documentStart, .documentEnd, .streamEnd]
  compose : ∀ {indentless : Bool} {fuel : Nat} {rest : List Token} {anchors : List (Text × Nat)}
    {nodes : List (Nat × Node)}, 3 * node.tokens.length ≤ fuel →
    Compose.node true indentless fuel ⟨node.tokens ++ rest, anchors, nodes⟩ =
      .ok (node, ⟨rest, anchors, nodes⟩)

/-- A node that cannot be left out. -/
theorem Composed.unless (h : Composed node) {stops : List Token}
    (hs : stops ⊆ [.entry, .key, .value, .blockEnd, .directive, .documentStart, .documentEnd,
      .streamEnd]) (hf : 3 * node.tokens.length < fuel) :
    nodeUnless stops true indentless fuel ⟨node.tokens ++ rest, anchors, nodes⟩ =
      .ok (node, ⟨rest, anchors, nodes⟩) := by
  obtain ⟨token, others, ht, hstop⟩ := h.first
  obtain ⟨fuel, rfl⟩ := Nat.exists_eq_add_one.2 (Nat.zero_lt_of_lt hf)
  have hcompose := @Composed.compose _ h indentless fuel rest anchors nodes
    (Nat.le_of_lt_succ hf)
  rw [ht, List.cons_append] at hcompose ⊢
  rw [nodeUnless_cons fun hm => hstop (hs hm), hcompose]

theorem composed_scalar (text : Text) (style : Style) : Composed (.scalar text style none) where
  first := ⟨.scalar text style, [], by rw [Node.tokens], by simp⟩
  compose {indentless fuel rest anchors nodes} hf := by
    rw [Node.tokens] at hf
    obtain ⟨fuel, rfl⟩ := Nat.exists_eq_add_one.2 (Nat.zero_lt_of_lt hf)
    rw [Node.tokens]
    exact node_scalar text style

theorem composed_emptySequence : Composed (.sequence []) where
  first := ⟨_, _, by rw [Node.tokens], by simp⟩
  compose {indentless fuel rest anchors nodes} hf := by
    rw [Node.tokens] at hf
    obtain ⟨fuel, rfl⟩ := Nat.exists_eq_add_of_le' (Nat.le_trans (by decide : 2 ≤ 3 * 2) hf)
    rw [Node.tokens, Compose.node, flowItems]
    rfl

theorem composed_emptyMapping : Composed (.mapping []) where
  first := ⟨_, _, by rw [Node.tokens], by simp⟩
  compose {indentless fuel rest anchors nodes} hf := by
    rw [Node.tokens] at hf
    obtain ⟨fuel, rfl⟩ := Nat.exists_eq_add_of_le' (Nat.le_trans (by decide : 2 ≤ 3 * 2) hf)
    rw [Node.tokens, Compose.node, flowEntries]
    rfl

theorem blockItems_tokens {items : List Node} (h : ∀ item ∈ items, Composed item)
    (hf : 3 * (Node.tokensOfItems items).length < fuel) :
    blockItems fuel ⟨Node.tokensOfItems items ++ .blockEnd :: rest, anchors, nodes⟩ =
      .ok (items, ⟨rest, anchors, nodes⟩) := by
  obtain ⟨fuel, rfl⟩ := Nat.exists_eq_add_one.2 (Nat.zero_lt_of_lt hf)
  induction items generalizing fuel with
  | nil => rw [Node.tokensOfItems, List.nil_append, blockItems_end]
  | cons item items ih =>
    rw [Node.tokensOfItems, List.length_append, List.length_cons] at hf
    rw [Node.tokensOfItems, List.append_assoc, List.cons_append, blockItems_entry]
    obtain ⟨fuel, rfl⟩ := Nat.exists_eq_add_one.2 (by omega : 0 < fuel)
    have hitem := @Composed.unless (fuel + 1) anchors nodes
      (Node.tokensOfItems items ++ .blockEnd :: rest) false item (h item List.mem_cons_self)
      [.entry, .blockEnd] (by simp) (by omega)
    show (nodeUnless _ true false (fuel + 1) _ >>= _) = _
    rw [hitem]
    show (blockItems (fuel + 1) _ >>= _) = _
    rw [ih (fun other ho => h other (List.mem_cons_of_mem _ ho)) fuel (by omega)]
    rfl

theorem blockEntries_tokens {entries : List (Node × Node)}
    (hk : ∀ entry ∈ entries, Composed entry.1) (hv : ∀ entry ∈ entries, Composed entry.2)
    (hf : 3 * (Node.tokensOfEntries entries).length < fuel) :
    blockEntries fuel ⟨Node.tokensOfEntries entries ++ .blockEnd :: rest, anchors, nodes⟩ =
      .ok (entries, ⟨rest, anchors, nodes⟩) := by
  obtain ⟨fuel, rfl⟩ := Nat.exists_eq_add_one.2 (Nat.zero_lt_of_lt hf)
  induction entries generalizing fuel with
  | nil => rw [Node.tokensOfEntries, List.nil_append, blockEntries_end]
  | cons entry entries ih =>
    obtain ⟨key, value⟩ := entry
    rw [Node.tokensOfEntries, List.length_append, List.length_append, List.length_cons,
      List.length_cons] at hf
    rw [Node.tokensOfEntries, List.append_assoc, List.append_assoc, List.cons_append,
      List.cons_append, blockEntries_key]
    obtain ⟨fuel, rfl⟩ := Nat.exists_eq_add_of_le' (by omega : 2 ≤ fuel)
    have hmore := ih (fun other ho => hk other (List.mem_cons_of_mem _ ho))
      (fun other ho => hv other (List.mem_cons_of_mem _ ho)) (fuel + 1) (by omega)
    have hkey := @Composed.unless (fuel + 2) anchors nodes
      (.value :: (value.tokens ++ (Node.tokensOfEntries entries ++ .blockEnd :: rest))) true key
      (hk _ List.mem_cons_self) [.key, .value, .blockEnd] (by simp) (by omega)
    have hvalue := @Composed.unless (fuel + 1) anchors nodes
      (Node.tokensOfEntries entries ++ .blockEnd :: rest) true value
      (hv _ List.mem_cons_self) [.key, .value, .blockEnd] (by simp) (by omega)
    show (nodeUnless _ true true (fuel + 2) _ >>= _) = _
    rw [hkey]
    show (blockValue (fuel + 2) _ >>= _) = _
    rw [blockValue_value, hvalue]
    show (blockEntries (fuel + 2) _ >>= _) = _
    rw [hmore]
    rfl

theorem composed_sequence {item : Node} {items : List Node}
    (h : ∀ other ∈ item :: items, Composed other) : Composed (.sequence (item :: items)) where
  first := ⟨_, _, by rw [Node.tokens]; rfl, by simp⟩
  compose {indentless fuel rest anchors nodes} hf := by
    rw [Node.tokens, List.length_append, List.length_cons] at hf
    obtain ⟨fuel, rfl⟩ := Nat.exists_eq_add_one.2 (by omega : 0 < fuel)
    rw [Node.tokens, List.append_assoc, List.cons_append, node_sequenceStart]
    show (blockItems fuel _ >>= _) = _
    rw [List.singleton_append, blockItems_tokens h (by omega)]
    rfl

theorem composed_mapping {entry : Node × Node} {entries : List (Node × Node)}
    (hk : ∀ other ∈ entry :: entries, Composed other.1)
    (hv : ∀ other ∈ entry :: entries, Composed other.2) :
    Composed (.mapping (entry :: entries)) where
  first := ⟨_, _, by rw [Node.tokens]; rfl, by simp⟩
  compose {indentless fuel rest anchors nodes} hf := by
    rw [Node.tokens, List.length_append, List.length_cons] at hf
    obtain ⟨fuel, rfl⟩ := Nat.exists_eq_add_one.2 (by omega : 0 < fuel)
    rw [Node.tokens, List.append_assoc, List.cons_append, node_mappingStart]
    show (blockEntries fuel _ >>= _) = _
    rw [List.singleton_append, blockEntries_tokens hk hv (by omega)]
    rfl

/-- A node that can be printed is composed from its tokens. -/
theorem composed_of_printable (h : Printable node) : Composed node := by
  induction h with
  | scalar => exact composed_scalar _ _
  | @sequence items _ ih =>
    cases items with
    | nil => exact composed_emptySequence
    | cons => exact composed_sequence ih
  | @mapping entries hk _ ih =>
    cases entries with
    | nil => exact composed_emptyMapping
    | cons =>
      refine composed_mapping (fun entry he => ?_) ih
      obtain ⟨text, style, ht, -⟩ := hk entry he
      exact ht ▸ composed_scalar text style

/-- The only document of its tokens. -/
theorem document_tokens (h : Composed node) (hf : 3 * node.tokens.length < fuel) :
    document fuel ⟨.documentStart :: node.tokens ++ [.streamEnd], anchors, nodes⟩ =
      .ok (node, ⟨[.streamEnd], anchors, nodes⟩) := by
  have hroot := @Composed.unless fuel anchors nodes [.streamEnd] false node h
    [.directive, .documentStart, .documentEnd, .streamEnd] (by simp) hf
  rw [document]
  show (nodeUnless _ true false fuel ⟨node.tokens ++ [.streamEnd], anchors, nodes⟩ >>= _) = _
  rw [hroot]
  rfl

end Compose

/-- A printed container is read back. -/
theorem read_print {node : Node} (h : Printable node) (hc : node.isContainer = true) :
    read (print node) = .ok ⟨node, []⟩ := by
  rw [read, tokens_print h hc]
  show (Compose.document _ _ >>= _) = _
  rw [Compose.document_tokens (Compose.composed_of_printable h)]
  · rfl
  · simp
    omega

end Synopsis.Yaml
