import Synopsis.Yaml.Token

/-!
# Reading YAML

The tokens of a document are composed into its nodes. An anchor names the node that follows it,
and an alias stands for the node that its name was given to last, even inside that node. A value
that is left out is the plain scalar `~`.
-/

namespace Synopsis.Yaml

/-- What is known while a node is composed. -/
structure Composer where
  tokens : List Token
  /-- The anchors so far with their numbers, the latest first. -/
  anchors : List (Text × Nat) := []
  /-- The nodes of the anchors whose nodes are complete. -/
  nodes : List (Nat × Node) := []

/-- A step of composing. -/
abbrev Compose := StateT Composer (Except Error)

namespace Compose

/-- The next token. -/
def peek : Compose Token := do
  return (← get).tokens.headD .streamEnd

/-- Passes over the next token. -/
def drop : Compose Unit := modify fun composer =>
  { composer with tokens := composer.tokens.drop 1 }

/-- Passes over the next token if it is this one, and says whether it was. -/
def accept (token : Token) : Compose Bool := do
  if (← peek) = token then
    drop
    return true
  return false

/-- Fails because the next token cannot stand here. -/
def refuse {α : Type} : Compose α := throw .unexpectedToken

/-- Gives a number to the next node under a name. -/
def openAnchor (name : Text) : Compose Nat := do
  let composer ← get
  let number := composer.anchors.length
  set { composer with anchors := (name, number) :: composer.anchors }
  return number

/-- Keeps the node of an anchor. -/
def closeAnchor (anchor : Option Nat) (node : Node) : Compose Node := do
  match anchor with
  | some number => modify fun composer =>
      { composer with nodes := (number, node) :: composer.nodes }
  | none => pure ()
  return node

/-- The alias of the node that a name was given to last. -/
def aliasOf (name : Text) : Compose Node := do
  match (← get).anchors.lookup name with
  | some number => return .reference number
  | none => throw .unknownAnchor

/-- The anchor and the tag in front of a node, in either order, each at most once. -/
def properties : Compose (Option Nat × Option Tag) := do
  match ← peek with
  | .anchor name =>
    drop
    let number ← openAnchor name
    match ← peek with
    | .tag tag =>
      drop
      return (some number, some tag)
    | _ => return (some number, none)
  | .tag tag =>
    drop
    match ← peek with
    | .anchor name =>
      drop
      return (some (← openAnchor name), some tag)
    | _ => return (none, some tag)
  | _ => return (none, none)

/-- Whether the next token is one of these. -/
def isNext (tokens : List Token) : Compose Bool := do
  return tokens.contains (← peek)

mutual

/-- A node. In a flow collection it cannot be a block; `indentless` admits a sequence whose dashes
stand no deeper than the key in front of it. -/
def node (block indentless : Bool) : Nat → Compose Node
  | 0 => refuse
  | fuel + 1 => do
    if let .alias name ← peek then
      drop
      return ← aliasOf name
    let (anchor, tag) ← properties
    match ← peek with
    | .scalar text style =>
      drop
      closeAnchor anchor (.scalar text style tag)
    | .flowSequenceStart =>
      drop
      closeAnchor anchor (.sequence (← flowItems true fuel))
    | .flowMappingStart =>
      drop
      closeAnchor anchor (.mapping (← flowEntries true fuel))
    | .entry =>
      if indentless then closeAnchor anchor (.sequence (← indentlessItems fuel))
      else absent anchor tag
    | .sequenceStart =>
      if block then
        drop
        closeAnchor anchor (.sequence (← blockItems fuel))
      else absent anchor tag
    | .mappingStart =>
      if block then
        drop
        closeAnchor anchor (.mapping (← blockEntries fuel))
      else absent anchor tag
    | _ => absent anchor tag

/-- The empty scalar behind an anchor or a tag; without either, a node is missing. -/
def absent (anchor : Option Nat) (tag : Option Tag) : Compose Node :=
  if anchor.isSome || tag.isSome then closeAnchor anchor (.scalar [] .plain tag) else refuse

/-- A node, or the scalar for nothing in front of one of these tokens. -/
def nodeUnless (stops : List Token) (block indentless : Bool) : Nat → Compose Node
  | 0 => refuse
  | fuel + 1 => do
    if ← isNext stops then return .null
    node block indentless fuel

/-- The items of a block sequence, up to its end. -/
def blockItems : Nat → Compose (List Node)
  | 0 => refuse
  | fuel + 1 => do
    if ← accept .blockEnd then return []
    if ← accept .entry then
      let item ← nodeUnless [.entry, .blockEnd] true false fuel
      return item :: (← blockItems fuel)
    refuse

/-- The items of a sequence that is not indented, as long as there are dashes. -/
def indentlessItems : Nat → Compose (List Node)
  | 0 => refuse
  | fuel + 1 => do
    if ← accept .entry then
      let item ← nodeUnless [.entry, .key, .value, .blockEnd] true false fuel
      return item :: (← indentlessItems fuel)
    return []

/-- The value of a block mapping's key. -/
def blockValue : Nat → Compose Node
  | 0 => refuse
  | fuel + 1 => do
    if ← accept .value then nodeUnless [.key, .value, .blockEnd] true true fuel
    else return .null

/-- The entries of a block mapping, up to its end. -/
def blockEntries : Nat → Compose (List (Node × Node))
  | 0 => refuse
  | fuel + 1 => do
    if ← accept .blockEnd then return []
    if ← accept .key then
      let key ← nodeUnless [.key, .value, .blockEnd] true true fuel
      let value ← blockValue fuel
      return (key, value) :: (← blockEntries fuel)
    if ← isNext [.value] then
      let value ← blockValue fuel
      return (.null, value) :: (← blockEntries fuel)
    refuse

/-- The items of a flow sequence, up to its end. A key makes an item a mapping of one entry. -/
def flowItems (first : Bool) : Nat → Compose (List Node)
  | 0 => refuse
  | fuel + 1 => do
    if ← accept .flowSequenceEnd then return []
    if !first then
      unless ← accept .flowEntry do refuse
    if ← accept .flowSequenceEnd then return []
    if ← accept .key then
      let key ← pairKey fuel
      let value ← pairValue fuel
      return .mapping [(key, value)] :: (← flowItems false fuel)
    let item ← node false false fuel
    return item :: (← flowItems false fuel)

/-- The key of a pair in a flow sequence. A token that shows that the key is missing is passed
over. -/
def pairKey : Nat → Compose Node
  | 0 => refuse
  | fuel + 1 => do
    if ← isNext [.value, .flowEntry, .flowSequenceEnd] then
      drop
      return .null
    node false false fuel

/-- The value of a pair in a flow sequence. -/
def pairValue : Nat → Compose Node
  | 0 => refuse
  | fuel + 1 => do
    if ← accept .value then nodeUnless [.flowEntry, .flowSequenceEnd] false false fuel
    else return .null

/-- The value of a flow mapping's key. -/
def flowValue : Nat → Compose Node
  | 0 => refuse
  | fuel + 1 => do
    if ← accept .value then nodeUnless [.flowEntry, .flowMappingEnd] false false fuel
    else return .null

/-- The entries of a flow mapping, up to its end. A key without its mark has no value. -/
def flowEntries (first : Bool) : Nat → Compose (List (Node × Node))
  | 0 => refuse
  | fuel + 1 => do
    if ← accept .flowMappingEnd then return []
    if !first then
      unless ← accept .flowEntry do refuse
    if ← accept .flowMappingEnd then return []
    if ← accept .key then
      let key ← nodeUnless [.value, .flowEntry, .flowMappingEnd] false false fuel
      let value ← flowValue fuel
      return (key, value) :: (← flowEntries false fuel)
    if ← isNext [.value] then
      let value ← flowValue fuel
      return (.null, value) :: (← flowEntries false fuel)
    let key ← node false false fuel
    return (key, .null) :: (← flowEntries false fuel)

end

/-- Passes over tokens like this one. -/
def dropAll (token : Token) : Compose Unit := modify fun composer =>
  { composer with tokens := composer.tokens.dropWhile (· = token) }

/-- The only document of a stream. Directives and the mark at its start are passed over. -/
def document (fuel : Nat) : Compose Node := do
  if ← isNext [.streamEnd] then throw .noDocument
  let root ←
    if ← isNext [.directive, .documentStart] then do
      dropAll .directive
      unless ← accept .documentStart do refuse
      nodeUnless [.directive, .documentStart, .documentEnd, .streamEnd] true false fuel
    else node true false fuel
  dropAll .documentEnd
  if ← isNext [.streamEnd] then return root
  if ← isNext [.directive, .documentStart] then throw .severalDocuments
  refuse

end Compose

/-- The document that a text holds. -/
def read (text : Text) : Except Error Document := do
  let tokens ← tokens text
  let (root, composer) ← Compose.document (3 * tokens.length + 3) { tokens := tokens }
  return { root := root, anchored := composer.nodes }

end Synopsis.Yaml
