import Synopsis.Text.Basic

/-!
# YAML nodes

A document is a tree of scalars, sequences and mappings, with a table of the nodes that aliases
name. A scalar remembers whether it was written plain, because only a plain scalar can stand for
nothing at all. An alias stays an alias: its node may hold the alias itself.

- `Node.marks`: what a document weighs, with every alias as light as a scalar.
-/

namespace Synopsis.Yaml

/-- A tag: the handle that names its family, and the rest. -/
structure Tag where
  handle : Text
  suffix : Text
  deriving DecidableEq

/-- Whether a scalar is written plain or in one of the other styles. -/
inductive Style where
  | plain
  | quoted
  deriving DecidableEq

/-- A node of a document. -/
inductive Node where
  | scalar (text : Text) (style : Style) (tag : Option Tag)
  | sequence (items : List Node)
  | mapping (entries : List (Node × Node))
  /-- The node with the anchor of that number. -/
  | reference (anchor : Nat)
  deriving Inhabited

/-- A document: its root, and the nodes with anchors by their numbers. -/
structure Document where
  root : Node
  anchored : List (Nat × Node)

namespace Node

/-- The plain scalar of a text. -/
def plain (text : Text) : Node := scalar text .plain none

/-- The scalar for nothing. -/
def null : Node := plain "~"

/-- Whether a node has lines of its own: a container that is not empty. -/
def isBlock : Node → Bool
  | sequence items => !items.isEmpty
  | mapping entries => !entries.isEmpty
  | _ => false

mutual

/-- The number of marks that make up a node: one for a scalar or an alias, and two for the ends of
a container. -/
def marks : Node → Nat
  | scalar .. => 1
  | reference _ => 1
  | sequence items => marksOfItems items + 2
  | mapping entries => marksOfEntries entries + 2

/-- The number of marks of some nodes. -/
def marksOfItems : List Node → Nat
  | [] => 0
  | item :: items => marks item + marksOfItems items

/-- The number of marks of the entries of a mapping. -/
def marksOfEntries : List (Node × Node) → Nat
  | [] => 0
  | (key, value) :: entries => marks key + marks value + marksOfEntries entries

end

end Node

/-- Why a text is not a YAML document. -/
inductive Error where
  | unterminatedQuote
  | badEscape
  | badDirective
  | badTag
  | badAnchor
  | badBlockHeader
  | tabIndentation
  | unexpectedCharacter
  | misplacedIndicator
  | lostKey
  | tooDeep
  | unknownAnchor
  | unexpectedToken
  | noDocument
  | severalDocuments
  deriving DecidableEq

/-- The message for the user. -/
def Error.message : Error → Text
  | unterminatedQuote => "quoted scalar is not closed"
  | badEscape => "unknown escape in quoted scalar"
  | badDirective => "malformed directive"
  | badTag => "malformed tag"
  | badAnchor => "malformed anchor or alias"
  | badBlockHeader => "malformed block scalar header"
  | tabIndentation => "tab in indentation"
  | unexpectedCharacter => "unexpected character"
  | misplacedIndicator => "indicator is not allowed in this context"
  | lostKey => "key is not followed by ':'"
  | tooDeep => "recursion limit exceeded"
  | unknownAnchor => "unknown anchor"
  | unexpectedToken => "did not find expected node content"
  | noDocument => "EOF while parsing a value"
  | severalDocuments =>
    "deserializing from YAML containing more than one document is not supported"

end Synopsis.Yaml
