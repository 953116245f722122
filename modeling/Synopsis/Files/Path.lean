import Synopsis.Text.Basic

/-!
# Paths

A path is kept as it is written: joining never normalises. Its pieces are what stands between
the slashes; empty pieces and dots name no step, apart from a dot that a relative path starts
with, which is a step of its own.

- `join_of_isAbsolute`: an absolute path replaces what it is joined to.
-/

namespace Synopsis

/-- A path, as it is written. -/
structure Path where
  text : Text
  deriving DecidableEq

namespace Path

/-- The path of a text. -/
def of (text : Text) : Path := ⟨text⟩

/-- The path starts at the root of the file system. -/
def isAbsolute (path : Path) : Bool := path.text.head? == some '/'

/-- The path `other` as seen from `path`: behind it, with a slash between them unless one is
there or nothing is in front of it. An absolute path stays as it is. -/
def join (path other : Path) : Path :=
  if other.isAbsolute then other
  else if path.text.isEmpty || path.text.getLast? == some '/' then ⟨path.text ++ other.text⟩
  else ⟨path.text ++ '/' :: other.text⟩

theorem join_of_isAbsolute {other : Path} (h : other.isAbsolute = true) (path : Path) :
    path.join other = other := by
  simp [join, h]

/-! ## Pieces and steps -/

/-- A piece that names a step: not empty, and not a dot. -/
def isStep (piece : Text) : Bool := !piece.isEmpty && piece != ['.']

/-- Where a path starts. -/
inductive Start where
  | root
  | here
  | plain
  deriving DecidableEq

/-- The text of a start. -/
def Start.text : Start → Text
  | root => ['/']
  | here => ['.']
  | plain => []

/-- The start of a path, and the pieces after it. -/
def parts (path : Path) : Start × List Text :=
  match path.text.splitOn '/' with
  | [] => (.plain, [])
  | first :: rest =>
    if path.isAbsolute then (.root, rest)
    else if first = ['.'] then (.here, rest)
    else (.plain, first :: rest)

/-- The pieces without those at the end that name no step. -/
def trimPieces (pieces : List Text) : List Text :=
  (pieces.reverse.dropWhile (!isStep ·)).reverse

/-- The path of a start and pieces. -/
def ofParts (start : Start) (pieces : List Text) : Path :=
  match start with
  | .here => ⟨['/'].intercalate (['.'] :: pieces)⟩
  | start => ⟨start.text ++ ['/'].intercalate pieces⟩

/-- The path without its last step, unless it has none. -/
def parent? (path : Path) : Option Path :=
  let (start, pieces) := path.parts
  match trimPieces pieces with
  | [] => if start = .here then some ⟨[]⟩ else none
  | pieces => some (ofParts start (trimPieces pieces.dropLast))

/-- The pieces that are left after some steps. -/
def dropSteps : List Text → List Text → Option (List Text)
  | [], pieces => some pieces
  | _ :: _, [] => none
  | step :: steps, piece :: pieces =>
    if !isStep piece then dropSteps (step :: steps) pieces
    else if piece = step then dropSteps steps pieces
    else none

/-- The path as seen from `base`, or the path itself if it does not start with the steps of
`base`. -/
def relativeTo (base path : Path) : Path :=
  let (start, pieces) := path.parts
  let (baseStart, basePieces) := base.parts
  let basePieces := basePieces.filter isStep
  if baseStart = .plain ∧ basePieces.isEmpty then ofParts start (trimPieces pieces)
  else if start = baseStart then
    match dropSteps basePieces pieces with
    | some rest => ofParts .plain (trimPieces (rest.dropWhile (!isStep ·)))
    | none => path
  else path

end Path

end Synopsis
