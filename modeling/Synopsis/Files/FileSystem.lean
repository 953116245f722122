import Synopsis.Files.Place

/-!
# File systems

A file system is a directory tree and a working directory. A path is resolved to a location by
walking through directories, and every operation answers with one of a few causes when it fails.
Only making directories may fail halfway.

- `lookup_put_self`, `lookup_put_of_ne`: storing an entry in a directory changes one location.
- `walk_cons`: what a walk does with the first of its names.
- `decode?_encode`, `encode_of_decode?`: exactly the bytes of a text decode to it.
-/

namespace Synopsis

/-- The trees at the root, and the directory from which relative paths are resolved. -/
structure FileSystem where
  trees : List (Text × Tree) := []
  working : Location := []

namespace FileSystem

/-! ## Texts as bytes -/

/-- The bytes of a text. -/
def encode (text : Text) : ByteArray := (String.ofList text).toUTF8

/-- The text of some bytes, if they are valid. -/
def decode? (bytes : ByteArray) : Option Text := (String.fromUTF8? bytes).map String.toList

/-! ## Locations -/

/-- The whole tree. Its top is always a directory. -/
def root (files : FileSystem) : Tree := .directory files.trees

/-- The entry at a location. -/
def lookup (files : FileSystem) (location : Location) : Option Entry := files.root.lookup location

/-- The file system with an entry stored at a location. The root stays what it is. -/
def put (files : FileSystem) (location : Location) (entry : Entry) : FileSystem :=
  if location = [] then files
  else { files with trees := (Tree.put entry location (some files.root)).children }

/-- The file system without a location and all below it. -/
def erase (files : FileSystem) (location : Location) : FileSystem :=
  { files with trees := (files.root.erase location).children }

theorem root_put (files : FileSystem) {location : Location} (h : location ≠ []) (entry : Entry) :
    (files.put location entry).root = Tree.put entry location (some files.root) := by
  cases location with
  | nil => exact absurd rfl h
  | cons name names => simp [root, put, Tree.put, Tree.children]

theorem lookup_put_self {files : FileSystem} {location : Location}
    (h : files.lookup location = some .directory) (name : Text) (entry : Entry) :
    (files.put (location ++ [name]) entry).lookup (location ++ [name]) = some entry := by
  rw [lookup, root_put _ (by simp)]
  exact Tree.lookup_put_self h name entry

theorem lookup_put_of_ne {files : FileSystem} {location other : Location} {name : Text}
    (h : files.lookup location = some .directory)
    (hd : files.lookup (location ++ [name]) ≠ some .directory) (ho : other ≠ location ++ [name])
    (entry : Entry) :
    (files.put (location ++ [name]) entry).lookup other = files.lookup other := by
  rw [lookup, root_put _ (by simp)]
  exact Tree.lookup_put_of_ne h hd ho entry

/-! ## Walking -/

/-- The location that the names lead to. -/
def walk (files : FileSystem) (location : Location) (names : List Text) :
    Except FileError Location :=
  ((Place.ofLocation files.root location).walk names).map Place.location

theorem walk_nil (files : FileSystem) (location : Location) :
    files.walk location [] = .ok location :=
  congrArg Except.ok (Place.location_ofLocation files.root location)

theorem walk_cons (files : FileSystem) (location : Location) (name : Text) (names : List Text) :
    files.walk location (name :: names) =
      match files.lookup location with
      | some .directory =>
        if Place.longestName < Text.byteLength name then .error .nameTooLong
        else files.walk (location.step name) names
      | some (.file _) => .error .notDirectory
      | none => .error .notFound := by
  simp only [walk, Place.walk, Place.content?_ofLocation, Place.step_ofLocation, lookup]
  cases files.root.lookup location with
  | none => rfl
  | some entry =>
    cases entry with
    | file bytes => rfl
    | directory => exact apply_ite (Except.map Place.location) _ _ _

/-- The greatest length of a path in bytes. -/
def longestPath : Nat := 4095

/-- Where a path starts, and its pieces. A path of no name, or of no possible name, leads nowhere,
whatever is there. -/
def begin (files : FileSystem) (path : Path) : Except FileError (Location × List Text) :=
  if path.text.contains '\x00' then .error .nulInName
  else if path.text.isEmpty then .error .notFound
  else if longestPath < Text.byteLength path.text then .error .nameTooLong
  else if path.isAbsolute then .ok ([], (path.text.splitOn '/').drop 1)
  else .ok (files.working, path.text.splitOn '/')

/-- The location of a path. -/
def resolve (files : FileSystem) (path : Path) : Except FileError Location := do
  let (location, pieces) ← files.begin path
  files.walk location pieces

/-- The entry that a path leads to. -/
def find (files : FileSystem) (path : Path) : Except FileError Entry := do
  let location ← files.resolve path
  match files.lookup location with
  | some entry => .ok entry
  | none => .error .notFound

/-- The path leads somewhere. -/
def has (files : FileSystem) (path : Path) : Bool := (files.find path).isOk

/-- The path leads to a file. -/
def isFile (files : FileSystem) (path : Path) : Bool :=
  match files.find path with
  | .ok (.file _) => true
  | _ => false

/-- The path leads to a directory. -/
def isDirectory (files : FileSystem) (path : Path) : Bool :=
  match files.find path with
  | .ok .directory => true
  | _ => false

/-! ## Reading and writing -/

/-- The bytes of a file. -/
def readBytes (files : FileSystem) (path : Path) : Except FileError ByteArray := do
  match ← files.find path with
  | .file bytes => .ok bytes
  | .directory => .error .isDirectory

/-- The text of a file. -/
def readText (files : FileSystem) (path : Path) : Except FileError Text := do
  match decode? (← files.readBytes path) with
  | some text => .ok text
  | none => .error .invalidText

/-- The pieces without the empty ones at the end. -/
def withoutSlashes (pieces : List Text) : List Text :=
  (pieces.reverse.dropWhile List.isEmpty).reverse

/-- The location that a file written under a path gets. Its directory must be there. A path that
ends in a slash names no file, whatever its last name. -/
def target (files : FileSystem) (path : Path) : Except FileError Location := do
  let (location, pieces) ← files.begin path
  if pieces.getLast? = some [] then
    let _ ← files.walk location ((withoutSlashes pieces).dropLast ++ [[]])
    .error .isDirectory
  else
    let location ← files.walk location pieces
    match files.lookup location with
    | some .directory => .error .isDirectory
    | _ => .ok location

/-- Stores bytes as a file, in place of the file that is there. -/
def writeBytes (files : FileSystem) (path : Path) (bytes : ByteArray) :
    Except FileError FileSystem := do
  let location ← files.target path
  .ok (files.put location (.file bytes))

/-- Stores a text as a file, in place of the file that is there. -/
def writeText (files : FileSystem) (path : Path) (text : Text) : Except FileError FileSystem :=
  files.writeBytes path (encode text)

/-! ## Directories -/

/-- The place for a new directory. Slashes at the end of the path do not count. -/
def newPlace (files : FileSystem) (path : Path) : Except FileError Location := do
  let (location, pieces) ← files.begin path
  files.walk location (withoutSlashes pieces)

/-- Makes a directory. Its parent must be there, and its place must be free. -/
def makeDirectory (files : FileSystem) (path : Path) : Except FileError FileSystem := do
  let location ← files.newPlace path
  match files.lookup location with
  | some _ => .error .alreadyExists
  | none => .ok (files.put location .directory)

/-- Makes a directory unless it is there. -/
def ensureDirectory (files : FileSystem) (path : Path) : FileSystem × Except FileError Unit :=
  match files.makeDirectory path with
  | .ok files => (files, .ok ())
  | .error error => (files, if files.isDirectory path then .ok () else .error error)

/-- Makes a directory and those above it that are missing. `fuel` bounds their number. -/
def makeDirectoriesFrom (files : FileSystem) : Nat → Path → FileSystem × Except FileError Unit
  | 0, _ => (files, .error .notFound)
  | fuel + 1, path =>
    if path.text.isEmpty then (files, .ok ())
    else
      match files.makeDirectory path, path.parent? with
      | .error .notFound, some parent =>
        match files.makeDirectoriesFrom fuel parent with
        | (files, .ok ()) => files.ensureDirectory path
        | (files, .error error) => (files, .error error)
      | _, _ => files.ensureDirectory path

/-- Makes a directory and those above it that are missing. A directory that is there is kept, and
those that were made before an error stay. -/
def makeDirectories (files : FileSystem) (path : Path) : FileSystem × Except FileError Unit :=
  files.makeDirectoriesFrom (path.text.length + 1) path

/-- Removes a file, or a directory with all in it. -/
def remove (files : FileSystem) (path : Path) : Except FileError FileSystem := do
  let location ← files.resolve path
  match files.lookup location with
  | some _ => .ok (files.erase location)
  | none => .error .notFound

/-- The paths below the working directory in increasing order, those of directories with a slash
at their end. -/
def list (files : FileSystem) : List Text :=
  let below := match files.root.at? files.working with
    | some tree => tree.listing []
    | none => []
  Text.sorted (below.map fun (location, entry) =>
    let text := ['/'].intercalate location
    match entry with
    | .directory => text ++ ['/']
    | .file _ => text)

/-! ## What was written is read -/

theorem decode?_encode (text : Text) : decode? (encode text) = some text := by
  have h : (String.ofList text).toUTF8.IsValidUTF8 := (String.ofList text).isValidUTF8
  have h' : String.fromUTF8? (String.ofList text).toUTF8 = some (String.ofList text) := by
    rw [String.fromUTF8?, dif_pos h]
    rfl
  simp only [decode?, encode, h', Option.map_some, String.toList_ofList]

theorem encode_of_decode? {bytes : ByteArray} {text : Text} (h : decode? bytes = some text) :
    encode text = bytes := by
  simp only [decode?, Option.map_eq_some_iff] at h
  obtain ⟨string, h, rfl⟩ := h
  simp only [encode, String.ofList_toList]
  unfold String.fromUTF8? at h
  split at h
  · cases h
    rfl
  · cases h

end FileSystem

end Synopsis
