import Synopsis.Files.Error
import Synopsis.Files.Path
import Synopsis.Files.Tree

/-!
# Walking

A walk goes through a tree from name to name. It keeps what it went through, so each step costs
no more than a look into one directory, and a step back costs nothing.

- `content?_ofLocation`: the place of a location shows what the tree shows there.
- `step_ofLocation`: a step leads from the place of a location to that of the next location.
-/

namespace Synopsis

/-- The location one step away. Two dots lead up, and what names no step leads nowhere. -/
def Location.step (location : Location) (name : Text) : Location :=
  if name = ['.', '.'] then location.dropLast
  else if Path.isStep name then location ++ [name]
  else location

/-- Where a walk stands: the tree there, if something is there, and the way from the root. The
way is a list of names, the latest first, each with the tree in which it was looked up. -/
structure Place where
  tree? : Option Tree
  way : List (Text × Option Tree)

namespace Place

/-- The place at the root of a tree. -/
def root (tree : Tree) : Place := ⟨some tree, []⟩

/-- The names on the way. -/
def location (place : Place) : Location := (place.way.map Prod.fst).reverse

/-- What the place shows. -/
def content? (place : Place) : Option Entry := place.tree?.map Tree.entry

/-- The place of a name at this place. -/
def enter (place : Place) (name : Text) : Place :=
  ⟨place.tree?.bind (Tree.child? name), (name, place.tree?) :: place.way⟩

/-- The place before the latest step. There is none before the root. -/
def leave (place : Place) : Place :=
  match place.way with
  | [] => place
  | (_, above) :: way => ⟨above, way⟩

/-- The place one step away. -/
def step (place : Place) (name : Text) : Place :=
  if name = ['.', '.'] then place.leave
  else if Path.isStep name then place.enter name
  else place

/-- The place of a location. -/
def ofLocation (tree : Tree) (location : Location) : Place := location.foldl enter (root tree)

/-- The greatest length of a name in bytes. -/
def longestName : Nat := 255

/-- The place that the names lead to. Every place that is left on the way must be a directory;
the last place may be missing. -/
def walk (place : Place) : List Text → Except FileError Place
  | [] => .ok place
  | name :: names =>
    match place.content? with
    | some .directory =>
      if longestName < Text.byteLength name then .error .nameTooLong
      else walk (place.step name) names
    | some (.file _) => .error .notDirectory
    | none => .error .notFound

/-! ## Places and locations -/

theorem ofLocation_append (tree : Tree) (location : Location) (name : Text) :
    ofLocation tree (location ++ [name]) = (ofLocation tree location).enter name := by
  simp [ofLocation]

theorem leave_ofLocation (tree : Tree) (location : Location) :
    (ofLocation tree location).leave = ofLocation tree location.dropLast := by
  rcases List.eq_nil_or_concat location with rfl | ⟨location, name, rfl⟩
  · rfl
  · simp only [List.concat_eq_append, List.dropLast_concat, ofLocation_append]
    rfl

theorem step_ofLocation (tree : Tree) (location : Location) (name : Text) :
    (ofLocation tree location).step name = ofLocation tree (location.step name) := by
  unfold step Location.step
  split
  · exact leave_ofLocation tree location
  · split
    · exact (ofLocation_append tree location name).symm
    · rfl

theorem location_foldl_enter (location : Location) (place : Place) :
    (location.foldl enter place).location = place.location ++ location := by
  induction location generalizing place with
  | nil => simp
  | cons name names ih =>
    rw [List.foldl_cons, ih]
    simp [enter, Place.location]

theorem location_ofLocation (tree : Tree) (location : Location) :
    (ofLocation tree location).location = location := by
  rw [ofLocation, location_foldl_enter]
  rfl

theorem tree?_foldl_enter (location : Location) (place : Place) :
    (location.foldl enter place).tree? = place.tree?.bind (Tree.at? location) := by
  induction location generalizing place with
  | nil => cases h : place.tree? <;> simp [h, Tree.at?]
  | cons name names ih =>
    simp only [List.foldl_cons, ih, enter]
    cases place.tree? <;> rfl

theorem content?_ofLocation (tree : Tree) (location : Location) :
    (ofLocation tree location).content? = tree.lookup location := by
  simp [content?, ofLocation, tree?_foldl_enter, root, Tree.lookup]

end Place

end Synopsis
