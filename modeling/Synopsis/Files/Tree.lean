import Synopsis.Text.Basic

/-!
# Trees of files

A directory holds named trees, so whatever is above a file or a directory is a directory. What a
tree shows at a location is an entry: the bytes of a file, or that a directory is there.

- `lookup_put_self`: an entry that is put into a directory is there.
- `lookup_put_of_ne`: unless it takes the place of a directory, nothing else changes.
-/

namespace Synopsis

/-- The names from the root to a place. -/
abbrev Location := List Text

/-- What a location holds. -/
inductive Entry where
  | file (bytes : ByteArray)
  | directory

/-- A file, or a directory with what it holds. -/
inductive Tree where
  | file (bytes : ByteArray)
  | directory (children : List (Text × Tree))

/-- The tree that an entry makes of what was in its place. A directory that is there is kept. -/
def Entry.tree : Entry → Option Tree → Tree
  | .file bytes, _ => .file bytes
  | .directory, some (.directory children) => .directory children
  | .directory, _ => .directory []

namespace Tree

/-- What the top of a tree shows. -/
def entry : Tree → Entry
  | file bytes => .file bytes
  | directory _ => .directory

/-- The trees in a directory. A file holds none. -/
def children : Tree → List (Text × Tree)
  | file _ => []
  | directory children => children

/-- The tree of that name in a directory. -/
def child? (name : Text) (tree : Tree) : Option Tree := tree.children.lookup name

/-- The tree at a location. -/
def at? : Location → Tree → Option Tree
  | [], tree => some tree
  | name :: names, tree => (tree.child? name).bind (at? names)

/-- The entry at a location. -/
def lookup (tree : Tree) (location : Location) : Option Entry := (tree.at? location).map entry

/-! ## Changes -/

/-- The named trees with one stored under a name, in place of the one that has the name. -/
def store (name : Text) (tree : Tree) : List (Text × Tree) → List (Text × Tree)
  | [] => [(name, tree)]
  | (other, old) :: rest =>
    if other = name then (name, tree) :: rest else (other, old) :: store name tree rest

/-- The tree with an entry at a location. Directories that are missing on the way are made. Below
a file there is no place for anything. -/
def put (entry : Entry) : Location → Option Tree → Tree
  | [], tree => entry.tree tree
  | _ :: _, some (file bytes) => file bytes
  | name :: names, none => directory [(name, put entry names none)]
  | name :: names, some (directory children) =>
    directory (store name (put entry names (children.lookup name)) children)

/-- The tree without what is at a location. -/
def erase : Location → Tree → Tree
  | [], _ => directory []
  | _ :: _, file bytes => file bytes
  | [name], directory children => directory (children.filter fun (other, _) => other ≠ name)
  | name :: next :: names, directory children =>
    directory (children.map fun (other, child) =>
      (other, if other = name then erase (next :: names) child else child))

/-! ## Listing -/

mutual

/-- What is below the top of a tree at that location, with every directory before what it
holds. -/
def listing (location : Location) : Tree → List (Location × Entry)
  | file _ => []
  | directory children => listingAll location children

/-- What some named trees in a directory at that location hold, their tops included. -/
def listingAll (location : Location) : List (Text × Tree) → List (Location × Entry)
  | [] => []
  | (name, tree) :: rest =>
    (location ++ [name], tree.entry) :: (listing (location ++ [name]) tree ++ listingAll location rest)

end

/-! ## One entry changes -/

theorem lookup_store (name other : Text) (tree : Tree) (children : List (Text × Tree)) :
    (store name tree children).lookup other =
      if other = name then some tree else children.lookup other := by
  induction children with
  | nil => by_cases h : other = name <;> simp [store, List.lookup_cons, beq_false_of_ne, h]
  | cons head rest ih =>
    obtain ⟨first, old⟩ := head
    unfold store
    grind

/-- Below what an entry makes of a place that was no directory, there is nothing. -/
theorem at?_cons_tree {entry : Entry} {old : Option Tree} (h : old.map Tree.entry ≠ some .directory)
    (name : Text) (names : Location) : (entry.tree old).at? (name :: names) = none := by
  cases entry <;> cases old <;> try rfl
  next tree => cases tree <;> simp_all [Entry.tree, at?, child?, Tree.children, Tree.entry]

theorem lookup_cons (name : Text) (names : Location) (children : List (Text × Tree)) :
    (directory children).lookup (name :: names) =
      (children.lookup name).bind (·.lookup names) := by
  simp only [lookup, at?, child?, Tree.children]
  cases children.lookup name <;> rfl

theorem lookup_put_self {location : Location} {tree : Tree}
    (h : tree.lookup location = some .directory) (name : Text) (entry : Entry) :
    (put entry (location ++ [name]) (some tree)).lookup (location ++ [name]) = some entry := by
  induction location generalizing tree with
  | nil =>
    cases tree with
    | file bytes => cases h
    | directory children =>
      simp only [List.nil_append, put, lookup_cons, lookup_store, if_true, Option.bind_some]
      cases entry <;> cases children.lookup name <;> try rfl
      next old => cases old <;> rfl
  | cons first names ih =>
    cases tree with
    | file bytes => cases h
    | directory children =>
      rw [lookup_cons] at h
      cases hc : children.lookup first with
      | none => simp [hc] at h
      | some child =>
        simp only [hc, Option.bind_some] at h
        simp only [List.cons_append, put, lookup_cons, lookup_store, if_true, Option.bind_some, hc]
        exact ih h

theorem lookup_put_of_ne {location other : Location} {name : Text} {tree : Tree}
    (h : tree.lookup location = some .directory)
    (hd : tree.lookup (location ++ [name]) ≠ some .directory) (ho : other ≠ location ++ [name])
    (entry : Entry) :
    (put entry (location ++ [name]) (some tree)).lookup other = tree.lookup other := by
  induction location generalizing tree other with
  | nil =>
    cases tree with
    | file bytes => cases h
    | directory children =>
      cases other with
      | nil => rfl
      | cons first names =>
        simp only [List.nil_append, put, lookup_cons, lookup_store]
        by_cases hf : first = name
        · subst hf
          cases names with
          | nil => exact absurd rfl ho
          | cons next names =>
            have hold : (children.lookup first).map Tree.entry ≠ some .directory := by
              rw [List.nil_append, lookup_cons] at hd
              cases hc : children.lookup first <;> simp_all [lookup, at?]
            simp only [if_true, Option.bind_some, lookup, at?_cons_tree hold, Option.map_none]
            cases hc : children.lookup first with
            | none => rfl
            | some old => cases old <;> simp_all [at?, child?, Tree.children, Tree.entry]
        · simp [hf]
  | cons first names ih =>
    cases tree with
    | file bytes => cases h
    | directory children =>
      rw [List.cons_append, lookup_cons] at hd
      rw [lookup_cons] at h
      cases hc : children.lookup first with
      | none => simp [hc] at h
      | some child =>
        simp only [hc, Option.bind_some] at h hd
        cases other with
        | nil => rfl
        | cons top rest =>
          simp only [List.cons_append, put, lookup_cons, lookup_store, hc]
          by_cases ht : top = first
          · subst ht
            simp only [if_true, Option.bind_some, hc]
            exact ih h hd (by simpa using ho)
          · simp [ht]

end Tree

end Synopsis
