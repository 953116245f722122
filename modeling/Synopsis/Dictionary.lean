import Synopsis.Text.Basic

/-!
# Dictionaries

A dictionary maps texts to values. Its entries stand in strictly increasing order of the keys, so
two dictionaries that map alike are equal and every listing of one is determined.

- `lookup_put`: putting a value at a key changes what that key maps to, and nothing else.
-/

namespace Synopsis

/-- Keys with their values, in strictly increasing order of the keys. -/
structure Dictionary (α : Type) where
  entries : List (Text × α)
  increasing : (entries.map Prod.fst).Pairwise (· < ·)

namespace Dictionary

variable {α : Type}

instance [DecidableEq α] : DecidableEq (Dictionary α) := fun a b =>
  decidable_of_iff (a.entries = b.entries) (by cases a; cases b; simp)

/-- The dictionary without entries. -/
def empty : Dictionary α := ⟨[], List.Pairwise.nil⟩

instance : Inhabited (Dictionary α) := ⟨empty⟩

/-- The keys in increasing order. -/
def keys (dictionary : Dictionary α) : List Text := dictionary.entries.map Prod.fst

/-- The value of a key, if it has one. -/
def lookup (dictionary : Dictionary α) (key : Text) : Option α := dictionary.entries.lookup key

/-- The entries with `key` mapped to `value`, in place. -/
def putEntry (key : Text) (value : α) : List (Text × α) → List (Text × α)
  | [] => [(key, value)]
  | (other, old) :: rest =>
    if key < other then (key, value) :: (other, old) :: rest
    else if key = other then (key, value) :: rest
    else (other, old) :: putEntry key value rest

theorem mem_map_fst_putEntry {key other : Text} {value : α} {entries : List (Text × α)} :
    other ∈ (putEntry key value entries).map Prod.fst ↔
      other = key ∨ other ∈ entries.map Prod.fst := by
  induction entries with
  | nil => simp [putEntry]
  | cons entry rest ih =>
    obtain ⟨first, old⟩ := entry
    unfold putEntry
    split
    · simp
    · split
      · next h => subst h; simp
      · simp only [List.map_cons, List.mem_cons, ih]
        grind

theorem putEntry_increasing {key : Text} {value : α} {entries : List (Text × α)}
    (h : (entries.map Prod.fst).Pairwise (· < ·)) :
    ((putEntry key value entries).map Prod.fst).Pairwise (· < ·) := by
  induction entries with
  | nil => simp [putEntry]
  | cons entry rest ih =>
    obtain ⟨first, old⟩ := entry
    simp only [List.map_cons, List.pairwise_cons] at h
    unfold putEntry
    split
    · next hlt =>
      simp only [List.map_cons, List.pairwise_cons, List.mem_cons]
      refine ⟨?_, h⟩
      rintro a (rfl | ha)
      · exact hlt
      · exact List.lt_trans hlt (h.1 a ha)
    · next hge =>
      split
      · next heq => subst heq; simpa using h
      · next hne =>
        simp only [List.map_cons, List.pairwise_cons]
        refine ⟨fun a ha => ?_, ih h.2⟩
        rcases mem_map_fst_putEntry.1 ha with rfl | ha
        · rcases Std.lt_trichotomy first a with h' | h' | h'
          · exact h'
          · exact absurd h'.symm hne
          · exact absurd h' hge
        · exact h.1 a ha

theorem lookup_putEntry {key : Text} {value : α} {entries : List (Text × α)}
    (h : (entries.map Prod.fst).Pairwise (· < ·)) (other : Text) :
    (putEntry key value entries).lookup other =
      if other = key then some value else entries.lookup other := by
  induction entries with
  | nil =>
    by_cases hk : other = key
    · simp [putEntry, hk]
    · simp [putEntry, List.lookup_cons, beq_false_of_ne hk, hk]
  | cons entry rest ih =>
    obtain ⟨first, old⟩ := entry
    simp only [List.map_cons, List.pairwise_cons] at h
    unfold putEntry
    grind

/-- The dictionary with `key` mapped to `value`, whatever it was mapped to. -/
def put (dictionary : Dictionary α) (key : Text) (value : α) : Dictionary α :=
  ⟨putEntry key value dictionary.entries, putEntry_increasing dictionary.increasing⟩

/-- The dictionary of a list of entries. Of two entries with one key the later counts. -/
def ofEntries (entries : List (Text × α)) : Dictionary α :=
  entries.foldl (fun dictionary (key, value) => dictionary.put key value) empty

theorem lookup_put (dictionary : Dictionary α) (key : Text) (value : α) (other : Text) :
    (dictionary.put key value).lookup other =
      if other = key then some value else dictionary.lookup other :=
  lookup_putEntry dictionary.increasing other

theorem mem_keys_put (dictionary : Dictionary α) (key : Text) (value : α) (other : Text) :
    other ∈ (dictionary.put key value).keys ↔ other = key ∨ other ∈ dictionary.keys :=
  mem_map_fst_putEntry

end Dictionary

end Synopsis
