import Mathlib.Data.List.Induction
import Mathlib.Data.List.Nodup
import Mathlib.Data.List.Perm.Basic
import Synopsis.Dictionary
import Synopsis.Proofs.Text.Order

/-!
# Dictionaries that map alike

A dictionary is determined by what it maps its keys to.

- `mem_entries`: the entries are the keys with what they map to.
- `ext_lookup`: two dictionaries that map alike are equal.
- `lookup_ofEntries`: a list of entries maps each key as the last of its entries does.
- `ofEntries_entries`: a dictionary is made of its own entries.
- `lookup_erase`: without a key, a dictionary maps the others as before.
-/

namespace Synopsis.Dictionary

variable {α : Type} {a b : Dictionary α} {key : Text} {value : α}

theorem nodup_keys (a : Dictionary α) : a.keys.Nodup := Text.nodup_of_increasing a.increasing

theorem lookup_eq_some {entries : List (Text × α)} (h : (entries.map Prod.fst).Nodup) :
    entries.lookup key = some value ↔ (key, value) ∈ entries := by
  induction entries with
  | nil => simp
  | cons entry entries ih =>
    obtain ⟨first, known⟩ := entry
    rw [List.map_cons, List.nodup_cons] at h
    rw [List.mem_cons, ← ih h.2]
    by_cases hk : key = first
    · subst hk
      have hn : entries.lookup key ≠ some value :=
        fun hl => h.1 (List.mem_map.2 ⟨_, (ih h.2).1 hl, rfl⟩)
      simp [hn, eq_comm]
    · simp [List.lookup_cons, beq_false_of_ne hk, hk]

theorem mem_entries : (key, value) ∈ a.entries ↔ a.lookup key = some value :=
  (lookup_eq_some (nodup_keys a)).symm

theorem isSome_lookup : (a.lookup key).isSome = true ↔ key ∈ a.keys := by
  rw [Option.isSome_iff_exists, keys, List.mem_map]
  constructor
  · intro h
    obtain ⟨value, hv⟩ := h
    exact ⟨_, mem_entries.2 hv, rfl⟩
  · intro h
    obtain ⟨⟨_, value⟩, hm, rfl⟩ := h
    exact ⟨value, mem_entries.1 hm⟩

/-- Two dictionaries that map alike are equal. -/
theorem ext_lookup (h : ∀ key, a.lookup key = b.lookup key) : a = b := by
  have nodup : ∀ d : Dictionary α, d.entries.Nodup := fun d => (nodup_keys d).of_map
  have hperm : a.entries.Perm b.entries := by
    refine (List.perm_ext_iff_of_nodup (nodup a) (nodup b)).2 fun entry => ?_
    obtain ⟨key, value⟩ := entry
    rw [mem_entries, mem_entries, h key]
  have hentries : a.entries = b.entries := by
    refine hperm.eq_of_pairwise ?_ (List.pairwise_map.1 a.increasing)
      (List.pairwise_map.1 b.increasing)
    intro first second _ _ hfirst hsecond
    exact absurd (List.lt_trans hfirst hsecond) (List.lt_irrefl _)
  cases a
  cases b
  cases hentries
  rfl

/-! ## Lists of entries -/

theorem ofEntries_concat (entries : List (Text × α)) (entry : Text × α) :
    ofEntries (entries ++ [entry]) = (ofEntries entries).put entry.1 entry.2 :=
  List.foldl_concat _ _ _ _

/-- A list of entries maps each key as the last of its entries does. -/
theorem lookup_ofEntries (entries : List (Text × α)) (key : Text) :
    (ofEntries entries).lookup key = entries.reverse.lookup key := by
  induction entries using List.reverseRecOn with
  | nil => rfl
  | append_singleton entries entry ih =>
    rw [ofEntries_concat, lookup_put, ih, List.reverse_concat, List.lookup_cons]
    by_cases hk : key = entry.1
    · simp [hk]
    · simp [hk, beq_false_of_ne hk]

theorem mem_keys_ofEntries (entries : List (Text × α)) (key : Text) :
    key ∈ (ofEntries entries).keys ↔ key ∈ entries.map Prod.fst := by
  induction entries using List.reverseRecOn with
  | nil => rfl
  | append_singleton entries entry ih =>
    rw [ofEntries_concat, mem_keys_put, ih, List.map_append, List.mem_append, List.map_singleton,
      List.mem_singleton, or_comm]

/-- A dictionary is made of its own entries. -/
theorem ofEntries_entries (a : Dictionary α) : ofEntries a.entries = a := by
  have hreverse : (a.entries.reverse.map Prod.fst).Nodup := by
    rw [List.map_reverse, List.nodup_reverse]
    exact nodup_keys a
  refine ext_lookup fun key => Option.ext fun value => ?_
  rw [lookup_ofEntries, lookup_eq_some hreverse, List.mem_reverse, mem_entries]

/-! ## Without a key -/

/-- The dictionary without a key. -/
def erase (dictionary : Dictionary α) (key : Text) : Dictionary α :=
  ⟨dictionary.entries.filter fun entry => entry.1 ≠ key,
    dictionary.increasing.sublist (List.filter_sublist.map Prod.fst)⟩

theorem lookup_erase (a : Dictionary α) (key other : Text) :
    (a.erase key).lookup other = if other = key then none else a.lookup other := by
  apply Option.ext
  intro value
  rw [← mem_entries, erase, List.mem_filter, mem_entries]
  by_cases ho : other = key <;> simp [ho]

theorem keys_erase (a : Dictionary α) (key : Text) :
    (a.erase key).keys = a.keys.filter (· ≠ key) := by
  rw [keys, keys, erase, List.filter_map]
  rfl

end Synopsis.Dictionary
