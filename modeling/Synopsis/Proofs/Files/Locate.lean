import Synopsis.Files.FileSystem
import Synopsis.Proofs.Except

/-!
# Where a path leads

The location of a path is found by following its pieces, also over places where nothing is; only
two dots need a directory to lead up from. Walking along the path does no more than check what is
on the way, so the file that a path names depends on its location alone.

- `locate_of_resolve`: a path that resolves leads to its location.
- `isSome_locate`: a path without two dots leads somewhere in every file system.
- `bytes?_congr`: two file systems with the same file at the location of a path read the same.
-/

namespace Synopsis

namespace Tree

theorem at?_append (above below : Location) (tree : Tree) :
    tree.at? (above ++ below) = (tree.at? above).bind (at? below) := by
  induction above generalizing tree with
  | nil => rfl
  | cons name names ih =>
    simp only [List.cons_append, at?]
    cases tree.child? name with
    | none => rfl
    | some child => exact ih child

/-- What is above something is a directory. -/
theorem lookup_of_append {tree : Tree} {above below : Location} (hb : below ≠ [])
    (h : tree.lookup (above ++ below) ≠ none) : tree.lookup above = some .directory := by
  simp only [lookup, at?_append] at h ⊢
  cases ht : tree.at? above with
  | none => simp [ht] at h
  | some inner =>
    cases inner with
    | directory children => rfl
    | file bytes =>
      cases below with
      | nil => exact absurd rfl hb
      | cons name names => simp [ht, at?, child?, children] at h

end Tree

namespace FileSystem

variable {files later : FileSystem} {path : Path} {location : Location} {bytes : ByteArray}

/-! ## Locations -/

/-- The file at a location, if there is one. -/
def fileAt (files : FileSystem) (location : Location) : Option ByteArray :=
  match files.lookup location with
  | some (.file bytes) => some bytes
  | _ => none

/-- The location from which a path is followed, and its pieces. -/
def origin (files : FileSystem) (path : Path) : Location × List Text :=
  if path.isAbsolute then ([], (path.text.splitOn '/').drop 1)
  else (files.working, path.text.splitOn '/')

/-- The location that the names lead to. Two dots lead up from a directory only. -/
def locateFrom (files : FileSystem) (location : Location) : List Text → Option Location
  | [] => some location
  | name :: names =>
    if name = ['.', '.'] then
      match files.lookup location with
      | some .directory => locateFrom files location.dropLast names
      | _ => none
    else locateFrom files (location.step name) names

/-- The location of a path, whether or not something is there. -/
def locate (files : FileSystem) (path : Path) : Option Location :=
  files.locateFrom (files.origin path).1 (files.origin path).2

/-- The bytes of the file that a path leads to, if it leads to a file. -/
def bytes? (files : FileSystem) (path : Path) : Option ByteArray := (files.readBytes path).toOption

theorem fileAt_eq_some : files.fileAt location = some bytes ↔
    files.lookup location = some (.file bytes) := by
  unfold fileAt
  split <;> simp_all

theorem lookup_nil (files : FileSystem) : files.lookup [] = some .directory := rfl

theorem lookup_of_append {above below : Location} (hb : below ≠ [])
    (h : files.lookup (above ++ below) ≠ none) : files.lookup above = some .directory :=
  Tree.lookup_of_append hb h

theorem lookup_dropLast (h : files.lookup location ≠ none) :
    files.lookup location.dropLast = some .directory := by
  rcases List.eq_nil_or_concat location with rfl | ⟨above, name, rfl⟩
  · rfl
  · rw [List.concat_eq_append] at h ⊢
    rw [List.dropLast_concat]
    exact lookup_of_append (List.cons_ne_nil _ _) h

theorem origin_of_begin {start : Location × List Text} (h : files.begin path = .ok start) :
    files.origin path = start := by
  unfold begin at h
  unfold origin
  grind

/-! ## Following and walking -/

theorem step_of_ne {name : Text} (h : name ≠ ['.', '.']) (location : Location) :
    location.step name = if Path.isStep name then location ++ [name] else location := by
  simp [Location.step, h]

/-- Names without two dots lead somewhere. -/
theorem isSome_locateFrom {names : List Text} (h : ['.', '.'] ∉ names) (files : FileSystem)
    (location : Location) : (files.locateFrom location names).isSome = true := by
  induction names generalizing location with
  | nil => rfl
  | cons name names ih =>
    simp only [List.mem_cons, not_or] at h
    simp only [locateFrom, Ne.symm h.1, if_false]
    exact ih h.2 _

theorem isSome_locate (h : ['.', '.'] ∉ path.text.splitOn '/') (files : FileSystem) :
    (files.locate path).isSome = true := by
  refine isSome_locateFrom (fun hm => h ?_) files _
  unfold origin at hm
  split at hm
  · exact List.mem_of_mem_drop hm
  · exact hm

theorem locateFrom_append (names more : List Text) (location : Location) :
    files.locateFrom location (names ++ more) =
      (files.locateFrom location names).bind (files.locateFrom · more) := by
  induction names generalizing location with
  | nil => rfl
  | cons name names ih =>
    simp only [List.cons_append, locateFrom]
    split
    · split
      · exact ih _
      · rfl
    · exact ih _

/-- Whatever is left on the way is a directory, unless it is above the place that is reached. -/
theorem prefix_of_locateFrom {names : List Text} {start : Location}
    (h : files.locateFrom start names = some location) :
    start <+: location ∨ files.lookup start = some .directory := by
  induction names generalizing start with
  | nil =>
    cases h
    exact Or.inl (List.prefix_refl _)
  | cons name names ih =>
    simp only [locateFrom] at h
    split at h
    · split at h
      · next hd => exact Or.inr hd
      · cases h
    · next hn =>
      rw [step_of_ne hn] at h
      split at h
      · rcases ih h with hp | hd
        · exact Or.inl ((List.prefix_append _ _).trans hp)
        · refine Or.inr (lookup_of_append (List.cons_ne_nil name []) ?_)
          rw [hd]
          exact Option.some_ne_none _
      · exact ih h

/-- On the way to a file every place is a directory, or the file itself. -/
theorem lookup_of_locateFrom {names : List Text} {start : Location}
    (h : files.locateFrom start names = some location)
    (hf : files.lookup location = some (.file bytes)) :
    files.lookup start = some .directory ∨ start = location := by
  rcases prefix_of_locateFrom h with ⟨below, rfl⟩ | hd
  · by_cases hb : below = []
    · exact Or.inr (by simp [hb])
    · exact Or.inl (lookup_of_append hb (by simp [hf]))
  · exact Or.inl hd

theorem locateFrom_of_walk {names : List Text} {start : Location}
    (h : files.walk start names = .ok location) :
    files.locateFrom start names = some location := by
  induction names generalizing start with
  | nil =>
    rw [walk_nil] at h
    cases h
    rfl
  | cons name names ih =>
    rw [walk_cons] at h
    split at h
    · next hd =>
      split at h
      · cases h
      · simp only [locateFrom, hd]
        split
        · next hn =>
          subst hn
          exact ih h
        · exact ih h
    · cases h
    · cases h

theorem resolve_eq_ok : files.resolve path = .ok location ↔
    ∃ start, files.begin path = .ok start ∧ files.walk start.1 start.2 = .ok location :=
  bind_eq_ok

theorem locate_of_resolve (h : files.resolve path = .ok location) :
    files.locate path = some location := by
  obtain ⟨start, hb, hw⟩ := resolve_eq_ok.1 h
  rw [locate, origin_of_begin hb]
  exact locateFrom_of_walk hw

theorem walk_append (names more : List Text) (start : Location) :
    files.walk start (names ++ more) =
      (files.walk start names).bind (files.walk · more) := by
  induction names generalizing start with
  | nil =>
    rw [walk_nil]
    rfl
  | cons name names ih =>
    rw [List.cons_append, walk_cons, walk_cons]
    split
    · split
      · rfl
      · exact ih _
    · rfl
    · rfl

/-! ## The file at a location is what a path to it reads -/

theorem walk_congr {names : List Text} {start : Location}
    (h : files.locateFrom start names = some location)
    (h' : later.locateFrom start names = some location)
    (hf : files.lookup location = some (.file bytes))
    (hf' : later.lookup location = some (.file bytes)) :
    later.walk start names = files.walk start names := by
  induction names generalizing start with
  | nil => rw [walk_nil, walk_nil]
  | cons name names ih =>
    have same : later.lookup start = files.lookup start := by
      rcases lookup_of_locateFrom h hf with hd | rfl
      · rcases lookup_of_locateFrom h' hf' with hd' | rfl
        · rw [hd, hd']
        · rw [hd] at hf
          cases hf
      · rw [hf, hf']
    rw [walk_cons, walk_cons, same]
    split
    · next hd =>
      split
      · rfl
      · simp only [locateFrom, same, hd] at h h'
        split at h
        · next hn =>
          subst hn
          rw [if_pos rfl] at h'
          exact ih h h'
        · next hn =>
          rw [if_neg hn] at h'
          exact ih h h'
    · rfl
    · rfl

theorem begin_congr (h : later.working = files.working) (path : Path) :
    later.begin path = files.begin path := by
  simp only [begin, h]

theorem find_eq_ok {entry : Entry} : files.find path = .ok entry ↔
    ∃ location, files.resolve path = .ok location ∧ files.lookup location = some entry := by
  unfold find
  rw [bind_eq_ok]
  refine exists_congr fun location => and_congr_right fun _ => ?_
  cases files.lookup location <;> simp

theorem bytes?_eq_some : files.bytes? path = some bytes ↔ files.find path = .ok (.file bytes) := by
  unfold bytes? readBytes
  cases files.find path with
  | error error => simp [bind, Except.bind, Except.toOption]
  | ok entry => cases entry <;> simp [bind, Except.bind, Except.toOption]

theorem bytes?_of_locate (hw : later.working = files.working)
    (h : files.locate path = some location) (h' : later.locate path = some location)
    (hf' : later.lookup location = some (.file bytes)) (hb : files.bytes? path = some bytes) :
    later.bytes? path = some bytes := by
  obtain ⟨place, hr, hf⟩ := find_eq_ok.1 (bytes?_eq_some.1 hb)
  obtain ⟨start, hs, hk⟩ := resolve_eq_ok.1 hr
  have hs' : later.begin path = .ok start := (begin_congr hw path).trans hs
  rw [locate_of_resolve hr] at h
  cases h
  have hl := locateFrom_of_walk hk
  have hl' : later.locateFrom start.1 start.2 = some location := by
    rw [locate, origin_of_begin hs'] at h'
    exact h'
  have hk' : later.walk start.1 start.2 = .ok location := (walk_congr hl hl' hf hf').trans hk
  exact bytes?_eq_some.2 (find_eq_ok.2 ⟨location, resolve_eq_ok.2 ⟨start, hs', hk'⟩, hf'⟩)

theorem fileAt_of_bytes? (h : files.bytes? path = some bytes) :
    ∃ location, files.locate path = some location ∧ files.fileAt location = some bytes := by
  obtain ⟨location, hr, hl⟩ := find_eq_ok.1 (bytes?_eq_some.1 h)
  exact ⟨location, locate_of_resolve hr, fileAt_eq_some.2 hl⟩

/-- The file that a path names depends on its location alone. -/
theorem bytes?_congr (hw : later.working = files.working) (h : files.locate path = some location)
    (h' : later.locate path = some location) (hf : later.fileAt location = files.fileAt location) :
    later.bytes? path = files.bytes? path := by
  cases hb : files.bytes? path with
  | some bytes =>
    obtain ⟨place, hp, ha⟩ := fileAt_of_bytes? hb
    rw [h] at hp
    cases hp
    exact bytes?_of_locate hw h h' (fileAt_eq_some.1 (hf.trans ha)) hb
  | none =>
    cases hb' : later.bytes? path with
    | none => rfl
    | some bytes =>
      obtain ⟨place, hp, ha⟩ := fileAt_of_bytes? hb'
      rw [h'] at hp
      cases hp
      have := bytes?_of_locate hw.symm h' h (fileAt_eq_some.1 (hf.symm.trans ha)) hb'
      rw [hb] at this
      cases this

end FileSystem

end Synopsis
