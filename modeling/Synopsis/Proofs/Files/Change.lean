import Mathlib.Data.List.TakeWhile
import Synopsis.Proofs.Files.Locate

/-!
# What an operation changes

Storing a file changes no other, and making directories changes none. Both keep every directory,
so whatever a path led to before is still where it was.

- `KeepsExcept`: a later file system keeps all but the files at some locations.
- `keepsExcept_put`: storing a file keeps all others.
- `keepsExcept_makeDirectories`: making directories keeps every file, also when it stops halfway.
- `makeDirectories_again`: directories that were made are made again, and nothing changes.
-/

namespace Synopsis

namespace FileSystem

variable {files middle later : FileSystem} {path : Path} {location : Location} {bytes : ByteArray}

/-- The later file system has all directories, and all files but those at the given locations. -/
structure KeepsExcept (later files : FileSystem) (changed : List Location) : Prop where
  working : later.working = files.working
  directory : ∀ {location}, files.lookup location = some .directory →
    later.lookup location = some .directory
  file : ∀ {location}, location ∉ changed → later.fileAt location = files.fileAt location

namespace KeepsExcept

variable {changed more : List Location}

theorem refl (files : FileSystem) : files.KeepsExcept files [] := ⟨rfl, id, fun _ => rfl⟩

theorem trans (h' : later.KeepsExcept middle more) (h : middle.KeepsExcept files changed) :
    later.KeepsExcept files (changed ++ more) where
  working := h'.working.trans h.working
  directory hd := h'.directory (h.directory hd)
  file hl := by
    simp only [List.mem_append, not_or] at hl
    exact (h'.file hl.2).trans (h.file hl.1)

theorem mono (h : later.KeepsExcept files changed) (hs : changed ⊆ more) :
    later.KeepsExcept files more :=
  ⟨h.working, h.directory, fun hl => h.file fun hc => hl (hs hc)⟩

theorem locateFrom (h : later.KeepsExcept files changed) {names : List Text} {start : Location}
    (hl : files.locateFrom start names = some location) :
    later.locateFrom start names = some location := by
  induction names generalizing start with
  | nil => exact hl
  | cons name names ih =>
    simp only [FileSystem.locateFrom] at hl ⊢
    split at hl
    · next hn =>
      rw [if_pos hn]
      split at hl
      · next hd =>
        rw [h.directory hd]
        exact ih hl
      · cases hl
    · next hn =>
      rw [if_neg hn]
      exact ih hl

theorem locate (h : later.KeepsExcept files changed) (hl : files.locate path = some location) :
    later.locate path = some location := by
  have ho : later.origin path = files.origin path := by simp only [origin, h.working]
  unfold FileSystem.locate at hl ⊢
  rw [ho]
  exact h.locateFrom hl

theorem walk (h : later.KeepsExcept files changed) {names : List Text} {start : Location}
    (hw : files.walk start names = .ok location) : later.walk start names = .ok location := by
  induction names generalizing start with
  | nil =>
    rw [walk_nil] at hw ⊢
    exact hw
  | cons name names ih =>
    rw [walk_cons] at hw ⊢
    split at hw
    · next hd =>
      rw [h.directory hd]
      split at hw
      · cases hw
      · next hn =>
        simp only [hn, if_false]
        exact ih hw
    · cases hw
    · cases hw

theorem resolve (h : later.KeepsExcept files changed) (hr : files.resolve path = .ok location) :
    later.resolve path = .ok location := by
  obtain ⟨start, hb, hw⟩ := resolve_eq_ok.1 hr
  exact resolve_eq_ok.2 ⟨start, (begin_congr h.working path).trans hb, h.walk hw⟩

theorem find_directory (h : later.KeepsExcept files changed)
    (hf : files.find path = .ok .directory) : later.find path = .ok .directory := by
  obtain ⟨location, hr, hl⟩ := find_eq_ok.1 hf
  exact find_eq_ok.2 ⟨location, h.resolve hr, h.directory hl⟩

/-- A path to a file that has not changed reads the same. -/
theorem bytes? (h : later.KeepsExcept files changed) (hl : files.locate path = some location)
    (hn : location ∉ changed) : later.bytes? path = files.bytes? path :=
  bytes?_congr h.working hl (h.locate hl) (h.file hn)

end KeepsExcept

/-! ## Storing one entry -/

theorem lookup_put_location (hd : files.lookup location.dropLast = some .directory)
    (hn : location ≠ []) (entry : Entry) :
    (files.put location entry).lookup location = some entry := by
  rw [← List.dropLast_concat_getLast hn]
  exact lookup_put_self hd _ entry

theorem lookup_put_other {other : Location} (hd : files.lookup location.dropLast = some .directory)
    (hn : files.lookup location ≠ some .directory) (ho : other ≠ location) (entry : Entry) :
    (files.put location entry).lookup other = files.lookup other := by
  have hl : location ≠ [] := by
    intro he
    subst he
    exact hn (lookup_nil files)
  rw [← List.dropLast_concat_getLast hl] at hn ho ⊢
  exact lookup_put_of_ne hd hn ho entry

theorem working_put (files : FileSystem) (location : Location) (entry : Entry) :
    (files.put location entry).working = files.working := by
  unfold put
  split <;> rfl

theorem keepsExcept_put (hd : files.lookup location.dropLast = some .directory)
    (hn : files.lookup location ≠ some .directory) (entry : Entry) :
    (files.put location entry).KeepsExcept files [location] where
  working := working_put files location entry
  directory {other} ho := by
    rw [lookup_put_other hd hn _ entry]
    · exact ho
    · intro he
      subst he
      exact hn ho
  file {other} ho := by
    simp only [fileAt, lookup_put_other hd hn (List.ne_of_not_mem_cons ho) entry]

/-- A new directory changes no file. -/
theorem keepsExcept_put_directory (hd : files.lookup location.dropLast = some .directory)
    (hn : files.lookup location = none) :
    (files.put location .directory).KeepsExcept files [] := by
  have hn' : files.lookup location ≠ some .directory := by simp [hn]
  have hl : location ≠ [] := by
    intro he
    subst he
    cases hn
  have h := keepsExcept_put hd hn' .directory
  refine ⟨h.working, h.directory, fun {other} _ => ?_⟩
  by_cases ho : other = location
  · subst ho
    simp only [fileAt, lookup_put_location hd hl, hn]
  · exact h.file (by simpa using ho)

/-! ## The place that a walk reaches -/

/-- The place that a walk reaches is in a directory, if the walk takes a step or starts in one. -/
theorem lookup_dropLast_of_walk {names : List Text} {start : Location}
    (h : files.walk start names = .ok location)
    (hs : names ≠ [] ∨ files.lookup start.dropLast = some .directory) :
    files.lookup location.dropLast = some .directory := by
  induction names generalizing start with
  | nil =>
    rw [walk_nil] at h
    cases h
    simpa using hs
  | cons name names ih =>
    rw [walk_cons] at h
    split at h
    · next hd =>
      have up : ∀ {above : Location}, files.lookup above = some .directory →
          files.lookup above.dropLast = some .directory :=
        fun ha => lookup_dropLast (by simp [ha])
      split at h
      · cases h
      · refine ih h (Or.inr ?_)
        unfold Location.step
        split
        · exact up (up hd)
        · split
          · rw [List.dropLast_concat]
            exact hd
          · exact up hd
    · cases h
    · cases h

theorem splitOn_cons_of_ne {c : Char} (h : c ≠ '/') (text : Text) :
    ∃ piece pieces, (c :: text).splitOn '/' = (c :: piece) :: pieces := by
  rw [List.splitOn_cons_eq_if_modifyHead, if_neg (by simpa using h)]
  cases hs : text.splitOn '/' with
  | nil => exact (List.splitOn_ne_nil _ _ hs).elim
  | cons piece pieces => exact ⟨piece, pieces, rfl⟩

theorem withoutSlashes_ne_nil {piece : Text} {pieces : List Text} (h : piece ∈ pieces)
    (hp : piece ≠ []) : withoutSlashes pieces ≠ [] := by
  unfold withoutSlashes
  intro hc
  rw [List.reverse_eq_nil_iff, List.dropWhile_eq_nil_iff] at hc
  exact hp (by simpa using hc piece (by simpa using h))

/-- A path is followed from the root, or its first piece is not empty. -/
theorem begin_cases {start : Location × List Text} (h : files.begin path = .ok start) :
    start.1 = [] ∨ ∃ c piece, (c :: piece) ∈ start.2 := by
  unfold begin at h
  split at h
  · cases h
  · split at h
    · cases h
    · next hn =>
      split at h
      · cases h
      · split at h
        · cases h
          exact Or.inl rfl
        · next ha =>
          cases h
          right
          unfold Path.isAbsolute at ha
          cases ht : path.text with
          | nil => simp [ht] at hn
          | cons c text =>
            obtain ⟨piece, pieces, hs⟩ := splitOn_cons_of_ne (c := c) (by simpa [ht] using ha) text
            exact ⟨c, piece, by simp [hs]⟩

/-- What a path that was begun leads to is in a directory. -/
theorem lookup_dropLast_of_begin {start : Location × List Text} {names : List Text}
    (hb : files.begin path = .ok start) (hn : ∀ c piece, (c :: piece) ∈ start.2 → names ≠ [])
    (hw : files.walk start.1 names = .ok location) :
    files.lookup location.dropLast = some .directory := by
  refine lookup_dropLast_of_walk hw ?_
  rcases begin_cases hb with hr | ⟨c, piece, hm⟩
  · rw [hr]
    exact Or.inr (lookup_nil files)
  · exact Or.inl (hn c piece hm)

/-! ## Making directories -/

theorem withoutSlashes_append (pieces : List Text) :
    ∃ slashes, withoutSlashes pieces ++ slashes = pieces ∧ ∀ name ∈ slashes, name = [] := by
  refine ⟨(pieces.reverse.takeWhile List.isEmpty).reverse, ?_, fun name hn => ?_⟩
  · rw [withoutSlashes, ← List.reverse_append, List.takeWhile_append_dropWhile,
      List.reverse_reverse]
  · exact List.isEmpty_iff.1 (List.mem_takeWhile_imp (List.mem_reverse.1 hn))

theorem walk_slashes {slashes : List Text} (h : ∀ name ∈ slashes, name = [])
    (hd : files.lookup location = some .directory) :
    files.walk location slashes = .ok location := by
  induction slashes with
  | nil => exact walk_nil files location
  | cons name names ih =>
    obtain rfl := h name List.mem_cons_self
    have hs : location.step [] = location := rfl
    have hb : ¬ Place.longestName < Text.byteLength [] := by decide
    rw [walk_cons, hd]
    simp only [hb, if_false, hs]
    exact ih fun name hm => h name (List.mem_cons_of_mem _ hm)

theorem newPlace_eq_ok : files.newPlace path = .ok location ↔
    ∃ start, files.begin path = .ok start ∧
      files.walk start.1 (withoutSlashes start.2) = .ok location :=
  bind_eq_ok

theorem makeDirectory_eq_ok : files.makeDirectory path = .ok later ↔
    ∃ location, files.newPlace path = .ok location ∧ files.lookup location = none ∧
      later = files.put location .directory := by
  unfold makeDirectory
  rw [bind_eq_ok]
  refine exists_congr fun location => and_congr_right fun _ => ?_
  cases files.lookup location <;> simp [eq_comm]

/-- A directory that was made is there, and nothing else has changed. -/
theorem makeDirectory_spec (h : files.makeDirectory path = .ok later) :
    later.KeepsExcept files [] ∧ later.find path = .ok .directory := by
  obtain ⟨location, hp, hl, rfl⟩ := makeDirectory_eq_ok.1 h
  obtain ⟨start, hb, hw⟩ := newPlace_eq_ok.1 hp
  have hd : files.lookup location.dropLast = some .directory :=
    lookup_dropLast_of_begin hb
      (fun c piece hm => withoutSlashes_ne_nil hm (List.cons_ne_nil _ _)) hw
  have hne : location ≠ [] := by
    intro he
    subst he
    cases hl
  have hk := keepsExcept_put_directory hd hl
  have hf := lookup_put_location hd hne .directory
  obtain ⟨slashes, hs, hn⟩ := withoutSlashes_append start.2
  refine ⟨hk, find_eq_ok.2 ⟨location, resolve_eq_ok.2 ⟨start, ?_, ?_⟩, hf⟩⟩
  · rw [begin_congr hk.working, hb]
  · rw [← hs, walk_append, hk.walk hw]
    exact walk_slashes hn hf

/-- A directory that is there is not made. -/
theorem makeDirectory_of_find (h : files.find path = .ok .directory) :
    files.makeDirectory path = .error .alreadyExists := by
  obtain ⟨location, hr, hl⟩ := find_eq_ok.1 h
  obtain ⟨start, hb, hw⟩ := resolve_eq_ok.1 hr
  obtain ⟨slashes, hs, -⟩ := withoutSlashes_append start.2
  rw [← hs, walk_append] at hw
  cases hp : files.walk start.1 (withoutSlashes start.2) with
  | error error => simp [hp, Except.bind] at hw
  | ok place =>
    have hd : files.lookup place = some .directory := by
      simp only [hp, Except.bind] at hw
      cases slashes with
      | nil =>
        rw [walk_nil] at hw
        cases hw
        exact hl
      | cons name names =>
        rw [walk_cons] at hw
        split at hw
        · assumption
        · cases hw
        · cases hw
    have hnew : files.newPlace path = .ok place := newPlace_eq_ok.2 ⟨start, hb, hp⟩
    simp [makeDirectory, hnew, hd, bind, Except.bind]

theorem isDirectory_eq_true : files.isDirectory path = true ↔ files.find path = .ok .directory := by
  unfold isDirectory
  split <;> simp_all

theorem ensureDirectory_spec (files : FileSystem) (path : Path) :
    (files.ensureDirectory path).1.KeepsExcept files [] ∧
      ((files.ensureDirectory path).2 = .ok () →
        (files.ensureDirectory path).1.find path = .ok .directory) := by
  unfold ensureDirectory
  cases hm : files.makeDirectory path with
  | ok made =>
    obtain ⟨hk, hf⟩ := makeDirectory_spec hm
    exact ⟨hk, fun _ => hf⟩
  | error error =>
    refine ⟨.refl files, fun h => ?_⟩
    by_cases hd : files.isDirectory path = true
    · exact isDirectory_eq_true.1 hd
    · simp [hd] at h

theorem makeDirectoriesFrom_spec (fuel : Nat) (path : Path) (files : FileSystem) :
    (files.makeDirectoriesFrom fuel path).1.KeepsExcept files [] ∧
      ((files.makeDirectoriesFrom fuel path).2 = .ok () → path.text = [] ∨
        (files.makeDirectoriesFrom fuel path).1.find path = .ok .directory) := by
  induction fuel generalizing path files with
  | zero => exact ⟨.refl files, fun h => by cases h⟩
  | succ fuel ih =>
    unfold makeDirectoriesFrom
    split
    · next he => exact ⟨.refl files, fun _ => Or.inl (List.isEmpty_iff.1 he)⟩
    · split
      · next parent _ _ =>
        obtain ⟨hk, -⟩ := ih parent files
        split
        · next made hm =>
          rw [hm] at hk
          obtain ⟨hk', hf⟩ := ensureDirectory_spec made path
          exact ⟨hk'.trans hk, fun h => Or.inr (hf h)⟩
        · next made error hm =>
          rw [hm] at hk
          exact ⟨hk, fun h => by cases h⟩
      · obtain ⟨hk, hf⟩ := ensureDirectory_spec files path
        exact ⟨hk, fun h => Or.inr (hf h)⟩

/-- Making directories changes no file, also when it stops halfway. -/
theorem keepsExcept_makeDirectories (files : FileSystem) (path : Path) :
    (files.makeDirectories path).1.KeepsExcept files [] :=
  (makeDirectoriesFrom_spec _ path files).1

theorem find_of_makeDirectories (h : (files.makeDirectories path).2 = .ok ()) :
    path.text = [] ∨ (files.makeDirectories path).1.find path = .ok .directory :=
  (makeDirectoriesFrom_spec _ path files).2 h

/-- Where a directory is there, making it succeeds and changes nothing. -/
theorem makeDirectories_again (h : path.text = [] ∨ files.find path = .ok .directory) :
    files.makeDirectories path = (files, .ok ()) := by
  unfold makeDirectories makeDirectoriesFrom
  split
  · rfl
  · next he =>
    have hf : files.find path = .ok .directory := h.resolve_left fun ht => he (by simp [ht])
    simp [makeDirectory_of_find hf, ensureDirectory, isDirectory_eq_true.2 hf]

end FileSystem

end Synopsis
