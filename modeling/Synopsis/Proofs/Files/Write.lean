import Synopsis.Proofs.Files.Change

/-!
# Writing files

A text that is written under a path is what the path then reads, and no other file changes.
Writing what is there already changes nothing at all.

- `writeText_spec`: the file at the location of the path holds the text, every other is kept.
- `writeText_again`: a text that is there can be written again, and the files stay as they are.
- `readText_eq_ok`: the texts that a path reads are those whose bytes it leads to.
-/

namespace Synopsis

namespace Tree

theorem store_of_lookup {name : Text} {tree : Tree} {children : List (Text × Tree)}
    (h : children.lookup name = some tree) : store name tree children = children := by
  induction children with
  | nil => cases h
  | cons head rest ih =>
    obtain ⟨other, old⟩ := head
    by_cases hn : other = name
    · subst hn
      simp only [List.lookup_cons_self, Option.some.injEq] at h
      simp [store, h]
    · rw [List.lookup_cons, beq_false_of_ne (Ne.symm hn)] at h
      simp [store, hn, ih h]

/-- Putting the file that is there changes nothing. -/
theorem put_of_lookup {location : Location} {tree : Tree} {bytes : ByteArray}
    (h : tree.lookup location = some (.file bytes)) :
    put (.file bytes) location (some tree) = tree := by
  induction location generalizing tree with
  | nil =>
    cases tree with
    | file old =>
      cases h
      rfl
    | directory children => cases h
  | cons name names ih =>
    cases tree with
    | file old => rfl
    | directory children =>
      rw [lookup_cons] at h
      cases hc : children.lookup name with
      | none => simp [hc] at h
      | some child =>
        rw [hc, Option.bind_some] at h
        rw [put, hc, ih h, store_of_lookup hc]

end Tree

namespace FileSystem

variable {files middle later : FileSystem} {path : Path} {location : Location} {text : Text}
  {bytes : ByteArray}

theorem put_of_lookup (h : files.lookup location = some (.file bytes)) :
    files.put location (.file bytes) = files := by
  unfold put
  split
  · rfl
  · rw [Tree.put_of_lookup h]
    rfl

/-! ## Reading texts -/

theorem decode?_eq_some : decode? bytes = some text ↔ bytes = encode text :=
  ⟨fun h => (encode_of_decode? h).symm, fun h => h ▸ decode?_encode text⟩

theorem encode_injective {other : Text} (h : encode text = encode other) : text = other := by
  have := decode?_encode text
  rw [h, decode?_encode] at this
  exact (Option.some.inj this).symm

theorem readText_eq_ok :
    files.readText path = .ok text ↔ files.bytes? path = some (encode text) := by
  unfold readText bytes?
  cases files.readBytes path with
  | error error => simp [bind, Except.bind, Except.toOption]
  | ok bytes =>
    simp only [bind, Except.bind, Except.toOption, Option.some.injEq]
    rw [← decode?_eq_some]
    cases decode? bytes <;> simp

/-- Two file systems in which a path leads to the same bytes read the same text from it. -/
theorem readText_congr (h : later.bytes? path = files.bytes? path)
    (hr : files.readText path = .ok text) : later.readText path = .ok text := by
  rw [readText_eq_ok] at hr ⊢
  rw [h, hr]

/-! ## Where a file is written -/

theorem target_eq_ok : files.target path = .ok location ↔
    ∃ start, files.begin path = .ok start ∧ start.2.getLast? ≠ some [] ∧
      files.walk start.1 start.2 = .ok location ∧ files.lookup location ≠ some .directory := by
  unfold target
  rw [bind_eq_ok]
  refine exists_congr fun start => and_congr_right fun _ => ?_
  dsimp only
  split
  · next hs => simp [bind_eq_ok, hs]
  · next hs =>
    simp only [bind_eq_ok, ne_eq, hs, not_false_eq_true, true_and]
    constructor
    · intro h'
      obtain ⟨place, hw, h⟩ := h'
      split at h
      · cases h
      · next hd =>
        cases h
        exact ⟨hw, hd⟩
    · intro h'
      obtain ⟨hw, hd⟩ := h'
      refine ⟨location, hw, ?_⟩
      split
      · next hl => exact absurd hl hd
      · rfl

/-- The place where a file is written is in a directory. -/
theorem lookup_dropLast_of_target (h : files.target path = .ok location) :
    files.lookup location.dropLast = some .directory := by
  obtain ⟨start, hb, -, hw, -⟩ := target_eq_ok.1 h
  exact lookup_dropLast_of_begin hb (fun c piece hm hn => by simp [hn] at hm) hw

theorem resolve_of_target (h : files.target path = .ok location) :
    files.resolve path = .ok location := by
  obtain ⟨start, hb, -, hw, -⟩ := target_eq_ok.1 h
  exact resolve_eq_ok.2 ⟨start, hb, hw⟩

theorem writeText_eq_ok : files.writeText path text = .ok later ↔
    ∃ location, files.target path = .ok location ∧
      later = files.put location (.file (encode text)) := by
  unfold writeText writeBytes
  rw [bind_eq_ok]
  simp [eq_comm]

/-- The path of a text that was written reads it, and every other file is kept. -/
theorem writeText_spec (h : files.writeText path text = .ok later) :
    ∃ location, later.locate path = some location ∧ later.KeepsExcept files [location] ∧
      later.bytes? path = some (encode text) := by
  obtain ⟨location, ht, rfl⟩ := writeText_eq_ok.1 h
  obtain ⟨-, -, -, -, hn⟩ := target_eq_ok.1 ht
  have hd := lookup_dropLast_of_target ht
  have hne : location ≠ [] := by
    intro he
    subst he
    exact hn (lookup_nil files)
  have hk := keepsExcept_put hd hn (.file (encode text))
  have hr := hk.resolve (resolve_of_target ht)
  have hl := lookup_put_location hd hne (.file (encode text))
  exact ⟨location, locate_of_resolve hr, hk, bytes?_eq_some.2 (find_eq_ok.2 ⟨location, hr, hl⟩)⟩

/-- What was written can be written again as long as it is there, and the files stay as they
are. -/
theorem writeText_again {changed : List Location} (h : files.writeText path text = .ok middle)
    (hk : later.KeepsExcept middle changed) (hb : later.bytes? path = some (encode text)) :
    later.writeText path text = .ok later := by
  obtain ⟨location, ht, rfl⟩ := writeText_eq_ok.1 h
  obtain ⟨start, hs, hne, hw, hn⟩ := target_eq_ok.1 ht
  have hk' := hk.trans (keepsExcept_put (lookup_dropLast_of_target ht) hn (.file (encode text)))
  have hw' := hk'.walk hw
  have hs' : later.begin path = .ok start := (begin_congr hk'.working path).trans hs
  obtain ⟨place, hp, hl⟩ := find_eq_ok.1 (bytes?_eq_some.1 hb)
  have hr : later.resolve path = .ok location := resolve_eq_ok.2 ⟨start, hs', hw'⟩
  rw [hr] at hp
  cases hp
  have ht' : later.target path = .ok location :=
    target_eq_ok.2 ⟨start, hs', hne, hw', by simp [hl]⟩
  exact writeText_eq_ok.2 ⟨location, ht', (put_of_lookup hl).symm⟩

end FileSystem

end Synopsis
