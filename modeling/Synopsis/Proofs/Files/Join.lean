import Synopsis.Proofs.Files.Locate

/-!
# Joined paths

The pieces of a joined path are some that depend on the first path alone, and then those of the
second. So once one path below a directory leads somewhere, all plain paths below it are known.

- `Path.pieces_join`: the pieces of a joined path.
- `Path.join_join`: a path can be joined in two steps.
- `Path.Downward.join`: paths without two dots are joined to one without them.
- `FileSystem.locate_join`: where the paths below a common root lead.
-/

namespace Synopsis

namespace Path

variable {other : Path}

theorem join_empty (h : other.isAbsolute = false) : join ⟨[]⟩ other = other := by
  simp [join, h]

theorem join_slash (h : other.isAbsolute = false) (text : Text) :
    join ⟨text ++ ['/']⟩ other = ⟨text ++ '/' :: other.text⟩ := by
  simp [join, h]

theorem join_concat (h : other.isAbsolute = false) {c : Char} (hc : c ≠ '/') (text : Text) :
    join ⟨text ++ [c]⟩ other = ⟨text ++ c :: '/' :: other.text⟩ := by
  simp [join, h, hc]

/-- A path is empty, ends in a slash, or ends in another character. -/
theorem end_cases {motive : Path → Prop} (base : Path) (empty : motive ⟨[]⟩)
    (slash : ∀ text, motive ⟨text ++ ['/']⟩)
    (plain : ∀ text c, c ≠ '/' → motive ⟨text ++ [c]⟩) : motive base := by
  rcases base with ⟨text⟩
  rcases List.eq_nil_or_concat text with rfl | ⟨init, c, rfl⟩
  · exact empty
  · rw [List.concat_eq_append]
    by_cases hc : c = '/'
    · subst hc
      exact slash init
    · exact plain init c hc

theorem isAbsolute_append (text : Text) (c : Char) (more : Text) :
    isAbsolute ⟨text ++ c :: more⟩ = isAbsolute ⟨text ++ [c]⟩ := by
  cases text <;> simp [isAbsolute]

/-- A path that is joined to another one follows pieces that depend on that one alone. -/
theorem pieces_join (base : Path) : ∃ front : List Text, (base.isAbsolute = true → front ≠ []) ∧
    ∀ other : Path, other.isAbsolute = false → (base.join other).isAbsolute = base.isAbsolute ∧
      (base.join other).text.splitOn '/' = front ++ other.text.splitOn '/' := by
  cases base using end_cases with
  | empty =>
    refine ⟨[], by simp [isAbsolute], fun other ho => ?_⟩
    rw [join_empty ho, ho]
    exact ⟨rfl, rfl⟩
  | slash text =>
    refine ⟨text.splitOn '/', fun _ => List.splitOn_ne_nil _ _, fun other ho => ?_⟩
    rw [join_slash ho]
    exact ⟨isAbsolute_append text '/' other.text, List.splitOn_append_cons_self text other.text⟩
  | plain text c hc =>
    refine ⟨(text ++ [c]).splitOn '/', fun _ => List.splitOn_ne_nil _ _, fun other ho => ?_⟩
    rw [join_concat ho hc]
    have := List.splitOn_append_cons_self (a := '/') (text ++ [c]) other.text
    rw [List.append_assoc] at this
    exact ⟨isAbsolute_append text c _, this⟩

/-- A relative path can be joined in two steps. -/
theorem join_join {middle : Path} (hn : middle.text ≠ []) (hm : middle.isAbsolute = false)
    (ho : other.isAbsolute = false) (base : Path) :
    (base.join middle).join other = base.join (middle.join other) := by
  obtain ⟨_, -, hp⟩ := middle.pieces_join
  have hmo : (middle.join other).isAbsolute = false := ((hp other ho).1).trans hm
  cases base using end_cases with
  | empty => rw [join_empty hm, join_empty hmo]
  | slash text =>
    rw [join_slash hm, join_slash hmo]
    cases middle using end_cases with
    | empty => exact absurd rfl hn
    | slash more =>
      rw [join_slash ho]
      have := join_slash ho (text ++ '/' :: more)
      simpa using this
    | plain more c hc =>
      rw [join_concat ho hc]
      have := join_concat ho hc (text ++ '/' :: more)
      simpa using this
  | plain text d hd =>
    rw [join_concat hm hd, join_concat hmo hd]
    cases middle using end_cases with
    | empty => exact absurd rfl hn
    | slash more =>
      rw [join_slash ho]
      have := join_slash ho (text ++ d :: '/' :: more)
      simpa using this
    | plain more c hc =>
      rw [join_concat ho hc]
      have := join_concat ho hc (text ++ d :: '/' :: more)
      simpa using this

/-- The piece names a step down. -/
def isPlain (piece : Text) : Bool := isStep piece && piece != ['.', '.']

/-- The path has no two dots as a piece, so it leads up nowhere. -/
def Downward (path : Path) : Prop := ['.', '.'] ∉ path.text.splitOn '/'

instance (path : Path) : Decidable path.Downward := inferInstanceAs (Decidable (_ ∉ _))

/-- Paths without two dots are joined to one without them. -/
theorem Downward.join {base : Path} (hb : base.Downward) (ho : other.Downward) :
    (base.join other).Downward := by
  cases ha : other.isAbsolute with
  | true => rwa [join_of_isAbsolute ha]
  | false =>
    unfold Downward at hb ho ⊢
    cases base using end_cases with
    | empty => rwa [join_empty ha]
    | slash text =>
      rw [List.splitOn_append_cons_self] at hb
      rw [join_slash ha, List.splitOn_append_cons_self, List.mem_append, not_or]
      exact ⟨fun hm => hb (List.mem_append_left _ hm), ho⟩
    | plain text c hc =>
      have hsplit : text ++ c :: '/' :: other.text = (text ++ [c]) ++ '/' :: other.text := by simp
      rw [join_concat ha hc, hsplit, List.splitOn_append_cons_self, List.mem_append, not_or]
      exact ⟨hb, ho⟩

end Path

namespace FileSystem

variable {files : FileSystem} {location : Location}

theorem locateFrom_of_plain {names : List Text} (h : names.all Path.isPlain = true)
    (location : Location) : files.locateFrom location names = some (location ++ names) := by
  induction names generalizing location with
  | nil => simp [locateFrom]
  | cons name names ih =>
    simp only [List.all_cons, Bool.and_eq_true, Path.isPlain, bne_iff_ne] at h
    rw [locateFrom, if_neg h.1.2, step_of_ne h.1.2, if_pos h.1.1, ih h.2]
    simp

/-- If one relative path below a root leads to something, then all paths with plain pieces below it
lead to places below one location. -/
theorem locate_join {root path : Path} {entry : Entry} (hp : path.isAbsolute = false)
    (hf : files.find (root.join path) = .ok entry) : ∃ base : Location, ∀ other : Path,
      other.isAbsolute = false → (other.text.splitOn '/').all Path.isPlain = true →
        files.locate (root.join other) = some (base ++ other.text.splitOn '/') := by
  obtain ⟨front, ha, hj⟩ := root.pieces_join
  have start : ∃ start names, ∀ other : Path, other.isAbsolute = false →
      files.origin (root.join other) = (start, names ++ other.text.splitOn '/') := by
    cases hr : root.isAbsolute with
    | true =>
      refine ⟨[], front.drop 1, fun other ho => ?_⟩
      rw [origin, (hj other ho).1, hr, if_pos rfl, (hj other ho).2]
      cases front with
      | nil => exact absurd rfl (ha hr)
      | cons _ _ => rfl
    | false =>
      refine ⟨files.working, front, fun other ho => ?_⟩
      rw [origin, (hj other ho).1, hr, (hj other ho).2]
      rfl
  obtain ⟨start, names, ho⟩ := start
  obtain ⟨place, hr, -⟩ := find_eq_ok.1 hf
  obtain ⟨begun, hb, hw⟩ := resolve_eq_ok.1 hr
  rw [← origin_of_begin hb, ho path hp, walk_append] at hw
  cases hn : files.walk start names with
  | error error => simp [hn, Except.bind] at hw
  | ok base =>
    refine ⟨base, fun other hother hplain => ?_⟩
    rw [locate, ho other hother, locateFrom_append, locateFrom_of_walk hn]
    exact locateFrom_of_plain hplain base

end FileSystem

end Synopsis
