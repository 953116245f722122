import Mathlib.Logic.ExistsUnique
import Synopsis.Proofs.Readme.Section

/-!
# Outlines

The outline of a document shows its sections, each with the piece of the document in front of it,
and the piece after the last section. Replacing the sections of a document replaces them in its
outline, and changes no piece.

- `Exact.unique`: a document has one outline at most, and `exists_exact` says that it has one.
- `replaceSection_outline`: the document with its sections replaced, told by its outline.
- `Exact.fill`: with a section in place of each section, the outline is exact again.
- `replaceSection_replaceSection`: replacing sections forgets what stood in their place.
-/

namespace Synopsis.Readme

open Text

variable {markers : Markers} {replacement : Text}

/-- The pieces of a document and the sections between them. -/
inductive Outline where
  /-- The piece after the last section. -/
  | last (piece : Text)
  /-- A piece, the section after it, and the outline of the rest. -/
  | cons (piece part : Text) (rest : Outline)

namespace Outline

variable {outline other : Outline}

/-- The document that the outline shows. -/
def document : Outline → Text
  | last piece => piece
  | cons piece part rest => piece ++ part ++ rest.document

/-- The number of sections. -/
def count : Outline → Nat
  | last _ => 0
  | cons _ _ rest => rest.count + 1

/-- The piece after the last section. -/
def lastPiece : Outline → Text
  | last piece => piece
  | cons _ _ rest => rest.lastPiece

/-- The outline with a text in place of each section. -/
def fill (text : Text) : Outline → Outline
  | last piece => last piece
  | cons piece _ rest => cons piece text (rest.fill text)

/-- The outline shows every section of its document: each part is a section, with the literal that
ends it after it or in it, no section starts earlier, and none is left in the last piece. -/
def Exact (markers : Markers) : Outline → Prop
  | last piece => ∀ a b, piece = a ++ markers.start ++ b → ¬ markers.ending.literal <:+: b
  | cons piece part rest =>
    markers.IsSection part ∧
      (∀ a b, piece ++ part = a ++ markers.start ++ b → piece.length ≤ a.length) ∧
      markers.ending.outside <+: rest.document ∧ rest.Exact markers

theorem fill_fill (first second : Text) (outline : Outline) :
    (outline.fill first).fill second = outline.fill second := by
  induction outline with
  | last piece => rfl
  | cons piece part rest ih => simp only [fill, ih]

theorem fill_of_count_eq_zero (h : outline.count = 0) : outline.fill replacement = outline := by
  cases outline with
  | last piece => rfl
  | cons piece part rest => cases h

/-! ## One outline for each document -/

/-- No section starts in the piece if the first start marker is the one of the part. -/
theorem first_iff {piece part : Text} (hp : markers.start <+: part) :
    (∀ a b, piece ++ part = a ++ markers.start ++ b → piece.length ≤ a.length) ↔
      FirstAfter markers.start piece := by
  obtain ⟨body, rfl⟩ := hp
  rw [firstAfter_iff body, List.append_assoc]

theorem exact_last {piece : Text} :
    (last piece).Exact markers ↔ cut? markers.start markers.ending piece = none :=
  cut?_eq_none.symm

/-- The first section of an exact outline is where its document is cut. -/
theorem exact_cons {piece part : Text} {rest : Outline} :
    (cons piece part rest).Exact markers ↔
      cut? markers.start markers.ending (cons piece part rest).document =
        some (piece, rest.document) ∧ rest.Exact markers := by
  constructor
  · intro h
    obtain ⟨hp, hf, ho, he⟩ := h
    exact ⟨cut?_eq_some.2 ⟨part, hp, rfl, (first_iff hp.starts).1 hf, ho⟩, he⟩
  · intro h
    obtain ⟨hc, he⟩ := h
    obtain ⟨part', hp, hd, hf, ho⟩ := cut?_eq_some.1 hc
    rw [document, List.append_left_inj, List.append_right_inj] at hd
    subst hd
    exact ⟨hp, (first_iff hp.starts).2 hf, ho, he⟩

instance decidableExact (markers : Markers) : (outline : Outline) →
    Decidable (outline.Exact markers)
  | last _ => decidable_of_iff _ exact_last.symm
  | cons _ _ rest =>
    have := decidableExact markers rest
    decidable_of_iff _ exact_cons.symm

theorem exists_exact (hs : markers.start ≠ []) (document : Text) :
    ∃ outline : Outline, outline.Exact markers ∧ outline.document = document := by
  induction document using cut_induction markers hs with
  | missing document hc => exact ⟨last document, exact_last.2 hc, rfl⟩
  | present before part rest hp hb ho ih =>
    obtain ⟨outline, he, rfl⟩ := ih
    exact ⟨cons before part outline, ⟨hp, (first_iff hp.starts).2 hb, ho, he⟩, rfl⟩

theorem Exact.unique (h : outline.Exact markers) (h' : other.Exact markers)
    (hd : outline.document = other.document) : outline = other := by
  induction outline generalizing other with
  | last piece =>
    cases other with
    | last piece' => exact congrArg last hd
    | cons piece' part' rest' =>
      have hc := (exact_cons.1 h').1
      rw [← hd, document, exact_last.1 h] at hc
      cases hc
  | cons piece part rest ih =>
    obtain ⟨hc, he⟩ := exact_cons.1 h
    cases other with
    | last piece' =>
      rw [hd, document, exact_last.1 h'] at hc
      cases hc
    | cons piece' part' rest' =>
      obtain ⟨hc', he'⟩ := exact_cons.1 h'
      rw [hd, hc', Option.some.injEq, Prod.mk.injEq] at hc
      obtain ⟨rfl, hrest⟩ := hc
      obtain rfl := ih he he' hrest.symm
      rw [document, document, List.append_left_inj, List.append_right_inj] at hd
      rw [hd]

/-! ## Replacing by outlines -/

/-- Replacing the sections of a document fills its outline. -/
theorem Exact.replaceSection (hs : markers.start ≠ []) (h : outline.Exact markers)
    (replacement : Text) :
    replaceSection markers replacement outline.document = (outline.fill replacement).document := by
  induction outline with
  | last piece => exact replaceSection_of_cut?_eq_none replacement (exact_last.1 h)
  | cons piece part rest ih =>
    obtain ⟨hp, hf, ho, he⟩ := h
    rw [document, replaceSection_of_section hs hp ((first_iff hp.starts).1 hf) ho, ih he]
    rfl

/-- With a section in place of each section, the outline is exact again. -/
theorem Exact.fill (hs : markers.start ≠ []) (h : outline.Exact markers)
    (hr : markers.IsSection replacement) (hk : markers.KeepsEnd replacement) :
    (outline.fill replacement).Exact markers := by
  induction outline with
  | last piece => exact h
  | cons piece part rest ih =>
    obtain ⟨hp, hf, ho, he⟩ := h
    refine ⟨hr, (first_iff hr.starts).2 ((first_iff hp.starts).1 hf), ?_, ih he⟩
    rw [← he.replaceSection hs]
    exact outside_prefix_replaceSection hs hr.starts hk ho

/-! ## The rounds of the search -/

/-- Each section is at least as long as the start marker. -/
theorem Exact.count_mul_le (h : outline.Exact markers) :
    outline.count * markers.start.length ≤ outline.document.length := by
  induction outline with
  | last piece => simp [count]
  | cons piece part rest ih =>
    obtain ⟨hp, -, -, he⟩ := h
    have hrest := ih he
    have hpart := hp.starts.length_le
    rw [count, document, Nat.succ_mul, List.length_append, List.length_append]
    omega

end Outline

/-- The text that is left to search when so many sections have been replaced, if there are so
many. -/
def Markers.left? (markers : Markers) : Nat → Text → Option Text
  | 0, document => some document
  | n + 1, document => (cut? markers.start markers.ending document).bind fun (_, rest) =>
    markers.left? n rest

/-- The search goes through the sections of the outline, and then ends. -/
theorem Outline.Exact.left? {outline : Outline} (h : outline.Exact markers) :
    markers.left? outline.count outline.document = some outline.lastPiece ∧
      markers.left? (outline.count + 1) outline.document = none := by
  induction outline with
  | last piece =>
    refine ⟨rfl, ?_⟩
    rw [Markers.left?, document, exact_last.1 h]
    rfl
  | cons piece part rest ih =>
    obtain ⟨hc, he⟩ := exact_cons.1 h
    rw [Markers.left?, count, Markers.left?, hc]
    exact ih he

/-! ## What replacing does -/

/-- A document has exactly one outline that shows all of its sections. Replacing the sections
replaces them in the outline and nothing else, so it changes nothing if there are none. The search
takes one round for each section, each of at least the length of the start marker, and then ends. -/
theorem replaceSection_outline (hs : markers.start ≠ []) (replacement document : Text) :
    (∃! outline : Outline, outline.Exact markers ∧ outline.document = document) ∧
    ∀ outline : Outline, outline.Exact markers → outline.document = document →
      replaceSection markers replacement document = (outline.fill replacement).document ∧
      (outline.count = 0 → replaceSection markers replacement document = document) ∧
      markers.left? outline.count document = some outline.lastPiece ∧
      markers.left? (outline.count + 1) document = none ∧
      outline.count * markers.start.length ≤ document.length := by
  refine ⟨?_, ?_⟩
  · obtain ⟨outline, he, hd⟩ := Outline.exists_exact hs document
    exact ⟨outline, ⟨he, hd⟩, fun other h => h.1.unique he (h.2.trans hd.symm)⟩
  · intro outline he hd
    subst hd
    have hfill := he.replaceSection hs replacement
    refine ⟨hfill, fun hn => ?_, he.left?.1, he.left?.2, he.count_mul_le⟩
    rw [hfill, Outline.fill_of_count_eq_zero hn]

/-- Two sections are replaced, and a start marker without an end after it stays. -/
theorem replaceSection_outline_stopped :
    let markers : Markers := ⟨"A", none, .through ";"⟩
    let outline : Outline := .cons [] "A one;" (.cons " mid " "A two;" (.last " A end"))
    markers.start ≠ [] ∧ outline.Exact markers ∧
      outline.document = "A one; mid A two; A end".toList ∧
      replaceSection markers "B;" "A one; mid A two; A end" = "B; mid B; A end".toList := by
  intro markers outline
  have hs : markers.start ≠ [] := by decide
  have he : outline.Exact markers := by decide
  exact ⟨hs, he, rfl, ((replaceSection_outline hs "B;" _).2 outline he rfl).1⟩

/-- Replacing the sections of a document forgets what was put in their place before, if that was a
section itself. -/
theorem replaceSection_replaceSection (hs : markers.start ≠ []) (hr : markers.IsSection replacement)
    (hk : markers.KeepsEnd replacement) (other document : Text) :
    replaceSection markers other (replaceSection markers replacement document) =
      replaceSection markers other document := by
  obtain ⟨outline, he, rfl⟩ := Outline.exists_exact hs document
  rw [he.replaceSection hs, (he.fill hs hr hk).replaceSection hs, Outline.fill_fill,
    he.replaceSection hs]

/-- The start marker may occur in the literal if the replacement starts with this literal. -/
theorem replaceSection_replaceSection_shown :
    let markers : Markers := ⟨"A", none, .before "AB"⟩
    markers.start ≠ [] ∧ markers.IsSection "ABy" ∧ markers.KeepsEnd "ABy" ∧
      replaceSection markers "Az" (replaceSection markers "ABy" "AxABqAB") = "AzAzAB".toList := by
  intro markers
  have hs : markers.start ≠ [] := by decide
  have hr : markers.IsSection "ABy" := isSection_of_cut? (by decide)
  have hk : markers.KeepsEnd "ABy" := by
    intro front back ho hf
    have : (front, back) = ([], ['B']) := by
      have := splitAtFirst?_eq_some.2 ⟨ho, hf⟩
      exact (Option.some.inj (this.symm.trans (by decide)))
    cases this
    decide
  refine ⟨hs, hr, hk, ?_⟩
  rw [replaceSection_replaceSection hs hr hk]
  decide +kernel

/-- Otherwise a section that was put in place can end later than it did. -/
theorem replaceSection_replaceSection_ne :
    let markers : Markers := ⟨"A", none, .before "AB"⟩
    markers.start ≠ [] ∧ markers.IsSection "Ay" ∧
      replaceSection markers "Ay" (replaceSection markers "Ay" "AxABqAB") ≠
        replaceSection markers "Ay" "AxABqAB" := by
  exact ⟨by decide, isSection_of_cut? (by decide), by decide +kernel⟩

end Synopsis.Readme
