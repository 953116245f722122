import Synopsis.Proofs.Readme.Section
import Synopsis.Readme.Bundled

/-!
# Two sections in one document

Replacing one section can remove or move the markers of another one, but a document that is settled
for one section stays so: no marker of it reaches over the first character of the other section,
and none starts within the text that is put in its place. So the bundled sections, replaced one
after the other, are replaced for good.

- `Spliced.occurrence`: what occurs in a document with parts replaced was there before.
- `Settled.spliced`: a document that is settled for one section stays so.
- `replaceBundled_idem`: replacing both bundled sections again changes nothing.
-/

namespace Synopsis.Readme

open Text

variable {document later : Text}

/-! ## Documents with parts replaced -/

/-- The later document has some parts of the document replaced, each of them a text that starts
with the character `c` by the text of `c` and `new`. -/
inductive Spliced (c : Char) (new : Text) : Text → Text → Prop
  | same (text : Text) : Spliced c new text text
  | part {kept old rest later : Text} : Spliced c new rest later →
      Spliced c new (kept ++ c :: (old ++ rest)) (kept ++ c :: (new ++ later))

namespace Spliced

variable {c x : Char} {new pattern a b : Text}

/-- What occurs in the later document was there before, and what follows it was too, with parts
replaced. -/
theorem occurrence (hc : c ∉ x :: pattern) (hx : x ∉ new) (h : Spliced c new document later)
    (ho : later = a ++ (x :: pattern) ++ b) :
    ∃ a' b', document = a' ++ (x :: pattern) ++ b' ∧ Spliced c new b' b := by
  induction h generalizing a with
  | same text => exact ⟨a, b, ho, .same b⟩
  | @part kept old rest later h ih =>
    rcases occurrence_append_cons hc ho.symm with ⟨more, rfl, rfl⟩ | ⟨more, rfl, hm⟩
    · exact ⟨a, more ++ c :: (old ++ rest), by simp, .part h⟩
    · obtain ⟨front, rfl, hf⟩ := occurrence_append hx hm.symm
      obtain ⟨a', b', rfl, hs⟩ := ih hf
      exact ⟨kept ++ c :: (old ++ a'), b', by simp, hs⟩

theorem occurs (hc : c ∉ x :: pattern) (hx : x ∉ new) (h : Spliced c new document later)
    (hp : x :: pattern <:+: later) : x :: pattern <:+: document := by
  obtain ⟨a, b, ho⟩ := hp
  obtain ⟨a', b', rfl, -⟩ := h.occurrence hc hx ho.symm
  exact List.infix_append _ _ _

theorem append (front : Text) (h : Spliced c new document later) :
    Spliced c new (front ++ document) (front ++ later) := by
  cases h with
  | same text => exact .same _
  | @part kept old rest later h =>
    have later : Spliced c new ((front ++ kept) ++ c :: (old ++ rest))
        ((front ++ kept) ++ c :: (new ++ later)) := .part h
    simpa using later

/-- A text without the character stays at the start of the document. -/
theorem starts (hc : c ∉ pattern) (h : Spliced c new document later)
    (hp : pattern <+: document) : pattern <+: later := by
  cases h with
  | same text => exact hp
  | part h => exact ((prefix_append_cons hc).1 hp).trans (List.prefix_append _ _)

end Spliced

theorem spliced_replaceSection {markers : Markers} {c : Char} {name new : Text}
    (hc : markers.start = c :: name) (document : Text) :
    Spliced c new document (replaceSection markers (c :: new) document) := by
  have hs : markers.start ≠ [] := hc ▸ List.cons_ne_nil c name
  induction document using cut_induction markers hs with
  | missing document hm =>
    rw [replaceSection_of_cut?_eq_none _ hm]
    exact .same document
  | present before part rest hp hb ho ih =>
    rw [replaceSection_of_section hs hp hb ho]
    obtain ⟨old, rfl⟩ := hp.starts
    have later : Spliced c new (before ++ c :: (name ++ old ++ rest))
        (before ++ c :: (new ++ replaceSection markers (c :: new) rest)) := .part ih
    simpa [hc] using later

/-- A document that is settled for a section stays so when parts are replaced whose first character
does not occur in the section, and in whose place neither of its markers starts. -/
theorem Markers.Settled.spliced {markers : Markers} {replacement name literal new : Text}
    {c x y : Char} (hd : markers.Settled replacement document) (h : Spliced c new document later)
    (hs : markers.start = x :: name) (hl : markers.ending.literal = y :: literal)
    (hr : markers.IsSection replacement) (hc : c ∉ replacement ++ markers.ending.literal)
    (hx : x ∉ new) (hy : y ∉ new) : markers.Settled replacement later := by
  rw [List.mem_append, not_or] at hc
  have hcs : c ∉ markers.start := fun hm => hc.1 (hr.starts.subset hm)
  have hco : c ∉ replacement ++ markers.ending.outside := by
    rw [← markers.ending.inside_append_outside, List.mem_append, not_or] at hc
    exact fun hm => (List.mem_append.1 hm).elim hc.1 hc.2.2
  intro a b hab hb
  rw [hs] at hab hcs
  obtain ⟨a', b', hd', hsp⟩ := h.occurrence hcs hx hab
  rw [← hs] at hd'
  have ended : markers.ending.literal <:+: b' := by
    rw [hl] at hb hc ⊢
    exact hsp.occurs hc.2 hy hb
  exact (hsp.append markers.start).starts hco (hd a' b' hd' ended)

/-! ## The bundled sections -/

/-- The boundaries of the section on detecting. -/
def detectMarkers : Markers := ⟨"Detecting gcrypt repos", some '=', .through "Exit status is 0"⟩

/-- The boundaries of the section on cleaning. -/
def cleanMarkers : Markers := ⟨"Cleaning gcrypt repos", some '=', .before "\nKnown issues"⟩

/-- A document with both bundled sections replaced. -/
def replaceBundled (document : Text) : Text :=
  replaceSection cleanMarkers cleanTemplate (replaceSection detectMarkers detectTemplate document)

theorem isSection_detectTemplate : detectMarkers.IsSection detectTemplate :=
  isSection_of_cut? (by decide +kernel)

theorem isSection_cleanTemplate : cleanMarkers.IsSection cleanTemplate :=
  isSection_of_cut? (by decide +kernel)

/-- The first characters of the markers occur in the templates at the start of a section only, and
there is no placeholder. -/
theorem notMem_detectTemplate : 'D' ∉ detectTemplate.tail ∧
    'C' ∉ detectTemplate ++ detectMarkers.ending.literal ∧ '{' ∉ detectTemplate := by
  decide +kernel

theorem notMem_cleanTemplate : cleanTemplate.head? = some 'C' ∧ 'C' ∉ cleanTemplate.tail ∧
    'D' ∉ cleanTemplate.tail ∧ 'E' ∉ cleanTemplate.tail ∧ '{' ∉ cleanTemplate := by
  decide +kernel

theorem cleanTemplate_eq : cleanTemplate = 'C' :: cleanTemplate.tail := by
  obtain ⟨rest, hr⟩ := List.head?_eq_some_iff.1 notMem_cleanTemplate.1
  rw [hr, List.tail_cons]

/-- A document with both sections replaced is settled for the first one. -/
theorem settled_detect (document : Text) :
    detectMarkers.Settled detectTemplate (replaceBundled document) := by
  obtain ⟨hd, hc, -⟩ := notMem_detectTemplate
  obtain ⟨-, -, hx, hy, -⟩ := notMem_cleanTemplate
  have settled : detectMarkers.Settled detectTemplate
      (replaceSection detectMarkers detectTemplate document) :=
    settled_replaceSection (c := 'D') rfl isSection_detectTemplate hd (by decide) document
  have spliced : Spliced 'C' cleanTemplate.tail
      (replaceSection detectMarkers detectTemplate document) (replaceBundled document) := by
    rw [replaceBundled, cleanTemplate_eq]
    exact spliced_replaceSection rfl _
  exact settled.spliced spliced rfl rfl isSection_detectTemplate hc hx hy

/-- And for the second one. -/
theorem settled_clean (document : Text) :
    cleanMarkers.Settled cleanTemplate (replaceBundled document) :=
  settled_replaceSection (c := 'C') rfl isSection_cleanTemplate notMem_cleanTemplate.2.1
    (by decide +kernel) _

/-- Replacing both bundled sections again changes nothing. -/
theorem replaceBundled_idem (document : Text) :
    replaceBundled (replaceBundled document) = replaceBundled document := by
  rw [replaceBundled, replaceSection_of_settled isSection_detectTemplate (settled_detect document),
    replaceSection_of_settled isSection_cleanTemplate (settled_clean document)]

end Synopsis.Readme
