import Synopsis.Proofs.Readme.Outline
import Synopsis.Proofs.Text.Lines

/-!
# Headings of sections

A section with a rule starts with its heading and a rule of the same length on the next line. The
start marker is searched as a text, so the heading ends its line but need not start it, and the
rule starts its line but need not end it: a longer heading with a longer rule is taken for the
section if it ends in the same words.

- `Outline.Shows`: a section of an outline, with the text in front of it and the text after it.
- `splitOn_of_isSection`: the two lines that a section with a rule starts in.
- `replaceSection_heading`: which sections are replaced, and which of them start at a heading line.
- `replaceSection_heading_longer`: the end of another heading is taken for the section.
-/

namespace Synopsis.Readme

open Text

variable {markers : Markers} {outline : Outline} {document front part back : Text} {c : Char}

/-! ## The sections of an outline -/

/-- The outline shows the section between the text in front of it and the text after it. -/
inductive Outline.Shows : Outline → Text → Text → Text → Prop
  | first (piece part : Text) (rest : Outline) :
    Shows (.cons piece part rest) piece part rest.document
  | later (piece skipped : Text) {rest : Outline} {front part back : Text}
      (h : Shows rest front part back) :
    Shows (.cons piece skipped rest) (piece ++ skipped ++ front) part back

theorem Outline.Shows.document_eq (h : outline.Shows front part back) :
    outline.document = front ++ part ++ back := by
  induction h with
  | first piece part rest => rfl
  | later piece skipped _ ih => rw [Outline.document, ih]; simp only [List.append_assoc]

theorem Outline.Exact.isSection (he : outline.Exact markers) (h : outline.Shows front part back) :
    markers.IsSection part := by
  induction h with
  | first => exact he.1
  | later _ _ _ ih => exact ih he.2.2.2

/-! ## The lines that a section starts in -/

/-- The rule under the heading of a section. -/
def Markers.rule (markers : Markers) (c : Char) : Text := List.replicate markers.heading.length c

/-- The next lines of the document after the text in front are these lines, and the first of them
starts there. -/
def LinesAt (document front : Text) (shown : List Text) : Prop :=
  ∃ above below, document.splitOn '\n' = above ++ shown ++ below ∧ front = unlines above

theorem start_of_underline (hc : markers.underline = some c) :
    markers.start = markers.heading ++ '\n' :: markers.rule c := by
  rw [Markers.start, hc, Markers.rule]

theorem notMem_rule (markers : Markers) (hn : c ≠ '\n') : '\n' ∉ markers.rule c := fun h =>
  hn (List.eq_of_mem_replicate h).symm

/-- A section with a rule starts in a line that the heading ends, and goes on in a line that the
rule starts. -/
theorem splitOn_of_isSection (hc : markers.underline = some c) (hn : c ≠ '\n')
    (hh : '\n' ∉ markers.heading) (hp : markers.IsSection part) (front back : Text) :
    ∃ above title more below,
      (front ++ part ++ back).splitOn '\n' =
        above ++ (title ++ markers.heading) :: (markers.rule c ++ more) :: below ∧
      front = unlines above ++ title ∧ '\n' ∉ title := by
  obtain ⟨body, rfl⟩ := hp.starts
  obtain ⟨above, title, rfl, ha, ht⟩ := exists_unlines_append front
  obtain ⟨more, below, -, hr⟩ := splitOn_append_of_notMem (notMem_rule markers hn) (body ++ back)
  refine ⟨above, title, more, below, ?_, rfl, ht⟩
  have hd : unlines above ++ title ++ (markers.start ++ body) ++ back =
      unlines above ++
        ((title ++ markers.heading) ++ '\n' :: (markers.rule c ++ (body ++ back))) := by
    rw [start_of_underline hc]
    simp only [List.append_assoc, List.cons_append]
  rw [hd, splitOn_unlines_append ha,
    List.splitOn_append_cons_self_of_not_mem (by simp [ht, hh]), hr]

/-- A line that ends in the heading and one that starts with the rule are the heading and the rule
exactly if nothing stands before the one and after the other. -/
theorem linesAt_iff {heading rule title more : Text} {above below : List Text}
    (hd : document.splitOn '\n' = above ++ (title ++ heading) :: (rule ++ more) :: below)
    (ht : '\n' ∉ title) :
    LinesAt document (unlines above ++ title) [heading, rule] ↔ title = [] ∧ more = [] := by
  have hlines : ∀ line ∈ document.splitOn '\n', '\n' ∉ line := fun _ => notMem_of_mem_splitOn
  constructor
  · intro h
    obtain ⟨above', below', hd', hf⟩ := h
    rw [← List.append_nil (unlines above')] at hf
    obtain ⟨rfl, rfl⟩ := unlines_append_inj (fun line hl => hlines line (by simp [hd, hl]))
      (fun line hl => hlines line (by simp [hd', hl])) ht (by simp) hf
    rw [hd, List.append_assoc, List.append_cancel_left_eq] at hd'
    obtain ⟨hm, -⟩ : more = [] ∧ below = below' := by simpa using congrArg List.tail hd'
    exact ⟨rfl, hm⟩
  · rintro ⟨rfl, rfl⟩
    exact ⟨above, below, by simpa using hd, by rw [List.append_nil]⟩

/-! ## The sections that are replaced -/

/-- Each section that is replaced starts in two lines of the document, of which the first ends in
the heading and the second starts with the rule. It starts at a heading line of its own exactly if
they are the heading and the rule. Nothing but these sections is replaced. -/
theorem replaceSection_heading (hc : markers.underline = some c) (hn : c ≠ '\n')
    (hh : '\n' ∉ markers.heading) (replacement document : Text) :
    ∃ outline : Outline, outline.Exact markers ∧ outline.document = document ∧
      replaceSection markers replacement document = (outline.fill replacement).document ∧
      ∀ front part back, outline.Shows front part back → document = front ++ part ++ back ∧
        ∃ above title more below,
          document.splitOn '\n' =
            above ++ (title ++ markers.heading) :: (markers.rule c ++ more) :: below ∧
          front = unlines above ++ title ∧
          (LinesAt document front [markers.heading, markers.rule c] ↔ title = [] ∧ more = []) := by
  have hs : markers.start ≠ [] := by simp [start_of_underline hc]
  obtain ⟨outline, he, rfl⟩ := Outline.exists_exact hs document
  refine ⟨outline, he, rfl, he.replaceSection hs replacement, fun front part back h => ?_⟩
  refine ⟨h.document_eq, ?_⟩
  obtain ⟨above, title, more, below, hd, rfl, ht⟩ :=
    splitOn_of_isSection hc hn hh (he.isSection h) front back
  rw [← h.document_eq] at hd
  exact ⟨above, title, more, below, hd, rfl, linesAt_iff hd ht⟩

/-- A section at a heading line of its own is replaced, heading included. -/
theorem replaceSection_heading_shown :
    let markers : Markers := ⟨"Usage", some '=', .before "\nEnd"⟩
    let document : Text := "Title\n\nUsage\n=====\n\nold\n\nEnd\n"
    markers.underline = some '=' ∧ '=' ≠ '\n' ∧ '\n' ∉ markers.heading ∧
      LinesAt document "Title\n\n" [markers.heading, markers.rule '='] ∧
      replaceSection markers "new\n" document = "Title\n\nnew\n\nEnd\n".toList := by
  intro markers document
  have hh : '\n' ∉ markers.heading := by decide
  have hc : markers.underline = some '=' := rfl
  obtain ⟨outline, he, hd, hr, -⟩ := replaceSection_heading hc (by decide) hh "new\n" document
  obtain rfl : outline = .cons "Title\n\n" "Usage\n=====\n\nold\n" (.last "\nEnd\n") :=
    he.unique (by decide +kernel) hd
  have hline : LinesAt document "Title\n\n" [markers.heading, markers.rule '='] :=
    ⟨["Title", ""], ["", "old", "", "End", ""], by decide +kernel, rfl⟩
  exact ⟨hc, by decide, hh, hline, hr⟩

/-- The end of a longer heading and the start of a longer rule are taken for a section. -/
theorem replaceSection_heading_longer :
    let markers : Markers := ⟨"Usage", some '=', .before "\nEnd"⟩
    let document : Text := "My Usage\n========\n\nold\n\nEnd\n"
    let outline : Outline := .cons "My " "Usage\n========\n\nold\n" (.last "\nEnd\n")
    outline.Exact markers ∧ outline.document = document ∧
      outline.Shows "My " "Usage\n========\n\nold\n" "\nEnd\n" ∧
      ¬ LinesAt document "My " [markers.heading, markers.rule '='] ∧
      replaceSection markers "Usage\n=====\n\nnew\n" document =
        "My Usage\n=====\n\nnew\n\nEnd\n".toList := by
  intro markers document outline
  refine ⟨by decide +kernel, rfl, .first _ _ _, fun h => ?_, by decide +kernel⟩
  obtain ⟨above, below, hd, -⟩ := h
  have hm : markers.heading ∈ document.splitOn '\n' := by simp [hd]
  exact absurd hm (by decide +kernel)

end Synopsis.Readme
