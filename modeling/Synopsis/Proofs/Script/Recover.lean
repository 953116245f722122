import Mathlib.Data.List.TakeWhile
import Synopsis.Proofs.Help.Name
import Synopsis.Proofs.Script.CommandList
import Synopsis.Proofs.Script.Render
import Synopsis.Proofs.Template
import Synopsis.Proofs.Text.Blank
import Synopsis.Proofs.Text.Search
import Synopsis.Script.Bundled
import Synopsis.Script.Recover

/-!
# Command lists that are found again

A script shows its command list in a frame, and the list is found if the frame opens nowhere
earlier and the list does not close it. In the bundled templates the first frame is that of the
command list, whatever the flags and their descriptions are.

- `ListFrame.search_framed`: the list in the first frame of a text is found.
- `bundledTemplate_framed`: where the bundled templates have their command list.
- `recover_render_bundled`: every bundled script gives its commands back.
-/

namespace Synopsis.Script

open Text

namespace ListFrame

variable {frame : ListFrame} {lead list rest : Text} {c : Char} {name : Text}

/-- The list in its frame, and what follows it. -/
def framed (frame : ListFrame) (list rest : Text) : Text :=
  frame.opening ++ (list ++ frame.stop :: (frame.closing ++ rest))

/-- The text without the blanks that may precede a frame. -/
def trimmed (frame : ListFrame) (text : Text) : Text :=
  if frame.opensLine then trimStart text else text

/-- A frame can open after the text if it must open a line: the last line of the text is blank.
Whether the text itself starts a line is told. -/
def opensAfter : Bool → Text → Bool
  | atLineStart, [] => atLineStart
  | atLineStart, c :: text =>
    (atLineStart && (c :: text).all isBlank) || opensAfter (c == '\n') text

theorem here?_framed (hl : frame.stop ∉ list) {text : Text}
    (ht : frame.trimmed text = frame.framed list rest) : frame.here? text = some list := by
  have hne : ∀ d ∈ list, (decide (d ≠ frame.stop)) = true :=
    fun d hd => decide_eq_true fun he => hl (he ▸ hd)
  have hopen : after? frame.opening (frame.trimmed text) =
      some (list ++ frame.stop :: (frame.closing ++ rest)) := by
    rw [ht, after?_eq_some_iff]
    rfl
  have hclose : after? (frame.stop :: frame.closing) (frame.stop :: (frame.closing ++ rest)) =
      some rest := after?_eq_some_iff.2 rfl
  have htake : (list ++ frame.stop :: (frame.closing ++ rest)).takeWhile (· ≠ frame.stop) =
      list := by
    rw [List.takeWhile_append_of_pos hne, List.takeWhile_cons_of_neg (by simp), List.append_nil]
  have hdrop : (list ++ frame.stop :: (frame.closing ++ rest)).dropWhile (· ≠ frame.stop) =
      frame.stop :: (frame.closing ++ rest) := by
    rw [List.dropWhile_append_of_pos hne, List.dropWhile_cons_of_neg (by simp)]
  show (after? frame.opening (frame.trimmed text) >>= fun text =>
    after? (frame.stop :: frame.closing) (text.dropWhile (· ≠ frame.stop)) >>= fun _ =>
      some (text.takeWhile (· ≠ frame.stop))) = some list
  rw [hopen, Option.bind_eq_bind, Option.bind_some, hdrop, hclose, htake]
  rfl

theorem here?_eq_none {text : Text} (h : ¬ frame.opening <+: frame.trimmed text) :
    frame.here? text = none := by
  have hopen := after?_eq_none.2 h
  show (after? frame.opening (frame.trimmed text) >>= fun _ => _) = none
  rw [hopen]
  rfl

/-- The blanks before a frame are those of the text before it. -/
theorem trimmed_append (ho : frame.opening = c :: name) (hc : isBlank c = false)
    (lead list rest : Text) : frame.trimmed (lead ++ frame.framed list rest) =
      frame.trimmed lead ++ frame.framed list rest := by
  unfold trimmed
  split
  · rw [trimStart, trimStart, List.dropWhile_append]
    split
    · next he =>
      rw [List.isEmpty_iff.1 he, framed, ho, List.cons_append, List.nil_append,
        List.dropWhile_cons_of_neg (by simp [hc])]
    · rfl
  · rfl

theorem firstAfter_trimmed {pattern : Text} (h : FirstAfter pattern lead) :
    FirstAfter pattern (frame.trimmed lead) := by
  have hsuffix : frame.trimmed lead <:+ lead := by
    unfold trimmed
    split
    · exact List.dropWhile_suffix _
    · exact List.suffix_rfl
  obtain ⟨front, hfront⟩ := hsuffix
  rw [← hfront] at h
  exact h.of_append front

/-- The list in the first frame of a text is found, if it does not close the frame. -/
theorem search_framed (ho : frame.opening = c :: name) (hc : isBlank c = false)
    (hf : FirstAfter frame.opening lead) (hl : frame.stop ∉ list) (atLineStart : Bool)
    (hopen : frame.opensLine = true → opensAfter atLineStart lead = true) (rest : Text) :
    frame.search atLineStart (lead ++ frame.framed list rest) = some list := by
  -- Where the search stops, it stops with the list.
  have hhere : ∀ front, frame.trimmed front = [] →
      frame.here? (front ++ frame.framed list rest) = some list := by
    intro front hfront
    exact here?_framed hl (by rw [trimmed_append ho hc, hfront, List.nil_append])
  induction lead generalizing atLineStart with
  | nil =>
    have hactive : (atLineStart || !frame.opensLine) = true := by
      cases hline : frame.opensLine with
      | true => simpa [opensAfter] using hopen hline
      | false => simp
    have hnil := hhere [] (by simp [trimmed, trimStart])
    rw [List.nil_append, framed, ho, List.cons_append] at hnil ⊢
    rw [search, if_pos hactive, hnil]
  | cons d lead ih =>
    rw [List.cons_append, search]
    by_cases hfound : (atLineStart || !frame.opensLine) = true ∧ frame.trimmed (d :: lead) = []
    · have hcons := hhere (d :: lead) hfound.2
      rw [List.cons_append] at hcons
      rw [if_pos hfound.1, hcons]
    · have hnone : (if (atLineStart || !frame.opensLine) = true then
          frame.here? (d :: (lead ++ frame.framed list rest)) else none) = none := by
        split
        · next hactive =>
          have hne : frame.trimmed (d :: lead) ≠ [] := fun h => hfound ⟨hactive, h⟩
          refine here?_eq_none ?_
          rw [← List.cons_append, trimmed_append ho hc, framed, ← List.append_assoc]
          exact (firstAfter_trimmed hf).not_isPrefix_append hne _
        · rfl
      rw [hnone]
      refine ih (hf.of_append [d]) (d == '\n') fun hline => ?_
      have hafter := hopen hline
      rw [opensAfter, Bool.or_eq_true, Bool.and_eq_true] at hafter
      rcases hafter with ⟨hstart, hall⟩ | hafter
      · -- The frame would have been found at the start of this line.
        refine absurd ⟨by rw [hstart, Bool.true_or], ?_⟩ hfound
        rw [trimmed, if_pos hline, trimStart, List.dropWhile_eq_nil_iff]
        exact List.all_eq_true.1 hall
      · exact hafter

end ListFrame

/-! ## The bundled scripts -/

open ListFrame

/-- The bundled templates have the placeholder of the command list in the first frame, and no other
placeholder before it. -/
theorem bundledTemplate_framed (dialect : Dialect) : ∃ lead rest,
    bundledTemplate dialect = lead ++
      (listFrame dialect).framed ('{' :: ((Keys.standard dialect).commands ++ ['}'])) rest ∧
    FirstAfter (listFrame dialect).opening lead ∧
    Template.placeholders (Template.parse (lead ++ (listFrame dialect).opening)) = [] ∧
    ((listFrame dialect).opensLine = true → opensAfter true lead = true) := by
  have found : (splitAtFirst? (listFrame dialect).opening (bundledTemplate dialect)).any
      (fun split =>
        (after? ('{' :: ((Keys.standard dialect).commands ++ '}' :: (listFrame dialect).stop ::
          (listFrame dialect).closing)) split.2).isSome &&
        (Template.placeholders (Template.parse (split.1 ++ (listFrame dialect).opening))).isEmpty &&
        (!(listFrame dialect).opensLine || opensAfter true split.1)) = true := by
    cases dialect with
    | bash => decide +kernel
    | zsh => decide +kernel
    | fish => decide +kernel
  obtain ⟨⟨lead, behind⟩, hs, hb⟩ := (Option.any_eq_true _ _).1 found
  obtain ⟨ht, hf⟩ := splitAtFirst?_eq_some.1 hs
  simp only [Bool.and_eq_true, Option.isSome_iff_exists, after?_eq_some_iff, List.isEmpty_iff,
    Bool.or_eq_true, Bool.not_eq_true'] at hb
  obtain ⟨⟨⟨rest, rfl⟩, hl⟩, ho⟩ := hb
  refine ⟨lead, rest, ?_, hf, hl, fun hline => ?_⟩
  · rw [ht, framed]
    simp
  · exact ho.resolve_left (by simp [hline])

/-- A bundled script shows its command list in the first frame. -/
theorem render_bundled (dialect : Dialect) (context : Context) : ∃ lead rest,
    render dialect (Template.parse (bundledTemplate dialect)) context (Keys.standard dialect) =
      lead ++ (listFrame dialect).framed (commandList context.commands) rest ∧
    FirstAfter (listFrame dialect).opening lead ∧
    ((listFrame dialect).opensLine = true → opensAfter true lead = true) := by
  obtain ⟨lead, rest, ht, hf, hl, ho⟩ := bundledTemplate_framed dialect
  have hkey : (Keys.standard dialect).commands ≠ [] ∧
      (Keys.standard dialect).commands.all Template.isKeyChar = true := by
    cases dialect <;> decide
  have hkeys : (Keys.standard dialect).commands ≠ (Keys.standard dialect).flags := by
    cases dialect <;> decide
  have hclose : '{' ∉ (listFrame dialect).stop :: (listFrame dialect).closing := by
    cases dialect <;> decide
  refine ⟨lead, (Template.parse rest).render (context.bindings dialect (Keys.standard dialect)),
    ?_, hf, ho⟩
  have hsplit : bundledTemplate dialect = (lead ++ (listFrame dialect).opening) ++
      '{' :: ((Keys.standard dialect).commands ++
        '}' :: ((listFrame dialect).stop :: (listFrame dialect).closing ++ rest)) := by
    rw [ht, framed]
    simp
  rw [render, hsplit, Template.render_parse_append hl,
    Template.render_parse_placeholder hkey.1 (List.all_eq_true.1 hkey.2)
      (Context.lookup_commands context dialect hkeys),
    Template.render_parse_append_of_notMem hclose, framed]
  simp

/-- What a bundled script shows of a list of commands in order. A command holds no blank and no
character that closes a list. -/
theorem recover_render {context : Context} (hi : context.commands.Pairwise (· < ·))
    (hw : ∀ name ∈ context.commands, name ≠ [] ∧
      ∀ c ∈ name, isBlank c = false ∧ c ≠ '"' ∧ c ≠ ')') (dialect : Dialect) :
    recover dialect (render dialect (Template.parse (bundledTemplate dialect)) context
      (Keys.standard dialect)) = some context.commands := by
  have hlist : commandList context.commands = joinWords context.commands :=
    commandList_of_increasing hi
  have hstop : (listFrame dialect).stop ∉ commandList context.commands := by
    have hspace : ' ' ≠ (listFrame dialect).stop := by cases dialect <;> decide
    rw [hlist]
    intro hm
    rcases mem_of_mem_joinWords hm with he | ⟨name, hn, hm⟩
    · exact hspace he.symm
    · obtain ⟨-, hquote, hparen⟩ := (hw name hn).2 _ hm
      cases dialect with
      | bash => exact hquote rfl
      | zsh => exact hparen rfl
      | fish => exact hquote rfl
  have hopening : ∃ c name, (listFrame dialect).opening = c :: name ∧ isBlank c = false := by
    cases dialect <;> exact ⟨_, _, rfl, by decide⟩
  obtain ⟨c, name, ho, hc⟩ := hopening
  obtain ⟨lead, rest, hr, hf, hl⟩ := render_bundled dialect context
  rw [recover, hr, search_framed ho hc hf hstop true hl, Option.map_some, hlist,
    words_joinWords fun name hn => ⟨(hw name hn).1, fun c hc => ((hw name hn).2 c hc).1⟩]

/-- Every bundled script gives back the commands that it completes, in the same order, whatever its
flags are. -/
theorem recover_render_bundled (policy : Policy) (help : Text) {protocol : List Text}
    (hp : ∀ name ∈ protocol, name ≠ [] ∧ ∀ c ∈ name, isBlank c = false ∧ c ≠ '"' ∧ c ≠ ')')
    (group : FlagGroup) (dialect : Dialect) :
    let table := (Help.read policy help).table
    let commands := completionCommands table protocol policy
    recover dialect (render dialect (Template.parse (bundledTemplate dialect))
      ⟨commands, table, group⟩ (Keys.standard dialect)) = some commands ∧
        commands.Pairwise (· < ·) := by
  intro table commands
  have hi : commands.Pairwise (· < ·) := increasing_completionCommands table protocol policy
  refine ⟨recover_render hi (fun name hn => ?_) dialect, hi⟩
  rcases (mem_completionCommands.1 hn).1 with ht | hm
  · have hname := Help.isCommandName_of_mem_read ht
    obtain ⟨first, others, rfl, -⟩ := Help.exists_name_eq_cons hname
    refine ⟨List.cons_ne_nil first others, fun c hc => ?_⟩
    have hlong := Help.isLongChar_of_mem_name hname hc
    exact ⟨Help.isBlank_of_isLongChar hlong, Ne.symm (Help.ne_of_isLongChar hlong (by decide)),
      Ne.symm (Help.ne_of_isLongChar hlong (by decide))⟩
  · exact hp name hm

/-- A command can be written like a placeholder, and a description like a frame. -/
theorem recover_render_bundled_braces :
    let protocol : List Text := ["commands=".toList, "\x7bclean_flags\x7d".toList]
    let group : FlagGroup := ⟨"clean", "'1:command:(x)'", "git-remote-gcrypt"⟩
    let table := (Help.read {} "Options:\n  clean\n    clean -f").table
    (∀ name ∈ protocol, name ≠ [] ∧ ∀ c ∈ name, isBlank c = false ∧ c ≠ '"' ∧ c ≠ ')') ∧
      recover .zsh (render .zsh (Template.parse (bundledTemplate .zsh))
        ⟨completionCommands table protocol {}, table, group⟩ (Keys.standard .zsh)) =
          some ["clean".toList, "commands=".toList, "\x7bclean_flags\x7d".toList] := by
  intro protocol group table
  have hall : protocol.all (fun name => !name.isEmpty &&
      name.all fun c => !isBlank c && c != '"' && c != ')') = true := by decide +kernel
  have hp : ∀ name ∈ protocol, name ≠ [] ∧ ∀ c ∈ name, isBlank c = false ∧ c ≠ '"' ∧ c ≠ ')' := by
    simpa [List.all_eq_true, and_assoc] using hall
  have hunion : (table.names ++ protocol).filter (fun name => !Policy.excludes {} name) =
      ["clean".toList, "commands=".toList, "\x7bclean_flags\x7d".toList] := by decide +kernel
  have hcommands : completionCommands table protocol {} =
      ["clean".toList, "commands=".toList, "\x7bclean_flags\x7d".toList] := by
    rw [completionCommands, hunion]
    exact sortedSet_of_increasing (by decide +kernel)
  exact ⟨hp, (recover_render_bundled {} _ hp group .zsh).1.trans (congrArg some hcommands)⟩

end Synopsis.Script
