import Synopsis.Proofs.Help.Mention

/-!
# The pieces of mentions

What is found as a mention is written in one grammar, and what its pieces are read by is another.
They agree: a mention is one piece or two, each piece is a flag, and none is dropped. So the flags
of a body are those of its mentions in the order in which the region shows them.

- `readAs_of_shape`: the pieces of a mention.
- `spread_tokens`: the mentions of a region stand in it one behind the other.
- `flagsOf_readings`: the flags of a body, mention by mention.
-/

namespace Synopsis.Help

open Text

namespace Mention

variable {token text rest : Text} {list : List Flag} {found : List Text}

/-- The pieces of a mention between its commas, trimmed, and the flags that they are read as. -/
inductive ReadAs : Text → List Flag → Prop
  | single {token : Text} {flag : Flag} : token.splitOn ',' = [token] →
      Flag.parse (trim token) = .ok flag → ReadAs token [flag]
  /-- The short flag comes first. -/
  | pair {token first second : Text} {short long : Flag} : token.splitOn ',' = [first, second] →
      Flag.parse (trim first) = .ok short → Flag.parse (trim second) = .ok long →
      short.kind = .short → long.kind = .long → ReadAs token [short, long]

/-- The mention is written for these flags, and every piece of it is read as one of them. -/
def Mentions (token : Text) (list : List Flag) : Prop :=
  (∃ rest, Shape list token rest) ∧ ReadAs token list

/-- The texts stand in the text one behind the other, with gaps between them. -/
inductive Spread : Text → List Text → Prop
  | nil (text : Text) : Spread text []
  | cons (gap token : Text) {rest : Text} {found : List Text} : Spread rest found →
      Spread (gap ++ token ++ rest) (token :: found)

theorem readAs_of_shape (h : Shape list token rest) : ReadAs token list := by
  cases h with
  | @short flag _ _ _ =>
    obtain ⟨hsplit, hparse⟩ := splitOn_literal flag
    exact .single hsplit hparse
  | @long flag _ _ _ =>
    obtain ⟨hsplit, hparse⟩ := splitOn_literal flag
    exact .single hsplit hparse
  | @pair short long _ _ _ hs hk hl hr _ =>
    obtain ⟨hsplit, hfirst, hsecond⟩ := splitOn_pair hl hr short long
    exact .pair hsplit hfirst hsecond hs hk

/-- No piece is dropped: what a mention is read as is what its flags are. -/
theorem flags_of_mentions (h : Mentions token list) : flags token = list := by
  obtain ⟨⟨rest, hs⟩, -⟩ := h
  exact flags_of_shape hs

theorem exists_mentions {atStart : Bool} (h : token ∈ tokens atStart text) :
    ∃ list, Mentions token list := by
  obtain ⟨front, rest, hsite⟩ := exists_site_of_mem_tokens h
  obtain ⟨list, hs⟩ := hsite.shape
  exact ⟨list, ⟨rest, hs⟩, readAs_of_shape hs⟩

/-! ## One behind the other -/

theorem Spread.append (h : Spread text found) (before : Text) : Spread (before ++ text) found := by
  cases h with
  | nil => exact .nil _
  | cons gap token h =>
    rw [← List.append_assoc, ← List.append_assoc]
    exact .cons (before ++ gap) token h

theorem spread_tokens (atStart : Bool) (text : Text) : Spread text (tokens atStart text) := by
  induction atStart, text using tokens.induct with
  | case1 atStart =>
    rw [tokens]
    exact .nil []
  | case2 atStart c text token rest hhere ih =>
    obtain ⟨front, hsite⟩ := site_of_here? hhere
    rw [tokens_of_here? hhere, hsite.split]
    exact .cons front token ih
  | case3 atStart c text hhere ih =>
    rw [tokens_of_here?_eq_none hhere]
    exact ih.append [c]

theorem exists_readings (h : ∀ token ∈ found, ∃ list, Mentions token list) :
    ∃ readings, List.Forall₂ Mentions found readings ∧
      found.flatMap flags = readings.flatten := by
  induction found with
  | nil => exact ⟨[], .nil, rfl⟩
  | cons token found ih =>
    rw [List.forall_mem_cons] at h
    obtain ⟨⟨list, hm⟩, hfound⟩ := h
    obtain ⟨readings, hall, heq⟩ := ih hfound
    refine ⟨list :: readings, .cons hm hall, ?_⟩
    rw [List.flatMap_cons, List.flatten_cons, flags_of_mentions hm, heq]

end Mention

open Mention

/-- Every mention of a region is one piece or a short and a long one, and every piece is read as a
flag. The mentions stand in the region one behind the other, and the flags of a body with this
region are the flags of their pieces in this order. -/
theorem flagsOf_readings (region : Text) : ∃ readings,
    List.Forall₂ Mentions (tokens true region) readings ∧ Spread region (tokens true region) ∧
      ∀ body, flagRegion body = region → flagsOf body = readings.flatten := by
  obtain ⟨readings, hall, heq⟩ :=
    exists_readings fun _ (h : _ ∈ tokens true region) => exists_mentions h
  refine ⟨readings, hall, spread_tokens true region, fun body hb => ?_⟩
  rw [flagsOf, hb, heq]

/-- A pair with blanks on both sides of its comma, behind a flag in brackets. -/
theorem flagsOf_readings_shown :
    let body : Text := " [-q] -f ,\t--dry-run  same as -n"
    let region : Text := "[-q] -f ,\t--dry-run"
    flagRegion body = region ∧ ∃ readings,
      List.Forall₂ Mentions (tokens true region) readings ∧ flagsOf body = readings.flatten ∧
        readings.flatten.map Flag.literal = ["-q".toList, "-f".toList, "--dry-run".toList] := by
  intro body region
  have hregion : flagRegion body = region := by decide +kernel
  obtain ⟨readings, hall, -, hflags⟩ := flagsOf_readings region
  have hliterals : (flagsOf body).map Flag.literal =
      ["-q".toList, "-f".toList, "--dry-run".toList] := by decide +kernel
  refine ⟨hregion, readings, hall, hflags body hregion, ?_⟩
  rw [← hflags body hregion]
  exact hliterals

end Synopsis.Help
