import Synopsis.Text.Basic

/-!
# The order of bytes

Texts are ordered by their characters, and this is the order of the bytes that a file holds for
them. Of two characters the smaller one has the smaller byte where their bytes first differ, so
whatever follows them does not count.

- `bytes_lt_bytes`: the order of texts is the order of their bytes.
-/

namespace Synopsis.Text

/-- The bytes of a text in its UTF-8 form. -/
def bytes (text : Text) : List UInt8 := text.flatMap String.utf8EncodeChar

theorem bytes_cons (c : Char) (text : Text) :
    bytes (c :: text) = String.utf8EncodeChar c ++ bytes text := rfl

theorem length_bytes (text : Text) : (bytes text).length = byteLength text := by
  induction text with
  | nil => rfl
  | cons c text ih =>
    rw [bytes_cons, List.length_append, String.length_utf8EncodeChar, ih]
    rfl

/-! ## One character -/

open String (utf8EncodeChar)

/-- A character has one to four bytes, and they are the digits of its number to the base 64. -/
theorem utf8EncodeChar_cases (c : Char) :
    (c.toNat < 0x80 ∧ utf8EncodeChar c = [.ofNat c.toNat]) ∨
    (0x80 ≤ c.toNat ∧ c.toNat < 0x800 ∧
      utf8EncodeChar c = [.ofNat (c.toNat / 64 + 192), .ofNat (c.toNat % 64 + 128)]) ∨
    (0x800 ≤ c.toNat ∧ c.toNat < 0x10000 ∧
      utf8EncodeChar c = [.ofNat (c.toNat / 64 / 64 + 224), .ofNat (c.toNat / 64 % 64 + 128),
        .ofNat (c.toNat % 64 + 128)]) ∨
    (0x10000 ≤ c.toNat ∧ c.toNat < 0x110000 ∧
      utf8EncodeChar c = [.ofNat (c.toNat / 64 / 64 / 64 + 240),
        .ofNat (c.toNat / 64 / 64 % 64 + 128), .ofNat (c.toNat / 64 % 64 + 128),
        .ofNat (c.toNat % 64 + 128)]) := by
  have hmax : c.toNat < 0x110000 := by
    rcases c.valid with h | h
    · exact Nat.lt_trans h (by decide)
    · exact h.2
  have hbytes : utf8EncodeChar c = if c.toNat ≤ 127 then [.ofNat c.toNat]
      else if c.toNat ≤ 2047 then [.ofNat (c.toNat / 64 % 32 + 192), .ofNat (c.toNat % 64 + 128)]
      else if c.toNat ≤ 65535 then [.ofNat (c.toNat / 4096 % 16 + 224),
        .ofNat (c.toNat / 64 % 64 + 128), .ofNat (c.toNat % 64 + 128)]
      else [.ofNat (c.toNat / 262144 % 8 + 240), .ofNat (c.toNat / 4096 % 64 + 128),
        .ofNat (c.toNat / 64 % 64 + 128), .ofNat (c.toNat % 64 + 128)] := rfl
  rw [hbytes]
  generalize c.toNat = v at hmax
  simp only [Nat.div_div_eq_div_mul, Nat.reduceMul]
  split
  · exact Or.inl ⟨by omega, rfl⟩
  · split
    · rw [Nat.mod_eq_of_lt (by omega : v / 64 < 32)]
      exact Or.inr (Or.inl ⟨by omega, by omega, rfl⟩)
    · split
      · rw [Nat.mod_eq_of_lt (by omega : v / 4096 < 16)]
        exact Or.inr (Or.inr (Or.inl ⟨by omega, by omega, rfl⟩))
      · rw [Nat.mod_eq_of_lt (by omega : v / 262144 < 8)]
        exact Or.inr (Or.inr (Or.inr ⟨by omega, by omega, rfl⟩))

/-- Of two characters the smaller one has the smaller bytes, whatever follows them. -/
theorem utf8EncodeChar_append_lt {c d : Char} (h : c < d) (rest more : List UInt8) :
    utf8EncodeChar c ++ rest < utf8EncodeChar d ++ more := by
  have hlt : c.toNat < d.toNat := h
  have hc := utf8EncodeChar_cases c
  have hd := utf8EncodeChar_cases d
  generalize c.toNat = v at hlt hc
  generalize d.toNat = w at hlt hd
  have hdigits : v / 64 / 64 / 64 < w / 64 / 64 / 64 ∨ v / 64 / 64 / 64 = w / 64 / 64 / 64 ∧
      (v / 64 / 64 % 64 < w / 64 / 64 % 64 ∨ v / 64 / 64 % 64 = w / 64 / 64 % 64 ∧
      (v / 64 % 64 < w / 64 % 64 ∨ v / 64 % 64 = w / 64 % 64 ∧ v % 64 < w % 64)) := by omega
  obtain ⟨hv, hc⟩ | ⟨hv, hv', hc⟩ | ⟨hv, hv', hc⟩ | ⟨hv, hv', hc⟩ := hc
  all_goals
    obtain ⟨hw, hd⟩ | ⟨hw, hw', hd⟩ | ⟨hw, hw', hd⟩ | ⟨hw, hw', hd⟩ := hd
  all_goals
    rw [hc, hd]
    simp only [List.cons_append, List.nil_append, List.cons_lt_cons_iff, UInt8.lt_iff_toNat_lt,
      ← UInt8.toNat_inj, UInt8.toNat_ofNat']
    omega

/-! ## The order -/

theorem bytes_lt_of_lt : {a b : Text} → a < b → bytes a < bytes b
  | [], [], h => absurd h (List.lt_irrefl _)
  | [], d :: b, _ => by
    obtain ⟨byte, rest, hrest⟩ := List.exists_cons_of_ne_nil
      (List.append_ne_nil_of_left_ne_nil String.utf8EncodeChar_ne_nil (bytes b))
    rw [bytes_cons, hrest]
    exact List.nil_lt_cons byte rest
  | _ :: _, [], h => absurd h (List.not_lt_nil _)
  | c :: a, d :: b, h => by
    rw [bytes_cons, bytes_cons]
    rcases List.cons_lt_cons_iff.mp h with hcd | ⟨rfl, hab⟩
    · exact utf8EncodeChar_append_lt hcd (bytes a) (bytes b)
    · exact List.append_left_lt (bytes_lt_of_lt hab)

/-- The order of texts is the order of their bytes. -/
theorem bytes_lt_bytes {a b : Text} : bytes a < bytes b ↔ a < b := by
  refine ⟨fun h => ?_, bytes_lt_of_lt⟩
  rcases Std.lt_trichotomy a b with hab | rfl | hba
  · exact hab
  · exact absurd h (List.lt_irrefl _)
  · exact absurd (List.lt_trans h (bytes_lt_of_lt hba)) (List.lt_irrefl _)

end Synopsis.Text
