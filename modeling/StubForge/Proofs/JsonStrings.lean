import StubForge.Json

set_option autoImplicit false

/-!
Reading the texts of strings back: every character is written in a way that reads as that character,
whatever follows it.
-/

namespace StubForge.Json

theorem hex_value_digit : ∀ n < 16, hexValue? (Text.hexDigit n) = some n := by decide

-- Four digits hold every number below `0x10000`.
theorem hex_number_digits (n : Nat) (small : n < 0x10000) : ∃ a b c d,
    Text.hexDigits 4 n = [a, b, c, d] ∧ hexNumber? a b c d = some n := by
  refine ⟨Text.hexDigit (n / 16 / 16 / 16 % 16), Text.hexDigit (n / 16 / 16 % 16), Text.hexDigit (n / 16 % 16),
    Text.hexDigit (n % 16), rfl, ?_⟩
  rw [hexNumber?, hex_value_digit _ (Nat.mod_lt _ (by decide)), hex_value_digit _ (Nat.mod_lt _ (by decide)),
    hex_value_digit _ (Nat.mod_lt _ (by decide)), hex_value_digit _ (Nat.mod_lt _ (by decide))]
  simp only [Option.bind_eq_bind, Option.bind_some, pure]
  congr 1
  omega

def put (c : Char) (read : Option (List Char × List Char)) : Option (List Char × List Char) :=
  read.map fun found => (c :: found.1, found.2)

-- An escape that is not the first half of a pair stands for itself, whatever follows.
theorem read_unicode (a b c d : Char) (n : Nat) (digits : hexNumber? a b c d = some n)
    (whole : ¬ (0xd800 ≤ n ∧ n < 0xdc00)) (rest : List Char) :
    readString ('\\' :: 'u' :: a :: b :: c :: d :: rest) = put (Char.ofNat n) (readString rest) := by
  rw [readString.eq_def]
  split
  · rename_i same
    cases same
  · rename_i same
    cases same
  · rename_i same
    cases same
    rw [digits]
    split
    · rename_i high low _ _ number _
      cases number
      rw [if_neg (by simp; omega)]
      rfl
    · rename_i high number _
      cases number
      rfl
    · rename_i absent
      cases absent
  · rename_i same
    cases same
    rw [digits]
    rfl
  · rename_i other same
    cases same
    exact (other a b c d rest rfl rfl).elim
  · rename_i other _ same
    cases same
    exact (other a b c d rest rfl rfl).elim

theorem read_pair (a b c d e f g h : Char) (high low : Nat) (first : hexNumber? a b c d = some high)
    (second : hexNumber? e f g h = some low) (highHalf : 0xd800 ≤ high ∧ high < 0xdc00)
    (lowHalf : 0xdc00 ≤ low ∧ low < 0xe000) (rest : List Char) :
    readString ('\\' :: 'u' :: a :: b :: c :: d :: '\\' :: 'u' :: e :: f :: g :: h :: rest) =
      put (Char.ofNat (0x10000 + (high - 0xd800) * 0x400 + (low - 0xdc00))) (readString rest) := by
  rw [readString, first, second]
  simp only
  rw [if_pos (by simp; omega)]
  rfl

theorem read_plain (c : Char) (quote : c ≠ '"') (backslash : c ≠ '\\') (printable : ¬ c.toNat < 32)
    (rest : List Char) : readString (c :: rest) = put c (readString rest) := by
  rw [readString.eq_def]
  split
  · rename_i same
    cases same
  · rename_i same
    cases same
    exact (quote rfl).elim
  · rename_i same
    cases same
    exact (backslash rfl).elim
  · rename_i same
    cases same
    exact (backslash rfl).elim
  · rename_i same
    cases same
    exact (backslash rfl).elim
  · rename_i same
    cases same
    rw [if_neg printable]
    rfl

theorem read_simple (c plain : Char) (letter : c ≠ 'u') (escape : simpleEscape? c = some plain) (rest : List Char) :
    readString ('\\' :: c :: rest) = put plain (readString rest) := by
  rw [readString, escape]
  · rfl
  · exact fun _ _ _ _ _ _ _ _ _ same _ => letter same
  · exact fun _ _ _ _ _ same _ => letter same

-- The code of a character is never that of half a pair.
theorem not_half (c : Char) : ¬ (0xd800 ≤ c.toNat ∧ c.toNat < 0xe000) := by
  rcases c.valid with low | ⟨high, -⟩
  · intro half
    have code : c.toNat < 0xd800 := low
    omega
  · intro half
    have code : 0xdfff < c.toNat := high
    omega

theorem code_bound (c : Char) : c.toNat < 0x110000 := by
  rcases c.valid with low | ⟨-, high⟩
  · have code : c.toNat < 0xd800 := low
    omega
  · exact high

theorem read_unicode_escape (c : Char) (small : c.toNat < 0x10000) (rest : List Char) :
    readString (unicodeEscape c.toNat ++ rest) = put c (readString rest) := by
  obtain ⟨x, y, z, w, digits, number⟩ := hex_number_digits c.toNat small
  have whole := not_half c
  rw [unicodeEscape, digits]
  refine (read_unicode x y z w c.toNat number (by omega) rest).trans ?_
  rw [Char.ofNat_toNat]

theorem read_escaped_pair (c : Char) (large : 0x10000 ≤ c.toNat) (rest : List Char) :
    readString (unicodeEscape (0xd800 + (c.toNat - 0x10000) / 0x400) ++
      unicodeEscape (0xdc00 + (c.toNat - 0x10000) % 0x400) ++ rest) = put c (readString rest) := by
  have bound := code_bound c
  obtain ⟨x, y, z, w, highDigits, high⟩ := hex_number_digits (0xd800 + (c.toNat - 0x10000) / 0x400) (by omega)
  obtain ⟨p, q, r, s, lowDigits, low⟩ := hex_number_digits (0xdc00 + (c.toNat - 0x10000) % 0x400) (by omega)
  rw [unicodeEscape, unicodeEscape, highDigits, lowDigits]
  refine (read_pair x y z w p q r s _ _ high low (by omega) (by omega) rest).trans ?_
  rw [show 0x10000 + (0xd800 + (c.toNat - 0x10000) / 0x400 - 0xd800) * 0x400 +
    (0xdc00 + (c.toNat - 0x10000) % 0x400 - 0xdc00) = c.toNat by omega, Char.ofNat_toNat]

theorem read_escaped (c : Char) (rest : List Char) : readString (escapeChar c ++ rest) = put c (readString rest) := by
  rw [escapeChar]
  split
  · rename_i same
    exact same ▸ read_simple '"' '"' (by decide) rfl rest
  split
  · rename_i same
    exact same ▸ read_simple '\\' '\\' (by decide) rfl rest
  split
  · rename_i same
    exact same ▸ read_simple 'n' '\n' (by decide) rfl rest
  split
  · rename_i same
    exact same ▸ read_simple 'r' '\r' (by decide) rfl rest
  split
  · rename_i same
    exact same ▸ read_simple 't' '\t' (by decide) rfl rest
  split
  · rename_i same
    exact same ▸ read_simple 'b' '\x08' (by decide) rfl rest
  split
  · rename_i same
    exact same ▸ read_simple 'f' '\x0c' (by decide) rfl rest
  split
  · rename_i markup
    refine read_unicode_escape c ?_ rest
    simp only [isMarkup, Bool.or_eq_true, decide_eq_true_eq] at markup
    rcases markup with ((rfl | rfl) | rfl) | rfl
    all_goals decide
  split
  · rename_i quote backslash _ _ _ _ _ _ printable
    refine read_plain c quote backslash ?_ rest
    simp only [Bool.and_eq_true, decide_eq_true_eq] at printable
    omega
  split
  · rename_i small
    exact read_unicode_escape c small rest
  · rename_i large
    exact read_escaped_pair c (by omega) rest

theorem read_string_chars (s : List Char) (rest : List Char) :
    readString (s.flatMap escapeChar ++ '"' :: rest) = some (s, rest) := by
  induction s with
  | nil => rw [List.flatMap_nil, List.nil_append, readString]
  | cons c more ih =>
      rw [List.flatMap_cons, List.append_assoc, read_escaped, ih]
      rfl

end StubForge.Json
