import PaymentChannel.Proofs.Json.Lossless
import PaymentChannel.Proofs.TextForms

/-!
# Numerals

A quantity is read as a decimal number, and the same text as a hexadecimal one if that fails.  It
fails for two reasons, a character that is no decimal digit and a number that does not fit, and only
the first one should lead to the second reading.

* `Writes base text n` : the text writes the number in the base, and by `Writes.unique` no other.
* `Hex.toNat?_eq_some_iff`, `Decimal.toNat?_eq_some_iff` : the two readers read what is written.
* `Quantity.ofText?_of_digits` : a decimal number that does not fit has more digits than a
  hexadecimal one may have, so that it is refused.
* `Quantity.ofText?_eq_some_iff` : any other text is read if it is a hexadecimal number.
* `Quantity.read_by_grammar` : **quantities are read by their grammar**, which is both, and what is
  written of a quantity reads back.
-/

namespace PaymentChannel

variable {base m n : Nat} {text : List Char} {c : Char} {d : Nat}

/-! ## What is written -/

/-- The character stands for the digit, in either letter case. -/
def IsDigit (c : Char) (d : Nat) : Prop := c = Nat.digitChar d ∨ c = (Nat.digitChar d).toUpper

instance (c : Char) (d : Nat) : Decidable (IsDigit c d) := inferInstanceAs (Decidable (_ ∨ _))

/-- The text writes the number in the base, most significant digit first. -/
inductive Writes (base : Nat) : List Char → Nat → Prop
  | zero : Writes base [] 0
  | digit {text : List Char} {n : Nat} {c : Char} {d : Nat} (front : Writes base text n)
    (last : IsDigit c d) (lt : d < base) : Writes base (text ++ [c]) (base * n + d)

namespace Writes

theorem nil_iff : Writes base [] n ↔ n = 0 := by
  constructor
  · generalize empty : [] = text
    rintro (_ | _)
    · rfl
    · cases List.append_ne_nil_of_right_ne_nil _ (List.cons_ne_nil _ _) empty.symm
  · rintro rfl
    exact .zero

theorem append_iff : Writes base (text ++ [c]) m ↔
    ∃ n d, Writes base text n ∧ IsDigit c d ∧ d < base ∧ m = base * n + d := by
  constructor
  · generalize whole : text ++ [c] = digits
    rintro (_ | ⟨front, last, lt⟩)
    · cases List.append_ne_nil_of_right_ne_nil _ (List.cons_ne_nil _ _) whole
    · obtain ⟨rfl, same⟩ := List.append_inj' whole rfl
      cases same
      exact ⟨_, _, front, last, lt, rfl⟩
  · rintro ⟨n, d, front, last, lt, rfl⟩
    exact .digit front last lt

/-- A number of so many digits is below that power of the base. -/
theorem lt_pow (h : Writes base text n) : n < base ^ text.length := by
  induction h with
  | zero => exact Nat.one_pos
  | @digit text n c d front last lt ih =>
    rw [List.length_append, List.length_singleton, Nat.pow_succ]
    calc
      base * n + d < base * n + base := Nat.add_lt_add_left lt _
      _ = base * (n + 1) := (Nat.mul_succ ..).symm
      _ ≤ base * base ^ text.length := Nat.mul_le_mul_left _ ih
      _ = base ^ text.length * base := Nat.mul_comm ..

theorem isDigit_of_mem (h : Writes base text n) (hc : c ∈ text) : ∃ d < base, IsDigit c d := by
  induction h with
  | zero => cases hc
  | digit _ last lt ih =>
    rcases List.mem_append.mp hc with front | here
    · exact ih front
    · obtain rfl := List.mem_singleton.mp here
      exact ⟨_, lt, last⟩

/-- What writes a number has no mark in front. -/
theorem unmarked (small : base ≤ 16) (h : Writes base text n) : Hex.unmarked text = text := by
  unfold Hex.unmarked
  split
  · next rest =>
    obtain ⟨d, lt, written⟩ := h.isDigit_of_mem (c := 'x') (by simp)
    have none : ∀ d < 16, ¬ IsDigit 'x' d := by decide
    exact absurd written (none d (by omega))
  · rfl

end Writes

/-! ## What is read -/

theorem Hex.digit?_eq_some_iff : Hex.digit? c = some d ↔ IsDigit c d ∧ d < 16 := by
  constructor
  · intro h
    -- A character beyond the first 128 is above all three ranges, and the others are gone through.
    have ascii : c.toNat < 128 := by
      by_contra beyond
      have above : ∀ last : Char, last.toNat < 128 → ¬ c ≤ last := fun last lt le =>
        beyond (Nat.lt_of_le_of_lt le lt)
      rw [digit?, if_neg (above '9' (by decide) ·.2), if_neg (above 'f' (by decide) ·.2),
        if_neg (above 'F' (by decide) ·.2)] at h
      cases h
    have all : ∀ n < 128, ∀ d ∈ digit? (Char.ofNat n), IsDigit (Char.ofNat n) d ∧ d < 16 := by
      decide
    have here := all c.toNat ascii
    rw [Char.ofNat_toNat] at here
    exact here d h
  · rintro ⟨written, lt⟩
    have all : ∀ d < 16, digit? (Nat.digitChar d) = some d ∧
        digit? (Nat.digitChar d).toUpper = some d := by decide
    rcases written with rfl | rfl
    · exact (all d lt).1
    · exact (all d lt).2

/-- The decimal digits are those below 10, which have no second form. -/
theorem isDecimal_iff : c.isDigit = true ∧ d = c.toNat - '0'.toNat ↔ IsDigit c d ∧ d < 10 := by
  constructor
  · rintro ⟨digit, rfl⟩
    have ascii : c.toNat < 128 := Nat.lt_of_le_of_lt (Char.isDigit_iff_toNat.mp digit).2 (by decide)
    have all : ∀ n < 128, (Char.ofNat n).isDigit →
        IsDigit (Char.ofNat n) ((Char.ofNat n).toNat - '0'.toNat) ∧
          (Char.ofNat n).toNat - '0'.toNat < 10 := by decide
    have here := all c.toNat ascii
    rw [Char.ofNat_toNat] at here
    exact here digit
  · rintro ⟨written, lt⟩
    have all : ∀ d < 10, (Nat.digitChar d).isDigit = true ∧
        d = (Nat.digitChar d).toNat - '0'.toNat ∧
        (Nat.digitChar d).toUpper = Nat.digitChar d := by decide
    obtain ⟨digit, value, upper⟩ := all d lt
    rcases written with rfl | rfl
    · exact ⟨digit, value⟩
    · rw [upper]
      exact ⟨digit, value⟩

theorem Hex.toNat?_eq_some_iff {digits : List Char} :
    Hex.toNat? digits = some n ↔ Writes 16 digits n := by
  induction digits using List.reverseRecOn generalizing n with
  | nil =>
    rw [Writes.nil_iff]
    exact ⟨fun h => (Option.some.inj h).symm, fun h => h ▸ rfl⟩
  | append_singleton digits c ih =>
    simp only [toNat?_append, Writes.append_iff, Option.bind_eq_some_iff, Option.map_eq_some_iff,
      digit?_eq_some_iff, ih]
    constructor
    · rintro ⟨front, written, last, ⟨digit, lt⟩, rfl⟩
      exact ⟨front, last, written, digit, lt, rfl⟩
    · rintro ⟨front, last, written, digit, lt, rfl⟩
      exact ⟨front, written, last, ⟨digit, lt⟩, rfl⟩

theorem Decimal.toNat?_eq_some_iff {digits : List Char} :
    Decimal.toNat? digits = some n ↔ Writes 10 digits n := by
  induction digits using List.reverseRecOn generalizing n with
  | nil =>
    rw [Writes.nil_iff]
    exact ⟨fun h => (Option.some.inj h).symm, fun h => h ▸ rfl⟩
  | append_singleton digits c ih =>
    simp only [toNat?_append, Writes.append_iff, Option.ite_none_right_eq_some,
      Option.map_eq_some_iff, ih]
    constructor
    · rintro ⟨digit, front, written, rfl⟩
      obtain ⟨last, lt⟩ := isDecimal_iff.mp ⟨digit, rfl⟩
      exact ⟨front, _, written, last, lt, rfl⟩
    · rintro ⟨front, d, written, last, lt, rfl⟩
      obtain ⟨digit, rfl⟩ := isDecimal_iff.mpr ⟨last, lt⟩
      exact ⟨digit, front, written, rfl⟩

/-- A text writes one number, at most. -/
theorem Writes.unique (small : base ≤ 16) (hm : Writes base text m) (hn : Writes base text n) :
    m = n := by
  induction text using List.reverseRecOn generalizing m n with
  | nil => rw [nil_iff.mp hm, nil_iff.mp hn]
  | append_singleton text c ih =>
    obtain ⟨front, d, written, last, lt, rfl⟩ := append_iff.mp hm
    obtain ⟨front', d', written', last', lt', rfl⟩ := append_iff.mp hn
    have digit := Hex.digit?_eq_some_iff.mpr ⟨last, Nat.lt_of_lt_of_le lt small⟩
    have digit' := Hex.digit?_eq_some_iff.mpr ⟨last', Nat.lt_of_lt_of_le lt' small⟩
    rw [ih written written', Option.some.inj (digit.symm.trans digit')]

theorem Decimal.exists_writes (h : ∀ c ∈ text, c.isDigit = true) : ∃ n, Writes 10 text n := by
  have read : Decimal.toNat? text = some (Nat.ofDigitChars 10 text 0) :=
    if_pos (List.all_eq_true.mpr h)
  exact ⟨_, Decimal.toNat?_eq_some_iff.mp read⟩

namespace Quantity

variable {s : String} {q : Quantity}

theorem ofHex?_eq_some_iff :
    ofHex? text = some q ↔ text.length ≤ 16 ∧ Writes 16 text q.toNat := by
  rw [ofHex?, Option.ite_none_right_eq_some, Option.map_eq_some_iff]
  constructor
  · rintro ⟨short, n, read, rfl⟩
    have written := Hex.toNat?_eq_some_iff.mp read
    have fits : n < UInt64.size :=
      Nat.lt_of_lt_of_le written.lt_pow (Nat.pow_le_pow_right (by decide) short)
    rw [UInt64.toNat_ofNat_of_lt' fits]
    exact ⟨short, written⟩
  · rintro ⟨short, written⟩
    exact ⟨short, q.toNat, Hex.toNat?_eq_some_iff.mpr written, UInt64.ofNat_toNat⟩

/-- A decimal number is read if it fits.  One that does not has too many digits to be read as a
hexadecimal number instead. -/
theorem ofText?_of_digits (h : Writes 10 s.toList n) : ofText? s = ofNat? n := by
  have read : ofDecimal? s.toList = ofNat? n := by
    rw [ofDecimal?_eq, Decimal.toNat?_eq_some_iff.mpr h, Option.bind_some]
  by_cases fits : n < UInt64.size
  · rw [ofText?, read, ofNat?, if_pos fits]
  · have refused : ofHex? s.toList = none := by
      refine Option.eq_none_iff_forall_ne_some.mpr fun q found => fits ?_
      obtain ⟨short, -⟩ := ofHex?_eq_some_iff.mp found
      calc n < 10 ^ s.toList.length := h.lt_pow
        _ ≤ 10 ^ 16 := Nat.pow_le_pow_right (by decide) short
        _ ≤ UInt64.size := by decide
    rw [ofText?, read, ofNat?, if_neg fits, h.unmarked (by decide)]
    exact refused

/-- A text with another character is read if it is a hexadecimal number. -/
theorem ofText?_eq_some_iff (h : ¬ ∀ c ∈ s.toList, c.isDigit = true) : ofText? s = some q ↔
    ∃ digits, (s.toList = digits ∨ s.toList = '0' :: 'x' :: digits) ∧ digits.length ≤ 16 ∧
      Writes 16 digits q.toNat := by
  have undecimal : ofDecimal? s.toList = none := by
    rw [ofDecimal?_eq, Decimal.toNat?, if_neg (mt List.all_eq_true.mp h), Option.bind_none]
  rw [ofText?, undecimal]
  show ofHex? (Hex.unmarked s.toList) = some q ↔ _
  rw [ofHex?_eq_some_iff]
  constructor
  · rintro ⟨short, written⟩
    refine ⟨_, ?_, short, written⟩
    unfold Hex.unmarked
    split
    · next rest marked => exact Or.inr marked
    · exact Or.inl rfl
  · rintro ⟨digits, bare | marked, short, written⟩
    · rw [bare, written.unmarked (by decide)]
      exact ⟨short, written⟩
    · rw [marked]
      exact ⟨short, written⟩

/-- **Quantities are read by their grammar.**  Decimal digits alone, be they none, give the number
that they write if it is below `2 ^ 64` and are refused otherwise; any other text gives a number
exactly if it writes it in up to 16 hexadecimal digits behind an optional mark; and every quantity
reads back from its form. -/
theorem read_by_grammar :
    (∀ s : String, (∀ c ∈ s.toList, c.isDigit = true) →
      ∃ n, (∀ m, Writes 10 s.toList m ↔ m = n) ∧
        ofText? s = if n < 2 ^ 64 then some (UInt64.ofNat n) else none) ∧
    (∀ s : String, ¬ (∀ c ∈ s.toList, c.isDigit = true) → ∀ q, ofText? s = some q ↔
      ∃ digits, (s.toList = digits ∨ s.toList = '0' :: 'x' :: digits) ∧ digits.length ≤ 16 ∧
        Writes 16 digits q.toNat) ∧
    ∀ q : Quantity, RoundTrips q := by
  refine ⟨fun s h => ?_, fun s h q => ofText?_eq_some_iff h, fun q => (lossless q).roundTrips⟩
  obtain ⟨n, written⟩ := Decimal.exists_writes h
  refine ⟨n, fun m => ⟨fun hm => hm.unique (by decide) written, fun h => h ▸ written⟩, ?_⟩
  exact ofText?_of_digits written

/-- The smallest decimal number that does not fit, and a hexadecimal one. -/
theorem read_by_grammar_sample :
    (∀ c ∈ "18446744073709551616".toList, c.isDigit = true) ∧
    ofText? "18446744073709551616" = none ∧
    ¬ (∀ c ∈ "0xfF".toList, c.isDigit = true) ∧ ofText? "0xfF" = some 255 := by
  have decimal : ∀ c ∈ "18446744073709551616".toList, c.isDigit = true :=
    List.all_eq_true.mp (by decide)
  have marked : ¬ ∀ c ∈ "0xfF".toList, c.isDigit = true := mt List.all_eq_true.mpr (by decide)
  refine ⟨decimal, ?_, marked, ?_⟩
  · obtain ⟨n, only, read⟩ := read_by_grammar.1 _ decimal
    have written : Decimal.toNat? "18446744073709551616".toList = some n :=
      Decimal.toNat?_eq_some_iff.mpr ((only n).mpr rfl)
    have value : Decimal.toNat? "18446744073709551616".toList = some (2 ^ 64) := by decide
    obtain rfl : 2 ^ 64 = n := Option.some.inj (value.symm.trans written)
    rw [read, if_neg (Nat.lt_irrefl _)]
  · refine (read_by_grammar.2.1 _ marked 255).mpr ⟨['f', 'F'], Or.inr rfl, by decide, ?_⟩
    exact Hex.toNat?_eq_some_iff.mp (by decide)

end Quantity

end PaymentChannel
