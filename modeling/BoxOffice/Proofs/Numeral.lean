import BoxOffice.Text.Blank
import BoxOffice.Text.Decimal
import Mathlib.Data.List.Induction

/-! # Numerals

What reads as a number is its decimal digits after any number of zeros, perhaps behind a sign
(`signed?_eq_some`). Printing writes one of these numerals.
-/

namespace BoxOffice

theorem isBlank_of_isDigit {c : Char} (digit : c.isDigit) : isBlank c = false := by
  simp only [Char.isDigit, Bool.and_eq_true, decide_eq_true_eq] at digit
  have low : 48 ≤ c.toNat := UInt32.le_iff_toNat_le.mp digit.1
  have high : c.toNat ≤ 57 := UInt32.le_iff_toNat_le.mp digit.2
  simp only [isBlank, whiteSpace, List.any_cons, List.any_nil, Bool.or_false, Bool.or_eq_false_iff,
    Bool.and_eq_false_iff, decide_eq_false_iff_not]
  omega

namespace Text

theorem isDigit_of_mem_ofNat {n : Nat} {c : Char} (member : c ∈ ofNat n) : c.isDigit :=
  Nat.isDigit_of_mem_toDigits (by omega) (by omega) member

theorem digits?_ofNat (n : Nat) : digits? (ofNat n) = some n := by
  have written : (ofNat n).isEmpty = false := List.isEmpty_eq_false_iff.mpr Nat.toDigits_ne_nil
  have digits : (ofNat n).all Char.isDigit := List.all_eq_true.mpr fun _ => isDigit_of_mem_ofNat
  rw [digits?, if_pos (by simp only [written, digits, Bool.not_false, Bool.and_self])]
  exact congrArg some Nat.ofDigitChars_ten_toDigits

theorem unsigned?_ofNat {n max : Nat} (small : n ≤ max) : unsigned? max (ofNat n) = some n := by
  unfold unsigned?
  split
  · rename_i digits same
    have plus : '+' ∈ ofNat n := same ▸ List.mem_cons_self ..
    exact absurd (isDigit_of_mem_ofNat plus) (by decide)
  · rw [digits?_ofNat, Option.filter_some, if_pos (by simpa using small)]

/-! ## Runs of digits -/

/-- The digits of a number, after any number of zeros. -/
def IsDigits (n : Nat) (text : Text) : Prop := ∃ zeros, text = List.replicate zeros '0' ++ ofNat n

namespace IsDigits

variable {n : Nat} {text : Text}

theorem ne_nil (h : IsDigits n text) : text ≠ [] := by
  obtain ⟨zeros, rfl⟩ := h
  exact List.append_ne_nil_of_right_ne_nil _ Nat.toDigits_ne_nil

theorem isDigit (h : IsDigits n text) {c : Char} (member : c ∈ text) : c.isDigit := by
  obtain ⟨zeros, rfl⟩ := h
  rcases List.mem_append.mp member with zero | digit
  · rw [List.eq_of_mem_replicate zero]
    rfl
  · exact isDigit_of_mem_ofNat digit

theorem value (h : IsDigits n text) : Nat.ofDigitChars 10 text 0 = n := by
  obtain ⟨zeros, rfl⟩ := h
  rw [Nat.ofDigitChars_append, Nat.ofDigitChars_replicate_zero, Nat.mul_zero]
  exact Nat.ofDigitChars_ten_toDigits

theorem append {d : Nat} (h : IsDigits n text) (digit : d < 10) :
    IsDigits (10 * n + d) (text ++ [d.digitChar]) := by
  obtain ⟨zeros, rfl⟩ := h
  rw [← Nat.toDigits_of_lt_base digit, List.append_assoc]
  rcases Nat.eq_zero_or_pos n with rfl | pos
  · -- what was the number zero is one more zero before the digit
    refine ⟨zeros + 1, ?_⟩
    rw [List.replicate_succ', List.append_assoc, Nat.mul_zero, Nat.zero_add]
    rfl
  · exact ⟨zeros, by rw [ofNat, Nat.toDigits_append_toDigits (by omega) pos digit, ofNat]⟩

end IsDigits

theorem exists_digitChar {c : Char} (digit : c.isDigit) :
    ∃ d < 10, c = d.digitChar ∧ c.toNat - '0'.toNat = d := by
  simp only [Char.isDigit, Bool.and_eq_true, decide_eq_true_eq] at digit
  have low : 48 ≤ c.toNat := UInt32.le_iff_toNat_le.mp digit.1
  have high : c.toNat ≤ 57 := UInt32.le_iff_toNat_le.mp digit.2
  refine ⟨c.toNat - 48, by omega, ?_, rfl⟩
  apply Char.toNat_inj.mp
  rw [Nat.toNat_digitChar_of_lt_ten (by omega)]
  omega

theorem isDigits_of_all {text : Text} (filled : text ≠ []) (digits : ∀ c ∈ text, c.isDigit) :
    IsDigits (Nat.ofDigitChars 10 text 0) text := by
  induction text using List.reverseRec with
  | nil => exact absurd rfl filled
  | append_singleton text c ih =>
      obtain ⟨d, small, rfl, number⟩ :=
        exists_digitChar (digits c (List.mem_append_right _ (by simp)))
      have value :
          Nat.ofDigitChars 10 (text ++ [d.digitChar]) 0 = 10 * Nat.ofDigitChars 10 text 0 + d := by
        rw [Nat.ofDigitChars_append, Nat.ofDigitChars_cons, Nat.ofDigitChars_nil, number]
      rw [value]
      by_cases first : text = []
      · subst first
        exact ⟨0, by simp [ofNat, Nat.toDigits_of_lt_base small]⟩
      · exact (ih first fun c member => digits c (List.mem_append_left _ member)).append small

theorem digits?_eq_some {text : Text} {n : Nat} : digits? text = some n ↔ IsDigits n text := by
  constructor
  · intro read
    unfold digits? at read
    split at read
    · rename_i written
      cases read
      simp only [Bool.and_eq_true, Bool.not_eq_true', List.isEmpty_eq_false_iff, List.all_eq_true]
        at written
      exact isDigits_of_all written.1 written.2
    · cases read
  · intro written
    have digits : text.all Char.isDigit := List.all_eq_true.mpr fun _ => written.isDigit
    rw [digits?, if_pos (by simp [written.ne_nil, digits]), written.value]

/-! ## Numerals with a sign -/

/-- How an integer is written: its digits, with or without a sign. -/
inductive Numeral : Int → Text → Prop where
  | plain {n : Nat} {digits : Text} (written : IsDigits n digits) : Numeral n digits
  | plus {n : Nat} {digits : Text} (written : IsDigits n digits) : Numeral n ('+' :: digits)
  | minus {n : Nat} {digits : Text} (written : IsDigits n digits) : Numeral (-n) ('-' :: digits)

theorem signed?_eq_some {text : Text} {value : Int} :
    signed? text = some value ↔ Numeral value text := by
  constructor
  · intro read
    unfold signed? at read
    split at read <;> rw [Option.map_eq_some_iff] at read <;> obtain ⟨n, digits, rfl⟩ := read
    · exact .plus (digits?_eq_some.mp digits)
    · exact .minus (digits?_eq_some.mp digits)
    · exact .plain (digits?_eq_some.mp digits)
  · intro numeral
    cases numeral with
    | plain written =>
        have unsigned {sign : Char} (bare : ¬ sign.isDigit) (rest : Text) :
            text ≠ sign :: rest := by
          rintro rfl
          exact bare (written.isDigit (List.mem_cons_self ..))
        rw [signed?.eq_def]
        split
        · exact absurd rfl (unsigned (by decide) _)
        · exact absurd rfl (unsigned (by decide) _)
        · rw [digits?_eq_some.mpr written]
          rfl
    | plus written => simp [signed?, digits?_eq_some.mpr written]
    | minus written => simp [signed?, digits?_eq_some.mpr written]

theorem Numeral.ne_nil {value : Int} {text : Text} (h : Numeral value text) : text ≠ [] := by
  cases h with
  | plain written => exact written.ne_nil
  | plus | minus => exact List.cons_ne_nil _ _

theorem Numeral.no_blank {value : Int} {text : Text} (h : Numeral value text) {c : Char}
    (member : c ∈ text) : isBlank c = false := by
  cases h with
  | plain written => exact isBlank_of_isDigit (written.isDigit member)
  | plus written | minus written =>
      rcases List.mem_cons.mp member with rfl | later
      · decide
      · exact isBlank_of_isDigit (written.isDigit later)

theorem Numeral.no_comma {value : Int} {text : Text} (h : Numeral value text) : ',' ∉ text := by
  intro member
  cases h with
  | plain written => exact absurd (written.isDigit member) (by decide)
  | plus written | minus written =>
      simp only [List.mem_cons, Char.reduceEq, false_or] at member
      exact absurd (written.isDigit member) (by decide)

end Text

end BoxOffice
