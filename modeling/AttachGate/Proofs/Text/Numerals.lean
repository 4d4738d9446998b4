import AttachGate.Number.Numeral
import Mathlib.Tactic.IntervalCases

/-!
# Numbers as they are written

A number is written in decimal, with no zero in front unless it is zero, and its
digits stand for it.
-/

namespace AttachGate

theorem CodePoint.val_ofNat {n : Nat} (hn : n < 0x110000) : (CodePoint.ofNat n).val = n := by
  simp [CodePoint.ofNat, hn]

theorem CodePoint.ofNat_val (c : CodePoint) : CodePoint.ofNat c.val = c :=
  Fin.ext (CodePoint.val_ofNat c.isLt)

theorem CodePoint.asciiDigit?_ofDigit {d : Nat} (hd : d < 10) :
    (CodePoint.ofDigit d).asciiDigit? = some d := by
  unfold CodePoint.asciiDigit? CodePoint.ofDigit
  rw [CodePoint.val_ofNat (by omega), if_pos (by omega)]
  simp

theorem CodePoint.ofChar_digitChar {d : Nat} (hd : d < 10) :
    CodePoint.ofChar d.digitChar = CodePoint.ofDigit d := by
  interval_cases d <;> rfl

namespace Text

theorem ofNat_of_lt {n : Nat} (hn : n < 10) : ofNat n = [CodePoint.ofDigit n] := by
  rw [ofNat, Nat.toDigits_of_lt_base hn, List.map_singleton, CodePoint.ofChar_digitChar hn]

theorem ofNat_of_le {n : Nat} (hn : 10 ≤ n) :
    ofNat n = ofNat (n / 10) ++ [CodePoint.ofDigit (n % 10)] := by
  rw [ofNat, Nat.toDigits_of_base_le (by omega) hn, List.map_append, List.map_singleton,
    CodePoint.ofChar_digitChar (Nat.mod_lt _ (by omega)), ofNat]

theorem valueOfDigits_concat (digits : Text) {d : Nat} (hd : d < 10) :
    Numeral.valueOfDigits (digits ++ [CodePoint.ofDigit d]) =
      10 * Numeral.valueOfDigits digits + d := by
  simp [Numeral.valueOfDigits, CodePoint.asciiDigit?_ofDigit hd]

theorem valueOfDigits_ofNat (n : Nat) : Numeral.valueOfDigits (ofNat n) = n := by
  induction n using Nat.strong_induction_on with
  | _ n ih =>
      by_cases hn : n < 10
      · rw [ofNat_of_lt hn]
        simpa [Numeral.valueOfDigits] using valueOfDigits_concat [] hn
      · rw [ofNat_of_le (by omega), valueOfDigits_concat _ (Nat.mod_lt _ (by omega)),
          ih (n / 10) (by omega)]
        omega

theorem asciiDigit?_getD_lt (c : CodePoint) : c.asciiDigit?.getD 0 < 10 := by
  unfold CodePoint.asciiDigit?
  split <;> simp
  omega

/-- So many digits stand for a number below that power of ten. -/
theorem valueOfDigits_lt (digits : Text) : Numeral.valueOfDigits digits < 10 ^ digits.length := by
  have hfrom : ∀ n, digits.foldl (fun n c => 10 * n + (c.asciiDigit?.getD 0)) n <
      (n + 1) * 10 ^ digits.length := by
    induction digits with
    | nil => simp
    | cons c digits ih =>
        intro n
        have hlater := ih (10 * n + c.asciiDigit?.getD 0)
        have hdigit := asciiDigit?_getD_lt c
        have hfirst : 10 * n + c.asciiDigit?.getD 0 + 1 ≤ (n + 1) * 10 := by omega
        calc digits.foldl (fun n c => 10 * n + (c.asciiDigit?.getD 0))
              (10 * n + c.asciiDigit?.getD 0)
            < (10 * n + c.asciiDigit?.getD 0 + 1) * 10 ^ digits.length := hlater
          _ ≤ (n + 1) * 10 * 10 ^ digits.length := Nat.mul_le_mul_right _ hfirst
          _ = (n + 1) * 10 ^ (digits.length + 1) := by rw [Nat.mul_assoc, Nat.pow_succ']
  simpa [Numeral.valueOfDigits] using hfrom 0

theorem isAsciiDigit_of_mem_ofNat {n : Nat} {c : CodePoint} (hc : c ∈ ofNat n) :
    c.isAsciiDigit = true := by
  induction n using Nat.strong_induction_on with
  | _ n ih =>
      have hdigit : ∀ d < 10, c = CodePoint.ofDigit d → c.isAsciiDigit = true := by
        intro d hd hsame
        rw [hsame, CodePoint.isAsciiDigit, CodePoint.asciiDigit?_ofDigit hd]
        rfl
      by_cases hn : n < 10
      · rw [ofNat_of_lt hn, List.mem_singleton] at hc
        exact hdigit n hn hc
      · rw [ofNat_of_le (by omega), List.mem_append, List.mem_singleton] at hc
        cases hc with
        | inl hfront => exact ih (n / 10) (by omega) hfront
        | inr hlast => exact hdigit (n % 10) (Nat.mod_lt _ (by omega)) hlast

theorem ofNat_ne_nil (n : Nat) : ofNat n ≠ [] := by
  simp [ofNat, Nat.toDigits_ne_nil]

theorem exists_ofNat_eq_cons (n : Nat) :
    ∃ d digits, ofNat n = d :: digits ∧ d.isAsciiDigit = true := by
  cases hdigits : ofNat n with
  | nil => exact (ofNat_ne_nil n hdigits).elim
  | cons d digits =>
      refine ⟨d, digits, rfl, isAsciiDigit_of_mem_ofNat (n := n) ?_⟩
      rw [hdigits]
      exact .head _

theorem length_ofNat_le_iff {n k : Nat} (hk : 0 < k) : (ofNat n).length ≤ k ↔ n < 10 ^ k := by
  rw [ofNat, List.length_map]
  exact Nat.length_toDigits_le_iff (by omega) hk

/-- No zero stands in front of a number other than zero. -/
theorem head?_ofNat {n : Nat} (hn : 0 < n) : (ofNat n).head? ≠ some (CodePoint.ofDigit 0) := by
  induction n using Nat.strong_induction_on with
  | _ n ih =>
      by_cases hsmall : n < 10
      · rw [ofNat_of_lt hsmall]
        interval_cases n <;> decide
      · have hfront := ih (n / 10) (by omega) (by omega)
        obtain ⟨c, rest, hdigits, _⟩ := exists_ofNat_eq_cons (n / 10)
        rw [hdigits] at hfront
        rw [ofNat_of_le (by omega), hdigits]
        exact hfront

end Text

/-! ## Hexadecimal -/

theorem CodePoint.hexDigit?_ofHexDigit {d : Nat} (hd : d < 16) :
    (CodePoint.ofHexDigit d).hexDigit? = some d := by
  interval_cases d <;> rfl

theorem Text.hexadecimal_four (n : Nat) :
    Text.hexadecimal 4 n =
      [CodePoint.ofHexDigit (n / 4096 % 16), CodePoint.ofHexDigit (n / 256 % 16),
        CodePoint.ofHexDigit (n / 16 % 16), CodePoint.ofHexDigit (n % 16)] := by
  simp [Text.hexadecimal, Nat.div_div_eq_div_mul]

end AttachGate
