import AttachGate.Json.Writer
import AttachGate.Proofs.Json.Octets
import AttachGate.Proofs.Text.Numerals
import Mathlib.Data.List.Chain

/-!
# Strings survive writing

A string is read as the text that was written, unless the text holds a surrogate
pair in two halves: an escape is written for each half, and the two are read as the
one code point that they stand for.
-/

namespace AttachGate

/-- No high surrogate of a text has a low one right behind it. -/
def Text.IsWhole (t : Text) : Prop :=
  t.IsChain fun a b => ¬ (a.isHighSurrogate = true ∧ b.isLowSurrogate = true)

namespace Json

/-! ## Escapes of code units -/

theorem unitEscape_eq (n : Nat) :
    unitEscape n =
      [backslash, letterU, CodePoint.ofHexDigit (n / 4096 % 16),
        CodePoint.ofHexDigit (n / 256 % 16), CodePoint.ofHexDigit (n / 16 % 16),
        CodePoint.ofHexDigit (n % 16)] := by
  rw [unitEscape, Text.hexadecimal_four]
  rfl

theorem hexPoint?_digits {n : Nat} (hn : n < 0x10000) :
    hexPoint? (CodePoint.ofHexDigit (n / 4096 % 16)) (CodePoint.ofHexDigit (n / 256 % 16))
      (CodePoint.ofHexDigit (n / 16 % 16)) (CodePoint.ofHexDigit (n % 16)) =
      some (CodePoint.ofNat n) := by
  have hvalue : ((n / 4096 % 16 * 16 + n / 256 % 16) * 16 + n / 16 % 16) * 16 + n % 16 = n := by
    omega
  simp [hexPoint?, CodePoint.hexDigit?_ofHexDigit, Nat.mod_lt, hvalue]

/-- A text behind an escape that does not make a pair of it. -/
inductive Separate : Text → Prop
  | plain {c : CodePoint} (rest : Text) (hc : c ≠ backslash) : Separate (c :: rest)
  | escape {c : CodePoint} (rest : Text) (hc : c ≠ letterU) : Separate (backslash :: c :: rest)
  | unit {n : Nat} {c : CodePoint} (rest : Text) (hn : n < 0x10000)
    (hlow : (CodePoint.ofNat n).isLowSurrogate = false) : Separate (unitEscape n ++ c :: rest)

/-- What follows an escape is no escape of a low surrogate, as far as that is looked at. -/
theorem Separate.hexPoint? {a b d e y : CodePoint} {further : Text}
    (hseparate : Separate (backslash :: letterU :: a :: b :: d :: e :: y :: further)) :
    ∃ low, hexPoint? a b d e = some low ∧ low.isLowSurrogate = false := by
  generalize hs : backslash :: letterU :: a :: b :: d :: e :: y :: further = s at hseparate
  cases hseparate with
  | plain rest hc => exact (hc (List.cons.inj hs).1.symm).elim
  | escape rest hc => exact (hc (List.cons.inj (List.cons.inj hs).2).1.symm).elim
  | unit rest hn hlow =>
      rw [unitEscape_eq] at hs
      simp only [List.cons_append, List.nil_append, List.cons.injEq, true_and] at hs
      obtain ⟨rfl, rfl, rfl, rfl, _⟩ := hs
      exact ⟨_, hexPoint?_digits hn, hlow⟩

theorem readString_unit (opening : Text) {n : Nat} (hn : n < 0x10000) {c : CodePoint} {rest : Text}
    (hnext : (CodePoint.ofNat n).isHighSurrogate = true → Separate (c :: rest)) :
    readString opening (unitEscape n ++ c :: rest) =
      (readString opening (c :: rest)).cons (CodePoint.ofNat n) := by
  rw [unitEscape_eq]
  simp only [List.cons_append, List.nil_append]
  rw [readString]
  simp only [show backslash ≠ quote by decide, if_false, if_true, hexPoint?_digits hn]
  split
  · split
    · rename_i hpair
      simp only [Bool.and_eq_true, decide_eq_true_eq] at hpair
      obtain ⟨⟨hhigh, rfl⟩, rfl⟩ := hpair
      obtain ⟨low, hlow, hsingle⟩ := (hnext hhigh).hexPoint?
      simp only [hlow, hsingle, Bool.false_eq_true, if_false]
    · rfl
  · rfl

theorem readString_pair (opening : Text) {m n : Nat} (hm : m < 0x10000) (hn : n < 0x10000)
    (hhigh : (CodePoint.ofNat m).isHighSurrogate = true)
    (hlow : (CodePoint.ofNat n).isLowSurrogate = true) (c : CodePoint) (rest : Text) :
    readString opening (unitEscape m ++ (unitEscape n ++ c :: rest)) =
      (readString opening (c :: rest)).cons
        (CodePoint.ofPair (CodePoint.ofNat m) (CodePoint.ofNat n)) := by
  rw [unitEscape_eq m, unitEscape_eq n]
  simp only [List.cons_append, List.nil_append]
  rw [readString]
  simp only [show backslash ≠ quote by decide, if_false, if_true, hexPoint?_digits hm,
    hexPoint?_digits hn, hhigh, hlow, Bool.and_self, decide_true]

/-! ## Code points -/

/-- A supplementary code point is what its two surrogates stand for. -/
theorem ofPair_halves {c : CodePoint} (hc : 0x10000 ≤ c.val) :
    (CodePoint.ofNat (0xD800 + (c.val - 0x10000) / 0x400)).isHighSurrogate = true ∧
      (CodePoint.ofNat (0xDC00 + (c.val - 0x10000) % 0x400)).isLowSurrogate = true ∧
      CodePoint.ofPair (CodePoint.ofNat (0xD800 + (c.val - 0x10000) / 0x400))
        (CodePoint.ofNat (0xDC00 + (c.val - 0x10000) % 0x400)) = c := by
  have hlt := c.isLt
  have hhigh : (CodePoint.ofNat (0xD800 + (c.val - 0x10000) / 0x400)).val =
      0xD800 + (c.val - 0x10000) / 0x400 := CodePoint.val_ofNat (by omega)
  have hlow : (CodePoint.ofNat (0xDC00 + (c.val - 0x10000) % 0x400)).val =
      0xDC00 + (c.val - 0x10000) % 0x400 := CodePoint.val_ofNat (by omega)
  refine ⟨?_, ?_, ?_⟩
  · simp only [CodePoint.isHighSurrogate, hhigh, Bool.and_eq_true, decide_eq_true_eq]
    omega
  · simp only [CodePoint.isLowSurrogate, hlow, Bool.and_eq_true, decide_eq_true_eq]
    omega
  · apply Fin.ext
    rw [CodePoint.ofPair, hhigh, hlow, CodePoint.val_ofNat (by omega)]
    omega

/-- The ways in which code points are written. -/
inductive Spelling (c : CodePoint) : Text → Prop
  | letter (e : CodePoint) (he : e ≠ letterU) (hascii : 0 < e.val ∧ e.val < 0x80)
    (hplain : simpleEscape? e = some c) : Spelling c [backslash, e]
  | plain (hquote : c ≠ quote) (hbackslash : c ≠ backslash)
    (hprintable : 0x20 ≤ c.val ∧ c.val ≤ 0x7E) : Spelling c [c]
  | unit (hc : c.val < 0x10000) : Spelling c (unitEscape c.val)
  | pair (hc : 0x10000 ≤ c.val) :
    Spelling c (unitEscape (0xD800 + (c.val - 0x10000) / 0x400) ++
      unitEscape (0xDC00 + (c.val - 0x10000) % 0x400))

theorem spelling_writePoint (c : CodePoint) : Spelling c (writePoint c) := by
  have hletter : ∀ (e plain : CodePoint), c.val = plain.val →
      (e ≠ letterU ∧ 0 < e.val ∧ e.val < 0x80 ∧ simpleEscape? e = some plain) →
      Spelling c [backslash, e] := by
    intro e plain hsame he
    obtain ⟨hletter, hpositive, hlt, hplain⟩ := he
    have hc : c = plain := Fin.ext hsame
    exact .letter e hletter ⟨hpositive, hlt⟩ (hc ▸ hplain)
  unfold writePoint
  split_ifs with hquote hbackslash h8 h9 hA hC hD hprintable hbasic
  · exact hletter (CodePoint.ofChar '"') 0x22 hquote (by decide)
  · exact hletter (CodePoint.ofChar '\\') 0x5C hbackslash (by decide)
  · exact hletter (CodePoint.ofChar 'b') 0x08 h8 (by decide)
  · exact hletter (CodePoint.ofChar 't') 0x09 h9 (by decide)
  · exact hletter (CodePoint.ofChar 'n') 0x0A hA (by decide)
  · exact hletter (CodePoint.ofChar 'f') 0x0C hC (by decide)
  · exact hletter (CodePoint.ofChar 'r') 0x0D hD (by decide)
  · refine .plain ?_ ?_ hprintable
    · rintro rfl
      exact hquote rfl
    · rintro rfl
      exact hbackslash rfl
  · exact .unit hbasic
  · exact .pair (by omega)

/-- Each code point is read as it was written, a high surrogate if the code point behind
it is no low one. -/
theorem readString_writePoint (opening : Text) (c : CodePoint) {d : CodePoint} {rest : Text}
    (hnext : c.isHighSurrogate = true → Separate (d :: rest)) :
    readString opening (writePoint c ++ d :: rest) = (readString opening (d :: rest)).cons c := by
  generalize hs : writePoint c = s
  have hspelling := spelling_writePoint c
  rw [hs] at hspelling
  cases hspelling with
  | letter e he hascii hplain =>
      simp only [List.cons_append, List.nil_append]
      rw [readString.eq_def]
      simp only [show backslash ≠ quote by decide, he, if_false, if_true, hplain]
  | plain hquote hbackslash hprintable =>
      simp only [List.cons_append, List.nil_append]
      rw [readString.eq_def]
      simp only [hquote, hbackslash, if_false, show ¬ c.val < 0x20 by omega]
  | unit hc =>
      rw [readString_unit opening hc (by rw [CodePoint.ofNat_val]; exact hnext),
        CodePoint.ofNat_val]
  | pair hc =>
      have hlt := c.isLt
      obtain ⟨hhigh, hlow, hpair⟩ := ofPair_halves hc
      rw [List.append_assoc, readString_pair opening (by omega) (by omega) hhigh hlow, hpair]

/-- What is written for a code point that is no low surrogate keeps a high one before it
apart. -/
theorem separate_writePoint {c : CodePoint} (hc : c.isLowSurrogate = false) (d : CodePoint)
    (rest : Text) : Separate (writePoint c ++ d :: rest) := by
  generalize hs : writePoint c = s
  have hspelling := spelling_writePoint c
  rw [hs] at hspelling
  cases hspelling with
  | letter e he hascii hplain => exact .escape (d :: rest) he
  | plain hquote hbackslash hprintable => exact .plain (d :: rest) hbackslash
  | unit hbasic =>
      apply Separate.unit rest hbasic
      rw [CodePoint.ofNat_val]
      exact hc
  | pair hsupplementary =>
      have hlt := c.isLt
      rw [List.append_assoc, unitEscape_eq (0xDC00 + _)]
      apply Separate.unit _ (by omega)
      simp only [CodePoint.isLowSurrogate, Bool.and_eq_false_iff, decide_eq_false_iff_not]
      rw [CodePoint.val_ofNat (by omega)]
      omega

/-! ## Strings -/

/-- A string is read as the text that was written, up to its closing quote. -/
theorem readString_written (opening : Text) {t : Text} (ht : t.IsWhole) (rest : Text) :
    readString opening (t.flatMap writePoint ++ quote :: rest) = .ok (t, rest) := by
  induction t with
  | nil =>
      rw [List.flatMap_nil, List.nil_append, readString.eq_def]
      rfl
  | cons c t ih =>
      have hrest := ih ht.tail
      have hnext : c.isHighSurrogate = true →
          Separate (t.flatMap writePoint ++ quote :: rest) := by
        intro hhigh
        cases t with
        | nil => exact .plain rest (by decide)
        | cons d t =>
            have hlow : d.isLowSurrogate = false := by
              have happart := (List.isChain_cons_cons.mp ht).1
              simpa [hhigh] using happart
            cases hlater : t.flatMap writePoint ++ quote :: rest with
            | nil => simp at hlater
            | cons e more =>
                rw [List.flatMap_cons, List.append_assoc, hlater]
                exact separate_writePoint hlow e more
      cases hlater : t.flatMap writePoint ++ quote :: rest with
      | nil => simp at hlater
      | cons d more =>
          rw [hlater] at hrest hnext
          rw [List.flatMap_cons, List.append_assoc, hlater, readString_writePoint opening c hnext,
            hrest]
          rfl

/-! ## What is written is in ASCII -/

theorem isAscii_unitEscape (n : Nat) : (unitEscape n).IsAscii := by
  have hdigit : ∀ d < 16,
      0 < (CodePoint.ofHexDigit d).val ∧ (CodePoint.ofHexDigit d).val < 0x80 := by
    decide
  intro c hc
  rw [unitEscape_eq] at hc
  simp only [List.mem_cons, List.not_mem_nil, or_false] at hc
  rcases hc with rfl | rfl | rfl | rfl | rfl | rfl
  · decide
  · decide
  all_goals exact hdigit _ (Nat.mod_lt _ (by decide))

theorem isAscii_writePoint (c : CodePoint) : (writePoint c).IsAscii := by
  generalize hs : writePoint c = s
  have hspelling := spelling_writePoint c
  rw [hs] at hspelling
  cases hspelling with
  | letter e he hascii hplain =>
      intro d hd
      simp only [List.mem_cons, List.not_mem_nil, or_false] at hd
      cases hd with
      | inl hd =>
          rw [hd]
          decide
      | inr hd =>
          rw [hd]
          exact hascii
  | plain hquote hbackslash hprintable =>
      intro d hd
      rw [List.mem_singleton] at hd
      rw [hd]
      omega
  | unit hc => exact isAscii_unitEscape _
  | pair hc => exact Text.isAscii_append.mpr ⟨isAscii_unitEscape _, isAscii_unitEscape _⟩

theorem isAscii_writeString (t : Text) : (writeString t).IsAscii := by
  have hquote : Text.IsAscii "\"" := by decide
  refine Text.isAscii_append.mpr ⟨Text.isAscii_append.mpr ⟨hquote, ?_⟩, hquote⟩
  intro c hc
  rw [List.mem_flatMap] at hc
  obtain ⟨d, _, hmem⟩ := hc
  exact isAscii_writePoint d c hmem

end Json

end AttachGate
