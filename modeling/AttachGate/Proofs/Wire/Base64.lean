import AttachGate.Base64
import Mathlib.Tactic.IntervalCases

/-!
# Octets survive base64

Reading what has been written in base64 gives the octets that were written, and
nothing but ASCII characters is written.
-/

namespace AttachGate.Base64

/-- What reading depends on: each of the sixty-four characters stands for its six bits
and is no filling character. -/
theorem character_facts : ∀ d < 64,
    sextet? (character d) = some d ∧ character d ≠ pad ∧ (character d).val < 0x80 := by
  decide +kernel

/-- A character of the alphabet goes into the group that is being read. -/
theorem decodeFrom_character {d : Nat} (hd : d < 64) (groups pads : Nat) (group : Group)
    (rest : Text) :
    decodeFrom groups pads group (character d :: rest) =
      match group with
      | .none => decodeFrom groups 0 (.one d) rest
      | .one a => decodeFrom groups 0 (.two a d) rest
      | .two a b => decodeFrom groups 0 (.three a b d) rest
      | .three a b c =>
        (decodeFrom (groups + 1) 0 .none rest).map fun octets =>
          (Group.three a b c).octets ++ UInt8.ofNat (c % 4 * 64 + d) :: octets := by
  obtain ⟨hsextet, hpad, _⟩ := character_facts d hd
  cases group with
  | three a b c =>
      simp only [decodeFrom, hpad, if_false, hsextet]
      cases decodeFrom (groups + 1) 0 .none rest <;> rfl
  | _ => simp only [decodeFrom, hpad, if_false, hsextet]

theorem ofNat_of_toNat {n : Nat} {a : UInt8} (hn : n = a.toNat) : UInt8.ofNat n = a := by
  rw [hn, UInt8.ofNat_toNat]

/-- Three octets at a time, each group is read before what follows it. -/
theorem decodeFrom_encode (groups : Nat) (bytes : Bytes) :
    decodeFrom groups 0 .none (encode bytes) = .ok bytes := by
  induction bytes using encode.induct generalizing groups with
  | case1 => rfl
  | case2 a =>
      have ha := a.toNat_lt
      simp (disch := omega) only [encode, decodeFrom_character]
      simp only [decodeFrom, Group.missing?, Group.octets, if_true, Nat.reduceLeDiff, if_false]
      rw [ofNat_of_toNat (a := a) (by omega)]
  | case3 a b =>
      have ha := a.toNat_lt
      have hb := b.toNat_lt
      simp (disch := omega) only [encode, decodeFrom_character]
      simp only [decodeFrom, Group.missing?, Group.octets, if_true, Nat.reduceLeDiff]
      rw [ofNat_of_toNat (a := a) (by omega), ofNat_of_toNat (a := b) (by omega)]
  | case4 a b c rest ih =>
      have ha := a.toNat_lt
      have hb := b.toNat_lt
      have hc := c.toNat_lt
      simp (disch := omega) only [encode, decodeFrom_character, ih]
      simp only [Except.map, Group.octets, List.cons_append, List.nil_append]
      rw [ofNat_of_toNat (a := a) (by omega), ofNat_of_toNat (a := b) (by omega),
        ofNat_of_toNat (a := c) (by omega)]

theorem decode_encode (bytes : Bytes) : decode (encode bytes) = .ok bytes :=
  decodeFrom_encode 0 bytes

theorem lt_of_mem_encode {bytes : Bytes} {c : CodePoint} (hc : c ∈ encode bytes) :
    c.val < 0x80 := by
  have hcharacter : ∀ d < 64, c = character d → c.val < 0x80 := by
    intro d hd hsame
    rw [hsame]
    exact (character_facts d hd).2.2
  have hpad : c = pad → c.val < 0x80 := by
    intro hsame
    rw [hsame]
    decide
  induction bytes using encode.induct with
  | case1 => cases hc
  | case2 a =>
      have ha := a.toNat_lt
      simp only [encode, List.mem_cons, List.not_mem_nil, or_false] at hc
      rcases hc with h | h | h | h
      · exact hcharacter _ (by omega) h
      · exact hcharacter _ (by omega) h
      · exact hpad h
      · exact hpad h
  | case3 a b =>
      have ha := a.toNat_lt
      have hb := b.toNat_lt
      simp only [encode, List.mem_cons, List.not_mem_nil, or_false] at hc
      rcases hc with h | h | h | h
      · exact hcharacter _ (by omega) h
      · exact hcharacter _ (by omega) h
      · exact hcharacter _ (by omega) h
      · exact hpad h
  | case4 a b c rest ih =>
      have ha := a.toNat_lt
      have hb := b.toNat_lt
      have hc' := c.toNat_lt
      simp only [encode, List.mem_cons] at hc
      rcases hc with h | h | h | h | h
      · exact hcharacter _ (by omega) h
      · exact hcharacter _ (by omega) h
      · exact hcharacter _ (by omega) h
      · exact hcharacter _ (by omega) h
      · exact ih h

end AttachGate.Base64
