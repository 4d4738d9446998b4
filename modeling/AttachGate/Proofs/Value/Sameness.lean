import AttachGate.App.Basic
import AttachGate.Gate.Handler

/-!
# What identifies an app

The parts of an app's name may be any values that can identify something.  Such
a value denotes something that does not depend on how it is written: the integer
`1`, the number `1.0` and the truth value `true` denote the same.  Two names are
the same just if their parts denote the same, so being the same is an
equivalence and a table keyed by names has one entry for each.
-/

namespace AttachGate

namespace Binary64

theorem two_pow_pos (n : Nat) : 0 < Nat.pow 2 n := Nat.pow_pos (by omega)

theorem mul_pow_lt {m e a b c : Nat} (hm : m < Nat.pow 2 a) (he : e ≤ b) (hc : a + b ≤ c) :
    m * Nat.pow 2 e < Nat.pow 2 c := by
  calc m * Nat.pow 2 e
      ≤ m * Nat.pow 2 b := Nat.mul_le_mul_left _ (Nat.pow_le_pow_right (by omega) he)
    _ < Nat.pow 2 a * Nat.pow 2 b := Nat.mul_lt_mul_of_pos_right hm (two_pow_pos b)
    _ = Nat.pow 2 (a + b) := (Nat.pow_add 2 a b).symm
    _ ≤ Nat.pow 2 c := Nat.pow_le_pow_right (by omega) hc

theorem natAbs_toPlaces (x : Binary64) :
    x.toPlaces.natAbs = x.significand.1 * Nat.pow 2 (x.significand.2 - minExponent).toNat := by
  unfold toPlaces
  simp only
  generalize x.significand.1 * Nat.pow 2 (x.significand.2 - minExponent).toNat = size
  split <;> simp

/-- A finite number has less than 53 bits, at an exponent that has 2046 values
at most. -/
theorem significand_bounds {x : Binary64} (hfinite : x.isFinite = true) :
    x.significand.1 < Nat.pow 2 53 ∧ (x.significand.2 - minExponent).toNat ≤ 2046 := by
  have hmagnitude : x.magnitudeBits < 2047 * Nat.pow 2 52 := of_decide_eq_true hfinite
  have hfraction : x.magnitudeBits % Nat.pow 2 52 < Nat.pow 2 52 :=
    Nat.mod_lt _ (two_pow_pos 52)
  have hexponent : x.magnitudeBits / Nat.pow 2 52 < 2047 :=
    Nat.div_lt_of_lt_mul (by rw [Nat.mul_comm]; exact hmagnitude)
  have hpow : Nat.pow 2 53 = Nat.pow 2 52 + Nat.pow 2 52 := rfl
  unfold significand minExponent
  simp only
  generalize x.magnitudeBits % Nat.pow 2 52 = fraction at hfraction ⊢
  generalize x.magnitudeBits / Nat.pow 2 52 = exponent at hexponent ⊢
  generalize Nat.pow 2 53 = bound at hpow ⊢
  generalize Nat.pow 2 52 = unit at hfraction hpow ⊢
  split
  · constructor
    · simp only
      omega
    · simp
  · constructor
    · simp only
      omega
    · simp only
      omega

theorem natAbs_toPlaces_lt {x : Binary64} (hfinite : x.isFinite = true) {bits : Nat}
    (hbits : 53 + 2046 ≤ bits) : x.toPlaces.natAbs < Nat.pow 2 bits := by
  obtain ⟨hsignificand, hexponent⟩ := significand_bounds hfinite
  rw [natAbs_toPlaces]
  exact mul_pow_lt hsignificand hexponent hbits

/-- The infinities rank beyond the finite numbers. -/
theorem exists_rank_bound : ∃ bound : Nat, 0 < bound ∧ ∀ x : Binary64,
    (x.isFinite = true → x.rank = x.toPlaces ∧ x.toPlaces.natAbs < bound) ∧
      (x.isFinite = false → x.rank = if x.isNegative then -(bound : Int) else bound) := by
  unfold rank
  generalize hbits : 2200 = bits
  refine ⟨Nat.pow 2 bits, two_pow_pos bits, ?_⟩
  intro x
  constructor
  · intro hfinite
    rw [if_pos hfinite]
    exact ⟨rfl, natAbs_toPlaces_lt hfinite (by omega)⟩
  · intro hinfinite
    rw [hinfinite, if_neg Bool.false_ne_true]

end Binary64

namespace Value

/-- What a value that can identify something denotes.  A finite number is told by
its count of last places of the least kind. -/
inductive Denotation
  | null
  | text (t : Text)
  | nan
  | infinite (negative : Bool)
  | places (n : Int)
  | compound

def placesOfInt (n : Int) : Int := n * Nat.pow 2 (-Binary64.minExponent).toNat

def denotationOfFloat (x : Binary64) : Denotation :=
  if x.isNaN then .nan
  else if x.isFinite then .places x.toPlaces
  else .infinite x.isNegative

def denotation : Value → Denotation
  | .null => .null
  | .bool b => .places (placesOfInt (if b then 1 else 0))
  | .int n => .places (placesOfInt n)
  | .float x => denotationOfFloat x
  | .text t => .text t
  | .array _ | .object _ => .compound

theorem placesOfInt_inj {m n : Int} : placesOfInt m = placesOfInt n ↔ m = n := by
  unfold placesOfInt
  have hpos : (0 : Int) < ((Nat.pow 2 (-Binary64.minExponent).toNat : Nat) : Int) :=
    Int.natCast_pos.mpr (Binary64.two_pow_pos _)
  generalize ((Nat.pow 2 (-Binary64.minExponent).toNat : Nat) : Int) = unit at hpos ⊢
  constructor
  · exact Int.eq_of_mul_eq_mul_right (by omega)
  · intro hsame
    rw [hsame]

/-- An integer and a double-precision number are equal if they denote the same. -/
theorem eqInt_iff (x : Binary64) (n : Int) :
    x.eqInt n = true ↔ denotationOfFloat x = .places (placesOfInt n) := by
  unfold Binary64.eqInt denotationOfFloat placesOfInt
  generalize n * ((Nat.pow 2 (-Binary64.minExponent).toNat : Nat) : Int) = places
  cases hnan : x.isNaN with
  | true =>
      have hinfinite : x.isFinite = false := by
        simp only [Binary64.isNaN, Binary64.isFinite, decide_eq_true_eq, decide_eq_false_iff_not]
          at hnan ⊢
        omega
      simp [hinfinite]
  | false => cases hfinite : x.isFinite <;> simp

/-- Two double-precision numbers are equal if they denote the same and are numbers. -/
theorem eq_iff (x y : Binary64) :
    x.isNaN = true ∧ y.isNaN = true ∨ x.eq y = true ↔
      denotationOfFloat x = denotationOfFloat y := by
  obtain ⟨bound, hpos, hrank⟩ := Binary64.exists_rank_bound
  have hx := hrank x
  have hy := hrank y
  unfold Binary64.eq denotationOfFloat
  cases hnanx : x.isNaN <;> cases hnany : y.isNaN <;> cases hfinitex : x.isFinite <;>
    cases hfinitey : y.isFinite <;> cases hnegx : x.isNegative <;> cases hnegy : y.isNegative <;>
    simp [hfinitex, hfinitey, hnegx, hnegy] at hx hy ⊢ <;> omega

theorem denotationOfFloat_ne (x : Binary64) :
    denotationOfFloat x ≠ .null ∧ ∀ t, denotationOfFloat x ≠ .text t := by
  unfold denotationOfFloat
  split
  · simp
  · split <;> simp

/-- Values that can identify something are the same just if they denote the same. -/
theorem same_iff {v w : Value} (hv : v.isKey = true) (hw : w.isKey = true) :
    v.same w = true ↔ v.denotation = w.denotation := by
  have hnull := fun x => (denotationOfFloat_ne x).1
  have htext := fun x => (denotationOfFloat_ne x).2
  have hnull' := fun x => (hnull x).symm
  have htext' := fun x t => (htext x t).symm
  have hswap := fun x n => @eq_comm _ (.places n) (denotationOfFloat x)
  cases v <;> cases w <;>
    simp [same, denotation, number?, numbersEqual, isNaN, isKey, eqInt_iff, placesOfInt_inj,
      eq_iff, hnull, htext, hnull', htext', hswap] at hv hw ⊢

end Value

theorem App.Id.same_iff {a b : App.Id} (ha : Gate.canLookUp a = true)
    (hb : Gate.canLookUp b = true) :
    a.same b = true ↔ a.namespaceName.denotation = b.namespaceName.denotation ∧
      a.name.denotation = b.name.denotation := by
  simp only [Gate.canLookUp, Bool.and_eq_true] at ha hb
  simp only [App.Id.same, Bool.and_eq_true, Value.same_iff ha.1 hb.1, Value.same_iff ha.2 hb.2]

section

variable {a b c : App.Id} (ha : Gate.canLookUp a = true) (hb : Gate.canLookUp b = true)
include ha

theorem App.Id.same_refl : a.same a = true := (same_iff ha ha).mpr ⟨rfl, rfl⟩

include hb

theorem App.Id.same_symm (hab : a.same b = true) : b.same a = true := by
  have hparts := (same_iff ha hb).mp hab
  exact (same_iff hb ha).mpr ⟨hparts.1.symm, hparts.2.symm⟩

theorem App.Id.same_trans (hc : Gate.canLookUp c = true) (hab : a.same b = true)
    (hbc : b.same c = true) : a.same c = true := by
  have hleft := (same_iff ha hb).mp hab
  have hright := (same_iff hb hc).mp hbc
  exact (same_iff ha hc).mpr ⟨hleft.1.trans hright.1, hleft.2.trans hright.2⟩

end

end AttachGate
