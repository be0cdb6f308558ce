import Mathlib.Data.Rat.Cast.Order
import Mathlib.Algebra.Order.Field.Power
import Mathlib.Tactic.Ring
import Columnar.Float.Binary

/-!
# The numbers that floats stand for

A finite pattern stands for one rational number, told by its sign, its exponent
and its fraction.  Decoding finds this number, the integers among the numbers
are recognized exactly, and the eight-byte float of a four-byte one has the same
number.
-/

namespace Columnar

/-! ## Patterns and their numbers -/

def FloatValue.number? : FloatValue -> Option ℚ
  | .finite negative significand place =>
      some ((-1) ^ negative.toNat * (significand * 2 ^ place))
  | _ => none

namespace FloatFormat

/-- What the exponent field holds for numbers from one to below two. -/
def bias (f : FloatFormat) : Nat := 2 ^ (f.exponentBits - 1) - 1

/--
The number of a pattern by the fields of its format.  The fraction is a part of
one, and one is added to it unless the exponent field is zero; infinities and
NaN, where all bits of the exponent are set, have no number.
-/
def number? (f : FloatFormat) (bits : Nat) : Option ℚ :=
  let sign := bits / 2 ^ (f.exponentBits + f.fractionBits) % 2
  let exponent := bits / 2 ^ f.fractionBits % 2 ^ f.exponentBits
  let fraction : ℚ := (bits % 2 ^ f.fractionBits : Nat) / 2 ^ f.fractionBits
  if exponent = 2 ^ f.exponentBits - 1 then none
  else if exponent = 0 then
    some ((-1) ^ sign * (fraction * 2 ^ (1 - f.bias : Int)))
  else some ((-1) ^ sign * ((1 + fraction) * 2 ^ (exponent - f.bias : Int)))

variable {f : FloatFormat}

theorem leastPlace_eq (h : f.exponentBits ≠ 0) :
    f.leastPlace = 1 - f.bias - f.fractionBits := by
  have hhalf : f.exponents / 2 = 2 ^ (f.exponentBits - 1) := by
    rcases Nat.exists_eq_succ_of_ne_zero h with ⟨n, hn⟩
    rw [exponents, hn, Nat.pow_eq, Nat.pow_succ,
      Nat.mul_div_cancel _ Nat.two_pos, Nat.succ_sub_one]
  have hpos : 0 < 2 ^ (f.exponentBits - 1) := Nat.two_pow_pos _
  rw [leastPlace, hhalf, bias]
  omega

theorem mul_last_place (f : FloatFormat) (significand : ℚ) (place : Int) :
    significand * 2 ^ (place - f.fractionBits) =
      significand / 2 ^ f.fractionBits * 2 ^ place := by
  rw [zpow_sub₀ two_ne_zero, zpow_natCast]
  ring

theorem toNat_decide_odd (n : Nat) : (decide (n % 2 = 1)).toNat = n % 2 := by
  rcases Nat.mod_two_eq_zero_or_one n with h | h <;> rw [h] <;> rfl

theorem number?_decode (h : f.exponentBits ≠ 0) (bits : Nat) :
    (f.decode bits).number? = f.number? bits := by
  have hunit : ((2 ^ f.fractionBits : Nat) : ℚ) / 2 ^ f.fractionBits = 1 := by
    rw [Nat.cast_pow, Nat.cast_ofNat, div_self (pow_ne_zero _ two_ne_zero)]
  simp only [decode, number?, topExponent, exponents, fractions, Nat.pow_eq,
    ← Nat.pow_add]
  split
  · split <;> rfl
  · split
    · rw [FloatValue.number?, toNat_decide_odd, leastPlace_eq h, mul_last_place]
    · next hexponent =>
        have hplace : forall exponent : Nat, f.leastPlace + exponent - 1 =
            (exponent - f.bias : Int) - f.fractionBits := by
          intro exponent
          rw [leastPlace_eq h]
          omega
        rw [FloatValue.number?, toNat_decide_odd, hplace, mul_last_place,
          Nat.cast_add, add_div, hunit]

end FloatFormat

/-! ## Integers -/

namespace FloatValue

theorem magnitude_iff {significand magnitude : Nat} {place : Int} :
    significand % Nat.pow 2 (-place).toNat = 0 ∧
        significand * Nat.pow 2 place.toNat / Nat.pow 2 (-place).toNat =
          magnitude ↔
      (significand : ℚ) * 2 ^ place = magnitude := by
  rcases place.eq_nat_or_neg with ⟨k, rfl | rfl⟩
  · have hunit : (-(k : Int)).toNat = 0 := by omega
    rw [hunit, Int.toNat_natCast, zpow_natCast, Nat.pow_eq, Nat.pow_eq,
      Nat.pow_zero, Nat.mod_one, Nat.div_one]
    norm_cast
    exact and_iff_right rfl
  · have hunit : (-(k : Int)).toNat = 0 := by omega
    have hpos : 0 < 2 ^ k := Nat.two_pow_pos k
    rw [neg_neg, hunit, Int.toNat_natCast, Nat.pow_eq, Nat.pow_eq, Nat.pow_zero,
      Nat.mul_one, zpow_neg, zpow_natCast, ← div_eq_mul_inv,
      div_eq_iff (pow_ne_zero k two_ne_zero)]
    norm_cast
    constructor
    · intro h
      rw [← h.2, Nat.div_mul_cancel (Nat.dvd_of_mod_eq_zero h.1)]
    · rintro rfl
      exact ⟨Nat.mul_mod_left _ _, Nat.mul_div_cancel _ hpos⟩

/-- Exactly the integers among the numbers of floats are recognized. -/
theorem integer?_eq_some_iff {v : FloatValue} {z : Int} :
    v.integer? = some z ↔ v.number? = some (z : ℚ) := by
  cases v with
  | nan => exact iff_of_false nofun nofun
  | infinite negative => exact iff_of_false nofun nofun
  | finite negative significand place =>
      have hsome : integer? (.finite negative significand place) = some z ↔
          exists magnitude : Nat, (significand : ℚ) * 2 ^ place = magnitude ∧
            z = (-1) ^ negative.toNat * magnitude := by
        simp only [← magnitude_iff, integer?]
        constructor
        · intro h
          split at h
          · next hwhole =>
              cases h
              refine ⟨_, ⟨hwhole, rfl⟩, ?_⟩
              cases negative <;> simp
          · cases h
        · rintro ⟨magnitude, ⟨hwhole, rfl⟩, rfl⟩
          rw [if_pos hwhole]
          cases negative <;> simp
      rw [hsome, number?, Option.some.injEq]
      constructor
      · rintro ⟨magnitude, hmagnitude, rfl⟩
        rw [hmagnitude]
        push_cast
        rfl
      · intro h
        have hsigned : (significand : ℚ) * 2 ^ place =
            ((-1) ^ negative.toNat * z : Int) := by
          push_cast
          rw [← h]
          cases negative <;> simp
        have hpos : (0 : ℚ) ≤ significand * 2 ^ place :=
          mul_nonneg (Nat.cast_nonneg _) (zpow_nonneg two_pos.le _)
        rw [hsigned, Int.cast_nonneg_iff] at hpos
        rcases Int.eq_ofNat_of_zero_le hpos with ⟨magnitude, hmagnitude⟩
        refine ⟨magnitude, ?_, ?_⟩
        · rw [hsigned, hmagnitude, Int.cast_natCast]
        · rw [← hmagnitude]
          cases negative <;> simp

end FloatValue

/-! ## Rounding what fits -/

namespace FloatFormat

variable {f : FloatFormat} {negative : Bool}

theorem fractions_pos (f : FloatFormat) : 0 < f.fractions := Nat.two_pow_pos _

theorem exponents_pos (f : FloatFormat) : 0 < f.exponents := Nat.two_pow_pos _

theorem signBit_eq (f : FloatFormat) (negative : Bool) :
    f.signBit negative = negative.toNat * f.exponents * f.fractions := by
  cases negative <;> simp [signBit]

theorem decode_fields {exponent fraction : Nat}
    (hexponent : exponent < f.exponents) (hfraction : fraction < f.fractions) :
    f.decode (f.signBit negative + (exponent * f.fractions + fraction)) =
      if exponent = f.topExponent then if fraction = 0 then
          .infinite negative else .nan
      else if exponent = 0 then .finite negative fraction f.leastPlace
      else
        .finite negative (f.fractions + fraction)
          (f.leastPlace + exponent - 1) := by
  have hbits : f.signBit negative + (exponent * f.fractions + fraction) =
      fraction + (exponent + negative.toNat * f.exponents) * f.fractions := by
    rw [signBit_eq]
    ring
  have hhigh :
      (fraction + (exponent + negative.toNat * f.exponents) * f.fractions) /
        f.fractions =
      exponent + negative.toNat * f.exponents := by
    rw [Nat.add_mul_div_right _ _ f.fractions_pos, Nat.div_eq_of_lt hfraction,
      Nat.zero_add]
  have hsign :
      (fraction + (exponent + negative.toNat * f.exponents) * f.fractions) /
      (f.exponents * f.fractions) = negative.toNat := by
    rw [Nat.mul_comm f.exponents, ← Nat.div_div_eq_div_mul, hhigh,
      Nat.add_mul_div_right _ _ f.exponents_pos, Nat.div_eq_of_lt hexponent,
      Nat.zero_add]
  have hnegative : decide (negative.toNat % 2 = 1) = negative := by
    cases negative <;> rfl
  rw [hbits]
  simp only [decode, hsign, hhigh, hnegative, Nat.add_mul_mod_self_right,
    Nat.mod_eq_of_lt hfraction, Nat.mod_eq_of_lt hexponent]

theorem decode_significand {significand above : Nat}
    (hfits : significand < 2 * f.fractions)
    (hlead : f.fractions ≤ significand ∨ above = 0)
    (htop : above + 1 < f.topExponent) :
    f.decode (f.signBit negative + (above * f.fractions + significand)) =
      .finite negative significand (f.leastPlace + above) := by
  have hexponents : above + 1 < f.exponents := htop.trans_le (Nat.sub_le _ _)
  rcases Nat.lt_or_ge significand f.fractions with hlt | hge
  · have habove : above = 0 := hlead.resolve_left hlt.not_ge
    rw [habove, decode_fields f.exponents_pos hlt,
      if_neg (by omega), if_pos rfl]
    simp
  · have hcarry : above * f.fractions + significand =
        (above + 1) * f.fractions + (significand - f.fractions) := by
      rw [Nat.succ_mul]
      omega
    rw [hcarry, decode_fields hexponents (by omega), if_neg htop.ne,
      if_neg above.succ_ne_zero,
      Nat.add_sub_cancel' hge]
    congr 1
    push_cast
    ring

theorem le_infinity_of_lt {significand above : Nat}
    (hfits : significand < 2 * f.fractions) (htop : above + 1 < f.topExponent) :
    above * f.fractions + significand ≤ f.infinity := by
  calc
    above * f.fractions + significand ≤ (above + 2) * f.fractions := by
      rw [Nat.add_mul]
      exact Nat.add_le_add_left hfits.le _
    _ ≤ f.topExponent * f.fractions := Nat.mul_le_mul_right _ htop

theorem mul_two_pow_lt {n places width : Nat} (h : n.log2 + places ≤ width) :
    n * 2 ^ places < 2 * 2 ^ width := by
  calc
    n * 2 ^ places < 2 ^ (n.log2 + 1) * 2 ^ places :=
      Nat.mul_lt_mul_of_pos_right Nat.lt_log2_self (Nat.two_pow_pos _)
    _ = 2 * 2 ^ (n.log2 + places) := by ring
    _ ≤ 2 * 2 ^ width :=
  Nat.mul_le_mul_left _ (Nat.pow_le_pow_right Nat.two_pos h)

theorem le_mul_two_pow {n places width : Nat} (hn : n ≠ 0)
    (h : width = n.log2 + places) :
    2 ^ width ≤ n * 2 ^ places := by
  rw [h, Nat.pow_add]
  exact Nat.mul_le_mul_right _ (Nat.log2_self_le hn)

theorem roundDiv_one (n : Nat) : roundDiv n 1 = n := by
  simp [roundDiv, Nat.mod_one]

/--
A significand that fits is moved up until its leading bit is in its place, or
its last place is the least, and nothing is rounded off.
-/
theorem exists_round_eq (negative : Bool) {significand : Nat} {place : Int}
    (hfits : significand < 2 * f.fractions) (hplace : f.leastPlace ≤ place)
    (htop : place - f.leastPlace + 1 < f.topExponent) :
    exists places above : Nat,
      significand * 2 ^ places < 2 * f.fractions ∧
        (f.fractions ≤ significand * 2 ^ places ∨ above = 0) ∧
          above + 1 < f.topExponent ∧
          f.leastPlace + above + places = place ∧
            f.round negative significand place =
              f.signBit negative +
                (above * f.fractions + significand * 2 ^ places) := by
  by_cases hzero : significand = 0
  · refine ⟨(place - f.leastPlace).toNat, 0, ?_, Or.inr rfl,
      by omega, by omega, ?_⟩
    · rw [hzero, Nat.zero_mul]
      exact Nat.mul_pos Nat.two_pos f.fractions_pos
    · simp [round, hzero]
  · have hlog : significand.log2 < f.fractionBits + 1 := by
      rw [Nat.log2_lt hzero, Nat.pow_succ']
      exact hfits
    have hkept : exists kept, kept =
        max (place + significand.log2 - f.fractionBits) f.leastPlace := ⟨_, rfl⟩
    rcases hkept with ⟨kept, hkept⟩
    have hfit : significand * 2 ^ (place - kept).toNat < 2 * f.fractions :=
      mul_two_pow_lt (by omega)
    have hinfinity : (kept - f.leastPlace).toNat * f.fractions +
        significand * 2 ^ (place - kept).toNat ≤ f.infinity :=
      le_infinity_of_lt hfit (by omega)
    refine ⟨(place - kept).toNat, (kept - f.leastPlace).toNat, hfit, ?_,
      by omega, by omega, ?_⟩
    · rcases lt_or_ge f.leastPlace kept with hlt | hge
      · exact Or.inl (le_mul_two_pow hzero (by omega))
      · exact Or.inr (by omega)
    · -- Nothing lies below the place that is kept, so the quotient is by one.
      have hunit : (kept - place).toNat = 0 := by omega
      simp only [round, if_neg hzero, ← hkept, hunit]
      rw [Nat.pow_eq, Nat.pow_eq, Nat.pow_zero, roundDiv_one,
        Nat.min_eq_left hinfinity]

theorem number?_finite_mul_two_pow (significand places : Nat) (place : Int) :
    (FloatValue.finite negative (significand * 2 ^ places) place).number? =
      (FloatValue.finite negative significand (place + places)).number? := by
  rw [FloatValue.number?, FloatValue.number?, zpow_add₀ two_ne_zero,
    zpow_natCast]
  push_cast
  ring_nf

/-- What needs no more places than there are keeps its number. -/
theorem number?_decode_round {significand : Nat} {place : Int}
    (hfits : significand < 2 * f.fractions) (hplace : f.leastPlace ≤ place)
    (htop : place - f.leastPlace + 1 < f.topExponent) :
    (f.decode (f.round negative significand place)).number? =
      (FloatValue.finite negative significand place).number? := by
  rcases exists_round_eq negative hfits hplace htop
    with ⟨places, above, hkept, hlead, habove, rfl, hround⟩
  rw [hround, decode_significand hkept hlead habove, number?_finite_mul_two_pow]

theorem round_lt (f : FloatFormat) (negative : Bool) (significand : Nat)
    (place : Int) :
    f.round negative significand place < 2 * (f.exponents * f.fractions) := by
  have hsign : f.signBit negative ≤ f.exponents * f.fractions := by
    cases negative <;> simp [signBit]
  have hinfinity : f.infinity < f.exponents * f.fractions :=
    Nat.mul_lt_mul_of_pos_right (Nat.sub_lt f.exponents_pos Nat.one_pos)
      f.fractions_pos
  unfold round
  split
  · omega
  · dsimp only
    omega

theorem bounds_of_decode {bits significand : Nat} {place : Int}
    (h : f.decode bits = .finite negative significand place) :
    significand < 2 * f.fractions ∧ f.leastPlace ≤ place ∧
      place < f.leastPlace + f.topExponent := by
  have hfraction : bits % f.fractions < f.fractions :=
    Nat.mod_lt _ f.fractions_pos
  have hexponent : bits / f.fractions % f.exponents < f.exponents :=
    Nat.mod_lt _ f.exponents_pos
  simp only [decode] at h
  split at h
  · split at h <;> cases h
  · next htop =>
      have hlt : bits / f.fractions % f.exponents < f.topExponent := by
        rw [topExponent] at htop ⊢
        omega
      split at h
      · cases h
        omega
      · cases h
        omega

end FloatFormat

/-! ## Widening -/

theorem Binary32.number?_widen (x : Binary32) :
    x.widen.value.number? = x.value.number? := by
  rw [widen]
  cases h : x.value with
  | nan => rfl
  | infinite negative => cases negative <;> rfl
  | finite negative significand place =>
      have hsingle : FloatFormat.single.fractions = 2 ^ 23 ∧
          FloatFormat.single.leastPlace = -149 ∧
            FloatFormat.single.topExponent = 255 :=
        ⟨rfl, rfl, rfl⟩
      have hdouble : FloatFormat.double.fractions = 2 ^ 52 ∧
          FloatFormat.double.leastPlace = -1074 ∧
            FloatFormat.double.topExponent = 2047 :=
        ⟨rfl, rfl, rfl⟩
      have hround : FloatFormat.double.round negative significand place <
          2 ^ 64 :=
        FloatFormat.double.round_lt negative significand place
      rcases FloatFormat.bounds_of_decode h with ⟨hfits, hplace, htop⟩
      rw [Binary64.value, UInt64.toNat_ofNat_of_lt' hround]
      apply FloatFormat.number?_decode_round <;> omega

theorem Binary32.number?_value (x : Binary32) :
    x.value.number? = FloatFormat.single.number? x.bits.toNat :=
  FloatFormat.number?_decode (by decide) _

theorem Binary64.number?_value (x : Binary64) :
    x.value.number? = FloatFormat.double.number? x.bits.toNat :=
  FloatFormat.number?_decode (by decide) _

end Columnar
