import Liquifier.Engine.Plan

/-!
The price impact of a sale, against the formula it stands for.

The formula is `sell * 10000 / (reserve + sell)`. The engine computes it with a
product and a sum that stop at the largest word, and they do not stop together. The
impact then falls below the formula, and a larger sale can seem to have a smaller
impact.
-/

namespace Liquifier.Engine

/-- The price impact in exact integers. -/
def exactImpact (reserve sell : ℕ) : ℕ := sell * 10000 / (reserve + sell)

/-! ### The formula -/

theorem exactImpact_le (reserve sell : ℕ) : exactImpact reserve sell ≤ 10000 :=
  Nat.div_le_of_le_mul (Nat.mul_le_mul_right 10000 (Nat.le_add_left sell reserve))

theorem exactImpact_mono {reserve sell sell' : ℕ} (hpos : 0 < reserve) (h : sell ≤ sell') :
    exactImpact reserve sell ≤ exactImpact reserve sell' := by
  have hle : exactImpact reserve sell * (reserve + sell) ≤ sell * 10000 :=
    Nat.div_mul_le_self _ _
  rw [exactImpact.eq_1 reserve sell', Nat.le_div_iff_mul_le (Nat.add_pos_left hpos _)]
  calc exactImpact reserve sell * (reserve + sell')
      = exactImpact reserve sell * (reserve + sell) +
          exactImpact reserve sell * (sell' - sell) := by
        rw [← Nat.mul_add, Nat.add_assoc, Nat.add_sub_cancel' h]
    _ ≤ sell * 10000 + 10000 * (sell' - sell) :=
        Nat.add_le_add hle (Nat.mul_le_mul_right _ (exactImpact_le reserve sell))
    _ = sell' * 10000 := by omega

theorem exactImpact_anti {reserve reserve' sell : ℕ} (hpos : 0 < reserve)
    (h : reserve ≤ reserve') : exactImpact reserve' sell ≤ exactImpact reserve sell :=
  Nat.div_le_div_left (Nat.add_le_add_right h sell) (Nat.add_pos_left hpos sell)

/-! ### The engine's numbers -/

variable {reserveX reserveY sell : ℕ}

/-- The clamp to 32 bits never applies. -/
theorem calculateImpactFromReserves_eq (hx : 0 < reserveX) (hy : 0 < reserveY) :
    calculateImpactFromReserves reserveX reserveY sell =
      U256.saturatingMul sell 10000 / U256.saturatingAdd reserveX sell := by
  rcases Nat.eq_zero_or_pos sell with rfl | hsell
  · rw [calculateImpactFromReserves, if_pos (.inr (.inr rfl)), U256.saturatingMul, Nat.zero_mul,
      Nat.zero_min, Nat.zero_div]
  · have hden : U256.saturatingAdd reserveX sell ≠ 0 := by
      rw [U256.saturatingAdd, U256.max, U256.modulus]
      omega
    have hle : U256.saturatingMul sell 10000 / U256.saturatingAdd reserveX sell ≤ 10000 := by
      refine Nat.div_le_of_le_mul ?_
      rw [U256.saturatingMul, U256.saturatingAdd, U256.max, U256.modulus]
      omega
    have hpos : ¬ (reserveX = 0 ∨ reserveY = 0 ∨ sell = 0) := by omega
    rw [calculateImpactFromReserves, if_neg hpos]
    simp only [if_neg hden]
    exact if_pos (hle.trans_lt (by decide))

theorem calculateImpactFromReserves_le (hx : 0 < reserveX) (hy : 0 < reserveY) :
    calculateImpactFromReserves reserveX reserveY sell ≤ 10000 := by
  rw [calculateImpactFromReserves_eq hx hy]
  refine Nat.div_le_of_le_mul ?_
  rw [U256.saturatingMul, U256.saturatingAdd, U256.max, U256.modulus]
  omega

/-- The product and the sum stop without an effect: the product does not stop; or it
stops alone and steps over no multiple of the sum; or both stop and the quotient is
one anyway. -/
def StopsHarmlessly (reserve sell : ℕ) : Prop :=
  sell * 10000 ≤ U256.max ∨
    (reserve + sell ≤ U256.max ∧
      ∀ k, U256.max < k * (reserve + sell) → sell * 10000 < k * (reserve + sell)) ∨
    (U256.max < reserve + sell ∧ reserve + sell ≤ sell * 10000 ∧
      sell * 10000 < 2 * (reserve + sell))

/-- A quotient survives a bound on its dividend if and only if no multiple of the
divisor lies above the bound. -/
theorem div_eq_div_iff_forall_mul {n d bound : ℕ} (hd : 0 < d) (hle : bound ≤ n) :
    bound / d = n / d ↔ ∀ k, bound < k * d → n < k * d := by
  constructor
  · intro heq k hk
    by_contra hlt
    have hkle : k ≤ bound / d := by
      rw [heq, Nat.le_div_iff_mul_le hd]
      exact Nat.le_of_not_lt hlt
    exact absurd ((Nat.le_div_iff_mul_le hd).mp hkle) (not_le.mpr hk)
  · intro h
    refine le_antisymm (Nat.div_le_div_right hle) ?_
    rw [Nat.le_div_iff_mul_le hd]
    by_contra hgt
    exact absurd (Nat.div_mul_le_self n d) (not_le.mpr (h (n / d) (not_le.mp hgt)))

/-- Three cases: the product fits, it stops alone, and it stops with the sum. -/
theorem calculateImpactFromReserves_eq_exact_iff (hx : 0 < reserveX) (hy : 0 < reserveY) :
    calculateImpactFromReserves reserveX reserveY sell = exactImpact reserveX sell ↔
      StopsHarmlessly reserveX sell := by
  have hd : 0 < reserveX + sell := Nat.add_pos_left hx sell
  rw [calculateImpactFromReserves_eq hx hy, exactImpact, StopsHarmlessly]
  by_cases hprod : sell * 10000 ≤ U256.max
  · refine iff_of_true ?_ (.inl hprod)
    rw [U256.saturatingMul, U256.saturatingAdd, min_eq_left hprod]
    by_cases hsum : reserveX + sell ≤ U256.max
    · rw [min_eq_left hsum]
    · -- the largest word is odd and the product is not, so the product stays below it
      have hlt : sell * 10000 < U256.max := by
        rw [U256.max, U256.modulus] at hprod ⊢
        omega
      rw [min_eq_right (by omega), Nat.div_eq_of_lt hlt, Nat.div_eq_of_lt (by omega)]
  · have hge : U256.max ≤ sell * 10000 := Nat.le_of_not_le hprod
    have hmul : U256.saturatingMul sell 10000 = U256.max := min_eq_right hge
    by_cases hsum : reserveX + sell ≤ U256.max
    · have hadd : U256.saturatingAdd reserveX sell = reserveX + sell := min_eq_left hsum
      rw [hmul, hadd, div_eq_div_iff_forall_mul hd hge]
      simp only [hprod, hsum, not_lt.mpr hsum, true_and, false_and, or_false, false_or]
    · have hadd : U256.saturatingAdd reserveX sell = U256.max :=
        min_eq_right (Nat.le_of_not_le hsum)
      have hone : U256.max / U256.max = 1 := Nat.div_self (by decide)
      rw [hmul, hadd, hone, eq_comm, Nat.div_eq_iff hd]
      simp only [hprod, hsum, Nat.lt_of_not_le hsum, true_and, false_and, false_or]
      constructor <;> rintro ⟨h, h'⟩ <;> constructor <;> omega

/-- The engine computes the formula if and only if the product and the sum stop
without an effect. Among such sales, what the gate rejects it also rejects in a larger
size, and a deeper reserve has no larger impact. -/
theorem calculateImpactFromReserves_sound_iff (hx : 0 < reserveX) (hy : 0 < reserveY) :
    (calculateImpactFromReserves reserveX reserveY sell ≤ 10000 ∧
      calculateImpactFromReserves reserveX reserveY sell = exactImpact reserveX sell ↔
        StopsHarmlessly reserveX sell) ∧
    (StopsHarmlessly reserveX sell →
      (∀ sell', sell ≤ sell' → StopsHarmlessly reserveX sell' → ∀ maxImpactBps,
        maxImpactBps < calculateImpactFromReserves reserveX reserveY sell →
        maxImpactBps < calculateImpactFromReserves reserveX reserveY sell') ∧
      ∀ reserveX' reserveY', reserveX ≤ reserveX' → 0 < reserveY' →
        StopsHarmlessly reserveX' sell →
        calculateImpactFromReserves reserveX' reserveY' sell ≤
          calculateImpactFromReserves reserveX reserveY sell) := by
  have hexact : calculateImpactFromReserves reserveX reserveY sell = exactImpact reserveX sell ↔
      StopsHarmlessly reserveX sell := calculateImpactFromReserves_eq_exact_iff hx hy
  refine ⟨?_, fun hstops => ⟨?_, ?_⟩⟩
  · rw [hexact]
    exact and_iff_right (calculateImpactFromReserves_le hx hy)
  · intro sell' hle hstops' maxImpactBps hmax
    rw [hexact.mpr hstops] at hmax
    rw [(calculateImpactFromReserves_eq_exact_iff hx hy).mpr hstops']
    exact hmax.trans_le (exactImpact_mono hx hle)
  · intro reserveX' reserveY' hle hy' hstops'
    rw [hexact.mpr hstops,
      (calculateImpactFromReserves_eq_exact_iff (hx.trans_le hle) hy').mpr hstops']
    exact exactImpact_anti hx hle

/-- The largest sale has an impact of one basis point, and a small part of it one of
nearly all. -/
theorem impact_of_largest_sale :
    calculateImpactFromReserves 1 1 U256.max = 1 ∧ exactImpact 1 U256.max = 9999 ∧
      10 ^ 40 ≤ U256.max ∧ calculateImpactFromReserves 1 1 (10 ^ 40) = 9999 := by
  decide +kernel

theorem impact_of_equal_sale :
    0 < 1000000 ∧ 0 < 500000 ∧ calculateImpactFromReserves 1000000 500000 1000000 = 5000 ∧
      (calculateImpactFromReserves 1000000 500000 1000000 ≤ 10000 ∧
        calculateImpactFromReserves 1000000 500000 1000000 = exactImpact 1000000 1000000 ↔
          StopsHarmlessly 1000000 1000000) :=
  ⟨by decide, by decide, by decide,
    (calculateImpactFromReserves_sound_iff (by decide) (by decide)).1⟩

end Liquifier.Engine
