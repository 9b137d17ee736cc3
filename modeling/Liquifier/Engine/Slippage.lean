import Liquifier.Engine.Plan

/-!
The least output that the engine accepts of a swap.

For a V2 route it is the quote of the router less the tolerance of the session, up
to the wrap of a 256-bit product. A V3 route has no quote, and the amount that is sold
stands for the amount that comes back, so that the bound is a number of units
of the wrong token.
-/

namespace Liquifier.Engine

variable {env : Environment}

/-- The `amountOutMin` of a call. -/
def RouterCall.amountOutMin : RouterCall → ℕ
  | .swapExactETHForTokensSupportingFeeOnTransferTokens amountOutMin _ _ _ => amountOutMin
  | .swapExactTokensForETHSupportingFeeOnTransferTokens _ amountOutMin _ _ _ => amountOutMin
  | .swapExactTokensForTokensSupportingFeeOnTransferTokens _ amountOutMin _ _ _ => amountOutMin
  | .exactInput _ _ _ _ amountOutMinimum => amountOutMinimum

/-- The bound of a call that is built, and the checks that it has passed. -/
theorem buildSwapCalldata_amountOutMin {cfg : Settings} {amount expectedOutput : ℕ}
    {route : PoolSwapRoute} {poolType : PoolType} {defaultFeeTier : ℕ} {recipient : Address}
    {chain : String} {slippageBps now : ℕ} {call : RouterCall}
    (h : buildSwapCalldata cfg amount expectedOutput route poolType defaultFeeTier recipient chain
      slippageBps now = some call) :
    slippageBps < 10000 ∧ 0 < call.amountOutMin ∧ call.amountOutMin =
      amountOutMinimum (if expectedOutput = 0 then amount else expectedOutput) slippageBps := by
  simp only [buildSwapCalldata, Option.bind_eq_bind, Option.bind_eq_some_iff,
    Option.ite_none_left_eq_some] at h
  obtain ⟨_, _, hslippage, hmin, h⟩ := h
  have hbound : call.amountOutMin =
      amountOutMinimum (if expectedOutput = 0 then amount else expectedOutput) slippageBps := by
    cases poolType with
    | v2 =>
        dsimp only at h
        split at h
        · cases h
          rfl
        · split at h
          · cases h
            rfl
          · cases h
            rfl
    | v3 =>
        simp only [Option.bind_eq_some_iff, Option.some.injEq] at h
        obtain ⟨_, _, _, _, rfl⟩ := h
        rfl
  refine ⟨Nat.lt_of_not_le hslippage, ?_, hbound⟩
  rw [hbound]
  exact Nat.pos_of_ne_zero hmin

/-- `quote` is what the route returns for the sell: the last amount that a V2 router
answers, and for V3 any positive amount, since nobody is asked. -/
def Quotes (ans : SwapAnswers) : PoolType → ℕ → Prop
  | .v2, quote => ans.amountsOut.bind List.getLast? = some quote
  | .v3, quote => 0 < quote

/-- The output below which the tolerance of the session is exceeded. -/
def toleratedOutput (quote slippageBps : ℕ) : ℕ := quote * (10000 - slippageBps) / 10000

/-- For V2, the product with the quote fits in 256 bits; for V3, the product with the
amount that is sold does, and the route returns no more units than are sold. -/
def QuoteCovered (sellAmount slippageBps quote : ℕ) : PoolType → Prop
  | .v2 => quote * (10000 - slippageBps) < U256.modulus
  | .v3 => sellAmount * (10000 - slippageBps) < U256.modulus ∧ quote ≤ sellAmount

/-- The same up to the rounding: a V3 quote may exceed the amount that is sold by less than
one unit of the bound, and nothing is said of the product. -/
def QuoteNearlyCovered (sellAmount slippageBps quote : ℕ) : PoolType → Prop
  | .v2 => quote * (10000 - slippageBps) < U256.modulus
  | .v3 => quote * (10000 - slippageBps) < sellAmount * (10000 - slippageBps) + 10000

namespace Planned

variable {event : DexSwapEvent} {session : SessionInfo} {ans : SwapAnswers} {plan : SwapPlan}

theorem slippage_lt (h : Planned env event session ans plan) :
    sessionSlippageBps env session < 10000 := by
  obtain ⟨_, _, hcall⟩ := h.calldata_built
  exact (buildSwapCalldata_amountOutMin hcall).1

theorem amountOutMin_pos (h : Planned env event session ans plan) :
    0 < plan.calldata.amountOutMin := by
  obtain ⟨_, _, hcall⟩ := h.calldata_built
  exact (buildSwapCalldata_amountOutMin hcall).2.1

/-- The amount from which the bound is computed. -/
theorem amountOutMin_eq (h : Planned env event session ans plan) {quote : ℕ}
    (hquote : Quotes ans plan.poolType quote) :
    plan.calldata.amountOutMin =
      amountOutMinimum (match plan.poolType with | .v2 => quote | .v3 => plan.sellAmount)
        (sessionSlippageBps env session) := by
  obtain ⟨expected, hexpected, hcall⟩ := h.calldata_built
  rw [(buildSwapCalldata_amountOutMin hcall).2.2]
  simp only [getOnChainQuote, Option.bind_eq_bind, Option.bind_eq_some_iff] at hexpected
  obtain ⟨_, _, hexpected⟩ := hexpected
  cases htype : plan.poolType with
  | v2 =>
      rw [htype] at hexpected hquote
      obtain ⟨hlast, hne⟩ := Option.filter_eq_some_iff.mp hexpected
      obtain rfl : quote = expected := Option.some.inj (hquote.symm.trans hlast)
      rw [if_neg (by simpa using hne)]
  | v3 =>
      rw [htype] at hexpected
      cases hexpected
      rfl

end Planned

section Bound

variable {quote sellAmount slippageBps : ℕ}

theorem toleratedOutput_le_v2_iff :
    toleratedOutput quote slippageBps ≤ amountOutMinimum quote slippageBps ↔
      quote * (10000 - slippageBps) < U256.modulus :=
  U256.div_le_wrappingMul_div_iff (by decide) (by decide)

/-- A bound in units of the sold token is enough for a quote that is no larger. -/
theorem toleratedOutput_le_of_le (hfits : sellAmount * (10000 - slippageBps) < U256.modulus)
    (hle : quote ≤ sellAmount) :
    toleratedOutput quote slippageBps ≤ amountOutMinimum sellAmount slippageBps := by
  rw [amountOutMinimum, U256.wrappingMul, Nat.mod_eq_of_lt hfits]
  exact Nat.div_le_div_right (Nat.mul_le_mul_right _ hle)

/-- And whether the product wraps or not, it is not enough for a quote that is larger by
more than the division hides. -/
theorem lt_of_toleratedOutput_le
    (h : toleratedOutput quote slippageBps ≤ amountOutMinimum sellAmount slippageBps) :
    quote * (10000 - slippageBps) < sellAmount * (10000 - slippageBps) + 10000 := by
  have hwrapped := U256.wrappingMul_le sellAmount (10000 - slippageBps)
  rw [toleratedOutput, amountOutMinimum, ← Nat.lt_succ_iff, Nat.div_lt_iff_lt_mul (by decide)] at h
  omega

theorem toleratedOutput_le_of_covered (poolType : PoolType) :
    QuoteCovered sellAmount slippageBps quote poolType → toleratedOutput quote slippageBps ≤
      amountOutMinimum (match poolType with | .v2 => quote | .v3 => sellAmount) slippageBps := by
  intro h
  cases poolType with
  | v2 => exact toleratedOutput_le_v2_iff.mpr h
  | v3 => exact toleratedOutput_le_of_le h.1 h.2

theorem nearlyCovered_of_toleratedOutput_le (poolType : PoolType) :
    toleratedOutput quote slippageBps ≤
        amountOutMinimum (match poolType with | .v2 => quote | .v3 => sellAmount) slippageBps →
      QuoteNearlyCovered sellAmount slippageBps quote poolType := by
  intro h
  cases poolType with
  | v2 => exact toleratedOutput_le_v2_iff.mp h
  | v3 => exact lt_of_toleratedOutput_le h

end Bound

/-- The bound of a swap that the engine submits protects it to the tolerance of the
session where the quote is covered, and only where it is covered up to the rounding. -/
theorem amountOutMin_protects {event : DexSwapEvent} {session : SessionInfo}
    {ans : SwapAnswers} {plan : SwapPlan} {quote : ℕ}
    (h : planSwap env event session ans = some plan) (hquote : Quotes ans plan.poolType quote) :
    (QuoteCovered plan.sellAmount (sessionSlippageBps env session) quote plan.poolType →
      toleratedOutput quote (sessionSlippageBps env session) ≤ plan.calldata.amountOutMin) ∧
    (toleratedOutput quote (sessionSlippageBps env session) ≤ plan.calldata.amountOutMin →
      QuoteNearlyCovered plan.sellAmount (sessionSlippageBps env session) quote
        plan.poolType) := by
  rw [(planSwap_planned h).amountOutMin_eq hquote]
  exact ⟨toleratedOutput_le_of_covered plan.poolType,
    nearlyCovered_of_toleratedOutput_le plan.poolType⟩

/-! ### A sell through a V3 pool -/

namespace Sample

def v3Env : Environment where
  settings := { settings with
    chains := settings.chains.map fun c =>
      (c.1, { c.2 with dexFactories := [⟨"pancakeswap", "", routerAddress, .v3, [500]⟩] }) }
  jsonFromStr := directEnv.jsonFromStr
  decimalFromStr := directEnv.decimalFromStr
  percentToBps := directEnv.percentToBps
  usdValue := directEnv.usdValue

def v3Session : SessionInfo := { row 1 with pools := [{ pool with poolType := "v3" }] }

def v3Answers : SwapAnswers :=
  { answers with
    pool := { answers.pool with balance0 := some 1000000, balance1 := some 1000000 } }

end Sample

/-- For a sell of 500 the V2 router quotes 490 units, and the V3 route returns as many. -/
theorem amountOutMin_protects_sample :
    (∃ plan, planSwap Sample.directEnv (Sample.event "0xa") (Sample.session 1) Sample.answers =
        some plan ∧
      toleratedOutput 490 (sessionSlippageBps Sample.directEnv (Sample.session 1)) ≤
        plan.calldata.amountOutMin) ∧
    ∃ plan, planSwap Sample.v3Env (Sample.event "0xa") Sample.v3Session Sample.v3Answers =
        some plan ∧
      toleratedOutput 490 (sessionSlippageBps Sample.v3Env Sample.v3Session) ≤
        plan.calldata.amountOutMin := by
  have hv2 : (planSwap Sample.directEnv (Sample.event "0xa") (Sample.session 1)
      Sample.answers).any (fun plan => decide (plan.poolType = .v2)) = true := by decide +kernel
  have hv3 : (planSwap Sample.v3Env (Sample.event "0xa") Sample.v3Session
      Sample.v3Answers).any (fun plan => decide (plan.poolType = .v3 ∧
        plan.sellAmount = 500)) = true := by decide +kernel
  constructor
  · obtain ⟨plan, hplan, htype⟩ := (Option.any_eq_true _ _).mp hv2
    have htype : plan.poolType = .v2 := of_decide_eq_true htype
    refine ⟨plan, hplan, (amountOutMin_protects hplan ?_).1 ?_⟩
    · rw [htype]
      rfl
    · rw [htype, QuoteCovered]
      decide +kernel
  · obtain ⟨plan, hplan, hp⟩ := (Option.any_eq_true _ _).mp hv3
    obtain ⟨htype, hsell⟩ := of_decide_eq_true hp
    refine ⟨plan, hplan, (amountOutMin_protects hplan ?_).1 ?_⟩
    · rw [htype]
      exact Nat.succ_pos 489
    · rw [htype, hsell, QuoteCovered]
      decide +kernel

/-- A V3 route returns a million units for a sell of 500, and 495 would be accepted. -/
theorem v3_unprotected :
    ¬ ∀ env event session ans plan quote, planSwap env event session ans = some plan →
      Quotes ans plan.poolType quote →
        toleratedOutput quote (sessionSlippageBps env session) ≤ plan.calldata.amountOutMin := by
  intro h
  have hplanned : (planSwap Sample.v3Env (Sample.event "0xa") Sample.v3Session
      Sample.v3Answers).any (fun plan => decide (plan.poolType = .v3 ∧
        plan.calldata.amountOutMin = 495)) = true := by decide +kernel
  obtain ⟨plan, hplan, hp⟩ := (Option.any_eq_true _ _).mp hplanned
  obtain ⟨htype, hmin⟩ := of_decide_eq_true hp
  have hbound := h Sample.v3Env (Sample.event "0xa") Sample.v3Session Sample.v3Answers plan 1000000
    hplan (by rw [htype]; exact Nat.succ_pos 999999)
  rw [hmin] at hbound
  exact absurd hbound (by decide +kernel)

end Liquifier.Engine
