import Liquifier.Engine.Slippage
import Liquifier.Engine.Status

/-!
The guards before a submission.

A delivery comes to the submission of a swap by the reads of one pass of its loop
only. Whatever the oracle, the node and the configuration have answered by then,
the conditions that the user has set are met by these answers.
-/

namespace Liquifier.Engine

open TaskSystem TaskSystem.System

variable {env : Environment}

/-- `(pov_percent * 100.0) as u64`. -/
def povBps (env : Environment) (session : SessionInfo) : ℕ :=
  min (env.percentToBps session.povPercent) (2 ^ 64 - 1)

/-- What the session sells on the event: its share of the buy, clamped to what it has
left. -/
def sellAmountOf (env : Environment) (event : DexSwapEvent) (session : SessionInfo) : ℕ :=
  min (povSellAmount env event session)
    (U256.ofNumeric session.totalAmount - U256.ofNumeric session.amountSold)

/-- Asked for a sell of nothing through a V2 pool, the router answers an error or a final
amount of zero. -/
def RouterRefusesZero (env : Environment) (event : DexSwapEvent) (session : SessionInfo)
    (ans : SwapAnswers) : Prop :=
  ∀ pool ∈ session.pools.find? (fun p => eqIgnoreAsciiCase p.poolAddress event.poolAddress),
    poolTypeFromStr pool.poolType = some .v2 → sellAmountOf env event session = 0 →
      ∀ amount ∈ ans.amountsOut.bind List.getLast?, amount = 0

/-- Every condition of the session and of the engine, for the values that were read. -/
structure GuardsMet (env : Environment) (event : DexSwapEvent) (session : SessionInfo)
    (ans : SwapAnswers) (plan : SwapPlan) : Prop where
  pool : session.pools.find? (fun p => eqIgnoreAsciiCase p.poolAddress event.poolAddress) =
    some plan.pool
  tokenOut : eqIgnoreAsciiCase (resolvedTokenOut event plan.pool) session.sellToken = true
  buyValue : 0 < session.minBuyTriggerUsd → ∃ buyUsd,
    fetchBuyAmountUsdFromOracle env session.chain (resolvedTokenOut event plan.pool)
        event.poolAddress (buyAmount event) session.sellTokenDecimals ans = some (some buyUsd) ∧
      session.minBuyTriggerUsd ≤ buyUsd
  marketCap : 0 < session.minMarketCapUsd → ∃ capUsd,
    fetchTokenMarketCapUsdFromOracle env session.chain (resolvedTokenOut event plan.pool)
        event.poolAddress session.sellTokenDecimals ans = some (some capUsd) ∧
      session.minMarketCapUsd ≤ capUsd
  sellPos : 0 < plan.sellAmount
  sellShare : plan.sellAmount ≤ buyAmount event * povBps env session / 10000
  sellRemaining :
    plan.sellAmount ≤ U256.ofNumeric session.totalAmount - U256.ofNumeric session.amountSold
  impact : ∃ sellToken, plan.route.hopTokens.head? = some sellToken ∧
    calculatePriceImpact env session.chain event.poolAddress plan.poolType sellToken
        plan.sellAmount ans.pool = some plan.priceImpactBps ∧
      plan.priceImpactBps ≤ maxImpactBps env session
  slippage : sessionSlippageBps env session < 10000
  minOutput : 0 < plan.calldata.amountOutMin
  walletChain : ∃ address chain, ans.wallet = some (some (address, chain)) ∧
    eqIgnoreAsciiCase chain session.chain = true

namespace Planned

variable {event : DexSwapEvent} {session : SessionInfo} {ans : SwapAnswers} {plan : SwapPlan}

theorem buyValue (h : Planned env event session ans plan) (hmin : 0 < session.minBuyTriggerUsd) :
    ∃ buyUsd, fetchBuyAmountUsdFromOracle env session.chain (resolvedTokenOut event plan.pool)
        event.poolAddress (buyAmount event) session.sellTokenDecimals ans = some (some buyUsd) ∧
      session.minBuyTriggerUsd ≤ buyUsd := by
  have htrigger := h.buy_trigger
  rw [buyTriggerMet, if_pos hmin] at htrigger
  split at htrigger
  · rename_i buyUsd hvalue
    exact ⟨buyUsd, hvalue, by simpa using htrigger⟩
  · cases htrigger

theorem marketCap (h : Planned env event session ans plan)
    (hmin : 0 < session.minMarketCapUsd) :
    ∃ capUsd, fetchTokenMarketCapUsdFromOracle env session.chain
        (resolvedTokenOut event plan.pool) event.poolAddress session.sellTokenDecimals ans =
          some (some capUsd) ∧
      session.minMarketCapUsd ≤ capUsd := by
  have hcap := h.market_cap
  simp only [marketCapSnapshot, if_pos hmin] at hcap
  split at hcap
  · rename_i capUsd hvalue
    obtain ⟨hle, -⟩ := Option.ite_none_right_eq_some.mp hcap
    refine ⟨capUsd, ?_, hle⟩
    cases hfetch : fetchTokenMarketCapUsdFromOracle env session.chain
        (resolvedTokenOut event plan.pool) event.poolAddress session.sellTokenDecimals ans with
    | none =>
        rw [hfetch] at hvalue
        cases hvalue
    | some value =>
        rw [hfetch, Option.getD_some] at hvalue
        rw [hvalue]
  · cases hcap

theorem sellAmount_eq (h : Planned env event session ans plan) :
    plan.sellAmount = sellAmountOf env event session := by
  rw [h.sell_eq, h.total_eq, h.sold_eq, sellAmountOf]

theorem sellShare (h : Planned env event session ans plan) :
    plan.sellAmount ≤ buyAmount event * povBps env session / 10000 := by
  rw [h.sell_eq]
  calc min (povSellAmount env event session) (plan.total - plan.sold)
      ≤ povSellAmount env event session := Nat.min_le_left _ _
    _ ≤ buyAmount event * povBps env session / 10000 :=
        Nat.div_le_div_right (U256.wrappingMul_le _ _)

/-- A V3 pool sells its base amount, and a V2 router gives nothing for nothing. -/
theorem sell_pos_of_router (h : Planned env event session ans plan)
    (hrouter : RouterRefusesZero env event session ans) : 0 < plan.sellAmount := by
  cases htype : plan.poolType with
  | v2 =>
      refine Nat.pos_of_ne_zero fun hzero => ?_
      obtain ⟨expected, hquote, -⟩ := h.calldata_built
      simp only [getOnChainQuote, htype, Option.bind_eq_bind, Option.bind_eq_some_iff] at hquote
      obtain ⟨_, _, hquote⟩ := hquote
      obtain ⟨hlast, hne⟩ := Option.filter_eq_some_iff.mp hquote
      have hamount := hrouter plan.pool h.pool_found (htype ▸ h.pool_type)
        (h.sellAmount_eq ▸ hzero) expected hlast
      simp [hamount] at hne
  | v3 => exact h.sell_pos htype

theorem guardsMet (h : Planned env event session ans plan)
    (hrouter : RouterRefusesZero env event session ans) :
    GuardsMet env event session ans plan where
  pool := h.pool_found
  tokenOut := h.token_out
  buyValue := h.buyValue
  marketCap := h.marketCap
  sellPos := h.sell_pos_of_router hrouter
  sellShare := h.sellShare
  sellRemaining := by
    rw [← h.total_eq, ← h.sold_eq]
    exact h.sell_le
  impact := by
    obtain ⟨sellToken, hfirst, himpact, -⟩ := h.impact_read
    exact ⟨sellToken, hfirst, himpact, h.impact⟩
  slippage := h.slippage_lt
  minOutput := h.amountOutMin_pos
  walletChain := by
    have hwallet := h.wallet
    simp only [resolveSessionWalletAddress, Option.bind_eq_bind, Option.bind_eq_some_iff] at hwallet
    obtain ⟨row, hrow, ⟨address, chain⟩, rfl, hchain⟩ := hwallet
    obtain ⟨hsame, -⟩ := Option.ite_none_left_eq_some.mp hchain
    exact ⟨address, chain, hrow, by simpa using hsame⟩

end Planned

/-- A delivery comes to a submission by the answers to one pass of its loop. -/
theorem DeliveryMove.planned_of_unsent {w w' : World} {d d' : Delivery} {a : Act}
    (h : DeliveryMove env w d a w' d') {sale : Sale} (hsale : d'.phase.unsent = some sale) :
    ∃ ans, a = .plan ans ∧ d = ⟨d'.event, sale.session :: d'.rest, .loop⟩ ∧
      planSwap env d'.event sale.session ans = some sale.plan := by
  cases h with
  | planned hplan =>
      obtain rfl := Option.some.inj hsale
      exact ⟨_, rfl, rfl, hplan⟩
  | recorded | finalized => simp at hsale
  | published =>
      split at hsale
      · cases hsale
      · cases hsale
  | _ => cases hsale

/-- On every run, whatever sessions the deliveries have been given at its start: where a
delivery stands before a submission, it came there by the answers to the last pass of its
loop, and these answers met all the guards. -/
theorem guardsMet_of_run {c₀ c : Config World Task} {moves : List (Move Task Act)}
    (h₀ : ∀ t ∈ c₀.tasks, t.unsent = none) (h : (engine env).run c₀ moves = some c) {i : ℕ}
    {d : Delivery} {sale : Sale} (hd : c.tasks[i]? = some (.delivery d))
    (hsale : d.phase.unsent = some sale) :
    ∃ earlier later ans c₁, moves = earlier ++ .act i (.plan ans) :: later ∧
      (engine env).run c₀ earlier = some c₁ ∧
      c₁.tasks[i]? = some (.delivery ⟨d.event, sale.session :: d.rest, .loop⟩) ∧
      (RouterRefusesZero env d.event sale.session ans →
        GuardsMet env d.event sale.session ans sale.plan) := by
  obtain ⟨earlier, a, later, c₁, t₁, w', hmoves, hearlier, hacts⟩ :=
    exists_last_act h (P := fun t => t.unsent.isSome)
      (fun t ht => by simp [h₀ t ht])
      (fun t ht => by simp [unsent_of_isNew ht]) hd (by simp [Task.unsent, hsale])
  cases engine_move hacts with
  | delivery hmove =>
      obtain ⟨ans, rfl, rfl, hplan⟩ := hmove.planned_of_unsent hsale
      exact ⟨earlier, later, ans, c₁, hmoves, hearlier, hacts.at_index,
        (planSwap_planned hplan).guardsMet⟩

namespace Sample

/-- A session with both bounds in dollars. -/
def guardedSession : SessionInfo :=
  { session 1 with minBuyTriggerUsd := 500, minMarketCapUsd := 1000 }

/-- One unit is worth a dollar, and there are 5000, of which no balance is burned. -/
def oracleAnswers : SwapAnswers :=
  { answers with
    triggerPrice36 := some (10 ^ 54)
    marketPrice36 := some (10 ^ 54)
    totalSupply := some 5000
    burnBalance := fun _ => some 0 }

/-- The delivery stands at the submission of a sell of 500 units. -/
def sells : Task → Bool
  | .delivery d => decide (d.event = event "0xa1") && d.phase.unsent.any fun sale =>
      decide (sale.session = guardedSession ∧ sale.plan.sellAmount = 500)
  | _ => false

end Sample

/-- A buy of 1000 units, worth 1000 dollars, of which the session sells half. -/
theorem guardsMet_of_run_sample :
    ∃ plan, plan.sellAmount = 500 ∧ GuardsMet Sample.directEnv (Sample.event "0xa1")
      Sample.guardedSession Sample.oracleAnswers plan := by
  have hrun : ((engine Sample.directEnv).run
      ⟨boot Sample.database, [.delivery ⟨Sample.event "0xa1", [Sample.guardedSession], .loop⟩]⟩
      [.act 0 (.plan Sample.oracleAnswers)]).any
        (fun c => c.tasks[0]?.any Sample.sells) = true := by
    decide +kernel
  obtain ⟨c, hc, hp⟩ := (Option.any_eq_true _ _).mp hrun
  obtain ⟨t, ht, hp⟩ := (Option.any_eq_true _ _).mp hp
  cases t with
  | delivery d =>
      obtain ⟨hevent, hp⟩ := Bool.and_eq_true_iff.mp hp
      obtain ⟨sale, hsale, hp⟩ := (Option.any_eq_true _ _).mp hp
      have hevent : d.event = Sample.event "0xa1" := of_decide_eq_true hevent
      obtain ⟨hsession, hsell⟩ := of_decide_eq_true hp
      obtain ⟨earlier, later, ans, c₁, hmoves, -, -, hmet⟩ :=
        guardsMet_of_run (by simp [Task.unsent, Phase.unsent]) hc ht hsale
      have hmove : Move.act 0 (.plan ans) ∈
          ([.act 0 (.plan Sample.oracleAnswers)] : List (Move Task Act)) := by
        rw [hmoves]
        simp
      cases List.mem_singleton.mp hmove
      rw [hevent, hsession] at hmet
      refine ⟨sale.plan, hsell, hmet ?_⟩
      intro pool _ _ hzero
      exact absurd hzero (by decide +kernel)
  | _ => cases hp

end Liquifier.Engine
