import Liquifier.Engine.Guards
import Mathlib.Algebra.Order.BigOperators.Group.List

/-!
The market-cap guard under failing reads.

The guard reads a price, the total supply and the balance of every known burn
address, and each read may fail. Without the price or the supply there is no cap and
no sell. A burn address that does not answer counts as empty, so that the cap comes
out too high and the guard may let a sell pass that it should stop.
-/

namespace Liquifier.Engine

variable {env : Environment}

/-- What the oracle and the token contract hold when the guard reads them. -/
structure OnChain where
  usdPrice36 : ℕ
  totalSupply : ℕ
  burnBalance : Address → ℕ
  supply_lt : totalSupply < U256.modulus

/-- The reads of the guard that fail. -/
structure ReadFailures where
  price : Bool
  totalSupply : Bool
  burnBalance : Address → Bool

/-- The answers to the reads; whatever the guard does not read is as in `ans`. -/
def readAnswers (chain : OnChain) (fails : ReadFailures) (ans : SwapAnswers) : SwapAnswers :=
  { ans with
    marketPrice36 := if fails.price then none else some chain.usdPrice36
    totalSupply := if fails.totalSupply then none else some chain.totalSupply
    burnBalance := fun a => if fails.burnBalance a then none else some (chain.burnBalance a) }

/-- The supply that is not burned. -/
def OnChain.circulating (chain : OnChain) : ℕ :=
  chain.totalSupply - (knownBurnAddresses.map chain.burnBalance).sum

/-- The market cap of the true values, in the dollars of the guard. -/
def OnChain.marketCapUsd (env : Environment) (chain : OnChain) (decimals : ℕ) : Option ℚ :=
  usdValueFromOraclePrice36 env chain.circulating decimals chain.usdPrice36

/-- Under these failures, the engine sells only if the market cap reaches the bound of
the session. -/
def CapGuarded (env : Environment) (fails : ReadFailures) : Prop :=
  ∀ event session chain ans plan, 0 < session.minMarketCapUsd →
    planSwap env event session (readAnswers chain fails ans) = some plan →
      ∃ capUsd, chain.marketCapUsd env session.sellTokenDecimals = some capUsd ∧
        session.minMarketCapUsd ≤ capUsd

/-! ### The burned supply -/

theorem foldl_saturatingAdd {α : Type} (f : α → ℕ) (xs : List α) {acc : ℕ} (hacc : acc ≤ U256.max) :
    xs.foldl (fun burned a => U256.saturatingAdd burned (f a)) acc =
      min (acc + (xs.map f).sum) U256.max := by
  induction xs generalizing acc with
  | nil => simpa using (Nat.min_eq_left hacc).symm
  | cons a xs ih =>
      rw [List.foldl_cons, ih (U256.saturatingAdd_le _ _), List.map_cons, List.sum_cons,
        U256.saturatingAdd]
      omega

theorem burnedSupply_eq (ans : SwapAnswers) :
    burnedSupply ans =
      min (knownBurnAddresses.map fun a => (ans.burnBalance a).getD 0).sum U256.max := by
  rw [burnedSupply, foldl_saturatingAdd _ _ (Nat.zero_le _), Nat.zero_add]

theorem burnedSupply_of_answered {chain : OnChain} {fails : ReadFailures} {ans : SwapAnswers}
    (h : ∀ a ∈ knownBurnAddresses, fails.burnBalance a = false) :
    burnedSupply (readAnswers chain fails ans) =
      min (knownBurnAddresses.map chain.burnBalance).sum U256.max := by
  rw [burnedSupply_eq]
  have hmap : (knownBurnAddresses.map fun a =>
      ((readAnswers chain fails ans).burnBalance a).getD 0) =
        knownBurnAddresses.map chain.burnBalance :=
    List.map_congr_left fun a ha => by simp [readAnswers, h a ha]
  rw [hmap]

/-! ### The guard closes -/

/-- The reads behind a market cap. -/
theorem marketCap_reads {chain tokenAddress pairAddress : String} {decimals : ℕ}
    {ans : SwapAnswers} {capUsd : ℚ}
    (h : fetchTokenMarketCapUsdFromOracle env chain tokenAddress pairAddress decimals ans =
      some (some capUsd)) :
    ∃ price36, ans.marketPrice36 = some price36 ∧ (price36 = 0 ∧ capUsd = 0 ∨
      ∃ supply, ans.totalSupply = some supply ∧
        usdValueFromOraclePrice36 env (supply - burnedSupply ans) decimals price36 =
          some capUsd) := by
  simp only [fetchTokenMarketCapUsdFromOracle, rpc, fetchOracleUsdPrice36, Option.bind_eq_bind,
    Option.bind_eq_some_iff] at h
  obtain ⟨price36, ⟨_, _, _, _, _, _, hprice⟩, h⟩ := h
  refine ⟨price36, hprice, ?_⟩
  split at h
  · rename_i hzero
    exact .inl ⟨hzero, (Option.some.inj (Option.some.inj h)).symm⟩
  · simp only [Option.bind_eq_some_iff, Option.some.injEq] at h
    obtain ⟨_, _, supply, hsupply, hvalue⟩ := h
    exact .inr ⟨supply, hsupply, hvalue⟩

/-- Without the price or the supply nothing is sold. -/
theorem capGuarded_of_unread {fails : ReadFailures}
    (h : fails.price = true ∨ fails.totalSupply = true) : CapGuarded env fails := by
  intro event session chain ans plan hmin hplan
  obtain ⟨capUsd, hcap, hle⟩ := (planSwap_planned hplan).marketCap hmin
  obtain ⟨price36, hprice, ⟨-, rfl⟩ | ⟨supply, hsupply, -⟩⟩ := marketCap_reads hcap
  · exact absurd hle hmin.not_ge
  · rcases h with h | h
    · simp [readAnswers, h] at hprice
    · simp [readAnswers, h] at hsupply

/-- The sum of the balances saturates only where it exceeds the supply. -/
theorem supply_sub_burnedSupply {chain : OnChain} {fails : ReadFailures} {ans : SwapAnswers}
    (h : ∀ a ∈ knownBurnAddresses, fails.burnBalance a = false) :
    chain.totalSupply - burnedSupply (readAnswers chain fails ans) = chain.circulating := by
  have hlt := chain.supply_lt
  rw [burnedSupply_of_answered h, OnChain.circulating, U256.max]
  omega

/-- With all burn addresses answered the cap is the true one, or zero. -/
theorem capGuarded_of_answered {fails : ReadFailures}
    (h : ∀ a ∈ knownBurnAddresses, fails.burnBalance a = false) : CapGuarded env fails := by
  intro event session chain ans plan hmin hplan
  obtain ⟨capUsd, hcap, hle⟩ := (planSwap_planned hplan).marketCap hmin
  refine ⟨capUsd, ?_, hle⟩
  obtain ⟨price36, hprice, ⟨-, rfl⟩ | ⟨supply, hsupply, hvalue⟩⟩ := marketCap_reads hcap
  · exact absurd hle hmin.not_ge
  · obtain rfl : chain.usdPrice36 = price36 := (Option.ite_none_left_eq_some.mp hprice).2 |>
      Option.some.inj
    obtain rfl : chain.totalSupply = supply := (Option.ite_none_left_eq_some.mp hsupply).2 |>
      Option.some.inj
    rwa [supply_sub_burnedSupply h] at hvalue

/-! ### Dollars -/

/-- A value in dollars exceeds the exact one at most by the relative error `u`. -/
def UsdValueWithin (env : Environment) (u : ℚ) : Prop :=
  ∀ amount decimals price36 usd, env.usdValue amount decimals price36 = some usd →
    usd ≤ (1 + u) * (amount / 10 ^ decimals * (price36 / 10 ^ 36))

theorem usdValue_le {u : ℚ} (hu : UsdValueWithin env u) {amount decimals price36 : ℕ} {usd : ℚ}
    (h : usdValueFromOraclePrice36 env amount decimals price36 = some usd) :
    usd ≤ (1 + u) * (amount / 10 ^ decimals * (price36 / 10 ^ 36)) := by
  rw [usdValueFromOraclePrice36] at h
  split at h
  · rename_i hzero
    obtain rfl := Option.some.inj h
    rcases hzero with rfl | rfl <;> simp
  · exact hu _ _ _ _ h

/-- Where the guard is closed, the exact cap reaches the bound of the session but for the
rounding. -/
theorem CapGuarded.exact_cap {fails : ReadFailures} {u : ℚ} (hu : UsdValueWithin env u)
    (h : CapGuarded env fails) {event : DexSwapEvent} {session : SessionInfo} {chain : OnChain}
    {ans : SwapAnswers} {plan : SwapPlan} (hmin : 0 < session.minMarketCapUsd)
    (hplan : planSwap env event session (readAnswers chain fails ans) = some plan) :
    session.minMarketCapUsd ≤ (1 + u) *
      (chain.circulating / 10 ^ session.sellTokenDecimals * (chain.usdPrice36 / 10 ^ 36)) := by
  obtain ⟨capUsd, hcap, hle⟩ := h event session chain ans plan hmin hplan
  exact hle.trans (usdValue_le hu hcap)

/-! ### The guard stays open -/

/-- Of the balances of the burn addresses the guards read the burned supply only. -/
theorem planSwap_burnBalance {event : DexSwapEvent} {session : SessionInfo} {ans : SwapAnswers}
    {f g : Address → Option ℕ}
    (h : burnedSupply { ans with burnBalance := f } = burnedSupply { ans with burnBalance := g }) :
    planSwap env event session { ans with burnBalance := f } =
      planSwap env event session { ans with burnBalance := g } := by
  have hcap (tokenOut : String) :
      marketCapSnapshot env event session tokenOut { ans with burnBalance := f } =
        marketCapSnapshot env event session tokenOut { ans with burnBalance := g } := by
    simp only [marketCapSnapshot, fetchTokenMarketCapUsdFromOracle, h]
  simp only [planSwap, hcap]
  rfl

namespace Sample

/-- The session sells from a market cap of one dollar on. -/
def cappedSession : SessionInfo := { session 1 with minMarketCapUsd := 1 }

/-- One token at a price of one dollar; the node answers nothing about burned tokens. -/
def cappedAnswers : SwapAnswers :=
  { answers with marketPrice36 := some (10 ^ 36), totalSupply := some (10 ^ 18) }

/-- All of the supply is held by one burn address. -/
def burnedToken (burnAddress : Address) : OnChain where
  usdPrice36 := 10 ^ 36
  totalSupply := 10 ^ 18
  burnBalance := fun a => if a = burnAddress then 10 ^ 18 else 0
  supply_lt := by decide

end Sample

/-- The one holder does not answer, and the others hold nothing. -/
theorem burnedSupply_burnedToken {fails : ReadFailures} {a : Address}
    (hfails : fails.burnBalance a = true) :
    burnedSupply (readAnswers (Sample.burnedToken a) fails Sample.cappedAnswers) =
      burnedSupply Sample.cappedAnswers := by
  rw [burnedSupply_eq, burnedSupply_eq]
  refine congrArg (fun xs : List ℕ => min xs.sum U256.max) (List.map_congr_left fun b _ => ?_)
  by_cases hb : b = a
  · subst hb
    simp [readAnswers, hfails, Sample.cappedAnswers, Sample.answers]
  · cases hread : fails.burnBalance b with
    | true => simp [readAnswers, hread, Sample.cappedAnswers, Sample.answers]
    | false =>
        simp [readAnswers, hread, Sample.burnedToken, hb, Sample.cappedAnswers, Sample.answers]

/-- With its supply burned, the token has no market cap. -/
theorem marketCapUsd_burnedToken {a : Address} (ha : a ∈ knownBurnAddresses) (decimals : ℕ) :
    (Sample.burnedToken a).marketCapUsd env decimals = some 0 := by
  have hburnt : 10 ^ 18 ≤ (knownBurnAddresses.map (Sample.burnedToken a).burnBalance).sum := by
    have hheld : (Sample.burnedToken a).burnBalance a = 10 ^ 18 := if_pos rfl
    rw [← hheld]
    exact List.le_sum_of_mem (List.mem_map_of_mem ha)
  exact if_pos (.inl (Nat.sub_eq_zero_of_le hburnt))

/-- A burn address that does not answer hides what it holds. -/
theorem not_capGuarded_of_burnUnread {fails : ReadFailures} (hprice : fails.price = false)
    (hsupply : fails.totalSupply = false) {a : Address} (ha : a ∈ knownBurnAddresses)
    (hfails : fails.burnBalance a = true) : ¬ CapGuarded Sample.directEnv fails := by
  intro h
  have hanswers : planSwap Sample.directEnv (Sample.event "0xa") Sample.cappedSession
      (readAnswers (Sample.burnedToken a) fails Sample.cappedAnswers) =
        planSwap Sample.directEnv (Sample.event "0xa") Sample.cappedSession
          Sample.cappedAnswers := by
    have hburned := burnedSupply_burnedToken hfails
    simp only [readAnswers, hprice, hsupply] at hburned ⊢
    exact planSwap_burnBalance hburned
  -- with nothing read of the burned tokens the cap comes out as one dollar
  have hsells : (planSwap Sample.directEnv (Sample.event "0xa") Sample.cappedSession
      Sample.cappedAnswers).isSome = true := by decide +kernel
  obtain ⟨plan, hplan⟩ := Option.isSome_iff_exists.mp hsells
  obtain ⟨capUsd, hcap, hle⟩ := h (Sample.event "0xa") Sample.cappedSession
    (Sample.burnedToken a) Sample.cappedAnswers plan (by decide) (hanswers.trans hplan)
  rw [marketCapUsd_burnedToken ha, Option.some.injEq] at hcap
  rw [← hcap] at hle
  exact absurd hle (by decide)

/-- A pattern of failing reads leaves the guard closed on every input if and only if the
price or the supply is not read, or every burn address answers. -/
theorem capGuarded_iff (fails : ReadFailures) :
    (∀ env, CapGuarded env fails) ↔
      fails.price = true ∨ fails.totalSupply = true ∨
        ∀ a ∈ knownBurnAddresses, fails.burnBalance a = false := by
  constructor
  · intro h
    by_contra hopen
    simp only [not_or, Bool.not_eq_true, not_forall, Bool.not_eq_false] at hopen
    obtain ⟨hprice, hsupply, a, ha, hfails⟩ := hopen
    exact not_capGuarded_of_burnUnread hprice hsupply ha hfails (h _)
  · rintro (h | h | h) env
    · exact capGuarded_of_unread (.inl h)
    · exact capGuarded_of_unread (.inr h)
    · exact capGuarded_of_answered h

/-- One burn address holds the supply and does not answer. -/
theorem burn_read_failure : ¬ ∀ env fails, CapGuarded env fails := by
  intro h
  obtain ⟨a, ha⟩ := List.exists_mem_of_ne_nil knownBurnAddresses (by decide +kernel)
  exact not_capGuarded_of_burnUnread rfl rfl ha (decide_eq_true rfl)
    (h Sample.directEnv ⟨false, false, fun b => b = a⟩)

end Liquifier.Engine
