import Liquifier.Engine.Route

/-!
The guards of `process_swap_event` for one session, from the snapshot that the
session service answered to the call that the engine is about to send.

The guards only read. What they read over the network is the argument `ans`,
where `none` is an error, so `planSwap` is a function: `none` is one of the
`continue`s of the loop, and a plan holds the locals that the rest of the loop
body uses. Conversions to and from `f64` belong to the environment.
-/

namespace Liquifier.Engine

/-- The configuration and the library functions that the engine calls. -/
structure Environment where
  settings : Settings
  /-- `serde_json::from_str`. -/
  jsonFromStr : String → Option Json
  /-- `str::parse::<BigDecimal>`. -/
  decimalFromStr : String → Option ℚ
  /-- `(percent * 100.0) as u64`. -/
  percentToBps : ℚ → ℕ
  /-- `amount / 10^decimals * (price_36 / 1e36)` in `f64`, where it is finite. -/
  usdValue : ℕ → ℕ → ℕ → Option ℚ

/-- What the contract of the pool answers. -/
structure PoolAnswers where
  token0 : Option Address
  token1 : Option Address
  reserves : Option (ℕ × ℕ)
  balance0 : Option ℕ
  balance1 : Option ℕ

/-- The answers to the reads for one session. -/
structure SwapAnswers where
  triggerPrice36 : Option ℕ
  marketPrice36 : Option ℕ
  totalSupply : Option ℕ
  burnBalance : Address → Option ℕ
  pool : PoolAnswers
  /-- Address and chain of the wallet, where it is found. -/
  wallet : Option (Option (String × String))
  allowance : Option ℕ
  /-- The approval transaction is confirmed before the deadline. -/
  approved : Bool
  amountsOut : Option (List ℕ)
  /-- Seconds since the epoch. -/
  now : ℕ

variable (env : Environment)

/-! ### Reads -/

def chainRpcUrl (cfg : Settings) (chain : String) : Option String :=
  (cfg.chain chain).bind fun c =>
    let rpc := trim c.rpcUrl
    if rpc = "" then none else some rpc

/-- An answer that needs the node of the chain. -/
def rpc {α : Type} (cfg : Settings) (chain : String) (answer : Option α) : Option α :=
  (chainRpcUrl cfg chain).bind fun _ => answer

def fetchOracleUsdPrice36 (tokenAddress pairAddress : String) (answer : Option ℕ) : Option ℕ := do
  let _token ← Address.parse tokenAddress
  let _pair ← Address.parse pairAddress
  answer

def usdValueFromOraclePrice36 (amountRaw tokenDecimals usdPrice36 : ℕ) : Option ℚ :=
  if amountRaw = 0 ∨ usdPrice36 = 0 then some 0 else env.usdValue amountRaw tokenDecimals usdPrice36

def fetchBuyAmountUsdFromOracle (chain tokenAddress pairAddress : String)
    (amountRaw tokenDecimals : ℕ) (ans : SwapAnswers) : Option (Option ℚ) :=
  if amountRaw = 0 then some (some 0)
  else do
    let quote ← rpc env.settings chain
      (fetchOracleUsdPrice36 tokenAddress pairAddress ans.triggerPrice36)
    some (usdValueFromOraclePrice36 env amountRaw tokenDecimals quote)

def knownBurnAddresses : List Address :=
  ["0x0000000000000000000000000000000000000000",
    "0x000000000000000000000000000000000000dEaD",
    "0xdead000000000000000042069420694206942069"].filterMap Address.parse

/-- A burn address whose balance is not answered counts as empty. -/
def burnedSupply (ans : SwapAnswers) : ℕ :=
  knownBurnAddresses.foldl
    (fun burned a => U256.saturatingAdd burned ((ans.burnBalance a).getD 0)) 0

def fetchTokenMarketCapUsdFromOracle (chain tokenAddress pairAddress : String)
    (tokenDecimals : ℕ) (ans : SwapAnswers) : Option (Option ℚ) := do
  let usdPrice36 ← rpc env.settings chain
    (fetchOracleUsdPrice36 tokenAddress pairAddress ans.marketPrice36)
  if usdPrice36 = 0 then some (some 0)
  else do
    let _token ← Address.parse tokenAddress
    let totalSupply ← ans.totalSupply
    some (usdValueFromOraclePrice36 env (totalSupply - burnedSupply ans) tokenDecimals usdPrice36)

/-- Price impact in basis points of a constant-product pool. -/
def calculateImpactFromReserves (reserveX reserveY sellAmount : ℕ) : ℕ :=
  if reserveX = 0 ∨ reserveY = 0 ∨ sellAmount = 0 then 0
  else
    let denominator := U256.saturatingAdd reserveX sellAmount
    if denominator = 0 then 0
    else
      let impact := U256.saturatingMul sellAmount 10000 / denominator
      if impact < 2 ^ 32 then impact else 10000

def calculatePriceImpact (chain poolAddress : String) (poolType : PoolType) (sellToken : String)
    (sellAmount : ℕ) (ans : PoolAnswers) : Option ℕ := do
  let _pool ← Address.parse poolAddress
  let sell ← Address.parse sellToken
  let token0 ← rpc env.settings chain ans.token0
  let token1 ← ans.token1
  let (reserve0, reserve1) ← match poolType with
    | .v2 => ans.reserves
    | .v3 => ans.balance0.bind fun b0 => ans.balance1.map fun b1 => (b0, b1)
  if sell = token0 then some (calculateImpactFromReserves reserve0 reserve1 sellAmount)
  else if sell = token1 then some (calculateImpactFromReserves reserve1 reserve0 sellAmount)
  else none

def resolveSessionWalletAddress (wallet : Option (Option (String × String))) (chain : String) :
    Option Address := do
  let (address, walletChain) ← ← wallet
  if !eqIgnoreAsciiCase walletChain chain then none else Address.parse address

def ensureTokenApproval (chain sellToken : String) (amount : ℕ) (ans : SwapAnswers) : Bool :=
  match rpc env.settings chain (Address.parse sellToken), ans.allowance with
  | some _, some allowance => decide (amount ≤ allowance) || ans.approved
  | _, _ => false

/-- The last amount of `getAmountsOut` for V2; a V3 route has no quote. -/
def getOnChainQuote (chain : String) (route : PoolSwapRoute) (poolType : PoolType)
    (ans : SwapAnswers) : Option ℕ := do
  let _ ← rpc env.settings chain (resolveRouteTokensForNative env.settings route chain)
  match poolType with
  | .v2 => (ans.amountsOut.bind List.getLast?).filter (· ≠ 0)
  | .v3 => some 0

/-- A cast of a non-negative `f64` to `u32`. -/
def saturateU32 (n : ℕ) : ℕ := min n (2 ^ 32 - 1)

/-- Slippage tolerance in basis points: the session's `max_price_impact`, or one
percent where that is zero. -/
def sessionSlippageBps (session : SessionInfo) : ℕ :=
  let impactBps := saturateU32 (env.percentToBps session.maxPriceImpact)
  if impactBps = 0 then 100 else impactBps

/-! ### The guards -/

/-- The token that left the pool, by the pool's own row and the event's flag. -/
def resolvedTokenOut (event : DexSwapEvent) (pool : PoolInfo) : String :=
  if event.token0IsInput then pool.token1 else pool.token0

def buyAmount (event : DexSwapEvent) : ℕ := (U256.fromStrRadix event.amountOut 10).getD 0

/-- Minimum buy trigger, valued by the oracle. -/
def buyTriggerMet (event : DexSwapEvent) (session : SessionInfo) (tokenOut : String)
    (ans : SwapAnswers) : Bool :=
  if 0 < session.minBuyTriggerUsd then
    match fetchBuyAmountUsdFromOracle env session.chain tokenOut event.poolAddress
        (buyAmount event) session.sellTokenDecimals ans with
    | some (some buyUsd) => !decide (buyUsd < session.minBuyTriggerUsd)
    | _ => false
  else true

/-- The market cap that is recorded with the trade, where the guard lets it pass. -/
def marketCapSnapshot (event : DexSwapEvent) (session : SessionInfo) (tokenOut : String)
    (ans : SwapAnswers) : Option (Option ℚ) :=
  let marketCapUsd := (fetchTokenMarketCapUsdFromOracle env session.chain tokenOut
    event.poolAddress session.sellTokenDecimals ans).getD none
  if 0 < session.minMarketCapUsd then
    match marketCapUsd with
    | some capUsd => if session.minMarketCapUsd ≤ capUsd then some (some capUsd) else none
    | none => none
  else some marketCapUsd

/-- The share of the buy that the session sells, before it is clamped. -/
def povSellAmount (event : DexSwapEvent) (session : SessionInfo) : ℕ :=
  U256.wrappingMul (buyAmount event) (min (env.percentToBps session.povPercent) (2 ^ 64 - 1)) / 10000

/-- The lower of the session's and the engine's own bound. -/
def maxImpactBps (session : SessionInfo) : ℕ :=
  min (saturateU32 (env.percentToBps session.maxPriceImpact))
    env.settings.execution.maxPriceImpactBps

/-- The locals of the loop body at the submission. -/
structure SwapPlan where
  pool : PoolInfo
  poolType : PoolType
  route : PoolSwapRoute
  total : ℕ
  sold : ℕ
  sellAmount : ℕ
  priceImpactBps : ℕ
  marketCapUsd : Option ℚ
  routerAddress : Address
  recipient : Address
  calldata : RouterCall
  txValue : ℕ
  deriving DecidableEq

/-- One pass of the session loop of `process_swap_event`, up to the submission. -/
def planSwap (event : DexSwapEvent) (session : SessionInfo) (ans : SwapAnswers) :
    Option SwapPlan := do
  let pool ← session.pools.find? fun p => eqIgnoreAsciiCase p.poolAddress event.poolAddress
  let tokenOut := resolvedTokenOut event pool
  guard (eqIgnoreAsciiCase tokenOut session.sellToken = true)
  let poolType ← poolTypeFromStr pool.poolType
  guard (buyTriggerMet env event session tokenOut ans = true)
  let marketCapUsd ← marketCapSnapshot env event session tokenOut ans
  let total := U256.ofNumeric session.totalAmount
  let sold := U256.ofNumeric session.amountSold
  let remaining := total - sold
  guard (remaining ≠ 0)
  let sellAmount := min (povSellAmount env event session) remaining
  let route ← parsePoolSwapRoute env.jsonFromStr pool.swapPathJson event.poolAddress
  let sellToken ← route.hopTokens.head?
  let priceImpactBps ←
    calculatePriceImpact env session.chain event.poolAddress poolType sellToken sellAmount ans.pool
  guard (priceImpactBps ≤ maxImpactBps env session)
  let router ← env.settings.dexRouterForChain session.chain pool.dexName poolType
  let routerAddress ← Address.parse router
  let recipient ← resolveSessionWalletAddress ans.wallet session.chain
  guard (isNativeTokenPlaceholder sellToken = true ∨
    ensureTokenApproval env session.chain sellToken sellAmount ans = true)
  let expectedOutput ← getOnChainQuote env session.chain route poolType ans
  let calldata ← buildSwapCalldata env.settings sellAmount expectedOutput route poolType
    pool.feeTier recipient session.chain (sessionSlippageBps env session) ans.now
  let nativeInput :=
    ((resolveRouteTokensForNative env.settings route session.chain).map (·.2.1)).getD false
  some {
    pool, poolType, route, total, sold, sellAmount, priceImpactBps, marketCapUsd
    routerAddress, recipient, calldata
    txValue := if nativeInput then sellAmount else 0 }

/-! ### What a plan has passed -/

/-- Every guard that stands before the submission, for the values that were
read. -/
structure Planned (event : DexSwapEvent) (session : SessionInfo) (ans : SwapAnswers)
    (plan : SwapPlan) : Prop where
  pool_found : session.pools.find?
    (fun p => eqIgnoreAsciiCase p.poolAddress event.poolAddress) = some plan.pool
  token_out : eqIgnoreAsciiCase (resolvedTokenOut event plan.pool) session.sellToken = true
  pool_type : poolTypeFromStr plan.pool.poolType = some plan.poolType
  buy_trigger : buyTriggerMet env event session (resolvedTokenOut event plan.pool) ans = true
  market_cap : marketCapSnapshot env event session (resolvedTokenOut event plan.pool) ans =
    some plan.marketCapUsd
  total_eq : plan.total = U256.ofNumeric session.totalAmount
  sold_eq : plan.sold = U256.ofNumeric session.amountSold
  remaining_ne : plan.total - plan.sold ≠ 0
  sell_eq : plan.sellAmount = min (povSellAmount env event session) (plan.total - plan.sold)
  route_parsed : parsePoolSwapRoute env.jsonFromStr plan.pool.swapPathJson event.poolAddress =
    some plan.route
  impact : plan.priceImpactBps ≤ maxImpactBps env session
  impact_read : ∃ sellToken, plan.route.hopTokens.head? = some sellToken ∧
    calculatePriceImpact env session.chain event.poolAddress plan.poolType sellToken
      plan.sellAmount ans.pool = some plan.priceImpactBps ∧
    (isNativeTokenPlaceholder sellToken = true ∨
      ensureTokenApproval env session.chain sellToken plan.sellAmount ans = true)
  router : (env.settings.dexRouterForChain session.chain plan.pool.dexName plan.poolType).bind
    Address.parse = some plan.routerAddress
  wallet : resolveSessionWalletAddress ans.wallet session.chain = some plan.recipient
  calldata_built : ∃ expectedOutput,
    getOnChainQuote env session.chain plan.route plan.poolType ans = some expectedOutput ∧
    buildSwapCalldata env.settings plan.sellAmount expectedOutput plan.route plan.poolType
      plan.pool.feeTier plan.recipient session.chain (sessionSlippageBps env session) ans.now =
        some plan.calldata
  value_eq : plan.txValue =
    if ((resolveRouteTokensForNative env.settings plan.route session.chain).map
      (·.2.1)).getD false then plan.sellAmount else 0

variable {env}

theorem planSwap_planned {event : DexSwapEvent} {session : SessionInfo} {ans : SwapAnswers}
    {plan : SwapPlan} (h : planSwap env event session ans = some plan) :
    Planned env event session ans plan := by
  simp only [planSwap, Option.bind_eq_bind, Option.bind_eq_some_iff, Option.guard_eq_some',
    Option.some.injEq] at h
  obtain ⟨pool, hpool, _, htoken, poolType, htype, _, htrigger, cap, hcap, _, hrem, route, hroute,
    sellToken, hsell, impact, himpact, _, hmax, router, hrouter, routerAddress, haddr, recipient,
    hrecipient, _, happroval, expected, hquote, calldata, hcall, rfl⟩ := h
  exact {
    pool_found := hpool
    token_out := htoken
    pool_type := htype
    buy_trigger := htrigger
    market_cap := hcap
    total_eq := rfl
    sold_eq := rfl
    remaining_ne := hrem
    sell_eq := rfl
    route_parsed := hroute
    impact := hmax
    impact_read := ⟨sellToken, hsell, himpact, happroval⟩
    router := by rw [hrouter]; exact haddr
    wallet := hrecipient
    calldata_built := ⟨expected, hquote, hcall⟩
    value_eq := rfl }

namespace Planned

variable {event : DexSwapEvent} {session : SessionInfo} {ans : SwapAnswers} {plan : SwapPlan}

theorem sell_le (h : Planned env event session ans plan) :
    plan.sellAmount ≤ plan.total - plan.sold := by
  rw [h.sell_eq]
  exact Nat.min_le_right _ _

/-- Without a quote the sell amount stands for the quote, so it is not zero. -/
theorem sell_pos (h : Planned env event session ans plan) (hv3 : plan.poolType = .v3) :
    0 < plan.sellAmount := by
  obtain ⟨expected, hquote, hcall⟩ := h.calldata_built
  refine (buildSwapCalldata_shape hcall).1 ?_
  simp only [getOnChainQuote, hv3, Option.bind_eq_bind, Option.bind_eq_some_iff,
    Option.some.injEq] at hquote
  obtain ⟨_, _, rfl⟩ := hquote
  rfl

theorem total_eq_totalAmount (h : Planned env event session ans plan) :
    plan.total = session.totalAmount := by
  have hpos : 0 < U256.ofNumeric session.totalAmount := by
    have := h.remaining_ne
    rw [← h.total_eq]
    omega
  rw [h.total_eq, U256.ofNumeric_of_pos hpos]

theorem sold_le (h : Planned env event session ans plan) : plan.sold ≤ session.amountSold := by
  rw [h.sold_eq]
  exact U256.ofNumeric_le _

/-- The clamp keeps the sum below the total, so the addition that decides the
completion does not wrap. -/
theorem newSold_le (h : Planned env event session ans plan) :
    plan.sold + plan.sellAmount ≤ plan.total := by
  have hsell := h.sell_le
  have hrem := h.remaining_ne
  omega

theorem wrappingAdd_eq (h : Planned env event session ans plan) :
    U256.wrappingAdd plan.sold plan.sellAmount = plan.sold + plan.sellAmount := by
  refine U256.wrappingAdd_of_lt (Nat.lt_of_le_of_lt h.newSold_le ?_)
  rw [h.total_eq]
  exact U256.ofNumeric_lt _

end Planned

/-! ### A sample

One chain with one V2 router, and a session that sells half of every buy of its
token. -/

namespace Sample

def sellToken : String := "0x1111111111111111111111111111111111111111"
def targetToken : String := "0x2222222222222222222222222222222222222222"
def poolAddress : String := "0x3333333333333333333333333333333333333333"
def routerAddress : String := "0x4444444444444444444444444444444444444444"
def walletAddress : String := "0x5555555555555555555555555555555555555555"
def wrappedNative : String := "0x6666666666666666666666666666666666666666"

def settings : Settings where
  chains := [("bsc", {
    enabled := true
    chainId := 56
    rpcUrl := "http://localhost:8545"
    baseTokens := [⟨wrappedNative, "WBNB"⟩, ⟨targetToken, "USDT"⟩]
    dexFactories := [⟨"pancakeswap", "", routerAddress, .v2, []⟩] })]
  execution := {
    maxPriceImpactBps := 300
    sellToken := sellToken
    sellTokenSymbol := "SELL"
    sellTokenDecimals := 18
    targetToken := targetToken
    targetTokenSymbol := "USDT"
    targetTokenDecimals := 18
    sessionChain := "bsc"
    povPercent := 50
    sessionMaxPriceImpact := 1
    buyTriggerOracleAddress := routerAddress }

/-- The value that the text `route` reads as. -/
def routeJson (hopTokens : List String) : Json :=
  .object [("hops", .array [.string poolAddress]),
    ("hop_tokens", .array (hopTokens.map .string))]

def environment (hopTokens : List String) : Environment where
  settings := settings
  jsonFromStr := fun s => if s = "route" then some (routeJson hopTokens) else none
  decimalFromStr := fun s => (U256.fromStrRadix s 10).map fun n => (n : ℚ)
  percentToBps := fun x => (x * 100).floor.toNat
  usdValue := fun amount decimals price => some (amount / 10 ^ decimals * (price / 10 ^ 36))

/-- The route of the pool goes from the session's sell token to its target. -/
def directEnv : Environment := environment [sellToken, targetToken]

def pool : PoolInfo where
  poolAddress := poolAddress
  poolType := "v2"
  dexName := "pancakeswap"
  token0 := sellToken
  token1 := targetToken
  feeTier := 0
  swapPathJson := "route"

def row (id : Uuid) : SessionRow where
  id := id
  userId := 1
  walletId := 1
  chain := "bsc"
  status := .active
  sellToken := sellToken
  sellTokenSymbol := "SELL"
  sellTokenDecimals := 18
  targetToken := targetToken
  targetTokenSymbol := "USDT"
  targetTokenDecimals := 18
  totalAmount := 800
  amountSold := 0
  povPercent := 50
  maxPriceImpact := 1
  minBuyTriggerUsd := 0
  minMarketCapUsd := 0

def session (id : Uuid) : SessionInfo := { row id with pools := [pool] }

/-- A buy of 1000 units of the sell token. -/
def event (txHash : String) : DexSwapEvent where
  chain := "bsc"
  blockNumber := 1
  txHash := txHash
  logIndex := 0
  poolAddress := poolAddress
  dexType := "v2"
  tokenIn := targetToken
  tokenOut := sellToken
  amountIn := "1000"
  amountOut := "1000"
  sender := ""
  recipient := ""
  timestamp := 1
  token0IsInput := false

def answers : SwapAnswers where
  triggerPrice36 := none
  marketPrice36 := none
  totalSupply := none
  burnBalance := fun _ => none
  pool := {
    token0 := Address.parse sellToken
    token1 := Address.parse targetToken
    reserves := some (1000000, 1000000)
    balance0 := none
    balance1 := none }
  wallet := some (some (walletAddress, "bsc"))
  allowance := some 1000
  approved := false
  amountsOut := some [500, 490]
  now := 0

example : (planSwap directEnv (event "0xa") (session 1) answers).map
    (·.sellAmount) = some 500 := by decide +kernel

end Sample

end Liquifier.Engine
