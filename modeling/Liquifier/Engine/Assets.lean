import Liquifier.Engine.Plan
import Liquifier.Gateway.Sessions

/-!
The assets that a swap moves, and the assets that the session is about.

The engine takes what it trades from the route of the pool, and what it accounts
for from the columns of the session. A route is checked for its first pool and
for the number of its tokens, never for which tokens these are, so the two agree
only where the route that came with the session happens to lead from the one
column to the other.
-/

namespace Liquifier.Engine

open SessionApi

inductive Asset where
  | native
  | erc20 (token : Address)
  deriving DecidableEq

/-- The asset that a token text stands for, in a route as in a session. -/
def tokenAsset (token : String) : Option Asset :=
  if isNativeTokenPlaceholder token then some .native else (Address.parse token).map .erc20

/-! ### The router -/

/-- What an executed call with a value spends and what it delivers. -/
structure Router where
  spent : RouterCall → ℕ → Asset
  delivered : RouterCall → ℕ → Asset

/-- The documented behaviour of the routers. Those of V2 move the ends of their
path, or the native coin where the function says `ETH`. `exactInput` moves the ends
of its path too, but where this begins with the wrapped token it pays with the
value of the call, if this is enough. -/
structure Router.Behaves (router : Router) (weth : Address) : Prop where
  eth_for_tokens : ∀ amountOutMin path recipient deadline value,
    let call := .swapExactETHForTokensSupportingFeeOnTransferTokens amountOutMin path recipient
      deadline
    router.spent call value = .native ∧
      ∀ token, path.getLast? = some token → router.delivered call value = .erc20 token
  tokens_for_eth : ∀ amountIn amountOutMin path recipient deadline value,
    let call := .swapExactTokensForETHSupportingFeeOnTransferTokens amountIn amountOutMin path
      recipient deadline
    (∀ token, path.head? = some token → router.spent call value = .erc20 token) ∧
      router.delivered call value = .native
  tokens_for_tokens : ∀ amountIn amountOutMin path recipient deadline value,
    let call := .swapExactTokensForTokensSupportingFeeOnTransferTokens amountIn amountOutMin path
      recipient deadline
    (∀ token, path.head? = some token → router.spent call value = .erc20 token) ∧
      ∀ token, path.getLast? = some token → router.delivered call value = .erc20 token
  exact_input : ∀ path recipient deadline amountIn amountOutMinimum value,
    let call := .exactInput path recipient deadline amountIn amountOutMinimum
    (∀ token : Address, token.bytes <+: path →
      router.spent call value = if token = weth ∧ amountIn ≤ value then .native else .erc20 token) ∧
      ∀ token : Address, token.bytes <:+ path → router.delivered call value = .erc20 token

/-! ### The assets of a route -/

namespace PoolSwapRoute

variable (route : PoolSwapRoute)

def spentAsset : Option Asset := route.hopTokens.head?.bind tokenAsset

/-- No function of a router pays out the native coin for the native coin, and
`exactInput` never does. -/
def deliveredAsset (cfg : Settings) (chain : String) (poolType : PoolType) : Option Asset :=
  route.hopTokens.getLast?.bind fun token =>
    if isNativeTokenPlaceholder token = true ∧
        (poolType = .v3 ∨ route.spentAsset = some .native) then
      (wrappedNativeAddressForChain cfg chain).map .erc20
    else tokenAsset token

end PoolSwapRoute

/-- A swap for the session moves the assets of the session. -/
def MovesSessionAssets (router : Router) (session : SessionInfo) (plan : SwapPlan) : Prop :=
  some (router.spent plan.calldata plan.txValue) = tokenAsset session.sellToken ∧
    some (router.delivered plan.calldata plan.txValue) = tokenAsset session.targetToken

section Route

variable {cfg : Settings} {chain : String} {route : PoolSwapRoute} {path : List Address}
  {a : Address}

variable (cfg chain) in
theorem tokenAsset_of_plain {token : String} (h : isNativeTokenPlaceholder token = false) :
    tokenAsset token = (resolveToken cfg chain token).map .erc20 := by
  simp [tokenAsset, resolveToken, h]

theorem head_path (h : path.map some = route.hopTokens.map (resolveToken cfg chain)) {token : String}
    (htoken : route.hopTokens.head? = some token) : path.head? = resolveToken cfg chain token := by
  have hhead := congrArg List.head? h
  rw [List.head?_map, List.head?_map, htoken] at hhead
  cases hpath : path.head? with
  | none => rw [hpath] at hhead; cases hhead
  | some a => rw [hpath] at hhead; exact Option.some.inj hhead

theorem last_path (h : path.map some = route.hopTokens.map (resolveToken cfg chain)) {token : String}
    (htoken : route.hopTokens.getLast? = some token) :
    path.getLast? = resolveToken cfg chain token := by
  have hlast := congrArg List.getLast? h
  rw [List.getLast?_map, List.getLast?_map, htoken] at hlast
  cases hpath : path.getLast? with
  | none => rw [hpath] at hlast; cases hlast
  | some a => rw [hpath] at hlast; exact Option.some.inj hlast

end Route

section Plan

variable {env : Environment} {event : DexSwapEvent} {session : SessionInfo} {ans : SwapAnswers}
  {plan : SwapPlan} {router : Router} {weth : Address}

/-- A planned route has a first and a last token, and its path stands for it. -/
structure PlannedPath (env : Environment) (session : SessionInfo) (plan : SwapPlan)
    (path : List Address) (first last : String) : Prop where
  first_token : plan.route.hopTokens.head? = some first
  last_token : plan.route.hopTokens.getLast? = some last
  first_path : path.head? = resolveToken env.settings session.chain first
  last_path : path.getLast? = resolveToken env.settings session.chain last
  first_some : (resolveToken env.settings session.chain first).isSome
  last_some : (resolveToken env.settings session.chain last).isSome
  shape : CallShape plan.sellAmount path (isNativeTokenPlaceholder first)
    (isNativeTokenPlaceholder last) plan.poolType plan.calldata
  value : plan.txValue = if isNativeTokenPlaceholder first then plan.sellAmount else 0

theorem Planned.path (h : Planned env event session ans plan) :
    ∃ path first last, PlannedPath env session plan path first last := by
  obtain ⟨first, hfirst, _⟩ := h.impact_read
  obtain ⟨expected, _, hcall⟩ := h.calldata_built
  obtain ⟨_, path, nativeInput, nativeOutput, hresolve, hshape⟩ := buildSwapCalldata_shape hcall
  obtain ⟨hpath, hin, hout⟩ := map_resolved hresolve
  obtain ⟨last, hlast⟩ : ∃ last, plan.route.hopTokens.getLast? = some last := by
    cases hlast : plan.route.hopTokens.getLast? with
    | none =>
        rw [List.getLast?_eq_none_iff.mp hlast] at hfirst
        cases hfirst
    | some last => exact ⟨last, rfl⟩
  rw [hfirst] at hin
  rw [hlast] at hout
  have hsome : ∀ token ∈ plan.route.hopTokens,
      (resolveToken env.settings session.chain token).isSome := by
    intro token htoken
    have hmem : resolveToken env.settings session.chain token ∈ path.map some :=
      hpath ▸ List.mem_map_of_mem htoken
    obtain ⟨a, _, ha⟩ := List.mem_map.mp hmem
    rw [← ha]
    rfl
  refine ⟨path, first, last, hfirst, hlast, head_path hpath hfirst, last_path hpath hlast,
    hsome _ (List.mem_of_mem_head? hfirst), hsome _ (List.mem_of_getLast? hlast), ?_, ?_⟩
  · simpa [hin, hout] using hshape
  · rw [h.value_eq, hresolve]
    simp [hin]

/-- A submitted swap spends the first token of its route. -/
theorem Planned.spent (h : Planned env event session ans plan) (hrouter : router.Behaves weth)
    (hweth : wrappedNativeAddressForChain env.settings session.chain = some weth) :
    some (router.spent plan.calldata plan.txValue) = plan.route.spentAsset := by
  obtain ⟨path, first, last, hp⟩ := h.path
  obtain ⟨a, ha⟩ := Option.isSome_iff_exists.mp hp.first_some
  have hhead : path.head? = some a := hp.first_path.trans ha
  have hasset : plan.route.spentAsset = tokenAsset first := by
    rw [PoolSwapRoute.spentAsset, hp.first_token, Option.bind_some]
  have hplain (hin : isNativeTokenPlaceholder first = false) :
      tokenAsset first = some (.erc20 a) := by
    rw [tokenAsset_of_plain env.settings session.chain hin, ha,
      Option.map_some]
  rw [hasset]
  have hshape := hp.shape
  have hvalue := hp.value
  have hpos := h.sell_pos
  generalize plan.calldata = call, plan.poolType = poolType at hshape hpos
  cases hshape with
  | ethForTokens hin =>
      rw [(hrouter.eth_for_tokens _ _ _ _ _).1, tokenAsset, if_pos hin]
  | tokensForEth hin =>
      rw [(hrouter.tokens_for_eth _ _ _ _ _ _).1 a hhead, hplain hin]
  | tokensForTokens hin =>
      rw [(hrouter.tokens_for_tokens _ _ _ _ _ _).1 a hhead, hplain hin]
  | exactInput hbytes =>
      rw [(hrouter.exact_input _ _ _ _ _ _).1 a ((encodeUniswapV3Path_ends hbytes).1 a hhead)]
      cases hin : isNativeTokenPlaceholder first with
      | true =>
          have haweth : a = weth := by
            rw [resolveToken, if_pos hin, hweth] at ha
            exact (Option.some.inj ha).symm
          rw [hvalue, if_pos hin, if_pos ⟨haweth, Nat.le_refl _⟩, tokenAsset, if_pos hin]
      | false =>
          have hlt := hpos rfl
          rw [hvalue, hin, if_neg (by simp; omega), hplain hin]

/-- It delivers the last token of its route, or the wrapped token in its place. -/
theorem Planned.delivered (h : Planned env event session ans plan) (hrouter : router.Behaves weth) :
    some (router.delivered plan.calldata plan.txValue) =
      plan.route.deliveredAsset env.settings session.chain plan.poolType := by
  obtain ⟨path, first, last, hp⟩ := h.path
  obtain ⟨b, hb⟩ := Option.isSome_iff_exists.mp hp.last_some
  have hlast : path.getLast? = some b := hp.last_path.trans hb
  have hspent : plan.route.spentAsset = some .native ↔ isNativeTokenPlaceholder first = true := by
    rw [PoolSwapRoute.spentAsset, hp.first_token, Option.bind_some, tokenAsset]
    cases isNativeTokenPlaceholder first <;> simp
  have hplain (hout : isNativeTokenPlaceholder last = false) :
      tokenAsset last = some (.erc20 b) := by
    rw [tokenAsset_of_plain env.settings session.chain hout, hb,
      Option.map_some]
  have hwrapped (hout : isNativeTokenPlaceholder last = true) :
      wrappedNativeAddressForChain env.settings session.chain = some b := by
    rw [← hb, resolveToken, if_pos hout]
  rw [PoolSwapRoute.deliveredAsset, hp.last_token, Option.bind_some]
  simp only [hspent]
  have hshape := hp.shape
  generalize plan.calldata = call, plan.poolType = poolType at hshape
  cases hshape with
  | ethForTokens hin =>
      rw [(hrouter.eth_for_tokens _ _ _ _ _).2 b hlast]
      cases hout : isNativeTokenPlaceholder last with
      | true => simp [hin, hwrapped hout]
      | false => simp [hplain hout]
  | tokensForEth hin hout =>
      rw [(hrouter.tokens_for_eth _ _ _ _ _ _).2]
      simp [hin, tokenAsset, hout]
  | tokensForTokens hin hout =>
      rw [(hrouter.tokens_for_tokens _ _ _ _ _ _).2 b hlast]
      simp [hin, hplain hout]
  | exactInput hbytes =>
      rw [(hrouter.exact_input _ _ _ _ _ _).2 b ((encodeUniswapV3Path_ends hbytes).2 b hlast)]
      cases hout : isNativeTokenPlaceholder last with
      | true => simp [hwrapped hout]
      | false => simp [hplain hout]

end Plan

/-! ### The sessions of the gateway -/

/-- The session service has stored the request of one of the two handlers. What
`start_selling` is answered comes from the service itself. -/
inductive Created (cfg : Settings) (lib : Library) :
    CreateSessionRequest → StoredSession → Prop where
  | createSession {user : Gateway.AuthUser} {body : Gateway.CreateSessionBody}
      {ans : Gateway.CreateSessionAnswers} {req : CreateSessionRequest}
      {dbAns : CreateSessionAnswers} {stored : StoredSession}
      (hreq : Gateway.createSession cfg lib user body ans = .ok req)
      (hstored : SessionApi.createSession lib req dbAns = .ok stored) : Created cfg lib req stored
  | startSelling {user : Gateway.AuthUser} {ans : Gateway.StartSellingAnswers}
      {req : CreateSessionRequest} {dbAns : CreateSessionAnswers} {stored : StoredSession}
      {provider pathProvider : Provider} {best : PoolInfo} {cached : Option (Option SwapPath)}
      (hdiscovered : discoverPoolsResponse cfg lib.jsonToString provider req.chain
        cfg.execution.sellToken = ans.discovered)
      (hbest : ans.discovered.bind (Gateway.bestPool cfg.execution.sellToken) = some best)
      (hpath : (computePoolPath cfg pathProvider req.chain best.poolAddress best.token0 best.token1
        cfg.execution.sellToken cfg.execution.targetToken cached).toOption = ans.path)
      (hreq : Gateway.startSelling cfg lib user ans = .ok req)
      (hstored : SessionApi.createSession lib req dbAns = .ok stored) : Created cfg lib req stored

theorem Created.stores {cfg : Settings} {lib : Library} {req : CreateSessionRequest}
    {stored : StoredSession} (h : Created cfg lib req stored) : Stores lib req stored := by
  cases h with
  | createSession _ hstored => exact createSession_stores hstored
  | startSelling _ _ _ _ hstored => exact createSession_stores hstored

/-- The session as the engine is answered later, when its other columns may have
changed. -/
structure AnsweredAs (stored : StoredSession) (session : SessionInfo) : Prop where
  chain : session.chain = stored.row.chain
  sellToken : session.sellToken = stored.row.sellToken
  targetToken : session.targetToken = stored.row.targetToken
  pools : ∀ p ∈ session.pools, p ∈ stored.pools

/-- The values of the request's routes, printed for the engine, read as the routes
that they are. -/
def Reprints (env : Environment) (lib : Library) (req : CreateSessionRequest) : Prop :=
  ∀ p ∈ req.pools, ∀ value, lib.jsonFromStr (trim p.swapPathJson) = some value →
    (env.jsonFromStr (trim (lib.jsonToString value))).bind PoolSwapRoute.ofJson =
      PoolSwapRoute.ofValue value

/-- A swap that the engine submits for a session of the gateway. -/
structure SessionSwap (env : Environment) (lib : Library) (req : CreateSessionRequest)
    (session : SessionInfo) (plan : SwapPlan) : Prop where
  created : ∃ stored, Created env.settings lib req stored ∧ AnsweredAs stored session
  planned : ∃ event ans, planSwap env event session ans = some plan

/-- The route that the request gave for a pool leads from the sell token of the
request to its target token. -/
def RequestFits (cfg : Settings) (lib : Library) (req : CreateSessionRequest)
    (poolAddress : String) : Prop :=
  ∃ pool value poolType route,
    req.pools.find? (fun p => p.poolAddress = poolAddress) = some pool ∧
    lib.jsonFromStr (trim pool.swapPathJson) = some value ∧
    poolTypeFromStr pool.poolType = some poolType ∧ PoolSwapRoute.ofValue value = some route ∧
    route.spentAsset = tokenAsset req.sellToken ∧
    route.deliveredAsset cfg req.chain poolType = tokenAsset req.targetToken

/-- For every session of the gateway, a submitted swap moves the session's assets
exactly where the route that came with the request leads from the one to the
other. -/
theorem movesSessionAssets_iff {env : Environment} {lib : Library} {router : Router}
    {weth : Address} {req : CreateSessionRequest} {session : SessionInfo} {plan : SwapPlan}
    (hrouter : router.Behaves weth)
    (hweth : wrappedNativeAddressForChain env.settings session.chain = some weth)
    (hprint : Reprints env lib req) (h : SessionSwap env lib req session plan) :
    MovesSessionAssets router session plan ↔
      RequestFits env.settings lib req plan.pool.poolAddress := by
  obtain ⟨stored, hcreated, hanswered⟩ := h.created
  obtain ⟨event, ans, hplan⟩ := h.planned
  have hplanned := planSwap_planned hplan
  have hstores := hcreated.stores
  obtain ⟨p, value, hfind, hparse, hpool⟩ :=
    hstores.pools _ (hanswered.pools _ (List.mem_of_find?_eq_some hplanned.pool_found))
  have hvalue := parsePoolSwapPathJson_reads hparse
  have htype : poolTypeFromStr p.poolType = some plan.poolType := by
    have htype := hplanned.pool_type
    rw [hpool] at htype
    exact htype
  have hroute : PoolSwapRoute.ofValue value = some plan.route := by
    have hread := parsePoolSwapRoute_reads hplanned.route_parsed
    rw [hpool] at hread
    exact (hprint p (List.mem_of_find?_eq_some hfind) value hvalue).symm.trans hread
  rw [MovesSessionAssets, hplanned.spent hrouter hweth, hplanned.delivered hrouter,
    hanswered.chain, hanswered.sellToken, hanswered.targetToken, hstores.chain,
    hstores.sellToken, hstores.targetToken]
  constructor
  · rintro ⟨hspent, hdelivered⟩
    exact ⟨p, value, plan.poolType, plan.route, hfind, hvalue, htype, hroute, hspent, hdelivered⟩
  · rintro ⟨p', value', poolType', route', hfind', hvalue', htype', hroute', hspent, hdelivered⟩
    cases hfind.symm.trans hfind'
    cases hvalue.symm.trans hvalue'
    cases htype.symm.trans htype'
    cases hroute.symm.trans hroute'
    exact ⟨hspent, hdelivered⟩

/-! ### A sample

A router that does what is documented, and a request for one pool. -/

namespace Sample

def leading (path : List UInt8) : Address := (Address.ofBytes (path.take 20)).getD Address.zero

def trailing (path : List UInt8) : Address :=
  (Address.ofBytes (path.drop (path.length - 20))).getD Address.zero

def router (weth : Address) : Router where
  spent
    | .swapExactETHForTokensSupportingFeeOnTransferTokens .., _ => .native
    | .swapExactTokensForETHSupportingFeeOnTransferTokens _ _ path _ _, _ =>
        .erc20 (path.head?.getD Address.zero)
    | .swapExactTokensForTokensSupportingFeeOnTransferTokens _ _ path _ _, _ =>
        .erc20 (path.head?.getD Address.zero)
    | .exactInput path _ _ amountIn _, value =>
        if leading path = weth ∧ amountIn ≤ value then .native else .erc20 (leading path)
  delivered
    | .swapExactETHForTokensSupportingFeeOnTransferTokens _ path _ _, _ =>
        .erc20 (path.getLast?.getD Address.zero)
    | .swapExactTokensForETHSupportingFeeOnTransferTokens .., _ => .native
    | .swapExactTokensForTokensSupportingFeeOnTransferTokens _ _ path _ _, _ =>
        .erc20 (path.getLast?.getD Address.zero)
    | .exactInput path _ _ _ _, _ => .erc20 (trailing path)

theorem leading_of_prefix {a : Address} {path : List UInt8} (h : a.bytes <+: path) :
    leading path = a := by
  obtain ⟨rest, rfl⟩ := h
  simp [leading, Address.ofBytes, a.size]

theorem trailing_of_suffix {a : Address} {path : List UInt8} (h : a.bytes <:+ path) :
    trailing path = a := by
  obtain ⟨before, rfl⟩ := h
  simp [trailing, Address.ofBytes, a.size]

theorem router_behaves (weth : Address) : (router weth).Behaves weth where
  eth_for_tokens _ _ _ _ _ := ⟨rfl, fun _ h => by simp [router, h]⟩
  tokens_for_eth _ _ _ _ _ _ := ⟨fun _ h => by simp [router, h], rfl⟩
  tokens_for_tokens _ _ _ _ _ _ := ⟨fun _ h => by simp [router, h], fun _ h => by simp [router, h]⟩
  exact_input _ _ _ _ _ _ :=
    ⟨fun _ h => by simp [router, leading_of_prefix h], fun _ h => by
      simp [router, trailing_of_suffix h]⟩

/-- The libraries, where every route reads as the one of the pool. -/
def library (hopTokens : List String) : Library where
  jsonFromStr := (environment hopTokens).jsonFromStr
  jsonToString := fun _ => "route"
  uuidFromStr := fun _ => some 1
  uuidToString := fun _ => "1"
  numericFromStr := fun s => U256.fromStrRadix s 10

def body : Gateway.CreateSessionBody where
  walletId := "1"
  chain := "bsc"
  sellToken := sellToken
  sellTokenSymbol := "SELL"
  sellTokenDecimals := 18
  targetToken := targetToken
  targetTokenSymbol := "USDT"
  targetTokenDecimals := 18
  totalAmount := "800"
  povPercent := 50
  maxPriceImpact := 1
  minBuyTriggerUsd := 0
  minMarketCapUsd := 0
  swapPathJson := none
  pools := some [pool]

def request (hopTokens : List String) : Except StatusCode CreateSessionRequest :=
  Gateway.createSession settings (library hopTokens) ⟨1, "common"⟩ body
    ⟨true, true, some "800", none⟩

/-- The request is accepted and stored, and the engine submits a swap for it. -/
def swaps (hopTokens : List String) (p : CreateSessionRequest → SwapPlan → Bool) : Bool :=
  (request hopTokens).toOption.any fun req =>
    (SessionApi.createSession (library hopTokens) req ⟨1, true, true⟩).toOption.any fun stored =>
      (planSwap (environment hopTokens) (event "0xa") (session 1) answers).any fun plan =>
        stored.row = { row 1 with status := .pending } && stored.pools = [pool] &&
          req.pools = [pool] && p req plan

theorem exists_sessionSwap (hopTokens : List String) (p : CreateSessionRequest → SwapPlan → Bool)
    (h : swaps hopTokens p = true) :
    ∃ req plan, SessionSwap (environment hopTokens) (library hopTokens) req (session 1) plan ∧
      req.pools = [pool] ∧ p req plan = true := by
  simp only [swaps, Option.any_eq_true, Bool.and_eq_true, decide_eq_true_eq] at h
  obtain ⟨req, hreq, stored, hstored, plan, hplan, ⟨⟨hrow, hpools⟩, hreqPools⟩, hp⟩ := h
  refine ⟨req, plan, ⟨⟨stored, .createSession (ok_of_toOption hreq) (ok_of_toOption hstored),
    ?_⟩, ⟨_, _, hplan⟩⟩, hreqPools, hp⟩
  exact {
    chain := by rw [hrow]; rfl
    sellToken := by rw [hrow]; rfl
    targetToken := by rw [hrow]; rfl
    pools := fun q hq => by rw [hpools]; exact hq }

theorem reprints {hopTokens : List String} {req : CreateSessionRequest}
    (hpools : req.pools = [pool])
    (h : PoolSwapRoute.ofJson (routeJson hopTokens) = PoolSwapRoute.ofValue (routeJson hopTokens)) :
    Reprints (environment hopTokens) (library hopTokens) req := by
  intro p hp value hvalue
  have hroute : trim "route" = "route" := by decide
  rw [hpools, List.mem_singleton] at hp
  subst hp
  rw [show trim pool.swapPathJson = "route" from hroute] at hvalue
  cases hvalue
  rw [show trim ((library hopTokens).jsonToString (routeJson hopTokens)) = "route" from hroute]
  exact h

def wrappedAddress : Address := ⟨List.replicate 20 0x66, by decide⟩

end Sample

/-- The route of the pool goes from the sell token to the target. -/
theorem movesSessionAssets_iff_sample :
    ∃ plan, MovesSessionAssets (Sample.router Sample.wrappedAddress) (Sample.session 1) plan := by
  obtain ⟨req, plan, hswap, hpools, hp⟩ := Sample.exists_sessionSwap
    [Sample.sellToken, Sample.targetToken]
    (fun req plan => req.chain = "bsc" && req.sellToken = Sample.sellToken &&
      req.targetToken = Sample.targetToken && plan.pool = Sample.pool) (by decide +kernel)
  simp only [Bool.and_eq_true, decide_eq_true_eq] at hp
  obtain ⟨⟨⟨hchain, hsell⟩, htarget⟩, hpool⟩ := hp
  refine ⟨plan, (movesSessionAssets_iff (Sample.router_behaves Sample.wrappedAddress)
    (by decide +kernel) (Sample.reprints hpools (by decide +kernel)) hswap).mpr ?_⟩
  refine ⟨Sample.pool, Sample.routeJson [Sample.sellToken, Sample.targetToken], .v2,
    ⟨[Sample.poolAddress], [Sample.sellToken, Sample.targetToken], []⟩, ?_, ?_, ?_, ?_, ?_, ?_⟩
  · rw [hpools, hpool]
    decide +kernel
  · rfl
  · decide +kernel
  · decide +kernel
  · rw [hsell]
    decide +kernel
  · rw [htarget, hchain]
    decide +kernel

/-- The route of the pool goes on to another token, and the request is accepted
all the same. -/
theorem swap_delivers_other_asset :
    ¬ ∀ env lib router weth req session plan, Router.Behaves router weth →
      wrappedNativeAddressForChain env.settings session.chain = some weth →
      Reprints env lib req → SessionSwap env lib req session plan →
      MovesSessionAssets router session plan := by
  intro h
  obtain ⟨req, plan, hswap, hpools, hp⟩ := Sample.exists_sessionSwap
    [Sample.sellToken, Sample.wrappedNative]
    (fun _ plan => (Sample.router Sample.wrappedAddress).delivered plan.calldata
      plan.txValue = .erc20 Sample.wrappedAddress) (by decide +kernel)
  rw [decide_eq_true_eq] at hp
  have hmoves := (h _ _ _ _ req _ plan (Sample.router_behaves Sample.wrappedAddress)
    (by decide +kernel) (Sample.reprints hpools (by decide +kernel)) hswap).2
  rw [hp] at hmoves
  exact absurd hmoves (by decide +kernel)

end Liquifier.Engine
