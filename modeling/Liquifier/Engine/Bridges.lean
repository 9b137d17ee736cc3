import Liquifier.Engine.Assets
import Liquifier.Engine.ProducedRoutes

/-!
The pools that a swap goes through, against the hops of its route.

A computed route of two hops names the first pool and the cheapest pool that leads on to
the target, of whatever DEX, type and fee tier. The engine stores the two addresses, and it
encodes tokens: a router finds a pool by its own factory, the two tokens and, for V3, the
fee tier of the call. Router, type and fee tier are those of the first pool, so the swap
goes through the second hop only where this pool has them too.
-/

namespace Liquifier.Engine

open SessionApi

/-! ### The contracts of a chain -/

/-- The tokens in a call of a V2 router. -/
def RouterCall.tokenPath : RouterCall → Option (List Address)
  | .swapExactETHForTokensSupportingFeeOnTransferTokens _ path _ _ => some path
  | .swapExactTokensForETHSupportingFeeOnTransferTokens _ _ path _ _ => some path
  | .swapExactTokensForTokensSupportingFeeOnTransferTokens _ _ path _ _ => some path
  | .exactInput .. => none

/-- The factories, the routers and the pools of a chain. -/
structure Exchanges where
  getPair : (factory tokenA tokenB : Address) → Address
  getPool : (factory tokenA tokenB : Address) → (fee : ℕ) → Address
  /-- The factory that a router was deployed with. -/
  routerFactory : Address → Address
  /-- The pools that an executed call of a router goes through, in their order. -/
  swappedPools : (router : Address) → RouterCall → List Address
  /-- What a pool is, and what it answers. -/
  poolType : Address → PoolType
  factory : Address → Address
  fee : Address → ℕ
  token0 : Address → Address
  token1 : Address → Address

namespace Exchanges

variable (x : Exchanges)

/-- The pool of a factory for two tokens; a V2 factory has one for every two. -/
def poolFor (poolType : PoolType) (factory tokenA tokenB : Address) (fee : ℕ) : Address :=
  match poolType with
  | .v2 => x.getPair factory tokenA tokenB
  | .v3 => x.getPool factory tokenA tokenB fee

/-- What the pool of a factory says of itself. No contract is deployed at the address that
stands for the native coin. -/
structure Deployed (poolType : PoolType) (factory tokenA tokenB : Address) (fee : ℕ)
    (pool : Address) : Prop where
  poolType_eq : x.poolType pool = poolType
  factory_eq : x.factory pool = factory
  fee_eq : poolType = .v3 → x.fee pool = fee
  tokens : x.token0 pool = tokenA ∧ x.token1 pool = tokenB ∨
    x.token0 pool = tokenB ∧ x.token1 pool = tokenA
  not_native : isNativeTokenPlaceholder tokenA.debug = false

/-- The documented behaviour of the contracts, and a node that answers what they hold. -/
structure Behaves (provider : Provider) : Prop where
  getPair_answered : ∀ factory tokenA tokenB pool,
    provider.getPair factory tokenA tokenB = some pool → x.getPair factory tokenA tokenB = pool
  getPool_answered : ∀ factory tokenA tokenB fee pool,
    provider.getPool factory tokenA tokenB fee = some pool →
      x.getPool factory tokenA tokenB fee = pool
  token0_answered : ∀ pool token, provider.token0 pool = some token → x.token0 pool = token
  token1_answered : ∀ pool token, provider.token1 pool = some token → x.token1 pool = token
  /-- A factory answers the zero address where it has no pool. -/
  deployed : ∀ poolType factory tokenA tokenB fee,
    x.poolFor poolType factory tokenA tokenB fee ≠ Address.zero →
      x.Deployed poolType factory tokenA tokenB fee
        (x.poolFor poolType factory tokenA tokenB fee)
  poolFor_comm : ∀ poolType factory tokenA tokenB fee,
    x.poolFor poolType factory tokenA tokenB fee = x.poolFor poolType factory tokenB tokenA fee
  v2_swap : ∀ router call path, RouterCall.tokenPath call = some path →
    x.swappedPools router call =
      (path.zip path.tail).map fun hop => x.getPair (x.routerFactory router) hop.1 hop.2
  v3_swap : ∀ router path fees bytes recipient deadline amountIn amountOutMinimum,
    encodeUniswapV3Path path fees = some bytes →
      x.swappedPools router (.exactInput bytes recipient deadline amountIn amountOutMinimum) =
        List.zipWith (fun hop fee => x.getPool (x.routerFactory router) hop.1 hop.2 fee)
          (path.zip path.tail) fees

/-- The factory of a discovered pool. -/
def factoryOf (pool : DiscoveredPool) : Option Address :=
  (Address.parse pool.poolAddress).map x.factory

/-- The factory of the router that is configured for a DEX and a type. -/
def configuredFactory (cfg : Settings) (chain dexName : String) (poolType : PoolType) :
    Option Address :=
  ((cfg.dexRouterForChain chain dexName poolType).bind Address.parse).map x.routerFactory

end Exchanges

/-! ### The pools of a route -/

/-- The pool is one that a discovery describes. -/
def Discovered (provider : Provider) (pool : DiscoveredPool) : Prop :=
  ∃ factoryAddr tokenA tokenB factory,
    pool ∈ discoverPair provider factoryAddr tokenA tokenB factory

/-- The row of a session for the first pool of a computed path, with this path as its route;
the gateway shows the tokens as users know them. -/
structure RoutedRow (cfg : Settings) (lib : Library) (chain : String) (first : DiscoveredPool)
    (path : SwapPath) (row : PoolInfo) : Prop where
  poolType : row.poolType = first.poolType.toText
  dexName : row.dexName = first.dexName
  feeTier : row.feeTier = first.feeTier
  stored : ∃ value display, (display = id ∨ display = cfg.displayTokenForChain chain) ∧
    IsRoute value row.poolAddress ⟨path.hops, path.hopTokens.map display, []⟩ ∧
      ReadsBack lib value row.swapPathJson

/-- Both pools belong to the router that is configured for the first of them: they are of
its factory and of one type, and two V3 pools have one fee tier, which is not zero. -/
structure OneVenue (x : Exchanges) (cfg : Settings) (chain : String)
    (first bridge : DiscoveredPool) : Prop where
  poolType : bridge.poolType = first.poolType
  first_factory : x.factoryOf first =
    x.configuredFactory cfg chain first.dexName first.poolType
  bridge_factory : x.factoryOf bridge =
    x.configuredFactory cfg chain first.dexName first.poolType
  feeTier : first.poolType = .v3 → first.feeTier ≠ 0 ∧ bridge.feeTier = first.feeTier

section Pools

variable {x : Exchanges} {provider : Provider} {pool : DiscoveredPool} {p a b : Address}

/-- The pool is the one at `p`, which its factory has for the tokens `a` and `b`. -/
structure Located (x : Exchanges) (pool : DiscoveredPool) (p a b : Address) : Prop where
  poolAddress : pool.poolAddress = p.debug
  ne_zero : p ≠ Address.zero
  token0 : pool.token0 = a.debug
  token1 : pool.token1 = b.debug
  poolFor : x.poolFor pool.poolType (x.factory p) a b pool.feeTier = p

theorem Discovered.located (hx : x.Behaves provider) (h : Discovered provider pool) :
    ∃ p a b, Located x pool p a b := by
  obtain ⟨factoryAddr, tokenA, tokenB, factory, hmem⟩ := h
  unfold discoverPair at hmem
  split at hmem
  · rw [Option.mem_toList] at hmem
    simp only [discoverV2Pool, Option.bind_eq_bind, Option.bind_eq_some_iff,
      Option.ite_none_left_eq_some, Option.some.injEq] at hmem
    obtain ⟨p, hp, hne, t0, ht0, t1, ht1, rfl⟩ := hmem
    have hpair : x.poolFor .v2 factoryAddr tokenA tokenB 0 = p := hx.getPair_answered _ _ _ _ hp
    have hdeployed := hx.deployed .v2 factoryAddr tokenA tokenB 0 (by rwa [hpair])
    rw [hpair] at hdeployed
    refine ⟨p, t0, t1, rfl, hne, rfl, rfl, ?_⟩
    rw [hdeployed.factory_eq, ← hx.token0_answered _ _ ht0, ← hx.token1_answered _ _ ht1]
    rcases hdeployed.tokens with ⟨h0, h1⟩ | ⟨h0, h1⟩
    · rw [h0, h1]
      exact hpair
    · rw [h0, h1, hx.poolFor_comm]
      exact hpair
  · obtain ⟨fee, -, hmem⟩ := List.mem_filterMap.mp hmem
    simp only [discoverV3Pool, Option.bind_eq_bind, Option.bind_eq_some_iff, Option.guard_eq_some',
      Option.ite_none_left_eq_some, Option.some.injEq] at hmem
    obtain ⟨_, hfee, p, hp, hne, rfl⟩ := hmem
    have hpool : x.poolFor .v3 factoryAddr tokenA tokenB fee = p :=
      hx.getPool_answered _ _ _ _ _ hp
    have hdeployed := hx.deployed .v3 factoryAddr tokenA tokenB fee (by rwa [hpool])
    rw [hpool] at hdeployed
    refine ⟨p, tokenA, tokenB, rfl, hne, rfl, rfl, ?_⟩
    rw [hdeployed.factory_eq]
    exact hpool

/-- The pool has the two tokens, in either order. -/
def Joins (tokenA tokenB : String) (pool : DiscoveredPool) : Prop :=
  (toAsciiLowercase pool.token0 = toAsciiLowercase tokenA ∧
    toAsciiLowercase pool.token1 = toAsciiLowercase tokenB) ∨
  (toAsciiLowercase pool.token1 = toAsciiLowercase tokenA ∧
    toAsciiLowercase pool.token0 = toAsciiLowercase tokenB)

namespace Located

variable (h : Located x pool p a b)
include h

theorem swap (hx : x.Behaves provider) :
    x.poolFor pool.poolType (x.factory p) b a pool.feeTier = p := by
  rw [hx.poolFor_comm]
  exact h.poolFor

theorem factoryOf_eq : x.factoryOf pool = some (x.factory p) := by
  rw [Exchanges.factoryOf, h.poolAddress, Address.parse_debug, Option.map_some]

/-- The pool between its token that is sold and the other one. -/
theorem of_otherToken (hx : x.Behaves provider) {sellToken otherToken : String}
    (hother : otherTokenInPool sellToken pool.token0 pool.token1 = some otherToken) :
    ∃ c d, eqIgnoreAsciiCase sellToken c.debug = true ∧ otherToken = d.debug ∧
      x.poolFor pool.poolType (x.factory p) c d pool.feeTier = p := by
  rw [h.token0, h.token1, otherTokenInPool] at hother
  split at hother
  · rename_i hsell
    cases hother
    exact ⟨a, b, eqIgnoreAsciiCase_symm hsell, rfl, h.poolFor⟩
  · split at hother
    · rename_i hsell
      cases hother
      exact ⟨b, a, eqIgnoreAsciiCase_symm hsell, rfl, h.swap hx⟩
    · cases hother

/-- The pool between two tokens that it joins. -/
theorem of_joins (hx : x.Behaves provider) {tokenA tokenB : String}
    (hjoins : Joins tokenA tokenB pool) :
    ∃ c d, eqIgnoreAsciiCase tokenA c.debug = true ∧ eqIgnoreAsciiCase tokenB d.debug = true ∧
      x.poolFor pool.poolType (x.factory p) c d pool.feeTier = p := by
  rw [Joins, h.token0, h.token1] at hjoins
  rcases hjoins with ⟨hA, hB⟩ | ⟨hA, hB⟩
  · exact ⟨a, b, eqIgnoreAsciiCase_of_lowercase hA.symm, eqIgnoreAsciiCase_of_lowercase hB.symm,
      h.poolFor⟩
  · exact ⟨b, a, eqIgnoreAsciiCase_of_lowercase hA.symm, eqIgnoreAsciiCase_of_lowercase hB.symm,
      h.swap hx⟩

end Located

theorem not_native_of_poolFor (hx : x.Behaves provider) {poolType : PoolType} {factory : Address}
    {fee : ℕ} (hne : p ≠ Address.zero) (hp : x.poolFor poolType factory a b fee = p) :
    isNativeTokenPlaceholder a.debug = false ∧ isNativeTokenPlaceholder b.debug = false := by
  have hp' : x.poolFor poolType factory b a fee = p := by rw [hx.poolFor_comm, hp]
  exact ⟨(hx.deployed _ _ _ _ _ (by rwa [hp])).not_native,
    (hx.deployed _ _ _ _ _ (by rwa [hp'])).not_native⟩

/-- A pool is found for its tokens by its own type, factory and fee tier, and by no others. -/
theorem poolFor_eq_iff (hx : x.Behaves provider) {poolType poolType' : PoolType}
    {factory' : Address} {fee fee' : ℕ} (hne : p ≠ Address.zero)
    (hp : x.poolFor poolType (x.factory p) a b fee = p) :
    x.poolFor poolType' factory' a b fee' = p ↔
      poolType = poolType' ∧ x.factory p = factory' ∧ (poolType' = .v3 → fee' = fee) := by
  have hdeployed := hx.deployed poolType (x.factory p) a b fee (by rwa [hp])
  rw [hp] at hdeployed
  constructor
  · intro hp'
    have hdeployed' := hx.deployed poolType' factory' a b fee' (by rwa [hp'])
    rw [hp'] at hdeployed'
    have htype := hdeployed.poolType_eq.symm.trans hdeployed'.poolType_eq
    refine ⟨htype, hdeployed'.factory_eq, fun hv3 => ?_⟩
    rw [← hdeployed'.fee_eq hv3, hdeployed.fee_eq (htype.trans hv3)]
  · rintro ⟨rfl, rfl, hfee⟩
    cases poolType with
    | v2 => exact hp
    | v3 =>
        rw [hfee rfl]
        exact hp

end Pools

/-! ### The pools of a swap -/

section Tokens

variable {cfg : Settings} {chain s : String} {a b : Address}

/-- A token of a route stands for the token that it is spelled like, also as users know it. -/
theorem eq_of_resolveToken (hnative : isNativeTokenPlaceholder a.debug = false)
    (hs : eqIgnoreAsciiCase s a.debug = true) (h : resolveToken cfg chain s = some b) : b = a := by
  have hplain : isNativeTokenPlaceholder s = false := by
    rw [Bool.eq_false_iff]
    intro hplaceholder
    rw [isNativeTokenPlaceholder, Address.trim_eq_of_debug hs] at hplaceholder
    rw [isNativeTokenPlaceholder, Address.trim_eq_of_debug (eqIgnoreAsciiCase_refl a.debug),
      eqIgnoreAsciiCase_trans (eqIgnoreAsciiCase_symm hs) hplaceholder] at hnative
    cases hnative
  rw [resolveToken, hplain] at h
  exact Address.eq_of_parse hs h

theorem eq_of_resolveToken_display (hnative : isNativeTokenPlaceholder a.debug = false)
    (hs : eqIgnoreAsciiCase s a.debug = true)
    (h : resolveToken cfg chain (cfg.displayTokenForChain chain s) = some b) : b = a := by
  rw [Settings.displayTokenForChain, Address.trim_eq_of_debug hs] at h
  split at h
  · rename_i wrapped hwrapped
    split at h
    · rename_i heq
      have hplaceholder : isNativeTokenPlaceholder nativeTokenPlaceholder = true := by
        decide +kernel
      rw [resolveToken, if_pos hplaceholder, wrappedNativeAddressForChain, hwrapped] at h
      exact Address.eq_of_parse (eqIgnoreAsciiCase_trans (eqIgnoreAsciiCase_symm heq) hs) h
    · exact eq_of_resolveToken hnative hs h
  · exact eq_of_resolveToken hnative hs h

end Tokens

/-- The fee tier that stands in a path without fee tiers of its own. -/
def encodedFee (defaultFeeTier : ℕ) : ℕ := if defaultFeeTier = 0 then 3000 else defaultFeeTier

theorem encodedFee_eq_self {fee : ℕ} : encodedFee fee = fee ↔ fee ≠ 0 := by
  unfold encodedFee
  split
  · omega
  · omega

/-- The pools that the call for a route of two hops goes through. -/
theorem swappedPools_of_calldata {x : Exchanges} {provider : Provider} (hx : x.Behaves provider)
    {cfg : Settings} {amount expectedOutput : ℕ} {hops : List String} {s0 s1 s2 : String}
    {poolType : PoolType} {defaultFeeTier : ℕ} {recipient : Address} {chain : String}
    {slippageBps now : ℕ} {call : RouterCall}
    (h : buildSwapCalldata cfg amount expectedOutput ⟨hops, [s0, s1, s2], []⟩ poolType
      defaultFeeTier recipient chain slippageBps now = some call) (router : Address) :
    ∃ a b c, resolveToken cfg chain s0 = some a ∧ resolveToken cfg chain s1 = some b ∧
      resolveToken cfg chain s2 = some c ∧
      x.swappedPools router call =
        [x.poolFor poolType (x.routerFactory router) a b (encodedFee defaultFeeTier),
          x.poolFor poolType (x.routerFactory router) b c (encodedFee defaultFeeTier)] := by
  simp only [buildSwapCalldata, Option.bind_eq_bind, Option.bind_eq_some_iff,
    Option.ite_none_left_eq_some] at h
  obtain ⟨⟨path, nativeInput, nativeOutput⟩, hpath, _, _, h⟩ := h
  obtain ⟨a, rest, rfl, ha, hrest⟩ := List.map_eq_cons_iff.mp (map_resolved hpath).1
  obtain ⟨b, rest, rfl, hb, hrest⟩ := List.map_eq_cons_iff.mp hrest
  obtain ⟨c, rest, rfl, hc, hrest⟩ := List.map_eq_cons_iff.mp hrest
  rw [List.map_nil, List.map_eq_nil_iff] at hrest
  subst hrest
  refine ⟨a, b, c, ha.symm, hb.symm, hc.symm, ?_⟩
  cases poolType with
  | v2 =>
      have hcall : call.tokenPath = some [a, b, c] := by
        dsimp only at h
        split at h
        · cases h; rfl
        · split at h
          · cases h; rfl
          · cases h; rfl
      exact hx.v2_swap router call _ hcall
  | v3 =>
      have hfees : routeFeeTiers ⟨hops, [s0, s1, s2], []⟩ defaultFeeTier [a, b, c].length =
          some [encodedFee defaultFeeTier, encodedFee defaultFeeTier] := rfl
      simp only [hfees, Option.bind_some, Option.bind_eq_some_iff, Option.some.injEq] at h
      obtain ⟨bytes, hbytes, rfl⟩ := h
      exact hx.v3_swap router _ _ _ _ _ _ _ hbytes

/-! ### The hops of a computed path -/

theorem debug_inj {a b : Address} : a.debug = b.debug ↔ a = b :=
  ⟨debug_injective, congrArg Address.debug⟩

theorem mem_of_minByFee {pools : List DiscoveredPool} {pool : DiscoveredPool}
    (h : minByFee pools = some pool) : pool ∈ pools := by
  cases pools with
  | nil => cases h
  | cons first pools =>
      rw [minByFee, Option.some.injEq] at h
      subst h
      induction pools generalizing first with
      | nil => exact List.mem_cons_self
      | cons p pools ih =>
          rw [List.foldl_cons]
          split
          · exact List.mem_cons_of_mem _ (ih p)
          · rcases List.mem_cons.mp (ih first) with heq | hmem
            · rw [heq]
              exact List.mem_cons_self
            · exact List.mem_cons_of_mem _ (List.mem_cons_of_mem _ hmem)

section Path

variable {x : Exchanges} {provider : Provider}
  {poolAddress token0 token1 sellToken targetToken : String} {targetPools : List DiscoveredPool} {path : SwapPath}

/-- A path of two hops goes on through one of the target pools. -/
theorem exists_bridge
    (h : buildSwapPath poolAddress token0 token1 sellToken targetToken targetPools = some path)
    (htwo : path.hops.length = 2) :
    ∃ otherToken bridge, otherTokenInPool sellToken token0 token1 = some otherToken ∧
      bridge ∈ targetPools ∧
      Joins otherToken targetToken bridge ∧
      path = ⟨[poolAddress, bridge.poolAddress], [sellToken, otherToken, targetToken]⟩ := by
  simp only [buildSwapPath, Option.bind_eq_bind, Option.bind_eq_some_iff] at h
  obtain ⟨otherToken, hother, h⟩ := h
  split at h
  · cases h
    cases htwo
  · simp only [Option.bind_eq_some_iff, Option.some.injEq] at h
    obtain ⟨bridge, hbridge, rfl⟩ := h
    obtain ⟨hmem, hjoins⟩ := List.mem_filter.mp (mem_of_minByFee hbridge)
    refine ⟨otherToken, bridge, hother, hmem, ?_, rfl⟩
    simpa only [Joins, Bool.or_eq_true, Bool.and_eq_true, decide_eq_true_eq] using hjoins

/-- The swap for a computed route of two hops goes through the pools of the hops if and only
if both pools belong to the router of the first. -/
theorem swappedPools_iff {env : Environment} {event : DexSwapEvent} {session : SessionInfo}
    {ans : SwapAnswers} {plan : SwapPlan} {lib : Library} {first : DiscoveredPool}
    (hx : x.Behaves provider) (hlib : env.jsonFromStr = lib.jsonFromStr)
    (hfirst : Discovered provider first)
    (htargets : ∀ pool ∈ targetPools, Discovered provider pool)
    (hpath : buildSwapPath first.poolAddress first.token0 first.token1 sellToken targetToken
      targetPools = some path)
    (htwo : path.hops.length = 2) (hplan : planSwap env event session ans = some plan)
    (hrow : RoutedRow env.settings lib session.chain first path plan.pool) :
    ∃ bridge ∈ targetPools, path.hops = [first.poolAddress, bridge.poolAddress] ∧
      ((x.swappedPools plan.routerAddress plan.calldata).map Address.debug = path.hops ↔
        OneVenue x env.settings session.chain first bridge) := by
  obtain ⟨otherToken, bridge, hother, hbridge, hjoins, rfl⟩ := exists_bridge hpath htwo
  refine ⟨bridge, hbridge, rfl, ?_⟩
  obtain ⟨p, _, _, hp⟩ := hfirst.located hx
  obtain ⟨q, _, _, hq⟩ := (htargets bridge hbridge).located hx
  obtain ⟨a, b, hsell, rfl, hfirstFor⟩ := hp.of_otherToken hx hother
  obtain ⟨b', c, hb', htarget, hbridgeFor⟩ := hq.of_joins hx hjoins
  obtain rfl := Address.eqIgnoreAsciiCase_debug.mp hb'
  have hplanned := planSwap_planned hplan
  have htype : plan.poolType = first.poolType := by
    have htype := hplanned.pool_type
    rw [hrow.poolType, poolTypeFromStr_toText] at htype
    exact (Option.some.inj htype).symm
  have hrouter : x.configuredFactory env.settings session.chain first.dexName first.poolType =
      some (x.routerFactory plan.routerAddress) := by
    rw [Exchanges.configuredFactory, ← hrow.dexName, ← htype, hplanned.router, Option.map_some]
  obtain ⟨value, display, hdisplay, hvalue, hstored⟩ := hrow.stored
  have hroute : plan.route = ⟨[first.poolAddress, bridge.poolAddress],
      [sellToken, b.debug, targetToken].map display, []⟩ := by
    have hparsed := hplanned.route_parsed
    have hpool := List.find?_some hplanned.pool_found
    rw [hlib, (hvalue.congr hpool).parsed hstored] at hparsed
    exact (Option.some.inj hparsed).symm
  obtain ⟨expected, -, hcall⟩ := hplanned.calldata_built
  rw [hroute] at hcall
  obtain ⟨a', b', c', ha', hb', hc', hpools⟩ := swappedPools_of_calldata hx hcall plan.routerAddress
  have hresolve : ∀ {s t u}, isNativeTokenPlaceholder (Address.debug t) = false →
      eqIgnoreAsciiCase s t.debug = true →
      resolveToken env.settings session.chain (display s) = some u → u = t := by
    intro s t u hnative hs h
    rcases hdisplay with rfl | rfl
    · exact eq_of_resolveToken hnative hs h
    · exact eq_of_resolveToken_display hnative hs h
  obtain ⟨hnativeA, hnativeB⟩ := not_native_of_poolFor hx hp.ne_zero hfirstFor
  obtain ⟨-, hnativeC⟩ := not_native_of_poolFor hx hq.ne_zero hbridgeFor
  obtain rfl := hresolve hnativeA hsell ha'
  obtain rfl := hresolve hnativeB (eqIgnoreAsciiCase_refl _) hb'
  obtain rfl := hresolve hnativeC htarget hc'
  rw [hpools, hp.poolAddress, hq.poolAddress]
  simp only [List.map_cons, List.map_nil, List.cons.injEq, and_true, debug_inj,
    poolFor_eq_iff hx hp.ne_zero hfirstFor, poolFor_eq_iff hx hq.ne_zero hbridgeFor, hrow.feeTier,
    htype, true_and]
  constructor
  · rintro ⟨⟨hfactory, hfee⟩, htype', hfactory', hfee'⟩
    refine ⟨htype', ?_, ?_, fun hv3 => ?_⟩
    · rw [hp.factoryOf_eq, hrouter, hfactory]
    · rw [hq.factoryOf_eq, hrouter, hfactory']
    · exact ⟨encodedFee_eq_self.mp (hfee hv3), (hfee' hv3).symm.trans (hfee hv3)⟩
  · intro h
    have hfactory := h.first_factory
    have hfactory' := h.bridge_factory
    rw [hp.factoryOf_eq, hrouter, Option.some.injEq] at hfactory
    rw [hq.factoryOf_eq, hrouter, Option.some.injEq] at hfactory'
    refine ⟨⟨hfactory, fun hv3 => ?_⟩, h.poolType, hfactory', fun hv3 => ?_⟩
    · exact encodedFee_eq_self.mpr (h.feeTier hv3).1
    · rw [(h.feeTier hv3).2]
      exact encodedFee_eq_self.mpr (h.feeTier hv3).1

end Path

/-! ### A sample

A V2 pool of the sell token and a bridge token, and a pool of the bridge token and the
target, which is a V2 pool of the same DEX or a V3 pool. -/

namespace Sample

def readFee : List UInt8 → ℕ
  | high :: middle :: low :: _ => 2 ^ 16 * high.toNat + 2 ^ 8 * middle.toNat + low.toNat
  | _ => 0

/-- The tokens and the fees of a path of at most `n` tokens. -/
def readPath : ℕ → List UInt8 → List Address × List ℕ
  | 0, _ => ([], [])
  | n + 1, bytes =>
      if bytes.length ≤ 20 then ([leading bytes], [])
      else
        let rest := readPath n (bytes.drop 23)
        (leading bytes :: rest.1, readFee (bytes.drop 20) :: rest.2)

theorem readFee_feeBytes {fee : ℕ} (h : fee < 2 ^ 24) (rest : List UInt8) :
    readFee (feeBytes fee ++ rest) = fee := by
  simp only [feeBytes, List.cons_append, List.nil_append, readFee, UInt8.toNat_ofNat']
  omega

theorem readPath_of_encodeHops {tokens : List Address} {fees : List ℕ} {bytes : List UInt8}
    (h : encodeHops tokens fees = some bytes) {n : ℕ} (hn : bytes.length ≤ n) :
    readPath n bytes = (tokens, fees) := by
  induction tokens generalizing fees bytes n with
  | nil => cases fees <;> cases h
  | cons token tokens ih =>
      cases fees with
      | nil =>
          cases tokens with
          | nil =>
              cases h
              cases n with
              | zero => exact absurd hn (by simp [token.size])
              | succ n =>
                  rw [readPath, if_pos token.size.le, leading_of_prefix (List.prefix_refl _)]
          | cons _ _ => cases h
      | cons fee fees =>
          simp only [encodeHops, Option.ite_none_left_eq_some, Option.map_eq_some_iff] at h
          obtain ⟨hfee, rest, hrest, rfl⟩ := h
          rw [List.append_assoc] at hn ⊢
          have hlength : (token.bytes ++ (feeBytes fee ++ rest)).length = 23 + rest.length := by
            simp [token.size, feeBytes]
            omega
          cases n with
          | zero => omega
          | succ n =>
              have hdrop : (token.bytes ++ (feeBytes fee ++ rest)).drop 23 = rest := by
                rw [← List.append_assoc]
                exact List.drop_left' (by simp [token.size, feeBytes])
              rw [readPath, if_neg (by omega), leading_of_prefix (List.prefix_append _ _), hdrop,
                ih hrest (by omega), List.drop_left' token.size, readFee_feeBytes (by omega)]

theorem length_bytes (b : UInt8) : (List.replicate 20 b).length = 20 := List.length_replicate

def ofByte (b : UInt8) : Address := ⟨List.replicate 20 b, length_bytes b⟩

def soldToken : Address := ofByte 0x11
def targetAddress : Address := ofByte 0x22
def firstPool : Address := ofByte 0x33
def bridgeToken : Address := ofByte 0x77
def bridgePool : Address := ofByte 0x88
def v2Factory : Address := ofByte 0xaa
def v3Factory : Address := ofByte 0xbb

/-- The two tokens are `c` and `d`. -/
def arePair (c d a b : Address) : Bool := a = c && b = d || a = d && b = c

theorem arePair_comm (c d a b : Address) : arePair c d a b = arePair c d b a := by
  simp [arePair, Bool.and_comm, Bool.or_comm]

section Exchanges

variable (bridgeType : PoolType)

/-- The pairs of the chain, where the second pool is of the type `bridgeType`. -/
def pairAt (factory a b : Address) : Address :=
  if factory = v2Factory ∧ arePair soldToken bridgeToken a b then firstPool
  else if bridgeType = .v2 ∧ factory = v2Factory ∧ arePair bridgeToken targetAddress a b then
    bridgePool
  else Address.zero

def poolAt (factory a b : Address) (fee : ℕ) : Address :=
  if bridgeType = .v3 ∧ factory = v3Factory ∧ arePair bridgeToken targetAddress a b ∧ fee = 500 then
    bridgePool
  else Address.zero

def exchanges : Exchanges where
  getPair := pairAt bridgeType
  getPool := poolAt bridgeType
  routerFactory _ := v2Factory
  swappedPools _
    | .exactInput bytes _ _ _ _ =>
        let path := readPath bytes.length bytes
        List.zipWith (fun hop fee => poolAt bridgeType v2Factory hop.1 hop.2 fee)
          (path.1.zip path.1.tail) path.2
    | call =>
        let path := call.tokenPath.getD []
        (path.zip path.tail).map fun hop => pairAt bridgeType v2Factory hop.1 hop.2
  poolType pool := if pool = bridgePool then bridgeType else .v2
  factory pool := if pool = bridgePool ∧ bridgeType = .v3 then v3Factory else v2Factory
  fee _ := 500
  token0 pool := if pool = bridgePool then bridgeToken else soldToken
  token1 pool := if pool = bridgePool then targetAddress else bridgeToken

def bridgeProvider : Provider where
  getPair factory a b := some (pairAt bridgeType factory a b)
  getPool factory a b fee := some (poolAt bridgeType factory a b fee)
  token0 pool := some ((exchanges bridgeType).token0 pool)
  token1 pool := some ((exchanges bridgeType).token1 pool)
  getReserves _ := none
  liquidity _ := none
  balanceOf _ _ := none

theorem not_native_of_arePair {a b : Address}
    (h : arePair soldToken bridgeToken a b = true ∨ arePair bridgeToken targetAddress a b = true) :
    isNativeTokenPlaceholder a.debug = false := by
  have hsold : isNativeTokenPlaceholder soldToken.debug = false := by decide +kernel
  have hbridge : isNativeTokenPlaceholder bridgeToken.debug = false := by decide +kernel
  have htarget : isNativeTokenPlaceholder targetAddress.debug = false := by decide +kernel
  simp only [arePair, Bool.or_eq_true, Bool.and_eq_true, decide_eq_true_eq] at h
  rcases h with (⟨rfl, -⟩ | ⟨rfl, -⟩) | ⟨rfl, -⟩ | ⟨rfl, -⟩
  · exact hsold
  · exact hbridge
  · exact hbridge
  · exact htarget

theorem tokens_of_arePair {c d a b : Address} (h : arePair c d a b = true) :
    c = a ∧ d = b ∨ c = b ∧ d = a := by
  simp only [arePair, Bool.or_eq_true, Bool.and_eq_true, decide_eq_true_eq] at h
  rcases h with ⟨rfl, rfl⟩ | ⟨rfl, rfl⟩
  · exact .inl ⟨rfl, rfl⟩
  · exact .inr ⟨rfl, rfl⟩

theorem exchanges_deployed (poolType : PoolType) (factory a b : Address) (fee : ℕ)
    (h : (exchanges bridgeType).poolFor poolType factory a b fee ≠ Address.zero) :
    (exchanges bridgeType).Deployed poolType factory a b fee
      ((exchanges bridgeType).poolFor poolType factory a b fee) := by
  cases poolType with
  | v2 =>
      simp only [Exchanges.poolFor, exchanges, pairAt] at h ⊢
      split at h
      · rename_i hfirst
        obtain ⟨rfl, hpair⟩ := hfirst
        rw [if_pos ⟨rfl, hpair⟩]
        exact {
          poolType_eq := rfl
          factory_eq := rfl
          fee_eq := fun hv3 => by cases hv3
          tokens := tokens_of_arePair hpair
          not_native := not_native_of_arePair (.inl hpair) }
      · rename_i hfirst
        split at h
        · rename_i hbridge
          rw [if_neg hfirst, if_pos hbridge]
          obtain ⟨rfl, rfl, hpair⟩ := hbridge
          exact {
            poolType_eq := rfl
            factory_eq := rfl
            fee_eq := fun hv3 => by cases hv3
            tokens := tokens_of_arePair hpair
            not_native := not_native_of_arePair (.inr hpair) }
        · exact absurd rfl h
  | v3 =>
      simp only [Exchanges.poolFor, exchanges, poolAt] at h ⊢
      split at h
      · rename_i hbridge
        rw [if_pos hbridge]
        obtain ⟨rfl, rfl, hpair, rfl⟩ := hbridge
        exact {
          poolType_eq := rfl
          factory_eq := rfl
          fee_eq := fun _ => rfl
          tokens := tokens_of_arePair hpair
          not_native := not_native_of_arePair (.inr hpair) }
      · exact absurd rfl h

theorem exchanges_behaves : (exchanges bridgeType).Behaves (bridgeProvider bridgeType) where
  getPair_answered _ _ _ _ h := Option.some.inj h
  getPool_answered _ _ _ _ _ h := Option.some.inj h
  token0_answered _ _ h := Option.some.inj h
  token1_answered _ _ h := Option.some.inj h
  deployed := exchanges_deployed bridgeType
  poolFor_comm poolType factory a b fee := by
    cases poolType with
    | v2 =>
        simp only [Exchanges.poolFor, exchanges, pairAt]
        rw [arePair_comm soldToken, arePair_comm bridgeToken]
    | v3 =>
        simp only [Exchanges.poolFor, exchanges, poolAt]
        rw [arePair_comm bridgeToken]
  v2_swap router call path h := by
    cases call with
    | exactInput => cases h
    | _ =>
        cases h
        rfl
  v3_swap router path fees bytes _ _ _ _ h := by
    simp only [encodeUniswapV3Path, Option.ite_none_left_eq_some] at h
    simp only [exchanges, readPath_of_encodeHops h.2.2 le_rfl]

end Exchanges

def bridgedFirst : DiscoveredPool where
  poolAddress := firstPool.debug
  poolType := .v2
  dexName := "pancakeswap"
  token0 := soldToken.debug
  token1 := bridgeToken.debug
  feeTier := 0
  reserve0 := none
  reserve1 := none
  liquidity := none
  balance0 := none
  balance1 := none

def bridge (bridgeType : PoolType) : DiscoveredPool :=
  { bridgedFirst with
    poolAddress := bridgePool.debug
    poolType := bridgeType
    token0 := bridgeToken.debug
    token1 := targetAddress.debug
    feeTier := if bridgeType = .v3 then 500 else 0 }

theorem bridgedFirst_discovered (bridgeType : PoolType) :
    Discovered (bridgeProvider bridgeType) bridgedFirst := by
  refine ⟨v2Factory, soldToken, bridgeToken,
    ⟨"pancakeswap", v2Factory.debug, routerAddress, .v2, []⟩, ?_⟩
  cases bridgeType with
  | v2 => decide +kernel
  | v3 => decide +kernel

theorem bridge_discovered (bridgeType : PoolType) :
    ∀ pool ∈ [bridge bridgeType], Discovered (bridgeProvider bridgeType) pool := by
  intro pool hpool
  rw [List.mem_singleton.mp hpool]
  cases bridgeType with
  | v2 =>
      exact ⟨v2Factory, targetAddress, bridgeToken,
        ⟨"pancakeswap", v2Factory.debug, routerAddress, .v2, []⟩, by decide +kernel⟩
  | v3 =>
      exact ⟨v3Factory, bridgeToken, targetAddress,
        ⟨"pancakeswap", v3Factory.debug, routerAddress, .v3, [500]⟩, by decide +kernel⟩

def bridgedPath : SwapPath :=
  ⟨[firstPool.debug, bridgePool.debug], [soldToken.debug, bridgeToken.debug, targetAddress.debug]⟩

theorem bridgedPath_built (bridgeType : PoolType) :
    buildSwapPath bridgedFirst.poolAddress bridgedFirst.token0 bridgedFirst.token1 soldToken.debug
      targetAddress.debug [bridge bridgeType] = some bridgedPath := by
  cases bridgeType with
  | v2 => decide +kernel
  | v3 => decide +kernel

def bridgedJson : Json :=
  .object [("hops", .array (bridgedPath.hops.map .string)),
    ("hop_tokens", .array (bridgedPath.hopTokens.map .string))]

def bridgedText : String :=
  objectText ("\"hop_tokens\":[\"" ++ soldToken.debug ++ "\",\"" ++ bridgeToken.debug ++
    "\",\"" ++ targetAddress.debug ++ "\"],\"hops\":[\"" ++ firstPool.debug ++ "\",\"" ++
    bridgePool.debug ++ "\"]")

/-- The library, which is asked for this text alone. -/
def bridgedLibrary : Library :=
  { textLibrary bridgedText bridgedJson with jsonFromStr := fun _ => some bridgedJson }

def bridgedEnv : Environment := { environment [] with jsonFromStr := bridgedLibrary.jsonFromStr }

def bridgedRow : PoolInfo :=
  { pool with token1 := bridgeToken.debug, swapPathJson := bridgedText }

def bridgedSession : SessionInfo := { row 1 with pools := [bridgedRow] }

def bridgedEvent : DexSwapEvent := { event "0xa" with tokenIn := bridgeToken.debug }

def bridgedAnswers : SwapAnswers :=
  { answers with
    pool := { answers.pool with token1 := some bridgeToken }
    amountsOut := some [500, 495, 490] }

theorem bridgedRow_routed :
    RoutedRow settings bridgedLibrary "bsc" bridgedFirst bridgedPath bridgedRow where
  poolType := rfl
  dexName := rfl
  feeTier := rfl
  stored := by
    refine ⟨bridgedJson, id, .inl rfl, ⟨rfl, rfl, rfl, ⟨_, rfl, eqIgnoreAsciiCase_refl _⟩, rfl⟩,
      trim_objectText_ne_empty _, bridgedJson, rfl, .object_self (by simp) ?_⟩
    simp only [List.mem_cons, List.not_mem_nil, or_false, forall_eq_or_imp, forall_eq]
    exact ⟨strings_stored _, strings_stored _⟩

theorem exists_bridgedPlan :
    ∃ plan, planSwap bridgedEnv bridgedEvent bridgedSession bridgedAnswers = some plan ∧
      plan.pool = bridgedRow ∧
      plan.calldata.tokenPath = some [soldToken, bridgeToken, targetAddress] := by
  have h : ((planSwap bridgedEnv bridgedEvent bridgedSession bridgedAnswers).any fun plan =>
      plan.calldata.tokenPath = some [soldToken, bridgeToken, targetAddress]) = true := by
    decide +kernel
  obtain ⟨plan, hplan, htokens⟩ := (Option.any_eq_true _ _).mp h
  have hpool := List.mem_of_find?_eq_some (planSwap_planned hplan).pool_found
  exact ⟨plan, hplan, List.mem_singleton.mp hpool, of_decide_eq_true htokens⟩

end Sample

/-- The second pool is of the DEX of the first. -/
theorem swappedPools_iff_sample :
    ∃ plan, planSwap Sample.bridgedEnv Sample.bridgedEvent Sample.bridgedSession
        Sample.bridgedAnswers = some plan ∧
      ((Sample.exchanges .v2).swappedPools plan.routerAddress plan.calldata).map Address.debug =
        [Sample.firstPool.debug, Sample.bridgePool.debug] := by
  obtain ⟨plan, hplan, hpool, -⟩ := Sample.exists_bridgedPlan
  obtain ⟨bridge, hbridge, -, hiff⟩ := swappedPools_iff (Sample.exchanges_behaves .v2) rfl
    (Sample.bridgedFirst_discovered .v2) (Sample.bridge_discovered .v2)
    (Sample.bridgedPath_built .v2) rfl hplan (by rw [hpool]; exact Sample.bridgedRow_routed)
  refine ⟨plan, hplan, hiff.mpr ?_⟩
  rw [List.mem_singleton.mp hbridge]
  exact ⟨rfl, by decide +kernel, by decide +kernel, fun hv3 => by cases hv3⟩

/-- The cheapest pool that leads on to the target is a V3 pool, and the router of the first
pool is a V2 router. -/
theorem swap_misses_bridge :
    ¬ ∀ (x : Exchanges) provider env event session ans plan lib first targetPools sellToken
        targetToken path, x.Behaves provider → env.jsonFromStr = lib.jsonFromStr →
      Discovered provider first → (∀ pool ∈ targetPools, Discovered provider pool) →
      buildSwapPath first.poolAddress first.token0 first.token1 sellToken targetToken targetPools =
        some path → path.hops.length = 2 → planSwap env event session ans = some plan →
      RoutedRow env.settings lib session.chain first path plan.pool →
        (x.swappedPools plan.routerAddress plan.calldata).map Address.debug = path.hops := by
  intro h
  obtain ⟨plan, hplan, hpool, htokens⟩ := Sample.exists_bridgedPlan
  have hhops := h _ _ _ _ _ _ plan _ _ _ _ _ _ (Sample.exchanges_behaves .v3) rfl
    (Sample.bridgedFirst_discovered .v3) (Sample.bridge_discovered .v3)
    (Sample.bridgedPath_built .v3) rfl hplan (by rw [hpool]; exact Sample.bridgedRow_routed)
  rw [(Sample.exchanges_behaves .v3).v2_swap _ _ _ htokens] at hhops
  have hpools : [Sample.firstPool, Address.zero].map Address.debug = Sample.bridgedPath.hops :=
    hhops
  exact absurd hpools (by decide +kernel)

end Liquifier.Engine
