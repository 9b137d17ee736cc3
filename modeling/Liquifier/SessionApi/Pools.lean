import Liquifier.Common.Json
import Liquifier.Common.Types
import Liquifier.Lib.MapM
import Mathlib.Data.List.Destutter
import Mathlib.Data.List.Sort

/-!
The discovery of the pools of a token over the configured factories of a chain.

What the node answers is the argument `provider`, where `none` is an error. A V2
pool is described by what its contract answers; a V3 pool by the two tokens that
its factory was asked for, in the order of the question. USD prices are left out:
they are `f64`s that only the response carries.
-/

namespace Liquifier.SessionApi

/-- The answers of one node to the calls of a discovery. -/
structure Provider where
  getPair : (factory tokenA tokenB : Address) → Option Address
  getPool : (factory tokenA tokenB : Address) → (fee : ℕ) → Option Address
  token0 : Address → Option Address
  token1 : Address → Option Address
  getReserves : Address → Option (ℕ × ℕ)
  liquidity : Address → Option ℕ
  balanceOf : (token account : Address) → Option ℕ

structure DiscoveredPool where
  poolAddress : String
  poolType : PoolType
  dexName : String
  token0 : String
  token1 : String
  feeTier : ℕ
  reserve0 : Option String
  reserve1 : Option String
  liquidity : Option String
  balance0 : Option String
  balance1 : Option String
  deriving DecidableEq

section Discover

variable (provider : Provider) (factoryAddr tokenA tokenB : Address)

/-- An error and a missing pool are both `none`: the caller passes over either. -/
def discoverV2Pool (factory : DexFactoryConfig) : Option DiscoveredPool := do
  let pairAddr ← provider.getPair factoryAddr tokenA tokenB
  if pairAddr = Address.zero then none
  else
    let actualToken0 ← provider.token0 pairAddr
    let actualToken1 ← provider.token1 pairAddr
    let reserves := provider.getReserves pairAddr
    some {
      poolAddress := pairAddr.debug
      poolType := .v2
      dexName := factory.name
      token0 := actualToken0.debug
      token1 := actualToken1.debug
      feeTier := 0
      reserve0 := reserves.map fun res => toString res.1
      reserve1 := reserves.map fun res => toString res.2
      liquidity := none
      balance0 := none
      balance1 := none }

def discoverV3Pool (fee : ℕ) (factory : DexFactoryConfig) : Option DiscoveredPool := do
  guard (fee < 2 ^ 24)
  let poolAddr ← provider.getPool factoryAddr tokenA tokenB fee
  if poolAddr = Address.zero then none
  else
    some {
      poolAddress := poolAddr.debug
      poolType := .v3
      dexName := factory.name
      token0 := tokenA.debug
      token1 := tokenB.debug
      feeTier := fee
      reserve0 := none
      reserve1 := none
      liquidity := (provider.liquidity poolAddr).map toString
      balance0 := (provider.balanceOf tokenA poolAddr).map toString
      balance1 := (provider.balanceOf tokenB poolAddr).map toString }

/-- The pools of the pair `tokenA`, `tokenB` at one factory. -/
def discoverPair (factory : DexFactoryConfig) : List DiscoveredPool :=
  match factory.poolType with
  | .v2 => (discoverV2Pool provider factoryAddr tokenA tokenB factory).toList
  | .v3 => factory.feeTiers.filterMap fun fee =>
      discoverV3Pool provider factoryAddr tokenA tokenB fee factory

end Discover

/-- `sort_by` on the lower-case pool address, which keeps the order of equals. -/
def sortByPoolAddress (pools : List DiscoveredPool) : List DiscoveredPool :=
  pools.insertionSort fun a b =>
    toAsciiLowercase a.poolAddress ≤ toAsciiLowercase b.poolAddress

/-- `dedup_by`: of the neighbours with one address the first stays. -/
def dedupByPoolAddress (pools : List DiscoveredPool) : List DiscoveredPool :=
  pools.destutter fun a b => ¬ eqIgnoreAsciiCase b.poolAddress a.poolAddress = true

/-- Discover all pools containing `tokenAddress` across pre-configured DEX factories
for the chain. A text that is not an address ends the whole discovery. -/
def discoverPools (cfg : Settings) (provider : Provider) (chain tokenAddress : String) :
    Option (List DiscoveredPool) := do
  let token ← Address.parse tokenAddress
  let pools ← (cfg.dexFactoriesForChain chain).mapM fun factory => do
    let factoryAddr ← Address.parse factory.factoryAddress
    let bases := (cfg.baseTokensForChain chain).filter fun base =>
      !eqIgnoreAsciiCase base tokenAddress
    let found ← bases.mapM fun base => do
      let baseAddr ← Address.parse base
      some (discoverPair provider factoryAddr token baseAddr factory)
    some found.flatten
  some (dedupByPoolAddress (sortByPoolAddress pools.flatten))

/-- `build_default_pool_swap_path_json`, before it is printed. -/
def buildDefaultPoolSwapPath (pool : DiscoveredPool) (tokenAddress : String) : Json :=
  let token0Matches := eqIgnoreAsciiCase pool.token0 tokenAddress
  let token1Matches := eqIgnoreAsciiCase pool.token1 tokenAddress
  let (fromToken, toToken) :=
    if token0Matches then (pool.token0, pool.token1)
    else if token1Matches then (pool.token1, pool.token0)
    else (pool.token0, pool.token1)
  let feeTiers := if pool.poolType = .v3 then [pool.feeTier] else []
  .object [("hops", .array [.string pool.poolAddress]),
    ("hop_tokens", .array [.string fromToken, .string toToken]),
    ("fee_tiers", .array (feeTiers.map fun fee => .number (.posInt fee)))]

/-- The pool as the response of the session service has it. -/
def DiscoveredPool.poolInfo (jsonToString : Json → String) (tokenAddress : String)
    (pool : DiscoveredPool) : PoolInfo where
  poolAddress := pool.poolAddress
  poolType := pool.poolType.toText
  dexName := pool.dexName
  token0 := pool.token0
  token1 := pool.token1
  feeTier := pool.feeTier
  reserve0 := pool.reserve0.getD ""
  reserve1 := pool.reserve1.getD ""
  liquidity := pool.liquidity.getD ""
  balance0 := pool.balance0.getD ""
  balance1 := pool.balance1.getD ""
  swapPathJson := jsonToString (buildDefaultPoolSwapPath pool tokenAddress)

/-- `discover_pools` of the session service; the response has no pools where the
discovery fails. -/
def discoverPoolsResponse (cfg : Settings) (jsonToString : Json → String) (provider : Provider)
    (chain tokenAddress : String) : Option (List PoolInfo) :=
  let tokenAddress := cfg.normalizeTokenForChain chain tokenAddress
  (discoverPools cfg provider chain tokenAddress).map fun pools =>
    pools.map (DiscoveredPool.poolInfo jsonToString tokenAddress)

/-! ### Where a discovered pool comes from -/

variable {cfg : Settings} {provider : Provider} {chain tokenAddress : String}
  {pools : List DiscoveredPool} {pool : DiscoveredPool}

/-- A discovered pool was found for the token and one of the base tokens. -/
theorem exists_pair_of_mem (h : discoverPools cfg provider chain tokenAddress = some pools)
    (hpool : pool ∈ pools) :
    ∃ token base factoryAddr factory, Address.parse tokenAddress = some token ∧
      pool ∈ discoverPair provider factoryAddr token base factory := by
  simp only [discoverPools, Option.bind_eq_bind, Option.bind_eq_some_iff, Option.some.injEq] at h
  obtain ⟨token, htoken, found, hfound, rfl⟩ := h
  have hmem : pool ∈ found.flatten :=
    (List.mem_insertionSort _).mp ((List.destutter_sublist _ _).subset hpool)
  obtain ⟨perFactory, hperFactory, hmem⟩ := List.mem_flatten.mp hmem
  obtain ⟨factory, _, hfactory⟩ := MapM.exists_of_mapM hfound hperFactory
  simp only [Option.bind_eq_some_iff, Option.some.injEq] at hfactory
  obtain ⟨factoryAddr, _, perBase, hperBase, rfl⟩ := hfactory
  obtain ⟨ofBase, hofBase, hmem⟩ := List.mem_flatten.mp hmem
  obtain ⟨base, _, hbase⟩ := MapM.exists_of_mapM hperBase hofBase
  simp only [Option.bind_eq_some_iff, Option.some.injEq] at hbase
  obtain ⟨baseAddr, _, rfl⟩ := hbase
  exact ⟨token, baseAddr, factoryAddr, factory, htoken, hmem⟩

/-- How the row of a discovered pool is described: by its contract, or by the
question. -/
inductive Described (provider : Provider) (token : Address) (row : PoolInfo) : Prop where
  | v2 {addr t0 t1 : Address} (htype : row.poolType = PoolType.v2.toText)
      (haddr : row.poolAddress = addr.debug)
      (h0 : provider.token0 addr = some t0) (h1 : provider.token1 addr = some t1)
      (ht0 : row.token0 = t0.debug) (ht1 : row.token1 = t1.debug)
  | v3 {addr base factoryAddr : Address} {fee : ℕ} (htype : row.poolType = PoolType.v3.toText)
      (haddr : row.poolAddress = addr.debug) (hne : addr ≠ Address.zero)
      (hfound : provider.getPool factoryAddr token base fee = some addr)
      (ht0 : row.token0 = token.debug) (ht1 : row.token1 = base.debug)

theorem discoverPair_described {jsonToString : Json → String} {token base factoryAddr : Address}
    {factory : DexFactoryConfig}
    (h : pool ∈ discoverPair provider factoryAddr token base factory) :
    Described provider token (pool.poolInfo jsonToString tokenAddress) := by
  unfold discoverPair at h
  split at h
  · rw [Option.mem_toList] at h
    simp only [discoverV2Pool, Option.bind_eq_bind, Option.bind_eq_some_iff,
      Option.ite_none_left_eq_some, Option.some.injEq] at h
    obtain ⟨addr, _, _, t0, h0, t1, h1, rfl⟩ := h
    exact .v2 rfl rfl h0 h1 rfl rfl
  · obtain ⟨fee, _, h⟩ := List.mem_filterMap.mp h
    simp only [discoverV3Pool, Option.bind_eq_bind, Option.bind_eq_some_iff, Option.guard_eq_some',
      Option.ite_none_left_eq_some, Option.some.injEq] at h
    obtain ⟨_, _, addr, hfound, hne, rfl⟩ := h
    exact .v3 rfl rfl hne hfound rfl rfl

theorem discoverPoolsResponse_described {jsonToString : Json → String} {rows : List PoolInfo}
    {row : PoolInfo}
    (h : discoverPoolsResponse cfg jsonToString provider chain tokenAddress = some rows)
    (hrow : row ∈ rows) :
    ∃ token, Address.parse (cfg.normalizeTokenForChain chain tokenAddress) = some token ∧
      Described provider token row := by
  simp only [discoverPoolsResponse, Option.map_eq_some_iff] at h
  obtain ⟨pools, hpools, rfl⟩ := h
  obtain ⟨pool, hpool, rfl⟩ := List.mem_map.mp hrow
  obtain ⟨token, base, factoryAddr, factory, htoken, hmem⟩ := exists_pair_of_mem hpools hpool
  exact ⟨token, htoken, discoverPair_described hmem⟩

end Liquifier.SessionApi
