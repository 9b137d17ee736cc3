import Liquifier.Engine.Plan
import Liquifier.Indexer.Index
import Liquifier.SessionApi.Pools

/-!
The direction of a swap, as the indexer and the engine see it.

The flag of an event says which side of the pool was the input, in the order of
the pool's contract. The indexer reads the tokens from that contract, and the
engine reads them from the row of `session_pools`, whose order is the one of the
discovery. For a V2 pool the discovery asks the contract; for a V3 pool it keeps
the order of its own question, which is the order of the contract only if the
token it asks about has the lower address.
-/

namespace Liquifier.Engine

open TaskSystem TaskSystem.System Indexer SessionApi

/-- The node answers the discovery with what the contracts hold. A pool that a V3
factory answers is for the two tokens that were asked for, the lower one first. -/
structure Faithful (provider : Provider) (contracts : Contracts) : Prop where
  token0 : ∀ pool t, provider.token0 pool = some t → t = contracts.token0 pool
  token1 : ∀ pool t, provider.token1 pool = some t → t = contracts.token1 pool
  v3_order : ∀ factory tokenA tokenB fee pool,
    provider.getPool factory tokenA tokenB fee = some pool → pool ≠ Address.zero →
    (contracts.token0 pool).toNat < (contracts.token1 pool).toNat
  v3_tokens : ∀ factory tokenA tokenB fee pool,
    provider.getPool factory tokenA tokenB fee = some pool → pool ≠ Address.zero →
    (contracts.token0 pool = tokenA ∧ contracts.token1 pool = tokenB) ∨
      (contracts.token0 pool = tokenB ∧ contracts.token1 pool = tokenA)

/-- The row is one that the discovery has returned for the token, and the event
one that the indexer has published for its pool. -/
structure Observed (cfg : Settings) (jsonToString : Json → String) (provider : Provider)
    (contracts : Contracts) (chain tokenAddress : String) (row : PoolInfo)
    (event : DexSwapEvent) : Prop where
  discovered : ∃ rows, discoverPoolsResponse cfg jsonToString provider chain tokenAddress =
    some rows ∧ row ∈ rows
  published : ∃ c, (indexer chain contracts).Reaches ⟨⟨[], []⟩, []⟩ c ∧ event ∈ c.store.published
  same_pool : eqIgnoreAsciiCase row.poolAddress event.poolAddress = true

/-- The engine takes the token for the output that the indexer has resolved, and
so it triggers exactly where the session's token was bought. -/
structure DirectionAgrees (event : DexSwapEvent) (row : PoolInfo) : Prop where
  token_out : eqIgnoreAsciiCase (resolvedTokenOut event row) event.tokenOut = true
  triggers : ∀ sellToken, eqIgnoreAsciiCase (resolvedTokenOut event row) sellToken = true ↔
    eqIgnoreAsciiCase event.tokenOut sellToken = true

/-- The pool is a V2 pool, or the token that its row was discovered for has the
lower address of the pool's two tokens. -/
def OrderedRow (cfg : Settings) (contracts : Contracts) (chain tokenAddress : String)
    (row : PoolInfo) : Prop :=
  row.poolType = PoolType.v2.toText ∨ ∃ token pool,
    Address.parse (cfg.normalizeTokenForChain chain tokenAddress) = some token ∧
      row.poolAddress = pool.debug ∧ token.toNat < (contracts.token1 pool).toNat

theorem debug_injective {a b : Address} (h : a.debug = b.debug) : a = b := by
  have hparse := congrArg Address.parse h
  simpa using hparse

/-- Both sides print the address of the token. -/
theorem directionAgrees_debug {event : DexSwapEvent} {row : PoolInfo} {a b : Address}
    (hrow : resolvedTokenOut event row = a.debug) (hevent : event.tokenOut = b.debug) :
    DirectionAgrees event row ↔ a = b := by
  constructor
  · intro h
    have hout := h.token_out
    rw [hrow, hevent] at hout
    exact Address.eqIgnoreAsciiCase_debug.mp hout
  · rintro rfl
    refine ⟨?_, fun sellToken => ?_⟩
    · rw [hrow, hevent]
      exact eqIgnoreAsciiCase_refl _
    · rw [hrow, hevent]

section Rows

variable {provider : Provider} {contracts : Contracts} {row : PoolInfo} {event : DexSwapEvent}
  {addr token base : Address}

/-- A row that names the tokens of the contract in their order. -/
theorem directionAgrees_of_contract (h0 : row.token0 = (contracts.token0 addr).debug)
    (h1 : row.token1 = (contracts.token1 addr).debug)
    (hout : event.tokenOut = (contracts.tokenOut addr event.token0IsInput).debug) :
    DirectionAgrees event row := by
  refine (directionAgrees_debug ?_ hout).mpr rfl
  rw [resolvedTokenOut, h0, h1, Contracts.tokenOut]
  split <;> rfl

/-- A row that names them in the order in which the factory was asked. -/
theorem directionAgrees_of_question (h0 : row.token0 = token.debug) (h1 : row.token1 = base.debug)
    (hlt : (contracts.token0 addr).toNat < (contracts.token1 addr).toNat)
    (htokens : (contracts.token0 addr = token ∧ contracts.token1 addr = base) ∨
      (contracts.token0 addr = base ∧ contracts.token1 addr = token))
    (hout : event.tokenOut = (contracts.tokenOut addr event.token0IsInput).debug) :
    DirectionAgrees event row ↔ token.toNat < (contracts.token1 addr).toNat := by
  rcases htokens with ⟨rfl, rfl⟩ | ⟨rfl, rfl⟩
  · exact iff_of_true (directionAgrees_of_contract h0 h1 hout) hlt
  · refine iff_of_false (fun h => ?_) (Nat.lt_irrefl _)
    have hrow : resolvedTokenOut event row = (if event.token0IsInput then contracts.token0 addr
        else contracts.token1 addr).debug := by
      rw [resolvedTokenOut, h0, h1]
      split <;> rfl
    have heq := (directionAgrees_debug hrow hout).mp h
    have hne : contracts.token0 addr ≠ contracts.token1 addr := fun h => by
      rw [h] at hlt
      exact Nat.lt_irrefl _ hlt
    cases hin : event.token0IsInput with
    | true => exact hne (by simpa [hin, Contracts.tokenOut] using heq)
    | false => exact hne (by simpa [hin, Contracts.tokenOut] using heq.symm)

end Rows

/-- For a faithful node, the two services agree on the direction of every event
of a discovered pool exactly where its row is in the order of its contract. -/
theorem directionAgrees_iff {cfg : Settings} {jsonToString : Json → String} {provider : Provider}
    {contracts : Contracts} {chain tokenAddress : String} {row : PoolInfo} {event : DexSwapEvent}
    (hnode : Faithful provider contracts)
    (h : Observed cfg jsonToString provider contracts chain tokenAddress row event) :
    DirectionAgrees event row ↔ OrderedRow cfg contracts chain tokenAddress row := by
  obtain ⟨rows, hrows, hrow⟩ := h.discovered
  obtain ⟨token, htoken, hdescribed⟩ := discoverPoolsResponse_described hrows hrow
  obtain ⟨c, hrun, hevent⟩ := h.published
  obtain ⟨pool, hpool, hout⟩ := (indexer_resolved hrun event hevent).out
  have hsame := h.same_pool
  rw [hpool] at hsame
  cases hdescribed with
  | @v2 addr t0 t1 htype haddr h0 h1 ht0 ht1 =>
      rw [haddr, Address.eqIgnoreAsciiCase_debug] at hsame
      subst hsame
      rw [hnode.token0 _ _ h0] at ht0
      rw [hnode.token1 _ _ h1] at ht1
      exact iff_of_true (directionAgrees_of_contract ht0 ht1 hout) (.inl htype)
  | @v3 addr base factoryAddr fee htype haddr hne hfound ht0 ht1 =>
      rw [haddr, Address.eqIgnoreAsciiCase_debug] at hsame
      subst hsame
      rw [directionAgrees_of_question ht0 ht1 (hnode.v3_order _ _ _ _ _ hfound hne)
        (hnode.v3_tokens _ _ _ _ _ hfound hne) hout]
      constructor
      · intro hlt
        exact .inr ⟨token, addr, htoken, haddr, hlt⟩
      · rintro (hv2 | ⟨token', addr', htoken', haddr', hlt⟩)
        · rw [htype] at hv2
          simp [PoolType.toText] at hv2
        · have hsame := debug_injective (haddr.symm.trans haddr')
          have htokens := htoken.symm.trans htoken'
          rw [Option.some.injEq] at htokens
          rw [hsame, htokens]
          exact hlt

/-! ### A sample

One V3 pool of the tokens `0x11…` and `0x22…`, and a swap that takes the first of
them in. -/

namespace Sample

def lower : Address := ⟨List.replicate 20 0x11, by decide⟩
def higher : Address := ⟨List.replicate 20 0x22, by decide⟩
def v3Pool : Address := ⟨List.replicate 20 0x33, by decide⟩

/-- The base token of the chain is `base`. -/
def v3Settings (base : Address) : Settings :=
  { settings with chains := [("bsc", {
      enabled := true
      chainId := 56
      rpcUrl := "http://localhost:8545"
      baseTokens := [⟨base.debug, "USDT"⟩]
      dexFactories := [⟨"pancakeswap", routerAddress, routerAddress, .v3, [500]⟩] })] }

def contracts : Contracts := ⟨fun _ => lower, fun _ => higher⟩

def isPair (a b : Address) : Bool := a = lower && b = higher || a = higher && b = lower

def provider : Provider where
  getPair := fun _ _ _ => none
  getPool := fun _ a b _ => if isPair a b then some v3Pool else none
  token0 := fun _ => none
  token1 := fun _ => none
  getReserves := fun _ => none
  liquidity := fun _ => none
  balanceOf := fun _ _ => none

theorem provider_faithful : Faithful provider contracts where
  token0 _ _ h := by cases h
  token1 _ _ h := by cases h
  v3_order _ _ _ _ _ _ _ := (by decide : lower.toNat < higher.toNat)
  v3_tokens _ a b _ _ h _ := by
    obtain ⟨hpair, _⟩ := Option.ite_none_right_eq_some.mp h
    simp only [isPair, Bool.or_eq_true, Bool.and_eq_true, decide_eq_true_eq] at hpair
    rcases hpair with ⟨rfl, rfl⟩ | ⟨rfl, rfl⟩
    · exact .inl ⟨rfl, rfl⟩
    · exact .inr ⟨rfl, rfl⟩

/-- 500 units of token 0 come in, and 300 of token 1 go out. -/
def swapLog : Log where
  address := v3Pool
  topics := [uniswapV3SwapSig, ⟨List.replicate 32 1, by decide⟩, ⟨List.replicate 32 2, by decide⟩]
  data := List.replicate 30 0 ++ [1, 0xf4] ++ List.replicate 30 0xff ++ [0xfe, 0xd4] ++
    List.replicate 96 1
  blockNumber := some 300
  transactionHash := none
  logIndex := some 5

def swapRun : List (Move LogTask LogAct) :=
  [.spawn ⟨swapLog, 1, .new⟩, .act 0 (.read true),
    .act 0 (.answer (some lower) (some higher) true)]

/-- The pool of the sample and its swap are observed from the token `token`. -/
theorem exists_observed (token base : Address) (p : PoolInfo → DexSwapEvent → Bool)
    (h : (((indexer "bsc" contracts).run ⟨⟨[], []⟩, []⟩ swapRun).any fun c =>
      c.store.published.any fun event =>
        (discoverPoolsResponse (v3Settings base) (fun _ => "") provider "bsc" token.debug).any
          fun rows => rows.any fun row =>
            eqIgnoreAsciiCase row.poolAddress event.poolAddress && p row event) = true) :
    ∃ row event, Observed (v3Settings base) (fun _ => "") provider contracts "bsc" token.debug
      row event ∧ p row event = true := by
  simp only [Option.any_eq_true, List.any_eq_true, Bool.and_eq_true] at h
  obtain ⟨c, hc, event, hevent, rows, hrows, row, hrow, hsame, hp⟩ := h
  exact ⟨row, event, ⟨⟨rows, hrows, hrow⟩, ⟨c, reaches_of_run hc, hevent⟩, hsame⟩, hp⟩

end Sample

/-- The pool is discovered for its lower token. -/
theorem directionAgrees_iff_sample :
    ∃ row event, row.poolType = "v3" ∧ DirectionAgrees event row := by
  obtain ⟨row, event, hobserved, hp⟩ := Sample.exists_observed Sample.lower Sample.higher
    (fun row _ => row.poolType = "v3" && row.poolAddress = Sample.v3Pool.debug)
    (by decide +kernel)
  rw [Bool.and_eq_true, decide_eq_true_eq, decide_eq_true_eq] at hp
  refine ⟨row, event, hp.1, (directionAgrees_iff Sample.provider_faithful hobserved).mpr ?_⟩
  exact .inr ⟨Sample.lower, Sample.v3Pool, by decide +kernel, hp.2, by decide⟩

/-- The pool is discovered for its higher token, and the engine takes the token
that came in for the one that went out. -/
theorem direction_inverted :
    ¬ ∀ cfg jsonToString provider contracts chain tokenAddress row event,
      Faithful provider contracts →
      Observed cfg jsonToString provider contracts chain tokenAddress row event →
      DirectionAgrees event row := by
  intro h
  obtain ⟨row, event, hobserved, hp⟩ := Sample.exists_observed Sample.higher Sample.lower
    (fun row event => !eqIgnoreAsciiCase (resolvedTokenOut event row) event.tokenOut)
    (by decide +kernel)
  have hagrees := h _ _ _ _ _ _ row event Sample.provider_faithful hobserved
  rw [hagrees.token_out] at hp
  cases hp

end Liquifier.Engine
