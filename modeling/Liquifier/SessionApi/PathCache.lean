import Mathlib.Tactic.NormNum
import Liquifier.SessionApi.SwapPaths

/-!
The cache of `compute_pool_path`.

An entry is stored under the chain, the pool and the two tokens of the session, all in
lower case. What the path is computed from is more: the tokens and the fee tier of the
pool come with the request, and the texts appear in the path as they are spelled. So an
entry is as good for a later request as the one that filled it, no better.
-/

namespace Liquifier.SessionApi

/-! ### The service -/

structure ComputePoolPathRequest where
  chain : String
  poolAddress : String
  token0 : String
  token1 : String
  feeTier : ℕ
  sellToken : String
  targetToken : String
  deriving DecidableEq

/-- Chain, pool, sell token and target token, in lower case. -/
abbrev PoolPathCacheKey := String × String × String × String

structure CachedPath where
  path : Option ScoredPath
  insertedAt : ℕ

def poolPathCacheTtlSecs : ℕ := 300

abbrev PoolPathCache := PoolPathCacheKey → Option CachedPath

section Service

variable (texts : Texts) (cfg : Settings) (provider : Provider)

/-- The request with the tokens that the chain uses. -/
def ComputePoolPathRequest.normalize (req : ComputePoolPathRequest) : ComputePoolPathRequest :=
  { req with
    sellToken := cfg.normalizeTokenForChain req.chain req.sellToken
    targetToken := cfg.normalizeTokenForChain req.chain req.targetToken
    token0 := cfg.normalizeTokenForChain req.chain req.token0
    token1 := cfg.normalizeTokenForChain req.chain req.token1 }

@[simp] theorem normalize_chain (req : ComputePoolPathRequest) :
    (req.normalize cfg).chain = req.chain := by
  rw [ComputePoolPathRequest.normalize]

@[simp] theorem normalize_poolAddress (req : ComputePoolPathRequest) :
    (req.normalize cfg).poolAddress = req.poolAddress := by
  rw [ComputePoolPathRequest.normalize]

namespace ComputePoolPathRequest

variable (req : ComputePoolPathRequest)

def cacheKey : PoolPathCacheKey :=
  (texts.toLowercase req.chain, texts.toLowercase req.poolAddress,
    texts.toLowercase req.sellToken, texts.toLowercase req.targetToken)

def otherToken : Option String := otherTokenInPool req.sellToken req.token0 req.token1

/-- The path of a computed one, of the first rank. -/
def ranked (path : ScoredPath) : ScoredPath := { path with rank := 1 }

def path (secondPools : List DiscoveredPool) : Option ScoredPath :=
  (texts.buildSwapPath req.poolAddress req.token0 req.token1 req.feeTier req.sellToken
    req.targetToken secondPools none).map ranked

/-- The computation without the cache, for a normalised request. -/
def compute : Option (Option ScoredPath) :=
  (discoverPools cfg provider req.chain req.targetToken).map (req.path texts)

end ComputePoolPathRequest

def sellTokenNotFound : Status := invalidArgument "Sell token not found in pool's token pair"
def poolDiscoveryFailed : Status := .internal "Pool discovery failed"

/-- The entry that answers the request at the time `now`. -/
def PoolPathCache.hit (cache : PoolPathCache) (key : PoolPathCacheKey) (now : ℕ) :
    Option CachedPath :=
  (cache key).filter fun entry => now - entry.insertedAt < poolPathCacheTtlSecs

def PoolPathCache.insert (cache : PoolPathCache) (key : PoolPathCacheKey) (entry : CachedPath) :
    PoolPathCache :=
  fun k => if k = key then some entry else cache k

/-- `compute_pool_path` with its cache: the response, and the cache after it. -/
def servePoolPath (cache : PoolPathCache) (req : ComputePoolPathRequest) (now : ℕ) :
    Except Status (Option ScoredPath) × PoolPathCache :=
  let req := req.normalize cfg
  if req.otherToken.isNone then (.error sellTokenNotFound, cache)
  else
    match cache.hit (req.cacheKey texts) now with
    | some entry => (.ok entry.path, cache)
    | none =>
        match req.compute texts cfg provider with
        | some path => (.ok path, cache.insert (req.cacheKey texts) ⟨path, now⟩)
        | none => (.error poolDiscoveryFailed, cache)

/-- The cache after the requests, each of which comes at its time. -/
def cacheAfter (calls : List (ComputePoolPathRequest × ℕ)) : PoolPathCache :=
  calls.foldl (fun cache call => (servePoolPath texts cfg provider cache call.1 call.2).2)
    fun _ => none

variable {texts} in
/-- The uncached path without its estimates. -/
theorem path_toSwapPath (hlower : ∀ s, texts.toLowercase s = toAsciiLowercase s)
    (req : ComputePoolPathRequest) (secondPools : List DiscoveredPool) :
    (req.path texts secondPools).map (·.toSwapPath) =
      buildSwapPath req.poolAddress req.token0 req.token1 req.sellToken req.targetToken
        secondPools := by
  rw [ComputePoolPathRequest.path, Option.map_map, ← texts.buildSwapPath_toSwapPath
    req.poolAddress req.token0 req.token1 req.feeTier req.sellToken req.targetToken secondPools
    none hlower]
  rfl

variable {texts} in
/-- Without the estimates this is `computePoolPath`, given the entry of the cache, where
`to_lowercase` changes ASCII letters only. -/
theorem servePoolPath_path (hlower : ∀ s, texts.toLowercase s = toAsciiLowercase s)
    (cache : PoolPathCache) (req : ComputePoolPathRequest) (now : ℕ) :
    (servePoolPath texts cfg provider cache req now).1.map (Option.map (·.toSwapPath)) =
      computePoolPath cfg provider req.chain req.poolAddress req.token0 req.token1 req.sellToken
        req.targetToken ((cache.hit ((req.normalize cfg).cacheKey texts) now).map
          fun entry => entry.path.map (·.toSwapPath)) := by
  unfold servePoolPath computePoolPath
  dsimp only
  generalize cache.hit ((req.normalize cfg).cacheKey texts) now = entry
  have hpath := path_toSwapPath hlower (req.normalize cfg)
  generalize (req.normalize cfg).cacheKey texts = key
  unfold ComputePoolPathRequest.compute ComputePoolPathRequest.otherToken
  generalize (req.normalize cfg).path texts = path at hpath ⊢
  unfold ComputePoolPathRequest.normalize at hpath ⊢
  dsimp only at hpath ⊢
  cases otherTokenInPool (cfg.normalizeTokenForChain req.chain req.sellToken)
      (cfg.normalizeTokenForChain req.chain req.token0)
      (cfg.normalizeTokenForChain req.chain req.token1) with
  | none => rfl
  | some otherToken =>
      cases entry with
      | some entry => rfl
      | none =>
          cases discoverPools cfg provider req.chain
              (cfg.normalizeTokenForChain req.chain req.targetToken) with
          | none => rfl
          | some secondPools => exact congrArg Except.ok (hpath secondPools)

end Service

/-! ### Where an entry comes from -/

section Entries

variable {texts : Texts} {cfg : Settings} {provider : Provider}

/-- The request, once normalised, has filled the entry. -/
structure Fills (texts : Texts) (cfg : Settings) (provider : Provider)
    (req : ComputePoolPathRequest) (key : PoolPathCacheKey) (path : Option ScoredPath) :
    Prop where
  key_eq : (req.normalize cfg).cacheKey texts = key
  accepted : (req.normalize cfg).otherToken.isSome = true
  computed : (req.normalize cfg).compute texts cfg provider = some path

/-- A request that the cache answers. -/
theorem servePoolPath_of_hit (provider : Provider) {cache : PoolPathCache}
    {req : ComputePoolPathRequest} {now : ℕ} {entry : CachedPath}
    (haccepted : (req.normalize cfg).otherToken.isSome = true)
    (hhit : cache.hit ((req.normalize cfg).cacheKey texts) now = some entry) :
    (servePoolPath texts cfg provider cache req now).1 = .ok entry.path := by
  unfold servePoolPath
  dsimp only
  rw [if_neg (by simpa using Option.isSome_iff_ne_none.mp haccepted), hhit]

/-- What is computed comes from the pools that are discovered. -/
theorem compute_eq_some_iff {req : ComputePoolPathRequest} {path : Option ScoredPath} :
    req.compute texts cfg provider = some path ↔
      ∃ pools, discoverPools cfg provider req.chain req.targetToken = some pools ∧
        req.path texts pools = path :=
  Option.map_eq_some_iff

/-- A request leaves an entry as it is, or fills it. -/
theorem servePoolPath_entry {cache : PoolPathCache} {req : ComputePoolPathRequest} {now : ℕ}
    {key : PoolPathCacheKey} {entry : CachedPath}
    (h : (servePoolPath texts cfg provider cache req now).2 key = some entry) :
    cache key = some entry ∨ Fills texts cfg provider req key entry.path := by
  simp only [servePoolPath] at h
  split at h
  · exact .inl h
  · rename_i haccepted
    split at h
    · exact .inl h
    · split at h
      · rename_i path hcomputed
        simp only [PoolPathCache.insert] at h
        split at h
        · rename_i hkey
          cases h
          have haccepted := Option.isSome_iff_ne_none.mpr (by simpa using haccepted)
          exact .inr ⟨hkey.symm, haccepted, hcomputed⟩
        · exact .inl h
      · exact .inl h

/-- Every entry was filled by a request. -/
theorem exists_fills {calls : List (ComputePoolPathRequest × ℕ)} {key : PoolPathCacheKey}
    {entry : CachedPath} (h : cacheAfter texts cfg provider calls key = some entry) :
    ∃ call ∈ calls, Fills texts cfg provider call.1 key entry.path := by
  induction calls using List.reverseRecOn with
  | nil => cases h
  | append_singleton calls call ih =>
      rw [cacheAfter, List.foldl_append] at h
      rcases servePoolPath_entry h with hold | hfills
      · obtain ⟨filler, hmem, hfills⟩ := ih hold
        exact ⟨filler, List.mem_append_left _ hmem, hfills⟩
      · exact ⟨call, by simp, hfills⟩

end Entries

/-! ### When two requests have one path -/

/-- The fee tier that a path is charged: a tier of zero stands for 3000. -/
def chargedFeeTier (feeTier : ℕ) : ℕ := if feeTier = 0 then 3000 else feeTier

theorem feePercentFromTier_eq_iff {feeTier₀ feeTier : ℕ} :
    feePercentFromTier feeTier₀ = feePercentFromTier feeTier ↔
      chargedFeeTier feeTier₀ = chargedFeeTier feeTier := by
  have hcharged (n : ℕ) : feePercentFromTier n = (chargedFeeTier n : ℚ) / 10000 := by
    rw [feePercentFromTier, chargedFeeTier]
    rcases Nat.eq_zero_or_pos n with rfl | hpos
    · norm_num
    · rw [if_pos hpos, if_neg hpos.ne']
  rw [hcharged, hcharged, div_left_inj' (by norm_num), Nat.cast_inj]

namespace ComputePoolPathRequest

variable (texts : Texts) (cfg : Settings) (provider : Provider) (req : ComputePoolPathRequest)

/-- The pool of the request holds the token. -/
def holds (token : String) : Prop := Holds req.token0 req.token1 token

/-- The token that the request names beside the sell token. -/
def beside : String := SessionApi.otherToken req.sellToken req.token0 req.token1

/-- A pool leads from the other token of the request on to the target. -/
def leadsOn (pool : DiscoveredPool) : Bool := texts.joins req.beside req.targetToken pool

/-- The pool does not hold the target, and no pool leads on to it. -/
def Pathless : Prop :=
  ¬ req.holds req.targetToken ∧
    ∀ pools ∈ discoverPools cfg provider req.chain req.targetToken, ∀ pool ∈ pools,
      req.leadsOn texts pool = false

end ComputePoolPathRequest

/-- What two requests that have one path spell alike, up to the tier of zero. -/
structure SpelledAlike (req₀ req : ComputePoolPathRequest) : Prop where
  poolAddress : req₀.poolAddress = req.poolAddress
  sellToken : req₀.sellToken = req.sellToken
  targetToken : req₀.targetToken = req.targetToken
  feeTier : chargedFeeTier req₀.feeTier = chargedFeeTier req.feeTier

/-- Two normalised requests that the same answer is right for: the pairs of tokens that they
give both have the target, or both lack it and have the same other token, or neither has
a path. -/
inductive SameAnswer (texts : Texts) (cfg : Settings) (provider : Provider)
    (req₀ req : ComputePoolPathRequest) : Prop where
  | direct (h₀ : req₀.holds req₀.targetToken) (h : req.holds req.targetToken)
      (alike : SpelledAlike req₀ req)
  | bridged (h₀ : ¬ req₀.holds req₀.targetToken) (h : ¬ req.holds req.targetToken)
      (alike : SpelledAlike req₀ req) (chain : req₀.chain = req.chain)
      (beside : req₀.beside = req.beside)
  | pathless (h₀ : req₀.Pathless texts cfg provider) (h : req.Pathless texts cfg provider)

section Same

variable {texts : Texts} {cfg : Settings} {provider : Provider} {req req₀ : ComputePoolPathRequest}
  {pools pools₀ : List DiscoveredPool}

theorem holds_of_accepted (h : req.otherToken.isSome = true) : req.holds req.sellToken := by
  by_contra hsell
  rw [ComputePoolPathRequest.otherToken, otherTokenInPool_of_not_holds hsell] at h
  cases h

theorem path_of_holds (h : req.otherToken.isSome = true) (htarget : req.holds req.targetToken) :
    req.path texts pools = some (ComputePoolPathRequest.ranked (texts.directPath req.poolAddress
      req.feeTier req.sellToken req.targetToken none)) := by
  rw [ComputePoolPathRequest.path, buildSwapPath_direct texts (holds_of_accepted h) htarget,
    Option.map_some]

theorem path_of_not_holds (h : req.otherToken.isSome = true)
    (htarget : ¬ req.holds req.targetToken) :
    req.path texts pools = (minByFee (pools.filter (req.leadsOn texts))).map fun bridgePool =>
      ComputePoolPathRequest.ranked (texts.bridgedPath req.poolAddress req.feeTier req.sellToken
        req.targetToken none req.beside bridgePool) := by
  rw [ComputePoolPathRequest.path, buildSwapPath_bridged texts (holds_of_accepted h) htarget,
    Option.map_map]
  rfl

/-- A request has no path if it is pathless over the pools that are discovered for it. -/
theorem path_eq_none_iff (h : req.otherToken.isSome = true)
    (hpools : discoverPools cfg provider req.chain req.targetToken = some pools) :
    req.path texts pools = none ↔ req.Pathless texts cfg provider := by
  by_cases htarget : req.holds req.targetToken
  · rw [path_of_holds h htarget]
    exact iff_of_false (Option.some_ne_none _) fun hpathless => hpathless.1 htarget
  · rw [path_of_not_holds h htarget, Option.map_eq_none_iff, minByFee_eq_none,
      List.filter_eq_nil_iff]
    simp only [ComputePoolPathRequest.Pathless, hpools, Option.mem_some_iff, forall_eq',
      Bool.not_eq_true]
    exact ⟨fun hnone => ⟨htarget, hnone⟩, fun hpathless => hpathless.2⟩

theorem directPath_eq_iff :
    ComputePoolPathRequest.ranked (texts.directPath req₀.poolAddress req₀.feeTier req₀.sellToken
        req₀.targetToken none) =
      ComputePoolPathRequest.ranked (texts.directPath req.poolAddress req.feeTier req.sellToken
        req.targetToken none) ↔ SpelledAlike req₀ req := by
  constructor
  · intro h
    simp only [ComputePoolPathRequest.ranked, Texts.directPath, ScoredPath.mk.injEq,
      SwapPath.mk.injEq, List.cons.injEq] at h
    obtain ⟨⟨⟨hpool, -⟩, hsell, htarget, -⟩, -, -, -, hfee⟩ := h
    exact ⟨hpool, hsell, htarget, feePercentFromTier_eq_iff.mp hfee⟩
  · intro h
    rw [Texts.directPath, Texts.directPath, h.poolAddress, h.sellToken, h.targetToken,
      feePercentFromTier_eq_iff.mpr h.feeTier]

/-- Over one bridge pool, what has to agree is the spelling, the fee and the other token. -/
theorem bridgedPath_eq_iff {bridgePool : DiscoveredPool} :
    ComputePoolPathRequest.ranked (texts.bridgedPath req₀.poolAddress req₀.feeTier req₀.sellToken
        req₀.targetToken none req₀.beside bridgePool) =
      ComputePoolPathRequest.ranked (texts.bridgedPath req.poolAddress req.feeTier req.sellToken
        req.targetToken none req.beside bridgePool) ↔
    SpelledAlike req₀ req ∧ req₀.beside = req.beside := by
  constructor
  · intro h
    simp only [ComputePoolPathRequest.ranked, Texts.bridgedPath, ScoredPath.mk.injEq,
      SwapPath.mk.injEq, List.cons.injEq] at h
    obtain ⟨⟨⟨hpool, -⟩, hsell, hbeside, htarget, -⟩, -, -, -, hfee⟩ := h
    exact ⟨⟨hpool, hsell, htarget, feePercentFromTier_eq_iff.mp (add_right_cancel hfee)⟩, hbeside⟩
  · rintro ⟨h, hbeside⟩
    rw [Texts.bridgedPath, Texts.bridgedPath, h.poolAddress, h.sellToken, h.targetToken, hbeside,
      feePercentFromTier_eq_iff.mpr h.feeTier]

/-- Requests with the same chain, target and other token are led on by the same pools. -/
theorem leadsOn_congr (htarget : req₀.targetToken = req.targetToken)
    (hbeside : req₀.beside = req.beside) : req₀.leadsOn texts = req.leadsOn texts := by
  funext pool
  rw [ComputePoolPathRequest.leadsOn, ComputePoolPathRequest.leadsOn, htarget, hbeside]

variable (h₀ : req₀.otherToken.isSome = true) (h : req.otherToken.isSome = true)
  (hpools₀ : discoverPools cfg provider req₀.chain req₀.targetToken = some pools₀)
  (hpools : discoverPools cfg provider req.chain req.targetToken = some pools)
include h₀ h hpools₀ hpools

theorem path_eq_of_sameAnswer (hsame : SameAnswer texts cfg provider req₀ req) :
    req.path texts pools = req₀.path texts pools₀ := by
  cases hsame with
  | direct htarget₀ htarget alike =>
      rw [path_of_holds h₀ htarget₀, path_of_holds h htarget, directPath_eq_iff.mpr alike]
  | bridged htarget₀ htarget alike chain beside =>
      have heq : pools₀ = pools := by
        rw [chain, alike.targetToken, hpools] at hpools₀
        exact (Option.some.inj hpools₀).symm
      rw [path_of_not_holds h₀ htarget₀, path_of_not_holds h htarget, heq,
        leadsOn_congr alike.targetToken beside]
      exact (Option.map_congr fun bridgePool _ => bridgedPath_eq_iff.mpr ⟨alike, beside⟩).symm
  | pathless hnone₀ hnone =>
      rw [(path_eq_none_iff h₀ hpools₀).mpr hnone₀, (path_eq_none_iff h hpools).mpr hnone]

theorem sameAnswer_of_path_eq (hchain : req₀.chain = req.chain)
    (heq : req.path texts pools = req₀.path texts pools₀) :
    SameAnswer texts cfg provider req₀ req := by
  by_cases hnone : req.path texts pools = none
  · exact .pathless ((path_eq_none_iff h₀ hpools₀).mp (heq ▸ hnone))
      ((path_eq_none_iff h hpools).mp hnone)
  · by_cases htarget₀ : req₀.holds req₀.targetToken
    · by_cases htarget : req.holds req.targetToken
      · rw [path_of_holds h₀ htarget₀, path_of_holds h htarget] at heq
        exact .direct htarget₀ htarget (directPath_eq_iff.mp (Option.some.inj heq.symm))
      · rw [path_of_holds h₀ htarget₀, path_of_not_holds h htarget] at heq
        obtain ⟨bridgePool, -, heq⟩ := Option.map_eq_some_iff.mp heq
        cases congrArg (fun path : ScoredPath => path.hops.length) heq
    · by_cases htarget : req.holds req.targetToken
      · rw [path_of_not_holds h₀ htarget₀, path_of_holds h htarget] at heq
        obtain ⟨bridgePool, -, heq⟩ := Option.map_eq_some_iff.mp heq.symm
        cases congrArg (fun path : ScoredPath => path.hops.length) heq
      · rw [path_of_not_holds h htarget] at heq hnone
        obtain ⟨bridgePool, hbridge⟩ := Option.ne_none_iff_exists'.mp
          (mt Option.map_eq_none_iff.mpr hnone)
        rw [path_of_not_holds h₀ htarget₀, hbridge, Option.map_some] at heq
        obtain ⟨bridgePool₀, hbridge₀, heq⟩ := Option.map_eq_some_iff.mp heq.symm
        -- both paths spell the target and the other token, so one pool is the cheapest
        have hbeside : req₀.beside = req.beside := by
          simp only [ComputePoolPathRequest.ranked, Texts.bridgedPath, ScoredPath.mk.injEq,
            SwapPath.mk.injEq, List.cons.injEq] at heq
          exact heq.1.2.2.1
        have htargets : req₀.targetToken = req.targetToken := by
          simp only [ComputePoolPathRequest.ranked, Texts.bridgedPath, ScoredPath.mk.injEq,
            SwapPath.mk.injEq, List.cons.injEq] at heq
          exact heq.1.2.2.2.1
        rw [hchain, htargets, hpools, Option.some.injEq] at hpools₀
        rw [leadsOn_congr htargets hbeside, ← hpools₀, hbridge, Option.some.injEq] at hbridge₀
        rw [← hbridge₀] at heq
        exact .bridged htarget₀ htarget (bridgedPath_eq_iff.mp heq).1 hchain hbeside

end Same

/-- A request that the cache answers gets the path that was computed for an earlier one
with the same key. Where pools are discovered for this one, it is the path of its own
tokens and fee tier if the same answer is right for the two requests; and where they
spell the chain alike, only then. -/
theorem cachedPath_iff {texts : Texts} {cfg : Settings} {provider : Provider}
    {calls : List (ComputePoolPathRequest × ℕ)} {req : ComputePoolPathRequest} {now : ℕ}
    {entry : CachedPath} (haccepted : (req.normalize cfg).otherToken.isSome = true)
    (hhit : (cacheAfter texts cfg provider calls).hit ((req.normalize cfg).cacheKey texts) now =
      some entry) :
    (servePoolPath texts cfg provider (cacheAfter texts cfg provider calls) req now).1 =
      .ok entry.path ∧
    ∃ call ∈ calls, Fills texts cfg provider call.1 ((req.normalize cfg).cacheKey texts)
        entry.path ∧
      ((discoverPools cfg provider req.chain (req.normalize cfg).targetToken).isSome = true →
        SameAnswer texts cfg provider (call.1.normalize cfg) (req.normalize cfg) →
          (req.normalize cfg).compute texts cfg provider = some entry.path) ∧
      ((req.normalize cfg).compute texts cfg provider = some entry.path →
        call.1.chain = req.chain →
        SameAnswer texts cfg provider (call.1.normalize cfg) (req.normalize cfg)) := by
  constructor
  · exact servePoolPath_of_hit provider haccepted hhit
  · obtain ⟨call, hcall, hfills⟩ := exists_fills (Option.filter_eq_some_iff.mp hhit).1
    obtain ⟨pools₀, hpools₀, hpath₀⟩ := compute_eq_some_iff.mp hfills.computed
    have haccepted₀ := hfills.accepted
    refine ⟨call, hcall, hfills, ?_⟩
    rw [← normalize_chain cfg req, ← normalize_chain cfg call.1]
    generalize req.normalize cfg = req at haccepted ⊢
    generalize call.1.normalize cfg = req₀ at haccepted₀ hpools₀ hpath₀ ⊢
    constructor
    · intro hdiscovered hsame
      obtain ⟨pools, hpools⟩ := Option.isSome_iff_exists.mp hdiscovered
      have hpath := path_eq_of_sameAnswer haccepted₀ haccepted hpools₀ hpools hsame
      exact compute_eq_some_iff.mpr ⟨pools, hpools, hpath.trans hpath₀⟩
    · intro hcomputed hchain
      obtain ⟨pools, hpools, hpath⟩ := compute_eq_some_iff.mp hcomputed
      exact sameAnswer_of_path_eq haccepted₀ haccepted hpools₀ hpools hchain
        (hpath.trans hpath₀.symm)

namespace Sample

def sellToken : String := "0x1111111111111111111111111111111111111111"
def targetToken : String := "0x2222222222222222222222222222222222222222"
def otherToken : String := "0x3333333333333333333333333333333333333333"
def poolAddress : String := "0x4444444444444444444444444444444444444444"

/-- A chain on which no pools are discovered. -/
def settings : Settings where
  chains := [("bsc", {
    enabled := true
    chainId := 56
    rpcUrl := "http://localhost:8545"
    baseTokens := []
    dexFactories := [] })]
  execution := {
    maxPriceImpactBps := 300
    sellToken := sellToken
    sellTokenSymbol := "SELL"
    sellTokenDecimals := 18
    targetToken := targetToken
    targetTokenSymbol := "USDT"
    targetTokenDecimals := 18
    sessionChain := "bsc"
    povPercent := 50
    sessionMaxPriceImpact := 1
    buyTriggerOracleAddress := poolAddress }

def provider : Provider where
  getPair _ _ _ := none
  getPool _ _ _ _ := none
  token0 _ := none
  token1 _ := none
  getReserves _ := none
  liquidity _ := none
  balanceOf _ _ := none

/-- A request for the pool, which says that `token1` is the other token in it. -/
def request (token1 : String) : ComputePoolPathRequest where
  chain := "bsc"
  poolAddress := poolAddress
  token0 := sellToken
  token1 := token1
  feeTier := 500
  sellToken := sellToken
  targetToken := targetToken

/-- The path through the pool alone. -/
def directPath : ScoredPath :=
  ComputePoolPathRequest.ranked
    (asciiTexts.directPath poolAddress 500 sellToken targetToken none)

/-- The key does not show which token it is. -/
theorem cacheKey_request (token1 token1' : String) :
    ((request token1).normalize settings).cacheKey asciiTexts =
      ((request token1').normalize settings).cacheKey asciiTexts := by
  unfold ComputePoolPathRequest.normalize request ComputePoolPathRequest.cacheKey
  rfl

theorem accepted (token1 : String) :
    ((request token1).normalize settings).otherToken.isSome = true := by
  unfold ComputePoolPathRequest.normalize request ComputePoolPathRequest.otherToken
  dsimp only
  rw [otherTokenInPool, if_pos (eqIgnoreAsciiCase_refl _)]
  rfl

theorem holds_targetToken :
    ((request targetToken).normalize settings).holds
      ((request targetToken).normalize settings).targetToken :=
  .inr (eqIgnoreAsciiCase_refl _)

/-- The entry of a request that says that the pool holds the target token. -/
theorem hit_direct (token1 : String) :
    ∃ entry, (cacheAfter asciiTexts settings provider [(request targetToken, 0)]).hit
      (((request token1).normalize settings).cacheKey asciiTexts) 10 = some entry ∧
        entry.path = some directPath := by
  have h : ((cacheAfter asciiTexts settings provider [(request targetToken, 0)]).hit
      (((request targetToken).normalize settings).cacheKey asciiTexts) 10).map (·.path) =
        some (some directPath) := by decide +kernel
  rw [cacheKey_request token1 targetToken]
  exact Option.map_eq_some_iff.mp h

end Sample

/-- The same request again is answered from the cache, with its own path. -/
theorem cachedPath_iff_sample :
    (servePoolPath Sample.asciiTexts Sample.settings Sample.provider
      (cacheAfter Sample.asciiTexts Sample.settings Sample.provider
        [(Sample.request Sample.targetToken, 0)])
      (Sample.request Sample.targetToken) 10).1 = .ok (some Sample.directPath) ∧
    ((Sample.request Sample.targetToken).normalize Sample.settings).compute Sample.asciiTexts
      Sample.settings Sample.provider = some (some Sample.directPath) := by
  obtain ⟨entry, hhit, hpath⟩ := Sample.hit_direct Sample.targetToken
  obtain ⟨hserved, call, hcall, -, hown, -⟩ :=
    cachedPath_iff (Sample.accepted Sample.targetToken) hhit
  rw [hpath] at hserved hown
  rw [List.mem_singleton.mp hcall] at hown
  exact ⟨hserved, hown (by decide +kernel)
    (.direct Sample.holds_targetToken Sample.holds_targetToken ⟨rfl, rfl, rfl, rfl⟩)⟩

/-- A pool that does not hold the target token, for which no path is computed, is answered
the direct path of a request that said it did. -/
theorem cached_path_of_other_tokens :
    ¬ ∀ texts cfg provider calls req now entry,
      ((req : ComputePoolPathRequest).normalize cfg).otherToken.isSome = true →
      (cacheAfter texts cfg provider calls).hit ((req.normalize cfg).cacheKey texts) now =
        some entry →
        (req.normalize cfg).compute texts cfg provider = some entry.path := by
  intro h
  obtain ⟨entry, hhit, hpath⟩ := Sample.hit_direct Sample.otherToken
  have hcomputed := h Sample.asciiTexts Sample.settings Sample.provider
    [(Sample.request Sample.targetToken, 0)] (Sample.request Sample.otherToken) 10 entry
    (Sample.accepted Sample.otherToken) hhit
  rw [hpath] at hcomputed
  exact absurd hcomputed (by decide +kernel)

end Liquifier.SessionApi
