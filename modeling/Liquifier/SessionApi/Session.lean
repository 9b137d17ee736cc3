import Liquifier.Common.Status
import Liquifier.SessionApi.Pools

/-!
The session service: what it stores for a new session, the status that it sets, and
the route that it computes for a pool.

A route comes as a JSON text with every pool. It is checked, stored as a JSON
value and printed again for the engine. The estimates that a computed route
carries for display are left out.
-/

namespace Liquifier.SessionApi

/-- The libraries and the casts of the database that the service relies on. -/
structure Library where
  /-- `serde_json::from_str`. -/
  jsonFromStr : String → Option Json
  /-- `Value::to_string`. -/
  jsonToString : Json → String
  uuidFromStr : String → Option Uuid
  uuidToString : Uuid → String
  /-- `$1::numeric` for a `NUMERIC(78, 0)` column. The column would also take a negative
  total, which no row has here: the gateway sends only what has parsed as a `u128`, or the
  balance of a wallet. -/
  numericFromStr : String → Option ℕ

/-! ### The route of a pool -/

def invalidArgument (message : String) : Status := .invalidArgument message

def parsePoolSwapPathJson (lib : Library) (path poolAddress : String) : Except Status Json := do
  let trimmed := trim path
  ensure (trimmed ≠ "")
    (invalidArgument "Pool swap_path_json is required for every selected pool")
  let value ← okOr (invalidArgument "Invalid pool swap_path_json") (lib.jsonFromStr trimmed)
  let hops ← okOr (invalidArgument "Pool route must include hops")
    ((value.get "hops").bind Json.asArray)
  ensure (!hops.isEmpty) (invalidArgument "Pool route must include at least one hop")
  let firstHop ← okOr (invalidArgument "Pool route first hop must be a string")
    (hops.head?.bind Json.asStr)
  ensure (eqIgnoreAsciiCase firstHop poolAddress)
    (invalidArgument "Pool route first hop must match pool_address")
  let hopTokens ← okOr (invalidArgument "Pool route must include hop_tokens")
    ((value.get "hop_tokens").bind Json.asArray)
  ensure (hopTokens.length = hops.length + 1)
    (invalidArgument "Pool route hop_tokens length must equal hops length + 1")
  return value

/-! ### A new session -/

structure CreateSessionRequest where
  userId : String
  walletId : String
  chain : String
  sellToken : String
  sellTokenSymbol : String
  sellTokenDecimals : ℕ
  targetToken : String
  targetTokenSymbol : String
  targetTokenDecimals : ℕ
  totalAmount : String
  povPercent : ℚ
  maxPriceImpact : ℚ
  minBuyTriggerUsd : ℚ
  minMarketCapUsd : ℚ
  swapPathJson : String
  pools : List PoolInfo

/-- The rows of a session in `sessions` and `session_pools`, the latter as
`fetch_session_pools` reads them. -/
structure StoredSession where
  row : SessionRow
  pools : List PoolInfo

/-- The row of a pool, read back. -/
def storedPool (lib : Library) (pool : PoolInfo) (swapPath : Json) : PoolInfo where
  poolAddress := pool.poolAddress
  poolType := pool.poolType
  dexName := pool.dexName
  token0 := pool.token0
  token1 := pool.token1
  feeTier := pool.feeTier
  swapPathJson := lib.jsonToString swapPath

@[simp] theorem storedPool_poolAddress (lib : Library) (pool : PoolInfo) (swapPath : Json) :
    (storedPool lib pool swapPath).poolAddress = pool.poolAddress := rfl

/-- `INSERT INTO session_pools … ON CONFLICT (session_id, pool_address) DO NOTHING`. -/
def insertPool (rows : List PoolInfo) (pool : PoolInfo) : List PoolInfo :=
  if rows.any (·.poolAddress = pool.poolAddress) then rows else rows ++ [pool]

/-- The id of a new session, and whether its statements succeed. -/
structure CreateSessionAnswers where
  sessionId : Uuid
  sessionInserted : Bool
  poolsInserted : Bool

def dbError : Status := .internal "DB error"

def createSession (lib : Library) (req : CreateSessionRequest) (ans : CreateSessionAnswers) :
    Except Status StoredSession := do
  let userId ← okOr (invalidArgument "Invalid user_id") (lib.uuidFromStr req.userId)
  let walletId ← okOr (invalidArgument "Invalid wallet_id") (lib.uuidFromStr req.walletId)
  let parsedPoolPaths ← req.pools.mapM fun pool =>
    parsePoolSwapPathJson lib pool.swapPathJson pool.poolAddress
  ensure (req.swapPathJson = "" || (lib.jsonFromStr req.swapPathJson).isSome)
    (invalidArgument "Invalid swap_path_json")
  ensure ans.sessionInserted dbError
  let totalAmount ← okOr dbError (lib.numericFromStr req.totalAmount)
  ensure ans.poolsInserted dbError
  return {
    row := {
      id := ans.sessionId
      userId, walletId
      chain := req.chain
      status := .pending
      sellToken := req.sellToken
      sellTokenSymbol := req.sellTokenSymbol
      sellTokenDecimals := req.sellTokenDecimals
      targetToken := req.targetToken
      targetTokenSymbol := req.targetTokenSymbol
      targetTokenDecimals := req.targetTokenDecimals
      totalAmount
      amountSold := 0
      povPercent := req.povPercent
      maxPriceImpact := req.maxPriceImpact
      minBuyTriggerUsd := req.minBuyTriggerUsd
      minMarketCapUsd := req.minMarketCapUsd }
    pools := (List.zipWith (storedPool lib) req.pools parsedPoolPaths).foldl insertPool [] }

/-! ### The status of a session -/

structure UpdateSessionStatusRequest where
  sessionId : String
  status : String
  deriving DecidableEq

/-- The statuses that a request may ask for, whatever the session has by then. -/
def sessionStatusFromStr : String → Option SessionStatus
  | "active" => some .active
  | "paused" => some .paused
  | "cancelled" => some .cancelled
  | "completed" => some .completed
  | _ => none

/-- `update_session_status`, up to the values bound to its `UPDATE`. -/
def updateSessionStatus (lib : Library) (req : UpdateSessionStatusRequest) :
    Except Status (Uuid × SessionStatus) := do
  let sessionId ← okOr (invalidArgument "Invalid session_id") (lib.uuidFromStr req.sessionId)
  let status ← okOr (invalidArgument "Invalid status") (sessionStatusFromStr req.status)
  return (sessionId, status)

/-! ### The route that the service computes -/

structure SwapPath where
  hops : List String
  hopTokens : List String
  deriving DecidableEq

/-- Percent; a tier of zero stands for 0.3. -/
def feePercentFromTier (feeTier : ℕ) : ℚ := if 0 < feeTier then feeTier / 10000 else 3 / 10

def otherTokenInPool (sellToken token0 token1 : String) : Option String :=
  if eqIgnoreAsciiCase token0 sellToken then some token1
  else if eqIgnoreAsciiCase token1 sellToken then some token0
  else none

/-- `min_by`: the first of the pools with the least fee. -/
def minByFee : List DiscoveredPool → Option DiscoveredPool
  | [] => none
  | pool :: pools =>
      some (pools.foldl (fun best p =>
        if feePercentFromTier p.feeTier < feePercentFromTier best.feeTier then p else best) pool)

/-- The pool alone where it holds the target, or the pool and the cheapest of the
`targetPools` that lead on to the target. The tokens here are addresses, whose lower case is
that of ASCII; `Texts.buildSwapPath` is the function on arbitrary texts. -/
def buildSwapPath (poolAddress token0 token1 sellToken targetToken : String)
    (targetPools : List DiscoveredPool) : Option SwapPath := do
  let otherToken ← otherTokenInPool sellToken token0 token1
  if eqIgnoreAsciiCase token0 targetToken || eqIgnoreAsciiCase token1 targetToken then
    some ⟨[poolAddress], [sellToken, targetToken]⟩
  else
    let otherLower := toAsciiLowercase otherToken
    let targetLower := toAsciiLowercase targetToken
    let bridgePool ← minByFee (targetPools.filter fun pool =>
      (toAsciiLowercase pool.token0 = otherLower && toAsciiLowercase pool.token1 = targetLower) ||
        (toAsciiLowercase pool.token1 = otherLower && toAsciiLowercase pool.token0 = targetLower))
    some ⟨[poolAddress, bridgePool.poolAddress], [sellToken, otherToken, targetToken]⟩

/-- `compute_pool_path`. `cached` is an entry for the same chain, pool and tokens
that is not too old; it is answered whatever pair of tokens it was computed for. -/
def computePoolPath (cfg : Settings) (provider : Provider) (chain poolAddress token0 token1
    sellToken targetToken : String) (cached : Option (Option SwapPath)) :
    Except Status (Option SwapPath) := do
  let sellToken := cfg.normalizeTokenForChain chain sellToken
  let targetToken := cfg.normalizeTokenForChain chain targetToken
  let token0 := cfg.normalizeTokenForChain chain token0
  let token1 := cfg.normalizeTokenForChain chain token1
  let _ ← okOr (invalidArgument "Sell token not found in pool's token pair")
    (otherTokenInPool sellToken token0 token1)
  match cached with
  | some path => return path
  | none =>
      let secondPools ← okOr (.internal "Pool discovery failed")
        (discoverPools cfg provider chain targetToken)
      return buildSwapPath poolAddress token0 token1 sellToken targetToken secondPools

/-! ### What is stored of a request -/

theorem exists_mem_insertPool (rows : List PoolInfo) (p : PoolInfo) :
    ∃ q ∈ insertPool rows p, q.poolAddress = p.poolAddress := by
  unfold insertPool
  split
  · rename_i h
    simpa using h
  · exact ⟨p, List.mem_append_right _ List.mem_cons_self, rfl⟩

theorem mem_insertPool {rows : List PoolInfo} {p r : PoolInfo} (h : r ∈ insertPool rows p) :
    r ∈ rows ∨ (∀ q ∈ rows, q.poolAddress ≠ p.poolAddress) ∧ r = p := by
  unfold insertPool at h
  split at h
  · exact .inl h
  · rename_i hnone
    rcases List.mem_append.mp h with h | h
    · exact .inl h
    · exact .inr ⟨by simpa using hnone, List.mem_singleton.mp h⟩

theorem subset_insertPool (rows : List PoolInfo) (p : PoolInfo) : rows ⊆ insertPool rows p := by
  unfold insertPool
  split
  · exact List.Subset.refl _
  · exact List.subset_append_left _ _

/-- A row that is new is the first of the rows that were inserted for its pool. -/
theorem find_of_mem_inserted {rows pools : List PoolInfo} {r : PoolInfo}
    (h : r ∈ pools.foldl insertPool rows) :
    r ∈ rows ∨ (∀ q ∈ rows, q.poolAddress ≠ r.poolAddress) ∧
      pools.find? (fun p => p.poolAddress = r.poolAddress) = some r := by
  induction pools generalizing rows with
  | nil => exact .inl h
  | cons p pools ih =>
      rw [List.foldl_cons] at h
      rcases ih h with hr | ⟨hnew, hfind⟩
      · rcases mem_insertPool hr with hr | ⟨hnew, rfl⟩
        · exact .inl hr
        · exact .inr ⟨hnew, by simp⟩
      · obtain ⟨q, hq, hqp⟩ := exists_mem_insertPool rows p
        have hp : p.poolAddress ≠ r.poolAddress := hqp ▸ hnew q hq
        refine .inr ⟨fun q hq => hnew q (subset_insertPool rows p hq), ?_⟩
        rw [List.find?_cons_of_neg (by simpa using hp)]
        exact hfind

theorem find_zipWith_storedPool {lib : Library} {pools : List PoolInfo} {values : List Json}
    (h : pools.mapM (fun p => parsePoolSwapPathJson lib p.swapPathJson p.poolAddress) = .ok values)
    {address : String} {r : PoolInfo}
    (hr : (List.zipWith (storedPool lib) pools values).find? (·.poolAddress = address) = some r) :
    ∃ p value, pools.find? (·.poolAddress = address) = some p ∧
      parsePoolSwapPathJson lib p.swapPathJson p.poolAddress = .ok value ∧
      r = storedPool lib p value := by
  induction pools generalizing values with
  | nil => simp at hr
  | cons p pools ih =>
      rw [List.mapM_cons] at h
      obtain ⟨value, hvalue, h⟩ := bind_eq_ok.mp h
      obtain ⟨rest, hrest, h⟩ := bind_eq_ok.mp h
      cases h
      rw [List.zipWith_cons_cons, List.find?_cons] at hr
      rw [List.find?_cons]
      by_cases hp : p.poolAddress = address
      · simp only [storedPool_poolAddress, hp, decide_true] at hr ⊢
        cases hr
        exact ⟨p, value, rfl, hvalue, rfl⟩
      · simp only [storedPool_poolAddress, hp, decide_false] at hr ⊢
        exact ih hrest hr

/-- What is stored of a request: its columns, and of the pools with one address
the first. -/
structure Stores (lib : Library) (req : CreateSessionRequest) (stored : StoredSession) :
    Prop where
  chain : stored.row.chain = req.chain
  sellToken : stored.row.sellToken = req.sellToken
  targetToken : stored.row.targetToken = req.targetToken
  pools : ∀ r ∈ stored.pools, ∃ p value,
    req.pools.find? (fun q => q.poolAddress = r.poolAddress) = some p ∧
      parsePoolSwapPathJson lib p.swapPathJson p.poolAddress = .ok value ∧
      r = storedPool lib p value

theorem createSession_stores {lib : Library} {req : CreateSessionRequest}
    {ans : CreateSessionAnswers} {stored : StoredSession}
    (h : createSession lib req ans = .ok stored) : Stores lib req stored := by
  simp only [createSession, bind_eq_ok, okOr_eq_ok, ensure_eq_ok, pure, Except.pure,
    Except.ok.injEq] at h
  obtain ⟨_, _, _, _, values, hvalues, _, _, _, _, _, _, _, _, rfl⟩ := h
  refine ⟨rfl, rfl, rfl, fun r hr => ?_⟩
  rcases find_of_mem_inserted hr with hr | ⟨_, hfind⟩
  · cases hr
  · exact find_zipWith_storedPool hvalues hfind

/-- The session service stores the value of the text that it has checked. -/
theorem parsePoolSwapPathJson_reads {lib : Library} {path poolAddress : String} {value : Json}
    (h : parsePoolSwapPathJson lib path poolAddress = .ok value) :
    lib.jsonFromStr (trim path) = some value := by
  simp only [parsePoolSwapPathJson, bind_eq_ok, okOr_eq_ok, pure, Except.pure,
    Except.ok.injEq] at h
  obtain ⟨_, _, value, hvalue, _, _, _, _, _, _, _, _, _, _, _, _, rfl⟩ := h
  exact hvalue

end Liquifier.SessionApi
