import Liquifier.Common.U256
import Liquifier.Gateway.Auth
import Liquifier.SessionApi.Session

/-!
The two handlers of the gateway that create a session, and the one that sets the
status of a session.

Each checks its input, asks other services and sends one request to the session
service. The answers of those services are the argument `ans`; the handlers give
the request that they send, or the status code that they end with.
-/

namespace Liquifier.Gateway

open SessionApi

/-! ### A session by request -/

def validatePoolSwapPathJson (lib : Library) (path poolAddress : String) : Bool :=
  let trimmed := trim path
  if trimmed = "" then false
  else
    match lib.jsonFromStr trimmed with
    | none => false
    | some value =>
        match (value.get "hops").bind Json.asArray with
        | none => false
        | some hops =>
            if hops.isEmpty then false
            else
              match hops.head?.bind Json.asStr with
              | none => false
              | some firstHop =>
                  if !eqIgnoreAsciiCase firstHop poolAddress then false
                  else
                    match (value.get "hop_tokens").bind Json.asArray with
                    | none => false
                    | some hopTokens => hopTokens.length = hops.length + 1

structure CreateSessionBody where
  walletId : String
  chain : String
  sellToken : String
  sellTokenSymbol : String
  sellTokenDecimals : ℕ
  targetToken : String
  targetTokenSymbol : String
  targetTokenDecimals : ℕ
  totalAmount : String
  povPercent : ℚ
  maxPriceImpact : ℚ
  minBuyTriggerUsd : ℚ
  minMarketCapUsd : ℚ
  swapPathJson : Option String
  pools : Option (List PoolInfo)

/-- `str::parse::<u128>`. -/
def u128FromStr (s : String) : Option ℕ :=
  let digits := match s.toList with
    | '+' :: cs => cs
    | cs => cs
  if digits.isEmpty || digits.any (fun c => !c.isDigit) then none
  else
    let n := digits.foldl (fun acc c => 10 * acc + (c.toNat - '0'.toNat)) 0
    if n < 2 ^ 128 then some n else none

/-- The wallet's balance of the sell token and the owner of the wallet; `none` is
an error of the service, `some none` a wallet that is not there. -/
structure CreateSessionAnswers where
  sessionConnects : Bool
  kmsConnects : Bool
  balance : Option String
  walletOwner : Option (Option String)

/-- The pools of the body with the chain's own names for its native token. -/
def normalizedPool (cfg : Settings) (chain : String) (pool : PoolInfo) : PoolInfo :=
  { pool with
    token0 := cfg.normalizeTokenForChain chain pool.token0
    token1 := cfg.normalizeTokenForChain chain pool.token1 }

/-- `create_session`, up to the request to the session service. -/
def createSession (cfg : Settings) (lib : Library) (user : AuthUser) (body : CreateSessionBody)
    (ans : CreateSessionAnswers) : Except StatusCode CreateSessionRequest := do
  ensure ans.sessionConnects .serviceUnavailable
  let chain := body.chain
  let sellToken := cfg.normalizeTokenForChain chain body.sellToken
  let targetToken := cfg.normalizeTokenForChain chain body.targetToken
  let pools := body.pools.getD []
  ensure (!pools.isEmpty) .badRequest
  ensure (pools.all fun p => validatePoolSwapPathJson lib p.swapPathJson p.poolAddress) .badRequest
  ensure ans.kmsConnects .serviceUnavailable
  let balance ← okOr .internalServerError ans.balance
  let walletBalance := (u128FromStr balance).getD 0
  let requestedAmount ← okOr .badRequest (u128FromStr body.totalAmount)
  ensure (requestedAmount ≤ walletBalance) .badRequest
  let userId ←
    if user.role = "admin" then do
      let owner ← okOr .internalServerError ans.walletOwner
      okOr .notFound owner
    else pure (lib.uuidToString user.userId)
  return {
    userId
    walletId := body.walletId
    chain, sellToken
    sellTokenSymbol := body.sellTokenSymbol
    sellTokenDecimals := body.sellTokenDecimals
    targetToken
    targetTokenSymbol := body.targetTokenSymbol
    targetTokenDecimals := body.targetTokenDecimals
    totalAmount := body.totalAmount
    povPercent := body.povPercent
    maxPriceImpact := body.maxPriceImpact
    minBuyTriggerUsd := body.minBuyTriggerUsd
    minMarketCapUsd := body.minMarketCapUsd
    swapPathJson := body.swapPathJson.getD ""
    pools := pools.map (normalizedPool cfg chain) }

/-! ### A session by configuration -/

def defaultMinMarketCapUsd : ℚ := 50000000

/-- `str::parse::<U256>`: a radix prefix, or decimal. -/
def u256FromStr (s : String) : Option ℕ :=
  match s.toList with
  | '0' :: 'x' :: cs | '0' :: 'X' :: cs => U256.fromStrRadix (String.ofList cs) 16
  | '0' :: 'o' :: cs | '0' :: 'O' :: cs => U256.fromStrRadix (String.ofList cs) 8
  | '0' :: 'b' :: cs | '0' :: 'B' :: cs => U256.fromStrRadix (String.ofList cs) 2
  | _ => U256.fromStrRadix s 10

def parseU256Amount (raw : String) : Option ℕ :=
  let trimmed := trim raw
  if trimmed = "" then none
  else
    let integral := trim (String.ofList (trimmed.toList.takeWhile (· ≠ '.')))
    if integral = "" then none else u256FromStr integral

/-- What a pool holds of a token: a reserve of a V2 pool, a balance of a V3 pool. -/
def poolTokenLiquidityMetric (pool : PoolInfo) (tokenAddress : String) : Option ℕ :=
  let tokenIs0 := eqIgnoreAsciiCase pool.token0 tokenAddress
  let tokenIs1 := eqIgnoreAsciiCase pool.token1 tokenAddress
  if !tokenIs0 && !tokenIs1 then none
  else
    match poolTypeFromStr pool.poolType with
    | some .v2 => parseU256Amount (if tokenIs0 then pool.reserve0 else pool.reserve1)
    | some .v3 => parseU256Amount (if tokenIs0 then pool.balance0 else pool.balance1)
    | none => none

/-- `max_by`: the last of the pools that hold most of the token. -/
def bestPool (sellToken : String) : List PoolInfo → Option PoolInfo
  | [] => none
  | pool :: pools =>
      let metric (p : PoolInfo) := (poolTokenLiquidityMetric p sellToken).getD 0
      some (pools.foldl (fun best p => if metric best ≤ metric p then p else best) pool)

/-- The answers to `start_selling`: id and chain of the wallet, its balance, the
trigger that the oracle's price gives, and the responses of the session service. -/
structure StartSellingAnswers where
  wallet : Option (Option (String × String))
  kmsConnects : Bool
  balance : Option String
  minBuyTriggerUsd : ℚ
  sessionConnects : Bool
  discovered : Option (List PoolInfo)
  path : Option (Option SwapPath)

/-- The text of a computed route; a pool without one keeps its default route. -/
def routeText (lib : Library) (path : Option SwapPath) (pool : PoolInfo) : Option String :=
  match path with
  | some path =>
      some (lib.jsonToString (.object [("hops", .array (path.hops.map .string)),
        ("hop_tokens", .array (path.hopTokens.map .string)), ("fee_tiers", .array [])]))
  | none => if pool.swapPathJson ≠ "" then some pool.swapPathJson else none

/-- `start_selling`, up to the request to the session service. -/
def startSelling (cfg : Settings) (lib : Library) (user : AuthUser) (ans : StartSellingAnswers) :
    Except StatusCode CreateSessionRequest := do
  ensure (user.role = "common") .forbidden
  let exec := cfg.execution
  let wallet ← okOr .internalServerError ans.wallet
  let (walletId, chain) ← okOr .notFound wallet
  -- the configured chain if the wallet is on it, and the wallet's own otherwise
  let effectiveChain := if chain = exec.sessionChain then exec.sessionChain else chain
  ensure ans.kmsConnects .serviceUnavailable
  let balance ← okOr .internalServerError ans.balance
  ensure (balance ≠ "0") .badRequest
  let _ ← okOr .badRequest (cfg.chain effectiveChain)
  let _ ← okOr .internalServerError (Address.parse exec.buyTriggerOracleAddress)
  ensure ans.sessionConnects .serviceUnavailable
  let discovered ← okOr .internalServerError ans.discovered
  ensure (!discovered.isEmpty) .notFound
  let best ← okOr .internalServerError (bestPool exec.sellToken discovered)
  let path ← okOr .internalServerError ans.path
  let swapPathJson ← okOr .internalServerError (routeText lib path best)
  return {
    userId := lib.uuidToString user.userId
    walletId
    chain := effectiveChain
    sellToken := exec.sellToken
    sellTokenSymbol := exec.sellTokenSymbol
    sellTokenDecimals := exec.sellTokenDecimals
    targetToken := exec.targetToken
    targetTokenSymbol := exec.targetTokenSymbol
    targetTokenDecimals := exec.targetTokenDecimals
    totalAmount := balance
    povPercent := exec.povPercent
    maxPriceImpact := exec.sessionMaxPriceImpact
    minBuyTriggerUsd := ans.minBuyTriggerUsd
    minMarketCapUsd := defaultMinMarketCapUsd
    swapPathJson
    pools := [{ best with swapPathJson }] }

/-! ### The status of a session -/

/-- `ensure_session_access`, on the rows of `sessions`. -/
def ensureSessionAccess (lib : Library) (user : AuthUser) (sessionId : String)
    (sessions : List SessionRow) (selects : Bool) : Except StatusCode Unit := do
  let sessionUuid ← okOr .badRequest (lib.uuidFromStr sessionId)
  ensure selects .internalServerError
  ensure (sessions.any fun r =>
    r.id = sessionUuid && (user.role = "admin" || r.userId = user.userId)) .notFound

/-- Whether the `SELECT` succeeds, the wallet of the session is funded with gas, and
the session service is there. -/
structure UpdateStatusAnswers where
  selects : Bool
  funded : Bool
  sessionConnects : Bool

/-- `update_session_status`, up to the request to the session service. -/
def updateSessionStatus (lib : Library) (user : AuthUser) (sessionId status : String)
    (sessions : List SessionRow) (ans : UpdateStatusAnswers) :
    Except StatusCode UpdateSessionStatusRequest := do
  ensure (user.role = "admin") .forbidden
  ensure (status = "active" || status = "paused" || status = "cancelled") .badRequest
  ensureSessionAccess lib user sessionId sessions ans.selects
  ensure (status ≠ "active" || ans.funded) .unprocessableEntity
  ensure ans.sessionConnects .serviceUnavailable
  return ⟨sessionId, status⟩

end Liquifier.Gateway
