import Liquifier.Gateway.NewSessions
import Liquifier.SessionApi.Views

/-!
What the gateway shows a user of the sessions, and the switch of public sharing.

Three handlers ask the session service, which looks at no user: the gateway checks the
session first, or names the user in the list that it asks for. The trades are read by
the gateway itself, with the user in the query. `SameOwn` relates two states of the
tables that agree on what belongs to one user.
-/

namespace Liquifier.Gateway

open SessionApi

/-! ### The handlers -/

/-- What a request meets outside of the tables. -/
structure ViewEnv extends ViewAnswers where
  sessionConnects : Bool
  /-- The first of the gateway's own queries succeeds. -/
  selects : Bool
  /-- The second one succeeds. -/
  selectsTrades : Bool

section Handlers

variable (cfg : Settings) (lib : Library) (fmt : Formats) (user : AuthUser)

def poolToJson (chain : String) (p : PoolInfo) : Json :=
  .object [
    ("pool_address", .string p.poolAddress),
    ("pool_type", .string p.poolType),
    ("dex_name", .string p.dexName),
    ("token0", .string (cfg.displayTokenForChain chain p.token0)),
    ("token1", .string (cfg.displayTokenForChain chain p.token1)),
    ("fee_tier", .number (.posInt p.feeTier)),
    ("reserve0", .string p.reserve0),
    ("reserve1", .string p.reserve1),
    -- neither the liquidity nor the prices of a pool are stored
    ("liquidity", .string ""),
    ("balance0", .string p.balance0),
    ("balance1", .string p.balance1),
    ("token0_price_usd", .number (.float 0)),
    ("token1_price_usd", .number (.float 0)),
    ("swap_path_json", .string p.swapPathJson)]

def sessionInfoToJson (s : SessionMessage) : Json :=
  .object [
    ("session_id", .string s.sessionId),
    ("user_id", .string s.userId),
    ("wallet_id", .string s.walletId),
    ("chain", .string s.chain),
    ("status", .string s.status),
    ("sell_token", .string (cfg.displayTokenForChain s.chain s.sellToken)),
    ("sell_token_symbol", .string s.sellTokenSymbol),
    ("sell_token_decimals", .number (.posInt s.sellTokenDecimals)),
    ("target_token", .string (cfg.displayTokenForChain s.chain s.targetToken)),
    ("target_token_symbol", .string s.targetTokenSymbol),
    ("target_token_decimals", .number (.posInt s.targetTokenDecimals)),
    ("strategy", .string s.strategy),
    ("total_amount", .string s.totalAmount),
    ("amount_sold", .string s.amountSold),
    ("pov_percent", .number (.float s.povPercent)),
    ("max_price_impact", .number (.float s.maxPriceImpact)),
    ("min_buy_trigger_usd", .number (.float s.minBuyTriggerUsd)),
    ("min_market_cap_usd", .number (.float s.minMarketCapUsd)),
    ("swap_path_json", .string s.swapPathJson),
    ("public_slug", .string s.publicSlug),
    ("public_sharing_enabled", .bool s.publicSharingEnabled),
    ("created_at", .string s.createdAt),
    ("updated_at", .string s.updatedAt),
    ("pools", .array (s.pools.map (poolToJson cfg s.chain)))]

/-- The code for an error of the session service. -/
def sessionError : Status → StatusCode
  | .notFound _ => .notFound
  | _ => .internalServerError

def listSessions (db : Tables) (env : ViewEnv) : Except StatusCode Json := do
  ensure env.sessionConnects .serviceUnavailable
  let userId := if user.role = "admin" then "" else lib.uuidToString user.userId
  let sessions ← (SessionApi.listSessions lib fmt db env.toViewAnswers userId).mapError
    fun _ => .internalServerError
  return .object [("sessions", .array (sessions.map (sessionInfoToJson cfg)))]

def checkAccess (sessionId : String) (db : Tables) (env : ViewEnv) : Except StatusCode Unit :=
  ensureSessionAccess lib user sessionId (db.sessions.map (·.toSessionRow)) env.selects

def getSession (sessionId : String) (db : Tables) (env : ViewEnv) : Except StatusCode Json := do
  checkAccess lib user sessionId db env
  ensure env.sessionConnects .serviceUnavailable
  let info ← (SessionApi.getSession lib fmt db env.toViewAnswers sessionId).mapError sessionError
  return sessionInfoToJson cfg info

/-- `toggle_public_sharing`: its answer and the tables after it. -/
def togglePublicSharing (sessionId : String) (enabled : Bool) (db : Tables) (env : ViewEnv) :
    Except StatusCode Json × Tables :=
  match checkAccess lib user sessionId db env with
  | .error e => (.error e, db)
  | .ok _ =>
      if env.sessionConnects then
        let (info, db') := SessionApi.togglePublicSharing lib fmt db env.toViewAnswers sessionId enabled
        ((info.mapError sessionError).map (sessionInfoToJson cfg), db')
      else (.error .serviceUnavailable, db)

def clampTradesLimit (limit : ℤ) : ℤ := max 1 (min limit 200)

/-- `FROM trades t INNER JOIN sessions s … WHERE t.session_id = $1 AND
($2::boolean OR s.user_id = $3)`. -/
def visibleTrades (sessionId : Uuid) (db : Tables) : List TradeRecord :=
  db.trades.filter fun t => t.sessionId = sessionId &&
    db.sessions.any fun s => s.id = t.sessionId && (user.role = "admin" || s.userId = user.userId)

/-- `NULLIF(s, '')`. -/
def nullIfEmpty (s : Option String) : Option String := s.filter (· ≠ "")

def tradeStatusText : TradeStatus → String
  | .submitted => "submitted"
  | .confirmed => "confirmed"
  | .failed => "failed"
  | .routing => "routing"

def tradeTime (t : TradeRecord) : ℕ := t.executedAt.getD t.createdAt

def tradeToJson (t : TradeRecord) : Json :=
  .object [
    ("trade_id", .string (lib.uuidToString t.id)),
    ("session_id", .string (lib.uuidToString t.sessionId)),
    ("chain", .string t.chain),
    ("status", .string (tradeStatusText t.status)),
    ("sell_amount", .string (toString t.sellAmount)),
    ("received_amount", .string (toString (t.finalReceived.getD 0))),
    ("tx_hash", .string (((nullIfEmpty t.sellTxHash).orElse fun _ =>
      nullIfEmpty t.routeTxHash).getD t.triggerTxHash)),
    ("price_impact_bps", .number (.posInt t.priceImpactBps)),
    ("market_cap_usd", (t.marketCapUsd.map fun x => .string (fmt.numericText x)).getD .null),
    ("failure_reason", (t.failureReason.map .string).getD .null),
    ("executed_at", .string (fmt.rfc3339 (tradeTime t)))]

def getSessionTrades (sessionId : String) (limit : ℤ) (db : Tables) (env : ViewEnv) :
    Except StatusCode Json := do
  let sessionId ← okOr .badRequest (lib.uuidFromStr sessionId)
  let limit := clampTradesLimit limit
  ensure env.selects .internalServerError
  let trades := visibleTrades user sessionId db
  let totalReceived :=
    ((trades.filter (·.status = .confirmed)).map fun t => t.finalReceived.getD 0).sum
  ensure env.selectsTrades .internalServerError
  let rows := (trades.insertionSort fun a b => tradeTime b ≤ tradeTime a).take limit.toNat
  return .object [
    ("trades", .array (rows.map (tradeToJson lib fmt))),
    ("total_received", .string (toString totalReceived))]

/-! ### Requests -/

inductive ViewRequest where
  | listSessions
  | getSession (sessionId : String)
  | getSessionTrades (sessionId : String) (limit : ℤ)
  | togglePublicSharing (sessionId : String) (enabled : Bool)

/-- The answer to a request and the tables after it. -/
def view (db : Tables) (env : ViewEnv) : ViewRequest → Except StatusCode Json × Tables
  | .listSessions => (listSessions cfg lib fmt user db env, db)
  | .getSession sessionId => (getSession cfg lib fmt user sessionId db env, db)
  | .getSessionTrades sessionId limit =>
      (getSessionTrades lib fmt user sessionId limit db env, db)
  | .togglePublicSharing sessionId enabled =>
      togglePublicSharing cfg lib fmt user sessionId enabled db env

end Handlers

/-! ### What belongs to a user -/

section Own

variable (u : Uuid) (db : Tables)

def ownSessions : List SessionRecord := db.sessions.filter (·.userId = u)

def owns (sessionId : Uuid) : Bool := (ownSessions u db).any (·.id = sessionId)

def ownPools : List PoolRow := db.pools.filter fun p => owns u db p.sessionId

def ownTrades : List TradeRecord := db.trades.filter fun t => owns u db t.sessionId

/-- The sessions of the other users. -/
def foreignSessions : List SessionRecord := db.sessions.filter (·.userId ≠ u)

/-- The tables agree on the sessions of the user, their pools and their trades. -/
structure SameOwn (db₁ db₂ : Tables) : Prop where
  sessions : ownSessions u db₁ = ownSessions u db₂
  pools : ownPools u db₁ = ownPools u db₂
  trades : ownTrades u db₁ = ownTrades u db₂

end Own

variable {cfg : Settings} {lib : Library} {fmt : Formats} {user : AuthUser} {u : Uuid}
  {db db₁ db₂ : Tables} {env : ViewEnv} {sessionId : Uuid}

theorem owns_eq_true : owns u db sessionId = true ↔
    ∃ s ∈ db.sessions, s.userId = u ∧ s.id = sessionId := by
  simp [owns, ownSessions]

/-- A condition on the rows of a session that the user owns can be read off the user's
own rows. -/
theorem filter_own {ρ : Type} (g : ρ → Uuid) (rows : List ρ) (hown : owns u db sessionId = true) :
    (rows.filter fun r => owns u db (g r)).filter (fun r => g r = sessionId) =
      rows.filter fun r => g r = sessionId := by
  rw [List.filter_filter]
  refine List.filter_congr fun r _ => ?_
  by_cases hr : g r = sessionId
  · simp [hr, hown]
  · simp [hr]

section SetSharing

variable (u db sessionId) (enabled : Bool) (now : ℕ)

theorem ownSessions_setSharing : ownSessions u (db.setSharing sessionId enabled now) =
    Table.update (·.id) (ownSessions u db) sessionId fun row => row.share enabled now := by
  simp only [ownSessions, Tables.setSharing, Table.update, List.filter_map]
  refine congrArg (List.map _) (List.filter_congr fun row _ => ?_)
  simp only [Function.comp_apply]
  split
  · rw [share_userId]
  · rfl

theorem owns_setSharing : owns u (db.setSharing sessionId enabled now) = owns u db := by
  funext sid
  rw [owns, ownSessions_setSharing, owns, Table.update, List.any_map]
  refine congrArg (List.any _) (funext fun row => ?_)
  simp only [Function.comp_apply]
  split
  · rw [share_id]
  · rfl

end SetSharing

/-- The switch of a session that the user owns does not touch the others. -/
theorem foreignSessions_setSharing (hown : owns u db sessionId = true) (enabled : Bool) (now : ℕ) :
    foreignSessions u (db.setSharing sessionId enabled now) = foreignSessions u db := by
  obtain ⟨s, hs, huser, hid⟩ := owns_eq_true.mp hown
  have hkept : ∀ row ∈ db.sessions, row.userId ≠ u → row.id ≠ sessionId := by
    intro row hrow hforeign heq
    rw [List.inj_on_of_nodup_map db.session_ids hrow hs (heq.trans hid.symm)] at hforeign
    exact hforeign huser
  simp only [foreignSessions, Tables.setSharing, Table.update, List.filter_map]
  have hfilter : (db.sessions.filter ((fun row : SessionRecord => decide (row.userId ≠ u)) ∘
      fun row => if row.id = sessionId then row.share enabled now else row)) =
      db.sessions.filter fun row => decide (row.userId ≠ u) := by
    refine List.filter_congr fun row _ => ?_
    simp only [Function.comp_apply]
    split
    · rw [share_userId]
    · rfl
  rw [hfilter]
  calc
    _ = (db.sessions.filter fun row => decide (row.userId ≠ u)).map id := by
      refine List.map_congr_left fun row hrow => ?_
      obtain ⟨hmem, hforeign⟩ := List.mem_filter.mp hrow
      exact if_neg (hkept row hmem (of_decide_eq_true hforeign))
    _ = _ := List.map_id _

namespace SameOwn

variable (h : SameOwn u db₁ db₂)
include h

theorem owns_eq : owns u db₁ = owns u db₂ := by
  funext sessionId
  rw [owns, owns, h.sessions]

theorem get_eq (hown : owns u db₁ sessionId = true) :
    Table.get (·.id) db₁.sessions sessionId = Table.get (·.id) db₂.sessions sessionId := by
  obtain ⟨s, hs, huser, rfl⟩ := owns_eq_true.mp hown
  have hown₁ : s ∈ ownSessions u db₁ := List.mem_filter.mpr ⟨hs, decide_eq_true huser⟩
  have hown₂ : s ∈ ownSessions u db₂ := h.sessions ▸ hown₁
  rw [Table.get_of_mem db₁.session_ids hs,
    Table.get_of_mem db₂.session_ids (List.mem_filter.mp hown₂).1]

theorem fetchSessionPools_eq (hown : owns u db₁ sessionId = true) :
    fetchSessionPools lib db₁ sessionId = fetchSessionPools lib db₂ sessionId := by
  have hpools : db₁.pools.filter (·.sessionId = sessionId) =
      db₂.pools.filter (·.sessionId = sessionId) := by
    rw [← filter_own (·.sessionId) db₁.pools hown,
      ← filter_own (·.sessionId) db₂.pools (h.owns_eq ▸ hown)]
    exact congrArg (List.filter _) h.pools
  rw [fetchSessionPools, fetchSessionPools, hpools]

theorem sessionWithPools_eq (hown : owns u db₁ sessionId = true) (ans : ViewAnswers) :
    sessionWithPools lib fmt db₁ ans sessionId = sessionWithPools lib fmt db₂ ans sessionId := by
  rw [sessionWithPools, sessionWithPools, fetchSession, fetchSession, h.get_eq hown,
    h.fetchSessionPools_eq hown]

/-- The switch of a session, whoever owns it. -/
theorem setSharing (sessionId : Uuid) (enabled : Bool) (now : ℕ) :
    SameOwn u (db₁.setSharing sessionId enabled now) (db₂.setSharing sessionId enabled now) := by
  refine ⟨?_, ?_, ?_⟩
  · rw [ownSessions_setSharing, ownSessions_setSharing, h.sessions]
  · rw [ownPools, ownPools, owns_setSharing, owns_setSharing]
    exact h.pools
  · rw [ownTrades, ownTrades, owns_setSharing, owns_setSharing]
    exact h.trades

end SameOwn

/-! ### Answers to a user without the role of an administrator -/

section Common

variable (hrole : user.role ≠ "admin")
include hrole

theorem checkAccess_eq (sessionId : String) (db : Tables) (env : ViewEnv) :
    checkAccess lib user sessionId db env =
      (okOr .badRequest (lib.uuidFromStr sessionId)).bind fun id =>
        (ensure env.selects .internalServerError).bind fun _ =>
          ensure (owns user.userId db id) .notFound := by
  have hany (id : Uuid) : (db.sessions.map (·.toSessionRow)).any (fun r =>
      r.id = id && (user.role = "admin" || r.userId = user.userId)) = owns user.userId db id := by
    rw [owns, ownSessions, List.any_filter, List.any_map]
    refine congrArg (List.any _) (funext fun row => ?_)
    simp [hrole, Bool.and_comm]
  unfold checkAccess ensureSessionAccess
  simp only [hany]
  rfl

/-- A session that passes the check is the user's own. -/
theorem owns_of_checkAccess {sessionId : String} {x : Unit}
    (h : checkAccess lib user sessionId db env = .ok x) :
    ∃ id, lib.uuidFromStr sessionId = some id ∧ owns user.userId db id = true := by
  rw [checkAccess_eq hrole] at h
  obtain ⟨id, hid, h⟩ := bind_eq_ok.mp h
  obtain ⟨-, -, h⟩ := bind_eq_ok.mp h
  exact ⟨id, okOr_eq_ok.mp hid, ensure_eq_ok.mp h⟩

theorem visibleTrades_eq (sessionId : Uuid) (db : Tables) :
    visibleTrades user sessionId db =
      (ownTrades user.userId db).filter (·.sessionId = sessionId) := by
  rw [visibleTrades, ownTrades, List.filter_filter]
  refine List.filter_congr fun t _ => ?_
  rw [owns, ownSessions, List.any_filter]
  refine congrArg (_ && ·) (congrArg (List.any _) (funext fun s => ?_))
  simp [hrole, Bool.and_comm]

variable (h : SameOwn user.userId db₁ db₂)
include h

theorem checkAccess_congr (sessionId : String) :
    checkAccess lib user sessionId db₁ env = checkAccess lib user sessionId db₂ env := by
  rw [checkAccess_eq hrole, checkAccess_eq hrole, h.owns_eq]

/-- The rows of the list are the user's own, and so are the pools looked up for them. -/
theorem listSessions_congr (hx : Exact lib) (hempty : lib.uuidFromStr "" = none) :
    listSessions cfg lib fmt user db₁ env = listSessions cfg lib fmt user db₂ env := by
  -- with the empty name the service would list every session
  have hname : lib.uuidToString user.userId ≠ "" := by
    intro hname
    have hid := hx.uuid user.userId
    rw [hname, hempty] at hid
    cases hid
  have hlisted : ∀ row ∈ newestFirst (ownSessions user.userId db₁),
      listedSession lib fmt db₁ env.toViewAnswers row =
        listedSession lib fmt db₂ env.toViewAnswers row := by
    intro row hrow
    have hown : owns user.userId db₁ row.id = true :=
      List.any_eq_true.mpr ⟨row, mem_newestFirst.mp hrow, decide_eq_true rfl⟩
    simp only [listedSession, rowToSessionInfo, hx.uuid, Option.getD_some,
      h.fetchSessionPools_eq hown]
  have hrows : (newestFirst (ownSessions user.userId db₁)).map
        (listedSession lib fmt db₁ env.toViewAnswers) =
      (newestFirst (ownSessions user.userId db₂)).map
        (listedSession lib fmt db₂ env.toViewAnswers) := by
    rw [List.map_congr_left hlisted, h.sessions]
  simp only [ownSessions] at hrows
  simp only [listSessions, if_neg hrole, listSessions_of_user fmt _ hname (hx.uuid user.userId),
    hrows]

theorem getSession_congr (sessionId : String) :
    getSession cfg lib fmt user sessionId db₁ env =
      getSession cfg lib fmt user sessionId db₂ env := by
  have haccess : checkAccess lib user sessionId db₁ env = checkAccess lib user sessionId db₂ env :=
    checkAccess_congr hrole h sessionId
  unfold getSession
  rw [← haccess]
  cases hok : checkAccess lib user sessionId db₁ env with
  | error e => rfl
  | ok _ =>
      obtain ⟨id, hid, hown⟩ := owns_of_checkAccess hrole hok
      rw [getSession_of_id fmt _ hid, getSession_of_id fmt _ hid, h.sessionWithPools_eq hown]

theorem getSessionTrades_congr (sessionId : String) (limit : ℤ) :
    getSessionTrades lib fmt user sessionId limit db₁ env =
      getSessionTrades lib fmt user sessionId limit db₂ env := by
  have htrades (id : Uuid) : visibleTrades user id db₁ = visibleTrades user id db₂ := by
    rw [visibleTrades_eq hrole, visibleTrades_eq hrole, h.trades]
  simp only [getSessionTrades, htrades]

/-- The switch gives the same answer, and the tables agree after it. -/
theorem togglePublicSharing_congr (sessionId : String) (enabled : Bool) :
    (togglePublicSharing cfg lib fmt user sessionId enabled db₁ env).1 =
        (togglePublicSharing cfg lib fmt user sessionId enabled db₂ env).1 ∧
      SameOwn user.userId (togglePublicSharing cfg lib fmt user sessionId enabled db₁ env).2
        (togglePublicSharing cfg lib fmt user sessionId enabled db₂ env).2 := by
  have haccess : checkAccess lib user sessionId db₁ env = checkAccess lib user sessionId db₂ env :=
    checkAccess_congr hrole h sessionId
  unfold togglePublicSharing
  rw [← haccess]
  cases hok : checkAccess lib user sessionId db₁ env with
  | error e => exact ⟨rfl, h⟩
  | ok _ =>
      obtain ⟨id, hid, hown⟩ := owns_of_checkAccess hrole hok
      have hset := h.setSharing id enabled env.now
      simp only [togglePublicSharing_of_id fmt _ hid]
      cases env.sessionConnects with
      | false => exact ⟨rfl, h⟩
      | true =>
          cases env.updates with
          | false => exact ⟨rfl, h⟩
          | true =>
              refine ⟨?_, hset⟩
              have hown' : owns user.userId (db₁.setSharing id enabled env.now) id = true := by
                rw [owns_setSharing]
                exact hown
              simp only [if_true, hset.sessionWithPools_eq hown']

omit h in
/-- The switch reaches no session, pool or trade of another user. -/
theorem togglePublicSharing_foreign (sessionId : String) (enabled : Bool) (db : Tables)
    (env : ViewEnv) :
    let db' := (togglePublicSharing cfg lib fmt user sessionId enabled db env).2
    foreignSessions user.userId db' = foreignSessions user.userId db ∧
      db'.pools = db.pools ∧ db'.trades = db.trades := by
  unfold togglePublicSharing
  cases hok : checkAccess lib user sessionId db env with
  | error e => exact ⟨rfl, rfl, rfl⟩
  | ok _ =>
      obtain ⟨id, hid, hown⟩ := owns_of_checkAccess hrole hok
      simp only [togglePublicSharing_of_id fmt _ hid]
      cases env.sessionConnects with
      | false => exact ⟨rfl, rfl, rfl⟩
      | true =>
          cases env.updates with
          | false => exact ⟨rfl, rfl, rfl⟩
          | true => exact ⟨foreignSessions_setSharing hown enabled env.now, rfl, rfl⟩

end Common

/-- Two states of the tables that agree on the sessions of a user of the role `common`,
their pools and their trades give the user the same answer to every request, and they
agree after it. The switch of public sharing leaves the sessions of the other users, all
pools and all trades as they are. -/
theorem view_eq_of_sameOwn (cfg : Settings) (fmt : Formats) (hx : Exact lib)
    (hempty : lib.uuidFromStr "" = none) (hrole : user.role = "common") :
    (∀ db₁ db₂ env req, SameOwn user.userId db₁ db₂ →
      (view cfg lib fmt user db₁ env req).1 = (view cfg lib fmt user db₂ env req).1 ∧
        SameOwn user.userId (view cfg lib fmt user db₁ env req).2
          (view cfg lib fmt user db₂ env req).2) ∧
    ∀ db env sessionId enabled,
      let db' := (view cfg lib fmt user db env (.togglePublicSharing sessionId enabled)).2
      foreignSessions user.userId db' = foreignSessions user.userId db ∧
        db'.pools = db.pools ∧ db'.trades = db.trades := by
  have hrole : user.role ≠ "admin" := by
    rw [hrole]
    decide
  constructor
  · intro db₁ db₂ env req h
    cases req with
    | listSessions => exact ⟨listSessions_congr hrole h hx hempty, h⟩
    | getSession sessionId => exact ⟨getSession_congr hrole h sessionId, h⟩
    | getSessionTrades sessionId limit =>
        exact ⟨getSessionTrades_congr hrole h sessionId limit, h⟩
    | togglePublicSharing sessionId enabled =>
        exact togglePublicSharing_congr hrole h sessionId enabled
  · intro db env sessionId enabled
    exact togglePublicSharing_foreign hrole sessionId enabled db env

namespace Sample

/-- A shared session with one pool and one trade. -/
def sessionRecord (id userId : Uuid) : SessionRecord where
  id := id
  userId := userId
  walletId := userId
  chain := "bsc"
  status := .active
  sellToken := token
  sellTokenSymbol := "SELL"
  sellTokenDecimals := 18
  targetToken := target
  targetTokenSymbol := "USDT"
  targetTokenDecimals := 18
  totalAmount := 1000
  amountSold := 10
  povPercent := 50
  maxPriceImpact := 1
  minBuyTriggerUsd := 0
  minMarketCapUsd := 0
  strategy := "pov"
  swapPath := none
  publicSlug := none
  publicSharingEnabled := true
  createdAt := id
  updatedAt := id

def poolRow (sessionId : Uuid) : PoolRow where
  sessionId := sessionId
  poolAddress := pool.poolAddress
  poolType := pool.poolType
  dexName := pool.dexName
  token0 := pool.token0
  token1 := pool.token1
  feeTier := pool.feeTier
  swapPath := none

def tradeRecord (id sessionId : Uuid) : TradeRecord where
  id := id
  sessionId := sessionId
  chain := "bsc"
  status := .confirmed
  triggerTxHash := "0xt"
  triggerPool := pool.poolAddress
  triggerLogIndex := 0
  sellAmount := 10
  sellTxHash := none
  sellPool := pool.poolAddress
  priceImpactBps := 0
  failureReason := none
  finalReceived := some 20
  finalToken := some target
  routeTxHash := none
  marketCapUsd := none
  executedAt := none
  createdAt := id

/-- Session 1 belongs to user 1, and session 2 to user 2. -/
def twoSessions : Tables where
  sessions := [sessionRecord 1 1, sessionRecord 2 2]
  pools := [poolRow 1, poolRow 2]
  trades := [tradeRecord 1 1, tradeRecord 2 2]
  session_ids := by decide

def oneSession : Tables where
  sessions := [sessionRecord 1 1]
  pools := [poolRow 1]
  trades := [tradeRecord 1 1]
  session_ids := by decide

def formats : Formats where
  rfc3339 := toString
  numericText := fun x => toString x.num

def viewEnv : ViewEnv where
  now := 100
  updates := true
  selectsSessions := true
  selectsPools := fun _ => true
  sessionConnects := true
  selects := true
  selectsTrades := true

end Sample

/-- User 1 asks for session 2, which is there in one of the two states only. -/
theorem view_eq_of_sameOwn_sample :
    (view Sample.settings Sample.library Sample.formats ⟨1, "common"⟩ Sample.twoSessions
        Sample.viewEnv (.getSession "111")).1 =
      (view Sample.settings Sample.library Sample.formats ⟨1, "common"⟩ Sample.oneSession
        Sample.viewEnv (.getSession "111")).1 :=
  ((view_eq_of_sameOwn Sample.settings Sample.formats Sample.library_exact rfl rfl).1
    Sample.twoSessions Sample.oneSession Sample.viewEnv (.getSession "111") ⟨rfl, rfl, rfl⟩).1

end Liquifier.Gateway
