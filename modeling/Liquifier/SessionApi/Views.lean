import Liquifier.SessionApi.Session
import Liquifier.Store.Database
import Mathlib.Data.List.Sort

/-!
What the session service answers about the sessions that are stored, and the switch
of their public sharing.

The columns that only these answers read are added to the rows of the other modules
here. Rows that an `ORDER BY` leaves equal keep the order in which they are stored, and
texts are compared character by character.
-/

namespace Liquifier.SessionApi

/-! ### Rows and tables -/

/-- A row of `sessions` with the columns that are only shown. -/
structure SessionRecord extends SessionRow where
  strategy : String
  swapPath : Option Json
  publicSlug : Option String
  publicSharingEnabled : Bool
  createdAt : ℕ
  updatedAt : ℕ

def SessionRecord.share (row : SessionRecord) (enabled : Bool) (now : ℕ) : SessionRecord :=
  { row with publicSharingEnabled := enabled, updatedAt := now }

@[simp] theorem share_id (row : SessionRecord) (enabled : Bool) (now : ℕ) :
    (row.share enabled now).id = row.id := rfl

@[simp] theorem share_userId (row : SessionRecord) (enabled : Bool) (now : ℕ) :
    (row.share enabled now).userId = row.userId := rfl

/-- A row of `session_pools`. -/
structure PoolRow where
  sessionId : Uuid
  poolAddress : String
  poolType : String
  dexName : String
  token0 : String
  token1 : String
  feeTier : ℕ
  swapPath : Option Json

/-- A row of `trades` with the columns that are only shown. -/
structure TradeRecord extends TradeRow where
  routeTxHash : Option String
  marketCapUsd : Option ℚ
  executedAt : Option ℕ
  createdAt : ℕ

structure Tables where
  sessions : List SessionRecord
  pools : List PoolRow
  trades : List TradeRecord
  session_ids : (sessions.map (·.id)).Nodup

def statusText : SessionStatus → String
  | .pending => "pending"
  | .active => "active"
  | .paused => "paused"
  | .completed => "completed"
  | .cancelled => "cancelled"
  | .error => "error"

/-- How times and numbers with a fraction are printed. -/
structure Formats where
  /-- `to_rfc3339`. -/
  rfc3339 : ℕ → String
  /-- `::text` of a `NUMERIC` column. -/
  numericText : ℚ → String

/-- The message `SessionInfo`. -/
structure SessionMessage where
  sessionId : String
  userId : String
  walletId : String
  chain : String
  status : String
  sellToken : String
  sellTokenSymbol : String
  sellTokenDecimals : ℕ
  targetToken : String
  targetTokenSymbol : String
  targetTokenDecimals : ℕ
  strategy : String
  totalAmount : String
  amountSold : String
  povPercent : ℚ
  maxPriceImpact : ℚ
  minBuyTriggerUsd : ℚ
  minMarketCapUsd : ℚ
  swapPathJson : String
  publicSlug : String
  publicSharingEnabled : Bool
  createdAt : String
  updatedAt : String
  pools : List PoolInfo

/-! ### Queries -/

section Queries

variable (lib : Library) (fmt : Formats) (db : Tables)

def rowToSessionInfo (row : SessionRecord) : SessionMessage where
  sessionId := lib.uuidToString row.id
  userId := lib.uuidToString row.userId
  walletId := lib.uuidToString row.walletId
  chain := row.chain
  status := statusText row.status
  sellToken := row.sellToken
  sellTokenSymbol := row.sellTokenSymbol
  sellTokenDecimals := row.sellTokenDecimals
  targetToken := row.targetToken
  targetTokenSymbol := row.targetTokenSymbol
  targetTokenDecimals := row.targetTokenDecimals
  strategy := row.strategy
  totalAmount := toString row.totalAmount
  amountSold := toString row.amountSold
  povPercent := row.povPercent
  maxPriceImpact := row.maxPriceImpact
  minBuyTriggerUsd := row.minBuyTriggerUsd
  minMarketCapUsd := row.minMarketCapUsd
  swapPathJson := (row.swapPath.map lib.jsonToString).getD ""
  publicSlug := row.publicSlug.getD ""
  publicSharingEnabled := row.publicSharingEnabled
  createdAt := fmt.rfc3339 row.createdAt
  updatedAt := fmt.rfc3339 row.updatedAt
  pools := []

def fetchSession (sessionId : Uuid) : Option SessionMessage :=
  (Table.get (·.id) db.sessions sessionId).map (rowToSessionInfo lib fmt)

def PoolRow.info (row : PoolRow) : PoolInfo where
  poolAddress := row.poolAddress
  poolType := row.poolType
  dexName := row.dexName
  token0 := row.token0
  token1 := row.token1
  feeTier := row.feeTier
  swapPathJson := (row.swapPath.map lib.jsonToString).getD ""

/-- `ORDER BY dex_name, pool_type::text, fee_tier`. -/
def PoolRow.before (p q : PoolRow) : Bool :=
  ((compare p.dexName q.dexName).then
    ((compare p.poolType q.poolType).then (compare p.feeTier q.feeTier))).isLE

def fetchSessionPools (sessionId : Uuid) : List PoolInfo :=
  ((db.pools.filter (·.sessionId = sessionId)).insertionSort fun p q => p.before q).map
    (PoolRow.info lib)

end Queries

/-! ### Handlers -/

/-- Whether the statements of a handler succeed, and the time at which they run. -/
structure ViewAnswers where
  now : ℕ
  updates : Bool
  selectsSessions : Bool
  /-- For the id of a session. -/
  selectsPools : Uuid → Bool

section Handlers

variable (lib : Library) (fmt : Formats) (db : Tables) (ans : ViewAnswers)

/-- The end of the handlers that answer one session. -/
def sessionWithPools (sessionId : Uuid) : Except Status SessionMessage := do
  ensure ans.selectsSessions dbError
  let info ← okOr (.notFound "Session not found") (fetchSession lib fmt db sessionId)
  ensure (ans.selectsPools sessionId) dbError
  return { info with pools := fetchSessionPools lib db sessionId }

def getSession (sessionId : String) : Except Status SessionMessage := do
  let sessionId ← okOr (invalidArgument "Invalid session_id") (lib.uuidFromStr sessionId)
  sessionWithPools lib fmt db ans sessionId

/-- `ORDER BY created_at DESC`. -/
def newestFirst (rows : List SessionRecord) : List SessionRecord :=
  rows.insertionSort fun a b => b.createdAt ≤ a.createdAt

/-- A session in a list; its pools are left out where the query for them fails. -/
def listedSession (row : SessionRecord) : SessionMessage :=
  let info := rowToSessionInfo lib fmt row
  let sid := (lib.uuidFromStr info.sessionId).getD 0
  { info with pools := if ans.selectsPools sid then fetchSessionPools lib db sid else [] }

/-- `list_sessions`; an empty user id lists all of them. -/
def listSessions (userId : String) : Except Status (List SessionMessage) := do
  let rows ←
    if userId = "" then do
      ensure ans.selectsSessions dbError
      pure (newestFirst db.sessions)
    else do
      let userId ← okOr (invalidArgument "Invalid user_id") (lib.uuidFromStr userId)
      ensure ans.selectsSessions dbError
      pure (newestFirst (db.sessions.filter (·.userId = userId)))
  return rows.map (listedSession lib fmt db ans)

/-- `UPDATE sessions SET public_sharing_enabled = $1, updated_at = NOW() WHERE id = $2`. -/
def Tables.setSharing (sessionId : Uuid) (enabled : Bool) (now : ℕ) : Tables :=
  { db with
    sessions := Table.update (·.id) db.sessions sessionId fun row => row.share enabled now
    session_ids := by
      rw [Table.map_update fun row => share_id row enabled now]
      exact db.session_ids }

/-- `toggle_public_sharing`: its answer and the tables after it. -/
def togglePublicSharing (sessionId : String) (enabled : Bool) :
    Except Status SessionMessage × Tables :=
  match lib.uuidFromStr sessionId with
  | none => (.error (invalidArgument "Invalid session_id"), db)
  | some sessionId =>
      if ans.updates then
        let db' := db.setSharing sessionId enabled ans.now
        (sessionWithPools lib fmt db' ans sessionId, db')
      else (.error dbError, db)

variable {lib db}

theorem mem_newestFirst {rows : List SessionRecord} {row : SessionRecord} :
    row ∈ newestFirst rows ↔ row ∈ rows := List.mem_insertionSort _

theorem getSession_of_id {sessionId : String} {id : Uuid}
    (hid : lib.uuidFromStr sessionId = some id) :
    getSession lib fmt db ans sessionId = sessionWithPools lib fmt db ans id := by
  rw [getSession, hid]
  rfl

theorem togglePublicSharing_of_id {sessionId : String} {id : Uuid}
    (hid : lib.uuidFromStr sessionId = some id) (enabled : Bool) :
    togglePublicSharing lib fmt db ans sessionId enabled =
      if ans.updates then
        (sessionWithPools lib fmt (db.setSharing id enabled ans.now) ans id,
          db.setSharing id enabled ans.now)
      else (.error dbError, db) := by
  rw [togglePublicSharing, hid]

theorem listSessions_of_user {userId : String} {id : Uuid} (hne : userId ≠ "")
    (hid : lib.uuidFromStr userId = some id) :
    listSessions lib fmt db ans userId =
      (ensure ans.selectsSessions dbError).map fun _ =>
        (newestFirst (db.sessions.filter (·.userId = id))).map (listedSession lib fmt db ans) := by
  rw [listSessions, if_neg hne, hid]
  cases ans.selectsSessions <;> rfl

end Handlers

end Liquifier.SessionApi
