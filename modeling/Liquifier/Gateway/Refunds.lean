import Liquifier.Gateway.Accounts
import Liquifier.Gateway.NewSessions
import Liquifier.SessionApi.Views

/-!
Refund requests: the request of a user, its confirmation by the token of an e-mail, and
the decision and the list of an administrator.

Each of the first three writes the status of a row. `rowAfter` says what a request
makes of a row, and `nextRefunds_refunds` that the rows after a request are the rows
before it, so changed, and at most one new row. Dollar amounts are exact rationals.
-/

namespace Liquifier.Gateway

open Kms SessionApi

/-! ### The table -/

inductive RefundStatus where
  | pending
  | approved
  | rejected
  | completed
  deriving DecidableEq

def RefundStatus.toText : RefundStatus → String
  | .pending => "pending"
  | .approved => "approved"
  | .rejected => "rejected"
  | .completed => "completed"

/-- A row of `refund_requests`, with the defaults of its columns. -/
structure RefundRow where
  id : Uuid
  userId : Uuid
  walletId : Uuid
  amount : String
  tokenAddress : String
  tokenSymbol : String
  status : RefundStatus := .pending
  adminNote : Option String := none
  createdAt : ℕ
  updatedAt : ℕ
  amountUsd : Option ℚ := none
  destinationWallet : Option String := none
  verificationToken : Option String := none
  verificationTokenExpiresAt : Option ℕ := none
  verified : Bool := false
  deriving DecidableEq

namespace RefundRow

/-- The primary key and the references to other tables. -/
def keys (r : RefundRow) : Uuid × Uuid × Uuid := (r.id, r.userId, r.walletId)

/-- `WHERE verification_token = $1 AND verification_token_expires_at > NOW() AND
verified = FALSE`. -/
def awaits (token : String) (now : ℕ) (r : RefundRow) : Bool :=
  r.verificationToken = some token && r.verificationTokenExpiresAt.any (now < ·) && !r.verified

/-- The `SET` of `verify_refund`. -/
def verify (now : ℕ) (r : RefundRow) : RefundRow :=
  { r with
    verified := true
    status := .pending
    verificationToken := none
    verificationTokenExpiresAt := none
    updatedAt := now }

/-- The `SET` of `admin_update_refund_status`. -/
def decide (status : RefundStatus) (adminNote : Option String) (now : ℕ) (r : RefundRow) :
    RefundRow :=
  { r with
    status := status
    adminNote := adminNote
    updatedAt := now }

/-- An administrator has put the request into another status. -/
def decided (r : RefundRow) : Bool := r.status ≠ .pending

end RefundRow

/-- The tables that refunds touch, with their references. -/
structure RefundStore where
  users : Users
  wallets : List WalletRow
  sessions : List SessionRow
  refunds : List RefundRow
  refund_ids : (refunds.map (·.id)).Nodup
  refund_users : ∀ r ∈ refunds, r.userId ∈ users.rows.map (·.id)
  refund_wallets : ∀ r ∈ refunds, r.walletId ∈ wallets.map (·.id)

namespace RefundStore

variable (db : RefundStore)

/-- `INSERT INTO refund_requests`; `none` is an error of the database. -/
def insert (row : RefundRow) (writes : Bool) : Option RefundStore :=
  if h : writes = true ∧ row.id ∉ db.refunds.map (·.id) ∧ row.userId ∈ db.users.rows.map (·.id) ∧
      row.walletId ∈ db.wallets.map (·.id) then
    some { db with
      refunds := db.refunds ++ [row]
      refund_ids := by
        rw [List.map_append]
        exact db.refund_ids.append (List.nodup_singleton _) (List.disjoint_singleton.mpr h.2.1)
      refund_users := by
        intro r hr
        rcases List.mem_append.mp hr with hr | hr
        · exact db.refund_users r hr
        · rw [List.mem_singleton.mp hr]
          exact h.2.2.1
      refund_wallets := by
        intro r hr
        rcases List.mem_append.mp hr with hr | hr
        · exact db.refund_wallets r hr
        · rw [List.mem_singleton.mp hr]
          exact h.2.2.2 }
  else none

/-- An `UPDATE` that makes `f r` of each row `r`. -/
def update (f : RefundRow → RefundRow) (hf : ∀ r, (f r).keys = r.keys) : RefundStore :=
  { db with
    refunds := db.refunds.map f
    refund_ids := by
      have hid : (fun r : RefundRow => r.id) ∘ f = fun r => r.id :=
        funext fun r => congrArg Prod.fst (hf r)
      rw [List.map_map, hid]
      exact db.refund_ids
    refund_users := by
      intro r hr
      obtain ⟨q, hq, rfl⟩ := List.mem_map.mp hr
      rw [show (f q).userId = q.userId from congrArg (·.2.1) (hf q)]
      exact db.refund_users q hq
    refund_wallets := by
      intro r hr
      obtain ⟨q, hq, rfl⟩ := List.mem_map.mp hr
      rw [show (f q).walletId = q.walletId from congrArg (·.2.2) (hf q)]
      exact db.refund_wallets q hq }

end RefundStore

/-! ### Requests -/

structure CreateRefundBody where
  amountUsd : ℚ
  destinationWallet : String

inductive RefundRequest where
  | create (user : AuthUser) (body : CreateRefundBody)
  | verify (token : Option String)
  | adminUpdate (user : AuthUser) (refundId status : String) (adminNote : Option String)

/-- What a request meets outside of the tables. -/
structure RefundEnv where
  now : ℕ
  /-- The query for the wallet succeeds. -/
  selects : Bool
  pick : ℕ
  kmsConnects : Bool
  /-- What the key service answers for the wallet and the sell token. -/
  balance : Option String
  /-- `resolve_cached_oracle_pool`. -/
  oraclePool : Except StatusCode String
  usdPrice36 : Option ℕ
  /-- `Uuid::new_v4` for the request. -/
  refundId : Uuid
  /-- `Uuid::new_v4` for its token. -/
  verificationToken : String
  /-- The `INSERT` or `UPDATE` finds the database. -/
  writes : Bool
  /-- The query for the e-mail succeeds. -/
  selectsEmail : Bool
  /-- An e-mail sender is configured. -/
  sendsEmail : Bool

/-- The e-mail that asks a user to confirm a request. -/
structure RefundMail where
  toEmail : String
  token : String
  amountUsd : ℚ
  destination : String

structure RefundReply where
  json : Json
  mail : Option RefundMail := none

/-- `format!("{x:.0}")`. -/
def roundTiesEven (x : ℚ) : ℤ :=
  let rest := x - x.floor
  if rest < 1 / 2 ∨ rest = 1 / 2 ∧ x.floor % 2 = 0 then x.floor else x.floor + 1

/-- `0x` and forty hexadecimal digits. -/
def validDestination (dest : String) : Bool :=
  "0x".toList.isPrefixOf dest.toList && dest.utf8ByteSize = 42 &&
    (decodeHex (dest.toList.drop 2)).isSome

/-- An hour in the unit of the clock, which is a second. -/
def hour : ℕ := 60 * 60

section Handlers

variable (cfg : Settings) (lib : Crates) (f64FromStr : String → Option ℚ) (db : RefundStore)
  (env : RefundEnv)

/-- `create_refund_request`, up to its `INSERT`. -/
def newRefund (user : AuthUser) (body : CreateRefundBody) : Except StatusCode RefundRow := do
  ensure (user.role = "common") .forbidden
  ensure (0 < body.amountUsd) .badRequest
  let dest := trim body.destinationWallet
  ensure (validDestination dest) .badRequest
  ensure env.selects .internalServerError
  let wallet ← okOr .notFound (limit1 (db.wallets.filter (·.userId = user.userId)) env.pick)
  let exec := cfg.execution
  ensure env.kmsConnects .serviceUnavailable
  let balance ← okOr .internalServerError env.balance
  let balanceRaw := (f64FromStr balance).getD 0 / 10 ^ exec.sellTokenDecimals
  let _ ← okOr .internalServerError (Address.parse exec.buyTriggerOracleAddress)
  let chainCfg ← okOr .internalServerError (cfg.chain exec.sessionChain)
  ensure (trim chainCfg.rpcUrl ≠ "") .internalServerError
  let _pool ← env.oraclePool
  let usdPrice36 ← okOr .internalServerError env.usdPrice36
  let tokenBalanceUsd := balanceRaw * (usdPrice36 / 10 ^ 36)
  ensure (body.amountUsd ≤ tokenBalanceUsd) .badRequest
  let usdPricePerToken := if 0 < balanceRaw then tokenBalanceUsd / balanceRaw else 0
  let tokenAmount := if 0 < usdPricePerToken then body.amountUsd / usdPricePerToken else 0
  return {
    id := env.refundId
    userId := user.userId
    walletId := wallet.id
    amount := toString (roundTiesEven (tokenAmount * 10 ^ exec.sellTokenDecimals))
    tokenAddress := exec.sellToken
    tokenSymbol := exec.sellTokenSymbol
    createdAt := env.now
    updatedAt := env.now
    amountUsd := some body.amountUsd
    destinationWallet := some dest
    verificationToken := some env.verificationToken
    verificationTokenExpiresAt := some (env.now + hour)
    verified := false }

/-- The end of `create_refund_request`: the e-mail and the answer. -/
def confirmRefund (row : RefundRow) (body : CreateRefundBody) : Except StatusCode RefundReply := do
  ensure env.selectsEmail .internalServerError
  let owner ← okOr .internalServerError (db.users.byId row.userId)
  return {
    json := .object [
      ("refund_id", .string (lib.uuidToString row.id)),
      ("status", .string "unverified"),
      ("message", .string "Please check your email to confirm this refund request.")]
    mail :=
      if env.sendsEmail then
        some ⟨owner.email, env.verificationToken, body.amountUsd, trim body.destinationWallet⟩
      else none }

def createRefundRequest (user : AuthUser) (body : CreateRefundBody) :
    Except StatusCode RefundReply × RefundStore :=
  match newRefund cfg f64FromStr db env user body with
  | .error status => (.error status, db)
  | .ok row =>
      match db.insert row env.writes with
      | none => (.error .internalServerError, db)
      | some db' => (confirmRefund lib db env row body, db')

/-- The `UPDATE` of `verify_refund`. -/
def RefundRow.verifyIf (token : String) (now : ℕ) (r : RefundRow) : RefundRow :=
  if r.awaits token now then r.verify now else r

theorem RefundRow.verifyIf_keys (token : String) (now : ℕ) (r : RefundRow) :
    (r.verifyIf token now).keys = r.keys := by
  unfold RefundRow.verifyIf
  split <;> rfl

def verifyRefund (token : Option String) : Except StatusCode RefundReply × RefundStore :=
  match token with
  | none => (.error .badRequest, db)
  | some token =>
      if env.writes then
        (((okOr .badRequest (db.refunds.find? (·.awaits token env.now))).map fun row => {
            json := .object [
              ("verified", .bool true),
              ("refund_id", .string (lib.uuidToString row.id)),
              ("message",
                .string "Refund request verified and submitted for admin review.")] }),
          db.update (·.verifyIf token env.now) (RefundRow.verifyIf_keys token env.now))
      else (.error .internalServerError, db)

def decisionFromStr : String → Option RefundStatus
  | "approved" => some .approved
  | "rejected" => some .rejected
  | "completed" => some .completed
  | _ => none

/-- The checks of `admin_update_refund_status`: the request and its new status. -/
def adminDecision (user : AuthUser) (refundId status : String) :
    Except StatusCode (Uuid × RefundStatus) := do
  ensure (user.role = "admin") .forbidden
  let status ← okOr .badRequest (decisionFromStr status)
  let id ← okOr .badRequest (lib.uuidFromStr refundId)
  return (id, status)

/-- The `UPDATE` of `admin_update_refund_status`. -/
def RefundRow.decideIf (id : Uuid) (status : RefundStatus) (adminNote : Option String) (now : ℕ)
    (r : RefundRow) : RefundRow :=
  if r.id = id then r.decide status adminNote now else r

theorem RefundRow.decideIf_keys (id : Uuid) (status : RefundStatus) (adminNote : Option String)
    (now : ℕ) (r : RefundRow) : (r.decideIf id status adminNote now).keys = r.keys := by
  unfold RefundRow.decideIf
  split <;> rfl

def adminUpdateRefundStatus (user : AuthUser) (refundId status : String)
    (adminNote : Option String) : Except StatusCode RefundReply × RefundStore :=
  match adminDecision lib user refundId status with
  | .error e => (.error e, db)
  | .ok (id, newStatus) =>
      if env.writes then
        (((ensure (db.refunds.any (·.id = id)) .notFound).map fun _ => {
            json := .object [("refund_id", .string refundId), ("status", .string status)] }),
          db.update (·.decideIf id newStatus adminNote env.now)
            (RefundRow.decideIf_keys id newStatus adminNote env.now))
      else (.error .internalServerError, db)

/-- `FROM refund_requests r JOIN users u … LEFT JOIN wallets w … WHERE r.verified = TRUE
ORDER BY r.created_at DESC`. -/
def listedRefunds : List (RefundRow × User × Option String) :=
  ((db.refunds.filter (·.verified)).insertionSort fun a b => b.createdAt ≤ a.createdAt).filterMap
    fun r => (db.users.byId r.userId).map fun u =>
      (r, u, (Table.get (·.id) db.wallets r.walletId).map (·.address))

def refundToJson (fmt : Formats) : RefundRow × User × Option String → Json
  | (r, u, walletAddress) =>
      let text (s : Option String) : Json := (s.map .string).getD .null
      .object [
        ("refund_id", .string (lib.uuidToString r.id)),
        ("user_id", .string (lib.uuidToString r.userId)),
        ("wallet_id", .string (lib.uuidToString r.walletId)),
        ("wallet_address", text walletAddress),
        ("email", .string u.email),
        ("username", text u.username),
        ("amount", .string r.amount),
        ("token_address", .string r.tokenAddress),
        ("token_symbol", .string r.tokenSymbol),
        ("status", .string r.status.toText),
        ("admin_note", text r.adminNote),
        ("created_at", .string (fmt.rfc3339 r.createdAt)),
        ("updated_at", .string (fmt.rfc3339 r.updatedAt)),
        ("amount_usd", text (r.amountUsd.map fmt.numericText)),
        ("destination_wallet", text r.destinationWallet),
        ("verified", .bool r.verified)]

def adminListRefundRequests (fmt : Formats) (user : AuthUser) (selects : Bool) :
    Except StatusCode Json := do
  ensure (user.role = "admin") .forbidden
  ensure selects .internalServerError
  return .object [("refunds", .array ((listedRefunds db).map (refundToJson lib fmt)))]

/-- The answer to a request and the tables after it. -/
def respondRefund : RefundRequest → Except StatusCode RefundReply × RefundStore
  | .create user body => createRefundRequest cfg lib f64FromStr db env user body
  | .verify token => verifyRefund lib db env token
  | .adminUpdate user refundId status adminNote =>
      adminUpdateRefundStatus lib db env user refundId status adminNote

def nextRefunds (e : RefundRequest × RefundEnv) : RefundStore :=
  (respondRefund cfg lib f64FromStr db e.2 e.1).2

end Handlers

/-! ### What an administrator is shown -/

section Listed

variable {lib : Crates} {db : RefundStore}

/-- The verified rows are listed, each with its user and the address of its wallet. -/
theorem mem_listedRefunds {entry : RefundRow × User × Option String} :
    entry ∈ listedRefunds db ↔ entry.1 ∈ db.refunds ∧ entry.1.verified = true ∧
      db.users.byId entry.1.userId = some entry.2.1 ∧
      entry.2.2 = (Table.get (·.id) db.wallets entry.1.walletId).map (·.address) := by
  obtain ⟨r, u, walletAddress⟩ := entry
  simp only [listedRefunds, List.mem_filterMap, List.mem_insertionSort, List.mem_filter,
    Option.map_eq_some_iff, Prod.mk.injEq]
  constructor
  · rintro ⟨r, ⟨hr, hverified⟩, u, hu, rfl, rfl, rfl⟩
    exact ⟨hr, hverified, hu, rfl⟩
  · rintro ⟨hr, hverified, hu, rfl⟩
    exact ⟨r, ⟨hr, hverified⟩, u, hu, rfl, rfl, rfl⟩

/-- An administrator is shown the verified requests, and all of them. -/
theorem adminListRefundRequests_verified {fmt : Formats} {user : AuthUser} {selects : Bool}
    {json : Json} (h : adminListRefundRequests lib db fmt user selects = .ok json) :
    user.role = "admin" ∧ ∃ shown : List Json, json.get "refunds" = some (.array shown) ∧
      (∀ j ∈ shown, ∃ r ∈ db.refunds, r.verified = true ∧
        j.get "refund_id" = some (.string (lib.uuidToString r.id))) ∧
      ∀ r ∈ db.refunds, r.verified = true → ∃ j ∈ shown,
        j.get "refund_id" = some (.string (lib.uuidToString r.id)) := by
  simp only [adminListRefundRequests, bind_eq_ok, ensure_eq_ok, pure, Except.pure,
    Except.ok.injEq] at h
  obtain ⟨_, hadmin, _, -, rfl⟩ := h
  refine ⟨of_decide_eq_true hadmin, _, rfl, fun j hj => ?_, fun r hr hverified => ?_⟩
  · obtain ⟨entry, hentry, rfl⟩ := List.mem_map.mp hj
    obtain ⟨hr, hverified, -⟩ := mem_listedRefunds.mp hentry
    exact ⟨entry.1, hr, hverified, rfl⟩
  · obtain ⟨u, hu, hid⟩ := List.mem_map.mp (db.refund_users r hr)
    have huser : db.users.byId r.userId = some u := hid ▸ Table.get_of_mem db.users.ids_nodup hu
    let address := (Table.get (·.id) db.wallets r.walletId).map (·.address)
    have hlisted : (r, u, address) ∈ listedRefunds db :=
      mem_listedRefunds.mpr ⟨hr, hverified, huser, rfl⟩
    exact ⟨_, List.mem_map_of_mem hlisted, rfl⟩

end Listed

/-! ### What a request does -/

/-- What a request makes of a row. -/
def rowAfter (lib : Crates) (e : RefundRequest × RefundEnv) (r : RefundRow) : RefundRow :=
  match e.1 with
  | .create _ _ => r
  | .verify token =>
      if e.2.writes then (token.map fun token => r.verifyIf token e.2.now).getD r else r
  | .adminUpdate user refundId status adminNote =>
      if e.2.writes then
        match adminDecision lib user refundId status with
        | .ok (id, newStatus) => r.decideIf id newStatus adminNote e.2.now
        | .error _ => r
      else r

/-- A row as a request adds it. -/
def Requested (r : RefundRow) : Prop := r.status = .pending ∧ r.verified = false

variable {cfg : Settings} {lib : Crates} {f64FromStr : String → Option ℚ} {db : RefundStore}

/-- The request that an administrator's update decides, if it is there. -/
def decidedId (lib : Crates) (e : RefundRequest × RefundEnv) : Option Uuid :=
  match e.1 with
  | .adminUpdate user refundId status _ =>
      if e.2.writes then (adminDecision lib user refundId status).toOption.map Prod.fst else none
  | _ => none

/-- All that a request can make of a row. -/
inductive RowCases (lib : Crates) (e : RefundRequest × RefundEnv) (r : RefundRow) : Prop
  | kept (eq : rowAfter lib e r = r) (id_ne : decidedId lib e ≠ some r.id)
  | verified {token : String} (request : e.1 = .verify (some token))
      (awaits : r.awaits token e.2.now = true) (eq : rowAfter lib e r = r.verify e.2.now)
  | decided {status : RefundStatus} {adminNote : Option String} (status_ne : status ≠ .pending)
      (id_eq : decidedId lib e = some r.id)
      (eq : rowAfter lib e r = r.decide status adminNote e.2.now)

theorem decisionFromStr_ne_pending {s : String} {status : RefundStatus}
    (h : decisionFromStr s = some status) : status ≠ .pending := by
  unfold decisionFromStr at h
  split at h <;> cases h <;> decide

theorem adminDecision_ne_pending {user : AuthUser} {refundId s : String} {id : Uuid}
    {status : RefundStatus} (h : adminDecision lib user refundId s = .ok (id, status)) :
    status ≠ .pending := by
  simp only [adminDecision, bind_eq_ok, okOr_eq_ok] at h
  obtain ⟨-, -, status', hstatus, id', -, heq⟩ := h
  obtain ⟨-, rfl⟩ := Prod.mk.inj (Except.ok.inj heq)
  exact decisionFromStr_ne_pending hstatus

theorem rowAfter_cases (lib : Crates) (e : RefundRequest × RefundEnv) (r : RefundRow) :
    RowCases lib e r := by
  obtain ⟨request, env⟩ := e
  cases request with
  | create user body => exact .kept rfl (by simp [decidedId])
  | verify token =>
      by_cases hwrites : env.writes = true
      · cases token with
        | none => exact .kept (if_pos hwrites) (by simp [decidedId])
        | some token =>
            have hrow : rowAfter lib (.verify (some token), env) r = r.verifyIf token env.now :=
              if_pos hwrites
            by_cases hawaits : r.awaits token env.now = true
            · exact .verified rfl hawaits (hrow.trans (if_pos hawaits))
            · exact .kept (hrow.trans (if_neg hawaits)) (by simp [decidedId])
      · exact .kept (if_neg hwrites) (by simp [decidedId])
  | adminUpdate user refundId status adminNote =>
      by_cases hwrites : env.writes = true
      · cases hdecision : adminDecision lib user refundId status with
        | error error =>
            exact .kept (by simp only [rowAfter, hwrites, if_true, hdecision])
              (by simp [decidedId, hdecision, Except.toOption])
        | ok decision =>
            obtain ⟨id, newStatus⟩ := decision
            have hrow : rowAfter lib (.adminUpdate user refundId status adminNote, env) r =
                r.decideIf id newStatus adminNote env.now := by
              simp only [rowAfter, hwrites, if_true, hdecision]
            have hdecided : decidedId lib (.adminUpdate user refundId status adminNote, env) =
                some id := by
              simp [decidedId, hwrites, hdecision, Except.toOption]
            by_cases hid : r.id = id
            · exact .decided (adminDecision_ne_pending hdecision) (hid ▸ hdecided)
                (hrow.trans (if_pos hid))
            -- the statement is about another row
            · refine .kept (hrow.trans (if_neg hid)) ?_
              rw [hdecided]
              exact fun h => hid (Option.some.inj h).symm
      · exact .kept (if_neg hwrites) (by simp [decidedId, hwrites])

theorem rowAfter_id (e : RefundRequest × RefundEnv) (r : RefundRow) :
    (rowAfter lib e r).id = r.id := by
  cases rowAfter_cases lib e r with
  | kept heq => rw [heq]
  | verified _ _ heq =>
      rw [heq]
      rfl
  | decided _ _ heq =>
      rw [heq]
      rfl

/-- A new row is neither decided nor verified, and it carries the token that was drawn. -/
theorem newRefund_row {env : RefundEnv} {user : AuthUser} {body : CreateRefundBody}
    {row : RefundRow} (h : newRefund cfg f64FromStr db env user body = .ok row) :
    Requested row ∧ row.verificationToken = some env.verificationToken := by
  simp only [newRefund, bind_eq_ok] at h
  obtain ⟨-, -, -, -, -, -, -, -, wallet, -, -, -, balance, -, -, -, chainCfg, -, -, -, -, -,
    usdPrice36, -, -, -, h⟩ := h
  obtain rfl := Except.ok.inj h
  exact ⟨⟨rfl, rfl⟩, rfl⟩

theorem insert_refunds {row : RefundRow} {writes : Bool} {db' : RefundStore}
    (h : db.insert row writes = some db') :
    db'.refunds = db.refunds ++ [row] ∧ row.id ∉ db.refunds.map (·.id) := by
  unfold RefundStore.insert at h
  split at h
  · rename_i hinsert
    obtain rfl := Option.some.inj h
    exact ⟨rfl, hinsert.2.1⟩
  · cases h

theorem insert_eq_none {row : RefundRow} {writes : Bool} :
    db.insert row writes = none ↔ ¬ (writes = true ∧ row.id ∉ db.refunds.map (·.id) ∧
      row.userId ∈ db.users.rows.map (·.id) ∧ row.walletId ∈ db.wallets.map (·.id)) := by
  unfold RefundStore.insert
  split
  · rename_i hinsert
    exact ⟨fun h => absurd h (Option.some_ne_none _), fun h => absurd hinsert h⟩
  · rename_i hrefused
    exact ⟨fun _ => hrefused, fun _ => rfl⟩

/-- The rows after a request are the rows before it, as `rowAfter` has them, and at most
one more. -/
theorem nextRefunds_refunds (cfg : Settings) (lib : Crates) (f64FromStr : String → Option ℚ)
    (db : RefundStore) (e : RefundRequest × RefundEnv) :
    ∃ new, (nextRefunds cfg lib f64FromStr db e).refunds = db.refunds.map (rowAfter lib e) ++ new ∧
      ∀ r ∈ new, Requested r ∧ r.id ∉ db.refunds.map (·.id) := by
  -- most ways out leave the table as it is
  have hkept {rows : List RefundRow} (hrows : rows = db.refunds)
      (hsame : ∀ r, rowAfter lib e r = r) : ∃ new, rows = db.refunds.map (rowAfter lib e) ++ new ∧
        ∀ r ∈ new, Requested r ∧ r.id ∉ db.refunds.map (·.id) := by
    refine ⟨[], ?_, by simp⟩
    rw [hrows, List.append_nil, funext hsame, List.map_id']
  obtain ⟨request, env⟩ := e
  cases request with
  | create user body =>
      simp only [nextRefunds, respondRefund, createRefundRequest]
      split
      · exact hkept rfl fun _ => rfl
      · rename_i row hrow
        split
        · exact hkept rfl fun _ => rfl
        · rename_i db' hinsert
          obtain ⟨hrefunds, hfresh⟩ := insert_refunds hinsert
          refine ⟨[row], ?_, ?_⟩
          · rw [hrefunds]
            exact congrArg (· ++ [row]) (List.map_id' _).symm
          · intro r hr
            rw [List.mem_singleton.mp hr]
            exact ⟨(newRefund_row hrow).1, hfresh⟩
  | verify token =>
      cases token with
      | none =>
          refine hkept rfl fun r => ?_
          simp only [rowAfter]
          split <;> rfl
      | some token =>
          simp only [nextRefunds, respondRefund, verifyRefund]
          split
          · rename_i hwrites
            refine ⟨[], ?_, by simp⟩
            rw [List.append_nil]
            refine List.map_congr_left fun r _ => ?_
            simp only [rowAfter, hwrites, if_true, Option.map_some, Option.getD_some]
          · rename_i hwrites
            exact hkept rfl fun r => if_neg hwrites
  | adminUpdate user refundId status adminNote =>
      simp only [nextRefunds, respondRefund, adminUpdateRefundStatus]
      split
      · rename_i error herror
        refine hkept rfl fun r => ?_
        simp only [rowAfter, herror]
        split <;> rfl
      · rename_i id newStatus hdecision
        split
        · rename_i hwrites
          refine ⟨[], ?_, by simp⟩
          rw [List.append_nil]
          refine List.map_congr_left fun r _ => ?_
          simp only [rowAfter, hwrites, if_true, hdecision]
        · rename_i hwrites
          exact hkept rfl fun r => if_neg hwrites

end Liquifier.Gateway
