import Liquifier.Gateway.Sessions
import Liquifier.Kms.Wallets
import Liquifier.Lib.Trace

/-!
The sessions that requests create, over the tables of wallets and sessions.

A request passes three services. The gateway asks the key service for the balance of
the wallet, which it names by its id alone, and the session service stores the id of
a user and the id of a wallet side by side. `create_session` takes the wallet and the
chain from the body of the request; `start_selling` takes both from a wallet of the
caller, and for an administrator `create_session` looks the owner of the wallet up.
Requests are served one after another, with what the other services answer them.
-/

namespace Liquifier.Gateway

open SessionApi Kms

/-! ### The tables -/

/-- The tables `wallets` and `sessions` with their keys, and the reference from a
session to its wallet. -/
structure SessionStore where
  wallets : List WalletRow
  sessions : List SessionRow
  wallet_ids : (wallets.map (·.id)).Nodup
  session_ids : (sessions.map (·.id)).Nodup
  session_wallets : ∀ s ∈ sessions, s.walletId ∈ wallets.map (·.id)

/-- `INSERT INTO sessions`. It is refused for an id that is taken and for a wallet that
is not there, and may fail for other reasons. -/
def SessionStore.insert (db : SessionStore) (row : SessionRow) (inserts : Bool) : SessionStore :=
  if h : inserts = true ∧ row.id ∉ db.sessions.map (·.id) ∧
      row.walletId ∈ db.wallets.map (·.id) then
    { db with
      sessions := db.sessions ++ [row]
      session_ids := by
        rw [List.map_append]
        exact db.session_ids.append (List.nodup_singleton _)
          (List.disjoint_singleton.mpr h.2.1)
      session_wallets := by
        intro s hs
        rcases List.mem_append.mp hs with hs | hs
        · exact db.session_wallets s hs
        · rw [List.mem_singleton.mp hs]
          exact h.2.2 }
  else db

/-- The row that the request to the session service adds to `sessions`. The statements
for its pools come later, and a failure of theirs does not take it back. -/
def sessionRow (lib : Library) (req : CreateSessionRequest) (sessionId : Uuid) :
    Option SessionRow :=
  (SessionApi.createSession lib req ⟨sessionId, true, true⟩).toOption.map (·.row)

/-- One of the rows of a query with `LIMIT 1` and no order. -/
def limit1 {ρ : Type} (rows : List ρ) (pick : ℕ) : Option ρ := rows[pick % rows.length]?

/-! ### Requests -/

/-- What a request meets outside of the two tables. -/
structure RequestEnv where
  sessionConnects : Bool
  kmsConnects : Bool
  /-- The gateway's own query succeeds. -/
  selects : Bool
  /-- The query of the key service succeeds. -/
  kmsSelects : Bool
  nodes : Nodes
  pick : ℕ
  minBuyTriggerUsd : ℚ
  discovered : Option (List PoolInfo)
  path : Option (Option SwapPath)
  sessionId : Uuid
  inserts : Bool

inductive SessionRequest where
  | create (user : AuthUser) (body : CreateSessionBody) (env : RequestEnv)
  | start (user : AuthUser) (env : RequestEnv)

def SessionRequest.env : SessionRequest → RequestEnv
  | .create _ _ env => env
  | .start _ env => env

section Requests

variable (cfg : Settings) (lib : Library) (db : SessionStore)

def balanceText (env : RequestEnv) (walletId tokenAddress : String) : Option String :=
  (getBalance cfg lib.uuidFromStr env.nodes db.wallets env.kmsSelects
    ⟨walletId, tokenAddress, ""⟩).toOption.map (·.balance)

/-- `SELECT user_id::text FROM wallets WHERE id = $1::uuid`. -/
def walletOwner (env : RequestEnv) (walletId : String) : Option (Option String) :=
  if env.selects then
    (lib.uuidFromStr walletId).map fun id =>
      (Table.get (·.id) db.wallets id).map fun w => lib.uuidToString w.userId
  else none

/-- `SELECT … FROM wallets WHERE user_id = $1 LIMIT 1`. -/
def pickWallet (env : RequestEnv) (user : AuthUser) : Option WalletRow :=
  limit1 (db.wallets.filter (·.userId = user.userId)) env.pick

/-- The request of the gateway to the session service. -/
def sessionRequest : SessionRequest → Except StatusCode CreateSessionRequest
  | .create user body env =>
      createSession cfg lib user body {
        sessionConnects := env.sessionConnects
        kmsConnects := env.kmsConnects
        balance := balanceText cfg lib db env body.walletId
          (cfg.normalizeTokenForChain body.chain body.sellToken)
        walletOwner := walletOwner lib db env body.walletId }
  | .start user env =>
      let wallet := pickWallet db env user
      startSelling cfg lib user {
        wallet :=
          if env.selects then some (wallet.map fun w => (lib.uuidToString w.id, w.chain))
          else none
        kmsConnects := env.kmsConnects
        balance := wallet.bind fun w =>
          balanceText cfg lib db env (lib.uuidToString w.id) cfg.execution.sellToken
        minBuyTriggerUsd := env.minBuyTriggerUsd
        sessionConnects := env.sessionConnects
        discovered := env.discovered
        path := env.path }

def requestedRow (req : SessionRequest) : Option SessionRow :=
  (sessionRequest cfg lib db req).toOption.bind fun r => sessionRow lib r req.env.sessionId

def nextSession (req : SessionRequest) : SessionStore :=
  match requestedRow cfg lib db req with
  | some row => db.insert row req.env.inserts
  | none => db

end Requests

/-! ### What a row has from its request -/

variable {cfg : Settings} {lib : Library} {db : SessionStore}

/-- The columns of a new row. -/
structure RowOf (lib : Library) (req : CreateSessionRequest) (row : SessionRow) : Prop where
  userId : lib.uuidFromStr req.userId = some row.userId
  walletId : lib.uuidFromStr req.walletId = some row.walletId
  chain : row.chain = req.chain
  status : row.status = .pending
  sellToken : row.sellToken = req.sellToken
  totalAmount : lib.numericFromStr req.totalAmount = some row.totalAmount
  amountSold : row.amountSold = 0

theorem sessionRow_rowOf {req : CreateSessionRequest} {id : Uuid} {row : SessionRow}
    (h : sessionRow lib req id = some row) : RowOf lib req row := by
  obtain ⟨stored, hstored, rfl⟩ := Option.map_eq_some_iff.mp h
  have hok := ok_of_toOption hstored
  simp only [SessionApi.createSession, bind_eq_ok, okOr_eq_ok, pure, Except.pure,
    Except.ok.injEq] at hok
  obtain ⟨userId, huser, walletId, hwallet, _, _, _, _, _, _, total, htotal, _, _, rfl⟩ := hok
  exact ⟨huser, hwallet, rfl, rfl, rfl, htotal, rfl⟩

/-- What `create_session` asks of the session service. -/
structure CreateAsks (cfg : Settings) (lib : Library) (user : AuthUser) (body : CreateSessionBody)
    (ans : CreateSessionAnswers) (req : CreateSessionRequest) : Prop where
  walletId : req.walletId = body.walletId
  chain : req.chain = body.chain
  sellToken : req.sellToken = cfg.normalizeTokenForChain body.chain body.sellToken
  totalAmount : req.totalAmount = body.totalAmount
  amount : ∃ n, u128FromStr body.totalAmount = some n
  owner : user.role = "admin" → ans.walletOwner = some (some req.userId)
  caller : user.role ≠ "admin" → req.userId = lib.uuidToString user.userId

theorem createSession_asks {user : AuthUser} {body : CreateSessionBody}
    {ans : CreateSessionAnswers} {req : CreateSessionRequest}
    (h : createSession cfg lib user body ans = .ok req) :
    CreateAsks cfg lib user body ans req := by
  simp only [createSession, bind_eq_ok, okOr_eq_ok] at h
  obtain ⟨_, _, _, _, _, _, _, _, _, _, amount, hamount, _, _, h⟩ := h
  by_cases hadmin : user.role = "admin"
  · rw [if_pos hadmin] at h
    obtain ⟨owner, howner, h⟩ := bind_eq_ok.mp h
    obtain ⟨userId, huser, h⟩ := bind_eq_ok.mp h
    obtain rfl := Except.ok.inj h
    refine ⟨rfl, rfl, by simp only, rfl, ⟨amount, hamount⟩, fun _ => ?_, fun h => absurd hadmin h⟩
    rw [okOr_eq_ok.mp howner, okOr_eq_ok.mp huser]
  · rw [if_neg hadmin, pure_bind] at h
    obtain rfl := Except.ok.inj h
    exact ⟨rfl, rfl, by simp only, rfl, ⟨amount, hamount⟩, fun h => absurd h hadmin, fun _ => rfl⟩

/-- What `start_selling` asks of the session service. -/
structure StartAsks (cfg : Settings) (lib : Library) (user : AuthUser) (ans : StartSellingAnswers)
    (req : CreateSessionRequest) : Prop where
  wallet : ans.wallet = some (some (req.walletId, req.chain))
  caller : req.userId = lib.uuidToString user.userId
  sellToken : req.sellToken = cfg.execution.sellToken
  balance : ans.balance = some req.totalAmount

theorem startSelling_asks {user : AuthUser} {ans : StartSellingAnswers} {req : CreateSessionRequest}
    (h : startSelling cfg lib user ans = .ok req) : StartAsks cfg lib user ans req := by
  simp only [startSelling, bind_eq_ok, okOr_eq_ok] at h
  obtain ⟨_, _, wallet, hwallet, ⟨walletId, chain⟩, rfl, _, _, balance, hbalance, h⟩ := h
  obtain ⟨_, _, _, _, _, _, _, _, _, _, _, _, _, _, _, _, _, _, h⟩ := h
  cases h
  refine ⟨?_, rfl, rfl, hbalance⟩
  have hchain : (if chain = cfg.execution.sessionChain then cfg.execution.sessionChain else chain) =
      chain := by
    split
    · exact Eq.symm ‹_›
    · rfl
  exact hwallet.trans (by rw [hchain])

/-- All that a request can do. -/
theorem nextSession_cases (cfg : Settings) (lib : Library) (db : SessionStore)
    (req : SessionRequest) :
    nextSession cfg lib db req = db ∨
      ∃ row, requestedRow cfg lib db req = some row ∧
        (nextSession cfg lib db req).sessions = db.sessions ++ [row] ∧
        (nextSession cfg lib db req).wallets = db.wallets ∧
        row.walletId ∈ db.wallets.map (·.id) := by
  unfold nextSession
  split
  · rename_i row hrow
    unfold SessionStore.insert
    split
    · rename_i hinserts
      exact .inr ⟨row, hrow, rfl, rfl, hinserts.2.2⟩
    · exact .inl rfl
  · exact .inl rfl

/-! ### Wallets of the user -/

/-- The documented behaviour of the `uuid` crate. -/
structure Exact (lib : Library) : Prop where
  uuid : ∀ id, lib.uuidFromStr (lib.uuidToString id) = some id

/-- The wallet of the session belongs to its user and is on its chain. -/
def HasOwnWallet (db : SessionStore) (s : SessionRow) : Prop :=
  ∃ w ∈ db.wallets, w.id = s.walletId ∧ w.userId = s.userId ∧ w.chain = s.chain

instance (db : SessionStore) (s : SessionRow) : Decidable (HasOwnWallet db s) :=
  inferInstanceAs (Decidable (∃ w ∈ db.wallets, _))

def OwnWallets (db : SessionStore) : Prop := ∀ s ∈ db.sessions, HasOwnWallet db s

/-- The wallet of the body is on the chain of the body, and it is the caller's unless the
caller is an administrator. -/
def NamesOwnWallet (lib : Library) (db : SessionStore) : SessionRequest → Prop
  | .create user body _ =>
      ∀ w ∈ db.wallets, lib.uuidFromStr body.walletId = some w.id →
        w.chain = body.chain ∧ (user.role = "admin" ∨ w.userId = user.userId)
  | .start _ _ => True

instance (lib : Library) (db : SessionStore) (req : SessionRequest) :
    Decidable (NamesOwnWallet lib db req) :=
  match req with
  | .create _ _ _ => inferInstanceAs (Decidable (∀ w ∈ db.wallets, _))
  | .start _ _ => isTrue trivial

theorem wallet_eq_of_id {w v : WalletRow} (hw : w ∈ db.wallets) (hv : v ∈ db.wallets)
    (h : w.id = v.id) : w = v :=
  List.inj_on_of_nodup_map db.wallet_ids hw hv h

theorem hasOwnWallet_iff_of_mem {w : WalletRow} {row : SessionRow} (hw : w ∈ db.wallets)
    (hid : w.id = row.walletId) :
    HasOwnWallet db row ↔ w.userId = row.userId ∧ w.chain = row.chain := by
  constructor
  · rintro ⟨v, hv, hvid, huser, hchain⟩
    rw [wallet_eq_of_id hw hv (hid.trans hvid.symm)]
    exact ⟨huser, hchain⟩
  · intro h
    exact ⟨w, hw, hid, h⟩

theorem namesOwnWallet_create_iff {user : AuthUser} {body : CreateSessionBody} {env : RequestEnv}
    {w : WalletRow} (hw : w ∈ db.wallets) (hid : lib.uuidFromStr body.walletId = some w.id) :
    NamesOwnWallet lib db (.create user body env) ↔
      w.chain = body.chain ∧ (user.role = "admin" ∨ w.userId = user.userId) := by
  refine ⟨fun h => h w hw hid, fun h v hv hvid => ?_⟩
  rw [← wallet_eq_of_id hw hv (Option.some.inj (hid.symm.trans hvid))]
  exact h

/-- The owner of the wallet that an administrator names. -/
theorem owner_of_walletOwner {env : RequestEnv} {walletId owner : String} {w : WalletRow}
    (hw : w ∈ db.wallets) (hid : lib.uuidFromStr walletId = some w.id)
    (h : walletOwner lib db env walletId = some (some owner)) :
    owner = lib.uuidToString w.userId := by
  unfold walletOwner at h
  split at h
  · have hget : Table.get (·.id) db.wallets w.id = some w := Table.get_of_mem db.wallet_ids hw
    rw [hid, Option.map_some, hget] at h
    exact (Option.some.inj (Option.some.inj h)).symm
  · cases h

theorem pickWallet_owner {user : AuthUser} {env : RequestEnv} {w : WalletRow}
    (h : pickWallet db env user = some w) : w ∈ db.wallets ∧ w.userId = user.userId := by
  obtain ⟨hmem, howner⟩ := List.mem_filter.mp (List.mem_of_getElem? h)
  exact ⟨hmem, of_decide_eq_true howner⟩

/-- The wallet that `start_selling` asks for is the one it has picked. -/
theorem exists_pickWallet {user : AuthUser} {env : RequestEnv} {walletId chain : String}
    (h : (if env.selects then
        some ((pickWallet db env user).map fun w => (lib.uuidToString w.id, w.chain))
      else none) = some (some (walletId, chain))) :
    ∃ w, pickWallet db env user = some w ∧ lib.uuidToString w.id = walletId ∧
      w.chain = chain := by
  split at h
  · obtain ⟨w, hw, heq⟩ := Option.map_eq_some_iff.mp (Option.some.inj h)
    exact ⟨w, hw, Prod.mk.inj heq⟩
  · cases h

/-- A requested row has its own wallet exactly where the request names one. -/
theorem hasOwnWallet_iff (hx : Exact lib) {req : SessionRequest} {row : SessionRow}
    (hrow : requestedRow cfg lib db req = some row) (hw : row.walletId ∈ db.wallets.map (·.id)) :
    HasOwnWallet db row ↔ NamesOwnWallet lib db req := by
  obtain ⟨w, hmem, hid⟩ := List.mem_map.mp hw
  rw [hasOwnWallet_iff_of_mem hmem hid]
  obtain ⟨r, hr, hsession⟩ := Option.bind_eq_some_iff.mp hrow
  have hrowOf := sessionRow_rowOf hsession
  have huser := hrowOf.userId
  cases req with
  | create user body env =>
      have hasks := createSession_asks (ok_of_toOption hr)
      have hwallet : lib.uuidFromStr body.walletId = some w.id := by
        rw [← hasks.walletId, hrowOf.walletId, hid]
      rw [namesOwnWallet_create_iff hmem hwallet, hrowOf.chain, hasks.chain, and_comm]
      refine and_congr_right fun _ => ?_
      by_cases hadmin : user.role = "admin"
      · rw [owner_of_walletOwner hmem hwallet (hasks.owner hadmin), hx.uuid] at huser
        simp [hadmin, Option.some.inj huser]
      · rw [hasks.caller hadmin, hx.uuid] at huser
        simp [hadmin, Option.some.inj huser]
  | start user env =>
      have hasks := startSelling_asks (ok_of_toOption hr)
      rw [hasks.caller, hx.uuid] at huser
      obtain ⟨v, hpick, hvid, hchain⟩ := exists_pickWallet hasks.wallet
      obtain ⟨hv, howner⟩ := pickWallet_owner hpick
      have hwallet := hrowOf.walletId
      rw [← hvid, hx.uuid] at hwallet
      obtain rfl := wallet_eq_of_id hmem hv (hid.trans (Option.some.inj hwallet).symm)
      simp [NamesOwnWallet, howner, Option.some.inj huser, hrowOf.chain, hchain]

theorem ownWallets_append {db' : SessionStore} {row : SessionRow} (hdb : OwnWallets db)
    (hwallets : db'.wallets = db.wallets) (hsessions : db'.sessions = db.sessions ++ [row]) :
    OwnWallets db' ↔ HasOwnWallet db row := by
  have hsame (s : SessionRow) : HasOwnWallet db' s ↔ HasOwnWallet db s := by
    simp only [HasOwnWallet, hwallets]
  unfold OwnWallets
  simp only [hsessions, hsame, List.mem_append, List.mem_singleton]
  constructor
  · intro h
    exact h row (.inr rfl)
  · rintro h s (hs | rfl)
    · exact hdb s hs
    · exact h

/-- In every run whose `create_session` requests name wallets of their callers (an
administrator may name any) and the chains of these wallets, the wallet of every
session belongs to its user and is on its chain. Of the requests that create a
session, exactly these keep it so. -/
theorem ownWallets_of_namesOwnWallet (cfg : Settings) (hx : Exact lib) :
    (∀ db es, OwnWallets db → Trace.Guarded (nextSession cfg lib) (NamesOwnWallet lib) db es →
      OwnWallets (es.foldl (nextSession cfg lib) db)) ∧
    ∀ db req row, OwnWallets db → (nextSession cfg lib db req).sessions = db.sessions ++ [row] →
      (OwnWallets (nextSession cfg lib db req) ↔ NamesOwnWallet lib db req) := by
  constructor
  · intro db es hdb h
    refine h.invariant hdb fun db req hdb hnames => ?_
    rcases nextSession_cases cfg lib db req with hsame | ⟨row, hrow, hsessions, hwallets, hw⟩
    · rw [hsame]
      exact hdb
    · rw [ownWallets_append hdb hwallets hsessions, hasOwnWallet_iff hx hrow hw]
      exact hnames
  · intro db req row hdb hnew
    rcases nextSession_cases cfg lib db req with hsame | ⟨row, hrow, hsessions, hwallets, hw⟩
    · rw [hsame] at hnew
      exact absurd (congrArg List.length hnew) (by simp)
    · rw [ownWallets_append hdb hwallets hsessions, hasOwnWallet_iff hx hrow hw]

namespace Sample

def token : String := "0x1111111111111111111111111111111111111111"
def target : String := "0x2222222222222222222222222222222222222222"

def settings : Settings where
  chains := [("bsc", {
    enabled := true
    chainId := 56
    rpcUrl := "http://localhost:8545"
    baseTokens := []
    dexFactories := [] })]
  execution := {
    maxPriceImpactBps := 300
    sellToken := token
    sellTokenSymbol := "SELL"
    sellTokenDecimals := 18
    targetToken := target
    targetTokenSymbol := "USDT"
    targetTokenDecimals := 18
    sessionChain := "bsc"
    povPercent := 50
    sessionMaxPriceImpact := 1
    buyTriggerOracleAddress := target }

def unsigned : List Char → List Char
  | '+' :: cs => cs
  | cs => cs

/-- A decimal text with an optional sign. -/
def decimalFromStr (s : String) : Option ℕ :=
  let digits := unsigned s.toList
  if digits.isEmpty || digits.any (fun c => !c.isDigit) then none
  else some (digits.foldl (fun acc c => 10 * acc + (c.toNat - '0'.toNat)) 0)

/-- An id is printed as one digit more than it counts, and every route reads as the one
of the pool. -/
def library : Library where
  jsonFromStr := fun s =>
    if s = "route" then
      some (.object [("hops", .array [.string "0xp"]),
        ("hop_tokens", .array [.string token, .string target])])
    else none
  jsonToString := fun _ => "route"
  uuidFromStr := fun s => if s = "" then none else some (s.length - 1)
  uuidToString := fun id => String.ofList (List.replicate (id + 1) '1')
  numericFromStr := decimalFromStr

theorem library_exact : Exact library where
  uuid id := by simp [library]

def pool : PoolInfo where
  poolAddress := "0xp"
  poolType := "v2"
  dexName := "pancakeswap"
  token0 := token
  token1 := target
  feeTier := 0
  swapPathJson := "route"

/-- A session for the wallet of user 1. -/
def sessionBody (totalAmount : String) : CreateSessionBody where
  walletId := "11"
  chain := "bsc"
  sellToken := token
  sellTokenSymbol := "SELL"
  sellTokenDecimals := 18
  targetToken := target
  targetTokenSymbol := "USDT"
  targetTokenDecimals := 18
  totalAmount := totalAmount
  povPercent := 50
  maxPriceImpact := 1
  minBuyTriggerUsd := 0
  minMarketCapUsd := 0
  swapPathJson := none
  pools := some [pool]

/-- Every wallet holds 1000 units of every token. -/
def requestEnv (sessionId : Uuid) : RequestEnv where
  sessionConnects := true
  kmsConnects := true
  selects := true
  kmsSelects := true
  nodes := ⟨fun _ => true, fun _ _ => some 1000, fun _ _ => some 18, fun _ _ _ => some 1000⟩
  pick := 0
  minBuyTriggerUsd := 0
  discovered := some [pool]
  path := some none
  sessionId := sessionId
  inserts := true

def walletOf (userId : Uuid) : WalletRow where
  id := userId
  userId := userId
  chain := "bsc"
  address := "0x5555555555555555555555555555555555555555"

/-- The users 1 and 2 have a wallet each, and there is no session yet. -/
def sessionStore : SessionStore where
  wallets := [walletOf 1, walletOf 2]
  sessions := []
  wallet_ids := by decide
  session_ids := by decide
  session_wallets := by simp

end Sample

/-- User 1 creates a session and user 2 starts selling. -/
theorem ownWallets_of_namesOwnWallet_sample :
    ∃ db : SessionStore, db.sessions.length = 2 ∧ OwnWallets db := by
  refine ⟨[SessionRequest.create ⟨1, "common"⟩ (Sample.sessionBody "400") (Sample.requestEnv 1),
    .start ⟨2, "common"⟩ (Sample.requestEnv 2)].foldl
      (nextSession Sample.settings Sample.library) Sample.sessionStore, by decide +kernel, ?_⟩
  exact (ownWallets_of_namesOwnWallet Sample.settings Sample.library_exact).1 _ _
    (by simp [OwnWallets, Sample.sessionStore]) (by decide +kernel)

/-- User 2 creates a session for the wallet of user 1. -/
theorem session_on_foreign_wallet :
    ¬ ∀ es : List SessionRequest, OwnWallets
      (es.foldl (nextSession Sample.settings Sample.library) Sample.sessionStore) := by
  intro h
  have hone := h [.create ⟨2, "common"⟩ (Sample.sessionBody "400") (Sample.requestEnv 1)]
  exact absurd hone (by
    unfold OwnWallets
    decide +kernel)

end Liquifier.Gateway
