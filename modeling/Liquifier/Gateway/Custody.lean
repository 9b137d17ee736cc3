import Liquifier.Gateway.SecondFactor
import Liquifier.Kms.Keys

/-!
Who is given the private key of a wallet.

The gateway and the key service are taken together: the requests that sign up, log in and
set roles, the creation of wallets, and the two exports. A key leaves the key service for a
wallet and a user id, and it is the gateway that chooses the id: its own caller for
`export_wallet`, and what the path says for `admin_export_user_wallet`.
-/

namespace Liquifier.Gateway

open Kms (Drawn Keeps Kept KeyCrates Keys KmsEnv hexKey)
open Chain (TransactionRequest)
open Trace

/-- The two services read and write ids with the same crate. -/
structure SameUuids (lib : Crates) (keyLib : KeyCrates) : Prop where
  fromStr : keyLib.uuidFromStr = lib.uuidFromStr
  toText : keyLib.uuidToString = lib.uuidToString

/-- What a request meets outside the two services. -/
structure CustodyEnv (keyLib : KeyCrates) extends Env where
  kms : KmsEnv keyLib
  /-- `WalletKmsClient::connect` succeeds. -/
  connects : Bool

inductive CustodyRequest where
  /-- A start of the gateway, or a request about an account; `export_wallet` is one. -/
  | account (e : Event)
  | createWallet (authorization chain : Option String)
  | adminExportUserWallet (authorization : Option String) (targetUserId walletId : String)
      (totpCode : Option String)

inductive CustodyReply where
  | reply (r : Reply)
  | walletCreated (r : Kms.CreateWalletResponse)

/-- The token that a request brings along. -/
def CustodyRequest.presented : CustodyRequest → Option String
  | .account (.start _ _) => none
  | .account (.request r) => r.presented
  | .createWallet authorization _ => authorization.bind bearerToken
  | .adminExportUserWallet authorization _ _ _ => authorization.bind bearerToken

/-- The tables of the two services, and the tokens that have been given out. -/
structure Custody where
  state : State
  keys : Keys

/-! ### Handlers -/

section Handlers

variable (cfg : Settings) (lib : Crates) (jwtSecret : String) {keyLib : KeyCrates}
  (masterKey : List UInt8) (keys : Keys) (users : Users)

/-- `client.export_private_key`, with what the handlers make of an error. -/
def CustodyEnv.exportKey (env : CustodyEnv keyLib) (walletId userId : String) :
    Except StatusCode (String × String) := do
  ensure env.connects .serviceUnavailable
  match Kms.exportPrivateKey keyLib masterKey keys env.kms ⟨walletId, userId⟩ with
  | .ok resp => .ok (resp.privateKey, resp.address)
  | .error _ => .error .internalServerError

/-- The environment in which the exports go to the key service. -/
def CustodyEnv.withKeys (env : CustodyEnv keyLib) : Env :=
  { env.toEnv with exportPrivateKey := env.exportKey masterKey keys }

/-- The check of the two exports: the second factor of the caller is on, and the code is
right. -/
def checkTotp (env : Env) (user : AuthUser) (totpCode : Option String) :
    Except StatusCode Unit := do
  ensure env.selects .internalServerError
  let row ← okOr .internalServerError (users.byId user.userId)
  ensure row.totpEnabled .forbidden
  let totpCode ← okOr .badRequest totpCode
  let totpSecret ← okOr .internalServerError row.totpSecret
  let valid ← okOr .internalServerError (lib.totpCheck totpSecret env.now totpCode)
  ensure valid .unauthorized

def adminExportUserWallet (env : Env) (user : AuthUser) (targetUserId walletId : String)
    (totpCode : Option String) : Except StatusCode Reply := do
  ensure (user.role = "admin") .forbidden
  checkTotp lib users env user totpCode
  let (privateKey, address) ← env.exportPrivateKey walletId targetUserId
  return .walletExported privateKey address

/-- A wallet refers to the users of the gateway. -/
def createWallet (env : CustodyEnv keyLib) (user : AuthUser) (chain : Option String) :
    Except StatusCode (Keys × Kms.CreateWalletResponse) := do
  ensure env.connects .serviceUnavailable
  match Kms.createWallet cfg keyLib masterKey keys
      { env.kms with users := users.rows.map User.id }
      ⟨lib.uuidToString user.userId, chain.getD "bsc"⟩ with
  | .ok created => .ok created
  | .error _ => .error .internalServerError

end Handlers

/-! ### Runs -/

section Runs

variable (cfg : Settings) (lib : Crates) (jwtSecret : String) {keyLib : KeyCrates}
  (masterKey : List UInt8)

/-- `create_wallet` behind `require_auth`. -/
def Custody.created (s : Custody) (env : CustodyEnv keyLib) (authorization chain : Option String) :
    Except StatusCode (AuthUser × Keys × Kms.CreateWalletResponse) := do
  let user ← requireAuth lib jwtSecret env.now authorization
  let created ← createWallet cfg lib masterKey s.keys s.state.users env user chain
  return (user, created)

/-- The response, if the event is a request. -/
def answered (s : Custody) (e : CustodyRequest × CustodyEnv keyLib) :
    Option (Except StatusCode CustodyReply) :=
  match e.1 with
  | .account (.start _ _) => none
  | .account (.request r) =>
      some ((respond lib jwtSecret s.state.users (e.2.withKeys masterKey s.keys) r).2.map .reply)
  | .createWallet authorization chain =>
      some ((s.created cfg lib jwtSecret masterKey e.2 authorization chain).map
        fun created => .walletCreated created.2.2)
  | .adminExportUserWallet authorization targetUserId walletId totpCode =>
      some ((do
        let user ← requireAuth lib jwtSecret e.2.now authorization
        adminExportUserWallet lib s.state.users (e.2.withKeys masterKey s.keys) user targetUserId
          walletId totpCode).map .reply)

def custodyNext (s : Custody) (e : CustodyRequest × CustodyEnv keyLib) : Custody :=
  match e.1 with
  | .account event =>
      { s with state := next lib jwtSecret s.state (event, e.2.withKeys masterKey s.keys) }
  | .createWallet authorization chain =>
      match s.created cfg lib jwtSecret masterKey e.2 authorization chain with
      | .ok (_, keys, _) => { s with keys }
      | .error _ => s
  | .adminExportUserWallet _ _ _ _ => s

/-- Nobody has signed up. -/
def custodyStart : Custody := ⟨⟨.empty, []⟩, .empty⟩

def custodyRun (events : List (CustodyRequest × CustodyEnv keyLib)) : Custody :=
  events.foldl (custodyNext cfg lib jwtSecret masterKey) custodyStart

/-- The key that a request draws, where it creates a wallet. -/
def custodyDraws (s : Custody) (_ : List (Drawn keyLib))
    (e : CustodyRequest × CustodyEnv keyLib) : List (Drawn keyLib) :=
  match e.1 with
  | .createWallet authorization chain =>
      match s.created cfg lib jwtSecret masterKey e.2 authorization chain with
      | .ok (user, _) => [⟨e.2.kms.walletId, user.userId, e.2.kms.signer⟩]
      | .error _ => []
  | _ => []

/-- The keys that were drawn in a run. -/
def custodyDrawn (events : List (CustodyRequest × CustodyEnv keyLib)) : List (Drawn keyLib) :=
  notes (custodyNext cfg lib jwtSecret masterKey) (custodyDraws cfg lib jwtSecret masterKey)
    custodyStart events

/-- Tokens cannot be forged: one that validates has been given out. -/
def CustodyAuthentic (s : Custody) (e : CustodyRequest × CustodyEnv keyLib) : Prop :=
  ∀ token ∈ e.1.presented,
    (validateToken lib jwtSecret e.2.now token).isSome → token ∈ s.state.issued

instance (s : Custody) (e : CustodyRequest × CustodyEnv keyLib) :
    Decidable (CustodyAuthentic lib jwtSecret s e) :=
  inferInstanceAs (Decidable (∀ token ∈ e.1.presented, _ → _))

/-- The runs in which no token is forged. -/
def CustodyRun (events : List (CustodyRequest × CustodyEnv keyLib)) : Prop :=
  Guarded (custodyNext cfg lib jwtSecret masterKey) (CustodyAuthentic lib jwtSecret) custodyStart
    events

instance (events : List (CustodyRequest × CustodyEnv keyLib)) :
    Decidable (CustodyRun cfg lib jwtSecret masterKey events) :=
  inferInstanceAs (Decidable (Guarded _ _ _ _))

end Runs

/-! ### Who is entitled to a key -/

section Entitled

variable (lib : Crates) (jwtSecret : String) {keyLib : KeyCrates}

/-- The second factor of the user is on, and the code is right for the stored secret. -/
def PassesTotp (users : Users) (env : Env) (user : AuthUser) (totpCode : Option String) : Prop :=
  env.selects = true ∧ ∃ row secret code, users.byId user.userId = some row ∧
    row.totpEnabled = true ∧ totpCode = some code ∧ row.totpSecret = some secret ∧
    lib.totpCheck secret env.now code = some true

/-- The request comes with a token that was given to a user with a verified address. -/
def ComesFrom (s : Custody) (env : Env) (authorization : Option String) (user : AuthUser) : Prop :=
  requireAuth lib jwtSecret env.now authorization = .ok user ∧
    (∃ token ∈ s.state.issued, authorization.bind bearerToken = some token ∧
      TokenFor lib jwtSecret user.userId token) ∧
    VerifiedUser s.state.users user.userId

/-- The request asks for the key of a wallet: its user with a right code, or an
administrator with a right code who names that user. -/
inductive Entitled (s : Custody) (env : CustodyEnv keyLib) : CustodyRequest → Drawn keyLib → Prop
  | owner {authorization walletId totpCode user d}
      (hfrom : ComesFrom lib jwtSecret s env.toEnv authorization user)
      (htotp : PassesTotp lib s.state.users env.toEnv user totpCode)
      (hwallet : lib.uuidFromStr walletId = some d.walletId) (hown : d.userId = user.userId) :
      Entitled s env (.account (.request (.exportWallet authorization walletId totpCode))) d
  | admin {authorization targetUserId walletId totpCode user d}
      (hfrom : ComesFrom lib jwtSecret s env.toEnv authorization user)
      (hadmin : user.role = "admin")
      (htotp : PassesTotp lib s.state.users env.toEnv user totpCode)
      (hwallet : lib.uuidFromStr walletId = some d.walletId)
      (htarget : lib.uuidFromStr targetUserId = some d.userId) :
      Entitled s env (.adminExportUserWallet authorization targetUserId walletId totpCode) d

end Entitled

/-! ### What the handlers answer -/

section Answers

variable {cfg : Settings} {lib : Crates} {jwtSecret : String} {keyLib : KeyCrates}
  {masterKey : List UInt8} {keys : Keys} {users users' : Users} {env : Env} {user : AuthUser}
  {totpCode : Option String} {key address : String}

theorem checkTotp_eq_ok {u : Unit} :
    checkTotp lib users env user totpCode = .ok u ↔ PassesTotp lib users env user totpCode := by
  simp only [checkTotp, bind_eq_ok, okOr_eq_ok, ensure_eq_ok, PassesTotp]
  constructor
  · rintro ⟨-, hselects, row, hrow, -, henabled, code, hcode, secret, hsecret, valid, hcheck, rfl⟩
    exact ⟨hselects, row, secret, code, hrow, henabled, hcode, hsecret, hcheck⟩
  · rintro ⟨hselects, row, secret, code, hrow, henabled, hcode, hsecret, hcheck⟩
    exact ⟨(), hselects, row, hrow, (), henabled, code, hcode, secret, hsecret, true, hcheck, rfl⟩

theorem exportKey_eq_ok {env : CustodyEnv keyLib} {walletId userId : String} :
    env.exportKey masterKey keys walletId userId = .ok (key, address) ↔ env.connects = true ∧
      Kms.exportPrivateKey keyLib masterKey keys env.kms ⟨walletId, userId⟩ =
        .ok ⟨key, address⟩ := by
  simp only [CustodyEnv.exportKey, bind_eq_ok, ensure_eq_ok]
  constructor
  · rintro ⟨-, hconnects, h⟩
    split at h
    · rename_i resp hresp
      cases h
      exact ⟨hconnects, hresp⟩
    · cases h
  · rintro ⟨hconnects, h⟩
    exact ⟨(), hconnects, by rw [h]⟩

/-- `export_wallet` makes the check of the other export. -/
theorem exportWallet_eq (walletId : String) :
    exportWallet lib users env user walletId totpCode = do
      checkTotp lib users env user totpCode
      let (privateKey, address) ← env.exportPrivateKey walletId (lib.uuidToString user.userId)
      return (users, .walletExported privateKey address) := by
  simp only [exportWallet, checkTotp, bind_assoc]

/-- The key and the address of a reply. -/
def Reply.exported : Reply → Option (String × String)
  | .walletExported privateKey address => some (privateKey, address)
  | _ => none

theorem exported_of_signup {body : SignupRequest} {reply : Reply}
    (h : signup lib jwtSecret users env body = .ok (users', reply)) : reply.exported = none := by
  simp only [signup, bind_eq_ok] at h
  obtain ⟨-, -, _, -, -, -, h⟩ := h
  split at h
  · split at h
    · simp only [bind_eq_ok] at h
      obtain ⟨_, -, h⟩ := h
      cases h
      rfl
    · split at h
      · simp only [bind_eq_ok] at h
        obtain ⟨_, -, h⟩ := h
        cases h
        rfl
      · cases h
  · simp only [bind_eq_ok] at h
    obtain ⟨-, -, _, -, h⟩ := h
    cases h
    rfl

theorem exported_of_login {body : LoginRequest} {reply : Reply}
    (h : login lib jwtSecret users env body = .ok (users', reply)) : reply.exported = none := by
  simp only [login, bind_eq_ok] at h
  obtain ⟨-, -, row, -, _, -, -, -, h⟩ := h
  split at h
  · simp only [bind_eq_ok] at h
    obtain ⟨_, -, h⟩ := h
    cases h
    rfl
  · split at h
    · simp only [bind_eq_ok] at h
      obtain ⟨_, -, h⟩ := h
      cases h
      rfl
    · split at h
      · simp only [bind_eq_ok] at h
        obtain ⟨_, -, h⟩ := h
        cases h
        rfl
      · split at h
        · cases h
          rfl
        · simp only [bind_eq_ok] at h
          obtain ⟨_, -, _, -, -, -, _, -, h⟩ := h
          cases h
          rfl

theorem settle_eq_ok {x : Except StatusCode (Users × Reply)} {reply : Reply} :
    (settle users x).2 = .ok reply ↔ ∃ users', x = .ok (users', reply) := by
  cases x with
  | ok y => simp [settle, Prod.ext_iff]
  | error code => simp [settle]

/-- The one request about an account that is answered with a key. -/
theorem respond_exported {r : Request} :
    (respond lib jwtSecret users env r).2 = .ok (.walletExported key address) ↔
      ∃ authorization walletId totpCode user, r = .exportWallet authorization walletId totpCode ∧
        requireAuth lib jwtSecret env.now authorization = .ok user ∧
        PassesTotp lib users env user totpCode ∧
        env.exportPrivateKey walletId (lib.uuidToString user.userId) = .ok (key, address) := by
  constructor
  · intro h
    cases r with
    | signup body =>
        obtain ⟨users', h⟩ := settle_eq_ok.mp h
        cases exported_of_signup h
    | login body =>
        obtain ⟨users', h⟩ := settle_eq_ok.mp h
        cases exported_of_login h
    | refreshToken token =>
        obtain ⟨users', h⟩ := settle_eq_ok.mp h
        simp only [refreshToken, bind_eq_ok] at h
        obtain ⟨_, -, _, -, _, -, _, -, _, -, _, -, _, -, h⟩ := h
        cases h
    | verifyEmail token =>
        obtain ⟨users', h⟩ := settle_eq_ok.mp h
        simp only [verifyEmail, bind_eq_ok] at h
        obtain ⟨_, -, _, -, _, -, _, -, h⟩ := h
        cases h
    | resendVerification authorization =>
        simp only [respond] at h
        split at h
        · simp only [resendVerification] at h
          split at h
          · cases h
          · split at h <;> cases h
        · cases h
    | setup2fa authorization =>
        obtain ⟨users', h⟩ := settle_eq_ok.mp h
        simp only [setup2fa, bind_eq_ok] at h
        obtain ⟨_, -, _, -, _, -, _, -, _, -, _, -, h⟩ := h
        cases h
    | verify2fa authorization code =>
        obtain ⟨users', h⟩ := settle_eq_ok.mp h
        simp only [verify2fa, bind_eq_ok] at h
        obtain ⟨_, -, _, -, _, -, _, -, _, -, _, -, _, -, h⟩ := h
        cases h
    | adminUpdateUserRole authorization targetUserId role =>
        obtain ⟨users', h⟩ := settle_eq_ok.mp h
        simp only [adminUpdateUserRole, bind_eq_ok] at h
        obtain ⟨_, -, _, -, _, -, _, -, _, -, _, -, h⟩ := h
        cases h
    | exportWallet authorization walletId totpCode =>
        obtain ⟨users', h⟩ := settle_eq_ok.mp h
        obtain ⟨user, hauth, h⟩ := bind_eq_ok.mp h
        rw [exportWallet_eq] at h
        obtain ⟨_, htotp, h⟩ := bind_eq_ok.mp h
        obtain ⟨⟨key', address'⟩, hexport, h⟩ := bind_eq_ok.mp h
        cases h
        exact ⟨authorization, walletId, totpCode, user, rfl, hauth, checkTotp_eq_ok.mp htotp,
          hexport⟩
  · rintro ⟨authorization, walletId, totpCode, user, rfl, hauth, htotp, hexport⟩
    refine settle_eq_ok.mpr ⟨users, bind_eq_ok.mpr ⟨user, hauth, ?_⟩⟩
    rw [exportWallet_eq]
    exact bind_eq_ok.mpr ⟨(), checkTotp_eq_ok.mpr htotp, bind_eq_ok.mpr ⟨_, hexport, rfl⟩⟩

theorem adminExportUserWallet_eq_ok {targetUserId walletId : String} :
    adminExportUserWallet lib users env user targetUserId walletId totpCode =
        .ok (.walletExported key address) ↔
      user.role = "admin" ∧ PassesTotp lib users env user totpCode ∧
        env.exportPrivateKey walletId targetUserId = .ok (key, address) := by
  simp only [adminExportUserWallet, bind_eq_ok, ensure_eq_ok, decide_eq_true_eq]
  constructor
  · rintro ⟨-, hadmin, _, htotp, ⟨key', address'⟩, hexport, h⟩
    cases h
    exact ⟨hadmin, checkTotp_eq_ok.mp htotp, hexport⟩
  · rintro ⟨hadmin, htotp, hexport⟩
    exact ⟨(), hadmin, (), checkTotp_eq_ok.mpr htotp, (key, address), hexport, rfl⟩

end Answers

/-! ### What a run keeps -/

section Invariant

variable (cfg : Settings) (lib : Crates) (jwtSecret : String) {keyLib : KeyCrates}
  (masterKey : List UInt8)

/-- Tokens are for verified users, and the rows of the key service are those of the drawn
keys. -/
structure CustodySound (log : List (Drawn keyLib)) (s : Custody) : Prop where
  sound : Sound lib jwtSecret s.state
  rooted : Rooted lib jwtSecret s.state
  kept : Kept keyLib masterKey log s.keys.rows

/-- The wallet was created in the run: the user asked for it, with a token given to a
verified user, and was answered its id and the address of the key. -/
def WalletCreated (events : List (CustodyRequest × CustodyEnv keyLib)) (d : Drawn keyLib) : Prop :=
  ∃ pre authorization chain env post user keys',
    events = pre ++ (.createWallet authorization chain, env) :: post ∧
    ComesFrom lib jwtSecret (custodyRun cfg lib jwtSecret masterKey pre) env.toEnv authorization
      user ∧
    d.userId = user.userId ∧ env.kms.signer = d.signer ∧
    (custodyRun cfg lib jwtSecret masterKey pre).created cfg lib jwtSecret masterKey env
      authorization chain =
        .ok (user, keys', ⟨lib.uuidToString d.walletId, d.signer.address.debug⟩)

end Invariant

section Runs

variable {cfg : Settings} {lib : Crates} {jwtSecret : String} {keyLib : KeyCrates}
  {masterKey : List UInt8} {recover : List UInt8 → Option (Address × TransactionRequest)}
  {s : Custody}

/-- A request that is let in comes from a verified user. -/
theorem CustodySound.comesFrom (hx : lib.Exact) {log : List (Drawn keyLib)}
    (h : CustodySound lib jwtSecret masterKey log s) {env : Env} {authorization : Option String}
    {user : AuthUser}
    (hauthentic : ∀ token ∈ authorization.bind bearerToken,
      (validateToken lib jwtSecret env.now token).isSome → token ∈ s.state.issued)
    (hauth : requireAuth lib jwtSecret env.now authorization = .ok user) :
    ComesFrom lib jwtSecret s env authorization user := by
  refine ⟨hauth, ?_⟩
  simp only [requireAuth, bind_eq_ok, okOr_eq_ok] at hauth
  obtain ⟨header, rfl, token, htoken, claims, hvalid, -, -, id, hid, huser⟩ := hauth
  cases huser
  have hissued : token ∈ s.state.issued := hauthentic token htoken (by simp [hvalid])
  obtain ⟨id', ⟨claims', hencode, hsub⟩, hverified⟩ := h.rooted token hissued
  obtain rfl := hx.claims_of_validateToken hencode hvalid
  rw [hsub, hx.uuid] at hid
  obtain rfl := Option.some.inj hid
  exact ⟨⟨token, hissued, htoken, claims, hencode, hsub⟩, hverified⟩

/-- A wallet that is created has a row from which its key can be read. -/
theorem created_eq_ok (hx : lib.Exact) (hkx : keyLib.Exact recover) (huuid : SameUuids lib keyLib)
    {env : CustodyEnv keyLib} {authorization chain : Option String} {user : AuthUser} {keys' : Keys}
    {resp : Kms.CreateWalletResponse}
    (h : s.created cfg lib jwtSecret masterKey env authorization chain = .ok (user, keys', resp)) :
    requireAuth lib jwtSecret env.now authorization = .ok user ∧
      ∃ r, keys'.rows = s.keys.rows ++ [r] ∧
        Keeps keyLib masterKey ⟨env.kms.walletId, user.userId, env.kms.signer⟩ r ∧
        resp = ⟨lib.uuidToString env.kms.walletId, env.kms.signer.address.debug⟩ := by
  simp only [Custody.created, bind_eq_ok] at h
  obtain ⟨user', hauth, created, hcreated, h⟩ := h
  cases h
  refine ⟨hauth, ?_⟩
  simp only [createWallet, bind_eq_ok] at hcreated
  obtain ⟨-, -, hcreated⟩ := hcreated
  split at hcreated
  · rename_i hok
    cases hcreated
    obtain ⟨userId, r, huser, hrows, hkeeps, hresp⟩ := Kms.createWallet_eq_ok hkx hok
    rw [huuid.fromStr, hx.uuid] at huser
    obtain rfl := Option.some.inj huser
    exact ⟨r, hrows, hkeeps, by rw [hresp, huuid.toText]⟩
  · cases hcreated

theorem custodySound_next (hx : lib.Exact) (hkx : keyLib.Exact recover)
    (huuid : SameUuids lib keyLib) {log : List (Drawn keyLib)}
    (h : CustodySound lib jwtSecret masterKey log s) {e : CustodyRequest × CustodyEnv keyLib}
    (he : CustodyAuthentic lib jwtSecret s e) :
    CustodySound lib jwtSecret masterKey (log ++ custodyDraws cfg lib jwtSecret masterKey s log e)
      (custodyNext cfg lib jwtSecret masterKey s e) := by
  obtain ⟨req, env⟩ := e
  cases req with
  | account event =>
      simp only [custodyDraws, List.append_nil, custodyNext]
      refine ⟨sound_next h.sound _, rooted_next hx h.rooted ?_, h.kept⟩
      cases event with
      | start adminEmail adminPassword => trivial
      | request r => exact he
  | createWallet authorization chain =>
      simp only [custodyDraws, custodyNext]
      cases hcreated : s.created cfg lib jwtSecret masterKey env authorization chain with
      | error code =>
          rw [List.append_nil]
          exact h
      | ok created =>
          obtain ⟨-, r, hrows, hkeeps, -⟩ := created_eq_ok hx hkx huuid hcreated
          refine ⟨h.sound, h.rooted, ?_⟩
          rw [hrows]
          exact h.kept.concat hkeeps
  | adminExportUserWallet authorization targetUserId walletId totpCode =>
      rw [custodyDraws, List.append_nil]
      exact h

theorem custodySound_run (hx : lib.Exact) (hkx : keyLib.Exact recover)
    (huuid : SameUuids lib keyLib) {events : List (CustodyRequest × CustodyEnv keyLib)}
    (hrun : CustodyRun cfg lib jwtSecret masterKey events) :
    CustodySound lib jwtSecret masterKey (custodyDrawn cfg lib jwtSecret masterKey events)
      (custodyRun cfg lib jwtSecret masterKey events) := by
  refine hrun.history (P := fun es => CustodySound lib jwtSecret masterKey
    (custodyDrawn cfg lib jwtSecret masterKey es) (custodyRun cfg lib jwtSecret masterKey es)) ?_ ?_
  · refine ⟨sound_run [], ?_, rfl, ?_, ?_⟩
    · intro token ht
      cases ht
    · intro d hd
      cases hd
    · intro r hr
      cases hr
  · intro es e _ h he
    rw [custodyDrawn, notes_concat, ← custodyDrawn, custodyRun, List.foldl_append, ← custodyRun]
    exact custodySound_next hx hkx huuid h he

theorem walletCreated_of_mem (hx : lib.Exact) (hkx : keyLib.Exact recover)
    (huuid : SameUuids lib keyLib) {events : List (CustodyRequest × CustodyEnv keyLib)}
    (hrun : CustodyRun cfg lib jwtSecret masterKey events) {d : Drawn keyLib}
    (h : d ∈ custodyDrawn cfg lib jwtSecret masterKey events) :
    WalletCreated cfg lib jwtSecret masterKey events d := by
  obtain ⟨pre, ⟨req, env⟩, post, rfl, hd⟩ := mem_notes_iff.mp h
  obtain ⟨hpre, hauthentic, -⟩ := guarded_append.mp hrun
  rw [← custodyRun] at hd hauthentic
  cases req with
  | account event => cases hd
  | adminExportUserWallet authorization targetUserId walletId totpCode => cases hd
  | createWallet authorization chain =>
      simp only [custodyDraws] at hd
      cases hcreated :
        (custodyRun cfg lib jwtSecret masterKey pre).created cfg lib jwtSecret masterKey
          env authorization chain with
      | error code =>
          rw [hcreated] at hd
          cases hd
      | ok created =>
          obtain ⟨hauth, r, -, -, hresp⟩ := created_eq_ok hx hkx huuid hcreated
          rw [hcreated] at hd
          obtain rfl := List.mem_singleton.mp hd
          have hsound := custodySound_run hx hkx huuid hpre
          exact ⟨pre, authorization, chain, env, post, created.1, created.2.1, rfl,
            hsound.comesFrom hx hauthentic hauth, rfl, rfl, by rw [hcreated, ← hresp]⟩

/-- The two exports ask the key service for the same thing as `Entitled` does. -/
theorem exportKey_iff (huuid : SameUuids lib keyLib) {log : List (Drawn keyLib)}
    (h : Kept keyLib masterKey log s.keys.rows) {env : CustodyEnv keyLib}
    {walletId userId key address : String} :
    env.exportKey masterKey s.keys walletId userId = .ok (key, address) ↔
      env.connects = true ∧ env.kms.selects = true ∧ ∃ d ∈ log,
        lib.uuidFromStr walletId = some d.walletId ∧ lib.uuidFromStr userId = some d.userId ∧
        key = hexKey d.signer.credential ∧ address = d.signer.address.debug := by
  rw [exportKey_eq_ok, Kms.exportPrivateKey_iff h]
  simp only [Kms.Exported, huuid.fromStr, Kms.ExportPrivateKeyResponse.mk.injEq]

/-- The answers to the requests about accounts, to the administrators and to creations. -/
theorem answered_account_iff {env : CustodyEnv keyLib} {r : Request} {key address : String} :
    answered cfg lib jwtSecret masterKey s (.account (.request r), env) =
        some (.ok (.reply (.walletExported key address))) ↔
      (respond lib jwtSecret s.state.users (env.withKeys masterKey s.keys) r).2 =
        .ok (.walletExported key address) := by
  simp [answered, map_eq_ok]

theorem answered_admin_iff {env : CustodyEnv keyLib} {authorization : Option String}
    {targetUserId walletId : String} {totpCode : Option String} {key address : String} :
    answered cfg lib jwtSecret masterKey s
        (.adminExportUserWallet authorization targetUserId walletId totpCode, env) =
        some (.ok (.reply (.walletExported key address))) ↔
      ∃ user, requireAuth lib jwtSecret env.now authorization = .ok user ∧ user.role = "admin" ∧
        PassesTotp lib s.state.users env.toEnv user totpCode ∧
        env.exportKey masterKey s.keys walletId targetUserId = .ok (key, address) := by
  simp only [answered, Option.some.injEq, map_eq_ok, bind_eq_ok, CustodyReply.reply.injEq,
    exists_eq_right, adminExportUserWallet_eq_ok]
  rfl

theorem not_answered_created {env : CustodyEnv keyLib} {authorization chain : Option String}
    {key address : String} :
    answered cfg lib jwtSecret masterKey s (.createWallet authorization chain, env) ≠
      some (.ok (.reply (.walletExported key address))) := by
  simp [answered, map_eq_ok]

end Runs

/-! ### An administrator exports the key of a user -/

namespace Sample

def custodyEnv (env : Env) : CustodyEnv Kms.Sample.keyCrates :=
  { env with kms := Kms.Sample.kmsEnv, connects := true }

/-- The administrator has set up the second factor, and user 2 logs in and creates a
wallet. -/
def walletOfUser : List (CustodyRequest × CustodyEnv Kms.Sample.keyCrates) :=
  enrolment.map (fun e => (.account e.1, custodyEnv e.2)) ++
    [(.createWallet (some "Bearer access.common") none, custodyEnv (env 0 ""))]

def exportRequest : CustodyRequest :=
  .adminExportUserWallet (some "Bearer access.checked") "11" "11" (some "123456")

def adminRow : User :=
  ⟨1, "admin@example.com", "$argon2id$correct horse", some [49, 50, 51, 52, 53, 54], true, true,
    none, none, .admin, none⟩

theorem custodyRun_walletOfUser :
    CustodyRun Kms.Sample.settings staff "secret" [5] walletOfUser := by
  decide +kernel

end Sample

end Liquifier.Gateway
