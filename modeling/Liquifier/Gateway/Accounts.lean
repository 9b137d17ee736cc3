import Liquifier.Gateway.Auth
import Liquifier.Lib.Table

/-!
The `users` table and the handlers that read and write it.

A handler is served in one move: it gives the table and the reply, or the status
code that it ends with and no write. Requests are so served one after another; two
handlers that overlap, the one between the statements of the other, are not considered,
nor is a statement that is carried out and answered with an error. The start of the
gateway is such a move too, since it may insert the first administrator.
-/

namespace Liquifier.Gateway

inductive UserRole where
  | admin
  | common
  deriving DecidableEq

namespace UserRole

/-- `role::text`. -/
def text : UserRole → String
  | admin => "admin"
  | common => "common"

def fromStr : String → Option UserRole
  | "admin" => some admin
  | "common" => some common
  | _ => none

end UserRole

structure User where
  id : Uuid
  email : String
  passwordHash : String
  totpSecret : Option (List UInt8) := none
  totpEnabled : Bool := false
  emailVerified : Bool := false
  verificationToken : Option String
  verificationTokenExpiresAt : Option ℕ
  role : UserRole
  username : Option String := none
  deriving DecidableEq

/-- The table, with its primary key and the e-mail that is the key of a login. -/
structure Users where
  rows : List User
  ids_nodup : (rows.map User.id).Nodup
  emails_nodup : (rows.map User.email).Nodup

namespace User

/-- `WHERE verification_token = $1 AND verification_token_expires_at > NOW() AND
email_verified = FALSE`. -/
def awaits (token : String) (now : ℕ) (r : User) : Bool :=
  r.verificationToken = some token && r.verificationTokenExpiresAt.any (now < ·) && !r.emailVerified

/-- A unique column of the row is taken by another one; `NULL` is never equal. -/
def clashes (r other : User) : Bool :=
  r.id = other.id || r.email = other.email ||
    (r.verificationToken.isSome && r.verificationToken = other.verificationToken) ||
    (r.username.isSome && r.username = other.username)

end User

namespace Users

def empty : Users := ⟨[], by simp, by simp⟩

variable (users : Users)

def byEmail (email : String) : Option User := Table.get User.email users.rows email

def byId (id : Uuid) : Option User := Table.get User.id users.rows id

/-- `INSERT`; `none` is a duplicate key. -/
def insert (r : User) : Option Users :=
  if h : users.rows.any r.clashes then none
  else
    some {
      rows := users.rows ++ [r]
      ids_nodup := by
        simp only [List.any_eq_true, not_exists, not_and, User.clashes] at h
        rw [List.map_append, List.map_singleton, List.nodup_append]
        refine ⟨users.ids_nodup, by simp, ?_⟩
        simp only [List.mem_map, List.mem_singleton]
        rintro _ ⟨q, hq, rfl⟩ _ rfl hid
        exact h q hq (by simp [hid])
      emails_nodup := by
        simp only [List.any_eq_true, not_exists, not_and, User.clashes] at h
        rw [List.map_append, List.map_singleton, List.nodup_append]
        refine ⟨users.emails_nodup, by simp, ?_⟩
        simp only [List.mem_map, List.mem_singleton]
        rintro _ ⟨q, hq, rfl⟩ _ rfl hemail
        exact h q hq (by simp [hemail]) }

/-- An `UPDATE` that leaves the keys and the password alone. -/
structure Sets (f : User → User) : Prop where
  id : ∀ r, (f r).id = r.id
  email : ∀ r, (f r).email = r.email
  passwordHash : ∀ r, (f r).passwordHash = r.passwordHash

def update {κ : Type} [DecidableEq κ] (key : User → κ) (k : κ) (f : User → User) (hf : Sets f) :
    Users where
  rows := Table.update key users.rows k f
  ids_nodup := by
    rw [Table.map_update hf.id]
    exact users.ids_nodup
  emails_nodup := by
    rw [Table.map_update hf.email]
    exact users.emails_nodup

/-- `UPDATE users SET verification_token = $1, verification_token_expires_at = $2 WHERE id = $3`;
`none` is a duplicate key. -/
def setVerificationToken (id : Uuid) (token : String) (expires : ℕ) : Option Users :=
  if (users.byId id).isSome &&
      users.rows.any fun r => r.id ≠ id && r.verificationToken = some token then none
  else
    some (users.update User.id id
      (fun r => { r with verificationToken := some token, verificationTokenExpiresAt := some expires })
      ⟨fun _ => rfl, fun _ => rfl, fun _ => rfl⟩)

def markEmailVerified (token : String) (now : ℕ) : Users :=
  users.update (User.awaits token now) true
    (fun r => { r with
      emailVerified := true, verificationToken := none, verificationTokenExpiresAt := none })
    ⟨fun _ => rfl, fun _ => rfl, fun _ => rfl⟩

def setTotpSecret (id : Uuid) (secret : List UInt8) : Users :=
  users.update User.id id (fun r => { r with totpSecret := some secret })
    ⟨fun _ => rfl, fun _ => rfl, fun _ => rfl⟩

def enableTotp (id : Uuid) : Users :=
  users.update User.id id (fun r => { r with totpEnabled := true })
    ⟨fun _ => rfl, fun _ => rfl, fun _ => rfl⟩

def setRole (id : Uuid) (role : UserRole) : Users :=
  users.update User.id id (fun r => { r with role, totpEnabled := false, totpSecret := none })
    ⟨fun _ => rfl, fun _ => rfl, fun _ => rfl⟩

variable {users}

theorem byEmail_eq_some {email : String} {r : User} :
    users.byEmail email = some r ↔ r ∈ users.rows ∧ r.email = email := by
  constructor
  · intro h
    exact ⟨Table.mem_of_get h, Table.key_of_get h⟩
  · rintro ⟨hr, rfl⟩
    exact Table.get_of_mem users.emails_nodup hr

end Users

/-! ### Requests and replies -/

structure SignupRequest where
  email : String
  password : String
  username : Option String
  role : String

structure LoginRequest where
  email : String
  password : String
  totpCode : Option String

/-- The bodies of the successful responses. -/
inductive Reply where
  | emailVerificationRequired (userId : String) (role : UserRole) (message : String)
  | totpSetupRequired (userId accessToken message : String)
  | totpRequired (userId message : String)
  | authenticated (accessToken refreshToken userId : String) (role : UserRole)
  | refreshed (accessToken refreshToken userId : String)
  | totpSetup (setup : TotpSetup)
  | totpEnabled
  | verified (role : UserRole)
  | roleUpdated (userId : String) (role : UserRole)
  | verificationSent
  | walletExported (privateKey address : String)

/-- The access and refresh tokens that a response carries. -/
def Reply.tokens : Reply → List String
  | .totpSetupRequired _ accessToken _ => [accessToken]
  | .authenticated accessToken refreshToken _ _ => [accessToken, refreshToken]
  | .refreshed accessToken refreshToken _ => [accessToken, refreshToken]
  | _ => []

/-! ### Handlers -/

section Handlers

variable (lib : Crates) (jwtSecret : String) (users : Users) (env : Env)

/-- A fresh verification token for a user, for 24 hours. -/
def renewVerification (id : Uuid) : Except StatusCode Users := do
  ensure env.writes .internalServerError
  okOr .internalServerError
    (users.setVerificationToken id env.verificationToken (env.now + 24 * 60 * 60))

/-- The checks of `signup` on its body. Only common users sign up, whatever role
the body asks for, and a common user needs a username. -/
def SignupRequest.accepted (body : SignupRequest) : Bool :=
  (body.email.toList.contains '@' && body.email.utf8ByteSize ≤ 256) &&
    (8 ≤ body.password.utf8ByteSize && body.password.utf8ByteSize ≤ 128) &&
    body.username.any fun u => 3 ≤ u.utf8ByteSize && u.utf8ByteSize ≤ 50

def signup (body : SignupRequest) : Except StatusCode (Users × Reply) := do
  ensure body.accepted .badRequest
  let passwordHash ← okOr .internalServerError (lib.hashPassword body.password env.salt)
  ensure env.selects .internalServerError
  match users.byEmail body.email with
  | some row =>
      if !row.emailVerified then do
        let users ← renewVerification users env row.id
        return (users, .emailVerificationRequired (lib.uuidToString row.id) row.role
          "Please check your email to verify your account.")
      else if row.role = .admin && row.emailVerified && !row.totpEnabled then do
        -- the password of the body has not been compared with the one of the row
        let accessToken ← okOr .internalServerError
          (createAccessToken lib jwtSecret env.now row.id)
        return (users, .totpSetupRequired (lib.uuidToString row.id) accessToken
          "Email verified. Please set up 2FA to continue.")
      else .error .conflict
  | none => do
      ensure env.writes .internalServerError
      let users ← okOr .conflict (users.insert {
        id := env.userId
        email := body.email
        passwordHash
        verificationToken := some env.verificationToken
        verificationTokenExpiresAt := some (env.now + 24 * 60 * 60)
        role := .common
        username := body.username })
      return (users, .emailVerificationRequired (lib.uuidToString env.userId) .common
        "Account created. Please check your email to verify your account.")

def login (body : LoginRequest) : Except StatusCode (Users × Reply) := do
  ensure env.selects .internalServerError
  let row ← okOr .unauthorized (users.byEmail body.email)
  let valid ← okOr .internalServerError (lib.verifyPassword body.password row.passwordHash)
  ensure valid .unauthorized
  let userId := lib.uuidToString row.id
  if !row.emailVerified then do
    let users ← renewVerification users env row.id
    return (users, .emailVerificationRequired userId row.role
      "Please verify your email before signing in. A new verification link has been sent.")
  else if row.role = .common then do
    let (accessToken, refreshToken) ← createTokens lib jwtSecret env.now row.id "common"
    return (users, .authenticated accessToken refreshToken userId .common)
  else if !row.totpEnabled then do
    let accessToken ← okOr .internalServerError (createAccessToken lib jwtSecret env.now row.id)
    return (users, .totpSetupRequired userId accessToken "Please set up 2FA to continue.")
  else
    match body.totpCode.filter (· ≠ "") with
    | none => return (users, .totpRequired userId "Please enter your 2FA code.")
    | some totpCode => do
        -- `row.get` panics on `NULL`, and the connection ends without a response
        let totpSecret ← okOr .internalServerError row.totpSecret
        let valid ← okOr .internalServerError (lib.totpCheck totpSecret env.now totpCode)
        ensure valid .unauthorized
        let (accessToken, refreshToken) ← createTokens lib jwtSecret env.now row.id "admin"
        return (users, .authenticated accessToken refreshToken userId .admin)

def refreshToken (token : String) : Except StatusCode (Users × Reply) := do
  let claims ← okOr .unauthorized (validateToken lib jwtSecret env.now token)
  ensure (claims.tokenType = "refresh") .unauthorized
  let userId ← okOr .unauthorized (lib.uuidFromStr claims.sub)
  ensure env.selects .internalServerError
  let row ← okOr .unauthorized (users.byId userId)
  ensure (row.role.text = "admin" || row.role.text = "common") .unauthorized
  let (accessToken, refreshToken) ← createTokens lib jwtSecret env.now userId row.role.text
  return (users, .refreshed accessToken refreshToken (lib.uuidToString userId))

def verifyEmail (token : Option String) : Except StatusCode (Users × Reply) := do
  let token ← okOr .badRequest token
  ensure env.selects .internalServerError
  let row ← okOr .badRequest (Table.get (User.awaits token env.now) users.rows true)
  ensure env.writes .internalServerError
  return (users.markEmailVerified token env.now, .verified row.role)

def setup2fa (user : AuthUser) : Except StatusCode (Users × Reply) := do
  let secretBytes ← okOr .internalServerError env.totpSecret
  ensure env.selects .internalServerError
  let row ← okOr .internalServerError (users.byId user.userId)
  let setup ← okOr .internalServerError (lib.totpSetup secretBytes row.email)
  ensure env.writes .internalServerError
  return (users.setTotpSecret user.userId secretBytes, .totpSetup setup)

def verify2fa (user : AuthUser) (code : String) : Except StatusCode (Users × Reply) := do
  ensure env.selects .internalServerError
  let row ← okOr .internalServerError (users.byId user.userId)
  let secret ← okOr .badRequest row.totpSecret
  let valid ← okOr .internalServerError (lib.totpCheck secret env.now code)
  ensure valid .unauthorized
  ensure env.writes .internalServerError
  return (users.enableTotp user.userId, .totpEnabled)

def adminUpdateUserRole (user : AuthUser) (targetUserId role : String) :
    Except StatusCode (Users × Reply) := do
  ensure (user.role = "admin") .forbidden
  let newRole ← okOr .badRequest (UserRole.fromStr role)
  let targetId ← okOr .badRequest (lib.uuidFromStr targetUserId)
  ensure (targetId ≠ user.userId) .badRequest
  ensure env.writes .internalServerError
  return (users.setRole targetId newRole, .roleUpdated targetUserId newRole)

def exportWallet (user : AuthUser) (walletId : String) (totpCode : Option String) :
    Except StatusCode (Users × Reply) := do
  ensure env.selects .internalServerError
  let row ← okOr .internalServerError (users.byId user.userId)
  ensure row.totpEnabled .forbidden
  let totpCode ← okOr .badRequest totpCode
  let totpSecret ← okOr .internalServerError row.totpSecret
  let valid ← okOr .internalServerError (lib.totpCheck totpSecret env.now totpCode)
  ensure valid .unauthorized
  let (privateKey, address) ← env.exportPrivateKey walletId (lib.uuidToString user.userId)
  return (users, .walletExported privateKey address)

/-- `resend_verification` may fail after its write, when it looks up the address. -/
def resendVerification (user : AuthUser) : Users × Except StatusCode Reply :=
  match renewVerification users env user.userId with
  | .error code => (users, .error code)
  | .ok users =>
      if env.sendsEmail && !(env.selects && (users.byId user.userId).isSome) then
        (users, .error .internalServerError)
      else (users, .ok .verificationSent)

/-- `seed_admin_user`; `none` is an error, with which the gateway does not start. -/
def seedAdminUser (adminEmail adminPassword : String) : Option Users :=
  if adminEmail = "" || adminPassword = "" then some users
  else do
    guard env.selects
    if users.rows.any (·.role = .admin) then return users
    else do
      let passwordHash ← lib.hashPassword adminPassword env.salt
      guard env.writes
      users.insert {
        id := env.userId
        email := adminEmail
        passwordHash
        verificationToken := some env.verificationToken
        verificationTokenExpiresAt := some (env.now + 24 * 60 * 60)
        role := .admin }

end Handlers

end Liquifier.Gateway
