import Liquifier.Gateway.Accounts

/-!
The requests of a client and the responses of the gateway.

A run is a sequence of requests, with restarts of the gateway in between, from
an empty `users` table. `respond_effect` says all that a response can do: how it
writes the table, what it answers, and which checks stand before it.
-/

namespace Liquifier.Gateway

inductive Request where
  | signup (body : SignupRequest)
  | login (body : LoginRequest)
  | refreshToken (token : String)
  | verifyEmail (token : Option String)
  | resendVerification (authorization : Option String)
  | setup2fa (authorization : Option String)
  | verify2fa (authorization : Option String) (code : String)
  | adminUpdateUserRole (authorization : Option String) (targetUserId role : String)
  | exportWallet (authorization : Option String) (walletId : String) (totpCode : Option String)

/-- The token that a request brings along. -/
def Request.presented : Request → Option String
  | .refreshToken token => some token
  | .resendVerification authorization | .setup2fa authorization | .verify2fa authorization _
  | .adminUpdateUserRole authorization _ _ | .exportWallet authorization _ _ =>
      authorization.bind bearerToken
  | _ => none

inductive Event where
  | start (adminEmail adminPassword : String)
  | request (r : Request)

/-- The table, and the tokens that have been given out. -/
structure State where
  users : Users
  issued : List String

/-! ### Runs -/

/-- A handler that ends with a status code has written nothing. -/
def settle (users : Users) : Except StatusCode (Users × Reply) → Users × Except StatusCode Reply
  | .ok (users, reply) => (users, .ok reply)
  | .error code => (users, .error code)

section Runs

variable (lib : Crates) (jwtSecret : String)

def respond (users : Users) (env : Env) : Request → Users × Except StatusCode Reply
  | .signup body => settle users (signup lib jwtSecret users env body)
  | .login body => settle users (login lib jwtSecret users env body)
  | .refreshToken token => settle users (refreshToken lib jwtSecret users env token)
  | .verifyEmail token => settle users (verifyEmail users env token)
  | .resendVerification authorization =>
      match requireAuth lib jwtSecret env.now authorization with
      | .ok user => resendVerification users env user
      | .error code => (users, .error code)
  | .setup2fa authorization =>
      settle users do
        let user ← requireAuth lib jwtSecret env.now authorization
        setup2fa lib users env user
  | .verify2fa authorization code =>
      settle users do
        let user ← requireAuth lib jwtSecret env.now authorization
        verify2fa lib users env user code
  | .adminUpdateUserRole authorization targetUserId role =>
      settle users do
        let user ← requireAuth lib jwtSecret env.now authorization
        adminUpdateUserRole lib users env user targetUserId role
  | .exportWallet authorization walletId totpCode =>
      settle users do
        let user ← requireAuth lib jwtSecret env.now authorization
        exportWallet lib users env user walletId totpCode

def issuedTokens : Except StatusCode Reply → List String
  | .ok reply => reply.tokens
  | .error _ => []

def next (g : State) (e : Event × Env) : State :=
  match e.1 with
  | .start adminEmail adminPassword =>
      { g with users := (seedAdminUser lib g.users e.2 adminEmail adminPassword).getD g.users }
  | .request r =>
      let response := respond lib jwtSecret g.users e.2 r
      ⟨response.1, g.issued ++ issuedTokens response.2⟩

def run (events : List (Event × Env)) : State := events.foldl (next lib jwtSecret) ⟨.empty, []⟩

end Runs

section Tokens

variable {lib : Crates} {jwtSecret : String}

/-! ### What the handlers write -/

/-- The password whose hash the row stores. -/
def HasPassword (lib : Crates) (r : User) (password : String) : Prop :=
  ∃ salt, lib.hashPassword password salt = some r.passwordHash

/-- Nothing, an update that leaves the password alone, or a row with a fresh hash. -/
inductive Writes (lib : Crates) (users : Users) : Users → Prop
  | nothing : Writes lib users users
  | update {κ : Type} [DecidableEq κ] (key : User → κ) (k : κ) (f : User → User)
      (hf : Users.Sets f) : Writes lib users (users.update key k f hf)
  | insert {r : User} {password : String} {users' : Users} : users.insert r = some users' →
      HasPassword lib r password → Writes lib users users'

theorem insert_rows {users users' : Users} {r : User} (h : users.insert r = some users') :
    users'.rows = users.rows ++ [r] := by
  simp only [Users.insert] at h
  split at h
  · cases h
  · rw [← Option.some.inj h]

/-- Every row stores the hash of some password. -/
def Hashed (lib : Crates) (users : Users) : Prop :=
  ∀ row ∈ users.rows, ∃ password, HasPassword lib row password

theorem Writes.hashed {users users' : Users} (h : Writes lib users users')
    (hashed : Hashed lib users) : Hashed lib users' := by
  cases h with
  | nothing => exact hashed
  | update key k f hf =>
      intro row hrow
      rcases Table.mem_update hrow with ⟨hrow, -⟩ | ⟨q, hq, -, rfl⟩
      · exact hashed row hrow
      · obtain ⟨password, salt, hhash⟩ := hashed q hq
        exact ⟨password, salt, hhash.trans (congrArg some (hf.passwordHash q).symm)⟩
  | insert hinsert hpassword =>
      intro row hrow
      rw [insert_rows hinsert, List.mem_append, List.mem_singleton] at hrow
      rcases hrow with hrow | rfl
      · exact hashed row hrow
      · exact ⟨_, hpassword⟩

/-! ### What the handlers give out -/

/-- A sign-up that passes the checks, under the e-mail of an administrator with a
verified address and without TOTP; hashing, look-up and signing succeed. -/
structure Unlocks (lib : Crates) (jwtSecret : String) (users : Users) (env : Env)
    (body : SignupRequest) (row : User) : Prop where
  accepted : body.accepted = true
  hashes : (lib.hashPassword body.password env.salt).isSome
  selects : env.selects = true
  mem : row ∈ users.rows
  email : row.email = body.email
  admin : row.role = .admin
  verified : row.emailVerified = true
  withoutTotp : row.totpEnabled = false
  signs : (createAccessToken lib jwtSecret env.now row.id).isSome

/-- A login has passed the checks on the password and the e-mail. -/
structure Admits (lib : Crates) (users : Users) (body : LoginRequest) (row : User) : Prop where
  mem : row ∈ users.rows
  email : row.email = body.email
  password : lib.verifyPassword body.password row.passwordHash = some true
  verified : row.emailVerified = true

/-- The grounds on which a handler gives out a token for a user. -/
inductive Grants (lib : Crates) (jwtSecret : String) (users : Users) (env : Env) :
    Request → Uuid → Prop
  | signup {body row} : Unlocks lib jwtSecret users env body row →
      Grants lib jwtSecret users env (.signup body) row.id
  | login {body row} : Admits lib users body row →
      Grants lib jwtSecret users env (.login body) row.id
  | refreshToken {token claims id} : validateToken lib jwtSecret env.now token = some claims →
      claims.tokenType = "refresh" → lib.uuidFromStr claims.sub = some id →
      Grants lib jwtSecret users env (.refreshToken token) id

/-! ### All that a response can do -/

/-- The requests that renew the verification token of a user. -/
def Request.renews : Request → Bool
  | .signup _ | .login _ | .resendVerification _ => true
  | _ => false

/-- The code of a login is right for the secret of the row. -/
def CodeVerified (lib : Crates) (now : ℕ) (row : User) (totpCode : Option String) : Prop :=
  ∃ secret code, row.totpSecret = some secret ∧ totpCode.filter (· ≠ "") = some code ∧
    lib.totpCheck secret now code = some true

/-- What a response does to the table, what it answers, and which checks stand
before it. -/
inductive Effect (lib : Crates) (jwtSecret : String) (users : Users) (env : Env) :
    Request → Users → Except StatusCode Reply → Prop
  | failed {r code} : Effect lib jwtSecret users env r users (.error code)
  | renewed {r id users' response} (hr : r.renews = true)
      (hwrite : users.setVerificationToken id env.verificationToken (env.now + 24 * 60 * 60) =
        some users')
      (hresponse : issuedTokens response = []) : Effect lib jwtSecret users env r users' response
  | signedUp {body row users' reply} (hinsert : users.insert row = some users')
      (hpassword : HasPassword lib row body.password) (hrole : row.role = .common)
      (htotp : row.totpEnabled = false) (hreply : reply.tokens = []) :
      Effect lib jwtSecret users env (.signup body) users' (.ok reply)
  | unlocked {body row token message} (hunlocks : Unlocks lib jwtSecret users env body row)
      (htoken : createAccessToken lib jwtSecret env.now row.id = some token) :
      Effect lib jwtSecret users env (.signup body) users
        (.ok (.totpSetupRequired (lib.uuidToString row.id) token message))
  | codeAsked {body row message} (hadmits : Admits lib users body row) :
      Effect lib jwtSecret users env (.login body) users
        (.ok (.totpRequired (lib.uuidToString row.id) message))
  | commonLogin {body row tokens} (hadmits : Admits lib users body row)
      (hrole : row.role = .common)
      (htokens : createTokens lib jwtSecret env.now row.id "common" = .ok tokens) :
      Effect lib jwtSecret users env (.login body) users
        (.ok (.authenticated tokens.1 tokens.2 (lib.uuidToString row.id) .common))
  | setupLogin {body row token message} (hadmits : Admits lib users body row)
      (hrole : row.role = .admin) (htotp : row.totpEnabled = false)
      (htoken : createAccessToken lib jwtSecret env.now row.id = some token) :
      Effect lib jwtSecret users env (.login body) users
        (.ok (.totpSetupRequired (lib.uuidToString row.id) token message))
  | adminLogin {body row tokens} (hadmits : Admits lib users body row)
      (hrole : row.role = .admin) (htotp : row.totpEnabled = true)
      (hcode : CodeVerified lib env.now row body.totpCode)
      (htokens : createTokens lib jwtSecret env.now row.id "admin" = .ok tokens) :
      Effect lib jwtSecret users env (.login body) users
        (.ok (.authenticated tokens.1 tokens.2 (lib.uuidToString row.id) .admin))
  | refreshed {token claims row tokens}
      (hvalid : validateToken lib jwtSecret env.now token = some claims)
      (htype : claims.tokenType = "refresh") (hsub : lib.uuidFromStr claims.sub = some row.id)
      (hmem : row ∈ users.rows)
      (htokens : createTokens lib jwtSecret env.now row.id row.role.text = .ok tokens) :
      Effect lib jwtSecret users env (.refreshToken token) users
        (.ok (.refreshed tokens.1 tokens.2 (lib.uuidToString row.id)))
  | emailVerified {token role} :
      Effect lib jwtSecret users env (.verifyEmail (some token))
        (users.markEmailVerified token env.now) (.ok (.verified role))
  | totpSecretSet {authorization user row secret setup}
      (hauth : requireAuth lib jwtSecret env.now authorization = .ok user)
      (hgenerated : env.totpSecret = some secret) (hselects : env.selects = true)
      (hrow : users.byId user.userId = some row)
      (hsetup : lib.totpSetup secret row.email = some setup) (hwrites : env.writes = true) :
      Effect lib jwtSecret users env (.setup2fa authorization)
        (users.setTotpSecret user.userId secret) (.ok (.totpSetup setup))
  | totpEnabled {authorization code user row secret}
      (hauth : requireAuth lib jwtSecret env.now authorization = .ok user)
      (hrow : users.byId user.userId = some row) (hsecret : row.totpSecret = some secret)
      (hcode : lib.totpCheck secret env.now code = some true) :
      Effect lib jwtSecret users env (.verify2fa authorization code)
        (users.enableTotp user.userId) (.ok .totpEnabled)
  | roleUpdated {authorization targetUserId role user id newRole}
      (hauth : requireAuth lib jwtSecret env.now authorization = .ok user)
      (hadmin : user.role = "admin") (hrole : UserRole.fromStr role = some newRole)
      (hid : lib.uuidFromStr targetUserId = some id) (hself : id ≠ user.userId)
      (hwrites : env.writes = true) :
      Effect lib jwtSecret users env (.adminUpdateUserRole authorization targetUserId role)
        (users.setRole id newRole) (.ok (.roleUpdated targetUserId newRole))
  | walletExported {authorization walletId totpCode user row privateKey address}
      (hauth : requireAuth lib jwtSecret env.now authorization = .ok user)
      (hrow : users.byId user.userId = some row) (htotp : row.totpEnabled = true) :
      Effect lib jwtSecret users env (.exportWallet authorization walletId totpCode) users
        (.ok (.walletExported privateKey address))

section Effect

variable {users users' : Users} {env : Env} {r : Request} {reply : Reply}

theorem renewVerification_eq_ok {id : Uuid} (h : renewVerification users env id = .ok users') :
    users.setVerificationToken id env.verificationToken (env.now + 24 * 60 * 60) = some users' := by
  simp only [renewVerification, bind_eq_ok, okOr_eq_ok] at h
  obtain ⟨-, -, h⟩ := h
  exact h

theorem signup_effect {body : SignupRequest}
    (h : signup lib jwtSecret users env body = .ok (users', reply)) :
    Effect lib jwtSecret users env (.signup body) users' (.ok reply) := by
  simp only [signup, bind_eq_ok, ensure_eq_ok, okOr_eq_ok] at h
  obtain ⟨-, haccepted, passwordHash, hhash, -, hselects, h⟩ := h
  cases hrow : users.byEmail body.email with
  | none =>
      simp only [hrow, bind_eq_ok, ensure_eq_ok, okOr_eq_ok] at h
      obtain ⟨-, -, _, hinsert, h⟩ := h
      cases h
      exact .signedUp hinsert ⟨env.salt, hhash⟩ rfl rfl rfl
  | some row =>
      simp only [hrow] at h
      split at h
      · simp only [bind_eq_ok] at h
        obtain ⟨_, hrenew, h⟩ := h
        cases h
        exact .renewed rfl (renewVerification_eq_ok hrenew) rfl
      · split at h
        · rename_i hflags
          simp only [bind_eq_ok, okOr_eq_ok] at h
          obtain ⟨accessToken, hsigns, h⟩ := h
          cases h
          obtain ⟨hmem, hemail⟩ := Users.byEmail_eq_some.mp hrow
          simp only [Bool.and_eq_true, decide_eq_true_eq, Bool.not_eq_true'] at hflags
          obtain ⟨⟨hadmin, hverified⟩, htotp⟩ := hflags
          exact .unlocked ⟨haccepted, by simp [hhash], hselects, hmem, hemail, hadmin, hverified,
            htotp, by simp [hsigns]⟩ hsigns
        · cases h

theorem role_eq_admin {role : UserRole} (h : ¬ role = .common) : role = .admin := by
  cases role with
  | admin => rfl
  | common => exact absurd rfl h

theorem login_effect {body : LoginRequest}
    (h : login lib jwtSecret users env body = .ok (users', reply)) :
    Effect lib jwtSecret users env (.login body) users' (.ok reply) := by
  simp only [login, bind_eq_ok, ensure_eq_ok, okOr_eq_ok] at h
  obtain ⟨-, -, row, hrow, valid, hverify, -, rfl, h⟩ := h
  obtain ⟨hmem, hemail⟩ := Users.byEmail_eq_some.mp hrow
  split at h
  · simp only [bind_eq_ok] at h
    obtain ⟨_, hrenew, h⟩ := h
    cases h
    exact .renewed rfl (renewVerification_eq_ok hrenew) rfl
  · rename_i hverified
    have hadmits : Admits lib users body row := ⟨hmem, hemail, hverify, by simpa using hverified⟩
    split at h
    · rename_i hrole
      simp only [bind_eq_ok] at h
      obtain ⟨tokens, htokens, h⟩ := h
      cases h
      exact .commonLogin hadmits hrole htokens
    · rename_i hrole
      have hadmin : row.role = .admin := role_eq_admin hrole
      split at h
      · rename_i htotp
        simp only [bind_eq_ok, okOr_eq_ok] at h
        obtain ⟨accessToken, hsigns, h⟩ := h
        cases h
        exact .setupLogin hadmits hadmin (by simpa using htotp) hsigns
      · rename_i htotp
        split at h
        · cases h
          exact .codeAsked hadmits
        · rename_i code hcode
          simp only [bind_eq_ok, okOr_eq_ok, ensure_eq_ok] at h
          obtain ⟨secret, hsecret, valid, hcheck, -, rfl, tokens, htokens, h⟩ := h
          cases h
          exact .adminLogin hadmits hadmin (by simpa using htotp)
            ⟨secret, code, hsecret, hcode, hcheck⟩ htokens

theorem refreshToken_effect {token : String}
    (h : refreshToken lib jwtSecret users env token = .ok (users', reply)) :
    Effect lib jwtSecret users env (.refreshToken token) users' (.ok reply) := by
  simp only [refreshToken, bind_eq_ok, ensure_eq_ok, okOr_eq_ok, decide_eq_true_eq] at h
  obtain ⟨claims, hvalid, -, htype, id, hid, -, -, row, hrow, -, -, tokens, htokens, h⟩ := h
  cases h
  obtain rfl : row.id = id := Table.key_of_get hrow
  exact .refreshed hvalid htype hid (Table.mem_of_get hrow) htokens

theorem verifyEmail_effect {token : Option String}
    (h : verifyEmail users env token = .ok (users', reply)) :
    Effect lib jwtSecret users env (.verifyEmail token) users' (.ok reply) := by
  simp only [verifyEmail, bind_eq_ok, okOr_eq_ok] at h
  obtain ⟨token, rfl, -, -, row, -, -, -, h⟩ := h
  cases h
  exact .emailVerified

section Authorized

variable {authorization : Option String} {user : AuthUser}
  (hauth : requireAuth lib jwtSecret env.now authorization = .ok user)
include hauth

theorem setup2fa_effect (h : setup2fa lib users env user = .ok (users', reply)) :
    Effect lib jwtSecret users env (.setup2fa authorization) users' (.ok reply) := by
  simp only [setup2fa, bind_eq_ok, okOr_eq_ok, ensure_eq_ok] at h
  obtain ⟨secret, hgenerated, -, hselects, row, hrow, setup, hsetup, -, hwrites, h⟩ := h
  cases h
  exact .totpSecretSet hauth hgenerated hselects hrow hsetup hwrites

theorem verify2fa_effect (code : String)
    (h : verify2fa lib users env user code = .ok (users', reply)) :
    Effect lib jwtSecret users env (.verify2fa authorization code) users' (.ok reply) := by
  simp only [verify2fa, bind_eq_ok, okOr_eq_ok, ensure_eq_ok] at h
  obtain ⟨-, -, row, hrow, secret, hsecret, valid, hcode, -, rfl, -, -, h⟩ := h
  cases h
  exact .totpEnabled hauth hrow hsecret hcode

theorem adminUpdateUserRole_effect (targetUserId role : String)
    (h : adminUpdateUserRole lib users env user targetUserId role = .ok (users', reply)) :
    Effect lib jwtSecret users env (.adminUpdateUserRole authorization targetUserId role) users'
      (.ok reply) := by
  simp only [adminUpdateUserRole, bind_eq_ok, okOr_eq_ok, ensure_eq_ok, decide_eq_true_eq] at h
  obtain ⟨-, hadmin, newRole, hrole, id, hid, -, hself, -, hwrites, h⟩ := h
  cases h
  exact .roleUpdated hauth hadmin hrole hid hself hwrites

theorem exportWallet_effect (walletId : String) (totpCode : Option String)
    (h : exportWallet lib users env user walletId totpCode = .ok (users', reply)) :
    Effect lib jwtSecret users env (.exportWallet authorization walletId totpCode) users'
      (.ok reply) := by
  simp only [exportWallet, bind_eq_ok, okOr_eq_ok, ensure_eq_ok] at h
  obtain ⟨-, -, row, hrow, -, htotp, _, -, _, -, _, -, -, -, _, -, h⟩ := h
  cases h
  exact .walletExported hauth hrow htotp

end Authorized

theorem resendVerification_effect (authorization : Option String) (user : AuthUser) :
    Effect lib jwtSecret users env (.resendVerification authorization)
      (resendVerification users env user).1 (resendVerification users env user).2 := by
  simp only [resendVerification]
  split
  · exact .failed
  · rename_i hrenew
    split
    · exact .renewed rfl (renewVerification_eq_ok hrenew) rfl
    · exact .renewed rfl (renewVerification_eq_ok hrenew) rfl

theorem effect_settle {x : Except StatusCode (Users × Reply)}
    (h : ∀ users' reply, x = .ok (users', reply) →
      Effect lib jwtSecret users env r users' (.ok reply)) :
    Effect lib jwtSecret users env r (settle users x).1 (settle users x).2 := by
  cases x with
  | ok y => exact h y.1 y.2 rfl
  | error code => exact .failed

theorem effect_settle_bind {α : Type} {x : Except StatusCode α}
    {f : α → Except StatusCode (Users × Reply)}
    (h : ∀ a users' reply, x = .ok a → f a = .ok (users', reply) →
      Effect lib jwtSecret users env r users' (.ok reply)) :
    Effect lib jwtSecret users env r (settle users (x >>= f)).1 (settle users (x >>= f)).2 := by
  refine effect_settle fun users' reply hx => ?_
  obtain ⟨a, ha, hf⟩ := bind_eq_ok.mp hx
  exact h a users' reply ha hf

theorem respond_effect (r : Request) :
    Effect lib jwtSecret users env r (respond lib jwtSecret users env r).1
      (respond lib jwtSecret users env r).2 := by
  cases r with
  | signup body => exact effect_settle fun _ _ => signup_effect
  | login body => exact effect_settle fun _ _ => login_effect
  | refreshToken token => exact effect_settle fun _ _ => refreshToken_effect
  | verifyEmail token => exact effect_settle fun _ _ => verifyEmail_effect
  | resendVerification authorization =>
      simp only [respond]
      split
      · exact resendVerification_effect authorization _
      · exact .failed
  | setup2fa authorization => exact effect_settle_bind fun _ _ _ => setup2fa_effect
  | verify2fa authorization code => exact effect_settle_bind fun _ _ _ h => verify2fa_effect h code
  | adminUpdateUserRole authorization targetUserId role =>
      exact effect_settle_bind fun _ _ _ h => adminUpdateUserRole_effect h targetUserId role
  | exportWallet authorization walletId totpCode =>
      exact effect_settle_bind fun _ _ _ h => exportWallet_effect h walletId totpCode

theorem setVerificationToken_writes {id : Uuid} {token : String} {expires : ℕ}
    (h : users.setVerificationToken id token expires = some users') : Writes lib users users' := by
  simp only [Users.setVerificationToken] at h
  split at h
  · cases h
  · cases h
    exact .update _ _ _ _

theorem Effect.writes {response : Except StatusCode Reply}
    (h : Effect lib jwtSecret users env r users' response) : Writes lib users users' := by
  cases h with
  | renewed hr hwrite hresponse => exact setVerificationToken_writes hwrite
  | signedUp hinsert hpassword => exact .insert hinsert hpassword
  | emailVerified | totpSecretSet | totpEnabled | roleUpdated => exact .update _ _ _ _
  | _ => exact .nothing

/-- A token of a response is made for a row of the table, which the response leaves
alone, and carries the role of the row. -/
theorem Effect.token {response : Except StatusCode Reply} {token : String}
    (h : Effect lib jwtSecret users env r users' response) (ht : token ∈ issuedTokens response) :
    users' = users ∧ ∃ row ∈ users.rows, Grants lib jwtSecret users env r row.id ∧
      TokenWithRole lib jwtSecret row.id row.role.text token := by
  cases h with
  | failed | emailVerified | totpSecretSet | totpEnabled | roleUpdated | walletExported
  | codeAsked => cases ht
  | renewed hr hwrite hresponse =>
      rw [hresponse] at ht
      cases ht
  | signedUp hinsert hpassword hrole htotp hreply =>
      rw [issuedTokens, hreply] at ht
      cases ht
  | unlocked hunlocks hsigns =>
      obtain rfl := List.mem_singleton.mp ht
      refine ⟨rfl, _, hunlocks.mem, .signup hunlocks, ?_⟩
      rw [hunlocks.admin]
      exact tokenWithRole_of_access hsigns
  | commonLogin hadmits hrole htokens =>
      refine ⟨rfl, _, hadmits.mem, .login hadmits, ?_⟩
      rw [hrole]
      exact tokenWithRole_of_createTokens htokens ht
  | setupLogin hadmits hrole htotp hsigns =>
      obtain rfl := List.mem_singleton.mp ht
      refine ⟨rfl, _, hadmits.mem, .login hadmits, ?_⟩
      rw [hrole]
      exact tokenWithRole_of_access hsigns
  | adminLogin hadmits hrole htotp hcode htokens =>
      refine ⟨rfl, _, hadmits.mem, .login hadmits, ?_⟩
      rw [hrole]
      exact tokenWithRole_of_createTokens htokens ht
  | refreshed hvalid htype hsub hmem htokens =>
      exact ⟨rfl, _, hmem, .refreshToken hvalid htype hsub,
        tokenWithRole_of_createTokens htokens ht⟩

end Effect

/-- The branch of `signup` that gives out a token. -/
theorem signup_of_unlocks {users : Users} {env : Env} {body : SignupRequest} {row : User}
    (h : Unlocks lib jwtSecret users env body row) :
    ∃ token reply, createAccessToken lib jwtSecret env.now row.id = some token ∧
      token ∈ reply.tokens ∧ signup lib jwtSecret users env body = .ok (users, reply) := by
  obtain ⟨passwordHash, hhash⟩ := Option.isSome_iff_exists.mp h.hashes
  obtain ⟨token, htoken⟩ := Option.isSome_iff_exists.mp h.signs
  have hrow : users.byEmail body.email = some row := Users.byEmail_eq_some.mpr ⟨h.mem, h.email⟩
  refine ⟨token, .totpSetupRequired (lib.uuidToString row.id) token
    "Email verified. Please set up 2FA to continue.", htoken, List.mem_singleton_self _, ?_⟩
  simp only [signup, h.accepted, hhash, h.selects, hrow, h.verified, h.admin, h.withoutTotp, htoken]
  rfl

end Tokens

end Liquifier.Gateway
