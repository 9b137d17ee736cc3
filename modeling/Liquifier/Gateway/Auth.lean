import Liquifier.Common.Status
import Liquifier.Common.Types

/-!
Passwords, tokens and the check of the Authorization header.

The gateway leaves hashing, signing and one-time codes to crates. They are the
parameter `lib`, and `Crates.Exact` is what their documentation promises.
-/

namespace Liquifier.Gateway

structure Claims where
  sub : String
  exp : ℕ
  iat : ℕ
  tokenType : String
  role : String
  deriving DecidableEq

structure TotpSetup where
  secret : String
  otpauthUrl : String
  qrCodeBase64 : String

/-- What the gateway calls of `argon2`, `jsonwebtoken`, `totp_rs` and `uuid`; an
error is `none`. -/
structure Crates where
  /-- `hash_password`, of a password and a salt. -/
  hashPassword : String → String → Option String
  /-- `verify_password`, of a password and a hash. -/
  verifyPassword : String → String → Option Bool
  /-- `encode`, of claims and a secret. -/
  encode : Claims → String → Option String
  /-- `decode` with the default validation, at a time, of a token and a secret. -/
  decode : ℕ → String → String → Option Claims
  /-- `TOTP::new` for the secret and the e-mail of a user, with its URL and QR code. -/
  totpSetup : List UInt8 → String → Option TotpSetup
  /-- `TOTP::new` and `check_current`, of a secret, a time and a code. -/
  totpCheck : List UInt8 → ℕ → String → Option Bool
  uuidFromStr : String → Option Uuid
  uuidToString : Uuid → String

/-- The time for which the default validation still takes an expired token. -/
def leeway : ℕ := 60

/-- The documented behaviour of the crates. -/
structure Crates.Exact (lib : Crates) : Prop where
  verify : ∀ {password salt hash}, lib.hashPassword password salt = some hash →
    ∀ candidate, lib.verifyPassword candidate hash = some (decide (candidate = password))
  decode : ∀ {claims secret token}, lib.encode claims secret = some token →
    ∀ now, lib.decode now token secret = if now ≤ claims.exp + leeway then some claims else none
  uuid : ∀ id, lib.uuidFromStr (lib.uuidToString id) = some id

/-- What a request meets outside the gateway: the clock, the random values that
its handler draws, and whether the database answers. -/
structure Env where
  now : ℕ
  salt : String
  /-- `Uuid::new_v4` for a user. -/
  userId : Uuid
  /-- `Uuid::new_v4` for a verification token. -/
  verificationToken : String
  /-- `Secret::generate_secret`. -/
  totpSecret : Option (List UInt8)
  /-- A `SELECT` succeeds. -/
  selects : Bool
  /-- An `INSERT` or `UPDATE` finds the database. -/
  writes : Bool
  /-- An e-mail sender is configured. -/
  sendsEmail : Bool
  /-- The key service's answer to `export_private_key`, of a wallet and a user: the
  key and the address. -/
  exportPrivateKey : String → String → Except StatusCode (String × String)

/-! ### Tokens -/

section Tokens

variable (lib : Crates) (jwtSecret : String) (now : ℕ) (userId : Uuid) (role : String)

def createAccessTokenWithRole : Option String :=
  lib.encode ⟨lib.uuidToString userId, now + 60 * 60, now, "access", role⟩ jwtSecret

def createAccessToken : Option String := createAccessTokenWithRole lib jwtSecret now userId "admin"

def createRefreshTokenWithRole : Option String :=
  lib.encode ⟨lib.uuidToString userId, now + 7 * 24 * 60 * 60, now, "refresh", role⟩ jwtSecret

def validateToken (token : String) : Option Claims := lib.decode now token jwtSecret

/-- The two tokens that a handler gives together. -/
def createTokens : Except StatusCode (String × String) := do
  let accessToken ← okOr .internalServerError
    (createAccessTokenWithRole lib jwtSecret now userId role)
  let refreshToken ← okOr .internalServerError
    (createRefreshTokenWithRole lib jwtSecret now userId role)
  return (accessToken, refreshToken)

/-- The token was made for the user. -/
def TokenFor (token : String) : Prop :=
  ∃ claims, lib.encode claims jwtSecret = some token ∧ claims.sub = lib.uuidToString userId

/-- The token was made for the user and carries the role. -/
def TokenWithRole (token : String) : Prop :=
  ∃ claims, lib.encode claims jwtSecret = some token ∧ claims.sub = lib.uuidToString userId ∧
    claims.role = role

end Tokens

section TokenFor

variable {lib : Crates} {jwtSecret : String} {now : ℕ} {userId : Uuid} {role token : String}

theorem TokenWithRole.tokenFor (h : TokenWithRole lib jwtSecret userId role token) :
    TokenFor lib jwtSecret userId token := by
  obtain ⟨claims, hencode, hsub, -⟩ := h
  exact ⟨claims, hencode, hsub⟩

theorem tokenWithRole_of_access
    (h : createAccessTokenWithRole lib jwtSecret now userId role = some token) :
    TokenWithRole lib jwtSecret userId role token :=
  ⟨_, h, rfl, rfl⟩

theorem tokenWithRole_of_createTokens {tokens : String × String}
    (h : createTokens lib jwtSecret now userId role = .ok tokens)
    (ht : token ∈ [tokens.1, tokens.2]) : TokenWithRole lib jwtSecret userId role token := by
  simp only [createTokens, bind_eq_ok, okOr_eq_ok] at h
  obtain ⟨access, haccess, refresh, hrefresh, h⟩ := h
  cases h
  rcases List.mem_pair.mp ht with rfl | rfl
  · exact ⟨_, haccess, rfl, rfl⟩
  · exact ⟨_, hrefresh, rfl, rfl⟩

namespace Crates.Exact

/-- A token has one set of claims. -/
theorem claims_unique (hx : lib.Exact) {c d : Claims} (hc : lib.encode c jwtSecret = some token)
    (hd : lib.encode d jwtSecret = some token) : c = d := by
  have h := (hx.decode hc 0).symm.trans (hx.decode hd 0)
  simpa using h

/-- A token that validates has the claims that it was made with. -/
theorem claims_of_validateToken (hx : lib.Exact) {c d : Claims}
    (hc : lib.encode c jwtSecret = some token)
    (hd : validateToken lib jwtSecret now token = some d) : d = c := by
  rw [validateToken, hx.decode hc] at hd
  split at hd
  · exact (Option.some.inj hd).symm
  · cases hd

theorem uuid_injective (hx : lib.Exact) {id id' : Uuid}
    (h : lib.uuidToString id = lib.uuidToString id') : id = id' :=
  Option.some.inj ((hx.uuid id).symm.trans (h ▸ hx.uuid id'))

/-- A token is for one user. -/
theorem tokenFor_unique (hx : lib.Exact) {id id' : Uuid} (h : TokenFor lib jwtSecret id token)
    (h' : TokenFor lib jwtSecret id' token) : id = id' := by
  obtain ⟨c, hc, hsub⟩ := h
  obtain ⟨d, hd, hsub'⟩ := h'
  obtain rfl := hx.claims_unique hc hd
  exact hx.uuid_injective (hsub.symm.trans hsub')

end Crates.Exact

end TokenFor

/-! ### The Authorization header -/

/-- The user of a verified access token. -/
structure AuthUser where
  userId : Uuid
  role : String
  deriving DecidableEq

/-- `auth_header.strip_prefix("Bearer ")`. -/
def bearerToken (header : String) : Option String :=
  if "Bearer ".toList.isPrefixOf header.toList then some (String.ofList (header.toList.drop 7))
  else none

/-- `require_auth`, up to the handler. -/
def requireAuth (lib : Crates) (jwtSecret : String) (now : ℕ) (authorization : Option String) :
    Except StatusCode AuthUser := do
  let header ← okOr .unauthorized authorization
  let token ← okOr .unauthorized (bearerToken header)
  let claims ← okOr .unauthorized (validateToken lib jwtSecret now token)
  ensure (claims.tokenType = "access") .unauthorized
  let userId ← okOr .unauthorized (lib.uuidFromStr claims.sub)
  return ⟨userId, claims.role⟩

end Liquifier.Gateway
