import Liquifier.Gateway.Rows

/-!
Who is given an access or a refresh token.

In every state that a run reaches, a token for a user answers the password of
that user or one of the user's refresh tokens; the one other way to a token is a
sign-up under the e-mail of an administrator who has no second factor yet.
-/

namespace Liquifier.Gateway

section Tokens

variable {lib : Crates} {jwtSecret : String}

/-! ### The invariant -/

/-- The rows store hashes of passwords, and the tokens were made for users. -/
structure Sound (lib : Crates) (jwtSecret : String) (s : State) : Prop where
  hashed : Hashed lib s.users
  issued : ∀ token ∈ s.issued, ∃ id, TokenFor lib jwtSecret id token

theorem sound_next {s : State} (h : Sound lib jwtSecret s) (e : Event × Env) :
    Sound lib jwtSecret (next lib jwtSecret s e) := by
  obtain ⟨e, env⟩ := e
  cases e with
  | start adminEmail adminPassword =>
      exact ⟨(seeded_writes s.users env adminEmail adminPassword).hashed h.hashed, h.issued⟩
  | request r =>
      have heffect : Effect lib jwtSecret s.users env r (respond lib jwtSecret s.users env r).1
          (respond lib jwtSecret s.users env r).2 := respond_effect r
      refine ⟨heffect.writes.hashed h.hashed, fun token ht => ?_⟩
      rcases List.mem_append.mp ht with ht | ht
      · exact h.issued token ht
      · obtain ⟨-, row, -, -, hrole⟩ := heffect.token ht
        exact ⟨row.id, hrole.tokenFor⟩

theorem sound_run (events : List (Event × Env)) : Sound lib jwtSecret (run lib jwtSecret events) := by
  refine List.foldlRecOn events _ ⟨?_, ?_⟩ fun s h e _ => sound_next h e
  · intro row hrow
    cases hrow
  · intro token ht
    cases ht

/-! ### Credentials -/

/-- Tokens cannot be forged: one that validates has been given out. -/
def Authentic (lib : Crates) (jwtSecret : String) (s : State) (env : Env) (r : Request) : Prop :=
  ∀ token ∈ r.presented, (validateToken lib jwtSecret env.now token).isSome → token ∈ s.issued

/-- A refresh token of the user, given out before and still valid. -/
structure ValidRefreshToken (lib : Crates) (jwtSecret : String) (s : State) (env : Env) (id : Uuid)
    (token : String) (claims : Claims) : Prop where
  issued : token ∈ s.issued
  encoded : lib.encode claims jwtSecret = some token
  refresh : claims.tokenType = "refresh"
  subject : claims.sub = lib.uuidToString id
  valid : validateToken lib jwtSecret env.now token = some claims

/-- The request carries the current password of the user, or a valid refresh token. -/
inductive Carries (lib : Crates) (jwtSecret : String) (s : State) (env : Env) :
    Request → Uuid → Prop
  | password {body row} : row ∈ s.users.rows → row.email = body.email →
      HasPassword lib row body.password → Carries lib jwtSecret s env (.login body) row.id
  | refreshToken {token claims id} : ValidRefreshToken lib jwtSecret s env id token claims →
      Carries lib jwtSecret s env (.refreshToken token) id

/-- Every token in the reply is for a user whose credential the request carries. -/
def TokensNeedCredential (lib : Crates) (jwtSecret : String) (s : State) (env : Env)
    (r : Request) : Prop :=
  ∀ token ∈ issuedTokens (respond lib jwtSecret s.users env r).2, ∀ id,
    TokenFor lib jwtSecret id token → Carries lib jwtSecret s env r id

/-- A grant is a credential, but for the sign-up. -/
theorem carries_of_grants (hx : lib.Exact) {s : State} (h : Sound lib jwtSecret s) {env : Env}
    {r : Request} (hr : Authentic lib jwtSecret s env r) {id : Uuid}
    (hgrant : Grants lib jwtSecret s.users env r id)
    (hlocked : ∀ body row, r = .signup body → ¬ Unlocks lib jwtSecret s.users env body row) :
    Carries lib jwtSecret s env r id := by
  cases hgrant with
  | signup hunlocks => exact absurd hunlocks (hlocked _ _ rfl)
  | @login body row hadmits =>
      obtain ⟨password, salt, hhash⟩ := h.hashed row hadmits.mem
      have hverify := hadmits.password
      rw [hx.verify hhash, Option.some.injEq, decide_eq_true_eq] at hverify
      exact .password hadmits.mem hadmits.email ⟨salt, hverify ▸ hhash⟩
  | @refreshToken token claims id hvalid htype hid =>
      have hissued : token ∈ s.issued := hr token rfl (by simp [hvalid])
      obtain ⟨owner, claims', hencode, hsub⟩ := h.issued token hissued
      obtain rfl := hx.claims_of_validateToken hencode hvalid
      obtain rfl : owner = id := by
        rw [hsub, hx.uuid] at hid
        exact Option.some.inj hid
      exact .refreshToken ⟨hissued, hencode, htype, hsub, hvalid⟩

/-- In every state that a run reaches, the tokens of a reply need a credential of
their user, unless the request is a sign-up under the e-mail of an administrator
with a verified address and without TOTP. -/
theorem tokensNeedCredential_iff (hx : lib.Exact) (events : List (Event × Env)) {env : Env}
    {r : Request} (hr : Authentic lib jwtSecret (run lib jwtSecret events) env r) :
    TokensNeedCredential lib jwtSecret (run lib jwtSecret events) env r ↔
      ∀ body row, r = .signup body →
        ¬ Unlocks lib jwtSecret (run lib jwtSecret events).users env body row := by
  constructor
  · rintro h body row rfl hunlocks
    obtain ⟨token, reply, htoken, hmem, hsignup⟩ := signup_of_unlocks hunlocks
    have hissued : token ∈ issuedTokens
        (respond lib jwtSecret (run lib jwtSecret events).users env (.signup body)).2 := by
      rw [respond, hsignup]
      exact hmem
    cases h token hissued row.id (tokenWithRole_of_access htoken).tokenFor
  · intro hlocked token hissued id hfor
    obtain ⟨-, row, -, hgrant, hrole⟩ := (respond_effect r).token hissued
    obtain rfl := hx.tokenFor_unique hrole.tokenFor hfor
    exact carries_of_grants hx (sound_run events) hr hgrant hlocked

end Tokens

/-! ### An administrator and a common user -/

namespace Sample

def sampleTokens : List (String × Claims) :=
  [("access.admin", ⟨"1", 3600, 0, "access", "admin"⟩),
    ("access.common", ⟨"11", 3600, 0, "access", "common"⟩),
    ("refresh.common", ⟨"11", 604800, 0, "refresh", "common"⟩)]

def crates : Crates where
  hashPassword password _ := some ("$argon2id$" ++ password)
  verifyPassword password hash := some (decide ("$argon2id$" ++ password = hash))
  encode claims _ := (sampleTokens.find? fun t => t.2 = claims).map (·.1)
  decode now token _ :=
    ((sampleTokens.find? fun t => t.1 = token).map (·.2)).filter (now ≤ ·.exp + leeway)
  totpSetup _ _ := none
  totpCheck _ _ _ := none
  uuidFromStr s := some s.length
  uuidToString id := String.ofList (List.replicate id '1')

theorem crates_exact : crates.Exact where
  verify := by
    rintro password salt _ ⟨⟩ candidate
    simp [crates]
  decode := by
    intro claims secret token h now
    simp only [crates, Option.map_eq_some_iff] at h
    obtain ⟨t, ht, rfl⟩ := h
    have hclaims : t.2 = claims := by simpa using List.find?_some ht
    subst hclaims
    have hmem := List.mem_of_find?_eq_some ht
    simp only [sampleTokens, List.mem_cons, List.not_mem_nil, or_false] at hmem
    rcases hmem with rfl | rfl | rfl <;> simp [crates, sampleTokens, Option.filter]
  uuid id := by simp [crates]

def env (userId : Uuid) (verificationToken : String) : Env :=
  ⟨0, "salt", userId, verificationToken, none, true, true, false,
    fun _ _ => .error .serviceUnavailable⟩

def events : List (Event × Env) :=
  [(.start "admin@example.com" "correct horse", env 1 "first"),
    (.request (.verifyEmail (some "first")), env 0 ""),
    (.request (.signup ⟨"user@example.com", "battery staple", some "user", "common"⟩),
      env 2 "second"),
    (.request (.verifyEmail (some "second")), env 0 ""),
    (.request (.login ⟨"user@example.com", "battery staple", none⟩), env 0 "")]

end Sample

/-- The user renews the tokens that the login has given out. -/
theorem tokensNeedCredential_iff_sample :
    "access.common" ∈ issuedTokens (respond Sample.crates "secret"
        (run Sample.crates "secret" Sample.events).users (Sample.env 0 "")
        (.refreshToken "refresh.common")).2 ∧
      TokensNeedCredential Sample.crates "secret" (run Sample.crates "secret" Sample.events)
        (Sample.env 0 "") (.refreshToken "refresh.common") := by
  refine ⟨by decide +kernel, (tokensNeedCredential_iff Sample.crates_exact Sample.events ?_).mpr ?_⟩
  · rintro token ⟨⟩ -
    decide +kernel
  · rintro body row ⟨⟩

/-- A sign-up under the e-mail of the administrator, with another password. -/
theorem signup_without_password :
    ¬ ∀ lib jwtSecret events env r, Crates.Exact lib →
      Authentic lib jwtSecret (run lib jwtSecret events) env r →
      TokensNeedCredential lib jwtSecret (run lib jwtSecret events) env r := by
  intro h
  have hcarries := h Sample.crates "secret" Sample.events (Sample.env 3 "third")
    (.signup ⟨"admin@example.com", "a wild guess", some "mallory", "common"⟩) Sample.crates_exact
    (by rintro token ⟨⟩) "access.admin" (by decide +kernel) 1
    ⟨⟨"1", 3600, 0, "access", "admin"⟩, by decide +kernel, by decide +kernel⟩
  cases hcarries

end Liquifier.Gateway
