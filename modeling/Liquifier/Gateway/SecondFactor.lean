import Liquifier.Gateway.Roles

/-!
The second factor of administrators.

Two records are kept beside a run: which tokens come from a login with a verified
code, and which secrets were stored and confirmed. The first one shows that an
administrator is let in without a code as well, with the token that is meant for
the set-up. The second one shows that a confirmed secret is replaced by one that
was never confirmed, with the second factor still on. As requests are served one after
another, a set-up does not come between the two statements of a confirmation.
-/

namespace Liquifier.Gateway

open Trace

variable {lib : Crates} {jwtSecret : String}

/-! ### Tokens of administrators -/

section Descent

variable (lib jwtSecret)

/-- The check at the head of the handlers for administrators. -/
def requireAdmin (now : ℕ) (authorization : Option String) : Except StatusCode AuthUser := do
  let user ← requireAuth lib jwtSecret now authorization
  ensure (user.role = "admin") .forbidden
  return user

/-- The code is right for the stored secret. -/
def verifiesCode (now : ℕ) (row : User) (totpCode : Option String) : Bool :=
  (row.totpSecret.bind fun secret => totpCode.bind fun code => lib.totpCheck secret now code) =
    some true

/-- A login of an administrator in which the code is verified. -/
def loginWithCode (users : Users) (env : Env) : Request → Bool
  | .login body =>
      (users.byEmail body.email).any fun row =>
        row.role = .admin && verifiesCode lib env.now row body.totpCode
  | _ => false

/-- The requests that let an administrator in without a code: a sign-up, a login
before TOTP is enabled, and a refresh with a token from the time as a common user. -/
def skipsCode (users : Users) (env : Env) : Request → Bool
  | .signup _ => true
  | .login body => (users.byEmail body.email).any fun row => row.role = .admin && !row.totpEnabled
  | .refreshToken token =>
      (validateToken lib jwtSecret env.now token).any fun claims =>
        claims.role ≠ "admin" &&
          ((lib.uuidFromStr claims.sub).bind users.byId).any (·.role = .admin)
  | _ => false

/-- The request refreshes one of the tokens. -/
def Request.refreshes (known : List String) : Request → Bool
  | .refreshToken token => known.contains token
  | _ => false

/-- The tokens that answer the requests of a kind, and those that come from refreshing them. -/
def descent (kind : Users → Env → Request → Bool) (s : State) (known : List String)
    (e : Event × Env) : List String :=
  match e.1 with
  | .start _ _ => []
  | .request r =>
      if kind s.users e.2 r || r.refreshes known then
        issuedTokens (respond lib jwtSecret s.users e.2 r).2
      else []

/-- The tokens of a run that come from a login with a verified code. -/
def byCode (events : List (Event × Env)) : List String :=
  notes (next lib jwtSecret) (descent lib jwtSecret (loginWithCode lib)) ⟨.empty, []⟩ events

/-- The tokens of a run by which an administrator is let in without a code. -/
def withoutCode (events : List (Event × Env)) : List String :=
  notes (next lib jwtSecret) (descent lib jwtSecret (skipsCode lib jwtSecret)) ⟨.empty, []⟩ events

end Descent

section AdminTokens

theorem requireAdmin_eq_ok {now : ℕ} {authorization : Option String} {user : AuthUser} :
    requireAdmin lib jwtSecret now authorization = .ok user ↔
      requireAuth lib jwtSecret now authorization = .ok user ∧ user.role = "admin" := by
  simp only [requireAdmin, bind_eq_ok, ensure_eq_ok, decide_eq_true_eq]
  constructor
  · rintro ⟨_, hauth, -, hrole, h⟩
    cases h
    exact ⟨hauth, hrole⟩
  · rintro ⟨hauth, hrole⟩
    exact ⟨user, hauth, (), hrole, rfl⟩

theorem AcceptsRole.requireAdmin {env : Env} {authorization : Option String}
    {targetUserId : String} {user : AuthUser} {id : Uuid}
    (h : AcceptsRole lib jwtSecret env authorization targetUserId user id) :
    requireAdmin lib jwtSecret env.now authorization = .ok user :=
  requireAdmin_eq_ok.mpr ⟨h.auth, h.admin⟩

/-- The claims behind an accepted header. -/
theorem requireAuth_eq_ok {now : ℕ} {authorization : Option String} {user : AuthUser}
    (h : requireAuth lib jwtSecret now authorization = .ok user) :
    ∃ token claims, authorization.bind bearerToken = some token ∧
      validateToken lib jwtSecret now token = some claims ∧ claims.role = user.role := by
  simp only [requireAuth, bind_eq_ok, okOr_eq_ok] at h
  obtain ⟨header, rfl, token, htoken, claims, hvalid, -, -, id, -, h⟩ := h
  cases h
  exact ⟨token, claims, htoken, hvalid, rfl⟩

theorem verifiesCode_of_codeVerified {now : ℕ} {row : User} {totpCode : Option String}
    (h : CodeVerified lib now row totpCode) : verifiesCode lib now row totpCode = true := by
  obtain ⟨secret, code, hsecret, hcode, hcheck⟩ := h
  rw [verifiesCode, hsecret, (Option.filter_eq_some_iff.mp hcode).1]
  simp [hcheck]

theorem Admits.byEmail {users : Users} {body : LoginRequest} {row : User}
    (h : Admits lib users body row) : users.byEmail body.email = some row :=
  Users.byEmail_eq_some.mpr ⟨h.mem, h.email⟩

/-- A token with the role of an administrator answers a request of one of the two
kinds, or refreshes a token with that role. -/
theorem Effect.admin_token (hx : lib.Exact) {users users' : Users} {env : Env} {r : Request}
    {response : Except StatusCode Reply} {token : String} {claims : Claims}
    (h : Effect lib jwtSecret users env r users' response) (ht : token ∈ issuedTokens response)
    (hencode : lib.encode claims jwtSecret = some token) (hrole : claims.role = "admin") :
    loginWithCode lib users env r = true ∨ skipsCode lib jwtSecret users env r = true ∨
      ∃ old claims, r = .refreshToken old ∧
        validateToken lib jwtSecret env.now old = some claims ∧ claims.role = "admin" := by
  cases h with
  | failed | emailVerified | totpSecretSet | totpEnabled | roleUpdated | walletExported
  | codeAsked => cases ht
  | renewed hr hwrite hresponse =>
      rw [hresponse] at ht
      cases ht
  | signedUp hinsert hpassword hrole htotp hreply =>
      rw [issuedTokens, hreply] at ht
      cases ht
  | unlocked hunlocks hsigns => exact .inr (.inl rfl)
  | commonLogin hadmits hcommon htokens =>
      obtain ⟨claims', hencode', -, hrole'⟩ := tokenWithRole_of_createTokens htokens ht
      obtain rfl := hx.claims_unique hencode hencode'
      rw [hrole] at hrole'
      exact absurd hrole' (by decide)
  | setupLogin hadmits hadmin htotp hsigns =>
      refine .inr (.inl ?_)
      simp [skipsCode, hadmits.byEmail, hadmin, htotp]
  | adminLogin hadmits hadmin htotp hcode htokens =>
      refine .inl ?_
      simp [loginWithCode, hadmits.byEmail, hadmin, verifiesCode_of_codeVerified hcode]
  | @refreshed old oldClaims row tokens hvalid htype hsub hmem htokens =>
      obtain ⟨claims', hencode', -, hrole'⟩ := tokenWithRole_of_createTokens htokens ht
      obtain rfl := hx.claims_unique hencode hencode'
      -- the new role is read from the table, and the old token may be from another time
      by_cases hold : oldClaims.role = "admin"
      · exact .inr (.inr ⟨old, oldClaims, rfl, hvalid, hold⟩)
      · have hbyId : users.byId row.id = some row := Table.get_of_mem users.ids_nodup hmem
        have hadmin : row.role = .admin := by
          cases hr : row.role with
          | admin => rfl
          | common =>
              rw [hrole, hr] at hrole'
              exact absurd hrole' (by decide)
        refine .inr (.inl ?_)
        simp [skipsCode, hvalid, hold, hsub, hbyId, hadmin]

/-- Every token with the role of an administrator is on one of the two records. -/
def Traced (lib : Crates) (jwtSecret : String) (events : List (Event × Env)) : Prop :=
  ∀ token ∈ (run lib jwtSecret events).issued, ∀ claims,
    lib.encode claims jwtSecret = some token → claims.role = "admin" →
      token ∈ byCode lib jwtSecret events ∨ token ∈ withoutCode lib jwtSecret events

theorem mem_descent {kind : Users → Env → Request → Bool} {s : State} {known : List String}
    {env : Env} {r : Request} {token : String}
    (h : kind s.users env r = true ∨ r.refreshes known = true)
    (ht : token ∈ issuedTokens (respond lib jwtSecret s.users env r).2) :
    token ∈ descent lib jwtSecret kind s known (.request r, env) := by
  have hcond : (kind s.users env r || r.refreshes known) = true := by
    rcases h with h | h <;> simp [h]
  simp only [descent, if_pos hcond]
  exact ht

theorem traced_concat (hx : lib.Exact) {events : List (Event × Env)} {e : Event × Env}
    (h : Traced lib jwtSecret events)
    (he : EventAuthentic lib jwtSecret (run lib jwtSecret events) e) :
    Traced lib jwtSecret (events ++ [e]) := by
  intro token ht claims hencode hrole
  rw [byCode, notes_concat, ← byCode, withoutCode, notes_concat, ← withoutCode, ← run]
  rw [run, List.foldl_append, ← run] at ht
  have hold : token ∈ (run lib jwtSecret events).issued →
      token ∈ byCode lib jwtSecret events ∨ token ∈ withoutCode lib jwtSecret events :=
    fun ht => h token ht claims hencode hrole
  obtain ⟨e, env⟩ := e
  cases e with
  | start adminEmail adminPassword =>
      exact (hold ht).imp (List.mem_append_left _) (List.mem_append_left _)
  | request r =>
      rcases List.mem_append.mp ht with ht | ht
      · exact (hold ht).imp (List.mem_append_left _) (List.mem_append_left _)
      · rcases (respond_effect r).admin_token hx ht hencode hrole with hcode | hskip |
          ⟨old, oldClaims, rfl, hvalid, hadmin⟩
        · exact .inl (List.mem_append_right _ (mem_descent (.inl hcode) ht))
        · exact .inr (List.mem_append_right _ (mem_descent (.inl hskip) ht))
        · -- the refreshed token was given out before, and is on a record itself
          have hissued : old ∈ (run lib jwtSecret events).issued := he old rfl (by simp [hvalid])
          obtain ⟨id, claims', hencode', -⟩ := (sound_run events).issued old hissued
          obtain rfl := hx.claims_of_validateToken hencode' hvalid
          refine (h old hissued oldClaims hencode' hadmin).imp (fun hknown => ?_) fun hknown => ?_
          · refine List.mem_append_right _ (mem_descent (.inr ?_) ht)
            simpa [Request.refreshes] using hknown
          · refine List.mem_append_right _ (mem_descent (.inr ?_) ht)
            simpa [Request.refreshes] using hknown

theorem traced_run (hx : lib.Exact) {events : List (Event × Env)}
    (hrun : AuthenticRun lib jwtSecret events) : Traced lib jwtSecret events := by
  refine hrun.history ?_ fun es e _ h he => traced_concat hx h he
  intro token ht
  cases ht

/-- In every run without forged tokens, a token with which a handler for
administrators accepts a request comes from a login with a verified code, unless it
is one by which an administrator was let in without a code. -/
theorem byCode_of_requireAdmin (hx : lib.Exact) {events : List (Event × Env)}
    (hrun : AuthenticRun lib jwtSecret events) {now : ℕ} {authorization : Option String}
    {user : AuthUser} {token : String}
    (haccepts : requireAdmin lib jwtSecret now authorization = .ok user)
    (htoken : authorization.bind bearerToken = some token)
    (hissued : token ∈ (run lib jwtSecret events).issued)
    (hcode : token ∉ withoutCode lib jwtSecret events) : token ∈ byCode lib jwtSecret events := by
  obtain ⟨hauth, hrole⟩ := requireAdmin_eq_ok.mp haccepts
  obtain ⟨token', claims, htoken', hvalid, hclaims⟩ := requireAuth_eq_ok hauth
  obtain rfl := Option.some.inj (htoken.symm.trans htoken')
  obtain ⟨id, claims', hencode, -⟩ := (sound_run events).issued token hissued
  obtain rfl := hx.claims_of_validateToken hencode hvalid
  exact (traced_run hx hrun token hissued claims hencode (hclaims.trans hrole)).resolve_right hcode

end AdminTokens

/-! ### Confirmed secrets -/

/-- What happens to the secret of a user. -/
inductive TotpNote where
  | secretStored (id : Uuid)
  | codeAccepted (id : Uuid) (secret : List UInt8)
  deriving DecidableEq

section Confirmed

variable (lib jwtSecret)

/-- The notes that a response leaves: `setup_2fa` has stored a secret, or
`verify_2fa` has accepted a code for the one that is stored. -/
def responseNotes (users : Users) (env : Env) : Request → Except StatusCode Reply → List TotpNote
  | .setup2fa authorization, .ok _ =>
      match requireAuth lib jwtSecret env.now authorization with
      | .ok user => [.secretStored user.userId]
      | .error _ => []
  | .verify2fa authorization _, .ok _ =>
      match requireAuth lib jwtSecret env.now authorization with
      | .ok user =>
          (((users.byId user.userId).bind User.totpSecret).map (.codeAccepted user.userId)).toList
      | .error _ => []
  | _, _ => []

def totpNote (s : State) (_ : List TotpNote) (e : Event × Env) : List TotpNote :=
  match e.1 with
  | .start _ _ => []
  | .request r => responseNotes lib jwtSecret s.users e.2 r (respond lib jwtSecret s.users e.2 r).2

/-- What has happened to the secrets of the users in a run. -/
def totpNotes (events : List (Event × Env)) : List TotpNote :=
  notes (next lib jwtSecret) (totpNote lib jwtSecret) ⟨.empty, []⟩ events

end Confirmed

/-- A code was accepted for the secret of the row, and no secret has been stored since. -/
def Confirmed (log : List TotpNote) (row : User) : Prop :=
  ∃ secret pre post, row.totpSecret = some secret ∧
    log = pre ++ .codeAccepted row.id secret :: post ∧ .secretStored row.id ∉ post

/-- The second factor is on for confirmed secrets only. -/
def TotpConfirmed (log : List TotpNote) (users : Users) : Prop :=
  ∀ row ∈ users.rows, row.totpEnabled = true → Confirmed log row

/-- `setup_2fa` stores a secret for a user whose second factor is on. -/
def ReplacesSecret (lib : Crates) (jwtSecret : String) (s : State) (e : Event × Env) : Prop :=
  ∃ authorization user row secret, e.1 = .request (.setup2fa authorization) ∧
    requireAuth lib jwtSecret e.2.now authorization = .ok user ∧
      s.users.byId user.userId = some row ∧ row.totpEnabled = true ∧
        e.2.totpSecret = some secret ∧ (lib.totpSetup secret row.email).isSome ∧
          e.2.selects = true ∧ e.2.writes = true

section Confirmed

variable {log : List TotpNote} {row : User}

theorem Confirmed.append (h : Confirmed log row) {new : List TotpNote}
    (hnew : .secretStored row.id ∉ new) : Confirmed (log ++ new) row := by
  obtain ⟨secret, pre, post, hsecret, rfl, hpost⟩ := h
  refine ⟨secret, pre, post ++ new, hsecret, by simp, ?_⟩
  rw [List.mem_append]
  exact not_or.mpr ⟨hpost, hnew⟩

/-- A secret that was stored last is not confirmed. -/
theorem not_confirmed_secretStored : ¬ Confirmed (log ++ [.secretStored row.id]) row := by
  rintro ⟨secret, pre, post, -, hlog, hpost⟩
  cases post using List.reverseRecOn with
  | nil =>
      have hlast := (List.append_inj' hlog rfl).2
      cases hlast
  | append_singleton post note =>
      rw [← List.cons_append, ← List.append_assoc] at hlog
      have hlast := (List.append_inj' hlog rfl).2
      rw [← hlast] at hpost
      exact hpost (List.mem_append_right _ (List.mem_singleton_self _))

/-- Rows whose flag or secret the response does not touch stay confirmed. -/
theorem TotpConfirmed.follows {users users' : Users} {R : User → User → Prop} {New : User → Prop}
    (h : TotpConfirmed log users) (hrows : Table.Follows R New users.rows users'.rows)
    (hR : ∀ r r', R r r' → r'.totpEnabled = true →
      r'.id = r.id ∧ r'.totpSecret = r.totpSecret ∧ r.totpEnabled = true)
    (hNew : ∀ r, New r → r.totpEnabled = false) : TotpConfirmed log users' := by
  refine hrows.forall_mem
    (P := fun row : User => row.totpEnabled = true → Confirmed log row) ?_ ?_ h
  · intro r r' hr hrow henabled
    obtain ⟨hid, hsecret, henabled⟩ := hR r r' hr henabled
    obtain ⟨secret, pre, post, hstored, hlog, hpost⟩ := hrow henabled
    refine ⟨secret, pre, post, hsecret.trans hstored, ?_, ?_⟩
    · rw [hid]
      exact hlog
    · rw [hid]
      exact hpost
  · intro r hr henabled
    rw [hNew r hr] at henabled
    cases henabled

theorem responseNotes_error (users : Users) (env : Env) (r : Request) (code : StatusCode) :
    responseNotes lib jwtSecret users env r (.error code) = [] := by
  cases r with
  | _ => rfl

section Effect

variable {s : State} {users' : Users} {env : Env} {response : Except StatusCode Reply}

theorem Effect.totpConfirmed_setup2fa {authorization : Option String}
    (h : Effect lib jwtSecret s.users env (.setup2fa authorization) users' response)
    (hlog : TotpConfirmed log s.users)
    (hkeeps : ¬ ReplacesSecret lib jwtSecret s (.request (.setup2fa authorization), env)) :
    TotpConfirmed
      (log ++ responseNotes lib jwtSecret s.users env (.setup2fa authorization) response)
      users' := by
  cases h with
  | failed =>
      rw [responseNotes_error, List.append_nil]
      exact hlog
  | renewed hr => cases hr
  | @totpSecretSet _ user row secret setup hauth hgenerated hselects hrow hsetup hwrites =>
      simp only [responseNotes, hauth]
      intro row' hrow' henabled
      rcases Table.mem_update hrow' with ⟨hmem, hid⟩ | ⟨old, hmem, hid, rfl⟩
      · refine (hlog row' hmem henabled).append ?_
        rw [List.mem_singleton, TotpNote.secretStored.injEq]
        exact hid
      · -- the second factor of this user was off
        obtain rfl := Users.eq_of_byId hrow hmem hid
        exact absurd ⟨authorization, user, old, secret, rfl, hauth, hrow, henabled, hgenerated,
          by simp [hsetup], hselects, hwrites⟩ hkeeps

theorem Effect.totpConfirmed_verify2fa {authorization : Option String} {code : String}
    (h : Effect lib jwtSecret s.users env (.verify2fa authorization code) users' response)
    (hlog : TotpConfirmed log s.users) :
    TotpConfirmed
      (log ++ responseNotes lib jwtSecret s.users env (.verify2fa authorization code) response)
      users' := by
  cases h with
  | failed =>
      rw [responseNotes_error, List.append_nil]
      exact hlog
  | renewed hr => cases hr
  | @totpEnabled _ _ user row secret hauth hrow hsecret hcode =>
      simp only [responseNotes, hauth, hrow, Option.bind_some, hsecret, Option.map_some,
        Option.toList_some]
      intro row' hrow' henabled
      rcases Table.mem_update hrow' with ⟨hmem, -⟩ | ⟨old, hmem, hid, rfl⟩
      · exact (hlog row' hmem henabled).append (by simp)
      · obtain rfl := Users.eq_of_byId hrow hmem hid
        refine ⟨secret, log, [], hsecret, ?_, List.not_mem_nil⟩
        rw [hid]

/-- The other requests leave the secrets alone, or turn the second factor off. -/
theorem RowEffect.totp {r : Request} {row row' : User} (h : RowEffect lib jwtSecret env r row row')
    (hsetup : ∀ authorization, r ≠ .setup2fa authorization)
    (hverify : ∀ authorization code, r ≠ .verify2fa authorization code)
    (henabled : row'.totpEnabled = true) :
    row'.id = row.id ∧ row'.totpSecret = row.totpSecret ∧ row.totpEnabled = true := by
  cases h with
  | kept | renewed | verified => exact ⟨rfl, rfl, henabled⟩
  | secretSet => exact absurd rfl (hsetup _)
  | totpEnabled => exact absurd rfl (hverify _ _)
  | roleSet => cases henabled

theorem Effect.totpConfirmed {r : Request}
    (h : Effect lib jwtSecret s.users env r users' response) (hlog : TotpConfirmed log s.users)
    (hkeeps : ¬ ReplacesSecret lib jwtSecret s (.request r, env)) :
    TotpConfirmed (log ++ responseNotes lib jwtSecret s.users env r response) users' := by
  cases r with
  | setup2fa authorization => exact h.totpConfirmed_setup2fa hlog hkeeps
  | verify2fa authorization code => exact h.totpConfirmed_verify2fa hlog
  | _ =>
      simp only [responseNotes, List.append_nil]
      exact hlog.follows h.rows
        (fun _ _ hrow => hrow.totp (fun _ heq => nomatch heq) fun _ _ heq => nomatch heq)
        fun _ hnew => hnew.2

end Effect

/-- The secret is stored whatever the flag is. -/
theorem respond_setup2fa {users : Users} {env : Env} {authorization : Option String}
    {user : AuthUser} {secret : List UInt8}
    (hauth : requireAuth lib jwtSecret env.now authorization = .ok user)
    (hrow : users.byId user.userId = some row) (hgenerated : env.totpSecret = some secret)
    (hsetup : (lib.totpSetup secret row.email).isSome) (hselects : env.selects = true)
    (hwrites : env.writes = true) :
    ∃ setup, respond lib jwtSecret users env (.setup2fa authorization) =
      (users.setTotpSecret user.userId secret, .ok (.totpSetup setup)) := by
  obtain ⟨setup, hsetup⟩ := Option.isSome_iff_exists.mp hsetup
  have hok : setup2fa lib users env user =
      .ok (users.setTotpSecret user.userId secret, .totpSetup setup) := by
    simp only [setup2fa, bind_eq_ok, okOr_eq_ok, ensure_eq_ok]
    exact ⟨secret, hgenerated, (), hselects, row, hrow, setup, hsetup, (), hwrites, rfl⟩
  refine ⟨setup, ?_⟩
  rw [respond, hauth]
  show settle users (setup2fa lib users env user) = _
  rw [hok, settle]

/-- One event keeps the secrets confirmed if and only if it does not replace one. -/
theorem totpConfirmed_next_iff {s : State} (hlog : TotpConfirmed log s.users) (e : Event × Env) :
    TotpConfirmed (log ++ totpNote lib jwtSecret s log e) (next lib jwtSecret s e).users ↔
      ¬ ReplacesSecret lib jwtSecret s e := by
  obtain ⟨e, env⟩ := e
  constructor
  · rintro h ⟨authorization, user, row, secret, rfl, hauth, hrow, henabled, hgenerated, hsetup,
      hselects, hwrites⟩
    obtain ⟨setup, hresponse⟩ := respond_setup2fa hauth hrow hgenerated hsetup hselects hwrites
    have hid : row.id = user.userId := Table.key_of_get hrow
    have hmem : { row with totpSecret := some secret } ∈
        (s.users.setTotpSecret user.userId secret).rows :=
      List.mem_map.mpr ⟨row, Table.mem_of_get hrow, if_pos hid⟩
    have hconfirmed := h { row with totpSecret := some secret }
      (by simpa only [next, hresponse] using hmem) henabled
    simp only [totpNote, hresponse, responseNotes, hauth, ← hid] at hconfirmed
    exact not_confirmed_secretStored hconfirmed
  · intro hkeeps
    cases e with
    | start adminEmail adminPassword =>
        simp only [totpNote, List.append_nil]
        refine hlog.follows (seeded_rows s.users env adminEmail adminPassword) ?_
          fun _ hnew => hnew.2
        rintro row _ rfl henabled
        exact ⟨rfl, rfl, henabled⟩
    | request r => exact (respond_effect r).totpConfirmed hlog hkeeps

/-- All along a run, the second factor is on for confirmed secrets only, if and only
if `setup_2fa` never stores a secret for a user whose second factor is on. -/
theorem totpConfirmed_iff (events : List (Event × Env)) :
    (∀ es, es <+: events →
        TotpConfirmed (totpNotes lib jwtSecret es) (run lib jwtSecret es).users) ↔
      Guarded (next lib jwtSecret) (fun s e => ¬ ReplacesSecret lib jwtSecret s e) ⟨.empty, []⟩
        events := by
  refine forall_prefix_iff_guarded
    (P := fun es => TotpConfirmed (totpNotes lib jwtSecret es) (run lib jwtSecret es).users) ?_ ?_
  · intro row hrow
    cases hrow
  · intro es e hlog
    rw [totpNotes, notes_concat, ← totpNotes, run, List.foldl_append, ← run]
    exact totpConfirmed_next_iff hlog e

end Confirmed

/-! ### An administrator sets up the second factor -/

namespace Sample

/-- A request of the administrator with the token that is given for the set-up. -/
def adminSetup : Event := .request (.setup2fa (some "Bearer access.admin"))

/-- The administrator sets up the second factor, and then logs in with a code. -/
def enrolment : List (Event × Env) :=
  events ++ [(adminLogin, env 0 ""),
    (adminSetup, { env 0 "" with totpSecret := some [49, 50, 51, 52, 53, 54] }),
    (.request (.verify2fa (some "Bearer access.admin") "123456"), env 0 ""),
    (.request (.login ⟨"admin@example.com", "correct horse", some "123456"⟩),
      { env 0 "" with now := 100 })]

/-- Another secret is stored, and no code is asked for it. -/
def replacement : List (Event × Env) :=
  enrolment ++ [(adminSetup, { env 0 "" with totpSecret := some [48] })]

end Sample

/-- The token of the login with a code. -/
theorem byCode_of_requireAdmin_sample :
    requireAdmin Sample.staff "secret" 100 (some "Bearer access.checked") = .ok ⟨1, "admin"⟩ ∧
      "access.checked" ∈ byCode Sample.staff "secret" Sample.enrolment := by
  have haccepts : requireAdmin Sample.staff "secret" 100 (some "Bearer access.checked") =
      .ok ⟨1, "admin"⟩ := by decide +kernel
  refine ⟨haccepts, byCode_of_requireAdmin Sample.staff_exact ?_ haccepts ?_ ?_ ?_⟩
  · decide +kernel
  · decide +kernel
  · decide +kernel
  · decide +kernel

/-- The token for the set-up, with which `admin_update_user_role` accepts a request. -/
theorem requireAdmin_without_code :
    ¬ ∀ lib jwtSecret events now authorization user token, Crates.Exact lib →
      AuthenticRun lib jwtSecret events →
      requireAdmin lib jwtSecret now authorization = .ok user →
      authorization.bind bearerToken = some token →
      token ∈ (run lib jwtSecret events).issued → token ∈ byCode lib jwtSecret events := by
  intro h
  have hcode := h Sample.staff "secret" (Sample.events ++ [(Sample.adminLogin, Sample.env 0 "")]) 0
    (some "Bearer access.admin") ⟨1, "admin"⟩ "access.admin" Sample.staff_exact (by decide +kernel)
    (by decide +kernel) (by decide +kernel) (by decide +kernel)
  exact absurd hcode (by decide +kernel)

/-- A secret that was never confirmed, with the second factor on. -/
theorem replaced_secret_unconfirmed :
    ¬ ∀ lib jwtSecret events, Crates.Exact lib → AuthenticRun lib jwtSecret events →
      TotpConfirmed (totpNotes lib jwtSecret events) (run lib jwtSecret events).users := by
  intro h
  have hconfirmed := h Sample.staff "secret" Sample.replacement Sample.staff_exact
    (by decide +kernel)
    ⟨1, "admin@example.com", "$argon2id$correct horse", some [48], true, true, none, none, .admin,
      none⟩ (by decide +kernel) rfl
  have hlog : totpNotes Sample.staff "secret" Sample.replacement =
      [.secretStored 1, .codeAccepted 1 [49, 50, 51, 52, 53, 54]] ++ [.secretStored 1] := by
    decide +kernel
  rw [hlog] at hconfirmed
  exact not_confirmed_secretStored hconfirmed

end Liquifier.Gateway
