import Liquifier.Gateway.Roles
import Liquifier.Lib.TaskSystem
import Mathlib.Algebra.Order.Group.Nat

/-!
The confirmation of an e-mail address, statement by statement.

`verify_email` selects the user of a token, updates the row that still awaits the token, and
has a wallet made for the user whom it has selected. The update repeats the conditions of the
look-up and counts its rows, so of several requests with one token one at most goes on.
Meanwhile a sign-up, a login or a resend may give the user another token. What keeps the two
statements on one user is that a token is never drawn twice.
-/

namespace Liquifier.Gateway

open TaskSystem TaskSystem.System

/-! ### The tables -/

/-- The rows that the `UPDATE` of `verify_email` affects. -/
def Users.awaiting (users : Users) (token : String) (now : ℕ) : List Uuid :=
  (users.rows.filter (User.awaits token now)).map User.id

/-- `verification_token TEXT UNIQUE`. -/
def UniqueTokens (users : Users) : Prop := (users.rows.filterMap User.verificationToken).Nodup

instance (users : Users) : Decidable (UniqueTokens users) :=
  inferInstanceAs (Decidable (List.Nodup _))

/-- The `users` table, and what the requests have done. -/
structure AccountStore where
  users : Users
  /-- The tokens that were stored so far, each with the user. -/
  issued : List (String × Uuid)
  /-- The users whose `email_verified` was set. -/
  verified : List Uuid
  /-- The users for whom `verify_email` had a wallet made. -/
  wallets : List Uuid

namespace AccountStore

/-- The table as the requests find it. -/
def found (users : Users) : AccountStore where
  users := users
  issued := users.rows.filterMap fun r => r.verificationToken.map fun token => (token, r.id)
  verified := []
  wallets := []

def tokens (s : AccountStore) : List String := s.issued.map Prod.fst

end AccountStore

/-! ### The requests -/

/-- A request between two of its statements. -/
inductive AccountTask where
  | arrived (r : Request)
  | renewing (id : Uuid) (reply : Reply)
  | resending (user : AuthUser)
  | mailing (user : AuthUser)
  | inserting (body : SignupRequest) (passwordHash : String)
  | verifying (token : String) (id : Uuid) (role : UserRole)
  | creatingWallet (id : Uuid)
  | done (response : Except StatusCode Reply)

/-- What a request meets at its next statement. -/
structure AccountAct where
  env : Env
  /-- The answer to an `INSERT` or `UPDATE` that has run arrives. -/
  answered : Bool
  /-- The key service is reached and makes the wallet. -/
  walletCreated : Bool

/-- The next statement of a request, or its response. -/
def settleTask : Except StatusCode AccountTask → AccountTask
  | .ok t => t
  | .error code => .done (.error code)

section Statements

variable (lib : Crates) (jwtSecret : String) (users : Users) (env : Env)

/-- `signup`, up to the `INSERT` or the `UPDATE`. -/
def selectForSignup (body : SignupRequest) : Except StatusCode AccountTask := do
  ensure body.accepted .badRequest
  let passwordHash ← okOr .internalServerError (lib.hashPassword body.password env.salt)
  ensure env.selects .internalServerError
  match users.byEmail body.email with
  | some row =>
      if !row.emailVerified then
        return .renewing row.id (.emailVerificationRequired (lib.uuidToString row.id) row.role
          "Please check your email to verify your account.")
      else if row.role = .admin && row.emailVerified && !row.totpEnabled then do
        let accessToken ← okOr .internalServerError
          (createAccessToken lib jwtSecret env.now row.id)
        return .done (.ok (.totpSetupRequired (lib.uuidToString row.id) accessToken
          "Email verified. Please set up 2FA to continue."))
      else .error .conflict
  | none => return .inserting body passwordHash

/-- `login`, up to the `UPDATE`. -/
def selectForLogin (body : LoginRequest) : Except StatusCode AccountTask := do
  ensure env.selects .internalServerError
  let row ← okOr .unauthorized (users.byEmail body.email)
  let valid ← okOr .internalServerError (lib.verifyPassword body.password row.passwordHash)
  ensure valid .unauthorized
  let userId := lib.uuidToString row.id
  if !row.emailVerified then
    return .renewing row.id (.emailVerificationRequired userId row.role
      "Please verify your email before signing in. A new verification link has been sent.")
  else if row.role = .common then do
    let (accessToken, refreshToken) ← createTokens lib jwtSecret env.now row.id "common"
    return .done (.ok (.authenticated accessToken refreshToken userId .common))
  else if !row.totpEnabled then do
    let accessToken ← okOr .internalServerError (createAccessToken lib jwtSecret env.now row.id)
    return .done (.ok (.totpSetupRequired userId accessToken
      "Please set up 2FA to continue."))
  else
    match body.totpCode.filter (· ≠ "") with
    | none => return .done (.ok (.totpRequired userId "Please enter your 2FA code."))
    | some totpCode => do
        let totpSecret ← okOr .internalServerError row.totpSecret
        let valid ← okOr .internalServerError (lib.totpCheck totpSecret env.now totpCode)
        ensure valid .unauthorized
        let (accessToken, refreshToken) ← createTokens lib jwtSecret env.now row.id "admin"
        return .done (.ok (.authenticated accessToken refreshToken userId .admin))

/-- `verify_email`, up to the `UPDATE`. -/
def selectForVerification (token : Option String) : Except StatusCode AccountTask := do
  let token ← okOr .badRequest token
  ensure env.selects .internalServerError
  let row ← okOr .badRequest (Table.get (User.awaits token env.now) users.rows true)
  return .verifying token row.id row.role

/-- The first step of a request that has to do with verification tokens. -/
def begin : Request → Option AccountTask
  | .signup body => some (settleTask (selectForSignup lib jwtSecret users env body))
  | .login body => some (settleTask (selectForLogin lib jwtSecret users env body))
  | .verifyEmail token => some (settleTask (selectForVerification users env token))
  | .resendVerification authorization =>
      some (settleTask ((requireAuth lib jwtSecret env.now authorization).map .resending))
  | _ => none

/-- `INSERT INTO users`, of `signup`. -/
def insertUser (body : SignupRequest) (passwordHash : String) : Except StatusCode Users := do
  ensure env.writes .internalServerError
  okOr .conflict (users.insert {
    id := env.userId
    email := body.email
    passwordHash
    verificationToken := some env.verificationToken
    verificationTokenExpiresAt := some (env.now + 24 * 60 * 60)
    role := .common
    username := body.username })

end Statements

namespace AccountAct

variable (a : AccountAct)

/-- A write that has run, and its answer. -/
def proceed (t : AccountTask) : AccountTask :=
  if a.answered then t else .done (.error .internalServerError)

/-- A token is stored for a user, unless the statement fails. -/
def issue (s : AccountStore) (id : Uuid) (t : AccountTask) :
    Except StatusCode Users → AccountStore × AccountTask
  | .ok users =>
      ({ s with users, issued := s.issued ++ [(a.env.verificationToken, id)] }, a.proceed t)
  | .error code => (s, .done (.error code))

/-- The `UPDATE` of `verify_email`, and its `rows_affected`. -/
def verify (s : AccountStore) (token : String) (id : Uuid) (role : UserRole) :
    AccountStore × AccountTask :=
  if a.env.writes then
    let affected := s.users.awaiting token a.env.now
    ({ s with
        users := s.users.markEmailVerified token a.env.now
        verified := s.verified ++ affected },
      a.proceed (
        if affected = [] then .done (.error .badRequest)
        else if role = .common then .creatingWallet id
        else .done (.ok (.verified role))))
  else (s, .done (.error .internalServerError))

end AccountAct

/-- Requests arrive at any time, any number of them. -/
def accounts (lib : Crates) (jwtSecret : String) : System AccountStore AccountTask AccountAct where
  entry
    | .arrived _ => true
    | _ => false
  step a s
    | .arrived r => (begin lib jwtSecret s.users a.env r).map fun t => (s, t)
    | .renewing id reply =>
        some (a.issue s id (.done (.ok reply)) (renewVerification s.users a.env id))
    | .resending user =>
        some (a.issue s user.userId
          (if a.env.sendsEmail then .mailing user else .done (.ok .verificationSent))
          (renewVerification s.users a.env user.userId))
    | .mailing user =>
        some (s, .done (
          if a.env.selects && (s.users.byId user.userId).isSome then .ok .verificationSent
          else .error .internalServerError))
    | .inserting body passwordHash =>
        some (a.issue s a.env.userId
          (.done (.ok (.emailVerificationRequired (lib.uuidToString a.env.userId) .common
            "Account created. Please check your email to verify your account.")))
          (insertUser s.users a.env body passwordHash))
    | .verifying token id role => some (a.verify s token id role)
    -- the outcome at the key service is ignored
    | .creatingWallet id =>
        some (if a.walletCreated then { s with wallets := s.wallets ++ [id] } else s,
          .done (.ok (.verified .common)))
    | .done _ => none

/-- The statement stores a token that the request draws. -/
def AccountTask.draws : AccountTask → Bool
  | .renewing _ _ | .resending _ | .inserting _ _ => true
  | _ => false

/-- `Uuid::new_v4` gives a token that was not stored before. -/
def DrawsFresh (c : Config AccountStore AccountTask) (t : AccountTask) (a : AccountAct) : Prop :=
  t.draws = true → a.env.verificationToken ∉ c.store.tokens

instance (c : Config AccountStore AccountTask) (t : AccountTask) (a : AccountAct) :
    Decidable (DrawsFresh c t a) :=
  inferInstanceAs (Decidable (_ → _))

variable {lib : Crates} {jwtSecret : String}

/-! ### A request without others -/

/-- One statement of a request that is alone. -/
theorem alone {a : AccountAct} {s s' : AccountStore} {t t' : AccountTask}
    (h : (accounts lib jwtSecret).step a s t = some (s', t')) :
    (accounts lib jwtSecret).Reaches ⟨s, [t]⟩ ⟨s', [t']⟩ :=
  Acts.reaches (c := ⟨s, [t]⟩) (i := 0) ⟨rfl, h⟩

section Alone

variable {s : AccountStore} {env : Env}

/-- The response of a request that has been served alone. -/
def Serves (lib : Crates) (jwtSecret : String) (s : AccountStore) (t : AccountTask)
    (response : Users × Except StatusCode Reply) : Prop :=
  ∃ s', (accounts lib jwtSecret).Reaches ⟨s, [t]⟩ ⟨s', [.done response.2]⟩ ∧ s'.users = response.1

theorem serves_done (response : Except StatusCode Reply) :
    Serves lib jwtSecret s (.done response) (s.users, response) :=
  ⟨s, .refl, rfl⟩

theorem Serves.of_step {a : AccountAct} {s' : AccountStore} {t t' : AccountTask}
    {response : Users × Except StatusCode Reply} (h : Serves lib jwtSecret s' t' response)
    (hstep : (accounts lib jwtSecret).step a s t = some (s', t')) :
    Serves lib jwtSecret s t response := by
  obtain ⟨s₂, hrest, husers⟩ := h
  exact ⟨s₂, (alone hstep).trans hrest, husers⟩

/-- A request for which every statement answers. -/
def answers (env : Env) : AccountAct := ⟨env, true, true⟩

@[simp] theorem proceed_answers (t : AccountTask) : (answers env).proceed t = t := rfl

/-- The last statement is the write. -/
theorem serves_issue {t : AccountTask} {id : Uuid} {reply : Reply} {x : Except StatusCode Users}
    (hstep : (accounts lib jwtSecret).step (answers env) s t =
      some ((answers env).issue s id (.done (.ok reply)) x)) :
    Serves lib jwtSecret s t (settle s.users (x >>= fun users => pure (users, reply))) := by
  cases x with
  | ok users => exact ⟨_, alone hstep, rfl⟩
  | error code => exact (serves_done (.error code)).of_step hstep

/-- The look-ups agree on what comes first, and so on the response. -/
theorem serves_bind {α : Type} {x : Except StatusCode α} {f : α → Except StatusCode AccountTask}
    {g : α → Except StatusCode (Users × Reply)}
    (h : ∀ a, x = .ok a → Serves lib jwtSecret s (settleTask (f a)) (settle s.users (g a))) :
    Serves lib jwtSecret s (settleTask (x >>= f)) (settle s.users (x >>= g)) := by
  cases x with
  | ok a => exact h a rfl
  | error code => exact serves_done (.error code)

theorem serves_signup (body : SignupRequest) :
    Serves lib jwtSecret s (settleTask (selectForSignup lib jwtSecret s.users env body))
      (settle s.users (signup lib jwtSecret s.users env body)) := by
  unfold selectForSignup
  conv_rhs => unfold signup
  refine serves_bind fun _ _ => serves_bind fun passwordHash _ => serves_bind fun _ _ => ?_
  cases s.users.byEmail body.email with
  | none =>
      simp only [← bind_assoc]
      exact serves_issue (t := .inserting body passwordHash) rfl
  | some row =>
      simp only
      split
      · exact serves_issue (t := .renewing row.id _) rfl
      · split
        · exact serves_bind fun _ _ => serves_done (.ok _)
        · exact serves_done (.error .conflict)

theorem serves_login (body : LoginRequest) :
    Serves lib jwtSecret s (settleTask (selectForLogin lib jwtSecret s.users env body))
      (settle s.users (login lib jwtSecret s.users env body)) := by
  unfold selectForLogin
  conv_rhs => unfold login
  refine serves_bind fun _ _ => serves_bind fun row _ => serves_bind fun _ _ =>
    serves_bind fun _ _ => ?_
  simp only
  split
  · exact serves_issue (t := .renewing row.id _) rfl
  · split
    · exact serves_bind fun _ _ => serves_done (.ok _)
    · split
      · exact serves_bind fun _ _ => serves_done (.ok _)
      · cases body.totpCode.filter (· ≠ "") with
        | none => exact serves_done (.ok _)
        | some totpCode =>
            exact serves_bind fun _ _ => serves_bind fun _ _ => serves_bind fun _ _ =>
              serves_bind fun _ _ => serves_done (.ok _)

theorem serves_verifyEmail (token : Option String) :
    Serves lib jwtSecret s (settleTask (selectForVerification s.users env token))
      (settle s.users (verifyEmail s.users env token)) := by
  unfold selectForVerification
  conv_rhs => unfold verifyEmail
  refine serves_bind fun token _ => serves_bind fun _ _ => serves_bind fun row hrow => ?_
  have hstep : (accounts lib jwtSecret).step (answers env) s (.verifying token row.id row.role) =
      some ((answers env).verify s token row.id row.role) := rfl
  cases hwrites : env.writes with
  | false =>
      rw [AccountAct.verify, if_neg (by simp [answers, hwrites])] at hstep
      exact (serves_done _).of_step hstep
  | true =>
      have hrow := okOr_eq_ok.mp hrow
      have haffected : s.users.awaiting token env.now ≠ [] := by
        refine List.ne_nil_of_mem (a := row.id) (List.mem_map_of_mem ?_)
        exact List.mem_filter.mpr ⟨Table.mem_of_get hrow, Table.key_of_get hrow⟩
      have hverify : (answers env).verify s token row.id row.role =
          ({ s with
              users := s.users.markEmailVerified token env.now
              verified := s.verified ++ s.users.awaiting token env.now },
            if row.role = .common then .creatingWallet row.id
            else .done (.ok (.verified row.role))) := by
        simp [AccountAct.verify, AccountAct.proceed, answers, hwrites, haffected]
      rw [hverify] at hstep
      cases hrole : row.role with
      | common =>
          rw [hrole, if_pos rfl] at hstep
          exact Serves.of_step ⟨_, alone (a := answers env) rfl, rfl⟩ hstep
      | admin =>
          rw [hrole, if_neg (by decide)] at hstep
          exact (serves_done _).of_step hstep

/-- The address is looked up for the e-mail alone. -/
theorem serves_mailing (user : AuthUser) :
    Serves lib jwtSecret s (.mailing user)
      (if !(env.selects && (s.users.byId user.userId).isSome) then
        (s.users, .error .internalServerError)
      else (s.users, .ok .verificationSent)) := by
  have hstep : (accounts lib jwtSecret).step (answers env) s (.mailing user) = some (s, .done (
      if env.selects && (s.users.byId user.userId).isSome then .ok .verificationSent
      else .error .internalServerError)) := rfl
  cases h : env.selects && (s.users.byId user.userId).isSome with
  | false =>
      rw [h] at hstep
      exact (serves_done (.error .internalServerError)).of_step hstep
  | true =>
      rw [h] at hstep
      exact (serves_done (.ok .verificationSent)).of_step hstep

theorem serves_resendVerification (user : AuthUser) :
    Serves lib jwtSecret s (.resending user) (resendVerification s.users env user) := by
  have hstep : (accounts lib jwtSecret).step (answers env) s (.resending user) =
      some ((answers env).issue s user.userId
        (if env.sendsEmail then .mailing user else .done (.ok .verificationSent))
        (renewVerification s.users env user.userId)) := rfl
  rw [resendVerification]
  cases hx : renewVerification s.users env user.userId with
  | error code =>
      rw [hx] at hstep
      exact (serves_done (.error code)).of_step hstep
  | ok users =>
      rw [hx, AccountAct.issue, proceed_answers] at hstep
      cases hsends : env.sendsEmail with
      | false =>
          rw [hsends, if_neg Bool.false_ne_true] at hstep
          exact (serves_done (.ok .verificationSent)).of_step hstep
      | true =>
          rw [hsends, if_pos rfl] at hstep
          exact (serves_mailing user).of_step hstep

/-- A request that is served alone ends as if it were a single move. -/
theorem serves_respond {r : Request} (hr : (begin lib jwtSecret s.users env r).isSome = true) :
    Serves lib jwtSecret s (.arrived r) (respond lib jwtSecret s.users env r) := by
  cases r with
  | signup body => exact (serves_signup body).of_step (a := answers env) rfl
  | login body => exact (serves_login body).of_step (a := answers env) rfl
  | verifyEmail token => exact (serves_verifyEmail token).of_step (a := answers env) rfl
  | resendVerification authorization =>
      have hstep : (accounts lib jwtSecret).step (answers env) s
          (.arrived (.resendVerification authorization)) = some (s, settleTask
            ((requireAuth lib jwtSecret env.now authorization).map .resending)) := rfl
      rw [respond]
      cases hauth : requireAuth lib jwtSecret env.now authorization with
      | error code =>
          rw [hauth] at hstep
          exact (serves_done (.error code)).of_step hstep
      | ok user =>
          rw [hauth] at hstep
          exact (serves_resendVerification user).of_step hstep
  | _ => cases hr

end Alone

/-! ### All that a statement can do -/

/-- The request holds no user that it has read. -/
def AccountTask.idle : AccountTask → Bool
  | .verifying _ _ _ | .creatingWallet _ => false
  | _ => true

/-- A row of the table before and after a token is stored for a user. -/
structure Renews (token : String) (id : Uuid) (row row' : User) : Prop where
  id_eq : row'.id = row.id
  emailVerified : row'.emailVerified = row.emailVerified
  token : row'.verificationToken = row.verificationToken ∨
    row.id = id ∧ row'.verificationToken = some token

/-- What a statement does to the tables and to its request. -/
inductive AccountMove (s : AccountStore) (a : AccountAct) :
    AccountTask → AccountStore → AccountTask → Prop where
  | kept {t t' : AccountTask} (ht' : t'.idle = true) : AccountMove s a t s t'
  | selected {t : AccountTask} {token : String} {row : User} (hrow : row ∈ s.users.rows)
      (htoken : row.verificationToken = some token) :
      AccountMove s a t s (.verifying token row.id row.role)
  | issued {t t' : AccountTask} {id : Uuid} {users : Users} (ht : t.draws = true)
      (ht' : t'.idle = true)
      (hrows : Table.Follows (Renews a.env.verificationToken id)
        (fun row => row.id = id ∧ row.verificationToken = some a.env.verificationToken)
        s.users.rows users.rows) :
      AccountMove s a t
        { s with users, issued := s.issued ++ [(a.env.verificationToken, id)] } t'
  | verified {token : String} {id : Uuid} {role : UserRole} {t' : AccountTask}
      (ht' : t'.idle = true ∨
        t' = .creatingWallet id ∧ s.users.awaiting token a.env.now ≠ []) :
      AccountMove s a (.verifying token id role)
        { s with
          users := s.users.markEmailVerified token a.env.now
          verified := s.verified ++ s.users.awaiting token a.env.now } t'
  | walletCreated {id : Uuid} {t' : AccountTask} (ht' : t'.idle = true) :
      AccountMove s a (.creatingWallet id) { s with wallets := s.wallets ++ [id] } t'

section Moves

variable {s s' : AccountStore} {a : AccountAct} {t t' : AccountTask} {users users' : Users}
  {env : Env} {id : Uuid}

theorem Renews.refl (token : String) (id : Uuid) (row : User) : Renews token id row row :=
  ⟨rfl, rfl, .inl rfl⟩

theorem renewVerification_rows (h : renewVerification users env id = .ok users') :
    Table.Follows (Renews env.verificationToken id)
      (fun row => row.id = id ∧ row.verificationToken = some env.verificationToken)
      users.rows users'.rows := by
  have h := renewVerification_eq_ok h
  simp only [Users.setVerificationToken, Option.ite_none_left_eq_some] at h
  obtain ⟨-, h⟩ := h
  rw [← Option.some.inj h]
  exact Table.Follows.update (Renews.refl _ _) fun row _ hid => ⟨rfl, rfl, .inr ⟨hid, rfl⟩⟩

theorem insertUser_rows {body : SignupRequest} {passwordHash : String}
    (h : insertUser users env body passwordHash = .ok users') :
    Table.Follows (Renews env.verificationToken env.userId)
      (fun row => row.id = env.userId ∧ row.verificationToken = some env.verificationToken)
      users.rows users'.rows := by
  simp only [insertUser, bind_eq_ok, okOr_eq_ok] at h
  obtain ⟨-, -, h⟩ := h
  rw [insert_rows h]
  exact Table.Follows.append (Renews.refl _ _) ⟨rfl, rfl⟩

theorem settleTask_idle {x : Except StatusCode AccountTask} (h : ∀ t, x = .ok t → t.idle = true) :
    (settleTask x).idle = true := by
  cases x with
  | ok t => exact h t rfl
  | error code => rfl

theorem selectForSignup_idle {body : SignupRequest}
    (h : selectForSignup lib jwtSecret users env body = .ok t) : t.idle = true := by
  simp only [selectForSignup, bind_eq_ok] at h
  obtain ⟨-, -, passwordHash, -, -, -, h⟩ := h
  cases hrow : users.byEmail body.email with
  | none =>
      rw [hrow] at h
      cases h
      rfl
  | some row =>
      rw [hrow] at h
      simp only at h
      split at h
      · cases h
        rfl
      · split at h
        · obtain ⟨_, -, h⟩ := bind_eq_ok.mp h
          cases h
          rfl
        · cases h

theorem selectForLogin_idle {body : LoginRequest}
    (h : selectForLogin lib jwtSecret users env body = .ok t) : t.idle = true := by
  simp only [selectForLogin, bind_eq_ok] at h
  obtain ⟨-, -, row, -, valid, -, -, -, h⟩ := h
  split at h
  · cases h
    rfl
  · split at h
    · obtain ⟨_, -, h⟩ := bind_eq_ok.mp h
      cases h
      rfl
    · split at h
      · obtain ⟨_, -, h⟩ := bind_eq_ok.mp h
        cases h
        rfl
      · split at h
        · cases h
          rfl
        · simp only [bind_eq_ok] at h
          obtain ⟨_, -, _, -, _, -, _, -, h⟩ := h
          cases h
          rfl

theorem begin_cases {r : Request} (h : begin lib jwtSecret users env r = some t) :
    t.idle = true ∨ ∃ token row, t = .verifying token row.id row.role ∧ row ∈ users.rows ∧
      row.verificationToken = some token := by
  cases r with
  | signup body =>
      cases h
      exact .inl (settleTask_idle fun _ => selectForSignup_idle)
  | login body =>
      cases h
      exact .inl (settleTask_idle fun _ => selectForLogin_idle)
  | verifyEmail token =>
      obtain rfl := Option.some.inj h
      cases hselect : selectForVerification users env token with
      | error code => exact .inl rfl
      | ok t =>
          simp only [selectForVerification, bind_eq_ok, okOr_eq_ok] at hselect
          obtain ⟨token, -, -, -, row, hrow, hselect⟩ := hselect
          cases hselect
          have hawaits : row.awaits token env.now = true := Table.key_of_get hrow
          simp only [User.awaits, Bool.and_eq_true, decide_eq_true_eq] at hawaits
          exact .inr ⟨token, row, rfl, Table.mem_of_get hrow, hawaits.1.1⟩
  | resendVerification authorization =>
      obtain rfl := Option.some.inj h
      cases requireAuth lib jwtSecret env.now authorization <;> exact .inl rfl
  | _ => cases h

theorem proceed_idle (ht : t.idle = true) : (a.proceed t).idle = true := by
  rw [AccountAct.proceed]
  split
  · exact ht
  · rfl

theorem issue_move {u : AccountTask} {x : Except StatusCode Users} (ht : t.draws = true)
    (hu : u.idle = true)
    (hrows : ∀ users, x = .ok users → Table.Follows (Renews a.env.verificationToken id)
      (fun row => row.id = id ∧ row.verificationToken = some a.env.verificationToken)
      s.users.rows users.rows)
    (h : some (a.issue s id u x) = some (s', t')) : AccountMove s a t s' t' := by
  cases x with
  | ok users =>
      obtain ⟨rfl, rfl⟩ := Prod.mk.inj (Option.some.inj h)
      exact .issued ht (proceed_idle hu) (hrows users rfl)
  | error code =>
      obtain ⟨rfl, rfl⟩ := Prod.mk.inj (Option.some.inj h)
      exact .kept rfl

theorem verify_move {token : String} {role : UserRole}
    (h : some (a.verify s token id role) = some (s', t')) :
    AccountMove s a (.verifying token id role) s' t' := by
  have h := Option.some.inj h
  rw [AccountAct.verify] at h
  split at h
  · obtain ⟨rfl, rfl⟩ := Prod.mk.inj h
    refine .verified ?_
    unfold AccountAct.proceed
    split
    · split
      · exact .inl rfl
      · split
        · exact .inr ⟨rfl, ‹_›⟩
        · exact .inl rfl
    · exact .inl rfl
  · obtain ⟨rfl, rfl⟩ := Prod.mk.inj h
    exact .kept rfl

theorem account_move (h : (accounts lib jwtSecret).step a s t = some (s', t')) :
    AccountMove s a t s' t' := by
  cases t with
  | arrived r =>
      obtain ⟨u, hu, h⟩ := Option.map_eq_some_iff.mp h
      cases h
      rcases begin_cases hu with hidle | ⟨token, row, rfl, hrow, htoken⟩
      · exact .kept hidle
      · exact .selected hrow htoken
  | renewing id reply => exact issue_move rfl rfl (fun _ => renewVerification_rows) h
  | resending user =>
      refine issue_move rfl ?_ (fun _ => renewVerification_rows) h
      split <;> rfl
  | mailing user =>
      cases h
      exact .kept rfl
  | inserting body passwordHash => exact issue_move rfl rfl (fun _ => insertUser_rows) h
  | verifying token id role => exact verify_move h
  | creatingWallet id =>
      simp only [accounts, Option.some.injEq, Prod.mk.injEq] at h
      obtain ⟨hs, rfl⟩ := h
      split at hs
      · exact hs ▸ .walletCreated rfl
      · exact hs ▸ .kept rfl
  | done response => cases h

/-- The rows after the `UPDATE` of `verify_email`. -/
theorem mem_markEmailVerified {token : String} {now : ℕ} {row' : User}
    (h : row' ∈ (users.markEmailVerified token now).rows) :
    row' ∈ users.rows ∨ ∃ row ∈ users.rows, row'.id = row.id ∧ row'.verificationToken = none := by
  rcases Table.mem_update h with ⟨hrow, -⟩ | ⟨row, hrow, -, rfl⟩
  · exact .inl hrow
  · exact .inr ⟨row, hrow, rfl, rfl⟩

theorem mem_awaiting_iff {token : String} {now : ℕ} :
    id ∈ users.awaiting token now ↔ ∃ row ∈ users.rows, row.id = id ∧ row.awaits token now := by
  simp only [Users.awaiting, List.mem_map, List.mem_filter]
  constructor
  · rintro ⟨row, ⟨hrow, hawaits⟩, hid⟩
    exact ⟨row, hrow, hid, hawaits⟩
  · rintro ⟨row, hrow, hid, hawaits⟩
    exact ⟨row, ⟨hrow, hawaits⟩, hid⟩

theorem verifiedUser_markEmailVerified {token : String} {now : ℕ} {row : User}
    (hrow : row ∈ users.rows) (h : row.emailVerified = true ∨ row.awaits token now = true) :
    VerifiedUser (users.markEmailVerified token now) row.id := by
  refine ⟨_, List.mem_map_of_mem hrow, ?_⟩
  split
  · exact ⟨rfl, rfl⟩
  · exact ⟨rfl, h.resolve_right ‹_›⟩

theorem nodup_awaiting (users : Users) (token : String) (now : ℕ) :
    (users.awaiting token now).Nodup :=
  users.ids_nodup.sublist (List.filter_sublist.map _)

/-- A row that awaits a token is not verified. -/
theorem not_verifiedUser_of_mem_awaiting {token : String} {now : ℕ}
    (h : id ∈ users.awaiting token now) : ¬ VerifiedUser users id := by
  rintro ⟨row, hrow, hid, hverified⟩
  obtain ⟨row', hrow', hid', hawaits⟩ := mem_awaiting_iff.mp h
  obtain rfl := List.inj_on_of_nodup_map users.ids_nodup hrow hrow' (hid.trans hid'.symm)
  simp [User.awaits, hverified] at hawaits

/-! ### Verified once -/

/-- No statement takes the flag back. -/
theorem AccountMove.verifiedUser (h : AccountMove s a t s' t') (hid : VerifiedUser s.users id) :
    VerifiedUser s'.users id := by
  cases h with
  | kept | selected | walletCreated => exact hid
  | issued ht ht' hrows =>
      refine hrows.exists_mem (P := fun row : User => row.id = id ∧ row.emailVerified = true) ?_ hid
      rintro row row' hrow ⟨hid, hverified⟩
      exact ⟨hrow.id_eq.trans hid, hrow.emailVerified.trans hverified⟩
  | verified =>
      obtain ⟨row, hrow, rfl, hverified⟩ := hid
      exact verifiedUser_markEmailVerified hrow (.inl hverified)

/-- Each user is verified at most once, and who was verified is. -/
structure VerifiedOnce (s : AccountStore) : Prop where
  nodup : s.verified.Nodup
  verifiedUser : ∀ id ∈ s.verified, VerifiedUser s.users id

theorem AccountMove.verifiedOnce (h : AccountMove s a t s' t') (hs : VerifiedOnce s) :
    VerifiedOnce s' := by
  have hkeep : ∀ id ∈ s.verified, VerifiedUser s'.users id :=
    fun id hid => h.verifiedUser (hs.verifiedUser id hid)
  cases h with
  | kept | selected | issued | walletCreated => exact ⟨hs.nodup, hkeep⟩
  | @verified token _ _ _ ht' =>
      constructor
      · refine hs.nodup.append (nodup_awaiting _ _ _) fun id hid hawaits => ?_
        exact not_verifiedUser_of_mem_awaiting hawaits (hs.verifiedUser id hid)
      · intro id hid
        rcases List.mem_append.mp hid with hid | hid
        · exact hkeep id hid
        · obtain ⟨row, hrow, rfl, hawaits⟩ := mem_awaiting_iff.mp hid
          exact verifiedUser_markEmailVerified hrow (.inr hawaits)

/-! ### The user of a token -/

/-- A token is stored for one user. -/
structure OneUser (s : AccountStore) : Prop where
  tokens_nodup : s.tokens.Nodup
  row : ∀ row ∈ s.users.rows, ∀ token, row.verificationToken = some token →
    (token, row.id) ∈ s.issued

/-- The user that a request has read is the one of its token. -/
def AccountTask.Reads (s : AccountStore) : AccountTask → Prop
  | .verifying token id _ => (token, id) ∈ s.issued
  | _ => True

theorem AccountTask.reads_of_idle (h : t.idle = true) : t.Reads s := by
  cases t with
  | verifying | creatingWallet => cases h
  | _ => trivial

theorem OneUser.eq (hs : OneUser s) {token : String} {id' : Uuid} (h : (token, id) ∈ s.issued)
    (h' : (token, id') ∈ s.issued) : id = id' :=
  congrArg Prod.snd (List.inj_on_of_nodup_map hs.tokens_nodup h h' rfl)

theorem AccountMove.issued_subset (h : AccountMove s a t s' t') : s.issued ⊆ s'.issued := by
  cases h with
  | issued => exact List.subset_append_left _ _
  | _ => exact List.Subset.refl _

theorem AccountMove.reads (h : AccountMove s a t s' t') (hs : OneUser s) : t'.Reads s' := by
  cases h with
  | selected hrow htoken => exact hs.row _ hrow _ htoken
  | kept ht' | issued ht ht' | walletCreated ht' => exact AccountTask.reads_of_idle ht'
  | verified ht' =>
      rcases ht' with ht' | ⟨rfl, -⟩
      · exact AccountTask.reads_of_idle ht'
      · trivial

theorem AccountMove.oneUser (h : AccountMove s a t s' t') (hs : OneUser s)
    (hfresh : t.draws = true → a.env.verificationToken ∉ s.tokens) : OneUser s' := by
  cases h with
  | kept | selected | walletCreated => exact ⟨hs.tokens_nodup, hs.row⟩
  | @issued _ _ id users ht ht' hrows =>
      constructor
      · rw [AccountStore.tokens, List.map_append]
        exact hs.tokens_nodup.append (List.nodup_singleton _)
          (List.disjoint_singleton.mpr (hfresh ht))
      · intro row' hrow' token htoken
        rcases hrows.new row' hrow' with ⟨row, hrow, hrenews⟩ | ⟨rfl, hnew⟩
        · rw [hrenews.id_eq]
          rcases hrenews.token with hold | ⟨rfl, hnew⟩
          · exact List.mem_append_left _ (hs.row row hrow token (hold.symm.trans htoken))
          · obtain rfl := Option.some.inj (hnew.symm.trans htoken)
            exact List.mem_append_right _ (List.mem_singleton_self _)
        · obtain rfl := Option.some.inj (hnew.symm.trans htoken)
          exact List.mem_append_right _ (List.mem_singleton_self _)
  | verified =>
      refine ⟨hs.tokens_nodup, fun row' hrow' token htoken => ?_⟩
      rcases mem_markEmailVerified hrow' with hrow | ⟨row, hrow, -, hnone⟩
      · exact hs.row row' hrow token htoken
      · rw [hnone] at htoken
        cases htoken

theorem oneUser_found (hunique : UniqueTokens users) : OneUser (.found users) := by
  constructor
  · have htokens : (AccountStore.found users).tokens =
        users.rows.filterMap User.verificationToken := by
      simp [AccountStore.tokens, AccountStore.found, List.map_filterMap, Function.comp_def]
    rw [htokens]
    exact hunique
  · intro row hrow token htoken
    exact List.mem_filterMap.mpr ⟨row, hrow, by rw [htoken]; rfl⟩

/-! ### One wallet -/

/-- The request is about to have a wallet made for the user. -/
def AccountTask.creates (id : Uuid) : AccountTask → ℕ
  | .creatingWallet id' => if id' = id then 1 else 0
  | _ => 0

theorem AccountTask.creates_of_idle (h : t.idle = true) : t.creates id = 0 := by
  cases t with
  | verifying | creatingWallet => cases h
  | _ => rfl

/-- The rows that the update affects are those of the user that the look-up has found. -/
theorem mem_awaiting_of_reads (hs : OneUser s) {token : String} {role : UserRole} {now : ℕ}
    (ht : (AccountTask.verifying token id role).Reads s) (h : s.users.awaiting token now ≠ []) :
    id ∈ s.users.awaiting token now := by
  obtain ⟨id', hid'⟩ := List.exists_mem_of_ne_nil _ h
  obtain ⟨row, hrow, rfl, hawaits⟩ := mem_awaiting_iff.mp hid'
  simp only [User.awaits, Bool.and_eq_true, decide_eq_true_eq] at hawaits
  rwa [hs.eq ht (hs.row row hrow token hawaits.1.1)]

/-- A wallet that is made, or about to be made, is one for an update that has set the flag. -/
theorem AccountMove.wallets (h : AccountMove s a t s' t') (hs : OneUser s) (ht : t.Reads s)
    (id : Uuid) :
    ∃ d, s'.wallets.count id + t'.creates id ≤ s.wallets.count id + t.creates id + d ∧
      s.verified.count id + d ≤ s'.verified.count id := by
  cases h with
  | kept ht' | issued _ ht' =>
      exact ⟨0, by rw [AccountTask.creates_of_idle ht']; exact Nat.le_add_right _ _, le_rfl⟩
  | selected => exact ⟨0, Nat.le_add_right _ _, le_rfl⟩
  | @verified token id' role _ ht' =>
      rcases ht' with ht' | ⟨rfl, haffected⟩
      · refine ⟨0, by rw [AccountTask.creates_of_idle ht']; exact Nat.le_add_right _ _, ?_⟩
        rw [List.count_append]
        exact Nat.le_add_right _ _
      · refine ⟨if id' = id then 1 else 0, le_rfl, ?_⟩
        rw [List.count_append]
        refine Nat.add_le_add_left ?_ _
        split
        · subst id
          exact List.one_le_count_iff.mpr (mem_awaiting_of_reads hs ht haffected)
        · exact Nat.zero_le _
  | @walletCreated id' _ ht' =>
      refine ⟨0, ?_, le_rfl⟩
      rw [AccountTask.creates_of_idle ht', List.count_append, List.count_singleton]
      simp only [AccountTask.creates, beq_iff_eq]
      exact le_rfl

end Moves

section Runs

variable {users : Users} {c c' : Config AccountStore AccountTask}

theorem verifiedOnce_of_reaches
    (h : (accounts lib jwtSecret).Reaches ⟨.found users, []⟩ c) : VerifiedOnce c.store :=
  h.store_invariant ⟨List.nodup_nil, fun _ hid => absurd hid List.not_mem_nil⟩
    fun _ hs _ hacts => (account_move hacts.step).verifiedOnce hs

/-- An address that is verified stays so. -/
def StaysVerified (users users' : Users) : Prop :=
  ∀ id, VerifiedUser users id → VerifiedUser users' id

theorem staysVerified_of_reaches (h : (accounts lib jwtSecret).Reaches c c') :
    StaysVerified c.store.users c'.store.users := by
  intro id hid
  exact h.store_invariant (I := fun s => VerifiedUser s.users id) hid
    fun _ hid _ hacts => (account_move hacts.step).verifiedUser hid

theorem oneUser_of_run (hunique : UniqueTokens users)
    (h : (accounts lib jwtSecret).Run (onActs DrawsFresh) ⟨.found users, []⟩ c) :
    OneUser c.store :=
  h.store_invariant (oneUser_found hunique) fun _ hs hg hacts =>
    (account_move hacts.step).oneUser hs (onActs_acts hg hacts)

theorem reads_of_run (hunique : UniqueTokens users)
    (h : (accounts lib jwtSecret).Run (onActs DrawsFresh) ⟨.found users, []⟩ c) :
    ∀ t ∈ c.tasks, t.Reads c.store := by
  refine h.assertions (J := fun s t => t.Reads s) (fun _ ht => nomatch ht) ?_ ?_ ?_
  · intro c t _ _ hentry
    cases t with
    | arrived r => trivial
    | _ => cases hentry
  · intro c i a t s' t' hrun _ _ hacts
    exact (account_move hacts.step).reads (oneUser_of_run hunique hrun)
  · intro c i a t s' t' _ hreads _ hacts u hu
    have hissued := (account_move hacts.step).issued_subset
    cases u with
    | verifying token id role => exact hissued (hreads _ hu)
    | _ => trivial

/-- The wallets for a user are not more than the updates that have set the flag. -/
theorem wallets_le_verified (hunique : UniqueTokens users)
    (h : (accounts lib jwtSecret).Run (onActs DrawsFresh) ⟨.found users, []⟩ c) (id : Uuid) :
    c.store.wallets.count id ≤ c.store.verified.count id := by
  have htally := h.tally_le (Φ := fun s => s.wallets.count id)
    (Ψ := fun s => s.verified.count id) (φ := AccountTask.creates id) le_rfl
    (fun {c t} _ _ hentry => by
      cases t with
      | arrived r => rfl
      | _ => cases hentry)
    (fun hrun _ _ hacts => (account_move hacts.step).wallets (oneUser_of_run hunique hrun)
      (reads_of_run hunique hrun _ hacts.mem) id)
  exact (Nat.le_add_right _ _).trans htally

/-- In every interleaving of the statements, each user is verified at most once and stays
verified, and where no token is drawn twice, `verify_email` has one wallet at most made for a
user. -/
theorem verified_once (h : (accounts lib jwtSecret).Reaches ⟨.found users, []⟩ c) :
    (∀ id, c.store.verified.count id ≤ 1) ∧
      (∀ c', (accounts lib jwtSecret).Reaches c c' →
        StaysVerified c.store.users c'.store.users) ∧
      (UniqueTokens users →
        (accounts lib jwtSecret).Run (onActs DrawsFresh) ⟨.found users, []⟩ c →
          ∀ id, c.store.wallets.count id ≤ 1) := by
  have honce := List.nodup_iff_count_le_one.mp (verifiedOnce_of_reaches h).nodup
  exact ⟨honce, fun _ => staysVerified_of_reaches,
    fun hunique hrun id => (wallets_le_verified hunique hrun id).trans (honce id)⟩

end Runs

/-! ### Two requests with one token -/

namespace Sample

def accountAct (userId : Uuid) (verificationToken : String) : AccountAct :=
  answers (env userId verificationToken)

/-- A user signs up, and the link is opened twice. Between the look-ups and the updates the
user logs in and is sent another link, which is opened at the end. -/
def confirmations : List (Move AccountTask AccountAct) :=
  [.spawn (.arrived (.signup ⟨"user@example.com", "battery staple", some "user", "common"⟩)),
    .act 0 (accountAct 0 ""), .act 0 (accountAct 2 "first"),
    .spawn (.arrived (.verifyEmail (some "first"))), .act 1 (accountAct 0 ""),
    .spawn (.arrived (.verifyEmail (some "first"))), .act 2 (accountAct 0 ""),
    .spawn (.arrived (.login ⟨"user@example.com", "battery staple", none⟩)),
    .act 3 (accountAct 0 ""), .act 1 (accountAct 0 ""), .act 3 (accountAct 0 "second"),
    .act 2 (accountAct 0 ""), .act 1 (accountAct 0 ""),
    .spawn (.arrived (.verifyEmail (some "second"))), .act 4 (accountAct 0 "")]

end Sample

theorem verified_once_sample :
    ∃ c : Config AccountStore AccountTask,
      c.store.verified = [2] ∧ c.store.wallets = [2] ∧
        (∀ id, c.store.verified.count id ≤ 1) ∧
        (∀ c', (accounts Sample.crates "secret").Reaches c c' →
          StaysVerified c.store.users c'.store.users) ∧
        ∀ id, c.store.wallets.count id ≤ 1 := by
  obtain ⟨c, hrun, hc⟩ := exists_of_runIf (accounts Sample.crates "secret") (onActs DrawsFresh)
    ⟨.found .empty, []⟩ Sample.confirmations
    (fun c => c.store.verified = [2] && c.store.wallets = [2]) (by decide +kernel)
  obtain ⟨hverified, hwallets⟩ : c.store.verified = [2] ∧ c.store.wallets = [2] := by
    simpa using hc
  obtain ⟨honce, hstays, hwallet⟩ := verified_once hrun.reaches
  exact ⟨c, hverified, hwallets, honce, hstays, hwallet (by decide) hrun⟩

end Liquifier.Gateway
