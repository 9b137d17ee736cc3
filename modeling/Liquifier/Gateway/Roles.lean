import Liquifier.Gateway.Tokens
import Liquifier.Lib.Trace

/-!
Roles in tokens and roles in the table.

At the moment when a token is given out, its subject has a verified address and
the role that the token carries. Afterwards the table changes and the token does
not. A demoted administrator therefore keeps a token with which the last
administrator can be demoted. Requests are served one after another.
-/

namespace Liquifier.Gateway

open Trace

variable {lib : Crates} {jwtSecret : String}

instance (s : State) (env : Env) (r : Request) : Decidable (Authentic lib jwtSecret s env r) :=
  inferInstanceAs (Decidable (∀ token ∈ r.presented, _ → _))

/-- The request, if the event is one, brings no forged token. -/
def EventAuthentic (lib : Crates) (jwtSecret : String) (s : State) (e : Event × Env) : Prop :=
  match e.1 with
  | .start _ _ => True
  | .request r => Authentic lib jwtSecret s e.2 r

instance (s : State) (e : Event × Env) : Decidable (EventAuthentic lib jwtSecret s e) :=
  match e with
  | (.start _ _, _) => isTrue trivial
  | (.request r, env) => inferInstanceAs (Decidable (Authentic lib jwtSecret s env r))

/-- The runs in which no token is forged. -/
def AuthenticRun (lib : Crates) (jwtSecret : String) (events : List (Event × Env)) : Prop :=
  Guarded (next lib jwtSecret) (EventAuthentic lib jwtSecret) ⟨.empty, []⟩ events

instance (events : List (Event × Env)) : Decidable (AuthenticRun lib jwtSecret events) :=
  inferInstanceAs (Decidable (Guarded _ _ _ _))

/-! ### The role in a new token -/

/-- The user is in the table with a verified address. -/
def VerifiedUser (users : Users) (id : Uuid) : Prop :=
  ∃ row ∈ users.rows, row.id = id ∧ row.emailVerified = true

/-- Every token is for a verified user. -/
def Rooted (lib : Crates) (jwtSecret : String) (s : State) : Prop :=
  ∀ token ∈ s.issued, ∃ id, TokenFor lib jwtSecret id token ∧ VerifiedUser s.users id

theorem RowEffect.emailVerified {env : Env} {r : Request} {row row' : User}
    (h : RowEffect lib jwtSecret env r row row') (hrow : row.emailVerified = true) :
    row'.emailVerified = true := by
  cases h with
  | verified => rfl
  | _ => exact hrow

theorem Effect.verifiedUser {users users' : Users} {env : Env} {r : Request}
    {response : Except StatusCode Reply} (h : Effect lib jwtSecret users env r users' response)
    {id : Uuid} (hid : VerifiedUser users id) : VerifiedUser users' id := by
  refine h.rows.exists_mem (P := fun row : User => row.id = id ∧ row.emailVerified = true) ?_ hid
  rintro row row' hrow ⟨hid, hverified⟩
  exact ⟨hrow.id_eq.trans hid, hrow.emailVerified hverified⟩

theorem Grants.verifiedUser (hx : lib.Exact) {s : State} (h : Rooted lib jwtSecret s) {env : Env}
    {r : Request} (hr : Authentic lib jwtSecret s env r) {id : Uuid}
    (hgrant : Grants lib jwtSecret s.users env r id) : VerifiedUser s.users id := by
  cases hgrant with
  | signup hunlocks => exact ⟨_, hunlocks.mem, rfl, hunlocks.verified⟩
  | login hadmits => exact ⟨_, hadmits.mem, rfl, hadmits.verified⟩
  | @refreshToken token claims id hvalid htype hid =>
      -- the flag is not read again: the token itself was given to a verified user
      obtain ⟨owner, ⟨claims', hencode, hsub⟩, hverified⟩ :=
        h token (hr token rfl (by simp [hvalid]))
      obtain rfl := hx.claims_of_validateToken hencode hvalid
      rw [hsub, hx.uuid] at hid
      exact Option.some.inj hid ▸ hverified

theorem rooted_next (hx : lib.Exact) {s : State} (h : Rooted lib jwtSecret s) {e : Event × Env}
    (he : EventAuthentic lib jwtSecret s e) : Rooted lib jwtSecret (next lib jwtSecret s e) := by
  obtain ⟨e, env⟩ := e
  cases e with
  | start adminEmail adminPassword =>
      intro token ht
      obtain ⟨id, hfor, hverified⟩ := h token ht
      refine ⟨id, hfor, (seeded_rows s.users env adminEmail adminPassword).exists_mem ?_ hverified⟩
      rintro row _ rfl hrow
      exact hrow
  | request r =>
      have heffect : Effect lib jwtSecret s.users env r (respond lib jwtSecret s.users env r).1
          (respond lib jwtSecret s.users env r).2 := respond_effect r
      intro token ht
      rcases List.mem_append.mp ht with ht | ht
      · obtain ⟨id, hfor, hverified⟩ := h token ht
        exact ⟨id, hfor, heffect.verifiedUser hverified⟩
      · obtain ⟨-, row, -, hgrant, hrole⟩ := heffect.token ht
        exact ⟨row.id, hrole.tokenFor,
          heffect.verifiedUser (hgrant.verifiedUser hx h he)⟩

theorem rooted_run (hx : lib.Exact) {events : List (Event × Env)}
    (hrun : AuthenticRun lib jwtSecret events) :
    Rooted lib jwtSecret (run lib jwtSecret events) := by
  refine hrun.invariant ?_ fun s e h he => rooted_next hx h he
  intro token ht
  cases ht

/-- Every token of the response names a user of the table at that moment, whose
address is verified and who has the role of the token. -/
def TokensMatchUsers (lib : Crates) (jwtSecret : String) (s : State) (env : Env)
    (r : Request) : Prop :=
  ∀ token ∈ issuedTokens (respond lib jwtSecret s.users env r).2,
    ∀ claims, lib.encode claims jwtSecret = some token →
      ∃ row ∈ (respond lib jwtSecret s.users env r).1.rows,
        claims.sub = lib.uuidToString row.id ∧ row.emailVerified = true ∧
          claims.role = row.role.text

/-- In every run without forged tokens, the tokens of each response match the table. -/
theorem tokensMatchUsers_of_authentic (hx : lib.Exact) {events : List (Event × Env)}
    (hrun : AuthenticRun lib jwtSecret events) {env : Env} {r : Request}
    (hr : Authentic lib jwtSecret (run lib jwtSecret events) env r) :
    TokensMatchUsers lib jwtSecret (run lib jwtSecret events) env r := by
  intro token ht claims hencode
  obtain ⟨husers, row, hmem, hgrant, claims', hencode', hsub, hrole⟩ := (respond_effect r).token ht
  obtain rfl := hx.claims_unique hencode hencode'
  obtain ⟨row', hmem', hid, hverified⟩ := hgrant.verifiedUser hx (rooted_run hx hrun) hr
  obtain rfl : row' = row := List.inj_on_of_nodup_map (Users.ids_nodup _) hmem' hmem hid
  rw [husers]
  exact ⟨row', hmem, hsub, hverified, hrole⟩

/-! ### The last administrator -/

def HasAdmin (users : Users) : Prop := ∃ row ∈ users.rows, row.role = .admin

instance (users : Users) : Decidable (HasAdmin users) :=
  inferInstanceAs (Decidable (∃ row ∈ users.rows, row.role = .admin))

/-- The row is the only one of an administrator. -/
structure LastAdmin (users : Users) (row : User) : Prop where
  mem : row ∈ users.rows
  admin : row.role = .admin
  only : ∀ other ∈ users.rows, other.role = .admin → other = row

/-- `admin_update_user_role` accepts a new role for the user `id`: the token of the
caller carries the role of an administrator and is for another user, and the database
answers. -/
structure AcceptsRole (lib : Crates) (jwtSecret : String) (env : Env)
    (authorization : Option String) (targetUserId : String) (user : AuthUser) (id : Uuid) :
    Prop where
  auth : requireAuth lib jwtSecret env.now authorization = .ok user
  admin : user.role = "admin"
  target : lib.uuidFromStr targetUserId = some id
  self : id ≠ user.userId
  writes : env.writes = true

/-- The request takes the role from the last administrator. -/
def DemotesLastAdmin (lib : Crates) (jwtSecret : String) (s : State) (e : Event × Env) : Prop :=
  ∃ authorization targetUserId user row,
    e.1 = .request (.adminUpdateUserRole authorization targetUserId "common") ∧
      AcceptsRole lib jwtSecret e.2 authorization targetUserId user row.id ∧ LastAdmin s.users row

/-- Who demotes the last administrator is none: the role in the token is out of date. -/
theorem AcceptsRole.stale {users : Users} {env : Env} {authorization : Option String}
    {targetUserId : String} {user : AuthUser} {row : User}
    (h : AcceptsRole lib jwtSecret env authorization targetUserId user row.id)
    (hlast : LastAdmin users row) :
    ∀ caller ∈ users.rows, caller.id = user.userId → caller.role = .common := by
  intro caller hcaller hid
  by_contra hrole
  have heq : caller = row := hlast.only caller hcaller (role_eq_admin hrole)
  exact h.self (heq ▸ hid)

theorem fromStr_eq_common {role : String} (h : UserRole.fromStr role = some .common) :
    role = "common" := by
  unfold UserRole.fromStr at h
  split at h
  · cases h
  · rfl
  · cases h

/-- A response leaves the role of a user alone or sets it for an accepted request. -/
theorem RowEffect.role_cases {env : Env} {r : Request} {row row' : User}
    (h : RowEffect lib jwtSecret env r row row') :
    row'.role = row.role ∨ ∃ authorization targetUserId role user,
      r = .adminUpdateUserRole authorization targetUserId role ∧
        UserRole.fromStr role = some row'.role ∧
          AcceptsRole lib jwtSecret env authorization targetUserId user row.id := by
  cases h with
  | roleSet hauth hadmin hrole hid hself hwrites =>
      exact .inr ⟨_, _, _, _, rfl, hrole, hauth, hadmin, hid, hself, hwrites⟩
  | _ => exact .inl rfl

theorem respond_adminUpdateUserRole {users : Users} {env : Env} {authorization : Option String}
    {targetUserId role : String} {user : AuthUser} {id : Uuid} {newRole : UserRole}
    (h : AcceptsRole lib jwtSecret env authorization targetUserId user id)
    (hrole : UserRole.fromStr role = some newRole) :
    (respond lib jwtSecret users env (.adminUpdateUserRole authorization targetUserId role)).1 =
      users.setRole id newRole := by
  have haccepts : adminUpdateUserRole lib users env user targetUserId role =
      .ok (users.setRole id newRole, .roleUpdated targetUserId newRole) := by
    simp only [adminUpdateUserRole, bind_eq_ok, ensure_eq_ok, okOr_eq_ok, decide_eq_true_eq]
    exact ⟨(), h.admin, newRole, hrole, id, h.target, (), h.self, (), h.writes, rfl⟩
  rw [respond, h.auth]
  show (settle users (adminUpdateUserRole lib users env user targetUserId role)).1 = _
  rw [haccepts, settle]

theorem not_hasAdmin_setRole {users : Users} {row : User} (h : LastAdmin users row) :
    ¬ HasAdmin (users.setRole row.id .common) := by
  rintro ⟨other, hother, hadmin⟩
  rcases Table.mem_update hother with ⟨hmem, hid⟩ | ⟨q, -, -, rfl⟩
  · exact hid (congrArg User.id (h.only other hmem hadmin))
  · cases hadmin

theorem Effect.hasAdmin {users users' : Users} {env : Env} {r : Request}
    {response : Except StatusCode Reply} (h : Effect lib jwtSecret users env r users' response)
    (hadmin : HasAdmin users)
    (hkeeps : ∀ authorization targetUserId user row,
      r = .adminUpdateUserRole authorization targetUserId "common" →
        AcceptsRole lib jwtSecret env authorization targetUserId user row.id →
          ¬ LastAdmin users row) : HasAdmin users' := by
  obtain ⟨row, hmem, hrole⟩ := hadmin
  obtain ⟨row', hmem', hrow⟩ := h.rows.old row hmem
  by_cases hrole' : row'.role = .admin
  · exact ⟨row', hmem', hrole'⟩
  · -- this administrator is demoted, so there is another one, whom the request does not name
    rcases hrow.role_cases with heq | ⟨authorization, targetUserId, role, user, rfl, hnew, haccepts⟩
    · exact absurd (heq.trans hrole) hrole'
    · have hcommon : row'.role = .common := by
        cases hr : row'.role with
        | admin => exact absurd hr hrole'
        | common => rfl
      rw [hcommon] at hnew
      obtain rfl := fromStr_eq_common hnew
      have hnot := hkeeps authorization targetUserId user row rfl haccepts
      obtain ⟨other, hother, hadmin, hne⟩ :
          ∃ other ∈ users.rows, other.role = .admin ∧ other ≠ row := by
        by_contra hnone
        push Not at hnone
        exact hnot ⟨hmem, hrole, hnone⟩
      obtain ⟨other', hother', heffect⟩ := h.rows.old other hother
      rcases heffect.role_cases with heq | ⟨_, _, _, _, hr, -, haccepts'⟩
      · exact ⟨other', hother', heq.trans hadmin⟩
      · cases hr
        have hid : other.id = row.id :=
          Option.some.inj (haccepts'.target.symm.trans haccepts.target)
        exact absurd (List.inj_on_of_nodup_map users.ids_nodup hother hmem hid) hne

/-- One event ends the presence of an administrator if and only if it demotes the last one. -/
theorem hasAdmin_next_iff (s : State) (e : Event × Env) :
    (HasAdmin s.users → HasAdmin (next lib jwtSecret s e).users) ↔
      ¬ DemotesLastAdmin lib jwtSecret s e := by
  constructor
  · rintro h ⟨authorization, targetUserId, user, row, he, haccepts, hlast⟩
    obtain ⟨_, env⟩ := e
    obtain rfl : _ = Event.request _ := he
    have hadmin := h ⟨row, hlast.mem, hlast.admin⟩
    simp only [next, respond_adminUpdateUserRole haccepts (rfl : UserRole.fromStr "common" = _)]
      at hadmin
    exact not_hasAdmin_setRole hlast hadmin
  · intro h hadmin
    obtain ⟨e, env⟩ := e
    cases e with
    | start adminEmail adminPassword =>
        refine (seeded_rows s.users env adminEmail adminPassword).exists_mem ?_ hadmin
        rintro row _ rfl hrow
        exact hrow
    | request r =>
        refine (respond_effect r).hasAdmin hadmin ?_
        rintro authorization targetUserId user row rfl haccepts hlast
        exact h ⟨authorization, targetUserId, user, row, rfl, haccepts, hlast⟩

/-- On a run from any table, once there is an administrator there always is one, if
and only if no accepted request demotes the last administrator. -/
theorem hasAdmin_stable_iff (s : State) (events : List (Event × Env)) :
    Stable (next lib jwtSecret) (fun s => HasAdmin s.users) s events ↔
      Guarded (next lib jwtSecret) (fun s e => ¬ DemotesLastAdmin lib jwtSecret s e) s events := by
  rw [stable_iff_guarded]
  constructor
  · intro h
    exact h.mono fun s e => (hasAdmin_next_iff s e).mp
  · intro h
    exact h.mono fun s e => (hasAdmin_next_iff s e).mpr

/-- If the role in a token were the one in the table, an administrator would remain. -/
theorem hasAdmin_stable_of_fresh {s : State} {events : List (Event × Env)}
    (h : Guarded (next lib jwtSecret) (fun s e =>
      ∀ authorization targetUserId user id,
        e.1 = .request (.adminUpdateUserRole authorization targetUserId "common") →
          AcceptsRole lib jwtSecret e.2 authorization targetUserId user id →
            ∃ caller ∈ s.users.rows, caller.id = user.userId ∧ caller.role = .admin) s events) :
    Stable (next lib jwtSecret) (fun s => HasAdmin s.users) s events := by
  rw [stable_iff_guarded]
  refine h.mono fun s e hfresh => (hasAdmin_next_iff s e).mpr ?_
  rintro ⟨authorization, targetUserId, user, row, he, haccepts, hlast⟩
  obtain ⟨caller, hmem, hid, hadmin⟩ := hfresh authorization targetUserId user row.id he haccepts
  cases hadmin.symm.trans (haccepts.stale hlast caller hmem hid)

/-! ### Two administrators -/

namespace Sample

def staffTokens : List (String × Claims) :=
  [("access.admin", ⟨"1", 3600, 0, "access", "admin"⟩),
    ("refresh.admin", ⟨"1", 604800, 0, "refresh", "admin"⟩),
    ("access.common", ⟨"11", 3600, 0, "access", "common"⟩),
    ("refresh.common", ⟨"11", 604800, 0, "refresh", "common"⟩),
    ("access.promoted", ⟨"11", 3600, 0, "access", "admin"⟩),
    ("refresh.promoted", ⟨"11", 604800, 0, "refresh", "admin"⟩),
    ("access.checked", ⟨"1", 3700, 100, "access", "admin"⟩),
    ("refresh.checked", ⟨"1", 604900, 100, "refresh", "admin"⟩)]

/-- The code for a secret, at any time. -/
def totpCode (secret : List UInt8) : String :=
  String.ofList (secret.map fun b => Char.ofNat b.toNat)

def staff : Crates where
  hashPassword := crates.hashPassword
  verifyPassword := crates.verifyPassword
  encode claims _ := (Table.get Prod.snd staffTokens claims).map Prod.fst
  decode now token _ :=
    ((Table.get Prod.fst staffTokens token).map Prod.snd).filter (now ≤ ·.exp + leeway)
  totpSetup secret email := some ⟨totpCode secret, "otpauth://totp/Liquifier:" ++ email, ""⟩
  totpCheck secret _ code := some (decide (code = totpCode secret))
  uuidFromStr := crates.uuidFromStr
  uuidToString := crates.uuidToString

theorem staff_exact : staff.Exact where
  verify := @Crates.Exact.verify crates crates_exact
  decode := by
    intro claims secret token h now
    obtain ⟨t, ht, rfl⟩ := Option.map_eq_some_iff.mp h
    have hnames : (staffTokens.map Prod.fst).Nodup := by decide
    have hget := Table.get_of_mem hnames (Table.mem_of_get ht)
    obtain rfl : t.2 = claims := Table.key_of_get ht
    simp [staff, hget, Option.filter]
  uuid := crates_exact.uuid

def adminLogin : Event := .request (.login ⟨"admin@example.com", "correct horse", none⟩)

def userLogin : Event := .request (.login ⟨"user@example.com", "battery staple", none⟩)

def setRole (token targetUserId role : String) : Event :=
  .request (.adminUpdateUserRole (some ("Bearer " ++ token)) targetUserId role)

/-- The administrator promotes the user, and both are logged in. -/
def promotion : List (Event × Env) :=
  events ++ [(adminLogin, env 0 ""), (setRole "access.admin" "11" "admin", env 0 ""),
    (userLogin, env 0 "")]

/-- Each takes the role of the other. -/
def demotions : List (Event × Env) :=
  [(setRole "access.admin" "11" "common", env 0 ""),
    (setRole "access.promoted" "1" "common", env 0 "")]

end Sample
/-- The promoted user renews the tokens of a common user. -/
theorem tokensMatchUsers_sample :
    "refresh.promoted" ∈ issuedTokens (respond Sample.staff "secret"
        (run Sample.staff "secret" Sample.promotion).users (Sample.env 0 "")
        (.refreshToken "refresh.common")).2 ∧
      TokensMatchUsers Sample.staff "secret" (run Sample.staff "secret" Sample.promotion)
        (Sample.env 0 "") (.refreshToken "refresh.common") := by
  refine ⟨by decide +kernel, tokensMatchUsers_of_authentic Sample.staff_exact ?_ ?_⟩
  · decide +kernel
  · decide +kernel

/-- The first administrator demotes the second one, who then demotes the first one. -/
theorem mutual_demotion :
    ¬ ∀ lib jwtSecret events, Crates.Exact lib → AuthenticRun lib jwtSecret events →
      Stable (next lib jwtSecret) (fun s => HasAdmin s.users) ⟨.empty, []⟩ events := by
  intro h
  have hstable := h Sample.staff "secret" (Sample.promotion ++ Sample.demotions) Sample.staff_exact
    (by decide +kernel) Sample.promotion Sample.demotions List.prefix_rfl
  exact absurd hstable (by decide +kernel)

end Liquifier.Gateway
