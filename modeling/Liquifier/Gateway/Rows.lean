import Liquifier.Gateway.Requests

/-!
What a response makes of one row of the `users` table.

`Effect.rows` and `seeded_rows` say it for every request and for the start
of the gateway; statements about a flag or a role of a user are case analyses
over `RowEffect`.
-/

namespace Liquifier.Gateway

variable {lib : Crates} {jwtSecret : String}

/-- What the response to a request makes of a row. -/
inductive RowEffect (lib : Crates) (jwtSecret : String) (env : Env) :
    Request → User → User → Prop
  | kept {r row} : RowEffect lib jwtSecret env r row row
  | renewed {r row token expires} : RowEffect lib jwtSecret env r row
      { row with verificationToken := token, verificationTokenExpiresAt := expires }
  | verified {token row} : RowEffect lib jwtSecret env (.verifyEmail token) row
      { row with
        emailVerified := true, verificationToken := none, verificationTokenExpiresAt := none }
  | secretSet {authorization user row secret}
      (hauth : requireAuth lib jwtSecret env.now authorization = .ok user)
      (hid : row.id = user.userId) :
      RowEffect lib jwtSecret env (.setup2fa authorization) row
        { row with totpSecret := some secret }
  | totpEnabled {authorization code user row secret}
      (hauth : requireAuth lib jwtSecret env.now authorization = .ok user)
      (hid : row.id = user.userId) (hsecret : row.totpSecret = some secret)
      (hcode : lib.totpCheck secret env.now code = some true) :
      RowEffect lib jwtSecret env (.verify2fa authorization code) row
        { row with totpEnabled := true }
  | roleSet {authorization targetUserId role user row newRole}
      (hauth : requireAuth lib jwtSecret env.now authorization = .ok user)
      (hadmin : user.role = "admin") (hrole : UserRole.fromStr role = some newRole)
      (hid : lib.uuidFromStr targetUserId = some row.id) (hself : row.id ≠ user.userId)
      (hwrites : env.writes = true) :
      RowEffect lib jwtSecret env (.adminUpdateUserRole authorization targetUserId role) row
        { row with role := newRole, totpEnabled := false, totpSecret := none }

/-- A user who has just signed up. -/
def SignedUp (row : User) : Prop := row.role = .common ∧ row.totpEnabled = false

/-- The administrator that the start of the gateway inserts. -/
def Seeded (row : User) : Prop := row.role = .admin ∧ row.totpEnabled = false

theorem Users.eq_of_byId {users : Users} {id : Uuid} {row row' : User}
    (h : users.byId id = some row) (hmem : row' ∈ users.rows) (hid : row'.id = id) :
    row' = row := by
  subst hid
  exact Option.some.inj ((Table.get_of_mem users.ids_nodup hmem).symm.trans h)

theorem RowEffect.id_eq {env : Env} {r : Request} {row row' : User}
    (h : RowEffect lib jwtSecret env r row row') : row'.id = row.id := by
  cases h with
  | _ => rfl

theorem Effect.rows {users users' : Users} {env : Env} {r : Request}
    {response : Except StatusCode Reply} (h : Effect lib jwtSecret users env r users' response) :
    Table.Follows (RowEffect lib jwtSecret env r) SignedUp users.rows users'.rows := by
  have hkept : ∀ row, RowEffect lib jwtSecret env r row row := fun _ => .kept
  cases h with
  | renewed hr hwrite hresponse =>
      simp only [Users.setVerificationToken] at hwrite
      split at hwrite
      · cases hwrite
      · cases hwrite
        exact .update hkept fun _ _ _ => .renewed
  | signedUp hinsert hpassword hrole htotp hreply =>
      rw [insert_rows hinsert]
      exact .append hkept ⟨hrole, htotp⟩
  | emailVerified => exact .update hkept fun _ _ _ => .verified
  | totpSecretSet hauth => exact .update hkept fun _ _ hid => .secretSet hauth hid
  | totpEnabled hauth hrow hsecret hcode =>
      refine .update hkept fun q hq hid => ?_
      obtain rfl := Users.eq_of_byId hrow hq hid
      exact .totpEnabled hauth hid hsecret hcode
  | roleUpdated hauth hadmin hrole hid hself hwrites =>
      refine .update hkept fun q _ hq => ?_
      subst hq
      exact .roleSet hauth hadmin hrole hid hself hwrites
  | _ => exact .refl hkept

/-- The table after the start of the gateway. -/
def seeded (lib : Crates) (users : Users) (env : Env) (adminEmail adminPassword : String) : Users :=
  (seedAdminUser lib users env adminEmail adminPassword).getD users

theorem seeded_cases (users : Users) (env : Env) (adminEmail adminPassword : String) :
    seeded lib users env adminEmail adminPassword = users ∨ ∃ row,
      users.insert row = some (seeded lib users env adminEmail adminPassword) ∧
      HasPassword lib row adminPassword ∧ Seeded row := by
  cases h : seedAdminUser lib users env adminEmail adminPassword with
  | none => exact .inl (by rw [seeded, h, Option.getD_none])
  | some users' =>
      rw [seeded, h, Option.getD_some]
      simp only [seedAdminUser] at h
      split at h
      · exact .inl (Option.some.inj h).symm
      · simp only [Option.bind_eq_bind, Option.bind_eq_some_iff] at h
        obtain ⟨-, -, h⟩ := h
        split at h
        · exact .inl (Option.some.inj h).symm
        · simp only [Option.bind_eq_some_iff] at h
          obtain ⟨passwordHash, hhash, -, -, hinsert⟩ := h
          exact .inr ⟨_, hinsert, ⟨env.salt, hhash⟩, rfl, rfl⟩

theorem seeded_writes (users : Users) (env : Env) (adminEmail adminPassword : String) :
    Writes lib users (seeded lib users env adminEmail adminPassword) := by
  rcases seeded_cases users env adminEmail adminPassword with h | ⟨row, hinsert, hpassword, -⟩
  · rw [h]
    exact .nothing
  · exact .insert hinsert hpassword

theorem seeded_rows (users : Users) (env : Env) (adminEmail adminPassword : String) :
    Table.Follows Eq Seeded users.rows (seeded lib users env adminEmail adminPassword).rows := by
  rcases seeded_cases users env adminEmail adminPassword with h | ⟨row, hinsert, -, hrow⟩
  · rw [h]
    exact .refl fun _ => rfl
  · rw [insert_rows hinsert]
    exact .append (fun _ => rfl) hrow

end Liquifier.Gateway
