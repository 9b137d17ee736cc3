import Liquifier.Engine.Worker
import Liquifier.Gateway.Accounts
import Liquifier.Kms.Wallets

/-!
The consumer of the deposit messages, beside the engine.

A delivery of a message goes from one statement to the next, and between two of its
moves the engine, the requests that set the status of a session and other deliveries may
move. A message may be delivered again, which is the arrival of one more delivery, and a
delivery may stop anywhere. Every way out of the loop acknowledges the message, and
nothing looks at the result of the `INSERT`.
-/

namespace Liquifier.Gateway

open Kms TaskSystem

/-! ### Messages and rows -/

/-- ERC-20 Transfer event detected to a known user wallet, published to NATS. -/
structure DepositEvent where
  chain : String
  blockNumber : UInt64
  txHash : String
  logIndex : UInt32
  tokenAddress : String
  fromAddress : String
  toAddress : String
  amount : String
  walletId : String
  userId : String
  deriving DecidableEq

/-- The columns of `UNIQUE (chain, tx_hash, log_index)`. -/
structure DepositKey where
  chain : String
  txHash : String
  logIndex : ℤ
  deriving DecidableEq

def DepositEvent.key (d : DepositEvent) : DepositKey := ⟨d.chain, d.txHash, asI32 d.logIndex⟩

/-- A message whose sender has been looked up, and what was true of it then: a session
tracks the sender, and the transfer is the output of a swap of the engine. -/
structure CheckedDeposit extends DepositEvent where
  tracked : Bool
  ownOutput : Bool

/-- A row of `deposits`. `ownOutput` is no column: it tells which kind of transfer the
row was made for. -/
structure DepositRow where
  id : Uuid
  userId : Uuid
  walletId : Uuid
  chain : String
  tokenAddress : String
  fromAddress : String
  amount : String
  txHash : String
  blockNumber : ℤ
  logIndex : ℤ
  ownOutput : Bool
  deriving DecidableEq

def DepositRow.key (r : DepositRow) : DepositKey := ⟨r.chain, r.txHash, r.logIndex⟩

/-- `block_number as i64`. -/
def asI64 (n : UInt64) : ℤ := if n.toNat < 2 ^ 63 then n.toNat else n.toNat - 2 ^ 64

/-- `parse().unwrap_or_default()`. -/
def uuidOrNil (lib : Crates) (text : String) : Uuid := (lib.uuidFromStr text).getD 0

/-- The values bound to the `INSERT`. -/
def CheckedDeposit.row (lib : Crates) (d : CheckedDeposit) (id : Uuid) : DepositRow where
  id := id
  userId := uuidOrNil lib d.userId
  walletId := uuidOrNil lib d.walletId
  chain := d.chain
  tokenAddress := d.tokenAddress
  fromAddress := d.fromAddress
  amount := d.amount
  txHash := d.txHash
  blockNumber := asI64 d.blockNumber
  logIndex := asI32 d.logIndex
  ownOutput := d.ownOutput

/-! ### The store -/

/-- The e-mail about a deposit; `userEmail` stands in the one to an administrator. -/
structure DepositAlert where
  toEmail : String
  username : String
  userEmail : Option String
  walletAddress : String
  amount : String
  tokenAddress : String
  txHash : String
  chain : String

/-- What the engine and the consumer work on. -/
structure Backend where
  world : Engine.World
  users : Users
  wallets : List WalletRow
  deposits : List DepositRow
  alerts : List DepositAlert
  deposit_ids : (deposits.map (·.id)).Nodup
  deposit_keys : (deposits.map DepositRow.key).Nodup
  deposit_users : ∀ r ∈ deposits, r.userId ∈ users.rows.map (·.id)
  deposit_wallets : ∀ r ∈ deposits, r.walletId ∈ wallets.map (·.id)

namespace Backend

/-- Nothing has been sold and no message has come. -/
def boot (db : Database) (users : Users) (wallets : List WalletRow) : Backend where
  world := Engine.boot db
  users := users
  wallets := wallets
  deposits := []
  alerts := []
  deposit_ids := List.nodup_nil
  deposit_keys := List.nodup_nil
  deposit_users := by simp
  deposit_wallets := by simp

variable (s : Backend)

/-- A row for the message is in the table. -/
def Recorded (d : DepositEvent) : Prop := d.key ∈ s.deposits.map DepositRow.key

/-- The user and the wallet that the row refers to are there. -/
def Refers (lib : Crates) (d : DepositEvent) : Prop :=
  uuidOrNil lib d.userId ∈ s.users.rows.map (·.id) ∧
    uuidOrNil lib d.walletId ∈ s.wallets.map (·.id)

/-- The statement reaches the database with an id that no row has. -/
def Takes (id : Uuid) (ok : Bool) : Prop := ok = true ∧ id ∉ s.deposits.map (·.id)

instance (d : DepositEvent) : Decidable (s.Recorded d) :=
  inferInstanceAs (Decidable (_ ∈ _))

instance (lib : Crates) (d : DepositEvent) : Decidable (s.Refers lib d) :=
  inferInstanceAs (Decidable (_ ∧ _))

instance (id : Uuid) (ok : Bool) : Decidable (s.Takes id ok) :=
  inferInstanceAs (Decidable (_ ∧ _))

/-- `INSERT INTO deposits … ON CONFLICT (chain, tx_hash, log_index) DO NOTHING`, with its
result dropped. -/
def insertDeposit (lib : Crates) (d : CheckedDeposit) (id : Uuid) (ok : Bool) : Backend :=
  if h : ¬ s.Recorded d.toDepositEvent ∧ s.Takes id ok ∧ s.Refers lib d.toDepositEvent then
    { s with
      deposits := s.deposits ++ [d.row lib id]
      deposit_ids := by
        rw [List.map_append]
        exact s.deposit_ids.append (List.nodup_singleton _)
          (List.disjoint_singleton.mpr h.2.1.2)
      deposit_keys := by
        rw [List.map_append]
        exact s.deposit_keys.append (List.nodup_singleton _) (List.disjoint_singleton.mpr h.1)
      deposit_users := by
        intro r hr
        rcases List.mem_append.mp hr with hr | hr
        · exact s.deposit_users r hr
        · rw [List.mem_singleton.mp hr]
          exact h.2.2.1
      deposit_wallets := by
        intro r hr
        rcases List.mem_append.mp hr with hr | hr
        · exact s.deposit_wallets r hr
        · rw [List.mem_singleton.mp hr]
          exact h.2.2.2 }
  else s

end Backend

/-! ### The sender -/

/-- Check if the sender address is a tracked pool or pair. -/
def isTrackedPoolOrPairTransfer (db : Database) (chain fromAddress : String) : Bool :=
  db.sessionPools.any fun sp =>
    (eqIgnoreAsciiCase sp.2.poolAddress fromAddress || eqIgnoreAsciiCase sp.2.token0 fromAddress ||
      eqIgnoreAsciiCase sp.2.token1 fromAddress) &&
    db.sessions.any fun s =>
      s.id = sp.1 && s.chain = chain && (s.status = .active || s.status = .pending)

/-- The last pool of the route that a pool's row gives for an event. -/
def lastHop (env : Engine.Environment) (pool : PoolInfo) (event : DexSwapEvent) : Option String :=
  if eqIgnoreAsciiCase pool.poolAddress event.poolAddress then
    (Engine.parsePoolSwapRoute env.jsonFromStr pool.swapPathJson event.poolAddress).bind
      (·.hops.getLast?)
  else none

/-- The transfer is the output of a swap that the engine has sent: the last pool of the
route has sent it to the wallet of the session. -/
def Backend.isOwnOutput (s : Backend) (env : Engine.Environment) (d : DepositEvent) : Bool :=
  s.world.accepted.any fun tx => tx.hash = d.txHash &&
    s.world.db.sessions.any fun session =>
      session.id = tx.sessionId && session.chain = d.chain &&
      (Table.get (·.id) s.wallets session.walletId).any (eqIgnoreAsciiCase ·.address d.toAddress) &&
      (s.world.db.poolsOf session.id).any fun pool =>
        (lastHop env pool tx.event).any (eqIgnoreAsciiCase · d.fromAddress)

/-! ### Deliveries -/

/-- The user of the alert. -/
structure AlertUser where
  email : String
  displayName : String

inductive DepositPhase where
  | receive (payload : Option DepositEvent)
  | check (deposit : DepositEvent)
  | insert (deposit : CheckedDeposit)
  | findUser (deposit : CheckedDeposit)
  | findAdmins (deposit : CheckedDeposit) (user : AlertUser)
  | alert (deposit : CheckedDeposit) (user : AlertUser) (adminEmails : List String)
  | ack (deposit : Option CheckedDeposit)
  | acknowledged (deposit : Option CheckedDeposit)
  | stopped

/-- What a move of a delivery waits for. -/
inductive DepositAct where
  | proceed
  | query (ok : Bool)
  | insert (id : Uuid) (ok : Bool)
  | stop

section Steps

variable (env : Engine.Environment) (lib : Crates) (sendsEmail : Bool) (s : Backend)

/-- What the look-up of the sender finds, where it succeeds, and what is true then. -/
def Backend.checked (d : DepositEvent) : CheckedDeposit :=
  { d with
    tracked := isTrackedPoolOrPairTransfer s.world.db d.chain d.fromAddress
    ownOutput := s.isOwnOutput env d }

/-- `SELECT email, COALESCE(username, email) FROM users WHERE id = $1::uuid`. -/
def Backend.alertUser (d : DepositEvent) : Option AlertUser :=
  ((lib.uuidFromStr d.userId).bind s.users.byId).map fun u =>
    ⟨u.email, u.username.getD u.email⟩

/-- `SELECT email FROM users WHERE role = 'admin' AND email_verified = true`. -/
def Backend.adminEmails : List String :=
  (s.users.rows.filter fun u => u.role = .admin && u.emailVerified).map (·.email)

/-- The alerts to the administrators, and the one to the user. -/
def depositAlerts (d : DepositEvent) (user : AlertUser) (adminEmails : List String) :
    List DepositAlert :=
  let alert (toEmail : String) (userEmail : Option String) : DepositAlert :=
    ⟨toEmail, user.displayName, userEmail, d.toAddress, d.amount, d.tokenAddress, d.txHash, d.chain⟩
  adminEmails.map (alert · (some user.email)) ++ [alert user.email none]

/-- The body of the loop of `run_deposit_alert_consumer`. -/
def depositStep : DepositPhase → DepositAct → Option (Backend × DepositPhase)
  | .acknowledged _, _ => none
  | .stopped, _ => none
  | _, .stop => some (s, .stopped)
  | .receive none, .proceed => some (s, .ack none)
  | .receive (some d), .proceed => some (s, .check d)
  | .check d, .query ok =>
      let d := s.checked env d
      -- an error of the query counts as an unknown sender
      some (s, if ok && d.tracked then .ack (some d) else .insert d)
  | .insert d, .insert id ok => some (s.insertDeposit lib d id ok, .findUser d)
  | .findUser d, .query ok =>
      -- an error and a user who is not there both end the alert
      some (s, match if ok then s.alertUser lib d.toDepositEvent else none with
        | some user => .findAdmins d user
        | none => .ack (some d))
  | .findAdmins d user, .query ok =>
      some (s, if ok then .alert d user s.adminEmails else .ack (some d))
  | .alert d user adminEmails, .proceed =>
      let sent := if sendsEmail then depositAlerts d.toDepositEvent user adminEmails else []
      some ({ s with alerts := s.alerts ++ sent }, .ack (some d))
  | .ack d, .proceed => some (s, .acknowledged d)
  | _, _ => none

/-! ### The system -/

inductive BackendTask where
  | engine (t : Engine.Task)
  | deposit (phase : DepositPhase)

inductive BackendAct where
  | engine (a : Engine.Act)
  | deposit (a : DepositAct)

namespace BackendTask

/-- A task at its beginning. -/
def isNew : BackendTask → Bool
  | .engine t => t.isNew
  | .deposit (.receive _) => true
  | .deposit _ => false

end BackendTask

def backendStep : BackendAct → Backend → BackendTask → Option (Backend × BackendTask)
  | .engine a, s, .engine t =>
      (Engine.taskStep env a s.world t).map fun r => ({ s with world := r.1 }, .engine r.2)
  | .deposit a, s, .deposit phase =>
      (depositStep env lib sendsEmail s phase a).map fun r => (r.1, .deposit r.2)
  | _, _, _ => none

def backend : System Backend BackendTask BackendAct :=
  ⟨BackendTask.isNew, backendStep env lib sendsEmail⟩

/-- No task has arrived yet. -/
def backendStart (db : Database) (users : Users) (wallets : List WalletRow) :
    Config Backend BackendTask := ⟨Backend.boot db users wallets, []⟩

/-! ### What a step does -/

/-- All that a move of a delivery can do. -/
inductive DepositMove : DepositPhase → DepositAct → Backend → DepositPhase → Prop where
  | stopped {phase : DepositPhase} : DepositMove phase .stop s .stopped
  | unread : DepositMove (.receive none) .proceed s (.ack none)
  | read {d : DepositEvent} : DepositMove (.receive (some d)) .proceed s (.check d)
  | skipped {d : DepositEvent} (htracked : (s.checked env d).tracked = true) :
      DepositMove (.check d) (.query true) s (.ack (some (s.checked env d)))
  | passed {d : DepositEvent} {ok : Bool}
      (hpassed : ok = true → (s.checked env d).tracked = false) :
      DepositMove (.check d) (.query ok) s (.insert (s.checked env d))
  | inserted {d : CheckedDeposit} {id : Uuid} {ok : Bool} :
      DepositMove (.insert d) (.insert id ok) (s.insertDeposit lib d id ok) (.findUser d)
  | userFound {d : CheckedDeposit} {user : AlertUser} :
      DepositMove (.findUser d) (.query true) s (.findAdmins d user)
  | userMissing {d : CheckedDeposit} {ok : Bool} :
      DepositMove (.findUser d) (.query ok) s (.ack (some d))
  | adminsFound {d : CheckedDeposit} {user : AlertUser} :
      DepositMove (.findAdmins d user) (.query true) s (.alert d user s.adminEmails)
  | adminsError {d : CheckedDeposit} {user : AlertUser} :
      DepositMove (.findAdmins d user) (.query false) s (.ack (some d))
  | alerted {d : CheckedDeposit} {user : AlertUser} {adminEmails : List String}
      {sent : List DepositAlert} :
      DepositMove (.alert d user adminEmails) .proceed { s with alerts := s.alerts ++ sent }
        (.ack (some d))
  | acknowledged {d : Option CheckedDeposit} :
      DepositMove (.ack d) .proceed s (.acknowledged d)

/-- All that a move of a task can do. -/
inductive BackendMove : BackendTask → BackendAct → Backend → BackendTask → Prop where
  | engine {t t' : Engine.Task} {a : Engine.Act} {w : Engine.World}
      (h : Engine.TaskMove env s.world t a w t') :
      BackendMove (.engine t) (.engine a) { s with world := w } (.engine t')
  | deposit {phase phase' : DepositPhase} {a : DepositAct} {s' : Backend}
      (h : DepositMove env lib s phase a s' phase') :
      BackendMove (.deposit phase) (.deposit a) s' (.deposit phase')

end Steps

variable {env : Engine.Environment} {lib : Crates} {sendsEmail : Bool} {s s' : Backend}

theorem depositStep_move {phase phase' : DepositPhase} {a : DepositAct}
    (h : depositStep env lib sendsEmail s phase a = some (s', phase')) :
    DepositMove env lib s phase a s' phase' := by
  cases phase with
  | receive payload =>
      cases a with
      | proceed =>
          cases payload with
          | none => cases h; exact .unread
          | some d => cases h; exact .read
      | stop => cases payload <;> (cases h; exact .stopped)
      | _ => cases payload <;> cases h
  | check d =>
      cases a with
      | query ok =>
          obtain ⟨rfl, rfl⟩ := Prod.mk.inj (Option.some.inj h)
          split
          · rename_i hskip
            obtain ⟨rfl, htracked⟩ := Bool.and_eq_true_iff.mp hskip
            exact .skipped htracked
          · rename_i hpass
            refine .passed fun hok => ?_
            rw [hok, Bool.true_and, Bool.not_eq_true] at hpass
            exact hpass
      | stop => cases h; exact .stopped
      | _ => cases h
  | insert d =>
      cases a with
      | insert id ok => cases h; exact .inserted
      | stop => cases h; exact .stopped
      | _ => cases h
  | findUser d =>
      cases a with
      | query ok =>
          obtain ⟨rfl, rfl⟩ := Prod.mk.inj (Option.some.inj h)
          split
          · rename_i hfound
            cases ok with
            | true => exact .userFound
            | false => cases hfound
          · exact .userMissing
      | stop => cases h; exact .stopped
      | _ => cases h
  | findAdmins d user =>
      cases a with
      | query ok =>
          cases ok with
          | true => cases h; exact .adminsFound
          | false => cases h; exact .adminsError
      | stop => cases h; exact .stopped
      | _ => cases h
  | alert d user adminEmails =>
      cases a with
      | proceed => cases h; exact .alerted
      | stop => cases h; exact .stopped
      | _ => cases h
  | ack d =>
      cases a with
      | proceed => cases h; exact .acknowledged
      | stop => cases h; exact .stopped
      | _ => cases h
  | acknowledged d => cases h
  | stopped => cases h

theorem backendStep_move {t t' : BackendTask} {a : BackendAct}
    (h : backendStep env lib sendsEmail a s t = some (s', t')) :
    BackendMove env lib s t a s' t' := by
  cases t with
  | engine t =>
      cases a with
      | engine a =>
          obtain ⟨⟨w, t'⟩, hengine, h⟩ := Option.map_eq_some_iff.mp h
          cases h
          exact .engine (Engine.taskStep_move hengine)
      | deposit a => cases h
  | deposit phase =>
      cases a with
      | engine a => cases h
      | deposit a =>
          obtain ⟨⟨s', phase'⟩, hdeposit, h⟩ := Option.map_eq_some_iff.mp h
          cases h
          exact .deposit (depositStep_move hdeposit)

theorem backend_move {c : Config Backend BackendTask} {i : ℕ} {a : BackendAct}
    {t t' : BackendTask} (h : (backend env lib sendsEmail).Acts c i a t s' t') :
    BackendMove env lib c.store t a s' t' :=
  backendStep_move h.step

/-! ### The rows -/

namespace Backend

theorem deposits_insertDeposit (d : CheckedDeposit) (id : Uuid) (ok : Bool) :
    (s.insertDeposit lib d id ok).deposits =
      if ¬ s.Recorded d.toDepositEvent ∧ s.Takes id ok ∧ s.Refers lib d.toDepositEvent then
        s.deposits ++ [d.row lib id]
      else s.deposits := by
  unfold insertDeposit
  split <;> rfl

theorem subset_insertDeposit (d : CheckedDeposit) (id : Uuid) (ok : Bool) :
    s.deposits ⊆ (s.insertDeposit lib d id ok).deposits := by
  rw [deposits_insertDeposit]
  split
  · exact List.subset_append_left _ _
  · exact List.Subset.refl _

theorem exists_fresh (s : Backend) : ∃ id, id ∉ s.deposits.map (·.id) :=
  ⟨(s.deposits.map (·.id)).max?.getD 0 + 1, fun h =>
    absurd (List.le_max?_getD_of_mem h) (Nat.not_succ_le_self _)⟩

theorem recorded_of_subset {d : DepositEvent} (h : s.deposits ⊆ s'.deposits)
    (hd : s.Recorded d) : s'.Recorded d := by
  obtain ⟨r, hr, hkey⟩ := List.mem_map.mp hd
  exact List.mem_map.mpr ⟨r, h hr, hkey⟩

end Backend

theorem DepositMove.subset {phase phase' : DepositPhase} {a : DepositAct}
    (h : DepositMove env lib s phase a s' phase') : s.deposits ⊆ s'.deposits := by
  cases h with
  | inserted => exact Backend.subset_insertDeposit _ _ _
  | _ => exact List.Subset.refl _

/-- A row of `deposits` stays. -/
theorem BackendMove.subset {t t' : BackendTask} {a : BackendAct}
    (h : BackendMove env lib s t a s' t') : s.deposits ⊆ s'.deposits := by
  cases h with
  | engine => exact List.Subset.refl _
  | deposit h => exact h.subset

end Liquifier.Gateway
