import Liquifier.Gateway.Deposits
import Liquifier.Gateway.RefundReview

/-!
Which deposits have a row once their message is acknowledged.

Behind its `INSERT` a delivery only goes on to its acknowledgement, and rows stay. So an
acknowledged message has a row if and only if the `INSERT` left one, and what decides it
is the moment of that statement.
-/

namespace Liquifier.Gateway

open Kms TaskSystem

/-- The message that a task has acknowledged. -/
def BackendTask.acknowledged : BackendTask → Option CheckedDeposit
  | .deposit (.acknowledged d) => d
  | _ => none

/-- Every message that is acknowledged and whose sender was not tracked has a row. -/
def AckedRecorded (c : Config Backend BackendTask) : Prop :=
  ∀ t ∈ c.tasks, ∀ d ∈ t.acknowledged, d.tracked = false → c.store.Recorded d.toDepositEvent

instance (c : Config Backend BackendTask) : Decidable (AckedRecorded c) :=
  inferInstanceAs (Decidable (∀ t ∈ c.tasks, ∀ d ∈ t.acknowledged, _ → _))

/-- The row of the message is there before its `INSERT`, or the statement reaches the
database with a fresh id, for a user and a wallet that exist. -/
def FindsRoom (lib : Crates) (c : Config Backend BackendTask) : BackendTask → BackendAct → Prop
  | .deposit (.insert d), .deposit (.insert id ok) => d.tracked = false →
      c.store.Recorded d.toDepositEvent ∨
        c.store.Takes id ok ∧ c.store.Refers lib d.toDepositEvent
  | _, _ => True

instance (lib : Crates) (c : Config Backend BackendTask) (t : BackendTask) (a : BackendAct) :
    Decidable (FindsRoom lib c t a) := by
  unfold FindsRoom
  split <;> infer_instance

/-- The runs in which every `INSERT` for a sender that is not tracked finds room. -/
abbrev RoomyRun (env : Engine.Environment) (lib : Crates) (sendsEmail : Bool)
    (c₀ c : Config Backend BackendTask) : Prop :=
  (backend env lib sendsEmail).Run (System.onActs (FindsRoom lib)) c₀ c

variable {env : Engine.Environment} {lib : Crates} {sendsEmail : Bool} {s s' : Backend}

/-! ### Behind the `INSERT` -/

/-- The message of a delivery that is behind its `INSERT`. -/
def DepositPhase.past : DepositPhase → Option CheckedDeposit
  | .findUser d => some d
  | .findAdmins d _ => some d
  | .alert d _ _ => some d
  | .ack d => d
  | .acknowledged d => d
  | _ => none

def BackendTask.past : BackendTask → Option CheckedDeposit
  | .engine _ => none
  | .deposit phase => phase.past

theorem BackendTask.past_of_acknowledged {t : BackendTask} {d : CheckedDeposit}
    (h : d ∈ t.acknowledged) : d ∈ t.past := by
  cases t with
  | engine t => cases h
  | deposit phase =>
      cases phase with
      | acknowledged d => exact h
      | _ => cases h

/-- A message comes behind its `INSERT` by that statement, or without it when a session
tracks its sender. -/
theorem DepositMove.past {phase phase' : DepositPhase} {a : DepositAct} {d : CheckedDeposit}
    (h : DepositMove env lib s phase a s' phase') (hd : d ∈ phase'.past) :
    d ∈ phase.past ∨ d.tracked = true ∨
      ∃ id ok, phase = .insert d ∧ a = .insert id ok ∧ s' = s.insertDeposit lib d id ok := by
  cases h with
  | stopped => cases hd
  | unread => cases hd
  | read => cases hd
  | skipped htracked =>
      obtain rfl := Option.some.inj hd
      exact .inr (.inl htracked)
  | passed => cases hd
  | inserted =>
      obtain rfl := Option.some.inj hd
      exact .inr (.inr ⟨_, _, rfl, rfl, rfl⟩)
  | userFound => exact .inl hd
  | userMissing => exact .inl hd
  | adminsFound => exact .inl hd
  | adminsError => exact .inl hd
  | alerted => exact .inl hd
  | acknowledged => exact .inl hd

namespace Backend

/-- Where the statement finds room, the message has a row after it. -/
theorem recorded_insertDeposit_self {d : CheckedDeposit} {id : Uuid} {ok : Bool}
    (h : s.Recorded d.toDepositEvent ∨ s.Takes id ok ∧ s.Refers lib d.toDepositEvent) :
    (s.insertDeposit lib d id ok).Recorded d.toDepositEvent := by
  by_cases hthere : s.Recorded d.toDepositEvent
  · exact recorded_of_subset (subset_insertDeposit d id ok) hthere
  · have hroom := h.resolve_left hthere
    rw [Recorded, deposits_insertDeposit, if_pos ⟨hthere, hroom⟩, List.map_append]
    exact List.mem_append_right _ (List.mem_singleton.mpr rfl)

theorem insertDeposit_of_no_room {d : CheckedDeposit} {id : Uuid} {ok : Bool}
    (h : ¬ (s.Takes id ok ∧ s.Refers lib d.toDepositEvent)) : s.insertDeposit lib d id ok = s := by
  rw [insertDeposit, dif_neg fun hins => h hins.2]

end Backend

/-- A delivery behind its `INSERT` has a row, unless a session tracked its sender. -/
def PastRecorded (s : Backend) (t : BackendTask) : Prop :=
  ∀ d ∈ t.past, d.tracked = false → s.Recorded d.toDepositEvent

theorem pastRecorded_of_roomyRun {c₀ c : Config Backend BackendTask} (h₀ : c₀.tasks = [])
    (h : RoomyRun env lib sendsEmail c₀ c) : ∀ t ∈ c.tasks, PastRecorded c.store t := by
  refine h.assertions ?_ ?_ ?_ ?_
  · rw [h₀]
    exact fun t ht => nomatch ht
  · intro c t _ _ hnew d hd
    cases t with
    | engine t => cases hd
    | deposit phase =>
        cases phase with
        | receive payload => cases hd
        | _ => cases hnew
  · intro c i a t s' t' _ hpast hroom hacts d hd htracked
    have hmove := backend_move hacts
    cases hmove with
    | engine _ => cases hd
    | deposit hmove =>
        rcases hmove.past hd with hold | hskipped | ⟨id, ok, rfl, rfl, rfl⟩
        · exact Backend.recorded_of_subset hmove.subset (hpast _ hacts.mem d hold htracked)
        · rw [hskipped] at htracked
          cases htracked
        -- the statement itself, and the run finds room for it
        · exact Backend.recorded_insertDeposit_self (System.onActs_acts hroom hacts htracked)
  · intro c i a t s' t' _ hpast _ hacts u hu d hd htracked
    exact Backend.recorded_of_subset (backend_move hacts).subset (hpast u hu d hd htracked)

/-! ### An acknowledgement without a row -/

variable (env lib sendsEmail) in
/-- Behind its `INSERT` a delivery can reach its acknowledgement without another write. -/
theorem reaches_acknowledged {c : Config Backend BackendTask} {i : ℕ} {d : CheckedDeposit}
    (h : c.tasks[i]? = some (.deposit (.findUser d))) :
    ∃ c', (backend env lib sendsEmail).Reaches c c' ∧ c'.store = c.store ∧
      .deposit (.acknowledged (some d)) ∈ c'.tasks := by
  -- the query for the user fails, which ends the alert
  have hasked : (backend env lib sendsEmail).Acts c i (.deposit (.query false))
      (.deposit (.findUser d)) c.store (.deposit (.ack (some d))) := ⟨h, rfl⟩
  have hacked : (backend env lib sendsEmail).Acts
      ⟨c.store, c.tasks.set i (.deposit (.ack (some d)))⟩ i (.deposit .proceed)
      (.deposit (.ack (some d))) c.store (.deposit (.acknowledged (some d))) :=
    ⟨hasked.at_index_after, rfl⟩
  exact ⟨_, hasked.reaches.trans hacked.reaches, rfl, hacked.mem_after⟩

theorem findsRoom_cases {c : Config Backend BackendTask} {t : BackendTask} {a : BackendAct}
    (h : ¬ FindsRoom lib c t a) :
    ∃ d id ok, t = .deposit (.insert d) ∧ a = .deposit (.insert id ok) ∧ d.tracked = false ∧
      ¬ c.store.Recorded d.toDepositEvent ∧
      ¬ (c.store.Takes id ok ∧ c.store.Refers lib d.toDepositEvent) := by
  unfold FindsRoom at h
  split at h
  · rename_i d id ok
    simp only [not_forall, not_or] at h
    obtain ⟨htracked, hmissing, hroom⟩ := h
    exact ⟨d, id, ok, rfl, rfl, htracked, hmissing, hroom⟩
  · exact absurd trivial h

/-- In every run in which each `INSERT` for a sender that no session tracks finds room, a
message is acknowledged only when its row is there. Every other `INSERT` lets a run go on
to the contrary. -/
theorem ackedRecorded_of_roomyRun (env : Engine.Environment) (lib : Crates) (sendsEmail : Bool)
    (db : Database) (users : Users) (wallets : List WalletRow) :
    (∀ c, RoomyRun env lib sendsEmail (backendStart db users wallets) c → AckedRecorded c) ∧
    ∀ c c' m, RoomyRun env lib sendsEmail (backendStart db users wallets) c →
      ¬ System.onActs (FindsRoom lib) c m → (backend env lib sendsEmail).next c m = some c' →
        ∃ c'', (backend env lib sendsEmail).Reaches c' c'' ∧ ¬ AckedRecorded c'' := by
  constructor
  · intro c h t ht d hd htracked
    exact pastRecorded_of_roomyRun rfl h t ht d (BackendTask.past_of_acknowledged hd) htracked
  · intro c c' m _ hroom hnext
    obtain ⟨i, a, t, s', t', hroom, hacts, rfl⟩ := System.next_of_not_onActs hroom hnext
    obtain ⟨d, id, ok, rfl, rfl, htracked, hmissing, hroom⟩ := findsRoom_cases hroom
    obtain ⟨rfl, rfl⟩ := Prod.mk.inj (Option.some.inj hacts.step)
    obtain ⟨c'', hreach, hstore, hmem⟩ :=
      reaches_acknowledged env lib sendsEmail (c := ⟨_, _⟩) hacts.at_index_after
    refine ⟨c'', hreach, fun hacked => hmissing ?_⟩
    -- the statement has left the rows as they were
    have hrecorded := hacked _ hmem d rfl htracked
    rwa [hstore, Backend.insertDeposit_of_no_room hroom] at hrecorded

namespace Sample

/-- User 1 and a wallet, and the session of the engine's own sample. -/
def depositStart : Config Backend BackendTask :=
  backendStart Engine.Sample.database oneUser [walletOf 1]

def depositSystem : System Backend BackendTask BackendAct :=
  backend Engine.Sample.directEnv crates true

/-- A transfer to the wallet of user 1. -/
def transfer (fromAddress txHash : String) : DepositEvent where
  chain := "bsc"
  blockNumber := 1
  txHash := txHash
  logIndex := 0
  tokenAddress := target
  fromAddress := fromAddress
  toAddress := "0x5555555555555555555555555555555555555555"
  amount := "500"
  walletId := "1"
  userId := "1"

/-- The delivery of a message up to its acknowledgement, where only the `INSERT` may
fail. -/
def delivers (i : ℕ) (d : DepositEvent) (ok : Bool) : List (Move BackendTask BackendAct) :=
  .spawn (.deposit (.receive (some d))) ::
    [.proceed, .query true, .insert i ok, .query true, .query true, .proceed, .proceed].map
      fun a => .act i (.deposit a)

def acknowledges (c : Config Backend BackendTask) : Bool :=
  c.tasks.any (·.acknowledged.isSome)

end Sample

/-- A deposit is recorded and acknowledged, and its message comes again. -/
theorem ackedRecorded_of_roomyRun_sample :
    ∃ c : Config Backend BackendTask, Sample.acknowledges c = true ∧ AckedRecorded c := by
  obtain ⟨c, hrun, hacked⟩ := System.exists_of_runIf Sample.depositSystem
    (System.onActs (FindsRoom Sample.crates)) Sample.depositStart
    (Sample.delivers 0 (Sample.transfer "0x7" "0xd") true ++
      Sample.delivers 1 (Sample.transfer "0x7" "0xd") false)
    Sample.acknowledges (by decide +kernel)
  exact ⟨c, hacked, (ackedRecorded_of_roomyRun Engine.Sample.directEnv Sample.crates true
    Engine.Sample.database _ _).1 c hrun⟩

/-- The `INSERT` fails, and the message is acknowledged all the same. -/
theorem acknowledged_without_row :
    ¬ ∀ c, Sample.depositSystem.Reaches Sample.depositStart c → AckedRecorded c := by
  intro h
  obtain ⟨c, hreach, hlost⟩ := System.exists_of_run Sample.depositSystem Sample.depositStart
    (Sample.delivers 0 (Sample.transfer "0x7" "0xd") false)
    (fun c => !decide (AckedRecorded c)) (by decide +kernel)
  simp [h c hreach] at hlost

end Liquifier.Gateway
