import Liquifier.Engine.Completion
import Liquifier.Gateway.Sessions

/-!
The status of a session.

Three writers set it: the gateway and the session service for an administrator,
and the engine when a session is sold out. None of them looks at the status that the
session has, so that a cancelled or completed session may be changed again. A delivery
reads the status once, for all sessions of its list, and sells into each of them
by what it has read.
-/

namespace Liquifier

/-- The status of a session, if there is one. -/
def Database.sessionStatus (db : Database) (id : Uuid) : Option SessionStatus :=
  (Table.get (·.id) db.sessions id).map (·.status)

namespace Database

variable (db : Database)

theorem sessionStatus_of_mem {r : SessionRow} (hr : r ∈ db.sessions) :
    db.sessionStatus r.id = some r.status := by
  rw [sessionStatus, Table.get_of_mem db.session_ids hr]
  rfl

theorem sessionStatus_congr {db' : Database} (h : db'.sessions = db.sessions) (id : Uuid) :
    db'.sessionStatus id = db.sessionStatus id := by
  rw [sessionStatus, h, sessionStatus]

theorem sessionStatus_setSessionStatus (key : Uuid) (status : SessionStatus) (id : Uuid) :
    (db.setSessionStatus key status).sessionStatus id =
      if id = key then (db.sessionStatus id).map fun _ => status else db.sessionStatus id := by
  rw [sessionStatus, sessions_setSessionStatus, Table.get_update fun r => by rfl, sessionStatus]
  cases Table.get (·.id) db.sessions id with
  | none => simp
  | some r => by_cases h : id = key <;> simp [h]

theorem sessionStatus_addAmountSold (key : Uuid) (amount : ℕ) (id : Uuid) :
    (db.addAmountSold key amount).sessionStatus id = db.sessionStatus id := by
  rw [sessionStatus, sessions_addAmountSold, Table.get_update fun r => by rfl, sessionStatus]
  cases Table.get (·.id) db.sessions id with
  | none => rfl
  | some r => by_cases h : id = key <;> simp [h]

end Database

namespace Engine

open TaskSystem TaskSystem.System

variable {env : Environment}

/-! ### The writes -/

/-- The session and the status that a step writes. -/
def Task.writesStatus : Task → Act → Option (Uuid × SessionStatus)
  | .request sessionId status false, .settle (.statement true) => some (sessionId, status)
  | .delivery ⟨_, _, .complete sent⟩, .settle (.statement true) => some (sent.session.id, .completed)
  | _, _ => none

/-- The status of the session `id` after a step. -/
def afterWrite (id : Uuid) (status : Option SessionStatus) :
    Option (Uuid × SessionStatus) → Option SessionStatus
  | some write => if id = write.1 then status.map fun _ => write.2 else status
  | none => status

theorem DeliveryMove.sessionStatus {w w' : World} {d d' : Delivery} {a : Act}
    (h : DeliveryMove env w d a w' d') (id : Uuid) :
    w'.db.sessionStatus id =
      afterWrite id (w.db.sessionStatus id) (Task.writesStatus (.delivery d) a) := by
  cases h with
  | @stopped event rest phase =>
      cases phase with
      | _ => rfl
  | recorded h =>
      cases h with
      | inserted _ _ hsessions => exact Database.sessionStatus_congr _ hsessions id
      | updated => exact Database.sessionStatus_addAmountSold _ _ _ id
      | _ => rfl
  | finalized h => exact Database.sessionStatus_congr _ h.frame.1 id
  | completed => exact Database.sessionStatus_setSessionStatus _ _ _ id
  | _ => rfl

theorem TaskMove.sessionStatus {w w' : World} {t t' : Task} {a : Act}
    (h : TaskMove env w t a w' t') (id : Uuid) :
    w'.db.sessionStatus id = afterWrite id (w.db.sessionStatus id) (t.writesStatus a) := by
  cases h with
  | delivery h => exact h.sessionStatus id
  | pass h => exact Database.sessionStatus_congr _ h.frame.1 id
  | request => exact Database.sessionStatus_setSessionStatus _ _ _ id
  | _ => rfl

/-! ### Final statuses -/

/-- A session that is completed or cancelled has come to its end. -/
def isFinal (status : SessionStatus) : Bool := status = .completed || status = .cancelled

/-- The step writes no other status over a final one. -/
def KeepsFinal (c : Config World Task) (t : Task) (a : Act) : Prop :=
  ∀ write ∈ t.writesStatus a, ∀ status ∈ c.store.db.sessionStatus write.1,
    isFinal status = true → write.2 = status

instance (c : Config World Task) (t : Task) (a : Act) : Decidable (KeepsFinal c t a) :=
  inferInstanceAs (Decidable (∀ write ∈ t.writesStatus a, ∀ status ∈ _, _ → _))

/-- A step keeps the final statuses if and only if it writes over none of them. -/
theorem keepsFinal_iff {c : Config World Task} {i : ℕ} {a : Act} {t t' : Task} {w' : World}
    (h : (engine env).Acts c i a t w' t') :
    KeepsFinal c t a ↔ ∀ id status, c.store.db.sessionStatus id = some status →
      isFinal status = true → w'.db.sessionStatus id = some status := by
  have hmove := (engine_move h).sessionStatus
  constructor
  · intro hkeeps id status hstatus hfinal
    rw [hmove, hstatus]
    cases hwrite : t.writesStatus a with
    | none => rfl
    | some write =>
        rw [afterWrite]
        split
        · rename_i hid
          subst hid
          rw [Option.map_some, hkeeps write hwrite status hstatus hfinal]
        · rfl
  · intro hstays write hwrite status hstatus hfinal
    have hafter := hstays write.1 status hstatus hfinal
    rw [hmove, hstatus, hwrite, afterWrite, if_pos rfl, Option.map_some] at hafter
    exact Option.some.inj hafter

/-- On every run from any state, a session that is completed or cancelled keeps this
status, if no step writes another status over it. -/
theorem finalStatus_stays {c c' : Config World Task}
    (h : (engine env).Run (onActs KeepsFinal) c c') {id : Uuid} {status : SessionStatus}
    (hstatus : c.store.db.sessionStatus id = some status) (hfinal : isFinal status = true) :
    c'.store.db.sessionStatus id = some status := by
  refine h.store_invariant (I := fun w => w.db.sessionStatus id = some status) hstatus ?_
  intro c i a t w' t' _ hstatus hkeeps hacts
  exact (keepsFinal_iff hacts).mp (onActs_acts hkeeps hacts) id status hstatus hfinal

/-! ### The status at the submission -/

/-- The sale that a delivery is about to submit. -/
def Phase.unsent : Phase → Option Sale
  | .submit sale => some sale
  | _ => none

/-- The delivery has read the session as active, and has not done with it. -/
def Delivery.holds (id : Uuid) (d : Delivery) : Bool :=
  !d.phase.isDone && (d.phase.unsent.any (·.session.id = id) || d.rest.any (·.id = id))

def Task.unsent : Task → Option Sale
  | .delivery d => d.phase.unsent
  | _ => none

def Task.holds (id : Uuid) : Task → Bool
  | .delivery d => d.holds id
  | _ => false

/-- The step takes no session out of `active` that a delivery holds. -/
def WritesUnheld (c : Config World Task) (t : Task) (a : Act) : Prop :=
  ∀ write ∈ t.writesStatus a, write.2 ≠ .active → ∀ u ∈ c.tasks, u.holds write.1 = false

instance (c : Config World Task) (t : Task) (a : Act) : Decidable (WritesUnheld c t a) :=
  inferInstanceAs (Decidable (∀ write ∈ t.writesStatus a, _ → ∀ u ∈ c.tasks, _))

/-- The swap that a delivery is about to submit sells for an active session. -/
def SubmitsActive (c : Config World Task) : Prop :=
  ∀ t ∈ c.tasks, ∀ sale ∈ t.unsent, c.store.db.sessionStatus sale.session.id = some .active

instance (c : Config World Task) : Decidable (SubmitsActive c) :=
  inferInstanceAs (Decidable (∀ t ∈ c.tasks, ∀ sale ∈ t.unsent, _))

theorem sessionStatus_of_answer {db : Database} {chain poolAddress : String}
    {answer : List SessionInfo}
    (h : db.answersActiveSessions chain poolAddress answer = true) {s : SessionInfo}
    (hs : s ∈ answer) : db.sessionStatus s.id = some .active := by
  rw [Database.answersActiveSessions, Bool.and_eq_true, List.isPerm_iff] at h
  have hrow : s.toSessionRow ∈ db.activeSessions chain poolAddress :=
    h.1.subset (List.mem_map_of_mem hs)
  obtain ⟨hmem, hfilter⟩ := List.mem_filter.mp hrow
  simp only [Bool.and_eq_true, decide_eq_true_eq] at hfilter
  rw [← hfilter.1.2]
  exact db.sessionStatus_of_mem hmem

@[simp] theorem Sent.unsent_afterFinalize (sent : Sent) (tradeId : Uuid) (phase : FinalizePhase) :
    (sent.afterFinalize tradeId phase).unsent = none :=
  sent.afterFinalize_rule tradeId phase (fun _ => rfl) (fun _ => rfl) fun _ => rfl

@[simp] theorem Sent.unsent_afterRecord (sent : Sent) (phase : RecordPhase) :
    (sent.afterRecord phase).unsent = none :=
  sent.afterRecord_rule phase (fun _ => rfl) rfl rfl sent.unsent_afterFinalize

theorem Delivery.holds_iff {id : Uuid} {d : Delivery} :
    d.holds id = true ↔ d.phase.isDone = false ∧
      ((∃ sale, d.phase.unsent = some sale ∧ sale.session.id = id) ∨ ∃ s ∈ d.rest, s.id = id) := by
  simp [Delivery.holds, Option.any_eq_true]

/-- A delivery that has no sale to submit holds the sessions of its list only. -/
theorem Delivery.holds_of_unsent {id : Uuid} {event : DexSwapEvent} {rest : List SessionInfo}
    {phase phase' : Phase} (hd : (Delivery.mk event rest phase').holds id = true)
    (hphase' : phase'.unsent = none) (hphase : phase.isDone = false) :
    (Delivery.mk event rest phase).holds id = true := by
  obtain ⟨-, ⟨sale, hsale, -⟩ | hrest⟩ := holds_iff.mp hd
  · rw [hphase'] at hsale
    cases hsale
  · exact holds_iff.mpr ⟨hphase, .inr hrest⟩

/-- A delivery comes to hold a session only by reading it as active. -/
theorem DeliveryMove.holds {w w' : World} {d d' : Delivery} {a : Act}
    (h : DeliveryMove env w d a w' d') {id : Uuid} (hd : d'.holds id = true) :
    d.holds id = true ∨
      w.db.sessionStatus id = some .active ∧ Task.writesStatus (.delivery d) a = none := by
  cases h with
  | stopped | queryError | finished | markError => cases hd
  | queried hanswer =>
      obtain ⟨-, ⟨sale, hsale, -⟩ | ⟨s, hs, rfl⟩⟩ := Delivery.holds_iff.mp hd
      · cases hsale
      · exact .inr ⟨sessionStatus_of_answer hanswer hs, rfl⟩
  | skipped =>
      obtain ⟨-, ⟨sale, hsale, -⟩ | ⟨s, hs, hid⟩⟩ := Delivery.holds_iff.mp hd
      · cases hsale
      · exact .inl (Delivery.holds_iff.mpr ⟨rfl, .inr ⟨s, List.mem_cons_of_mem _ hs, hid⟩⟩)
  | planned =>
      refine .inl (Delivery.holds_iff.mpr ⟨rfl, .inr ?_⟩)
      obtain ⟨-, ⟨sale, hsale, hid⟩ | ⟨s, hs, hid⟩⟩ := Delivery.holds_iff.mp hd
      · obtain rfl := Option.some.inj hsale
        exact ⟨_, List.mem_cons_self, hid⟩
      · exact ⟨s, List.mem_cons_of_mem _ hs, hid⟩
  | recorded | finalized => exact .inl (Delivery.holds_of_unsent hd (by simp) rfl)
  | published =>
      refine .inl (Delivery.holds_of_unsent hd ?_ rfl)
      split <;> rfl
  | _ => exact .inl (Delivery.holds_of_unsent hd rfl rfl)

theorem TaskMove.holds {w w' : World} {t t' : Task} {a : Act} (h : TaskMove env w t a w' t')
    {id : Uuid} (ht : t'.holds id = true) :
    t.holds id = true ∨ w.db.sessionStatus id = some .active ∧ t.writesStatus a = none := by
  cases h with
  | delivery h => exact h.holds ht
  | _ => cases ht

theorem holds_of_unsent {t : Task} {sale : Sale} (h : t.unsent = some sale) :
    t.holds sale.session.id = true := by
  cases t with
  | delivery d =>
      refine Delivery.holds_iff.mpr ⟨?_, .inl ⟨sale, h, rfl⟩⟩
      cases hphase : d.phase with
      | returned | stopped =>
          rw [Task.unsent, hphase] at h
          cases h
      | _ => rfl
  | _ => cases h

theorem phase_of_isNew {d : Delivery} (h : (Task.delivery d).isNew = true) :
    d.rest = [] ∧ d.phase = .query := by
  obtain ⟨event, rest, phase⟩ := d
  cases rest with
  | nil =>
      cases phase with
      | query => exact ⟨rfl, rfl⟩
      | _ => cases h
  | cons s rest => cases h

theorem unsent_of_isNew {t : Task} (h : t.isNew = true) : t.unsent = none := by
  cases t with
  | delivery d => simp [Task.unsent, (phase_of_isNew h).2, Phase.unsent]
  | _ => rfl

theorem holds_of_isNew {t : Task} (h : t.isNew = true) (id : Uuid) : t.holds id = false := by
  cases t with
  | delivery d =>
      obtain ⟨hrest, hphase⟩ := phase_of_isNew h
      simp [Task.holds, Delivery.holds, hrest, hphase, Phase.unsent]
  | _ => rfl

/-- A step leaves the sessions active that a delivery holds. -/
theorem WritesUnheld.active {c : Config World Task} {i : ℕ} {a : Act} {t t' : Task} {w' : World}
    (hg : WritesUnheld c t a) (h : (engine env).Acts c i a t w' t') {u : Task} (hu : u ∈ c.tasks)
    {id : Uuid} (hholds : u.holds id = true)
    (hactive : c.store.db.sessionStatus id = some .active) :
    w'.db.sessionStatus id = some .active := by
  rw [(engine_move h).sessionStatus, hactive]
  cases hwrite : t.writesStatus a with
  | none => rfl
  | some write =>
      rw [afterWrite]
      split
      · rename_i hid
        subst hid
        by_cases hwritten : write.2 = .active
        · rw [Option.map_some, hwritten]
        · rw [hg write hwrite hwritten u hu] at hholds
          cases hholds
      · rfl

/-- On every run, a delivery submits a swap for active sessions only, if no step takes
a session out of `active` that a delivery holds. -/
theorem submitsActive_of_writesUnheld {w₀ : World} {c : Config World Task}
    (h : (engine env).Run (onActs WritesUnheld) ⟨w₀, []⟩ c) : SubmitsActive c := by
  -- a delivery comes to hold a session by a query that reads it as active, and no write
  -- takes the session out of `active` from then on
  have hheld : ∀ t ∈ c.tasks, ∀ id, t.holds id = true →
      c.store.db.sessionStatus id = some .active := by
    refine h.assertions (J := fun w t => ∀ id, t.holds id = true →
      w.db.sessionStatus id = some .active) ?_ ?_ ?_ ?_
    · intro t ht
      cases ht
    · intro c t _ _ hnew id hholds
      rw [holds_of_isNew hnew] at hholds
      cases hholds
    · intro c i a t w' t' _ hJ hg hacts id hholds
      rcases (engine_move hacts).holds hholds with hholds | ⟨hactive, hwrite⟩
      · exact (onActs_acts hg hacts).active hacts hacts.mem hholds (hJ t hacts.mem id hholds)
      · rw [(engine_move hacts).sessionStatus, hwrite]
        exact hactive
    · intro c i a t w' t' _ hJ hg hacts u hu id hholds
      exact (onActs_acts hg hacts).active hacts hu hholds (hJ u hu id hholds)
  intro t ht sale hsale
  exact hheld t ht _ (holds_of_unsent hsale)

/-! ### Requests through the gateway -/

/-- The status requests that arrive are those of administrators, passed on by the
gateway and the session service. -/
def Requested (lib : SessionApi.Library) (c : Config World Task) : Move Task Act → Prop
  | .spawn (.request sessionId status _) =>
      ∃ user sessionText statusText ans req,
        Gateway.updateSessionStatus lib user sessionText statusText c.store.db.sessions ans =
            .ok req ∧
          SessionApi.updateSessionStatus lib req = .ok (sessionId, status)
  | _ => True

variable (env) in
/-- A request that passes the checks is carried out. -/
theorem exists_request {lib : SessionApi.Library} {c : Config World Task} {id : Uuid}
    {status : SessionStatus} (h : Requested lib c (.spawn (.request id status false))) :
    ∃ c', (engine env).Run (Requested lib) c c' ∧
      c'.store.db = c.store.db.setSessionStatus id status ∧ ∀ t ∈ c.tasks, t ∈ c'.tasks := by
  let task : Task := .request id status false
  have hspawn : (engine env).next c (.spawn task) = some ⟨c.store, c.tasks ++ [task]⟩ := rfl
  have hacts : (engine env).Acts ⟨c.store, c.tasks ++ [task]⟩ c.tasks.length
      (.settle (.statement true)) task { c.store with db := c.store.db.setSessionStatus id status }
      (.request id status true) := ⟨by simp, rfl⟩
  have hact : Requested lib ⟨c.store, c.tasks ++ [task]⟩
      (.act c.tasks.length (.settle (.statement true))) := trivial
  refine ⟨_, (Run.refl.step h hspawn).step hact (next_act hacts), rfl, fun t ht => ?_⟩
  show t ∈ (c.tasks ++ [task]).set c.tasks.length _
  rw [List.set_append_right _ _ (Nat.le_refl _)]
  exact List.mem_append_left _ ht

namespace Sample

/-- A service that reads the text of an id as its length. -/
def statusLib : SessionApi.Library where
  jsonFromStr _ := none
  jsonToString _ := ""
  uuidFromStr s := some s.length
  uuidToString id := String.ofList (List.replicate id '1')
  numericFromStr _ := none

def administrator : Gateway.AuthUser := ⟨7, "admin"⟩

theorem requested {c : Config World Task} (hid : 1 ∈ c.store.db.sessions.map (·.id)) {text : String}
    {status : SessionStatus} (htext : text = "active" ∨ text = "paused" ∨ text = "cancelled")
    (hstatus : SessionApi.sessionStatusFromStr text = some status) :
    Requested statusLib c (.spawn (.request 1 status false)) := by
  obtain ⟨r, hr, hid⟩ := List.mem_map.mp hid
  refine ⟨administrator, "1", text, ⟨true, true, true⟩, ⟨"1", text⟩, ?_, ?_⟩
  · simp only [Gateway.updateSessionStatus, Gateway.ensureSessionAccess, bind_eq_ok, ensure_eq_ok,
      okOr_eq_ok]
    exact ⟨(), rfl, (), by simpa [or_assoc] using htext, (), ⟨1, rfl, (), trivial,
      List.any_eq_true.mpr ⟨r, hr, by simp [hid, administrator]⟩⟩, (), by simp, (), trivial, rfl⟩
  · simp only [SessionApi.updateSessionStatus, bind_eq_ok, okOr_eq_ok]
    exact ⟨1, rfl, status, hstatus, rfl⟩

/-- An active session, and one that is cancelled. -/
def twoSessions : Database :=
  { database with
    sessions := [row 1, { row 2 with status := .cancelled }]
    session_ids := by decide
    trade_sessions := by simp [database] }

/-- A delivery that has planned its sell. -/
def planned : List (Move Task Act) := (sell 0 "0xa1" "0xb1" (session 1)).take 3

end Sample

/-- One session is sold out, paused by a request and completed by the engine, and the other
stays cancelled. -/
theorem finalStatus_stays_sample :
    ∃ c : Config World Task, c.store.db.sessionStatus 1 = some .completed ∧
      c.store.db.sessionStatus 2 = some .cancelled := by
  obtain ⟨c, hrun, hc⟩ := exists_of_runIf (engine Sample.directEnv) (onActs KeepsFinal)
    ⟨boot Sample.twoSessions, []⟩
    (Sample.twoSells (.success none) ++ [.spawn (.request 1 .paused false),
      .act 2 (.settle (.statement true))] ++ Sample.close 1)
    (fun c => c.store.db.sessionStatus 1 = some .completed) (by decide +kernel)
  exact ⟨c, of_decide_eq_true hc, finalStatus_stays hrun (by decide +kernel) rfl⟩

/-- A session is cancelled, and then activated again. -/
theorem cancelled_then_active :
    ¬ ∀ (lib : SessionApi.Library) (env : Environment) (db : Database) (c c' : Config World Task),
      (engine env).Run (Requested lib) ⟨boot db, []⟩ c → (engine env).Run (Requested lib) c c' →
      ∀ id status, c.store.db.sessionStatus id = some status → isFinal status = true →
        c'.store.db.sessionStatus id = some status := by
  intro h
  have hid : 1 ∈ Sample.database.sessions.map (·.id) := by decide
  obtain ⟨c, hrun, hdb, -⟩ := exists_request Sample.directEnv
    (c := ⟨boot Sample.database, []⟩) (Sample.requested hid (.inr (.inr rfl)) rfl)
  have hid' : 1 ∈ c.store.db.sessions.map (·.id) := by
    rw [hdb]
    exact hid
  obtain ⟨c', hrun', hdb', -⟩ := exists_request Sample.directEnv
    (Sample.requested hid' (.inl rfl) rfl)
  have hstatus := h Sample.statusLib Sample.directEnv Sample.database c c' hrun hrun' 1 .cancelled
    (by rw [hdb]; decide) rfl
  rw [hdb', hdb] at hstatus
  exact absurd hstatus (by decide)

/-- A delivery plans a sell for an active session. -/
theorem submitsActive_of_writesUnheld_sample :
    ∃ c : Config World Task, (∃ t ∈ c.tasks, t.holds 1 = true) ∧ SubmitsActive c := by
  obtain ⟨c, hrun, hc⟩ := exists_of_runIf (engine Sample.directEnv) (onActs WritesUnheld)
    ⟨boot Sample.database, []⟩ Sample.planned (fun c => c.tasks.any (Task.holds 1))
    (by decide +kernel)
  exact ⟨c, List.any_eq_true.mp hc, submitsActive_of_writesUnheld hrun⟩

/-- A session is paused between the plan of a sell and its submission. -/
theorem submits_paused :
    ¬ ∀ (lib : SessionApi.Library) (env : Environment) (db : Database) (c : Config World Task),
      (engine env).Run (Requested lib) ⟨boot db, []⟩ c → SubmitsActive c := by
  intro h
  have hplanned : ((engine Sample.directEnv).run ⟨boot Sample.database, []⟩ Sample.planned).any
      (fun c => (c.tasks.any fun t => t.unsent.any (·.session.id = 1)) &&
        decide (1 ∈ c.store.db.sessions.map (·.id) ∧
          c.store.db.sessionStatus 1 = some .active)) = true := by
    decide +kernel
  obtain ⟨c, hc, hp⟩ := (Option.any_eq_true _ _).mp hplanned
  simp only [Bool.and_eq_true, List.any_eq_true, Option.any_eq_true, decide_eq_true_eq] at hp
  obtain ⟨⟨t, ht, sale, hsale, hsession⟩, hid, hactive⟩ := hp
  have hrun : (engine Sample.directEnv).Run (Requested Sample.statusLib)
      ⟨boot Sample.database, []⟩ c := by
    refine Run.refl.of_run_forall Sample.planned (fun m hm c => ?_) hc
    simp only [Sample.planned, Sample.sell, List.take_succ_cons, List.take_zero, List.mem_cons,
      List.not_mem_nil, or_false] at hm
    rcases hm with rfl | rfl | rfl <;> trivial
  obtain ⟨c', hrun', hdb, htasks⟩ := exists_request Sample.directEnv
    (Sample.requested hid (.inr (.inl rfl)) rfl)
  have hstatus := h Sample.statusLib Sample.directEnv Sample.database c' (hrun.trans hrun') t
    (htasks t ht) sale hsale
  rw [hdb, hsession, Database.sessionStatus_setSessionStatus, if_pos rfl, hactive] at hstatus
  cases hstatus

end Engine

end Liquifier
