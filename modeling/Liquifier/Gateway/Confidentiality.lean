import Liquifier.Gateway.SessionViews
import Liquifier.Lib.Noninterference
import Liquifier.SessionApi.Handlers

/-!
What the gateway tells of the sessions, over whole runs.

Users and administrators send requests, visitors open public pages, the session service
stores new sessions, and the engine books trades, in any order. What a user without the role
of an administrator is answered depends on what happens to the user's own sessions only, and
what a visitor is shown on what happens to the session of the page: everything else can be
struck out of the run.
-/

namespace Liquifier.Gateway

open SessionApi Noninterference

/-! ### The handlers that set columns of a session -/

section Handlers

variable (cfg : Settings) (lib : Library) (fmt : Formats) (user : AuthUser)

/-- The answer of the session service to an admitted call, and the tables after it. -/
def setSession (admitted : Except StatusCode Unit) (db : Tables)
    (called : Except Status SessionMessage × Tables) : Except StatusCode Json × Tables :=
  match admitted with
  | .error e => (.error e, db)
  | .ok _ => ((called.1.mapError sessionError).map (sessionInfoToJson cfg), called.2)

def admitSharing (sessionId : String) (db : Tables) (env : ViewEnv) : Except StatusCode Unit := do
  checkAccess lib user sessionId db env
  ensure env.sessionConnects .serviceUnavailable

theorem togglePublicSharing_eq_setSession (sessionId : String) (enabled : Bool) (db : Tables)
    (env : ViewEnv) :
    togglePublicSharing cfg lib fmt user sessionId enabled db env =
      setSession cfg (admitSharing lib user sessionId db env) db
        (SessionApi.togglePublicSharing lib fmt db env.toViewAnswers sessionId enabled) := by
  unfold togglePublicSharing admitSharing
  cases checkAccess lib user sessionId db env with
  | error e => rfl
  | ok _ => cases hconnects : env.sessionConnects <;> rfl

def admitConfig (sessionId : String) (db : Tables) (env : ViewEnv) : Except StatusCode Unit := do
  ensure (user.role = "admin") .forbidden
  checkAccess lib user sessionId db env
  ensure env.sessionConnects .serviceUnavailable

def updateSessionConfig (sessionId : String) (config : SessionConfig) (db : Tables)
    (env : ViewEnv) : Except StatusCode Json × Tables :=
  setSession cfg (admitConfig lib user sessionId db env) db
    (SessionApi.updateSessionConfig lib fmt db env.toViewAnswers sessionId config)

/-- `funded` tells whether the wallet of the session has gas, or could be given some. -/
def admitStatus (sessionId status : String) (funded : Bool) (db : Tables) (env : ViewEnv) :
    Except StatusCode Unit :=
  (updateSessionStatus lib user sessionId status (db.sessions.map (·.toSessionRow))
    ⟨env.selects, funded, env.sessionConnects⟩).map fun _ => ()

def setSessionStatus (sessionId status : String) (funded : Bool) (db : Tables) (env : ViewEnv) :
    Except StatusCode Json × Tables :=
  setSession cfg (admitStatus lib user sessionId status funded db env) db
    (SessionApi.setSessionStatus lib fmt db env.toViewAnswers sessionId status)

/-! ### Public pages -/

def getSessionBySlug (slug : String) (db : Tables) (env : ViewEnv) : Except StatusCode Json := do
  ensure env.sessionConnects .serviceUnavailable
  let info ← (SessionApi.getSessionBySlug lib fmt db env.toViewAnswers slug).mapError sessionError
  return sessionInfoToJson cfg info

/-- `FROM trades t INNER JOIN sessions s … WHERE s.public_slug = $1 AND
s.public_sharing_enabled = TRUE`. -/
def publicTrades (slug : String) (db : Tables) : List TradeRecord :=
  db.trades.filter fun t => db.sessions.any fun s =>
    s.id = t.sessionId && (hasSlug slug s && s.publicSharingEnabled)

def getPublicSessionTrades (slug : String) (limit : ℤ) (db : Tables) (env : ViewEnv) :
    Except StatusCode Json := do
  let limit := clampTradesLimit limit
  ensure env.selects .internalServerError
  let trades := publicTrades slug db
  let totalReceived :=
    ((trades.filter (·.status = .confirmed)).map fun t => t.finalReceived.getD 0).sum
  ensure env.selectsTrades .internalServerError
  let rows := (trades.insertionSort fun a b => tradeTime b ≤ tradeTime a).take limit.toNat
  return .object [
    ("trades", .array (rows.map (tradeToJson lib fmt))),
    ("total_received", .string (toString totalReceived))]

/-! ### What happens to the tables -/

inductive Happening where
  | view (user : AuthUser) (env : ViewEnv) (request : ViewRequest)
  | updateSessionConfig (user : AuthUser) (env : ViewEnv) (sessionId : String)
      (config : SessionConfig)
  | updateSessionStatus (user : AuthUser) (env : ViewEnv) (funded : Bool)
      (sessionId status : String)
  | getSessionBySlug (env : ViewEnv) (slug : String)
  | getPublicSessionTrades (env : ViewEnv) (slug : String) (limit : ℤ)
  | statement (st : Statement)

/-- The answer, where there is one, and the tables after it. -/
def happen (db : Tables) : Happening → Option (Except StatusCode Json) × Tables
  | .view user env request =>
      let (answer, db') := view cfg lib fmt user db env request
      (some answer, db')
  | .updateSessionConfig user env sessionId config =>
      let (answer, db') := updateSessionConfig cfg lib fmt user sessionId config db env
      (some answer, db')
  | .updateSessionStatus user env funded sessionId status =>
      let (answer, db') := setSessionStatus cfg lib fmt user sessionId status funded db env
      (some answer, db')
  | .getSessionBySlug env slug => (some (getSessionBySlug cfg lib fmt slug db env), db)
  | .getPublicSessionTrades env slug limit =>
      (some (getPublicSessionTrades lib fmt slug limit db env), db)
  | .statement st => (none, db.execute st)

/-- The keys that are given to a new session are new. -/
def Happening.Fresh (db : Tables) : Happening → Prop
  | .statement st => st.Fresh db
  | _ => True

instance (db : Tables) (a : Happening) : Decidable (a.Fresh db) :=
  match a with
  | .statement st => inferInstanceAs (Decidable (st.Fresh db))
  | .view _ _ _ | .updateSessionConfig _ _ _ _ | .updateSessionStatus _ _ _ _ _
  | .getSessionBySlug _ _ | .getPublicSessionTrades _ _ _ => isTrue trivial

/-- One of the sessions that are looked at is written, if any is. -/
def Happening.touches (p : SessionRecord → Bool) (db : Tables) : Happening → Bool
  | .view _ _ (.togglePublicSharing sessionId _) => (lib.uuidFromStr sessionId).any (has p db)
  | .updateSessionConfig _ _ sessionId _ => (lib.uuidFromStr sessionId).any (has p db)
  | .updateSessionStatus _ _ _ sessionId _ => (lib.uuidFromStr sessionId).any (has p db)
  | .statement st => st.touches p db
  | _ => false

/-- The user who sends a request. -/
def Happening.caller : Happening → Option AuthUser
  | .view user _ _ | .updateSessionConfig user _ _ _ | .updateSessionStatus user _ _ _ _ =>
      some user
  | _ => none

/-- The page that is opened. -/
def Happening.page : Happening → Option String
  | .getSessionBySlug _ slug | .getPublicSessionTrades _ slug _ => some slug
  | _ => none

def isOf (u : Uuid) (row : SessionRecord) : Bool := row.userId = u

/-- A user, in requests without the role of an administrator. -/
def asUser (u : Uuid) : Observer Tables Happening where
  asks a := a.caller.any fun user => user.userId = u && user.role ≠ "admin"
  concerns db a := (a.caller.any fun user => user.userId = u && user.role ≠ "admin") ||
    a.touches lib (isOf u) db

/-- A visitor of a public page. -/
def asVisitor (slug : String) : Observer Tables Happening where
  asks a := a.page = some slug
  concerns db a := a.page = some slug || a.touches lib (hasSlug slug) db

end Handlers

variable {cfg : Settings} {lib : Library} {fmt : Formats} {user : AuthUser}
  {p : SessionRecord → Bool} {s t : Tables} {env : ViewEnv} {sessionId : String} {id : Uuid}

/-! ### The check of a session -/

theorem chosen_of_has (hown : has p s id = true) {row : SessionRecord} (hrow : row ∈ s.sessions)
    (hid : row.id = id) : p row = true := by
  obtain ⟨own, hmem, hp, hown⟩ := has_eq_true.mp hown
  rwa [List.inj_on_of_nodup_map s.session_ids hrow hmem (hid.trans hown.symm)]

/-- The user may have access to the row. -/
def admits (user : AuthUser) (id : Uuid) (row : SessionRecord) : Bool :=
  row.id = id && (user.role = "admin" || row.userId = user.userId)

theorem checkAccess_of_id (hid : lib.uuidFromStr sessionId = some id) (db : Tables) :
    checkAccess lib user sessionId db env =
      (ensure env.selects .internalServerError).bind fun _ =>
        ensure (db.sessions.any (admits user id)) .notFound := by
  have hany : (db.sessions.map (·.toSessionRow)).any (fun r =>
      r.id = id && (user.role = "admin" || r.userId = user.userId)) =
        db.sessions.any (admits user id) := List.any_map
  unfold checkAccess ensureSessionAccess
  rw [hid]
  change (ensure env.selects _).bind (fun _ => ensure (List.any _ _) _) = _
  rw [hany]

theorem any_admits_of_has (hown : has p s id = true) :
    s.sessions.any (admits user id) = (chosen p s).any (admits user id) := by
  rw [chosen, List.any_filter, Bool.eq_iff_iff, List.any_eq_true, List.any_eq_true]
  refine exists_congr fun row => and_congr_right fun hrow => ?_
  constructor
  · intro hadmits
    have hid : row.id = id := by
      rw [admits, Bool.and_eq_true, decide_eq_true_eq] at hadmits
      exact hadmits.1
    rw [Bool.and_eq_true]
    exact ⟨chosen_of_has hown hrow hid, hadmits⟩
  · intro hadmits
    rw [Bool.and_eq_true] at hadmits
    exact hadmits.2

/-- Whoever asks for a session that is looked at is answered from its row. -/
theorem checkAccess_of_has (h : SameOf p s t) (hid : lib.uuidFromStr sessionId = some id)
    (hown : has p s id = true) :
    checkAccess lib user sessionId s env = checkAccess lib user sessionId t env := by
  have hown' : has p t id = true := h.has_eq ▸ hown
  rw [checkAccess_of_id hid, checkAccess_of_id hid, any_admits_of_has hown,
    any_admits_of_has hown', h.sessions]

/-- An answer that depends on the tables by the check alone. -/
def ByAccess (lib : Library) (user : AuthUser) (env : ViewEnv) (sessionId : String)
    (check : Tables → Except StatusCode Unit) : Prop :=
  ∀ s t, checkAccess lib user sessionId s env = checkAccess lib user sessionId t env →
    check s = check t

theorem byAccess_sharing :
    ByAccess lib user env sessionId fun db => admitSharing lib user sessionId db env := by
  intro s t h
  simp only [admitSharing, h]

theorem byAccess_config :
    ByAccess lib user env sessionId fun db => admitConfig lib user sessionId db env := by
  intro s t h
  simp only [admitConfig, h]

theorem byAccess_status {status : String} {funded : Bool} :
    ByAccess lib user env sessionId fun db =>
      admitStatus lib user sessionId status funded db env := by
  intro s t h
  unfold checkAccess at h
  simp only [admitStatus, updateSessionStatus, h]

/-! ### What the handlers write -/

/-- The statement of an admitted call. -/
def written (env : ViewEnv) (admitted : Except StatusCode Unit)
    (target : Except Status (Uuid × SessionChange)) : Option Statement :=
  match admitted, target with
  | .ok _, .ok (id, change) => if env.updates then some (.updateSession id change) else none
  | _, _ => none

theorem setSession_tables (admitted : Except StatusCode Unit) (db : Tables)
    (target : Except Status (Uuid × SessionChange)) :
    (setSession cfg admitted db (changeSession lib fmt db env.toViewAnswers target)).2 =
      (written env admitted target).elim db db.execute := by
  unfold setSession changeSession written
  cases admitted with
  | error e => rfl
  | ok _ =>
      cases target with
      | error e => rfl
      | ok target =>
          obtain ⟨id, change⟩ := target
          cases hupdates : env.updates <;> simp [Tables.execute]

theorem written_cases {admitted : Except StatusCode Unit}
    {target : Except Status (Uuid × SessionChange)} (hnames : Names lib sessionId target) :
    written env admitted target = none ∨ ∃ id change, lib.uuidFromStr sessionId = some id ∧
      written env admitted target = some (.updateSession id change) := by
  unfold written
  split
  · rename_i id change
    split
    · exact .inr ⟨id, change, hnames.id rfl, rfl⟩
    · exact .inl rfl
  · exact .inl rfl

section Kept

variable (hp : Kept p) (h : Shadows p s t)
include hp h

/-- A call about a session that is not looked at, on one side. -/
theorem shadows_written_away {admitted : Except StatusCode Unit}
    {target : Except Status (Uuid × SessionChange)} (hnames : Names lib sessionId target)
    (hown : (lib.uuidFromStr sessionId).any (has p s) = false) :
    Shadows p ((written env admitted target).elim s s.execute) t := by
  have hcases : written env admitted target = none ∨ _ := written_cases hnames
  rcases hcases with hnone | ⟨id, change, hid, hsome⟩
  · rw [hnone]
    exact h
  · rw [hid] at hown
    have hst : (Statement.updateSession id change).touches p s = false := hown
    rw [hsome]
    exact h.away hp hst

/-- The statement is sent on both sides, or it is about a session that is not looked at. -/
theorem shadows_written {target : Except Status (Uuid × SessionChange)}
    {check : Tables → Except StatusCode Unit} (hnames : Names lib sessionId target)
    (hcheck : ByAccess lib user env sessionId check) :
    Shadows p ((written env (check s) target).elim s s.execute)
      ((written env (check t) target).elim t t.execute) := by
  cases hown : (lib.uuidFromStr sessionId).any (has p s) with
  | true =>
      obtain ⟨id, hid, hown⟩ := (Option.any_eq_true _ _).mp hown
      rw [hcheck s t (checkAccess_of_has h.same hid hown)]
      rcases written_cases hnames with hnone | ⟨id', change, -, hsome⟩
      · rw [hnone]
        exact h
      · have hfresh : (Statement.updateSession id' change).Fresh s := trivial
        rw [hsome]
        exact h.together hp hfresh
  | false =>
      have hleft : Shadows p ((written env (check s) target).elim s s.execute) t :=
        shadows_written_away hp h hnames hown
      have hcases : written env (check t) target = none ∨ _ := written_cases hnames
      rcases hcases with hnone | ⟨id', change, hid, hsome⟩
      · rw [hnone]
        exact hleft
      · rw [hid] at hown
        have hmissed : has p ((written env (check s) target).elim s s.execute) id' = false := by
          rw [hleft.same.has_eq, ← h.same.has_eq]
          exact hown
        rw [hsome]
        exact hleft.updated hp hmissed change

/-- What happens on both sides. -/
theorem happen_together {a : Happening} (hfresh : a.Fresh s) :
    Shadows p (happen cfg lib fmt s a).2 (happen cfg lib fmt t a).2 := by
  cases a with
  | view user env request =>
      cases request with
      | togglePublicSharing sessionId enabled =>
          simp only [happen, view, togglePublicSharing_eq_setSession,
            SessionApi.togglePublicSharing_eq, setSession_tables]
          exact shadows_written hp h (names_sharingTarget lib _ sessionId enabled) byAccess_sharing
      | _ => exact h
  | updateSessionConfig user env sessionId config =>
      simp only [happen, updateSessionConfig, SessionApi.updateSessionConfig, setSession_tables]
      exact shadows_written hp h (names_configTarget lib _ sessionId config) byAccess_config
  | updateSessionStatus user env funded sessionId status =>
      simp only [happen, setSessionStatus, SessionApi.setSessionStatus, setSession_tables]
      exact shadows_written hp h (names_statusTarget lib sessionId status) byAccess_status
  | statement st => exact h.together hp hfresh
  | _ => exact h

/-- What happens on one side only, to other sessions. -/
theorem happen_away {a : Happening} (ha : a.touches lib p s = false) :
    Shadows p (happen cfg lib fmt s a).2 t := by
  cases a with
  | view user env request =>
      cases request with
      | togglePublicSharing sessionId enabled =>
          simp only [happen, view, togglePublicSharing_eq_setSession,
            SessionApi.togglePublicSharing_eq, setSession_tables]
          exact shadows_written_away hp h (names_sharingTarget lib _ sessionId enabled) ha
      | _ => exact h
  | updateSessionConfig user env sessionId config =>
      simp only [happen, updateSessionConfig, SessionApi.updateSessionConfig, setSession_tables]
      exact shadows_written_away hp h (names_configTarget lib _ sessionId config) ha
  | updateSessionStatus user env funded sessionId status =>
      simp only [happen, setSessionStatus, SessionApi.setSessionStatus, setSession_tables]
      exact shadows_written_away hp h (names_statusTarget lib sessionId status) ha
  | statement st => exact h.away hp ha
  | _ => exact h

end Kept

/-! ### What is answered -/

theorem kept_isOf (u : Uuid) : Kept (isOf u) := fun change row => by rw [isOf, change.userId, isOf]

theorem kept_hasSlug (slug : String) : Kept (hasSlug slug) := fun change row => by
  rw [hasSlug, change.publicSlug, hasSlug]

theorem sameOwn_of_sameOf {u : Uuid} (h : SameOf (isOf u) s t) : SameOwn u s t :=
  ⟨h.sessions, h.pools, h.trades⟩

theorem view_answer (hx : Exact lib) (hempty : lib.uuidFromStr "" = none)
    (hrole : user.role ≠ "admin") (h : SameOwn user.userId s t) (request : ViewRequest) :
    (view cfg lib fmt user s env request).1 = (view cfg lib fmt user t env request).1 := by
  cases request with
  | listSessions => exact listSessions_congr hrole h hx hempty
  | getSession sessionId => exact getSession_congr hrole h sessionId
  | getSessionTrades sessionId limit => exact getSessionTrades_congr hrole h sessionId limit
  | togglePublicSharing sessionId enabled =>
      exact (togglePublicSharing_congr hrole h sessionId enabled).1

theorem setSession_error (e : StatusCode) (db : Tables)
    (called : Except Status SessionMessage × Tables) :
    setSession cfg (.error e) db called = (.error e, db) := rfl

/-- The two other handlers are for administrators only. -/
theorem admit_forbidden (hrole : user.role ≠ "admin") (db : Tables) :
    admitConfig lib user sessionId db env = .error .forbidden ∧
      ∀ status funded, admitStatus lib user sessionId status funded db env = .error .forbidden := by
  have hforbidden : ensure (decide (user.role = "admin")) StatusCode.forbidden =
      .error .forbidden := by
    rw [decide_eq_false hrole]
    rfl
  refine ⟨?_, fun status funded => ?_⟩
  · rw [admitConfig, hforbidden]
    rfl
  · rw [admitStatus, updateSessionStatus, hforbidden]
    rfl

theorem unwinding_user (cfg : Settings) (fmt : Formats) (hx : Exact lib)
    (hempty : lib.uuidFromStr "" = none) (u : Uuid) :
    Unwinding (happen cfg lib fmt) (asUser lib u) (fun db a => a.Fresh db)
      (Shadows (isOf u)) where
  own db a ha := by
    simp only [asUser] at ha ⊢
    rw [ha, Bool.true_or]
  away h _ ha := happen_away (kept_isOf u) h (Bool.or_eq_false_iff.mp ha).2
  together h hfresh _ := happen_together (kept_isOf u) h hfresh
  answer {s t a} h _ ha := by
    obtain ⟨user, hcaller, hu⟩ := (Option.any_eq_true _ _).mp ha
    rw [Bool.and_eq_true, decide_eq_true_eq, decide_eq_true_eq] at hu
    obtain ⟨rfl, hrole⟩ := hu
    cases a with
    | view user env request =>
        cases hcaller
        exact congrArg some
          (view_answer hx hempty hrole (sameOwn_of_sameOf h.same) request)
    | updateSessionConfig user env sessionId config =>
        cases hcaller
        simp only [happen, updateSessionConfig, (admit_forbidden hrole _).1, setSession_error]
    | updateSessionStatus user env funded sessionId status =>
        cases hcaller
        simp only [happen, setSessionStatus, (admit_forbidden hrole _).2, setSession_error]
    | _ => cases hcaller

theorem publicTrades_eq (slug : String) (h : SameOf (hasSlug slug) s t) :
    publicTrades slug s = publicTrades slug t := by
  have hown (db : Tables) : publicTrades slug db =
      (db.trades.filter fun x => has (hasSlug slug) db x.sessionId).filter fun x =>
        (chosen (hasSlug slug) db).any fun row =>
          row.id = x.sessionId && row.publicSharingEnabled := by
    rw [publicTrades, List.filter_filter]
    refine List.filter_congr fun x _ => ?_
    rw [Bool.eq_iff_iff]
    simp only [chosen, has, List.any_eq_true, List.mem_filter, Bool.and_eq_true, decide_eq_true_eq]
    constructor
    · rintro ⟨row, hrow, hid, hslug, hshared⟩
      exact ⟨⟨row, ⟨hrow, hslug⟩, hid, hshared⟩, row, ⟨hrow, hslug⟩, hid⟩
    · rintro ⟨⟨row, ⟨hrow, hslug⟩, hid, hshared⟩, -⟩
      exact ⟨row, hrow, hid, hslug, hshared⟩
  rw [hown, hown, h.trades, h.sessions]

theorem unwinding_visitor (cfg : Settings) (fmt : Formats) (hx : Exact lib) (slug : String) :
    Unwinding (happen cfg lib fmt) (asVisitor lib slug) (fun db a => a.Fresh db)
      (Shadows (hasSlug slug)) where
  own db a ha := by
    simp only [asVisitor] at ha ⊢
    rw [ha, Bool.true_or]
  away h _ ha := happen_away (kept_hasSlug slug) h (Bool.or_eq_false_iff.mp ha).2
  together h hfresh _ := happen_together (kept_hasSlug slug) h hfresh
  answer {s t a} h _ ha := by
    have hpage : a.page = some slug := of_decide_eq_true ha
    cases a with
    | getSessionBySlug env slug' =>
        cases hpage
        simp only [happen, getSessionBySlug, h.same.getSessionBySlug_eq hx.uuid]
    | getPublicSessionTrades env slug' limit =>
        cases hpage
        simp only [happen, getPublicSessionTrades, publicTrades_eq slug h.same]
    | _ => cases hpage

/-! ### Whole runs -/

section Runs

variable (cfg : Settings) (fmt : Formats) {db : Tables} {happenings : List Happening}

/-- In every run of requests, visits and statements, with new keys for the new sessions, a
user who asks without the role of an administrator gets the answers that the run gives
without all that other users, visitors, administrators and services do to other sessions,
and finds the own sessions, pools and trades as that run leaves them. -/
theorem user_cannot_tell (hx : Exact lib) (hempty : lib.uuidFromStr "" = none) (u : Uuid)
    (hdb : db.Referenced)
    (hfresh : Allowed (happen cfg lib fmt) (fun db a => a.Fresh db) db happenings) :
    let step := happen cfg lib fmt
    let purged := purge step (asUser lib u) db happenings
    Noninterference.answers step (asUser lib u) db happenings =
        Noninterference.answers step (asUser lib u) db purged ∧
      SameOwn u (Noninterference.run step db happenings) (Noninterference.run step db purged) := by
  have h := unwinding_user cfg fmt hx hempty u
  have hstart : Shadows (isOf u) db db := .refl hdb
  exact ⟨h.answers_purge hstart hfresh, sameOwn_of_sameOf (h.run_purge hstart hfresh).same⟩

/-- A visitor of a public page is shown what the run shows without all that is done to the
sessions of other pages. -/
theorem visitor_cannot_tell (hx : Exact lib) (slug : String) (hdb : db.Referenced)
    (hfresh : Allowed (happen cfg lib fmt) (fun db a => a.Fresh db) db happenings) :
    let step := happen cfg lib fmt
    Noninterference.answers step (asVisitor lib slug) db happenings =
      Noninterference.answers step (asVisitor lib slug) db
        (purge step (asVisitor lib slug) db happenings) :=
  (unwinding_visitor cfg fmt hx slug).answers_purge (.refl hdb) hfresh

end Runs

/-! ### A run of two users, an administrator and a visitor -/

namespace Sample

/-- The session that user 2 creates, with its public page. -/
def pageRecord : SessionRecord := { sessionRecord 3 2 with publicSlug := some "page" }

def crowd : List Happening :=
  [.view ⟨1, "common"⟩ viewEnv .listSessions,
    .statement (.insertSession pageRecord), .statement (.insertPool (poolRow 3)),
    .updateSessionConfig ⟨9, "admin"⟩ viewEnv "11" ⟨10, 1, 0, 0⟩,
    .updateSessionStatus ⟨9, "admin"⟩ viewEnv true "1111" "active",
    .statement (.insertTrade (tradeRecord 5 3)), .statement (.updateSession 3 (.sold 10)),
    .getSessionBySlug viewEnv "page", .getPublicSessionTrades viewEnv "page" 50,
    .view ⟨2, "common"⟩ viewEnv (.togglePublicSharing "1111" false),
    .view ⟨2, "common"⟩ viewEnv (.togglePublicSharing "11" false),
    .getSessionBySlug viewEnv "page", .view ⟨1, "common"⟩ viewEnv (.getSession "1111"),
    .view ⟨1, "common"⟩ viewEnv (.getSession "11")]

theorem twoSessions_referenced : twoSessions.Referenced := ⟨by decide, by decide⟩

/-- The inputs of the run that are left over for an observer. -/
def leftOver (ob : Observer Tables Happening) : ℕ :=
  (purge (happen settings library formats) ob twoSessions crowd).length

end Sample

/-- Of the fourteen inputs five concern user 1. -/
theorem user_cannot_tell_sample :
    let step := happen Sample.settings Sample.library Sample.formats
    let user := asUser Sample.library 1
    Sample.leftOver user = 5 ∧
      Noninterference.answers step user Sample.twoSessions Sample.crowd =
        Noninterference.answers step user Sample.twoSessions
          (purge step user Sample.twoSessions Sample.crowd) :=
  ⟨by decide +kernel, (user_cannot_tell Sample.settings Sample.formats Sample.library_exact rfl 1
    Sample.twoSessions_referenced (by decide +kernel)).1⟩

/-- Nine concern a visitor of the page. -/
theorem visitor_cannot_tell_sample :
    let step := happen Sample.settings Sample.library Sample.formats
    let visitor := asVisitor Sample.library "page"
    Sample.leftOver visitor = 9 ∧
      Noninterference.answers step visitor Sample.twoSessions Sample.crowd =
        Noninterference.answers step visitor Sample.twoSessions
          (purge step visitor Sample.twoSessions Sample.crowd) :=
  ⟨by decide +kernel, visitor_cannot_tell Sample.settings Sample.formats Sample.library_exact
    "page" Sample.twoSessions_referenced (by decide +kernel)⟩

end Liquifier.Gateway
