import Liquifier.SessionApi.Writes

/-!
The handlers of the session service that set columns of one session, and the public page.

Each of the three parses its request, updates the session by its id and answers with the
session as it is then. `create_session` and the engine write the same tables by single
statements. What a handler reads of one session can be read off the tables that agree on it.
-/

namespace Liquifier.SessionApi

/-! ### Handlers -/

section Handlers

variable (lib : Library) (fmt : Formats) (db : Tables) (ans : ViewAnswers)

/-- The `UPDATE` of a session, once its request is parsed, and the answer. -/
def changeSession (target : Except Status (Uuid × SessionChange)) :
    Except Status SessionMessage × Tables :=
  match target with
  | .error e => (.error e, db)
  | .ok (sessionId, change) =>
      if ans.updates then
        let db' := db.updateSession sessionId change
        (sessionWithPools lib fmt db' ans sessionId, db')
      else (.error dbError, db)

def parseSessionId (sessionId : String) : Except Status Uuid :=
  okOr (invalidArgument "Invalid session_id") (lib.uuidFromStr sessionId)

def statusTarget (sessionId status : String) : Except Status (Uuid × SessionChange) := do
  let (sessionId, status) ← updateSessionStatus lib ⟨sessionId, status⟩
  return (sessionId, .status status)

def configTarget (sessionId : String) (config : SessionConfig) :
    Except Status (Uuid × SessionChange) := do
  let sessionId ← parseSessionId lib sessionId
  return (sessionId, .config config ans.now)

def sharingTarget (sessionId : String) (enabled : Bool) :
    Except Status (Uuid × SessionChange) := do
  let sessionId ← parseSessionId lib sessionId
  return (sessionId, .share enabled ans.now)

def setSessionStatus (sessionId status : String) : Except Status SessionMessage × Tables :=
  changeSession lib fmt db ans (statusTarget lib sessionId status)

def updateSessionConfig (sessionId : String) (config : SessionConfig) :
    Except Status SessionMessage × Tables :=
  changeSession lib fmt db ans (configTarget lib ans sessionId config)

theorem togglePublicSharing_eq (sessionId : String) (enabled : Bool) :
    togglePublicSharing lib fmt db ans sessionId enabled =
      changeSession lib fmt db ans (sharingTarget lib ans sessionId enabled) := by
  unfold togglePublicSharing sharingTarget parseSessionId
  cases lib.uuidFromStr sessionId <;> rfl

def hasSlug (slug : String) (row : SessionRecord) : Bool := row.publicSlug = some slug

/-- The answer with a row of the public page, whose id is printed and parsed. -/
def sessionPage (row : SessionRecord) : Except Status SessionMessage := do
  let info := rowToSessionInfo lib fmt row
  let sid := (lib.uuidFromStr info.sessionId).getD 0
  ensure (ans.selectsPools sid) dbError
  return { info with pools := fetchSessionPools lib db sid }

/-- `WHERE public_slug = $1 AND public_sharing_enabled = TRUE`. -/
def getSessionBySlug (slug : String) : Except Status SessionMessage := do
  ensure ans.selectsSessions dbError
  let row ← okOr (.notFound "Session not found or sharing disabled")
    (db.sessions.find? fun row => hasSlug slug row && row.publicSharingEnabled)
  sessionPage lib fmt db ans row

end Handlers

/-- The session that a parsed request is about. -/
structure Names (lib : Library) (sessionId : String) (target : Except Status (Uuid × SessionChange)) :
    Prop where
  id : ∀ {id change}, target = .ok (id, change) → lib.uuidFromStr sessionId = some id

section Targets

variable (lib : Library) (ans : ViewAnswers) (sessionId : String)

theorem names_statusTarget (status : String) :
    Names lib sessionId (statusTarget lib sessionId status) := by
  refine ⟨fun h => ?_⟩
  simp only [statusTarget, updateSessionStatus, bind_eq_ok, okOr_eq_ok, pure, Except.pure,
    Except.ok.injEq] at h
  obtain ⟨-, ⟨id, hid, status, -, rfl⟩, heq⟩ := h
  cases heq
  exact hid

theorem names_configTarget (config : SessionConfig) :
    Names lib sessionId (configTarget lib ans sessionId config) := by
  refine ⟨fun h => ?_⟩
  obtain ⟨id, hid, heq⟩ := bind_eq_ok.mp h
  cases heq
  exact okOr_eq_ok.mp hid

theorem names_sharingTarget (enabled : Bool) :
    Names lib sessionId (sharingTarget lib ans sessionId enabled) := by
  refine ⟨fun h => ?_⟩
  obtain ⟨id, hid, heq⟩ := bind_eq_ok.mp h
  cases heq
  exact okOr_eq_ok.mp hid

end Targets

/-! ### What is read of one session -/

section Reads

variable {lib : Library} {fmt : Formats} {p : SessionRecord → Bool} {db₁ db₂ : Tables} {id : Uuid}

theorem SameOf.fetchSessionPools_eq (h : SameOf p db₁ db₂) (hown : has p db₁ id = true) :
    fetchSessionPools lib db₁ id = fetchSessionPools lib db₂ id := by
  have hfilter {db : Tables} (hdb : has p db id = true) :
      (db.pools.filter fun r => has p db r.sessionId).filter (fun r => r.sessionId = id) =
        db.pools.filter fun r => r.sessionId = id := by
    rw [List.filter_filter]
    refine List.filter_congr fun r _ => ?_
    by_cases hr : r.sessionId = id
    · simp [hr, hdb]
    · simp [hr]
  have hpools : db₁.pools.filter (fun r => r.sessionId = id) =
      db₂.pools.filter fun r => r.sessionId = id := by
    rw [← hfilter hown, h.pools]
    exact hfilter (h.has_eq ▸ hown)
  rw [fetchSessionPools, fetchSessionPools, hpools]

theorem SameOf.sessionPage_eq (hx : ∀ id, lib.uuidFromStr (lib.uuidToString id) = some id)
    (h : SameOf p db₁ db₂) (ans : ViewAnswers) {row : SessionRecord}
    (hown : has p db₁ row.id = true) :
    sessionPage lib fmt db₁ ans row = sessionPage lib fmt db₂ ans row := by
  have hsid : (lib.uuidFromStr (rowToSessionInfo lib fmt row).sessionId).getD 0 = row.id := by
    rw [rowToSessionInfo, hx, Option.getD_some]
  rw [sessionPage, sessionPage, hsid, h.fetchSessionPools_eq hown]

/-- The page of a session, whatever the other sessions are. -/
theorem SameOf.getSessionBySlug_eq {slug : String}
    (hx : ∀ id, lib.uuidFromStr (lib.uuidToString id) = some id)
    (h : SameOf (hasSlug slug) db₁ db₂) (ans : ViewAnswers) :
    getSessionBySlug lib fmt db₁ ans slug = getSessionBySlug lib fmt db₂ ans slug := by
  have hfind (db : Tables) :
      db.sessions.find? (fun row => hasSlug slug row && row.publicSharingEnabled) =
        (chosen (hasSlug slug) db).find? (·.publicSharingEnabled) := by
    rw [chosen, List.find?_filter]
    refine congrArg (List.find? · db.sessions) (funext fun row => ?_)
    rw [Bool.decide_and, Bool.decide_eq_true, Bool.decide_eq_true]
  rw [getSessionBySlug, getSessionBySlug, hfind, hfind, h.sessions]
  cases hrow : (chosen (hasSlug slug) db₂).find? (·.publicSharingEnabled) with
  | none => rfl
  | some row =>
      have hmem : row ∈ chosen (hasSlug slug) db₁ := h.sessions ▸ List.mem_of_find?_eq_some hrow
      have hown : has (hasSlug slug) db₁ row.id = true :=
        List.any_eq_true.mpr ⟨row, hmem, decide_eq_true rfl⟩
      have hpage : sessionPage lib fmt db₁ ans row = sessionPage lib fmt db₂ ans row :=
        h.sessionPage_eq hx ans hown
      exact congrArg (_ >>= ·) (funext fun _ => hpage)

end Reads

end Liquifier.SessionApi
