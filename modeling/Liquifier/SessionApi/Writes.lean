import Liquifier.SessionApi.Views

/-!
The statements that write the tables of sessions, their pools and their trades.

The session service inserts sessions and pools and sets columns of a session; the engine
inserts trades, sets columns of a trade, and books what is sold. No statement moves a
session to another user or page, or a trade to another session. So what a statement does to
the sessions of a user, or to the one of a public page, can be read off these sessions
alone, and a statement on any other session does nothing to them.
-/

namespace Liquifier.SessionApi

/-! ### Changes of a row -/

structure SessionConfig where
  povPercent : ℚ
  maxPriceImpact : ℚ
  minBuyTriggerUsd : ℚ
  minMarketCapUsd : ℚ

/-- What a `SET` assigns in a row of `sessions`. -/
structure SessionChange where
  set : SessionRecord → SessionRecord
  id : ∀ row, (set row).id = row.id
  userId : ∀ row, (set row).userId = row.userId
  publicSlug : ∀ row, (set row).publicSlug = row.publicSlug

namespace SessionChange

/-- `status = $1::session_status`. -/
def status (status : SessionStatus) : SessionChange where
  set row := { row with status := status }
  id _ := rfl
  userId _ := rfl
  publicSlug _ := rfl

/-- `status = 'completed', updated_at = NOW()`. -/
def completed (now : ℕ) : SessionChange where
  set row := { row with status := .completed, updatedAt := now }
  id _ := rfl
  userId _ := rfl
  publicSlug _ := rfl

/-- `pov_percent = $1, max_price_impact = $2, min_buy_trigger_usd = $3,
min_market_cap_usd = $4, updated_at = NOW()`. -/
def config (config : SessionConfig) (now : ℕ) : SessionChange where
  set row := { row with
    povPercent := config.povPercent
    maxPriceImpact := config.maxPriceImpact
    minBuyTriggerUsd := config.minBuyTriggerUsd
    minMarketCapUsd := config.minMarketCapUsd
    updatedAt := now }
  id _ := rfl
  userId _ := rfl
  publicSlug _ := rfl

/-- `public_sharing_enabled = $1, updated_at = NOW()`. -/
def share (enabled : Bool) (now : ℕ) : SessionChange where
  set row := row.share enabled now
  id _ := rfl
  userId _ := rfl
  publicSlug _ := rfl

/-- `amount_sold = amount_sold + $1`. -/
def sold (amount : ℕ) : SessionChange where
  set row := { row with amountSold := row.amountSold + amount }
  id _ := rfl
  userId _ := rfl
  publicSlug _ := rfl

end SessionChange

/-- What a `SET` assigns in a row of `trades`. -/
structure TradeChange where
  set : TradeRecord → TradeRecord
  id : ∀ row, (set row).id = row.id
  sessionId : ∀ row, (set row).sessionId = row.sessionId

namespace TradeChange

/-- `status = 'confirmed', failure_reason = NULL`. -/
def confirmed : TradeChange where
  set row := { row with status := .confirmed, failureReason := none }
  id _ := rfl
  sessionId _ := rfl

/-- `status = 'failed', failure_reason = $1 … AND status <> 'confirmed'`. -/
def failed (reason : String) : TradeChange where
  set row :=
    if row.status = .confirmed then row
    else { row with status := .failed, failureReason := some reason }
  id row := by split <;> rfl
  sessionId row := by split <;> rfl

/-- `final_received = $1, final_token = $2`. -/
def received (amount : ℕ) (token : String) : TradeChange where
  set row := { row with finalReceived := some amount, finalToken := some token }
  id _ := rfl
  sessionId _ := rfl

end TradeChange

/-! ### Statements -/

inductive Statement where
  | insertSession (row : SessionRecord)
  | insertPool (row : PoolRow)
  | insertTrade (row : TradeRecord)
  | updateSession (id : Uuid) (change : SessionChange)
  | updateTrade (id : Uuid) (change : TradeChange)

namespace Tables

variable (db : Tables)

/-- The primary key or the slug of the row is in use. -/
def Taken (row : SessionRecord) : Prop :=
  ∃ r ∈ db.sessions, r.id = row.id ∨ (row.publicSlug ≠ none ∧ r.publicSlug = row.publicSlug)

instance (row : SessionRecord) : Decidable (db.Taken row) :=
  inferInstanceAs (Decidable (∃ r ∈ db.sessions, _))

def insertSession (row : SessionRecord) : Tables :=
  if h : db.Taken row then db
  else
    { db with
      sessions := db.sessions ++ [row]
      session_ids := by
        rw [List.map_append]
        refine db.session_ids.append (List.nodup_singleton _) (List.disjoint_singleton.mpr ?_)
        intro hmem
        obtain ⟨r, hr, hid⟩ := List.mem_map.mp hmem
        exact h ⟨r, hr, .inl hid⟩ }

def hasSession (id : Uuid) : Bool := db.sessions.any (·.id = id)

/-- `ON CONFLICT (session_id, pool_address) DO NOTHING`. -/
def insertPool (row : PoolRow) : Tables :=
  if db.hasSession row.sessionId &&
      !db.pools.any (fun p => p.sessionId = row.sessionId && p.poolAddress = row.poolAddress) then
    { db with pools := db.pools ++ [row] }
  else db

/-- `ON CONFLICT (session_id, trigger_tx_hash, trigger_pool, trigger_log_index) DO NOTHING`. -/
def insertTrade (row : TradeRecord) : Tables :=
  if db.hasSession row.sessionId && !db.trades.any (fun t => t.trigger = row.trigger) then
    { db with trades := db.trades ++ [row] }
  else db

def updateSession (id : Uuid) (change : SessionChange) : Tables :=
  { db with
    sessions := Table.update (·.id) db.sessions id change.set
    session_ids := by
      rw [Table.map_update change.id]
      exact db.session_ids }

def updateTrade (id : Uuid) (change : TradeChange) : Tables :=
  { db with trades := Table.update (·.id) db.trades id change.set }

def execute : Statement → Tables
  | .insertSession row => db.insertSession row
  | .insertPool row => db.insertPool row
  | .insertTrade row => db.insertTrade row
  | .updateSession id change => db.updateSession id change
  | .updateTrade id change => db.updateTrade id change

/-- The foreign keys. -/
structure Referenced : Prop where
  pools : ∀ r ∈ db.pools, db.hasSession r.sessionId = true
  trades : ∀ t ∈ db.trades, db.hasSession t.sessionId = true

end Tables

/-! ### Some of the sessions -/

section Chosen

variable (p : SessionRecord → Bool) (db : Tables)

/-- No assignment changes whether a session is one of those that are looked at. -/
def Kept : Prop := ∀ (change : SessionChange) (row : SessionRecord), p (change.set row) = p row

def chosen : List SessionRecord := db.sessions.filter p

def has (id : Uuid) : Bool := (chosen p db).any (·.id = id)

/-- The tables agree on the sessions, their pools and their trades. -/
structure SameOf (db₁ db₂ : Tables) : Prop where
  sessions : chosen p db₁ = chosen p db₂
  pools : (db₁.pools.filter fun r => has p db₁ r.sessionId) =
    db₂.pools.filter fun r => has p db₂ r.sessionId
  trades : (db₁.trades.filter fun t => has p db₁ t.sessionId) =
    db₂.trades.filter fun t => has p db₂ t.sessionId

/-- The statement is about one of the sessions. -/
def Statement.touches : Statement → Bool
  | .insertSession row => p row
  | .insertPool row => has p db row.sessionId
  | .insertTrade row => has p db row.sessionId
  | .updateSession id _ => has p db id
  | .updateTrade id _ => db.trades.any fun t => t.id = id && has p db t.sessionId

end Chosen

variable {p : SessionRecord → Bool} {db db₁ db₂ db₃ : Tables} {id : Uuid}

theorem has_eq_true : has p db id = true ↔ ∃ r ∈ db.sessions, p r = true ∧ r.id = id := by
  simp [has, chosen]

theorem hasSession_of_has (h : has p db id = true) : db.hasSession id = true := by
  obtain ⟨r, hr, -, hid⟩ := has_eq_true.mp h
  exact List.any_eq_true.mpr ⟨r, hr, decide_eq_true hid⟩

namespace SameOf

theorem refl (db : Tables) : SameOf p db db := ⟨rfl, rfl, rfl⟩

theorem trans (h : SameOf p db₁ db₂) (h' : SameOf p db₂ db₃) : SameOf p db₁ db₃ :=
  ⟨h.sessions.trans h'.sessions, h.pools.trans h'.pools, h.trades.trans h'.trades⟩

theorem symm (h : SameOf p db₁ db₂) : SameOf p db₂ db₁ :=
  ⟨h.sessions.symm, h.pools.symm, h.trades.symm⟩

theorem has_eq (h : SameOf p db₁ db₂) : has p db₁ = has p db₂ := by
  funext id
  rw [has, has, h.sessions]

end SameOf

/-! ### Updates -/

section Updates

variable (change : SessionChange)

theorem chosen_updateSession (hp : Kept p) : chosen p (db.updateSession id change) =
    Table.update (·.id) (chosen p db) id change.set := by
  simp only [chosen, Tables.updateSession, Table.update, List.filter_map]
  refine congrArg (List.map _) (List.filter_congr fun row _ => ?_)
  simp only [Function.comp_apply]
  split
  · exact hp change row
  · rfl

theorem has_updateSession (hp : Kept p) : has p (db.updateSession id change) = has p db := by
  funext sid
  rw [has, chosen_updateSession change hp, has, Table.update, List.any_map]
  refine congrArg (List.any _) (funext fun row => ?_)
  simp only [Function.comp_apply]
  split
  · rw [change.id]
  · rfl

theorem SameOf.updateSession (hp : Kept p) (h : SameOf p db₁ db₂) (id : Uuid) :
    SameOf p (db₁.updateSession id change) (db₂.updateSession id change) := by
  refine ⟨?_, ?_, ?_⟩
  · rw [chosen_updateSession change hp, chosen_updateSession change hp, h.sessions]
  · rw [has_updateSession change hp, has_updateSession change hp]
    exact h.pools
  · rw [has_updateSession change hp, has_updateSession change hp]
    exact h.trades

/-- An update of another session. -/
theorem sameOf_updateSession (hp : Kept p) (h : has p db id = false) :
    SameOf p (db.updateSession id change) db := by
  have hkept : Table.update (·.id) (chosen p db) id change.set = chosen p db := by
    refine (List.map_congr_left fun row hrow => ?_).trans (List.map_id _)
    refine if_neg fun hid => ?_
    rw [has, List.any_eq_false] at h
    exact h row hrow (decide_eq_true hid)
  refine ⟨(chosen_updateSession change hp).trans hkept, ?_, ?_⟩
  · rw [has_updateSession change hp]
    rfl
  · rw [has_updateSession change hp]
    rfl

end Updates

/-- An update of a trade reads the trade alone. -/
theorem filter_updateTrade (change : TradeChange) (q : Uuid → Bool) (trades : List TradeRecord) :
    (Table.update (·.id) trades id change.set).filter (fun t => q t.sessionId) =
      Table.update (·.id) (trades.filter fun t => q t.sessionId) id change.set := by
  simp only [Table.update, List.filter_map]
  refine congrArg (List.map _) (List.filter_congr fun t _ => ?_)
  simp only [Function.comp_apply]
  split
  · rw [change.sessionId]
  · rfl

theorem SameOf.updateTrade (h : SameOf p db₁ db₂) (id : Uuid) (change : TradeChange) :
    SameOf p (db₁.updateTrade id change) (db₂.updateTrade id change) := by
  refine ⟨h.sessions, h.pools, ?_⟩
  exact (filter_updateTrade change (has p db₁) db₁.trades).trans
    ((congrArg (Table.update _ · _ _) h.trades).trans
      (filter_updateTrade change (has p db₂) db₂.trades).symm)

/-- An update of a trade of another session. -/
theorem sameOf_updateTrade (change : TradeChange)
    (h : db.trades.any (fun t => t.id = id && has p db t.sessionId) = false) :
    SameOf p (db.updateTrade id change) db := by
  refine ⟨rfl, rfl, ?_⟩
  refine (filter_updateTrade change (has p db) db.trades).trans ?_
  refine (List.map_congr_left fun t ht => ?_).trans (List.map_id _)
  refine if_neg fun hid => ?_
  obtain ⟨ht, hown⟩ := List.mem_filter.mp ht
  rw [List.any_eq_false] at h
  exact h t ht (by rw [Bool.and_eq_true]; exact ⟨decide_eq_true hid, hown⟩)

/-! ### Insertions -/

section Insertions

variable {ρ : Type} {q q' clash : ρ → Bool} {rows rows' : List ρ} {row : ρ}

theorem any_clash (hclash : ∀ r, clash r = true → q r = true) :
    rows.any clash = (rows.filter q).any clash := by
  rw [List.any_filter]
  refine congrArg (List.any _) (funext fun r => ?_)
  cases hr : clash r with
  | false => rw [Bool.and_false]
  | true => rw [hclash r hr, Bool.and_true]

/-- A conflict is with one of the rows that are looked at. -/
theorem any_clash_eq (hrows : rows.filter q = rows'.filter q')
    (hclash : ∀ r, clash r = true → q r = true ∧ q' r = true) : rows.any clash = rows'.any clash :=
  calc rows.any clash
      = (rows.filter q).any clash := any_clash fun r hr => (hclash r hr).1
    _ = (rows'.filter q').any clash := congrArg (List.any · clash) hrows
    _ = rows'.any clash := (any_clash fun r hr => (hclash r hr).2).symm

theorem filter_append_of_not (hq : q row = false) : (rows ++ [row]).filter q = rows.filter q := by
  rw [List.filter_append, List.filter_singleton, hq]
  exact List.append_nil _

/-- The same row, inserted in two tables where the same rows are looked at. -/
theorem filter_insert_eq (hrows : rows.filter q = rows'.filter q') (hq : q row = q' row) :
    (rows ++ [row]).filter q = (rows' ++ [row]).filter q' := by
  rw [List.filter_append, List.filter_append, hrows, List.filter_singleton, List.filter_singleton,
    hq]

end Insertions

theorem sameOf_insertPool {row : PoolRow} (h : has p db row.sessionId = false) :
    SameOf p (db.insertPool row) db := by
  unfold Tables.insertPool
  split
  · exact ⟨rfl, filter_append_of_not h, rfl⟩
  · exact .refl db

theorem sameOf_insertTrade {row : TradeRecord} (h : has p db row.sessionId = false) :
    SameOf p (db.insertTrade row) db := by
  unfold Tables.insertTrade
  split
  · exact ⟨rfl, rfl, filter_append_of_not h⟩
  · exact .refl db

theorem SameOf.insertPool (h : SameOf p db₁ db₂) (row : PoolRow) :
    SameOf p (db₁.insertPool row) (db₂.insertPool row) := by
  cases hown : has p db₁ row.sessionId with
  | false =>
      have hown₂ : has p db₂ row.sessionId = false := h.has_eq ▸ hown
      exact ((sameOf_insertPool hown).trans h).trans (sameOf_insertPool hown₂).symm
  | true =>
      have hown₂ : has p db₂ row.sessionId = true := h.has_eq ▸ hown
      let clash (r : PoolRow) : Bool :=
        r.sessionId = row.sessionId && r.poolAddress = row.poolAddress
      have hany : db₁.pools.any clash = db₂.pools.any clash := by
        refine any_clash_eq h.pools fun r hr => ?_
        simp only [clash, Bool.and_eq_true, decide_eq_true_eq] at hr
        rw [hr.1]
        exact ⟨hown, hown₂⟩
      unfold Tables.insertPool
      change SameOf p (if db₁.hasSession row.sessionId && !db₁.pools.any clash then _ else _)
        (if db₂.hasSession row.sessionId && !db₂.pools.any clash then _ else _)
      rw [hasSession_of_has hown, hasSession_of_has hown₂, hany]
      split
      · exact ⟨h.sessions, filter_insert_eq h.pools (congrFun h.has_eq _), h.trades⟩
      · exact h

theorem SameOf.insertTrade (h : SameOf p db₁ db₂) (row : TradeRecord) :
    SameOf p (db₁.insertTrade row) (db₂.insertTrade row) := by
  cases hown : has p db₁ row.sessionId with
  | false =>
      have hown₂ : has p db₂ row.sessionId = false := h.has_eq ▸ hown
      exact ((sameOf_insertTrade hown).trans h).trans (sameOf_insertTrade hown₂).symm
  | true =>
      have hown₂ : has p db₂ row.sessionId = true := h.has_eq ▸ hown
      let clash (t : TradeRecord) : Bool := t.trigger = row.trigger
      have hany : db₁.trades.any clash = db₂.trades.any clash := by
        refine any_clash_eq h.trades fun t ht => ?_
        have hkey : t.trigger = row.trigger := of_decide_eq_true ht
        have hsession : t.sessionId = row.sessionId := congrArg TriggerKey.sessionId hkey
        rw [hsession]
        exact ⟨hown, hown₂⟩
      unfold Tables.insertTrade
      change SameOf p (if db₁.hasSession row.sessionId && !db₁.trades.any clash then _ else _)
        (if db₂.hasSession row.sessionId && !db₂.trades.any clash then _ else _)
      rw [hasSession_of_has hown, hasSession_of_has hown₂, hany]
      split
      · exact ⟨h.sessions, h.pools, filter_insert_eq h.trades (congrFun h.has_eq _)⟩
      · exact h

/-! ### A new session -/

section NewSession

variable {row : SessionRecord}

theorem insertSession_sessions (h : ¬ db.Taken row) :
    (db.insertSession row).sessions = db.sessions ++ [row] := by
  rw [Tables.insertSession, dif_neg h]

theorem insertSession_others (db : Tables) (row : SessionRecord) :
    (db.insertSession row).pools = db.pools ∧ (db.insertSession row).trades = db.trades := by
  unfold Tables.insertSession
  split <;> exact ⟨rfl, rfl⟩

theorem hasSession_row_eq_false (h : ¬ db.Taken row) : db.hasSession row.id = false := by
  rw [Tables.hasSession, List.any_eq_false]
  exact fun r hr hid => h ⟨r, hr, .inl (of_decide_eq_true hid)⟩

/-- No row refers to a session that is not there yet. -/
theorem filter_has_insertSession {ρ : Type} {rows : List ρ} (g : ρ → Uuid)
    (hrefs : ∀ r ∈ rows, db.hasSession (g r) = true) (h : ¬ db.Taken row) :
    (rows.filter fun r => has p (db.insertSession row) (g r)) =
      rows.filter fun r => has p db (g r) := by
  refine List.filter_congr fun r hr => ?_
  have hne : row.id ≠ g r := by
    intro heq
    have hold := hrefs r hr
    rw [← heq, hasSession_row_eq_false h] at hold
    cases hold
  rw [has, has, chosen, insertSession_sessions h, List.filter_append, List.any_append,
    List.filter_singleton, ← chosen]
  cases p row <;> simp [hne]

theorem SameOf.insertSession (h : SameOf p db₁ db₂) (hrefs₁ : db₁.Referenced)
    (hrefs₂ : db₂.Referenced) (h₁ : ¬ db₁.Taken row) (h₂ : ¬ db₂.Taken row) :
    SameOf p (db₁.insertSession row) (db₂.insertSession row) := by
  obtain ⟨hpools₁, htrades₁⟩ := insertSession_others db₁ row
  obtain ⟨hpools₂, htrades₂⟩ := insertSession_others db₂ row
  refine ⟨?_, ?_, ?_⟩
  · rw [chosen, chosen, insertSession_sessions h₁, insertSession_sessions h₂]
    exact filter_insert_eq h.sessions rfl
  · rw [hpools₁, hpools₂, filter_has_insertSession _ hrefs₁.pools h₁,
      filter_has_insertSession _ hrefs₂.pools h₂]
    exact h.pools
  · rw [htrades₁, htrades₂, filter_has_insertSession _ hrefs₁.trades h₁,
      filter_has_insertSession _ hrefs₂.trades h₂]
    exact h.trades

/-- A session that is not looked at. -/
theorem sameOf_insertSession (hrefs : db.Referenced) (hrow : p row = false) :
    SameOf p (db.insertSession row) db := by
  by_cases h : db.Taken row
  · rw [Tables.insertSession, dif_pos h]
    exact .refl db
  · obtain ⟨hpools, htrades⟩ := insertSession_others db row
    refine ⟨?_, ?_, ?_⟩
    · rw [chosen, insertSession_sessions h]
      exact filter_append_of_not hrow
    · rw [hpools, filter_has_insertSession _ hrefs.pools h]
    · rw [htrades, filter_has_insertSession _ hrefs.trades h]

end NewSession

/-! ### Keys -/

section Keys

variable {row : SessionRecord} (db : Tables)

theorem hasSession_updateSession (change : SessionChange) :
    (db.updateSession id change).hasSession = db.hasSession := by
  funext sid
  simp only [Tables.hasSession, Tables.updateSession, Table.update, List.any_map]
  refine congrArg (List.any _) (funext fun r => ?_)
  simp only [Function.comp_apply]
  split
  · rw [change.id]
  · rfl

theorem taken_updateSession (change : SessionChange) :
    (db.updateSession id change).Taken row ↔ db.Taken row := by
  simp only [Tables.Taken, Tables.updateSession, Table.update, List.mem_map, exists_exists_and_eq_and]
  refine exists_congr fun r => and_congr_right fun _ => ?_
  split
  · rw [change.id, change.publicSlug]
  · rfl

theorem insertPool_sessions (pool : PoolRow) : (db.insertPool pool).sessions = db.sessions := by
  unfold Tables.insertPool
  split <;> rfl

theorem insertTrade_sessions (trade : TradeRecord) :
    (db.insertTrade trade).sessions = db.sessions := by
  unfold Tables.insertTrade
  split <;> rfl

variable {db}

theorem taken_congr (h : db₁.sessions = db₂.sessions) : db₁.Taken row ↔ db₂.Taken row := by
  rw [Tables.Taken, Tables.Taken, h]

theorem taken_insertSession {new : SessionRecord} (h : ¬ db.Taken new) :
    (db.insertSession new).Taken row ↔ db.Taken row ∨ (new.id = row.id ∨
      (row.publicSlug ≠ none ∧ new.publicSlug = row.publicSlug)) := by
  simp only [Tables.Taken, insertSession_sessions h, List.mem_append, List.mem_singleton,
    or_and_right, exists_or, exists_eq_left]

theorem taken_of_insertSession {new : SessionRecord} (h : db.Taken row) :
    (db.insertSession new).Taken row := by
  by_cases hnew : db.Taken new
  · rw [Tables.insertSession, dif_pos hnew]
    exact h
  · exact (taken_insertSession hnew).mpr (.inl h)

theorem hasSession_insertSession {new : SessionRecord} {sid : Uuid}
    (h : db.hasSession sid = true) : (db.insertSession new).hasSession sid = true := by
  by_cases hnew : db.Taken new
  · rw [Tables.insertSession, dif_pos hnew]
    exact h
  · rw [Tables.hasSession, insertSession_sessions hnew, List.any_append, ← Tables.hasSession, h,
      Bool.true_or]

end Keys

theorem Tables.Referenced.execute (h : db.Referenced) (st : Statement) :
    (db.execute st).Referenced := by
  cases st with
  | insertSession row =>
      obtain ⟨hpools, htrades⟩ := insertSession_others db row
      refine ⟨fun r hr => hasSession_insertSession (h.pools r ?_),
        fun t ht => hasSession_insertSession (h.trades t ?_)⟩
      · exact hpools ▸ hr
      · exact htrades ▸ ht
  | insertPool row =>
      simp only [Tables.execute, Tables.insertPool]
      split
      · rename_i hinserts
        rw [Bool.and_eq_true] at hinserts
        refine ⟨fun r hr => ?_, h.trades⟩
        rcases List.mem_append.mp hr with hr | hr
        · exact h.pools r hr
        · rw [List.mem_singleton.mp hr]
          exact hinserts.1
      · exact h
  | insertTrade row =>
      simp only [Tables.execute, Tables.insertTrade]
      split
      · rename_i hinserts
        rw [Bool.and_eq_true] at hinserts
        refine ⟨h.pools, fun t ht => ?_⟩
        rcases List.mem_append.mp ht with ht | ht
        · exact h.trades t ht
        · rw [List.mem_singleton.mp ht]
          exact hinserts.1
      · exact h
  | updateSession id change =>
      refine ⟨fun r hr => ?_, fun t ht => ?_⟩
      · rw [Tables.execute, hasSession_updateSession]
        exact h.pools r hr
      · rw [Tables.execute, hasSession_updateSession]
        exact h.trades t ht
  | updateTrade id change =>
      refine ⟨h.pools, fun t ht => ?_⟩
      rcases Table.mem_update ht with ⟨ht, -⟩ | ⟨u, hu, -, rfl⟩
      · exact h.trades t ht
      · rw [change.sessionId]
        exact h.trades u hu

/-! ### Tables that have missed statements -/

/-- The keys of a new session are in no other row. -/
def Statement.Fresh (db : Tables) : Statement → Prop
  | .insertSession row => ¬ db.Taken row
  | _ => True

instance (db : Tables) (st : Statement) : Decidable (st.Fresh db) :=
  match st with
  | .insertSession row => inferInstanceAs (Decidable (¬ db.Taken row))
  | .insertPool _ | .insertTrade _ | .updateSession _ _ | .updateTrade _ _ => isTrue trivial

/-- `t` is `s` but for statements on sessions that are not looked at. -/
structure Shadows (p : SessionRecord → Bool) (s t : Tables) : Prop where
  same : SameOf p s t
  taken : ∀ row, t.Taken row → s.Taken row
  left : s.Referenced
  right : t.Referenced

namespace Shadows

variable {s t : Tables} {st : Statement}

theorem refl (h : s.Referenced) : Shadows p s s := ⟨.refl s, fun _ h => h, h, h⟩

theorem taken_execute (h : Shadows p s t) (hfresh : st.Fresh s) (row : SessionRecord) :
    (t.execute st).Taken row → (s.execute st).Taken row := by
  cases st with
  | insertSession new =>
      have hfresh' : ¬ t.Taken new := fun htaken => hfresh (h.taken new htaken)
      simp only [Tables.execute]
      rw [taken_insertSession hfresh, taken_insertSession hfresh']
      exact Or.imp_left (h.taken row)
  | insertPool pool =>
      simp only [Tables.execute]
      rw [taken_congr (insertPool_sessions t pool), taken_congr (insertPool_sessions s pool)]
      exact h.taken row
  | insertTrade trade =>
      simp only [Tables.execute]
      rw [taken_congr (insertTrade_sessions t trade), taken_congr (insertTrade_sessions s trade)]
      exact h.taken row
  | updateSession id change =>
      simp only [Tables.execute]
      rw [taken_updateSession, taken_updateSession]
      exact h.taken row
  | updateTrade id change => exact h.taken row

theorem taken_of_execute {row : SessionRecord} (h : s.Taken row) : (s.execute st).Taken row := by
  cases st with
  | insertSession new => exact taken_of_insertSession h
  | insertPool pool => exact (taken_congr (insertPool_sessions s pool)).mpr h
  | insertTrade trade => exact (taken_congr (insertTrade_sessions s trade)).mpr h
  | updateSession id change => exact (taken_updateSession s change).mpr h
  | updateTrade id change => exact h

/-- A statement on both sides. -/
theorem together (hp : Kept p) (h : Shadows p s t) (hfresh : st.Fresh s) :
    Shadows p (s.execute st) (t.execute st) := by
  refine ⟨?_, h.taken_execute hfresh, h.left.execute st, h.right.execute st⟩
  cases st with
  | insertSession row =>
      exact h.same.insertSession h.left h.right hfresh fun htaken => hfresh (h.taken row htaken)
  | insertPool row => exact h.same.insertPool row
  | insertTrade row => exact h.same.insertTrade row
  | updateSession id change => exact h.same.updateSession change hp id
  | updateTrade id change => exact h.same.updateTrade id change

/-- A statement that is missed. -/
theorem away (hp : Kept p) (h : Shadows p s t) (hst : st.touches p s = false) :
    Shadows p (s.execute st) t := by
  refine ⟨SameOf.trans ?_ h.same, fun row ht => taken_of_execute (h.taken row ht),
    h.left.execute st, h.right⟩
  cases st with
  | insertSession row => exact sameOf_insertSession h.left hst
  | insertPool row => exact sameOf_insertPool hst
  | insertTrade row => exact sameOf_insertTrade hst
  | updateSession id change => exact sameOf_updateSession change hp hst
  | updateTrade id change => exact sameOf_updateTrade change hst

/-- An update that only the other side sees, of a session that is not looked at. -/
theorem updated (hp : Kept p) (h : Shadows p s t) (hown : has p s id = false)
    (change : SessionChange) : Shadows p s (t.updateSession id change) := by
  have hown' : has p t id = false := h.same.has_eq ▸ hown
  refine ⟨h.same.trans (sameOf_updateSession change hp hown').symm, fun row ht => ?_, h.left,
    h.right.execute (.updateSession id change)⟩
  exact h.taken row ((taken_updateSession t change).mp ht)

end Shadows

end Liquifier.SessionApi
