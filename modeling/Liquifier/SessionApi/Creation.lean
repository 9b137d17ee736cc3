import Liquifier.Lib.Statements
import Liquifier.SessionApi.Session
import Liquifier.Store.Database

/-!
A new session, statement by statement.

`create_session` checks the request, inserts the session, and inserts its pools one after
another. Each `INSERT` is committed by itself, and the request is answered with an error as
soon as one of them fails, so an error says nothing about what the ones before have written.
-/

namespace Liquifier

open Statements

namespace Database

variable (db : Database)

/-- A label of the type `pool_type`. -/
def isPoolTypeLabel (s : String) : Bool := s = PoolType.v2.toText || s = PoolType.v3.toText

/-- `INSERT INTO sessions`, which the primary key may forbid. -/
def insertSession (row : SessionRow) : Option Database :=
  if h : row.id ∈ db.sessions.map (·.id) then none
  else some {
    sessions := db.sessions ++ [row]
    sessionPools := db.sessionPools
    trades := db.trades
    session_ids := by
      rw [List.map_append]
      exact db.session_ids.append (List.nodup_singleton _) (List.disjoint_singleton.mpr h)
    trade_ids := db.trade_ids
    trade_triggers := db.trade_triggers
    trade_sessions := fun t ht => by
      rw [List.map_append]
      exact List.mem_append_left _ (db.trade_sessions t ht) }

/-- `INSERT INTO session_pools … ON CONFLICT (session_id, pool_address) DO NOTHING`, for a
pool of a session that exists. -/
def insertSessionPool (id : Uuid) (pool : PoolInfo) : Option Database :=
  if !isPoolTypeLabel pool.poolType || id ∉ db.sessions.map (·.id) then none
  else some {
    sessions := db.sessions
    sessionPools :=
      if (db.poolsOf id).any (·.poolAddress = pool.poolAddress) then db.sessionPools
      else db.sessionPools ++ [(id, pool)]
    trades := db.trades
    session_ids := db.session_ids
    trade_ids := db.trade_ids
    trade_triggers := db.trade_triggers
    trade_sessions := db.trade_sessions }

section Inserts

variable {db} {db' : Database} {id : Uuid} {pool : PoolInfo}

theorem insertSession_eq_some (row : SessionRow) (h : row.id ∉ db.sessions.map (·.id)) :
    ∃ db', db.insertSession row = some db' ∧ db'.sessions = db.sessions ++ [row] ∧
      db'.sessionPools = db.sessionPools :=
  ⟨_, dif_neg h, rfl, rfl⟩

theorem exists_insertSessionPool (hlabel : isPoolTypeLabel pool.poolType = true)
    (hsession : id ∈ db.sessions.map (·.id)) : ∃ db', db.insertSessionPool id pool = some db' :=
  ⟨_, if_neg (by simp only [hlabel, hsession]; decide)⟩

/-- What the statement for a pool asks for, and what it leaves. -/
theorem insertSessionPool_spec (h : db.insertSessionPool id pool = some db') :
    isPoolTypeLabel pool.poolType = true ∧ db'.sessions = db.sessions ∧
      db'.poolsOf id = SessionApi.insertPool (db.poolsOf id) pool := by
  unfold insertSessionPool at h
  split at h
  · cases h
  · rename_i hallowed
    rw [Bool.or_eq_true, not_or] at hallowed
    cases h
    refine ⟨by simpa using hallowed.1, rfl, ?_⟩
    rw [SessionApi.insertPool, poolsOf]
    split
    · rfl
    · rw [List.filter_append, List.map_append]
      simp [poolsOf]

end Inserts

end Database

namespace SessionApi

variable (lib : Library) (req : CreateSessionRequest) (sessionId : Uuid)

def poolInsertError : Status := .internal "DB error inserting pool"

/-- What is checked before the first statement: the two ids, and the routes. -/
def checkCreateSession : Except Status (Uuid × Uuid × List Json) := do
  let userId ← okOr (invalidArgument "Invalid user_id") (lib.uuidFromStr req.userId)
  let walletId ← okOr (invalidArgument "Invalid wallet_id") (lib.uuidFromStr req.walletId)
  let parsedPoolPaths ← req.pools.mapM fun pool =>
    parsePoolSwapPathJson lib pool.swapPathJson pool.poolAddress
  ensure (req.swapPathJson = "" || (lib.jsonFromStr req.swapPathJson).isSome)
    (invalidArgument "Invalid swap_path_json")
  return (userId, walletId, parsedPoolPaths)

def newSessionRow (userId walletId : Uuid) (totalAmount : ℕ) : SessionRow where
  id := sessionId
  userId := userId
  walletId := walletId
  chain := req.chain
  status := .pending
  sellToken := req.sellToken
  sellTokenSymbol := req.sellTokenSymbol
  sellTokenDecimals := req.sellTokenDecimals
  targetToken := req.targetToken
  targetTokenSymbol := req.targetTokenSymbol
  targetTokenDecimals := req.targetTokenDecimals
  totalAmount := totalAmount
  amountSold := 0
  povPercent := req.povPercent
  maxPriceImpact := req.maxPriceImpact
  minBuyTriggerUsd := req.minBuyTriggerUsd
  minMarketCapUsd := req.minMarketCapUsd

/-- The statement for the session. -/
def sessionStatement (userId walletId : Uuid) (db : Database) : Option Database :=
  (lib.numericFromStr req.totalAmount).bind fun totalAmount =>
    db.insertSession (newSessionRow req sessionId userId walletId totalAmount)

/-- The statements for the pools. -/
def poolStatements (pools : List PoolInfo) : List (Database → Option Database) :=
  pools.map fun pool db => db.insertSessionPool sessionId pool

/-- `create_session` against a database, where `outcomes` says what becomes of the
statements; the first of them is the one for the session. -/
def sendCreateSession (outcomes : ℕ → Outcome) (db : Database) :
    Except Status SessionInfo × Database :=
  match checkCreateSession lib req with
  | .error e => (.error e, db)
  | .ok (userId, walletId, parsedPoolPaths) =>
      match (outcomes 0).send (sessionStatement lib req sessionId userId walletId) db with
      | (false, db) => (.error dbError, db)
      | (true, db) =>
          let pools := List.zipWith (storedPool lib) req.pools parsedPoolPaths
          match sendAll (poolStatements sessionId pools) (fun n => outcomes (n + 1)) db with
          | (false, db) => (.error poolInsertError, db)
          | (true, db) =>
              let totalAmount := (lib.numericFromStr req.totalAmount).getD 0
              (.ok {
                newSessionRow req sessionId userId walletId totalAmount with
                pools := req.pools }, db)

/-! ### All or nothing -/

/-- The session is there, with one row for each address of the pools. -/
structure SessionStored (db : Database) : Prop where
  session : sessionId ∈ db.sessions.map (·.id)
  pools_nodup : ((db.poolsOf sessionId).map (·.poolAddress)).Nodup
  pools_mem : ∀ address, address ∈ (db.poolsOf sessionId).map (·.poolAddress) ↔
    address ∈ req.pools.map (·.poolAddress)

/-- There is neither a session nor a pool under the id. -/
structure SessionAbsent (db : Database) : Prop where
  session : sessionId ∉ db.sessions.map (·.id)
  pools : db.poolsOf sessionId = []

/-- What the response says of the session is what the database holds of it. -/
def AllOrNothing : Except Status SessionInfo × Database → Prop
  | (.ok _, db) => SessionStored req sessionId db
  | (.error _, db) => SessionAbsent sessionId db

/-- No statement is sent; or the one for the session does not run; or all of them run and
answer, and so the type of each pool is one that the database knows. -/
inductive RunsWhole (outcomes : ℕ → Outcome) : Prop where
  | unsent {e : Status} (h : checkCreateSession lib req = .error e)
  | refused (h : outcomes 0 = .refused)
  | not_numeric (h : lib.numericFromStr req.totalAmount = none)
  | done (h : ∀ n ≤ req.pools.length, outcomes n = .done)
      (htypes : ∀ pool ∈ req.pools, Database.isPoolTypeLabel pool.poolType = true)

/-! ### The statements for the pools -/

section Pools

variable {db db' : Database} {pools : List PoolInfo} {id : Uuid}

theorem map_insertPool (rows : List PoolInfo) (pool : PoolInfo) :
    (insertPool rows pool).map (·.poolAddress) =
      if pool.poolAddress ∈ rows.map (·.poolAddress) then rows.map (·.poolAddress)
      else rows.map (·.poolAddress) ++ [pool.poolAddress] := by
  have hany : rows.any (·.poolAddress = pool.poolAddress) = true ↔
      pool.poolAddress ∈ rows.map (·.poolAddress) := by
    simp
  rw [insertPool]
  by_cases hmem : pool.poolAddress ∈ rows.map (·.poolAddress)
  · rw [if_pos (hany.mpr hmem), if_pos hmem]
  · rw [if_neg (hany.not.mpr hmem), if_neg hmem, List.map_append, List.map_singleton]

/-- The addresses of the rows are told apart, and they are those that were inserted. -/
theorem foldl_insertPool_addresses (pools : List PoolInfo) {rows : List PoolInfo}
    (hrows : (rows.map (·.poolAddress)).Nodup) :
    ((pools.foldl insertPool rows).map (·.poolAddress)).Nodup ∧
      ∀ address, address ∈ (pools.foldl insertPool rows).map (·.poolAddress) ↔
        address ∈ rows.map (·.poolAddress) ∨ address ∈ pools.map (·.poolAddress) := by
  induction pools generalizing rows with
  | nil => simpa using hrows
  | cons pool pools ih =>
      have hnodup : ((insertPool rows pool).map (·.poolAddress)).Nodup := by
        rw [map_insertPool]
        split
        · exact hrows
        · rename_i hnew
          exact hrows.append (List.nodup_singleton _) (List.disjoint_singleton.mpr hnew)
      have hmem : ∀ address, address ∈ (insertPool rows pool).map (·.poolAddress) ↔
          address ∈ rows.map (·.poolAddress) ∨ address = pool.poolAddress := by
        intro address
        rw [map_insertPool]
        split
        · rename_i hold
          exact ⟨.inl, fun h => h.elim id fun h => h ▸ hold⟩
        · rw [List.mem_append, List.mem_singleton]
      obtain ⟨hfinal, hfinalMem⟩ := ih hnodup
      refine ⟨hfinal, fun address => ?_⟩
      rw [List.foldl_cons, hfinalMem, hmem, List.map_cons, List.mem_cons, or_assoc]

theorem exists_runAll (hsession : id ∈ db.sessions.map (·.id))
    (hlabels : ∀ pool ∈ pools, Database.isPoolTypeLabel pool.poolType = true) :
    ∃ db', runAll (poolStatements id pools) db = some db' := by
  induction pools generalizing db with
  | nil => exact ⟨db, rfl⟩
  | cons pool pools ih =>
      obtain ⟨db₁, hdb₁⟩ :=
        Database.exists_insertSessionPool (hlabels pool List.mem_cons_self) hsession
      obtain ⟨-, hsessions, -⟩ := Database.insertSessionPool_spec hdb₁
      have hsession₁ : id ∈ db₁.sessions.map (·.id) := by rwa [hsessions]
      obtain ⟨db', hdb'⟩ := ih hsession₁ fun q hq => hlabels q (List.mem_cons_of_mem _ hq)
      exact ⟨db', Option.bind_eq_some_iff.mpr ⟨db₁, hdb₁, hdb'⟩⟩

theorem runAll_spec (h : runAll (poolStatements id pools) db = some db') :
    (∀ pool ∈ pools, Database.isPoolTypeLabel pool.poolType = true) ∧ db'.sessions = db.sessions ∧
      db'.poolsOf id = pools.foldl insertPool (db.poolsOf id) := by
  induction pools generalizing db with
  | nil =>
      cases h
      simp
  | cons pool pools ih =>
      obtain ⟨db₁, hdb₁, hrun⟩ := Option.bind_eq_some_iff.mp h
      obtain ⟨hlabel, hsessions, hpools⟩ := Database.insertSessionPool_spec hdb₁
      obtain ⟨hlabels, hsessions', hpools'⟩ := ih hrun
      refine ⟨?_, hsessions'.trans hsessions, ?_⟩
      · exact List.forall_mem_cons.mpr ⟨hlabel, hlabels⟩
      · rw [hpools', hpools, List.foldl_cons]

end Pools

/-! ### The run of a request -/

section Run

variable {lib : Library} {req : CreateSessionRequest} {sessionId userId walletId : Uuid}
  {outcomes : ℕ → Outcome} {db db' : Database} {parsedPoolPaths : List Json}

theorem length_of_mapM {pools : List PoolInfo} {values : List Json}
    (h : pools.mapM (fun pool => parsePoolSwapPathJson lib pool.swapPathJson pool.poolAddress) =
      .ok values) : values.length = pools.length := by
  induction pools generalizing values with
  | nil =>
      cases h
      rfl
  | cons pool pools ih =>
      rw [List.mapM_cons] at h
      obtain ⟨value, -, h⟩ := bind_eq_ok.mp h
      obtain ⟨rest, hrest, h⟩ := bind_eq_ok.mp h
      cases h
      rw [List.length_cons, List.length_cons, ih hrest]

/-- A stored pool has the address and the type of the pool of the request. -/
theorem map_zipWith_storedPool {α : Type} {f : PoolInfo → α}
    (hf : ∀ pool value, f (storedPool lib pool value) = f pool) {pools : List PoolInfo}
    {values : List Json} (hlength : values.length = pools.length) :
    (List.zipWith (storedPool lib) pools values).map f = pools.map f := by
  induction pools generalizing values with
  | nil => rfl
  | cons pool pools ih =>
      cases values with
      | nil => cases hlength
      | cons value values =>
          rw [List.zipWith_cons_cons, List.map_cons, List.map_cons, hf,
            ih (Nat.succ.inj hlength)]

theorem length_of_checked
    (h : checkCreateSession lib req = .ok (userId, walletId, parsedPoolPaths)) :
    parsedPoolPaths.length = req.pools.length := by
  simp only [checkCreateSession, bind_eq_ok, ensure_eq_ok, pure, Except.pure, Except.ok.injEq,
    Prod.mk.injEq] at h
  obtain ⟨_, _, _, _, values, hvalues, _, _, _, _, rfl⟩ := h
  exact length_of_mapM hvalues

/-- The database after a statement for the session that has run. -/
theorem sessionStatement_spec (userId walletId : Uuid) (hfresh : SessionAbsent sessionId db)
    {totalAmount : ℕ} (htotal : lib.numericFromStr req.totalAmount = some totalAmount) :
    ∃ db', sessionStatement lib req sessionId userId walletId db = some db' ∧
      db'.sessions = db.sessions ++ [newSessionRow req sessionId userId walletId totalAmount] ∧
      sessionId ∈ db'.sessions.map (·.id) ∧ db'.poolsOf sessionId = [] := by
  obtain ⟨db', hdb', hsessions, hpools⟩ := Database.insertSession_eq_some
    (newSessionRow req sessionId userId walletId totalAmount) hfresh.session
  refine ⟨db', ?_, hsessions, ?_, ?_⟩
  · rw [sessionStatement, htotal]
    exact hdb'
  · rw [hsessions, List.map_append]
    exact List.mem_append_right _ (List.mem_singleton.mpr rfl)
  · rw [Database.poolsOf, hpools]
    exact hfresh.pools

/-- All statements for the pools answer if and only if they are done and the database knows
the types of the pools, and then the pools are stored. -/
theorem poolStatements_spec (lib : Library) (outcomes : ℕ → Outcome)
    (hlength : parsedPoolPaths.length = req.pools.length)
    (hsession : sessionId ∈ db.sessions.map (·.id)) (hpools : db.poolsOf sessionId = []) :
    let result := sendAll (poolStatements sessionId
      (List.zipWith (storedPool lib) req.pools parsedPoolPaths)) (fun n => outcomes (n + 1)) db
    sessionId ∈ result.2.sessions.map (·.id) ∧
      (result.1 = true ↔ (∀ n < req.pools.length, outcomes (n + 1) = .done) ∧
        ∀ pool ∈ req.pools, Database.isPoolTypeLabel pool.poolType = true) ∧
      (result.1 = true → result.2.sessions = db.sessions ∧ result.2.poolsOf sessionId =
        (List.zipWith (storedPool lib) req.pools parsedPoolPaths).foldl insertPool []) := by
  intro result
  have hkept : sessionId ∈ result.2.sessions.map (·.id) := by
    refine sendAll_preserves (P := fun db : Database => sessionId ∈ db.sessions.map (·.id)) ?_
      hsession
    intro statement hstatement s s' hs hs'
    obtain ⟨pool, -, rfl⟩ := List.mem_map.mp hstatement
    rwa [(Database.insertSessionPool_spec hs').2.1]
  have hcount : (poolStatements sessionId
      (List.zipWith (storedPool lib) req.pools parsedPoolPaths)).length = req.pools.length := by
    rw [poolStatements, List.length_map, List.length_zipWith, hlength, Nat.min_self]
  have hlabels : (∀ pool ∈ List.zipWith (storedPool lib) req.pools parsedPoolPaths,
      Database.isPoolTypeLabel pool.poolType = true) ↔
        ∀ pool ∈ req.pools, Database.isPoolTypeLabel pool.poolType = true := by
    have htypes : (List.zipWith (storedPool lib) req.pools parsedPoolPaths).map PoolInfo.poolType =
        req.pools.map PoolInfo.poolType := map_zipWith_storedPool (fun _ _ => rfl) hlength
    rw [← List.forall_mem_map (f := PoolInfo.poolType)
      (P := fun t => Database.isPoolTypeLabel t = true), htypes, List.forall_mem_map]
  have hanswered (db' : Database) : result = (true, db') ↔
      (∀ n < req.pools.length, outcomes (n + 1) = .done) ∧ runAll (poolStatements sessionId
        (List.zipWith (storedPool lib) req.pools parsedPoolPaths)) db = some db' := by
    rw [← hcount]
    exact sendAll_answered_iff
  refine ⟨hkept, ⟨fun htrue => ?_, fun ⟨hdone, htypes⟩ => ?_⟩, fun htrue => ?_⟩
  · obtain ⟨hdone, hrun⟩ := (hanswered result.2).mp (Prod.ext htrue rfl)
    exact ⟨hdone, hlabels.mp (runAll_spec hrun).1⟩
  · obtain ⟨db', hrun⟩ := exists_runAll hsession (hlabels.mpr htypes)
    exact congrArg Prod.fst ((hanswered db').mpr ⟨hdone, hrun⟩)
  · obtain ⟨-, hrun⟩ := (hanswered result.2).mp (Prod.ext htrue rfl)
    obtain ⟨-, hsessions, hrows⟩ := runAll_spec hrun
    rw [hpools] at hrows
    exact ⟨hsessions, hrows⟩

theorem sessionStored_of_pools (hlength : parsedPoolPaths.length = req.pools.length)
    (hsession : sessionId ∈ db.sessions.map (·.id))
    (hpools : db.poolsOf sessionId =
      (List.zipWith (storedPool lib) req.pools parsedPoolPaths).foldl insertPool []) :
    SessionStored req sessionId db := by
  have hnil : (([] : List PoolInfo).map (·.poolAddress)).Nodup := List.nodup_nil
  obtain ⟨hnodup, hmem⟩ := foldl_insertPool_addresses
    (List.zipWith (storedPool lib) req.pools parsedPoolPaths) hnil
  rw [← hpools] at hnodup hmem
  refine ⟨hsession, hnodup, fun address => ?_⟩
  rw [hmem, map_zipWith_storedPool (fun _ _ => rfl) hlength, List.map_nil]
  simp

theorem createSession_of_checked
    (h : checkCreateSession lib req = .ok (userId, walletId, parsedPoolPaths)) {totalAmount : ℕ}
    (htotal : lib.numericFromStr req.totalAmount = some totalAmount) :
    createSession lib req ⟨sessionId, true, true⟩ =
      .ok ⟨newSessionRow req sessionId userId walletId totalAmount,
        (List.zipWith (storedPool lib) req.pools parsedPoolPaths).foldl insertPool []⟩ := by
  simp only [checkCreateSession, bind_eq_ok, ensure_eq_ok, okOr_eq_ok, pure, Except.pure,
    Except.ok.injEq, Prod.mk.injEq] at h
  obtain ⟨_, huser, _, hwallet, _, hpaths, _, hpath, rfl, rfl, rfl⟩ := h
  simp only [createSession, bind_eq_ok, ensure_eq_ok, okOr_eq_ok, pure, Except.pure,
    Except.ok.injEq]
  exact ⟨_, huser, _, hwallet, _, hpaths, (), hpath, (), trivial, _, htotal, (), trivial, rfl⟩

/-- A session that is answered is the one that `createSession` stores. -/
theorem createSession_of_send (hfresh : SessionAbsent sessionId db) {info : SessionInfo}
    (h : sendCreateSession lib req sessionId outcomes db = (.ok info, db')) :
    ∃ stored, createSession lib req ⟨sessionId, true, true⟩ = .ok stored ∧
      db'.sessions = db.sessions ++ [stored.row] ∧ db'.poolsOf sessionId = stored.pools ∧
      info.toSessionRow = stored.row := by
  unfold sendCreateSession at h
  split at h
  · cases h
  · rename_i userId walletId parsedPoolPaths hcheck
    split at h
    · cases h
    · rename_i db₁ hsend
      have hstatement := (send_answered_iff.mp hsend).2
      obtain ⟨totalAmount, htotal, -⟩ := Option.bind_eq_some_iff.mp hstatement
      obtain ⟨db₂, hdb₂, hsessions, hsession, hpools⟩ :=
        sessionStatement_spec userId walletId hfresh htotal
      rw [hstatement, Option.some.injEq] at hdb₂
      subst hdb₂
      have hspec := poolStatements_spec lib outcomes
        (length_of_checked hcheck) hsession hpools
      dsimp only at hspec h
      generalize sendAll (poolStatements sessionId _) _ db₁ = result at hspec h
      obtain ⟨answered, db₃⟩ := result
      cases answered with
      | false => cases h
      | true =>
          cases h
          obtain ⟨hkept, hrows⟩ := hspec.2.2 rfl
          refine ⟨_, createSession_of_checked hcheck htotal, hkept.trans hsessions, hrows, ?_⟩
          rw [htotal]
          rfl

/-- The response says what the database holds if and only if the statements run as a whole. -/
theorem allOrNothing_iff (hfresh : SessionAbsent sessionId db) :
    AllOrNothing req sessionId (sendCreateSession lib req sessionId outcomes db) ↔
      RunsWhole lib req outcomes := by
  unfold sendCreateSession
  split
  · rename_i e hcheck
    exact ⟨fun _ => .unsent hcheck, fun _ => hfresh⟩
  · rename_i userId walletId parsedPoolPaths hcheck
    have hsent : ∀ e, checkCreateSession lib req ≠ .error e := fun e => by rw [hcheck]; simp
    cases htotal : lib.numericFromStr req.totalAmount with
    | none =>
        have hnone : sessionStatement lib req sessionId userId walletId db = none := by
          rw [sessionStatement, htotal, Option.bind_none]
        rw [send_refused (.inr hnone)]
        exact ⟨fun _ => .not_numeric htotal, fun _ => hfresh⟩
    | some totalAmount =>
        obtain ⟨db₁, hdb₁, -, hsession, hpools⟩ :=
          sessionStatement_spec userId walletId hfresh htotal
        cases hfirst : outcomes 0 with
        | refused =>
            exact ⟨fun _ => .refused hfirst, fun _ => hfresh⟩
        | lost =>
            rw [send_lost hdb₁]
            refine ⟨fun h => absurd hsession h.session, fun h => ?_⟩
            cases h with
            | unsent h => exact absurd h (hsent _)
            | refused h => rw [hfirst] at h; cases h
            | not_numeric h => rw [htotal] at h; cases h
            | done h => rw [h 0 (Nat.zero_le _)] at hfirst; cases hfirst
        | done =>
            rw [send_answered_iff.mpr ⟨rfl, hdb₁⟩]
            have hspec := poolStatements_spec lib outcomes
              (length_of_checked hcheck) hsession hpools
            dsimp only at hspec ⊢
            generalize sendAll (poolStatements sessionId _) _ db₁ = result at hspec ⊢
            obtain ⟨answered, db'⟩ := result
            obtain ⟨hkept, hiff, hstored⟩ := hspec
            cases answered with
            | true =>
                obtain ⟨hdone, htypes⟩ := hiff.mp rfl
                refine ⟨fun _ => .done (fun n hn => ?_) htypes, fun _ => sessionStored_of_pools
                  (length_of_checked hcheck) hkept (hstored rfl).2⟩
                cases n with
                | zero => exact hfirst
                | succ n => exact hdone n (by omega)
            | false =>
                refine ⟨fun h => absurd hkept h.session, fun h => ?_⟩
                cases h with
                | unsent h => exact absurd h (hsent _)
                | refused h => rw [hfirst] at h; cases h
                | not_numeric h => rw [htotal] at h; cases h
                | done h htypes =>
                    cases hiff.mpr ⟨fun n hn => h (n + 1) (by omega), htypes⟩

end Run

/-! ### A sample

A request with one pool of the type `poolType`, to an empty database. -/

namespace Sample

def routeText : String :=
  "\x7b\"hops\":[\"0x4444444444444444444444444444444444444444\"]," ++
    "\"hop_tokens\":[\"0xa\",\"0xb\"]\x7d"

/-- The libraries, which are asked for these texts alone. -/
def creationLibrary : Library where
  jsonFromStr := fun _ => some (.object
    [("hops", .array [.string "0x4444444444444444444444444444444444444444"]),
      ("hop_tokens", .array [.string "0xa", .string "0xb"])])
  jsonToString := fun _ => routeText
  uuidFromStr := fun _ => some 1
  uuidToString := fun _ => "00000000-0000-0000-0000-000000000001"
  numericFromStr := fun _ => some 800

def creationRequest (poolType : String) : CreateSessionRequest where
  userId := "00000000-0000-0000-0000-000000000001"
  walletId := "00000000-0000-0000-0000-000000000001"
  chain := "bsc"
  sellToken := "0xa"
  sellTokenSymbol := "SELL"
  sellTokenDecimals := 18
  targetToken := "0xb"
  targetTokenSymbol := "USDT"
  targetTokenDecimals := 18
  totalAmount := "800"
  povPercent := 50
  maxPriceImpact := 1
  minBuyTriggerUsd := 0
  minMarketCapUsd := 0
  swapPathJson := ""
  pools := [{
    poolAddress := "0x4444444444444444444444444444444444444444"
    poolType := poolType
    dexName := "pancakeswap"
    token0 := "0xa"
    token1 := "0xb"
    feeTier := 500
    swapPathJson := routeText }]

def emptyDatabase : Database where
  sessions := []
  sessionPools := []
  trades := []
  session_ids := List.nodup_nil
  trade_ids := List.nodup_nil
  trade_triggers := List.nodup_nil
  trade_sessions := fun _ h => by cases h

theorem emptyDatabase_absent : SessionAbsent 7 emptyDatabase := ⟨List.not_mem_nil, rfl⟩

end Sample

/-- All statements for a session with a V3 pool run. -/
theorem allOrNothing_iff_sample :
    AllOrNothing (Sample.creationRequest "v3") 7 (sendCreateSession Sample.creationLibrary
      (Sample.creationRequest "v3") 7 (fun _ => .done) Sample.emptyDatabase) := by
  refine (allOrNothing_iff Sample.emptyDatabase_absent).mpr (.done (fun _ _ => rfl) ?_)
  intro pool hpool
  rw [List.mem_singleton.mp hpool]
  decide

/-- The type of the pool is none that the database knows, and the session stays. -/
theorem session_without_pools :
    ¬ ∀ lib req sessionId outcomes db, SessionAbsent sessionId db →
      AllOrNothing req sessionId (sendCreateSession lib req sessionId outcomes db) := by
  intro h
  have hresult := h Sample.creationLibrary (Sample.creationRequest "v4") 7 (fun _ => .done)
    Sample.emptyDatabase Sample.emptyDatabase_absent
  have hleft : (sendCreateSession Sample.creationLibrary (Sample.creationRequest "v4") 7
      (fun _ => .done) Sample.emptyDatabase).1.toOption = none ∧
      7 ∈ (sendCreateSession Sample.creationLibrary (Sample.creationRequest "v4") 7
        (fun _ => .done) Sample.emptyDatabase).2.sessions.map (·.id) := by decide +kernel
  generalize sendCreateSession _ _ _ _ _ = result at hresult hleft
  obtain ⟨response, db⟩ := result
  cases response with
  | ok info => cases hleft.1
  | error e => exact hresult.session hleft.2

end SessionApi

end Liquifier
