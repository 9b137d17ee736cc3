import Liquifier.Gateway.DepositRecords

/-!
The outputs of the engine's own swaps among the deposits.

The output of a swap comes from the last pool of its route, and the filter knows the
pools that a session watches, which are first pools of routes, and only as long as the
session is active or pending. So a swap through one pool is filtered while its session
lasts, and nothing else is.
-/

namespace Liquifier.Gateway

open Kms TaskSystem

/-- No row was made for the output of a swap. -/
def NoOwnOutput (c : Config Backend BackendTask) : Prop :=
  ∀ r ∈ c.store.deposits, r.ownOutput = false

instance (c : Config Backend BackendTask) : Decidable (NoOwnOutput c) :=
  inferInstanceAs (Decidable (∀ r ∈ c.store.deposits, r.ownOutput = false))

/-- Where the output of a swap is checked, the query succeeds and a session tracks the
sender, or no row can be made for it anyway. -/
def FiltersOwn (env : Engine.Environment) (lib : Crates) (c : Config Backend BackendTask) :
    BackendTask → BackendAct → Prop
  | .deposit (.check d), .deposit (.query ok) => c.store.isOwnOutput env d = true →
      (ok = true ∧ isTrackedPoolOrPairTransfer c.store.world.db d.chain d.fromAddress = true) ∨
        c.store.Recorded d ∨ ¬ c.store.Refers lib d
  | _, _ => True

instance (env : Engine.Environment) (lib : Crates) (c : Config Backend BackendTask)
    (t : BackendTask) (a : BackendAct) : Decidable (FiltersOwn env lib c t a) := by
  unfold FiltersOwn
  split <;> infer_instance

/-- The runs in which every output of a swap is filtered. -/
abbrev FilteringRun (env : Engine.Environment) (lib : Crates) (sendsEmail : Bool)
    (c₀ c : Config Backend BackendTask) : Prop :=
  (backend env lib sendsEmail).Run (System.onActs (FiltersOwn env lib)) c₀ c

variable {env : Engine.Environment} {lib : Crates} {sendsEmail : Bool} {s s' : Backend}

/-! ### What is filtered -/

/-- A swap through one pool is filtered while its session is active or pending. -/
theorem isTracked_of_oneHop {db : Database} {session : SessionRow} {pool : PoolInfo}
    {event : DexSwapEvent} {hop fromAddress : String} {hopTokens : List String}
    {feeTiers : List ℕ} (hsession : session ∈ db.sessions)
    (hstatus : session.status = .active ∨ session.status = .pending)
    (hpool : pool ∈ db.poolsOf session.id)
    (hwatched : eqIgnoreAsciiCase pool.poolAddress event.poolAddress = true)
    (hroute : Engine.parsePoolSwapRoute env.jsonFromStr pool.swapPathJson event.poolAddress =
      some ⟨[hop], hopTokens, feeTiers⟩)
    (hsender : (lastHop env pool event).any (eqIgnoreAsciiCase · fromAddress) = true) :
    isTrackedPoolOrPairTransfer db session.chain fromAddress = true := by
  obtain ⟨first, hfirst, hhead⟩ := Engine.parsePoolSwapRoute_head hroute
  obtain rfl : hop = first := Option.some.inj hfirst
  have hsent : eqIgnoreAsciiCase hop fromAddress = true := by
    simpa [lastHop, hwatched, hroute] using hsender
  have hlower : eqIgnoreAsciiCase pool.poolAddress fromAddress = true := by
    rw [eqIgnoreAsciiCase_iff] at hwatched hhead hsent ⊢
    rw [hwatched, ← hhead, hsent]
  obtain ⟨⟨id, p⟩, hp, rfl⟩ := List.mem_map.mp hpool
  obtain ⟨hp, hid⟩ := List.mem_filter.mp hp
  have hid : session.id = id := (of_decide_eq_true hid).symm
  refine List.any_eq_true.mpr ⟨(id, p), hp, ?_⟩
  rw [Bool.and_eq_true, List.any_eq_true]
  refine ⟨by simp [hlower], session, hsession, ?_⟩
  rcases hstatus with hstatus | hstatus <;> simp [hid, hstatus]

/-! ### Runs -/

/-- The output of a swap stands before its `INSERT` only if no row can be made for it. -/
def HoldsNoOwn (lib : Crates) (s : Backend) (t : BackendTask) : Prop :=
  ∀ d, t = .deposit (.insert d) → d.ownOutput = true →
    s.Recorded d.toDepositEvent ∨ ¬ s.Refers lib d.toDepositEvent

theorem DepositMove.refers {phase phase' : DepositPhase} {a : DepositAct}
    (h : DepositMove env lib s phase a s' phase') (d : DepositEvent) :
    s'.Refers lib d ↔ s.Refers lib d := by
  cases h with
  | inserted =>
      unfold Backend.insertDeposit
      split <;> rfl
  | _ => rfl

/-- Users and wallets stay. -/
theorem BackendMove.refers {t t' : BackendTask} {a : BackendAct}
    (h : BackendMove env lib s t a s' t') (d : DepositEvent) :
    s'.Refers lib d ↔ s.Refers lib d := by
  cases h with
  | engine => rfl
  | deposit h => exact h.refers d

theorem HoldsNoOwn.mono {t : BackendTask} {u u' : BackendTask} {a : BackendAct}
    (h : HoldsNoOwn lib s t) (hmove : BackendMove env lib s u a s' u') :
    HoldsNoOwn lib s' t := by
  intro d ht hown
  rcases h d ht hown with hthere | hrefers
  · exact .inl (Backend.recorded_of_subset hmove.subset hthere)
  · exact .inr fun h => hrefers ((hmove.refers _).mp h)

theorem holdsNoOwn_of_filteringRun {c₀ c : Config Backend BackendTask} (h₀ : c₀.tasks = [])
    (h : FilteringRun env lib sendsEmail c₀ c) :
    ∀ t ∈ c.tasks, HoldsNoOwn lib c.store t := by
  refine h.assertions ?_ ?_ ?_ ?_
  · rw [h₀]
    exact fun t ht => nomatch ht
  · rintro c t _ _ hnew d rfl
    cases hnew
  · rintro c i a t s' t' _ hholds hfilters hacts d rfl hown
    have hmove := backend_move hacts
    cases hmove with
    | deposit hmove =>
        cases hmove with
        | passed hpassed =>
            rcases System.onActs_acts hfilters hacts hown with ⟨hok, htracked⟩ | hno
            · exact absurd htracked (by simpa [Backend.checked] using hpassed hok)
            · exact hno
  · intro c i a t s' t' _ hholds _ hacts u hu
    exact (hholds u hu).mono (backend_move hacts)

/-- A new row comes from the `INSERT` of a message that had none. -/
theorem DepositMove.new_row {phase phase' : DepositPhase} {a : DepositAct} {r : DepositRow}
    (h : DepositMove env lib s phase a s' phase') (hr : r ∈ s'.deposits) :
    r ∈ s.deposits ∨ ∃ d id, phase = .insert d ∧ r = d.row lib id ∧
      ¬ s.Recorded d.toDepositEvent ∧ s.Refers lib d.toDepositEvent := by
  cases h with
  | inserted =>
      rw [Backend.deposits_insertDeposit] at hr
      split at hr
      · rename_i hins
        rcases List.mem_append.mp hr with hr | hr
        · exact .inl hr
        · exact .inr ⟨_, _, rfl, List.mem_singleton.mp hr, hins.1, hins.2.2⟩
      · exact .inl hr
  | _ => exact .inl hr

theorem noOwnOutput_of_run {c₀ c : Config Backend BackendTask} (h₀ : c₀.tasks = [])
    (hrows : NoOwnOutput c₀) (h : FilteringRun env lib sendsEmail c₀ c) : NoOwnOutput c := by
  refine h.store_invariant (I := fun s : Backend => ∀ r ∈ s.deposits, r.ownOutput = false)
    hrows ?_
  intro c i a t s' t' hrun hrows _ hacts r hr
  have hmove := backend_move hacts
  cases hmove with
  | engine _ => exact hrows r hr
  | deposit hmove =>
      rcases hmove.new_row hr with hold | ⟨d, id, rfl, rfl, hmissing, hrefers⟩
      · exact hrows r hold
      · have hno := holdsNoOwn_of_filteringRun h₀ hrun _ hacts.mem d rfl
        change d.ownOutput = false
        rw [← Bool.not_eq_true]
        intro hown
        rcases hno hown with hthere | hnorefers
        · exact hmissing hthere
        · exact hnorefers hrefers

/-! ### An output that is recorded -/

theorem filtersOwn_cases {c : Config Backend BackendTask} {t : BackendTask} {a : BackendAct}
    (h : ¬ FiltersOwn env lib c t a) :
    ∃ d ok, t = .deposit (.check d) ∧ a = .deposit (.query ok) ∧
      c.store.isOwnOutput env d = true ∧
      (ok = true → isTrackedPoolOrPairTransfer c.store.world.db d.chain d.fromAddress = false) ∧
      ¬ c.store.Recorded d ∧ c.store.Refers lib d := by
  unfold FiltersOwn at h
  split at h
  · rename_i d ok
    simp only [not_forall, not_or, not_and, not_not, Bool.not_eq_true] at h
    obtain ⟨hown, htracked, hmissing, hrefers⟩ := h
    exact ⟨d, ok, rfl, rfl, hown, htracked, hmissing, hrefers⟩
  · exact absurd trivial h

variable (env lib sendsEmail) in
/-- The `INSERT` of a message without a row can make one. -/
theorem reaches_row {c : Config Backend BackendTask} {i : ℕ} {d : CheckedDeposit}
    (h : c.tasks[i]? = some (.deposit (.insert d))) (hmissing : ¬ c.store.Recorded d.toDepositEvent)
    (hrefers : c.store.Refers lib d.toDepositEvent) :
    ∃ c' id, (backend env lib sendsEmail).Reaches c c' ∧ d.row lib id ∈ c'.store.deposits := by
  obtain ⟨id, hid⟩ := c.store.exists_fresh
  have hacts : (backend env lib sendsEmail).Acts c i (.deposit (.insert id true))
      (.deposit (.insert d)) (c.store.insertDeposit lib d id true) (.deposit (.findUser d)) :=
    ⟨h, rfl⟩
  refine ⟨_, id, hacts.reaches, ?_⟩
  change d.row lib id ∈ (c.store.insertDeposit lib d id true).deposits
  rw [Backend.deposits_insertDeposit, if_pos ⟨hmissing, ⟨rfl, hid⟩, hrefers⟩]
  exact List.mem_append_right _ (List.mem_singleton.mpr rfl)

/-- In every run in which each output of a swap is filtered where it is checked, none has
a row. Every other check of one lets a run go on to the contrary. -/
theorem noOwnOutput_of_filteringRun (env : Engine.Environment) (lib : Crates)
    (sendsEmail : Bool) (db : Database) (users : Users) (wallets : List WalletRow) :
    (∀ c, FilteringRun env lib sendsEmail (backendStart db users wallets) c → NoOwnOutput c) ∧
    ∀ c c' m, FilteringRun env lib sendsEmail (backendStart db users wallets) c →
      ¬ System.onActs (FiltersOwn env lib) c m → (backend env lib sendsEmail).next c m = some c' →
        ∃ c'', (backend env lib sendsEmail).Reaches c' c'' ∧ ¬ NoOwnOutput c'' := by
  constructor
  · intro c h
    exact noOwnOutput_of_run rfl (fun r hr => absurd hr List.not_mem_nil) h
  · intro c c' m _ hfilters hnext
    obtain ⟨i, a, t, s', t', hfilters, hacts, rfl⟩ := System.next_of_not_onActs hfilters hnext
    obtain ⟨d, ok, rfl, rfl, hown, htracked, hmissing, hrefers⟩ := filtersOwn_cases hfilters
    have hself := hacts.at_index_after
    have hmove := backend_move hacts
    cases hmove with
    | deposit hmove =>
        cases hmove with
        | skipped hskipped => exact absurd hskipped (Bool.eq_false_iff.mp (htracked rfl))
        | passed _ =>
            obtain ⟨c'', id, hreach, hrow⟩ := reaches_row env lib sendsEmail
              (c := ⟨c.store, _⟩) (d := c.store.checked env d) hself hmissing hrefers
            refine ⟨c'', hreach, fun hnone => ?_⟩
            have hfalse : c.store.isOwnOutput env d = false := hnone _ hrow
            rw [hown] at hfalse
            cases hfalse

namespace Sample

def bridgePool : String := "0x7777777777777777777777777777777777777777"

/-- The route of the pool goes on through a second pool. -/
def bridgeEnv : Engine.Environment :=
  { Engine.Sample.directEnv with
    jsonFromStr := fun s => if s = "route" then
        some (.object [("hops", .array [.string Engine.Sample.poolAddress, .string bridgePool]),
          ("hop_tokens", .array [.string Engine.Sample.sellToken,
            .string Engine.Sample.wrappedNative, .string Engine.Sample.targetToken])])
      else none }

/-- The engine sells for session 1. -/
def sellsFirst : List (Move BackendTask BackendAct) :=
  .spawn (.engine (.delivery ⟨Engine.Sample.event "0xa1", [], .query⟩)) ::
    [.query (some [Engine.Sample.session 1]), .plan Engine.Sample.answers,
      .submit (some "0xb1") [.deliver]].map fun a => .act 0 (.engine a)

end Sample

/-- The engine sells through one pool, and the message about the output is filtered. -/
theorem noOwnOutput_of_filteringRun_sample :
    ∃ c : Config Backend BackendTask, Sample.acknowledges c = true ∧ NoOwnOutput c := by
  obtain ⟨c, hrun, hacked⟩ := System.exists_of_runIf Sample.depositSystem
    (System.onActs (FiltersOwn Engine.Sample.directEnv Sample.crates)) Sample.depositStart
    (Sample.sellsFirst ++
      (Sample.delivers 1 (Sample.transfer Engine.Sample.poolAddress "0xb1") true).take 3 ++
      [.act 1 (.deposit .proceed)])
    Sample.acknowledges (by decide +kernel)
  exact ⟨c, hacked, (noOwnOutput_of_filteringRun Engine.Sample.directEnv Sample.crates true
    Engine.Sample.database _ _).1 c hrun⟩

/-- The engine sells through two pools, and the output, which the second pool sends while
the session is active, becomes a deposit. -/
theorem own_output_recorded :
    ¬ ∀ c, (backend Sample.bridgeEnv Sample.crates true).Reaches Sample.depositStart c →
      NoOwnOutput c := by
  intro h
  obtain ⟨c, hreach, hrow⟩ := System.exists_of_run (backend Sample.bridgeEnv Sample.crates true)
    Sample.depositStart
    (Sample.sellsFirst ++ Sample.delivers 1 (Sample.transfer Sample.bridgePool "0xb1") true)
    (fun c => !decide (NoOwnOutput c)) (by decide +kernel)
  simp [h c hreach] at hrow

end Liquifier.Gateway
