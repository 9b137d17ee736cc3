import Liquifier.Indexer.Index
import Mathlib.Algebra.Order.BigOperators.Group.List

/-!
What a failed call to a pool does to the later swaps of the pool.

The cache keeps one entry for an address whose contract has no tokens and for one that could
not be asked, so a transport error counts as an answer. The entry stays for the life of the
process, and no log of the address is published any more.
-/

namespace Liquifier.Indexer

open TaskSystem TaskSystem.System

/-- The node and the stream work for the step. -/
def LogAct.Works : LogAct → Prop
  | .read publish => publish = true
  | .answer token0 token1 publish =>
      token0.isSome = true ∧ token1.isSome = true ∧ publish = true

/-- A call to the pool answers; the pool has both tokens, so only a transport error keeps
it from answering. -/
def Answers (pool : Address) (_ : Config Index LogTask) (t : LogTask) : LogAct → Prop
  | .read _ => True
  | .answer token0 token1 _ =>
      t.log.address = pool → token0.isSome = true ∧ token1.isSome = true

/-- The event of a swap log, with the tokens of its pool. -/
def swapEvent (chain : String) (contracts : Contracts) (t : LogTask) : Option DexSwapEvent :=
  (parseSwapLog chain t.log).bind fun event =>
    resolveTokens t.log (contracts.pair t.log.address) { event with timestamp := t.blockTimestamp }

/-- The task is done at the end of the run, and node and stream have worked for it. -/
structure Processed (ms : List (Move LogTask LogAct)) (c : Config Index LogTask) (i : ℕ)
    (t : LogTask) : Prop where
  at_index : c.tasks[i]? = some t
  done : t.phase = .done
  works : ∀ a, .act i a ∈ ms → a.Works

/-- Every swap log of the pool that was processed with node and stream at work is published. -/
def AllPublished (chain : String) (contracts : Contracts) (pool : Address)
    (ms : List (Move LogTask LogAct)) (c : Config Index LogTask) : Prop :=
  ∀ i t event, Processed ms c i t → t.log.address = pool →
    swapEvent chain contracts t = some event → event ∈ c.store.published

/-- The state in which the indexer starts. -/
def emptyIndex : Config Index LogTask := ⟨⟨[], []⟩, []⟩

variable {chain : String} {contracts : Contracts} {pool : Address}

/-! ### What a step does -/

section Step

variable {a : LogAct} {index index' : Index} {t t' : LogTask}

theorem subset_publish (index : Index) (event : Option DexSwapEvent) (ok : Bool) :
    index.published ⊆ (index.publish event ok).published := by
  cases event with
  | none => exact List.Subset.refl _
  | some event =>
      cases ok with
      | false => exact List.Subset.refl _
      | true => exact List.subset_append_left _ _

@[simp] theorem cache_publish (index : Index) (event : Option DexSwapEvent) (ok : Bool) :
    (index.publish event ok).cache = index.cache := by
  cases event with
  | none => rfl
  | some event => cases ok <;> rfl

/-- What is published stays. -/
theorem LogSteps.published_subset (h : LogSteps chain contracts index t a index' t') :
    index.published ⊆ index'.published := by
  cases h with
  | hit => exact subset_publish _ _ _
  | answered => exact fun e he => subset_publish _ _ _ he
  | _ => exact List.Subset.refl _

/-- The event that a task asks the contract for is the one of its log. -/
def LogTask.Queries (chain : String) (t : LogTask) : Prop :=
  ∀ event, t.phase = .query event →
    ∃ parsed, parseSwapLog chain t.log = some parsed ∧
      event = { parsed with timestamp := t.blockTimestamp }

theorem LogSteps.queries (h : LogSteps chain contracts index t a index' t') :
    t'.Queries chain := by
  intro event hquery
  cases h with
  | miss _ hparse =>
      cases hquery
      exact ⟨_, hparse, rfl⟩
  | _ => cases hquery

/-- No entry says that the pool is none. -/
def Index.Knows (pool : Address) (index : Index) : Prop := (pool, none) ∉ index.cache

theorem LogSteps.knows (h : LogSteps chain contracts index t a index' t')
    (hindex : index.Knows pool) {c : Config Index LogTask} (hanswers : Answers pool c t a) :
    index'.Knows pool := by
  cases h with
  | hit => rwa [Index.Knows, cache_publish]
  | answered =>
      rw [Index.Knows, cache_publish]
      intro hmem
      rcases List.mem_cons.mp hmem with heq | hmem
      · cases heq
      · exact hindex hmem
  | failed _ hfailed =>
      intro hmem
      rcases List.mem_cons.mp hmem with heq | hmem
      · exact hfailed (hanswers (Prod.mk.inj heq).1.symm)
      · exact hindex hmem
  | _ => exact hindex

/-- A step that works and ends its task publishes the event of the log, unless the cache
says that the address is no pool. -/
theorem LogSteps.published (h : LogSteps chain contracts index t a index' t')
    (hsound : index.Sound contracts) (hqueries : t.Queries chain)
    (hknows : index.Knows t.log.address) (hworks : a.Works) (hdone : t'.phase = .done)
    {event : DexSwapEvent} (hevent : swapEvent chain contracts t = some event) :
    event ∈ index'.published := by
  cases h with
  | skip _ hparse =>
      rw [swapEvent, hparse] at hevent
      cases hevent
  | hit _ hparse hcached =>
      rw [swapEvent, hparse, Option.bind_some] at hevent
      obtain rfl : _ = true := hworks
      rw [hsound.cached hcached, hevent]
      exact List.mem_append_right _ List.mem_cons_self
  | knownNonPool _ _ hcached => exact absurd (mem_of_lookup hcached) hknows
  | miss => cases hdone
  | answered hquery =>
      obtain ⟨parsed, hparse, rfl⟩ := hqueries _ hquery
      rw [swapEvent, hparse, Option.bind_some] at hevent
      obtain rfl : _ = true := hworks.2.2
      rw [hevent]
      exact List.mem_append_right _ List.mem_cons_self
  | failed _ hfailed => exact absurd ⟨hworks.1, hworks.2.1⟩ hfailed

theorem LogSteps.log_eq (h : LogSteps chain contracts index t a index' t') :
    t'.log = t.log ∧ t'.blockTimestamp = t.blockTimestamp := by
  cases h <;> exact ⟨rfl, rfl⟩

end Step

/-! ### Runs without a failed call -/

section Runs

variable {c c' : Config Index LogTask} {ms : List (Move LogTask LogAct)}

theorem queries_of_reaches (h : (indexer chain contracts).Reaches emptyIndex c) :
    ∀ t ∈ c.tasks, t.Queries chain := by
  refine h.invariant (I := fun c => ∀ t ∈ c.tasks, t.Queries chain) (by simp [emptyIndex]) ?_
  intro c c' m _ hI _ hn u hu
  rcases next_cases hn with ⟨t, rfl, hentry, rfl⟩ | ⟨i, a, t, s', t', rfl, hacts, rfl⟩
  · rcases List.mem_append.mp hu with hu | hu
    · exact hI u hu
    · rw [List.mem_singleton.mp hu]
      intro event hphase
      simp [indexer, LogTask.isNew, hphase] at hentry
  · rcases List.mem_or_eq_of_mem_set hu with hu | rfl
    · exact hI u hu
    · exact (logSteps_of_logStep hacts.step).queries

theorem published_subset_of_run (h : (indexer chain contracts).run c ms = some c') :
    c.store.published ⊆ c'.store.published := by
  induction ms generalizing c with
  | nil =>
      cases h
      exact List.Subset.refl _
  | cons m ms ih =>
      obtain ⟨d, hd, hrun⟩ := Option.bind_eq_some_iff.mp h
      refine List.Subset.trans ?_ (ih hrun)
      rcases next_cases hd with ⟨t, rfl, hentry, rfl⟩ | ⟨i, a, t, s', t', rfl, hacts, rfl⟩
      · exact List.Subset.refl _
      · exact (logSteps_of_logStep hacts.step).published_subset

/-- As long as every call to the pool answers, no entry says that the pool is none. -/
theorem knows_of_run
    (h : (indexer chain contracts).Run (onActs (Answers pool)) emptyIndex c) :
    c.store.Knows pool := by
  have h₀ : Index.Knows pool emptyIndex.store := List.not_mem_nil
  refine h.store_invariant (I := Index.Knows pool) h₀ ?_
  intro c i a t s' t' _ hI hG hacts
  exact (logSteps_of_logStep hacts.step).knows hI (onActs_acts hG hacts)

/-- In a run without a failed call to the pool every log of the pool is published. -/
theorem allPublished_of_keeps
    (hkeeps : (indexer chain contracts).Keeps (onActs (Answers pool)) emptyIndex ms)
    (h : (indexer chain contracts).run emptyIndex ms = some c) :
    AllPublished chain contracts pool ms c := by
  intro i t event hprocessed hpool hevent
  obtain ⟨pre, a, post, c₁, t₁, s', rfl, hpre, hacts⟩ := exists_last_act h
    (P := fun t => t.phase = .done) (by simp [emptyIndex])
    (fun t hentry hdone => by simp [indexer, LogTask.isNew, hdone] at hentry)
    hprocessed.at_index hprocessed.done
  have hstep := logSteps_of_logStep hacts.step
  obtain ⟨hlog, htimestamp⟩ := hstep.log_eq
  have hreaches := reaches_of_run hpre
  have hknows := knows_of_run (((keeps_append hpre _).mp hkeeps).1.run .refl hpre)
  have hevent₁ : swapEvent chain contracts t₁ = some event := by
    rw [← hevent, swapEvent, swapEvent, hlog, htimestamp]
  have hpublished := hstep.published (indexer_sound hreaches).1
    (queries_of_reaches hreaches t₁ hacts.mem) (by rwa [← hlog, hpool])
    (hprocessed.works a (by simp)) hprocessed.done hevent₁
  rw [run_append, hpre, Option.bind_some] at h
  obtain ⟨d, hd, hrest⟩ := Option.bind_eq_some_iff.mp h
  rw [next_act hacts, Option.some.injEq] at hd
  subst hd
  exact published_subset_of_run hrest hpublished

/-- The amounts of a swap log are enough for its tokens to be resolved. -/
theorem exists_resolveTokens {log : Log} {event : DexSwapEvent} (h : Describes log event)
    (tokens : Address × Address) :
    ∃ e, resolveTokens log tokens event = some e ∧ e.timestamp = event.timestamp := by
  rcases h.direction with ⟨hkind, hlen, -⟩ | ⟨hkind, hlen, -⟩
  · rw [resolveTokens, if_pos hkind, if_neg (by omega)]
    split
    · exact ⟨_, rfl, rfl⟩
    · exact ⟨_, rfl, rfl⟩
  · rw [resolveTokens, if_neg (by simp [hkind]), if_pos hkind, if_neg (by omega)]
    split
    · exact ⟨_, rfl, rfl⟩
    · exact ⟨_, rfl, rfl⟩

/-- A log can come at a time at which nothing has been published. -/
theorem exists_fresh_timestamp (events : List DexSwapEvent) :
    ∃ timestamp, ∀ e ∈ events, e.timestamp ≠ timestamp := by
  refine ⟨(events.map (·.timestamp)).sum + 1, fun e he heq => ?_⟩
  have hle := List.single_le_sum (fun _ _ => Nat.zero_le _) _
    (List.mem_map_of_mem (f := (·.timestamp)) he)
  omega

/-- After a failed call the next log of the pool is lost, though node and stream work. -/
theorem exists_unpublished {c₁ : Config Index LogTask} {m : Move LogTask LogAct}
    (h : (indexer chain contracts).run emptyIndex ms = some c)
    (hfails : ¬ onActs (Answers pool) c m) (hnext : (indexer chain contracts).next c m = some c₁) :
    ∃ rest c', (indexer chain contracts).run c₁ rest = some c' ∧
      (indexer chain contracts).Keeps (onActs (Answers pool)) c₁ rest ∧
      ¬ AllPublished chain contracts pool (ms ++ m :: rest) c' := by
  rcases next_cases hnext with ⟨t, rfl, _, rfl⟩ | ⟨i, a, t, s', t', rfl, hacts, rfl⟩
  · exact absurd trivial hfails
  have hanswers : ¬ Answers pool c t a := fun hg => hfails fun u hu => by
    rw [hacts.at_index] at hu
    rwa [← Option.some.inj hu]
  have hstep := logSteps_of_logStep hacts.step
  cases hstep with
  | failed hquery hfailed =>
      have hpool : t.log.address = pool := by
        by_contra hne
        exact hanswers fun heq => absurd heq hne
      obtain ⟨parsed, hparse, -⟩ := queries_of_reaches (reaches_of_run h) t hacts.mem _ hquery
      obtain ⟨timestamp, hfresh⟩ := exists_fresh_timestamp c.store.published
      obtain ⟨event, hevent, htimestamp⟩ := exists_resolveTokens
        ((parseSwapLog_describes hparse).with_timestamp timestamp) (contracts.pair t.log.address)
      let tasks := c.tasks.set i { t with phase := .done }
      let index := { c.store with cache := (t.log.address, none) :: c.store.cache }
      let log (phase : LogPhase) : LogTask := ⟨t.log, timestamp, phase⟩
      have hread : (indexer chain contracts).Acts ⟨index, tasks ++ [log .new]⟩ tasks.length
          (.read true) (log .new) index (log .done) :=
        ⟨by simp, by simp [indexer, logStep, log, index, hparse]⟩
      have hrun : (indexer chain contracts).run ⟨index, tasks⟩
          [.spawn (log .new), .act tasks.length (.read true)] =
            some ⟨index, (tasks ++ [log .new]).set tasks.length (log .done)⟩ := by
        have hspawn : (indexer chain contracts).next ⟨index, tasks⟩ (.spawn (log .new)) =
            some ⟨index, tasks ++ [log .new]⟩ := by
          simp [next, indexer, LogTask.isNew, log]
        rw [run, hspawn, Option.bind_some, run, next_act hread]
        rfl
      refine ⟨_, _, hrun, ⟨trivial, fun _ _ => ⟨fun _ _ => trivial, fun _ _ => trivial⟩⟩, ?_⟩
      intro hall
      have hlost := hall tasks.length (log .done) event ⟨hread.at_index_after, rfl, ?_⟩ hpool ?_
      · exact hfresh event hlost htimestamp
      · intro b hb
        have hlength : tasks.length = c.tasks.length := List.length_set
        rcases List.mem_append.mp hb with hb | hb
        · have hlt := lt_length_of_mem_run h hb
          omega
        · rcases List.mem_cons.mp hb with heq | hb
          · obtain ⟨hindex, -⟩ := Move.act.inj heq
            have hlt := hacts.lt_length
            omega
          · simp only [List.mem_cons, List.not_mem_nil, or_false, reduceCtorEq, false_or,
              Move.act.injEq] at hb
            rw [hb.2]
            rfl
      · rw [swapEvent, hparse]
        exact hevent
  | _ => exact absurd (by simp [Answers]) hanswers

end Runs

/-- No call to the pool fails in a run if and only if, at every moment of the run, all swap
logs of the pool that are processed with node and stream at work are published as long as
no later call fails. -/
theorem allPublished_iff_answers (chain : String) (contracts : Contracts) (pool : Address)
    {ms : List (Move LogTask LogAct)} {c : Config Index LogTask}
    (h : (indexer chain contracts).run emptyIndex ms = some c) :
    (indexer chain contracts).Keeps (onActs (Answers pool)) emptyIndex ms ↔
      ∀ pre rest c₁ c', pre <+: ms → (indexer chain contracts).run emptyIndex pre = some c₁ →
        (indexer chain contracts).Keeps (onActs (Answers pool)) c₁ rest →
        (indexer chain contracts).run c₁ rest = some c' →
          AllPublished chain contracts pool (pre ++ rest) c' := by
  constructor
  · rintro hkeeps pre rest c₁ c' ⟨post, rfl⟩ hpre hrest hrun
    refine allPublished_of_keeps ((keeps_append hpre rest).mpr
      ⟨((keeps_append hpre post).mp hkeeps).1, hrest⟩) ?_
    rw [run_append, hpre]
    exact hrun
  · intro hall
    induction ms using List.reverseRecOn generalizing c with
    | nil => trivial
    | append_singleton ms m ih =>
        rw [run_append, Option.bind_eq_some_iff] at h
        obtain ⟨d, hd, hm⟩ := h
        have hm : (indexer chain contracts).next d m = some c := by simpa [run] using hm
        refine (keeps_append hd [m]).mpr ⟨ih hd fun pre rest c₁ c' hpre =>
          hall pre rest c₁ c' (hpre.trans (List.prefix_append ms [m])), ?_, fun _ _ => trivial⟩
        by_contra hfails
        obtain ⟨rest, c', hrun, hrest, hlost⟩ := exists_unpublished hd hfails hm
        have hpre : (indexer chain contracts).run emptyIndex (ms ++ [m]) = some c := by
          rw [run_append, hd]
          simpa [run] using hm
        have hpublished := hall (ms ++ [m]) rest c c' List.prefix_rfl hpre hrest hrun
        rw [List.append_assoc, List.singleton_append] at hpublished
        exact hlost hpublished

/-! ### A sample

Two swaps in one V2 pool, of which the first cannot ask the contract, or can. -/

namespace Sample

def pairAddress : Address := ⟨List.replicate 20 0x99, by decide⟩

def pairContracts : Contracts :=
  ⟨fun _ => ⟨List.replicate 20 0x44, by decide⟩, fun _ => ⟨List.replicate 20 0x55, by decide⟩⟩

/-- 1 unit of token 0 comes in, and 2 of token 1 go out. -/
def pairLog : Log where
  address := pairAddress
  topics := [uniswapV2SwapSig, ⟨List.replicate 32 3, by decide⟩, ⟨List.replicate 32 4, by decide⟩]
  data := List.replicate 31 0 ++ [1] ++ List.replicate 64 0 ++ List.replicate 31 0 ++ [2]
  blockNumber := some 300
  transactionHash := none
  logIndex := some 5

def pairRun (token0 token1 : Option Address) : List (Move LogTask LogAct) :=
  [.spawn ⟨pairLog, 1, .new⟩, .act 0 (.read true), .act 0 (.answer token0 token1 true),
    .spawn ⟨pairLog, 2, .new⟩, .act 1 (.read true)]

/-- The second swap is done, and it has an event. -/
def secondDone (c : Config Index LogTask) : Bool :=
  c.tasks[1]?.any fun t => t.phase matches .done && t.log.address = pairAddress &&
    (swapEvent "bsc" pairContracts t).isSome

end Sample

/-- The contract answers, and both swaps are published. -/
theorem allPublished_iff_answers_sample :
    ∃ c, (indexer "bsc" Sample.pairContracts).run emptyIndex
        (Sample.pairRun (some (Sample.pairContracts.token0 Sample.pairAddress))
          (some (Sample.pairContracts.token1 Sample.pairAddress))) = some c ∧
      Sample.secondDone c = true ∧
      AllPublished "bsc" Sample.pairContracts Sample.pairAddress
        (Sample.pairRun (some (Sample.pairContracts.token0 Sample.pairAddress))
          (some (Sample.pairContracts.token1 Sample.pairAddress))) c := by
  obtain ⟨c, hc, hdone⟩ := (Option.any_eq_true _ _).mp (show
    ((indexer "bsc" Sample.pairContracts).run emptyIndex
      (Sample.pairRun (some (Sample.pairContracts.token0 Sample.pairAddress))
        (some (Sample.pairContracts.token1 Sample.pairAddress)))).any Sample.secondDone = true
    by decide +kernel)
  refine ⟨c, hc, hdone, ?_⟩
  have hall := (allPublished_iff_answers "bsc" Sample.pairContracts Sample.pairAddress hc).mp
    ⟨trivial, fun _ _ => ⟨fun _ _ => trivial, fun _ _ => ⟨fun _ _ _ => ⟨rfl, rfl⟩,
      fun _ _ => ⟨trivial, fun _ _ => ⟨fun _ _ => trivial, fun _ _ => trivial⟩⟩⟩⟩⟩
  have hlast := hall _ [] c c List.prefix_rfl hc trivial rfl
  rwa [List.append_nil] at hlast

/-- The first swap cannot ask the contract, and the second is not published though nothing
fails any more. -/
theorem swap_lost_after_transient_error :
    ¬ ∀ chain contracts pool ms c, (indexer chain contracts).run emptyIndex ms = some c →
      AllPublished chain contracts pool ms c := by
  intro h
  obtain ⟨c, hc, hlost⟩ := (Option.any_eq_true _ _).mp (show
    ((indexer "bsc" Sample.pairContracts).run emptyIndex (Sample.pairRun none none)).any
      (fun c => c.store.published.isEmpty && Sample.secondDone c) = true by decide +kernel)
  obtain ⟨hempty, hdone⟩ := Bool.and_eq_true_iff.mp hlost
  obtain ⟨t, ht, hdone⟩ := (Option.any_eq_true _ _).mp hdone
  simp only [Bool.and_eq_true, decide_eq_true_eq] at hdone
  obtain ⟨⟨hphase, hpool⟩, hevent⟩ := hdone
  obtain ⟨event, hevent⟩ := Option.isSome_iff_exists.mp hevent
  have hpublished := h _ _ _ _ c hc 1 t event ⟨ht, ?_, ?_⟩ hpool hevent
  · rw [List.isEmpty_iff.mp hempty] at hpublished
    cases hpublished
  · split at hphase
    · assumption
    · cases hphase
  · intro a ha
    simp [Sample.pairRun] at ha
    rw [ha]
    rfl

end Liquifier.Indexer
