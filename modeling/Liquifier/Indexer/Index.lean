import Liquifier.Indexer.Parser
import Liquifier.Lib.TaskSystem

/-!
The swap events that the indexer of a chain publishes.

Any number of workers process the logs of the blocks over one token cache. A
worker that finds no entry for a pool asks its contract, and another worker may
have written an entry by the time the answer comes. Transfers are the business of
deposit detection, which publishes on another subject.
-/

namespace Liquifier.Indexer

open TaskSystem TaskSystem.System

/-- What the pool contracts of a chain answer, where they answer. -/
structure Contracts where
  token0 : Address → Address
  token1 : Address → Address

namespace Contracts

variable (contracts : Contracts)

def pair (pool : Address) : Address × Address := (contracts.token0 pool, contracts.token1 pool)

/-- `token0` and `token1` are answers of the calls; `none` is an error. -/
def answers (pool : Address) (token0 token1 : Option Address) : Bool :=
  token0.all (· = contracts.token0 pool) && token1.all (· = contracts.token1 pool)

/-- The token that leaves the pool in a swap. -/
def tokenOut (pool : Address) (token0IsInput : Bool) : Address :=
  if token0IsInput then contracts.token1 pool else contracts.token0 pool

end Contracts

/-- `None` in the cache is an address that is known not to be a pool. -/
abbrev TokenCache := List (Address × Option (Address × Address))

/-- The second half of `resolve_tokens_for_event`, for the tokens of the pool. -/
def resolveTokens (log : Log) (tokens : Address × Address) (event : DexSwapEvent) :
    Option DexSwapEvent :=
  let token0In := { event with tokenIn := tokens.1.debug, tokenOut := tokens.2.debug }
  let token1In := { event with tokenIn := tokens.2.debug, tokenOut := tokens.1.debug }
  if event.dexType = "uniswap_v2" then
    if log.data.length < 128 then none
    else if dataWord log.data 0 ≠ 0 then some token0In
    else some token1In
  else if event.dexType = "uniswap_v3" then
    if log.data.length < 64 then none
    else if isNegative (dataWord log.data 0) then some token1In
    else some token0In
  else none

/-! ### The workers -/

structure Index where
  cache : TokenCache
  published : List DexSwapEvent

inductive LogPhase where
  | new
  | query (event : DexSwapEvent)
  | done

/-- One call of `process_receipt_log`. -/
structure LogTask where
  log : Log
  blockTimestamp : ℕ
  phase : LogPhase

/-- The cache is read, or the contract answers; `publish` tells whether the
message, if there is one, reaches the stream. -/
inductive LogAct where
  | read (publish : Bool)
  | answer (token0 token1 : Option Address) (publish : Bool)

/-- The end of `process_receipt_log`. -/
def Index.publish (index : Index) (event : Option DexSwapEvent) (ok : Bool) : Index :=
  match event with
  | some event => if ok then { index with published := index.published ++ [event] } else index
  | none => index

def logStep (chain : String) (contracts : Contracts) (a : LogAct) (index : Index) (t : LogTask) :
    Option (Index × LogTask) :=
  match t.phase, a with
  | .new, .read ok =>
      match parseSwapLog chain t.log with
      | none => some (index, { t with phase := .done })
      | some event =>
          let event := { event with timestamp := t.blockTimestamp }
          match index.cache.lookup t.log.address with
          | some (some tokens) =>
              some (index.publish (resolveTokens t.log tokens event) ok, { t with phase := .done })
          | some none => some (index, { t with phase := .done })
          | none => some (index, { t with phase := .query event })
  | .query event, .answer token0 token1 ok =>
      if contracts.answers t.log.address token0 token1 then
        match token0, token1 with
        | some token0, some token1 =>
            let index :=
              { index with cache := (t.log.address, some (token0, token1)) :: index.cache }
            some (index.publish (resolveTokens t.log (token0, token1) event) ok,
              { t with phase := .done })
        | _, _ =>
            some ({ index with cache := (t.log.address, none) :: index.cache },
              { t with phase := .done })
      else none
  | _, _ => none

def LogTask.isNew (t : LogTask) : Bool :=
  match t.phase with
  | .new => true
  | _ => false

def indexer (chain : String) (contracts : Contracts) : System Index LogTask LogAct :=
  ⟨LogTask.isNew, logStep chain contracts⟩

/-! ### What a step does -/

/-- All that a step of a worker can do. -/
inductive LogSteps (chain : String) (contracts : Contracts) (index : Index) (t : LogTask) :
    LogAct → Index → LogTask → Prop where
  | skip {ok : Bool} (hnew : t.phase = .new) (hparse : parseSwapLog chain t.log = none) :
      LogSteps chain contracts index t (.read ok) index { t with phase := .done }
  | hit {ok : Bool} {event : DexSwapEvent} {tokens : Address × Address} (hnew : t.phase = .new)
      (hparse : parseSwapLog chain t.log = some event)
      (hcached : index.cache.lookup t.log.address = some (some tokens)) :
      LogSteps chain contracts index t (.read ok)
        (index.publish (resolveTokens t.log tokens { event with timestamp := t.blockTimestamp }) ok)
        { t with phase := .done }
  | knownNonPool {ok : Bool} {event : DexSwapEvent} (hnew : t.phase = .new)
      (hparse : parseSwapLog chain t.log = some event)
      (hcached : index.cache.lookup t.log.address = some none) :
      LogSteps chain contracts index t (.read ok) index { t with phase := .done }
  | miss {ok : Bool} {event : DexSwapEvent} (hnew : t.phase = .new)
      (hparse : parseSwapLog chain t.log = some event)
      (hcached : index.cache.lookup t.log.address = none) :
      LogSteps chain contracts index t (.read ok) index
        { t with phase := .query { event with timestamp := t.blockTimestamp } }
  | answered {ok : Bool} {event : DexSwapEvent} (hquery : t.phase = .query event) :
      LogSteps chain contracts index t
        (.answer (some (contracts.token0 t.log.address)) (some (contracts.token1 t.log.address)) ok)
        (Index.publish
          { index with cache := (t.log.address, some (contracts.pair t.log.address)) :: index.cache }
          (resolveTokens t.log (contracts.pair t.log.address) event) ok)
        { t with phase := .done }
  | failed {ok : Bool} {event : DexSwapEvent} {token0 token1 : Option Address}
      (hquery : t.phase = .query event)
      (hfailed : ¬ (token0.isSome = true ∧ token1.isSome = true)) :
      LogSteps chain contracts index t (.answer token0 token1 ok)
        { index with cache := (t.log.address, none) :: index.cache } { t with phase := .done }

theorem logSteps_of_logStep {chain : String} {contracts : Contracts} {a : LogAct} {index index' : Index}
    {t t' : LogTask} (h : logStep chain contracts a index t = some (index', t')) :
    LogSteps chain contracts index t a index' t' := by
  unfold logStep at h
  split at h
  · rename_i ok hnew
    split at h
    · rename_i hparse
      cases h
      exact .skip hnew hparse
    · rename_i event hparse
      dsimp only at h
      split at h
      · rename_i tokens hcached
        cases h
        exact .hit hnew hparse hcached
      · rename_i hcached
        cases h
        exact .knownNonPool hnew hparse hcached
      · rename_i hcached
        cases h
        exact .miss hnew hparse hcached
  · rename_i event token0 token1 ok hquery
    obtain ⟨hanswers, h⟩ := Option.ite_none_right_eq_some.mp h
    split at h
    · rename_i t0 t1
      simp only [Contracts.answers, Option.all_some, Bool.and_eq_true, decide_eq_true_eq] at hanswers
      obtain ⟨rfl, rfl⟩ := hanswers
      cases h
      exact .answered hquery
    · rename_i hnone
      cases h
      refine .failed hquery fun ⟨h0, h1⟩ => ?_
      obtain ⟨t0, rfl⟩ := Option.isSome_iff_exists.mp h0
      obtain ⟨t1, rfl⟩ := Option.isSome_iff_exists.mp h1
      exact hnone t0 t1 rfl rfl
  · cases h

/-! ### What is published -/

/-- The direction and the output token of an event, against the contract of its
pool. -/
structure Resolved (contracts : Contracts) (event : DexSwapEvent) : Prop where
  out : ∃ pool : Address, event.poolAddress = pool.debug ∧
    event.tokenOut = (contracts.tokenOut pool event.token0IsInput).debug

/-- The pairs of the cache are those of the contracts. -/
structure Index.Sound (contracts : Contracts) (index : Index) : Prop where
  cache : ∀ pool tokens, (pool, some tokens) ∈ index.cache → tokens = contracts.pair pool
  published : ∀ event ∈ index.published, Resolved contracts event

def LogTask.Sound (t : LogTask) : Prop := ∀ event, t.phase = .query event → Describes t.log event

variable {chain : String} {contracts : Contracts}

theorem Describes.with_timestamp {log : Log} {event : DexSwapEvent} (h : Describes log event)
    (timestamp : ℕ) : Describes log { event with timestamp := timestamp } :=
  ⟨h.pool, h.direction⟩

/-- The token that the amounts of the log make the output is the one that the
flag of the event points to. -/
theorem resolveTokens_resolved {log : Log} {event event' : DexSwapEvent}
    (hlog : Describes log event)
    (h : resolveTokens log (contracts.pair log.address) event = some event') :
    Resolved contracts event' := by
  refine ⟨log.address, ?_⟩
  rcases hlog.direction with ⟨hkind, hlen, hflag⟩ | ⟨hkind, hlen, hflag⟩
  · rw [resolveTokens, if_pos hkind, if_neg (by omega)] at h
    split at h
    · rename_i hin
      cases h
      refine ⟨hlog.pool, ?_⟩
      simp [hflag, v2Token0IsInput, hin, Contracts.tokenOut, Contracts.pair]
    · rename_i hin
      cases h
      refine ⟨hlog.pool, ?_⟩
      simp [hflag, v2Token0IsInput, not_not.mp hin, Contracts.tokenOut, Contracts.pair]
  · rw [resolveTokens, if_neg (by simp [hkind]), if_pos hkind, if_neg (by omega)] at h
    split at h
    · rename_i hin
      cases h
      refine ⟨hlog.pool, ?_⟩
      simp [hflag, v3Token0IsInput, hin, Contracts.tokenOut, Contracts.pair]
    · rename_i hin
      cases h
      refine ⟨hlog.pool, ?_⟩
      simp [hflag, v3Token0IsInput, hin, Contracts.tokenOut, Contracts.pair]

theorem Index.Sound.publish {index : Index} (h : index.Sound contracts)
    {event : Option DexSwapEvent} (hevent : ∀ e, event = some e → Resolved contracts e)
    (ok : Bool) : (index.publish event ok).Sound contracts := by
  cases event with
  | none => exact h
  | some event =>
      cases ok with
      | false => exact h
      | true =>
          refine ⟨h.cache, fun e he => ?_⟩
          rcases List.mem_append.mp he with he | he
          · exact h.published e he
          · rw [List.mem_singleton.mp he]
            exact hevent event rfl

theorem Index.Sound.insert {index : Index} (h : index.Sound contracts) (pool : Address)
    (entry : Option (Address × Address)) (hentry : ∀ tokens, entry = some tokens →
      tokens = contracts.pair pool) :
    Index.Sound contracts { index with cache := (pool, entry) :: index.cache } := by
  refine ⟨fun other tokens hmem => ?_, h.published⟩
  rcases List.mem_cons.mp hmem with heq | hmem
  · obtain ⟨rfl, htokens⟩ := Prod.mk.inj heq
    exact hentry tokens htokens.symm
  · exact h.cache other tokens hmem

theorem mem_of_lookup {α β : Type} [DecidableEq α] {k : α} {v : β} {entries : List (α × β)}
    (h : entries.lookup k = some v) : (k, v) ∈ entries := by
  obtain ⟨before, after, rfl, _⟩ := List.lookup_eq_some_iff.mp h
  exact List.mem_append_right _ List.mem_cons_self

theorem Index.Sound.cached {index : Index} (h : index.Sound contracts) {pool : Address}
    {tokens : Address × Address} (hpool : index.cache.lookup pool = some (some tokens)) :
    tokens = contracts.pair pool :=
  h.cache pool tokens (mem_of_lookup hpool)

/-- A step of a worker keeps the cache and the stream sound. -/
theorem logStep_sound {a : LogAct} {index index' : Index} {t t' : LogTask}
    (hindex : index.Sound contracts) (ht : t.Sound)
    (h : logStep chain contracts a index t = some (index', t')) :
    index'.Sound contracts ∧ t'.Sound := by
  cases logSteps_of_logStep h with
  | hit _ hparse hcached =>
      -- a worker, this one or another, has asked the contract before
      have hdescribes := (parseSwapLog_describes hparse).with_timestamp t.blockTimestamp
      rw [hindex.cached hcached]
      exact ⟨hindex.publish (fun e he => resolveTokens_resolved hdescribes he) _,
        fun _ hphase => by cases hphase⟩
  | miss _ hparse =>
      refine ⟨hindex, fun _ hphase => ?_⟩
      cases hphase
      exact (parseSwapLog_describes hparse).with_timestamp t.blockTimestamp
  | answered hquery =>
      -- the answer is cached before the event is published
      have hnew := hindex.insert t.log.address (some (contracts.pair t.log.address))
        fun _ htokens => by cases htokens; rfl
      exact ⟨hnew.publish (fun e he => resolveTokens_resolved (ht _ hquery) he) _,
        fun _ hphase => by cases hphase⟩
  | failed =>
      exact ⟨hindex.insert _ _ (fun _ htokens => by cases htokens),
        fun _ hphase => by cases hphase⟩
  | skip => exact ⟨hindex, fun _ hphase => by cases hphase⟩
  | knownNonPool => exact ⟨hindex, fun _ hphase => by cases hphase⟩

theorem indexer_sound {c : Config Index LogTask}
    (h : (indexer chain contracts).Reaches ⟨⟨[], []⟩, []⟩ c) :
    c.store.Sound contracts ∧ ∀ t ∈ c.tasks, t.Sound := by
  refine h.invariant (I := fun c => c.store.Sound contracts ∧ ∀ t ∈ c.tasks, t.Sound)
    ⟨⟨by simp, by simp⟩, by simp⟩ ?_
  intro c c' m _ hI _ hn
  rcases next_cases hn with ⟨t, rfl, hentry, rfl⟩ | ⟨i, a, t, s', t', rfl, hacts, rfl⟩
  · refine ⟨hI.1, fun u hu => ?_⟩
    rcases List.mem_append.mp hu with hu | hu
    · exact hI.2 u hu
    · rw [List.mem_singleton.mp hu]
      intro event hphase
      simp [indexer, LogTask.isNew, hphase] at hentry
  · have hstep := logStep_sound hI.1 (hI.2 t hacts.mem) hacts.step
    refine ⟨hstep.1, fun u hu => ?_⟩
    rcases List.mem_or_eq_of_mem_set hu with hu | rfl
    · exact hI.2 u hu
    · exact hstep.2

/-- Every event that the indexer publishes names the output token that the
contract of its pool has at the side that the flag of the event points to. -/
theorem indexer_resolved {c : Config Index LogTask}
    (h : (indexer chain contracts).Reaches ⟨⟨[], []⟩, []⟩ c) :
    ∀ event ∈ c.store.published, Resolved contracts event :=
  (indexer_sound h).1.published

end Liquifier.Indexer
