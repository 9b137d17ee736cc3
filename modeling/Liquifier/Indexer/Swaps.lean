import Liquifier.Indexer.Amounts
import Liquifier.Indexer.TransientErrors

/-!
The swaps in the logs of a chain, and the events that are published of them.

The parser runs without the tokens of the pool, and the token cache fills while the workers
run, so one log can give several events. They differ in their tokens and in their time, and
say the same of the swap: the log it is in, its direction and the amount that leaves the pool.
-/

namespace Liquifier.Indexer

open TaskSystem TaskSystem.System

/-! ### What a log says of its swap -/

instance (sig : B256) (size : ℕ) (log : Log) : Decidable (IsSwapLog sig size log) :=
  decidable_of_iff
    (log.topics.head? = some sig ∧ 3 ≤ log.topics.length ∧ size ≤ log.data.length)
    ⟨fun h => ⟨h.1, h.2.1, h.2.2⟩, fun h => ⟨h.topic, h.indexed, h.words⟩⟩

/-- Token 0 is taken for the input. -/
def token0In (log : Log) : Bool :=
  if log.topics.head? = some uniswapV2SwapSig then amount0In log.data != 0
  else decide (0 ≤ amount0 log.data)

/-- What leaves the pool of the other token. -/
def amountOut (log : Log) : ℕ :=
  if log.topics.head? = some uniswapV2SwapSig then
    if token0In log then amount1Out log.data else amount0Out log.data
  else (if token0In log then amount1 log.data else amount0 log.data).natAbs

/-- The event is one of the swap of the log, whatever its tokens and its time. -/
structure SwapOf (chain : String) (log : Log) (event : DexSwapEvent) : Prop where
  isSwap : IsV2SwapLog log ∨ IsV3SwapLog log
  chain : event.chain = chain
  txHash : event.txHash = (log.transactionHash.map B256.debug).getD ""
  logIndex : event.logIndex = UInt32.ofNat (log.logIndex.getD 0)
  pool : event.poolAddress = log.address.debug
  direction : event.token0IsInput = token0In log
  amount : event.amountOut = toString (amountOut log)

variable {chain : String} {log : Log} {event : DexSwapEvent}

theorem SwapOf.congr (h : SwapOf chain log event) (timestamp : ℕ) (tokenIn tokenOut : String) :
    SwapOf chain log { event with
      timestamp := timestamp, tokenIn := tokenIn, tokenOut := tokenOut } :=
  ⟨h.isSwap, h.chain, h.txHash, h.logIndex, h.pool, h.direction, h.amount⟩

theorem natAbs_int256_lt {word : ℕ} (h : word < 2 ^ 256) : (int256 word).natAbs < 2 ^ 256 := by
  unfold int256
  split <;> omega

theorem amountOut_lt (log : Log) : amountOut log < U256.modulus := by
  unfold amountOut
  split
  · split <;> exact dataWord_lt log.data _
  · split <;> exact natAbs_int256_lt (dataWord_lt log.data _)

theorem uniswapV3SwapSig_ne : uniswapV3SwapSig ≠ uniswapV2SwapSig := by decide +kernel

/-- Only swap logs of the two kinds give events. -/
theorem isSwapLog_of_parse (h : parseSwapLog chain log = some event) :
    IsV2SwapLog log ∨ IsV3SwapLog log := by
  unfold parseSwapLog at h
  split at h
  · cases h
  · rename_i topic htopic
    dsimp only at h
    split at h
    · rename_i hv2
      unfold parseV2Swap at h
      split at h
      · rename_i htopics
        refine .inl ⟨hv2 ▸ htopic, by simp [htopics], ?_⟩
        exact Nat.le_of_not_lt (Option.ite_none_left_eq_some.mp h).1
      · cases h
    · obtain ⟨hv3, h⟩ := Option.ite_none_right_eq_some.mp h
      unfold parseV3Swap at h
      split at h
      · rename_i htopics
        refine .inr ⟨hv3 ▸ htopic, by simp [htopics], ?_⟩
        exact Nat.le_of_not_lt (Option.ite_none_left_eq_some.mp h).1
      · cases h

/-- What the parser copies from the log. -/
theorem parseSwapLog_copies (h : parseSwapLog chain log = some event) :
    event.chain = chain ∧ event.txHash = (log.transactionHash.map B256.debug).getD "" ∧
      event.logIndex = UInt32.ofNat (log.logIndex.getD 0) ∧
      event.poolAddress = log.address.debug := by
  unfold parseSwapLog at h
  split at h
  · cases h
  · dsimp only at h
    split at h
    · unfold parseV2Swap at h
      split at h
      · obtain ⟨-, h⟩ := Option.ite_none_left_eq_some.mp h
        cases h
        exact ⟨rfl, rfl, rfl, rfl⟩
      · cases h
    · obtain ⟨-, h⟩ := Option.ite_none_right_eq_some.mp h
      unfold parseV3Swap at h
      split at h
      · obtain ⟨-, h⟩ := Option.ite_none_left_eq_some.mp h
        cases h
        exact ⟨rfl, rfl, rfl, rfl⟩
      · cases h

theorem swapOf_of_parse (h : parseSwapLog chain log = some event) : SwapOf chain log event := by
  obtain ⟨hchain, htx, hindex, hpool⟩ := parseSwapLog_copies h
  have hreads : event.token0IsInput = token0In log ∧
      event.amountOut = toString (amountOut log) := by
    rcases isSwapLog_of_parse h with hv2 | hv3
    · obtain ⟨event', hparse, hflag, -, hout⟩ := parseSwapLog_v2 chain hv2
      obtain rfl := Option.some.inj (hparse.symm.trans h)
      have hin : token0In log = (amount0In log.data != 0) := if_pos hv2.topic
      refine ⟨hflag.trans hin.symm, hout.trans (congrArg toString ?_)⟩
      rw [amountOut, if_pos hv2.topic, hin]
      simp only [bne_iff_ne]
    · obtain ⟨event', hparse, hflag, -, hout⟩ := parseSwapLog_v3 chain hv3
      obtain rfl := Option.some.inj (hparse.symm.trans h)
      have hne : log.topics.head? ≠ some uniswapV2SwapSig := fun heq =>
        uniswapV3SwapSig_ne (Option.some.inj (hv3.topic.symm.trans heq))
      have hin : token0In log = decide (0 ≤ amount0 log.data) := if_neg hne
      refine ⟨hflag.trans hin.symm, hout.trans (congrArg toString ?_)⟩
      rw [amountOut, if_neg hne, hin]
      simp only [decide_eq_true_eq, apply_ite Int.natAbs]
  exact ⟨isSwapLog_of_parse h, hchain, htx, hindex, hpool, hreads.1, hreads.2⟩

/-! ### What the indexer publishes -/

theorem SwapOf.resolved {tokens : Address × Address} {event' : DexSwapEvent}
    (h : SwapOf chain log event) (hresolve : resolveTokens log tokens event = some event') :
    SwapOf chain log event' := by
  unfold Liquifier.Indexer.resolveTokens at hresolve
  dsimp only at hresolve
  split at hresolve
  · obtain ⟨-, hresolve⟩ := Option.ite_none_left_eq_some.mp hresolve
    split at hresolve
    · cases hresolve
      exact h.congr _ _ _
    · cases hresolve
      exact h.congr _ _ _
  · obtain ⟨-, hresolve⟩ := Option.ite_none_right_eq_some.mp hresolve
    obtain ⟨-, hresolve⟩ := Option.ite_none_left_eq_some.mp hresolve
    split at hresolve
    · cases hresolve
      exact h.congr _ _ _
    · cases hresolve
      exact h.congr _ _ _

theorem mem_publish {index : Index} {resolved : Option DexSwapEvent} {ok : Bool}
    (h : event ∈ (index.publish resolved ok).published) :
    event ∈ index.published ∨ resolved = some event := by
  cases resolved with
  | none => exact .inl h
  | some published =>
      cases ok with
      | false => exact .inl h
      | true =>
          rcases List.mem_append.mp h with h | h
          · exact .inl h
          · exact .inr (congrArg some (List.mem_singleton.mp h).symm)

section Indexing

variable {contracts : Contracts} {index index' : Index} {t t' : LogTask} {a : LogAct}

/-- What a worker publishes is of its log. -/
theorem LogSteps.swapOf (h : LogSteps chain contracts index t a index' t')
    (ht : t.Queries chain) :
    ∀ event ∈ index'.published, event ∈ index.published ∨ SwapOf chain t.log event := by
  cases h with
  | hit _ hparse _ =>
      refine fun event hmem => (mem_publish hmem).imp_right fun hresolve => ?_
      have hswap := (swapOf_of_parse hparse).congr t.blockTimestamp
      exact (hswap _ _).resolved hresolve
  | answered hquery =>
      refine fun event hmem => (mem_publish hmem).imp_right fun hresolve => ?_
      obtain ⟨parsed, hparse, rfl⟩ := ht _ hquery
      have hswap := (swapOf_of_parse hparse).congr t.blockTimestamp
      exact (hswap _ _).resolved hresolve
  | _ => exact fun _ hmem => .inl hmem

end Indexing

/-- The logs that the workers have been given, each as often as its block was processed. -/
def logs (c : Config Index LogTask) : List Log := c.tasks.map LogTask.log

/-- The events of the stream come from logs that a worker was given. -/
def Traced (chain : String) (c : Config Index LogTask) : Prop :=
  ∀ event ∈ c.store.published, ∃ log ∈ logs c, SwapOf chain log event

theorem traced_of_reaches {contracts : Contracts} {c : Config Index LogTask}
    (h : (indexer chain contracts).Reaches emptyIndex c) : Traced chain c := by
  refine h.invariant (I := Traced chain) (fun _ hevent => absurd hevent List.not_mem_nil) ?_
  intro c c' m hrun hI _ hn event hevent
  rcases next_cases hn with ⟨t, rfl, -, rfl⟩ | ⟨i, a, t, index', t', rfl, hacts, rfl⟩
  · obtain ⟨log, hlog, hswap⟩ := hI event hevent
    obtain ⟨u, hu, rfl⟩ := List.mem_map.mp hlog
    exact ⟨_, List.mem_map_of_mem (List.mem_append_left _ hu), hswap⟩
  · have hsteps := logSteps_of_logStep hacts.step
    have hstays {log : Log} (hlog : log ∈ logs c) : log ∈ logs ⟨index', c.tasks.set i t'⟩ := by
      obtain ⟨u, hu, rfl⟩ := List.mem_map.mp hlog
      rcases System.mem_set_or_eq hacts.at_index t' hu with hu | rfl
      · exact List.mem_map_of_mem hu
      · rw [← hsteps.log_eq.1]
        exact List.mem_map_of_mem hacts.mem_after
    rcases hsteps.swapOf (queries_of_reaches hrun t hacts.mem) event hevent with hold | hnew
    · obtain ⟨log, hlog, hswap⟩ := hI event hold
      exact ⟨log, hstays hlog, hswap⟩
    · exact ⟨t.log, hstays (List.mem_map_of_mem hacts.mem), hnew⟩

end Liquifier.Indexer
