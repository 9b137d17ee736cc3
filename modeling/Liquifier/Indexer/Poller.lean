import Mathlib.Data.List.Basic
import Mathlib.Data.List.Range

/-!
The block poller of the indexer.

The poller asks for the height of the chain again and again and puts every block
number that is new on a queue, from which the workers take. A full queue makes it
wait. `index_chain` keeps a handle of the receiver itself, so the queue does not close
under the poller even if all workers are gone.
-/

namespace Liquifier.Indexer

/-- Where the loop of the poller is. -/
inductive PollPhase where
  /-- At `get_block_number`. -/
  | polling
  /-- At the `send` of `next`, with the blocks up to `latest` to come. -/
  | sending (next latest : ℕ)
  /-- After `Block queue closed unexpectedly`. -/
  | failed
  deriving DecidableEq

structure Poller where
  lastEnqueued : ℕ
  phase : PollPhase
  /-- All that was ever put on the queue. -/
  enqueued : List ℕ
  /-- How much of it the workers have taken. -/
  taken : ℕ
  workers : ℕ
  deriving DecidableEq

inductive PollEvent where
  /-- The answer of `get_block_number`; `none` is an error. -/
  | answer (height : Option ℕ)
  | send
  /-- A worker takes a block number. -/
  | take
  /-- A worker ends. -/
  | exit
  deriving DecidableEq

namespace Poller

/-- The poller after the first height. -/
def start (workerCount height : ℕ) : Poller := ⟨height, .polling, [], 0, max workerCount 1⟩

variable (s : Poller)

/-- The handles of the receiver: one for each worker, and the one of `index_chain`. -/
def receivers : ℕ := s.workers + 1

theorem receivers_ne_zero : s.receivers ≠ 0 := Nat.succ_ne_zero s.workers

def answered : Option ℕ → Poller
  | some latest =>
      if s.lastEnqueued < latest then { s with phase := .sending (s.lastEnqueued + 1) latest }
      else s
  | none => s

theorem answered_cases (answer : Option ℕ) :
    s.answered answer = s ∨ ∃ latest, s.lastEnqueued < latest ∧
      s.answered answer = { s with phase := .sending (s.lastEnqueued + 1) latest } := by
  cases answer with
  | none => exact .inl rfl
  | some latest =>
      rw [answered]
      split
      · exact .inr ⟨latest, ‹_›, rfl⟩
      · exact .inl rfl

def sent (next latest : ℕ) : Poller :=
  if next < latest then
    { s with enqueued := s.enqueued ++ [next], phase := .sending (next + 1) latest }
  else { s with enqueued := s.enqueued ++ [next], phase := .polling, lastEnqueued := latest }

/-- One step of the poller or of a worker, where it is possible. -/
def step (blockQueueSize : ℕ) : PollEvent → Option Poller
  | .answer height =>
      match s.phase with
      | .polling => some (s.answered height)
      | _ => none
  | .send =>
      match s.phase with
      | .sending next latest =>
          if s.receivers = 0 then some { s with phase := .failed }
          else if s.enqueued.length - s.taken < max blockQueueSize 1 then some (s.sent next latest)
          else none
      | _ => none
  | .take =>
      if 0 < s.workers ∧ s.taken < s.enqueued.length then some { s with taken := s.taken + 1 }
      else none
  | .exit => if 0 < s.workers then some { s with workers := s.workers - 1 } else none

/-- A run of the poller and its workers. -/
def run (blockQueueSize : ℕ) (events : List PollEvent) : Option Poller :=
  events.foldlM (fun s e => s.step blockQueueSize e) s

theorem run_concat {blockQueueSize : ℕ} {events : List PollEvent} {event : PollEvent}
    {s s' : Poller} :
    s.run blockQueueSize (events ++ [event]) = some s' ↔
      ∃ t, s.run blockQueueSize events = some t ∧ t.step blockQueueSize event = some s' := by
  simp [run, List.foldlM_append, Option.bind_eq_some_iff]

end Poller

/-! ### What was seen and what is still to come -/

/-- The answer, if the event is one. -/
def PollEvent.given : PollEvent → Option (Option ℕ)
  | .answer height => some height
  | _ => none

/-- The height in an answer. -/
def PollEvent.height (event : PollEvent) : Option ℕ := event.given.join

/-- The largest height so far, the first one included. -/
def highest (height : ℕ) (events : List PollEvent) : ℕ :=
  (events.filterMap PollEvent.height).foldl max height

theorem highest_concat (height : ℕ) (events : List PollEvent) (event : PollEvent) :
    highest height (events ++ [event]) =
      event.height.elim (highest height events) (max (highest height events)) := by
  simp only [highest, List.filterMap_append, List.foldl_append, List.filterMap_cons,
    List.filterMap_nil]
  cases event.height <;> rfl

/-- The block numbers that the poller is about to put on the queue. -/
def PollPhase.pending : PollPhase → List ℕ
  | .sending next latest => List.range' next (latest + 1 - next)
  | _ => []

@[simp] theorem pending_polling : PollPhase.polling.pending = [] := rfl

/-- The poller is working for the highest block. -/
def Poller.WorksFor (s : Poller) (highest : ℕ) : Prop :=
  match s.phase with
  | .polling => s.lastEnqueued = highest
  | .sending next latest => next ≤ latest ∧ latest = highest
  | .failed => False

/-- With what is pending, the queue has had every number up to the highest. -/
structure Complete (height highest : ℕ) (s : Poller) : Prop where
  le_highest : height ≤ highest
  worksFor : s.WorksFor highest
  numbers : s.enqueued ++ s.phase.pending = List.range' (height + 1) (highest - height)

theorem complete_start (workerCount height : ℕ) :
    Complete height height (Poller.start workerCount height) where
  le_highest := le_rfl
  worksFor := rfl
  numbers := by rw [Nat.sub_self]; rfl

variable {height m : ℕ} {s s' : Poller}

/-- A height above the last block makes the blocks between them pending. -/
theorem Complete.answered (h : Complete height m s) (hphase : s.phase = .polling)
    (answer : Option ℕ) : Complete height (answer.elim m (max m)) (s.answered answer) := by
  obtain ⟨hle, hworks, hnumbers⟩ := h
  simp only [Poller.WorksFor, hphase] at hworks
  simp only [hphase, PollPhase.pending, List.append_nil] at hnumbers
  cases answer with
  | none => exact ⟨hle, by rwa [Poller.answered, Poller.WorksFor, hphase], by
      simpa [Poller.answered, hphase, PollPhase.pending] using hnumbers⟩
  | some latest =>
      rw [Option.elim_some, Poller.answered, hworks]
      split
      · rename_i hlt
        rw [max_eq_right hlt.le]
        refine ⟨hle.trans hlt.le, ⟨hlt, rfl⟩, ?_⟩
        have hnext : m + 1 = height + 1 + (m - height) := by omega
        have hcount : latest - height = m - height + (latest + 1 - (m + 1)) := by omega
        rw [hnumbers, PollPhase.pending, hcount, hnext, List.range'_append_1]
      · rename_i hge
        rw [max_eq_left (Nat.le_of_not_lt hge)]
        refine ⟨hle, by simp only [Poller.WorksFor, hphase, hworks], ?_⟩
        rw [hphase, pending_polling, List.append_nil, hnumbers]

theorem pending_eq_cons {next latest : ℕ} (h : next ≤ latest) :
    (PollPhase.sending next latest).pending =
      next :: List.range' (next + 1) (latest + 1 - (next + 1)) := by
  have hcount : latest + 1 - next = latest + 1 - (next + 1) + 1 := by omega
  rw [PollPhase.pending, hcount, List.range'_succ]

/-- The first of the pending numbers goes on the queue. -/
theorem Complete.sent {next latest : ℕ} (h : Complete height m s)
    (hphase : s.phase = .sending next latest) : Complete height m (s.sent next latest) := by
  obtain ⟨hle, hworks, hnumbers⟩ := h
  simp only [Poller.WorksFor, hphase] at hworks
  obtain ⟨hnext, rfl⟩ := hworks
  rw [hphase, pending_eq_cons hnext, ← List.singleton_append, ← List.append_assoc] at hnumbers
  unfold Poller.sent
  split
  · rename_i hlt
    exact ⟨hle, ⟨hlt, rfl⟩, hnumbers⟩
  · rename_i hge
    have hcount : latest + 1 - (next + 1) = 0 := by omega
    refine ⟨hle, rfl, ?_⟩
    rwa [hcount, List.range'_zero] at hnumbers

theorem Complete.step {blockQueueSize : ℕ} {event : PollEvent} (h : Complete height m s)
    (hstep : s.step blockQueueSize event = some s') :
    Complete height (event.height.elim m (max m)) s' := by
  cases event with
  | answer answer =>
      simp only [Poller.step] at hstep
      split at hstep
      · rename_i hphase
        cases hstep
        exact h.answered hphase answer
      · cases hstep
  | send =>
      simp only [Poller.step] at hstep
      split at hstep
      · rename_i next latest hphase
        -- the handle of `index_chain` keeps the queue open
        rw [if_neg s.receivers_ne_zero, Option.ite_none_right_eq_some] at hstep
        cases hstep.2
        exact h.sent hphase
      · cases hstep
  | take =>
      obtain ⟨_, hstep⟩ := Option.ite_none_right_eq_some.mp hstep
      cases hstep
      exact ⟨h.le_highest, h.worksFor, h.numbers⟩
  | exit =>
      obtain ⟨_, hstep⟩ := Option.ite_none_right_eq_some.mp hstep
      cases hstep
      exact ⟨h.le_highest, h.worksFor, h.numbers⟩

/-- By induction on the run. -/
theorem complete_of_run {workerCount blockQueueSize : ℕ} {events : List PollEvent}
    (h : (Poller.start workerCount height).run blockQueueSize events = some s) :
    Complete height (highest height events) s := by
  induction events using List.reverseRecOn generalizing s with
  | nil =>
      cases h
      exact complete_start workerCount height
  | append_singleton events event ih =>
      obtain ⟨t, ht, hstep⟩ := Poller.run_concat.mp h
      rw [highest_concat]
      exact (ih ht).step hstep

/-- In every run the queue gets the numbers behind the first height in their order,
none left out and none twice, and whenever the poller asks for a height again it has
had all up to the highest one. -/
theorem poller_enqueues {workerCount blockQueueSize : ℕ} {events : List PollEvent}
    (h : (Poller.start workerCount height).run blockQueueSize events = some s) :
    s.phase ≠ .failed ∧
      s.enqueued <+: List.range' (height + 1) (highest height events - height) ∧
      (s.phase = .polling →
        s.enqueued = List.range' (height + 1) (highest height events - height)) := by
  obtain ⟨_, hworks, hnumbers⟩ := complete_of_run h
  refine ⟨fun hfailed => ?_, ⟨_, hnumbers⟩, fun hpolling => ?_⟩
  · rwa [Poller.WorksFor, hfailed] at hworks
  · rwa [hpolling, pending_polling, List.append_nil] at hnumbers

/-- The height rises by two, the node fails, falls back by one and catches up. -/
def catchUp : List PollEvent :=
  [.answer (some 12), .send, .take, .send, .answer none, .answer (some 11), .answer (some 13),
    .send]

theorem poller_enqueues_catchUp :
    ∃ s, (Poller.start 2 10).run 16 catchUp = some s ∧ s.phase = .polling ∧
      s.enqueued = [11, 12, 13] := by
  have hrun : (Poller.start 2 10).run 16 catchUp = some ⟨13, .polling, [11, 12, 13], 1, 2⟩ := by
    decide
  exact ⟨_, hrun, rfl, (poller_enqueues hrun).2.2 rfl⟩

/-! ### All answers are handled -/

/-- The workers have taken all, and one of them is left. -/
def Poller.Drained (s : Poller) : Prop := 0 < s.workers ∧ s.taken = s.enqueued.length

theorem Poller.run_append {blockQueueSize : ℕ} {events events' : List PollEvent} {s t s' : Poller}
    (h : s.run blockQueueSize events = some t) (h' : t.run blockQueueSize events' = some s') :
    s.run blockQueueSize (events ++ events') = some s' := by
  rw [run] at h
  rw [run, List.foldlM_append, h]
  exact h'

/-- A number is sent, and a worker takes it. -/
theorem Poller.exists_run_send (blockQueueSize : ℕ) {next latest : ℕ} {s : Poller}
    (hphase : s.phase = .sending next latest) (hdrained : s.Drained) :
    ∃ s', s.run blockQueueSize [.send, .take] = some s' ∧ s'.Drained ∧
      s'.phase = if next < latest then .sending (next + 1) latest else .polling := by
  obtain ⟨hworkers, htaken⟩ := hdrained
  have henqueued : (s.sent next latest).enqueued = s.enqueued ++ [next] := by
    rw [sent]
    split <;> rfl
  have hrest : (s.sent next latest).taken = s.taken ∧ (s.sent next latest).workers = s.workers := by
    rw [sent]
    split <;> exact ⟨rfl, rfl⟩
  have hlen : (s.sent next latest).enqueued.length = s.taken + 1 := by
    rw [henqueued, List.length_append, List.length_singleton, htaken]
  have hsend : s.step blockQueueSize .send = some (s.sent next latest) := by
    have hroom : s.enqueued.length - s.taken < max blockQueueSize 1 := by omega
    simp only [step, hphase, if_neg s.receivers_ne_zero, if_pos hroom]
  have htake : (s.sent next latest).step blockQueueSize .take =
      some { s.sent next latest with taken := s.taken + 1 } := by
    simp only [step, hrest, hlen, hworkers, Nat.lt_succ_self, and_self, if_true]
  refine ⟨{ s.sent next latest with taken := s.taken + 1 }, ?_, ⟨?_, hlen.symm⟩, ?_⟩
  · simp only [run, List.foldlM_cons, hsend, Option.bind_eq_bind, Option.bind_some, htake,
      List.foldlM_nil, Option.pure_def]
  · exact hworkers.trans_eq hrest.2.symm
  · simp only [sent]
    split <;> rfl

/-- The loop over the blocks of an answer comes to its end. -/
theorem Poller.exists_run_sends (blockQueueSize n : ℕ) {next latest : ℕ} {s : Poller}
    (hn : latest - next = n) (hphase : s.phase = .sending next latest) (hdrained : s.Drained) :
    ∃ events s', s.run blockQueueSize events = some s' ∧
      events.filterMap PollEvent.given = [] ∧ s'.phase = .polling ∧ s'.Drained := by
  induction n generalizing next s with
  | zero =>
      obtain ⟨t, ht, htdrained, htphase⟩ := exists_run_send blockQueueSize hphase hdrained
      exact ⟨_, t, ht, rfl, by rw [htphase, if_neg (by omega)], htdrained⟩
  | succ n ih =>
      obtain ⟨t, ht, htdrained, htphase⟩ := exists_run_send blockQueueSize hphase hdrained
      rw [if_pos (by omega)] at htphase
      obtain ⟨events, s', hs', hevents, hdone⟩ := ih (by omega) htphase htdrained
      exact ⟨_, s', run_append ht hs', hevents, hdone⟩

/-- Every sequence of answers is taken to its end in some run. -/
theorem exists_run_answers (workerCount blockQueueSize height : ℕ) (answers : List (Option ℕ)) :
    ∃ events s, (Poller.start workerCount height).run blockQueueSize events = some s ∧
      events.filterMap PollEvent.given = answers ∧ s.phase = .polling ∧ s.Drained := by
  induction answers using List.reverseRecOn with
  | nil =>
      have hworkers : 0 < max workerCount 1 := lt_of_lt_of_le Nat.zero_lt_one (le_max_right _ _)
      exact ⟨[], _, rfl, rfl, rfl, hworkers, rfl⟩
  | append_singleton answers answer ih =>
      obtain ⟨events, s, hs, hanswers, hphase, hdrained⟩ := ih
      have hanswer : s.run blockQueueSize [.answer answer] = some (s.answered answer) := by
        simp [Poller.run, Poller.step, hphase]
      have hsofar : (events ++ [PollEvent.answer answer]).filterMap PollEvent.given =
          answers ++ [answer] := by
        rw [List.filterMap_append, hanswers]
        rfl
      have hrun := Poller.run_append hs hanswer
      rcases s.answered_cases answer with heq | ⟨latest, hlt, heq⟩
      · exact ⟨_, s, heq ▸ hrun, hsofar, hphase, hdrained⟩
      · rw [heq] at hrun
        have hdrained' : Poller.Drained
            { s with phase := .sending (s.lastEnqueued + 1) latest } := hdrained
        obtain ⟨rest, s', hs', hrest, hdone⟩ :=
          Poller.exists_run_sends blockQueueSize _ rfl rfl hdrained'
        refine ⟨_, s', Poller.run_append hrun hs', ?_, hdone⟩
        rw [List.filterMap_append, hsofar, hrest, List.append_nil]

end Liquifier.Indexer
