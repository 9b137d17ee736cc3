import Liquifier.Engine.Sound

/-!
How often a swap is submitted for one trigger of one session.

The unique row of `trades` is written after the transaction was sent, and no
guard looks for it before. So a second delivery of the event, while the first
one is under way or after its recording failed, sends a second swap. What is
missing is exactly a look at what was already sent: in the runs in which every
sell that the guards let through is the first one for its trigger, there is one
swap for each.
-/

namespace Liquifier.Engine

open TaskSystem TaskSystem.System

/-- The swaps that the node has accepted for a trigger of a session. -/
def acceptedCount (key : TriggerKey) (accepted : List SwapTx) : ℕ :=
  accepted.countP (·.trigger = key)

/-- At most one swap for each session and trigger. -/
def SubmittedOnce (w : World) : Prop := ∀ key, acceptedCount key w.accepted ≤ 1

/-- Whether a task has passed the guards for the trigger and not yet submitted. -/
def Task.selling (key : TriggerKey) : Task → ℕ
  | .delivery ⟨event, _, .submit sale⟩ => if event.triggerKey sale.session.id = key then 1 else 0
  | _ => 0

variable (env : Environment)

/-- A sell that the guards let through is the first for its session and trigger:
no swap for it was accepted, and no other delivery stands between its guards and
its submission. -/
def FirstSell (c : Config World Task) : Task → Act → Prop
  | .delivery ⟨event, session :: _, .loop⟩, .plan ans =>
      (planSwap env event session ans).isSome = true →
        acceptedCount (event.triggerKey session.id) c.store.accepted = 0 ∧
          tally (Task.selling (event.triggerKey session.id)) c.tasks = 0
  | _, _ => True

instance (c : Config World Task) (t : Task) (a : Act) : Decidable (FirstSell env c t a) := by
  unfold FirstSell
  split <;> infer_instance

variable {env}

theorem acceptedCount_append (key : TriggerKey) (accepted : List SwapTx) (hash : String)
    (sessionId : Uuid) (event : DexSwapEvent) (sellAmount : ℕ) :
    acceptedCount key (accepted ++ [⟨hash, sessionId, event, sellAmount⟩]) =
      acceptedCount key accepted + if event.triggerKey sessionId = key then 1 else 0 := by
  rw [acceptedCount, List.countP_append, List.countP_singleton, acceptedCount]
  simp only [decide_eq_true_eq]
  rfl

/-! ### After the submission -/

section After

variable (key : TriggerKey) (event : DexSwapEvent) (rest : List SessionInfo) (sent : Sent)

@[simp] theorem selling_afterFinalize (tradeId : Uuid) (phase : FinalizePhase) :
    (Task.delivery ⟨event, rest, sent.afterFinalize tradeId phase⟩).selling key = 0 :=
  sent.afterFinalize_rule tradeId phase (fun _ => rfl) (fun _ => rfl) fun _ => rfl

@[simp] theorem selling_afterRecord (phase : RecordPhase) :
    (Task.delivery ⟨event, rest, sent.afterRecord phase⟩).selling key = 0 :=
  sent.afterRecord_rule phase (fun _ => rfl) rfl rfl (selling_afterFinalize key event rest sent)

end After

/-- A move submits the swap that the task was about to submit, or it lets a sell
through the guards. -/
theorem TaskMove.selling {w w' : World} {t t' : Task} {a : Act} (h : TaskMove env w t a w' t')
    (key : TriggerKey) :
    acceptedCount key w'.accepted + t'.selling key ≤ acceptedCount key w.accepted + t.selling key ∨
      w'.accepted = w.accepted ∧ t'.selling key ≤ 1 ∧ ∃ event session rest ans,
        t = .delivery ⟨event, session :: rest, .loop⟩ ∧ a = .plan ans ∧
          (planSwap env event session ans).isSome = true ∧ event.triggerKey session.id = key := by
  cases h with
  | delivery h =>
      cases h with
      | @planned event session rest ans plan h =>
          by_cases hkey : event.triggerKey session.id = key
          · exact .inr ⟨rfl, by simp [Task.selling, hkey],
              event, session, rest, ans, rfl, rfl, by simp [h], hkey⟩
          · exact .inl (by simp [Task.selling, hkey])
      | submitted h =>
          cases h with
          | submitted => exact .inl (by simp only [Task.selling, acceptedCount_append]; omega)
      | submitError h =>
          cases h with
          | lost => exact .inl (by simp only [Task.selling, acceptedCount_append]; omega)
          | refused => exact .inl (by simp [Task.selling])
      | recorded => exact .inl (by simp)
      | finalized => exact .inl (by simp)
      | @published event rest sent =>
          left
          cases sent.soldOut <;> simp [Task.selling]
      | _ => exact .inl (by simp [Task.selling])
  | _ => exact .inl (by simp [Task.selling])

/-- What is accepted and what is about to be submitted for a trigger is at most
one swap. -/
theorem accepted_add_selling_le {w₀ : World} {c : Config World Task}
    {G : Config World Task → Move Task Act → Prop} (hw₀ : w₀.accepted = [])
    (hG : ∀ c m, G c m → onActs (FirstSell env) c m)
    (h : (engine env).Run G ⟨w₀, []⟩ c) (key : TriggerKey) :
    acceptedCount key c.store.accepted + tally (Task.selling key) c.tasks ≤ 1 := by
  refine h.invariant (I := fun c =>
    acceptedCount key c.store.accepted + tally (Task.selling key) c.tasks ≤ 1) ?_ ?_
  · simp [hw₀, acceptedCount]
  · intro c c' m hrun hI hg hn
    rcases next_cases hn with ⟨t, rfl, hentry, rfl⟩ | ⟨i, a, t, w', t', rfl, hacts, rfl⟩
    · have hnew : t.selling key = 0 := by
        cases t with
        | delivery d =>
            obtain ⟨event, rest, phase⟩ := d
            cases rest <;> cases phase <;> simp_all [engine, Task.isNew, Task.selling]
        | _ => rfl
      simpa [hnew] using hI
    · obtain ⟨r, hts, hset⟩ := tally_set (Task.selling key) hacts.at_index t'
      rw [hset]
      rw [hts] at hI
      rcases (engine_move hacts).selling key with hle | ⟨haccepted, hone, hplan⟩
      · change acceptedCount key w'.accepted + (t'.selling key + r) ≤ 1
        omega
      · obtain ⟨event, session, rest, ans, rfl, rfl, hsome, rfl⟩ := hplan
        have hfirst := onActs_acts (hG _ _ hg) hacts hsome
        change acceptedCount _ w'.accepted + (t'.selling _ + r) ≤ 1
        rw [haccepted, hfirst.1]
        have := hfirst.2
        omega

/-- In a run in which every sell that the guards let through is the first one for
its session and trigger, there is at most one swap for each. -/
theorem submittedOnce_of_firstSell {db : Database} {c : Config World Task}
    (h : (engine env).Run (onActs (FirstSell env)) ⟨boot db, []⟩ c) : SubmittedOnce c.store := by
  intro key
  have hle := accepted_add_selling_le rfl (fun _ _ hg => hg) h key
  omega

/-- Two different buys are sold into one after the other. -/
theorem submittedOnce_of_firstSell_sample :
    ∃ c : Config World Task, c.store.accepted.length = 2 ∧ SubmittedOnce c.store := by
  obtain ⟨c, hrun, hc⟩ := exists_of_runIf (engine Sample.directEnv)
    (onActs (FirstSell Sample.directEnv)) ⟨boot Sample.database, []⟩
    (Sample.sell 0 "0xa1" "0xb1" (Sample.session 1) ++
      Sample.sell 1 "0xa2" "0xb2" (Sample.session 1))
    (fun c => c.store.accepted.length == 2) (by decide +kernel)
  exact ⟨c, by simpa using hc, submittedOnce_of_firstSell hrun⟩

/-- The insertion of the first delivery fails, the message stays un-acked, and its
redelivery sends a second swap. -/
theorem swap_submitted_twice :
    ¬ ∀ c, (engine Sample.directEnv).Reaches ⟨boot Sample.database, []⟩ c → SubmittedOnce c.store := by
  intro h
  obtain ⟨c, hrun, hc⟩ := exists_of_run (engine Sample.directEnv)
    ⟨boot Sample.database, []⟩
    (Sample.sell 0 "0xa" "0xb1" (Sample.session 1) ++ Sample.statements 0 [false] ++
      Sample.sell 1 "0xa" "0xb2" (Sample.session 1))
    (fun c => acceptedCount ((Sample.event "0xa").triggerKey 1) c.store.accepted == 2)
    (by decide +kernel)
  have hle := h c hrun ((Sample.event "0xa").triggerKey 1)
  simp only [beq_iff_eq] at hc
  omega

end Liquifier.Engine
