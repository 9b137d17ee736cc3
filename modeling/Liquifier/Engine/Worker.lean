import Liquifier.Engine.Settle
import Liquifier.Engine.Submit
import Liquifier.Lib.TaskSystem

/-!
The execution engine: any number of deliveries of swap events, reconciliation
passes and status requests over one database and one node.

A delivery is one run of `process_swap_event`. It moves from one statement or
network call to the next, and between two of its moves any other task may move.
Every message may be delivered again at any time, which is the arrival of one
more delivery of the same event, so the number of replicas does not matter. A
worker may stop a delivery or a pass anywhere. A statement that fails is one that is not
carried out; where a lost reply ends the delivery or the pass, it is the statement carried
out, followed by such a stop.
-/

namespace Liquifier.Engine

open TaskSystem

/-! ### The store -/

/-- The message published after a trade. -/
structure TradeCompleted where
  tradeId : Uuid
  sessionId : Uuid
  chain : String
  sellAmount : ℕ
  receivedAmount : ℕ
  txHash : String
  priceImpactBps : ℕ
  status : TradeStatus
  failureReason : Option String
  deriving DecidableEq

/-- The database, the node and what left the engine. `lookups` are the answers
about the receipts of the trades, in the order in which they came; `swept` and
`refundChecked` are the sessions whose sweep and refund check were carried out,
with whatever result. -/
structure World where
  db : Database
  accepted : List SwapTx
  lookups : List (Uuid × Lookup)
  published : List TradeCompleted
  swept : List Uuid
  refundChecked : List Uuid

/-- Nothing has been sold yet. -/
def boot (db : Database) : World := ⟨db, [], [], [], [], []⟩

/-! ### Deliveries -/

/-- The session of the loop and the locals of its body. -/
structure Sale where
  session : SessionInfo
  plan : SwapPlan
  deriving DecidableEq

/-- A sale after its transaction was submitted. -/
structure Sent extends Sale where
  sellTxHash : String
  deriving DecidableEq

inductive Phase where
  | query
  | loop
  | submit (sale : Sale)
  | record (sent : Sent) (phase : RecordPhase)
  | finalize (sent : Sent) (tradeId : Uuid) (phase : FinalizePhase)
  | finalizationError (sent : Sent) (tradeId : Uuid) (reason : String)
  | publish (sent : Sent) (tradeId : Uuid) (finalization : TradeFinalization)
  | complete (sent : Sent)
  | sweep (sent : Sent)
  | refund (sent : Sent)
  | returned (ok : Bool)
  | stopped

def Phase.isDone : Phase → Bool
  | .returned _ | .stopped => true
  | _ => false

/-- One processing of an event: the sessions that the loop has still to visit,
and where it stands. -/
structure Delivery where
  event : DexSwapEvent
  rest : List SessionInfo
  phase : Phase

/-- What a move waits for. `call` is a call whose failure is ignored. -/
inductive Act where
  | query (answer : Option (List SessionInfo))
  | plan (ans : SwapAnswers)
  | submit (signed : Option String) (replies : List NodeReply)
  | settle (input : SettleInput)
  | wallet (row : Option (Option (String × String)))
  | call (ok : Bool)
  | stop

namespace Sent

variable (sent : Sent)

def recordCall (event : DexSwapEvent) : RecordCall where
  session := sent.session
  event := event
  sellAmount := sent.plan.sellAmount
  priceImpactBps := sent.plan.priceImpactBps
  sellTxHash := some sent.sellTxHash

/-- A result of `finalize_trade_status_from_receipt` and what follows it. -/
def afterFinalize (tradeId : Uuid) : FinalizePhase → Phase
  | .returned (.ok finalization) => .publish sent tradeId finalization
  | .returned (.error e) =>
      .finalizationError sent tradeId ("receipt_finalization_error: " ++ e)
  | phase => .finalize sent tradeId phase

/-- A result of `record_trade` and what follows it: an error ends the delivery, a
duplicate goes on with the next session. -/
def afterRecord : RecordPhase → Phase
  | .returned (.error _) => .returned false
  | .returned (.ok ⟨_, false⟩) => .loop
  | .returned (.ok ⟨tradeId, true⟩) =>
      sent.afterFinalize tradeId (finalizeStart (some sent.sellTxHash))
  | phase => .record sent phase

/-- `sold + sell_amount >= total`, on the amounts of the snapshot. -/
def soldOut : Bool := sent.plan.total ≤ U256.wrappingAdd sent.plan.sold sent.plan.sellAmount

def tradeCompleted (tradeId : Uuid) (finalization : TradeFinalization) : TradeCompleted where
  tradeId := tradeId
  sessionId := sent.session.id
  chain := sent.session.chain
  sellAmount := sent.plan.sellAmount
  receivedAmount := finalization.receivedAmount.getD 0
  txHash := sent.sellTxHash
  priceImpactBps := sent.plan.priceImpactBps
  status := finalization.status
  failureReason := finalization.failureReason

end Sent

/-- The answer about a receipt that a step has seen. -/
def seen (tradeId : Uuid) : SettleInput → List (Uuid × Lookup)
  | .lookup outcome _ => [(tradeId, outcome)]
  | .statement _ => []

variable (env : Environment)

def deliveryStep (a : Act) (w : World) (d : Delivery) : Option (World × Delivery) :=
  match d.phase, a with
  | .returned _, _ => none
  | .stopped, _ => none
  | _, .stop => some (w, { d with phase := .stopped })
  | .query, .query none => some (w, { d with phase := .returned false })
  | .query, .query (some sessions) =>
      if w.db.answersActiveSessions d.event.chain d.event.poolAddress sessions then
        some (w, { d with rest := sessions, phase := .loop })
      else none
  | .loop, .plan ans =>
      match d.rest with
      | [] => some (w, { d with phase := .returned true })
      | session :: rest =>
          match planSwap env d.event session ans with
          | none => some (w, { d with rest := rest })
          | some plan => some (w, { d with rest := rest, phase := .submit ⟨session, plan⟩ })
  | .submit sale, .submit signed replies =>
      match buildSignAndSubmitTx sale.session.id d.event sale.plan.sellAmount signed replies
          w.accepted with
      | (some hash, accepted) =>
          some ({ w with accepted := accepted }, { d with phase := .record ⟨sale, hash⟩ .insert })
      | (none, accepted) => some ({ w with accepted := accepted }, { d with phase := .loop })
  | .record sent phase, .settle (.statement ok) =>
      (recordStep env (sent.recordCall d.event) ok w.db phase).map fun r =>
        ({ w with db := r.1 }, { d with phase := sent.afterRecord r.2 })
  | .finalize sent tradeId phase, .settle input =>
      (finalizeStep tradeId sent.session.targetToken input w.db phase).map fun r =>
        ({ w with db := r.1, lookups := w.lookups ++ seen tradeId input },
          { d with phase := sent.afterFinalize tradeId r.2 })
  | .finalizationError sent tradeId reason, .settle (.statement ok) =>
      if ok then
        some ({ w with db := w.db.markTradeFailed tradeId reason },
          { d with phase := .publish sent tradeId ⟨.failed, some reason, none⟩ })
      else some (w, { d with phase := .returned false })
  | .publish sent tradeId finalization, .call ok =>
      some ({ w with published :=
          if ok then w.published ++ [sent.tradeCompleted tradeId finalization] else w.published },
        { d with phase := if sent.soldOut then .complete sent else .loop })
  | .complete sent, .settle (.statement ok) =>
      some ({ w with db := if ok then w.db.setSessionStatus sent.session.id .completed else w.db },
        { d with phase := .sweep sent })
  | .sweep sent, .call _ =>
      some ({ w with swept := w.swept ++ [sent.session.id] }, { d with phase := .refund sent })
  | .refund sent, .call _ =>
      some ({ w with refundChecked := w.refundChecked ++ [sent.session.id] },
        { d with phase := .loop })
  | _, _ => none

/-- All that a move of a delivery can do. -/
inductive DeliveryMove (w : World) : Delivery → Act → World → Delivery → Prop where
  | stopped {event : DexSwapEvent} {rest : List SessionInfo} {phase : Phase} :
      DeliveryMove w ⟨event, rest, phase⟩ .stop w ⟨event, rest, .stopped⟩
  | queryError {event : DexSwapEvent} {rest : List SessionInfo} :
      DeliveryMove w ⟨event, rest, .query⟩ (.query none) w ⟨event, rest, .returned false⟩
  | queried {event : DexSwapEvent} {rest sessions : List SessionInfo}
      (h : w.db.answersActiveSessions event.chain event.poolAddress sessions = true) :
      DeliveryMove w ⟨event, rest, .query⟩ (.query (some sessions)) w ⟨event, sessions, .loop⟩
  | finished {event : DexSwapEvent} {ans : SwapAnswers} :
      DeliveryMove w ⟨event, [], .loop⟩ (.plan ans) w ⟨event, [], .returned true⟩
  | skipped {event : DexSwapEvent} {session : SessionInfo} {rest : List SessionInfo}
      {ans : SwapAnswers} (h : planSwap env event session ans = none) :
      DeliveryMove w ⟨event, session :: rest, .loop⟩ (.plan ans) w ⟨event, rest, .loop⟩
  | planned {event : DexSwapEvent} {session : SessionInfo} {rest : List SessionInfo}
      {ans : SwapAnswers} {plan : SwapPlan} (h : planSwap env event session ans = some plan) :
      DeliveryMove w ⟨event, session :: rest, .loop⟩ (.plan ans) w
        ⟨event, rest, .submit ⟨session, plan⟩⟩
  | submitted {event : DexSwapEvent} {rest : List SessionInfo} {sale : Sale}
      {signed : Option String} {replies : List NodeReply} {hash : String}
      {accepted : List SwapTx}
      (h : SubmitMove sale.session.id event sale.plan.sellAmount replies w.accepted (some hash)
        accepted) :
      DeliveryMove w ⟨event, rest, .submit sale⟩ (.submit signed replies)
        { w with accepted := accepted } ⟨event, rest, .record ⟨sale, hash⟩ .insert⟩
  | submitError {event : DexSwapEvent} {rest : List SessionInfo} {sale : Sale}
      {signed : Option String} {replies : List NodeReply} {accepted : List SwapTx}
      (h : SubmitMove sale.session.id event sale.plan.sellAmount replies w.accepted none accepted) :
      DeliveryMove w ⟨event, rest, .submit sale⟩ (.submit signed replies)
        { w with accepted := accepted } ⟨event, rest, .loop⟩
  | recorded {event : DexSwapEvent} {rest : List SessionInfo} {sent : Sent} {ok : Bool}
      {phase phase' : RecordPhase} {db : Database}
      (h : RecordMove env (sent.recordCall event) w.db ok phase db phase') :
      DeliveryMove w ⟨event, rest, .record sent phase⟩ (.settle (.statement ok))
        { w with db := db } ⟨event, rest, sent.afterRecord phase'⟩
  | finalized {event : DexSwapEvent} {rest : List SessionInfo} {sent : Sent} {tradeId : Uuid}
      {input : SettleInput} {phase phase' : FinalizePhase} {db : Database}
      (h : FinalizeMove tradeId sent.session.targetToken w.db input phase db phase') :
      DeliveryMove w ⟨event, rest, .finalize sent tradeId phase⟩ (.settle input)
        { w with db := db, lookups := w.lookups ++ seen tradeId input }
        ⟨event, rest, sent.afterFinalize tradeId phase'⟩
  | markedFailed {event : DexSwapEvent} {rest : List SessionInfo} {sent : Sent} {tradeId : Uuid}
      {reason : String} :
      DeliveryMove w ⟨event, rest, .finalizationError sent tradeId reason⟩
        (.settle (.statement true)) { w with db := w.db.markTradeFailed tradeId reason }
        ⟨event, rest, .publish sent tradeId ⟨.failed, some reason, none⟩⟩
  | markError {event : DexSwapEvent} {rest : List SessionInfo} {sent : Sent} {tradeId : Uuid}
      {reason : String} :
      DeliveryMove w ⟨event, rest, .finalizationError sent tradeId reason⟩
        (.settle (.statement false)) w ⟨event, rest, .returned false⟩
  | published {event : DexSwapEvent} {rest : List SessionInfo} {sent : Sent} {tradeId : Uuid}
      {finalization : TradeFinalization} {ok : Bool} :
      DeliveryMove w ⟨event, rest, .publish sent tradeId finalization⟩ (.call ok)
        { w with published :=
          if ok then w.published ++ [sent.tradeCompleted tradeId finalization] else w.published }
        ⟨event, rest, if sent.soldOut then .complete sent else .loop⟩
  | completed {event : DexSwapEvent} {rest : List SessionInfo} {sent : Sent} :
      DeliveryMove w ⟨event, rest, .complete sent⟩ (.settle (.statement true))
        { w with db := w.db.setSessionStatus sent.session.id .completed }
        ⟨event, rest, .sweep sent⟩
  | completeError {event : DexSwapEvent} {rest : List SessionInfo} {sent : Sent} :
      DeliveryMove w ⟨event, rest, .complete sent⟩ (.settle (.statement false)) w
        ⟨event, rest, .sweep sent⟩
  | swept {event : DexSwapEvent} {rest : List SessionInfo} {sent : Sent} {ok : Bool} :
      DeliveryMove w ⟨event, rest, .sweep sent⟩ (.call ok)
        { w with swept := w.swept ++ [sent.session.id] }
        ⟨event, rest, .refund sent⟩
  | refunded {event : DexSwapEvent} {rest : List SessionInfo} {sent : Sent} {ok : Bool} :
      DeliveryMove w ⟨event, rest, .refund sent⟩ (.call ok)
        { w with refundChecked := w.refundChecked ++ [sent.session.id] } ⟨event, rest, .loop⟩

variable {env}

theorem deliveryStep_move {a : Act} {w w' : World} {d d' : Delivery}
    (h : deliveryStep env a w d = some (w', d')) : DeliveryMove env w d a w' d' := by
  obtain ⟨event, rest, phase⟩ := d
  cases phase with
  | query =>
      cases a with
      | query answer =>
          cases answer with
          | none => cases h; exact .queryError
          | some sessions =>
              obtain ⟨hanswer, h⟩ := Option.ite_none_right_eq_some.mp h
              cases h
              exact .queried hanswer
      | stop => cases h; exact .stopped
      | _ => cases h
  | loop =>
      cases a with
      | plan ans =>
          cases rest with
          | nil => cases h; exact .finished
          | cons session rest =>
              simp only [deliveryStep] at h
              split at h
              · cases h; exact .skipped ‹_›
              · cases h; exact .planned ‹_›
      | stop => cases h; exact .stopped
      | _ => cases h
  | submit sale =>
      cases a with
      | submit signed replies =>
          simp only [deliveryStep] at h
          split at h
          · cases h; exact .submitted (buildSignAndSubmitTx_move ‹_›)
          · cases h; exact .submitError (buildSignAndSubmitTx_move ‹_›)
      | stop => cases h; exact .stopped
      | _ => cases h
  | record sent phase =>
      cases a with
      | settle input =>
          cases input with
          | lookup outcome late => cases h
          | statement ok =>
              obtain ⟨⟨db, phase'⟩, hrec, h⟩ := Option.map_eq_some_iff.mp h
              cases h
              exact .recorded (recordStep_move hrec)
      | stop => cases h; exact .stopped
      | _ => cases h
  | finalize sent tradeId phase =>
      cases a with
      | settle input =>
          obtain ⟨⟨db, phase'⟩, hfin, h⟩ := Option.map_eq_some_iff.mp h
          cases h
          exact .finalized (finalizeStep_move hfin)
      | stop => cases h; exact .stopped
      | _ => cases h
  | finalizationError sent tradeId reason =>
      cases a with
      | settle input =>
          rcases input with ⟨outcome, late⟩ | ⟨_ | _⟩
          · cases h
          · cases h; exact .markError
          · cases h; exact .markedFailed
      | stop => cases h; exact .stopped
      | _ => cases h
  | publish sent tradeId finalization =>
      cases a with
      | call ok => cases h; exact .published
      | stop => cases h; exact .stopped
      | _ => cases h
  | complete sent =>
      cases a with
      | settle input =>
          rcases input with ⟨outcome, late⟩ | ⟨_ | _⟩
          · cases h
          · cases h; exact .completeError
          · cases h; exact .completed
      | stop => cases h; exact .stopped
      | _ => cases h
  | sweep sent =>
      cases a with
      | call ok => cases h; exact .swept
      | stop => cases h; exact .stopped
      | _ => cases h
  | refund sent =>
      cases a with
      | call ok => cases h; exact .refunded
      | stop => cases h; exact .stopped
      | _ => cases h
  | returned ok => cases h
  | stopped => cases h

/-! ### The engine -/

/-- A task of the engine; a request is `update_session_status` of the session
service, which sets any status. -/
inductive Task where
  | delivery (d : Delivery)
  | pass (phase : PassPhase)
  | request (sessionId : Uuid) (status : SessionStatus) (done : Bool)

namespace Task

/-- A task at its beginning. -/
def isNew : Task → Bool
  | .delivery ⟨_, [], .query⟩ => true
  | .pass .query => true
  | .request _ _ done => !done
  | _ => false

end Task

/-- The receipt that a pass asks for. -/
def PassPhase.lookedUp : PassPhase → PassInput → List (Uuid × Lookup)
  | .lookup trade _, .settle input => seen trade.tradeId input
  | _, _ => []

def passInput : Act → Option PassInput
  | .settle input => some (.settle input)
  | .wallet row => some (.wallet row)
  | _ => none

variable (env) in
def taskStep (a : Act) (w : World) : Task → Option (World × Task)
  | .delivery d => (deliveryStep env a w d).map fun r => (r.1, .delivery r.2)
  | .pass phase =>
      match a with
      | .stop => some (w, .pass (.returned false))
      | a =>
          (passInput a).bind fun input =>
            (passStep input w.db phase).map fun r =>
              ({ w with db := r.1, lookups := w.lookups ++ phase.lookedUp input }, .pass r.2)
  | .request sessionId status false =>
      match a with
      | .settle (.statement ok) =>
          some ({ w with db := if ok then w.db.setSessionStatus sessionId status else w.db },
            .request sessionId status true)
      | _ => none
  | .request _ _ true => none

variable (env) in
def engine : System World Task Act := ⟨Task.isNew, taskStep env⟩

variable (env) in
/-- All that a move of a task can do. -/
inductive TaskMove (w : World) : Task → Act → World → Task → Prop where
  | delivery {d d' : Delivery} {a : Act} {w' : World} (h : DeliveryMove env w d a w' d') :
      TaskMove w (.delivery d) a w' (.delivery d')
  | pass {phase phase' : PassPhase} {a : Act} {input : PassInput} {db : Database}
      (h : PassMove w.db input phase db phase') :
      TaskMove w (.pass phase) a { w with db := db, lookups := w.lookups ++ phase.lookedUp input }
        (.pass phase')
  | passStopped {phase : PassPhase} : TaskMove w (.pass phase) .stop w (.pass (.returned false))
  | request {sessionId : Uuid} {status : SessionStatus} :
      TaskMove w (.request sessionId status false) (.settle (.statement true))
        { w with db := w.db.setSessionStatus sessionId status } (.request sessionId status true)
  | requestError {sessionId : Uuid} {status : SessionStatus} :
      TaskMove w (.request sessionId status false) (.settle (.statement false)) w
        (.request sessionId status true)

theorem taskStep_move {a : Act} {w w' : World} {t t' : Task}
    (h : taskStep env a w t = some (w', t')) : TaskMove env w t a w' t' := by
  cases t with
  | delivery d =>
      obtain ⟨⟨w₁, d'⟩, hd, h⟩ := Option.map_eq_some_iff.mp h
      cases h
      exact .delivery (deliveryStep_move hd)
  | pass phase =>
      simp only [taskStep] at h
      split at h
      · cases h
        exact .passStopped
      · obtain ⟨input, _, h⟩ := Option.bind_eq_some_iff.mp h
        obtain ⟨⟨db, phase'⟩, hpass, h⟩ := Option.map_eq_some_iff.mp h
        cases h
        exact .pass (passStep_move hpass)
  | request sessionId status done =>
      cases done with
      | true => cases h
      | false =>
          cases a with
          | settle input =>
              rcases input with ⟨outcome, late⟩ | ⟨_ | _⟩
              · cases h
              · cases h; exact .requestError
              · cases h; exact .request
          | _ => cases h

theorem eq_settle_of_passInput {a : Act} {input : SettleInput}
    (h : passInput a = some (.settle input)) : a = .settle input := by
  cases a with
  | settle => cases h; rfl
  | _ => cases h

/-- A pass stops, or it moves by its input. -/
theorem passTask_cases {phase : PassPhase} {a : Act} {w w' : World} {t' : Task}
    (h : taskStep env a w (.pass phase) = some (w', t')) :
    (a = .stop ∧ w' = w ∧ t' = .pass (.returned false)) ∨
      ∃ input db phase', passInput a = some input ∧ PassMove w.db input phase db phase' ∧
        w' = { w with db := db, lookups := w.lookups ++ phase.lookedUp input } ∧
        t' = .pass phase' := by
  simp only [taskStep] at h
  split at h
  · cases h
    exact .inl ⟨rfl, rfl, rfl⟩
  · obtain ⟨input, hinput, h⟩ := Option.bind_eq_some_iff.mp h
    obtain ⟨⟨db, phase'⟩, hpass, h⟩ := Option.map_eq_some_iff.mp h
    cases h
    exact .inr ⟨input, db, phase', hinput, passStep_move hpass, rfl, rfl⟩

theorem engine_move {c : Config World Task} {i : ℕ} {a : Act} {t t' : Task} {w' : World}
    (h : (engine env).Acts c i a t w' t') : TaskMove env c.store t a w' t' :=
  taskStep_move h.step

namespace Sample

/-- The moves of the task at index `i` that leads the delivery of a buy to the
submission of its swap. -/
def sell (i : ℕ) (txHash hash : String) (snapshot : SessionInfo) : List (Move Task Act) :=
  [.spawn (.delivery ⟨event txHash, [], .query⟩), .act i (.query (some [snapshot])),
    .act i (.plan answers), .act i (.submit (some hash) [.deliver])]

/-- The next statements of the task at index `i`. -/
def statements (i : ℕ) (oks : List Bool) : List (Move Task Act) :=
  oks.map fun ok => .act i (.settle (.statement ok))

/-- The end of a sell of the task at index `i`: the answer about the receipt, the
statement on the row and the message. -/
def settle (i : ℕ) (outcome : Lookup) : List (Move Task Act) :=
  [.act i (.settle (.lookup outcome false)), .act i (.settle (.statement true)), .act i (.call true)]

end Sample

end Liquifier.Engine
