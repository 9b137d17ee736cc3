import Liquifier.Chain.Funds
import Liquifier.Gateway.Tokens

/-!
The held wallets lose tokens only to swaps, sweeps and withdrawals.

What is signed is a transaction of some job, and what tokens and routers read in it is the
call it was made for. So a held wallet approves nobody but routers, and these take what the
swap is about; where tokens keep unlimited allowances, an allowance of a held wallet is
nothing or everything.
-/

namespace Liquifier.Chain

open Engine (Approval PoolSwapRoute RouterCall SwapPlan Swept approvalOf approveCall chainNameToId
  map_resolved planSwap planSwap_planned planSwap_prepared prepareSwap
  resolveSessionWalletAddress resolveToken rpc_eq_some sweepToInvestor sweepToInvestor_swept)
open Gateway (AuthUser WithdrawAnswers WithdrawBody Withdrawn adminWithdrawSession
  adminWithdrawSession_withdrawn)
open TaskSystem

/-! ### What is signed -/

/-- The transaction is one of the call. -/
def OfCall (call : Call) (tx : TransactionRequest) : Prop :=
  ∃ nonce gasLimit gasPrice, tx = call.tx nonce gasLimit gasPrice

/-- What is being sent is signed, and it is of the call. -/
def Sends (w : Chains) (call : Call) (phase : Phase) : Prop :=
  ∀ tx attempts, phase = .send tx attempts → tx ∈ w.signed ∧ OfCall call tx

/-- A step reads, signs a transaction of the call, or sends it. -/
theorem advance_cases {call : Call} {phase next : Phase} {a : Answer} {w w' : Chains}
    (h : advance call phase a w = some (w', next)) :
    (w' = w ∧ ∀ tx attempts, next ≠ .send tx attempts) ∨
    (∃ tx, OfCall call tx ∧ w' = { w with signed := w.signed ++ [tx] } ∧
      ∀ tx' attempts, next = .send tx' attempts → tx' = tx) ∨
    ∃ tx attempts reply, phase = .send tx attempts ∧ w' = (w.sendRawTransaction tx reply).2 ∧
      ∀ tx' attempts', next = .send tx' attempts' → tx' = tx := by
  obtain ⟨⟨w₁, t⟩, hstep, h⟩ := Option.bind_eq_some_iff.mp h
  cases t with
  | mining => cases h
  | call call' next' =>
      obtain ⟨rfl, rfl⟩ := Prod.mk.inj (Option.some.inj h)
      cases a with
      | transactionCount ok =>
          cases phase with
          | nonce =>
              cases hstep
              refine .inl ⟨rfl, fun tx attempts => ?_⟩
              cases ok with
              | true => cases call <;> nofun
              | false => nofun
          | _ => cases hstep
      | gasEstimate result =>
          cases phase with
          | estimateGas nonce =>
              cases hstep
              refine .inl ⟨rfl, fun tx attempts => ?_⟩
              cases result <;> nofun
          | _ => cases hstep
      | gasPrice result =>
          cases phase with
          | gasPrice nonce gasLimit =>
              cases hstep
              refine .inl ⟨rfl, fun tx attempts => ?_⟩
              cases result <;> nofun
          | _ => cases hstep
      | signed reply =>
          cases phase with
          | sign nonce gasLimit gasPrice =>
              cases hstep
              have hof : OfCall call (call.tx nonce gasLimit gasPrice) := ⟨_, _, _, rfl⟩
              cases reply with
              | deliver =>
                  exact .inr (.inl ⟨_, hof, rfl, fun tx attempts h => (Phase.send.inj h).1.symm⟩)
              | lose => exact .inr (.inl ⟨_, hof, rfl, fun tx attempts h => nomatch h⟩)
              | refuse => exact .inl ⟨rfl, fun tx attempts h => nomatch h⟩
          | _ => cases hstep
      | sent reply =>
          cases phase with
          | send tx attempts =>
              cases hstep
              refine .inr (.inr ⟨tx, attempts, reply, rfl, rfl, fun tx' attempts' h => ?_⟩)
              exact (sending_afterSent call tx attempts _).2 tx'
                (congrArg (fun phase => (Task.call call phase).sending) h)
          | _ => cases hstep
      | mined tx => cases hstep

/-- What a step leaves of what was known about the nodes and about the call. -/
structure Advanced (call : Call) (w w' : Chains) (next : Phase) : Prop where
  holds : HoldsSigned w'
  sends : Sends w' call next
  signed : w.signed ⊆ w'.signed
  new : ∀ tx ∈ w'.signed, tx ∈ w.signed ∨ OfCall call tx

theorem advance_advanced {call : Call} {phase next : Phase} {a : Answer} {w w' : Chains}
    (hw : HoldsSigned w) (hsends : Sends w call phase)
    (h : advance call phase a w = some (w', next)) : Advanced call w w' next := by
  rcases advance_cases h with ⟨rfl, hnext⟩ | ⟨tx, hof, rfl, hnext⟩ |
    ⟨tx, attempts, reply, rfl, rfl, hnext⟩
  · exact ⟨hw, fun tx attempts h => absurd h (hnext tx attempts), List.Subset.refl _,
      fun tx htx => .inl htx⟩
  · have hsub : w.signed ⊆ w.signed ++ [tx] := List.subset_append_left _ _
    refine ⟨⟨fun tx' h => hsub (hw.signed h), hw.nodup⟩, fun tx' attempts h => ?_, hsub,
      fun tx' htx' => ?_⟩
    · rw [hnext tx' attempts h]
      exact ⟨List.mem_append_right _ (List.mem_singleton.mpr rfl), hof⟩
    · rcases List.mem_append.mp htx' with htx' | htx'
      · exact .inl htx'
      · exact .inr (List.mem_singleton.mp htx' ▸ hof)
  · obtain ⟨htx, hof⟩ := hsends tx attempts rfl
    have hsigned := sendRawTransaction_signed w tx reply
    refine ⟨hw.sendRawTransaction htx reply, fun tx' attempts' h => ?_,
      hsigned ▸ List.Subset.refl _, fun tx' htx' => .inl (hsigned ▸ htx')⟩
    rw [hnext tx' attempts' h, hsigned]
    exact ⟨htx, hof⟩

theorem acceptedNow_eq_some {phase : Phase} {a : Answer} {w : Chains} {tx : TransactionRequest}
    (h : acceptedNow phase a w = some tx) : ∃ attempts, phase = .send tx attempts := by
  unfold acceptedNow at h
  split at h
  · obtain ⟨-, h⟩ := Option.ite_none_right_eq_some.mp h
    exact ⟨_, by rw [Option.some.inj h]⟩
  · cases h

/-- What is true where a job stands. -/
def PhaseSound (w : Chains) (t : JobTask) : Prop :=
  match t.phase with
  | .approving phase => ∃ a, t.approval = some a ∧ Sends w a.call phase
  | .await tx => ∃ a, t.approval = some a ∧ OfCall a.call tx
  | .calling phase => ∃ call, t.call = some call ∧ Sends w call phase
  | _ => True

/-- The calls that a job has begun are the ones that it is for. -/
structure JobSound {T : Type} (env : FundsEnv T) (w : Chains) (t : JobTask) : Prop where
  approval : ∀ a ∈ t.approval, t.job.approval env = some a
  call : ∀ call ∈ t.call, t.job.call env = some call
  phase : PhaseSound w t

/-- The jobs stand where they may, nodes hold only what was signed, and what was signed is
of a call that a job has begun. -/
structure FundsSound {T : Type} (env : FundsEnv T) (c : Config (Funds T) FundsTask) : Prop where
  jobs : ∀ t, .job t ∈ c.tasks → JobSound env c.store.chains t
  holds : HoldsSigned c.store.chains
  signed : ∀ tx ∈ c.store.chains.signed,
    ∃ t, .job t ∈ c.tasks ∧ ∃ call ∈ t.calls, OfCall call tx

section Signed

variable {T : Type} {env : FundsEnv T} {w w' : Chains} {t t' : JobTask}

theorem Sends.mono {call : Call} {phase : Phase} (h : Sends w call phase)
    (hsub : w.signed ⊆ w'.signed) : Sends w' call phase := by
  intro tx attempts hphase
  obtain ⟨htx, hof⟩ := h tx attempts hphase
  exact ⟨hsub htx, hof⟩

theorem JobSound.mono (h : JobSound env w t) (hsub : w.signed ⊆ w'.signed) : JobSound env w' t := by
  refine ⟨h.approval, h.call, ?_⟩
  have hphase := h.phase
  unfold PhaseSound at hphase ⊢
  split at hphase
  · obtain ⟨a, ha, hsends⟩ := hphase
    exact ⟨a, ha, hsends.mono hsub⟩
  · exact hphase
  · obtain ⟨call, hcall, hsends⟩ := hphase
    exact ⟨call, hcall, hsends.mono hsub⟩
  · trivial

theorem phaseSound_afterCall {call : Call} {next : Phase} (hcall : t.call = some call)
    (hsends : Sends w call next) : PhaseSound w { t with phase := afterCall next } := by
  unfold afterCall
  split
  · trivial
  · exact ⟨call, hcall, hsends⟩

theorem phaseSound_afterApproval {a : Approval} {phase next : Phase} {answer : Answer}
    (happroval : t.approval = some a) (hsends : Sends w a.call phase)
    (hnext : Sends w' a.call next) :
    PhaseSound w' { t with phase := afterApproval phase answer w next } := by
  unfold afterApproval
  split
  · split
    · rename_i tx htx
      obtain ⟨attempts, hphase⟩ := acceptedNow_eq_some htx
      exact ⟨a, happroval, (hsends tx attempts hphase).2⟩
    · trivial
  · exact ⟨a, happroval, hnext⟩

/-- A job that moves keeps its calls, and stands where it may. -/
theorem FundsMove.job {s s' : Funds T} {a : FundsAct} (hjob : JobSound env s.chains t)
    (hw : HoldsSigned s.chains) (h : FundsMove env s (.job t) a s' (.job t')) :
    JobSound env s'.chains t' ∧ HoldsSigned s'.chains ∧ t.calls ⊆ t'.calls ∧
      s.chains.signed ⊆ s'.chains.signed ∧
      ∀ tx ∈ s'.chains.signed, tx ∈ s.chains.signed ∨ ∃ call ∈ t'.calls, OfCall call tx := by
  have hsame : s.chains.signed ⊆ s.chains.signed := List.Subset.refl _
  have hcalls : t.calls ⊆ t.calls := List.Subset.refl _
  have hold : ∀ tx ∈ s.chains.signed,
      tx ∈ s.chains.signed ∨ ∃ call ∈ t'.calls, OfCall call tx := fun _ h => .inl h
  have hphase := hjob.phase
  cases h with
  | gaveUp => exact ⟨⟨hjob.approval, hjob.call, trivial⟩, hw, hcalls, hsame, hold⟩
  | allowed => exact ⟨⟨hjob.approval, hjob.call, trivial⟩, hw, hcalls, hsame, hold⟩
  | confirmed => exact ⟨⟨hjob.approval, hjob.call, trivial⟩, hw, hcalls, hsame, hold⟩
  | @approves t a hcheck happroval =>
      refine ⟨⟨fun b hb => Option.some.inj hb ▸ happroval, hjob.call, a, rfl,
        fun tx n h => nomatch h⟩, hw, fun call hmem => ?_, hsame, hold⟩
      rcases List.mem_append.mp hmem with hmem | hmem
      · obtain ⟨b, hb, rfl⟩ := Option.map_eq_some_iff.mp (Option.mem_toList.mp hmem)
        obtain rfl : a = b := Option.some.inj (happroval.symm.trans (hjob.approval b hb))
        exact List.mem_append_left _ List.mem_cons_self
      · exact List.mem_append_right _ hmem
  | @planned t call hplan hcall =>
      refine ⟨⟨hjob.approval, fun b hb => Option.some.inj hb ▸ hcall, call, rfl,
        fun tx n h => nomatch h⟩, hw, fun call' hmem => ?_, hsame, hold⟩
      rcases List.mem_append.mp hmem with hmem | hmem
      · exact List.mem_append_left _ hmem
      · obtain rfl : call = call' :=
          Option.some.inj (hcall.symm.trans (hjob.call call' (Option.mem_toList.mp hmem)))
        exact List.mem_append_right _ List.mem_cons_self
  | @approving t a phase next answer w hat happroval h =>
      have hsends : Sends s.chains a.call phase := by
        rw [PhaseSound, hat] at hphase
        obtain ⟨b, hb, hsends⟩ := hphase
        obtain rfl : a = b := Option.some.inj (happroval.symm.trans hb)
        exact hsends
      have hadvanced := advance_advanced hw hsends h
      have hmem : a.call ∈ t.calls := List.mem_append_left _ (by simp [happroval])
      exact ⟨⟨hjob.approval, hjob.call, phaseSound_afterApproval happroval hsends hadvanced.sends⟩,
        hadvanced.holds, hcalls, hadvanced.signed,
        fun tx htx => (hadvanced.new tx htx).imp_right fun hof => ⟨a.call, hmem, hof⟩⟩
  | @calling t call phase next answer w hat hcall h =>
      have hsends : Sends s.chains call phase := by
        rw [PhaseSound, hat] at hphase
        obtain ⟨b, hb, hsends⟩ := hphase
        obtain rfl : call = b := Option.some.inj (hcall.symm.trans hb)
        exact hsends
      have hadvanced := advance_advanced hw hsends h
      have hmem : call ∈ t.calls := List.mem_append_right _ (by simp [hcall])
      exact ⟨⟨hjob.approval, hjob.call, phaseSound_afterCall hcall hadvanced.sends⟩,
        hadvanced.holds, hcalls, hadvanced.signed,
        fun tx htx => (hadvanced.new tx htx).imp_right fun hof => ⟨call, hmem, hof⟩⟩

theorem jobSound_of_isNew (h : FundsTask.isNew (.job t) = true) : JobSound env w t := by
  obtain ⟨job, approval, call, phase⟩ := t
  simp only [FundsTask.isNew, Bool.and_eq_true, Option.isNone_iff_eq_none] at h
  obtain ⟨⟨rfl, rfl⟩, hphase⟩ := h
  refine ⟨fun a ha => (by cases ha), fun call hcall => (by cases hcall), ?_⟩
  cases phase with
  | approving p => cases job <;> cases hphase
  | await tx => cases job <;> cases hphase
  | calling p => cases job <;> cases hphase
  | _ => trivial

variable {G : Config (Funds T) FundsTask → TaskSystem.Move FundsTask FundsAct → Prop}
  {earlier : Account → ℕ} {ledger : Ledger T} {c : Config (Funds T) FundsTask}

theorem fundsSound_of_run (h : (funds env).Run G (fundsStart earlier ledger) c) :
    FundsSound env c := by
  refine h.invariant (I := FundsSound env) ?_ ?_
  · exact ⟨fun t ht => absurd ht List.not_mem_nil, ⟨List.nil_subset _, List.nodup_nil⟩,
      fun tx htx => absurd htx List.not_mem_nil⟩
  · intro c c' m _ hsound _ hn
    rcases System.next_cases hn with ⟨u, rfl, hnew, rfl⟩ | ⟨i, a, u, s', u', rfl, hacts, rfl⟩
    · refine ⟨fun t ht => ?_, hsound.holds, fun tx htx => ?_⟩
      · rcases List.mem_append.mp ht with ht | ht
        · exact hsound.jobs t ht
        · rw [← List.mem_singleton.mp ht] at hnew
          exact jobSound_of_isNew hnew
      · obtain ⟨t, ht, hcall⟩ := hsound.signed tx htx
        exact ⟨t, List.mem_append_left _ ht, hcall⟩
    · have hmove := funds_move hacts
      cases u with
      | job t =>
          have hmem := hacts.mem_after
          obtain ⟨t', rfl⟩ : ∃ t', u' = .job t' := by cases hmove <;> exact ⟨_, rfl⟩
          obtain ⟨hjob, hholds, hcalls, hsub, hnew⟩ :=
            hmove.job (hsound.jobs t hacts.mem) hsound.holds
          refine ⟨fun v hv => ?_, hholds, fun tx htx => ?_⟩
          · rcases List.mem_or_eq_of_mem_set hv with hv | heq
            · exact (hsound.jobs v hv).mono hsub
            · cases heq
              exact hjob
          · rcases hnew tx htx with htx | hcall
            · obtain ⟨v, hv, call, hcall, hof⟩ := hsound.signed tx htx
              rcases System.mem_set_or_eq hacts.at_index (.job t') hv with hv | heq
              · exact ⟨v, hv, call, hcall, hof⟩
              · cases heq
                exact ⟨t', hmem, call, hcalls hcall, hof⟩
            · exact ⟨t', hmem, hcall⟩
      | mining =>
          have hset : c.tasks.set i .mining = c.tasks := by
            rw [← List.getElem?_eq_some_iff.mp hacts.at_index |>.2, List.set_getElem_self]
          cases hmove with
          | executes htx h =>
              rw [hset]
              exact ⟨fun t ht => (hsound.jobs t ht).mono (List.Subset.refl _),
                hsound.holds.mine htx, hsound.signed⟩
          | reverts htx =>
              rw [hset]
              exact ⟨fun t ht => (hsound.jobs t ht).mono (List.Subset.refl _),
                hsound.holds.mine htx, hsound.signed⟩
      | outside =>
          have hset : c.tasks.set i .outside = c.tasks := by
            rw [← List.getElem?_eq_some_iff.mp hacts.at_index |>.2, List.set_getElem_self]
          cases hmove with
          | outside h =>
              rw [hset]
              exact ⟨hsound.jobs, hsound.holds, hsound.signed⟩

end Signed

/-! ### What is read in a transaction of a job -/

/-- The transaction may take up to `amount` of the token from its sender, by the job. -/
inductive Spends {T : Type} (env : FundsEnv T) (tx : TransactionRequest) (token : Address)
    (amount : ℕ) : Job → Prop
  | swap {event : DexSwapEvent} {session : SessionInfo} {ans : Engine.SwapAnswers} {plan : SwapPlan}
      {sellToken : String} (hplan : planSwap env.engine event session ans = some plan)
      (hsell : plan.route.hopTokens.head? = some sellToken)
      (htoken : resolveToken env.engine.settings session.chain sellToken = some token)
      (hsender : tx.sender = plan.recipient) (hrouter : tx.toAddr = plan.routerAddress)
      (hamount : amount = plan.sellAmount) : Spends env tx token amount (.swap event session ans)
  | sweep {session : SessionInfo} {ans : Engine.SweepAnswers} {investor : Address}
      (hinvestor : Address.parse env.investorWallet = some investor)
      (hsender : resolveSessionWalletAddress ans.wallet session.chain = some tx.sender)
      (htoken : Address.parse session.targetToken = some token)
      (hbalance : ans.balance = some amount)
      (hcall : tx.toAddr = token ∧ tx.input = transferCall investor amount) :
      Spends env tx token amount (.sweep session ans)
  | withdraw {user : AuthUser} {body : WithdrawBody} {ans : WithdrawAnswers}
      {session : SessionInfo} {destAddr : Address} {totpSecret : List UInt8}
      (hadmin : user.role = "admin") (htotp : ans.totp = some (true, totpSecret))
      (hcode : env.lib.totpCheck totpSecret ans.now body.totpCode = some true)
      (hsession : ans.session = some session)
      (htoken : Address.parse session.targetToken = some token)
      (hdest : Address.parse body.destinationWallet = some destAddr)
      (hbalance : ∃ balance ∈ ans.balance, amount ≤ balance)
      (hcall : tx.toAddr = token ∧ tx.input = transferCall destAddr amount) :
      Spends env tx token amount (.withdraw user body ans)

/-- What a token and a router read in a transaction of the job. -/
structure ReadIn {T : Type} (env : FundsEnv T) (job : Job) (tx : TransactionRequest) : Prop where
  token : ∀ call ∈ env.abi.readToken tx.input,
    (∃ a, job.approval env = some a ∧ OfCall a.call tx ∧ call = .approve a.router U256.max) ∨
    ∃ dst moved amount, call = .transfer dst moved ∧ moved ≤ amount ∧
      Spends env tx tx.toAddr amount job
  router : ∀ sale ∈ (env.abi.readRouter tx.input).bind sells, Spends env tx sale.1 sale.2 job

section Reads

variable {T : Type} {env : FundsEnv T} {tx : TransactionRequest} {job : Job}

theorem readIn_nil (hinput : tx.input = []) : ReadIn env job tx := by
  constructor
  · intro call hcall
    rw [hinput, env.abi.readToken_nil] at hcall
    cases hcall
  · intro sale hsale
    rw [hinput, env.abi.readRouter_nil] at hsale
    cases hsale

theorem readIn_transferCall {dst : Address} {amount : ℕ}
    (hinput : tx.input = transferCall dst amount)
    (hspends : Spends env tx tx.toAddr amount job) : ReadIn env job tx := by
  constructor
  · intro call hcall
    rw [hinput, env.abi.readToken_transfer, Option.mem_some_iff] at hcall
    exact .inr ⟨dst, _, amount, hcall.symm, Nat.mod_le _ _, hspends⟩
  · intro sale hsale
    rw [hinput, env.abi.readRouter_transfer] at hsale
    cases hsale

theorem OfCall.input {call : Call} (h : OfCall call tx) : tx.input = (call.tx 0 0 0).input := by
  obtain ⟨nonce, gasLimit, gasPrice, rfl⟩ := h
  cases call <;> rfl

theorem readToken_approval {a : Approval} (hof : OfCall a.call tx) :
    env.abi.readToken tx.input = some (.approve a.router U256.max) := by
  have hmax : U256.max % U256.modulus = U256.max := by
    rw [U256.max, U256.modulus]
    norm_num
  rw [hof.input]
  change env.abi.readToken (approveCall a.router U256.max) = _
  rw [env.abi.readToken_approve, hmax]

theorem readIn_approval {a : Approval} (happroval : job.approval env = some a)
    (hof : OfCall a.call tx) : ReadIn env job tx := by
  constructor
  · intro call hcall
    rw [readToken_approval hof, Option.mem_some_iff] at hcall
    exact .inl ⟨a, happroval, hof, hcall.symm⟩
  · intro sale hsale
    have hinput : tx.input = approveCall a.router U256.max := hof.input
    rw [hinput, env.abi.readRouter_approve] at hsale
    cases hsale

/-- The first token of a path is the one that the route begins with. -/
theorem head_of_resolved {cfg : Settings} {route : PoolSwapRoute} {chain sellToken : String}
    {path : List Address} {nativeInput nativeOutput : Bool} {token : Address}
    (h : Engine.resolveRouteTokensForNative cfg route chain =
      some (path, nativeInput, nativeOutput))
    (hsell : route.hopTokens.head? = some sellToken) (htoken : path.head? = some token) :
    resolveToken cfg chain sellToken = some token := by
  have hmap := congrArg List.head? (map_resolved h).1
  rw [List.head?_map, List.head?_map, htoken, hsell] at hmap
  exact (Option.some.inj hmap).symm

/-- A planned call sells the token that the route begins with, and as much as is to be sold. -/
theorem sells_calldata {event : DexSwapEvent} {session : SessionInfo} {ans : Engine.SwapAnswers}
    {plan : SwapPlan} (hplan : planSwap env.engine event session ans = some plan) {token : Address}
    {amount : ℕ} (h : sells plan.calldata = some (token, amount)) :
    amount = plan.sellAmount ∧ ∃ sellToken, plan.route.hopTokens.head? = some sellToken ∧
      resolveToken env.engine.settings session.chain sellToken = some token := by
  obtain ⟨sellToken, hsell, -⟩ := planSwap_prepared hplan
  obtain ⟨expected, -, hcall⟩ := (planSwap_planned hplan).calldata_built
  obtain ⟨order, nativeInput, nativeOutput, horder, hpath, hin, -⟩ :=
    orderOf_buildSwapCalldata hcall
  obtain ⟨hamount, hhead⟩ := order_of_sells h horder
  refine ⟨?_, sellToken, hsell, head_of_resolved hpath hsell hhead⟩
  rw [hamount] at hin
  split at hin
  · cases hin
  · exact Option.some.inj hin

/-- A router reads the call of a planned swap as it is, and a token reads nothing. -/
theorem readIn_swap {event : DexSwapEvent} {session : SessionInfo} {ans : Engine.SwapAnswers}
    {plan : SwapPlan} (hplan : planSwap env.engine event session ans = some plan)
    (hof : OfCall (swapCall env session plan) tx) : ReadIn env (.swap event session ans) tx := by
  obtain ⟨nonce, gasLimit, gasPrice, rfl⟩ := hof
  have hinput : ((swapCall env session plan).tx nonce gasLimit gasPrice).input =
      env.abi.encode plan.calldata := rfl
  obtain ⟨expected, -, hbuilt⟩ := (planSwap_planned hplan).calldata_built
  constructor
  · intro call hread
    rw [hinput, env.abi.readToken_encode] at hread
    cases hread
  · rintro ⟨token, amount⟩ hsale
    rw [hinput] at hsale
    obtain ⟨call, hread, hsells⟩ := Option.bind_eq_some_iff.mp hsale
    obtain rfl := env.abi.eq_of_readRouter _ _
      (wrapped_buildSwapCalldata (sellAmount_lt hplan) hbuilt) hread
    obtain ⟨rfl, sellToken, hsell, htoken⟩ := sells_calldata hplan hsells
    exact .swap hplan hsell htoken rfl rfl rfl

/-- The gas wallet sends the native coin, and calls nothing. -/
theorem input_fund {paddingPct : ℕ} {ans : Gateway.GasAnswers} {call : Call}
    (hcall : (Job.fund paddingPct ans).call env = some call) (hof : OfCall call tx) :
    tx.input = [] := by
  simp only [Job.call] at hcall
  split at hcall
  · rename_i call' hok
    subst hcall
    obtain ⟨nonce, gasLimit, gasPrice, rfl⟩ := hof
    simp only [Gateway.fundSessionWalletGas] at hok
    obtain ⟨estimate, -, hok⟩ := bind_eq_ok.mp hok
    cases estimate with
    | none => cases hok
    | some e =>
        dsimp only at hok
        split at hok
        · cases hok
        · split at hok
          · cases hok
          · cases hok
            rfl
  · cases hcall

/-- What is read in a transaction of the job's own call. -/
theorem readIn_call {call : Call} (hcall : job.call env = some call) (hof : OfCall call tx) :
    ReadIn env job tx := by
  cases job with
  | swap event session ans =>
      obtain ⟨plan, hplan, rfl⟩ := Option.map_eq_some_iff.mp hcall
      exact readIn_swap hplan hof
  | sweep session ans =>
      obtain ⟨nonce, gasLimit, gasPrice, rfl⟩ := hof
      obtain ⟨investor, hinvestor, hswept⟩ := sweepToInvestor_swept hcall
      cases hswept with
      | native => exact readIn_nil rfl
      | token hsender htoken hbalance =>
          exact readIn_transferCall rfl (.sweep hinvestor hsender htoken hbalance ⟨rfl, rfl⟩)
  | withdraw user body ans =>
      obtain ⟨nonce, gasLimit, gasPrice, rfl⟩ := hof
      have hwithdrawn := adminWithdrawSession_withdrawn (ok_of_toOption hcall)
      obtain ⟨totpSecret, htotp, hcode⟩ := hwithdrawn.code
      obtain ⟨session, chainId, walletAddr, tokenAddress, destAddr, balance, amount, hsession,
        htoken, hdest, -, hbalance, -, hle, rfl⟩ := hwithdrawn.transfer
      exact readIn_transferCall rfl (.withdraw hwithdrawn.admin htotp hcode hsession htoken hdest
        ⟨balance, hbalance, hle⟩ ⟨rfl, rfl⟩)
  | fund paddingPct ans => exact readIn_nil (input_fund hcall hof)

/-- What is read in a transaction of any call that the job has begun. -/
theorem JobSound.readIn {w : Chains} {t : JobTask} (ht : JobSound env w t) {call : Call}
    (hcall : call ∈ t.calls) (hof : OfCall call tx) : ReadIn env t.job tx := by
  rcases List.mem_append.mp hcall with hcall | hcall
  · obtain ⟨a, ha, rfl⟩ := Option.map_eq_some_iff.mp (Option.mem_toList.mp hcall)
    exact readIn_approval (ht.approval a ha) hof
  · exact readIn_call (ht.call call (Option.mem_toList.mp hcall)) hof

/-- What was accepted is a transaction of a job. -/
theorem FundsSound.readIn {c : Config (Funds T) FundsTask} (hsound : FundsSound env c)
    (htx : tx ∈ c.store.chains.accepted) :
    ∃ t, .job t ∈ c.tasks ∧ ReadIn env t.job tx := by
  obtain ⟨t, ht, call, hcall, hof⟩ :=
    hsound.signed tx (hsound.holds.signed (List.mem_append_left _ htx))
  exact ⟨t, ht, (hsound.jobs t ht).readIn hcall hof⟩

end Reads

/-! ### Allowances -/

section Allowances

variable {T : Type} (env : FundsEnv T) (held : List Account)

/-- The allowances of the held wallets are nothing, or of the kind `Q` of their chain. -/
def Allows (Q : ℕ → Address → ℕ → Prop) (l : Ledger T) : Prop :=
  ∀ a ∈ held, ∀ token, Erc20.Lets env.token (l a.chainId token) a.address (Q a.chainId)

/-- An allowance for a router of the configuration. -/
def OfRouter (chainId : ℕ) (spender : Address) (_ : ℕ) : Prop :=
  spender ∈ configuredRouters env.engine.settings chainId

/-- One without a limit. -/
def Unlimited (chainId : ℕ) (spender : Address) (amount : ℕ) : Prop :=
  amount = U256.max ∧ spender ∈ configuredRouters env.engine.settings chainId

/-- No allowance of a held wallet is lowered. -/
def Keeps (l l' : Ledger T) : Prop :=
  ∀ a ∈ held, ∀ token spender, env.token.allowance (l a.chainId token) a.address spender ≤
    env.token.allowance (l' a.chainId token) a.address spender

variable {env held} {l l' : Ledger T} {tx : TransactionRequest} {calls : Calls}

theorem outlasts_ofRouter (chainId : ℕ) : Erc20.Outlasts env.token (OfRouter env chainId) :=
  fun _ _ hrouter => .inr hrouter

theorem outlasts_unlimited (hkeeps : env.token.KeepsUnlimited U256.max) (chainId : ℕ) :
    Erc20.Outlasts env.token (Unlimited env chainId) :=
  fun h _ hunlimited => .inr ⟨hkeeps h hunlimited.1, hunlimited.2⟩

theorem mem_heldOn {wallet : Address} {chainId : ℕ} :
    wallet ∈ heldOn held chainId ↔ ⟨chainId, wallet⟩ ∈ held := by
  simp only [heldOn, List.mem_map, List.mem_filter, decide_eq_true_eq]
  constructor
  · rintro ⟨⟨_, _⟩, ⟨hmem, rfl⟩, rfl⟩
    exact hmem
  · exact fun hmem => ⟨_, ⟨hmem, rfl⟩, rfl⟩

/-- What a swap asks for is a word, and its spender is a router of the configuration. -/
theorem approval_spec {job : Job} {a : Approval} (h : job.approval env = some a) :
    a.amount ≤ U256.max ∧ a.router ∈ configuredRouters env.engine.settings a.chainId := by
  cases job with
  | swap event session ans =>
      obtain ⟨prepared, hprepared, h⟩ := Option.bind_eq_some_iff.mp h
      obtain ⟨-, h⟩ := Option.ite_none_left_eq_some.mp h
      obtain ⟨sellToken, sellAmount, routerAddress, recipient⟩ := prepared
      simp only [approvalOf, Option.bind_eq_bind, Option.bind_eq_some_iff, Option.some.injEq] at h
      obtain ⟨token, -, rfl⟩ := h
      simp only [prepareSwap, Option.bind_eq_bind, Option.bind_eq_some_iff, Option.guard_eq_some',
        Option.some.injEq, Prod.mk.injEq] at hprepared
      obtain ⟨pool, -, _, -, poolType, -, _, -, cap, -, _, -, route, -, sellToken', -, impact, -,
        _, -, router, hrouter, routerAddress', haddr, recipient', -, -, rfl, rfl, -⟩ := hprepared
      constructor
      · have hword : U256.ofNumeric session.totalAmount < U256.modulus := U256.ofNumeric_lt _
        have hle := Nat.min_le_right (Engine.povSellAmount env.engine event session)
          (U256.ofNumeric session.totalAmount - U256.ofNumeric session.amountSold)
        change min _ _ ≤ U256.modulus - 1
        omega
      · obtain ⟨dex, hdex, hrouter⟩ := Option.bind_eq_some_iff.mp hrouter
        obtain ⟨-, hrouter⟩ := Option.ite_none_left_eq_some.mp hrouter
        obtain rfl := Option.some.inj hrouter
        obtain ⟨chainCfg, hchain, hfind⟩ := Option.bind_eq_some_iff.mp hdex
        obtain ⟨hchain, -⟩ := Option.filter_eq_some_iff.mp hchain
        obtain ⟨before, after, hsplit, -⟩ := List.lookup_eq_some_iff.mp hchain
        refine List.mem_flatMap.mpr ⟨(session.chain, chainCfg), by simp [hsplit], ?_⟩
        have hid : chainNameToId env.engine.settings session.chain = chainCfg.chainId := by
          rw [chainNameToId, hchain]
          rfl
        rw [if_pos hid.symm]
        exact List.mem_filterMap.mpr ⟨dex, List.mem_of_find?_eq_some hfind, haddr⟩
  | _ => cases h

/-- A held wallet approves only routers, and those without a limit. -/
theorem approves_of_conforms
    (hread : tx.account ∈ held → ∃ job, ReadIn env job tx) {wallet : Address}
    (hwallet : wallet ∈ heldOn held tx.chainId)
    (hconforms : Conforms env.abi (configuredRouters env.engine.settings tx.chainId) tx calls
      wallet) :
    ∀ m ∈ calls, Erc20.Approves wallet (Unlimited env tx.chainId) m.caller m.call := by
  intro m hm
  have hcall (hcaller : m.caller = wallet) : (∃ spender, m.call = .approve spender U256.max ∧
      spender ∈ configuredRouters env.engine.settings tx.chainId) ∨
      ∃ dst moved, m.call = .transfer dst moved := by
    obtain ⟨hsender, -, hreads⟩ := hconforms.own m hm hcaller
    obtain ⟨job, hjob⟩ := hread (by
      rw [TransactionRequest.account, hsender]
      exact mem_heldOn.mp hwallet)
    rcases hjob.token m.call hreads with ⟨a, happroval, hof, hcall⟩ | ⟨dst, moved, _, hcall, -⟩
    · have hchain : tx.chainId = a.chainId := by
        obtain ⟨nonce, gasLimit, gasPrice, rfl⟩ := hof
        rfl
      exact .inl ⟨a.router, hcall, hchain ▸ (approval_spec happroval).2⟩
    · exact .inr ⟨dst, moved, hcall⟩
  constructor
  · intro hcaller hother
    rcases hcall hcaller with ⟨spender, hcall, -⟩ | ⟨dst, moved, hcall⟩
    · rw [hcall] at hother
      cases hother
    · rw [hcall] at hother
      cases hother
  · intro spender amount hcaller happrove
    rcases hcall hcaller with ⟨router, hcall, hrouter⟩ | ⟨dst, moved, hcall⟩
    · rw [hcall] at happrove
      obtain ⟨rfl, rfl⟩ := Erc20.Call.approve.inj happrove
      exact ⟨rfl, hrouter⟩
    · rw [hcall] at happrove
      cases happrove

variable (hk : env.token.Behaves)

include hk in
/-- A transaction keeps the kind of the allowances. -/
theorem Allows.execute {Q : ℕ → Address → ℕ → Prop} (hl : Allows env held Q l)
    (hQ : ∀ chainId, Erc20.Outlasts env.token (Q chainId))
    (happroves : ∀ wallet ∈ heldOn held tx.chainId, ∀ m ∈ calls,
      Erc20.Approves wallet (Q tx.chainId) m.caller m.call)
    (h : l.execute env.token tx.chainId calls = some l') : Allows env held Q l' := by
  obtain ⟨ts, hrun, rfl, hother⟩ := Ledger.execute_cases h
  rintro ⟨chainId, wallet⟩ ha token
  by_cases hchain : chainId = tx.chainId
  · subst hchain
    exact Erc20.lets_of_run hk (hQ tx.chainId) (hl _ ha) (happroves wallet (mem_heldOn.mpr ha))
      hrun token
  · rw [hother chainId hchain]
    exact hl _ ha token

section Executed

variable (hread : tx.account ∈ held → ∃ job, ReadIn env job tx)
  (hconforms : ∀ wallet ∈ heldOn held tx.chainId, Conforms env.abi
    (configuredRouters env.engine.settings tx.chainId) tx calls wallet)
  (h : l.execute env.token tx.chainId calls = some l')
include hk hread hconforms h

theorem ofRouter_of_execute (hl : Allows env held (OfRouter env) l) :
    Allows env held (OfRouter env) l' :=
  hl.execute hk outlasts_ofRouter (fun wallet hwallet m hm =>
    (approves_of_conforms hread hwallet (hconforms wallet hwallet) m hm).mono
      fun _ _ hunlimited => hunlimited.2) h

/-- What lowers a balance is a transaction of its owner, and takes what its job is about. -/
theorem loss_of_execute (hl : Allows env held (OfRouter env) l) {a : Account} (ha : a ∈ held)
    {token : Address}
    (hlt : env.token.balance (l' a.chainId token) a.address <
      env.token.balance (l a.chainId token) a.address) :
    tx.account = a ∧ ∀ job, ReadIn env job tx → ∃ amount, Spends env tx token amount job ∧
      env.token.balance (l a.chainId token) a.address ≤
        env.token.balance (l' a.chainId token) a.address + amount := by
  obtain ⟨ts, hrun, rfl, hother⟩ := Ledger.execute_cases h
  obtain ⟨chainId, wallet⟩ := a
  by_cases hchain : chainId = tx.chainId
  · subst hchain
    have hwallet := mem_heldOn.mpr ha
    have hwalletConforms := hconforms wallet hwallet
    obtain ⟨m, hm, htoken, htakes, hle⟩ := (Erc20.balance_le_of_run hk
      (outlasts_ofRouter tx.chainId) (fun _ _ hrouter => hrouter) (hl _ ha)
      (fun m hm => (approves_of_conforms hread hwallet hwalletConforms m hm).mono
        fun _ _ hunlimited => hunlimited.2)
      hwalletConforms.once hrun token).resolve_left (not_le.mpr hlt)
    rcases htakes with hcaller | ⟨hrouter, hsrc⟩
    -- the wallet has called the token itself
    · obtain ⟨hsender, haddr, hreads⟩ := hwalletConforms.own m hm hcaller
      refine ⟨by rw [TransactionRequest.account, hsender], fun job hjob => ?_⟩
      rcases hjob.token m.call hreads with ⟨b, -, -, hcall⟩ | ⟨dst, moved, amount, hcall, hmoved,
        hspends⟩
      · rw [hcall] at hle
        exact absurd hle (not_le.mpr hlt)
      · rw [hcall] at hle
        rw [haddr, htoken] at hspends
        exact ⟨amount, hspends, hle.trans (Nat.add_le_add_left hmoved _)⟩
    -- a router has taken what is sold
    · obtain ⟨hsender, -, sale, hsale, htok, hamount⟩ := hwalletConforms.pulls m hm hrouter hsrc
      refine ⟨by rw [TransactionRequest.account, hsender], fun job hjob => ⟨sale.2, ?_,
        hle.trans (Nat.add_le_add_left hamount _)⟩⟩
      rw [← htoken, htok]
      exact hjob.router sale hsale
  · rw [hother chainId hchain] at hlt
    exact absurd hlt (lt_irrefl _)

variable (hkeeps : env.token.KeepsUnlimited U256.max)
include hkeeps

/-- A transaction keeps unlimited allowances, and lowers none. -/
theorem unlimited_of_execute (hl : Allows env held (Unlimited env) l) :
    Allows env held (Unlimited env) l' ∧ Keeps env held l l' := by
  have happroves (wallet : Address) (hwallet : wallet ∈ heldOn held tx.chainId) :=
    approves_of_conforms hread hwallet (hconforms wallet hwallet)
  refine ⟨hl.execute hk (outlasts_unlimited hkeeps) happroves h, ?_⟩
  obtain ⟨ts, hrun, rfl, hother⟩ := Ledger.execute_cases h
  rintro ⟨chainId, wallet⟩ ha token spender
  by_cases hchain : chainId = tx.chainId
  · subst hchain
    rcases hl _ ha token spender with hzero | hunlimited
    · exact hzero.le.trans (Nat.zero_le _)
    · have hkept := Erc20.unlimited_of_run hk hkeeps (happroves wallet (mem_heldOn.mpr ha))
        (fun _ _ h => h.1) hrun hunlimited.1
      exact (hunlimited.1.trans hkept.symm).le
  · rw [hother chainId hchain]

/-- An approval that has not failed is there. -/
theorem allowed_of_execute {a : Approval} (hof : OfCall a.call tx)
    (ha : ⟨a.chainId, a.owner⟩ ∈ held) : env.allowed l' a = U256.max := by
  obtain ⟨ts, hrun, rfl, -⟩ := Ledger.execute_cases h
  have hreads : env.abi.readToken tx.input = some (.approve a.router U256.max) :=
    readToken_approval hof
  obtain ⟨nonce, gasLimit, gasPrice, rfl⟩ := hof
  have hwallet := mem_heldOn.mpr ha
  exact Erc20.unlimited_of_mem hk hkeeps (approves_of_conforms hread hwallet
    (hconforms a.owner hwallet)) (fun _ _ h => h.1) hrun
    ((hconforms a.owner hwallet).made rfl _ hreads)

end Executed

theorem Allows.eq_max (h : Allows env held (Unlimited env) l) {a : Account} (ha : a ∈ held)
    {token spender : Address}
    (hle : U256.max ≤ env.token.allowance (l a.chainId token) a.address spender) :
    env.token.allowance (l a.chainId token) a.address spender = U256.max := by
  rcases h a ha token spender with hzero | ⟨hmax, -⟩
  · rw [hzero] at hle
    exact absurd hle (by decide +kernel)
  · exact hmax

end Allowances

/-- Where a swap is planned, and from then on, the router may take what is to be sold. -/
def Covered {T : Type} (env : FundsEnv T) (held : List Account) (l : Ledger T)
    (t : JobTask) : Prop :=
  t.phase = .plan ∨ t.call.isSome = true → ∀ a ∈ t.job.approval env,
    ⟨a.chainId, a.owner⟩ ∈ held → a.amount ≤ env.allowed l a

/-- What is true of allowances in all runs. -/
structure AllowedSound {T : Type} (env : FundsEnv T) (held : List Account)
    (c : Config (Funds T) FundsTask) : Prop where
  allowances : Allows env held (Unlimited env) c.store.ledger
  executed : ∀ tx ∈ c.store.executed, ∀ a : Approval, OfCall a.call tx →
    ⟨a.chainId, a.owner⟩ ∈ held → env.allowed c.store.ledger a = U256.max
  covered : ∀ t, .job t ∈ c.tasks → Covered env held c.store.ledger t

section Runs

variable {T : Type} {env : FundsEnv T} {held : List Account} {l l' : Ledger T} {s s' : Funds T}
  {t t' : JobTask}

theorem Covered.mono (h : Covered env held l t) (hkeeps : Keeps env held l l') :
    Covered env held l' t :=
  fun hat a ha hheld =>
    (h hat a ha hheld).trans (hkeeps ⟨a.chainId, a.owner⟩ hheld a.token a.router)

theorem afterApproval_ne_plan (phase next : Phase) (a : Answer) (w : Chains) :
    afterApproval phase a w next ≠ .plan := by
  unfold afterApproval
  split
  · split <;> nofun
  · nofun

theorem afterCall_ne_plan (next : Phase) : afterCall next ≠ .plan := by
  unfold afterCall
  split <;> nofun

/-- A job that moves is covered where it comes to. -/
theorem FundsMove.covered {a : FundsAct} (hjob : JobSound env s.chains t)
    (hcovered : Covered env held s.ledger t)
    (hexecuted : ∀ tx ∈ s.executed, ∀ a : Approval, OfCall a.call tx →
      ⟨a.chainId, a.owner⟩ ∈ held → env.allowed s.ledger a = U256.max)
    (h : FundsMove env s (.job t) a s' (.job t')) :
    s'.ledger = s.ledger ∧ s'.executed = s.executed ∧ Covered env held s.ledger t' := by
  have hstays {p : JobPhase} (hp : p ≠ .plan) :
      Covered env held s.ledger { t with phase := p } := by
    rintro (hplan | hcall)
    · exact absurd hplan hp
    · exact hcovered (.inr hcall)
  cases h with
  | gaveUp => exact ⟨rfl, rfl, hstays nofun⟩
  | allowed _ hallowed => exact ⟨rfl, rfl, fun _ a ha _ => hallowed a ha⟩
  | approves =>
      refine ⟨rfl, rfl, ?_⟩
      rintro (hplan | hcall)
      · cases hplan
      · exact hcovered (.inr hcall)
  | approving => exact ⟨rfl, rfl, hstays (afterApproval_ne_plan _ _ _ _)⟩
  | @confirmed t tx hat hmem =>
      refine ⟨rfl, rfl, fun _ a ha hheld => ?_⟩
      -- the approval that it has waited for is the one that it needs
      have hphase := hjob.phase
      rw [PhaseSound, hat] at hphase
      obtain ⟨b, hb, hof⟩ := hphase
      obtain rfl : a = b := Option.some.inj (ha.symm.trans (hjob.approval b hb))
      exact (approval_spec ha).1.trans_eq (hexecuted tx hmem a hof hheld).symm
  | planned hat => exact ⟨rfl, rfl, fun _ => hcovered (.inl hat)⟩
  | calling => exact ⟨rfl, rfl, hstays (afterCall_ne_plan _)⟩

theorem covered_of_isNew (h : FundsTask.isNew (.job t) = true) : Covered env held l t := by
  obtain ⟨job, approval, call, phase⟩ := t
  simp only [FundsTask.isNew, Bool.and_eq_true, Option.isNone_iff_eq_none] at h
  obtain ⟨⟨rfl, rfl⟩, hphase⟩ := h
  rintro (rfl | hcall) a ha
  · cases job with
    | swap => cases hphase
    | _ => cases ha
  · cases hcall

variable {earlier : Account → ℕ} {ledger : Ledger T} {c c' : Config (Funds T) FundsTask}

/-- What the executed approvals let stays let where allowances are kept. -/
theorem AllowedSound.executed_keeps (hallowed : AllowedSound env held c)
    (hunlimited : Allows env held (Unlimited env) l) (hkept : Keeps env held c.store.ledger l)
    {tx : TransactionRequest} (htx : tx ∈ c.store.executed) {a : Approval} (hof : OfCall a.call tx)
    (hheld : ⟨a.chainId, a.owner⟩ ∈ held) : env.allowed l a = U256.max := by
  have hbefore := hallowed.executed tx htx a hof hheld
  exact hunlimited.eq_max hheld (hbefore ▸ hkept ⟨a.chainId, a.owner⟩ hheld a.token a.router)

theorem mem_of_mem_set_self {ts : List FundsTask} {i : ℕ} {u : FundsTask} {v : FundsTask}
    (hat : ts[i]? = some u) (hv : v ∈ ts.set i u) : v ∈ ts := by
  rcases List.mem_or_eq_of_mem_set hv with hv | rfl
  · exact hv
  · exact List.mem_of_getElem? hat

/-- Nobody may take a token of a held wallet. -/
def Untaken (env : FundsEnv T) (held : List Account) (l : Ledger T) : Prop :=
  ∀ a ∈ held, ∀ token spender, env.token.allowance (l a.chainId token) a.address spender = 0

/-- What an accepted transaction of a held wallet is for. -/
theorem FundsSound.exists_readIn (hsound : FundsSound env c) {tx : TransactionRequest}
    (htx : tx ∈ c.store.chains.accepted) : tx.account ∈ held → ∃ job, ReadIn env job tx := by
  intro _
  obtain ⟨t, -, hread⟩ := hsound.readIn htx
  exact ⟨t.job, hread⟩

variable (hk : env.token.Behaves) (hstart : Untaken env held ledger)
  (h : (funds env).Run (Apart env held) (fundsStart earlier ledger) c)
include hk hstart h

/-- Only routers are let take something, whatever the tokens do with large allowances. -/
theorem ofRouter_of_run : Allows env held (OfRouter env) c.store.ledger := by
  refine h.invariant (I := fun c => Allows env held (OfRouter env) c.store.ledger) ?_ ?_
  · exact fun a ha token spender => .inl (hstart a ha token spender)
  · intro c c' m hrun hl hapart hn
    have hsound := fundsSound_of_run hrun
    rcases System.next_cases hn with ⟨u, rfl, -, rfl⟩ | ⟨i, a, u, s', u', rfl, hacts, rfl⟩
    · exact hl
    · have hmove := funds_move hacts
      cases hmove with
      | executes htx h => exact ofRouter_of_execute hk (hsound.exists_readIn htx) hapart h hl
      | outside h =>
          exact ofRouter_of_execute hk (fun hheld => absurd hheld hapart.1) hapart.2 h hl
      | _ => exact hl

theorem allowedSound_of_run (hkeeps : env.token.KeepsUnlimited U256.max) :
    AllowedSound env held c := by
  refine h.invariant (I := AllowedSound env held) ?_ ?_
  · exact ⟨fun a ha token spender => .inl (hstart a ha token spender),
      fun tx htx => absurd htx List.not_mem_nil, fun t ht => absurd ht List.not_mem_nil⟩
  · intro c c' m hrun hallowed hapart hn
    have hsound := fundsSound_of_run hrun
    rcases System.next_cases hn with ⟨u, rfl, hnew, rfl⟩ | ⟨i, a, u, s', u', rfl, hacts, rfl⟩
    · refine ⟨hallowed.allowances, hallowed.executed, fun t ht => ?_⟩
      rcases List.mem_append.mp ht with ht | ht
      · exact hallowed.covered t ht
      · rw [← List.mem_singleton.mp ht] at hnew
        exact covered_of_isNew hnew
    · have hmove := funds_move hacts
      cases u with
      | job t =>
          obtain ⟨t', rfl⟩ : ∃ t', u' = .job t' := by cases hmove <;> exact ⟨_, rfl⟩
          obtain ⟨hledger, hexecuted, hcovered⟩ := hmove.covered (hsound.jobs t hacts.mem)
            (hallowed.covered t hacts.mem) hallowed.executed
          refine ⟨?_, ?_, fun v hv => ?_⟩
          · change Allows env held (Unlimited env) s'.ledger
            rw [hledger]
            exact hallowed.allowances
          · change ∀ tx ∈ s'.executed, _
            rw [hexecuted, hledger]
            exact hallowed.executed
          · change Covered env held s'.ledger v
            rw [hledger]
            rcases List.mem_or_eq_of_mem_set hv with hv | heq
            · exact hallowed.covered v hv
            · cases heq
              exact hcovered
      | mining =>
          cases hmove with
          | @executes tx calls ledger htx h =>
              have hread : tx.account ∈ held → ∃ job, ReadIn env job tx :=
                hsound.exists_readIn htx
              obtain ⟨hunlimited, hkept⟩ :=
                unlimited_of_execute hk hread hapart h hkeeps hallowed.allowances
              refine ⟨hunlimited, fun tx' htx' a hof hheld => ?_, fun v hv => ?_⟩
              · rcases List.mem_append.mp htx' with htx' | htx'
                · exact hallowed.executed_keeps hunlimited hkept htx' hof hheld
                · obtain rfl := List.mem_singleton.mp htx'
                  exact allowed_of_execute hk hread hapart h hkeeps hof hheld
              · exact (hallowed.covered v (mem_of_mem_set_self hacts.at_index hv)).mono hkept
          | reverts htx =>
              exact ⟨hallowed.allowances, hallowed.executed,
                fun v hv => hallowed.covered v (mem_of_mem_set_self hacts.at_index hv)⟩
      | outside =>
          cases hmove with
          | @outside tx calls ledger h =>
              obtain ⟨hunlimited, hkept⟩ := unlimited_of_execute hk
                (fun hheld => absurd hheld hapart.1) hapart.2 h hkeeps hallowed.allowances
              refine ⟨hunlimited, fun tx htx a hof hheld => ?_, fun v hv => ?_⟩
              · exact hallowed.executed_keeps hunlimited hkept htx hof hheld
              · exact (hallowed.covered v (mem_of_mem_set_self hacts.at_index hv)).mono hkept

end Runs

namespace Sample

def fundsEnv : FundsEnv (Erc20.Token Address) where
  engine := Engine.Sample.directEnv
  lib := Gateway.Sample.crates
  investorWallet := "0x7777777777777777777777777777777777777777"
  abi := .standard
  token := Erc20.Token.contract U256.max

/-- The wallet of the sample session. -/
def sessionWallet : Account := ⟨56, address 0x55⟩

def soldToken : Address := address 0x11

/-- The wallet has some of every token, and nobody may take it. -/
def ledger : Ledger (Erc20.Token Address) := fun _ _ =>
  ⟨fun a => if a = sessionWallet.address then 800 else 0, fun _ _ => 0⟩

/-- Nothing is let yet, and the approval is confirmed. -/
def swapJob : Job :=
  .swap (Engine.Sample.event "0xa") (Engine.Sample.session 1)
    { Engine.Sample.answers with allowance := some 0, approved := true }

def approveTx : TransactionRequest :=
  (Approval.call ⟨56, sessionWallet.address, soldToken, address 0x44, 500⟩).tx 0 (bufferedGas 100) 3

def swapTx : TransactionRequest :=
  (Call.buildSignAndSubmitTx 56 sessionWallet.address (address 0x44)
    (Abi.standard.encode (.swapExactTokensForTokensSupportingFeeOnTransferTokens 500 485
      [soldToken, address 0x22] sessionWallet.address 300)) 0).tx 1 (bufferedGas 100) 3

/-- The router, which is called by the wallet, takes what is sold on to the pool. -/
def swapCalls : Calls :=
  [⟨soldToken, address 0x44, .transferFrom sessionWallet.address (address 0x33) 500⟩]

def approveCalls : Calls :=
  [⟨soldToken, sessionWallet.address, .approve (address 0x44) U256.max⟩]

/-- From the nonce to the node that takes the transaction. -/
def engineSubmission : List (TaskSystem.Move FundsTask FundsAct) :=
  [.act 1 (.job (.answer (.transactionCount true))),
    .act 1 (.job (.answer (.gasEstimate (some 100)))),
    .act 1 (.job (.answer (.gasPrice (some 3)))), .act 1 (.job (.answer (.signed .deliver))),
    .act 1 (.job (.answer (.sent .deliver)))]

/-- The router is let, and then the swap is sent. -/
def swapRun : List (TaskSystem.Move FundsTask FundsAct) :=
  [.spawn .mining, .spawn (.job ⟨swapJob, none, none, .check⟩), .act 1 (.job .check)] ++
    engineSubmission ++ [.act 0 (.mined approveTx approveCalls false),
      .act 1 (.job (.receipt true)), .act 1 (.job .plan)] ++ engineSubmission

theorem swap_conforms : ∀ wallet ∈ heldOn [sessionWallet] swapTx.chainId,
    Conforms fundsEnv.abi (configuredRouters fundsEnv.engine.settings swapTx.chainId) swapTx
      swapCalls wallet := by
  decide +kernel

theorem ledger_untaken (held : List Account) : Untaken fundsEnv held ledger :=
  fun _ _ _ _ => rfl

end Sample

section Runs

variable {T : Type} {env : FundsEnv T} {held : List Account} {earlier : Account → ℕ}
  {ledger : Ledger T} {c c' : Config (Funds T) FundsTask}

/-- In every run in which the others keep to their own accounts, an allowance of a held
wallet is nothing, or everything for a router of the configuration; and from the moment a
swap of tokens is submitted, its router may take what it sells. The tokens do as the
standard says, and do not use up unlimited allowances. -/
theorem allowances_of_apartRun (hk : env.token.Behaves)
    (hkeeps : env.token.KeepsUnlimited U256.max) (hstart : Untaken env held ledger)
    (h : (funds env).Run (Apart env held) (fundsStart earlier ledger) c) :
    Allows env held (Unlimited env) c.store.ledger ∧
    ∀ event session ans approval call phase,
      .job ⟨.swap event session ans, approval, some call, phase⟩ ∈ c.tasks →
        ∃ plan sellToken, planSwap env.engine event session ans = some plan ∧
          call = swapCall env session plan ∧ plan.route.hopTokens.head? = some sellToken ∧
          (isNativeTokenPlaceholder sellToken = true ∨
            ∃ token, Address.parse sellToken = some token ∧
              (call.account ∈ held → plan.sellAmount ≤
                env.token.allowance (c.store.ledger call.account.chainId token) plan.recipient
                  plan.routerAddress)) := by
  have hallowed := allowedSound_of_run hk hstart h hkeeps
  refine ⟨hallowed.allowances, fun event session ans approval call phase ht => ?_⟩
  have hcall : Job.call env (.swap event session ans) = some call :=
    ((fundsSound_of_run h).jobs _ ht).call call rfl
  obtain ⟨plan, hplan, rfl⟩ := Option.map_eq_some_iff.mp hcall
  obtain ⟨sellToken, hsell, hprepared⟩ := planSwap_prepared hplan
  refine ⟨plan, sellToken, hplan, rfl, hsell, ?_⟩
  by_cases hnative : isNativeTokenPlaceholder sellToken = true
  · exact .inl hnative
  · obtain ⟨sellToken', hsell', -, hensured⟩ := (planSwap_planned hplan).impact_read
    obtain rfl : sellToken = sellToken' := Option.some.inj (hsell.symm.trans hsell')
    have hensured := hensured.resolve_left hnative
    unfold Engine.ensureTokenApproval at hensured
    split at hensured
    · rename_i token allowance hrpc hread
      refine .inr ⟨token, rpc_eq_some hrpc, fun hheld => ?_⟩
      have happroval : Job.approval env (.swap event session ans) =
          some ⟨chainNameToId env.engine.settings session.chain, plan.recipient, token,
            plan.routerAddress, plan.sellAmount⟩ := by
        simp [Job.approval, hprepared, hnative, approvalOf, hrpc]
      exact hallowed.covered _ ht (.inr rfl) _ happroval hheld
    · cases hensured

/-- The router of the sample session may take everything, and the swap is sent. -/
theorem allowances_of_apartRun_sample : ∃ c : Config (Funds (Erc20.Token Address)) FundsTask,
    Sample.swapTx ∈ c.store.chains.accepted ∧
    (c.store.ledger 56 Sample.soldToken).allowances Sample.sessionWallet.address
      (Sample.address 0x44) = U256.max ∧
    Allows Sample.fundsEnv [Sample.sessionWallet] (Unlimited Sample.fundsEnv)
      c.store.ledger := by
  obtain ⟨c, hrun, hc⟩ := System.exists_of_runIf (funds Sample.fundsEnv)
    (Apart Sample.fundsEnv [Sample.sessionWallet]) (fundsStart (fun _ => 0) Sample.ledger)
    Sample.swapRun (fun c => Sample.swapTx ∈ c.store.chains.accepted ∧
      (c.store.ledger 56 Sample.soldToken).allowances Sample.sessionWallet.address
        (Sample.address 0x44) = U256.max) (by decide +kernel)
  obtain ⟨hsent, hmax⟩ := of_decide_eq_true hc
  exact ⟨c, hsent, hmax, (allowances_of_apartRun Erc20.Token.contract_behaves
    Erc20.Token.contract_keepsUnlimited (Sample.ledger_untaken _) hrun).1⟩

/-- In every run in which the others keep to their own accounts, a held wallet loses tokens
only by a mined transaction of its own: a swap of the session's sell token, a sweep of its
target token to the investor, or a withdrawal of it to the address that an administrator
with a right code has named; and no more than the amount that this one is about. -/
theorem spends_of_apartRun (hk : env.token.Behaves) (hstart : Untaken env held ledger)
    (h : (funds env).Run (Apart env held) (fundsStart earlier ledger) c)
    {m : TaskSystem.Move FundsTask FundsAct} (hapart : Apart env held c m)
    (hn : (funds env).next c m = some c') {a : Account} (ha : a ∈ held) {token : Address}
    (hlt : env.token.balance (c'.store.ledger a.chainId token) a.address <
      env.token.balance (c.store.ledger a.chainId token) a.address) :
    ∃ i tx calls, m = .act i (.mined tx calls false) ∧ tx.account = a ∧
      ∃ t, .job t ∈ c.tasks ∧ ∃ amount, Spends env tx token amount t.job ∧
        env.token.balance (c.store.ledger a.chainId token) a.address ≤
          env.token.balance (c'.store.ledger a.chainId token) a.address + amount := by
  have hsound := fundsSound_of_run h
  have hrouters := ofRouter_of_run hk hstart h
  rcases System.next_cases hn with ⟨u, rfl, -, rfl⟩ | ⟨i, act, u, s', u', rfl, hacts, rfl⟩
  · exact absurd hlt (lt_irrefl _)
  · have hmove := funds_move hacts
    cases hmove with
    | @executes tx calls ledger htx h =>
        obtain ⟨t, ht, hread⟩ := hsound.readIn htx
        obtain ⟨haccount, hloss⟩ :=
          loss_of_execute hk (hsound.exists_readIn htx) hapart h hrouters ha hlt
        obtain ⟨amount, hspends, hle⟩ := hloss t.job hread
        exact ⟨i, tx, calls, rfl, haccount, t, ht, amount, hspends, hle⟩
    | @outside tx calls ledger h =>
        obtain ⟨haccount, -⟩ := loss_of_execute hk (fun hheld => absurd hheld hapart.1) hapart.2 h
          hrouters ha hlt
        exact absurd (haccount ▸ ha) hapart.1
    | _ => exact absurd hlt (lt_irrefl _)

/-- The swap of the sample session is mined. -/
theorem spends_of_apartRun_sample :
    ∃ tx, tx.account = Sample.sessionWallet ∧ ∃ job amount,
      Spends Sample.fundsEnv tx Sample.soldToken amount job ∧ 800 ≤ 300 + amount := by
  obtain ⟨c, hrun, hc⟩ := System.exists_of_runIf (funds Sample.fundsEnv)
    (Apart Sample.fundsEnv [Sample.sessionWallet]) (fundsStart (fun _ => 0) Sample.ledger)
    Sample.swapRun (fun c =>
      (c.store.ledger 56 Sample.soldToken).balances Sample.sessionWallet.address = 800 ∧
      ((funds Sample.fundsEnv).next c
        (.act 0 (.mined Sample.swapTx Sample.swapCalls false))).any (fun c' =>
          (c'.store.ledger 56 Sample.soldToken).balances Sample.sessionWallet.address = 300) = true)
      (by decide +kernel)
  obtain ⟨hbefore, hc'⟩ := of_decide_eq_true hc
  obtain ⟨c', hn, hafter⟩ := (Option.any_eq_true _ _).mp hc'
  have hafter := of_decide_eq_true hafter
  have hlt : (c'.store.ledger 56 Sample.soldToken).balances Sample.sessionWallet.address <
      (c.store.ledger 56 Sample.soldToken).balances Sample.sessionWallet.address := by
    rw [hbefore, hafter]
    decide
  have hapart : Apart Sample.fundsEnv [Sample.sessionWallet] c
      (.act 0 (.mined Sample.swapTx Sample.swapCalls false)) := Sample.swap_conforms
  obtain ⟨i, tx, calls, -, haccount, t, -, amount, hspends, hle⟩ := spends_of_apartRun
    Erc20.Token.contract_behaves (Sample.ledger_untaken _) hrun hapart hn List.mem_cons_self hlt
  exact ⟨tx, haccount, t.job, amount, hspends, by rw [← hbefore, ← hafter]; exact hle⟩

end Runs

end Liquifier.Chain
