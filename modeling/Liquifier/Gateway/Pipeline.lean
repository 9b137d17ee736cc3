import Liquifier.Gateway.OwnOutputs
import Liquifier.Gateway.Rows
import Liquifier.Indexer.Deposits
import Liquifier.Kms.Keys

/-!
From a transfer on a chain to a row of `deposits`.

The indexer and the consumer of the deposit messages are taken together, with all that may
move beside them: the engine, sign-ups and changes of roles, new wallets and the reloads of
the map of wallets. The stream between the two delivers what was published, as often as it
likes and in any order, and nothing else.
-/

namespace Liquifier.Gateway

open Indexer (Announces BlockAct BlockPhase Log LookupSound ProcessedLog WalletLookup
  addressFromWord blockStep blockStep_cases commonWallets dataWord depositOf_announces
  erc20TransferSig lookupSound_walletLookup mem_published published walletLookup)
open Kms (WalletRow)
open TaskSystem

/-! ### Users and wallets -/

section Clients

variable {lib : Crates} {jwtSecret : String}

/-- A write that keeps the ids of the rows loses none. -/
theorem ids_subset_of_follows {R : User → User → Prop} {New : User → Prop} {rows rows' : List User}
    (h : Table.Follows R New rows rows') (hid : ∀ r r', R r r' → r'.id = r.id) :
    rows.map User.id ⊆ rows'.map User.id := by
  intro id hmem
  obtain ⟨r, hr, rfl⟩ := List.mem_map.mp hmem
  obtain ⟨r', hr', hR⟩ := h.old r hr
  exact List.mem_map.mpr ⟨r', hr', hid r r' hR⟩

/-- No request and no start of the gateway deletes a user. -/
theorem ids_subset_next (s : State) (e : Event × Env) :
    s.users.rows.map User.id ⊆ (next lib jwtSecret s e).users.rows.map User.id := by
  obtain ⟨e, env⟩ := e
  cases e with
  | start adminEmail adminPassword =>
      exact ids_subset_of_follows (seeded_rows s.users env adminEmail adminPassword)
        fun _ _ h => by rw [h]
  | request r =>
      exact ids_subset_of_follows (respond_effect r).rows fun _ _ h => h.id_eq

end Clients

namespace Backend

variable (lib : Crates) (jwtSecret : String) (s : Backend)

/-- An event about accounts; the tokens that it gives out play no part here. -/
def account (e : Event × Env) : Backend :=
  { s with
    users := (next lib jwtSecret ⟨s.users, []⟩ e).users
    deposit_users := fun r hr => ids_subset_next ⟨s.users, []⟩ e (s.deposit_users r hr) }

/-- The `INSERT` of `create_wallet`, which fails where a key is taken or a reference
leads nowhere. -/
def createWallet (row : WalletRow) : Backend :=
  if row.id ∉ s.wallets.map (·.id) ∧
      (row.chain, row.address) ∉ s.wallets.map (fun w => (w.chain, w.address)) ∧
      row.chain ∈ Kms.chainIds ∧ row.userId ∈ s.users.rows.map User.id then
    { s with
      wallets := s.wallets ++ [row]
      deposit_wallets := fun r hr => by
        rw [List.map_append]
        exact List.mem_append_left _ (s.deposit_wallets r hr) }
  else s

end Backend

/-! ### The system -/

/-- What the services work on, and what the indexer has processed. -/
structure Pipeline where
  backend : Backend
  lookup : WalletLookup
  processed : List ProcessedLog

/-- Where `refresh_wallet_lookup` is. -/
inductive RefreshPhase where
  | select
  | write (rows : List (String × String × String))
  | done

inductive PipelineTask where
  | backend (t : BackendTask)
  | refresh (phase : RefreshPhase)
  | block (chain : String) (phase : BlockPhase)
  /-- The clients of the gateway. -/
  | clients

inductive PipelineAct where
  | backend (a : BackendAct)
  /-- The rows of the query, in any order; `none` is an error. -/
  | select (rows : Option (List (String × String × String)))
  | write
  | block (a : BlockAct)
  | account (e : Event × Env)
  | createWallet (row : WalletRow)

namespace PipelineTask

/-- A task at its beginning. -/
def isNew : PipelineTask → Bool
  | .backend t => t.isNew
  | .refresh .select => true
  | .refresh _ => false
  | .block _ .fetch => true
  | .block _ _ => false
  | .clients => true

end PipelineTask

section Steps

variable (env : Engine.Environment) (lib : Crates) (jwtSecret : String) (sendsEmail : Bool)
  (maxBlockAgeSecs : ℕ)

def pipelineStep : PipelineAct → Pipeline → PipelineTask → Option (Pipeline × PipelineTask)
  | .backend a, s, .backend t =>
      (backendStep env lib sendsEmail a s.backend t).map fun r =>
        ({ s with backend := r.1 }, .backend r.2)
  | .select none, s, .refresh .select => some (s, .refresh .done)
  | .select (some rows), s, .refresh .select =>
      if rows.Perm (commonWallets lib s.backend.users s.backend.wallets) then
        some (s, .refresh (.write rows))
      else none
  | .write, s, .refresh (.write rows) =>
      some ({ s with lookup := walletLookup rows }, .refresh .done)
  | .block a, s, .block chain phase =>
      (blockStep chain maxBlockAgeSecs s.lookup phase a).map fun r =>
        ({ s with processed := s.processed ++ r.1 }, .block chain r.2)
  | .account e, s, .clients =>
      some ({ s with backend := s.backend.account lib jwtSecret e }, .clients)
  | .createWallet row, s, .clients =>
      some ({ s with backend := s.backend.createWallet row }, .clients)
  | _, _, _ => none

def pipeline : System Pipeline PipelineTask PipelineAct :=
  ⟨PipelineTask.isNew, pipelineStep env lib jwtSecret sendsEmail maxBlockAgeSecs⟩

/-- No block has been processed and no message has come. -/
def pipelineStart (db : Database) (users : Users) (wallets : List WalletRow) :
    Config Pipeline PipelineTask := ⟨⟨Backend.boot db users wallets, [], []⟩, []⟩

/-- The stream delivers only what was published. -/
def Delivers (c : Config Pipeline PipelineTask) : Move PipelineTask PipelineAct → Prop
  | .spawn (.backend (.deposit (.receive (some d)))) => d ∈ published c.store.processed
  | _ => True

/-- All that a move of a task can do. -/
inductive PipelineMove (s : Pipeline) : PipelineTask → PipelineAct → Pipeline → PipelineTask → Prop
  | backend {t t' : BackendTask} {a : BackendAct} {b : Backend}
      (h : BackendMove env lib s.backend t a b t') :
      PipelineMove s (.backend t) (.backend a) { s with backend := b } (.backend t')
  | selectFailed : PipelineMove s (.refresh .select) (.select none) s (.refresh .done)
  | selected {rows : List (String × String × String)}
      (h : rows.Perm (commonWallets lib s.backend.users s.backend.wallets)) :
      PipelineMove s (.refresh .select) (.select (some rows)) s (.refresh (.write rows))
  | written {rows : List (String × String × String)} :
      PipelineMove s (.refresh (.write rows)) .write { s with lookup := walletLookup rows }
        (.refresh .done)
  | block {chain : String} {phase phase' : BlockPhase} {a : BlockAct} {new : List ProcessedLog}
      (h : blockStep chain maxBlockAgeSecs s.lookup phase a = some (new, phase')) :
      PipelineMove s (.block chain phase) (.block a)
        { s with processed := s.processed ++ new } (.block chain phase')
  | account {e : Event × Env} :
      PipelineMove s .clients (.account e) { s with backend := s.backend.account lib jwtSecret e }
        .clients
  | walletCreated {row : WalletRow} :
      PipelineMove s .clients (.createWallet row)
        { s with backend := s.backend.createWallet row } .clients

end Steps

section Moves

variable {env : Engine.Environment} {lib : Crates} {jwtSecret : String} {sendsEmail : Bool}
  {maxBlockAgeSecs : ℕ} {s s' : Pipeline} {t t' : PipelineTask} {a : PipelineAct}

theorem pipelineStep_move
    (h : pipelineStep env lib jwtSecret sendsEmail maxBlockAgeSecs a s t = some (s', t')) :
    PipelineMove env lib jwtSecret maxBlockAgeSecs s t a s' t' := by
  unfold pipelineStep at h
  split at h
  · obtain ⟨⟨b, t'⟩, hstep, h⟩ := Option.map_eq_some_iff.mp h
    cases h
    exact .backend (backendStep_move hstep)
  · cases h
    exact .selectFailed
  · obtain ⟨hperm, h⟩ := Option.ite_none_right_eq_some.mp h
    cases h
    exact .selected hperm
  · cases h
    exact .written
  · obtain ⟨⟨new, phase'⟩, hstep, h⟩ := Option.map_eq_some_iff.mp h
    cases h
    exact .block hstep
  · cases h
    exact .account
  · cases h
    exact .walletCreated
  · cases h

theorem pipeline_move {c : Config Pipeline PipelineTask} {i : ℕ}
    (h : (pipeline env lib jwtSecret sendsEmail maxBlockAgeSecs).Acts c i a t s' t') :
    PipelineMove env lib jwtSecret maxBlockAgeSecs c.store t a s' t' :=
  pipelineStep_move h.step

end Moves

/-! ### What a move keeps -/

/-- What is there stays: users, wallets, processed logs and rows. -/
structure Grows (s s' : Pipeline) : Prop where
  users : s.backend.users.rows.map User.id ⊆ s'.backend.users.rows.map User.id
  wallets : s.backend.wallets ⊆ s'.backend.wallets
  processed : s.processed ⊆ s'.processed
  deposits : s.backend.deposits ⊆ s'.backend.deposits

/-- The message that a delivery is about. -/
def DepositPhase.event : DepositPhase → Option DepositEvent
  | .receive payload => payload
  | .check d => some d
  | .insert d => some d.toDepositEvent
  | .findUser d => some d.toDepositEvent
  | .findAdmins d _ => some d.toDepositEvent
  | .alert d _ _ => some d.toDepositEvent
  | .ack d => d.map (·.toDepositEvent)
  | .acknowledged d => d.map (·.toDepositEvent)
  | .stopped => none

section Keeps

variable {env : Engine.Environment} {lib : Crates} {jwtSecret : String} {sendsEmail : Bool}
  {maxBlockAgeSecs : ℕ} {s s' : Pipeline} {t t' : PipelineTask} {a : PipelineAct}

/-- A delivery stays with its message. -/
theorem DepositMove.event {b b' : Backend} {phase phase' : DepositPhase} {a : DepositAct}
    (h : DepositMove env lib b phase a b' phase') {d : DepositEvent} (hd : d ∈ phase'.event) :
    d ∈ phase.event := by
  cases h with
  | stopped => cases hd
  | unread => cases hd
  | _ => exact hd

theorem BackendMove.tables {b b' : Backend} {t t' : BackendTask} {a : BackendAct}
    (h : BackendMove env lib b t a b' t') : b'.users = b.users ∧ b'.wallets = b.wallets := by
  cases h with
  | engine => exact ⟨rfl, rfl⟩
  | deposit h =>
      cases h with
      | inserted =>
          unfold Backend.insertDeposit
          split <;> exact ⟨rfl, rfl⟩
      | _ => exact ⟨rfl, rfl⟩

theorem Backend.wallets_createWallet (b : Backend) (row : WalletRow) :
    (b.createWallet row).wallets = b.wallets ∨
      (b.createWallet row).wallets = b.wallets ++ [row] ∧
        row.userId ∈ b.users.rows.map User.id := by
  unfold createWallet
  split
  · rename_i hkeys
    exact .inr ⟨rfl, hkeys.2.2.2⟩
  · exact .inl rfl

theorem Backend.createWallet_rest (b : Backend) (row : WalletRow) :
    (b.createWallet row).users = b.users ∧ (b.createWallet row).deposits = b.deposits := by
  unfold createWallet
  split <;> exact ⟨rfl, rfl⟩

theorem PipelineMove.grows (h : PipelineMove env lib jwtSecret maxBlockAgeSecs s t a s' t') :
    Grows s s' := by
  have hsame : Grows s s := ⟨List.Subset.refl _, List.Subset.refl _, List.Subset.refl _,
    List.Subset.refl _⟩
  cases h with
  | backend h =>
      obtain ⟨husers, hwallets⟩ := h.tables
      exact ⟨by rw [husers]; exact List.Subset.refl _, by rw [hwallets]; exact List.Subset.refl _,
        List.Subset.refl _, h.subset⟩
  | selectFailed => exact hsame
  | selected => exact hsame
  | written => exact ⟨hsame.users, hsame.wallets, hsame.processed, hsame.deposits⟩
  | block => exact ⟨hsame.users, hsame.wallets, List.subset_append_left _ _, hsame.deposits⟩
  | @account e =>
      exact ⟨ids_subset_next ⟨s.backend.users, []⟩ e, hsame.wallets, hsame.processed,
        hsame.deposits⟩
  | @walletCreated row =>
      obtain ⟨husers, hdeposits⟩ := s.backend.createWallet_rest row
      refine ⟨by rw [husers]; exact List.Subset.refl _, ?_, List.Subset.refl _,
        by rw [hdeposits]; exact List.Subset.refl _⟩
      rcases s.backend.wallets_createWallet row with hrows | ⟨hrows, -⟩
      · rw [hrows]
        exact List.Subset.refl _
      · rw [hrows]
        exact List.subset_append_left _ _

variable (lib) in
/-- The wallets are those of users, every map ever loaded is one of wallets, and every row
is the one of a published message. -/
structure StoreSound (s : Pipeline) : Prop where
  users : ∀ w ∈ s.backend.wallets, w.userId ∈ s.backend.users.rows.map User.id
  lookup : LookupSound lib s.backend.wallets s.lookup
  processed : ∀ p ∈ s.processed, LookupSound lib s.backend.wallets p.lookup
  rows : ∀ r ∈ s.backend.deposits, ∃ d id,
    CheckedDeposit.toDepositEvent d ∈ published s.processed ∧ r = d.row lib id

variable (lib) in
/-- What is true where a task stands. -/
def TaskSound (s : Pipeline) : PipelineTask → Prop
  | .refresh (.write rows) => LookupSound lib s.backend.wallets (walletLookup rows)
  | .backend (.deposit phase) => ∀ d ∈ phase.event, d ∈ published s.processed
  | .block chain (.logs before _) =>
      ∀ log ∈ before, ∃ p ∈ s.processed, p.chain = chain ∧ p.log = log
  | _ => True

theorem published_mono {processed processed' : List ProcessedLog} (h : processed ⊆ processed')
    {d : DepositEvent} (hd : d ∈ published processed) : d ∈ published processed' := by
  obtain ⟨p, hp, hpublishes, hdeposit⟩ := mem_published.mp hd
  exact mem_published.mpr ⟨p, h hp, hpublishes, hdeposit⟩

theorem TaskSound.mono (h : TaskSound lib s t) (hgrows : Grows s s') : TaskSound lib s' t := by
  cases t with
  | backend t =>
      cases t with
      | engine t => trivial
      | deposit phase => exact fun d hd => published_mono hgrows.processed (h d hd)
  | refresh phase =>
      cases phase with
      | write rows => exact LookupSound.mono h hgrows.wallets
      | _ => trivial
  | block chain phase =>
      cases phase with
      | logs before rest =>
          intro log hlog
          obtain ⟨p, hp, heq⟩ := h log hlog
          exact ⟨p, hgrows.processed hp, heq⟩
      | _ => trivial
  | clients => trivial

/-- A row of `deposits` is a row that was there or the row of the message at its
`INSERT`. -/
theorem StoreSound.rows_of_move (hs : StoreSound lib s) {b : Backend} {t t' : BackendTask}
    {a : BackendAct} (h : BackendMove env lib s.backend t a b t')
    (ht : TaskSound lib s (.backend t)) :
    ∀ r ∈ b.deposits, ∃ d id, CheckedDeposit.toDepositEvent d ∈ published s.processed ∧
      r = d.row lib id := by
  intro r hr
  cases h with
  | engine => exact hs.rows r hr
  | deposit h =>
      rcases h.new_row hr with hold | ⟨d, id, rfl, hrow, -⟩
      · exact hs.rows r hold
      · exact ⟨d, id, ht _ rfl, hrow⟩

/-- One step keeps the store sound. -/
theorem PipelineMove.storeSound (h : PipelineMove env lib jwtSecret maxBlockAgeSecs s t a s' t')
    (hs : StoreSound lib s) (ht : TaskSound lib s t) : StoreSound lib s' := by
  cases h with
  | @backend t t' a b h =>
      obtain ⟨husers, hwallets⟩ := h.tables
      refine ⟨?_, ?_, ?_, hs.rows_of_move h ht⟩
      · change ∀ w ∈ b.wallets, w.userId ∈ b.users.rows.map User.id
        rw [husers, hwallets]
        exact hs.users
      · change LookupSound lib b.wallets s.lookup
        rw [hwallets]
        exact hs.lookup
      · change ∀ p ∈ s.processed, LookupSound lib b.wallets p.lookup
        rw [hwallets]
        exact hs.processed
  | selectFailed => exact hs
  | selected => exact hs
  | written => exact ⟨hs.users, ht, hs.processed, hs.rows⟩
  | @block chain phase phase' a new h =>
      have hsub : s.processed ⊆ s.processed ++ new := List.subset_append_left _ _
      refine ⟨hs.users, hs.lookup, fun p hp => ?_, fun r hr => ?_⟩
      · rcases List.mem_append.mp hp with hp | hp
        · exact hs.processed p hp
        · rcases blockStep_cases h with ⟨rfl, -⟩ | ⟨before, log, rest, publishes, -, rfl, -⟩
          · cases hp
          -- the log is processed under the map of the moment
          · rw [List.mem_singleton.mp hp]
            exact hs.lookup
      · obtain ⟨d, id, hd, hrow⟩ := hs.rows r hr
        exact ⟨d, id, published_mono hsub hd, hrow⟩
  | @account e =>
      exact ⟨fun w hw => ids_subset_next ⟨s.backend.users, []⟩ e (hs.users w hw), hs.lookup,
        hs.processed, hs.rows⟩
  | @walletCreated row =>
      have hgrows : Grows s { s with backend := s.backend.createWallet row } :=
        PipelineMove.grows (.walletCreated : PipelineMove env lib jwtSecret maxBlockAgeSecs s
          .clients (.createWallet row) _ .clients)
      obtain ⟨husers, hdeposits⟩ := s.backend.createWallet_rest row
      refine ⟨fun w hw => ?_, hs.lookup.mono hgrows.wallets,
        fun p hp => (hs.processed p hp).mono hgrows.wallets, fun r hr => hs.rows r (hdeposits ▸ hr)⟩
      refine hgrows.users ?_
      rcases s.backend.wallets_createWallet row with hrows | ⟨hrows, huser⟩
      · exact hs.users w (hrows ▸ hw)
      · rcases List.mem_append.mp (hrows ▸ hw) with hw | hw
        · exact hs.users w hw
        · rw [List.mem_singleton.mp hw]
          exact huser

/-- One step of a task leads to a place where its assertion holds. -/
theorem PipelineMove.taskSound (h : PipelineMove env lib jwtSecret maxBlockAgeSecs s t a s' t')
    (ht : TaskSound lib s t) : TaskSound lib s' t' := by
  cases h with
  | backend h =>
      cases h with
      | engine => trivial
      | deposit h => exact fun d hd => ht d (h.event hd)
  | selectFailed => trivial
  | selected hperm => exact lookupSound_walletLookup hperm
  | written => trivial
  | @block chain phase phase' a new h =>
      cases phase' with
      | logs before' rest' =>
          intro log hlog
          rcases blockStep_cases h with ⟨-, hfirst⟩ | ⟨before, last, rest, publishes, rfl, rfl, heq⟩
          · rw [hfirst before' rest' rfl] at hlog
            cases hlog
          · obtain ⟨rfl, rfl⟩ := BlockPhase.logs.inj heq
            rcases List.mem_append.mp hlog with hlog | hlog
            · obtain ⟨p, hp, heq⟩ := ht log hlog
              exact ⟨p, List.mem_append_left _ hp, heq⟩
            · exact ⟨_, List.mem_append_right _ List.mem_cons_self, rfl,
                (List.mem_singleton.mp hlog).symm⟩
      | _ => trivial
  | account => trivial
  | walletCreated => trivial

variable (lib) in
/-- What is true of the store and of every task in all runs. -/
structure PipelineSound (c : Config Pipeline PipelineTask) : Prop where
  store : StoreSound lib c.store
  tasks : ∀ t ∈ c.tasks, TaskSound lib c.store t

/-- A delivery begins with a published message; the other tasks know nothing yet. -/
theorem taskSound_of_isNew {c : Config Pipeline PipelineTask} {t : PipelineTask}
    (hnew : t.isNew = true) (h : Delivers c (.spawn t : Move PipelineTask PipelineAct)) :
    TaskSound lib c.store t := by
  cases t with
  | backend t =>
      cases t with
      | engine t => trivial
      | deposit phase =>
          cases phase with
          | receive payload =>
              rintro d hd
              obtain rfl : payload = some d := hd
              exact h
          | _ => cases hnew
  | refresh phase =>
      cases phase with
      | select => trivial
      | _ => cases hnew
  | block chain phase =>
      cases phase with
      | fetch => trivial
      | _ => cases hnew
  | clients => trivial

variable {db : Database} {users : Users} {wallets : List WalletRow}

theorem pipelineSound_of_run
    {G : Config Pipeline PipelineTask → Move PipelineTask PipelineAct → Prop}
    (hdelivers : ∀ c m, G c m → Delivers c m)
    (hwallets : ∀ w ∈ wallets, w.userId ∈ users.rows.map User.id)
    {c : Config Pipeline PipelineTask}
    (h : (pipeline env lib jwtSecret sendsEmail maxBlockAgeSecs).Run G
      (pipelineStart db users wallets) c) : PipelineSound lib c := by
  refine h.invariant (I := PipelineSound lib) ?_ ?_
  · exact ⟨⟨hwallets, fun e he => absurd he List.not_mem_nil,
      fun p hp => absurd hp List.not_mem_nil, fun r hr => absurd hr List.not_mem_nil⟩,
      fun t ht => absurd ht List.not_mem_nil⟩
  · intro c c' m _ hsound hG hn
    rcases System.next_cases hn with ⟨t, rfl, hnew, rfl⟩ | ⟨i, a, t, s', t', rfl, hacts, rfl⟩
    · refine ⟨hsound.store, fun u hu => ?_⟩
      rcases List.mem_append.mp hu with hu | hu
      · exact hsound.tasks u hu
      · obtain rfl := List.mem_singleton.mp hu
        exact taskSound_of_isNew hnew (hdelivers c _ hG)
    · have hmove := pipeline_move hacts
      have ht := hsound.tasks t hacts.mem
      refine ⟨hmove.storeSound hsound.store ht, fun u hu => ?_⟩
      rcases List.mem_or_eq_of_mem_set hu with hu | rfl
      · exact (hsound.tasks u hu).mono hmove.grows
      · exact hmove.taskSound ht

/-! ### What a row records -/

/-- The row is the record of the transfer to the wallet. -/
structure RecordsTransfer (chain : String) (log : Log) (w : WalletRow) (r : DepositRow) : Prop where
  transfer : log.topics.head? = some erc20TransferSig
  recipient : ∃ toTopic, log.topics[2]? = some toTopic ∧
    Address.parse w.address = some (addressFromWord toTopic)
  sender : ∃ fromTopic, log.topics[1]? = some fromTopic ∧
    r.fromAddress = (addressFromWord fromTopic).debug
  token : r.tokenAddress = log.address.debug
  amount : 32 ≤ log.data.length ∧ r.amount = toString (dataWord log.data 0)
  key : r.key = ⟨chain, (log.transactionHash.map Indexer.B256.debug).getD "",
    asI32 (UInt32.ofNat (log.logIndex.getD 0))⟩
  owner : r.walletId = w.id ∧ r.userId = w.userId

theorem uuidOrNil_uuidToString (hx : lib.Exact) (id : Uuid) :
    uuidOrNil lib (lib.uuidToString id) = id := by
  rw [uuidOrNil, hx.uuid, Option.getD_some]

theorem RecordsTransfer.of_announces (hx : lib.Exact) {chain : String} {log : Log} {w : WalletRow}
    {d : CheckedDeposit} (h : Announces lib chain log w d.toDepositEvent) (id : Uuid) :
    RecordsTransfer chain log w (d.row lib id) where
  transfer := h.transfer
  recipient := by
    obtain ⟨toTopic, htopic, haddress, -⟩ := h.recipient
    exact ⟨toTopic, htopic, haddress⟩
  sender := h.sender
  token := h.token
  amount := ⟨h.data, h.amount⟩
  key := by
    rw [DepositRow.key, CheckedDeposit.row, h.chain, h.txHash, h.logIndex]
  owner := by
    rw [CheckedDeposit.row, h.wallet.1, h.wallet.2]
    exact ⟨uuidOrNil_uuidToString hx w.id, uuidOrNil_uuidToString hx w.userId⟩

/-- A published message is about a transfer to a wallet of the table. -/
theorem StoreSound.announces (hs : StoreSound lib s) {d : DepositEvent}
    (hd : d ∈ published s.processed) :
    ∃ p ∈ s.processed, p.publishes = true ∧ p.deposit = some d ∧
      ∃ w ∈ s.backend.wallets, Announces lib p.chain p.log w d := by
  obtain ⟨p, hp, hpublishes, hdeposit⟩ := mem_published.mp hd
  exact ⟨p, hp, hpublishes, hdeposit, depositOf_announces (hs.processed p hp) hdeposit⟩

/-- The user and the wallet of a published message are there. -/
theorem StoreSound.refers (hs : StoreSound lib s) (hx : lib.Exact) {d : DepositEvent}
    (hd : d ∈ published s.processed) : s.backend.Refers lib d := by
  obtain ⟨p, -, -, -, w, hw, hannounces⟩ := hs.announces hd
  rw [Backend.Refers, hannounces.wallet.1, hannounces.wallet.2, uuidOrNil_uuidToString hx,
    uuidOrNil_uuidToString hx]
  exact ⟨hs.users w hw, List.mem_map.mpr ⟨w, hw, rfl⟩⟩

/-- In every run in which the stream delivers what was published, each row is the record of
a transfer to a wallet that the indexer has processed, and no transfer has two rows. -/
theorem recordsTransfer_of_deliveringRun (hx : lib.Exact)
    (hwallets : ∀ w ∈ wallets, w.userId ∈ users.rows.map User.id)
    {c : Config Pipeline PipelineTask}
    (h : (pipeline env lib jwtSecret sendsEmail maxBlockAgeSecs).Run Delivers
      (pipelineStart db users wallets) c) :
    (∀ r ∈ c.store.backend.deposits, ∃ p ∈ c.store.processed, p.publishes = true ∧
      ∃ w ∈ c.store.backend.wallets, RecordsTransfer p.chain p.log w r) ∧
    ∀ r ∈ c.store.backend.deposits, ∀ r' ∈ c.store.backend.deposits, ∀ chain log w w',
      RecordsTransfer chain log w r → RecordsTransfer chain log w' r' → r = r' := by
  have hsound := (pipelineSound_of_run (fun _ _ h => h) hwallets h).store
  constructor
  · intro r hr
    obtain ⟨d, id, hd, rfl⟩ := hsound.rows r hr
    obtain ⟨p, hp, hpublishes, -, w, hw, hannounces⟩ := hsound.announces hd
    exact ⟨p, hp, hpublishes, w, hw, .of_announces hx hannounces id⟩
  · intro r hr r' hr' chain log w w' hrecords hrecords'
    exact List.inj_on_of_nodup_map c.store.backend.deposit_keys hr hr'
      (hrecords.key.trans hrecords'.key.symm)

/-! ### What is recorded -/

/-- The row of the message is there before its `INSERT`, or the statement reaches the
database with a fresh id. Nothing is asked of its references. -/
def LandsRow (c : Config Pipeline PipelineTask) : PipelineTask → PipelineAct → Prop
  | .backend (.deposit (.insert d)), .backend (.deposit (.insert id ok)) => d.tracked = false →
      c.store.backend.Recorded d.toDepositEvent ∨ c.store.backend.Takes id ok
  | _, _ => True

instance (c : Config Pipeline PipelineTask) (t : PipelineTask) (a : PipelineAct) :
    Decidable (LandsRow c t a) := by
  unfold LandsRow
  split <;> infer_instance

instance (c : Config Pipeline PipelineTask) (m : Move PipelineTask PipelineAct) :
    Decidable (Delivers c m) := by
  unfold Delivers
  split <;> infer_instance

/-- The stream delivers what was published, and every `INSERT` of a deposit lands. -/
def Lands (c : Config Pipeline PipelineTask) (m : Move PipelineTask PipelineAct) : Prop :=
  Delivers c m ∧ System.onActs LandsRow c m

instance (c : Config Pipeline PipelineTask) (m : Move PipelineTask PipelineAct) :
    Decidable (Lands c m) :=
  inferInstanceAs (Decidable (_ ∧ _))

/-- Chain, transaction hash and log index tell the transfers apart. -/
def TellsApart (processed : List ProcessedLog) : Prop :=
  ∀ p ∈ processed, ∀ q ∈ processed, ∀ d ∈ p.deposit, ∀ e ∈ q.deposit, d.key = e.key →
    p.chain = q.chain ∧ p.log = q.log

instance (processed : List ProcessedLog) : Decidable (TellsApart processed) := by
  unfold TellsApart
  infer_instance

def PipelineTask.acknowledged : PipelineTask → Option CheckedDeposit
  | .backend t => t.acknowledged
  | _ => none

/-- A delivery behind its `INSERT` has a row, unless a session tracked its sender. -/
def TaskRecorded (s : Pipeline) : PipelineTask → Prop
  | .backend t => PastRecorded s.backend t
  | _ => True

theorem TaskRecorded.mono (h : TaskRecorded s t) (hgrows : Grows s s') : TaskRecorded s' t := by
  cases t with
  | backend t =>
      exact fun d hd htracked => Backend.recorded_of_subset hgrows.deposits (h d hd htracked)
  | _ => trivial

theorem taskRecorded_of_isNew (hnew : t.isNew = true) : TaskRecorded s t := by
  cases t with
  | backend t =>
      intro d hd
      cases t with
      | engine t => cases hd
      | deposit phase =>
          cases phase with
          | receive payload => cases hd
          | _ => cases hnew
  | _ => trivial

theorem taskRecorded_of_run (hx : lib.Exact)
    (hwallets : ∀ w ∈ wallets, w.userId ∈ users.rows.map User.id)
    {c : Config Pipeline PipelineTask}
    (h : (pipeline env lib jwtSecret sendsEmail maxBlockAgeSecs).Run Lands
      (pipelineStart db users wallets) c) : ∀ t ∈ c.tasks, TaskRecorded c.store t := by
  refine h.assertions (fun t ht => absurd ht List.not_mem_nil) ?_ ?_ ?_
  · exact fun _ _ hnew => taskRecorded_of_isNew hnew
  · intro c i a t s' t' hrun hrecorded hlands hacts
    have hmove := pipeline_move hacts
    have hsound := pipelineSound_of_run (fun _ _ h => h.1) hwallets hrun
    have htask := hsound.tasks t hacts.mem
    have hown := hrecorded t hacts.mem
    have hlands : LandsRow c t a := System.onActs_acts hlands.2 hacts
    cases hmove with
    | @backend t t' a b h =>
        intro d hd htracked
        cases h with
        | engine => cases hd
        | deposit h =>
            rcases h.past hd with hold | hskipped | ⟨id, ok, rfl, rfl, rfl⟩
            · exact Backend.recorded_of_subset h.subset (hown d hold htracked)
            · rw [hskipped] at htracked
              cases htracked
            -- its user and its wallet were there when the indexer loaded them
            · have hrefers := hsound.store.refers hx (htask d.toDepositEvent rfl)
              exact Backend.recorded_insertDeposit_self
                ((hlands htracked).imp_right fun htakes => ⟨htakes, hrefers⟩)
    | _ => trivial
  · exact fun hrun hrecorded hlands hacts u hu => (hrecorded u hu).mono (pipeline_move hacts).grows

/-- In every run in which the stream delivers what was published and every `INSERT` lands,
an acknowledged message whose sender no session tracked has one row, the record of the
transfer that the message is about. -/
theorem recorded_of_landingRun (hx : lib.Exact)
    (hwallets : ∀ w ∈ wallets, w.userId ∈ users.rows.map User.id)
    {c : Config Pipeline PipelineTask}
    (h : (pipeline env lib jwtSecret sendsEmail maxBlockAgeSecs).Run Lands
      (pipelineStart db users wallets) c) (happart : TellsApart c.store.processed)
    {t : PipelineTask} (ht : t ∈ c.tasks) {d : CheckedDeposit} (hd : d ∈ t.acknowledged)
    (htracked : d.tracked = false) :
    ∃ p ∈ c.store.processed, p.deposit = some d.toDepositEvent ∧
      ∃! r, r ∈ c.store.backend.deposits ∧
        ∃ w ∈ c.store.backend.wallets, RecordsTransfer p.chain p.log w r := by
  have hsound := pipelineSound_of_run (fun _ _ h => h.1) hwallets h
  have hrecorded := taskRecorded_of_run hx hwallets h t ht
  have htask := hsound.tasks t ht
  cases t with
  | backend t =>
      have hpast := BackendTask.past_of_acknowledged hd
      obtain ⟨r, hr, hkey⟩ := List.mem_map.mp (hrecorded d hpast htracked)
      have hevent : d.toDepositEvent ∈ published c.store.processed := by
        cases t with
        | engine t => cases hd
        | deposit phase =>
            cases phase with
            | acknowledged e =>
                obtain rfl : e = some d := hd
                exact htask _ rfl
            | _ => cases hd
      obtain ⟨p, hp, -, hdeposit, w, hw, hannounces⟩ := hsound.store.announces hevent
      obtain ⟨e, id, he, rfl⟩ := hsound.store.rows r hr
      obtain ⟨q, hq, -, hdeposit', w', hw', hannounces'⟩ := hsound.store.announces he
      -- the row may be of another message, but of the same transfer
      obtain ⟨hchain, hlog⟩ := happart p hp q hq _ hdeposit _ hdeposit' hkey.symm
      have hrecords : RecordsTransfer p.chain p.log w' (e.row lib id) := by
        rw [hchain, hlog]
        exact .of_announces hx hannounces' id
      refine ⟨p, hp, hdeposit, _, ⟨hr, w', hw', hrecords⟩, ?_⟩
      rintro r' ⟨hr', w'', -, hrecords'⟩
      exact List.inj_on_of_nodup_map c.store.backend.deposit_keys hr' hr
        (hrecords'.key.trans hrecords.key.symm)
  | refresh phase => cases hd
  | block chain phase => cases hd
  | clients => cases hd

end Keeps

namespace Sample

/-- A transfer of 500 units to the wallet of user 1. -/
def transferLog : Log where
  address := ⟨List.replicate 20 0x91, rfl⟩
  topics := [erc20TransferSig, ⟨List.replicate 32 0x21, rfl⟩,
    ⟨List.replicate 12 0 ++ List.replicate 20 0x55, rfl⟩]
  data := List.replicate 30 0 ++ [1, 244]
  blockNumber := some 300
  transactionHash := none
  logIndex := some 5

def pipelineSystem : System Pipeline PipelineTask PipelineAct :=
  pipeline Engine.Sample.directEnv crates "secret" true 300

def walletRows : List (String × String × String) := commonWallets crates oneUser [walletOf 1]

def ofBackend : Move BackendTask BackendAct → Move PipelineTask PipelineAct
  | .spawn t => .spawn (.backend t)
  | .act i a => .act i (.backend a)

/-- The map is loaded, a block is processed, and its message is delivered twice. -/
def recordsTransfer : List (Move PipelineTask PipelineAct) :=
  [.spawn (.refresh .select), .act 0 (.select (some walletRows)), .act 0 .write,
    .spawn (.block "bsc" .fetch), .act 1 (.block (.block (some (some 100)) 100)),
    .act 1 (.block (.receipts (some (some [[transferLog]])))), .act 1 (.block (.log true))] ++
  (Indexer.depositOf "bsc" transferLog (walletLookup walletRows)).toList.flatMap fun d =>
    (delivers 2 d true ++ delivers 3 d false).map ofBackend

/-- There is a row, and a message is acknowledged. -/
def isRecorded (c : Config Pipeline PipelineTask) : Bool :=
  c.store.backend.deposits.length = 1 && TellsApart c.store.processed &&
    c.tasks.any fun t => t.acknowledged.any (!·.tracked)

theorem exists_isRecorded (G : Config Pipeline PipelineTask → Move PipelineTask PipelineAct → Prop)
    (hG : ∀ c m, Lands c m → G c m) :
    ∃ c, pipelineSystem.Run G (pipelineStart Engine.Sample.database oneUser [walletOf 1]) c ∧
      isRecorded c = true := by
  obtain ⟨c, hrun, hc⟩ := System.exists_of_runIf pipelineSystem Lands
    (pipelineStart Engine.Sample.database oneUser [walletOf 1]) recordsTransfer isRecorded
    (by decide +kernel)
  exact ⟨c, hrun.mono hG, hc⟩

end Sample

/-- A transfer is processed, and its message comes twice. -/
theorem recordsTransfer_of_deliveringRun_sample :
    ∃ c : Config Pipeline PipelineTask, Sample.isRecorded c = true ∧
      (∀ r ∈ c.store.backend.deposits, ∃ p ∈ c.store.processed, p.publishes = true ∧
        ∃ w ∈ c.store.backend.wallets, RecordsTransfer p.chain p.log w r) := by
  obtain ⟨c, hrun, hc⟩ := Sample.exists_isRecorded Delivers fun _ _ h => h.1
  exact ⟨c, hc, (recordsTransfer_of_deliveringRun Sample.crates_exact (by decide) hrun).1⟩

/-- The one row is the record of the transfer. -/
theorem recorded_of_landingRun_sample :
    ∃ (c : Config Pipeline PipelineTask) (d : CheckedDeposit),
      ∃ p ∈ c.store.processed, p.deposit = some d.toDepositEvent ∧
        ∃! r, r ∈ c.store.backend.deposits ∧
          ∃ w ∈ c.store.backend.wallets, RecordsTransfer p.chain p.log w r := by
  obtain ⟨c, hrun, hc⟩ := Sample.exists_isRecorded Lands fun _ _ h => h
  simp only [Sample.isRecorded, Bool.and_eq_true, List.any_eq_true, Option.any_eq_true,
    decide_eq_true_eq, Bool.not_eq_true'] at hc
  obtain ⟨⟨-, happart⟩, t, ht, d, hd, htracked⟩ := hc
  exact ⟨c, d, recorded_of_landingRun Sample.crates_exact (by decide) hrun happart ht hd htracked⟩

end Liquifier.Gateway
