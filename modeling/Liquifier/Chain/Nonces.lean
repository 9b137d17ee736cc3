import Liquifier.Chain.Transactions
import Mathlib.Data.List.Perm.Subperm

/-!
Nonces.

A nonce is read from the count of the mined transactions. While one transaction of a
wallet is signed and not yet mined, or another call for the wallet stands between its
reading and its signature, the count is the nonce of that transaction or call, and the
next one to read it signs a second transaction with the same nonce. Without such a
reading the nonces of a wallet follow one another.
-/

namespace Liquifier.Chain

open TaskSystem TaskSystem.System

variable {earlier : Account → ℕ} {c : Config Chains Task} {a : Account}

/-- The transactions that were signed for a wallet, in their order. -/
def Chains.signedBy (w : Chains) (a : Account) : List TransactionRequest :=
  w.signed.filter (·.account = a)

/-- No two transactions that were signed for one wallet carry the same nonce. -/
def NoncesDistinct (w : Chains) : Prop :=
  ∀ tx ∈ w.signed, ∀ tx' ∈ w.signed, tx.account = tx'.account → tx.nonce = tx'.nonce → tx = tx'

/-- All that was signed for the wallet is mined. -/
def Chains.Settled (w : Chains) (a : Account) : Prop :=
  ∀ tx ∈ w.signed, tx.account = a → tx ∈ w.mined

instance (w : Chains) (a : Account) : Decidable (w.Settled a) :=
  inferInstanceAs (Decidable (∀ tx ∈ w.signed, _ → _))

/-- The task has a nonce of the wallet that it has not signed with. -/
def Task.holdsNonce (a : Account) (t : Task) : Bool := t.nonce.any (·.1 = a)

/-- The wallet whose transactions the step counts. -/
def Task.reads : Task → Answer → Option Account
  | .call c .nonce, .transactionCount true => some c.account
  | _, _ => none

/-- A nonce is read only while the wallet has no transaction that is signed and not
mined, and no other call that is about to sign. -/
def Unshared (c : Config Chains Task) (t : Task) (answer : Answer) : Prop :=
  ∀ a ∈ t.reads answer, c.store.Settled a ∧ ∀ u ∈ c.tasks, u.holdsNonce a = false

instance (c : Config Chains Task) (t : Task) (answer : Answer) : Decidable (Unshared c t answer) :=
  inferInstanceAs (Decidable (∀ a ∈ t.reads answer, _))

/-! ### What the nodes hold was signed -/

@[simp] theorem sendRawTransaction_signed (w : Chains) (tx : TransactionRequest)
    (reply : Engine.NodeReply) : (w.sendRawTransaction tx reply).2.signed = w.signed := by
  cases reply <;> simp only [Chains.sendRawTransaction] <;> split <;> rfl

@[simp] theorem sendRawTransaction_earlier (w : Chains) (tx : TransactionRequest)
    (reply : Engine.NodeReply) : (w.sendRawTransaction tx reply).2.earlier = w.earlier := by
  cases reply <;> simp only [Chains.sendRawTransaction] <;> split <;> rfl

/-- Signatures are not taken back. -/
theorem Move.signed_subset {w w' : Chains} {t t' : Task} {answer : Answer}
    (h : Move w t answer w' t') : w.signed ⊆ w'.signed := by
  cases h with
  | sign => exact List.subset_append_left _ _
  | send => exact (sendRawTransaction_signed ..).symm ▸ List.Subset.refl _
  | _ => exact List.Subset.refl _

/-- A call sends what was signed. -/
theorem sending_signed (h : system.Reaches ⟨.start earlier, []⟩ c) :
    ∀ t ∈ c.tasks, ∀ tx ∈ t.sending, tx ∈ c.store.signed := by
  refine h.assertions (J := fun w t => ∀ tx ∈ t.sending, tx ∈ w.signed) ?_ ?_ ?_ ?_
  · intro t ht
    cases ht
  · intro c t _ _ hentry tx htx
    rcases t with ⟨call, phase⟩ | _
    · obtain rfl : phase = .nonce := of_decide_eq_true hentry
      cases htx
    · cases htx
  · intro c i answer t w' t' _ hall _ hacts tx htx
    cases step_move hacts.step with
    | count =>
        rw [sending_afterNonce] at htx
        cases htx
    | wait _ hsending =>
        rw [hsending] at htx
        cases htx
    | fail => cases htx
    | sign _ _ hsending =>
        obtain rfl := hsending tx htx
        exact List.mem_append_right _ List.mem_cons_self
    | send ht _ hsending =>
        obtain rfl := hsending tx htx
        rw [sendRawTransaction_signed]
        exact hall t hacts.mem tx ht
    | mine _ ht => exact hall t hacts.mem tx htx
  · intro c i answer t w' t' _ hall _ hacts u hu tx htx
    exact (step_move hacts.step).signed_subset (hall u hu tx htx)

/-- The nodes hold only what was signed, and each transaction once. -/
structure HoldsSigned (w : Chains) : Prop where
  signed : w.accepted ++ w.mined ⊆ w.signed
  nodup : (w.accepted ++ w.mined).Nodup

theorem HoldsSigned.sendRawTransaction {w : Chains} (h : HoldsSigned w) {tx : TransactionRequest}
    (htx : tx ∈ w.signed) (reply : Engine.NodeReply) :
    HoldsSigned (w.sendRawTransaction tx reply).2 := by
  have htaken : HoldsSigned
      (if w.knows tx then w else { w with accepted := w.accepted ++ [tx] }) := by
    split
    · exact h
    · rename_i hnew
      have hnew : tx ∉ w.accepted ++ w.mined := fun hmem => hnew (decide_eq_true hmem)
      have hperm : (w.accepted ++ [tx] ++ w.mined).Perm (tx :: (w.accepted ++ w.mined)) := by
        rw [List.append_assoc]
        exact List.perm_middle
      refine ⟨fun tx' hmem => ?_, hperm.nodup_iff.mpr (List.nodup_cons.mpr ⟨hnew, h.nodup⟩)⟩
      rcases List.mem_cons.mp (hperm.mem_iff.mp hmem) with rfl | hmem
      · exact htx
      · exact h.signed hmem
  cases reply with
  | deliver => exact htaken
  | lose => exact htaken
  | refuse => exact h

theorem HoldsSigned.mine {w : Chains} (h : HoldsSigned w) {tx : TransactionRequest}
    (htx : tx ∈ w.accepted) : HoldsSigned (w.mine tx) := by
  have hmoved : (w.accepted.erase tx ++ (w.mined ++ [tx])).Perm
      (tx :: (w.accepted.erase tx ++ w.mined)) := by
    rw [← List.append_assoc]
    exact List.perm_append_singleton _ _
  have hperm : (w.accepted.erase tx ++ (w.mined ++ [tx])).Perm (w.accepted ++ w.mined) :=
    hmoved.trans ((List.perm_cons_erase htx).symm.append_right w.mined)
  exact ⟨fun tx' hmem => h.signed (hperm.mem_iff.mp hmem), hperm.nodup_iff.mpr h.nodup⟩

theorem holdsSigned_of_run (h : system.Reaches ⟨.start earlier, []⟩ c) : HoldsSigned c.store := by
  have hstart : HoldsSigned (.start earlier) := ⟨List.nil_subset _, List.nodup_nil⟩
  refine h.store_invariant (I := HoldsSigned) hstart ?_
  intro c i answer t w' t' hr hI _ hacts
  cases step_move hacts.step with
  | sign => exact ⟨fun tx h => List.mem_append_left _ (hI.signed h), hI.nodup⟩
  | send ht => exact hI.sendRawTransaction (sending_signed hr t hacts.mem _ ht) _
  | mine htx => exact hI.mine htx
  | _ => exact hI

/-! ### The nonces of one wallet -/

/-- The nonces that were signed follow one another, from the first that was not mined
before, and whoever is about to sign has the next one. -/
structure Numbered (c : Config Chains Task) (a : Account) : Prop where
  nonces : (c.store.signedBy a).map (·.nonce) =
    List.range' (c.store.earlier a) (c.store.signedBy a).length
  held : ∀ t ∈ c.tasks, ∀ nonce, t.nonce = some (a, nonce) →
    nonce = c.store.earlier a + (c.store.signedBy a).length

theorem mem_signedBy {w : Chains} {tx : TransactionRequest} :
    tx ∈ w.signedBy a ↔ tx ∈ w.signed ∧ tx.account = a := by
  rw [Chains.signedBy, List.mem_filter, decide_eq_true_iff]

theorem Numbered.nodup (h : Numbered c a) : ((c.store.signedBy a).map (·.nonce)).Nodup :=
  h.nonces ▸ List.nodup_range'

/-- Of what was signed for the wallet, the mined transactions are a part. -/
theorem HoldsSigned.mined_subperm (hw : HoldsSigned c.store) (a : Account) :
    (c.store.mined.filter (·.account = a)).Subperm (c.store.signedBy a) := by
  have hmined : c.store.mined.Nodup := (List.nodup_append.mp hw.nodup).2.1
  refine List.subperm_of_subset (hmined.filter _) fun tx htx => ?_
  obtain ⟨hmem, haccount⟩ := List.mem_filter.mp htx
  exact mem_signedBy.mpr
    ⟨hw.signed (List.mem_append_right _ hmem), of_decide_eq_true haccount⟩

/-- The count is the next nonce if all that was signed is mined, and is behind it
otherwise. -/
theorem Numbered.settled_iff (h : Numbered c a) (hw : HoldsSigned c.store) :
    c.store.Settled a ↔
      c.store.getTransactionCount a = c.store.earlier a + (c.store.signedBy a).length := by
  have hsub := hw.mined_subperm a
  rw [Chains.getTransactionCount, List.countP_eq_length_filter]
  constructor
  · intro hsettled
    have hsigned : (c.store.signedBy a).Nodup := h.nodup.of_map
    have hback : (c.store.signedBy a).Subperm (c.store.mined.filter (·.account = a)) := by
      refine List.subperm_of_subset hsigned fun tx htx => ?_
      obtain ⟨hmem, haccount⟩ := mem_signedBy.mp htx
      exact List.mem_filter.mpr ⟨hsettled tx hmem haccount, decide_eq_true haccount⟩
    rw [hsub.length_le.antisymm hback.length_le]
  · intro hcount tx htx haccount
    have hperm := hsub.perm_of_length_le (by omega)
    exact (List.mem_filter.mp (hperm.mem_iff.mpr (mem_signedBy.mpr ⟨htx, haccount⟩))).1

theorem HoldsSigned.getTransactionCount_le (hw : HoldsSigned c.store) (a : Account) :
    c.store.getTransactionCount a ≤ c.store.earlier a + (c.store.signedBy a).length := by
  rw [Chains.getTransactionCount, List.countP_eq_length_filter]
  exact Nat.add_le_add_left (hw.mined_subperm a).length_le _

theorem nonce_of_entry {t : Task} (h : system.entry t = true) : t.nonce = none := by
  rcases t with ⟨call, phase⟩ | _
  · obtain rfl : phase = .nonce := of_decide_eq_true h
    rfl
  · rfl

theorem holdsNonce_iff {t : Task} :
    t.holdsNonce a = true ↔ ∃ nonce, t.nonce = some (a, nonce) := by
  rw [Task.holdsNonce, Option.any_eq_true]
  constructor
  · rintro ⟨⟨account, nonce⟩, ht, haccount⟩
    exact ⟨nonce, of_decide_eq_true haccount ▸ ht⟩
  · rintro ⟨nonce, ht⟩
    exact ⟨_, ht, decide_eq_true rfl⟩

/-- The nonce that is read for a wallet is new, neither signed nor about to be, if and
only if all that was signed is mined and no other call is about to sign. -/
theorem Numbered.unshared_iff (h : Numbered c a) (hw : HoldsSigned c.store) :
    (c.store.Settled a ∧ ∀ u ∈ c.tasks, u.holdsNonce a = false) ↔
      c.store.getTransactionCount a ∉ (c.store.signedBy a).map (·.nonce) ∧
        ∀ u ∈ c.tasks, u.nonce ≠ some (a, c.store.getTransactionCount a) := by
  have hlow : c.store.earlier a ≤ c.store.getTransactionCount a := Nat.le_add_right _ _
  rw [h.settled_iff hw, h.nonces, List.mem_range'_1]
  constructor
  · rintro ⟨hcount, hfree⟩
    refine ⟨by omega, fun u hu hnonce => ?_⟩
    have hholds : u.holdsNonce a = true := holdsNonce_iff.mpr ⟨_, hnonce⟩
    rw [hfree u hu] at hholds
    cases hholds
  · rintro ⟨hnew, hfree⟩
    -- the count is not beyond the next nonce, and below it every nonce is signed
    have hle := hw.getTransactionCount_le a
    have hcount : c.store.getTransactionCount a =
        c.store.earlier a + (c.store.signedBy a).length := by omega
    refine ⟨hcount, fun u hu => Bool.eq_false_iff.mpr fun hholds => ?_⟩
    obtain ⟨nonce, hnonce⟩ := holdsNonce_iff.mp hholds
    rw [h.held u hu nonce hnonce, ← hcount] at hnonce
    exact hfree u hu hnonce

/-- One call at most is about to sign for a wallet. -/
theorem holdsNonce_exclusive (h : system.Run (onActs Unshared) ⟨.start earlier, []⟩ c)
    (a : Account) : c.tasks.countP (Task.holdsNonce a) ≤ 1 := by
  refine h.exclusive (Nat.zero_le _) ?_ ?_
  · intro t hentry
    rw [Task.holdsNonce, nonce_of_entry hentry]
    rfl
  · intro c i answer t w' t' _ hg hacts hholds
    have hunshared := onActs_acts hg hacts
    cases step_move hacts.step with
    | @count call ht =>
        subst ht
        rw [Task.holdsNonce, nonce_afterNonce] at hholds
        obtain rfl : call.account = a := of_decide_eq_true hholds
        exact .inr (hunshared _ rfl).2
    | wait hnonce =>
        rw [Task.holdsNonce, hnonce] at hholds
        exact .inl hholds
    | fail => cases hholds
    | sign _ hnonce =>
        rw [Task.holdsNonce, hnonce] at hholds
        cases hholds
    | send _ hnonce =>
        rw [Task.holdsNonce, hnonce] at hholds
        cases hholds
    | mine => exact .inl hholds

theorem Numbered.spawn (h : Numbered c a) {t : Task} (hentry : system.entry t = true) :
    Numbered ⟨c.store, c.tasks ++ [t]⟩ a := by
  refine ⟨h.nonces, fun u hu nonce hnonce => ?_⟩
  rcases List.mem_append.mp hu with hu | hu
  · exact h.held u hu nonce hnonce
  · obtain rfl := List.mem_singleton.mp hu
    rw [nonce_of_entry hentry] at hnonce
    cases hnonce

/-- A step that signs nothing for the wallet keeps the order, if a nonce that it
reads is the next one. -/
theorem Numbered.frame (h : Numbered c a) {w' : Chains} (hsigned : w'.signed = c.store.signed)
    (hearlier : w'.earlier = c.store.earlier) {i : ℕ} {t' : Task}
    (ht' : ∀ nonce, t'.nonce = some (a, nonce) →
      nonce = c.store.earlier a + (c.store.signedBy a).length) :
    Numbered ⟨w', c.tasks.set i t'⟩ a := by
  have hsignedBy : w'.signedBy a = c.store.signedBy a := by rw [Chains.signedBy, hsigned]; rfl
  refine ⟨?_, fun u hu nonce hnonce => ?_⟩
  · simpa only [hsignedBy, hearlier] using h.nonces
  · simp only [hsignedBy, hearlier]
    rcases List.mem_or_eq_of_mem_set hu with hu | rfl
    · exact h.held u hu nonce hnonce
    · exact ht' nonce hnonce

/-- A signature takes the next nonce, and nobody else has one. -/
theorem Numbered.sign (h : Numbered c a) (hexclusive : c.tasks.countP (Task.holdsNonce a) ≤ 1)
    {i : ℕ} {t t' : Task} {tx : TransactionRequest} (hi : c.tasks[i]? = some t)
    (ht : t.nonce = some (tx.account, tx.nonce)) (ht' : t'.nonce = none) :
    Numbered ⟨{ c.store with signed := c.store.signed ++ [tx] }, c.tasks.set i t'⟩ a := by
  by_cases haccount : tx.account = a
  · subst haccount
    -- the task that signs has the next nonce, and after its signature no task has one
    have hnonce := h.held t (List.mem_of_getElem? hi) tx.nonce ht
    have hsignedBy : Chains.signedBy { c.store with signed := c.store.signed ++ [tx] } tx.account =
        c.store.signedBy tx.account ++ [tx] := by
      simp [Chains.signedBy]
    refine ⟨?_, fun u hu nonce hu' => ?_⟩
    · simp only [hsignedBy, List.map_append, List.map_cons, List.map_nil, h.nonces,
        List.length_append, List.length_singleton, List.range'_1_concat, hnonce]
    · have hfree : t'.holdsNonce tx.account = false := by
        rw [Task.holdsNonce, ht']
        rfl
      have hnone := countP_set_of_release hexclusive hi (holdsNonce_iff.mpr ⟨_, ht⟩) hfree
      exact absurd (holdsNonce_iff.mpr ⟨nonce, hu'⟩) (List.countP_eq_zero.mp hnone u hu)
  · have hsignedBy : Chains.signedBy { c.store with signed := c.store.signed ++ [tx] } a =
        c.store.signedBy a := by
      simp [Chains.signedBy, haccount]
    refine ⟨?_, fun u hu nonce hu' => ?_⟩
    · simpa only [hsignedBy] using h.nonces
    · simp only [hsignedBy]
      rcases List.mem_or_eq_of_mem_set hu with hu | rfl
      · exact h.held u hu nonce hu'
      · rw [ht'] at hu'
        cases hu'

/-- On every run on which nonces are read unshared, those of a wallet stay in order. -/
theorem numbered_of_run (h : system.Run (onActs Unshared) ⟨.start earlier, []⟩ c)
    (a : Account) : Numbered c a := by
  refine h.invariant (I := fun c => Numbered c a) ⟨rfl, fun t ht => absurd ht List.not_mem_nil⟩ ?_
  intro c c' m hr hI hg hn
  rcases next_cases hn with ⟨t, rfl, hentry, rfl⟩ | ⟨i, answer, t, w', t', rfl, hacts, rfl⟩
  · exact hI.spawn hentry
  · have hunshared := onActs_acts hg hacts
    have hi := hacts.at_index
    cases step_move hacts.step with
    | @count call ht =>
        -- all that was signed is mined, so the count that is read is the next nonce
        subst ht
        refine hI.frame rfl rfl fun nonce hnonce => ?_
        rw [nonce_afterNonce] at hnonce
        obtain ⟨rfl, rfl⟩ := Prod.mk.inj (Option.some.inj hnonce)
        exact (hI.settled_iff (holdsSigned_of_run hr.reaches)).mp (hunshared _ rfl).1
    | wait hnonce =>
        refine hI.frame rfl rfl fun nonce ht' => ?_
        exact hI.held t hacts.mem nonce (hnonce ▸ ht')
    | fail => exact hI.frame rfl rfl fun nonce ht' => nomatch ht'
    | sign ht ht' => exact hI.sign (holdsNonce_exclusive hr a) hi ht ht'
    | send _ ht' =>
        refine hI.frame (sendRawTransaction_signed ..) (sendRawTransaction_earlier ..) ?_
        intro nonce hnonce
        rw [ht'] at hnonce
        cases hnonce
    | @mine tx =>
        have hsigned : (c.store.mine tx).signed = c.store.signed := rfl
        exact hI.frame hsigned rfl (hI.held t hacts.mem)

/-- On every run on which a nonce is read only while all that was signed for the wallet
is mined and no other call for it is about to sign, no two transactions of a wallet
carry one nonce. -/
theorem noncesDistinct_of_unshared
    (h : system.Run (onActs Unshared) ⟨.start earlier, []⟩ c) : NoncesDistinct c.store := by
  intro tx htx tx' htx' haccount hnonce
  have hnodup := (numbered_of_run h tx'.account).nodup
  exact List.inj_on_of_nodup_map hnodup (mem_signedBy.mpr ⟨htx, haccount⟩)
    (mem_signedBy.mpr ⟨htx', rfl⟩) hnonce

namespace Sample

def address (n : UInt8) : Address := ⟨List.replicate 20 n, by simp⟩

def gasWallet : Address := address 1

/-- The gas wallet funds two session wallets. -/
def funding (walletAddr : Address) : Call := .fundSessionWalletGas 56 gasWallet walletAddr 10 3

/-- From the nonce to the node that takes the transaction. -/
def submission (i : ℕ) : List (TaskSystem.Move Task Answer) :=
  [.act i (.transactionCount true), .act i (.signed .deliver), .act i (.sent .deliver)]

/-- The second funding begins when the first transaction is mined. -/
def inTurn : List (TaskSystem.Move Task Answer) :=
  [.spawn .mining, .spawn (.call (funding (address 2)) .nonce)] ++ submission 1 ++
    [.act 0 (.mined ((funding (address 2)).tx 0 21000 3)),
      .spawn (.call (funding (address 3)) .nonce)] ++ submission 2

/-- The second funding begins when the first transaction is sent. -/
def atOnce : List (TaskSystem.Move Task Answer) :=
  [.spawn (.call (funding (address 2)) .nonce)] ++ submission 0 ++
    [.spawn (.call (funding (address 3)) .nonce)] ++ submission 1

end Sample

/-- Two transactions of the gas wallet, one after the other. -/
theorem noncesDistinct_of_unshared_sample :
    ∃ c : Config Chains Task, c.store.signed.length = 2 ∧ NoncesDistinct c.store := by
  obtain ⟨c, hrun, hc⟩ := exists_of_runIf system (onActs Unshared) ⟨.start fun _ => 0, []⟩
    Sample.inTurn (fun c => c.store.signed.length = 2) (by decide +kernel)
  exact ⟨c, of_decide_eq_true hc, noncesDistinct_of_unshared hrun⟩

/-- Two sessions are funded at once. -/
theorem fundings_share_nonce :
    ¬ ∀ earlier c, system.Reaches ⟨.start earlier, []⟩ c → NoncesDistinct c.store := by
  intro h
  obtain ⟨c, hrun, hc⟩ := exists_of_run system ⟨.start fun _ => 0, []⟩ Sample.atOnce
    (fun c => c.store.signed =
      [(Sample.funding (Sample.address 2)).tx 0 21000 3,
        (Sample.funding (Sample.address 3)).tx 0 21000 3]) (by decide +kernel)
  have hsigned := of_decide_eq_true hc
  have heq := h _ c hrun ((Sample.funding (Sample.address 2)).tx 0 21000 3) (by simp [hsigned])
    ((Sample.funding (Sample.address 3)).tx 0 21000 3) (by simp [hsigned]) rfl rfl
  exact absurd heq (by decide)

end Liquifier.Chain
