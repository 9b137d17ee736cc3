import Mathlib.Algebra.BigOperators.Group.List.Basic
import Mathlib.Data.Nat.Basic
import Mathlib.Logic.Function.Basic

/-!
Fungible tokens, as ERC-20 describes them.

What a token does with a call is its own affair. `Contract` is how it is asked and called,
and `Behaves` is what the standard promises of it: a balance is lowered only by its owner,
or by a spender whom the owner has let, and by no more than the call says; an allowance is
changed by its owner, or lowered by the spender who uses it. Whether a token keeps a fee
on the way, or has functions of its own, is left open. `KeepsUnlimited` is what most tokens
promise besides: an allowance of the largest word is not used up.

A transaction makes the contracts call tokens, one call after another. Over such a trace two
things are shown for an account whose allowances are all of one kind: they stay of this
kind, and the account loses no more than it sends itself and what those spenders take to
whom it has let something.
-/

namespace Erc20

variable {A T : Type*}

/-- `other` is any function that is not one of the standard's. A `permit` counts as a call
of the account that has signed it. -/
inductive Call (A : Type*) where
  | transfer (dst : A) (amount : ℕ)
  | approve (spender : A) (amount : ℕ)
  | transferFrom (src dst : A) (amount : ℕ)
  | other
  deriving DecidableEq

/-- The account from which a spender takes. -/
def Call.src : Call A → Option A
  | .transferFrom src _ _ => some src
  | _ => none

/-- How much a call takes away. -/
def Call.amount : Call A → ℕ
  | .transfer _ amount => amount
  | .transferFrom _ _ amount => amount
  | .approve _ _ => 0
  | .other => 0

/-- How the code of a token answers; its state is of the type `T`. -/
structure Contract (A T : Type*) where
  balance : T → A → ℕ
  /-- Of an owner and a spender. -/
  allowance : T → A → A → ℕ
  /-- A call of an account; `none` is a failure. -/
  exec : T → A → Call A → Option T

/-- What the standard promises. -/
structure Contract.Behaves (k : Contract A T) : Prop where
  /-- A balance is lowered by its owner, or taken from by a spender, within the amount. -/
  balance_le : ∀ {t t' caller call}, k.exec t caller call = some t' → ∀ a,
    k.balance t a ≤ k.balance t' a ∨
      (a = caller ∧ call.src = none ∨ call.src = some a) ∧
        (call = .other ∨ k.balance t a ≤ k.balance t' a + call.amount)
  /-- A spender takes within the allowance. -/
  amount_le : ∀ {t t' caller src dst amount},
    k.exec t caller (.transferFrom src dst amount) = some t' →
      caller = src ∨ amount ≤ k.allowance t src caller
  /-- An allowance is set by its owner, or lowered by the spender who takes. -/
  allowance_cases : ∀ {t t' caller call}, k.exec t caller call = some t' → ∀ owner spender,
    k.allowance t' owner spender = k.allowance t owner spender ∨
      (caller = owner ∧
        (call = .other ∨ call = .approve spender (k.allowance t' owner spender))) ∨
      caller = spender ∧ call.src = some owner ∧
        k.allowance t' owner spender ≤ k.allowance t owner spender
  approve : ∀ {t t' owner spender amount},
    k.exec t owner (.approve spender amount) = some t' → k.allowance t' owner spender = amount

/-- An allowance of `unlimited` is not used up. -/
def Contract.KeepsUnlimited (k : Contract A T) (unlimited : ℕ) : Prop :=
  ∀ {t t' caller src dst amount}, k.exec t caller (.transferFrom src dst amount) = some t' →
    k.allowance t src caller = unlimited → k.allowance t' src caller = unlimited

/-! ### One call -/

section Exec

variable {k : Contract A T} {t t' : T} {caller a : A} {call : Call A}

/-- The allowances of the account are nothing, or of the kind `Q`. -/
def Lets (k : Contract A T) (t : T) (a : A) (Q : A → ℕ → Prop) : Prop :=
  ∀ spender, k.allowance t a spender = 0 ∨ Q spender (k.allowance t a spender)

/-- Where the account calls itself, it calls a function of the standard, and it lets others
take something only as `Q` says. -/
structure Approves (a : A) (Q : A → ℕ → Prop) (caller : A) (call : Call A) : Prop where
  not_other : caller = a → call ≠ .other
  approve : ∀ spender amount, caller = a → call = .approve spender amount → Q spender amount

theorem Approves.mono {Q Q' : A → ℕ → Prop} (h : Approves a Q caller call)
    (hQ : ∀ spender amount, Q spender amount → Q' spender amount) : Approves a Q' caller call :=
  ⟨h.not_other, fun spender amount hown happrove => hQ _ _ (h.approve spender amount hown happrove)⟩

/-- The kind of an allowance outlasts its use. -/
def Outlasts (k : Contract A T) (Q : A → ℕ → Prop) : Prop :=
  ∀ {t t' caller src dst amount}, k.exec t caller (.transferFrom src dst amount) = some t' →
    k.allowance t' src caller ≤ k.allowance t src caller → Q caller (k.allowance t src caller) →
      k.allowance t' src caller = 0 ∨ Q caller (k.allowance t' src caller)

section Kinds

variable {Q : A → ℕ → Prop}

theorem eq_transferFrom_of_src (h : call.src = some a) :
    ∃ dst amount, call = .transferFrom a dst amount := by
  cases call with
  | transferFrom src dst amount =>
      obtain rfl := Option.some.inj h
      exact ⟨dst, amount, rfl⟩
  | _ => cases h

/-- A call keeps the kind of the allowances. -/
theorem Lets.exec (hl : Lets k t a Q) (hk : k.Behaves) (hQ : Outlasts k Q)
    (h : k.exec t caller call = some t') (hcall : Approves a Q caller call) : Lets k t' a Q := by
  intro spender
  rcases hk.allowance_cases h a spender with
    hsame | ⟨hown, hother | happrove⟩ | ⟨rfl, hsrc, hle⟩
  · rw [hsame]
    exact hl spender
  · exact absurd hother (hcall.not_other hown)
  · exact .inr (hcall.approve _ _ hown happrove)
  · obtain ⟨dst, amount, rfl⟩ := eq_transferFrom_of_src hsrc
    rcases hl caller with hzero | hkind
    · exact .inl (Nat.le_zero.mp (hzero ▸ hle))
    · exact hQ h hle hkind

/-- The call takes from the account: it is the account's own, or that of a spender in `P`. -/
def Takes (P : A → Prop) (a caller : A) (call : Call A) : Prop :=
  caller = a ∨ P caller ∧ call.src = some a

instance [DecidableEq A] (P : A → Prop) [DecidablePred P] (a caller : A) (call : Call A) :
    Decidable (Takes P a caller call) := by
  unfold Takes
  infer_instance

/-- An account that lets only those in `P` take something loses only by its own calls and
by theirs. -/
theorem Lets.balance_le {P : A → Prop} (hl : Lets k t a Q) (hk : k.Behaves)
    (hP : ∀ spender amount, Q spender amount → P spender)
    (h : k.exec t caller call = some t') (hcall : Approves a Q caller call) :
    k.balance t a ≤ k.balance t' a ∨
      Takes P a caller call ∧ k.balance t a ≤ k.balance t' a + call.amount := by
  rcases hk.balance_le h a with hle | ⟨hfrom, hamount⟩
  · exact .inl hle
  · by_cases hown : caller = a
    · exact .inr ⟨.inl hown, hamount.resolve_left (hcall.not_other hown)⟩
    · have hsrc : call.src = some a := hfrom.resolve_left fun h => hown h.1.symm
      obtain ⟨dst, amount, rfl⟩ := eq_transferFrom_of_src hsrc
      have hle := hamount.resolve_left nofun
      rcases hl caller with hzero | hkind
      -- without an allowance, what is taken is nothing
      · have hallowed := (hk.amount_le h).resolve_left hown
        rw [hzero, Nat.le_zero] at hallowed
        rw [Call.amount, hallowed] at hle
        exact .inl hle
      · exact .inr ⟨.inr ⟨hP caller _ hkind, hsrc⟩, hle⟩

end Kinds

end Exec

/-! ### The trace of a transaction -/

/-- A call, and the token that is called. -/
structure Message (A : Type*) where
  token : A
  caller : A
  call : Call A
  deriving DecidableEq

section Run

variable [DecidableEq A] (k : Contract A T)

/-- The tokens after the calls, by their addresses. -/
def run (l : A → T) : List (Message A) → Option (A → T)
  | [] => some l
  | m :: ms => (k.exec (l m.token) m.caller m.call).bind fun t =>
      run (Function.update l m.token t) ms

variable {k} {l l' : A → T} {a : A} {Q : A → ℕ → Prop} {m : Message A} {ms : List (Message A)}

/-- A trace with a first call. -/
theorem run_cons (h : run k l (m :: ms) = some l') :
    ∃ t, k.exec (l m.token) m.caller m.call = some t ∧
      run k (Function.update l m.token t) ms = some l' :=
  Option.bind_eq_some_iff.mp h

theorem Lets.update (hl : ∀ token, Lets k (l token) a Q) {token : A} {t : T}
    (ht : Lets k t a Q) : ∀ tok, Lets k (Function.update l token t tok) a Q := by
  intro tok
  by_cases htok : tok = token
  · rw [htok, Function.update_self]
    exact ht
  · rw [Function.update_of_ne htok]
    exact hl tok

/-- A trace keeps the kind of the allowances. -/
theorem lets_of_run (hk : k.Behaves) (hQ : Outlasts k Q) (hl : ∀ token, Lets k (l token) a Q)
    (hms : ∀ m ∈ ms, Approves a Q m.caller m.call) (h : run k l ms = some l') :
    ∀ token, Lets k (l' token) a Q := by
  induction ms generalizing l with
  | nil =>
      cases h
      exact hl
  | cons m ms ih =>
      obtain ⟨t, hexec, hrun⟩ := run_cons h
      obtain ⟨hm, hms⟩ := List.forall_mem_cons.mp hms
      exact ih (Lets.update hl ((hl m.token).exec hk hQ hexec hm)) hms hrun

/-- Over a trace in which at most one call takes from the account, what it loses it loses by
that call. -/
theorem balance_le_of_run {P : A → Prop} [DecidablePred P] (hk : k.Behaves) (hQ : Outlasts k Q)
    (hP : ∀ spender amount, Q spender amount → P spender) (hl : ∀ token, Lets k (l token) a Q)
    (hms : ∀ m ∈ ms, Approves a Q m.caller m.call)
    (honce : (ms.countP fun m => Takes P a m.caller m.call) ≤ 1)
    (h : run k l ms = some l') (token : A) :
    k.balance (l token) a ≤ k.balance (l' token) a ∨
      ∃ m ∈ ms, m.token = token ∧ Takes P a m.caller m.call ∧
        k.balance (l token) a ≤ k.balance (l' token) a + m.call.amount := by
  induction ms generalizing l with
  | nil =>
      cases h
      exact .inl le_rfl
  | cons m ms ih =>
      obtain ⟨t, hexec, hrun⟩ := run_cons h
      obtain ⟨hm, hms⟩ := List.forall_mem_cons.mp hms
      have hl' : ∀ tok, Lets k (Function.update l m.token t tok) a Q :=
        Lets.update hl ((hl m.token).exec hk hQ hexec hm)
      have hrest := ih hl' hms ((List.sublist_cons_self m ms).countP_le.trans honce) hrun
      have hfirst : k.balance (l token) a ≤ k.balance (Function.update l m.token t token) a ∨
          m.token = token ∧ Takes P a m.caller m.call ∧
            k.balance (l token) a ≤
              k.balance (Function.update l m.token t token) a + m.call.amount := by
        by_cases htoken : token = m.token
        · rw [htoken, Function.update_self]
          exact ((hl m.token).balance_le hk hP hexec hm).imp_right fun h => ⟨rfl, h⟩
        · rw [Function.update_of_ne htoken]
          exact .inl le_rfl
      rcases hfirst with hle | ⟨htoken, htakes, hle⟩
      · rcases hrest with hrest | ⟨m', hm', htoken', htakes', hrest⟩
        · exact .inl (hle.trans hrest)
        · exact .inr ⟨m', List.mem_cons_of_mem m hm', htoken', htakes', hle.trans hrest⟩
      · rcases hrest with hrest | ⟨m', hm', -, htakes', -⟩
        · exact .inr ⟨m, List.mem_cons_self, htoken, htakes,
            hle.trans (Nat.add_le_add_right hrest _)⟩
        -- a second call that takes
        · have hpos : 0 < ms.countP fun m => Takes P a m.caller m.call :=
            List.countP_pos_iff.mpr ⟨m', hm', decide_eq_true htakes'⟩
          rw [List.countP_cons, if_pos (decide_eq_true htakes)] at honce
          omega

/-! ### Unlimited allowances -/

omit [DecidableEq A] in
/-- An allowance without a limit stays, where its owner approves nothing less. -/
theorem unlimited_of_exec {unlimited : ℕ} {t t' : T} {caller : A} {call : Call A}
    (hk : k.Behaves) (hkeeps : k.KeepsUnlimited unlimited)
    (hcall : Approves a Q caller call)
    (hQ : ∀ spender amount, Q spender amount → amount = unlimited)
    (h : k.exec t caller call = some t') {spender : A}
    (hunlimited : k.allowance t a spender = unlimited) :
    k.allowance t' a spender = unlimited := by
  rcases hk.allowance_cases h a spender with
    hsame | ⟨hown, hother | happrove⟩ | ⟨rfl, hsrc, -⟩
  · rw [hsame, hunlimited]
  · exact absurd hother (hcall.not_other hown)
  · exact hQ _ _ (hcall.approve _ _ hown happrove)
  · obtain ⟨dst, amount, rfl⟩ := eq_transferFrom_of_src hsrc
    exact hkeeps h hunlimited

theorem unlimited_of_run {unlimited : ℕ} (hk : k.Behaves) (hkeeps : k.KeepsUnlimited unlimited)
    (hms : ∀ m ∈ ms, Approves a Q m.caller m.call)
    (hQ : ∀ spender amount, Q spender amount → amount = unlimited) (h : run k l ms = some l')
    {token spender : A} (hunlimited : k.allowance (l token) a spender = unlimited) :
    k.allowance (l' token) a spender = unlimited := by
  induction ms generalizing l with
  | nil =>
      cases h
      exact hunlimited
  | cons m ms ih =>
      obtain ⟨t, hexec, hrun⟩ := run_cons h
      obtain ⟨hm, hms⟩ := List.forall_mem_cons.mp hms
      refine ih hms hrun ?_
      by_cases htoken : token = m.token
      · rw [htoken] at hunlimited ⊢
        rw [Function.update_self]
        exact unlimited_of_exec hk hkeeps hm hQ hexec hunlimited
      · rwa [Function.update_of_ne htoken]

/-- A trace in which the account approves a spender without a limit leaves it approved. -/
theorem unlimited_of_mem {unlimited : ℕ} (hk : k.Behaves) (hkeeps : k.KeepsUnlimited unlimited)
    (hms : ∀ m ∈ ms, Approves a Q m.caller m.call)
    (hQ : ∀ spender amount, Q spender amount → amount = unlimited) (h : run k l ms = some l')
    {token spender : A} (hmem : ⟨token, a, .approve spender unlimited⟩ ∈ ms) :
    k.allowance (l' token) a spender = unlimited := by
  induction ms generalizing l with
  | nil => cases hmem
  | cons m ms ih =>
      obtain ⟨t, hexec, hrun⟩ := run_cons h
      have hms' := (List.forall_mem_cons.mp hms).2
      rcases List.mem_cons.mp hmem with rfl | hmem
      · refine unlimited_of_run hk hkeeps hms' hQ hrun ?_
        rw [Function.update_self]
        exact hk.approve hexec
      · exact ih hms' hrun hmem

end Run

/-! ### A token that does no more than the standard says -/

structure Token (A : Type*) where
  balances : A → ℕ
  allowances : A → A → ℕ

namespace Token

variable [DecidableEq A] (unlimited : ℕ) (t : Token A)

/-- The balances after `amount` went from one account to another. -/
def moved (src dst : A) (amount : ℕ) (a : A) : ℕ :=
  (if a = src then t.balances a - amount else t.balances a) + if a = dst then amount else 0

/-- The allowances after a spender has taken something. -/
def spent (src spender : A) (amount : ℕ) (owner s : A) : ℕ :=
  if owner = src ∧ s = spender ∧ t.allowances src spender ≠ unlimited then
    t.allowances owner s - amount
  else t.allowances owner s

def exec (caller : A) : Call A → Option (Token A)
  | .transfer dst amount =>
      if amount ≤ t.balances caller then some { t with balances := t.moved caller dst amount }
      else none
  | .approve spender amount =>
      some { t with
        allowances := fun owner s =>
          if owner = caller ∧ s = spender then amount else t.allowances owner s }
  | .transferFrom src dst amount =>
      if amount ≤ t.allowances src caller ∧ amount ≤ t.balances src then
        some ⟨t.moved src dst amount, t.spent unlimited src caller amount⟩
      else none
  | .other => none

/-- The code of such a token. -/
def contract : Contract A (Token A) where
  balance := balances
  allowance := allowances
  exec := exec unlimited

variable {t} {t' : Token A} {caller : A} {call : Call A}

theorem moved_le {src dst a : A} {amount : ℕ} :
    t.balances a ≤ t.moved src dst amount a ∨
      a = src ∧ t.balances a ≤ t.moved src dst amount a + amount := by
  rw [moved]
  split
  · exact .inr ⟨‹_›, by omega⟩
  · exact .inl (Nat.le_add_right _ _)

variable {unlimited}

/-- All that a call can do. -/
theorem exec_cases (h : t.exec unlimited caller call = some t') :
    (∃ dst amount, call = .transfer dst amount ∧
      t'.balances = t.moved caller dst amount ∧ t'.allowances = t.allowances) ∨
    (∃ spender amount, call = .approve spender amount ∧ t'.balances = t.balances ∧
      ∀ owner s, t'.allowances owner s =
        if owner = caller ∧ s = spender then amount else t.allowances owner s) ∨
    ∃ src dst amount, call = .transferFrom src dst amount ∧
      amount ≤ t.allowances src caller ∧ t'.balances = t.moved src dst amount ∧
      t'.allowances = t.spent unlimited src caller amount := by
  cases call with
  | transfer dst amount =>
      obtain ⟨-, heq⟩ := Option.ite_none_right_eq_some.mp h
      obtain rfl := Option.some.inj heq
      exact .inl ⟨dst, amount, rfl, rfl, rfl⟩
  | approve spender amount =>
      obtain rfl := Option.some.inj h
      exact .inr (.inl ⟨spender, amount, rfl, rfl, fun _ _ => rfl⟩)
  | transferFrom src dst amount =>
      obtain ⟨⟨hallowed, -⟩, heq⟩ := Option.ite_none_right_eq_some.mp h
      obtain rfl := Option.some.inj heq
      exact .inr (.inr ⟨src, dst, amount, rfl, hallowed, rfl, rfl⟩)
  | other => cases h

theorem contract_behaves : (contract (A := A) unlimited).Behaves where
  balance_le := by
    intro t t' caller call h a
    change t.balances a ≤ t'.balances a ∨ _ ∧ (_ ∨ t.balances a ≤ t'.balances a + _)
    rcases exec_cases h with ⟨dst, amount, rfl, hbalances, -⟩ |
      ⟨spender, amount, rfl, hbalances, -⟩ | ⟨src, dst, amount, rfl, -, hbalances, -⟩
    · rw [hbalances]
      exact moved_le.imp_right fun h => ⟨.inl ⟨h.1, rfl⟩, .inr h.2⟩
    · rw [hbalances]
      exact .inl le_rfl
    · rw [hbalances]
      exact moved_le.imp_right fun h => ⟨.inr (congrArg some h.1.symm), .inr h.2⟩
  amount_le := by
    intro t t' caller src dst amount h
    exact .inr (Option.ite_none_right_eq_some.mp h).1.1
  allowance_cases := by
    intro t t' caller call h owner spender
    change t'.allowances owner spender = t.allowances owner spender ∨
      (_ ∧ (_ ∨ call = .approve spender (t'.allowances owner spender))) ∨
        _ ∧ _ ∧ t'.allowances owner spender ≤ t.allowances owner spender
    rcases exec_cases h with ⟨dst, amount, rfl, -, hallowances⟩ |
      ⟨s, amount, rfl, -, hallowances⟩ | ⟨src, dst, amount, rfl, -, -, hallowances⟩
    · exact .inl (by rw [hallowances])
    · rw [hallowances]
      split
      · rename_i hcell
        obtain ⟨rfl, rfl⟩ := hcell
        exact .inr (.inl ⟨rfl, .inr rfl⟩)
      · exact .inl rfl
    · rw [hallowances, spent]
      split
      · rename_i hcell
        obtain ⟨rfl, rfl, -⟩ := hcell
        exact .inr (.inr ⟨rfl, rfl, Nat.sub_le _ _⟩)
      · exact .inl rfl
  approve := by
    intro t t' owner spender amount h
    obtain rfl := Option.some.inj h
    exact if_pos ⟨rfl, rfl⟩

theorem contract_keepsUnlimited : (contract (A := A) unlimited).KeepsUnlimited unlimited := by
  intro t t' caller src dst amount h hunlimited
  obtain ⟨-, heq⟩ := Option.ite_none_right_eq_some.mp h
  obtain rfl := Option.some.inj heq
  change t.allowances src caller = unlimited at hunlimited
  change t.spent unlimited src caller amount src caller = unlimited
  rw [spent, if_neg fun hcell => hcell.2.2 hunlimited, hunlimited]

end Token

end Erc20
