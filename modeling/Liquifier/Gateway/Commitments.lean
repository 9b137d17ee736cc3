import Liquifier.Gateway.NewSessions

/-!
What the open sessions of a wallet have still to sell, against the balance of the
wallet.

`create_session` compares the amount that it is asked for with the whole balance, and
`start_selling` takes the whole balance as the amount. Neither looks at the sessions
that there are, so what keeps the sum below the balance is left to the callers, who come
one after another here.
-/

namespace Liquifier.Gateway

open SessionApi Kms

/-! ### Amounts -/

/-- Decimal texts in a `NUMERIC(78, 0)` column: those that `u128` reads, with the same
value, and those that a `U256` is printed as. -/
structure ReadsAmounts (lib : Library) : Prop where
  u128 : ∀ s n, u128FromStr s = some n → lib.numericFromStr s = some n
  u256 : ∀ n < U256.modulus, lib.numericFromStr (toString n) = some n

def isOpen : SessionStatus → Bool
  | .pending | .active | .paused => true
  | .completed | .cancelled | .error => false

section Amounts

variable (cfg : Settings) (w : WalletRow) (token : Option Address)

/-- The session sells the token from the wallet. -/
def sells (s : SessionRow) : Bool :=
  s.walletId = w.id && tokenOf cfg w.chain s.sellToken = some token

def remaining (s : SessionRow) : ℤ := s.totalAmount - s.amountSold

/-- The sum of `total_amount - amount_sold` over the open sessions. -/
def committed (db : SessionStore) : ℤ :=
  ((db.sessions.filter fun s => sells cfg w token s && isOpen s.status).map remaining).sum

/-- What a node says that the wallet holds of the token is `balance`, or an error. -/
def HoldsBalance (balance : ℕ) (env : RequestEnv) : Prop :=
  ∀ rpcUrl owner n, Address.parse w.address = some owner →
    env.nodes.holding rpcUrl owner token = some n → n = balance

/-- The amount of the token that a request wants to sell from the wallet. -/
def asked (lib : Library) (balance : ℕ) (db : SessionStore) : SessionRequest → Option ℕ
  | .create _ body _ =>
      if lib.uuidFromStr body.walletId = some w.id ∧
          tokenOf cfg w.chain (cfg.normalizeTokenForChain body.chain body.sellToken) =
            some token then
        u128FromStr body.totalAmount
      else none
  | .start user env =>
      if (pickWallet db env user).map (·.id) = some w.id ∧
          tokenOf cfg w.chain cfg.execution.sellToken = some token then
        some balance
      else none

/-- The request asks for no more than the open sessions leave of the balance. -/
def FitsBalance (lib : Library) (balance : ℕ) (db : SessionStore) (req : SessionRequest) : Prop :=
  ∀ n ∈ asked cfg w token lib balance db req, committed cfg w token db + n ≤ balance

instance (lib : Library) (balance : ℕ) (db : SessionStore) (req : SessionRequest) :
    Decidable (FitsBalance cfg w token lib balance db req) :=
  inferInstanceAs (Decidable (∀ n ∈ asked cfg w token lib balance db req, _))

end Amounts

variable {cfg : Settings} {lib : Library} {w : WalletRow} {token : Option Address} {balance : ℕ}
  {db db' : SessionStore}

/-! ### What a request commits -/

/-- The balance of a wallet of constant balance, as the gateway is answered. -/
theorem balanceText_eq (hx : Exact lib) (hw : w ∈ db.wallets) {env : RequestEnv}
    (hholds : HoldsBalance w token balance env) {tokenAddress text : String}
    (htoken : tokenOf cfg w.chain tokenAddress = some token)
    (h : balanceText cfg lib db env (lib.uuidToString w.id) tokenAddress = some text) :
    text = toString balance := by
  obtain ⟨resp, hresp, rfl⟩ := Option.map_eq_some_iff.mp h
  obtain ⟨id, v, owner, token', rpcUrl, n, hid, hv, howner, htoken', hn, htext⟩ :=
    getBalance_holding (ok_of_toOption hresp)
  rw [hx.uuid] at hid
  obtain rfl := Option.some.inj hid
  rw [Table.get_of_mem db.wallet_ids hw] at hv
  obtain rfl := Option.some.inj hv
  obtain rfl := Option.some.inj (htoken.symm.trans htoken')
  rw [htext, hholds rpcUrl owner n howner hn]

/-- A new row commits what its request has asked for. -/
theorem asked_eq (hx : Exact lib) (hn : ReadsAmounts lib) (hbalance : balance < U256.modulus)
    (hw : w ∈ db.wallets) {req : SessionRequest} {row : SessionRow}
    (hholds : HoldsBalance w token balance req.env)
    (hrow : requestedRow cfg lib db req = some row) :
    asked cfg w token lib balance db req =
      if sells cfg w token row then some row.totalAmount else none := by
  obtain ⟨r, hr, hsession⟩ := Option.bind_eq_some_iff.mp hrow
  have hrowOf := sessionRow_rowOf hsession
  have hreq := ok_of_toOption hr
  simp only [sells, Bool.and_eq_true, decide_eq_true_eq]
  cases req with
  | create user body env =>
      have hasks := createSession_asks hreq
      obtain ⟨n, hamount⟩ := hasks.amount
      have htotal := hrowOf.totalAmount
      rw [hasks.totalAmount, hn.u128 _ _ hamount] at htotal
      have hid : lib.uuidFromStr body.walletId = some w.id ↔ row.walletId = w.id := by
        rw [← hasks.walletId, hrowOf.walletId, Option.some_inj]
      simp only [asked, hid, hrowOf.sellToken, hasks.sellToken, hamount, htotal]
  | start user env =>
      have hasks := startSelling_asks hreq
      obtain ⟨v, hpick, hvid, _⟩ := exists_pickWallet hasks.wallet
      have hid := hrowOf.walletId
      rw [← hvid, hx.uuid, Option.some_inj] at hid
      simp only [asked, hpick, Option.map_some, Option.some_inj, ← hid, hrowOf.sellToken,
        hasks.sellToken]
      by_cases hkey : v.id = w.id ∧ tokenOf cfg w.chain cfg.execution.sellToken = some token
      · -- the amount is the text of the balance
        rw [if_pos hkey, if_pos hkey, Option.some_inj]
        obtain rfl := wallet_eq_of_id (pickWallet_owner hpick).1 hw hkey.1
        have htext := hasks.balance
        simp only [hpick, Option.bind_some] at htext
        have htotal := hrowOf.totalAmount
        rw [balanceText_eq hx hw hholds hkey.2 htext, hn.u256 _ hbalance] at htotal
        exact Option.some.inj htotal
      · rw [if_neg hkey, if_neg hkey]

theorem committed_append {row : SessionRow} (hsessions : db'.sessions = db.sessions ++ [row])
    (hstatus : row.status = .pending) (hsold : row.amountSold = 0) :
    committed cfg w token db' =
      committed cfg w token db + if sells cfg w token row then (row.totalAmount : ℤ) else 0 := by
  have hopen : (sells cfg w token row && isOpen row.status) = sells cfg w token row := by
    simp [hstatus, isOpen]
  rw [committed, hsessions, List.filter_append, List.map_append, List.sum_append, ← committed,
    List.filter_singleton, hopen]
  cases sells cfg w token row with
  | true => simp [remaining, hsold]
  | false => simp

/-- A request that fits keeps the sum below the balance, and only such a request does if
it creates a session. -/
theorem committed_le_iff (hx : Exact lib) (hn : ReadsAmounts lib)
    (hbalance : balance < U256.modulus) (hw : w ∈ db.wallets) {req : SessionRequest} {row : SessionRow}
    (hholds : HoldsBalance w token balance req.env) (hle : committed cfg w token db ≤ balance)
    (hrow : requestedRow cfg lib db req = some row)
    (hsessions : (nextSession cfg lib db req).sessions = db.sessions ++ [row]) :
    committed cfg w token (nextSession cfg lib db req) ≤ balance ↔
      FitsBalance cfg w token lib balance db req := by
  obtain ⟨r, _, hsession⟩ := Option.bind_eq_some_iff.mp hrow
  have hrowOf := sessionRow_rowOf hsession
  rw [committed_append hsessions hrowOf.status hrowOf.amountSold, FitsBalance,
    asked_eq hx hn hbalance hw hholds hrow]
  by_cases hsells : sells cfg w token row = true
  · simp [hsells]
  -- a session of another wallet or token commits nothing
  · simpa [hsells] using hle

/-- A wallet has a constant balance of a token. In every run whose requests ask for no
more than the open sessions leave of it, the open sessions never commit more than the
balance. Of the requests that create a session, exactly these keep it so. A
`start_selling` asks for all of it. -/
theorem committed_le_of_fitsBalance (cfg : Settings) (hx : Exact lib) (hn : ReadsAmounts lib)
    (w : WalletRow) (token : Option Address) (hbalance : balance < U256.modulus) :
    (∀ db es, w ∈ db.wallets → (∀ e ∈ es, HoldsBalance w token balance e.env) →
      committed cfg w token db ≤ balance →
        Trace.Guarded (nextSession cfg lib) (FitsBalance cfg w token lib balance) db es →
          committed cfg w token (es.foldl (nextSession cfg lib) db) ≤ balance) ∧
    ∀ db req row, w ∈ db.wallets → HoldsBalance w token balance req.env →
      committed cfg w token db ≤ balance →
        (nextSession cfg lib db req).sessions = db.sessions ++ [row] →
          (committed cfg w token (nextSession cfg lib db req) ≤ balance ↔
            FitsBalance cfg w token lib balance db req) := by
  constructor
  · intro db es hw hholds hle h
    refine ((h.and_mem hholds).invariant
      (I := fun db => w ∈ db.wallets ∧ committed cfg w token db ≤ balance) ⟨hw, hle⟩ ?_).2
    rintro db req ⟨hw, hle⟩ ⟨hfits, hholds⟩
    rcases nextSession_cases cfg lib db req with hsame | ⟨row, hrow, hsessions, hwallets, _⟩
    · rw [hsame]
      exact ⟨hw, hle⟩
    · rw [hwallets]
      exact ⟨hw, (committed_le_iff hx hn hbalance hw hholds hle hrow hsessions).mpr hfits⟩
  · intro db req row hw hholds hle hnew
    rcases nextSession_cases cfg lib db req with hsame | ⟨row, hrow, hsessions, _⟩
    · rw [hsame] at hnew
      exact absurd (congrArg List.length hnew) (by simp)
    · exact committed_le_iff hx hn hbalance hw hholds hle hrow hsessions

namespace Sample

theorem library_readsAmounts : ReadsAmounts library where
  u128 s n h := by
    change (if ((unsigned s.toList).isEmpty || (unsigned s.toList).any fun c => !c.isDigit) = true
      then none else _) = some n at h
    simp only [library, decimalFromStr]
    split at h
    · cases h
    · rename_i hdigits
      rw [if_neg hdigits]
      exact (Option.ite_none_right_eq_some.mp h).2
  u256 n _ := by
    have hdigits : (toString n).toList = Nat.toDigits 10 n := Nat.toList_repr
    have hdigit : ∀ c ∈ Nat.toDigits 10 n, c.isDigit = true := fun c hc =>
      Nat.isDigit_of_mem_toDigits (by decide) (by decide) hc
    have hsign : unsigned (Nat.toDigits 10 n) = Nat.toDigits 10 n := by
      unfold unsigned
      split
      · rename_i heq
        exact absurd (hdigit '+' (heq ▸ List.mem_cons_self)) (by decide)
      · rfl
    simp only [library, decimalFromStr, hdigits, hsign]
    rw [if_neg, ← Nat.ofDigitChars_eq_foldl, Nat.ofDigitChars_ten_toDigits]
    simp only [Bool.or_eq_true, List.isEmpty_iff, List.any_eq_true, Bool.not_eq_true',
      not_or, not_exists, not_and, Bool.not_eq_false]
    exact ⟨Nat.toDigits_ne_nil, hdigit⟩

theorem length_tokenBytes : (List.replicate 20 (0x11 : UInt8)).length = 20 := List.length_replicate

def tokenAddress : Address := ⟨List.replicate 20 0x11, length_tokenBytes⟩

theorem requestEnv_holds (w : WalletRow) (token : Option Address) (sessionId : Uuid) :
    HoldsBalance w token 1000 (requestEnv sessionId) := by
  intro rpcUrl owner n _ h
  cases token with
  | none => exact (Option.some.inj h).symm
  | some token => exact (Option.some.inj h).symm

end Sample

/-- Two sessions for 400 and 600 of the 1000 units of a wallet. -/
theorem committed_le_of_fitsBalance_sample :
    ∃ db : SessionStore, db.sessions.length = 2 ∧
      committed Sample.settings (Sample.walletOf 1) (some Sample.tokenAddress) db ≤ 1000 := by
  refine ⟨[SessionRequest.create ⟨1, "common"⟩ (Sample.sessionBody "400") (Sample.requestEnv 1),
    .create ⟨1, "common"⟩ (Sample.sessionBody "600") (Sample.requestEnv 2)].foldl
      (nextSession Sample.settings Sample.library) Sample.sessionStore, by decide +kernel, ?_⟩
  refine (committed_le_of_fitsBalance Sample.settings Sample.library_exact
    Sample.library_readsAmounts (Sample.walletOf 1) (some Sample.tokenAddress)
    (by decide +kernel)).1 _ _ (by decide +kernel) ?_ (by decide +kernel) (by decide +kernel)
  intro e he
  simp only [List.mem_cons, List.not_mem_nil, or_false] at he
  rcases he with rfl | rfl <;> exact Sample.requestEnv_holds _ _ _

/-- User 1 starts selling twice. -/
theorem balance_committed_twice :
    ¬ ∀ es : List SessionRequest,
      (∀ e ∈ es, HoldsBalance (Sample.walletOf 1) (some Sample.tokenAddress) 1000 e.env) →
        committed Sample.settings (Sample.walletOf 1) (some Sample.tokenAddress)
          (es.foldl (nextSession Sample.settings Sample.library) Sample.sessionStore) ≤ 1000 := by
  intro h
  have htwice := h [.start ⟨1, "common"⟩ (Sample.requestEnv 1),
    .start ⟨1, "common"⟩ (Sample.requestEnv 2)] (by
      intro e he
      simp only [List.mem_cons, List.not_mem_nil, or_false] at he
      rcases he with rfl | rfl <;> exact Sample.requestEnv_holds _ _ _)
  exact absurd htwice (by decide +kernel)

end Liquifier.Gateway
