import Liquifier.Chain.Transactions
import Liquifier.Kms.Wallets
import Liquifier.Lib.Trace

/-!
The private keys of the wallets.

The key service draws a key for every wallet, keeps it enciphered in the row of the
wallet, and deciphers it to sign and to export. The cipher, the curve and the encoding of
transactions are crates: they are the parameter `lib`, and `KeyCrates.Exact` is what their
documentation promises.

A run is a sequence of requests from an empty table. What was drawn for which wallet is
noted beside the run, since the service itself keeps no key in the clear.
-/

namespace Liquifier.Kms

open Chain (TransactionRequest)
open Trace

/-- What the service calls of `aes_gcm`, `alloy`, `serde_json` and `uuid`; an error is
`none`. -/
structure KeyCrates where
  /-- `Aes256Gcm::encrypt`, of a master key, a nonce and a text. -/
  encrypt : List UInt8 → List UInt8 → List UInt8 → Option (List UInt8)
  /-- `Aes256Gcm::decrypt`, of a master key, a nonce and a ciphertext; `none` is also the
  panic of `Nonce::from_slice`. -/
  decrypt : List UInt8 → List UInt8 → List UInt8 → Option (List UInt8)
  /-- `PrivateKeySigner::from_slice`, and the address of the signer. -/
  fromSlice : List UInt8 → Option Address
  /-- `serde_json::from_slice`, of an unsigned transaction. -/
  txFromSlice : List UInt8 → Option TransactionRequest
  /-- `TransactionRequest::build` with the wallet of a key: the encoded transaction and its
  hash. -/
  build : List UInt8 → TransactionRequest → Option (List UInt8 × String)
  /-- `str::to_lowercase`. -/
  toLowercase : String → String
  uuidFromStr : String → Option Uuid
  uuidToString : Uuid → String

/-- The documented behaviour of the crates; `recover` is how a node reads an encoded
transaction, and whom it takes for its sender. -/
structure KeyCrates.Exact (lib : KeyCrates)
    (recover : List UInt8 → Option (Address × TransactionRequest)) : Prop where
  decrypt : ∀ {masterKey nonce text ciphertext},
    lib.encrypt masterKey nonce text = some ciphertext →
      lib.decrypt masterKey nonce ciphertext = some text
  build : ∀ {key address tx raw hash}, lib.fromSlice key = some address →
    lib.build key tx = some (raw, hash) → recover raw = some (address, tx)
  uuid : ∀ id, lib.uuidFromStr (lib.uuidToString id) = some id

/-- `PrivateKeySigner::random`: a key that the curve takes, and its address. -/
structure Signer (lib : KeyCrates) where
  credential : List UInt8
  address : Address
  valid : lib.fromSlice credential = some address
  deriving DecidableEq

/-- What a request meets outside the service: the values that its handler draws, and
whether the database answers. -/
structure KmsEnv (lib : KeyCrates) where
  signer : Signer lib
  /-- `Aes256Gcm::generate_nonce`. -/
  nonce : List UInt8
  /-- `Uuid::new_v4`. -/
  walletId : Uuid
  /-- The ids in `users`, to which a wallet refers. -/
  users : List Uuid
  selects : Bool
  writes : Bool

/-! ### The table -/

/-- A row of `wallets`. -/
structure KeyRow extends WalletRow where
  encryptedKey : List UInt8
  nonce : List UInt8
  deriving DecidableEq

/-- The columns of `UNIQUE (chain, address)`. -/
def KeyRow.account (r : KeyRow) : String × String := (r.chain, r.address)

/-- The values of `chain_id`. -/
def chainIds : List String := ["ethereum", "base", "arbitrum", "bsc", "polygon", "optimism"]

/-- The table with its keys. -/
structure Keys where
  rows : List KeyRow
  ids_nodup : (rows.map (·.id)).Nodup
  accounts_nodup : (rows.map KeyRow.account).Nodup

namespace Keys

def empty : Keys := ⟨[], List.nodup_nil, List.nodup_nil⟩

variable (keys : Keys)

def byId (id : Uuid) : Option KeyRow := Table.get (·.id) keys.rows id

/-- The row keeps to the keys of the table, to the type of `chain` and to the reference
to `users`. -/
def Takes (users : List Uuid) (r : KeyRow) : Prop :=
  r.id ∉ keys.rows.map (·.id) ∧ r.account ∉ keys.rows.map KeyRow.account ∧
    r.chain ∈ chainIds ∧ r.userId ∈ users

instance (users : List Uuid) (r : KeyRow) : Decidable (keys.Takes users r) :=
  inferInstanceAs (Decidable (_ ∧ _))

/-- `INSERT INTO wallets`; `none` is an error. -/
def insert (users : List Uuid) (r : KeyRow) : Option Keys :=
  if h : keys.Takes users r then
    some {
      rows := keys.rows ++ [r]
      ids_nodup := by
        rw [List.map_append]
        exact keys.ids_nodup.append (List.nodup_singleton _) (List.disjoint_singleton.mpr h.1)
      accounts_nodup := by
        rw [List.map_append]
        exact keys.accounts_nodup.append (List.nodup_singleton _)
          (List.disjoint_singleton.mpr h.2.1) }
  else none

variable {keys}

theorem insert_eq_some {users : List Uuid} {r : KeyRow} {keys' : Keys}
    (h : keys.insert users r = some keys') :
    keys.Takes users r ∧ keys'.rows = keys.rows ++ [r] := by
  unfold insert at h
  split at h
  · rename_i htakes
    cases h
    exact ⟨htakes, rfl⟩
  · cases h

theorem byId_of_mem {r : KeyRow} (h : r ∈ keys.rows) : keys.byId r.id = some r :=
  Table.get_of_mem keys.ids_nodup h

theorem byId_eq_some {id : Uuid} {r : KeyRow} :
    keys.byId id = some r ↔ r ∈ keys.rows ∧ r.id = id := by
  constructor
  · intro h
    refine ⟨Table.mem_of_get h, ?_⟩
    simpa [byId, Table.get] using List.find?_some h
  · rintro ⟨hr, rfl⟩
    exact byId_of_mem hr

end Keys

/-! ### Requests -/

structure CreateWalletRequest where
  userId : String
  chain : String

structure CreateWalletResponse where
  walletId : String
  address : String
  deriving DecidableEq

structure SignTransactionRequest where
  walletId : String
  unsignedTx : List UInt8

structure SignTransactionResponse where
  signedTx : List UInt8
  txHash : String
  deriving DecidableEq

structure ExportPrivateKeyRequest where
  walletId : String
  userId : String

structure ExportPrivateKeyResponse where
  privateKey : String
  address : String
  deriving DecidableEq

/-- `format!("0x{}", hex::encode(bytes))`. -/
def hexKey (bytes : List UInt8) : String := String.ofList ('0' :: 'x' :: encodeHex bytes)

section Handlers

variable (cfg : Settings) (lib : KeyCrates) (masterKey : List UInt8) (keys : Keys)
  (env : KmsEnv lib)

/-- The row that `create_wallet` inserts, under a ciphertext of the drawn key. -/
def newRow (userId : Uuid) (chain : String) (ciphertext : List UInt8) : KeyRow where
  id := env.walletId
  userId := userId
  chain := chain
  address := env.signer.address.debug
  encryptedKey := ciphertext
  nonce := env.nonce

def createWallet (req : CreateWalletRequest) : Except Status (Keys × CreateWalletResponse) := do
  let userId ← okOr (.invalidArgument "Invalid user_id") (lib.uuidFromStr req.userId)
  let chain := if trim req.chain = "" then "bsc" else lib.toLowercase (trim req.chain)
  ensure (cfg.chain chain).isSome (.invalidArgument "Unsupported chain")
  let ciphertext ← okOr (.internal "Encryption error")
    (lib.encrypt masterKey env.nonce env.signer.credential)
  ensure env.writes (.internal "DB error")
  let keys ← okOr (.internal "DB error")
    (keys.insert env.users (newRow lib env userId chain ciphertext))
  return (keys, ⟨lib.uuidToString env.walletId, env.signer.address.debug⟩)

def signTransaction (req : SignTransactionRequest) : Except Status SignTransactionResponse := do
  let walletId ← okOr (.invalidArgument "Invalid wallet_id") (lib.uuidFromStr req.walletId)
  ensure env.selects (.internal "DB error")
  let row ← okOr (.notFound "Wallet not found") (keys.byId walletId)
  let privateKeyBytes ← okOr (.internal "Decryption error")
    (lib.decrypt masterKey row.nonce row.encryptedKey)
  let _ ← okOr (.internal "Key reconstruction error") (lib.fromSlice privateKeyBytes)
  let txRequest ← okOr (.invalidArgument "Failed to deserialize TransactionRequest")
    (lib.txFromSlice req.unsignedTx)
  let (encoded, txHash) ← okOr (.internal "Transaction signing error")
    (lib.build privateKeyBytes txRequest)
  return ⟨encoded, txHash⟩

/-- `WHERE id = $1 AND user_id = $2`. -/
def exportPrivateKey (req : ExportPrivateKeyRequest) : Except Status ExportPrivateKeyResponse := do
  let walletId ← okOr (.invalidArgument "Invalid wallet_id") (lib.uuidFromStr req.walletId)
  let userId ← okOr (.invalidArgument "Invalid user_id") (lib.uuidFromStr req.userId)
  ensure env.selects (.internal "DB error")
  let row ← okOr (.notFound "Wallet not found or not owned by user")
    ((keys.byId walletId).filter (·.userId = userId))
  let privateKeyBytes ← okOr (.internal "Decryption error")
    (lib.decrypt masterKey row.nonce row.encryptedKey)
  return ⟨hexKey privateKeyBytes, row.address⟩

end Handlers

/-! ### Runs -/

inductive KmsRequest where
  | createWallet (req : CreateWalletRequest)
  | signTransaction (req : SignTransactionRequest)
  | exportPrivateKey (req : ExportPrivateKeyRequest)

/-- A key that was drawn for a wallet. -/
structure Drawn (lib : KeyCrates) where
  walletId : Uuid
  userId : Uuid
  signer : Signer lib
  deriving DecidableEq

section Runs

variable (cfg : Settings) (lib : KeyCrates) (masterKey : List UInt8)

/-- Only a creation writes the table. -/
def next (keys : Keys) (e : KmsRequest × KmsEnv lib) : Keys :=
  match e.1 with
  | .createWallet req =>
      match createWallet cfg lib masterKey keys e.2 req with
      | .ok (keys, _) => keys
      | .error _ => keys
  | _ => keys

def run (events : List (KmsRequest × KmsEnv lib)) : Keys :=
  events.foldl (next cfg lib masterKey) .empty

/-- The key that a request draws, where it creates a wallet. -/
def draws (keys : Keys) (_ : List (Drawn lib)) (e : KmsRequest × KmsEnv lib) : List (Drawn lib) :=
  match e.1 with
  | .createWallet req =>
      match createWallet cfg lib masterKey keys e.2 req with
      | .ok _ =>
          ((lib.uuidFromStr req.userId).map fun userId =>
            ⟨e.2.walletId, userId, e.2.signer⟩).toList
      | .error _ => []
  | _ => []

/-- The keys that were drawn in a run. -/
def drawn (events : List (KmsRequest × KmsEnv lib)) : List (Drawn lib) :=
  notes (next cfg lib masterKey) (draws cfg lib masterKey) .empty events

/-- The row is the one of the drawn key. -/
structure Keeps (d : Drawn lib) (r : KeyRow) : Prop where
  id : r.id = d.walletId
  userId : r.userId = d.userId
  address : r.address = d.signer.address.debug
  key : lib.decrypt masterKey r.nonce r.encryptedKey = some d.signer.credential

/-- The rows are those of the drawn keys. -/
structure Kept (log : List (Drawn lib)) (rows : List KeyRow) : Prop where
  ids : log.map Drawn.walletId = rows.map (·.id)
  row : ∀ d ∈ log, ∃ r ∈ rows, Keeps lib masterKey d r
  drawn : ∀ r ∈ rows, ∃ d ∈ log, Keeps lib masterKey d r

/-- The wallet was created in the run, by a request of the user that has answered it with
the address of the key. -/
def Created (events : List (KmsRequest × KmsEnv lib)) (d : Drawn lib) : Prop :=
  ∃ pre req env post keys', events = pre ++ (.createWallet req, env) :: post ∧
    lib.uuidFromStr req.userId = some d.userId ∧ env.signer = d.signer ∧
    createWallet cfg lib masterKey (run cfg lib masterKey pre) env req =
      .ok (keys', ⟨lib.uuidToString d.walletId, d.signer.address.debug⟩)

end Runs

section Custody

variable {cfg : Settings} {lib : KeyCrates} {masterKey : List UInt8} {keys keys' : Keys}
  {env : KmsEnv lib} {recover : List UInt8 → Option (Address × TransactionRequest)}

/-- A wallet that is created has a row from which its key can be read. -/
theorem createWallet_eq_ok (hx : lib.Exact recover) {req : CreateWalletRequest}
    {resp : CreateWalletResponse}
    (h : createWallet cfg lib masterKey keys env req = .ok (keys', resp)) :
    ∃ userId r, lib.uuidFromStr req.userId = some userId ∧ keys'.rows = keys.rows ++ [r] ∧
      Keeps lib masterKey ⟨env.walletId, userId, env.signer⟩ r ∧
      resp = ⟨lib.uuidToString env.walletId, env.signer.address.debug⟩ := by
  simp only [createWallet, bind_eq_ok, okOr_eq_ok] at h
  obtain ⟨userId, huser, -, -, ciphertext, hencrypt, -, -, keys'', hinsert, h⟩ := h
  cases h
  exact ⟨userId, _, huser, (Keys.insert_eq_some hinsert).2, ⟨rfl, rfl, rfl, hx.decrypt hencrypt⟩,
    rfl⟩

/-- All that one request does to the table and to the record of the keys. -/
theorem next_cases (hx : lib.Exact recover) (keys : Keys) (log : List (Drawn lib))
    (e : KmsRequest × KmsEnv lib) :
    (next cfg lib masterKey keys e).rows = keys.rows ∧ draws cfg lib masterKey keys log e = [] ∨
      ∃ d r, (next cfg lib masterKey keys e).rows = keys.rows ++ [r] ∧
        draws cfg lib masterKey keys log e = [d] ∧ Keeps lib masterKey d r := by
  obtain ⟨req, env⟩ := e
  cases req with
  | createWallet req =>
      simp only [next, draws]
      cases h : createWallet cfg lib masterKey keys env req with
      | error e => exact .inl ⟨rfl, rfl⟩
      | ok result =>
          obtain ⟨userId, r, huser, hrows, hkeeps, -⟩ := createWallet_eq_ok hx h
          exact .inr ⟨⟨env.walletId, userId, env.signer⟩, r, hrows, by simp [huser], hkeeps⟩
  | signTransaction req => exact .inl ⟨rfl, rfl⟩
  | exportPrivateKey req => exact .inl ⟨rfl, rfl⟩

theorem Kept.concat {log : List (Drawn lib)} {rows : List KeyRow} (h : Kept lib masterKey log rows)
    {d : Drawn lib} {r : KeyRow} (hkeeps : Keeps lib masterKey d r) :
    Kept lib masterKey (log ++ [d]) (rows ++ [r]) := by
  constructor
  · rw [List.map_append, List.map_append, h.ids, List.map_singleton, List.map_singleton, hkeeps.id]
  · intro d' hd'
    rcases List.mem_append.mp hd' with hd' | hd'
    · obtain ⟨r', hr', hkeeps'⟩ := h.row d' hd'
      exact ⟨r', List.mem_append_left _ hr', hkeeps'⟩
    · rw [List.mem_singleton.mp hd']
      exact ⟨r, List.mem_append_right _ (List.mem_singleton_self r), hkeeps⟩
  · intro r' hr'
    rcases List.mem_append.mp hr' with hr' | hr'
    · obtain ⟨d', hd', hkeeps'⟩ := h.drawn r' hr'
      exact ⟨d', List.mem_append_left _ hd', hkeeps'⟩
    · rw [List.mem_singleton.mp hr']
      exact ⟨d, List.mem_append_right _ (List.mem_singleton_self d), hkeeps⟩

theorem kept_run (hx : lib.Exact recover) (events : List (KmsRequest × KmsEnv lib)) :
    Kept lib masterKey (drawn cfg lib masterKey events) (run cfg lib masterKey events).rows := by
  induction events using List.reverseRecOn with
  | nil =>
      exact ⟨rfl, fun _ hd => absurd hd List.not_mem_nil,
        fun _ hr => absurd hr List.not_mem_nil⟩
  | append_singleton events e ih =>
      rw [drawn, notes_concat, ← drawn, run, List.foldl_append, ← run]
      rcases next_cases hx (run cfg lib masterKey events) (drawn cfg lib masterKey events) e with
        ⟨hrows, hdraws⟩ | ⟨d, r, hrows, hdraws, hkeeps⟩
      · rw [hdraws, List.append_nil, List.foldl_cons, List.foldl_nil, hrows]
        exact ih
      · rw [hdraws, List.foldl_cons, List.foldl_nil, hrows]
        exact ih.concat hkeeps

/-! ### What is answered -/

/-- The key and the address that were drawn for the wallet of the user. -/
def Exported (lib : KeyCrates) (log : List (Drawn lib)) (req : ExportPrivateKeyRequest)
    (resp : ExportPrivateKeyResponse) : Prop :=
  ∃ d ∈ log, lib.uuidFromStr req.walletId = some d.walletId ∧
    lib.uuidFromStr req.userId = some d.userId ∧
    resp = ⟨hexKey d.signer.credential, d.signer.address.debug⟩

/-- The transaction of the request, under the key that was drawn for the wallet. -/
def Signed (lib : KeyCrates) (log : List (Drawn lib)) (req : SignTransactionRequest)
    (resp : SignTransactionResponse) : Prop :=
  ∃ d ∈ log, ∃ tx, lib.uuidFromStr req.walletId = some d.walletId ∧
    lib.txFromSlice req.unsignedTx = some tx ∧
    lib.build d.signer.credential tx = some (resp.signedTx, resp.txHash)

theorem exportPrivateKey_iff {log : List (Drawn lib)} (h : Kept lib masterKey log keys.rows)
    {req : ExportPrivateKeyRequest} {resp : ExportPrivateKeyResponse} :
    exportPrivateKey lib masterKey keys env req = .ok resp ↔
      env.selects = true ∧ Exported lib log req resp := by
  simp only [exportPrivateKey, bind_eq_ok, okOr_eq_ok, ensure_eq_ok, Option.filter_eq_some_iff,
    decide_eq_true_eq]
  constructor
  · rintro ⟨walletId, hwallet, userId, huser, -, hselects, r, ⟨hr, rfl⟩, key, hkey, hresp⟩
    cases hresp
    obtain ⟨hmem, rfl⟩ := Keys.byId_eq_some.mp hr
    obtain ⟨d, hd, hkeeps⟩ := h.drawn r hmem
    obtain rfl := Option.some.inj (hkey.symm.trans hkeeps.key)
    exact ⟨hselects, d, hd, hwallet.trans (congrArg some hkeeps.id),
      huser.trans (congrArg some hkeeps.userId), by rw [hkeeps.address]⟩
  · rintro ⟨hselects, d, hd, hwallet, huser, rfl⟩
    obtain ⟨r, hr, hkeeps⟩ := h.row d hd
    refine ⟨d.walletId, hwallet, d.userId, huser, (), hselects, r, ⟨?_, hkeeps.userId⟩,
      d.signer.credential, hkeeps.key, ?_⟩
    · exact Keys.byId_eq_some.mpr ⟨hr, hkeeps.id⟩
    · rw [← hkeeps.address]
      rfl

theorem signTransaction_iff {log : List (Drawn lib)} (h : Kept lib masterKey log keys.rows)
    {req : SignTransactionRequest} {resp : SignTransactionResponse} :
    signTransaction lib masterKey keys env req = .ok resp ↔
      env.selects = true ∧ Signed lib log req resp := by
  simp only [signTransaction, bind_eq_ok, okOr_eq_ok, ensure_eq_ok]
  constructor
  · rintro ⟨walletId, hwallet, -, hselects, r, hr, key, hkey, address, -, tx, htx, ⟨raw, hash⟩,
      hbuild, hresp⟩
    cases hresp
    obtain ⟨hmem, rfl⟩ := Keys.byId_eq_some.mp hr
    obtain ⟨d, hd, hkeeps⟩ := h.drawn r hmem
    obtain rfl := Option.some.inj (hkey.symm.trans hkeeps.key)
    exact ⟨hselects, d, hd, tx, hwallet.trans (congrArg some hkeeps.id), htx, hbuild⟩
  · rintro ⟨hselects, d, hd, tx, hwallet, htx, hbuild⟩
    obtain ⟨r, hr, hkeeps⟩ := h.row d hd
    exact ⟨d.walletId, hwallet, (), hselects, r, Keys.byId_eq_some.mpr ⟨hr, hkeeps.id⟩,
      d.signer.credential, hkeeps.key, d.signer.address, d.signer.valid, tx, htx, _, hbuild, rfl⟩

theorem Signed.sender (hx : lib.Exact recover) {log : List (Drawn lib)}
    {req : SignTransactionRequest} {resp : SignTransactionResponse} (h : Signed lib log req resp) :
    ∃ d ∈ log, ∃ tx, lib.uuidFromStr req.walletId = some d.walletId ∧
      lib.txFromSlice req.unsignedTx = some tx ∧
      recover resp.signedTx = some (d.signer.address, tx) := by
  obtain ⟨d, hd, tx, hwallet, htx, hbuild⟩ := h
  exact ⟨d, hd, tx, hwallet, htx, hx.build d.signer.valid hbuild⟩

theorem created_of_mem_drawn (hx : lib.Exact recover) {events : List (KmsRequest × KmsEnv lib)}
    {d : Drawn lib} (h : d ∈ drawn cfg lib masterKey events) :
    Created cfg lib masterKey events d := by
  obtain ⟨pre, ⟨req, env⟩, post, rfl, hd⟩ := mem_notes_iff.mp h
  cases req with
  | createWallet req =>
      simp only [draws] at hd
      cases hok : createWallet cfg lib masterKey (run cfg lib masterKey pre) env req with
      | error e =>
          rw [← run, hok] at hd
          cases hd
      | ok result =>
          obtain ⟨userId, -, huser, -, -, hresp⟩ := createWallet_eq_ok hx hok
          rw [← run, hok, huser] at hd
          obtain rfl := List.mem_singleton.mp hd
          exact ⟨pre, req, env, post, result.1, rfl, huser, rfl, by rw [hok, ← hresp]⟩
  | signTransaction req => cases hd
  | exportPrivateKey req => cases hd

/-- A wallet has one key. -/
theorem drawn_unique (hx : lib.Exact recover) {events : List (KmsRequest × KmsEnv lib)}
    {d d' : Drawn lib} (hd : d ∈ drawn cfg lib masterKey events)
    (hd' : d' ∈ drawn cfg lib masterKey events) (hid : d.walletId = d'.walletId) : d = d' := by
  refine List.inj_on_of_nodup_map ?_ hd hd' hid
  rw [(kept_run hx events).ids]
  exact (run cfg lib masterKey events).ids_nodup

variable (cfg masterKey) in
/-- In every run, the rows of the table are those of the keys that were drawn, and a wallet
has the one key that was drawn when it was created. `export_private_key` answers this key,
with the address that the creation has answered, to the user of the creation and to nobody
else, and a node takes this address for the sender of what `sign_transaction` answers. -/
theorem custody_run (hx : lib.Exact recover) (events : List (KmsRequest × KmsEnv lib))
    (env : KmsEnv lib) :
    Kept lib masterKey (drawn cfg lib masterKey events) (run cfg lib masterKey events).rows ∧
    (∀ d ∈ drawn cfg lib masterKey events, Created cfg lib masterKey events d ∧
      ∀ d' ∈ drawn cfg lib masterKey events, d.walletId = d'.walletId → d = d') ∧
    (∀ req resp,
      exportPrivateKey lib masterKey (run cfg lib masterKey events) env req = .ok resp ↔
        env.selects = true ∧ Exported lib (drawn cfg lib masterKey events) req resp) ∧
    ∀ req resp,
      signTransaction lib masterKey (run cfg lib masterKey events) env req = .ok resp →
        ∃ d ∈ drawn cfg lib masterKey events, ∃ tx, lib.uuidFromStr req.walletId = some d.walletId ∧
          lib.txFromSlice req.unsignedTx = some tx ∧
          recover resp.signedTx = some (d.signer.address, tx) := by
  refine ⟨kept_run hx events,
    fun d hd => ⟨created_of_mem_drawn hx hd, fun d' hd' => drawn_unique hx hd hd'⟩,
    fun req resp => exportPrivateKey_iff (kept_run hx events), fun req resp h => ?_⟩
  exact ((signTransaction_iff (kept_run hx events)).mp h).2.sender hx

end Custody

/-! ### A wallet is created and exported -/

namespace Sample

def payment : TransactionRequest :=
  ⟨⟨List.replicate 20 7, rfl⟩, Address.zero, 1, [], 0, 56, 21000, 1⟩

/-- The ciphertext names the master key and the nonce, and an address is the start of its
key. -/
def keyCrates : KeyCrates where
  encrypt masterKey nonce text := some (masterKey ++ nonce ++ text)
  decrypt masterKey nonce ciphertext :=
    if masterKey ++ nonce <+: ciphertext then some (ciphertext.drop (masterKey ++ nonce).length)
    else none
  fromSlice key := Address.ofBytes (key.take 20)
  txFromSlice raw := if raw = [1] then some payment else none
  build key tx :=
    if tx = payment then (Address.ofBytes (key.take 20)).map fun a => (a.bytes, "0x1") else none
  toLowercase := toAsciiLowercase
  uuidFromStr s := some s.length
  uuidToString id := String.ofList (List.replicate id '1')

def sender (raw : List UInt8) : Option (Address × TransactionRequest) :=
  (Address.ofBytes raw).map (·, payment)

theorem keyCrates_exact : keyCrates.Exact sender where
  decrypt := by
    rintro masterKey nonce text _ ⟨⟩
    simp [keyCrates]
  build := by
    intro key address tx raw hash haddress hbuild
    simp only [keyCrates, Option.ite_none_right_eq_some, Option.map_eq_some_iff] at haddress hbuild
    obtain ⟨rfl, a, ha, h⟩ := hbuild
    obtain rfl := Option.some.inj (haddress.symm.trans ha)
    cases h
    simp [sender, Address.ofBytes, address.size]
  uuid id := by simp [keyCrates]

def signer : Signer keyCrates where
  credential := List.replicate 32 7
  address := ⟨List.replicate 20 7, rfl⟩
  valid := rfl

def kmsEnv : KmsEnv keyCrates := ⟨signer, List.replicate 12 9, 2, [1], true, true⟩

def settings : Settings where
  chains := [("bsc", ⟨true, 56, "http://bsc", [], []⟩)]
  execution := ⟨100, "", "", 18, "", "", 18, "bsc", 10, 1, ""⟩

def created : List (KmsRequest × KmsEnv keyCrates) :=
  [(.createWallet ⟨"1", " BSC "⟩, kmsEnv), (.signTransaction ⟨"11", [1]⟩, kmsEnv)]

end Sample

/-- User 1 creates a wallet and exports its key. -/
theorem custody_run_sample :
    exportPrivateKey Sample.keyCrates [5] (run Sample.settings Sample.keyCrates [5] Sample.created)
      Sample.kmsEnv ⟨"11", "1"⟩ =
        .ok ⟨hexKey (List.replicate 32 7), Sample.signer.address.debug⟩ := by
  refine ((custody_run Sample.settings [5] Sample.keyCrates_exact Sample.created
    Sample.kmsEnv).2.2.1 _ _).mpr ⟨rfl, ⟨2, 1, Sample.signer⟩, ?_, rfl, rfl, rfl⟩
  exact List.mem_singleton.mpr rfl

end Liquifier.Kms
