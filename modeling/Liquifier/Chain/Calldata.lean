import Liquifier.Engine.PathCodec
import Liquifier.Engine.Slippage
import Liquifier.Engine.Sweep
import Liquifier.Lib.Erc20

/-!
The calls as the bytes that are signed, and what contracts read in them.

The encoders of the calls are generated, and the readers are those of the routers and of
the tokens, so both are parameters: an `Abi` is an encoder and readers that fit together.
What a router then reads in the calldata of a swap is an order for the wallet of the
session, over the tokens and the fees of its route.

`Abi.standard` has the layout of the contract interfaces: a call is the selector of its
function and the words of its arguments, and a list stands behind the other arguments,
which hold its place, and begins with its length.
-/

namespace Liquifier.Chain

open Engine (PoolSwapRoute RouterCall SwapAnswers SwapPlan amountOutMinimum approveCall
  buildSwapCalldata decodePath encodeHops_decodes encodeUniswapV3Path_eq_some_iff getOnChainQuote
  map_resolved planSwap planSwap_planned resolveSessionWalletAddress resolveToken routeFeeTiers
  sessionSlippageBps)

/-! ### Encoders and readers -/

/-- The call up to the size of its words. -/
def wrapped : RouterCall → RouterCall
  | .swapExactETHForTokensSupportingFeeOnTransferTokens amountOutMin path recipient deadline =>
      .swapExactETHForTokensSupportingFeeOnTransferTokens (amountOutMin % U256.modulus) path
        recipient (deadline % U256.modulus)
  | .swapExactTokensForETHSupportingFeeOnTransferTokens amountIn amountOutMin path recipient
      deadline =>
      .swapExactTokensForETHSupportingFeeOnTransferTokens (amountIn % U256.modulus)
        (amountOutMin % U256.modulus) path recipient (deadline % U256.modulus)
  | .swapExactTokensForTokensSupportingFeeOnTransferTokens amountIn amountOutMin path recipient
      deadline =>
      .swapExactTokensForTokensSupportingFeeOnTransferTokens (amountIn % U256.modulus)
        (amountOutMin % U256.modulus) path recipient (deadline % U256.modulus)
  | .exactInput path recipient deadline amountIn amountOutMinimum =>
      .exactInput path recipient (deadline % U256.modulus) (amountIn % U256.modulus)
        (amountOutMinimum % U256.modulus)

/-- The length of the list of a call. -/
def listLength : RouterCall → ℕ
  | .swapExactETHForTokensSupportingFeeOnTransferTokens _ path _ _ => path.length
  | .swapExactTokensForETHSupportingFeeOnTransferTokens _ _ path _ _ => path.length
  | .swapExactTokensForTokensSupportingFeeOnTransferTokens _ _ path _ _ => path.length
  | .exactInput path _ _ _ _ => path.length

/-- `abi_encode` of the calls of routers, and what a router and a token read in an input.
Of the calls of tokens, `transferCall` and `approveCall` are the encodings. -/
structure Abi where
  encode : RouterCall → List UInt8
  readRouter : List UInt8 → Option RouterCall
  readToken : List UInt8 → Option (Erc20.Call Address)
  /-- A call whose numbers are words is read as it is. -/
  readRouter_encode : ∀ call, wrapped call = call → listLength call < U256.modulus →
    readRouter (encode call) = some call
  /-- And in no case as another call. -/
  eq_of_readRouter : ∀ call call', wrapped call = call →
    readRouter (encode call) = some call' → call' = call
  readToken_transfer : ∀ dst amount,
    readToken (transferCall dst amount) = some (.transfer dst (amount % U256.modulus))
  readToken_approve : ∀ spender amount,
    readToken (approveCall spender amount) = some (.approve spender (amount % U256.modulus))
  /-- A token has no function of a router. -/
  readToken_encode : ∀ call, readToken (encode call) = none
  /-- And a router has none of those of a token that the services call. -/
  readRouter_transfer : ∀ dst amount, readRouter (transferCall dst amount) = none
  readRouter_approve : ∀ spender amount, readRouter (approveCall spender amount) = none
  /-- A transfer of the native coin calls nothing. -/
  readToken_nil : readToken [] = none
  readRouter_nil : readRouter [] = none

/-! ### Words -/

theorem abiWord_eq_toBytes (n : ℕ) : abiWord n = BigEndian.toBytes 32 n := by
  have hword (width n : ℕ) : (List.range width).map
      (fun i => UInt8.ofNat (n / 256 ^ (width - 1 - i) % 256)) = BigEndian.toBytes width n := by
    induction width generalizing n with
    | zero => rfl
    | succ width ih =>
        rw [List.range_succ, List.map_append, BigEndian.toBytes, ← ih (n / 256)]
        congr 1
        · refine List.map_congr_left fun i hi => ?_
          have hi := List.mem_range.mp hi
          have hexp : width + 1 - 1 - i = width - 1 - i + 1 := by omega
          rw [hexp, pow_succ', Nat.div_div_eq_div_mul]
        · simp [UInt8.ofNat_mod_size']
  exact hword 32 n

@[simp] theorem length_abiWord (n : ℕ) : (abiWord n).length = 32 := by
  rw [abiWord_eq_toBytes, BigEndian.length_toBytes]

theorem abiWord_toNat (a : Address) : abiWord a.toNat = List.replicate 12 0 ++ a.bytes := by
  have hlow : BigEndian.toBytes 20 (BigEndian.ofBytes a.bytes) = a.bytes := by
    conv_lhs => rw [← a.size]
    exact BigEndian.toBytes_ofBytes a.bytes
  have hlt : BigEndian.ofBytes a.bytes < 256 ^ 20 := by
    have h := BigEndian.ofBytes_lt a.bytes
    rwa [a.size] at h
  rw [abiWord_eq_toBytes]
  change BigEndian.toBytes (12 + 20) (BigEndian.ofBytes a.bytes) = _
  rw [BigEndian.toBytes_add, hlow, Nat.div_eq_of_lt hlt, BigEndian.toBytes_zero]

/-- A word holds a number up to its size. -/
theorem ofBytes_abiWord (n : ℕ) : BigEndian.ofBytes (abiWord n) = n % U256.modulus := by
  rw [abiWord_eq_toBytes, BigEndian.ofBytes_toBytes, U256.modulus]
  norm_num

/-- The first word, and what is behind it. -/
def takeWord (input : List UInt8) : Option (ℕ × List UInt8) :=
  if 32 ≤ input.length then some (BigEndian.ofBytes (input.take 32), input.drop 32) else none

/-- The same for a word that holds an address. -/
def takeAddress (input : List UInt8) : Option (Address × List UInt8) :=
  if input.take 12 = List.replicate 12 0 then
    (Address.ofBytes ((input.drop 12).take 20)).map fun a => (a, input.drop 32)
  else none

@[simp] theorem takeWord_append (n : ℕ) (rest : List UInt8) :
    takeWord (abiWord n ++ rest) = some (n % U256.modulus, rest) := by
  rw [takeWord, if_pos (by simp), List.take_left' (length_abiWord n),
    List.drop_left' (length_abiWord n), ofBytes_abiWord]

@[simp] theorem takeAddress_append (a : Address) (rest : List UInt8) :
    takeAddress (abiWord a.toNat ++ rest) = some (a, rest) := by
  have hzeros : (List.replicate 12 (0 : UInt8)).length = 12 := List.length_replicate ..
  have hdrop : (abiWord a.toNat ++ rest).drop 32 = rest := List.drop_left' (length_abiWord _)
  rw [takeAddress, hdrop, abiWord_toNat, List.append_assoc, List.take_left' hzeros, if_pos rfl,
    List.drop_left' hzeros, List.take_left' a.size, Address.ofBytes, dif_pos a.size]
  rfl

/-! ### Lists -/

/-- `address[]`, behind the other arguments. -/
def abiPath (path : List Address) : List UInt8 :=
  abiWord path.length ++ path.flatMap fun a => abiWord a.toNat

/-- What fills the last word of a byte string. -/
def padding (length : ℕ) : ℕ := (32 - length % 32) % 32

/-- `bytes`, behind the other arguments. -/
def abiBytes (bytes : List UInt8) : List UInt8 :=
  abiWord bytes.length ++ (bytes ++ List.replicate (padding bytes.length) 0)

def takeAddresses : ℕ → List UInt8 → Option (List Address)
  | 0, _ => some []
  | n + 1, input =>
      (takeAddress input).bind fun r => (takeAddresses n r.2).map fun path => r.1 :: path

def readPath (input : List UInt8) : Option (List Address) :=
  (takeWord input).bind fun r =>
    if r.2.length = 32 * r.1 then takeAddresses r.1 r.2 else none

def readBytes (input : List UInt8) : Option (List UInt8) :=
  (takeWord input).bind fun r =>
    if r.2.length = r.1 + padding r.1 then some (r.2.take r.1) else none

@[simp] theorem length_words (path : List Address) :
    (path.flatMap fun a => abiWord a.toNat).length = 32 * path.length := by
  induction path with
  | nil => rfl
  | cons a path ih =>
      rw [List.flatMap_cons, List.length_append, ih, length_abiWord, List.length_cons]
      ring

theorem takeAddresses_words (path : List Address) :
    takeAddresses path.length (path.flatMap fun a => abiWord a.toNat) = some path := by
  induction path with
  | nil => rfl
  | cons a path ih =>
      rw [List.length_cons, List.flatMap_cons, takeAddresses, takeAddress_append,
        Option.bind_some, ih, Option.map_some]

/-- A path is read back; one whose length is no word is not read at all. -/
theorem readPath_abiPath (path : List Address) :
    readPath (abiPath path) = if path.length < U256.modulus then some path else none := by
  rw [readPath, abiPath, takeWord_append, Option.bind_some, length_words]
  split
  · rename_i heq
    have hlength : path.length = path.length % U256.modulus :=
      Nat.eq_of_mul_eq_mul_left (by decide) heq
    have hlt : path.length < U256.modulus := by
      rw [hlength]
      exact Nat.mod_lt _ U256.modulus_pos
    rw [if_pos hlt, Nat.mod_eq_of_lt hlt, takeAddresses_words]
  · rename_i hne
    rw [if_neg fun hlt => hne (by rw [Nat.mod_eq_of_lt hlt])]

theorem readBytes_abiBytes (bytes : List UInt8) :
    readBytes (abiBytes bytes) = if bytes.length < U256.modulus then some bytes else none := by
  rw [readBytes, abiBytes, takeWord_append, Option.bind_some, List.length_append,
    List.length_replicate]
  by_cases hlt : bytes.length < U256.modulus
  · rw [if_pos hlt, Nat.mod_eq_of_lt hlt, if_pos rfl, List.take_left' rfl]
  · rw [if_neg hlt, if_neg]
    intro heq
    have hle : bytes.length % U256.modulus + U256.modulus ≤ bytes.length := by
      have hdiv := Nat.div_add_mod bytes.length U256.modulus
      have hpos : 0 < bytes.length / U256.modulus := Nat.div_pos (not_lt.mp hlt) U256.modulus_pos
      have hmul := Nat.le_mul_of_pos_right U256.modulus hpos
      omega
    have hpad : padding (bytes.length % U256.modulus) < 32 := Nat.mod_lt _ (by decide)
    have hmodulus : 32 ≤ U256.modulus := by decide +kernel
    dsimp only at heq
    omega

/-! ### The calls of a token -/

def transferSelector : List UInt8 := [0xa9, 0x05, 0x9c, 0xbb]

def approveSelector : List UInt8 := [0x09, 0x5e, 0xa7, 0xb3]

/-- The call that a token reads in the input of a transaction. -/
def standardReadToken (input : List UInt8) : Option (Erc20.Call Address) := do
  let (account, rest) ← takeAddress (input.drop 4)
  let (amount, rest) ← takeWord rest
  guard (rest = [])
  if input.take 4 = transferSelector then some (.transfer account amount)
  else if input.take 4 = approveSelector then some (.approve account amount)
  else none

/-- The parts of a call with two words. -/
theorem standardReadToken_words {selector : List UInt8} (hselector : selector.length = 4)
    (a : Address) (n : ℕ) :
    standardReadToken (selector ++ abiWord a.toNat ++ abiWord n) =
      if selector = transferSelector then some (.transfer a (n % U256.modulus))
      else if selector = approveSelector then some (.approve a (n % U256.modulus)) else none := by
  have hword : takeWord (abiWord n) = some (n % U256.modulus, []) := by
    simpa using takeWord_append n []
  rw [standardReadToken, List.append_assoc, List.drop_left' hselector, List.take_left' hselector,
    takeAddress_append]
  simp only [Option.bind_eq_bind, Option.bind_some, hword, guard_true, Option.pure_def]

/-- A token knows no other function. -/
theorem standardReadToken_eq_none {input : List UInt8} (htransfer : input.take 4 ≠ transferSelector)
    (happrove : input.take 4 ≠ approveSelector) : standardReadToken input = none := by
  simp [standardReadToken, htransfer, happrove]

/-! ### The calls of a router -/

def swapExactETHSelector : List UInt8 := [0xb6, 0xf9, 0xde, 0x95]

def swapTokensForETHSelector : List UInt8 := [0x79, 0x1a, 0xc9, 0x47]

def swapTokensForTokensSelector : List UInt8 := [0x5c, 0x11, 0xd7, 0x95]

def exactInputSelector : List UInt8 := [0xc0, 0x4b, 0x8d, 0x59]

/-- `abi_encode`. -/
def standardEncode : RouterCall → List UInt8
  | .swapExactETHForTokensSupportingFeeOnTransferTokens amountOutMin path recipient deadline =>
      swapExactETHSelector ++ (abiWord amountOutMin ++ (abiWord 128 ++ (abiWord recipient.toNat ++
        (abiWord deadline ++ abiPath path))))
  | .swapExactTokensForETHSupportingFeeOnTransferTokens amountIn amountOutMin path recipient
      deadline =>
      swapTokensForETHSelector ++ (abiWord amountIn ++ (abiWord amountOutMin ++ (abiWord 160 ++
        (abiWord recipient.toNat ++ (abiWord deadline ++ abiPath path)))))
  | .swapExactTokensForTokensSupportingFeeOnTransferTokens amountIn amountOutMin path recipient
      deadline =>
      swapTokensForTokensSelector ++ (abiWord amountIn ++ (abiWord amountOutMin ++ (abiWord 160 ++
        (abiWord recipient.toNat ++ (abiWord deadline ++ abiPath path)))))
  -- a struct with a list in it stands behind its place, as the list does in the struct
  | .exactInput path recipient deadline amountIn amountOutMinimum =>
      exactInputSelector ++ (abiWord 32 ++ (abiWord 160 ++ (abiWord recipient.toNat ++
        (abiWord deadline ++ (abiWord amountIn ++ (abiWord amountOutMinimum ++ abiBytes path))))))

/-- The arguments of the two functions that sell tokens. -/
def readTokenSwap (input : List UInt8) : Option (ℕ × ℕ × List Address × Address × ℕ) := do
  let (amountIn, input) ← takeWord input
  let (amountOutMin, input) ← takeWord input
  let (offset, input) ← takeWord input
  guard (offset = 160)
  let (recipient, input) ← takeAddress input
  let (deadline, input) ← takeWord input
  let path ← readPath input
  some (amountIn, amountOutMin, path, recipient, deadline)

def readETHSwap (input : List UInt8) : Option RouterCall := do
  let (amountOutMin, input) ← takeWord input
  let (offset, input) ← takeWord input
  guard (offset = 128)
  let (recipient, input) ← takeAddress input
  let (deadline, input) ← takeWord input
  let path ← readPath input
  some (.swapExactETHForTokensSupportingFeeOnTransferTokens amountOutMin path recipient deadline)

def readExactInput (input : List UInt8) : Option RouterCall := do
  let (place, input) ← takeWord input
  guard (place = 32)
  let (offset, input) ← takeWord input
  guard (offset = 160)
  let (recipient, input) ← takeAddress input
  let (deadline, input) ← takeWord input
  let (amountIn, input) ← takeWord input
  let (amountOutMinimum, input) ← takeWord input
  let path ← readBytes input
  some (.exactInput path recipient deadline amountIn amountOutMinimum)

/-- The call that a router reads in the input of a transaction. -/
def standardReadRouter (input : List UInt8) : Option RouterCall :=
  if input.take 4 = swapExactETHSelector then readETHSwap (input.drop 4)
  else if input.take 4 = swapTokensForETHSelector then
    (readTokenSwap (input.drop 4)).map fun (amountIn, amountOutMin, path, recipient, deadline) =>
      .swapExactTokensForETHSupportingFeeOnTransferTokens amountIn amountOutMin path recipient
        deadline
  else if input.take 4 = swapTokensForTokensSelector then
    (readTokenSwap (input.drop 4)).map fun (amountIn, amountOutMin, path, recipient, deadline) =>
      .swapExactTokensForTokensSupportingFeeOnTransferTokens amountIn amountOutMin path recipient
        deadline
  else if input.take 4 = exactInputSelector then readExactInput (input.drop 4)
  else none

theorem bind_guarded {α β : Type*} {p : Prop} [Decidable p] (x : α) (f : α → Option β) :
    (if p then some x else none).bind f = if p then f x else none := by
  split <;> rfl

theorem readTokenSwap_append (amountIn amountOutMin deadline : ℕ) (recipient : Address)
    (path : List Address) :
    readTokenSwap (abiWord amountIn ++ (abiWord amountOutMin ++ (abiWord 160 ++
        (abiWord recipient.toNat ++ (abiWord deadline ++ abiPath path))))) =
      if path.length < U256.modulus then
        some (amountIn % U256.modulus, amountOutMin % U256.modulus, path, recipient,
          deadline % U256.modulus)
      else none := by
  have hoffset : 160 % U256.modulus = 160 := rfl
  simp only [readTokenSwap, takeWord_append, takeAddress_append, readPath_abiPath, hoffset,
    Option.bind_eq_bind, Option.bind_some, guard_true, Option.pure_def, bind_guarded]

/-- What is read in an encoded call is the call. -/
theorem standardReadRouter_encode (call : RouterCall) :
    standardReadRouter (standardEncode call) =
      if listLength call < U256.modulus then some (wrapped call) else none := by
  have hselector (selector rest : List UInt8) (h : selector.length = 4) :
      (selector ++ rest).take 4 = selector ∧ (selector ++ rest).drop 4 = rest :=
    ⟨List.take_left' h, List.drop_left' h⟩
  cases call with
  | swapExactETHForTokensSupportingFeeOnTransferTokens amountOutMin path recipient deadline =>
      obtain ⟨htake, hdrop⟩ := hselector swapExactETHSelector (abiWord amountOutMin ++
        (abiWord 128 ++ (abiWord recipient.toNat ++ (abiWord deadline ++ abiPath path)))) rfl
      have hoffset : 128 % U256.modulus = 128 := rfl
      rw [standardReadRouter, standardEncode, htake, hdrop, if_pos rfl]
      simp only [readETHSwap, takeWord_append, takeAddress_append, readPath_abiPath, hoffset,
        Option.bind_eq_bind, Option.bind_some, guard_true, Option.pure_def, bind_guarded,
        listLength, wrapped]
      rfl
  | swapExactTokensForETHSupportingFeeOnTransferTokens amountIn amountOutMin path recipient
      deadline =>
      obtain ⟨htake, hdrop⟩ := hselector swapTokensForETHSelector (abiWord amountIn ++
        (abiWord amountOutMin ++ (abiWord 160 ++ (abiWord recipient.toNat ++
          (abiWord deadline ++ abiPath path))))) rfl
      rw [standardReadRouter, standardEncode, htake, hdrop, if_neg (by decide), if_pos rfl,
        readTokenSwap_append, listLength, wrapped]
      split <;> rfl
  | swapExactTokensForTokensSupportingFeeOnTransferTokens amountIn amountOutMin path recipient
      deadline =>
      obtain ⟨htake, hdrop⟩ := hselector swapTokensForTokensSelector (abiWord amountIn ++
        (abiWord amountOutMin ++ (abiWord 160 ++ (abiWord recipient.toNat ++
          (abiWord deadline ++ abiPath path))))) rfl
      rw [standardReadRouter, standardEncode, htake, hdrop, if_neg (by decide),
        if_neg (by decide), if_pos rfl, readTokenSwap_append, listLength, wrapped]
      split <;> rfl
  | exactInput path recipient deadline amountIn amountOutMinimum =>
      obtain ⟨htake, hdrop⟩ := hselector exactInputSelector (abiWord 32 ++ (abiWord 160 ++
        (abiWord recipient.toNat ++ (abiWord deadline ++ (abiWord amountIn ++
          (abiWord amountOutMinimum ++ abiBytes path)))))) rfl
      have hplace : 32 % U256.modulus = 32 := rfl
      have hoffset : 160 % U256.modulus = 160 := rfl
      rw [standardReadRouter, standardEncode, htake, hdrop, if_neg (by decide), if_neg (by decide),
        if_neg (by decide), if_pos rfl]
      simp only [readExactInput, takeWord_append, takeAddress_append, readBytes_abiBytes, hplace,
        hoffset, Option.bind_eq_bind, Option.bind_some, guard_true, Option.pure_def, bind_guarded,
        listLength, wrapped]
      rfl

/-- A token knows no function of a router. -/
theorem standardReadToken_encode (call : RouterCall) :
    standardReadToken (standardEncode call) = none := by
  have hselector (selector rest : List UInt8) (h : selector.length = 4) :
      (selector ++ rest).take 4 = selector := List.take_left' h
  cases call <;> rw [standardEncode] <;> refine standardReadToken_eq_none ?_ ?_ <;>
    rw [hselector _ _ rfl] <;> decide

/-- And a router knows no function of a token. -/
theorem standardReadRouter_eq_none {input : List UInt8}
    (h : input.take 4 = transferSelector ∨ input.take 4 = approveSelector ∨ input = []) :
    standardReadRouter input = none := by
  have hother : input.take 4 ≠ swapExactETHSelector ∧ input.take 4 ≠ swapTokensForETHSelector ∧
      input.take 4 ≠ swapTokensForTokensSelector ∧ input.take 4 ≠ exactInputSelector := by
    rcases h with h | h | rfl
    · rw [h]
      decide
    · rw [h]
      decide
    · decide
  rw [standardReadRouter, if_neg hother.1, if_neg hother.2.1, if_neg hother.2.2.1,
    if_neg hother.2.2.2]

/-- The encoder and the readers of the contract interfaces. -/
def Abi.standard : Abi where
  encode := standardEncode
  readRouter := standardReadRouter
  readToken := standardReadToken
  readRouter_encode call hwords hlength := by
    rw [standardReadRouter_encode, if_pos hlength, hwords]
  eq_of_readRouter call call' hwords h := by
    rw [standardReadRouter_encode, hwords] at h
    exact (Option.some.inj (Option.ite_none_right_eq_some.mp h).2).symm
  readToken_transfer := standardReadToken_words rfl
  readToken_approve := standardReadToken_words rfl
  readToken_encode := standardReadToken_encode
  readRouter_transfer _ _ := standardReadRouter_eq_none (.inl rfl)
  readRouter_approve _ _ := standardReadRouter_eq_none (.inr (.inl rfl))
  readToken_nil := rfl
  readRouter_nil := rfl

/-! ### What the engine signs -/

/-- The engine's own calls have numbers that are words. -/
theorem wrapped_buildSwapCalldata {cfg : Settings} {amount expectedOutput : ℕ}
    {route : PoolSwapRoute} {poolType : PoolType} {defaultFeeTier : ℕ} {recipient : Address}
    {chain : String} {slippageBps now : ℕ} {call : RouterCall} (hamount : amount < U256.modulus)
    (h : buildSwapCalldata cfg amount expectedOutput route poolType defaultFeeTier recipient chain
      slippageBps now = some call) : wrapped call = call := by
  simp only [buildSwapCalldata, Option.bind_eq_bind, Option.bind_eq_some_iff,
    Option.ite_none_left_eq_some] at h
  obtain ⟨⟨path, nativeInput, nativeOutput⟩, -, -, -, h⟩ := h
  have hin : amount % U256.modulus = amount := Nat.mod_eq_of_lt hamount
  have hmin (base bps : ℕ) : amountOutMinimum base bps % U256.modulus = amountOutMinimum base bps :=
    Nat.mod_eq_of_lt ((Nat.div_le_self _ _).trans_lt (Nat.mod_lt _ U256.modulus_pos))
  have hdeadline : min (now + 300) (2 ^ 64 - 1) % U256.modulus = min (now + 300) (2 ^ 64 - 1) :=
    Nat.mod_eq_of_lt ((Nat.min_le_right _ _).trans_lt (by decide +kernel))
  cases poolType with
  | v2 =>
      dsimp only at h
      split at h
      · cases h
        rw [wrapped, hmin, hdeadline]
      · split at h <;> cases h <;> rw [wrapped, hin, hmin, hdeadline]
  | v3 =>
      simp only [Option.bind_eq_some_iff, Option.some.injEq] at h
      obtain ⟨fees, -, bytes, -, rfl⟩ := h
      rw [wrapped, hin, hmin, hdeadline]

theorem sellAmount_lt {env : Engine.Environment} {event : DexSwapEvent} {session : SessionInfo}
    {ans : Engine.SwapAnswers} {plan : Engine.SwapPlan}
    (h : Engine.planSwap env event session ans = some plan) : plan.sellAmount < U256.modulus := by
  have hplanned := Engine.planSwap_planned h
  have htotal : plan.total < U256.modulus := by
    rw [hplanned.total_eq]
    exact U256.ofNumeric_lt _
  rw [hplanned.sell_eq]
  exact (Nat.min_le_right _ _).trans_lt ((Nat.sub_le _ _).trans_lt htotal)

/-- What a router is to do, as it reads its arguments. -/
structure Order where
  /-- Nothing where the value of the transaction is sold. -/
  amountIn : Option ℕ
  amountOutMin : ℕ
  tokens : List Address
  /-- Of the hops of V3. -/
  fees : List ℕ
  recipient : Address
  deadline : ℕ

def orderOf : RouterCall → Option Order
  | .swapExactETHForTokensSupportingFeeOnTransferTokens amountOutMin path recipient deadline =>
      some ⟨none, amountOutMin, path, [], recipient, deadline⟩
  | .swapExactTokensForETHSupportingFeeOnTransferTokens amountIn amountOutMin path recipient
      deadline => some ⟨some amountIn, amountOutMin, path, [], recipient, deadline⟩
  | .swapExactTokensForTokensSupportingFeeOnTransferTokens amountIn amountOutMin path recipient
      deadline => some ⟨some amountIn, amountOutMin, path, [], recipient, deadline⟩
  | .exactInput path recipient deadline amountIn amountOutMinimum =>
      (decodePath path).map fun hops =>
        ⟨some amountIn, amountOutMinimum, hops.1, hops.2, recipient, deadline⟩

/-- The order is for the session: its wallet sells what the engine has worked out, within
what is left to sell, over the route of the pool, for no less than the bound of the
quote. -/
structure OrderedFor (env : Engine.Environment) (session : SessionInfo) (ans : SwapAnswers)
    (plan : SwapPlan) (order : Order) : Prop where
  sold : order.amountIn = some plan.sellAmount ∨
    order.amountIn = none ∧ plan.txValue = plan.sellAmount
  left : plan.sellAmount ≤
    U256.ofNumeric session.totalAmount - U256.ofNumeric session.amountSold
  minimum : 0 < order.amountOutMin ∧ ∃ quote,
    getOnChainQuote env session.chain plan.route plan.poolType ans = some quote ∧
    order.amountOutMin = amountOutMinimum (if quote = 0 then plan.sellAmount else quote)
      (sessionSlippageBps env session)
  tokens : order.tokens.map some =
    plan.route.hopTokens.map (resolveToken env.settings session.chain)
  fees : plan.poolType = .v3 →
    routeFeeTiers plan.route plan.pool.feeTier order.tokens.length = some order.fees
  recipient : resolveSessionWalletAddress ans.wallet session.chain = some order.recipient
  deadline : order.deadline = min (ans.now + 300) (2 ^ 64 - 1)

/-- The order of a call that is built. -/
theorem orderOf_buildSwapCalldata {cfg : Settings} {amount expectedOutput : ℕ}
    {route : PoolSwapRoute} {poolType : PoolType} {defaultFeeTier : ℕ} {recipient : Address}
    {chain : String} {slippageBps now : ℕ} {call : RouterCall}
    (h : buildSwapCalldata cfg amount expectedOutput route poolType defaultFeeTier recipient chain
      slippageBps now = some call) :
    ∃ order nativeInput nativeOutput, orderOf call = some order ∧
      Engine.resolveRouteTokensForNative cfg route chain =
        some (order.tokens, nativeInput, nativeOutput) ∧
      order.amountIn = (if poolType = .v2 ∧ nativeInput = true then none else some amount) ∧
      order.amountOutMin = call.amountOutMin ∧
      (poolType = .v3 → routeFeeTiers route defaultFeeTier order.tokens.length = some order.fees) ∧
      order.recipient = recipient ∧ order.deadline = min (now + 300) (2 ^ 64 - 1) := by
  simp only [buildSwapCalldata, Option.bind_eq_bind, Option.bind_eq_some_iff,
    Option.ite_none_left_eq_some] at h
  obtain ⟨⟨path, nativeInput, nativeOutput⟩, hpath, -, -, h⟩ := h
  cases poolType with
  | v2 =>
      have hv3 : PoolType.v2 ≠ .v3 := by decide
      dsimp only at h
      split at h
      · rename_i hin
        cases h
        exact ⟨_, _, _, rfl, hpath, (if_pos ⟨rfl, hin⟩).symm, rfl, fun h => absurd h hv3, rfl, rfl⟩
      · rename_i hin
        split at h <;> cases h <;>
          exact ⟨_, _, _, rfl, hpath, (if_neg fun h => hin h.2).symm, rfl,
            fun h => absurd h hv3, rfl, rfl⟩
  | v3 =>
      have hv2 : PoolType.v3 ≠ .v2 := by decide
      simp only [Option.bind_eq_some_iff, Option.some.injEq] at h
      obtain ⟨fees, hfees, bytes, hbytes, rfl⟩ := h
      have hdecoded := (encodeHops_decodes (encodeUniswapV3Path_eq_some_iff.mp hbytes).2.2).2
      exact ⟨_, _, _, Option.map_eq_some_iff.mpr ⟨_, hdecoded, rfl⟩, hpath,
        (if_neg fun h => hv2 h.1).symm, rfl, fun _ => hfees, rfl, rfl⟩

/-- What a router reads in the calldata of a planned swap is an order for the session, and
a token reads nothing in it. -/
theorem calldata_roundTrip (abi : Abi) {env : Engine.Environment} {event : DexSwapEvent}
    {session : SessionInfo} {ans : SwapAnswers} {plan : SwapPlan}
    (h : planSwap env event session ans = some plan)
    (hlength : listLength plan.calldata < U256.modulus) :
    ∃ order, (abi.readRouter (abi.encode plan.calldata)).bind orderOf = some order ∧
      OrderedFor env session ans plan order ∧ abi.readToken (abi.encode plan.calldata) = none := by
  have hplanned := planSwap_planned h
  obtain ⟨quote, hquote, hcall⟩ := hplanned.calldata_built
  obtain ⟨order, nativeInput, nativeOutput, horder, hpath, hin, hmin, hfees, hrecipient,
    hdeadline⟩ := orderOf_buildSwapCalldata hcall
  obtain ⟨-, hpos, hbound⟩ := Engine.buildSwapCalldata_amountOutMin hcall
  refine ⟨order, ?_, ?_, abi.readToken_encode _⟩
  · rw [abi.readRouter_encode _ (wrapped_buildSwapCalldata (sellAmount_lt h) hcall) hlength,
      Option.bind_some, horder]
  · refine ⟨?_, ?_, ⟨hmin ▸ hpos, quote, hquote, hmin.trans hbound⟩, (map_resolved hpath).1, hfees,
      hrecipient ▸ hplanned.wallet, hdeadline⟩
    · rw [hin, hplanned.value_eq, hpath]
      by_cases hnative : nativeInput = true
      · split
        · exact .inr ⟨rfl, if_pos hnative⟩
        · exact .inl rfl
      · exact .inl (if_neg fun h => hnative h.2)
    · rw [hplanned.sell_eq, hplanned.total_eq, hplanned.sold_eq]
      exact Nat.min_le_right _ _

/-- The swap of the sample session sells 500 over two tokens. -/
theorem calldata_roundTrip_sample : ∃ plan order,
    planSwap Engine.Sample.directEnv (Engine.Sample.event "0xa") (Engine.Sample.session 1)
      Engine.Sample.answers = some plan ∧ plan.sellAmount = 500 ∧
    (Abi.standard.readRouter (Abi.standard.encode plan.calldata)).bind orderOf = some order ∧
    OrderedFor Engine.Sample.directEnv (Engine.Sample.session 1) Engine.Sample.answers plan
      order := by
  have hplan : (planSwap Engine.Sample.directEnv (Engine.Sample.event "0xa")
      (Engine.Sample.session 1) Engine.Sample.answers).any
        (fun plan => plan.sellAmount = 500 ∧ listLength plan.calldata = 2) = true := by
    decide +kernel
  obtain ⟨plan, hplan, hp⟩ := (Option.any_eq_true _ _).mp hplan
  obtain ⟨hsell, hlength⟩ := of_decide_eq_true hp
  have hlt : listLength plan.calldata < U256.modulus := by
    rw [hlength]
    decide +kernel
  obtain ⟨order, hread, hordered, -⟩ := calldata_roundTrip Abi.standard hplan hlt
  exact ⟨plan, order, hplan, hsell, hread, hordered⟩

end Liquifier.Chain
