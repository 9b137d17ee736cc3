import Liquifier.Engine.Route
import Liquifier.Lib.BigEndian

/-!
The bytes of a V3 path.

A router reads a path from the front: an address, and behind it either the end or
three bytes of fee and another path. What the engine encodes is read back as the
tokens and the fees that went into it.
-/

namespace Liquifier.Engine

/-! ### The router's side -/

/-- The tokens and the fees of a path, as a router takes it apart. -/
def decodePath (bytes : List UInt8) : Option (List Address × List ℕ) :=
  match Address.ofBytes bytes with
  | some token => some ([token], [])
  | none =>
      if bytes.length < 43 then none
      else
        (Address.ofBytes (bytes.take 20)).bind fun token =>
          (decodePath (bytes.drop 23)).map fun path =>
            (token :: path.1, BigEndian.ofBytes ((bytes.drop 20).take 3) :: path.2)
termination_by bytes.length
decreasing_by
  rw [List.length_drop]
  omega

theorem ofBytes_bytes (token : Address) : Address.ofBytes token.bytes = some token :=
  dif_pos token.size

theorem decodePath_token (token : Address) : decodePath token.bytes = some ([token], []) := by
  rw [decodePath, ofBytes_bytes]

theorem feeBytes_eq (fee : ℕ) : feeBytes fee = BigEndian.toBytes 3 fee := by
  simp [feeBytes, BigEndian.toBytes, Nat.div_div_eq_div_mul]

@[simp] theorem length_feeBytes (fee : ℕ) : (feeBytes fee).length = 3 := rfl

theorem decodePath_hop (token : Address) {fee : ℕ} (hfee : fee < 2 ^ 24) {rest : List UInt8}
    (hrest : 20 ≤ rest.length) :
    decodePath (token.bytes ++ feeBytes fee ++ rest) =
      (decodePath rest).map fun path => (token :: path.1, fee :: path.2) := by
  have hfront : (token.bytes ++ feeBytes fee).length = 23 := by
    rw [List.length_append, token.size, length_feeBytes]
  have hlen : (token.bytes ++ feeBytes fee ++ rest).length = 23 + rest.length := by
    rw [List.length_append, hfront]
  have hnone : Address.ofBytes (token.bytes ++ feeBytes fee ++ rest) = none :=
    dif_neg (by omega)
  have htoken : (token.bytes ++ feeBytes fee ++ rest).take 20 = token.bytes := by
    rw [List.append_assoc, List.take_left' token.size]
  have hbytes : ((token.bytes ++ feeBytes fee ++ rest).drop 20).take 3 = feeBytes fee := by
    rw [List.append_assoc, List.drop_left' token.size, List.take_left' (length_feeBytes fee)]
  have hread : BigEndian.ofBytes (feeBytes fee) = fee := by
    rw [feeBytes_eq, BigEndian.ofBytes_toBytes_of_lt hfee]
  rw [decodePath, hnone]
  simp only [hlen, if_neg (show ¬ 23 + rest.length < 43 by omega), htoken, ofBytes_bytes,
    Option.bind_some, List.drop_left' hfront, hbytes, hread]

/-! ### The engine's side -/

variable {tokens : List Address} {fees : List ℕ} {bytes : List UInt8}

theorem encodeHops_hop (token : Address) (fee : ℕ) :
    encodeHops (token :: tokens) (fee :: fees) = some bytes ↔
      fee < 2 ^ 24 ∧ ∃ rest, encodeHops tokens fees = some rest ∧
        token.bytes ++ feeBytes fee ++ rest = bytes := by
  rw [encodeHops, Option.ite_none_left_eq_some, Option.map_eq_some_iff, Nat.not_lt]
  exact and_congr_left fun _ => Nat.lt_succ_iff.symm

theorem exists_encodeHops_iff :
    (∃ bytes, encodeHops tokens fees = some bytes) ↔
      fees.length + 1 = tokens.length ∧ ∀ fee ∈ fees, fee < 2 ^ 24 := by
  induction fees generalizing tokens with
  | nil =>
      match tokens with
      | [] => simp [encodeHops]
      | [token] => simp [encodeHops]
      | _ :: _ :: _ => simp [encodeHops]
  | cons fee fees ih =>
      cases tokens with
      | nil => simp [encodeHops]
      | cons token tokens =>
          have hrest : (∃ bytes, encodeHops (token :: tokens) (fee :: fees) = some bytes) ↔
              fee < 2 ^ 24 ∧ ∃ rest, encodeHops tokens fees = some rest := by
            simp only [encodeHops_hop]
            constructor
            · rintro ⟨_, hfee, rest, h, _⟩
              exact ⟨hfee, rest, h⟩
            · rintro ⟨hfee, rest, h⟩
              exact ⟨_, hfee, rest, h, rfl⟩
          rw [hrest, ih, List.forall_mem_cons, List.length_cons, List.length_cons]
          constructor
          · rintro ⟨hfee, hlen, hfees⟩
            exact ⟨by rw [hlen], hfee, hfees⟩
          · rintro ⟨hlen, hfee, hfees⟩
            exact ⟨hfee, Nat.succ.inj hlen, hfees⟩

/-- By induction on the hops: what a router reads behind the first hop is the rest of
the path. -/
theorem encodeHops_decodes (h : encodeHops tokens fees = some bytes) :
    bytes.length = 23 * fees.length + 20 ∧ decodePath bytes = some (tokens, fees) := by
  induction fees generalizing tokens bytes with
  | nil =>
      match tokens with
      | [] => cases h
      | [token] =>
          cases h
          exact ⟨token.size, decodePath_token token⟩
      | _ :: _ :: _ => cases h
  | cons fee fees ih =>
      cases tokens with
      | nil => cases h
      | cons token tokens =>
          obtain ⟨hfee, rest, hrest, rfl⟩ := (encodeHops_hop token fee).mp h
          obtain ⟨hlen, hdecode⟩ := ih hrest
          constructor
          · rw [List.length_append, List.length_append, token.size, length_feeBytes, hlen,
              List.length_cons]
            omega
          · rw [decodePath_hop token hfee (by omega), hdecode, Option.map_some]

theorem encodeUniswapV3Path_eq_some_iff :
    encodeUniswapV3Path tokens fees = some bytes ↔
      2 ≤ tokens.length ∧ fees.length + 1 = tokens.length ∧ encodeHops tokens fees = some bytes := by
  rw [encodeUniswapV3Path, Option.ite_none_left_eq_some, Option.ite_none_left_eq_some]
  constructor
  · rintro ⟨htwo, hlen, h⟩
    exact ⟨by omega, by omega, h⟩
  · rintro ⟨htwo, hlen, h⟩
    exact ⟨by omega, by omega, h⟩

/-- The path of a list of tokens exists if and only if there is a fee for each hop and
every fee fits its three bytes. A router reads the tokens and the fees back from it,
so different routes have different paths. -/
theorem encodeUniswapV3Path_round_trip (tokens : List Address) (fees : List ℕ) :
    ((encodeUniswapV3Path tokens fees).isSome ↔
      2 ≤ tokens.length ∧ fees.length + 1 = tokens.length ∧ ∀ fee ∈ fees, fee < 2 ^ 24) ∧
    (∀ bytes ∈ encodeUniswapV3Path tokens fees,
      bytes.length = 23 * fees.length + 20 ∧ decodePath bytes = some (tokens, fees)) ∧
    ∀ tokens' fees', ∀ bytes ∈ encodeUniswapV3Path tokens fees,
      bytes ∈ encodeUniswapV3Path tokens' fees' → tokens = tokens' ∧ fees = fees' := by
  have hdecodes : ∀ tokens fees, ∀ bytes ∈ encodeUniswapV3Path tokens fees,
      bytes.length = 23 * fees.length + 20 ∧ decodePath bytes = some (tokens, fees) :=
    fun tokens fees bytes h => encodeHops_decodes (encodeUniswapV3Path_eq_some_iff.mp h).2.2
  refine ⟨?_, hdecodes tokens fees, ?_⟩
  · simp only [Option.isSome_iff_exists, encodeUniswapV3Path_eq_some_iff, exists_and_left,
      exists_encodeHops_iff]
    exact and_congr_right fun _ => and_self_left
  · intro tokens' fees' bytes h h'
    have heq := (hdecodes tokens fees bytes h).2.symm.trans (hdecodes tokens' fees' bytes h').2
    exact Prod.mk.inj (Option.some.inj heq)

end Liquifier.Engine
