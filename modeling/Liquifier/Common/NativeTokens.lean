import Liquifier.Common.Types

/-!
The two names of the native token of a chain.

Requests come in with the placeholder and are answered with it; in between the token is
the wrapped one that the chain is configured with. Both directions trim the text and
ignore its case when they compare. A text that neither direction replaces is left in the
case in which it came.
-/

namespace Liquifier

theorem trim_nativeTokenPlaceholder : trim nativeTokenPlaceholder = nativeTokenPlaceholder := by
  decide +kernel

theorem isNativeTokenPlaceholder_trim (t : String) :
    isNativeTokenPlaceholder (trim t) = isNativeTokenPlaceholder t := by
  rw [isNativeTokenPlaceholder, trim_trim, isNativeTokenPlaceholder]

theorem isNativeTokenPlaceholder_self :
    isNativeTokenPlaceholder nativeTokenPlaceholder = true := by
  rw [isNativeTokenPlaceholder, trim_nativeTokenPlaceholder]
  exact eqIgnoreAsciiCase_refl _

namespace Settings

variable {cfg : Settings} {chain : String} {wrapped t : String}

/-! ### Without a wrapped token -/

section Unwrapped

variable (h : cfg.wrappedNativeTokenForChain chain = none)
include h

theorem normalizeTokenForChain_of_none (t : String) :
    cfg.normalizeTokenForChain chain t = trim t := by
  simp only [normalizeTokenForChain, h, Option.getD_none, ite_self]

theorem displayTokenForChain_of_none (t : String) :
    cfg.displayTokenForChain chain t = trim t := by
  simp only [displayTokenForChain, h]

end Unwrapped

/-! ### With a wrapped token -/

section Wrapped

variable (h : cfg.wrappedNativeTokenForChain chain = some wrapped)
include h

theorem normalizeTokenForChain_of_placeholder (ht : isNativeTokenPlaceholder t = true) :
    cfg.normalizeTokenForChain chain t = wrapped := by
  rw [← isNativeTokenPlaceholder_trim] at ht
  simp only [normalizeTokenForChain, ht, h, if_true, Option.getD_some]

theorem displayTokenForChain_of_wrapped (ht : eqIgnoreAsciiCase (trim t) wrapped = true) :
    cfg.displayTokenForChain chain t = nativeTokenPlaceholder := by
  simp only [displayTokenForChain, h, ht, if_true]

theorem displayTokenForChain_of_not_wrapped (ht : ¬ eqIgnoreAsciiCase (trim t) wrapped = true) :
    cfg.displayTokenForChain chain t = trim t := by
  simp only [displayTokenForChain, h, if_neg ht]

end Wrapped

theorem normalizeTokenForChain_of_not_placeholder (ht : ¬ isNativeTokenPlaceholder t = true) :
    cfg.normalizeTokenForChain chain t = trim t := by
  rw [← isNativeTokenPlaceholder_trim] at ht
  simp only [normalizeTokenForChain, if_neg ht]

/-! ### There and back -/

theorem normalizeTokenForChain_trim (t : String) :
    cfg.normalizeTokenForChain chain (trim t) = cfg.normalizeTokenForChain chain t := by
  simp only [normalizeTokenForChain, trim_trim]

theorem displayTokenForChain_trim (t : String) :
    cfg.displayTokenForChain chain (trim t) = cfg.displayTokenForChain chain t := by
  simp only [displayTokenForChain, trim_trim]

/-- What is displayed is the token that it stands for when it comes in again. -/
theorem normalize_display (cfg : Settings) (chain t : String) :
    eqIgnoreAsciiCase (cfg.normalizeTokenForChain chain (cfg.displayTokenForChain chain t))
      (cfg.normalizeTokenForChain chain t) = true := by
  cases h : cfg.wrappedNativeTokenForChain chain with
  | none =>
      rw [displayTokenForChain_of_none h, normalizeTokenForChain_trim]
      exact eqIgnoreAsciiCase_refl _
  | some wrapped =>
      by_cases ht : eqIgnoreAsciiCase (trim t) wrapped = true
      · rw [displayTokenForChain_of_wrapped h ht,
          normalizeTokenForChain_of_placeholder h isNativeTokenPlaceholder_self]
        by_cases hplaceholder : isNativeTokenPlaceholder t = true
        · rw [normalizeTokenForChain_of_placeholder h hplaceholder]
          exact eqIgnoreAsciiCase_refl _
        · rw [normalizeTokenForChain_of_not_placeholder hplaceholder]
          exact eqIgnoreAsciiCase_symm ht
      · rw [displayTokenForChain_of_not_wrapped h ht, normalizeTokenForChain_trim]
        exact eqIgnoreAsciiCase_refl _

/-- The placeholder in capitals is displayed as it came, unless it is the wrapped token
itself. -/
def DisplaysCapitals (cfg : Settings) (chain t : String) : Prop :=
  isNativeTokenPlaceholder t = true ∧ trim t ≠ nativeTokenPlaceholder ∧
    ∃ wrapped, cfg.wrappedNativeTokenForChain chain = some wrapped ∧
      ¬ eqIgnoreAsciiCase (trim t) wrapped = true

/-- The configured token has no blanks around it. -/
def TrimmedWrapped (cfg : Settings) (chain : String) : Prop :=
  ∀ wrapped ∈ cfg.wrappedNativeTokenForChain chain, trim wrapped = wrapped

section Trimmed

variable (htrimmed : TrimmedWrapped cfg chain)
include htrimmed

theorem normalize_idempotent (t : String) :
    cfg.normalizeTokenForChain chain (cfg.normalizeTokenForChain chain t) =
      cfg.normalizeTokenForChain chain t := by
  by_cases ht : isNativeTokenPlaceholder t = true
  · cases h : cfg.wrappedNativeTokenForChain chain with
    | none => rw [normalizeTokenForChain_of_none h, normalizeTokenForChain_of_none h, trim_trim]
    | some wrapped =>
        rw [normalizeTokenForChain_of_placeholder h ht]
        by_cases hw : isNativeTokenPlaceholder wrapped = true
        · exact normalizeTokenForChain_of_placeholder h hw
        · rw [normalizeTokenForChain_of_not_placeholder hw, htrimmed wrapped h]
  · rw [normalizeTokenForChain_of_not_placeholder ht, normalizeTokenForChain_trim,
      normalizeTokenForChain_of_not_placeholder ht]

/-- In whatever case the placeholder comes in, its token is displayed in small letters. -/
theorem display_normalize_of_placeholder (h : cfg.wrappedNativeTokenForChain chain = some wrapped)
    (ht : isNativeTokenPlaceholder t = true) :
    cfg.displayTokenForChain chain (cfg.normalizeTokenForChain chain t) =
      nativeTokenPlaceholder := by
  rw [normalizeTokenForChain_of_placeholder h ht]
  refine displayTokenForChain_of_wrapped h ?_
  rw [htrimmed wrapped h]
  exact eqIgnoreAsciiCase_refl _

/-- Before and after the token is replaced, the same is displayed but for the case. -/
theorem display_normalize (t : String) :
    eqIgnoreAsciiCase (cfg.displayTokenForChain chain (cfg.normalizeTokenForChain chain t))
        (cfg.displayTokenForChain chain t) = true ∧
      (cfg.displayTokenForChain chain (cfg.normalizeTokenForChain chain t) =
          cfg.displayTokenForChain chain t ↔ ¬ DisplaysCapitals cfg chain t) := by
  by_cases ht : isNativeTokenPlaceholder t = true
  · cases h : cfg.wrappedNativeTokenForChain chain with
    | none =>
        have heq : cfg.displayTokenForChain chain (cfg.normalizeTokenForChain chain t) =
            cfg.displayTokenForChain chain t := by
          rw [normalizeTokenForChain_of_none h, displayTokenForChain_trim]
        refine ⟨?_, iff_of_true heq ?_⟩
        · rw [heq]
          exact eqIgnoreAsciiCase_refl _
        · rintro ⟨_, _, wrapped, hwrapped, _⟩
          rw [h] at hwrapped
          cases hwrapped
    | some wrapped =>
        rw [display_normalize_of_placeholder htrimmed h ht]
        by_cases hw : eqIgnoreAsciiCase (trim t) wrapped = true
        · rw [displayTokenForChain_of_wrapped h hw]
          refine ⟨eqIgnoreAsciiCase_refl _, iff_of_true rfl ?_⟩
          rintro ⟨_, _, wrapped', hwrapped, hne⟩
          rw [h] at hwrapped
          exact hne (Option.some.inj hwrapped ▸ hw)
        · rw [displayTokenForChain_of_not_wrapped h hw]
          have hplaceholder := ht
          rw [isNativeTokenPlaceholder] at ht
          refine ⟨eqIgnoreAsciiCase_symm ht, fun heq hcapitals => hcapitals.2.1 heq.symm,
            fun hcapitals => ?_⟩
          by_contra hne
          exact hcapitals ⟨hplaceholder, Ne.symm hne, wrapped, h, hw⟩
  · rw [normalizeTokenForChain_of_not_placeholder ht, displayTokenForChain_trim]
    exact ⟨eqIgnoreAsciiCase_refl _, iff_of_true rfl fun hcapitals => ht hcapitals.1⟩

end Trimmed

theorem display_idempotent (cfg : Settings) (chain t : String) :
    cfg.displayTokenForChain chain (cfg.displayTokenForChain chain t) =
      cfg.displayTokenForChain chain t := by
  cases h : cfg.wrappedNativeTokenForChain chain with
  | none => rw [displayTokenForChain_of_none h, displayTokenForChain_of_none h, trim_trim]
  | some wrapped =>
      by_cases ht : eqIgnoreAsciiCase (trim t) wrapped = true
      · rw [displayTokenForChain_of_wrapped h ht]
        by_cases hp : eqIgnoreAsciiCase (trim nativeTokenPlaceholder) wrapped = true
        · exact displayTokenForChain_of_wrapped h hp
        · rw [displayTokenForChain_of_not_wrapped h hp, trim_nativeTokenPlaceholder]
      · rw [displayTokenForChain_of_not_wrapped h ht, displayTokenForChain_trim,
          displayTokenForChain_of_not_wrapped h ht]

/-- A displayed token comes back as the same token up to the case of its letters. With a
trimmed wrapped token the converse holds as well, also letter for letter unless the
placeholder is displayed in capitals, and neither direction does more when it is
repeated. -/
theorem native_round_trip (cfg : Settings) (chain t : String) :
    eqIgnoreAsciiCase (cfg.normalizeTokenForChain chain (cfg.displayTokenForChain chain t))
      (cfg.normalizeTokenForChain chain t) = true ∧
    (TrimmedWrapped cfg chain →
      eqIgnoreAsciiCase (cfg.displayTokenForChain chain (cfg.normalizeTokenForChain chain t))
        (cfg.displayTokenForChain chain t) = true ∧
      (cfg.displayTokenForChain chain (cfg.normalizeTokenForChain chain t) =
          cfg.displayTokenForChain chain t ↔ ¬ DisplaysCapitals cfg chain t) ∧
      cfg.normalizeTokenForChain chain (cfg.normalizeTokenForChain chain t) =
        cfg.normalizeTokenForChain chain t ∧
      cfg.displayTokenForChain chain (cfg.displayTokenForChain chain t) =
        cfg.displayTokenForChain chain t) := by
  refine ⟨normalize_display cfg chain t, fun htrimmed => ?_⟩
  obtain ⟨hcase, hexact⟩ := display_normalize htrimmed t
  exact ⟨hcase, hexact, normalize_idempotent htrimmed t, display_idempotent cfg chain t⟩

end Settings

namespace NativeTokens

def wbnb : String := "0xbb4cdB9CBd36B01bD1cBaEBF2De08d9173bc095c"

/-- The placeholder with the capitals of a checksum. -/
def checksummed : String := "0xEeeeeEeeeEeEeeEeEeEeeEEEeeeeEeeeeeeeEEeE"

def settings : Settings where
  chains := [("bsc", {
    enabled := true
    chainId := 56
    rpcUrl := "http://localhost:8545"
    baseTokens := [⟨wbnb, "WBNB"⟩]
    dexFactories := [] })]
  execution := {
    maxPriceImpactBps := 300
    sellToken := wbnb
    sellTokenSymbol := "WBNB"
    sellTokenDecimals := 18
    targetToken := wbnb
    targetTokenSymbol := "WBNB"
    targetTokenDecimals := 18
    sessionChain := "bsc"
    povPercent := 50
    sessionMaxPriceImpact := 1
    buyTriggerOracleAddress := wbnb }

/-- The checksummed placeholder is displayed as it is, and its token as the placeholder. -/
theorem checksummed_displayed :
    (settings.wrappedNativeTokenForChain "bsc" = some wbnb ∧ trim wbnb = wbnb) ∧
      settings.displayTokenForChain "bsc" checksummed = checksummed ∧
      settings.displayTokenForChain "bsc" (settings.normalizeTokenForChain "bsc" checksummed) =
        nativeTokenPlaceholder ∧
      settings.displayTokenForChain "bsc" (settings.normalizeTokenForChain "bsc" checksummed) ≠
        settings.displayTokenForChain "bsc" checksummed := by
  decide +kernel

end NativeTokens

end Liquifier
