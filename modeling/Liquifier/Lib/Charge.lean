import Mathlib.Algebra.BigOperators.Group.Finset.Basic
import Mathlib.Algebra.GroupWithZero.Nat
import Mathlib.Algebra.Order.BigOperators.Group.Finset

/-!
Amounts that are charged to sources.

Where each row is charged to a source that can pay for it, and a source is charged for one
key only, rows of different keys together cost no more than the sources have.
-/

namespace Charge

variable {ρ κ σ : Type*} [DecidableEq σ] {rows : List ρ} {key : ρ → κ} {w : ρ → ℕ} {v : σ → ℕ}
  {charged : ρ → σ → Prop}

theorem sum_le_sum_sources (hkeys : (rows.map key).Nodup)
    (hkey : ∀ r r' s, charged r s → charged r' s → key r = key r') {sources : Finset σ}
    (hpaid : ∀ r ∈ rows, ∃ s ∈ sources, charged r s ∧ w r ≤ v s) :
    (rows.map w).sum ≤ ∑ s ∈ sources, v s := by
  induction rows generalizing sources with
  | nil => exact Nat.zero_le _
  | cons r rows ih =>
      rw [List.map_cons, List.nodup_cons] at hkeys
      obtain ⟨s, hs, hcharged, hle⟩ := hpaid r List.mem_cons_self
      -- the other rows are charged to other sources
      have hrest : (rows.map w).sum ≤ ∑ s ∈ sources.erase s, v s := by
        refine ih hkeys.2 fun r' hr' => ?_
        obtain ⟨s', hs', hcharged', hle'⟩ := hpaid r' (List.mem_cons_of_mem _ hr')
        refine ⟨s', Finset.mem_erase.mpr ⟨?_, hs'⟩, hcharged', hle'⟩
        rintro rfl
        have hsame : key r' = key r := hkey r' r s' hcharged' hcharged
        exact hkeys.1 (hsame ▸ List.mem_map_of_mem hr')
      rw [List.map_cons, List.sum_cons, ← Finset.add_sum_erase _ _ hs]
      exact Nat.add_le_add hle hrest

end Charge
