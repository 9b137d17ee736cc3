import Mathlib.Algebra.BigOperators.Group.List.Basic
import Mathlib.Data.List.Dedup
import Mathlib.Order.Lattice

/-!
The rows of a table by a key.

`rowNumbers` is the window function that numbers the rows of every part in an order, and
`sums` the aggregate of every part. Of a table without its later rows, one row for each
key is left, the least of its part.
-/

namespace Grouping

variable {ρ κ ω M : Type*} [DecidableEq κ]

/-- The rows of a part. -/
def part (key : ρ → κ) (rows : List ρ) (k : κ) : List ρ := rows.filter fun r => key r = k

/-! ### Numbering -/

section Window

variable [LinearOrder ω] (key : ρ → κ) (rank : ρ → ω)

def sorted (rows : List ρ) (k : κ) : List ρ :=
  (part key rows k).mergeSort fun r q => rank r ≤ rank q

/-- `ROW_NUMBER() OVER (PARTITION BY key ORDER BY rank)`. -/
def rowNumbers (rows : List ρ) : List (ρ × ℕ) :=
  (rows.map key).dedup.flatMap fun k => (sorted key rank rows k).zipIdx 1

/-- The row comes first in its part. -/
def IsLeast (rows : List ρ) (r : ρ) : Prop :=
  r ∈ rows ∧ ∀ q ∈ rows, key q = key r → rank r ≤ rank q

variable {key rank} {rows : List ρ} {r q : ρ} {k : κ} {n : ℕ}

theorem mem_part : r ∈ part key rows k ↔ r ∈ rows ∧ key r = k := by simp [part]

theorem mem_sorted : r ∈ sorted key rank rows k ↔ r ∈ rows ∧ key r = k := by
  rw [sorted, List.mem_mergeSort, mem_part]

theorem pairwise_sorted (key : ρ → κ) (rank : ρ → ω) (rows : List ρ) (k : κ) :
    (sorted key rank rows k).Pairwise fun r q => rank r ≤ rank q := by
  have hsorted : (sorted key rank rows k).Pairwise fun r q => decide (rank r ≤ rank q) = true :=
    List.pairwise_mergeSort
      (fun a b c hab hbc => by simpa using (of_decide_eq_true hab).trans (of_decide_eq_true hbc))
      (fun a b => by simpa using le_total (rank a) (rank b)) (part key rows k)
  exact hsorted.imp of_decide_eq_true

theorem mem_rowNumbers : (r, n) ∈ rowNumbers key rank rows ↔
    1 ≤ n ∧ (sorted key rank rows (key r))[n - 1]? = some r := by
  rw [rowNumbers, List.mem_flatMap]
  constructor
  · rintro ⟨k, -, hmem⟩
    obtain ⟨hle, hget⟩ := List.mk_mem_zipIdx_iff_le_and_getElem?_sub.mp hmem
    have hkey : key r = k := (mem_sorted.mp (List.mem_of_getElem? hget)).2
    exact ⟨hle, hkey ▸ hget⟩
  · rintro ⟨hle, hget⟩
    refine ⟨key r, ?_, List.mk_mem_zipIdx_iff_le_and_getElem?_sub.mpr ⟨hle, hget⟩⟩
    exact List.mem_dedup.mpr
      (List.mem_map_of_mem (mem_sorted.mp (List.mem_of_getElem? hget)).1)

/-- Every row has a number. -/
theorem exists_rowNumber (hr : r ∈ rows) : ∃ n, (r, n) ∈ rowNumbers key rank rows := by
  have hmem : r ∈ sorted key rank rows (key r) := mem_sorted.mpr ⟨hr, rfl⟩
  obtain ⟨i, hi⟩ := List.mem_iff_getElem?.mp hmem
  exact ⟨i + 1, mem_rowNumbers.mpr ⟨Nat.le_add_left 1 i, hi⟩⟩

theorem isLeast_of_head (h : (sorted key rank rows k)[0]? = some r) :
    IsLeast key rank rows r ∧ key r = k := by
  obtain ⟨hr, hkey⟩ := mem_sorted.mp (List.mem_of_getElem? h)
  refine ⟨⟨hr, fun q hq hqr => ?_⟩, hkey⟩
  have hpairwise := pairwise_sorted key rank rows k
  have hmem : q ∈ sorted key rank rows k := mem_sorted.mpr ⟨hq, hqr.trans hkey⟩
  cases hsorted : sorted key rank rows k with
  | nil =>
      rw [hsorted] at h
      cases h
  | cons p rest =>
      rw [hsorted] at h hpairwise hmem
      obtain rfl : p = r := Option.some.inj h
      rcases List.mem_cons.mp hmem with rfl | hmem
      · exact le_rfl
      · exact List.rel_of_pairwise_cons hpairwise hmem

/-- Every part has a row that comes first. -/
theorem exists_isLeast (hr : r ∈ rows) : ∃ q, IsLeast key rank rows q ∧ key q = key r := by
  have hmem : r ∈ sorted key rank rows (key r) := mem_sorted.mpr ⟨hr, rfl⟩
  cases hsorted : sorted key rank rows (key r) with
  | nil =>
      rw [hsorted] at hmem
      exact absurd hmem List.not_mem_nil
  | cons q rest =>
      have hhead : (sorted key rank rows (key r))[0]? = some q := by
        rw [hsorted]
        rfl
      exact ⟨q, isLeast_of_head hhead⟩

/-- Where no two rows rank the same, the row with the first number is the one that comes
first. -/
theorem rowNumber_eq_one_iff (hrank : ∀ r ∈ rows, ∀ q ∈ rows, rank r = rank q → r = q)
    (hnodup : rows.Nodup) (h : (r, n) ∈ rowNumbers key rank rows) :
    n = 1 ↔ IsLeast key rank rows r := by
  obtain ⟨hle, hget⟩ := mem_rowNumbers.mp h
  constructor
  · rintro rfl
    exact (isLeast_of_head hget).1
  · intro hleast
    have hpos : 0 < (sorted key rank rows (key r)).length :=
      List.length_pos_of_mem (List.mem_of_getElem? hget)
    obtain ⟨q, hq⟩ : ∃ q, (sorted key rank rows (key r))[0]? = some q :=
      ⟨_, List.getElem?_eq_getElem hpos⟩
    obtain ⟨⟨hmem, hfirst⟩, hkey⟩ := isLeast_of_head hq
    have heq : q = r := hrank q hmem r hleast.1
      (le_antisymm (hfirst r hleast.1 hkey.symm) (hleast.2 q hmem hkey))
    have hsorted : (sorted key rank rows (key r)).Nodup :=
      (List.mergeSort_perm _ _).nodup_iff.mpr (hnodup.filter _)
    have hindex : 0 = n - 1 :=
      (List.getElem?_inj hpos hsorted).mp (hq.trans (heq ▸ hget.symm))
    omega

variable {ι : Type*} [DecidableEq ι] (key rank)

/-- `DELETE … USING ranked WHERE id = ranked.id AND ranked.rn > 1`. -/
def withoutLater (id : ρ → ι) (rows : List ρ) : List ρ :=
  rows.filter fun r => ¬ ∃ p ∈ rowNumbers key rank rows, id r = id p.1 ∧ 1 < p.2

variable {key rank} {id : ρ → ι}

/-- The rows that come first in their parts are left. -/
theorem mem_withoutLater (hid : (rows.map id).Nodup)
    (hrank : ∀ r ∈ rows, ∀ q ∈ rows, rank r = rank q → id r = id q) :
    r ∈ withoutLater key rank id rows ↔ IsLeast key rank rows r := by
  have hinj : ∀ r ∈ rows, ∀ q ∈ rows, id r = id q → r = q := fun r hr q hq h =>
    List.inj_on_of_nodup_map hid hr hq h
  have hone : ∀ r n, (r, n) ∈ rowNumbers key rank rows → (n = 1 ↔ IsLeast key rank rows r) :=
    fun r n => rowNumber_eq_one_iff
      (fun r hr q hq h => hinj r hr q hq (hrank r hr q hq h)) hid.of_map
  have hmem : ∀ r n, (r, n) ∈ rowNumbers key rank rows → r ∈ rows := fun r n h =>
    (mem_sorted.mp (List.mem_of_getElem? (mem_rowNumbers.mp h).2)).1
  rw [withoutLater, List.mem_filter, decide_eq_true_eq]
  constructor
  · rintro ⟨hr, hfirst⟩
    obtain ⟨n, hn⟩ : ∃ n, (r, n) ∈ rowNumbers key rank rows := exists_rowNumber hr
    refine (hone r n hn).mp ?_
    have hle := (mem_rowNumbers.mp hn).1
    by_contra hne
    exact hfirst ⟨(r, n), hn, rfl, by dsimp only; omega⟩
  · intro hleast
    refine ⟨hleast.1, ?_⟩
    rintro ⟨⟨q, n⟩, hq, heq, hlt⟩
    obtain rfl := hinj r hleast.1 q (hmem q n hq) heq
    have hone := (hone r n hq).mpr hleast
    dsimp only at hlt
    omega

/-- No two of them have one key. -/
theorem nodup_withoutLater (hid : (rows.map id).Nodup)
    (hrank : ∀ r ∈ rows, ∀ q ∈ rows, rank r = rank q → id r = id q) :
    ((withoutLater key rank id rows).map key).Nodup := by
  have hnodup : (withoutLater key rank id rows).Nodup := hid.of_map.filter _
  refine hnodup.map_on fun r hr q hq hkey => ?_
  obtain ⟨hr, hfirst⟩ := (mem_withoutLater hid hrank).mp hr
  obtain ⟨hq, hfirst'⟩ := (mem_withoutLater hid hrank).mp hq
  have heq := le_antisymm (hfirst q hq hkey.symm) (hfirst' r hr hkey)
  exact List.inj_on_of_nodup_map hid hr hq (hrank r hr q hq heq)

end Window

/-! ### Sums -/

section Sums

variable [AddCommMonoid M] (key : ρ → κ) (w : ρ → M)

def total (rows : List ρ) (k : κ) : M := ((part key rows k).map w).sum

/-- `SELECT key, SUM(w) … GROUP BY key`. -/
def sums (rows : List ρ) : List (κ × M) :=
  (rows.map key).dedup.map fun k => (k, total key w rows k)

variable {key w} {rows : List ρ} {k : κ}

/-- A key without rows has no sum. -/
theorem lookup_sums (rows : List ρ) (k : κ) :
    (sums key w rows).lookup k = if k ∈ rows.map key then some (total key w rows k) else none := by
  rw [sums]
  split
  · rename_i hk
    exact List.lookup_graph _ (List.mem_dedup.mpr hk)
  · rename_i hk
    rw [List.lookup_eq_none_iff]
    rintro ⟨k', t⟩ hmem
    obtain ⟨k', hk', heq⟩ := List.mem_map.mp hmem
    obtain ⟨rfl, rfl⟩ := Prod.mk.inj heq
    exact bne_iff_ne.mpr fun hne => hk (hne ▸ List.mem_dedup.mp hk')

theorem total_of_not_mem (h : k ∉ rows.map key) : total key w rows k = 0 := by
  have hnil : part key rows k = [] := by
    refine List.filter_eq_nil_iff.mpr fun r hr hkey => h ?_
    rw [← of_decide_eq_true hkey]
    exact List.mem_map_of_mem hr
  rw [total, hnil, List.map_nil, List.sum_nil]

end Sums

end Grouping
