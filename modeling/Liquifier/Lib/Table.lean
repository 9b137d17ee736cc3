import Mathlib.Algebra.BigOperators.Group.List.Basic
import Mathlib.Algebra.GroupWithZero.Nat
import Mathlib.Data.List.Nodup

/-!
A database table as the list of its rows.

`key` is the primary key. The statements that a program sends to a table are
a look-up by key, an update of the row with a key, an insertion at the end and
an aggregate over the rows that satisfy a condition; the lemmas say how the
look-up and the aggregate read after each of the two writes. `Follows` says what a
write makes of each row, and which rows it adds.
-/

namespace Table

variable {ρ κ : Type*} [DecidableEq κ]

/-- `SELECT … WHERE key = k`. -/
def get (key : ρ → κ) (rows : List ρ) (k : κ) : Option ρ := rows.find? fun r => key r = k

/-- `UPDATE … SET f WHERE key = k`. -/
def update (key : ρ → κ) (rows : List ρ) (k : κ) (f : ρ → ρ) : List ρ :=
  rows.map fun r => if key r = k then f r else r

/-- `SELECT SUM(w) … WHERE p`. -/
def sumWhere (p : ρ → Bool) (w : ρ → ℕ) (rows : List ρ) : ℕ := ((rows.filter p).map w).sum

/-! ### Look-up -/

section Get

variable {key : ρ → κ} {rows : List ρ} {k : κ} {r : ρ}

theorem mem_of_get (h : get key rows k = some r) : r ∈ rows := List.mem_of_find?_eq_some h

theorem key_of_get (h : get key rows k = some r) : key r = k := by
  simpa [get] using List.find?_some h

theorem get_of_mem (hrows : (rows.map key).Nodup) (hr : r ∈ rows) : get key rows (key r) = some r := by
  induction rows with
  | nil => cases hr
  | cons q rows ih =>
      rw [List.map_cons, List.nodup_cons] at hrows
      rcases List.mem_cons.mp hr with rfl | hr
      · simp [get]
      · have hne : key q ≠ key r := fun h => hrows.1 (h ▸ List.mem_map_of_mem hr)
        rw [get, List.find?_cons_of_neg (by simpa using hne)]
        exact ih hrows.2 hr

end Get

/-! ### Update -/

section Update

variable {key : ρ → κ} {f : ρ → ρ}

theorem mem_update {rows : List ρ} {k : κ} {r : ρ} (h : r ∈ update key rows k f) :
    (r ∈ rows ∧ key r ≠ k) ∨ ∃ q ∈ rows, key q = k ∧ r = f q := by
  obtain ⟨q, hq, rfl⟩ := List.mem_map.mp h
  by_cases hk : key q = k
  · exact .inr ⟨q, hq, hk, if_pos hk⟩
  · rw [if_neg hk]
    exact .inl ⟨hq, hk⟩

/-- A column that the update leaves alone. -/
theorem map_update {β : Type*} {g : ρ → β} (hg : ∀ r, g (f r) = g r) (rows : List ρ) (k : κ) :
    (update key rows k f).map g = rows.map g := by
  simp only [update, List.map_map]
  refine List.map_congr_left fun r _ => ?_
  simp only [Function.comp_apply]
  split
  · exact hg r
  · rfl

variable (hf : ∀ r, key (f r) = key r)
include hf

theorem get_update (rows : List ρ) (k l : κ) :
    get key (update key rows k f) l = (get key rows l).map fun r => if l = k then f r else r := by
  induction rows with
  | nil => rfl
  | cons q rows ih =>
      have hq : key (if key q = k then f q else q) = key q := by
        split
        · exact hf q
        · rfl
      rw [update, List.map_cons, ← update]
      by_cases hl : key q = l
      · rw [get, List.find?_cons_of_pos (by simpa [hq] using hl), get,
          List.find?_cons_of_pos (by simpa using hl), Option.map_some, hl]
      · rw [get, List.find?_cons_of_neg (by simpa [hq] using hl), ← get, ih, get, get,
          List.find?_cons_of_neg (by simpa using hl)]

end Update

/-! ### Rows before and after a write -/

/-- The rows after a write: `R` relates a row to what the write makes of it, and
`New` holds of the rows that the write inserts. -/
structure Follows (R : ρ → ρ → Prop) (New : ρ → Prop) (rows rows' : List ρ) : Prop where
  old : ∀ r ∈ rows, ∃ r' ∈ rows', R r r'
  new : ∀ r' ∈ rows', (∃ r ∈ rows, R r r') ∨ New r'

section Follows

variable {R : ρ → ρ → Prop} {New : ρ → Prop} {rows rows' : List ρ} (hrefl : ∀ r, R r r)
include hrefl

theorem Follows.refl : Follows R New rows rows :=
  ⟨fun r hr => ⟨r, hr, hrefl r⟩, fun r hr => .inl ⟨r, hr, hrefl r⟩⟩

theorem Follows.append {r : ρ} (h : New r) : Follows R New rows (rows ++ [r]) := by
  refine ⟨fun q hq => ⟨q, List.mem_append_left _ hq, hrefl q⟩, fun q hq => ?_⟩
  rcases List.mem_append.mp hq with hq | hq
  · exact .inl ⟨q, hq, hrefl q⟩
  · obtain rfl := List.mem_singleton.mp hq
    exact .inr h

theorem Follows.update {key : ρ → κ} {k : κ} {f : ρ → ρ}
    (h : ∀ r ∈ rows, key r = k → R r (f r)) : Follows R New rows (update key rows k f) := by
  constructor
  · intro r hr
    refine ⟨_, List.mem_map_of_mem hr, ?_⟩
    split
    · exact h r hr ‹_›
    · exact hrefl r
  · intro r' hr'
    rcases mem_update hr' with ⟨hr, -⟩ | ⟨r, hr, hk, rfl⟩
    · exact .inl ⟨r', hr, hrefl r'⟩
    · exact .inl ⟨r, hr, h r hr hk⟩

end Follows

/-- What the write makes hold of the old rows and what holds of the new ones. -/
theorem Follows.exists_mem {R : ρ → ρ → Prop} {New P : ρ → Prop} {rows rows' : List ρ}
    (h : Follows R New rows rows') (hP : ∀ r r', R r r' → P r → P r') (hex : ∃ r ∈ rows, P r) :
    ∃ r ∈ rows', P r := by
  obtain ⟨r, hr, hPr⟩ := hex
  obtain ⟨r', hr', hR⟩ := h.old r hr
  exact ⟨r', hr', hP r r' hR hPr⟩

theorem Follows.forall_mem {R : ρ → ρ → Prop} {New P : ρ → Prop} {rows rows' : List ρ}
    (h : Follows R New rows rows') (hP : ∀ r r', R r r' → P r → P r') (hnew : ∀ r, New r → P r)
    (hall : ∀ r ∈ rows, P r) : ∀ r ∈ rows', P r := by
  intro r' hr'
  rcases h.new r' hr' with ⟨r, hr, hR⟩ | hr'
  · exact hP r r' hR (hall r hr)
  · exact hnew r' hr'

/-! ### Aggregates -/

section Sum

variable (p : ρ → Bool) (w : ρ → ℕ)

@[simp] theorem sumWhere_nil : sumWhere p w [] = 0 := rfl

@[simp] theorem sumWhere_append (rows new : List ρ) :
    sumWhere p w (rows ++ new) = sumWhere p w rows + sumWhere p w new := by
  simp [sumWhere]

@[simp] theorem sumWhere_cons (r : ρ) (rows : List ρ) :
    sumWhere p w (r :: rows) = (if p r then w r else 0) + sumWhere p w rows := by
  by_cases h : p r <;> simp [sumWhere, h]

/-- The aggregate reads the columns `g` only. -/
theorem sumWhere_map {β : Type*} (g : ρ → β) (q : β → Bool) (v : β → ℕ) (rows : List ρ) :
    sumWhere (fun r => q (g r)) (fun r => v (g r)) rows = sumWhere q v (rows.map g) := by
  induction rows with
  | nil => rfl
  | cons r rows ih => rw [List.map_cons, sumWhere_cons, sumWhere_cons, ih]

theorem sumWhere_congr {p q : ρ → Bool} {rows : List ρ} (h : ∀ r ∈ rows, p r = q r) :
    sumWhere p w rows = sumWhere q w rows := by
  simp only [sumWhere, List.filter_congr h]

/-- The rows counted by `p` are split by any further condition. -/
theorem sumWhere_split (q : ρ → Bool) (rows : List ρ) :
    sumWhere p w rows =
      sumWhere (fun r => p r && q r) w rows + sumWhere (fun r => p r && !q r) w rows := by
  induction rows with
  | nil => rfl
  | cons r rows ih =>
      simp only [sumWhere_cons, ih]
      cases p r <;> cases q r <;> simp <;> omega

end Sum

end Table
