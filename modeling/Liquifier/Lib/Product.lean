import Liquifier.Lib.TaskSystem

/-!
Two systems of tasks side by side.

Each task of the product belongs to one of the two systems and steps on that system's own
store. Whatever the guard says of both, what happens on one side alone is a run of that
side, so an invariant of the runs of one system holds beside any other.
-/

namespace TaskSystem

variable {σ τ α ρ υ β : Type*}

namespace System

variable (S : System σ τ α) (T : System ρ υ β)

def product : System (σ × ρ) (τ ⊕ υ) (α ⊕ β) where
  entry := Sum.elim S.entry T.entry
  step
    | .inl a, s, .inl t => (S.step a s.1 t).map fun r => ((r.1, s.2), .inl r.2)
    | .inr a, s, .inr t => (T.step a s.2 t).map fun r => ((s.1, r.1), .inr r.2)
    | _, _, _ => none

end System

/-- What a configuration of the product is on the first side. -/
def Config.left (c : Config (σ × ρ) (τ ⊕ υ)) : Config σ τ :=
  ⟨c.store.1, c.tasks.filterMap Sum.getLeft?⟩

/-- And on the second. -/
def Config.right (c : Config (σ × ρ) (τ ⊕ υ)) : Config ρ υ :=
  ⟨c.store.2, c.tasks.filterMap Sum.getRight?⟩

/-! ### One side of a list -/

section Side

variable {γ δ : Type*} (side : γ → Option δ) {xs : List γ} {i : ℕ} {x x' : γ} {y y' : δ}

/-- The index on one side, and the list there when the element changes. -/
theorem filterMap_set (hat : xs[i]? = some x) (hx : side x = some y) (hx' : side x' = some y') :
    ∃ j, (xs.filterMap side)[j]? = some y ∧
      (xs.set i x').filterMap side = (xs.filterMap side).set j y' := by
  induction xs generalizing i with
  | nil => cases hat
  | cons z xs ih =>
      cases i with
      | zero =>
          obtain rfl : z = x := Option.some.inj hat
          refine ⟨0, ?_, ?_⟩
          · rw [List.filterMap_cons_some hx]
            rfl
          · rw [List.set_cons_zero, List.filterMap_cons_some hx', List.filterMap_cons_some hx]
            rfl
      | succ i =>
          obtain ⟨j, hj, hset⟩ := ih (i := i) hat
          cases hz : side z with
          | none =>
              refine ⟨j, ?_, ?_⟩
              · rw [List.filterMap_cons_none hz]
                exact hj
              · rw [List.set_cons_succ, List.filterMap_cons_none hz, List.filterMap_cons_none hz,
                  hset]
          | some w =>
              refine ⟨j + 1, ?_, ?_⟩
              · rw [List.filterMap_cons_some hz]
                exact hj
              · rw [List.set_cons_succ, List.filterMap_cons_some hz, List.filterMap_cons_some hz,
                  hset]
                rfl

/-- A change on the other side is none on this one. -/
theorem filterMap_set_of_none (hat : xs[i]? = some x) (hx : side x = none)
    (hx' : side x' = none) : (xs.set i x').filterMap side = xs.filterMap side := by
  induction xs generalizing i with
  | nil => cases hat
  | cons z xs ih =>
      cases i with
      | zero =>
          obtain rfl : z = x := Option.some.inj hat
          rw [List.set_cons_zero, List.filterMap_cons_none hx', List.filterMap_cons_none hx]
      | succ i =>
          rw [List.set_cons_succ, List.filterMap_cons, List.filterMap_cons, ih (i := i) hat]

end Side

/-! ### Runs of the product -/

namespace System

variable {S : System σ τ α} {T : System ρ υ β}
  {G : Config (σ × ρ) (τ ⊕ υ) → Move (τ ⊕ υ) (α ⊕ β) → Prop} {c₀ c c' : Config (σ × ρ) (τ ⊕ υ)}

/-- All that a move of the product can do: it is a move of one side, and none of the other. -/
theorem product_next_cases {m : Move (τ ⊕ υ) (α ⊕ β)} (h : (S.product T).next c m = some c') :
    (c'.right = c.right ∧ ((∃ t, m = .spawn (.inl t) ∧ S.next c.left (.spawn t) = some c'.left) ∨
      ∃ i j a, m = .act i (.inl a) ∧ S.next c.left (.act j a) = some c'.left)) ∨
    (c'.left = c.left ∧ ((∃ t, m = .spawn (.inr t) ∧ T.next c.right (.spawn t) = some c'.right) ∨
      ∃ i j a, m = .act i (.inr a) ∧ T.next c.right (.act j a) = some c'.right)) := by
  rcases next_cases h with ⟨t, rfl, hentry, rfl⟩ | ⟨i, a, t, s', t', rfl, hacts, rfl⟩
  · cases t with
    | inl t =>
        have hentry : S.entry t = true := hentry
        refine .inl ⟨?_, .inl ⟨t, rfl, ?_⟩⟩
        · simp [Config.right]
        · simp [next, hentry, Config.left]
    | inr t =>
        have hentry : T.entry t = true := hentry
        refine .inr ⟨?_, .inl ⟨t, rfl, ?_⟩⟩
        · simp [Config.left]
        · simp [next, hentry, Config.right]
  · obtain ⟨hat, hstep⟩ := hacts
    cases a with
    | inl a =>
        cases t with
        | inr t => cases hstep
        | inl t =>
            obtain ⟨⟨s, u⟩, hside, heq⟩ := Option.map_eq_some_iff.mp hstep
            cases heq
            have hleft : Sum.getLeft? (.inl u : τ ⊕ υ) = some u := rfl
            obtain ⟨j, hj, hset⟩ := filterMap_set Sum.getLeft? hat rfl hleft
            have hnone : Sum.getRight? (.inl u : τ ⊕ υ) = none := rfl
            have hright := filterMap_set_of_none Sum.getRight? hat rfl hnone
            refine .inl ⟨by rw [Config.right, hright]; rfl, .inr ⟨i, j, a, rfl, ?_⟩⟩
            change S.next c.left (.act j a) =
              some ⟨s, (c.tasks.set i (.inl u)).filterMap Sum.getLeft?⟩
            rw [hset]
            exact next_act ⟨hj, hside⟩
    | inr a =>
        cases t with
        | inl t => cases hstep
        | inr t =>
            obtain ⟨⟨s, u⟩, hside, heq⟩ := Option.map_eq_some_iff.mp hstep
            cases heq
            have hright : Sum.getRight? (.inr u : τ ⊕ υ) = some u := rfl
            obtain ⟨j, hj, hset⟩ := filterMap_set Sum.getRight? hat rfl hright
            have hnone : Sum.getLeft? (.inr u : τ ⊕ υ) = none := rfl
            have hleft := filterMap_set_of_none Sum.getLeft? hat rfl hnone
            refine .inr ⟨by rw [Config.left, hleft]; rfl, .inr ⟨i, j, a, rfl, ?_⟩⟩
            change T.next c.right (.act j a) =
              some ⟨s, (c.tasks.set i (.inr u)).filterMap Sum.getRight?⟩
            rw [hset]
            exact next_act ⟨hj, hside⟩

/-- A run of the product is a run on the first side. -/
theorem Run.left (h : (S.product T).Run G c₀ c) : S.Reaches c₀.left c.left := by
  induction h with
  | refl => exact .refl
  | step _ _ hn ih =>
      rcases product_next_cases hn with ⟨-, ⟨t, -, hleft⟩ | ⟨i, j, a, -, hleft⟩⟩ | ⟨heq, -⟩
      · exact ih.step trivial hleft
      · exact ih.step trivial hleft
      · rw [heq]
        exact ih

/-- And on the second. -/
theorem Run.right (h : (S.product T).Run G c₀ c) : T.Reaches c₀.right c.right := by
  induction h with
  | refl => exact .refl
  | step _ _ hn ih =>
      rcases product_next_cases hn with ⟨heq, -⟩ | ⟨-, ⟨t, -, hright⟩ | ⟨i, j, a, -, hright⟩⟩
      · rw [heq]
        exact ih
      · exact ih.step trivial hright
      · exact ih.step trivial hright

end System

end TaskSystem
