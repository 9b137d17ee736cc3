import Mathlib.Data.Finset.Insert
import Mathlib.Data.Set.Defs
import Mathlib.Logic.Function.Basic

/-!
Messages that come in any order and more than once.

A state takes such messages well if two of them commute and one that comes again changes
nothing; what it becomes is then determined by which messages came. A receiver that
remembers the keys of what it has received and passes over the rest takes them well as
soon as their effects commute, and so do many states side by side.
-/

namespace Redelivery

variable {σ τ α β κ ι : Type*}

/-- The messages of `A` may come in any order and any number of times. -/
structure Tolerates (f : σ → α → σ) (A : Set α) : Prop where
  comm : ∀ a ∈ A, ∀ b ∈ A, ∀ s, f (f s a) b = f (f s b) a
  again : ∀ a ∈ A, ∀ s, f (f s a) a = f s a

/-! ### Runs -/

namespace Tolerates

variable {f : σ → α → σ} {A : Set α} {xs ys : List α} {a : α} (h : Tolerates f A)
include h

theorem foldl_comm (hxs : ∀ b ∈ xs, b ∈ A) (ha : a ∈ A) (s : σ) :
    xs.foldl f (f s a) = f (xs.foldl f s) a := by
  induction xs generalizing s with
  | nil => rfl
  | cons x xs ih =>
      obtain ⟨hx, hxs⟩ := List.forall_mem_cons.mp hxs
      rw [List.foldl_cons, List.foldl_cons, h.comm a ha x hx, ih hxs]

/-- A message that has come changes nothing, however long ago it came. -/
theorem foldl_again (hxs : ∀ b ∈ xs, b ∈ A) (ha : a ∈ xs) (s : σ) :
    f (xs.foldl f s) a = xs.foldl f s := by
  obtain ⟨front, back, rfl⟩ := List.append_of_mem ha
  have hfront : ∀ b ∈ front, b ∈ A := fun b hb => hxs b (List.mem_append_left _ hb)
  have hback : ∀ b ∈ back, b ∈ A := fun b hb =>
    hxs b (List.mem_append_right _ (List.mem_cons_of_mem _ hb))
  rw [List.foldl_append, List.foldl_cons, h.foldl_comm hback (hxs a ha),
    h.again a (hxs a ha)]

theorem foldl_foldl_of_subset (hys : ∀ b ∈ ys, b ∈ A) (hsub : xs ⊆ ys) (s : σ) :
    xs.foldl f (ys.foldl f s) = ys.foldl f s := by
  induction xs with
  | nil => rfl
  | cons x xs ih =>
      obtain ⟨hx, hsub⟩ := List.cons_subset.mp hsub
      rw [List.foldl_cons, h.foldl_again hys hx, ih hsub]

/-- What a state becomes is determined by which messages have come. -/
theorem foldl_eq (hxs : ∀ b ∈ xs, b ∈ A) (hsame : ∀ b, b ∈ xs ↔ b ∈ ys) (s : σ) :
    xs.foldl f s = ys.foldl f s := by
  have hys : ∀ b ∈ ys, b ∈ A := fun b hb => hxs b ((hsame b).mpr hb)
  have hall : ∀ b ∈ xs ++ ys, b ∈ A := List.forall_mem_append.mpr ⟨hxs, hys⟩
  calc xs.foldl f s
      = ys.foldl f (xs.foldl f s) :=
        (h.foldl_foldl_of_subset hxs (fun b hb => (hsame b).mpr hb) s).symm
    _ = (xs ++ ys).foldl f s := List.foldl_append.symm
    _ = (ys ++ xs).foldl f s :=
        List.perm_append_comm.foldl_eq' (fun a ha b hb => h.comm a (hall a ha) b (hall b hb)) s
    _ = xs.foldl f (ys.foldl f s) := List.foldl_append
    _ = ys.foldl f s := h.foldl_foldl_of_subset hys (fun b hb => (hsame b).mp hb) s

end Tolerates

/-! ### A receiver with keys -/

/-- The keys that have come, and a state on which the first message of a key has its
effect. -/
def receive [DecidableEq κ] (g : τ → β → τ) (r : Finset κ × τ) (m : κ × β) : Finset κ × τ :=
  if m.1 ∈ r.1 then r else (insert m.1 r.1, g r.2 m.2)

section Receive

variable [DecidableEq κ] {g : τ → β → τ} {A : Set (κ × β)}

theorem receive_of_mem {r : Finset κ × τ} {m : κ × β} (h : m.1 ∈ r.1) : receive g r m = r :=
  if_pos h

theorem receive_of_notMem {r : Finset κ × τ} {m : κ × β} (h : m.1 ∉ r.1) :
    receive g r m = (insert m.1 r.1, g r.2 m.2) := if_neg h

theorem mem_receive {r : Finset κ × τ} {m : κ × β} {k : κ} :
    k ∈ (receive g r m).1 ↔ k = m.1 ∨ k ∈ r.1 := by
  by_cases h : m.1 ∈ r.1
  · rw [receive_of_mem h]
    exact ⟨.inr, fun hk => hk.elim (fun heq => heq ▸ h) id⟩
  · rw [receive_of_notMem h]
    exact Finset.mem_insert

/-- Messages with one key say the same, and the effects of two messages commute. -/
theorem tolerates_receive (hkey : ∀ a ∈ A, ∀ b ∈ A, a.1 = b.1 → a.2 = b.2)
    (hcomm : ∀ a ∈ A, ∀ b ∈ A, ∀ x, g (g x a.2) b.2 = g (g x b.2) a.2) :
    Tolerates (receive g) A where
  comm := by
    intro a ha b hb r
    by_cases heq : a.1 = b.1
    · rw [Prod.ext heq (hkey a ha b hb heq)]
    by_cases har : a.1 ∈ r.1
    · rw [receive_of_mem har, receive_of_mem (mem_receive.mpr (.inr har))]
    by_cases hbr : b.1 ∈ r.1
    · rw [receive_of_mem hbr, receive_of_mem (mem_receive.mpr (.inr hbr))]
    -- Both are new, and each is still new behind the other.
    have hab : b.1 ∉ (receive g r a).1 := by
      rw [mem_receive]
      exact not_or.mpr ⟨fun h => heq h.symm, hbr⟩
    have hba : a.1 ∉ (receive g r b).1 := by
      rw [mem_receive]
      exact not_or.mpr ⟨heq, har⟩
    rw [receive_of_notMem hab, receive_of_notMem hba, receive_of_notMem har,
      receive_of_notMem hbr, hcomm a ha b hb, Finset.insert_comm]
  again := by
    intro a _ r
    exact receive_of_mem (mem_receive.mpr (.inl rfl))

end Receive

/-! ### States side by side -/

/-- A state that is made of `d` when its first message comes. -/
def create (d : σ) (f : σ → α → σ) (s : Option σ) (a : α) : Option σ := some (f (s.getD d) a)

/-- Each message is for one of the states. -/
def route [DecidableEq ι] (f : σ → α → σ) (s : ι → σ) (m : ι × α) : ι → σ :=
  Function.update s m.1 (f (s m.1) m.2)

namespace Tolerates

variable {f : σ → α → σ}

theorem create {A : Set α} (h : Tolerates f A) (d : σ) : Tolerates (create d f) A where
  comm a ha b hb s := congrArg some (h.comm a ha b hb (s.getD d))
  again a ha s := congrArg some (h.again a ha (s.getD d))

theorem route [DecidableEq ι] {A : Set (ι × α)} (h : ∀ i, Tolerates f {a | (i, a) ∈ A}) :
    Tolerates (route f) A where
  comm := by
    rintro ⟨i, a⟩ ha ⟨j, b⟩ hb s
    by_cases hij : i = j
    · subst hij
      simp only [Redelivery.route, Function.update_self, Function.update_idem]
      rw [(h i).comm a ha b hb]
    · simp only [Redelivery.route, Function.update_of_ne hij, Function.update_of_ne (Ne.symm hij)]
      exact Function.update_comm hij _ _ s
  again := by
    rintro ⟨i, a⟩ ha s
    simp only [Redelivery.route, Function.update_self, Function.update_idem]
    rw [(h i).again a ha]

end Tolerates

end Redelivery
