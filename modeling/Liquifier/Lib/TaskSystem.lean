import Mathlib.Algebra.BigOperators.Group.List.Basic
import Mathlib.Algebra.Order.Monoid.Defs
import Mathlib.Data.List.Induction
import Mathlib.Tactic.Abel

/-!
Tasks that interleave over one shared store.

A task is a local state, and a step of a task reads and writes the store in
one indivisible move; between two steps of a task any other task may move and
new tasks may arrive. Nothing else is assumed of the schedule, so a statement
about every run is a statement about every interleaving of every number of
tasks.

Five rules carry the invariants of such a system. `Run.invariant` is the bare
induction. `Run.assertions` is the proof outline: an assertion for each task,
true where the task stands, kept by its own step and not broken by the steps of
the others. `Run.duty` is the rule of responsibility: what falls due is in the
hands of some task until it is done. `Run.tally_balance` and `Run.tally_le` are the
bookkeeping rules: what the store has booked and what the tasks still hold in
their hands make up what is due, or stay below it. These three look at the one
task that moves and never at the others. `Run.exclusive` is the rule of the lock: what
a task takes only while no other has it, one task at most has.
-/

namespace TaskSystem

variable {σ τ α : Type*}

/-- A shared store and the local states of the tasks. -/
structure Config (σ τ : Type*) where
  store : σ
  tasks : List τ

/-- A new task arrives, or the task at index `i` takes the step `a`. -/
inductive Move (τ α : Type*) where
  | spawn (t : τ)
  | act (i : ℕ) (a : α)

/-- `entry` tells how a task may start; `step a s t` is what the step `a` does
to the store `s` and to the task `t`, and `none` where it is not enabled. -/
structure System (σ τ α : Type*) where
  entry : τ → Bool
  step : α → σ → τ → Option (σ × τ)

namespace System

variable (S : System σ τ α)

def next (c : Config σ τ) : Move τ α → Option (Config σ τ)
  | .spawn t => if S.entry t then some ⟨c.store, c.tasks ++ [t]⟩ else none
  | .act i a =>
      c.tasks[i]?.bind fun t =>
        (S.step a c.store t).map fun r => ⟨r.1, c.tasks.set i r.2⟩

/-- The state after the moves of a list, where all of them are enabled. -/
def run (c : Config σ τ) : List (Move τ α) → Option (Config σ τ)
  | [] => some c
  | m :: ms => (S.next c m).bind fun c' => run c' ms

/-- The states that runs from `c₀` reach when every move satisfies `G` in the
state before it. -/
inductive Run (G : Config σ τ → Move τ α → Prop) (c₀ : Config σ τ) : Config σ τ → Prop where
  | refl : Run G c₀ c₀
  | step {c c' : Config σ τ} {m : Move τ α} :
      Run G c₀ c → G c m → S.next c m = some c' → Run G c₀ c'

/-- The runs on which nothing is asked of the moves. -/
abbrev Reaches (c₀ c : Config σ τ) : Prop := S.Run (fun _ _ => True) c₀ c

/-- The task `t` stands at index `i` and its step `a` leads to the store `s'`
and the local state `t'`. -/
structure Acts (c : Config σ τ) (i : ℕ) (a : α) (t : τ) (s' : σ) (t' : τ) : Prop where
  at_index : c.tasks[i]? = some t
  step : S.step a c.store t = some (s', t')

variable {S}

/-- All that a move can do. -/
theorem next_cases {c c' : Config σ τ} {m : Move τ α} (h : S.next c m = some c') :
    (∃ t, m = .spawn t ∧ S.entry t = true ∧ c' = ⟨c.store, c.tasks ++ [t]⟩) ∨
      ∃ i a t s' t', m = .act i a ∧ S.Acts c i a t s' t' ∧ c' = ⟨s', c.tasks.set i t'⟩ := by
  cases m with
  | spawn t =>
      simp only [next] at h
      split at h
      · exact .inl ⟨t, rfl, ‹_›, (Option.some.inj h).symm⟩
      · cases h
  | act i a =>
      simp only [next, Option.bind_eq_some_iff, Option.map_eq_some_iff] at h
      obtain ⟨t, ht, ⟨s', t'⟩, hstep, rfl⟩ := h
      exact .inr ⟨i, a, t, s', t', rfl, ⟨ht, hstep⟩, rfl⟩

theorem next_act {c : Config σ τ} {i : ℕ} {a : α} {t : τ} {s' : σ} {t' : τ}
    (h : S.Acts c i a t s' t') : S.next c (.act i a) = some ⟨s', c.tasks.set i t'⟩ := by
  simp [next, h.at_index, h.step]

namespace Acts

variable {c : Config σ τ} {i : ℕ} {a : α} {t : τ} {s' : σ} {t' : τ}

theorem mem (h : S.Acts c i a t s' t') : t ∈ c.tasks := List.mem_of_getElem? h.at_index

theorem lt_length (h : S.Acts c i a t s' t') : i < c.tasks.length :=
  (List.getElem?_eq_some_iff.mp h.at_index).1

/-- The task stands where it has moved to. -/
theorem at_index_after (h : S.Acts c i a t s' t') : (c.tasks.set i t')[i]? = some t' :=
  List.getElem?_set_self h.lt_length

theorem mem_after (h : S.Acts c i a t s' t') : t' ∈ c.tasks.set i t' :=
  List.mem_set h.lt_length t'

end Acts

/-- A run given by its list of moves is a run under any guard that the moves
satisfy in every state. -/
theorem Run.of_run_forall {G : Config σ τ → Move τ α → Prop} {c₀ c c' : Config σ τ}
    (h₀ : S.Run G c₀ c) (ms : List (Move τ α)) (hG : ∀ m ∈ ms, ∀ c, G c m)
    (h : S.run c ms = some c') : S.Run G c₀ c' := by
  induction ms generalizing c with
  | nil =>
      cases h
      exact h₀
  | cons m ms ih =>
      simp only [run, Option.bind_eq_some_iff] at h
      obtain ⟨d, hd, h⟩ := h
      have hG' : ∀ m ∈ ms, ∀ c, G c m := fun m hm => hG m (List.mem_cons_of_mem _ hm)
      exact ih (h₀.step (hG m List.mem_cons_self c) hd) hG' h

theorem Run.of_run {c₀ c c' : Config σ τ} (h₀ : S.Reaches c₀ c) (ms : List (Move τ α))
    (h : S.run c ms = some c') : S.Reaches c₀ c' :=
  h₀.of_run_forall ms (fun _ _ _ => trivial) h

theorem Acts.reaches {c : Config σ τ} {i : ℕ} {a : α} {t : τ} {s' : σ} {t' : τ}
    (h : S.Acts c i a t s' t') : S.Reaches c ⟨s', c.tasks.set i t'⟩ :=
  Run.refl.step trivial (next_act h)

theorem reaches_of_run {c₀ c : Config σ τ} {ms : List (Move τ α)}
    (h : S.run c₀ ms = some c) : S.Reaches c₀ c :=
  Run.of_run .refl ms h

variable (S) in
/-- A run found by evaluation. -/
theorem exists_of_run (c₀ : Config σ τ) (ms : List (Move τ α)) (p : Config σ τ → Bool)
    (h : (S.run c₀ ms).any p = true) : ∃ c, S.Reaches c₀ c ∧ p c = true := by
  obtain ⟨c, hc, hp⟩ := (Option.any_eq_true p _).mp h
  exact ⟨c, reaches_of_run hc, hp⟩

theorem run_append (c : Config σ τ) (ms ms' : List (Move τ α)) :
    S.run c (ms ++ ms') = (S.run c ms).bind fun d => S.run d ms' := by
  induction ms generalizing c with
  | nil => rfl
  | cons m ms ih =>
      rw [List.cons_append, run, run, Option.bind_assoc]
      exact Option.bind_congr fun d _ => ih d

theorem length_le_of_next {c c' : Config σ τ} {m : Move τ α} (h : S.next c m = some c') :
    c.tasks.length ≤ c'.tasks.length := by
  rcases next_cases h with ⟨t, rfl, _, rfl⟩ | ⟨i, a, t, s', t', rfl, hacts, rfl⟩
  · rw [List.length_append]
    exact Nat.le_add_right _ _
  · rw [List.length_set]

/-- A task that has moved in a run is there at its end. -/
theorem lt_length_of_mem_run {c₀ c : Config σ τ} {ms : List (Move τ α)}
    (h : S.run c₀ ms = some c) {i : ℕ} {a : α} (hmem : .act i a ∈ ms) : i < c.tasks.length := by
  induction ms using List.reverseRecOn generalizing c with
  | nil => cases hmem
  | append_singleton ms m ih =>
      rw [run_append, Option.bind_eq_some_iff] at h
      obtain ⟨d, hd, hm⟩ := h
      have hm : S.next d m = some c := by simpa [run] using hm
      rcases List.mem_append.mp hmem with hmem | hmem
      · exact Nat.lt_of_lt_of_le (ih hd hmem) (length_le_of_next hm)
      · obtain rfl := List.mem_singleton.mp hmem
        rcases next_cases hm with ⟨t, heq, _⟩ | ⟨j, b, t, s', t', heq, hacts, rfl⟩
        · cases heq
        · cases heq
          rw [List.length_set]
          exact hacts.lt_length

/-- The last step of a task: a local state in which no task begins comes from a step
of the same task, after which the task has not moved. -/
theorem exists_last_act {c₀ c : Config σ τ} {ms : List (Move τ α)} (h : S.run c₀ ms = some c)
    {P : τ → Prop} (h₀ : ∀ t ∈ c₀.tasks, ¬ P t) (hentry : ∀ t, S.entry t = true → ¬ P t)
    {i : ℕ} {t : τ} (ht : c.tasks[i]? = some t) (hP : P t) :
    ∃ pre a post c₁ t₁ s', ms = pre ++ .act i a :: post ∧ S.run c₀ pre = some c₁ ∧
      S.Acts c₁ i a t₁ s' t := by
  induction ms using List.reverseRecOn generalizing c with
  | nil =>
      cases h
      exact absurd hP (h₀ t (List.mem_of_getElem? ht))
  | append_singleton ms m ih =>
      rw [run_append, Option.bind_eq_some_iff] at h
      obtain ⟨d, hd, hm⟩ := h
      have hm : S.next d m = some c := by simpa [run] using hm
      have hearlier (hstays : d.tasks[i]? = some t) :
          ∃ pre a post c₁ t₁ s', ms ++ [m] = pre ++ .act i a :: post ∧
            S.run c₀ pre = some c₁ ∧ S.Acts c₁ i a t₁ s' t := by
        obtain ⟨pre, a, post, c₁, t₁, s', rfl, hpre, hacts⟩ := ih hd hstays
        exact ⟨pre, a, post ++ [m], c₁, t₁, s', by simp, hpre, hacts⟩
      rcases next_cases hm with ⟨u, rfl, hu, rfl⟩ | ⟨j, a, u, s', u', rfl, hacts, rfl⟩
      · rcases Nat.lt_or_ge i d.tasks.length with hlt | hge
        · rw [List.getElem?_append_left hlt] at ht
          exact hearlier ht
        · rw [List.getElem?_append_right hge] at ht
          have hmem := List.mem_of_getElem? ht
          rw [List.mem_singleton] at hmem
          exact absurd (hmem ▸ hP) (hentry u hu)
      · by_cases hij : j = i
        · subst hij
          rw [hacts.at_index_after] at ht
          obtain rfl := Option.some.inj ht
          exact ⟨ms, a, [], d, u, s', rfl, hd, hacts⟩
        · rw [List.getElem?_set_ne hij] at ht
          exact hearlier ht

theorem Run.mono {G H : Config σ τ → Move τ α → Prop} {c₀ c : Config σ τ}
    (h : S.Run G c₀ c) (hGH : ∀ c m, G c m → H c m) : S.Run H c₀ c := by
  induction h with
  | refl => exact .refl
  | step _ hg hn ih => exact ih.step (hGH _ _ hg) hn

theorem Run.trans {G : Config σ τ → Move τ α → Prop} {c₀ c c' : Config σ τ}
    (h : S.Run G c₀ c) (h' : S.Run G c c') : S.Run G c₀ c' := by
  induction h' with
  | refl => exact h
  | step _ hg hn ih => exact ih.step hg hn

theorem Run.reaches {G : Config σ τ → Move τ α → Prop} {c₀ c : Config σ τ}
    (h : S.Run G c₀ c) : S.Reaches c₀ c :=
  h.mono fun _ _ _ => trivial

variable (S) in
/-- Every move of a list satisfies `G` in the state in which it is made. -/
def Keeps (G : Config σ τ → Move τ α → Prop) (c : Config σ τ) : List (Move τ α) → Prop
  | [] => True
  | m :: ms => G c m ∧ ∀ c', S.next c m = some c' → Keeps G c' ms

theorem keeps_append {G : Config σ τ → Move τ α → Prop} {c d : Config σ τ} {ms : List (Move τ α)}
    (h : S.run c ms = some d) (ms' : List (Move τ α)) :
    S.Keeps G c (ms ++ ms') ↔ S.Keeps G c ms ∧ S.Keeps G d ms' := by
  induction ms generalizing c with
  | nil =>
      cases h
      exact (true_and _).symm ▸ Iff.rfl
  | cons m ms ih =>
      obtain ⟨c₁, hc₁, hrun⟩ := Option.bind_eq_some_iff.mp h
      rw [List.cons_append, Keeps, Keeps, and_assoc]
      refine and_congr_right fun _ => ?_
      constructor
      · intro hkeeps
        obtain ⟨hms, hms'⟩ := (ih hrun).mp (hkeeps c₁ hc₁)
        exact ⟨fun c' hc' => Option.some.inj (hc₁.symm.trans hc') ▸ hms, hms'⟩
      · rintro ⟨hms, hms'⟩ c' hc'
        obtain rfl := Option.some.inj (hc₁.symm.trans hc')
        exact (ih hrun).mpr ⟨hms c₁ hc₁, hms'⟩

theorem Keeps.run {G : Config σ τ → Move τ α → Prop} {c₀ c d : Config σ τ} {ms : List (Move τ α)}
    (h : S.Keeps G c ms) (h₀ : S.Run G c₀ c) (hrun : S.run c ms = some d) : S.Run G c₀ d := by
  induction ms generalizing c with
  | nil =>
      cases hrun
      exact h₀
  | cons m ms ih =>
      obtain ⟨c₁, hc₁, hrun⟩ := Option.bind_eq_some_iff.mp hrun
      exact ih (h.2 c₁ hc₁) (h₀.step h.1 hc₁) hrun

/-- Where every task can be brought to an end by a step that leaves the store alone, or
has come to it, all tasks can be brought to their ends. -/
theorem reaches_map {halt : τ → τ}
    (hhalt : ∀ s t, halt t = t ∨ ∃ a, S.step a s t = some (s, halt t)) (c : Config σ τ) :
    S.Reaches c ⟨c.store, c.tasks.map halt⟩ := by
  obtain ⟨s, ts⟩ := c
  -- the tasks before `us` have come to their ends
  suffices h : ∀ us vs, S.Reaches ⟨s, us.map halt ++ vs⟩ ⟨s, (us ++ vs).map halt⟩ from h [] ts
  intro us vs
  induction vs generalizing us with
  | nil =>
      rw [List.append_nil, List.append_nil]
      exact .refl
  | cons v vs ih =>
      have hrest : S.Reaches ⟨s, us.map halt ++ halt v :: vs⟩ ⟨s, (us ++ v :: vs).map halt⟩ := by
        have h := ih (us ++ [v])
        rwa [List.map_append, List.map_singleton, List.append_assoc, List.append_assoc,
          List.singleton_append, List.singleton_append] at h
      rcases hhalt s v with heq | ⟨a, ha⟩
      · rwa [heq] at hrest
      · have hacts : S.Acts ⟨s, us.map halt ++ v :: vs⟩ (us.map halt).length a v s (halt v) :=
          ⟨by simp, ha⟩
        have hmove := next_act hacts
        rw [List.set_append_right _ _ (Nat.le_refl _), Nat.sub_self, List.set_cons_zero] at hmove
        exact (Run.refl.step trivial hmove).trans hrest

/-! ### Guards on the steps of tasks -/

/-- The guard that asks `g` of the task that moves and asks nothing of the tasks
that arrive. -/
def onActs (g : Config σ τ → τ → α → Prop) (c : Config σ τ) : Move τ α → Prop
  | .spawn _ => True
  | .act i a => ∀ t ∈ c.tasks[i]?, g c t a

theorem onActs_acts {g : Config σ τ → τ → α → Prop} {c : Config σ τ} {i : ℕ} {a : α} {t : τ}
    {s' : σ} {t' : τ} (hg : onActs g c (.act i a)) (h : S.Acts c i a t s' t') : g c t a :=
  hg t h.at_index

theorem onActs_mono {g g' : Config σ τ → τ → α → Prop} (hgg' : ∀ c t a, g c t a → g' c t a)
    {c : Config σ τ} {m : Move τ α} (hg : onActs g c m) : onActs g' c m := by
  cases m with
  | spawn t => trivial
  | act i a => exact fun t ht => hgg' c t a (hg t ht)

/-- A move that the guard forbids is the step of a task that it forbids. -/
theorem next_of_not_onActs {g : Config σ τ → τ → α → Prop} {c c' : Config σ τ} {m : Move τ α}
    (hg : ¬ onActs g c m) (h : S.next c m = some c') :
    ∃ i a t s' t', ¬ g c t a ∧ S.Acts c i a t s' t' ∧ c' = ⟨s', c.tasks.set i t'⟩ := by
  rcases next_cases h with ⟨t, rfl, _, rfl⟩ | ⟨i, a, t, s', t', rfl, hacts, rfl⟩
  · exact absurd trivial hg
  · refine ⟨i, a, t, s', t', fun hgt => hg fun u hu => ?_, hacts, rfl⟩
    rw [hacts.at_index] at hu
    rwa [← Option.some.inj hu]

instance (g : Config σ τ → τ → α → Prop) [∀ c t a, Decidable (g c t a)] (c : Config σ τ)
    (m : Move τ α) : Decidable (onActs g c m) :=
  match m with
  | .spawn _ => isTrue trivial
  | .act i a => inferInstanceAs (Decidable (∀ t ∈ c.tasks[i]?, g c t a))

variable (S) in
/-- `run`, where the guard is checked before every move. -/
def runIf (G : Config σ τ → Move τ α → Prop) [∀ c m, Decidable (G c m)] (c : Config σ τ) :
    List (Move τ α) → Option (Config σ τ)
  | [] => some c
  | m :: ms => if G c m then (S.next c m).bind fun c' => runIf G c' ms else none

theorem Run.of_runIf {G : Config σ τ → Move τ α → Prop} [∀ c m, Decidable (G c m)]
    {c₀ c c' : Config σ τ} {ms : List (Move τ α)} (h₀ : S.Run G c₀ c)
    (h : S.runIf G c ms = some c') : S.Run G c₀ c' := by
  induction ms generalizing c with
  | nil =>
      cases h
      exact h₀
  | cons m ms ih =>
      simp only [runIf, Option.ite_none_right_eq_some, Option.bind_eq_some_iff] at h
      obtain ⟨hg, d, hd, h⟩ := h
      exact ih (h₀.step hg hd) h

variable (S) in
/-- A guarded run found by evaluation. -/
theorem exists_of_runIf (G : Config σ τ → Move τ α → Prop) [∀ c m, Decidable (G c m)]
    (c₀ : Config σ τ) (ms : List (Move τ α)) (p : Config σ τ → Bool)
    (h : (S.runIf G c₀ ms).any p = true) : ∃ c, S.Run G c₀ c ∧ p c = true := by
  obtain ⟨c, hc, hp⟩ := (Option.any_eq_true p _).mp h
  exact ⟨c, Run.of_runIf .refl hc, hp⟩

/-- A run keeps to a guard if what holds at its end holds all along the way to it
and brings the guard with it. -/
theorem Run.of_final {G : Config σ τ → Move τ α → Prop} {Q : Config σ τ → Prop}
    {c₀ c : Config σ τ} (h : S.Reaches c₀ c) (hc : Q c)
    (hback : ∀ {c c' m}, S.next c m = some c' → Q c' → Q c ∧ G c m) : S.Run G c₀ c := by
  induction h with
  | refl => exact .refl
  | step _ _ hn ih =>
      obtain ⟨hQ, hG⟩ := hback hn hc
      exact (ih hQ).step hG hn

/-! ### The rules -/

section Rules

variable {G : Config σ τ → Move τ α → Prop} {c₀ c : Config σ τ}

/-- What holds at the start and is kept by every move of the run holds in every
state of the run. -/
theorem Run.invariant {I : Config σ τ → Prop} (h₀ : I c₀)
    (hstep : ∀ {c c' m}, S.Run G c₀ c → I c → G c m → S.next c m = some c' → I c')
    (h : S.Run G c₀ c) : I c := by
  induction h with
  | refl => exact h₀
  | step hr hg hn ih => exact hstep hr ih hg hn

/-- A property of the store alone. -/
theorem Run.store_invariant {I : σ → Prop} (h₀ : I c₀.store)
    (hstep : ∀ {c i a t s' t'}, S.Run G c₀ c → I c.store → G c (.act i a) →
      S.Acts c i a t s' t' → I s')
    (h : S.Run G c₀ c) : I c.store := by
  refine h.invariant (I := fun c => I c.store) h₀ ?_
  intro c c' m hr hI hg hn
  rcases next_cases hn with ⟨t, rfl, _, rfl⟩ | ⟨i, a, t, s', t', rfl, hacts, rfl⟩
  · exact hI
  · exact hstep hr hI hg hacts

/-- The proof outline: `J` is the assertion of a task. It holds where a task
starts, the step of a task gives it at the place it moves to, and no step breaks
it for a task that stays where it is. -/
theorem Run.assertions {J : σ → τ → Prop} (h₀ : ∀ t ∈ c₀.tasks, J c₀.store t)
    (hspawn : ∀ {c t}, S.Run G c₀ c → G c (.spawn t) → S.entry t = true → J c.store t)
    (hstep : ∀ {c i a t s' t'}, S.Run G c₀ c → (∀ u ∈ c.tasks, J c.store u) →
      G c (.act i a) → S.Acts c i a t s' t' → J s' t')
    (hother : ∀ {c i a t s' t'}, S.Run G c₀ c → (∀ u ∈ c.tasks, J c.store u) →
      G c (.act i a) → S.Acts c i a t s' t' → ∀ u ∈ c.tasks, J s' u)
    (h : S.Run G c₀ c) : ∀ t ∈ c.tasks, J c.store t := by
  refine h.invariant (I := fun c => ∀ t ∈ c.tasks, J c.store t) h₀ ?_
  intro c c' m hr hJ hg hn
  rcases next_cases hn with ⟨t, rfl, ht, rfl⟩ | ⟨i, a, t, s', t', rfl, hacts, rfl⟩
  · intro u hu
    rcases List.mem_append.mp hu with hu | hu
    · exact hJ u hu
    · have hJ' : J c.store t := hspawn hr hg ht
      rw [List.mem_singleton.mp hu]
      exact hJ'
  · intro u hu
    rcases List.mem_or_eq_of_mem_set hu with hu | rfl
    · exact hother hr hJ hg hacts u hu
    · exact hstep hr hJ hg hacts

/-- The tasks other than the one that moves stay. -/
theorem mem_set_or_eq {ts : List τ} {i : ℕ} {t u : τ} (ht : ts[i]? = some t) (t' : τ)
    (hu : u ∈ ts) : u ∈ ts.set i t' ∨ u = t := by
  obtain ⟨j, hj, rfl⟩ := List.getElem_of_mem hu
  by_cases hij : i = j
  · subst hij
    exact .inr (Option.some.inj ((List.getElem?_eq_getElem hj).symm.trans ht))
  · refine .inl (List.mem_of_getElem? (i := j) ?_)
    rw [List.getElem?_set_ne hij, List.getElem?_eq_getElem hj]

/-- A duty is in the hands of some task from the step that brings it about until
it is done: it comes to the task that moves, and a task keeps it or does it. -/
theorem Run.duty (Due Done : σ → Prop) (holds : τ → Prop) (h₀ : ¬ Due c₀.store)
    (hdue : ∀ {c i a t s' t'}, S.Run G c₀ c → G c (.act i a) → S.Acts c i a t s' t' →
      Due s' → Due c.store ∨ holds t')
    (hkeep : ∀ {c i a t s' t'}, S.Run G c₀ c → G c (.act i a) → S.Acts c i a t s' t' →
      holds t → holds t' ∨ Done s')
    (hdone : ∀ {c i a t s' t'}, S.Run G c₀ c → G c (.act i a) → S.Acts c i a t s' t' →
      Done c.store → Done s')
    (h : S.Run G c₀ c) (hc : Due c.store) : Done c.store ∨ ∃ t ∈ c.tasks, holds t := by
  refine h.invariant (I := fun c => Due c.store → Done c.store ∨ ∃ t ∈ c.tasks, holds t)
    (fun h => absurd h h₀) ?_ hc
  intro c c' m hr hI hg hn hc'
  rcases next_cases hn with ⟨t, rfl, _, rfl⟩ | ⟨i, a, t, s', t', rfl, hacts, rfl⟩
  · rcases hI hc' with hd | ⟨u, hu, hholds⟩
    · exact .inl hd
    · exact .inr ⟨u, List.mem_append_left _ hu, hholds⟩
  · have hmem : t' ∈ c.tasks.set i t' := hacts.mem_after
    rcases hdue hr hg hacts hc' with hold | hholds
    · rcases hI hold with hd | ⟨u, hu, hholds⟩
      · exact .inl (hdone hr hg hacts hd)
      · rcases mem_set_or_eq hacts.at_index t' hu with hu | rfl
        · exact .inr ⟨u, hu, hholds⟩
        · rcases hkeep hr hg hacts hholds with hholds | hd
          · exact .inr ⟨t', hmem, hholds⟩
          · exact .inl hd
    · exact .inr ⟨t', hmem, hholds⟩

end Rules

/-! ### Sums over the tasks -/

section Tally

variable {M : Type*} [AddCommMonoid M]

/-- What the tasks hold together, `φ` telling what one of them holds. -/
def tally (φ : τ → M) (ts : List τ) : M := (ts.map φ).sum

@[simp] theorem tally_nil (φ : τ → M) : tally φ [] = 0 := rfl

@[simp] theorem tally_append (φ : τ → M) (ts us : List τ) :
    tally φ (ts ++ us) = tally φ ts + tally φ us := by
  simp [tally]

@[simp] theorem tally_cons (φ : τ → M) (t : τ) (ts : List τ) :
    tally φ (t :: ts) = φ t + tally φ ts := by
  simp [tally]

/-- The others hold what they held. -/
theorem tally_set (φ : τ → M) {ts : List τ} {i : ℕ} {t : τ} (h : ts[i]? = some t) (t' : τ) :
    ∃ r, tally φ ts = φ t + r ∧ tally φ (ts.set i t') = φ t' + r := by
  obtain ⟨hi, rfl⟩ := List.getElem?_eq_some_iff.mp h
  refine ⟨tally φ (ts.take i) + tally φ (ts.drop (i + 1)), ?_, ?_⟩
  · conv_lhs => rw [← List.take_append_drop i ts, List.drop_eq_getElem_cons hi]
    simp only [tally_append, tally_cons]
    abel
  · rw [List.set_eq_take_append_cons_drop, if_pos hi]
    simp only [tally_append, tally_cons]
    abel

theorem tally_eq_zero {φ : τ → M} {ts : List τ} (h : ∀ t ∈ ts, φ t = 0) : tally φ ts = 0 := by
  induction ts with
  | nil => rfl
  | cons t ts ih =>
      rw [tally_cons, h t List.mem_cons_self, ih fun u hu => h u (List.mem_cons_of_mem t hu),
        add_zero]

theorem map_tally {N : Type*} [AddCommMonoid N] (g : M →+ N) (φ : τ → M) (ts : List τ) :
    g (tally φ ts) = tally (fun t => g (φ t)) ts := by
  induction ts with
  | nil => exact map_zero g
  | cons t ts ih => rw [tally_cons, tally_cons, map_add, ih]

theorem tally_add (φ ψ : τ → M) (ts : List τ) :
    tally (fun t => φ t + ψ t) ts = tally φ ts + tally ψ ts :=
  List.sum_map_add

/-- A sum of ones is a count. -/
theorem tally_ite (p : τ → Bool) (ts : List τ) :
    tally (fun t => if p t then 1 else 0) ts = ts.countP p := by
  induction ts with
  | nil => rfl
  | cons t ts ih =>
      rw [tally_cons, ih, List.countP_cons]
      exact Nat.add_comm _ _

theorem tally_congr {φ ψ : τ → M} {ts : List τ} (h : ∀ t ∈ ts, φ t = ψ t) :
    tally φ ts = tally ψ ts := by
  simp only [tally, List.map_congr_left h]

variable {G : Config σ τ → Move τ α → Prop} {c₀ c : Config σ τ}

/-- The books balance: what the store has booked and what the tasks hold make up
what is due, if no single step unbalances them. -/
theorem Run.tally_balance {Φ Ψ : σ → M} {φ : τ → M}
    (h₀ : Φ c₀.store + tally φ c₀.tasks = Ψ c₀.store)
    (hspawn : ∀ {c t}, S.Run G c₀ c → G c (.spawn t) → S.entry t = true → φ t = 0)
    (hstep : ∀ {c i a t s' t'}, S.Run G c₀ c → Φ c.store + tally φ c.tasks = Ψ c.store →
      G c (.act i a) → S.Acts c i a t s' t' →
      ∃ d, Φ s' + φ t' = Φ c.store + φ t + d ∧ Ψ s' = Ψ c.store + d)
    (h : S.Run G c₀ c) : Φ c.store + tally φ c.tasks = Ψ c.store := by
  refine h.invariant (I := fun c => Φ c.store + tally φ c.tasks = Ψ c.store) h₀ ?_
  intro c c' m hr hI hg hn
  rcases next_cases hn with ⟨t, rfl, ht, rfl⟩ | ⟨i, a, t, s', t', rfl, hacts, rfl⟩
  · simpa [hspawn hr hg ht] using hI
  · obtain ⟨r, hts, hset⟩ := tally_set φ hacts.at_index t'
    obtain ⟨d, hΦ, hΨ⟩ := hstep hr hI hg hacts
    calc Φ s' + tally φ (c.tasks.set i t') = Φ s' + φ t' + r := by rw [hset, add_assoc]
      _ = Φ c.store + φ t + d + r := by rw [hΦ]
      _ = Φ c.store + tally φ c.tasks + d := by rw [hts]; abel
      _ = Ψ s' := by rw [hI, hΨ]

end Tally

section TallyLe

variable {M : Type*} [AddCommMonoid M] [PartialOrder M] [IsOrderedAddMonoid M]
variable {G : Config σ τ → Move τ α → Prop} {c₀ c : Config σ τ}

/-- The tasks hold at most what is recorded of them, if no single step makes
the difference grow. -/
theorem Run.tally_le {Φ Ψ : σ → M} {φ : τ → M}
    (h₀ : Φ c₀.store + tally φ c₀.tasks ≤ Ψ c₀.store)
    (hspawn : ∀ {c t}, S.Run G c₀ c → G c (.spawn t) → S.entry t = true → φ t = 0)
    (hstep : ∀ {c i a t s' t'}, S.Run G c₀ c → Φ c.store + tally φ c.tasks ≤ Ψ c.store →
      G c (.act i a) → S.Acts c i a t s' t' →
      ∃ d, Φ s' + φ t' ≤ Φ c.store + φ t + d ∧ Ψ c.store + d ≤ Ψ s')
    (h : S.Run G c₀ c) : Φ c.store + tally φ c.tasks ≤ Ψ c.store := by
  refine h.invariant (I := fun c => Φ c.store + tally φ c.tasks ≤ Ψ c.store) h₀ ?_
  intro c c' m hr hI hg hn
  rcases next_cases hn with ⟨t, rfl, ht, rfl⟩ | ⟨i, a, t, s', t', rfl, hacts, rfl⟩
  · simpa [hspawn hr hg ht] using hI
  · obtain ⟨r, hts, hset⟩ := tally_set φ hacts.at_index t'
    obtain ⟨d, hΦ, hΨ⟩ := hstep hr hI hg hacts
    calc Φ s' + tally φ (c.tasks.set i t') = Φ s' + φ t' + r := by rw [hset, add_assoc]
      _ ≤ Φ c.store + φ t + d + r := add_le_add_left hΦ r
      _ = Φ c.store + tally φ c.tasks + d := by rw [hts]; abel
      _ ≤ Ψ c.store + d := add_le_add_left hI d
      _ ≤ Ψ s' := hΨ

end TallyLe

/-! ### Exclusive access -/

section Exclusive

variable {G : Config σ τ → Move τ α → Prop} {c₀ c : Config σ τ} {holds : τ → Bool}

theorem countP_concat_of_not (ts : List τ) {t : τ} (ht : holds t = false) :
    (ts ++ [t]).countP holds = ts.countP holds := by
  rw [List.countP_append, List.countP_singleton, if_neg (by simp [ht]), Nat.add_zero]

/-- When the holder lets go, no task holds. -/
theorem countP_set_of_release {ts : List τ} {i : ℕ} {t t' : τ} (h : ts.countP holds ≤ 1)
    (ht : ts[i]? = some t) (hholds : holds t = true) (hfree : holds t' = false) :
    (ts.set i t').countP holds = 0 := by
  obtain ⟨hi, rfl⟩ := List.getElem?_eq_some_iff.mp ht
  rw [List.countP_set hi, if_pos hholds, if_neg (by simp [hfree])]
  omega

theorem countP_set_le {ts : List τ} {i : ℕ} {t t' : τ} (ht : ts[i]? = some t)
    (hholds : holds t' = true → holds t = true) :
    (ts.set i t').countP holds ≤ ts.countP holds := by
  obtain ⟨hi, rfl⟩ := List.getElem?_eq_some_iff.mp ht
  rw [List.countP_set hi]
  by_cases hcase : holds ts[i] = true
  · have hpos : 0 < ts.countP holds := List.countP_pos_iff.mpr ⟨_, List.getElem_mem hi, hcase⟩
    rw [if_pos hcase]
    split <;> omega
  · rw [if_neg hcase, if_neg fun h => hcase (hholds h)]
    omega

/-- There is no second holder. -/
theorem eq_of_countP_le_one {ts : List τ} (h : ts.countP holds ≤ 1) {t u : τ} (ht : t ∈ ts)
    (hu : u ∈ ts) (hholds : holds t = true) (hholds' : holds u = true) : t = u := by
  rw [List.countP_eq_length_filter] at h
  have ht' : t ∈ ts.filter holds := List.mem_filter.mpr ⟨ht, hholds⟩
  have hu' : u ∈ ts.filter holds := List.mem_filter.mpr ⟨hu, hholds'⟩
  cases hfilter : ts.filter holds with
  | nil =>
      rw [hfilter] at ht'
      cases ht'
  | cons v rest =>
      rw [hfilter, List.length_cons] at h
      have hrest : rest = [] := List.eq_nil_of_length_eq_zero (by omega)
      rw [hfilter, hrest, List.mem_singleton] at ht' hu'
      rw [ht', hu']

/-- What a task takes only while no task holds it, one task at most holds. -/
theorem Run.exclusive (h₀ : c₀.tasks.countP holds ≤ 1)
    (hspawn : ∀ {t}, S.entry t = true → holds t = false)
    (hstep : ∀ {c i a t s' t'}, S.Run G c₀ c → G c (.act i a) → S.Acts c i a t s' t' →
      holds t' = true → holds t = true ∨ ∀ u ∈ c.tasks, holds u = false)
    (h : S.Run G c₀ c) : c.tasks.countP holds ≤ 1 := by
  refine h.invariant (I := fun c => c.tasks.countP holds ≤ 1) h₀ ?_
  intro c c' m hr hI hg hn
  rcases next_cases hn with ⟨t, rfl, ht, rfl⟩ | ⟨i, a, t, s', t', rfl, hacts, rfl⟩
  · rwa [countP_concat_of_not _ (hspawn ht)]
  · by_cases hfree : ∀ u ∈ c.tasks, holds u = false
    · have hnone : c.tasks.countP holds = 0 :=
        List.countP_eq_zero.mpr fun u hu => by simp [hfree u hu]
      obtain ⟨hi, rfl⟩ := List.getElem?_eq_some_iff.mp hacts.at_index
      rw [List.countP_set hi, hnone]
      split <;> split <;> omega
    · have hkeeps (hholds : holds t' = true) : holds t = true :=
        (hstep hr hg hacts hholds).resolve_right hfree
      exact (countP_set_le hacts.at_index hkeeps).trans hI

end Exclusive

end System

end TaskSystem
