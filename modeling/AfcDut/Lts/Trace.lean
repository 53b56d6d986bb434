import Mathlib.Data.List.Basic
import Mathlib.Tactic.Common

/-!
# Runs of a deterministic system with outputs

A step function from a state and an event to the next state and an output,
`none` where the event is not enabled. A run is given by its events; its moves
record what happened. The rules below carry an invariant along a run whose
moves all meet a guard.
-/

namespace AfcDut.Lts

variable {σ ε ω ι : Type}

abbrev StepFn (σ ε ω : Type) := σ → ε → Option (σ × ω)

/-- One observed step. -/
structure Move (σ ε ω : Type) where
  before : σ
  event : ε
  output : ω
  after : σ

/-- The move is a step of the system. -/
def Move.Of (step : StepFn σ ε ω) (m : Move σ ε ω) : Prop :=
  step m.before m.event = some (m.after, m.output)

/-- The moves of the run on a list of events; an event that is not enabled
does nothing. -/
def moves (step : StepFn σ ε ω) : σ → List ε → List (Move σ ε ω)
  | _, [] => []
  | s, e :: es =>
      match step s e with
      | none => moves step s es
      | some (t, o) => ⟨s, e, o, t⟩ :: moves step t es

/-- The state the run ends in. -/
def final (step : StepFn σ ε ω) : σ → List ε → σ
  | s, [] => s
  | s, e :: es =>
      match step s e with
      | none => final step s es
      | some (t, _) => final step t es

/-- The states some run from `s` reaches. -/
def Reachable (step : StepFn σ ε ω) (s t : σ) : Prop := ∃ es, final step s es = t

variable {step : StepFn σ ε ω}

theorem final_append (s : σ) (es fs : List ε) :
    final step s (es ++ fs) = final step (final step s es) fs := by
  induction es generalizing s with
  | nil => rfl
  | cons e es ih =>
      cases hs : step s e with
      | none => simp only [List.cons_append, final, hs, ih]
      | some r => simp only [List.cons_append, final, hs, ih]

/-- **Guarded invariant.** What holds at the start and is preserved by every
move that meets the guard holds before and after every move of a run whose
moves all meet it. -/
theorem moves_invariant {I : σ → Prop} {G : Move σ ε ω → Prop}
    (preserved : ∀ m : Move σ ε ω, m.Of step → G m → I m.before → I m.after)
    {s : σ} {es : List ε} (init : I s) (guarded : ∀ m ∈ moves step s es, G m) :
    ∀ m ∈ moves step s es, m.Of step ∧ I m.before ∧ I m.after := by
  induction es generalizing s with
  | nil => intro m hm; exact absurd hm List.not_mem_nil
  | cons e es ih =>
      intro m hm
      cases hs : step s e with
      | none =>
          simp only [moves, hs] at guarded hm
          exact ih init guarded m hm
      | some r =>
          simp only [moves, hs] at guarded hm
          have hafter : I r.1 :=
            preserved ⟨s, e, r.2, r.1⟩ hs (guarded _ List.mem_cons_self) init
          rcases List.mem_cons.mp hm with rfl | hm
          · exact ⟨hs, init, hafter⟩
          · exact ih hafter (fun m hm => guarded m (List.mem_cons_of_mem _ hm)) m hm

/-- Every move of a run is a step. -/
theorem moves_of {s : σ} {es : List ε} : ∀ m ∈ moves step s es, m.Of step := by
  intro m hm
  exact (moves_invariant (I := fun _ => True) (G := fun _ => True)
    (fun _ _ _ _ => trivial) trivial (fun _ _ => trivial) m hm).1

/-- The events of the moves are events of the run. -/
theorem event_mem_of_moves {s : σ} {es : List ε} : ∀ m ∈ moves step s es, m.event ∈ es := by
  induction es generalizing s with
  | nil => intro m hm; exact absurd hm List.not_mem_nil
  | cons e es ih =>
      intro m hm
      cases hs : step s e with
      | none =>
          simp only [moves, hs] at hm
          exact List.mem_cons_of_mem _ (ih m hm)
      | some r =>
          simp only [moves, hs] at hm
          rcases List.mem_cons.mp hm with rfl | hm
          · exact List.mem_cons_self
          · exact List.mem_cons_of_mem _ (ih m hm)

/-- What the guarded moves of a run preserve holds where it ends. -/
theorem final_invariant {I : σ → Prop} {G : Move σ ε ω → Prop}
    (preserved : ∀ m : Move σ ε ω, m.Of step → G m → I m.before → I m.after)
    {s : σ} {es : List ε} (init : I s) (guarded : ∀ m ∈ moves step s es, G m) :
    I (final step s es) := by
  induction es generalizing s with
  | nil => exact init
  | cons e es ih =>
      cases hs : step s e with
      | none =>
          simp only [moves, hs] at guarded
          simp only [final, hs]
          exact ih init guarded
      | some r =>
          simp only [moves, hs] at guarded
          simp only [final, hs]
          have hafter : I r.1 :=
            preserved ⟨s, e, r.2, r.1⟩ hs (guarded _ List.mem_cons_self) init
          exact ih hafter fun m hm => guarded m (List.mem_cons_of_mem _ hm)

/-- An invariant of every step holds in every reachable state. -/
theorem Reachable.invariant {I : σ → Prop} {s t : σ} (h : Reachable step s t) (init : I s)
    (preserved : ∀ m : Move σ ε ω, m.Of step → I m.before → I m.after) : I t := by
  obtain ⟨es, rfl⟩ := h
  exact final_invariant (G := fun _ => True) (fun m hm _ => preserved m hm) init fun _ _ => trivial

theorem Reachable.refl (s : σ) : Reachable step s s := ⟨[], rfl⟩

/-! ## Accounts of a run -/

/-- **Balance of a run.** Where every step balances what comes in against what
goes out and what is in stock, so does a run. -/
theorem moves_perm {α : Type} (stock : σ → List α) {gain loss : Move σ ε ω → List α}
    (balance : ∀ m : Move σ ε ω, m.Of step →
      (stock m.before ++ gain m).Perm (loss m ++ stock m.after)) (s : σ) (es : List ε) :
    (stock s ++ (moves step s es).flatMap gain).Perm
      ((moves step s es).flatMap loss ++ stock (final step s es)) := by
  induction es generalizing s with
  | nil => simp [moves, final]
  | cons e es ih =>
      cases hs : step s e with
      | none => simpa only [moves, final, hs] using ih s
      | some r =>
          simp only [moves, final, hs, List.flatMap_cons]
          have hstep := balance ⟨s, e, r.2, r.1⟩ hs
          rw [← List.append_assoc, List.append_assoc (loss _)]
          refine (hstep.append_right _).trans ?_
          rw [List.append_assoc]
          exact (ih r.1).append_left _

/-- **First in, first out.** Where every step takes from the front of what is in
stock and adds at its end, so does a run. -/
theorem moves_fifo {α : Type} {G : Move σ ε ω → Prop} (stock : σ → List α)
    (gain loss : Move σ ε ω → List α)
    (balance : ∀ m : Move σ ε ω, m.Of step → G m →
      stock m.before ++ gain m = loss m ++ stock m.after)
    {s : σ} {es : List ε} (guarded : ∀ m ∈ moves step s es, G m) :
    stock s ++ (moves step s es).flatMap gain =
      (moves step s es).flatMap loss ++ stock (final step s es) := by
  induction es generalizing s with
  | nil => simp [moves, final]
  | cons e es ih =>
      cases hs : step s e with
      | none =>
          simp only [moves, final, hs] at guarded ⊢
          exact ih guarded
      | some r =>
          simp only [moves, final, hs, List.flatMap_cons, List.forall_mem_cons] at guarded ⊢
          have hstep := balance ⟨s, e, r.2, r.1⟩ hs guarded.1
          rw [← List.append_assoc, hstep, List.append_assoc, ih guarded.2, List.append_assoc]

/-- **Countdown.** Where every step keeps a rank down and each tick lowers it,
a run with enough ticks brings it to nothing. -/
theorem moves_countdown {I : σ → Prop} {G : Move σ ε ω → Prop} (rank : σ → Nat)
    {tick : Move σ ε ω → Bool}
    (preserved : ∀ m : Move σ ε ω, m.Of step → G m → I m.before → I m.after)
    (lowers : ∀ m : Move σ ε ω, m.Of step → G m → I m.before →
      rank m.after ≤ rank m.before - (tick m).toNat)
    {s : σ} {es : List ε} (init : I s) (guarded : ∀ m ∈ moves step s es, G m) :
    rank (final step s es) ≤ rank s - (moves step s es).countP tick := by
  induction es generalizing s with
  | nil => simp [moves, final]
  | cons e es ih =>
      cases hs : step s e with
      | none =>
          simp only [moves, hs] at guarded
          simpa only [moves, final, hs] using ih init guarded
      | some r =>
          simp only [moves, hs, List.forall_mem_cons] at guarded
          have hstep := lowers ⟨s, e, r.2, r.1⟩ hs guarded.1 init
          have hrest : rank (final step r.1 es) ≤ rank r.1 - (moves step r.1 es).countP tick :=
            ih (preserved ⟨s, e, r.2, r.1⟩ hs guarded.1 init) guarded.2
          simp only [moves, final, hs]
          rw [List.countP_cons]
          simp only at hstep
          cases ht : tick ⟨s, e, r.2, r.1⟩ with
          | false =>
              simp only [ht, Bool.toNat_false, Bool.false_eq_true, if_false] at hstep ⊢
              omega
          | true =>
              simp only [ht, Bool.toNat_true, if_true] at hstep ⊢
              omega

/-- Where every step pays for what it does out of what it earns and a purse, so
does a run. -/
theorem moves_countP_le {I : σ → Prop} {G : Move σ ε ω → Prop} (purse : σ → Nat)
    {pays earns : Move σ ε ω → Bool}
    (preserved : ∀ m : Move σ ε ω, m.Of step → G m → I m.before → I m.after)
    (balance : ∀ m : Move σ ε ω, m.Of step → G m → I m.before →
      (pays m).toNat + purse m.after ≤ (earns m).toNat + purse m.before)
    {s : σ} {es : List ε} (init : I s) (guarded : ∀ m ∈ moves step s es, G m) :
    (moves step s es).countP pays + purse (final step s es) ≤
      (moves step s es).countP earns + purse s := by
  induction es generalizing s with
  | nil => simp [moves, final]
  | cons e es ih =>
      cases hs : step s e with
      | none =>
          simp only [moves, hs] at guarded
          simpa only [moves, final, hs] using ih init guarded
      | some r =>
          simp only [moves, hs, List.forall_mem_cons] at guarded
          have hstep := balance ⟨s, e, r.2, r.1⟩ hs guarded.1 init
          have hrest := ih (s := r.1) (preserved ⟨s, e, r.2, r.1⟩ hs guarded.1 init) guarded.2
          simp only [moves, final, hs]
          rw [List.countP_cons, List.countP_cons]
          simp only at hstep
          cases hp : pays ⟨s, e, r.2, r.1⟩ <;> cases hq : earns ⟨s, e, r.2, r.1⟩ <;>
            simp only [hp, hq, Bool.toNat_false, Bool.toNat_true, Bool.false_eq_true, if_true,
              if_false] at hstep ⊢ <;> omega

/-! ## History variables -/

/-- Add to the state a variable that every step updates and no step reads. -/
def watch (step : StepFn σ ε ω) (update : σ → ε → ι → ι) : StepFn (σ × ι) ε ω :=
  fun s e => (step s.1 e).map fun r => ((r.1, update s.1 e s.2), r.2)

theorem watch_of {update : σ → ε → ι → ι} {m : Move (σ × ι) ε ω}
    (h : m.Of (watch step update)) :
    step m.before.1 m.event = some (m.after.1, m.output) ∧
      m.after.2 = update m.before.1 m.event m.before.2 := by
  unfold Move.Of watch at h
  cases hs : step m.before.1 m.event with
  | none => rw [hs] at h; simp at h
  | some r =>
      rw [hs] at h
      simp only [Option.map_some, Option.some.injEq, Prod.mk.injEq] at h
      obtain ⟨hstate, hout⟩ := h
      rw [← hstate, ← hout]
      exact ⟨rfl, rfl⟩

end AfcDut.Lts
