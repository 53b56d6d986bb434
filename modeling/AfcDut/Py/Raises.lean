import Mathlib.Logic.Basic
import Mathlib.Tactic.Common

/-!
# Computations that may raise

`Except ε` is the shape every modelled Python function has: it returns a
value or raises. The lemmas here invert a bind, a `mapM` and a `filterMapM`,
so that no later proof unfolds the monad.
-/

namespace AfcDut.Py

variable {ε ε' α β γ : Type}

/-- Whether a computation returns a given value can be decided by running it. -/
instance decidableReturns [DecidableEq α] (x : Except ε α) (a : α) : Decidable (x = .ok a) :=
  match x with
  | .ok b => decidable_of_iff (b = a) (by simp)
  | .error _ => isFalse (by simp)

/-- A computation raises or returns. -/
theorem not_raises_iff {x : Except ε α} : (¬ ∃ e, x = .error e) ↔ ∃ a, x = .ok a := by
  cases x <;> simp

/-- A sequence returns exactly when both halves do. -/
theorem bind_eq_ok {x : Except ε α} {f : α → Except ε β} {b : β} :
    x >>= f = .ok b ↔ ∃ a, x = .ok a ∧ f a = .ok b := by
  cases x with
  | error e => simp [bind, Except.bind]
  | ok a => simp [bind, Except.bind]

theorem bind_isOk_iff {x : Except ε α} {f : α → Except ε β} :
    (∃ b, x >>= f = .ok b) ↔ ∃ a, x = .ok a ∧ ∃ b, f a = .ok b := by
  simp only [bind_eq_ok]
  rw [exists_comm]
  simp only [exists_and_left]

/-- A sequence raises in its first half, or in its second. -/
theorem bind_eq_error {x : Except ε α} {f : α → Except ε β} {e : ε} :
    x >>= f = .error e ↔ x = .error e ∨ ∃ a, x = .ok a ∧ f a = .error e := by
  cases x with
  | error e' => simp [bind, Except.bind]
  | ok a => simp [bind, Except.bind]

/-- A sequence raises where one with the same first half does, if its second
half does. -/
theorem bind_error_of {x : Except ε α} {f : α → Except ε β} {f' : α → Except ε γ} {e : ε}
    (h : x >>= f = .error e) (second : ∀ a, f a = .error e → f' a = .error e) :
    x >>= f' = .error e := by
  cases x with
  | error e' =>
      have same : e' = e := Except.error.inj h
      rw [same]
      rfl
  | ok a => exact second a h

@[simp] theorem ok_bind (a : α) (f : α → Except ε β) : (Except.ok a >>= f) = f a := rfl

@[simp] theorem error_bind (e : ε) (f : α → Except ε β) :
    (Except.error e >>= f) = .error e := rfl

@[simp] theorem pure_eq_ok (a : α) : (pure a : Except ε α) = .ok a := rfl

@[simp] theorem throw_eq_error (e : ε) : (throw e : Except ε α) = .error e := rfl

@[simp] theorem mapError_ok (h : ε → ε') (a : α) :
    Except.mapError h (.ok a : Except ε α) = .ok a := rfl

@[simp] theorem mapError_error (h : ε → ε') (e : ε) :
    Except.mapError h (.error e : Except ε α) = .error (h e) := rfl

theorem mapError_eq_ok {h : ε → ε'} {x : Except ε α} {a : α} :
    Except.mapError h x = .ok a ↔ x = .ok a := by
  cases x with
  | error e => simp
  | ok b => simp

/-- `mapM` returns exactly when every element does. -/
theorem mapM_isOk_iff {f : α → Except ε β} {xs : List α} :
    (∃ ys, xs.mapM f = .ok ys) ↔ ∀ x ∈ xs, ∃ y, f x = .ok y := by
  induction xs with
  | nil => simp
  | cons x xs ih =>
      simp only [List.mapM_cons, bind_eq_ok, pure_eq_ok, List.mem_cons, forall_eq_or_imp,
        ← ih]
      constructor
      · rintro ⟨_, y, hy, ys, hys, _⟩
        exact ⟨⟨y, hy⟩, ys, hys⟩
      · rintro ⟨⟨y, hy⟩, ys, hys⟩
        exact ⟨y :: ys, y, hy, ys, hys, rfl⟩

theorem mem_of_mapM_eq_ok {f : α → Except ε β} {xs : List α} {ys : List β}
    (h : xs.mapM f = .ok ys) {y : β} : y ∈ ys ↔ ∃ x ∈ xs, f x = .ok y := by
  induction xs generalizing ys with
  | nil =>
      rw [List.mapM_nil, pure_eq_ok, Except.ok.injEq] at h
      subst h
      simp
  | cons x xs ih =>
      simp only [List.mapM_cons, bind_eq_ok, pure_eq_ok, Except.ok.injEq] at h
      obtain ⟨z, hz, rest, hrest, rfl⟩ := h
      rw [List.mem_cons, ih hrest, @eq_comm _ y z]
      simp [hz]

/-- `mapM` keeps the number of elements; here, whether there are any. -/
theorem eq_nil_iff_of_mapM_eq_ok {f : α → Except ε β} {xs : List α} {ys : List β}
    (h : xs.mapM f = .ok ys) : ys = [] ↔ xs = [] := by
  cases xs with
  | nil =>
      rw [List.mapM_nil, pure_eq_ok, Except.ok.injEq] at h
      simp [← h]
  | cons x xs =>
      simp only [List.mapM_cons, bind_eq_ok, pure_eq_ok, Except.ok.injEq] at h
      obtain ⟨y, -, rest, -, rfl⟩ := h
      simp

/-- A `filterMapM` that returns keeps exactly the images its function keeps. -/
theorem mem_of_filterMapM_eq_ok {f : α → Except ε (Option β)} {xs : List α} {ys : List β}
    (h : xs.filterMapM f = .ok ys) {y : β} : y ∈ ys ↔ ∃ x ∈ xs, f x = .ok (some y) := by
  induction xs generalizing ys with
  | nil =>
      rw [List.filterMapM_nil, pure_eq_ok, Except.ok.injEq] at h
      subst h
      simp
  | cons x xs ih =>
      simp only [List.filterMapM_cons, bind_eq_ok] at h
      obtain ⟨o, ho, h⟩ := h
      cases o with
      | none =>
          rw [ih h]
          simp [ho]
      | some z =>
          simp only [bind_eq_ok, pure_eq_ok, Except.ok.injEq] at h
          obtain ⟨rest, hrest, rfl⟩ := h
          rw [List.mem_cons, ih hrest, @eq_comm _ y z]
          simp [ho]

/-- `filterMapM` returns exactly when its function returns on every element. -/
theorem filterMapM_isOk_iff {f : α → Except ε (Option β)} {xs : List α} :
    (∃ ys, xs.filterMapM f = .ok ys) ↔ ∀ x ∈ xs, ∃ o, f x = .ok o := by
  induction xs with
  | nil => simp
  | cons x xs ih =>
      simp only [List.filterMapM_cons, bind_eq_ok, List.mem_cons, forall_eq_or_imp, ← ih]
      constructor
      · rintro ⟨_, o, ho, h⟩
        refine ⟨⟨o, ho⟩, ?_⟩
        cases o with
        | none => exact ⟨_, h⟩
        | some z =>
            obtain ⟨rest, hrest, _⟩ := bind_eq_ok.mp h
            exact ⟨rest, hrest⟩
      · rintro ⟨⟨o, ho⟩, ys, hys⟩
        cases o with
        | none => exact ⟨ys, none, ho, hys⟩
        | some z => exact ⟨z :: ys, some z, ho, by simp [hys]⟩

/-! ## Loops with a state -/

/-- A loop none of whose steps raises is a fold. -/
theorem foldlM_eq_ok {f : β → α → Except ε β} {g : β → α → β} {xs : List α}
    (h : ∀ x ∈ xs, ∀ b, f b x = .ok (g b x)) (b : β) : xs.foldlM f b = .ok (xs.foldl g b) := by
  induction xs generalizing b with
  | nil => rfl
  | cons x xs ih =>
      rw [List.foldlM_cons, h x List.mem_cons_self b, ok_bind, List.foldl_cons]
      exact ih (fun y hy => h y (List.mem_cons_of_mem _ hy)) (g b x)

/-- A loop raises where one of its steps raises from every state. -/
theorem foldlM_raises {f : β → α → Except ε β} {xs : List α} {x : α} (hx : x ∈ xs)
    (h : ∀ b, ∃ e, f b x = .error e) (b : β) : ∃ e, xs.foldlM f b = .error e := by
  induction xs generalizing b with
  | nil => exact absurd hx List.not_mem_nil
  | cons y xs ih =>
      rw [List.foldlM_cons]
      cases hy : f b y with
      | error e => exact ⟨e, rfl⟩
      | ok b' =>
          obtain rfl | hx := List.mem_cons.mp hx
          · obtain ⟨e, he⟩ := h b
            rw [he] at hy
            exact absurd hy (by simp)
          · exact ih hx b'

/-! ## Loops that are left early -/

/-- The list has an element that `stops`, and every element before it passes. -/
def Reaches (passes stops : α → Prop) (xs : List α) : Prop :=
  ∃ pre x post, xs = pre ++ x :: post ∧ (∀ y ∈ pre, passes y) ∧ stops x

theorem reaches_cons_iff {passes stops : α → Prop} {x : α} {xs : List α} :
    Reaches passes stops (x :: xs) ↔ stops x ∨ (passes x ∧ Reaches passes stops xs) := by
  constructor
  · rintro ⟨pre, y, post, heq, hpre, hy⟩
    cases pre with
    | nil =>
        rw [List.nil_append, List.cons.injEq] at heq
        exact .inl (heq.1 ▸ hy)
    | cons z pre =>
        rw [List.cons_append, List.cons.injEq] at heq
        obtain ⟨rfl, rfl⟩ := heq
        exact .inr ⟨hpre x List.mem_cons_self, pre, y, post, rfl,
          fun w hw => hpre w (List.mem_cons_of_mem _ hw), hy⟩
  · rintro (hx | ⟨hx, pre, y, post, rfl, hpre, hy⟩)
    · exact ⟨[], x, xs, rfl, fun y hy => absurd hy List.not_mem_nil, hx⟩
    · exact ⟨x :: pre, y, post, rfl, List.forall_mem_cons.mpr ⟨hx, hpre⟩, hy⟩

theorem not_reaches_of_forall {passes stops : α → Prop} {xs : List α}
    (h : ∀ x ∈ xs, ¬ stops x) : ¬ Reaches passes stops xs := by
  rintro ⟨pre, x, post, rfl, -, hx⟩
  exact h x (List.mem_append_right pre List.mem_cons_self) hx

/-- A loop left at the first failure returns `true` when no element fails. -/
theorem allM_eq_ok_true_iff {f : α → Except ε Bool} {xs : List α} :
    xs.allM f = .ok true ↔ ∀ x ∈ xs, f x = .ok true := by
  induction xs with
  | nil => simp [List.allM]
  | cons x xs ih =>
      simp only [List.allM, bind_eq_ok, List.forall_mem_cons, ← ih]
      constructor
      · rintro ⟨b, hb, h⟩
        cases b with
        | false => simp at h
        | true => exact ⟨hb, h⟩
      · rintro ⟨hx, h⟩
        exact ⟨true, hx, h⟩

/-- It raises when it reaches an element that does. -/
theorem allM_raises_iff {f : α → Except ε Bool} {xs : List α} :
    (∃ e, xs.allM f = .error e) ↔
      Reaches (fun x => f x = .ok true) (fun x => ∃ e, f x = .error e) xs := by
  induction xs with
  | nil => simp [List.allM, Reaches]
  | cons x xs ih =>
      rw [reaches_cons_iff, ← ih]
      cases hx : f x with
      | error e => simp [List.allM, hx]
      | ok b => cases b <;> simp [List.allM, hx]

end AfcDut.Py
