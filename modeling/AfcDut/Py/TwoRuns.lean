import AfcDut.Py.Raises
import Mathlib.Data.List.Forall2
import Mathlib.Order.Lattice
import Mathlib.Order.MinMax

/-!
# Two runs side by side

One computation on two related inputs: it raises on both with one exception,
or returns related results. The rules follow the shape of the computation, so
a law about two runs is read off the code once.
-/

namespace AfcDut.Py

variable {ε α α' β β' : Type}

/-- Both computations raise the same, or return related values. -/
inductive Related (R : α → α' → Prop) : Except ε α → Except ε α' → Prop
  | ok {a : α} {b : α'} : R a b → Related R (.ok a) (.ok b)
  | error (e : ε) : Related R (.error e) (.error e)

namespace Related

variable {R : α → α' → Prop} {S : β → β' → Prop}

theorem eq_ok {x : Except ε α} {y : Except ε α'} {a : α} (h : Related R x y) (hx : x = .ok a) :
    ∃ b, y = .ok b ∧ R a b := by
  cases h with
  | ok hab =>
      rw [Except.ok.injEq] at hx
      exact ⟨_, rfl, hx ▸ hab⟩
  | error e => exact absurd hx (by simp)

theorem error_iff {x : Except ε α} {y : Except ε α'} {e : ε} (h : Related R x y) :
    x = .error e ↔ y = .error e := by
  cases h with
  | ok hab => simp
  | error e' => simp

theorem bind {x : Except ε α} {y : Except ε α'} {f : α → Except ε β} {g : α' → Except ε β'}
    (h : Related R x y) (hnext : ∀ a b, R a b → Related S (f a) (g b)) :
    Related S (x >>= f) (y >>= g) := by
  cases h with
  | ok hab => exact hnext _ _ hab
  | error e => exact .error e

/-- The two loops keep related images of related elements. -/
theorem filterMapM {xs : List α} {ys : List α'} {f : α → Except ε (Option β)}
    {g : α' → Except ε (Option β')} (h : List.Forall₂ R xs ys)
    (hstep : ∀ x y, R x y → Related (Option.Rel S) (f x) (g y)) :
    Related (List.Forall₂ S) (xs.filterMapM f) (ys.filterMapM g) := by
  induction h with
  | nil => exact .ok .nil
  | cons hxy _ ih =>
      rw [List.filterMapM_cons, List.filterMapM_cons]
      refine (hstep _ _ hxy).bind fun o o' ho => ?_
      cases ho with
      | none => exact ih
      | some hs => exact ih.bind fun rest rest' hrest => .ok (.cons hs hrest)

end Related

/-! ## Related options -/

theorem getD_map_related {R : α → α' → Prop} {S : β → β' → Prop} {a : Option α} {b : Option α'}
    {f : α → β} {g : α' → β'} {d : β} {d' : β'} (h : Option.Rel R a b)
    (hmap : ∀ x y, R x y → S (f x) (g y)) (hdefault : S d d') :
    S ((a.map f).getD d) ((b.map g).getD d') := by
  cases h with
  | none => exact hdefault
  | some hxy => exact hmap _ _ hxy

theorem getD_bind_related {R : α → α' → Prop} {S : β → β' → Prop} {a : Option α} {b : Option α'}
    {f : α → Option β} {g : α' → Option β'} {d : β} {d' : β'} (h : Option.Rel R a b)
    (hbind : ∀ x y, R x y → Option.Rel S (f x) (g y)) (hdefault : S d d') :
    S ((a.bind f).getD d) ((b.bind g).getD d') := by
  cases h with
  | none => exact hdefault
  | @some x y hxy =>
      have hnext := hbind x y hxy
      show S ((f x).getD d) ((g y).getD d')
      generalize f x = u at hnext ⊢
      generalize g y = v at hnext ⊢
      cases hnext with
      | none => exact hdefault
      | some huv => exact huv

/-! ## Related lists -/

/-- A property of all elements carries from one list to the other. -/
theorem forall_mem_of_forall₂ {R : α → α' → Prop} {P : α → Prop} {Q : α' → Prop} {xs : List α}
    {ys : List α'} (h : List.Forall₂ R xs ys) (himp : ∀ x y, R x y → P x → Q y)
    (hxs : ∀ x ∈ xs, P x) : ∀ y ∈ ys, Q y := by
  induction h with
  | nil => exact fun y hy => absurd hy List.not_mem_nil
  | cons hxy _ ih =>
      rw [List.forall_mem_cons] at hxs ⊢
      exact ⟨himp _ _ hxy hxs.1, ih hxs.2⟩

theorem getElem?_related {R : α → α' → Prop} {xs : List α} {ys : List α'}
    (h : List.Forall₂ R xs ys) (i : Nat) : Option.Rel R xs[i]? ys[i]? := by
  induction h generalizing i with
  | nil => exact .none
  | cons hxy _ ih =>
      cases i with
      | zero => exact .some hxy
      | succ i => exact ih i

/-- Raising the elements of a list raises the least one. -/
theorem min?_related [LinearOrder α] {xs ys : List α} (h : List.Forall₂ (· ≤ ·) xs ys) :
    Option.Rel (· ≤ ·) xs.min? ys.min? := by
  induction h with
  | nil => exact .none
  | @cons _ _ xs ys hxy _ ih =>
      rw [List.min?_cons, List.min?_cons]
      generalize xs.min? = m at ih ⊢
      generalize ys.min? = n at ih ⊢
      cases ih with
      | none => exact .some hxy
      | some hle => exact .some (min_le_min hxy hle)

end AfcDut.Py
