import Mathlib.Data.List.Basic
import Mathlib.Data.List.Nodup
import Mathlib.Data.List.Perm.Basic

/-!
# What a fold gathers

A fold whose state has a component that only gathers facts of the items, in
three forms: a flag that an item can set, a value that an item can overwrite,
and a text that every item adds to.
-/

namespace AfcDut.Data.Gathered

variable {σ α β : Type} {step : σ → α → σ}

/-- A flag that is set by the items with `sets`. -/
theorem foldl_flag {flag : σ → Bool} {sets : α → Bool}
    (h : ∀ s a, flag (step s a) = (flag s || sets a)) (s : σ) (items : List α) :
    flag (items.foldl step s) = (flag s || items.any sets) := by
  induction items generalizing s with
  | nil => simp
  | cons a items ih => rw [List.foldl_cons, ih, h, List.any_cons, Bool.or_assoc]

/-- The value of the last item with `writes`, or the one before. -/
def lastValue (writes : α → Bool) (value : α → β) (old : β) (items : List α) : β :=
  ((items.filter writes).getLast?.map value).getD old

theorem lastValue_cons (writes : α → Bool) (value : α → β) (old : β) (a : α) (items : List α) :
    lastValue writes value old (a :: items) =
      lastValue writes value (if writes a then value a else old) items := by
  unfold lastValue
  cases hwrites : writes a
  · rw [List.filter_cons_of_neg (by simp [hwrites])]
    rfl
  · rw [List.filter_cons_of_pos hwrites, List.getLast?_cons]
    cases (items.filter writes).getLast? <;> rfl

/-- A change of the items that keeps what is looked at. -/
theorem lastValue_map {writes : α → Bool} {value : α → β} {f : α → α}
    (hwrites : ∀ a, writes (f a) = writes a) (hvalue : ∀ a, value (f a) = value a) (old : β)
    (items : List α) : lastValue writes value old (items.map f) =
      lastValue writes value old items := by
  induction items generalizing old with
  | nil => rfl
  | cons a items ih => rw [List.map_cons, lastValue_cons, lastValue_cons, hwrites, hvalue, ih]

/-- A value that the items with `writes` overwrite. -/
theorem foldl_value {get : σ → β} {writes : α → Bool} {value : α → β}
    (h : ∀ s a, get (step s a) = if writes a then value a else get s) (s : σ) (items : List α) :
    get (items.foldl step s) = lastValue writes value (get s) items := by
  induction items generalizing s with
  | nil => rfl
  | cons a items ih => rw [List.foldl_cons, ih, h, lastValue_cons]

/-- A component with a step of its own. -/
theorem foldl_component {τ : Type} {get : σ → τ} {step' : τ → α → τ}
    (h : ∀ s a, get (step s a) = step' (get s) a) (s : σ) (items : List α) :
    get (items.foldl step s) = items.foldl step' (get s) := by
  induction items generalizing s with
  | nil => rfl
  | cons a items ih => rw [List.foldl_cons, ih, h, List.foldl_cons]

/-! ## Items of distinct kinds -/

section

variable {κ : Type} [DecidableEq κ] {kind : α → κ} {items items' : List α}

/-- At most one item is of a kind. -/
theorem filter_kind_length_le (h : (items.map kind).Nodup) (k : κ) :
    (items.filter fun a => kind a = k).length ≤ 1 := by
  induction items with
  | nil => exact Nat.zero_le 1
  | cons a items ih =>
      rw [List.map_cons, List.nodup_cons] at h
      by_cases hk : kind a = k
      · have hnone : (items.filter fun b => kind b = k) = [] := by
          rw [List.filter_eq_nil_iff]
          intro b hb hkb
          rw [decide_eq_true_eq] at hkb
          exact h.1 (List.mem_map.mpr ⟨b, hb, hkb.trans hk.symm⟩)
        rw [List.filter_cons_of_pos (by simpa using hk), hnone]
        exact Nat.le_refl 1
      · rw [List.filter_cons_of_neg (by simpa using hk)]
        exact ih h.2

/-- The order of the items does not matter to one kind. -/
theorem filter_kind_perm (h : (items.map kind).Nodup) (hperm : items'.Perm items) (k : κ) :
    (items'.filter fun a => kind a = k) = items.filter fun a => kind a = k := by
  have hfilter := hperm.filter fun a => decide (kind a = k)
  have hlen := filter_kind_length_le h k
  cases hitems : items.filter fun a => decide (kind a = k) with
  | nil =>
      rw [hitems] at hfilter
      exact hfilter.eq_nil
  | cons a rest =>
      cases rest with
      | nil =>
          rw [hitems] at hfilter
          exact List.perm_singleton.mp hfilter
      | cons b rest =>
          rw [hitems] at hlen
          exact absurd hlen (by simp)

omit [DecidableEq κ] in
/-- Items of one kind are one item. -/
theorem eq_of_kind (h : (items.map kind).Nodup) {a b : α} (ha : a ∈ items) (hb : b ∈ items)
    (heq : kind a = kind b) : a = b :=
  List.inj_on_of_nodup_map h ha hb heq

end

/-- A value that no item writes, or that of an item. -/
theorem lastValue_cases (writes : α → Bool) (value : α → β) (old : β) (items : List α) :
    (∀ a ∈ items, writes a = false) ∧ lastValue writes value old items = old ∨
      ∃ a ∈ items, writes a = true ∧ lastValue writes value old items = value a := by
  unfold lastValue
  cases hlast : (items.filter writes).getLast? with
  | none =>
      left
      refine ⟨?_, rfl⟩
      intro a ha
      by_contra hwrites
      exact List.filter_eq_nil_iff.mp (List.getLast?_eq_none_iff.mp hlast) a ha
        (Bool.not_eq_false _ ▸ hwrites)
  | some a =>
      obtain ⟨hmem, hwrites⟩ := List.mem_filter.mp (List.mem_of_getLast? hlast)
      exact .inr ⟨a, hmem, hwrites, rfl⟩

end AfcDut.Data.Gathered
