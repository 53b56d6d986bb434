import Mathlib.Data.List.Basic
import Mathlib.Tactic.Common

/-!
# A scan over a list that changes

An index goes over a list whose elements come, at the end, and go. An element
that goes shifts the rest under the index, so that the scan passes one without
a look at it; an index past the end is in debt for those still to come.
-/

namespace AfcDut.Data.Scan

variable {α : Type} {p q : α → Bool} {k : Nat} {l : List α} {a : α}

/-- What an index has passed of the elements that meet a test, with its debt. -/
def passed (p : α → Bool) (k : Nat) (l : List α) : Nat :=
  (l.take k).countP p + (k - l.length)

theorem passed_zero (p : α → Bool) (l : List α) : passed p 0 l = 0 := by
  simp [passed]

/-- An element that goes costs at most one. -/
theorem passed_eraseP_le (p q : α → Bool) (k : Nat) (l : List α) :
    passed p k (l.eraseP q) ≤ passed p k l + 1 := by
  unfold passed
  induction l generalizing k with
  | nil => simp
  | cons a l ih =>
      cases k with
      | zero => simp
      | succ k =>
          cases hq : q a with
          | true =>
            rw [List.eraseP_cons_of_pos hq]
            -- the rest moves down by one, and its next element comes under the index
            have htake : (l.take (k + 1)).countP p ≤ (l.take k).countP p + 1 := by
              rw [List.take_add_one, List.countP_append]
              have hone : (l[k]?.toList).countP p ≤ l[k]?.toList.length := List.countP_le_length
              have hlen : l[k]?.toList.length ≤ 1 := by cases l[k]? <;> simp
              omega
            have hmore : (l.take k).countP p ≤ ((a :: l).take (k + 1)).countP p :=
              (List.sublist_cons_self a (l.take k)).countP_le
            rcases Nat.lt_or_ge k l.length with hlt | hge
            · simp only [List.length_cons]
              omega
            · rw [List.take_of_length_le (by omega : l.length ≤ k + 1)]
              rw [List.take_of_length_le hge] at hmore
              simp only [List.length_cons]
              omega
          | false =>
            have hrest := ih k
            rw [List.eraseP_cons_of_neg (by simp [hq])]
            simp only [List.take_succ_cons, List.countP_cons, List.length_cons] at hrest ⊢
            omega

/-- An element that comes is in place of a debt. -/
theorem passed_append_le (p : α → Bool) (k : Nat) (l : List α) (a : α) :
    passed p k (l ++ [a]) ≤ passed p k l := by
  unfold passed
  rcases Nat.lt_or_ge l.length k with hlt | hge
  · rw [List.take_of_length_le (by simp; omega), List.take_of_length_le (Nat.le_of_lt hlt),
      List.countP_append, List.length_append]
    have hone : [a].countP p ≤ 1 := List.countP_le_length
    simp only [List.length_singleton]
    omega
  · rw [List.take_append_of_le_length hge, List.length_append]
    omega

theorem passed_succ (at_k : l[k]? = some a) (h : p a = false) :
    passed p (k + 1) l = passed p k l := by
  have hlt : k < l.length := (List.getElem?_eq_some_iff.mp at_k).1
  unfold passed
  rw [List.take_add_one, at_k, Option.toList_some, List.countP_append]
  simp only [List.countP_singleton, h, Bool.false_eq_true, if_false]
  omega

theorem passed_le_passed (h : ∀ b, p b = true → q b = true) (k : Nat) (l : List α) :
    passed p k l ≤ passed q k l :=
  Nat.add_le_add_right (List.countP_mono_left fun b _ => h b) _

theorem countP_le_passed (h : l.length ≤ k) : l.countP p ≤ passed p k l := by
  unfold passed
  rw [List.take_of_length_le h]
  omega

/-- What is still to come of the list is no more than before. -/
theorem drop_eraseP_sublist (q : α → Bool) (k : Nat) (l : List α) :
    ((l.eraseP q).drop k).Sublist (l.drop k) := by
  induction l generalizing k with
  | nil => simp
  | cons a l ih =>
      cases k with
      | zero => exact List.eraseP_sublist
      | succ k =>
          cases hq : q a with
          | true =>
              rw [List.eraseP_cons_of_pos hq, List.drop_succ_cons]
              exact List.drop_sublist_drop_left l (Nat.le_succ k)
          | false =>
              rw [List.eraseP_cons_of_neg (by simp [hq])]
              exact ih k

theorem mem_drop_append {b : α} (h : b ∈ (l ++ [a]).drop k) : b ∈ l.drop k ∨ b = a := by
  rw [List.drop_append] at h
  rcases List.mem_append.mp h with h | h
  · exact .inl h
  · exact .inr (List.mem_singleton.mp (List.mem_of_mem_drop h))

end AfcDut.Data.Scan
