import Mathlib.Data.List.Perm.Basic

/-!
# Selections of a list with one entry changed

What a change of one entry does to the entries that meet a test.
-/

namespace AfcDut.Data

variable {α β : Type} {p : α → Bool} {f : α → α}

/-- The two halves of a list around an entry, and the change between them. -/
theorem exists_around {l : List α} {i : Nat} {a : α} (h : l[i]? = some a) :
    ∃ l₁ l₂, l = l₁ ++ a :: l₂ ∧ l.modify i f = l₁ ++ f a :: l₂ := by
  obtain ⟨hlt, hget⟩ := List.getElem?_eq_some_iff.mp h
  refine ⟨l.take i, l.drop (i + 1), ?_, ?_⟩
  · rw [← hget, List.getElem_cons_drop, List.take_append_drop]
  · rw [← hget, List.modify_eq_take_cons_drop hlt]

/-- What holds of every entry before the change and is kept by it. -/
theorem forall_mem_modify {P : α → Prop} {l : List α} (h : ∀ a ∈ l, P a)
    (hkept : ∀ a, P a → P (f a)) (i : Nat) : ∀ a ∈ l.modify i f, P a := by
  intro b hb
  obtain ⟨j, hj⟩ := List.getElem?_of_mem hb
  rw [List.getElem?_modify] at hj
  cases hget : l[j]? with
  | none => simp [hget] at hj
  | some a =>
      have ha := h a (List.mem_of_getElem? hget)
      rw [hget, Option.map_eq_map, Option.map_some, Option.some.injEq] at hj
      rw [← hj]
      split
      · exact hkept a ha
      · exact ha

/-- An entry that meets the test after the change only is a new one. -/
theorem filter_modify_new {l : List α} {i : Nat} {a : α} (h : l[i]? = some a)
    (hold : p a = false) (hnew : p (f a) = true) :
    ((l.modify i f).filter p).Perm (f a :: l.filter p) := by
  obtain ⟨l₁, l₂, hl, hm⟩ := exists_around (f := f) h
  rw [hm, hl, List.filter_append, List.filter_append, List.filter_cons_of_pos hnew,
    List.filter_cons_of_neg (by rw [hold]; exact Bool.false_ne_true)]
  exact List.perm_middle

/-- An entry that meets the test neither before nor after the change. -/
theorem filter_modify_outside {l : List α} {i : Nat} {a : α} (h : l[i]? = some a)
    (hold : p a = false) (hnew : p (f a) = false) : (l.modify i f).filter p = l.filter p := by
  obtain ⟨l₁, l₂, hl, hm⟩ := exists_around (f := f) h
  rw [hm, hl, List.filter_append, List.filter_append,
    List.filter_cons_of_neg (by rw [hnew]; exact Bool.false_ne_true),
    List.filter_cons_of_neg (by rw [hold]; exact Bool.false_ne_true)]

/-- A change that neither the test nor the reading sees. -/
theorem map_filter_modify {g : α → β} (htest : ∀ a, p (f a) = p a) (hread : ∀ a, g (f a) = g a)
    (l : List α) (i : Nat) : ((l.modify i f).filter p).map g = (l.filter p).map g := by
  induction l generalizing i with
  | nil => cases i <;> rfl
  | cons a l ih =>
      cases i with
      | zero =>
          rw [List.modify_zero_cons, List.filter_cons, List.filter_cons, htest]
          split
          · rw [List.map_cons, List.map_cons, hread]
          · rfl
      | succ i =>
          rw [List.modify_succ_cons, List.filter_cons, List.filter_cons]
          split
          · rw [List.map_cons, List.map_cons, ih]
          · exact ih i

end AfcDut.Data
