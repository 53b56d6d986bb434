import Mathlib.Data.List.Basic
import Mathlib.Data.List.Perm.Basic

/-!
# Lines of a text

A text as its lines. A text that ends with its last line can be followed by
another one without a line of its own being touched.
-/

namespace AfcDut.Data.Lines

variable {α : Type} [DecidableEq α] {mark : α}

/-- The lines of a text; the last one may lack its mark. -/
def linesOf (mark : α) : List α → List (List α)
  | [] => []
  | c :: text =>
      if c = mark then [] :: linesOf mark text
      else match linesOf mark text with
        | [] => [[c]]
        | line :: rest => (c :: line) :: rest

omit [DecidableEq α] in
/-- A text whose last line has its mark. -/
def Terminated (mark : α) (text : List α) : Prop := text = [] ∨ ∃ start, text = start ++ [mark]

theorem linesOf_eq_nil {text : List α} (h : linesOf mark text = []) : text = [] := by
  cases text with
  | nil => rfl
  | cons c text =>
      unfold linesOf at h
      split at h
      · cases h
      · split at h <;> cases h

theorem linesOf_mark (text : List α) : linesOf mark (mark :: text) = [] :: linesOf mark text := by
  rw [linesOf, if_pos rfl]

theorem linesOf_append_mark (start text : List α) :
    linesOf mark (start ++ mark :: text) = linesOf mark (start ++ [mark]) ++ linesOf mark text := by
  induction start with
  | nil =>
      rw [List.nil_append, List.nil_append, linesOf_mark, linesOf_mark]
      rfl
  | cons c start ih =>
      rw [List.cons_append, List.cons_append, linesOf, linesOf, ih]
      split
      · rfl
      · cases hlines : linesOf mark (start ++ [mark]) with
        | nil => exact absurd (linesOf_eq_nil hlines) (by simp)
        | cons line rest => rfl

/-- The lines of two texts. -/
theorem linesOf_append {text : List α} (h : Terminated mark text) (rest : List α) :
    linesOf mark (text ++ rest) = linesOf mark text ++ linesOf mark rest := by
  rcases h with rfl | ⟨start, rfl⟩
  · rfl
  · rw [List.append_assoc, List.singleton_append, linesOf_append_mark]

/-- One line. -/
theorem linesOf_line {line : List α} (h : mark ∉ line) :
    linesOf mark (line ++ [mark]) = [line] := by
  induction line with
  | nil => rw [List.nil_append, linesOf_mark, linesOf]
  | cons c line ih =>
      rw [List.mem_cons, not_or] at h
      rw [List.cons_append, linesOf, if_neg (Ne.symm h.1), ih h.2]

/-- The letters of whole lines, and the marks. -/
theorem length_of_terminated {text : List α} (h : Terminated mark text) :
    text.length = (linesOf mark text).flatten.length + (linesOf mark text).length := by
  rcases h with rfl | ⟨start, rfl⟩
  · rfl
  · induction start with
    | nil =>
        rw [List.nil_append, linesOf_mark]
        rfl
    | cons c start ih =>
        rw [List.cons_append, List.length_cons, ih, linesOf]
        split
        · simp
          omega
        · cases hlines : linesOf mark (start ++ [mark]) with
          | nil => exact absurd (linesOf_eq_nil hlines) (by simp)
          | cons line rest =>
              simp
              omega

/-- Whole lines in another order are as long. -/
theorem length_eq_of_perm {text text' : List α} (h : Terminated mark text)
    (h' : Terminated mark text') (hperm : (linesOf mark text).Perm (linesOf mark text')) :
    text.length = text'.length := by
  rw [length_of_terminated h, length_of_terminated h', hperm.flatten.length_eq, hperm.length_eq]

omit [DecidableEq α] in
theorem terminated_nil : Terminated mark [] := .inl rfl

omit [DecidableEq α] in
theorem terminated_line (line : List α) : Terminated mark (line ++ [mark]) := .inr ⟨line, rfl⟩

omit [DecidableEq α] in
theorem Terminated.append {text rest : List α} (h : Terminated mark text)
    (hrest : Terminated mark rest) : Terminated mark (text ++ rest) := by
  rcases hrest with rfl | ⟨start, rfl⟩
  · rw [List.append_nil]
    exact h
  · exact .inr ⟨text ++ start, (List.append_assoc _ _ _).symm⟩

omit [DecidableEq α] in
theorem terminated_flatMap {β : Type} {f : β → List α} {items : List β}
    (h : ∀ b ∈ items, Terminated mark (f b)) : Terminated mark (items.flatMap f) := by
  induction items with
  | nil => exact terminated_nil
  | cons b items ih =>
      rw [List.forall_mem_cons] at h
      rw [List.flatMap_cons]
      exact h.1.append (ih h.2)

omit [DecidableEq α] in
theorem terminated_ite {c : Prop} [Decidable c] {text rest : List α} (h : Terminated mark text)
    (hrest : Terminated mark rest) : Terminated mark (if c then text else rest) := by
  split
  · exact h
  · exact hrest

end AfcDut.Data.Lines
