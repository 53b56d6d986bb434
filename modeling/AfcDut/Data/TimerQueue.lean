import Mathlib.Data.List.Sort
import Mathlib.Data.Prod.Lex
import Mathlib.Tactic.Common

/-!
# Queues of timed items

A queue sorted by due time in which items that are due at once keep the order
they came in: each new item goes before the first that is due later. `stamp`
numbers the items as they come.
-/

namespace AfcDut.Data.TimerQueue

variable {α κ : Type} [LinearOrder κ] (due : α → κ) (stamp : α → Nat)

/-- Put an item before the first that is due later. -/
def enqueue (a : α) (l : List α) : List α := l.orderedInsert (fun b c => due b < due c) a

/-- An item goes before another: it is due earlier, or it is due at the same time
and came earlier. -/
def Before (a b : α) : Prop := due a < due b ∨ due a = due b ∧ stamp a < stamp b

instance (a b : α) : Decidable (Before due stamp a b) := inferInstanceAs (Decidable (_ ∨ _))

/-- The items are in this order. -/
def Ordered (l : List α) : Prop := l.Pairwise (Before due stamp)

variable {due stamp} {a b : α} {l : List α}

theorem perm_enqueue (a : α) (l : List α) : (enqueue due a l).Perm (a :: l) :=
  List.perm_orderedInsert _ a l

theorem mem_enqueue : b ∈ enqueue due a l ↔ b = a ∨ b ∈ l := by
  rw [(perm_enqueue a l).mem_iff, List.mem_cons]

theorem Before.due_le (h : Before due stamp a b) : due a ≤ due b := by
  rcases h with h | h
  · exact h.le
  · exact h.1.le

theorem Before.of_lt_of_le {c : α} (h : due a < due b) (hle : due b ≤ due c) :
    Before due stamp a c :=
  .inl (h.trans_le hle)

theorem Before.trans {c : α} (hab : Before due stamp a b) (hbc : Before due stamp b c) :
    Before due stamp a c := by
  rcases hab with hlt | ⟨heq, hstamp⟩
  · exact .of_lt_of_le hlt hbc.due_le
  · rcases hbc with hlt | ⟨heq', hstamp'⟩
    · exact .inl (heq ▸ hlt)
    · exact .inr ⟨heq.trans heq', hstamp.trans hstamp'⟩

theorem not_before_self (a : α) : ¬ Before due stamp a a := by
  rintro (h | ⟨-, h⟩)
  · exact lt_irrefl _ h
  · exact lt_irrefl _ h

/-- An item that comes late enough overtakes nothing. -/
theorem before_of_late (hdue : due b ≤ due a) (hstamp : stamp b < stamp a) :
    Before due stamp b a := by
  rcases lt_or_eq_of_le hdue with hlt | heq
  · exact .inl hlt
  · exact .inr ⟨heq, hstamp⟩

theorem Ordered.enqueue (h : Ordered due stamp l) (hlast : ∀ b ∈ l, stamp b < stamp a) :
    Ordered due stamp (enqueue due a l) := by
  induction l with
  | nil => exact List.pairwise_singleton _ a
  | cons c l ih =>
      obtain ⟨hc, hl⟩ := List.pairwise_cons.mp h
      rw [List.forall_mem_cons] at hlast
      unfold TimerQueue.enqueue
      rw [List.orderedInsert_cons]
      split
      · rename_i hlt
        refine List.pairwise_cons.mpr ⟨?_, h⟩
        rw [List.forall_mem_cons]
        exact ⟨.inl hlt, fun b hb => .of_lt_of_le hlt (hc b hb).due_le⟩
      · rename_i hle
        refine List.pairwise_cons.mpr ⟨?_, ih hl hlast.2⟩
        intro b hb
        rcases mem_enqueue.mp hb with rfl | hb
        · rcases lt_or_eq_of_le (not_lt.mp hle) with hlt | heq
          · exact .inl hlt
          · exact .inr ⟨heq, hlast.1⟩
        · exact hc b hb

theorem Ordered.tail (h : Ordered due stamp (a :: l)) : Ordered due stamp l :=
  (List.pairwise_cons.mp h).2

theorem Ordered.filter (h : Ordered due stamp l) (p : α → Bool) :
    Ordered due stamp (l.filter p) :=
  List.Pairwise.filter p h

/-- The first item is due first. -/
theorem Ordered.due_head_le (h : Ordered due stamp (a :: l)) : ∀ b ∈ a :: l, due a ≤ due b := by
  rw [List.forall_mem_cons]
  exact ⟨le_rfl, fun b hb => ((List.pairwise_cons.mp h).1 b hb).due_le⟩

/-! ## The turn of an item -/

/-- The number of items that do not go after one, itself among them. -/
def turn (due : α → κ) (stamp : α → Nat) (b : α) (l : List α) : Nat :=
  l.countP fun c => !decide (Before due stamp b c)

theorem turn_enqueue (hdue : due b ≤ due a) (hstamp : stamp b < stamp a) (l : List α) :
    turn due stamp b (enqueue due a l) = turn due stamp b l := by
  have hbefore := before_of_late hdue hstamp
  rw [turn, (perm_enqueue a l).countP_eq, List.countP_cons_of_neg (by simpa using hbefore)]
  rfl

theorem turn_filter_le (p : α → Bool) (l : List α) :
    turn due stamp b (l.filter p) ≤ turn due stamp b l :=
  List.filter_sublist.countP_le

theorem turn_pos (h : b ∈ l) : 0 < turn due stamp b l :=
  List.countP_pos_iff.mpr ⟨b, h, by simpa using not_before_self b⟩

/-- While it is not yet nothing, it is not before the first item. -/
theorem Ordered.not_before_head (h : Ordered due stamp (a :: l))
    (hturn : 0 < turn due stamp b (a :: l)) : ¬ Before due stamp b a := by
  obtain ⟨c, hc, hnot⟩ := List.countP_pos_iff.mp hturn
  intro hbefore
  have hbc : Before due stamp b c := by
    rcases List.mem_cons.mp hc with rfl | hc
    · exact hbefore
    · exact hbefore.trans ((List.pairwise_cons.mp h).1 c hc)
  simp [hbc] at hnot

/-- The queue moves up when its first item leaves. -/
theorem turn_cons (h : ¬ Before due stamp b a) (l : List α) :
    turn due stamp b (a :: l) = turn due stamp b l + 1 := by
  rw [turn, List.countP_cons_of_pos (by simpa using h)]
  rfl

theorem turn_le_cons (a : α) (l : List α) : turn due stamp b l ≤ turn due stamp b (a :: l) :=
  (List.sublist_cons_self a l).countP_le

theorem due_le_of_not_before (h : ¬ Before due stamp b a) : due a ≤ due b :=
  not_lt.mp fun hlt => h (.inl hlt)

end AfcDut.Data.TimerQueue
