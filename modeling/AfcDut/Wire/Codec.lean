import Mathlib.Data.List.Basic
import Mathlib.Tactic.Common

/-!
# Codecs for items that delimit themselves

A codec writes an item as a non-empty string and reads one item off the front
of a string. Every string is a row of whole items followed by a rest that no
item starts, and there is only one way to cut it so.
-/

namespace AfcDut.Wire

variable {α β : Type}

structure Codec (α β : Type) where
  encode : α → List β
  decode : List β → Option (α × List β)
  decode_encode : ∀ a rest, decode (encode a ++ rest) = some (a, rest)
  encode_decode : ∀ bs a rest, decode bs = some (a, rest) → bs = encode a ++ rest
  encode_ne_nil : ∀ a, encode a ≠ []

namespace Codec

variable (c : Codec α β)

def encodeAll (as : List α) : List β :=
  as.flatMap c.encode

@[simp] theorem encodeAll_nil : c.encodeAll [] = [] := rfl

@[simp] theorem encodeAll_cons (a : α) (as : List α) :
    c.encodeAll (a :: as) = c.encode a ++ c.encodeAll as := rfl

@[simp] theorem encodeAll_append (as bs : List α) :
    c.encodeAll (as ++ bs) = c.encodeAll as ++ c.encodeAll bs :=
  List.flatMap_append

theorem length_encode_pos (a : α) : 0 < (c.encode a).length :=
  List.length_pos_iff.mpr (c.encode_ne_nil a)

/-- No item can be read off the front of the string. -/
def Stuck (bs : List β) : Prop :=
  c.decode bs = none

instance (bs : List β) : Decidable (c.Stuck bs) :=
  match h : c.decode bs with
  | none => .isTrue h
  | some _ => .isFalse (by rw [Stuck, h]; simp)

theorem stuck_nil : c.Stuck [] := by
  show c.decode [] = none
  cases h : c.decode [] with
  | none => rfl
  | some item =>
      have whole := c.encode_decode [] item.1 item.2 h
      have empty := (List.append_eq_nil_iff.mp whole.symm).1
      exact absurd empty (c.encode_ne_nil item.1)

theorem not_stuck_encode (a : α) (rest : List β) : ¬c.Stuck (c.encode a ++ rest) := by
  intro stuck
  rw [Stuck, c.decode_encode] at stuck
  exact Option.some_ne_none _ stuck

/-- The string is these items, whole, and then a rest that no item starts. -/
structure Splits (bs : List β) (as : List α) (tail : List β) : Prop where
  eq : bs = c.encodeAll as ++ tail
  stuck : c.Stuck tail

theorem splits_exists (bs : List β) : ∃ as tail, c.Splits bs as tail := by
  induction hn : bs.length using Nat.strongRecOn generalizing bs with
  | ind n ih =>
    cases h : c.decode bs with
    | none => exact ⟨[], bs, rfl, h⟩
    | some item =>
        have whole := c.encode_decode bs item.1 item.2 h
        have pos := c.length_encode_pos item.1
        have shorter : item.2.length < n := by
          rw [← hn, whole, List.length_append]
          omega
        obtain ⟨as, tail, eq, stuck⟩ := ih _ shorter item.2 rfl
        refine ⟨item.1 :: as, tail, ?_, stuck⟩
        rw [encodeAll_cons, List.append_assoc, ← eq]
        exact whole

variable {c}

theorem Splits.cons {a : α} {bs tail : List β} {as : List α} (split : c.Splits bs as tail) :
    c.Splits (c.encode a ++ bs) (a :: as) tail :=
  ⟨by rw [encodeAll_cons, List.append_assoc, ← split.eq], split.stuck⟩

/-- There is one way only to cut a string into items. -/
theorem Splits.unique {bs tail tail' : List β} {as as' : List α}
    (split : c.Splits bs as tail) (split' : c.Splits bs as' tail') : as = as' ∧ tail = tail' := by
  induction as generalizing bs as' with
  | nil =>
      cases as' with
      | nil => exact ⟨rfl, split.eq.symm.trans split'.eq⟩
      | cons a' as' =>
          have stuck := split.stuck
          rw [show tail = bs from split.eq.symm, split'.eq, encodeAll_cons,
            List.append_assoc] at stuck
          exact absurd stuck (c.not_stuck_encode _ _)
  | cons a as ih =>
      have read : c.decode bs = some (a, c.encodeAll as ++ tail) := by
        rw [split.eq, encodeAll_cons, List.append_assoc, c.decode_encode]
      cases as' with
      | nil =>
          have stuck := split'.stuck
          rw [show tail' = bs from split'.eq.symm, Stuck, read] at stuck
          exact absurd stuck (Option.some_ne_none _)
      | cons a' as' =>
          have read' : c.decode bs = some (a', c.encodeAll as' ++ tail') := by
            rw [split'.eq, encodeAll_cons, List.append_assoc, c.decode_encode]
          have same := read.symm.trans read'
          injection same with same
          injection same with first rest
          subst first
          have shorter : c.Splits (c.encodeAll as ++ tail) as tail := ⟨rfl, split.stuck⟩
          have tails := ih shorter ⟨rest, split'.stuck⟩
          exact ⟨congrArg (a :: ·) tails.1, tails.2⟩

end Codec

end AfcDut.Wire
