import Mathlib.Data.Nat.ModEq
import Mathlib.Tactic.Common

/-!
# Sums with end-around carry

A sum of words below `w` keeps its value modulo `w - 1` when its carry is added
back at the low end. The complement of the folded sum, added as one more word,
leaves a sum that folds to all ones.
-/

namespace AfcDut.Data.OnesComplement

/-- The carry of a sum is added back to its low word. -/
def fold (w s : Nat) : Nat := s % w + s / w

theorem fold_of_lt {w s : Nat} (h : s < w) : fold w s = s := by
  unfold fold
  rw [Nat.mod_eq_of_lt h, Nat.div_eq_of_lt h, Nat.add_zero]

theorem fold_lt_self {w s : Nat} (hw : 2 ≤ w) (h : w ≤ s) : fold w s < s := by
  have hsplit := Nat.div_add_mod s w
  have hquot : 0 < s / w := Nat.div_pos h (by omega)
  have htwice : 2 * (s / w) ≤ w * (s / w) := Nat.mul_le_mul_right _ hw
  unfold fold
  omega

/-- Folding goes on until there is no carry left. -/
def settle (w s : Nat) : Nat :=
  if s < w ∨ w < 2 then s else settle w (fold w s)
termination_by s
decreasing_by exact fold_lt_self (by omega) (by omega)

theorem fold_modEq {w : Nat} (hw : 0 < w) (s : Nat) : fold w s ≡ s [MOD w - 1] := by
  have hone : w ≡ 1 [MOD w - 1] := by
    have h := Nat.add_modEq_left (n := w - 1) (a := 1)
    rwa [Nat.sub_add_cancel hw] at h
  have hcarry : w * (s / w) ≡ s / w [MOD w - 1] := by
    simpa only [Nat.one_mul] using hone.mul_right (s / w)
  calc fold w s = s % w + s / w := rfl
    _ ≡ s % w + w * (s / w) [MOD w - 1] := hcarry.symm.add_left _
    _ = s := Nat.mod_add_div s w

theorem fold_pos {w s : Nat} (h : 0 < s) : 0 < fold w s := by
  have hsplit := Nat.mod_add_div s w
  by_contra hzero
  obtain ⟨hlow, hcarry⟩ := Nat.add_eq_zero_iff.mp (Nat.eq_zero_of_not_pos hzero)
  rw [hlow, hcarry, Nat.mul_zero] at hsplit
  omega

/-- Two folds are enough for a sum of fewer than `w` words. -/
theorem fold_fold_lt {w s : Nat} (h : s < w * w) : fold w (fold w s) < w := by
  have hw : 0 < w := Nat.pos_of_mul_pos_left (by omega : 0 < w * w)
  have hlow : s % w < w := Nat.mod_lt _ hw
  have hcarry : s / w < w := Nat.div_lt_of_lt_mul h
  rcases Nat.lt_or_ge (fold w s) w with hlt | hge
  · rw [fold_of_lt hlt]
    exact hlt
  · have htop : fold w s - w < w := by unfold fold; omega
    have hmod : fold w s % w = fold w s - w := by
      rw [Nat.mod_eq_sub_mod hge, Nat.mod_eq_of_lt htop]
    have hdiv : fold w s / w = 1 := by
      rw [Nat.div_eq_sub_div hw hge, Nat.div_eq_of_lt htop]
    show fold w s % w + fold w s / w < w
    rw [hmod, hdiv]
    unfold fold at hge ⊢
    omega

theorem settle_of_lt {w s : Nat} (h : s < w) : settle w s = s := by
  rw [settle, if_pos (Or.inl h)]

theorem settle_fold (w s : Nat) : settle w (fold w s) = settle w s := by
  rcases Nat.lt_or_ge s w with hlt | hge
  · rw [fold_of_lt hlt]
  · rcases Nat.lt_or_ge w 2 with hsmall | hw
    · rcases Nat.eq_zero_or_pos w with rfl | hpos
      · simp [fold]
      · obtain rfl : w = 1 := by omega
        simp [fold, Nat.mod_one]
    · conv_rhs => rw [settle, if_neg (by omega)]

theorem settle_eq_fold_fold {w s : Nat} (h : s < w * w) : settle w s = fold w (fold w s) := by
  rw [← settle_fold, ← settle_fold, settle_of_lt (fold_fold_lt h)]

/-- The sum, with the complement of what it folds to as one more word, folds
to all ones. -/
theorem fold_fold_complement {w s : Nat} (hw : 2 ≤ w) (hs : s < w * w)
    (ht : s + (w - 1 - fold w (fold w s)) < w * w) :
    fold w (fold w (s + (w - 1 - fold w (fold w s)))) = w - 1 := by
  have hf := fold_fold_lt hs
  have hsame : fold w (fold w s) ≡ s [MOD w - 1] :=
    (fold_modEq (by omega) _).trans (fold_modEq (by omega) s)
  have htotal : s + (w - 1 - fold w (fold w s)) ≡ 0 [MOD w - 1] := by
    have hadd := hsame.symm.add_right (w - 1 - fold w (fold w s))
    rw [Nat.add_sub_cancel' (by omega)] at hadd
    exact hadd.trans (Nat.modEq_zero_iff_dvd.mpr (Nat.dvd_refl _))
  have hpos : 0 < s + (w - 1 - fold w (fold w s)) := by
    rcases Nat.eq_zero_or_pos s with rfl | hpos
    · have hzero : fold w 0 = 0 := fold_of_lt (by omega)
      rw [hzero, hzero]
      omega
    · omega
  have hlt := fold_fold_lt ht
  have hdvd : w - 1 ∣ fold w (fold w (s + (w - 1 - fold w (fold w s)))) :=
    Nat.modEq_zero_iff_dvd.mp
      (((fold_modEq (by omega) _).trans (fold_modEq (by omega) _)).trans htotal)
  have hle := Nat.le_of_dvd (fold_pos (fold_pos hpos)) hdvd
  omega

end AfcDut.Data.OnesComplement
