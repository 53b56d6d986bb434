import AfcDut.Simulator.RandomSpec
import Mathlib.Data.Finset.Card

/-!
# The choice of the picks

`random_picks` as a set of CFIs, for each of the four branches of
`build_random_vector` that choose them.
-/

namespace AfcDut.Simulator

open Py

/-- A list of CFIs as a set: equal numbers are one element. -/
def cfiSet (cfis : List Json) : Finset (Option Key) := (cfis.map Json.key?).toFinset

variable {differenceLastPicks : Bool} {last cfis : List Json} {d : Draws}

theorem mem_cfiSet {k : Option Key} : k ∈ cfiSet cfis ↔ k ∈ cfis.map Json.key? := List.mem_toFinset

/-- The picks are covered. -/
theorem cfiSet_pickCfis_subset : cfiSet (pickCfis differenceLastPicks last cfis d) ⊆ cfiSet cfis := by
  intro k hk
  rw [mem_cfiSet] at hk ⊢
  unfold pickCfis at hk
  split at hk
  · split at hk
    · rw [mem_map_key_sortNums] at hk
      have hle : cfis.length / 2 ≤ cfis.length := Nat.div_le_self _ _
      exact List.map_subset _ (d.sample_subperm cfis _ hle).subset hk
    · exact mem_map_key_sortNums.mp hk
  · split at hk
    · rw [mem_map_key_sortNums, mem_map_key_diff, mem_map_key_distinct] at hk
      exact hk.1
    · exact mem_map_key_sortNums.mp hk

/-- With the difference, of two or more: those not picked before. -/
theorem cfiSet_pickCfis_diff (hdiff : differenceLastPicks = true) (h : 2 ≤ cfis.length) :
    cfiSet (pickCfis differenceLastPicks last cfis d) = cfiSet cfis \ cfiSet last := by
  ext k
  rw [pickCfis, hdiff, if_neg (by simp), if_pos h, mem_cfiSet, mem_map_key_sortNums,
    mem_map_key_diff, mem_map_key_distinct, mem_map_key_distinct, Finset.mem_sdiff, mem_cfiSet,
    mem_cfiSet]

/-- A single one is picked again. -/
theorem cfiSet_pickCfis_single (h : ¬ 2 ≤ cfis.length) :
    cfiSet (pickCfis differenceLastPicks last cfis d) = cfiSet cfis := by
  ext k
  rw [mem_cfiSet, mem_cfiSet]
  unfold pickCfis
  simp only [h, if_false, ite_self, mem_map_key_sortNums]

/-- At least one CFI is picked, unless none is covered or, with the difference,
all were picked before. -/
theorem pickCfis_ne_nil_iff :
    pickCfis differenceLastPicks last cfis d ≠ [] ↔
      cfis ≠ [] ∧ (differenceLastPicks = true → 2 ≤ cfis.length → ¬ cfiSet cfis ⊆ cfiSet last) := by
  have hset : pickCfis differenceLastPicks last cfis d ≠ [] ↔
      (cfiSet (pickCfis differenceLastPicks last cfis d)).Nonempty := by
    rw [cfiSet, List.toFinset_nonempty_iff, ne_eq, ne_eq, List.map_eq_nil_iff]
  -- with fewer than two all four branches pick what is covered
  by_cases hlength : 2 ≤ cfis.length
  · have hne : cfis ≠ [] := List.length_pos_iff.mp (by omega)
    cases differenceLastPicks with
    | true =>
        rw [hset, cfiSet_pickCfis_diff rfl hlength, Finset.sdiff_nonempty]
        simp [hne, hlength]
    | false =>
        -- half of two or more is at least one
        have hsample := d.sample_length cfis (cfis.length / 2) (Nat.div_le_self _ _)
        have hpos : 0 < (d.sample cfis (cfis.length / 2)).length := by omega
        obtain ⟨x, hx⟩ := List.exists_mem_of_length_pos hpos
        have hpick : x ∈ pickCfis false last cfis d := by
          rw [pickCfis, if_pos (by simp), if_pos hlength, mem_sortNums]
          exact hx
        exact iff_of_true (List.ne_nil_of_mem hpick) ⟨hne, fun h => absurd h Bool.false_ne_true⟩
  · rw [hset, cfiSet_pickCfis_single hlength, cfiSet, List.toFinset_nonempty_iff, ne_eq,
      List.map_eq_nil_iff]
    exact ⟨fun h => ⟨h, fun _ h2 => absurd h2 hlength⟩, And.left⟩

end AfcDut.Simulator
