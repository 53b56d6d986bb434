import AfcDut.Simulator.Phases
import AfcDut.Simulator.Picks

/-!
# The picks of two phases

The second phase of a random test picks the CFIs it covers minus the picks it
finds, which are those of the first phase unless an inquiry in between failed
while its vector was built. The two pick sets split what is covered unless the
second phase covers only CFIs already picked.
-/

namespace AfcDut.Simulator.Theorems.TwoPhases

open Py Service Lts

/-- A run of two random phases, the second one with `difference_last_picks`. -/
structure TwoPhaseRun (files : TestFiles) where
  start : Sys
  tc₁ : TestCaseControl
  call₁ : RandomCall tc₁
  phase₁ : Phase files (configured start tc₁)
  tc₂ : TestCaseControl
  call₂ : RandomCall tc₂
  difference : isSet tc₂.differenceLastPicks = true
  phase₂ : Phase files (configured phase₁.finish tc₂)

section Run

variable {files : TestFiles} (run : TwoPhaseRun files)

/-- The CFIs that the first accepted inquiries cover. -/
def TwoPhaseRun.covers₁ : Finset (Option Key) := cfiSet run.phase₁.covered

def TwoPhaseRun.covers₂ : Finset (Option Key) := cfiSet run.phase₂.covered

/-- The picks at the end of each phase. -/
def TwoPhaseRun.picks₁ : Finset (Option Key) := cfiSet run.phase₁.finish.g.randomPicks

def TwoPhaseRun.picks₂ : Finset (Option Key) := cfiSet run.phase₂.finish.g.randomPicks

/-- The picks the first accepted inquiry of the second phase finds. -/
def TwoPhaseRun.found : Finset (Option Key) := cfiSet run.phase₂.arrival.g.randomPicks

/-- The picks of the second phase are new, and together the two phases pick
what both cover. -/
def PicksSplit : Prop :=
  (2 ≤ run.covers₂.card → run.picks₂.Nonempty ∧ Disjoint run.picks₂ run.picks₁) ∧
    (run.covers₁ = run.covers₂ → run.picks₁ ∪ run.picks₂ = run.covers₂)

/-- What the second phase covers is not used up: it has a CFI that was not
found picked, and what was found picked are the picks of the first phase, as
far as it covers them. -/
def NotUsedUp : Prop :=
  2 ≤ run.covers₂.card → ¬ run.covers₂ ⊆ run.found ∧ run.covers₂ ∩ run.picks₁ ⊆ run.found ∧
    (run.covers₁ = run.covers₂ → run.covers₂ ∩ run.found ⊆ run.picks₁)

end Run

/-! ## The two phases -/

section Split

variable {files : TestFiles} (run : TwoPhaseRun files)

theorem card_covers₂ : run.covers₂.card = run.phase₂.covered.length := by
  have hnodup : (run.phase₂.covered.map Json.key?).Nodup := nodup_covered _ _
  rw [TwoPhaseRun.covers₂, cfiSet, List.toFinset_card_of_nodup hnodup, List.length_map]

theorem picks₁_subset : run.picks₁ ⊆ run.covers₁ := by
  rw [TwoPhaseRun.picks₁, run.phase₁.finish_picks (unbuilt_configured run.call₁ run.start)]
  exact cfiSet_pickCfis_subset

theorem difference_arrival : run.phase₂.arrival.g.differenceLastPicks = true := by
  have hunbuilt := unbuilt_configured run.call₂ run.phase₁.finish
  obtain ⟨-, hsettings⟩ := run.phase₂.unbuilt_arrival hunbuilt
  have hsame : run.phase₂.arrival.g.differenceLastPicks =
      (configured run.phase₁.finish run.tc₂).g.differenceLastPicks :=
    congrArg Settings.differenceLastPicks hsettings
  rw [hsame, configured_difference run.call₂, run.difference]

/-- The second phase picks what it covers and did not find picked; a single CFI
in any case. -/
theorem picks₂_eq : run.picks₂ =
    if 2 ≤ run.covers₂.card then run.covers₂ \ run.found else run.covers₂ := by
  rw [card_covers₂, TwoPhaseRun.picks₂,
    run.phase₂.finish_picks (unbuilt_configured run.call₂ run.phase₁.finish)]
  split
  · exact cfiSet_pickCfis_diff (difference_arrival run) ‹_›
  · exact cfiSet_pickCfis_single ‹_›

/-- Unless an inquiry crashes before, the second phase finds the picks of the
first. -/
theorem found_eq_picks₁
    (hcrash : ∀ m ∈ moves (step files) (configured run.phase₁.finish run.tc₂) run.phase₂.pre,
      m.output ≠ .serverError) : run.found = run.picks₁ := by
  rw [TwoPhaseRun.found, run.phase₂.arrival_picks (unbuilt_configured run.call₂ _) hcrash,
    configured_picks]
  rfl

/-- Then it is used up only if all it covers was picked in the first. -/
theorem notUsedUp_iff (hfound : run.found = run.picks₁) :
    NotUsedUp run ↔ (2 ≤ run.covers₂.card → ¬ run.covers₂ ⊆ run.picks₁) := by
  unfold NotUsedUp
  rw [hfound]
  refine forall_congr' fun _ => ?_
  exact and_iff_left ⟨Finset.inter_subset_right, fun _ => Finset.inter_subset_right⟩

/-- **Picks of two phases.** They split what is covered exactly when the second
phase does not cover used-up CFIs only. -/
theorem picksSplit_iff (files : TestFiles) (run : TwoPhaseRun files) :
    PicksSplit run ↔ NotUsedUp run := by
  have hsub := picks₁_subset run
  have hpicks := picks₂_eq run
  by_cases hcard : 2 ≤ run.covers₂.card
  · rw [if_pos hcard] at hpicks
    have hnonempty : run.picks₂.Nonempty ↔ ¬ run.covers₂ ⊆ run.found := by
      rw [hpicks, Finset.sdiff_nonempty]
    have hdisjoint : Disjoint run.picks₂ run.picks₁ ↔ run.covers₂ ∩ run.picks₁ ⊆ run.found := by
      rw [hpicks, Finset.disjoint_left]
      constructor
      · intro h k hk
        obtain ⟨hcov, hpick⟩ := Finset.mem_inter.mp hk
        by_contra hnot
        exact h (Finset.mem_sdiff.mpr ⟨hcov, hnot⟩) hpick
      · intro h k hk hpick
        obtain ⟨hcov, hnot⟩ := Finset.mem_sdiff.mp hk
        exact hnot (h (Finset.mem_inter.mpr ⟨hcov, hpick⟩))
    have hunion : run.covers₁ = run.covers₂ → (run.picks₁ ∪ run.picks₂ = run.covers₂ ↔
        run.covers₂ ∩ run.found ⊆ run.picks₁) := by
      intro hsame
      rw [hpicks]
      constructor
      · intro h k hk
        obtain ⟨hcov, hfound⟩ := Finset.mem_inter.mp hk
        rw [← h, Finset.mem_union, Finset.mem_sdiff] at hcov
        exact hcov.resolve_right fun hnew => hnew.2 hfound
      · intro h
        refine Finset.Subset.antisymm ?_ ?_
        · exact Finset.union_subset (hsame ▸ hsub) Finset.sdiff_subset
        · intro k hk
          rw [Finset.mem_union, Finset.mem_sdiff]
          by_cases hfound : k ∈ run.found
          · exact .inl (h (Finset.mem_inter.mpr ⟨hk, hfound⟩))
          · exact .inr ⟨hk, hfound⟩
    unfold PicksSplit NotUsedUp
    simp only [hcard, true_implies, hnonempty, hdisjoint, and_assoc]
    refine and_congr_right fun _ => and_congr_right fun _ => ?_
    exact forall_congr' fun hsame => hunion hsame
  · rw [if_neg hcard] at hpicks
    unfold PicksSplit NotUsedUp
    refine iff_of_true ⟨fun h => absurd h hcard, fun hsame => ?_⟩ fun h => absurd h hcard
    rw [hpicks]
    exact Finset.union_eq_right.mpr (hsame ▸ hsub)

end Split

/-! ## A second phase of used-up CFIs -/

/-- An inquiry of 80 MHz channels. -/
def inquire80 (cfis : List Int) : HttpRequest :=
  .ofJson (inquiryBody "one" [certUS] [("inquiredChannels", .arr [inquireChannels 133 cfis])])

theorem passes_first : Passes (configured Sys.init (randomCall (some 1) false)).g
    (inquire80 [7, 23, 39, 55]) .lowest := by
  unfold Passes
  decide +kernel

/-- Four CFIs are covered, and two of them picked. -/
def firstPhase : Phase (fun _ _ => .absent) (configured Sys.init (randomCall (some 1) false)) :=
  onePhase passes_first

theorem passes_second : Passes (configured firstPhase.finish (randomCall (some 2) true)).g
    (inquire80 [7, 23]) .lowest := by
  unfold Passes
  decide +kernel

/-- The second phase covers the two that were picked. -/
def usedUp : TwoPhaseRun fun _ _ => .absent where
  start := Sys.init
  tc₁ := randomCall (some 1) false
  call₁ := randomCall_call (some 1) false
  phase₁ := firstPhase
  tc₂ := randomCall (some 2) true
  call₂ := randomCall_call (some 2) true
  difference := randomCall_difference (some 2)
  phase₂ := onePhase passes_second

/-- The second phase covers two CFIs and picks none. -/
theorem usedUp_picks_none : ¬ ∀ files (run : TwoPhaseRun files), PicksSplit run := by
  intro h
  have hcard : 2 ≤ usedUp.covers₂.card := by decide +kernel
  obtain ⟨hnonempty, -⟩ := (h _ usedUp).1 hcard
  have hempty : usedUp.picks₂ = ∅ := by decide +kernel
  rw [hempty] at hnonempty
  exact Finset.not_nonempty_empty hnonempty

end AfcDut.Simulator.Theorems.TwoPhases
