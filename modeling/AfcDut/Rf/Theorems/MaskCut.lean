import AfcDut.Rf.Verdict
import Mathlib.Tactic.Ring

/-!
# Cutting a range of the response

A response may describe one mask in several ways: a range, or two adjacent
ranges with the same limit. A window is `(int(freq - chwidth/2),
int(freq + chwidth/2))`, so every pair of integers is one, and the two
responses are told apart by the windows that hold a part but not the whole.
-/

namespace AfcDut.Rf.Theorems.MaskCut

open Py Spectrum RfMeasurementValidation

/-- Two lists of ranges, one with a range where the other has its two parts.
Read in one direction it is a cut, in the other a merge. -/
structure Cut where
  others : List (Grant ℚ ℚ)
  range : Grant ℚ ℚ
  point : ℚ
  low_lt : range.low < point
  lt_high : point < range.high
  whole : List (Grant ℚ ℚ)
  parts : List (Grant ℚ ℚ)
  whole_perm : whole.Perm (range :: others)
  parts_perm : parts.Perm (range.below point low_lt :: range.above point lt_high :: others)

/-- The object for a response of well-formed ranges. -/
def checking (gs : List (Grant ℚ ℚ)) (chans : Option (List AvailableChannelInfo))
    (report : Option RfMeasurementReport) : RfMeasurementValidation :=
  .new (some ⟨some (gs.map offered), chans⟩) report

/-- Limits and flags are those of the whole range, for every report and every
use the object has had. -/
def SameVerdicts (c : Cut) : Prop :=
  ∀ chans report memo,
    (∀ freq chwidth,
      ((checking c.parts chans report).getSpLimitByFreq freq chwidth |>.run.run memo).1 =
        ((checking c.whole chans report).getSpLimitByFreq freq chwidth |>.run.run memo).1) ∧
    ((checking c.parts chans report).validateRfMeasurementByFreq.run memo).1 =
      ((checking c.whole chans report).validateRfMeasurementByFreq.run memo).1

/-- In the smallest window of whole MHz around each part, either the whole
range fits too or another range inside has a limit that is no higher. -/
def PartsShadowed (c : Cut) : Prop :=
  (⌈c.point⌉ < c.range.high →
    Shadowed c.others c.range.limit (⌊c.range.low⌋ : ℚ) (⌈c.point⌉ : ℚ)) ∧
  (c.range.low < ⌊c.point⌋ →
    Shadowed c.others c.range.limit (⌊c.point⌋ : ℚ) (⌈c.range.high⌉ : ℚ))

theorem shadowed_mono {gs : List (Grant ℚ ℚ)} {p lo hi lo' hi' : ℚ} (h : Shadowed gs p lo hi)
    (hlo : lo' ≤ lo) (hhi : hi ≤ hi') : Shadowed gs p lo' hi' := by
  obtain ⟨g, hg, hin, hle⟩ := h
  exact ⟨g, hg, hin.mono hlo hhi, hle⟩

/-- Every window has integer ends, and every pair of integers is a window. -/
theorem forall_window_iff {P : ℚ → ℚ → Prop} :
    (∀ freq chwidth, P (window freq chwidth).1 (window freq chwidth).2) ↔
      ∀ a b : Int, P a b := by
  constructor
  · intro h a b
    have hab := h (((a : ℚ) + b) / 2) ((b : ℚ) - a)
    have hlo : ((a : ℚ) + b) / 2 - ((b : ℚ) - a) / 2 = a := by ring
    have hhi : ((a : ℚ) + b) / 2 + ((b : ℚ) - a) / 2 = b := by ring
    unfold window at hab
    rwa [hlo, hhi, trunc_intCast, trunc_intCast] at hab
  · intro h freq chwidth
    exact h _ _

/-- The limits of all windows survive the cut when its parts are shadowed. -/
theorem limits_eq_iff (c : Cut) :
    (∀ a b : Int, insideLimit c.parts (a : ℚ) b = insideLimit c.whole (a : ℚ) b) ↔
      PartsShadowed c := by
  simp only [insideLimit_perm c.whole_perm, insideLimit_perm c.parts_perm, insideLimit_cut_iff]
  constructor
  · intro h
    refine ⟨fun hlt => ?_, fun hlt => ?_⟩
    · have hpart : (c.range.below c.point c.low_lt).Inside (⌊c.range.low⌋ : ℚ) (⌈c.point⌉ : ℚ) :=
        ⟨Int.floor_le _, Int.le_ceil _⟩
      exact (h _ _ (.inl hpart)).resolve_left fun hin => absurd hin.2 (not_le.mpr hlt)
    · have hpart : (c.range.above c.point c.lt_high).Inside (⌊c.point⌋ : ℚ) (⌈c.range.high⌉ : ℚ) :=
        ⟨Int.floor_le _, Int.le_ceil _⟩
      exact (h _ _ (.inr hpart)).resolve_left fun hin => absurd hin.1 (not_le.mpr hlt)
  · rintro ⟨hbelow, habove⟩ a b hpart
    by_cases hwhole : c.range.Inside (a : ℚ) b
    · exact .inl hwhole
    · right
      rcases hpart with ⟨hlo, hhi⟩ | ⟨hlo, hhi⟩
      · -- the lower part alone: the window ends below the range
        have hb : (b : ℚ) < c.range.high := by
          by_contra hge
          exact hwhole ⟨hlo, not_lt.mp hge⟩
        have hceil : (⌈c.point⌉ : ℚ) ≤ b := by exact_mod_cast Int.ceil_le.mpr hhi
        have hfloor : (a : ℚ) ≤ ⌊c.range.low⌋ := by exact_mod_cast Int.le_floor.mpr hlo
        exact shadowed_mono (hbelow (hceil.trans_lt hb)) hfloor hceil
      · -- the upper part alone: the window starts above the range's low end
        have ha : c.range.low < a := by
          by_contra hge
          exact hwhole ⟨not_lt.mp hge, hhi⟩
        have hfloor : (a : ℚ) ≤ ⌊c.point⌋ := by exact_mod_cast Int.le_floor.mpr hlo
        have hceil : (⌈c.range.high⌉ : ℚ) ≤ b := by exact_mod_cast Int.ceil_le.mpr hhi
        exact shadowed_mono (habove (ha.trans_le hfloor)) hfloor hceil

section Verdicts

variable {gs ks : List (Grant ℚ ℚ)} {chans : Option (List AvailableChannelInfo)}
  {report : Option RfMeasurementReport}

theorem spLimit_checking (freq chwidth : ℚ) :
    (checking gs chans report).spLimit freq chwidth =
      .ok (insideLimit gs (window freq chwidth).1 (window freq chwidth).2) :=
  spLimit_offered rfl freq chwidth

/-- The flags depend on the ranges only through the limits of the windows. -/
theorem freqVerdict_congr (hempty : gs.isEmpty = ks.isEmpty)
    (h : ∀ freq chwidth, (checking gs chans report).spLimit freq chwidth =
      (checking ks chans report).spLimit freq chwidth) :
    (checking gs chans report).freqVerdict = (checking ks chans report).freqVerdict := by
  have hlimit : (checking gs chans report).spLimit = (checking ks chans report).spLimit :=
    funext fun freq => funext (h freq)
  have hblock : (checking gs chans report).blockWithin = (checking ks chans report).blockWithin := by
    funext info
    unfold blockWithin
    rw [hlimit]
    rfl
  have hpower : (checking gs chans report).powerByFreq = (checking ks chans report).powerByFreq := by
    unfold powerByFreq
    rw [hlimit]
    rfl
  have hitems : (checking gs chans report).respAvailFreqInfo.isEmpty =
      (checking ks chans report).respAvailFreqInfo.isEmpty := by
    show (gs.map offered).isEmpty = (ks.map offered).isEmpty
    rw [List.isEmpty_map, List.isEmpty_map, hempty]
  have hadjacent : (checking gs chans report).adjacent = (checking ks chans report).adjacent := by
    unfold adjacent
    rw [hblock, hitems]
    rfl
  unfold freqVerdict
  rw [hpower, hadjacent]

end Verdicts

/-- **Cuts.** Cutting a range, or merging its parts, leaves every limit and
both flags of every report alone exactly when each part is shadowed in the
smallest window that shows it without the whole. -/
theorem sameVerdicts_iff (c : Cut) : SameVerdicts c ↔ PartsShadowed c := by
  have hlimits : (∀ chans report, ∀ freq chwidth, (checking c.parts chans report).spLimit freq chwidth =
      (checking c.whole chans report).spLimit freq chwidth) ↔ PartsShadowed c := by
    simp only [spLimit_checking, Except.ok.injEq, ← limits_eq_iff]
    rw [forall_const, forall_const]
    exact forall_window_iff (P := fun lo hi => insideLimit c.parts lo hi = insideLimit c.whole lo hi)
  have hempty : c.parts.isEmpty = c.whole.isEmpty := by
    have hparts := c.parts_perm.length_eq
    have hwhole := c.whole_perm.length_eq
    cases hp : c.parts with
    | nil => rw [hp] at hparts; simp at hparts
    | cons _ _ =>
        cases hw : c.whole with
        | nil => rw [hw] at hwhole; simp at hwhole
        | cons _ _ => rfl
  unfold SameVerdicts
  simp only [getSpLimitByFreq_returns _ _ _ _, validateRfMeasurementByFreq_eq]
  constructor
  · intro h
    refine hlimits.mp fun chans report => ?_
    exact (h chans report .init).1
  · intro h chans report memo
    have heq := hlimits.mpr h chans report
    exact ⟨heq, freqVerdict_congr hempty heq⟩

/-- A 40 MHz range cut in two: a channel that had no limit gets one. -/
theorem cut_grants_channel : ¬ ∀ c : Cut, SameVerdicts c := by
  intro h
  have hsame := h
    { others := []
      range := ⟨5945, 5985, 20, by norm_num⟩
      point := 5965
      low_lt := by norm_num
      lt_high := by norm_num
      whole := [⟨5945, 5985, 20, by norm_num⟩]
      parts := [⟨5945, 5965, 20, by norm_num⟩, ⟨5965, 5985, 20, by norm_num⟩]
      whole_perm := .refl _
      parts_perm := .refl _ }
  have hlimit := (hsame none none .init).1 5955 20
  rw [getSpLimitByFreq_returns, getSpLimitByFreq_returns, spLimit_checking, spLimit_checking,
    Except.ok.injEq] at hlimit
  revert hlimit
  decide +kernel

end AfcDut.Rf.Theorems.MaskCut
