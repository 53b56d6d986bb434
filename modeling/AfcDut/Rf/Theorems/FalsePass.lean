import AfcDut.Rf.Scan
import Mathlib.Tactic.Ring

/-!
# When a true power flag is a false pass

The power check takes the limit of the ranges that lie inside the operating
channel. A range that only reaches into the channel, and spectrum that no
range covers, have no say in it.
-/

namespace AfcDut.Rf.Theorems.FalsePass

open Py Spectrum RfMeasurementValidation

/-- The validation of a report of integer centre frequency and even channel
width against a response of well-formed ranges. -/
def measured (gs : List (Grant ℚ ℚ)) (chans : Option (List AvailableChannelInfo))
    (center half : Int) (packets : List Packet) : RfMeasurementValidation :=
  .new (some ⟨some (gs.map offered), chans⟩) (some ⟨center, 2 * half, packets⟩)

/-- Some call, by frequency or by both, returns a true power flag. -/
def PowerFlag (o : RfMeasurementValidation) : Prop :=
  ∃ memo, (o.validateRfMeasurementByFreq.run memo).1.1 = true ∨
    (o.validateRfMeasurementByBoth.run memo).1.1 = true

/-- The ranges cover the channel, and no packet is above the limit of a range
that overlaps it. -/
def WithinMask (gs : List (Grant ℚ ℚ)) (lo hi : ℚ) (packets : List Packet) : Prop :=
  Covers gs lo hi ∧
    ∀ g ∈ gs, g.Overlaps lo hi → ∀ pkt ∈ packets, ∃ p, pkt.maxPSD = some p ∧ p ≤ g.limit

/-! ## The condition -/

/-- Some range lies inside the channel, and every packet is within the limits
of the ranges inside. -/
def WithinInside (gs : List (Grant ℚ ℚ)) (lo hi : ℚ) (packets : List Packet) : Prop :=
  packets ≠ [] ∧ (∃ g ∈ gs, g.Inside lo hi) ∧
    ∀ pkt ∈ packets, ∃ p, pkt.maxPSD = some p ∧ ∀ g ∈ gs, g.Inside lo hi → p ≤ g.limit

/-- A block whose samples are within the limit at its frequency. -/
def BlockPasses (gs : List (Grant ℚ ℚ)) (chwidth : ℚ) (info : PsdInfo) : Prop :=
  ∃ freq psds, info.freqMhz = some freq ∧ info.psdDbmMHz = some psds ∧
    ∀ limit, insideLimit gs (window freq chwidth).1 (window freq chwidth).2 = some limit →
      ∀ psd ∈ psds, psd ≤ limit

def BlockLacksField (info : PsdInfo) : Prop := info.freqMhz = none ∨ info.psdDbmMHz = none

def PacketPasses (gs : List (Grant ℚ ℚ)) (chwidth : ℚ) (pkt : Packet) : Prop :=
  ∃ infos, pkt.freqPsdPerMHz = some infos ∧ ∀ info ∈ infos, BlockPasses gs chwidth info

/-- A packet without blocks, or with an incomplete block before any block
above its limit. -/
def PacketLacksField (gs : List (Grant ℚ ℚ)) (chwidth : ℚ) (pkt : Packet) : Prop :=
  pkt.freqPsdPerMHz = none ∨ ∃ infos, pkt.freqPsdPerMHz = some infos ∧
    Reaches (BlockPasses gs chwidth) BlockLacksField infos

/-- The scan of the measured blocks meets a missing field. -/
def ScanLacksField (gs : List (Grant ℚ ℚ)) (chwidth : ℚ) (packets : List Packet) : Prop :=
  Reaches (PacketPasses gs chwidth) (PacketLacksField gs chwidth) packets

/-- A range that reaches into the channel without lying inside it. -/
def Straddles (g : Grant ℚ ℚ) (lo hi : ℚ) : Prop := g.Overlaps lo hi ∧ ¬ g.Inside lo hi

/-- No hole in the channel, and no packet above a range that straddles it. -/
def HolesAndStraddlersRespected (gs : List (Grant ℚ ℚ)) (lo hi : ℚ) (packets : List Packet) : Prop :=
  Covers gs lo hi ∧ ∀ g ∈ gs, Straddles g lo hi → ∀ pkt ∈ packets, ∀ p, pkt.maxPSD = some p →
    p ≤ g.limit

/-! ## What the checks compute -/

section Checks

variable {gs : List (Grant ℚ ℚ)} {chans : Option (List AvailableChannelInfo)} {center half : Int}
  {packets : List Packet}

theorem window_measured (center half : Int) :
    window center (2 * half) = ((center - half : ℚ), (center + half : ℚ)) := by
  have hlo : (center : ℚ) - 2 * half / 2 = ((center - half : Int) : ℚ) := by push_cast; ring
  have hhi : (center : ℚ) + 2 * half / 2 = ((center + half : Int) : ℚ) := by push_cast; ring
  unfold window
  rw [hlo, hhi, trunc_intCast, trunc_intCast]
  push_cast
  rfl

theorem spLimit_measured (freq chwidth : ℚ) :
    (measured gs chans center half packets).spLimit freq chwidth =
      .ok (insideLimit gs (window freq chwidth).1 (window freq chwidth).2) :=
  spLimit_offered rfl freq chwidth

theorem centerLimit_iff {limit : ℚ} :
    (measured gs chans center half packets).CenterLimit limit ↔
      insideLimit gs (center - half) (center + half) = some limit := by
  have hcenter : (measured gs chans center half packets).CenterLimit limit ↔
      (measured gs chans center half packets).spLimit center (2 * half) = .ok (some limit) := Iff.rfl
  rw [hcenter, spLimit_measured, window_measured, Except.ok.injEq]

theorem powerFits_iff :
    (measured gs chans center half packets).PowerFits ↔
      WithinInside gs (center - half) (center + half) packets := by
  unfold PowerFits WithinInside
  refine and_congr_right fun _ => ?_
  constructor
  · rintro ⟨limit, hlimit, h⟩
    obtain ⟨⟨g, hg, hg', -⟩, hmin⟩ := insideLimit_eq_some_iff.mp (centerLimit_iff.mp hlimit)
    refine ⟨⟨g, hg, hg'⟩, fun q hq => ?_⟩
    obtain ⟨p, hp, hle⟩ := h q hq
    exact ⟨p, hp, fun k hk hk' => hle.trans (hmin k hk hk')⟩
  · rintro ⟨⟨k, hk, hk'⟩, h⟩
    cases hin : insideLimit gs ((center : ℚ) - half) (center + half) with
    | none => exact absurd hk' (insideLimit_eq_none_iff.mp hin k hk)
    | some limit =>
        obtain ⟨⟨g, hg, hg', hlim⟩, -⟩ := insideLimit_eq_some_iff.mp hin
        refine ⟨limit, centerLimit_iff.mpr hin, fun q hq => ?_⟩
        obtain ⟨p, hp, hle⟩ := h q hq
        exact ⟨p, hp, hlim ▸ hle g hg hg'⟩

/-- Only away from the centre is there no limit. -/
theorem ne_center_of_none (hin : ∃ g ∈ gs, g.Inside (center - half) (center + half)) {freq : ℚ}
    (h : insideLimit gs (window freq (2 * half)).1 (window freq (2 * half)).2 = none) :
    (center : ℚ) ≠ freq := by
  rintro rfl
  rw [window_measured] at h
  obtain ⟨g, hg, hg'⟩ := hin
  exact insideLimit_eq_none_iff.mp h g hg hg'

theorem blockFits_iff (hin : ∃ g ∈ gs, g.Inside (center - half) (center + half)) {info : PsdInfo} :
    (measured gs chans center half packets).BlockFits info ↔ BlockPasses gs (2 * half) info := by
  unfold BlockFits BlockPasses
  refine exists_congr fun freq => exists_congr fun psds => and_congr_right fun _ =>
    and_congr_right fun _ => ?_
  have hlimit : (measured gs chans center half packets).spLimit freq
      (measured gs chans center half packets).chwidth = .ok (insideLimit gs
        (window freq (2 * half)).1 (window freq (2 * half)).2) := spLimit_measured _ _
  rw [hlimit]
  constructor
  · rintro ⟨limit?, hlimit?, -, h⟩
    rw [Except.ok.injEq] at hlimit?
    exact fun limit hl => h limit (hlimit? ▸ hl)
  · intro h
    exact ⟨_, rfl, ne_center_of_none hin, h⟩

theorem blockBreaks_iff (hin : ∃ g ∈ gs, g.Inside (center - half) (center + half))
    {info : PsdInfo} :
    (measured gs chans center half packets).BlockBreaks info ↔ BlockLacksField info := by
  unfold BlockBreaks BlockLacksField
  refine or_congr_right ?_
  constructor
  · rintro (hnone | ⟨freq, -, ⟨e, he⟩ | ⟨hnone, hcenter⟩⟩)
    · exact hnone
    · rw [spLimit_measured] at he
      exact absurd he (by simp)
    · -- the window of the centre frequency has a limit
      rw [spLimit_measured, Except.ok.injEq] at hnone
      exact absurd hcenter (ne_center_of_none hin hnone)
  · exact .inl

theorem packetFits_iff (hin : ∃ g ∈ gs, g.Inside (center - half) (center + half)) {pkt : Packet} :
    (measured gs chans center half packets).PacketFits pkt ↔ PacketPasses gs (2 * half) pkt := by
  unfold PacketFits PacketPasses
  simp only [blockFits_iff hin]

theorem packetBreaks_iff (hin : ∃ g ∈ gs, g.Inside (center - half) (center + half))
    {pkt : Packet} :
    (measured gs chans center half packets).PacketBreaks pkt ↔
      PacketLacksField gs (2 * half) pkt := by
  have hfits : (measured gs chans center half packets).BlockFits = BlockPasses gs (2 * half) :=
    funext fun _ => propext (blockFits_iff hin)
  have hbreaks : (measured gs chans center half packets).BlockBreaks = BlockLacksField :=
    funext fun _ => propext (blockBreaks_iff hin)
  unfold PacketBreaks PacketLacksField
  rw [hfits, hbreaks]

theorem blocksBreak_iff (hin : ∃ g ∈ gs, g.Inside (center - half) (center + half)) :
    (measured gs chans center half packets).BlocksBreak ↔ ScanLacksField gs (2 * half) packets := by
  have hfits : (measured gs chans center half packets).PacketFits = PacketPasses gs (2 * half) :=
    funext fun _ => propext (packetFits_iff hin)
  have hbreaks : (measured gs chans center half packets).PacketBreaks =
      PacketLacksField gs (2 * half) := funext fun _ => propext (packetBreaks_iff hin)
  unfold BlocksBreak ScanLacksField
  rw [hfits, hbreaks]
  rfl

/-- The power flag in terms of the response and the report. -/
theorem powerFlag_iff :
    PowerFlag (measured gs chans center half packets) ↔
      WithinInside gs (center - half) (center + half) packets ∧
        ¬ ScanLacksField gs (2 * half) packets := by
  have hpower : (measured gs chans center half packets).freqVerdict.1 = true ↔
      WithinInside gs (center - half) (center + half) packets ∧
        ¬ ScanLacksField gs (2 * half) packets := by
    rw [freqVerdict_power_iff, powerByFreq_iff]
    constructor
    · rintro ⟨hfits, ha⟩
      have hwithin := powerFits_iff.mp hfits
      rw [hfits.adjacent_raises_iff, blocksBreak_iff hwithin.2.1] at ha
      exact ⟨hwithin, ha⟩
    · rintro ⟨hwithin, hs⟩
      have hfits : (measured gs chans center half packets).PowerFits := powerFits_iff.mpr hwithin
      refine ⟨hfits, fun ha => hs ?_⟩
      exact (blocksBreak_iff hwithin.2.1).mp (hfits.adjacent_raises_iff.mp ha)
  unfold PowerFlag
  simp only [validateRfMeasurementByFreq_eq, validateRfMeasurementByBoth_eq, bothVerdict_power_eq,
    hpower]
  constructor
  · rintro ⟨-, h | ⟨-, h⟩⟩
    · exact h
    · exact h
  · exact fun h => ⟨.init, .inl h⟩

end Checks

/-! ## False passes -/

/-- **False passes.** A true power flag certifies the channel against the mask
exactly when, on a report that the ranges inside the channel let through, the
channel has no hole and no packet is above a range that straddles it. -/
theorem noFalsePass_iff (gs : List (Grant ℚ ℚ)) (chans : Option (List AvailableChannelInfo))
    (center half : Int) (packets : List Packet) :
    (PowerFlag (measured gs chans center half packets) →
        WithinMask gs (center - half) (center + half) packets) ↔
      (WithinInside gs (center - half) (center + half) packets →
        ¬ ScanLacksField gs (2 * half) packets →
        HolesAndStraddlersRespected gs (center - half) (center + half) packets) := by
  rw [powerFlag_iff, and_imp]
  refine forall₂_congr fun hin _ => ?_
  -- the ranges inside the channel are respected already
  refine and_congr_right fun _ => ⟨fun h g hg hs pkt hpkt p hp => ?_, fun h g hg ho pkt hpkt => ?_⟩
  · obtain ⟨q, hq, hle⟩ := h g hg hs.1 pkt hpkt
    rw [hp, Option.some.injEq] at hq
    exact hq ▸ hle
  · obtain ⟨p, hp, hle⟩ := hin.2.2 pkt hpkt
    refine ⟨p, hp, ?_⟩
    by_cases hg' : g.Inside (center - half) (center + half)
    · exact hle g hg hg'
    · exact h g hg ⟨ho, hg'⟩ pkt hpkt p hp

/-- One 20 MHz segment in an 80 MHz channel: the report passes, and most of
the channel was never granted. -/
theorem hole_passes :
    ¬ ∀ (gs : List (Grant ℚ ℚ)) (chans : Option (List AvailableChannelInfo)) (center half : Int)
      (packets : List Packet), packets ≠ [] → PowerFlag (measured gs chans center half packets) →
        WithinMask gs (center - half) (center + half) packets := by
  intro h
  have hflag : PowerFlag (measured [⟨5945, 5965, 20, by norm_num⟩] none 5985 40
      [⟨some 10, some 10, some []⟩]) := ⟨.init, .inl (by decide +kernel)⟩
  obtain ⟨hcover, -⟩ := h _ _ _ _ _ (by simp) hflag
  obtain ⟨g, hg, -, hhigh⟩ := hcover 5985 (by norm_num) (by norm_num)
  rw [List.mem_singleton] at hg
  subst hg
  norm_num at hhigh

end AfcDut.Rf.Theorems.FalsePass
