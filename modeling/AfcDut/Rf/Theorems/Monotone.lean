import AfcDut.Rf.Relaxed

/-!
# Relaxed documents and the verdicts

Raising a limit or lowering a measured value should cost nobody a pass. It
does at the limit zero, which is taken for no limit, and where a value that
used to stop a scan now lets it run into a missing field.
-/

namespace AfcDut.Rf.Theorems.Monotone

open Py RfMeasurementValidation

/-- No call on the second object returns a false flag where one on the first
object returns a true one. -/
def FlagsKept (o o' : RfMeasurementValidation) : Prop :=
  ∀ memo memo',
    ((o.validateRfMeasurementByFreq.run memo).1.1 = true →
      (o'.validateRfMeasurementByFreq.run memo').1.1 = true) ∧
    ((o.validateRfMeasurementByFreq.run memo).1.2 = true →
      (o'.validateRfMeasurementByFreq.run memo').1.2 = true) ∧
    ((o.validateRfMeasurementByChan.run memo).1 = true →
      (o'.validateRfMeasurementByChan.run memo').1 = true) ∧
    ((o.validateRfMeasurementByBoth.run memo).1.1 = true →
      (o'.validateRfMeasurementByBoth.run memo').1.1 = true) ∧
    ((o.validateRfMeasurementByBoth.run memo).1.2 = true →
      (o'.validateRfMeasurementByBoth.run memo').1.2 = true)

/-- Every packet is within a negative limit of the centre channel, and that
limit is raised to zero. -/
def LimitVanishes (o o' : RfMeasurementValidation) : Prop :=
  ∃ limit < 0, getChannelMaxEirp o.centerChan o.respAvailChanInfo = .ok (some limit) ∧
    o.EirpFits limit ∧ getChannelMaxEirp o'.centerChan o'.respAvailChanInfo = .ok (some 0)

/-- Every packet is within the limit at the centre, and the scan of the blocks
breaks on the second object only. -/
def BlockUncovered (o o' : RfMeasurementValidation) : Prop :=
  o.PowerFits ∧ ¬ o.BlocksBreak ∧ o'.BlocksBreak

/-- Every block is within its limit, and the scan of the packets breaks on the
second object only. -/
def PacketUncovered (o o' : RfMeasurementValidation) : Prop :=
  o.BlocksFit ∧ ¬ o.PowerBreaks ∧ o'.PowerBreaks

section Flags

variable {o o' : RfMeasurementValidation}

/-- The flags of the combined verdict are those of the other two. -/
theorem flagsKept_iff :
    FlagsKept o o' ↔ (o.freqVerdict.1 = true → o'.freqVerdict.1 = true) ∧
      (o.freqVerdict.2 = true → o'.freqVerdict.2 = true) ∧
      (o.chanVerdict = true → o'.chanVerdict = true) := by
  unfold FlagsKept
  simp only [validateRfMeasurementByFreq_eq, validateRfMeasurementByChan_eq,
    validateRfMeasurementByBoth_eq, bothVerdict_adjacent_eq, Bool.and_eq_true,
    bothVerdict_power_eq]
  constructor
  · intro h
    obtain ⟨hpower, hadjacent, hchan, -, -⟩ := h .init .init
    exact ⟨hpower, hadjacent, hchan⟩
  · rintro ⟨hpower, hadjacent, hchan⟩ - -
    exact ⟨hpower, hadjacent, hchan, And.imp hchan hpower,
      And.imp (And.imp hchan hpower) hadjacent⟩

theorem chanFlag_iff (h : Relaxed o o') :
    (o.chanVerdict = true → o'.chanVerdict = true) ↔ ¬ LimitVanishes o o' := by
  rw [chanVerdict_iff, chanVerdict_iff, powerByChan_iff, powerByChan_iff]
  constructor
  · rintro hkept ⟨limit, hneg, hlimit, hfits, hzero⟩
    obtain ⟨limit', hlimit', hne, -⟩ := hkept ⟨limit, hlimit, hneg.ne, hfits⟩
    rw [hzero, Except.ok.injEq, Option.some.injEq] at hlimit'
    exact hne hlimit'.symm
  · rintro hvanish ⟨limit, hlimit, hne, hfits⟩
    obtain ⟨limit?, hlimit', hle⟩ := h.chanLimit_related.eq_ok hlimit
    cases hle with
    | @some _ limit' hle =>
        refine ⟨limit', hlimit', ?_, h.eirpFits hle hfits⟩
        rintro rfl
        exact hvanish ⟨limit, lt_of_le_of_ne hle hne, hlimit, hfits, hlimit'⟩

theorem powerFlag_iff (h : Relaxed o o') :
    (o.freqVerdict.1 = true → o'.freqVerdict.1 = true) ↔ ¬ BlockUncovered o o' := by
  rw [freqVerdict_power_iff, freqVerdict_power_iff, powerByFreq_iff, powerByFreq_iff]
  constructor
  · rintro hkept ⟨hfits, hscan, hscan'⟩
    obtain ⟨hfits', hnoraise⟩ := hkept ⟨hfits, mt hfits.adjacent_raises_iff.mp hscan⟩
    exact hnoraise (hfits'.adjacent_raises_iff.mpr hscan')
  · rintro huncovered ⟨hfits, hnoraise⟩
    have hfits' := h.powerFits hfits
    refine ⟨hfits', fun hraise => huncovered ⟨hfits, ?_, ?_⟩⟩
    · exact mt hfits.adjacent_raises_iff.mpr hnoraise
    · exact hfits'.adjacent_raises_iff.mp hraise

theorem adjacentFlag_iff (h : Relaxed o o') :
    (o.freqVerdict.2 = true → o'.freqVerdict.2 = true) ↔ ¬ PacketUncovered o o' := by
  rw [freqVerdict_adjacent_iff, freqVerdict_adjacent_iff, adjacent_iff, adjacent_iff]
  constructor
  · rintro hkept ⟨hfit, hscan, hscan'⟩
    obtain ⟨limit', hlimit', -⟩ := id hscan'
    -- the limit at the centre exists, so only a missing field raises
    have hitems : o.respAvailFreqInfo ≠ [] := mt h.items_iff.mp hlimit'.items
    have hread' : ¬ ∃ e, o'.spLimit o'.centerFreq o'.chwidth = .error e := by
      rw [hlimit']
      simp
    have hnoraise : ¬ ∃ e, o.powerByFreq = .error e := by
      rw [powerByFreq_raises_iff hfit.1, not_or, h.centerLimit_error_iff]
      exact ⟨hread', hscan⟩
    obtain ⟨⟨-, hfit'⟩, hnoraise'⟩ := hkept ⟨⟨hitems, hfit⟩, hnoraise⟩
    exact hnoraise' ((powerByFreq_raises_iff hfit'.1).mpr (.inr hscan'))
  · rintro huncovered ⟨⟨hitems, hfit⟩, hnoraise⟩
    have hfit' := h.blocksFit hfit
    refine ⟨⟨mt h.items_iff.mpr hitems, hfit'⟩, fun hraise => ?_⟩
    rw [powerByFreq_raises_iff hfit.1, not_or] at hnoraise
    rcases (powerByFreq_raises_iff hfit'.1).mp hraise with hread | hscan'
    · exact hnoraise.1 (h.centerLimit_error_iff.mpr hread)
    · exact huncovered ⟨hfit, hnoraise.2, hscan'⟩

/-- On complete documents only the limit zero costs a pass. -/
theorem flagsKept_iff_of_complete (h : Relaxed o o') (hcomplete : o'.Complete) :
    FlagsKept o o' ↔ ¬ LimitVanishes o o' := by
  have hblock : ¬ BlockUncovered o o' := fun hu =>
    hcomplete.not_blocksBreak (h.powerFits hu.1) hu.2.2
  have hpacket : ¬ PacketUncovered o o' := fun hu => hcomplete.not_powerBreaks hu.2.2
  rw [flagsKept_iff, powerFlag_iff h, adjacentFlag_iff h, chanFlag_iff h]
  exact ⟨fun hkept => hkept.2.2, fun hvanish => ⟨hblock, hpacket, hvanish⟩⟩

end Flags

/-- **Monotonicity.** For a relaxed response and a relaxed report every true
flag of every validator stays true exactly when no negative limit that all
packets keep is raised to zero, and neither scan is led past a value above its
limit to where it breaks. -/
theorem flagsKept_iff_of_relaxed {resp resp' : Option AvailResp}
    {report report' : Option RfMeasurementReport} (hresp : Option.Rel ResponseRaised resp resp')
    (hreport : Option.Rel ReportLowered report report') :
    FlagsKept (.new resp report) (.new resp' report') ↔
      ¬ LimitVanishes (.new resp report) (.new resp' report') ∧
      ¬ BlockUncovered (.new resp report) (.new resp' report') ∧
      ¬ PacketUncovered (.new resp report) (.new resp' report') := by
  have h := relaxed_new hresp hreport
  rw [flagsKept_iff, powerFlag_iff h, adjacentFlag_iff h, chanFlag_iff h]
  constructor
  · rintro ⟨hpower, hadjacent, hchan⟩
    exact ⟨hchan, hpower, hadjacent⟩
  · rintro ⟨hchan, hpower, hadjacent⟩
    exact ⟨hpower, hadjacent, hchan⟩

/-- Channel 1 with an EIRP limit, on top of a limit for its range. -/
def channelOne (maxEirp : ℚ) : AvailResp where
  availableFrequencyInfo := some [⟨some ⟨some 5945, some 5965⟩, some (-16)⟩]
  availableChannelInfo := some [⟨some [1], some [maxEirp]⟩]

/-- One packet on channel 1. -/
def packetOne (maxEirp : ℚ) : RfMeasurementReport :=
  ⟨5955, 20, [⟨some (-18), some maxEirp, some [⟨some 5955, some [-18]⟩]⟩]⟩

theorem channelOne_raised {maxEirp maxEirp' : ℚ} (h : maxEirp ≤ maxEirp') :
    ResponseRaised (channelOne maxEirp) (channelOne maxEirp') where
  availableFrequencyInfo := .some (.cons ⟨rfl, .some le_rfl⟩ .nil)
  availableChannelInfo := .some (.cons ⟨rfl, .some (.cons h .nil)⟩ .nil)

theorem packetOne_lowered {maxEirp maxEirp' : ℚ} (h : maxEirp' ≤ maxEirp) :
    ReportLowered (packetOne maxEirp) (packetOne maxEirp') where
  centralFreq := rfl
  channelWidth := rfl
  data := .cons ⟨.some le_rfl, .some h, .some (.cons ⟨rfl, .some (.cons le_rfl .nil)⟩ .nil)⟩ .nil

theorem packetOne_complete (limit maxEirp : ℚ) :
    (RfMeasurementValidation.new (some (channelOne limit)) (some (packetOne maxEirp))).Complete where
  items := by
    intro item hitem
    obtain rfl := List.mem_singleton.mp hitem
    exact ⟨_, _, _, rfl⟩
  maxPSD := by
    intro pkt hpkt
    obtain rfl := List.mem_singleton.mp hpkt
    exact Option.some_ne_none _
  blocks := by
    intro pkt hpkt
    obtain rfl := List.mem_singleton.mp hpkt
    refine ⟨_, rfl, fun info hinfo => ?_⟩
    obtain rfl := List.mem_singleton.mp hinfo
    exact ⟨Option.some_ne_none _, Option.some_ne_none _⟩

/-- The limit of channel 1 rises from -3 to -2 dBm and the packet falls from
-4 to -5 dBm. -/
theorem flagsKept_below_zero :
    FlagsKept (.new (some (channelOne (-3))) (some (packetOne (-4))))
      (.new (some (channelOne (-2))) (some (packetOne (-5)))) := by
  have hresp := Option.Rel.some (channelOne_raised (by norm_num : (-3 : ℚ) ≤ -2))
  have hreport := Option.Rel.some (packetOne_lowered (by norm_num : (-5 : ℚ) ≤ -4))
  have hcomplete := packetOne_complete (-2) (-5)
  refine (flagsKept_iff_of_relaxed hresp hreport).mpr ⟨?_, ?_, ?_⟩
  · rintro ⟨-, -, -, -, hzero⟩
    revert hzero
    decide +kernel
  · rintro ⟨hfits, -, hscan⟩
    exact hcomplete.not_blocksBreak ((relaxed_new hresp hreport).powerFits hfits) hscan
  · rintro ⟨-, -, hscan⟩
    exact hcomplete.not_powerBreaks hscan

/-- Raised from -3 to 0 dBm, the limit of channel 1 is gone, and the packet
that passed fails. -/
theorem zero_limit_fails :
    ¬ ∀ (resp resp' : Option AvailResp) (report report' : Option RfMeasurementReport),
      Option.Rel ResponseRaised resp resp' → Option.Rel ReportLowered report report' →
        FlagsKept (.new resp report) (.new resp' report') := by
  intro h
  have hkept := h _ _ _ _ (.some (channelOne_raised (by norm_num : (-3 : ℚ) ≤ 0)))
    (.some (packetOne_lowered (le_refl (-4)))) .init .init
  have hpass := hkept.2.2.1 (by decide +kernel)
  revert hpass
  decide +kernel

end AfcDut.Rf.Theorems.Monotone
