import AfcDut.Analyzer.Script
import AfcDut.Analyzer.Theorems.Grouping
import AfcDut.Rf.Scan

/-!
# What a check of a script says of the air

A check that passes has seen packets, each of them within the limits of the
response the device was sent, at the centre the device operates on, and has
quoted the limit it held them to.
-/

namespace AfcDut.Analyzer.Theorems.Script

open Py Rf Spectrum Grouping RfMeasurementValidation

theorem generateReport_centre {channel bandwidth : Int} {pkts : List Pkt}
    {report : RfMeasurementReport}
    (h : generateReport channel bandwidth pkts true = .ok (some report)) :
    report.centralFreq = 5950 + 5 * channel ∧ report.channelWidth = bandwidth := by
  unfold generateReport at h
  cases hempty : pkts.isEmpty with
  | true => simp [hempty] at h
  | false =>
      simp only [hempty, Bool.false_eq_true, if_false, if_true] at h
      obtain ⟨loop, -, h⟩ := bind_eq_ok.mp h
      rw [pure_eq_ok, Except.ok.injEq, Option.some.injEq] at h
      subst h
      exact ⟨rfl, rfl⟩

/-! ## The air -/

/-- What the analyzer meets at a centre: the scan that finds the durations, and
the packets that each round captures of a duration. -/
structure Air where
  preRun : Scan
  rounds : List (Int → List TxPacket)

namespace Air

variable (air : Air)

/-- The durations the rounds are made for; none when the pre-run fails. -/
def durations : List Int :=
  match spectrumAnalyzePreRun air.preRun with
  | .ok (some durations) => durations
  | _ => []

/-- The packets of the measurement. -/
def packets : List TxPacket := captured air.durations air.rounds

def report (format : FreqFormat) (channel bandwidth : Int) : Option RfMeasurementReport :=
  spectrumAnalyze channel bandwidth air.preRun
    (air.rounds.map (roundScans format (freqMhzScanList channel bandwidth)))

variable {air}

theorem packets_of_durations_nil (h : air.durations = []) : air.packets = [] := by
  unfold packets captured
  rw [h]
  exact List.flatMap_eq_nil_iff.mpr fun _ _ => rfl

theorem report_data (format : FreqFormat) {channel bandwidth : Int}
    (h : ThreeFrequencies channel bandwidth) :
    ((air.report format channel bandwidth).map (·.data)).getD [] =
      air.packets.map (packetItem channel bandwidth) := by
  cases hpre : spectrumAnalyzePreRun air.preRun with
  | error e =>
      have hnil : air.durations = [] := by
        unfold durations
        rw [hpre]
      unfold report spectrumAnalyze measurement
      rw [packets_of_durations_nil hnil, hpre]
      rfl
  | ok durations? =>
      cases durations? with
      | none =>
          have hnil : air.durations = [] := by
            unfold durations
            rw [hpre]
          unfold report spectrumAnalyze measurement
          rw [packets_of_durations_nil hnil, hpre]
          rfl
      | some durations =>
          have hdurations : air.durations = durations := by
            unfold Air.durations
            rw [hpre]
          have hdata := spectrumAnalyze_of_three format h hpre air.rounds
          unfold packets
          rw [hdurations, ← hdata]
          unfold report
          cases spectrumAnalyze channel bandwidth air.preRun
            (air.rounds.map (roundScans format (freqMhzScanList channel bandwidth))) with
          | none => rfl
          | some report => rfl

theorem report_centre {format : FreqFormat} {channel bandwidth : Int} {report : RfMeasurementReport}
    (h : air.report format channel bandwidth = some report) :
    report.centralFreq = 5950 + 5 * channel ∧ report.channelWidth = bandwidth := by
  unfold Air.report spectrumAnalyze at h
  cases hrun : measurement channel bandwidth air.preRun
      (air.rounds.map (roundScans format (freqMhzScanList channel bandwidth))) with
  | error e => simp [hrun] at h
  | ok report? =>
      simp only [hrun] at h
      subst h
      unfold measurement at hrun
      obtain ⟨durations?, -, hrun⟩ := bind_eq_ok.mp hrun
      cases durations? with
      | none => simp at hrun
      | some durations =>
          obtain ⟨pkts, -, hrun⟩ := bind_eq_ok.mp hrun
          exact generateReport_centre hrun

end Air

/-- A script with an automatic tester. -/
def listening (t : RfTester) (format : FreqFormat) (air : Int → Int → Air) : RfTester :=
  { t with
    autoRfTester := true
    spectrumAnalyze := fun channel bandwidth =>
      (air channel bandwidth).report format channel bandwidth }

/-! ## The limits a script asks for -/

variable {sentResp : Option AvailResp}

theorem fresh_eq {α : Type} {x : Method α} {r : Except PyErr α} (h : Returns x r) : fresh x = r :=
  h .init

theorem limitsByFreq_iff {opBandwidth cfi : Int} {quoted : Limits} :
    limitsByFreq sentResp opBandwidth cfi = .ok quoted ↔
      ∃ limit, (new sentResp none).spLimit (5950 + 5 * cfi) opBandwidth = .ok limit ∧
        quoted = .psd limit := by
  unfold limitsByFreq
  rw [fresh_eq (getSpLimitByFreq_returns _ _ _), mul_comm (cfi : ℚ) 5, bind_eq_ok]
  simp only [pure_eq_ok, Except.ok.injEq, eq_comm]

theorem getSpLimitByChan_returns (o : RfMeasurementValidation) (channel : ℚ) :
    Returns (o.getSpLimitByChan channel)
      (getChannelMaxEirp channel o.respAvailChanInfo >>= fun eirp => pure (nonzero eirp)) :=
  (Returns.lift _).bind fun eirp => Returns.pure (nonzero eirp)

theorem limitsByChan_iff {cfi : Int} {quoted : Limits} :
    limitsByChan sentResp cfi = .ok quoted ↔
      ∃ eirp, getChannelMaxEirp cfi (new sentResp none).respAvailChanInfo = .ok eirp ∧
        quoted = .eirp (nonzero eirp) := by
  unfold limitsByChan
  rw [fresh_eq (getSpLimitByChan_returns _ _), bind_eq_ok]
  simp only [bind_eq_ok, pure_eq_ok, Except.ok.injEq]
  constructor
  · rintro ⟨limit, ⟨eirp, heirp, rfl⟩, rfl⟩
    exact ⟨eirp, heirp, rfl⟩
  · rintro ⟨eirp, heirp, rfl⟩
    exact ⟨nonzero eirp, ⟨eirp, heirp, rfl⟩, rfl⟩

theorem trunc_centre (cfi : Int) : trunc (5950 + (cfi : ℚ) * 5) = 5950 + 5 * cfi := by
  have hint : (5950 + (cfi : ℚ) * 5) = ((5950 + 5 * cfi : Int) : ℚ) := by
    push_cast
    ring
  rw [hint, trunc_intCast]

theorem getSpLimitByBoth_returns (o : RfMeasurementValidation) (cfi : Int) (chwidth : ℚ) :
    Returns (o.getSpLimitByBoth cfi chwidth) (o.spLimit (5950 + 5 * cfi) chwidth >>= fun psd =>
      (getChannelMaxEirp cfi o.respAvailChanInfo >>= fun eirp => pure (nonzero eirp)) >>= fun eirp =>
      pure (psd, eirp)) := by
  unfold getSpLimitByBoth
  rw [trunc_centre]
  push_cast
  exact (getSpLimitByFreq_returns _ _ _).bind fun psd =>
    (getSpLimitByChan_returns _ _).bind fun eirp => Returns.pure (psd, eirp)

/-- The limits of both kinds are the limits of each. -/
theorem limitsByBoth_iff {opBandwidth cfi : Int} {quoted : Limits} :
    limitsByBoth sentResp opBandwidth cfi = .ok quoted ↔
      ∃ psd eirp, limitsByFreq sentResp opBandwidth cfi = .ok (.psd psd) ∧
        limitsByChan sentResp cfi = .ok (.eirp eirp) ∧ quoted = .both psd eirp := by
  unfold limitsByBoth
  rw [fresh_eq (getSpLimitByBoth_returns _ _ _)]
  simp only [limitsByFreq_iff, limitsByChan_iff, bind_eq_ok, pure_eq_ok, Except.ok.injEq]
  constructor
  · rintro ⟨_, ⟨psd, hpsd, _, ⟨eirp, heirp, rfl⟩, rfl⟩, rfl⟩
    exact ⟨psd, nonzero eirp, ⟨psd, hpsd, rfl⟩, ⟨eirp, heirp, rfl⟩, rfl⟩
  · rintro ⟨psd, _, ⟨_, hpsd, ⟨⟩⟩, ⟨eirp, heirp, ⟨⟩⟩, rfl⟩
    exact ⟨_, ⟨psd, hpsd, _, ⟨eirp, heirp, rfl⟩, rfl⟩, rfl⟩

/-! ## The verdicts on what is in the air -/

section Verdicts

variable {air : Air} {format : FreqFormat} {channel bandwidth : Int}

/-- The validation of a report sees the packets, at the centre they were
measured at. -/
theorem sees_report (sentResp : Option AvailResp) (h : ThreeFrequencies channel bandwidth)
    (hpackets : air.packets ≠ []) :
    ∃ report, air.report format channel bandwidth = some report ∧
      (new sentResp (some report)).data = air.packets.map (packetItem channel bandwidth) ∧
      (new sentResp (some report)).centerFreq = 5950 + 5 * channel ∧
      (new sentResp (some report)).chwidth = bandwidth ∧
      (new sentResp (some report)).centerChan = channel := by
  have hdata := air.report_data format h
  cases hreport : air.report format channel bandwidth with
  | none =>
      rw [hreport] at hdata
      exact absurd (List.map_eq_nil_iff.mp hdata.symm) hpackets
  | some report =>
      rw [hreport] at hdata
      obtain ⟨hfreq, hwidth⟩ := Air.report_centre hreport
      have hchan : (report.centralFreq - 5950) / 5 = channel := by
        rw [hfreq]
        ring
      exact ⟨report, rfl, hdata, hfreq, hwidth, hchan⟩

/-- Where nothing is in the air there is nothing to validate. -/
theorem data_of_packets_nil (h : ThreeFrequencies channel bandwidth) (hpackets : air.packets = []) :
    (new sentResp (air.report format channel bandwidth)).data = [] := by
  have hdata := air.report_data format h
  rw [hpackets] at hdata
  exact hdata

theorem chanVerdict_report_iff (h : ThreeFrequencies channel bandwidth) :
    (new sentResp (air.report format channel bandwidth)).chanVerdict = true ↔
      ∃ limit, getChannelMaxEirp channel (new sentResp none).respAvailChanInfo = .ok (some limit) ∧
        limit ≠ 0 ∧ air.packets ≠ [] ∧
        ∀ packet ∈ air.packets, (packet (5950 + 5 * channel)).channelPowerDbm.value ≤ limit := by
  rw [chanVerdict_iff, powerByChan_iff]
  unfold EirpFits
  by_cases hpackets : air.packets = []
  · rw [data_of_packets_nil h hpackets]
    simp [hpackets]
  · obtain ⟨report, hreport, hdata, -, -, hchan⟩ := sees_report sentResp h hpackets
    rw [hreport, hdata, hchan]
    have hitem : ∀ packet, (packetItem channel bandwidth packet).maxEirp =
        some (packet (5950 + 5 * channel)).channelPowerDbm.value := by
      intro packet
      unfold packetItem
      rw [convertChToFreq_int]
    simp only [ne_eq, List.map_eq_nil_iff, List.mem_map, forall_exists_index, and_imp,
      forall_apply_eq_imp_iff₂, hitem, Option.some.injEq, exists_eq_left', hpackets,
      not_false_eq_true, true_and]
    rfl

/-- The lowest limit of the grants inside a window of one channel width. -/
def limitAt (gs : List (Grant ℚ ℚ)) (freqMhz bandwidth : Int) : Option ℚ :=
  insideLimit gs (window freqMhz bandwidth).1 (window freqMhz bandwidth).2

/-- The window of an even width is half of it to each side. -/
theorem window_even (freqMhz half : Int) :
    window freqMhz ((2 * half : Int) : ℚ) =
      (((freqMhz - half : Int) : ℚ), ((freqMhz + half : Int) : ℚ)) := by
  have hlow : (freqMhz : ℚ) - ((2 * half : Int) : ℚ) / 2 = ((freqMhz - half : Int) : ℚ) := by
    push_cast
    ring
  have hhigh : (freqMhz : ℚ) + ((2 * half : Int) : ℚ) / 2 = ((freqMhz + half : Int) : ℚ) := by
    push_cast
    ring
  unfold window
  rw [hlow, hhigh, trunc_intCast, trunc_intCast]

/-- A response that offers grants by frequency. -/
def granting (gs : List (Grant ℚ ℚ)) (chans : Option (List AvailableChannelInfo)) : AvailResp :=
  ⟨some (gs.map offered), chans⟩

variable {gs : List (Grant ℚ ℚ)} {chans : Option (List AvailableChannelInfo)}

theorem spLimit_granting (gs : List (Grant ℚ ℚ)) (chans : Option (List AvailableChannelInfo))
    (report : Option RfMeasurementReport) (freqMhz bandwidth : Int) :
    (new (some (granting gs chans)) report).spLimit freqMhz bandwidth =
      .ok (limitAt gs freqMhz bandwidth) :=
  spLimit_offered rfl _ _

theorem freqVerdict_iff_both (o : RfMeasurementValidation) :
    o.freqVerdict = (true, true) ↔ o.PowerFits ∧ o.BlocksFit := by
  rw [Prod.ext_iff, o.freqVerdict_power_iff, o.freqVerdict_adjacent_iff]
  constructor
  · rintro ⟨⟨hpower, -⟩, hadjacent, -⟩
    exact ⟨powerByFreq_iff.mp hpower, (adjacent_iff.mp hadjacent).2⟩
  · rintro ⟨hpower, hblocks⟩
    obtain ⟨-, limit, hlimit, -⟩ := id hpower
    rw [powerByFreq_iff.mpr hpower, adjacent_iff.mpr ⟨hlimit.items, hblocks⟩]
    exact ⟨⟨rfl, by rintro ⟨_, ⟨⟩⟩⟩, rfl, by rintro ⟨_, ⟨⟩⟩⟩

/-- The scanned blocks of a packet are within the limits at their frequencies,
where the response names one. -/
def WithinLimits (gs : List (Grant ℚ ℚ)) (channel bandwidth : Int) (packet : TxPacket) : Prop :=
  ∀ freqMhz ∈ [5950 + 5 * channel, 5950 + 5 * channel - bandwidth, 5950 + 5 * channel + bandwidth],
    ∀ limit, limitAt gs freqMhz bandwidth = some limit →
      ∀ psd ∈ (packet freqMhz).psdDbmMhz, psd.value ≤ limit

theorem packetFits_iff (h : ThreeFrequencies channel bandwidth) {report : RfMeasurementReport}
    (hfreq : (new (some (granting gs chans)) (some report)).centerFreq = 5950 + 5 * channel)
    (hwidth : (new (some (granting gs chans)) (some report)).chwidth = bandwidth)
    (hcentre : limitAt gs (5950 + 5 * channel) bandwidth ≠ none) (packet : TxPacket) :
    (new (some (granting gs chans)) (some report)).PacketFits (packetItem channel bandwidth packet) ↔
      WithinLimits gs channel bandwidth packet := by
  unfold PacketFits packetItem WithinLimits
  simp only [Option.some.injEq, exists_eq_left', freqMhzScanList_of_three h, List.mem_map,
    forall_exists_index, and_imp, forall_apply_eq_imp_iff₂]
  refine forall₂_congr fun freqMhz _ => ?_
  unfold BlockFits
  rw [hwidth, hfreq]
  simp only [Option.some.injEq, exists_eq_left', exists_and_left, spLimit_granting, Except.ok.injEq]
  -- only the centre must have a limit; a neighbour without one is not judged
  have hnamed : limitAt gs freqMhz bandwidth = none → 5950 + 5 * (channel : ℚ) ≠ freqMhz := by
    intro hnone heq
    have hfreqMhz : freqMhz = 5950 + 5 * channel := by exact_mod_cast heq.symm
    rw [hfreqMhz] at hnone
    exact hcentre hnone
  simp only [List.mem_map, forall_exists_index, and_imp, forall_apply_eq_imp_iff₂]
  exact and_iff_right hnamed

theorem freqVerdict_report_iff (h : ThreeFrequencies channel bandwidth) :
    (new (some (granting gs chans)) (air.report format channel bandwidth)).freqVerdict =
        (true, true) ↔
      ∃ limit, limitAt gs (5950 + 5 * channel) bandwidth = some limit ∧ air.packets ≠ [] ∧
        ∀ packet ∈ air.packets, (packet (5950 + 5 * channel)).peakPsdDbmMhz.value ≤ limit ∧
          WithinLimits gs channel bandwidth packet := by
  rw [freqVerdict_iff_both]
  unfold PowerFits BlocksFit CenterLimit
  by_cases hpackets : air.packets = []
  · rw [data_of_packets_nil h hpackets]
    simp [hpackets]
  · obtain ⟨report, hreport, hdata, hfreq, hwidth, -⟩ :=
      sees_report (some (granting gs chans)) h hpackets
    have hitem : ∀ packet, (packetItem channel bandwidth packet).maxPSD =
        some (packet (5950 + 5 * channel)).peakPsdDbmMhz.value := by
      intro packet
      unfold packetItem
      rw [convertChToFreq_int]
    have hcentre := spLimit_granting gs chans (some report) (5950 + 5 * channel) bandwidth
    push_cast at hcentre
    rw [hreport, hfreq, hwidth, hcentre, hdata]
    simp only [ne_eq, List.map_eq_nil_iff, List.mem_map, forall_exists_index, and_imp,
      forall_apply_eq_imp_iff₂, hitem, Option.some.injEq, Except.ok.injEq, exists_eq_left', hpackets,
      not_false_eq_true, true_and]
    constructor
    · rintro ⟨⟨limit, hlimit, hpower⟩, hblocks⟩
      refine ⟨limit, hlimit, fun packet hpacket => ⟨hpower packet hpacket, ?_⟩⟩
      exact (packetFits_iff h hfreq hwidth (by simp [hlimit]) packet).mp (hblocks packet hpacket)
    · rintro ⟨limit, hlimit, hall⟩
      refine ⟨⟨limit, hlimit, fun packet hpacket => (hall packet hpacket).1⟩, fun packet hpacket => ?_⟩
      exact (packetFits_iff h hfreq hwidth (by simp [hlimit]) packet).mpr (hall packet hpacket).2

end Verdicts

/-! ## The checks -/

section Checks

variable (t : RfTester) (format : FreqFormat) (air : Int → Int → Air)
  {opChannel opBandwidth cfi : Int} {isCfi : Bool}

/-- The files could be written, the response lists a limit other than zero for
the centre, something was in the air, and no packet's channel power was above
that limit. -/
structure HeardWithinEirp (sentResp : Option AvailResp) (cfi opBandwidth : Int) (limit : ℚ) :
    Prop where
  files : t.files = .ok ()
  listed : getChannelMaxEirp cfi (new sentResp none).respAvailChanInfo = .ok (some limit)
  nonzero : limit ≠ 0
  heard : (air cfi opBandwidth).packets ≠ []
  power : ∀ packet ∈ (air cfi opBandwidth).packets,
    (packet (5950 + 5 * cfi)).channelPowerDbm.value ≤ limit

/-- The files could be written, the response names a limit around the centre,
something was in the air, no packet's peak was above it, and no value at the
centre or a neighbour above the limit there. -/
structure HeardWithinPsd (gs : List (Grant ℚ ℚ)) (cfi opBandwidth : Int) (limit : ℚ) : Prop where
  files : t.files = .ok ()
  named : limitAt gs (5950 + 5 * cfi) opBandwidth = some limit
  heard : (air cfi opBandwidth).packets ≠ []
  power : ∀ packet ∈ (air cfi opBandwidth).packets,
    (packet (5950 + 5 * cfi)).peakPsdDbmMhz.value ≤ limit ∧ WithinLimits gs cfi opBandwidth packet

variable {t format air}

theorem HeardWithinEirp.judged {sentResp : Option AvailResp} {limit : ℚ}
    (hcentre : operatingCfi opChannel opBandwidth isCfi = .ok (some cfi))
    (hthree : ThreeFrequencies cfi opBandwidth)
    (h : HeardWithinEirp t air sentResp cfi opBandwidth limit) :
    Judged (listening t format air) (limitsByChan sentResp)
      (fun report => (new sentResp report).chanVerdict) id opChannel opBandwidth isCfi true cfi
      (.eirp (some limit)) := by
  have hquoted : RfMeasurementValidation.nonzero (some limit) = some limit := if_neg h.nonzero
  refine ⟨hcentre, limitsByChan_iff.mpr ⟨some limit, h.listed, ?_⟩, rfl, fun _ => ⟨h.files, ?_⟩,
    fun hauto => absurd hauto (by simp [listening])⟩
  · rw [hquoted]
  · exact (chanVerdict_report_iff hthree).mpr ⟨limit, h.listed, h.nonzero, h.heard, h.power⟩

theorem heardWithinEirp_of_judged {sentResp : Option AvailResp} {cfi' : Int} {quoted : Limits}
    (hcentre : operatingCfi opChannel opBandwidth isCfi = .ok (some cfi))
    (hthree : ThreeFrequencies cfi opBandwidth)
    (h : Judged (listening t format air) (limitsByChan sentResp)
      (fun report => (new sentResp report).chanVerdict) id opChannel opBandwidth isCfi true cfi'
      quoted) : ∃ limit, HeardWithinEirp t air sentResp cfi opBandwidth limit := by
  obtain ⟨hcentre', -, -, hmeasured, -⟩ := h
  rw [hcentre, Except.ok.injEq, Option.some.injEq] at hcentre'
  subst hcentre'
  obtain ⟨hfiles, hverdict⟩ := hmeasured rfl
  obtain ⟨limit, hlisted, hzero, hpackets, hpower⟩ := (chanVerdict_report_iff hthree).mp hverdict
  exact ⟨limit, hfiles, hlisted, hzero, hpackets, hpower⟩

theorem HeardWithinPsd.judged {gs : List (Grant ℚ ℚ)} {chans : Option (List AvailableChannelInfo)}
    {limit : ℚ} (hcentre : operatingCfi opChannel opBandwidth isCfi = .ok (some cfi))
    (hthree : ThreeFrequencies cfi opBandwidth) (h : HeardWithinPsd t air gs cfi opBandwidth limit) :
    Judged (listening t format air) (limitsByFreq (some (granting gs chans)) opBandwidth)
      (fun report => (new (some (granting gs chans)) report).freqVerdict) (fun pass => (pass, pass))
      opChannel opBandwidth isCfi (true, true) cfi (.psd (some limit)) := by
  have hquoted := spLimit_granting gs chans none (5950 + 5 * cfi) opBandwidth
  push_cast at hquoted
  refine ⟨hcentre, limitsByFreq_iff.mpr ⟨some limit, ?_, rfl⟩, rfl, fun _ => ⟨h.files, ?_⟩,
    fun hauto => absurd hauto (by simp [listening])⟩
  · rw [hquoted, h.named]
  · exact (freqVerdict_report_iff hthree).mpr ⟨limit, h.named, h.heard, h.power⟩

theorem heardWithinPsd_of_judged {gs : List (Grant ℚ ℚ)}
    {chans : Option (List AvailableChannelInfo)} {cfi' : Int} {quoted : Limits}
    (hcentre : operatingCfi opChannel opBandwidth isCfi = .ok (some cfi))
    (hthree : ThreeFrequencies cfi opBandwidth)
    (h : Judged (listening t format air) (limitsByFreq (some (granting gs chans)) opBandwidth)
      (fun report => (new (some (granting gs chans)) report).freqVerdict) (fun pass => (pass, pass))
      opChannel opBandwidth isCfi (true, true) cfi' quoted) :
    ∃ limit, HeardWithinPsd t air gs cfi opBandwidth limit := by
  obtain ⟨hcentre', -, -, hmeasured, -⟩ := h
  rw [hcentre, Except.ok.injEq, Option.some.injEq] at hcentre'
  subst hcentre'
  obtain ⟨hfiles, hverdict⟩ := hmeasured rfl
  obtain ⟨limit, hnamed, hpackets, hall⟩ := (freqVerdict_report_iff hthree).mp hverdict
  exact ⟨limit, hfiles, hnamed, hpackets, hall⟩

variable (t format air)

/-- **The check by channel.** With an automatic tester, at a centre whose
neighbours are scanned, the check passes exactly when what was heard there was
within the power that the response lists for the centre; the description then
quotes that limit and the report. -/
theorem chan_passes_iff (sentResp : Option AvailResp)
    (hcentre : operatingCfi opChannel opBandwidth isCfi = .ok (some cfi))
    (hthree : ThreeFrequencies cfi opBandwidth) (rfReportFile : String) (desc : PowerValidDesc) :
    (((validateRfMeasurementByChan (listening t format air) sentResp opChannel rfReportFile
          opBandwidth isCfi).outcome desc).1 = .ok true ↔
        ∃ limit, HeardWithinEirp t air sentResp cfi opBandwidth limit) ∧
      ∀ limit, HeardWithinEirp t air sentResp cfi opBandwidth limit →
        ((validateRfMeasurementByChan (listening t format air) sentResp opChannel rfReportFile
            opBandwidth isCfi).outcome desc).2 =
          some ⟨t.lpiSupport, .eirp (some limit), cfi, opBandwidth, some rfReportFile⟩ := by
  unfold validateRfMeasurementByChan
  simp only [validateRfMeasurementByChan_eq]
  refine ⟨(validateRfMeasurement_iff (by simp)).trans ⟨?_, ?_⟩, fun limit h => ?_⟩
  · rintro ⟨cfi', quoted, hjudged⟩
    exact heardWithinEirp_of_judged hcentre hthree hjudged
  · rintro ⟨limit, h⟩
    exact ⟨cfi, _, h.judged hcentre hthree⟩
  · rw [(h.judged hcentre hthree).outcome_eq]
    rfl

/-- **The check by frequency.** For a response that offers grants, the check
passes on both counts exactly when what was heard at the centre and beside it
was within the limits that the response names there; the description then
quotes the limit around the centre and the report. -/
theorem freq_passes_iff (gs : List (Grant ℚ ℚ)) (chans : Option (List AvailableChannelInfo))
    (hcentre : operatingCfi opChannel opBandwidth isCfi = .ok (some cfi))
    (hthree : ThreeFrequencies cfi opBandwidth) (rfReportFile : String) (desc : PowerValidDesc) :
    (((validateRfMeasurementByFreq (listening t format air) (some (granting gs chans)) opChannel
          rfReportFile opBandwidth isCfi).outcome desc).1 = .ok (true, true) ↔
        ∃ limit, HeardWithinPsd t air gs cfi opBandwidth limit) ∧
      ∀ limit, HeardWithinPsd t air gs cfi opBandwidth limit →
        ((validateRfMeasurementByFreq (listening t format air) (some (granting gs chans)) opChannel
            rfReportFile opBandwidth isCfi).outcome desc).2 =
          some ⟨t.lpiSupport, .psd (some limit), cfi, opBandwidth, some rfReportFile⟩ := by
  unfold validateRfMeasurementByFreq
  simp only [validateRfMeasurementByFreq_eq]
  refine ⟨(validateRfMeasurement_iff (by simp)).trans ⟨?_, ?_⟩, fun limit h => ?_⟩
  · rintro ⟨cfi', quoted, hjudged⟩
    exact heardWithinPsd_of_judged hcentre hthree hjudged
  · rintro ⟨limit, h⟩
    exact ⟨cfi, _, h.judged hcentre hthree⟩
  · rw [(h.judged hcentre hthree).outcome_eq]
    rfl

end Checks

/-! ## One pulse -/

/-- One flat packet, and a pre-run that finds its duration. -/
def pulse : Air where
  preRun := ⟨none, [], some [[("packetDurationUs", some (Int.repr 100))]]⟩
  rounds := [fun _ => [flatPacket]]

theorem pulse_packets : pulse.packets = [flatPacket] := by
  have hfloat : floatCell (some (Int.repr 100)) = .ok ((100 : Int) : ℚ) := by
    show (float (Int.repr 100)).mapError Err.py = _
    rw [float_repr]
    rfl
  have hduration : newPktDur ⟨[("packetDurationUs", some (Int.repr 100))], []⟩ = .ok 100 := by
    unfold newPktDur Row.cell
    rw [List.lookup_cons_self, ok_bind, if_pos (by decide), hfloat, ok_bind, trunc_intCast]
    rfl
  have hpre : spectrumAnalyzePreRun pulse.preRun = .ok (some [100]) := by
    show (([⟨[("packetDurationUs", some (Int.repr 100))], []⟩] : List Pkt).foldlM addDuration [] >>=
      fun durations => pure (some durations) : Except Err (Option (List Int))) = _
    rw [List.foldlM_cons]
    unfold addDuration
    rw [hduration]
    rfl
  unfold Air.packets Air.durations
  rw [hpre]
  rfl

def quietFiles : RfTester := ⟨true, false, fun _ _ => none, .ok (), false⟩

theorem three_37 : ThreeFrequencies 37 20 := by
  refine ⟨?_, ?_, by decide⟩ <;> norm_num [lowerChan, higherChan]

theorem chan_passes_pulse :
    ((validateRfMeasurementByChan (listening quietFiles decimal fun _ _ => pulse)
        (some ⟨none, some [⟨some [37], some [3]⟩]⟩) 37 "rfMeasurementReport_step_6.json" 20
        false).outcome none).1 = .ok true := by
  refine (chan_passes_iff quietFiles decimal (fun _ _ => pulse) _ rfl three_37 _ none).1.mpr
    ⟨3, rfl, ?_, by norm_num, ?_, ?_⟩
  · decide
  · rw [pulse_packets]
    simp
  · rw [pulse_packets]
    intro packet hpacket
    rw [List.mem_singleton.mp hpacket]
    show (0 : ℚ) ≤ 3
    norm_num

theorem pulse_range : (6125 : ℚ) < 6145 := by norm_num

theorem freq_passes_pulse :
    ((validateRfMeasurementByFreq (listening quietFiles decimal fun _ _ => pulse)
        (some (granting [⟨6125, 6145, 5, pulse_range⟩] none)) 37 "rfMeasurementReport_step_6.json" 20
        false).outcome none).1 = .ok (true, true) := by
  refine (freq_passes_iff quietFiles decimal (fun _ _ => pulse) _ none rfl three_37 _ none).1.mpr
    ⟨5, rfl, ?_, ?_, ?_⟩
  · unfold limitAt
    rw [show (20 : Int) = 2 * 10 from rfl, window_even]
    norm_num [insideLimit, insideLimits, Grant.Inside]
  · rw [pulse_packets]
    simp
  · rw [pulse_packets]
    intro packet hpacket
    rw [List.mem_singleton.mp hpacket]
    refine ⟨show (0 : ℚ) ≤ 5 by norm_num, fun freqMhz _ limit hlimit psd hpsd => ?_⟩
    obtain ⟨⟨g, hg, -, rfl⟩, -⟩ := insideLimit_eq_some_iff.mp hlimit
    rw [List.mem_singleton.mp hg, List.mem_singleton.mp hpsd]
    show (0 : ℚ) ≤ 5
    norm_num

/-! ## By channel and by frequency -/

variable {t : RfTester} {opChannel opBandwidth : Int} {rfReportFile : String} {isCfi : Bool}
  {desc : PowerValidDesc}

theorem chanVerdict_of_bothVerdict {o : RfMeasurementValidation} :
    o.bothVerdict = (true, true) ↔ o.freqVerdict = (true, true) ∧ o.chanVerdict = true := by
  rw [Prod.ext_iff, Prod.ext_iff, o.bothVerdict_adjacent_eq, Bool.and_eq_true,
    o.bothVerdict_power_eq]
  tauto

/-- **Both at once.** The combined check passes on both counts exactly when
the check by frequency does and the check by channel passes, whoever judges
and whatever the response lacks. -/
theorem both_passes_iff (t : RfTester) (sentResp : Option AvailResp) (opChannel opBandwidth : Int)
    (rfReportFile : String) (isCfi : Bool) (desc : PowerValidDesc) :
    ((validateRfMeasurementByBoth t sentResp opChannel rfReportFile opBandwidth isCfi).outcome
        desc).1 = .ok (true, true) ↔
      ((validateRfMeasurementByFreq t sentResp opChannel rfReportFile opBandwidth isCfi).outcome
          desc).1 = .ok (true, true) ∧
        ((validateRfMeasurementByChan t sentResp opChannel rfReportFile opBandwidth isCfi).outcome
          desc).1 = .ok true := by
  unfold validateRfMeasurementByBoth validateRfMeasurementByFreq validateRfMeasurementByChan
  rw [validateRfMeasurement_iff (by simp), validateRfMeasurement_iff (by simp),
    validateRfMeasurement_iff (by simp)]
  simp only [validateRfMeasurementByBoth_eq, validateRfMeasurementByFreq_eq,
    validateRfMeasurementByChan_eq]
  constructor
  · rintro ⟨cfi, quoted, hcentre, hlimits, hoffered, hmeasured, hanswered⟩
    obtain ⟨psd, eirp, hpsd, heirp, rfl⟩ := limitsByBoth_iff.mp hlimits
    obtain ⟨hp, he⟩ := Bool.and_eq_true_iff.mp hoffered
    refine ⟨⟨cfi, .psd psd, hcentre, hpsd, hp, fun hauto => ?_, hanswered⟩,
      ⟨cfi, .eirp eirp, hcentre, heirp, he, fun hauto => ?_, fun hauto => ?_⟩⟩
    · obtain ⟨hfiles, hverdict⟩ := hmeasured hauto
      exact ⟨hfiles, (chanVerdict_of_bothVerdict.mp hverdict).1⟩
    · obtain ⟨hfiles, hverdict⟩ := hmeasured hauto
      exact ⟨hfiles, (chanVerdict_of_bothVerdict.mp hverdict).2⟩
    · exact congrArg Prod.fst (hanswered hauto)
  · rintro ⟨⟨cfi, psd, hcentre, hpsd, hp, hfreq, hanswered⟩, cfi', eirp, hcentre', heirp, he,
      hchan, -⟩
    rw [hcentre, Except.ok.injEq, Option.some.injEq] at hcentre'
    subst hcentre'
    obtain ⟨limit, -, rfl⟩ := limitsByFreq_iff.mp hpsd
    obtain ⟨limit', -, rfl⟩ := limitsByChan_iff.mp heirp
    refine ⟨cfi, _, hcentre, limitsByBoth_iff.mpr ⟨_, _, hpsd, heirp, rfl⟩,
      Bool.and_eq_true_iff.mpr ⟨hp, he⟩, fun hauto => ?_, hanswered⟩
    obtain ⟨hfiles, hverdict⟩ := hfreq hauto
    exact ⟨hfiles, chanVerdict_of_bothVerdict.mpr ⟨hverdict, (hchan hauto).2⟩⟩

end AfcDut.Analyzer.Theorems.Script
