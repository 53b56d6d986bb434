import AfcDut.Analyzer.Tool

/-!
# One report item per captured packet

The reader finds as many blocks of a packet as the scan list has runs of one
frequency; the report cuts the blocks of all captures into groups of three.
The two agree where the scan list has three distinct frequencies.
-/

namespace AfcDut.Analyzer.Theorems.Grouping

open Py Rf

/-! ## The report of a measurement -/

/-- The packets of all captures, in order. -/
def captured (durations : List Int) (rounds : List (Int → List TxPacket)) : List TxPacket :=
  rounds.flatMap fun captures => durations.flatMap captures

/-- What the driver collects from the captures. -/
def capturedPkts (format : FreqFormat) (channel bandwidth : Int) (durations : List Int)
    (rounds : List (Int → List TxPacket)) : Except Err (List Pkt) :=
  captureRounds durations (rounds.map fun captures duration =>
    captureOf format (freqMhzScanList channel bandwidth) (captures duration))

/-- The item a packet should have: its centre-frequency values, and all of its
blocks. -/
def packetItem (channel bandwidth : Int) (packet : TxPacket) : Packet where
  maxPSD := some (packet (convertChToFreq channel)).peakPsdDbmMhz.value
  maxEirp := some (packet (convertChToFreq channel)).channelPowerDbm.value
  freqPsdPerMHz := some ((freqMhzScanList channel bandwidth).map fun freqMhz : Int =>
    ⟨some freqMhz, some ((packet freqMhz).psdDbmMhz.map (·.value))⟩)

/-- The report has exactly one item per captured packet, in order, and it is
the item of that packet. -/
def Grouped (format : FreqFormat) (channel bandwidth : Int) (durations : List Int)
    (rounds : List (Int → List TxPacket)) : Prop :=
  ∃ pkts report, capturedPkts format channel bandwidth durations rounds = .ok pkts ∧
    generateReport channel bandwidth pkts true = .ok report ∧
    (report.elim [] (·.data)) = (captured durations rounds).map (packetItem channel bandwidth)

/-- Both neighbours are in the scan list, apart from the centre. -/
def ThreeFrequencies (channel bandwidth : Int) : Prop :=
  0 < lowerChan channel bandwidth ∧ higherChan channel bandwidth < 185 ∧ bandwidth ≠ 0

/-! ## The scan list -/

theorem freqMhzScanList_of_three {channel bandwidth : Int}
    (h : ThreeFrequencies channel bandwidth) :
    freqMhzScanList channel bandwidth =
      [5950 + 5 * channel, 5950 + 5 * channel - bandwidth, 5950 + 5 * channel + bandwidth] := by
  unfold freqMhzScanList
  rw [if_pos h.1, if_pos h.2.1, convertChToFreq_int, convertChToFreq_lowerChan,
    convertChToFreq_higherChan]
  rfl

/-- Otherwise a packet is scanned at two frequencies at most. -/
theorem packet_two_of_not_three (format : FreqFormat) {channel bandwidth : Int}
    (h : ¬ ThreeFrequencies channel bandwidth) (packet : TxPacket)
    (state state' : Option (Option String) × List Pkt)
    (hrun : (packetRows format (freqMhzScanList channel bandwidth) packet).foldlM psdStep state =
      .ok state') : state'.2.length ≤ state.2.length + 2 := by
  by_cases hzero : bandwidth = 0
  · have hconst : ∀ f ∈ freqMhzScanList channel bandwidth, f = 5950 + 5 * channel := by
      intro f hf
      unfold freqMhzScanList at hf
      rw [convertChToFreq_int, convertChToFreq_lowerChan, convertChToFreq_higherChan, hzero] at hf
      split at hf <;> split at hf <;> simp at hf <;> omega
    have hlen := packetRows_length_const format hconst packet hrun
    split at hlen <;> omega
  · have hshort : (freqMhzScanList channel bandwidth).length ≤ 2 := by
      unfold freqMhzScanList
      by_cases hlow : 0 < lowerChan channel bandwidth
      · have hhigh : ¬ higherChan channel bandwidth < 185 := fun hhigh => h ⟨hlow, hhigh, hzero⟩
        rw [if_pos hlow, if_neg hhigh]
        simp
      · rw [if_neg hlow]
        split <;> simp
    have hlen := packetRows_length format packet hrun
    omega

/-! ## The captures -/

theorem spectrumAnalyzeOnce_captureOf (format : FreqFormat) (scanList : List Int)
    (packets : List TxPacket) :
    spectrumAnalyzeOnce .rfdq (captureOf format scanList packets) =
      psdPkts (packets.flatMap (packetRows format scanList)) := rfl

theorem foldl_append_flatMap {α β : Type} (f : α → List β) (xs : List α) (acc : List β) :
    xs.foldl (fun acc x => acc ++ f x) acc = acc ++ xs.flatMap f := by
  induction xs generalizing acc with
  | nil => simp
  | cons x xs ih =>
      rw [List.foldl_cons, ih, List.flatMap_cons, List.append_assoc]

/-- The scans of one round. -/
def roundScans (format : FreqFormat) (scanList : List Int) (captures : Int → List TxPacket) :
    Int → Scan :=
  fun duration => captureOf format scanList (captures duration)

section Three

variable (format : FreqFormat) {channel bandwidth : Int}

theorem captureDuration_of_three (h : ThreeFrequencies channel bandwidth)
    (captures : Int → List TxPacket) (acc : List Pkt) (duration : Int) :
    captureDuration (roundScans format (freqMhzScanList channel bandwidth) captures) acc duration =
      .ok (acc ++ (captures duration).flatMap
        (packetPkts format (freqMhzScanList channel bandwidth))) := by
  have hbw := h.2.2
  unfold captureDuration roundScans
  rw [spectrumAnalyzeOnce_captureOf, freqMhzScanList_of_three h,
    psdPkts_three format (by omega) (by omega) (by omega)]
  rfl

theorem captureRound_of_three (h : ThreeFrequencies channel bandwidth) (durations : List Int)
    (captures : Int → List TxPacket) (acc : List Pkt) :
    durations.foldlM
        (captureDuration (roundScans format (freqMhzScanList channel bandwidth) captures)) acc =
      .ok (acc ++ (durations.flatMap captures).flatMap
        (packetPkts format (freqMhzScanList channel bandwidth))) := by
  rw [List.flatMap_assoc, ← foldl_append_flatMap]
  exact foldlM_eq_ok (fun duration _ acc => captureDuration_of_three format h captures acc duration)
    acc

/-- With three frequencies the driver collects three packets for each. -/
theorem capturedPkts_of_three (h : ThreeFrequencies channel bandwidth) (durations : List Int)
    (rounds : List (Int → List TxPacket)) :
    capturedPkts format channel bandwidth durations rounds =
      .ok ((captured durations rounds).flatMap
        (packetPkts format (freqMhzScanList channel bandwidth))) := by
  unfold capturedPkts captureRounds captured
  rw [List.foldlM_map, List.flatMap_assoc]
  have hfold := foldl_append_flatMap (fun captures : Int → List TxPacket =>
    (durations.flatMap captures).flatMap
      (packetPkts format (freqMhzScanList channel bandwidth))) rounds []
  rw [List.nil_append] at hfold
  rw [← hfold]
  exact foldlM_eq_ok (fun captures _ acc => captureRound_of_three format h durations captures acc) []

end Three

section NotThree

variable (format : FreqFormat) {channel bandwidth : Int}

theorem captureDuration_length (h : ¬ ThreeFrequencies channel bandwidth)
    (captures : Int → List TxPacket) {acc acc' : List Pkt} {duration : Int}
    (hrun : captureDuration (roundScans format (freqMhzScanList channel bandwidth) captures) acc
      duration = .ok acc') :
    acc'.length ≤ acc.length + 2 * (captures duration).length := by
  unfold captureDuration roundScans at hrun
  rw [spectrumAnalyzeOnce_captureOf] at hrun
  obtain ⟨pkts, hpkts, hacc⟩ := bind_eq_ok.mp hrun
  simp only [pure_eq_ok, Except.ok.injEq] at hacc
  subst hacc
  have hlen := psdPkts_length format (packet_two_of_not_three format h) hpkts
  rw [List.length_append]
  omega

theorem captureRound_length (h : ¬ ThreeFrequencies channel bandwidth) {durations : List Int}
    (captures : Int → List TxPacket) {acc acc' : List Pkt}
    (hrun : durations.foldlM
      (captureDuration (roundScans format (freqMhzScanList channel bandwidth) captures)) acc =
        .ok acc') :
    acc'.length ≤ acc.length + 2 * (durations.flatMap captures).length := by
  induction durations generalizing acc with
  | nil =>
      simp only [List.foldlM_nil, pure_eq_ok, Except.ok.injEq] at hrun
      subst hrun
      exact Nat.le_refl _
  | cons duration durations ih =>
      rw [List.foldlM_cons] at hrun
      obtain ⟨mid, hmid, hrest⟩ := bind_eq_ok.mp hrun
      have hone := captureDuration_length format h captures hmid
      have htail := ih hrest
      rw [List.flatMap_cons, List.length_append]
      omega

/-- Otherwise the driver collects at most two packets for each. -/
theorem capturedPkts_length (h : ¬ ThreeFrequencies channel bandwidth) (durations : List Int)
    (rounds : List (Int → List TxPacket)) {pkts : List Pkt}
    (hrun : capturedPkts format channel bandwidth durations rounds = .ok pkts) :
    pkts.length ≤ 2 * (captured durations rounds).length := by
  have run : ∀ (rounds : List (Int → List TxPacket)) (acc acc' : List Pkt),
      (rounds.map (roundScans format (freqMhzScanList channel bandwidth))).foldlM
        (fun acc scans => durations.foldlM (captureDuration scans) acc) acc = .ok acc' →
      acc'.length ≤ acc.length + 2 * (captured durations rounds).length := by
    intro rounds
    induction rounds with
    | nil =>
        intro acc acc' hrun
        simp only [List.map_nil, List.foldlM_nil, pure_eq_ok, Except.ok.injEq] at hrun
        subst hrun
        exact Nat.le_refl _
    | cons captures rounds ih =>
        intro acc acc' hrun
        rw [List.map_cons, List.foldlM_cons] at hrun
        obtain ⟨mid, hmid, hrest⟩ := bind_eq_ok.mp hrun
        have hround := captureRound_length format h captures hmid
        have htail := ih mid acc' hrest
        have hcons : captured durations (captures :: rounds) =
            durations.flatMap captures ++ captured durations rounds := rfl
        rw [hcons, List.length_append]
        omega
  have hlen := run rounds [] pkts hrun
  simpa using hlen

end NotThree

/-! ## The report loop -/

/-- One item for each third packet. -/
theorem psdReport_length (channel : Int) (pkts : List Pkt) (i : Nat) {loop loop' : PsdLoop}
    (h : (pkts.zipIdx i).foldlM (psdReportStep channel) loop = .ok loop') :
    loop'.data.length + i / 3 = loop.data.length + (i + pkts.length) / 3 := by
  have centred : ∀ {loop loop' : PsdLoop} {pkt : Pkt}, loop.centre channel pkt = .ok loop' →
      loop'.data = loop.data := by
    intro loop loop' pkt hcentre
    unfold PsdLoop.centre at hcentre
    obtain ⟨freqMhz, _, hcentre⟩ := bind_eq_ok.mp hcentre
    split at hcentre
    · obtain ⟨maxEirp, _, hcentre⟩ := bind_eq_ok.mp hcentre
      obtain ⟨maxPsd, _, hcentre⟩ := bind_eq_ok.mp hcentre
      simp only [pure_eq_ok, Except.ok.injEq] at hcentre
      rw [← hcentre]
    · simp only [pure_eq_ok, Except.ok.injEq] at hcentre
      rw [← hcentre]
  have step : ∀ {loop loop' : PsdLoop} {pkt : Pkt} {i : Nat},
      psdReportStep channel loop (pkt, i) = .ok loop' →
      loop'.data.length = loop.data.length + if i % 3 = 2 then 1 else 0 := by
    intro loop loop' pkt i hstep
    unfold psdReportStep at hstep
    obtain ⟨mid, hmid, hstep⟩ := bind_eq_ok.mp hstep
    obtain ⟨freqMhz, _, hstep⟩ := bind_eq_ok.mp hstep
    rw [← centred hmid]
    by_cases hthird : i % 3 = 2
    · rw [if_pos hthird] at hstep ⊢
      split at hstep
      · simp only [pure_eq_ok, Except.ok.injEq] at hstep
        rw [← hstep]
        simp
      · exact absurd hstep (by simp)
    · rw [if_neg hthird] at hstep ⊢
      simp only [pure_eq_ok, Except.ok.injEq] at hstep
      rw [← hstep]
      rfl
  induction pkts generalizing i loop with
  | nil =>
      simp only [List.zipIdx_nil, List.foldlM_nil, pure_eq_ok, Except.ok.injEq] at h
      subst h
      simp
  | cons pkt pkts ih =>
      rw [List.zipIdx_cons, List.foldlM_cons] at h
      obtain ⟨mid, hmid, hrest⟩ := bind_eq_ok.mp h
      have hone := step hmid
      have htail := ih (i + 1) hrest
      rw [List.length_cons]
      split at hone <;> omega

theorem generateReport_length {channel bandwidth : Int} {pkts : List Pkt}
    {report : Option RfMeasurementReport}
    (h : generateReport channel bandwidth pkts true = .ok report) :
    (report.elim [] (·.data)).length = pkts.length / 3 := by
  cases pkts with
  | nil =>
      simp only [generateReport, List.isEmpty_nil, if_true, pure_eq_ok, Except.ok.injEq] at h
      subst h
      rfl
  | cons pkt pkts =>
      unfold generateReport at h
      simp only [List.isEmpty_cons, Bool.false_eq_true, if_false, if_true] at h
      obtain ⟨loop, hloop, hreport⟩ := bind_eq_ok.mp h
      simp only [pure_eq_ok, Except.ok.injEq] at hreport
      subst hreport
      have hlen := psdReport_length channel (pkt :: pkts) 0 hloop
      simpa [PsdLoop.init] using hlen

section Packets

variable (format : FreqFormat) (channel : Int)

/-- What a packet of the driver leaves of the loop's variables. -/
theorem centre_pkt (block : FreqBlock) (freqMhz : Int) (loop : PsdLoop) :
    loop.centre channel (block.pkt format freqMhz) =
      .ok (if freqMhz = 5950 + 5 * channel then
        { loop with
          maxEirp := some block.channelPowerDbm.value
          maxPsd := some block.peakPsdDbmMhz.value }
      else loop) := by
  unfold PsdLoop.centre FreqBlock.pkt
  rw [number_freq, ok_bind, trunc_intCast, convertChToFreq_int, number_channelPower,
    number_peakPsd]
  split <;> rfl

/-- The entry a block has in its item. -/
def blockInfo (block : FreqBlock) (freqMhz : Int) : PsdInfo :=
  ⟨some freqMhz, some (block.psdDbmMhz.map (·.value))⟩

/-- The first packet of three sets the centre-frequency values. -/
theorem psdReportStep_first (block : FreqBlock) {i : Nat} (hi : i % 3 ≠ 2) (loop : PsdLoop) :
    psdReportStep channel loop (block.pkt format (5950 + 5 * channel), i) =
      .ok ⟨some block.channelPowerDbm.value, some block.peakPsdDbmMhz.value,
        loop.freqPsdPerMHz ++ [blockInfo block (5950 + 5 * channel)], loop.data⟩ := by
  unfold psdReportStep
  rw [centre_pkt, if_pos rfl, ok_bind]
  show ((block.psdRow format _ _).number "freq_mhz" >>= _) = _
  rw [number_freq, ok_bind, trunc_intCast, if_neg hi]
  rfl

/-- The second leaves them alone. -/
theorem psdReportStep_second (block : FreqBlock) {freqMhz : Int}
    (hne : freqMhz ≠ 5950 + 5 * channel) {i : Nat} (hi : i % 3 ≠ 2) (loop : PsdLoop) :
    psdReportStep channel loop (block.pkt format freqMhz, i) =
      .ok { loop with freqPsdPerMHz := loop.freqPsdPerMHz ++ [blockInfo block freqMhz] } := by
  unfold psdReportStep
  rw [centre_pkt, if_neg hne, ok_bind]
  show ((block.psdRow format _ _).number "freq_mhz" >>= _) = _
  rw [number_freq, ok_bind, trunc_intCast, if_neg hi]
  rfl

/-- The third closes the item. -/
theorem psdReportStep_third (block : FreqBlock) {freqMhz : Int}
    (hne : freqMhz ≠ 5950 + 5 * channel) {i : Nat} (hi : i % 3 = 2) (maxEirp maxPsd : ℚ)
    (infos : List PsdInfo) (data : List Packet) :
    psdReportStep channel ⟨some maxEirp, some maxPsd, infos, data⟩ (block.pkt format freqMhz, i) =
      .ok ⟨some maxEirp, some maxPsd, [],
        data ++ [⟨some maxPsd, some maxEirp, some (infos ++ [blockInfo block freqMhz])⟩]⟩ := by
  unfold psdReportStep
  rw [centre_pkt, if_neg hne, ok_bind]
  show ((block.psdRow format _ _).number "freq_mhz" >>= _) = _
  rw [number_freq, ok_bind, trunc_intCast, if_pos hi]
  rfl

variable {channel}

/-- The three packets of one captured packet become its item. -/
theorem psdReport_packet {bandwidth : Int} (h : ThreeFrequencies channel bandwidth)
    (packet : TxPacket) (k : Nat) {loop : PsdLoop} (hempty : loop.freqPsdPerMHz = []) :
    ∃ loop', ((packetPkts format (freqMhzScanList channel bandwidth) packet).zipIdx (3 * k)).foldlM
        (psdReportStep channel) loop = .ok loop' ∧
      loop'.freqPsdPerMHz = [] ∧
      loop'.data = loop.data ++ [packetItem channel bandwidth packet] := by
  have hbw := h.2.2
  have hlist := freqMhzScanList_of_three h
  have hitem : packetItem channel bandwidth packet =
      ⟨some (packet (5950 + 5 * channel)).peakPsdDbmMhz.value,
        some (packet (5950 + 5 * channel)).channelPowerDbm.value,
        some [blockInfo (packet (5950 + 5 * channel)) (5950 + 5 * channel),
          blockInfo (packet (5950 + 5 * channel - bandwidth)) (5950 + 5 * channel - bandwidth),
          blockInfo (packet (5950 + 5 * channel + bandwidth)) (5950 + 5 * channel + bandwidth)]⟩ := by
    unfold packetItem
    rw [hlist, convertChToFreq_int]
    rfl
  refine ⟨⟨some (packet (5950 + 5 * channel)).channelPowerDbm.value,
    some (packet (5950 + 5 * channel)).peakPsdDbmMhz.value, [],
    loop.data ++ [packetItem channel bandwidth packet]⟩, ?_, rfl, rfl⟩
  rw [hlist, hitem]
  unfold packetPkts
  simp only [List.map_cons, List.map_nil, List.zipIdx_cons, List.zipIdx_nil, List.foldlM_cons,
    List.foldlM_nil]
  rw [psdReportStep_first format channel _ (by omega), ok_bind,
    psdReportStep_second format channel _ (by omega) (by omega), ok_bind,
    psdReportStep_third format channel _ (by omega) (by omega), ok_bind, hempty]
  rfl

/-- The run lemma: every captured packet becomes its item. -/
theorem psdReport_packets {bandwidth : Int} (h : ThreeFrequencies channel bandwidth)
    (packets : List TxPacket) (k : Nat) {loop : PsdLoop} (hempty : loop.freqPsdPerMHz = []) :
    ∃ loop', ((packets.flatMap (packetPkts format (freqMhzScanList channel bandwidth))).zipIdx
        (3 * k)).foldlM (psdReportStep channel) loop = .ok loop' ∧
      loop'.data = loop.data ++ packets.map (packetItem channel bandwidth) := by
  induction packets generalizing k loop with
  | nil => exact ⟨loop, rfl, by simp⟩
  | cons packet packets ih =>
      obtain ⟨mid, hmid, hmidEmpty, hmidData⟩ := psdReport_packet format h packet k hempty
      obtain ⟨loop', hrest, hdata⟩ := ih (k + 1) hmidEmpty
      have hlen : (packetPkts format (freqMhzScanList channel bandwidth) packet).length = 3 := by
        rw [freqMhzScanList_of_three h]
        rfl
      have hnext : 3 * k + 3 = 3 * (k + 1) := by omega
      refine ⟨loop', ?_, ?_⟩
      · rw [List.flatMap_cons, List.zipIdx_append, List.foldlM_append, hmid, ok_bind, hlen, hnext]
        exact hrest
      · rw [hdata, hmidData, List.map_cons, List.append_assoc]
        rfl

end Packets

/-! ## The verdict -/

/-- Captures of nothing collect nothing. -/
theorem capturedPkts_of_captured_nil {format : FreqFormat} {channel bandwidth : Int}
    {durations : List Int} {rounds : List (Int → List TxPacket)}
    (h : captured durations rounds = []) :
    capturedPkts format channel bandwidth durations rounds = .ok [] := by
  have hnil : ∀ captures ∈ rounds, ∀ duration ∈ durations, captures duration = [] := by
    intro captures hcaptures duration hduration
    have hround := List.flatMap_eq_nil_iff.mp h captures hcaptures
    exact List.flatMap_eq_nil_iff.mp hround duration hduration
  have hkeep : ∀ {α : Type} (xs : List α) (acc : List Pkt),
      xs.foldl (fun acc _ => acc) acc = acc := by
    intro α xs
    induction xs with
    | nil => exact fun acc => rfl
    | cons x xs ih => exact fun acc => ih acc
  have hround : ∀ captures ∈ rounds, ∀ acc, durations.foldlM
      (captureDuration (roundScans format (freqMhzScanList channel bandwidth) captures)) acc =
        .ok acc := by
    intro captures hcaptures acc
    have hrun := foldlM_eq_ok (g := fun acc _ => acc) (fun duration hduration acc => by
      show captureDuration (roundScans format (freqMhzScanList channel bandwidth) captures) acc
        duration = .ok acc
      unfold captureDuration roundScans
      rw [spectrumAnalyzeOnce_captureOf, hnil captures hcaptures duration hduration]
      show Except.ok (acc ++ []) = _
      rw [List.append_nil]) acc
    rw [hkeep] at hrun
    exact hrun
  unfold capturedPkts captureRounds
  rw [List.foldlM_map]
  have hrun := foldlM_eq_ok (g := fun acc _ => acc) hround []
  rw [hkeep] at hrun
  exact hrun

/-- With three frequencies the report lists the packets' own items. -/
theorem generateReport_of_three (format : FreqFormat) {channel bandwidth : Int}
    (h : ThreeFrequencies channel bandwidth) (packets : List TxPacket) :
    ∃ report, generateReport channel bandwidth
        (packets.flatMap (packetPkts format (freqMhzScanList channel bandwidth))) true = .ok report ∧
      report.elim [] (·.data) = packets.map (packetItem channel bandwidth) := by
  cases packets with
  | nil => exact ⟨none, rfl, rfl⟩
  | cons packet packets =>
      obtain ⟨loop, hloop, hdata⟩ := psdReport_packets format h (packet :: packets) 0
        (show PsdLoop.init.freqPsdPerMHz = [] from rfl)
      have hne : ((packet :: packets).flatMap
          (packetPkts format (freqMhzScanList channel bandwidth))).isEmpty = false := by
        rw [List.flatMap_cons, freqMhzScanList_of_three h]
        rfl
      refine ⟨some ⟨5950 + 5 * channel, bandwidth, loop.data⟩, ?_, hdata⟩
      unfold generateReport
      rw [hne]
      show (List.foldlM _ _ (List.zipIdx _ (3 * 0)) >>= _) = _
      rw [hloop]
      rfl

/-- Two blocks a packet do not make one item a packet. -/
theorem captured_nil_of_grouped {format : FreqFormat} {channel bandwidth : Int}
    {durations : List Int} {rounds : List (Int → List TxPacket)}
    (hthree : ¬ ThreeFrequencies channel bandwidth)
    (h : Grouped format channel bandwidth durations rounds) : captured durations rounds = [] := by
  obtain ⟨pkts, report, hpkts, hreport, hdata⟩ := h
  have hblocks := capturedPkts_length format hthree durations rounds hpkts
  have hitems := generateReport_length hreport
  rw [hdata, List.length_map] at hitems
  exact List.length_eq_zero_iff.mp (by omega)

/-- **One item per packet.** The report of a measurement has one item for each
captured packet, in order, of that packet's own centre-frequency values and
blocks, exactly when nothing was captured or both neighbours of the channel
are in the scan list: a channel at an edge of the band scans two frequencies,
and the groups of three run across its packets. -/
theorem grouped_iff (format : FreqFormat) (channel bandwidth : Int) (durations : List Int)
    (rounds : List (Int → List TxPacket)) :
    Grouped format channel bandwidth durations rounds ↔
      captured durations rounds = [] ∨ ThreeFrequencies channel bandwidth := by
  constructor
  · intro h
    by_cases hthree : ThreeFrequencies channel bandwidth
    · exact .inr hthree
    · exact .inl (captured_nil_of_grouped hthree h)
  · intro h
    obtain hnil | hthree := h
    · refine ⟨[], none, capturedPkts_of_captured_nil hnil, rfl, ?_⟩
      rw [hnil]
      rfl
    · obtain ⟨report, hreport, hdata⟩ := generateReport_of_three format hthree
        (captured durations rounds)
      exact ⟨_, report, capturedPkts_of_three format hthree durations rounds, hreport, hdata⟩

/-- The measurement of a channel whose neighbours are scanned reports the
packets of its captures. -/
theorem spectrumAnalyze_of_three (format : FreqFormat) {channel bandwidth : Int}
    (h : ThreeFrequencies channel bandwidth) {preRun : Scan} {durations : List Int}
    (hpre : spectrumAnalyzePreRun preRun = .ok (some durations))
    (rounds : List (Int → List TxPacket)) :
    (spectrumAnalyze channel bandwidth preRun
        (rounds.map (roundScans format (freqMhzScanList channel bandwidth)))).elim [] (·.data) =
      (captured durations rounds).map (packetItem channel bandwidth) := by
  obtain ⟨report, hreport, hdata⟩ := generateReport_of_three format h (captured durations rounds)
  have hpkts : captureRounds durations
      (rounds.map (roundScans format (freqMhzScanList channel bandwidth))) = _ :=
    capturedPkts_of_three format h durations rounds
  have hrun : measurement channel bandwidth preRun
      (rounds.map (roundScans format (freqMhzScanList channel bandwidth))) = .ok report := by
    unfold measurement
    rw [hpre, ok_bind]
    show (captureRounds _ _ >>= _) = _
    rw [hpkts, ok_bind, hreport]
  unfold spectrumAnalyze
  rw [hrun]
  exact hdata

/-! ## A channel at the edge -/

/-- Integers in decimal. -/
def decimal : FreqFormat := ⟨Int.repr, float_repr⟩

/-- A packet of the same level at every frequency. -/
def flatPacket : TxPacket := fun _ =>
  have zero : float "0" = .ok 0 := by decide +kernel
  ⟨⟨"0", 0, zero⟩, ⟨"0", 0, zero⟩, [⟨"0", 0, zero⟩], by simp, []⟩

/-- Channel 1: the lower neighbour is left out, the two blocks of a packet are
no group of three, and the report has no item. -/
theorem edge_channel_ungrouped :
    ¬ Grouped decimal 1 20 [100] [fun _ => [flatPacket]] := by
  intro h
  have hlow : ¬ 0 < lowerChan 1 20 := by decide +kernel
  have hnil := captured_nil_of_grouped (fun hthree => hlow hthree.1) h
  exact absurd hnil (by simp [captured])

end AfcDut.Analyzer.Theorems.Grouping
