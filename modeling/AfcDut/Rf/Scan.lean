import AfcDut.Rf.Verdict

/-!
# What the checks look for

Each check scans the packets and stops at the first value above its limit. A
field that is missing raises, but only where the scan gets to it: the
predicates here say, for any response and any report, when a check passes and
when it breaks.
-/

namespace AfcDut.Rf.RfMeasurementValidation

open Py

variable (o : RfMeasurementValidation)

/-- The measured packets; none without a report. -/
def data : List Packet := (o.rfReport.map (·.data)).getD []

/-! ## Power -/

/-- The limit at the centre frequency. -/
def CenterLimit (limit : ℚ) : Prop := o.spLimit o.centerFreq o.chwidth = .ok (some limit)

/-- There is a limit at the centre frequency, and every packet is within it. -/
def PowerFits : Prop :=
  o.data ≠ [] ∧ ∃ limit, o.CenterLimit limit ∧ ∀ pkt ∈ o.data, ∃ p, pkt.maxPSD = some p ∧ p ≤ limit

/-- The scan for that limit gets to a packet without `maxPSD`. -/
def PowerBreaks : Prop :=
  ∃ limit, o.CenterLimit limit ∧
    Reaches (fun pkt => ∃ p, pkt.maxPSD = some p ∧ p ≤ limit) (fun pkt => pkt.maxPSD = none) o.data

/-- Every packet is within the limit of a channel. -/
def EirpFits (limit : ℚ) : Prop :=
  o.data ≠ [] ∧ ∀ pkt ∈ o.data, ∃ e, pkt.maxEirp = some e ∧ e ≤ limit

/-! ## Blocks -/

/-- A block within the limit at its frequency, or away from the centre at a
frequency without one. -/
def BlockFits (info : PsdInfo) : Prop :=
  ∃ freq psds, info.freqMhz = some freq ∧ info.psdDbmMHz = some psds ∧
    ∃ limit?, o.spLimit freq o.chwidth = .ok limit? ∧ (limit? = none → o.centerFreq ≠ freq) ∧
      ∀ limit, limit? = some limit → ∀ psd ∈ psds, psd ≤ limit

/-- A block without its fields, at a frequency where the response cannot be
read, or at a centre without a limit. -/
def BlockBreaks (info : PsdInfo) : Prop :=
  info.freqMhz = none ∨ info.psdDbmMHz = none ∨
    ∃ freq, info.freqMhz = some freq ∧ ((∃ e, o.spLimit freq o.chwidth = .error e) ∨
      o.spLimit freq o.chwidth = .ok none ∧ o.centerFreq = freq)

def PacketFits (pkt : Packet) : Prop :=
  ∃ infos, pkt.freqPsdPerMHz = some infos ∧ ∀ info ∈ infos, o.BlockFits info

/-- A packet without blocks, or with a block that breaks before one that is
above its limit. -/
def PacketBreaks (pkt : Packet) : Prop :=
  pkt.freqPsdPerMHz = none ∨
    ∃ infos, pkt.freqPsdPerMHz = some infos ∧ Reaches o.BlockFits o.BlockBreaks infos

def BlocksFit : Prop := o.data ≠ [] ∧ ∀ pkt ∈ o.data, o.PacketFits pkt

/-- The scan of the blocks gets to one that breaks. -/
def BlocksBreak : Prop := Reaches o.PacketFits o.PacketBreaks o.data

/-! ## The checks in these terms -/

variable {o}

theorem packets_of_data_ne_nil (h : o.data ≠ []) : o.packets = .ok o.data := by
  unfold data at h
  unfold packets data
  cases hr : o.rfReport with
  | none =>
      rw [hr] at h
      exact absurd rfl h
  | some report => rfl

theorem data_of_packets_eq_ok {packets : List Packet} (h : o.packets = .ok packets) :
    o.data = packets := by
  unfold RfMeasurementValidation.packets at h
  unfold data
  cases hr : o.rfReport with
  | none =>
      rw [hr] at h
      exact absurd h (by simp)
  | some report =>
      rw [hr, Except.ok.injEq] at h
      exact h

theorem isEmpty_of_ne_nil {α : Type} {xs : List α} (h : xs ≠ []) : xs.isEmpty = false := by
  cases xs with
  | nil => exact absurd rfl h
  | cons x xs => rfl

theorem packetsWithin_raises_iff {name : String} {field : Packet → Option ℚ} {limit : ℚ}
    {packets : List Packet} :
    (∃ e, packetsWithin name field limit packets = .error e) ↔
      Reaches (fun pkt => ∃ p, field pkt = some p ∧ p ≤ limit) (fun pkt => field pkt = none)
        packets := by
  unfold packetsWithin
  rw [allM_raises_iff]
  have hpasses : ∀ pkt, (do
      let value ← key name (field pkt)
      Pure.pure (!decide (value > limit)) : Except PyErr Bool) = .ok true ↔
        ∃ p, field pkt = some p ∧ p ≤ limit := by
    intro pkt
    cases hf : field pkt with
    | none => simp [key]
    | some p => simp [key]
  have hraises : ∀ pkt, (∃ e, (do
      let value ← key name (field pkt)
      Pure.pure (!decide (value > limit)) : Except PyErr Bool) = .error e) ↔ field pkt = none := by
    intro pkt
    cases hf : field pkt with
    | none => simp [key]
    | some p => simp [key]
  simp only [hpasses, hraises]

/-- A check that fails on an empty report passes on its packets. -/
theorem packets_bind_eq_ok_true {k : List Packet → Except PyErr Bool} (hnil : k [] ≠ .ok true) :
    o.packets >>= k = .ok true ↔ o.data ≠ [] ∧ k o.data = .ok true := by
  constructor
  · intro h
    obtain ⟨packets, hpackets, h⟩ := bind_eq_ok.mp h
    rw [data_of_packets_eq_ok hpackets]
    refine ⟨?_, h⟩
    rintro rfl
    exact hnil h
  · rintro ⟨hdata, h⟩
    rw [packets_of_data_ne_nil hdata, ok_bind]
    exact h

theorem powerByFreq_iff : o.powerByFreq = .ok true ↔ o.PowerFits := by
  unfold powerByFreq PowerFits CenterLimit
  rw [packets_bind_eq_ok_true (by simp)]
  refine and_congr_right fun hdata => ?_
  rw [isEmpty_of_ne_nil hdata]
  constructor
  · intro h
    obtain ⟨limit?, hlimit, h⟩ := bind_eq_ok.mp h
    cases limit? with
    | none => exact absurd h (by simp)
    | some limit => exact ⟨limit, hlimit, packetsWithin_eq_ok_true.mp h⟩
  · rintro ⟨limit, hlimit, h⟩
    rw [hlimit]
    exact packetsWithin_eq_ok_true.mpr h

/-- The power check raises where the response cannot be read at the centre, or
at a missing field. -/
theorem powerByFreq_raises_iff (hdata : o.data ≠ []) :
    (∃ e, o.powerByFreq = .error e) ↔
      (∃ e, o.spLimit o.centerFreq o.chwidth = .error e) ∨ o.PowerBreaks := by
  unfold powerByFreq PowerBreaks CenterLimit
  rw [packets_of_data_ne_nil hdata, ok_bind, isEmpty_of_ne_nil hdata]
  cases hlimit : o.spLimit o.centerFreq o.chwidth with
  | error e => simp
  | ok limit? =>
      cases limit? with
      | none => simp
      | some limit =>
          simp only [Bool.false_eq_true, if_false, ok_bind, reduceCtorEq, exists_false, false_or,
            Except.ok.injEq, Option.some.injEq, exists_eq_left']
          exact packetsWithin_raises_iff

theorem powerByChan_iff :
    o.powerByChan = .ok true ↔
      ∃ limit, getChannelMaxEirp o.centerChan o.respAvailChanInfo = .ok (some limit) ∧
        limit ≠ 0 ∧ o.EirpFits limit := by
  unfold powerByChan EirpFits
  rw [packets_bind_eq_ok_true (by simp)]
  constructor
  · rintro ⟨hdata, h⟩
    rw [isEmpty_of_ne_nil hdata] at h
    cases hitems : o.respAvailChanInfo.isEmpty with
    | true => exact absurd h (by simp [hitems])
    | false =>
        simp only [hitems, Bool.false_and, Bool.false_eq_true, if_false] at h
        obtain ⟨limit?, hlimit, h⟩ := bind_eq_ok.mp h
        cases limit? with
        | none => exact absurd h (by simp [nonzero])
        | some limit =>
            by_cases hzero : limit = 0
            · exact absurd h (by simp [nonzero, hzero])
            · simp only [nonzero, hzero, if_false] at h
              exact ⟨limit, hlimit, hzero, hdata, packetsWithin_eq_ok_true.mp h⟩
  · rintro ⟨limit, hlimit, hzero, hdata, h⟩
    have hitems : o.respAvailChanInfo ≠ [] := by
      intro hnil
      rw [hnil] at hlimit
      exact absurd hlimit (by simp [getChannelMaxEirp])
    refine ⟨hdata, ?_⟩
    rw [isEmpty_of_ne_nil hdata, isEmpty_of_ne_nil hitems]
    simp only [Bool.false_and, Bool.false_eq_true, if_false, hlimit, ok_bind, nonzero, hzero]
    exact packetsWithin_eq_ok_true.mpr h

/-- What the check of a block does. -/
theorem blockWithin_iff {info : PsdInfo} :
    (o.blockWithin info = .ok true ↔ o.BlockFits info) ∧
      ((∃ e, o.blockWithin info = .error e) ↔ o.BlockBreaks info) := by
  unfold blockWithin BlockFits BlockBreaks
  cases hf : info.freqMhz with
  | none => simp [key]
  | some freq =>
      cases hp : info.psdDbmMHz with
      | none => simp [key]
      | some psds =>
          simp only [key, ok_bind]
          cases hlimit : o.spLimit freq o.chwidth with
          | error e => simp [hlimit]
          | ok limit? =>
              cases limit? with
              | none =>
                  by_cases hc : o.centerFreq = freq
                  · simp [hc, hlimit]
                  · simp [hc, hlimit]
              | some limit => simp [hlimit]

theorem packetBlocks_iff {pkt : Packet} :
    ((do
        let freqPsdPerMHz ← key "freqPsdPerMHz" pkt.freqPsdPerMHz
        freqPsdPerMHz.allM o.blockWithin) = .ok true ↔ o.PacketFits pkt) ∧
      ((∃ e, (do
        let freqPsdPerMHz ← key "freqPsdPerMHz" pkt.freqPsdPerMHz
        freqPsdPerMHz.allM o.blockWithin) = .error e) ↔ o.PacketBreaks pkt) := by
  unfold PacketFits PacketBreaks
  cases hb : pkt.freqPsdPerMHz with
  | none => simp [key]
  | some infos =>
      simp only [key, ok_bind, Option.some.injEq, exists_eq_left', reduceCtorEq, false_or]
      rw [allM_eq_ok_true_iff, allM_raises_iff]
      simp only [blockWithin_iff.1, blockWithin_iff.2, and_self]

theorem adjacent_iff : o.adjacent = .ok true ↔ o.respAvailFreqInfo ≠ [] ∧ o.BlocksFit := by
  unfold adjacent BlocksFit
  rw [packets_bind_eq_ok_true (by simp), and_left_comm]
  refine and_congr_right fun hdata => ?_
  rw [isEmpty_of_ne_nil hdata]
  cases hitems : o.respAvailFreqInfo with
  | nil => simp
  | cons item items =>
      simp only [List.isEmpty_cons, Bool.false_and, Bool.false_eq_true, if_false]
      rw [allM_eq_ok_true_iff]
      simp only [packetBlocks_iff.1, ne_eq, reduceCtorEq, not_false_eq_true, true_and]

theorem adjacent_raises_iff (hdata : o.data ≠ []) (hitems : o.respAvailFreqInfo ≠ []) :
    (∃ e, o.adjacent = .error e) ↔ o.BlocksBreak := by
  unfold adjacent BlocksBreak
  rw [packets_of_data_ne_nil hdata, ok_bind, isEmpty_of_ne_nil hitems, isEmpty_of_ne_nil hdata]
  simp only [Bool.false_and, Bool.false_eq_true, if_false]
  rw [allM_raises_iff]
  simp only [packetBlocks_iff.1, packetBlocks_iff.2]

/-- Where there is a limit there is an item. -/
theorem CenterLimit.items {limit : ℚ} (h : o.CenterLimit limit) : o.respAvailFreqInfo ≠ [] := by
  intro hnil
  unfold CenterLimit spLimit matchedFreqRanges at h
  rw [hnil] at h
  exact absurd h (by simp)

theorem PowerFits.adjacent_raises_iff (h : o.PowerFits) :
    (∃ e, o.adjacent = .error e) ↔ o.BlocksBreak := by
  obtain ⟨hdata, limit, hlimit, -⟩ := h
  exact RfMeasurementValidation.adjacent_raises_iff hdata hlimit.items

/-! ## Complete documents -/

/-- The fields the checks by frequency read are all there. -/
structure Complete (o : RfMeasurementValidation) : Prop where
  items : ∀ item ∈ o.respAvailFreqInfo,
    ∃ low high p, item = ⟨some ⟨some low, some high⟩, some p⟩
  maxPSD : ∀ pkt ∈ o.data, pkt.maxPSD ≠ none
  blocks : ∀ pkt ∈ o.data, ∃ infos, pkt.freqPsdPerMHz = some infos ∧
    ∀ info ∈ infos, info.freqMhz ≠ none ∧ info.psdDbmMHz ≠ none

theorem Complete.spLimit_eq_ok (h : o.Complete) (freq chwidth : ℚ) :
    ∃ limit?, o.spLimit freq chwidth = .ok limit? := by
  have hmatched : ∃ matched,
      matchedFreqRanges (window freq chwidth) o.respAvailFreqInfo = .ok matched := by
    unfold matchedFreqRanges
    rw [filterMapM_isOk_iff]
    intro item hitem
    obtain ⟨low, high, p, rfl⟩ := h.items item hitem
    by_cases hin : isMatchedFreqRange (low, high) (window freq chwidth) = true
    · exact ⟨some (low, high, p), by simp [key, hin]⟩
    · exact ⟨none, by simp [key, hin]⟩
  obtain ⟨matched, hmatched⟩ := hmatched
  unfold spLimit
  rw [hmatched]
  exact ⟨_, rfl⟩

theorem Complete.not_powerBreaks (h : o.Complete) : ¬ o.PowerBreaks := by
  rintro ⟨limit, -, hscan⟩
  exact not_reaches_of_forall h.maxPSD hscan

theorem Complete.not_blocksBreak (h : o.Complete) (hfits : o.PowerFits) : ¬ o.BlocksBreak := by
  obtain ⟨-, limit, hlimit, -⟩ := hfits
  refine not_reaches_of_forall fun pkt hpkt hbreaks => ?_
  obtain ⟨infos, hinfos, hcomplete⟩ := h.blocks pkt hpkt
  rcases hbreaks with hnone | ⟨infos', hinfos', hscan⟩
  · rw [hinfos] at hnone
    exact absurd hnone (by simp)
  · rw [hinfos, Option.some.injEq] at hinfos'
    subst hinfos'
    refine not_reaches_of_forall (fun info hinfo hbreaks => ?_) hscan
    rcases hbreaks with hfreq | hpsds | ⟨freq, -, ⟨e, he⟩ | ⟨hnone, rfl⟩⟩
    · exact (hcomplete info hinfo).1 hfreq
    · exact (hcomplete info hinfo).2 hpsds
    · obtain ⟨limit?, hok⟩ := h.spLimit_eq_ok freq o.chwidth
      rw [hok] at he
      exact absurd he (by simp)
    · unfold CenterLimit at hlimit
      rw [hlimit] at hnone
      exact absurd hnone (by simp)

end AfcDut.Rf.RfMeasurementValidation
