import AfcDut.Py.TwoRuns
import AfcDut.Rf.Scan

/-!
# Relaxing a response and a report

Limits of the response may rise, measured values may fall, and nothing else
changes. Every limit the object looks up rises with them, every scan that
passes still passes, and what makes a scan break is the same in both.
-/

namespace AfcDut.Rf

open Py

/-! ## Relaxed documents -/

/-- Same range, no lower limit. -/
structure InfoRaised (a b : AvailableFrequencyInfo) : Prop where
  frequencyRange : a.frequencyRange = b.frequencyRange
  maxPsd : Option.Rel (· ≤ ·) a.maxPsd b.maxPsd

/-- Same channels, no lower limits. -/
structure ChannelRaised (a b : AvailableChannelInfo) : Prop where
  channelCfi : a.channelCfi = b.channelCfi
  maxEirp : Option.Rel (List.Forall₂ (· ≤ ·)) a.maxEirp b.maxEirp

structure ResponseRaised (a b : AvailResp) : Prop where
  availableFrequencyInfo :
    Option.Rel (List.Forall₂ InfoRaised) a.availableFrequencyInfo b.availableFrequencyInfo
  availableChannelInfo :
    Option.Rel (List.Forall₂ ChannelRaised) a.availableChannelInfo b.availableChannelInfo

/-- Same frequency, no higher samples. -/
structure BlockLowered (a b : PsdInfo) : Prop where
  freqMhz : a.freqMhz = b.freqMhz
  psdDbmMHz : Option.Rel (List.Forall₂ (· ≥ ·)) a.psdDbmMHz b.psdDbmMHz

structure PacketLowered (a b : Packet) : Prop where
  maxPSD : Option.Rel (· ≥ ·) a.maxPSD b.maxPSD
  maxEirp : Option.Rel (· ≥ ·) a.maxEirp b.maxEirp
  freqPsdPerMHz : Option.Rel (List.Forall₂ BlockLowered) a.freqPsdPerMHz b.freqPsdPerMHz

structure ReportLowered (a b : RfMeasurementReport) : Prop where
  centralFreq : a.centralFreq = b.centralFreq
  channelWidth : a.channelWidth = b.channelWidth
  data : List.Forall₂ PacketLowered a.data b.data

/-- What an object holds of two relaxed documents. -/
structure Relaxed (o o' : RfMeasurementValidation) : Prop where
  freqInfo : List.Forall₂ InfoRaised o.respAvailFreqInfo o'.respAvailFreqInfo
  chanInfo : List.Forall₂ ChannelRaised o.respAvailChanInfo o'.respAvailChanInfo
  report : Option.Rel ReportLowered o.rfReport o'.rfReport

theorem relaxed_new {resp resp' : Option AvailResp} {report report' : Option RfMeasurementReport}
    (hresp : Option.Rel ResponseRaised resp resp')
    (hreport : Option.Rel ReportLowered report report') :
    Relaxed (.new resp report) (.new resp' report') where
  freqInfo := getD_bind_related hresp (fun _ _ h => h.availableFrequencyInfo) .nil
  chanInfo := getD_bind_related hresp (fun _ _ h => h.availableChannelInfo) .nil
  report := hreport

/-! ## Lookups -/

theorem key_related {α : Type} {R : α → α → Prop} {name : String} {a b : Option α}
    (h : Option.Rel R a b) : Related R (key name a) (key name b) := by
  cases h with
  | none => exact .error _
  | some hab => exact .ok hab

theorem key_eq_related {α : Type} {name : String} {a b : Option α} (h : a = b) :
    Related Eq (key name a) (key name b) := by
  subst h
  cases a with
  | none => exact .error _
  | some a => exact .ok rfl

theorem matchedFreqRanges_related {items items' : List AvailableFrequencyInfo}
    (h : List.Forall₂ InfoRaised items items') (w : ℚ × ℚ) :
    Related (List.Forall₂ fun r r' => r.2.2 ≤ r'.2.2) (matchedFreqRanges w items)
      (matchedFreqRanges w items') := by
  refine Related.filterMapM h fun item item' hitem => ?_
  refine (key_eq_related hitem.frequencyRange).bind fun range range' hrange => ?_
  subst hrange
  refine (key_eq_related rfl).bind fun low low' hlow => ?_
  refine (key_eq_related rfl).bind fun high high' hhigh => ?_
  subst hlow hhigh
  split
  · exact (key_related hitem.maxPsd).bind fun p p' hp => .ok (.some hp)
  · exact .ok .none

theorem getChannelMaxEirp_related {items items' : List AvailableChannelInfo}
    (h : List.Forall₂ ChannelRaised items items') (channel : ℚ) :
    Related (Option.Rel (· ≤ ·)) (getChannelMaxEirp channel items)
      (getChannelMaxEirp channel items') := by
  induction h with
  | nil => exact .ok .none
  | cons hitem _ ih =>
      unfold getChannelMaxEirp
      refine (key_eq_related hitem.channelCfi).bind fun cfis cfis' hcfis => ?_
      subst hcfis
      split
      · refine (key_related hitem.maxEirp).bind fun limits limits' hlimits => ?_
        have hget := getElem?_related hlimits (cfis.idxOf channel)
        generalize limits[cfis.idxOf channel]? = limit? at hget ⊢
        generalize limits'[cfis.idxOf channel]? = limit?' at hget ⊢
        cases hget with
        | none => exact .error _
        | some hle => exact .ok (.some hle)
      · exact ih

namespace Relaxed

variable {o o' : RfMeasurementValidation}

theorem centerFreq_eq (h : Relaxed o o') : o.centerFreq = o'.centerFreq :=
  getD_map_related h.report (fun _ _ hr => hr.centralFreq) rfl

theorem chwidth_eq (h : Relaxed o o') : o.chwidth = o'.chwidth :=
  getD_map_related h.report (fun _ _ hr => hr.channelWidth) rfl

theorem centerChan_eq (h : Relaxed o o') : o.centerChan = o'.centerChan := by
  unfold RfMeasurementValidation.centerChan
  rw [h.centerFreq_eq]

theorem data_related (h : Relaxed o o') : List.Forall₂ PacketLowered o.data o'.data :=
  getD_map_related h.report (fun _ _ hr => hr.data) .nil

theorem spLimit_related (h : Relaxed o o') (freq : ℚ) :
    Related (Option.Rel (· ≤ ·)) (o.spLimit freq o.chwidth) (o'.spLimit freq o'.chwidth) := by
  unfold RfMeasurementValidation.spLimit
  rw [h.chwidth_eq]
  refine (matchedFreqRanges_related h.freqInfo _).bind fun matched matched' hmatched => ?_
  refine .ok (min?_related ?_)
  rw [List.forall₂_map_left_iff, List.forall₂_map_right_iff]
  exact hmatched

theorem chanLimit_related (h : Relaxed o o') :
    Related (Option.Rel (· ≤ ·)) (getChannelMaxEirp o.centerChan o.respAvailChanInfo)
      (getChannelMaxEirp o'.centerChan o'.respAvailChanInfo) := by
  rw [h.centerChan_eq]
  exact getChannelMaxEirp_related h.chanInfo _

theorem items_iff (h : Relaxed o o') : o.respAvailFreqInfo = [] ↔ o'.respAvailFreqInfo = [] := by
  rw [← List.length_eq_zero_iff, ← List.length_eq_zero_iff, h.freqInfo.length_eq]

theorem data_iff (h : Relaxed o o') : o.data = [] ↔ o'.data = [] := by
  rw [← List.length_eq_zero_iff, ← List.length_eq_zero_iff, h.data_related.length_eq]

theorem centerLimit_raised (h : Relaxed o o') {limit : ℚ} (hlimit : o.CenterLimit limit) :
    ∃ limit', o'.CenterLimit limit' ∧ limit ≤ limit' := by
  obtain ⟨limit?, hlimit', hle⟩ := (h.spLimit_related _).eq_ok hlimit
  rw [h.centerFreq_eq] at hlimit'
  cases hle with
  | some hle => exact ⟨_, hlimit', hle⟩

theorem centerLimit_error_iff (h : Relaxed o o') :
    (∃ e, o.spLimit o.centerFreq o.chwidth = .error e) ↔
      ∃ e, o'.spLimit o'.centerFreq o'.chwidth = .error e := by
  rw [← h.centerFreq_eq]
  exact exists_congr fun _ => (h.spLimit_related _).error_iff

/-! ## Scans that pass -/

/-- A lower value is within a higher limit. -/
theorem within_mono {a b : Option ℚ} {limit limit' : ℚ} (h : Option.Rel (· ≥ ·) a b)
    (hle : limit ≤ limit') : (∃ p, a = some p ∧ p ≤ limit) → ∃ p, b = some p ∧ p ≤ limit' := by
  rintro ⟨p, rfl, hp⟩
  cases h with
  | some hlow => exact ⟨_, rfl, (hlow.trans hp).trans hle⟩

theorem powerFits (h : Relaxed o o') : o.PowerFits → o'.PowerFits := by
  rintro ⟨hdata, limit, hlimit, hwithin⟩
  obtain ⟨limit', hlimit', hle⟩ := h.centerLimit_raised hlimit
  refine ⟨fun hnil => hdata (h.data_iff.mpr hnil), limit', hlimit', ?_⟩
  exact forall_mem_of_forall₂ h.data_related (fun _ _ hpkt => within_mono hpkt.maxPSD hle) hwithin

theorem eirpFits (h : Relaxed o o') {limit limit' : ℚ} (hle : limit ≤ limit') :
    o.EirpFits limit → o'.EirpFits limit' := by
  rintro ⟨hdata, hwithin⟩
  refine ⟨fun hnil => hdata (h.data_iff.mpr hnil), ?_⟩
  exact forall_mem_of_forall₂ h.data_related (fun _ _ hpkt => within_mono hpkt.maxEirp hle) hwithin

theorem blockFits (h : Relaxed o o') {info info' : PsdInfo} (hinfo : BlockLowered info info') :
    o.BlockFits info → o'.BlockFits info' := by
  rintro ⟨freq, psds, hfreq, hpsds, limit?, hlimit, hcenter, hwithin⟩
  obtain ⟨limit?', hlimit', hle⟩ := (h.spLimit_related freq).eq_ok hlimit
  have hsamples := hinfo.psdDbmMHz
  rw [hpsds] at hsamples
  cases hpsds' : info'.psdDbmMHz with
  | none =>
      rw [hpsds'] at hsamples
      cases hsamples
  | some psds' =>
      rw [hpsds', Option.rel_some_some] at hsamples
      refine ⟨freq, psds', hinfo.freqMhz ▸ hfreq, hpsds', limit?', hlimit', ?_, ?_⟩
      · rintro rfl
        rw [← h.centerFreq_eq]
        cases hle with
        | none => exact hcenter rfl
      · rintro limit' rfl
        cases hle with
        | some hle =>
            refine forall_mem_of_forall₂ hsamples (fun psd psd' hlow hpsd => ?_) (hwithin _ rfl)
            exact (hlow.trans hpsd).trans hle

theorem packetFits (h : Relaxed o o') {pkt pkt' : Packet} (hpkt : PacketLowered pkt pkt') :
    o.PacketFits pkt → o'.PacketFits pkt' := by
  rintro ⟨infos, hinfos, hfit⟩
  have hblocks := hpkt.freqPsdPerMHz
  rw [hinfos] at hblocks
  cases hinfos' : pkt'.freqPsdPerMHz with
  | none =>
      rw [hinfos'] at hblocks
      cases hblocks
  | some infos' =>
      rw [hinfos', Option.rel_some_some] at hblocks
      exact ⟨infos', hinfos', forall_mem_of_forall₂ hblocks (fun _ _ hinfo => h.blockFits hinfo) hfit⟩

theorem blocksFit (h : Relaxed o o') : o.BlocksFit → o'.BlocksFit := by
  rintro ⟨hdata, hfit⟩
  refine ⟨fun hnil => hdata (h.data_iff.mpr hnil), ?_⟩
  exact forall_mem_of_forall₂ h.data_related (fun _ _ hpkt => h.packetFits hpkt) hfit

end Relaxed

end AfcDut.Rf
