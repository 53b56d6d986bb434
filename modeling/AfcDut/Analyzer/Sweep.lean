import AfcDut.Analyzer.Litepoint
import AfcDut.Rf.Verdict

/-!
# What a sweep over all channels reports

A sweep nothing raises in gathers, channel by channel, the rows of every
round; it reports each channel that has rows. A sweep in which anything
raises, a row that `float` does not read included, reports nothing.
-/

namespace AfcDut.Analyzer

open Data Py Rf

/-! ## Scans -/

/-- The rows the driver takes from a run of the tool. -/
def Scan.rows (scan : Scan) : List Row :=
  if scan.error.isSome then [] else scan.resultCsv.getD []

/-- A row as a packet without PSD rows. -/
def Row.pkt (row : Row) : Pkt := ⟨row, []⟩

/-- `generate_report` reads the row. -/
def Row.Readable (row : Row) : Prop := ∃ entry, powerEntry row.pkt = .ok entry

theorem spectrumAnalyzeOnce_of_unraised {scan : Scan} (h : scan.raised = none) :
    spectrumAnalyzeOnce .immediate scan = .ok (scan.rows.map Row.pkt) := by
  unfold spectrumAnalyzeOnce Scan.rows
  rw [h]
  cases scan.error with
  | some line => rfl
  | none =>
      cases scan.resultCsv with
      | none => rfl
      | some rows => rfl

theorem spectrumAnalyzeOnce_of_raised {scan : Scan} {e : Err} (h : scan.raised = some e) :
    spectrumAnalyzeOnce .immediate scan = .error e := by
  unfold spectrumAnalyzeOnce
  rw [h]

/-! ## Rounds -/

/-- Nothing is raised in any scan of any round. -/
def Unbroken (rounds : List (Int × Int → Scan)) : Prop :=
  ∀ scans ∈ rounds, ∀ chan ∈ allChannels6g, (scans chan).raised = none

/-- The rows of a channel, round after round. -/
def capturedRows (rounds : List (Int × Int → Scan)) (chan : Int × Int) : List Row :=
  rounds.flatMap fun scans => (scans chan).rows

/-- What the rounds add to the captured packets. -/
def additions (rounds : List (Int × Int → Scan)) : List ((Int × Int) × List Pkt) :=
  rounds.flatMap fun scans => allChannels6g.map fun chan => (chan, (scans chan).rows.map Row.pkt)

theorem captureScan_of_unraised {scans : Int × Int → Scan} {chan : Int × Int}
    (h : (scans chan).raised = none) (captured : CapturedPackets) :
    captureScan scans captured chan = .ok (captured.add (chan, (scans chan).rows.map Row.pkt)) := by
  unfold captureScan
  rw [spectrumAnalyzeOnce_of_unraised h]
  rfl

theorem captureScan_of_raised {scans : Int × Int → Scan} {chan : Int × Int} {e : Err}
    (h : (scans chan).raised = some e) (captured : CapturedPackets) :
    captureScan scans captured chan = .error e := by
  unfold captureScan
  rw [spectrumAnalyzeOnce_of_raised h]
  rfl

theorem captureRound_of_unraised {scans : Int × Int → Scan}
    (h : ∀ chan ∈ allChannels6g, (scans chan).raised = none) (captured : CapturedPackets) :
    captureRound captured scans =
      .ok ((allChannels6g.map fun chan => (chan, (scans chan).rows.map Row.pkt)).foldl
        ListDict.add captured) := by
  unfold captureRound
  rw [List.foldl_map]
  exact foldlM_eq_ok (fun chan hchan captured => captureScan_of_unraised (h chan hchan) captured)
    captured

theorem captured_of_unbroken {rounds : List (Int × Int → Scan)} (h : Unbroken rounds) :
    rounds.foldlM captureRound [] = .ok ((additions rounds).foldl ListDict.add []) := by
  unfold additions
  rw [List.foldl_flatMap]
  exact foldlM_eq_ok (fun scans hscans captured => captureRound_of_unraised (h scans hscans) captured)
    []

theorem captured_raises {rounds : List (Int × Int → Scan)} (h : ¬ Unbroken rounds) :
    ∃ e, rounds.foldlM captureRound [] = .error e := by
  unfold Unbroken at h
  push Not at h
  obtain ⟨scans, hscans, chan, hchan, hraised⟩ := h
  obtain ⟨e, he⟩ := Option.ne_none_iff_exists'.mp hraised
  apply foldlM_raises hscans
  intro captured
  apply foldlM_raises hchan
  intro captured
  exact ⟨e, captureScan_of_raised he captured⟩

theorem gather_additions (rounds : List (Int × Int → Scan)) (chan : Int × Int) :
    ListDict.gather chan (additions rounds) =
      if chan ∈ allChannels6g then (capturedRows rounds chan).map Row.pkt else [] := by
  have distinct : allChannels6g.Nodup := by decide
  induction rounds with
  | nil => simp [additions, capturedRows]
  | cons scans rounds ih =>
      have hcons : additions (scans :: rounds) =
          (allChannels6g.map fun chan => (chan, (scans chan).rows.map Row.pkt)) ++
            additions rounds := rfl
      rw [hcons, ListDict.gather_append, ih, ListDict.gather_map distinct]
      by_cases hchan : chan ∈ allChannels6g
      · simp [hchan, capturedRows]
      · simp [hchan]

/-- The entries of the captured packets: the channels with rows. -/
theorem mem_captured_iff (rounds : List (Int × Int → Scan)) (chan : Int × Int) (pkts : List Pkt) :
    (chan, pkts) ∈ (additions rounds).foldl ListDict.add [] ↔
      chan ∈ allChannels6g ∧ capturedRows rounds chan ≠ [] ∧
        pkts = (capturedRows rounds chan).map Row.pkt := by
  have gathers := ListDict.Gathers.nil.foldl (additions rounds)
  rw [List.nil_append] at gathers
  rw [gathers.mem_iff, gather_additions]
  by_cases hchan : chan ∈ allChannels6g
  · rw [if_pos hchan]
    constructor
    · intro h
      obtain ⟨hne, rfl⟩ := h
      exact ⟨hchan, fun hnil => hne (by rw [hnil]; rfl), rfl⟩
    · intro h
      obtain ⟨_, hne, rfl⟩ := h
      exact ⟨by simpa using hne, rfl⟩
  · rw [if_neg hchan]
    constructor
    · intro h
      exact absurd h.2.symm h.1
    · intro h
      exact absurd h.1 hchan

/-! ## Reports -/

/-- Every captured row is readable. -/
def AllReadable (rounds : List (Int × Int → Scan)) : Prop :=
  ∀ chan ∈ allChannels6g, ∀ row ∈ capturedRows rounds chan, row.Readable

/-- The sweep gets as far as its reports. -/
def Reported (rounds : List (Int × Int → Scan)) : Prop := Unbroken rounds ∧ AllReadable rounds

/-- `float` takes the text, an infinity and NaN included. -/
def FloatTakes (text : String) : Prop := (∃ q, float text = .ok q) ∨ isNonFinite text = true

/-- `generate_report` raises nothing on the row: where both cells are filled
they are numbers. -/
def Row.Taken (row : Row) : Prop :=
  ∃ power, row.cell "packetPower" = .ok power ∧ (truthy power = true →
    ∃ peak, row.cell "peakPsdDbmMHz" = .ok peak ∧ (truthy peak = true →
      (∀ text ∈ power, FloatTakes text) ∧ ∀ text ∈ peak, FloatTakes text))

def AllTaken (rounds : List (Int × Int → Scan)) : Prop :=
  ∀ chan ∈ allChannels6g, ∀ row ∈ capturedRows rounds chan, row.Taken

/-- No cell of the row is an infinity or NaN, which are floats without a place
among the fractions. -/
def Row.Finite (row : Row) : Prop :=
  ∀ name text, row.cell name = .ok (some text) → isNonFinite text = false

def FiniteCells (rounds : List (Int × Int → Scan)) : Prop :=
  ∀ chan ∈ allChannels6g, ∀ row ∈ capturedRows rounds chan, row.Finite

/-- `float` of a filled cell. -/
theorem floatCell_isOk_iff {cell : Option String} (hfilled : truthy cell = true)
    (hfinite : ∀ text ∈ cell, isNonFinite text = false) :
    (∃ q, floatCell cell = .ok q) ↔ ∀ text ∈ cell, FloatTakes text := by
  cases cell with
  | none => exact absurd hfilled Bool.false_ne_true
  | some text =>
      have hplain := hfinite text rfl
      unfold FloatTakes floatCell
      simp only [Option.mem_def, Option.some.injEq, forall_eq', hplain, Bool.false_eq_true, or_false]
      cases float text <;> simp [Except.mapError]

theorem powerEntry_isOk_iff (pkt : Pkt) : (∃ entry, powerEntry pkt = .ok entry) ↔
    ∃ power, pkt.row.cell "packetPower" = .ok power ∧ (truthy power = true →
      ∃ peak, pkt.row.cell "peakPsdDbmMHz" = .ok peak ∧ (truthy peak = true →
        (∃ q, floatCell power = .ok q) ∧ ∃ q, floatCell peak = .ok q)) := by
  unfold powerEntry
  rw [bind_isOk_iff]
  refine exists_congr fun power => and_congr_right fun _ => ?_
  cases truthy power with
  | false => simp
  | true =>
      simp only [if_true, forall_const]
      rw [bind_isOk_iff]
      refine exists_congr fun peak => and_congr_right fun _ => ?_
      cases truthy peak with
      | false => simp
      | true =>
          simp only [if_true, forall_const, bind_isOk_iff]
          simp

/-- A row without an infinity or NaN is taken where it is readable. -/
theorem readable_iff_taken {row : Row} (hfinite : row.Finite) : row.Readable ↔ row.Taken := by
  have hcell : ∀ {name cell}, row.cell name = .ok cell → truthy cell = true →
      ((∃ q, floatCell cell = .ok q) ↔ ∀ text ∈ cell, FloatTakes text) := by
    intro name cell hread hfilled
    exact floatCell_isOk_iff hfilled fun text htext => hfinite name text (htext ▸ hread)
  unfold Row.Readable Row.Taken
  rw [powerEntry_isOk_iff]
  refine exists_congr fun power => and_congr_right fun hpower => forall_congr' fun hfilled => ?_
  refine exists_congr fun peak => and_congr_right fun hpeak => forall_congr' fun hfilled' => ?_
  rw [hcell hpower hfilled, hcell hpeak hfilled']

theorem reported_iff_taken {rounds : List (Int × Int → Scan)} (hfinite : FiniteCells rounds) :
    Reported rounds ↔ Unbroken rounds ∧ AllTaken rounds := by
  have hrow : AllReadable rounds ↔ AllTaken rounds :=
    forall₂_congr fun chan hchan => forall₂_congr fun row hmem =>
      readable_iff_taken (hfinite chan hchan row hmem)
  unfold Reported
  rw [hrow]

theorem generateReport_rows {chan bw : Int} {rows : List Row} (hne : rows ≠ []) :
    generateReport chan bw (rows.map Row.pkt) false = (do
      let data ← (rows.map Row.pkt).filterMapM powerEntry
      pure (some ⟨5950 + 5 * chan, bw, data⟩)) := by
  cases rows with
  | nil => exact absurd rfl hne
  | cons row rows => rfl

theorem generateReport_rows_isOk_iff {chan bw : Int} {rows : List Row} (hne : rows ≠ []) :
    (∃ report, generateReport chan bw (rows.map Row.pkt) false = .ok report) ↔
      ∀ row ∈ rows, row.Readable := by
  have hread : (∃ data, (rows.map Row.pkt).filterMapM powerEntry = .ok data) ↔
      ∀ row ∈ rows, row.Readable := by
    rw [filterMapM_isOk_iff, List.forall_mem_map]
    rfl
  rw [generateReport_rows hne, ← hread]
  constructor
  · intro h
    obtain ⟨report, hreport⟩ := h
    obtain ⟨data, hdata, _⟩ := bind_eq_ok.mp hreport
    exact ⟨data, hdata⟩
  · intro h
    obtain ⟨data, hdata⟩ := h
    exact ⟨_, by rw [hdata]; rfl⟩

theorem allReports_isOk_iff (rounds : List (Int × Int → Scan)) :
    (∃ reports, allReports rounds = .ok reports) ↔ Reported rounds := by
  unfold allReports
  by_cases hun : Unbroken rounds
  · rw [captured_of_unbroken hun, ok_bind, mapM_isOk_iff]
    constructor
    · intro h
      refine ⟨hun, fun chan hchan row hrow => ?_⟩
      have hne : capturedRows rounds chan ≠ [] := List.ne_nil_of_mem hrow
      have hmem := (mem_captured_iff rounds chan _).mpr ⟨hchan, hne, rfl⟩
      exact (generateReport_rows_isOk_iff hne).mp (h _ hmem) row hrow
    · intro h entry hentry
      obtain ⟨chan, pkts⟩ := entry
      obtain ⟨hchan, hne, rfl⟩ := (mem_captured_iff rounds chan pkts).mp hentry
      exact (generateReport_rows_isOk_iff hne).mpr (h.2 chan hchan)
  · obtain ⟨e, he⟩ := captured_raises hun
    rw [he, error_bind]
    constructor
    · intro h
      obtain ⟨reports, hreports⟩ := h
      exact absurd hreports (by simp)
    · intro h
      exact absurd h.1 hun

/-- A sweep that raises has no reports. -/
theorem spectrumAnalyzeAll_of_not_reported {rounds : List (Int × Int → Scan)}
    (h : ¬ Reported rounds) : spectrumAnalyzeAll rounds = [] := by
  unfold spectrumAnalyzeAll
  cases hall : allReports rounds with
  | error e => rfl
  | ok reports => exact absurd ((allReports_isOk_iff rounds).mp ⟨reports, hall⟩) h

/-- **The reports of a sweep.** One for each channel that has rows, of the
entries of all of them. -/
theorem mem_spectrumAnalyzeAll_iff {rounds : List (Int × Int → Scan)} (h : Reported rounds)
    (report : Option RfMeasurementReport) :
    report ∈ spectrumAnalyzeAll rounds ↔
      ∃ chan ∈ allChannels6g, capturedRows rounds chan ≠ [] ∧
        generateReport chan.1 chan.2 ((capturedRows rounds chan).map Row.pkt) false = .ok report := by
  obtain ⟨reports, hall⟩ := (allReports_isOk_iff rounds).mpr h
  have hreports : spectrumAnalyzeAll rounds = reports := by
    unfold spectrumAnalyzeAll
    rw [hall]
  rw [hreports]
  unfold allReports at hall
  rw [captured_of_unbroken h.1, ok_bind] at hall
  rw [mem_of_mapM_eq_ok hall]
  constructor
  · intro hmem
    obtain ⟨⟨chan, pkts⟩, hentry, hreport⟩ := hmem
    obtain ⟨hchan, hne, rfl⟩ := (mem_captured_iff rounds chan pkts).mp hentry
    exact ⟨chan, hchan, hne, hreport⟩
  · intro hmem
    obtain ⟨chan, hchan, hne, hreport⟩ := hmem
    exact ⟨_, (mem_captured_iff rounds chan _).mpr ⟨hchan, hne, rfl⟩, hreport⟩

/-! ## A report against a limit -/

/-- No row has an entry, or some entry is above the limit. -/
def Flagged (limit : ℚ) (rows : List Row) : Prop :=
  (∀ row ∈ rows, powerEntry row.pkt = .ok none) ∨
    ∃ row ∈ rows, ∃ psd eirp, powerEntry row.pkt = .ok (some ⟨some psd, some eirp, none⟩) ∧
      limit < psd

/-- An entry has both of its numbers and no block. -/
theorem powerEntry_shape {pkt : Pkt} {entry : Packet} (h : powerEntry pkt = .ok (some entry)) :
    ∃ psd eirp, entry = ⟨some psd, some eirp, none⟩ := by
  unfold powerEntry at h
  obtain ⟨power, _, h⟩ := bind_eq_ok.mp h
  split at h
  · obtain ⟨peak, _, h⟩ := bind_eq_ok.mp h
    split at h
    · obtain ⟨maxEirp, _, h⟩ := bind_eq_ok.mp h
      obtain ⟨maxPsd, _, h⟩ := bind_eq_ok.mp h
      simp only [pure_eq_ok, Except.ok.injEq, Option.some.injEq] at h
      exact ⟨maxPsd, maxEirp, h.symm⟩
    · simp at h
  · simp at h

/-- The report of a channel fails a limit exactly when its rows are flagged. -/
theorem validatePsdLimit_rows {chan bw : Int} {rows : List Row} {report : RfMeasurementReport}
    (hne : rows ≠ []) (h : generateReport chan bw (rows.map Row.pkt) false = .ok (some report))
    (limit : ℚ) :
    reportPasses (·.validatePsdLimit limit) report = false ↔ Flagged limit rows := by
  rw [generateReport_rows hne] at h
  obtain ⟨data, hdata, hreport⟩ := bind_eq_ok.mp h
  simp only [pure_eq_ok, Except.ok.injEq, Option.some.injEq] at hreport
  subst hreport
  have mem : ∀ pkt, pkt ∈ data ↔ ∃ row ∈ rows, powerEntry row.pkt = .ok (some pkt) := by
    intro pkt
    rw [mem_of_filterMapM_eq_ok hdata]
    simp
  have readable : ∀ row ∈ rows, row.Readable := by
    have hok := filterMapM_isOk_iff.mp ⟨data, hdata⟩
    exact fun row hrow => hok row.pkt (List.mem_map_of_mem hrow)
  unfold reportPasses
  rw [← Bool.not_eq_true, RfMeasurementValidation.validatePsdLimit_iff]
  constructor
  · intro hfail
    by_cases hempty : data = []
    · refine .inl fun row hrow => ?_
      obtain ⟨entry, hentry⟩ := readable row hrow
      cases entry with
      | none => exact hentry
      | some pkt =>
          have hmem := (mem pkt).mpr ⟨row, hrow, hentry⟩
          rw [hempty] at hmem
          exact absurd hmem List.not_mem_nil
    · refine .inr ?_
      by_contra hnone
      apply hfail
      refine ⟨hempty, fun pkt hpkt => ?_⟩
      obtain ⟨row, hrow, hentry⟩ := (mem pkt).mp hpkt
      obtain ⟨psd, eirp, rfl⟩ := powerEntry_shape hentry
      refine ⟨psd, rfl, ?_⟩
      by_contra habove
      exact hnone ⟨row, hrow, psd, eirp, hentry, not_le.mp habove⟩
  · intro hflag hpass
    obtain hnone | ⟨row, hrow, psd, eirp, hentry, habove⟩ := hflag
    · apply hpass.1
      apply List.eq_nil_iff_forall_not_mem.mpr
      intro pkt hpkt
      obtain ⟨row, hrow, hentry⟩ := (mem pkt).mp hpkt
      rw [hnone row hrow] at hentry
      exact absurd hentry (by simp)
    · obtain ⟨p, hp, hle⟩ := hpass.2 _ ((mem _).mpr ⟨row, hrow, hentry⟩)
      rw [Option.some.injEq] at hp
      subst hp
      exact absurd habove (not_lt.mpr hle)

end AfcDut.Analyzer
