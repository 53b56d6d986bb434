import AfcDut.Analyzer.Sweep

/-!
# When the monitoring verdict fails closed

Silence of the DUT is a sweep without a report above the limits. A scan that
fails leaves no report either, so the verdict fails closed only where another
channel speaks up, or where the base script itself cannot save its files. The
numbers of the result files are finite.
-/

namespace AfcDut.Analyzer.Theorems.FailClosed

open Py Rf

/-- The scan came to its end: nothing is raised, no `Fatal Error` line, a
result file whose rows can be read. -/
structure Scan.Completed (scan : Scan) : Prop where
  unraised : scan.raised = none
  noFatalError : scan.error = none
  hasFile : scan.resultCsv ≠ none
  readable : ∀ row ∈ scan.rows, row.Taken

def AllCompleted (rounds : List (Int × Int → Scan)) : Prop :=
  ∀ scans ∈ rounds, ∀ chan ∈ allChannels6g, Scan.Completed (scans chan)

/-- No error is reported as silence: "no SP operation" and a valid transmit
power are answered only after completed scans. -/
def FailsClosed (lpiSupport : Bool) (rounds : List (Int × Int → Scan)) (files : Except Err Unit) :
    Prop :=
  (monitorAllchansSpOperation lpiSupport rounds files = .ok false → AllCompleted rounds) ∧
    (validateFcTransmitPower rounds files = .ok true → AllCompleted rounds)

/-- The sweep gets as far as its reports, and a channel with packets has the
property. -/
def SomeChannel (p : List Row → Prop) (rounds : List (Int × Int → Scan)) : Prop :=
  (Unbroken rounds ∧ AllTaken rounds) ∧ ∃ chan ∈ allChannels6g, capturedRows rounds chan ≠ [] ∧
    p (capturedRows rounds chan)

section Verdicts

variable {rounds : List (Int × Int → Scan)} (hfinite : FiniteCells rounds)
include hfinite

/-- A test of the reports finds one exactly when a test of the rows does. -/
theorem any_reports_iff {bad : Option RfMeasurementReport → Bool} {p : List Row → Prop}
    (hnone : bad none = false)
    (hsome : ∀ chan ∈ allChannels6g, ∀ rows report, rows ≠ [] →
      generateReport chan.1 chan.2 (rows.map Row.pkt) false = .ok (some report) →
      (bad (some report) = true ↔ p rows)) :
    (spectrumAnalyzeAll rounds).any bad = true ↔ SomeChannel p rounds := by
  rw [List.any_eq_true]
  have hgets := reported_iff_taken hfinite
  by_cases hrep : Reported rounds
  · constructor
    · intro h
      obtain ⟨report, hmem, hbad⟩ := h
      obtain ⟨chan, hchan, hne, hreport⟩ := (mem_spectrumAnalyzeAll_iff hrep report).mp hmem
      cases report with
      | none =>
          rw [hnone] at hbad
          exact absurd hbad Bool.false_ne_true
      | some report =>
          exact ⟨hgets.mp hrep, chan, hchan, hne, (hsome chan hchan _ report hne hreport).mp hbad⟩
    · intro h
      obtain ⟨_, chan, hchan, hne, hp⟩ := h
      obtain ⟨report, hreport⟩ := (generateReport_rows_isOk_iff hne).mpr (hrep.2 chan hchan)
      have hmem := (mem_spectrumAnalyzeAll_iff hrep report).mpr ⟨chan, hchan, hne, hreport⟩
      cases report with
      | none =>
          -- rows always make a report
          rw [generateReport_rows hne] at hreport
          obtain ⟨data, _, hdata⟩ := bind_eq_ok.mp hreport
          exact absurd hdata (by simp)
      | some report =>
          exact ⟨some report, hmem, (hsome chan hchan _ report hne hreport).mpr hp⟩
  · rw [spectrumAnalyzeAll_of_not_reported hrep]
    constructor
    · intro h
      obtain ⟨report, hmem, _⟩ := h
      exact absurd hmem List.not_mem_nil
    · intro h
      exact absurd (hgets.mpr h.1) hrep

theorem monitor_silent_iff {lpiSupport : Bool} {files : Except Err Unit} :
    monitorAllchansSpOperation lpiSupport rounds files = .ok false ↔
      files = .ok () ∧
        ¬ SomeChannel (fun rows => lpiSupport = false ∨ Flagged 5 rows) rounds := by
  have shown : (spectrumAnalyzeAll rounds).any (showsSpOperation lpiSupport) = true ↔
      SomeChannel (fun rows => lpiSupport = false ∨ Flagged 5 rows) rounds := by
    refine any_reports_iff hfinite rfl fun chan _ rows report hne hreport => ?_
    have limited := validatePsdLimit_rows hne hreport 5
    cases lpiSupport with
    | false => simp [showsSpOperation]
    | true =>
        show (!(reportPasses (·.validatePsdLimit 5) report)) = true ↔ _
        rw [Bool.not_eq_true', limited]
        simp
  unfold monitorAllchansSpOperation
  rw [← shown, Bool.not_eq_true]
  cases files with
  | error e => simp
  | ok u => simp only [ok_bind, pure_eq_ok, Except.ok.injEq, true_and]

theorem fc_valid_iff {files : Except Err Unit} :
    validateFcTransmitPower rounds files = .ok true ↔
      files = .ok () ∧ ¬ SomeChannel (Flagged 2) rounds := by
  have exceeded : (spectrumAnalyzeAll rounds).any exceedsFcPower = true ↔
      SomeChannel (Flagged 2) rounds := by
    refine any_reports_iff hfinite rfl fun chan _ rows report hne hreport => ?_
    have limited := validatePsdLimit_rows hne hreport (8 - 6)
    have two : (8 - 6 : ℚ) = 2 := by norm_num
    show (!(reportPasses (·.validatePsdLimit (8 - 6)) report)) = true ↔ _
    rw [Bool.not_eq_true', limited, two]
  unfold validateFcTransmitPower
  rw [← exceeded, Bool.not_eq_true]
  cases files with
  | error e => simp
  | ok u => simp only [ok_bind, pure_eq_ok, Except.ok.injEq, true_and, Bool.not_eq_true']

end Verdicts

/-- **When an error is not taken for silence.** The two verdicts fail closed
exactly where no scan fails, where the base script raises on its own files,
or where each verdict is spoken by the packets of some channel: packets at
all for a device without LPI, otherwise rows without a usable entry or with
one above 5, and for a fixed client above 2. A scan that raises takes the
packets of every other scan with it. -/
theorem fails_closed_iff (lpiSupport : Bool) {rounds : List (Int × Int → Scan)}
    (hfinite : FiniteCells rounds) (files : Except Err Unit) :
    FailsClosed lpiSupport rounds files ↔
      AllCompleted rounds ∨ (∃ e, files = .error e) ∨
        (SomeChannel (fun rows => lpiSupport = false ∨ Flagged 5 rows) rounds ∧
          SomeChannel (Flagged 2) rounds) := by
  unfold FailsClosed
  rw [monitor_silent_iff hfinite, fc_valid_iff hfinite]
  constructor
  · intro h
    by_cases hall : AllCompleted rounds
    · exact .inl hall
    · refine .inr ?_
      cases hfiles : files with
      | error e => exact .inl ⟨e, rfl⟩
      | ok u =>
          refine .inr ⟨?_, ?_⟩
          · by_contra hsilent
            exact hall (h.1 ⟨hfiles, hsilent⟩)
          · by_contra hsilent
            exact hall (h.2 ⟨hfiles, hsilent⟩)
  · intro h
    constructor
    · intro hsilent
      obtain hall | ⟨e, he⟩ | hspoken := h
      · exact hall
      · rw [he] at hsilent
        exact absurd hsilent.1 (by simp)
      · exact absurd hspoken.1 hsilent.2
    · intro hsilent
      obtain hall | ⟨e, he⟩ | hspoken := h
      · exact hall
      · rw [he] at hsilent
        exact absurd hsilent.1 (by simp)
      · exact absurd hspoken.2 hsilent.2

/-- A packet above both limits. -/
def loudRow : Row := [("packetPower", some "20.5"), ("peakPsdDbmMHz", some "7.5")]

def loudScan : Scan where
  raised := none
  stdOut := []
  resultCsv := some [loudRow]

/-- Channel 15 has no result file, the others a loud packet each. -/
def oneLost (chan : Int × Int) : Scan :=
  if chan = (15, 160) then { loudScan with resultCsv := none } else loudScan

theorem powerEntry_loudRow :
    powerEntry loudRow.pkt = .ok (some ⟨some (15 / 2), some (41 / 2), none⟩) := by
  have hpower : float "20.5" = .ok (41 / 2) := by decide +kernel
  have hpeak : float "7.5" = .ok (15 / 2) := by decide +kernel
  show (do
    let maxEirp ← (float "20.5").mapError Err.py
    let maxPsd ← (float "7.5").mapError Err.py
    pure (some (⟨some maxPsd, some maxEirp, none⟩ : Packet))) = _
  rw [hpower, hpeak]
  rfl

theorem finite_loudRow : loudRow.Finite := by
  intro name text h
  have hmem : (name, some text) ∈ loudRow := by
    unfold Row.cell at h
    cases hlookup : loudRow.lookup name with
    | none => rw [hlookup] at h; cases h
    | some cell =>
        rw [hlookup] at h
        cases h
        obtain ⟨before, after, hsplit, -⟩ := List.lookup_eq_some_iff.mp hlookup
        rw [hsplit]
        simp
  have hall : ∀ cell ∈ loudRow, ∀ text ∈ cell.2, isNonFinite text = false := by decide +kernel
  exact hall _ hmem text rfl

theorem rows_oneLost {chan : Int × Int} {row : Row} (h : row ∈ capturedRows [oneLost] chan) :
    row = loudRow := by
  have hrows : capturedRows [oneLost] chan = (oneLost chan).rows := List.append_nil _
  rw [hrows] at h
  unfold oneLost at h
  split at h
  · cases h
  · exact List.mem_singleton.mp h

/-- The error is not taken for silence: the other channels speak up. -/
theorem fails_closed_iff_one_lost :
    FailsClosed true [oneLost] (.ok ()) ∧ ¬ AllCompleted [oneLost] := by
  have hfinite : FiniteCells [oneLost] :=
    fun chan _ row hrow => rows_oneLost hrow ▸ finite_loudRow
  have htaken : AllTaken [oneLost] := fun chan _ row hrow =>
    rows_oneLost hrow ▸ (readable_iff_taken finite_loudRow).mp ⟨_, powerEntry_loudRow⟩
  have hunbroken : Unbroken [oneLost] := by
    intro scans hscans chan _
    rw [List.mem_singleton.mp hscans]
    unfold oneLost
    split <;> rfl
  have hflagged : ∀ limit : ℚ, limit < 15 / 2 → Flagged limit [loudRow] :=
    fun limit hlimit => .inr ⟨loudRow, List.mem_singleton.mpr rfl, _, _, powerEntry_loudRow, hlimit⟩
  refine ⟨(fails_closed_iff true hfinite (.ok ())).mpr (.inr (.inr ⟨?_, ?_⟩)), fun hall => ?_⟩
  · exact ⟨⟨hunbroken, htaken⟩, (47, 160), by decide, List.cons_ne_nil _ _,
      .inr (hflagged 5 (by norm_num))⟩
  · exact ⟨⟨hunbroken, htaken⟩, (47, 160), by decide, List.cons_ne_nil _ _,
      hflagged 2 (by norm_num)⟩
  · have completed := hall _ (List.mem_singleton.mpr rfl) (15, 160) (by decide)
    exact completed.hasFile rfl

/-! ## A lost tester -/

/-- The tool cannot reach the tester. -/
def lostTester : Scan where
  raised := none
  stdOut := ["Fatal Error: Could not connect to 192.168.1.254"]
  resultCsv := none

/-- `spectrum_analyzer_connect` tells the lost tester, and both verdicts pass
the DUT. -/
theorem lost_tester_is_silence :
    spectrumAnalyzerConnect lostTester = .ok false ∧
      monitorAllchansSpOperation true [fun _ => lostTester] (.ok ()) = .ok false ∧
      validateFcTransmitPower [fun _ => lostTester] (.ok ()) = .ok true ∧
      ¬ FailsClosed true [fun _ => lostTester] (.ok ()) := by
  have hconnect : spectrumAnalyzerConnect lostTester = .ok false := by decide +kernel
  have hmonitor : monitorAllchansSpOperation true [fun _ => lostTester] (.ok ()) = .ok false := by
    decide +kernel
  have hfc : validateFcTransmitPower [fun _ => lostTester] (.ok ()) = .ok true := by
    decide +kernel
  refine ⟨hconnect, hmonitor, hfc, fun h => ?_⟩
  have completed := h.1 hmonitor _ (List.mem_singleton.mpr rfl) (15, 160) (by decide)
  exact completed.hasFile rfl

end AfcDut.Analyzer.Theorems.FailClosed
