import AfcDut.Analyzer.Litepoint
import Mathlib.Tactic.Ring

/-!
# Measuring the operating channel

`spectrum_analyze`: a pre-run finds the durations of the packets, then every
round captures once for each duration, triggered by it, and reads the PSD rows
of the frequencies of `freq_mhz_scan_list`.
-/

namespace AfcDut.Analyzer

open Py Rf

/-! ## The scan list -/

def lowerChan (channel bandwidth : Int) : ℚ := channel - bandwidth / 10 * 2

def higherChan (channel bandwidth : Int) : ℚ := channel + bandwidth / 10 * 2

/-- The `freq_mhz_scan_list` of `__config_ini`, with the RFDQ trigger. -/
def freqMhzScanList (channel bandwidth : Int) : List Int :=
  convertChToFreq channel ::
    ((if 0 < lowerChan channel bandwidth then [convertChToFreq (lowerChan channel bandwidth)]
      else []) ++
      if higherChan channel bandwidth < 185 then [convertChToFreq (higherChan channel bandwidth)]
      else [])

theorem convertChToFreq_int (channel : Int) : convertChToFreq channel = 5950 + 5 * channel := by
  have hint : (5950 + (channel : ℚ) * 5) = ((5950 + 5 * channel : Int) : ℚ) := by
    push_cast
    ring
  unfold convertChToFreq
  rw [hint, trunc_intCast]

theorem convertChToFreq_lowerChan (channel bandwidth : Int) :
    convertChToFreq (lowerChan channel bandwidth) = 5950 + 5 * channel - bandwidth := by
  have hint : (5950 + lowerChan channel bandwidth * 5) =
      ((5950 + 5 * channel - bandwidth : Int) : ℚ) := by
    unfold lowerChan
    push_cast
    ring
  unfold convertChToFreq
  rw [hint, trunc_intCast]

theorem convertChToFreq_higherChan (channel bandwidth : Int) :
    convertChToFreq (higherChan channel bandwidth) = 5950 + 5 * channel + bandwidth := by
  have hint : (5950 + higherChan channel bandwidth * 5) =
      ((5950 + 5 * channel + bandwidth : Int) : ℚ) := by
    unfold higherChan
    push_cast
    ring
  unfold convertChToFreq
  rw [hint, trunc_intCast]

/-! ## The captures -/

/-- `self.rfdq_margin_us`. -/
def rfdqMarginUs : Int := 10

/-- The duration of a pre-run packet. -/
def newPktDur (pkt : Pkt) : Except Err Int := do
  let duration ← pkt.row.cell "packetDurationUs"
  if duration ≠ some "" then
    let us ← floatCell duration
    pure (trunc us)
  else
    let us ← pkt.row.number "ofdmPacketDurationUs"
    pure (trunc us)

/-- A duration out of the margin of every known one is added. -/
def addDuration (packetDurationList : List Int) (pkt : Pkt) : Except Err (List Int) := do
  let duration ← newPktDur pkt
  if packetDurationList.any fun dur => |dur - duration| ≤ rfdqMarginUs then
    pure packetDurationList
  else pure (packetDurationList ++ [duration])

/-- `spectrum_analyze_pre_run`: the durations, or `none` for `False`. -/
def spectrumAnalyzePreRun (scan : Scan) : Except Err (Option (List Int)) := do
  let packets ← spectrumAnalyzeOnce .immediate scan
  if packets.isEmpty then pure none
  else
    let durations ← packets.foldlM addDuration []
    pure (some durations)

/-- One capture, for one duration. -/
def captureDuration (scans : Int → Scan) (capturedPackets : List Pkt) (duration : Int) :
    Except Err (List Pkt) := do
  let packets ← spectrumAnalyzeOnce .rfdq (scans duration)
  pure (capturedPackets ++ packets)

/-- `captured_packets` after the rounds. -/
def captureRounds (packetDurationList : List Int) (rounds : List (Int → Scan)) :
    Except Err (List Pkt) :=
  rounds.foldlM (fun capturedPackets scans =>
    packetDurationList.foldlM (captureDuration scans) capturedPackets) []

/-- The body of `spectrum_analyze`, for the rounds that fit in the timeout. -/
def measurement (channel bandwidth : Int) (preRun : Scan) (rounds : List (Int → Scan)) :
    Except Err (Option RfMeasurementReport) := do
  match ← spectrumAnalyzePreRun preRun with
  | none => pure none
  | some packetDurationList =>
      let capturedPackets ← captureRounds packetDurationList rounds
      generateReport channel bandwidth capturedPackets true

def spectrumAnalyze (channel bandwidth : Int) (preRun : Scan) (rounds : List (Int → Scan)) :
    Option RfMeasurementReport :=
  match measurement channel bandwidth preRun rounds with
  | .ok report => report
  | .error _ => none

end AfcDut.Analyzer
