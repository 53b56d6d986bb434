import AfcDut.Data.ListDict
import AfcDut.Py.Text
import AfcDut.Rf.Validation

/-!
# The spectrum analyzer driver

`spectrum_analyzer_litepoint.py`: each scan runs `IQsniffer_test` and reads
the CSV file it leaves; the packets of many scans become measurement reports.
What a run of the tool leaves is an input of the model, and so is the number
of rounds that fit in the timeout.
-/

namespace AfcDut.Analyzer

open Data Py Rf

/-! ## Rows and scans -/

/-- What the driver may raise: an exception of the language, a local variable
read before it is set, or a failure of the files, the shell or the settings. -/
inductive Err where
  | py (e : PyErr)
  | unboundLocal
  | environment

/-- A row as `csv.DictReader` reads it; a cell the line lacks is `None`. -/
abbrev Row := List (String × Option String)

/-- `row[name]`. -/
def Row.cell (row : Row) (name : String) : Except Err (Option String) :=
  match row.lookup name with
  | some cell => .ok cell
  | none => .error (.py (.keyError (.str name)))

/-- `float` of a cell. -/
def floatCell : Option String → Except Err ℚ
  | some text => (float text).mapError .py
  | none => .error (.py .typeError)

/-- `float(row[name])`. -/
def Row.number (row : Row) (name : String) : Except Err ℚ := row.cell name >>= floatCell

/-- A packet of the driver: a row of the result file and, where the file has
PSD rows, the list that takes the place of `psd_dbm_mhz`. -/
structure Pkt where
  row : Row
  psdDbmMhz : List ℚ

/-- One run of the tool: what it raises on the way (a failure before the first
run of a round counts as raised by that run), the lines it prints, and the
result file, if there is one. -/
structure Scan where
  raised : Option Err
  stdOut : List String
  resultCsv : Option (List Row)

inductive TriggerSource where
  | immediate
  | rfdq
  deriving DecidableEq

/-! ## One scan -/

/-- A row of a PSD file: a row whose frequency has the text of the row before
joins its block. `none` is the number `0`, which no text equals. -/
def psdStep (state : Option (Option String) × List Pkt) (row : Row) :
    Except Err (Option (Option String) × List Pkt) := do
  let psd ← row.number "psd_dbm_mhz"
  let freqMhz ← row.cell "freq_mhz"
  if state.1 ≠ some freqMhz then
    pure (some freqMhz, state.2 ++ [⟨row, [psd]⟩])
  else
    match state.2.getLast? with
    | none => throw (.py .indexError)
    | some last =>
        pure (state.1, state.2.dropLast ++ [{ last with psdDbmMhz := last.psdDbmMhz ++ [psd] }])

/-- `psd_pkts`. -/
def psdPkts (rows : List Row) : Except Err (List Pkt) := do
  let state ← rows.foldlM psdStep (none, [])
  pure state.2

/-- `__read_csv_file`. -/
def readCsvFile (trigger : TriggerSource) : Option (List Row) → Except Err (List Pkt)
  | none => pure []
  | some rows =>
      match trigger with
      | .immediate => pure (rows.map fun row => ⟨row, []⟩)
      | .rfdq => psdPkts rows

/-- The line `self.error` keeps. -/
def Scan.error (scan : Scan) : Option String := scan.stdOut.find? (contains "Fatal Error")

/-- `__spectrum_analyze`. -/
def spectrumAnalyzeOnce (trigger : TriggerSource) (scan : Scan) : Except Err (List Pkt) :=
  match scan.raised with
  | some e => .error e
  | none => if scan.error.isSome then pure [] else readCsvFile trigger scan.resultCsv

def spectrumAnalyzerConnect (scan : Scan) : Except Err Bool := do
  let _ ← spectrumAnalyzeOnce .immediate scan
  match scan.error with
  | some line => pure !(contains "Could not connect to" line)
  | none => pure true

/-! ## Reports -/

/-- `__convert_ch_to_freq`. -/
def convertChToFreq (channel : ℚ) : Int := trunc (5950 + channel * 5)

/-- The local variables of the loop over PSD packets. -/
structure PsdLoop where
  maxEirp : Option ℚ
  maxPsd : Option ℚ
  freqPsdPerMHz : List PsdInfo
  data : List Packet

def PsdLoop.init : PsdLoop := ⟨none, none, [], []⟩

/-- `max_eirp` and `max_psd` are set by a packet of the centre frequency. -/
def PsdLoop.centre (channel : Int) (loop : PsdLoop) (pkt : Pkt) : Except Err PsdLoop := do
  let freqMhz ← pkt.row.number "freq_mhz"
  if trunc freqMhz = convertChToFreq channel then
    let maxEirp ← pkt.row.number "channel_power_dbm"
    let maxPsd ← pkt.row.number "peak_psd_dbm_mhz"
    pure { loop with maxEirp := some maxEirp, maxPsd := some maxPsd }
  else pure loop

def psdReportStep (channel : Int) (loop : PsdLoop) (entry : Pkt × Nat) : Except Err PsdLoop := do
  let loop ← loop.centre channel entry.1
  let freqMhz ← entry.1.row.number "freq_mhz"
  let freqPsdPerMHz := loop.freqPsdPerMHz ++ [⟨some (trunc freqMhz), some entry.1.psdDbmMhz⟩]
  if entry.2 % 3 = 2 then
    match loop.maxEirp, loop.maxPsd with
    | some maxEirp, some maxPsd =>
        pure { loop with
          data := loop.data ++ [⟨some maxPsd, some maxEirp, some freqPsdPerMHz⟩]
          freqPsdPerMHz := [] }
    | _, _ => throw .unboundLocal
  else pure { loop with freqPsdPerMHz := freqPsdPerMHz }

/-- `if cell`: neither `None` nor the empty text. -/
def truthy : Option String → Bool
  | some text => !text.isEmpty
  | none => false

/-- The entry of a packet without PSD rows, if both its cells are filled. -/
def powerEntry (pkt : Pkt) : Except Err (Option Packet) := do
  let power ← pkt.row.cell "packetPower"
  if truthy power then
    let peak ← pkt.row.cell "peakPsdDbmMHz"
    if truthy peak then
      let maxEirp ← floatCell power
      let maxPsd ← floatCell peak
      pure (some ⟨some maxPsd, some maxEirp, none⟩)
    else pure none
  else pure none

/-- `generate_report`; the empty dictionary is `none`. -/
def generateReport (channel bandwidth : Int) (capturedPackets : List Pkt) (usePsd : Bool) :
    Except Err (Option RfMeasurementReport) := do
  if capturedPackets.isEmpty then pure none
  else if usePsd then
    let loop ← capturedPackets.zipIdx.foldlM (psdReportStep channel) .init
    pure (some ⟨5950 + 5 * channel, bandwidth, loop.data⟩)
  else
    let data ← capturedPackets.filterMapM powerEntry
    pure (some ⟨5950 + 5 * channel, bandwidth, data⟩)

/-! ## All channels -/

def allChannels6g : List (Int × Int) :=
  [(15, 160), (47, 160), (79, 160), (111, 160), (143, 160), (175, 160)]

/-- `self.captured_packets`, in the order its keys were set. -/
abbrev CapturedPackets := ListDict (Int × Int) Pkt

/-- A scan of one channel in a round. -/
def captureScan (scans : Int × Int → Scan) (captured : CapturedPackets) (chan : Int × Int) :
    Except Err CapturedPackets := do
  let pkts ← spectrumAnalyzeOnce .immediate (scans chan)
  pure (if pkts.isEmpty then captured else captured.extend chan pkts)

/-- One pass of `while True` over the channels. -/
def captureRound (captured : CapturedPackets) (scans : Int × Int → Scan) :
    Except Err CapturedPackets :=
  allChannels6g.foldlM (captureScan scans) captured

/-- The body of `spectrum_analyze_all`, for the rounds that fit in the timeout. -/
def allReports (rounds : List (Int × Int → Scan)) :
    Except Err (List (Option RfMeasurementReport)) := do
  let captured ← rounds.foldlM captureRound []
  captured.mapM fun entry => generateReport entry.1.1 entry.1.2 entry.2 false

def spectrumAnalyzeAll (rounds : List (Int × Int → Scan)) : List (Option RfMeasurementReport) :=
  match allReports rounds with
  | .ok reports => reports
  | .error _ => []

/-! ## The verdicts -/

/-- `RfMeasurementValidation({}, report).validate_...` of a fresh object. -/
def reportPasses (verdict : RfMeasurementValidation → StateM Memo Bool)
    (report : RfMeasurementReport) : Bool :=
  ((verdict (.new none (some report))).run .init).1

/-- `if report`: whether a channel's report shows SP operation. -/
def showsSpOperation (lpiSupport : Bool) : Option RfMeasurementReport → Bool
  | none => false
  | some report => if lpiSupport then !(reportPasses (·.validateLpiTransmitPower) report) else true

/-- `monitor_allchans_sp_operation` with an automatic RF tester; `files` is
what saving the report and uploading the support data raises. -/
def monitorAllchansSpOperation (lpiSupport : Bool) (rounds : List (Int × Int → Scan))
    (files : Except Err Unit) : Except Err Bool := do
  let reportList := spectrumAnalyzeAll rounds
  files
  pure (reportList.any (showsSpOperation lpiSupport))

/-- `if report`: whether a channel's report is above the limit of a fixed
client, 6 dB below the default 8 of the access point. -/
def exceedsFcPower : Option RfMeasurementReport → Bool
  | none => false
  | some report => !(reportPasses (·.validateFcTransmitPower (8 - 6)) report)

/-- `validate_fc_transmit_power` of the base script, with an automatic RF
tester. -/
def validateFcTransmitPower (rounds : List (Int × Int → Scan)) (files : Except Err Unit) :
    Except Err Bool := do
  let reportList := spectrumAnalyzeAll rounds
  files
  pure !(reportList.any exceedsFcPower)

end AfcDut.Analyzer
