import AfcDut.Py.Builtins

/-!
# Validation of RF measurement reports

`rf_measurement_validation.py`: the limits a spectrum response grants at a
frequency or a channel, and the verdict on the packets a spectrum analyzer
measured. A field that a JSON document may lack is an `Option`; reading it
raises a `KeyError`. A number is a rational: it stands for a double that is
exact, so neither rounded, as doubles above `2 ^ 53` are, nor out of range.
-/

namespace AfcDut.Rf

open Py

/-! ## Documents -/

structure FrequencyRange where
  lowFrequency : Option ℚ
  highFrequency : Option ℚ

/-- An item of `availableFrequencyInfo`. -/
structure AvailableFrequencyInfo where
  frequencyRange : Option FrequencyRange
  maxPsd : Option ℚ

/-- An item of `availableChannelInfo`. -/
structure AvailableChannelInfo where
  channelCfi : Option (List ℚ)
  maxEirp : Option (List ℚ)

/-- The first response of a sent response. -/
structure AvailResp where
  availableFrequencyInfo : Option (List AvailableFrequencyInfo)
  availableChannelInfo : Option (List AvailableChannelInfo)

structure PsdInfo where
  freqMhz : Option ℚ
  psdDbmMHz : Option (List ℚ)

structure Packet where
  maxPSD : Option ℚ
  maxEirp : Option ℚ
  freqPsdPerMHz : Option (List PsdInfo)

structure RfMeasurementReport where
  centralFreq : ℚ
  channelWidth : ℚ
  data : List Packet

/-- `d[name]` of a dictionary field. -/
def key {α : Type} (name : String) : Option α → Except PyErr α
  | some a => .ok a
  | none => .error (.keyError (.str name))

/-! ## The object -/

/-- The attributes the constructor sets. -/
structure RfMeasurementValidation where
  rfReport : Option RfMeasurementReport
  respAvailFreqInfo : List AvailableFrequencyInfo
  respAvailChanInfo : List AvailableChannelInfo

/-- The attributes the methods write. -/
structure Memo where
  centerFreqAllowedMaxPsd : ℚ
  debugPrintedFreq : List ℚ

def Memo.init : Memo := ⟨0, []⟩

/-- A method of the object: it may raise, and what it has written stays. -/
abbrev Method := ExceptT PyErr (StateM Memo)

/-- `RfMeasurementValidation(sent_response, rf_report)`; `none` stands for a
document that is `None` or empty. -/
def RfMeasurementValidation.new (sentResponse : Option AvailResp)
    (rfReport : Option RfMeasurementReport) : RfMeasurementValidation where
  rfReport := rfReport
  respAvailFreqInfo := (sentResponse.bind (·.availableFrequencyInfo)).getD []
  respAvailChanInfo := (sentResponse.bind (·.availableChannelInfo)).getD []

namespace RfMeasurementValidation

def centerFreq (o : RfMeasurementValidation) : ℚ := (o.rfReport.map (·.centralFreq)).getD 0

def chwidth (o : RfMeasurementValidation) : ℚ := (o.rfReport.map (·.channelWidth)).getD 0

/-- `self.center_chan`; only read when there is a report. The division raises
an `OverflowError` above about `1.8e308`, where doubles end. -/
def centerChan (o : RfMeasurementValidation) : ℚ := (o.centerFreq - 5950) / 5

/-- `self.packets`, an attribute only an object with a report has. -/
def packets (o : RfMeasurementValidation) : Except PyErr (List Packet) :=
  match o.rfReport with
  | some report => .ok report.data
  | none => .error .attributeError

end RfMeasurementValidation

/-! ## Matching -/

def isMatchedFreqRange (respFreqRange reportFreqRange : ℚ × ℚ) : Bool :=
  decide (respFreqRange.1 ≥ reportFreqRange.1 ∧ respFreqRange.2 ≤ reportFreqRange.2)

/-- The loop over `resp_avail_freq_info`; `maxPsd` is read only for a match. -/
def matchedFreqRanges (freqRange : ℚ × ℚ) (items : List AvailableFrequencyInfo) :
    Except PyErr (List (ℚ × ℚ × ℚ)) :=
  items.filterMapM fun item => do
    let itemFreqRange ← key "frequencyRange" item.frequencyRange
    let low ← key "lowFrequency" itemFreqRange.lowFrequency
    let high ← key "highFrequency" itemFreqRange.highFrequency
    if isMatchedFreqRange (low, high) freqRange then
      let maxPsd ← key "maxPsd" item.maxPsd
      pure (some (low, high, maxPsd))
    else pure none

/-- The window `(int(freq - chwidth/2), int(freq + chwidth/2))`, of numbers whose
half and sum are exact doubles. -/
def window (freq chwidth : ℚ) : ℚ × ℚ := (trunc (freq - chwidth / 2), trunc (freq + chwidth / 2))

def getChannelMaxEirp (channel : ℚ) : List AvailableChannelInfo → Except PyErr (Option ℚ)
  | [] => pure none
  | item :: rest => do
      let channelCfi ← key "channelCfi" item.channelCfi
      if channel ∈ channelCfi then
        let maxEirp ← key "maxEirp" item.maxEirp
        match maxEirp[channelCfi.idxOf channel]? with
        | some eirp => pure (some eirp)
        | none => throw .indexError
      else getChannelMaxEirp channel rest

namespace RfMeasurementValidation

/-- `__get_match_freq_ranges`. -/
def getMatchFreqRanges (o : RfMeasurementValidation) (freq chwidth : ℚ) :
    Method (List (ℚ × ℚ × ℚ)) := do
  let matched ← liftExcept (matchedFreqRanges (window freq chwidth) o.respAvailFreqInfo)
  modify fun memo => if freq ∈ memo.debugPrintedFreq then memo
    else { memo with debugPrintedFreq := freq :: memo.debugPrintedFreq }
  pure matched

def getSpLimitByFreq (o : RfMeasurementValidation) (freq chwidth : ℚ) : Method (Option ℚ) := do
  let matched ← o.getMatchFreqRanges freq chwidth
  if matched.isEmpty then pure none
  else
    let limit ← liftExcept (minNum (matched.map fun r => r.2.2))
    pure (some limit)

/-- `if not max_eirp`: a limit of zero is no limit. -/
def nonzero : Option ℚ → Option ℚ
  | some eirp => if eirp = 0 then none else some eirp
  | none => none

def getSpLimitByChan (o : RfMeasurementValidation) (channel : ℚ) : Method (Option ℚ) := do
  let maxEirp ← liftExcept (getChannelMaxEirp channel o.respAvailChanInfo)
  pure (nonzero maxEirp)

def getSpLimitByBoth (o : RfMeasurementValidation) (channel chwidth : ℚ) :
    Method (Option ℚ × Option ℚ) := do
  let psd ← o.getSpLimitByFreq (trunc (5950 + channel * 5)) chwidth
  let eirp ← o.getSpLimitByChan channel
  pure (psd, eirp)

/-! ## The checks -/

/-- The loop `for pkt in self.packets`, left at the first packet whose field
is above the limit. -/
def packetsWithin (name : String) (field : Packet → Option ℚ) (limit : ℚ) (packets : List Packet) :
    Except PyErr Bool :=
  packets.allM fun pkt => do
    let value ← key name (field pkt)
    pure (!decide (value > limit))

/-- `__validate_transmit_power_by_freq`. -/
def validateTransmitPowerByFreq (o : RfMeasurementValidation) : Method Bool := do
  let packets ← liftExcept o.packets
  if o.respAvailFreqInfo.isEmpty && !packets.isEmpty then pure false
  else if packets.isEmpty then pure false
  else
    let matched ← o.getMatchFreqRanges o.centerFreq o.chwidth
    if matched.isEmpty then pure false
    else
      let allowedMaxPsd ← liftExcept (minNum (matched.map fun r => r.2.2))
      liftExcept (packetsWithin "maxPSD" (·.maxPSD) allowedMaxPsd packets)

/-- `__validate_transmit_power_by_chan`. -/
def validateTransmitPowerByChan (o : RfMeasurementValidation) : Method Bool := do
  let packets ← liftExcept o.packets
  if o.respAvailChanInfo.isEmpty && !packets.isEmpty then pure false
  else if packets.isEmpty then pure false
  else
    let maxEirp ← liftExcept (getChannelMaxEirp o.centerChan o.respAvailChanInfo)
    match nonzero maxEirp with
    | none => pure false
    | some limit => liftExcept (packetsWithin "maxEirp" (·.maxEirp) limit packets)

/-- `__validate_psd`. -/
def validatePsd (o : RfMeasurementValidation) (freq chwidth : ℚ) (psdDbmMHz : List ℚ) :
    Method Bool := do
  let matched ← o.getMatchFreqRanges freq chwidth
  if matched.isEmpty && o.centerFreq != freq then
    -- adjacent frequencies that the response does not name are not checked
    pure true
  else
    let allowedMaxPsd ← liftExcept (minNum (matched.map fun r => r.2.2))
    modify fun memo => if memo.centerFreqAllowedMaxPsd = 0 ∧ o.centerFreq = freq then
      { memo with centerFreqAllowedMaxPsd := allowedMaxPsd } else memo
    pure (psdDbmMHz.all fun psd => !decide (psd > allowedMaxPsd))

/-- One measured block of a packet. -/
def validatePsdInfo (o : RfMeasurementValidation) (info : PsdInfo) : Method Bool := do
  let freq ← liftExcept (key "freqMhz" info.freqMhz)
  let psdDbmMHz ← liftExcept (key "psdDbmMHz" info.psdDbmMHz)
  o.validatePsd freq o.chwidth psdDbmMHz

/-- `__validate_psd_adjacent_frequencies`. -/
def validatePsdAdjacentFrequencies (o : RfMeasurementValidation) : Method Bool := do
  let packets ← liftExcept o.packets
  if o.respAvailFreqInfo.isEmpty && !packets.isEmpty then pure false
  else if packets.isEmpty then pure false
  else
    packets.allM fun pkt => do
      let freqPsdPerMHz ← liftExcept (key "freqPsdPerMHz" pkt.freqPsdPerMHz)
      freqPsdPerMHz.allM o.validatePsdInfo

/-! ## The verdicts -/

/-- `try: ... except Exception: return fallback`. -/
def caught {α : Type} (fallback : α) (body : Method α) : StateM Memo α := do
  match ← body.run with
  | .ok a => pure a
  | .error _ => pure fallback

def validateRfMeasurementByFreq (o : RfMeasurementValidation) : StateM Memo (Bool × Bool) :=
  caught (false, false) do
    if o.rfReport.isNone then pure (false, false)
    else
      let powerValid ← o.validateTransmitPowerByFreq
      let adjacentValid ← o.validatePsdAdjacentFrequencies
      pure (powerValid, adjacentValid)

def validateRfMeasurementByChan (o : RfMeasurementValidation) : StateM Memo Bool :=
  caught false do
    if o.rfReport.isNone then pure false
    else o.validateTransmitPowerByChan

def validateRfMeasurementByBoth (o : RfMeasurementValidation) : StateM Memo (Bool × Bool) :=
  caught (false, false) do
    if o.rfReport.isNone then pure (false, false)
    else if !(← o.validateTransmitPowerByFreq) then pure (false, false)
    else if !(← o.validateTransmitPowerByChan) then pure (false, false)
    else
      let adjacentValid ← o.validatePsdAdjacentFrequencies
      pure (true, adjacentValid)

/-- The check against one fixed PSD limit. -/
def validatePsdLimit (o : RfMeasurementValidation) (limit : ℚ) : StateM Memo Bool :=
  caught false do
    let packets ← liftExcept o.packets
    if packets.isEmpty then pure false
    else liftExcept (packetsWithin "maxPSD" (·.maxPSD) limit packets)

def validateLpiTransmitPower (o : RfMeasurementValidation) : StateM Memo Bool :=
  o.validatePsdLimit 5

def validateFcTransmitPower (o : RfMeasurementValidation) (criteriaPsd : ℚ) : StateM Memo Bool :=
  o.validatePsdLimit criteriaPsd

end RfMeasurementValidation

end AfcDut.Rf
