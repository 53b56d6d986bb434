import AfcDut.Rf.Verdict

/-!
# The combined verdict

The three validators ask the same three checks in different orders and give
up at different points, and all they share between calls is what the object
remembers. What they answer agrees nevertheless, after any calls.
-/

namespace AfcDut.Rf.Theorems.Conjunction

open Py RfMeasurementValidation

/-- A call of a public method. -/
inductive Call where
  | validateRfMeasurementByFreq
  | validateRfMeasurementByChan
  | validateRfMeasurementByBoth
  | validateLpiTransmitPower
  | validateFcTransmitPower (criteriaPsd : ℚ)
  | getSpLimitByFreq (freq chwidth : ℚ)
  | getSpLimitByChan (channel : ℚ)
  | getSpLimitByBoth (channel chwidth : ℚ)

/-- What the object remembers after a call, also after one that raises. -/
def Call.memo (o : RfMeasurementValidation) (memo : Memo) : Call → Memo
  | validateRfMeasurementByFreq => (o.validateRfMeasurementByFreq.run memo).2
  | validateRfMeasurementByChan => (o.validateRfMeasurementByChan.run memo).2
  | validateRfMeasurementByBoth => (o.validateRfMeasurementByBoth.run memo).2
  | validateLpiTransmitPower => (o.validateLpiTransmitPower.run memo).2
  | validateFcTransmitPower criteriaPsd => ((o.validateFcTransmitPower criteriaPsd).run memo).2
  | getSpLimitByFreq freq chwidth => ((o.getSpLimitByFreq freq chwidth).run.run memo).2
  | getSpLimitByChan channel => ((o.getSpLimitByChan channel).run.run memo).2
  | getSpLimitByBoth channel chwidth => ((o.getSpLimitByBoth channel chwidth).run.run memo).2

/-- What a fresh object remembers after some calls. -/
def after (o : RfMeasurementValidation) (calls : List Call) : Memo :=
  calls.foldl (Call.memo o) .init

/-- **The combined verdict.** For every response and every report, whatever
each call comes after: the combined power flag is the conjunction of the two
separate ones, and where it is true the adjacency flags are one. -/
theorem both_iff_chan_and_freq (sentResponse : Option AvailResp)
    (rfReport : Option RfMeasurementReport) (beforeFreq beforeChan beforeBoth : List Call) :
    let o := RfMeasurementValidation.new sentResponse rfReport
    let byFreq := (o.validateRfMeasurementByFreq.run (after o beforeFreq)).1
    let byChan := (o.validateRfMeasurementByChan.run (after o beforeChan)).1
    let byBoth := (o.validateRfMeasurementByBoth.run (after o beforeBoth)).1
    (byBoth.1 = true ↔ byChan = true ∧ byFreq.1 = true) ∧
      (byBoth.1 = true → byBoth.2 = byFreq.2) := by
  intro o byFreq byChan byBoth
  have hfreq : byFreq = o.freqVerdict := o.validateRfMeasurementByFreq_eq _
  have hchan : byChan = o.chanVerdict := o.validateRfMeasurementByChan_eq _
  have hboth : byBoth = o.bothVerdict := o.validateRfMeasurementByBoth_eq _
  rw [hfreq, hchan, hboth]
  refine ⟨o.bothVerdict_power_eq, fun h => ?_⟩
  rw [o.bothVerdict_adjacent_eq, h, Bool.true_and]

end AfcDut.Rf.Theorems.Conjunction
