import AfcDut.Analyzer.Litepoint

/-!
# The RF checks of the test scripts

`AFCBaseScript.py`: a check finds the centre of the channel the device
operates on, asks the response it was sent for the limits there, and lets the
analyzer, or a person, judge the transmission. The texts of the log and of the
popup are left out; what surrounds a check is an input of the model.
-/

namespace AfcDut.Analyzer

open Py Rf

/-! ## Centre frequency indices -/

/-- `cfi_bw[bw]`. -/
def cfiBw (bw : Int) : Except PyErr (List Int) :=
  if bw = 40 then
    .ok [3, 11, 19, 27, 35, 43, 51, 59, 67, 75, 83, 91, 99, 107, 115, 123, 131, 139, 147, 155, 163,
      171, 179, 187, 195, 203, 211, 219, 227]
  else if bw = 80 then
    .ok [7, 23, 39, 55, 71, 87, 103, 119, 135, 151, 167, 183, 199, 215]
  else if bw = 160 then .ok [15, 47, 79, 111, 143, 175, 207]
  else if bw = 320 then .ok [31, 63, 95, 127]
  else .error (.keyError (.int bw))

/-- `(cfi - bw/10) < op_channel < (cfi + bw/10)`. -/
def inBlock (opChannel bw cfi : Int) : Bool :=
  decide ((cfi : ℚ) - bw / 10 < opChannel ∧ (opChannel : ℚ) < cfi + bw / 10)

def getCfiFromOpChannel (opChannel bw : Int) : Except PyErr Int := do
  if opChannel % 4 ≠ 1 then pure 0
  else
    let cfis ← cfiBw bw
    pure ((cfis.find? (inBlock opChannel bw)).getD 0)

/-- The centre a check works at; `none` for a channel that is no primary
channel, which is never asked of a channel given by its centre. -/
def operatingCfi (opChannel opBandwidth : Int) (isCfi : Bool) : Except PyErr (Option Int) := do
  if isCfi then pure (some opChannel)
  else
    let cfi ← if opBandwidth = 20 then pure opChannel else getCfiFromOpChannel opChannel opBandwidth
    pure (if cfi = 0 then none else some cfi)

/-! ## The checks -/

/-- The limits a description quotes, as the response gives them. -/
inductive Limits where
  | psd (limit : Option ℚ)
  | eirp (limit : Option ℚ)
  | both (psd eirp : Option ℚ)

/-- Whether the response offers the spectrum at all. -/
def Limits.available : Limits → Bool
  | .psd limit => limit.isSome
  | .eirp limit => limit.isSome
  | .both psdLimit eirpLimit => psdLimit.isSome && eirpLimit.isSome

/-- What a check writes in `self.power_valid_desc`; the report file is added
with the verdict. -/
structure Quoted where
  lpiSupport : Bool
  limits : Limits
  cfi : Int
  bandwidth : Int
  reportFile : Option String

/-- `self.power_valid_desc`; `none` is the text the constructor sets. -/
abbrev PowerValidDesc := Option Quoted

/-- The settings of a script, the analyzer it drives, what saving the report
and uploading the support data raise, and whether the popup is answered with
its pass button. -/
structure RfTester where
  autoRfTester : Bool
  lpiSupport : Bool
  spectrumAnalyze : Int → Int → Option RfMeasurementReport
  files : Except Err Unit
  passButton : Bool

/-- A check may raise, and the description it has written stays. -/
abbrev Check := ExceptT Err (StateM PowerValidDesc)

/-- A method of a fresh validation object. -/
def fresh {α : Type} (x : Method α) : Except PyErr α := (x.run.run .init).1

/-- The steps of the three checks: `limits` and `verdict` are what each asks of
the validation, `refused` what it returns unmeasured, `flags` how it returns a
person's answer. -/
def validateRfMeasurement {α : Type} (t : RfTester) (refused : α) (flags : Bool → α)
    (limits : Int → Except PyErr Limits) (verdict : Option RfMeasurementReport → α)
    (opChannel : Int) (rfReportFile : String) (opBandwidth : Int) (isCfi : Bool) : Check α := do
  match ← liftExcept ((operatingCfi opChannel opBandwidth isCfi).mapError Err.py) with
  | none => pure refused
  | some cfi =>
      let quoted ← liftExcept ((limits cfi).mapError Err.py)
      set (some (Quoted.mk t.lpiSupport quoted cfi opBandwidth none))
      if !quoted.available then pure refused
      else if t.autoRfTester then
        let report := t.spectrumAnalyze cfi opBandwidth
        liftExcept t.files
        let valid := verdict report
        modify (Option.map fun desc => { desc with reportFile := some rfReportFile })
        pure valid
      else pure (flags t.passButton)

variable (t : RfTester) (sentResp : Option AvailResp)

def limitsByFreq (opBandwidth cfi : Int) : Except PyErr Limits := do
  let limit ← fresh ((RfMeasurementValidation.new sentResp none).getSpLimitByFreq
    (5950 + cfi * 5) opBandwidth)
  pure (.psd limit)

def limitsByChan (cfi : Int) : Except PyErr Limits := do
  let limit ← fresh ((RfMeasurementValidation.new sentResp none).getSpLimitByChan cfi)
  pure (.eirp limit)

def limitsByBoth (opBandwidth cfi : Int) : Except PyErr Limits := do
  let limits ← fresh ((RfMeasurementValidation.new sentResp none).getSpLimitByBoth cfi opBandwidth)
  pure (.both limits.1 limits.2)

def validateRfMeasurementByFreq (opChannel : Int) (rfReportFile : String) (opBandwidth : Int)
    (isCfi : Bool) : Check (Bool × Bool) :=
  validateRfMeasurement t (false, false) (fun pass => (pass, pass))
    (limitsByFreq sentResp opBandwidth)
    (fun report => ((RfMeasurementValidation.new sentResp report).validateRfMeasurementByFreq.run
      .init).1)
    opChannel rfReportFile opBandwidth isCfi

def validateRfMeasurementByChan (opChannel : Int) (rfReportFile : String) (opBandwidth : Int)
    (isCfi : Bool) : Check Bool :=
  validateRfMeasurement t false id (limitsByChan sentResp)
    (fun report => ((RfMeasurementValidation.new sentResp report).validateRfMeasurementByChan.run
      .init).1)
    opChannel rfReportFile opBandwidth isCfi

def validateRfMeasurementByBoth (opChannel : Int) (rfReportFile : String) (opBandwidth : Int)
    (isCfi : Bool) : Check (Bool × Bool) :=
  validateRfMeasurement t (false, false) (fun pass => (pass, pass))
    (limitsByBoth sentResp opBandwidth)
    (fun report => ((RfMeasurementValidation.new sentResp report).validateRfMeasurementByBoth.run
      .init).1)
    opChannel rfReportFile opBandwidth isCfi

/-! ## What a check returns -/

namespace Check

variable {α β : Type}

/-- The result of a check, and the description after it. -/
def outcome (x : Check α) (desc : PowerValidDesc) : Except Err α × PowerValidDesc := x.run.run desc

variable {desc : PowerValidDesc}

@[simp] theorem outcome_pure (a : α) : (pure a : Check α).outcome desc = (.ok a, desc) := rfl

@[simp] theorem outcome_raises (e : Err) (k : α → Check β) :
    (liftExcept (.error e : Except Err α) >>= k : Check β).outcome desc = (.error e, desc) := rfl

@[simp] theorem outcome_bind (a : α) (k : α → Check β) :
    (liftExcept (.ok a : Except Err α) >>= k : Check β).outcome desc = (k a).outcome desc := rfl

@[simp] theorem outcome_set (desc' : PowerValidDesc) (k : PUnit → Check β) :
    (set desc' >>= k : Check β).outcome desc = (k ⟨⟩).outcome desc' := rfl

@[simp] theorem outcome_modify (f : PowerValidDesc → PowerValidDesc) (k : PUnit → Check β) :
    (modify f >>= k : Check β).outcome desc = (k ⟨⟩).outcome (f desc) := rfl

end Check

variable {t} {α : Type} {refused : α} {flags : Bool → α} {limits : Int → Except PyErr Limits}
  {verdict : Option RfMeasurementReport → α} {opChannel opBandwidth : Int} {rfReportFile : String}
  {isCfi : Bool} {desc : PowerValidDesc}

/-- A verdict of the analyzer or of a person, at a centre where the response
offers what the description quotes. -/
structure Judged (t : RfTester) (limits : Int → Except PyErr Limits)
    (verdict : Option RfMeasurementReport → α) (flags : Bool → α) (opChannel opBandwidth : Int)
    (isCfi : Bool) (valid : α) (cfi : Int) (quoted : Limits) : Prop where
  centre : operatingCfi opChannel opBandwidth isCfi = .ok (some cfi)
  limits_eq : limits cfi = .ok quoted
  offered : quoted.available = true
  measured : t.autoRfTester = true →
    t.files = .ok () ∧ verdict (t.spectrumAnalyze cfi opBandwidth) = valid
  answered : t.autoRfTester = false → flags t.passButton = valid

/-- What such a verdict leaves in the description. -/
def judgedDesc (t : RfTester) (cfi opBandwidth : Int) (quoted : Limits) (rfReportFile : String) :
    Quoted where
  lpiSupport := t.lpiSupport
  limits := quoted
  cfi := cfi
  bandwidth := opBandwidth
  reportFile := if t.autoRfTester then some rfReportFile else none

theorem Judged.outcome_eq {valid : α} {cfi : Int} {quoted : Limits}
    (h : Judged t limits verdict flags opChannel opBandwidth isCfi valid cfi quoted) :
    (validateRfMeasurement t refused flags limits verdict opChannel rfReportFile opBandwidth
        isCfi).outcome desc =
      (.ok valid, some (judgedDesc t cfi opBandwidth quoted rfReportFile)) := by
  obtain ⟨hcentre, hlimits, hoffered, hmeasured, hanswered⟩ := h
  unfold validateRfMeasurement judgedDesc
  cases hauto : t.autoRfTester with
  | false => simp [-bind_pure_comp, hcentre, hlimits, hoffered, Except.mapError, hanswered hauto]
  | true =>
      obtain ⟨hfiles, hvalid⟩ := hmeasured hauto
      simp [-bind_pure_comp, hcentre, hlimits, hoffered, Except.mapError, hfiles, hvalid]

/-- A result other than the refusal is such a verdict. -/
theorem validateRfMeasurement_iff {valid : α} (h : valid ≠ refused) :
    ((validateRfMeasurement t refused flags limits verdict opChannel rfReportFile opBandwidth
        isCfi).outcome desc).1 = .ok valid ↔
      ∃ cfi quoted, Judged t limits verdict flags opChannel opBandwidth isCfi valid cfi quoted := by
  constructor
  · unfold validateRfMeasurement
    intro hrun
    cases hcentre : operatingCfi opChannel opBandwidth isCfi with
    | error e => simp [-bind_pure_comp, hcentre, Except.mapError] at hrun
    | ok cfi? =>
        cases cfi? with
        | none =>
            have hrefused : refused = valid := by
              simpa [-bind_pure_comp, hcentre, Except.mapError] using hrun
            exact absurd hrefused.symm h
        | some cfi =>
            cases hlimits : limits cfi with
            | error e => simp [-bind_pure_comp, hcentre, hlimits, Except.mapError] at hrun
            | ok quoted =>
                cases hoffered : quoted.available with
                | false =>
                    have hrefused : refused = valid := by
                      simpa [-bind_pure_comp, hcentre, hlimits, hoffered, Except.mapError] using hrun
                    exact absurd hrefused.symm h
                | true =>
                    refine ⟨cfi, quoted, hcentre, hlimits, hoffered, fun hauto => ?_, fun hauto => ?_⟩
                    · cases hfiles : t.files with
                      | error e =>
                          simp [-bind_pure_comp, hcentre, hlimits, hoffered, Except.mapError, hauto,
                            hfiles] at hrun
                      | ok _ =>
                          refine ⟨rfl, ?_⟩
                          simpa [-bind_pure_comp, hcentre, hlimits, hoffered, Except.mapError, hauto,
                            hfiles] using hrun
                    · simpa [-bind_pure_comp, hcentre, hlimits, hoffered, Except.mapError, hauto] using
                        hrun
  · rintro ⟨cfi, quoted, hjudged⟩
    rw [hjudged.outcome_eq]

end AfcDut.Analyzer
