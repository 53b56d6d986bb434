import AfcDut.Rf.Validation
import AfcDut.Spectrum.Mask
import Mathlib.Algebra.Order.Field.Rat

/-!
# What the validation returns

The methods of the validation object write two attributes that decide
nothing. Each method returns what a function of its constructor's arguments
says, whatever the object has been used for before; for a response of
well-formed items the limit at a frequency is the limit inside its window.
-/

namespace AfcDut.Rf

open Py Spectrum

variable {α β : Type}

/-! ## Results that do not depend on the memory -/

/-- The method returns `r`, or raises it, from every memory. -/
def Returns (x : Method α) (r : Except PyErr α) : Prop := ∀ memo, (x.run.run memo).1 = r

theorem Returns.pure (a : α) : Returns (Pure.pure a) (.ok a) := fun _ => rfl

theorem Returns.lift (r : Except PyErr α) : Returns (liftExcept r) r := by
  intro memo
  cases r with
  | error e => rfl
  | ok a => rfl

/-- Writing the memory returns nothing. -/
theorem Returns.modify (f : Memo → Memo) : Returns (modify f) (.ok ⟨⟩) := fun _ => rfl

theorem Returns.bind {x : Method α} {k : α → Method β} {r : Except PyErr α}
    {f : α → Except PyErr β} (hx : Returns x r) (hk : ∀ a, Returns (k a) (f a)) :
    Returns (x >>= k) (r >>= f) := by
  intro memo
  have h := hx memo
  rw [ExceptT.run_bind]
  simp only [StateT.run_bind]
  cases hrun : StateT.run (ExceptT.run x) memo with
  | mk a memo' =>
      rw [hrun] at h
      dsimp only at h
      subst h
      cases a with
      | error e => rfl
      | ok a => exact hk a memo'

theorem Returns.allM {f : α → Method Bool} {g : α → Except PyErr Bool}
    (h : ∀ a, Returns (f a) (g a)) (xs : List α) : Returns (xs.allM f) (xs.allM g) := by
  induction xs with
  | nil => exact Returns.pure true
  | cons x xs ih =>
      simp only [List.allM]
      refine (h x).bind fun b => ?_
      cases b with
      | false => exact Returns.pure false
      | true => exact ih

/-- The result of a `try` that answers `fallback` to every exception. -/
def orElse (fallback : α) : Except PyErr α → α
  | .ok a => a
  | .error _ => fallback

theorem caught_returns {fallback : α} {x : Method α} {r : Except PyErr α} (h : Returns x r)
    (memo : Memo) :
    ((RfMeasurementValidation.caught fallback x).run memo).1 = orElse fallback r := by
  have hmemo := h memo
  unfold RfMeasurementValidation.caught
  rw [StateT.run_bind]
  cases hrun : x.run.run memo with
  | mk a memo' =>
      rw [hrun] at hmemo
      subst hmemo
      cases a with
      | error e => rfl
      | ok a => rfl

namespace RfMeasurementValidation

variable (o : RfMeasurementValidation)

/-! ## The limit at a frequency -/

/-- The lowest limit of the matched ranges, if any range matches. -/
def spLimit (freq chwidth : ℚ) : Except PyErr (Option ℚ) := do
  let matched ← matchedFreqRanges (window freq chwidth) o.respAvailFreqInfo
  Pure.pure (matched.map fun r => r.2.2).min?

theorem getMatchFreqRanges_returns (freq chwidth : ℚ) :
    Returns (o.getMatchFreqRanges freq chwidth)
      (matchedFreqRanges (window freq chwidth) o.respAvailFreqInfo) := by
  unfold getMatchFreqRanges
  intro memo
  have h := (Returns.lift (matchedFreqRanges (window freq chwidth) o.respAvailFreqInfo)).bind
    (fun matched => (Returns.modify fun memo => if freq ∈ memo.debugPrintedFreq then memo
      else { memo with debugPrintedFreq := freq :: memo.debugPrintedFreq }).bind
      fun _ => Returns.pure matched) memo
  rw [h]
  cases matchedFreqRanges (window freq chwidth) o.respAvailFreqInfo with
  | error e => rfl
  | ok matched => rfl

/-- A match is a limit: the branch on an empty match is the branch on a
missing limit. -/
theorem match_returns {freq chwidth : ℚ} {k : List (ℚ × ℚ × ℚ) → Method β}
    {f : Option ℚ → Except PyErr β}
    (hk : ∀ matched, Returns (k matched) (f (matched.map fun r => r.2.2).min?)) :
    Returns (o.getMatchFreqRanges freq chwidth >>= k) (o.spLimit freq chwidth >>= f) := by
  have h := (o.getMatchFreqRanges_returns freq chwidth).bind hk
  unfold spLimit
  cases hm : matchedFreqRanges (window freq chwidth) o.respAvailFreqInfo with
  | error e => rwa [hm] at h
  | ok matched => rwa [hm] at h

/-- The minimum of the matched limits, where there is a match. -/
theorem minNum_returns {matched : List (ℚ × ℚ × ℚ)} {k : ℚ → Method β}
    {f : ℚ → Except PyErr β} (hk : ∀ q, Returns (k q) (f q)) (hne : matched.isEmpty = false) :
    ∃ q, (matched.map fun r => r.2.2).min? = some q ∧
      Returns (liftExcept (minNum (matched.map fun r => r.2.2)) >>= k) (f q) := by
  cases hq : (matched.map fun r => r.2.2).min? with
  | none =>
      rw [List.min?_eq_none_iff, List.map_eq_nil_iff] at hq
      subst hq
      exact absurd hne (by simp)
  | some q =>
      have hmin : minNum (matched.map fun r => r.2.2) = .ok q := by
        unfold minNum
        rw [hq]
      rw [hmin]
      exact ⟨q, rfl, (Returns.lift (.ok q)).bind hk⟩

theorem getSpLimitByFreq_returns (freq chwidth : ℚ) :
    Returns (o.getSpLimitByFreq freq chwidth) (o.spLimit freq chwidth) := by
  have h : Returns (o.getSpLimitByFreq freq chwidth) (o.spLimit freq chwidth >>= .ok) := by
    refine o.match_returns fun matched => ?_
    cases hempty : matched.isEmpty with
    | true =>
        rw [List.isEmpty_iff] at hempty
        subst hempty
        exact Returns.pure none
    | false =>
        obtain ⟨q, hq, hret⟩ := minNum_returns (fun q => Returns.pure (some q)) hempty
        rw [hq]
        exact hret
  cases hlimit : o.spLimit freq chwidth with
  | error e => rwa [hlimit] at h
  | ok l => rwa [hlimit] at h

/-! ## The checks -/

/-- The power check against the limit at the centre frequency. -/
def powerByFreq : Except PyErr Bool := do
  let packets ← o.packets
  if packets.isEmpty then Pure.pure false
  else
    match ← o.spLimit o.centerFreq o.chwidth with
    | none => Pure.pure false
    | some limit => packetsWithin "maxPSD" (·.maxPSD) limit packets

/-- The power check against the limit of the centre channel. -/
def powerByChan : Except PyErr Bool := do
  let packets ← o.packets
  if o.respAvailChanInfo.isEmpty && !packets.isEmpty then Pure.pure false
  else if packets.isEmpty then Pure.pure false
  else
    let maxEirp ← getChannelMaxEirp o.centerChan o.respAvailChanInfo
    match nonzero maxEirp with
    | none => Pure.pure false
    | some limit => packetsWithin "maxEirp" (·.maxEirp) limit packets

/-- The check of one measured block: a frequency without a limit passes,
unless it is the centre frequency, where the minimum of nothing is taken. -/
def blockWithin (info : PsdInfo) : Except PyErr Bool := do
  let freq ← key "freqMhz" info.freqMhz
  let psdDbmMHz ← key "psdDbmMHz" info.psdDbmMHz
  match ← o.spLimit freq o.chwidth with
  | none => if o.centerFreq = freq then throw .valueError else Pure.pure true
  | some limit => Pure.pure (psdDbmMHz.all fun psd => !decide (psd > limit))

/-- The adjacency check over all measured blocks. -/
def adjacent : Except PyErr Bool := do
  let packets ← o.packets
  if o.respAvailFreqInfo.isEmpty && !packets.isEmpty then Pure.pure false
  else if packets.isEmpty then Pure.pure false
  else
    packets.allM fun pkt => do
      let freqPsdPerMHz ← key "freqPsdPerMHz" pkt.freqPsdPerMHz
      freqPsdPerMHz.allM o.blockWithin

theorem validateTransmitPowerByFreq_returns :
    Returns o.validateTransmitPowerByFreq o.powerByFreq := by
  refine (Returns.lift o.packets).bind fun packets => ?_
  cases hp : packets.isEmpty with
  | true =>
      simp only [Bool.not_true, Bool.and_false, Bool.false_eq_true, if_false, if_true]
      exact Returns.pure false
  | false =>
      by_cases hitems : o.respAvailFreqInfo = []
      · -- no item, no limit
        have hnone : o.spLimit o.centerFreq o.chwidth = .ok none := by
          simp [spLimit, matchedFreqRanges, hitems]
        rw [hnone, hitems]
        exact Returns.pure false
      · have hne : o.respAvailFreqInfo.isEmpty = false := by simpa using hitems
        simp only [hne, Bool.false_and, Bool.false_eq_true, if_false]
        refine o.match_returns fun matched => ?_
        cases hempty : matched.isEmpty with
        | true =>
            rw [List.isEmpty_iff] at hempty
            subst hempty
            exact Returns.pure false
        | false =>
            obtain ⟨q, hq, hret⟩ := minNum_returns (fun q => Returns.lift (packetsWithin "maxPSD"
              (·.maxPSD) q packets)) hempty
            rw [hq]
            exact hret

theorem validateTransmitPowerByChan_returns :
    Returns o.validateTransmitPowerByChan o.powerByChan := by
  refine (Returns.lift o.packets).bind fun packets => ?_
  split
  · exact Returns.pure false
  · split
    · exact Returns.pure false
    · refine (Returns.lift _).bind fun maxEirp => ?_
      cases nonzero maxEirp with
      | none => exact Returns.pure false
      | some limit => exact Returns.lift _

theorem validatePsdInfo_returns (info : PsdInfo) :
    Returns (o.validatePsdInfo info) (o.blockWithin info) := by
  refine (Returns.lift _).bind fun freq => (Returns.lift _).bind fun psdDbmMHz => ?_
  refine o.match_returns fun matched => ?_
  cases hempty : matched.isEmpty with
  | true =>
      rw [List.isEmpty_iff] at hempty
      subst hempty
      by_cases hc : o.centerFreq = freq
      · -- the minimum of an empty list raises
        subst hc
        simp only [bne_self_eq_false, Bool.and_false, Bool.false_eq_true, if_false, List.map_nil,
          List.min?_nil, if_true]
        exact fun _ => rfl
      · have hne : (o.centerFreq != freq) = true := by simpa using hc
        simp only [hne, hc, Bool.and_true, if_true, if_false, List.map_nil, List.min?_nil]
        exact Returns.pure true
  | false =>
      obtain ⟨q, hq, hret⟩ := minNum_returns (fun q => (Returns.modify fun memo =>
        if memo.centerFreqAllowedMaxPsd = 0 ∧ o.centerFreq = freq then
          { memo with centerFreqAllowedMaxPsd := q } else memo).bind
        fun _ => Returns.pure (psdDbmMHz.all fun psd => !decide (psd > q))) hempty
      rw [hq]
      exact hret

theorem validatePsdAdjacentFrequencies_returns :
    Returns o.validatePsdAdjacentFrequencies o.adjacent := by
  refine (Returns.lift o.packets).bind fun packets => ?_
  split
  · exact Returns.pure false
  · split
    · exact Returns.pure false
    · refine Returns.allM (fun pkt => ?_) packets
      exact (Returns.lift _).bind fun infos => Returns.allM o.validatePsdInfo_returns infos

/-! ## The verdicts -/

/-- The two flags of the verdict by frequency. -/
def freqVerdict : Bool × Bool := orElse (false, false) do
  let powerValid ← o.powerByFreq
  let adjacentValid ← o.adjacent
  Pure.pure (powerValid, adjacentValid)

def chanVerdict : Bool := orElse false o.powerByChan

/-- The two flags of the combined verdict. -/
def bothVerdict : Bool × Bool := orElse (false, false) do
  if !(← o.powerByFreq) then Pure.pure (false, false)
  else if !(← o.powerByChan) then Pure.pure (false, false)
  else
    let adjacentValid ← o.adjacent
    Pure.pure (true, adjacentValid)

/-- Without a report nothing passes. -/
theorem packets_of_rfReport_none (h : o.rfReport = none) : o.packets = .error .attributeError := by
  unfold packets
  rw [h]

theorem validateRfMeasurementByFreq_eq (memo : Memo) :
    (o.validateRfMeasurementByFreq.run memo).1 = o.freqVerdict := by
  cases hr : o.rfReport with
  | none =>
      have hret : Returns (Pure.pure (false, false) : Method (Bool × Bool)) (.ok (false, false)) :=
        Returns.pure _
      unfold validateRfMeasurementByFreq freqVerdict powerByFreq
      rw [hr, o.packets_of_rfReport_none hr]
      exact caught_returns hret memo
  | some report =>
      unfold validateRfMeasurementByFreq
      rw [hr]
      refine caught_returns ?_ memo
      exact o.validateTransmitPowerByFreq_returns.bind fun p =>
        o.validatePsdAdjacentFrequencies_returns.bind fun a => Returns.pure (p, a)

theorem validateRfMeasurementByChan_eq (memo : Memo) :
    (o.validateRfMeasurementByChan.run memo).1 = o.chanVerdict := by
  cases hr : o.rfReport with
  | none =>
      unfold validateRfMeasurementByChan chanVerdict powerByChan
      rw [hr, o.packets_of_rfReport_none hr]
      exact caught_returns (Returns.pure false) memo
  | some report =>
      unfold validateRfMeasurementByChan
      rw [hr]
      exact caught_returns o.validateTransmitPowerByChan_returns memo

theorem validateRfMeasurementByBoth_eq (memo : Memo) :
    (o.validateRfMeasurementByBoth.run memo).1 = o.bothVerdict := by
  cases hr : o.rfReport with
  | none =>
      have hret : Returns (Pure.pure (false, false) : Method (Bool × Bool)) (.ok (false, false)) :=
        Returns.pure _
      unfold validateRfMeasurementByBoth bothVerdict powerByFreq
      rw [hr, o.packets_of_rfReport_none hr]
      exact caught_returns hret memo
  | some report =>
      unfold validateRfMeasurementByBoth
      rw [hr]
      refine caught_returns ?_ memo
      refine o.validateTransmitPowerByFreq_returns.bind fun p => ?_
      cases p with
      | false => exact Returns.pure (false, false)
      | true =>
          refine o.validateTransmitPowerByChan_returns.bind fun c => ?_
          cases c with
          | false => exact Returns.pure (false, false)
          | true => exact o.validatePsdAdjacentFrequencies_returns.bind fun a => Returns.pure (true, a)

/-- A flag by frequency needs its own check to pass and the other one not to
raise. -/
theorem freqVerdict_iff :
    (o.freqVerdict.1 = true ↔ o.powerByFreq = .ok true ∧ ¬ ∃ e, o.adjacent = .error e) ∧
      (o.freqVerdict.2 = true ↔ o.adjacent = .ok true ∧ ¬ ∃ e, o.powerByFreq = .error e) := by
  unfold freqVerdict
  cases hp : o.powerByFreq with
  | error e => simp [orElse]
  | ok p =>
      cases ha : o.adjacent with
      | error e => simp [orElse]
      | ok a => simp [orElse]

theorem freqVerdict_power_iff :
    o.freqVerdict.1 = true ↔ o.powerByFreq = .ok true ∧ ¬ ∃ e, o.adjacent = .error e :=
  o.freqVerdict_iff.1

theorem freqVerdict_adjacent_iff :
    o.freqVerdict.2 = true ↔ o.adjacent = .ok true ∧ ¬ ∃ e, o.powerByFreq = .error e :=
  o.freqVerdict_iff.2

/-- Where both power checks pass the combined verdict is the one by frequency;
elsewhere both its flags are false. -/
theorem bothVerdict_eq :
    o.bothVerdict =
      if o.powerByFreq = .ok true ∧ o.powerByChan = .ok true then o.freqVerdict
      else (false, false) := by
  unfold bothVerdict freqVerdict
  cases hp : o.powerByFreq with
  | error e => simp [orElse]
  | ok p =>
      cases p with
      | false => simp [orElse]
      | true =>
          cases hc : o.powerByChan with
          | error e => simp [orElse]
          | ok c =>
              cases c with
              | false => simp [orElse]
              | true => simp

/-- The combined power flag needs both power checks. -/
theorem bothVerdict_power_iff :
    o.bothVerdict.1 = true ↔
      o.powerByFreq = .ok true ∧ o.powerByChan = .ok true ∧ ¬ ∃ e, o.adjacent = .error e := by
  rw [bothVerdict_eq]
  split
  · rename_i h
    rw [o.freqVerdict_power_iff]
    simp only [h.1, h.2, true_and]
  · rename_i h
    exact iff_of_false (by simp) fun hall => h ⟨hall.1, hall.2.1⟩

theorem chanVerdict_iff : o.chanVerdict = true ↔ o.powerByChan = .ok true := by
  unfold chanVerdict
  cases hc : o.powerByChan with
  | error e => simp [orElse]
  | ok c => simp [orElse]

theorem bothVerdict_power_eq :
    o.bothVerdict.1 = true ↔ o.chanVerdict = true ∧ o.freqVerdict.1 = true := by
  rw [o.bothVerdict_power_iff, o.chanVerdict_iff, o.freqVerdict_power_iff]
  exact and_left_comm

/-- Past both power checks the two verdicts hand on one adjacency check; short
of them the combined one does not ask for it. -/
theorem bothVerdict_adjacent_eq :
    o.bothVerdict.2 = (o.bothVerdict.1 && o.freqVerdict.2) := by
  rw [bothVerdict_eq]
  split
  · rename_i h
    unfold freqVerdict
    rw [h.1]
    cases ha : o.adjacent with
    | error e => rfl
    | ok a => rfl
  · rfl

end RfMeasurementValidation

/-! ## A fixed limit -/

namespace RfMeasurementValidation

theorem packetsWithin_eq_ok_true {name : String} {field : Packet → Option ℚ} {limit : ℚ}
    {packets : List Packet} :
    packetsWithin name field limit packets = .ok true ↔
      ∀ pkt ∈ packets, ∃ p, field pkt = some p ∧ p ≤ limit := by
  unfold packetsWithin
  rw [allM_eq_ok_true_iff]
  refine forall₂_congr fun pkt _ => ?_
  cases hf : field pkt with
  | none => simp [key]
  | some p => simp [key]

/-- The check against one limit: there are packets, and each is within it. -/
theorem validatePsdLimit_iff (report : RfMeasurementReport) (limit : ℚ) (memo : Memo) :
    (((RfMeasurementValidation.new none (some report)).validatePsdLimit limit).run memo).1 = true ↔
      report.data ≠ [] ∧ ∀ pkt ∈ report.data, ∃ p, pkt.maxPSD = some p ∧ p ≤ limit := by
  have hret : Returns (do
      let packets ← liftExcept (RfMeasurementValidation.new none (some report)).packets
      if packets.isEmpty then Pure.pure false
      else liftExcept (packetsWithin "maxPSD" (·.maxPSD) limit packets) : Method Bool) (do
      let packets ← (RfMeasurementValidation.new none (some report)).packets
      if packets.isEmpty then Pure.pure false
      else packetsWithin "maxPSD" (·.maxPSD) limit packets) := by
    refine (Returns.lift _).bind fun packets => ?_
    split
    · exact Returns.pure false
    · exact Returns.lift _
  unfold validatePsdLimit
  rw [caught_returns hret memo]
  have hdata : (RfMeasurementValidation.new none (some report)).packets = .ok report.data := rfl
  rw [hdata, ok_bind, ← @packetsWithin_eq_ok_true "maxPSD"]
  cases hempty : report.data.isEmpty with
  | true =>
      rw [List.isEmpty_iff] at hempty
      rw [hempty]
      simp [orElse]
  | false =>
      have hne : report.data ≠ [] := by
        intro hnil
        rw [hnil] at hempty
        exact absurd hempty (by simp)
      cases hw : packetsWithin "maxPSD" (·.maxPSD) limit report.data with
      | error e => simp [orElse]
      | ok b => simp [orElse, hne]

end RfMeasurementValidation

/-! ## Well-formed responses -/

/-- The item that offers a grant. -/
def offered (g : Grant ℚ ℚ) : AvailableFrequencyInfo := ⟨some ⟨some g.low, some g.high⟩, some g.limit⟩

theorem matchedFreqRanges_offered (w : ℚ × ℚ) (gs : List (Grant ℚ ℚ)) :
    matchedFreqRanges w (gs.map offered) =
      .ok ((gs.filter fun g => g.Inside w.1 w.2).map fun g => (g.low, g.high, g.limit)) := by
  induction gs with
  | nil => rfl
  | cons g gs ih =>
      unfold matchedFreqRanges at ih ⊢
      rw [List.map_cons, List.filterMapM_cons, ih]
      by_cases hin : g.Inside w.1 w.2
      · have hmatch : isMatchedFreqRange (g.low, g.high) w = true := by
          simpa [isMatchedFreqRange, Grant.Inside] using hin
        simp [offered, key, hmatch, hin]
      · have hmatch : isMatchedFreqRange (g.low, g.high) w = false := by
          simpa [isMatchedFreqRange, Grant.Inside] using hin
        simp [offered, key, hmatch, hin]

/-- The limit at a frequency is the limit inside its window. -/
theorem spLimit_offered {o : RfMeasurementValidation} {gs : List (Grant ℚ ℚ)}
    (h : o.respAvailFreqInfo = gs.map offered) (freq chwidth : ℚ) :
    o.spLimit freq chwidth =
      .ok (insideLimit gs (window freq chwidth).1 (window freq chwidth).2) := by
  unfold RfMeasurementValidation.spLimit
  rw [h, matchedFreqRanges_offered]
  simp only [ok_bind, pure_eq_ok, List.map_map]
  rfl

end AfcDut.Rf
