import AfcDut.FcAp.Routes
import AfcDut.Service.Spec
import AfcDut.Simulator.ChannelSpec
import AfcDut.Simulator.Frame

/-!
# Agreement of the two services

The simulator computes the inquired CFIs inside its `try` block, the service
of the fixed-client access points does not. The two validations part exactly
where one of these computations raises.
-/

namespace AfcDut.FcAp.Theorems.Agreement

open Py Service

/-! ## What is compared -/

/-- `requestId`, `responseCode`, `shortDescription` and `supplementalInfo` of
an error reply. -/
def errorFields (reply : Json) : Except PyErr (Json × Json × Json × Json) := do
  let resp ← firstResponse reply
  let requestId ← resp.field "requestId"
  let response ← resp.field "response"
  let responseCode ← response.field "responseCode"
  let shortDescription ← response.field "shortDescription"
  let supplementalInfo ← response.getD "supplementalInfo" .null
  pure (requestId, responseCode, shortDescription, supplementalInfo)

/-- Both accept, or both refuse with the same error. -/
def Alike : Verdict → Verdict → Prop
  | .accepted _, .accepted _ => True
  | .refused _ a, .refused _ b => ∃ fields, errorFields a = .ok fields ∧ errorFields b = .ok fields
  | _, _ => False

/-- The simulator with the given country, no test vector and no random mode. -/
def simulatorAt (g : Simulator.Globals) (countryCode : Json) : Simulator.Globals :=
  { g with countryCode := countryCode, scriptTestVector := 0, isRandom := false,
           filenamePrefix := "default" }

/-- The fixed-client service with the same settings. -/
def fcApAt (f : Globals) (countryCode : Json) : Globals :=
  { f with countryCode := countryCode, scriptTestVector := 0, filenamePrefix := "default" }

/-! ## The condition -/

/-- Among the inquired channels, the item that decides about the width makes
the CFI computation raise. -/
def ChannelCfisRaise (countryCode : Json) (bw : Simulator.Bandwidth) (req : Json) (e : PyErr) : Prop :=
  ∃ items, fieldItems req "inquiredChannels" = .ok (some items) ∧
    ∃ item, items.find? (Simulator.hasClass bw) = some item ∧
      (Simulator.countryParam countryCode = .error e ∨
        (∃ p, Simulator.countryParam countryCode = .ok p) ∧ e = .typeError ∧
          ∃ v, item.field "channelCfi" = .ok v ∧ ¬ v.HashableElems)

/-- Some inquired range has a bound that is not a number, or one so large that
its channel number overflows, or there is a range and the country is unknown. -/
def RangeCfisRaise (countryCode req : Json) : Prop :=
  ∃ items, fieldItems req "inquiredFrequencyRange" = .ok (some items) ∧ items ≠ [] ∧
    ((∃ e, Simulator.countryParam countryCode = .error e) ∨
      ∃ item ∈ items, ∃ bound, (item.field "lowFrequency" = .ok bound ∨
        item.field "highFrequency" = .ok bound) ∧ ¬ Simulator.Convertible bound)

/-- Where the channels' CFI computation raises, so does the reading of the
ranges, with the same reply; where the ranges can be read, their CFI
computation does not raise. -/
def RaiseAlike (countryCode : Json) (bw : Simulator.Bandwidth) (req : Json) : Prop :=
  (∀ e, ChannelCfisRaise countryCode bw req e →
    ∃ e', readInquiredRanges req = .error e' ∧
      (Abort.raised e').handled = (Abort.raised e).handled) ∧
  ((∃ ranges, readInquiredRanges req = .ok ranges) → ¬ RangeCfisRaise countryCode req)

/-- The condition on a body: its request, if it gets as far as its inquired
channels, makes the two readings raise alike. -/
def CfisComputable (countryCode : Json) (bw : Simulator.Bandwidth) (body : Json) : Prop :=
  match identify body with
  | (_, .error _) => True
  | (ids, .ok req) =>
      (∃ rulesetIds, checkDevice "default" countryCode ids.version req = .ok rulesetIds) →
      (∃ channels, readInquiredChannels req = .ok channels) →
      RaiseAlike countryCode bw req

/-! ## Replies -/

theorem errorFields_simulator (ids : ReplyIds) (respCode : Int) (shortDesc : String)
    (suppInfo : Option Json) :
    errorFields (Simulator.errResp ids respCode shortDesc suppInfo) =
      .ok (ids.reqId, .int respCode, .str shortDesc, suppInfo.getD .null) := by
  cases suppInfo <;> rfl

theorem errorFields_fcAp (ids : ReplyIds) (respCode : Int) (shortDesc : String)
    (suppInfo : Option Json) :
    errorFields (errResp ids respCode shortDesc suppInfo) =
      .ok (ids.reqId, .int respCode, .str shortDesc, suppInfo.getD .null) := by
  cases suppInfo <;> rfl

/-- After the `except` clauses there is a reply. -/
theorem handled_eq_reply (a : Abort) : ∃ c d s, a.handled = .reply c d s := by
  cases a with
  | reply c d s => exact ⟨c, d, s, rfl⟩
  | raised e => cases e <;> exact ⟨_, _, _, rfl⟩

section Refusals

variable {g : Simulator.Globals} {f : Globals} {ids : ReplyIds}

/-- Two refusals of one request compare by what they say. -/
theorem alike_refused_iff {c c' : Int} {d d' : String} {s s' : Option Json} :
    Alike (Simulator.refuse g ids (.reply c d s)).2 (refuse f ids (.reply c' d' s')).2 ↔
      c = c' ∧ d = d' ∧ s.getD .null = s'.getD .null := by
  show (∃ fields, errorFields (Simulator.errResp ids c d s) = .ok fields ∧
    errorFields (errResp ids c' d' s') = .ok fields) ↔ _
  rw [errorFields_simulator, errorFields_fcAp]
  simp only [Except.ok.injEq, exists_eq_left', Prod.mk.injEq, true_and, Json.int.injEq,
    Json.str.injEq]
  exact ⟨fun h => ⟨h.1.symm, h.2.1.symm, h.2.2.symm⟩, fun h => ⟨h.1.symm, h.2.1.symm, h.2.2.symm⟩⟩

theorem alike_same (a : Abort) :
    Alike (Simulator.refuse g ids a.handled).2 (refuse f ids a.handled).2 := by
  obtain ⟨c, d, s, h⟩ := handled_eq_reply a
  rw [h, alike_refused_iff]
  exact ⟨rfl, rfl, rfl⟩

/-- Two exceptions are answered alike exactly when the `except` clauses make
the same reply of them. -/
theorem alike_raised_iff (e e' : PyErr) :
    Alike (Simulator.refuse g ids (Abort.raised e).handled).2
        (refuse f ids (Abort.raised e').handled).2 ↔
      (Abort.raised e').handled = (Abort.raised e).handled := by
  constructor
  · intro h
    cases e <;> cases e' <;>
      simp_all [Abort.handled, missingParam, generalFailure, alike_refused_iff]
  · intro h
    rw [h]
    exact alike_same _

theorem not_alike_accepted (a : Abort) (inq : Inquiry) :
    ¬ Alike (Simulator.refuse g ids a.handled).2 (.accepted inq) := by
  obtain ⟨c, d, s, h⟩ := handled_eq_reply a
  rw [h]
  exact id

end Refusals

theorem alike_isAccepted {a b : Verdict} (h : Alike a b) : a.isAccepted = b.isAccepted := by
  cases a <;> cases b <;> first | rfl | exact absurd h id

/-! ## The two readings -/

section Readings

variable {g : Simulator.Globals} {req : Json}

/-- The simulator's reading of the channels raises where the other's does, or
where its CFI computation does. -/
theorem simulator_channels_raises {e : PyErr} (h : readInquiredChannels req = .error e) :
    Simulator.readInquiredChannels g req = .error e := by
  unfold readInquiredChannels at h
  unfold Simulator.readInquiredChannels
  refine bind_error_of h fun items hitems => ?_
  cases items with
  | none => exact absurd hitems (by simp)
  | some items => exact bind_error_of hitems fun _ hpure => absurd hpure (by simp)

theorem simulator_channels_iff {channels : InquiredChannels}
    (h : readInquiredChannels req = .ok channels) (e : PyErr) :
    Simulator.readInquiredChannels g req = .error e ↔
      ChannelCfisRaise g.countryCode (Simulator.inquiredBandwidth g.channelWidth) req e := by
  simp only [readInquiredChannels, bind_eq_ok] at h
  obtain ⟨items, hitems, h⟩ := h
  simp only [Simulator.readInquiredChannels, hitems, ok_bind, ChannelCfisRaise, Except.ok.injEq]
  cases items with
  | none => simp
  | some items =>
      simp only [bind_eq_ok, pure_eq_ok, Except.ok.injEq] at h
      obtain ⟨dict, hdict, -⟩ := h
      obtain ⟨hclass, hlength⟩ := operClassDict_eq_ok hdict
      simp only [hdict, ok_bind, Option.some.injEq, exists_eq_left']
      by_cases hne : items = []
      · subst hne
        rw [if_neg (mt hlength.mp (by simp))]
        simp
      · rw [if_pos (hlength.mpr hne), Simulator.getCfiByInquiredChannelsBw_eq hclass]
        cases hfind : items.find? (Simulator.hasClass (Simulator.inquiredBandwidth g.channelWidth)) with
        | none => simp
        | some item =>
            obtain ⟨c, hc⟩ := hclass item (List.mem_of_find?_eq_some hfind)
            simp only [bind_eq_error, pure_eq_ok, reduceCtorEq, and_false, exists_false, or_false,
              Simulator.cfisOfItem_raises_iff hc, Option.some.injEq, exists_eq_left']

/-- The channels can be computed when every bound has a channel number. -/
theorem rangeChannels_convertible_iff {items : List Json} {list : List (Json × Json)}
    (hlist : freqRangeList items = .ok list) :
    (∀ item ∈ items, ∃ chans, Simulator.rangeChannels item = .ok chans) ↔
      ¬ ∃ item ∈ items, ∃ bound, (item.field "lowFrequency" = .ok bound ∨
        item.field "highFrequency" = .ok bound) ∧ ¬ Simulator.Convertible bound := by
  have hbounds : ∀ item ∈ items, ∃ low high, item.field "lowFrequency" = .ok low ∧
      item.field "highFrequency" = .ok high := by
    intro item hitem
    obtain ⟨r, hr⟩ := mapM_isOk_iff.mp ⟨list, hlist⟩ item hitem
    simp only [bind_eq_ok] at hr
    obtain ⟨low, hlow, high, hhigh, -⟩ := hr
    exact ⟨low, high, hlow, hhigh⟩
  constructor
  · intro hall
    rintro ⟨item, hitem, bound, hbound, hno⟩
    obtain ⟨low, high, hlow, hhigh⟩ := hbounds item hitem
    obtain ⟨hl, hh⟩ := (Simulator.rangeChannels_isOk_iff hlow hhigh).mp (hall item hitem)
    rcases hbound with hb | hb
    · rw [hlow, Except.ok.injEq] at hb
      exact hno (hb ▸ hl)
    · rw [hhigh, Except.ok.injEq] at hb
      exact hno (hb ▸ hh)
  · intro hnone item hitem
    obtain ⟨low, high, hlow, hhigh⟩ := hbounds item hitem
    refine (Simulator.rangeChannels_isOk_iff hlow hhigh).mpr ⟨?_, ?_⟩
    · exact not_not.mp fun h => hnone ⟨item, hitem, low, .inl hlow, h⟩
    · exact not_not.mp fun h => hnone ⟨item, hitem, high, .inr hhigh, h⟩

/-- The same for the ranges. -/
theorem simulator_ranges_raises {e : PyErr} (h : readInquiredRanges req = .error e) :
    Simulator.readInquiredRanges g req = .error e := by
  unfold readInquiredRanges at h
  unfold Simulator.readInquiredRanges
  refine bind_error_of h fun items hitems => ?_
  cases items with
  | none => exact absurd hitems (by simp)
  | some items => exact bind_error_of hitems fun _ hpure => absurd hpure (by simp)

theorem simulator_ranges_iff {ranges : InquiredRanges} (h : readInquiredRanges req = .ok ranges) :
    (∃ e, Simulator.readInquiredRanges g req = .error e) ↔ RangeCfisRaise g.countryCode req := by
  simp only [readInquiredRanges, bind_eq_ok] at h
  obtain ⟨items, hitems, h⟩ := h
  simp only [Simulator.readInquiredRanges, hitems, ok_bind, RangeCfisRaise, Except.ok.injEq]
  cases items with
  | none => simp
  | some items =>
      simp only [bind_eq_ok, pure_eq_ok, Except.ok.injEq] at h
      obtain ⟨list, hlist, -⟩ := h
      simp only [hlist, ok_bind, Option.some.injEq, exists_eq_left']
      have hlength := freqRangeList_length hlist
      by_cases hne : items = []
      · subst hne
        rw [if_neg (mt hlength.mp (by simp))]
        simp
      · rw [if_pos (hlength.mpr hne)]
        simp only [bind_eq_error, pure_eq_ok, reduceCtorEq, and_false, exists_false, or_false, hne,
          ne_eq, not_false_eq_true, true_and]
        -- one computation raises when the other side's bounds or country do
        rw [← not_iff_not, not_raises_iff, Simulator.getCfiByInquiredFreqRangesBw_isOk_iff, not_or,
          not_raises_iff, and_comm]
        exact and_congr_right fun _ => rangeChannels_convertible_iff hlist

end Readings

/-! ## The verdicts -/

section Verdicts

variable {g : Simulator.Globals} {f : Globals} {d : Simulator.Draws} {countryCode body req : Json}
  {ids : ReplyIds}

/-- The simulator once it has recorded the body. -/
def simulatorRecv (g : Simulator.Globals) (countryCode body : Json) : Simulator.Globals :=
  { simulatorAt g countryCode with
    recvHeaders := .obj (HttpRequest.ofJson body).headers
    recvBody := body }

def fcApRecv (f : Globals) (countryCode body : Json) : Globals :=
  { fcApAt f countryCode with
    recvHeaders := .obj (HttpRequest.ofJson body).headers
    recvBody := body }

theorem simulator_identified (hids : identify body = (ids, .ok req)) :
    Simulator.validate (simulatorAt g countryCode) (.ofJson body) d =
      Simulator.validateRequest (simulatorRecv g countryCode body) ids req d := by
  simp only [Simulator.validate, HttpRequest.ofJson, if_true, hids]
  rfl

theorem fcAp_identified (hids : identify body = (ids, .ok req)) :
    validate (fcApAt f countryCode) (.ofJson body) =
      validateRequest (fcApRecv f countryCode body) ids req := by
  simp only [validate, HttpRequest.ofJson, reduceCtorEq, and_false, if_false, if_true,
    Option.getD_some, hids]
  rfl

/-- The verdict of the simulator on a reading. -/
def simulatorVerdict (g : Simulator.Globals) (ids : ReplyIds) :
    Except Abort Simulator.Inquired → Verdict
  | .error a => (Simulator.refuse g ids a.handled).2
  | .ok i => .accepted (i.toInquiry ids)

/-- Without a test vector and without the random mode, the reading of the
inquiry decides. -/
theorem simulator_verdict :
    (Simulator.validateRequest (simulatorRecv g countryCode body) ids req d).2 =
      simulatorVerdict (simulatorRecv g countryCode body) ids
        (Simulator.readInquiry (simulatorRecv g countryCode body) ids.version req) := by
  unfold Simulator.validateRequest
  cases hread : Simulator.readInquiry (simulatorRecv g countryCode body) ids.version req with
  | error a => rfl
  | ok i =>
      have hcheck : Simulator.checkTestVector (simulatorRecv g countryCode body) i = .ok () := by
        simp [Simulator.checkTestVector, simulatorRecv, simulatorAt]
      have hbuild : Simulator.buildOnce (simulatorRecv g countryCode body) i.reqCfiBwX d =
          (simulatorRecv g countryCode body, .ok ()) := by
        simp [Simulator.buildOnce, simulatorRecv, simulatorAt]
      simp only [hcheck, hbuild]
      rfl

end Verdicts

/-- Up to the device, the two readings are the same code. -/
theorem alike_readings_iff {g : Simulator.Globals} {f : Globals} {ids : ReplyIds} {req : Json}
    (hcountry : f.countryCode = g.countryCode) (hfileName : f.filenamePrefix = g.filenamePrefix) :
    Alike (simulatorVerdict g ids (Simulator.readInquiry g ids.version req))
        (validateRequest f ids req).2 ↔
      ((∃ rulesetIds, checkDevice g.filenamePrefix g.countryCode ids.version req = .ok rulesetIds) →
        (∃ channels, readInquiredChannels req = .ok channels) →
        RaiseAlike g.countryCode (Simulator.inquiredBandwidth g.channelWidth) req) := by
  unfold validateRequest
  unfold Simulator.readInquiry readInquiry
  rw [hcountry, hfileName]
  cases hdevice : checkDevice g.filenamePrefix g.countryCode ids.version req with
  | error a =>
      simp only [error_bind, reduceCtorEq, exists_false, false_implies, iff_true]
      exact alike_same a
  | ok rulesetIds =>
      simp only [ok_bind, Except.ok.injEq, exists_eq', forall_const]
      cases hchan : readInquiredChannels req with
      | error e =>
          simp only [simulator_channels_raises hchan, raising_error, error_bind, reduceCtorEq,
            exists_false, false_implies, iff_true]
          exact alike_same (.raised e)
      | ok channels =>
          have hchannels := simulator_channels_iff (g := g) hchan
          simp only [raising_ok, ok_bind, Except.ok.injEq, exists_eq', forall_const, RaiseAlike]
          cases hsim : Simulator.readInquiredChannels g req with
          | error e =>
              -- the simulator stops at the channels, the other service reads on
              simp only [hsim, Except.error.injEq] at hchannels
              simp only [← hchannels, forall_eq', raising_error, error_bind]
              cases hranges : readInquiredRanges req with
              | error e' =>
                  simp only [raising_error, error_bind, Except.error.injEq, exists_eq_left',
                    reduceCtorEq, exists_false, false_implies, and_true]
                  exact alike_raised_iff e e'
              | ok ranges =>
                  simp only [raising_ok, ok_bind, pure_eq_ok, reduceCtorEq, false_and,
                    exists_false]
                  exact iff_of_false (not_alike_accepted (.raised e) _) id
          | ok simChannels =>
              simp only [hsim, reduceCtorEq, false_iff] at hchannels
              simp only [raising_ok, ok_bind, hchannels, false_implies, implies_true, true_and]
              cases hranges : readInquiredRanges req with
              | error e =>
                  simp only [simulator_ranges_raises hranges, raising_error, error_bind,
                    reduceCtorEq, exists_false, false_implies, iff_true]
                  exact alike_same (.raised e)
              | ok ranges =>
                  simp only [Except.ok.injEq, exists_eq', forall_const,
                    ← simulator_ranges_iff (g := g) hranges]
                  cases hsimRanges : Simulator.readInquiredRanges g req with
                  | error e =>
                      refine iff_of_false (not_alike_accepted (.raised e) _) ?_
                      simp
                  | ok simRanges => exact iff_of_true trivial (by simp)

/-- **Agreement.** With the same country, no test vector, no random mode and
the default prefix, the two services accept the same inquiries and refuse the
others with the same error, exactly where the simulator's computations of the
inquired CFIs do not raise, or raise with the reply the other service gives. -/
theorem alike_iff (g : Simulator.Globals) (f : Globals) (d : Simulator.Draws)
    (countryCode body : Json) :
    Alike (Simulator.validate (simulatorAt g countryCode) (.ofJson body) d).2
        (validate (fcApAt f countryCode) (.ofJson body)).2 ↔
      CfisComputable countryCode (Simulator.inquiredBandwidth g.channelWidth) body := by
  unfold CfisComputable
  rcases hids : identify body with ⟨ids, e | req⟩
  · -- neither service gets past the identification
    simp only [Simulator.validate, validate, HttpRequest.ofJson, reduceCtorEq, and_false,
      if_false, if_true, Option.getD_some, hids, iff_true]
    exact alike_same _
  · rw [simulator_identified hids, fcAp_identified hids, simulator_verdict]
    exact alike_readings_iff (g := simulatorRecv g countryCode body) rfl rfl

/-- A class with a `null` list of channels, which the response code takes for
all of them: the simulator answers a general failure, the other service
accepts. -/
theorem null_channels_differ :
    ¬ ∀ (g : Simulator.Globals) (f : Globals) (d : Simulator.Draws) (countryCode body : Json),
      Alike (Simulator.validate (simulatorAt g countryCode) (.ofJson body) d).2
        (validate (fcApAt f countryCode) (.ofJson body)).2 := by
  intro h
  have hsame := alike_isAccepted (h .init .init .lowest (.str "US")
    (inquiryBody "null" [certUS] [("inquiredChannels",
      .arr [.obj [("globalOperatingClass", .int 133), ("channelCfi", .null)]])]))
  revert hsame
  decide +kernel

end AfcDut.FcAp.Theorems.Agreement
