import AfcDut.Simulator.Frame
import AfcDut.Simulator.ChannelSpec
import AfcDut.Service.Exchange
import AfcDut.Service.WellFormed

/-!
# How the simulator reads a request

What the locals of an accepted inquiry say about its request: the entries and
ranges behind the two filters, the CFIs computed from them, and the list of
rulesets.
-/

namespace AfcDut.Simulator

open Py Service

variable {g : Globals} {req : Json}

/-- What the simulator keeps of the inquired channels. -/
theorem readInquiredChannels_eq_ok {channels : InquiredChannels}
    (h : readInquiredChannels g req = .ok channels) :
    ∃ items entries, listedItems req "inquiredChannels" = .ok items ∧
      items.mapM operClassItem = .ok entries ∧
      (∀ k, channels.operClassDict.lookup k = entries.reverse.lookup k) ∧
      (channels.hasChannel = true ↔ items ≠ []) ∧
      getCfiByInquiredChannelsBw g.countryCode (inquiredBandwidth g.channelWidth) items =
        .ok channels.reqCfiBwXByChan := by
  simp only [readInquiredChannels, bind_eq_ok] at h
  obtain ⟨items?, hitems, h⟩ := h
  simp only [listedItems, hitems, ok_bind, pure_eq_ok, Except.ok.injEq]
  cases items? with
  | none =>
      simp only [pure_eq_ok, Except.ok.injEq] at h
      subst h
      exact ⟨[], [], rfl, rfl, fun k => rfl, by simp, rfl⟩
  | some items =>
      simp only [bind_eq_ok] at h
      obtain ⟨dict, hdict, h⟩ := h
      obtain ⟨entries, hentries, hlookup⟩ := operClassDict_lookup hdict
      obtain ⟨-, hlength⟩ := operClassDict_eq_ok hdict
      refine ⟨items, entries, rfl, hentries, ?_⟩
      by_cases hne : items = []
      · rw [if_neg (mt hlength.mp (by simp [hne]))] at h
        simp only [pure_eq_ok, Except.ok.injEq] at h
        subst h hne
        exact ⟨hlookup, by simp, rfl⟩
      · rw [if_pos (hlength.mpr hne)] at h
        simp only [bind_eq_ok, pure_eq_ok, Except.ok.injEq] at h
        obtain ⟨byChan, hbyChan, rfl⟩ := h
        exact ⟨hlookup, by simp [hne], hbyChan⟩

/-- What it keeps of the inquired ranges. -/
theorem readInquiredRanges_eq_ok {ranges : InquiredRanges}
    (h : readInquiredRanges g req = .ok ranges) :
    ∃ items, listedItems req "inquiredFrequencyRange" = .ok items ∧
      freqRangeList items = .ok ranges.freqRangeList ∧
      (ranges.hasFreqRange = true ↔ items ≠ []) ∧
      (items = [] → ranges.reqCfiBwXByFreq = []) ∧
      (items ≠ [] → getCfiByInquiredFreqRangesBw g.countryCode (inquiredBandwidth g.channelWidth)
        items = .ok ranges.reqCfiBwXByFreq) := by
  simp only [readInquiredRanges, bind_eq_ok] at h
  obtain ⟨items?, hitems, h⟩ := h
  simp only [listedItems, hitems, ok_bind, pure_eq_ok, Except.ok.injEq, exists_eq_left']
  cases items? with
  | none =>
      simp only [pure_eq_ok, Except.ok.injEq] at h
      subst h
      exact ⟨rfl, by simp, fun _ => rfl, fun hne => absurd rfl hne⟩
  | some items =>
      simp only [bind_eq_ok] at h
      obtain ⟨list, hlist, h⟩ := h
      simp only [Option.getD_some]
      have hlength := freqRangeList_length hlist
      by_cases hne : items = []
      · rw [if_neg (mt hlength.mp (by simp [hne]))] at h
        simp only [pure_eq_ok, Except.ok.injEq] at h
        subst h
        exact ⟨hlist, by simp [hne], fun _ => rfl, fun h => absurd hne h⟩
      · rw [if_pos (hlength.mpr hne)] at h
        simp only [bind_eq_ok, pure_eq_ok, Except.ok.injEq] at h
        obtain ⟨byFreq, hbyFreq, rfl⟩ := h
        exact ⟨hlist, by simp [hne], fun h => absurd h hne, fun _ => hbyFreq⟩

/-- Ranges whose CFIs have been computed have numeric bounds. -/
theorem rangesNumeric_of_read {ranges : InquiredRanges} (h : readInquiredRanges g req = .ok ranges) :
    RangesNumeric ranges.freqRangeList := by
  obtain ⟨items, -, hlist, -, -, hcfis⟩ := readInquiredRanges_eq_ok h
  intro r hr
  obtain ⟨item, hitem, hbounds⟩ := (mem_of_mapM_eq_ok hlist).mp hr
  simp only [bind_eq_ok, pure_eq_ok, Except.ok.injEq] at hbounds
  obtain ⟨low, hlow, high, hhigh, rfl⟩ := hbounds
  obtain ⟨hall, -⟩ := getCfiByInquiredFreqRangesBw_isOk_iff.mp
    ⟨_, hcfis (List.ne_nil_of_mem hitem)⟩
  obtain ⟨⟨q, hq, -⟩, q', hq', -⟩ := (rangeChannels_isOk_iff hlow hhigh).mp (hall item hitem)
  exact ⟨⟨q, hq⟩, q', hq'⟩

/-- The request has an element in the list field. -/
def inquires (req : Json) (name : String) : Bool :=
  match listedItems req name with
  | .ok items => !items.isEmpty
  | .error _ => false

/-- The certifications of a request. -/
def certificationIds (req : Json) : Except PyErr (List Json) := do
  let devDesc ← req.field "deviceDescriptor"
  let certIds ← devDesc.field "certificationId"
  certIds.iter

theorem checkRulesets_length {countryCode : Json} {certIds : List Json} {rulesetIds : List String}
    (h : checkRulesets countryCode certIds = .ok rulesetIds) :
    rulesetIds.length = certIds.length := by
  induction certIds generalizing rulesetIds with
  | nil =>
      simp only [checkRulesets, pure_eq_ok, Except.ok.injEq] at h
      subst h
      rfl
  | cons certId rest ih =>
      simp only [checkRulesets, bind_eq_ok] at h
      obtain ⟨rulesetId, -, _, -, h⟩ := h
      split at h
      · split at h
        · simp only [bind_eq_ok, pure_eq_ok, Except.ok.injEq] at h
          obtain ⟨rulesetIds', hrest, rfl⟩ := h
          rw [List.length_cons, List.length_cons, ih hrest]
        · simp only [bind_eq_ok] at h
          obtain ⟨_, -, h⟩ := h
          simp at h
      · simp at h

/-- An accepted device has one ruleset for each certification. -/
theorem checkDevice_rulesets {filenamePrefix : String} {countryCode version : Json}
    {rulesetIds : List String}
    (h : checkDevice filenamePrefix countryCode version req = .ok rulesetIds) :
    ∃ certIds, certificationIds req = .ok certIds ∧
      checkRulesets countryCode certIds = .ok rulesetIds := by
  unfold checkDevice at h
  by_cases hfileName : filenamePrefix = ""
  · simp [hfileName] at h
  · simp only [hfileName, if_false, bind_eq_ok, raising_eq_ok] at h
    obtain ⟨devDesc, hdev, _, -, cert, hcert, h⟩ := h
    simp only [certificationIds, hdev, hcert, ok_bind]
    cases cert with
    | arr certIds =>
        refine ⟨certIds, rfl, ?_⟩
        by_cases hversion : version = .str "1.4"
        · simp only [hversion, if_true, bind_eq_ok] at h
          obtain ⟨rulesetIds', hrulesets, n, -, h⟩ := h
          by_cases hn : n = 1
          · simp [hn] at h
            exact h ▸ hrulesets
          · simp [hn] at h
        · simp [hversion] at h
    | _ => simp at h

/-- An accepted inquiry keeps its request. -/
theorem simulator_reads {r : HttpRequest} {d : Draws} {body : Json} {ids : ReplyIds}
    {inq : Inquiry} (hjson : r.json = some body) (hids : identify body = (ids, .ok req))
    (h : (validate g r d).2 = .accepted inq) : Reads req inq := by
  obtain ⟨body', req', ids', i, -, -, hjson', hids', hread, -, -, -, rfl⟩ :=
    validate_accepted (Prod.ext rfl h)
  rw [hjson, Option.some.injEq] at hjson'
  subst hjson'
  rw [hids, Prod.mk.injEq, Except.ok.injEq] at hids'
  obtain ⟨rfl, rfl⟩ := hids'
  simp only [readInquiry, bind_eq_ok, raising_eq_ok, pure_eq_ok, Except.ok.injEq] at hread
  obtain ⟨rulesetIds, -, channels, hchannels, ranges, hranges, rfl⟩ := hread
  constructor
  · obtain ⟨items, entries, hitems, hentries, hlookup, -⟩ := readInquiredChannels_eq_ok hchannels
    exact ⟨entries, by rw [inquiredEntries, hitems, ok_bind, hentries], hlookup⟩
  · obtain ⟨items, hitems, hlist, -⟩ := readInquiredRanges_eq_ok hranges
    rw [inquiredRanges, hitems, ok_bind]
    exact hlist

/-- The locals of an accepted inquiry, in terms of its request. -/
theorem accepted_reading {g₁ : Globals} {r : HttpRequest} {d : Draws} {body : Json}
    {ids : ReplyIds} {inq : Inquiry} (hjson : r.json = some body) (hids : identify body = (ids, .ok req))
    (hval : validate g r d = (g₁, .accepted inq)) :
    (inq.rulesetIds ≠ [] ↔ ∃ certIds, certificationIds req = .ok certIds ∧ certIds ≠ []) ∧
      RangesNumeric inq.freqRangeList ∧
      (inq.hasChannel = inquires req "inquiredChannels") ∧
      inq.hasFreqRange = inquires req "inquiredFrequencyRange" := by
  obtain ⟨body', req', ids', i, -, -, hjson', hids', hread, -, -, -, rfl⟩ := validate_accepted hval
  rw [hjson, Option.some.injEq] at hjson'
  subst hjson'
  rw [hids, Prod.mk.injEq, Except.ok.injEq] at hids'
  obtain ⟨rfl, rfl⟩ := hids'
  simp only [readInquiry, bind_eq_ok, raising_eq_ok, pure_eq_ok, Except.ok.injEq] at hread
  obtain ⟨rulesetIds, hdevice, channels, hchannels, ranges, hranges, rfl⟩ := hread
  have hinquires : ∀ {name : String} {items : List Json} {b : Bool},
      listedItems req name = .ok items → (b = true ↔ items ≠ []) → b = inquires req name := by
    intro name items b hitems hb
    rw [Bool.eq_iff_iff, hb]
    simp [inquires, hitems]
  refine ⟨?_, rangesNumeric_of_read hranges, ?_, ?_⟩
  · obtain ⟨certIds, hcert, hrulesets⟩ := checkDevice_rulesets hdevice
    have hlength := checkRulesets_length hrulesets
    have hnil : rulesetIds = [] ↔ certIds = [] := by
      rw [← List.length_eq_zero_iff, hlength, List.length_eq_zero_iff]
    simp only [hcert, Except.ok.injEq, exists_eq_left']
    exact not_congr hnil
  · obtain ⟨items, -, hitems, -, -, hhas, -⟩ := readInquiredChannels_eq_ok hchannels
    exact hinquires hitems hhas
  · obtain ⟨items, hitems, -, hhas, -⟩ := readInquiredRanges_eq_ok hranges
    exact hinquires hitems hhas

/-- From a well-formed vector, an accepted inquiry can be answered when it has a
certification and its entries of the offered classes can be read. -/
theorem accepted_success_iff {g₁ : Globals} {r : HttpRequest} {d : Draws} {body vectors : Json}
    {ids : ReplyIds} {inq : Inquiry} {now : String} (hjson : r.json = some body)
    (hids : identify body = (ids, .ok req)) (hval : validate g r d = (g₁, .accepted inq))
    (hwf : WellFormed vectors) :
    (∃ sent, successResponse vectors inq now = .ok sent) ↔
      (∃ certIds, certificationIds req = .ok certIds ∧ certIds ≠ []) ∧
        ∀ k, OffersClass vectors k → ReadableClass req k := by
  obtain ⟨hcert, hranges, -, -⟩ := accepted_reading hjson hids hval
  obtain ⟨entries, hentries, hlookup⟩ :=
    (simulator_reads hjson hids (congrArg Prod.snd hval)).channels
  rw [successResponse_isOk_iff hwf hranges, hcert]
  refine and_congr_right fun _ => ?_
  constructor
  · intro hread k hk entries' value hentries' hvalue htruthy
    rw [hentries, Except.ok.injEq] at hentries'
    subst hentries'
    obtain ⟨item, ⟨resp, hresp, hmem⟩, hclass⟩ := hk
    exact hread resp hresp item k value hmem hclass (hlookup k ▸ hvalue) htruthy
  · intro hread resp hresp item k value hmem hclass hvalue htruthy
    exact hread k ⟨item, ⟨resp, hresp, hmem⟩, hclass⟩ entries value hentries (hlookup k ▸ hvalue)
      htruthy

end AfcDut.Simulator
