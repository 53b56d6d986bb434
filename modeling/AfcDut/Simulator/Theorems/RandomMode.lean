import AfcDut.Simulator.Phases
import AfcDut.Simulator.Picks
import AfcDut.Simulator.RandomOffers

/-!
# Random mode end to end

The first accepted inquiry of a random test picks CFIs among those it covers,
a vector is built from the picks, and the response is cut down to what was
inquired. Every pick survives when the inquiry's own entries and ranges admit
it; the CFIs it covers are computed differently from both filters.
-/

namespace AfcDut.Simulator.Theorems.RandomMode

open Py Service Lts

/-- A random test of a wide channel width, up to its first accepted inquiry and
on. -/
structure RandomTest (files : TestFiles) where
  start : Sys
  tc : TestCaseControl
  call : RandomCall tc
  bw : Bandwidth
  wide : bw = .bw80 ∨ bw = .bw160 ∨ bw = .bw320
  width : (configured start tc).g.channelWidth.key? = some (.num bw.mhz)
  phase : Phase files (configured start tc)

/-- The vector has `availableChannelInfo`, or `availableFrequencyInfo`. -/
def ByChannel (g : Globals) : Prop := g.scriptTestVector = 2 ∨ g.scriptTestVector = 3

def ByFrequency (g : Globals) : Prop := g.scriptTestVector = 1 ∨ g.scriptTestVector = 3

/-- The response offers a picked CFI of the width, with all its segments. -/
structure OffersPick (g : Globals) (bw : Bandwidth) (sent : Json) (cfi : Int) : Prop where
  channel : ByChannel g → ∃ eirp, Offers (SentMember sent) (.num bw.opClass) (.num cfi) eirp
  segments : ByFrequency g → ∀ ch ∈ subChannels bw cfi,
    ∃ item, SentMember sent "availableFrequencyInfo" item ∧ SegmentItem ch item

section Test

variable {files : TestFiles} (test : RandomTest files)

/-- The globals in which the first accepted inquiry arrives. -/
def RandomTest.arrival : Globals := test.phase.arrival.g

/-- The globals once it is accepted. -/
def RandomTest.built : Globals := (validate test.arrival test.phase.r test.phase.d).1

/-- The request of that inquiry. -/
def RandomTest.request : Json := requestOf (recordedBody test.arrival test.phase.r)

/-- At least one CFI is picked, and the inquiry is answered with a success that
offers every pick. However long it waits, the answer is made from the vector
built for it (`Phase.answers`). -/
def EndToEnd : Prop :=
  ∀ inq now, (validate test.arrival test.phase.r test.phase.d).2 = .accepted inq →
    test.built.randomPicks ≠ [] ∧
      ∃ sent, (respond test.built inq now).2 = .success sent ∧
        ∀ pick ∈ test.built.randomPicks, ∃ cfi : Int, pick.key? = some (.num cfi) ∧
          OffersPick test.arrival test.bw sent cfi

/-- What the inquiry covers. -/
def RandomTest.covered : List Json := Simulator.covered test.arrival test.phase.r

/-- The draw picks the CFI. -/
def RandomTest.Picks (cfi : Int) : Prop :=
  some (.num cfi) ∈ cfiSet (nextPicks test.arrival test.covered test.phase.d)

/-- The mask that is drawn for the picks. -/
def RandomTest.mask : List (Int × MaskEntry) :=
  match countryParam test.arrival.countryCode with
  | .error _ => []
  | .ok p =>
      let picks := nextPicks test.arrival test.covered test.phase.d
      match randomChanBw20 { test.arrival with randomPicks := picks } p with
      | .error _ => []
      | .ok chans =>
          randomMask (drawPsd p test.arrival.channelWidth test.arrival.differenceLastPicks
            test.phase.d) chans

/-- The inquiry admits what may be picked for it. -/
structure AdmitsPicks : Prop where
  certified : ∃ certIds, certificationIds test.request = .ok certIds ∧ certIds ≠ []
  covers : test.covered ≠ []
  fresh : test.arrival.differenceLastPicks = true → 2 ≤ test.covered.length →
    ¬ cfiSet test.covered ⊆ cfiSet test.arrival.randomPicks
  readable : ByChannel test.arrival → ∀ bw : Bandwidth,
    ReadableClass test.request (.num bw.opClass)
  listed : ByChannel test.arrival → ∀ cfi, test.Picks cfi →
    LastInquiredChannel test.request (.num test.bw.opClass) (.num cfi)
  audible : ByChannel test.arrival → ∀ cfi, test.Picks cfi →
    getMinMaxpsdByBw test.mask cfi test.bw ≠ some 0
  within : ByFrequency test.arrival → ∀ cfi, test.Picks cfi → ∀ ch ∈ subChannels test.bw cfi,
    ∃ ranges, inquiredRanges test.request = .ok ranges ∧ SegmentWithin ch ranges

/-! ## The vector that is built -/

theorem unbuilt_arrival : Unbuilt test.arrival :=
  (test.phase.unbuilt_arrival (unbuilt_configured test.call test.start)).1

theorem width_arrival : test.arrival.channelWidth.key? = some (.num test.bw.mhz) := by
  have hsettings := (test.phase.unbuilt_arrival (unbuilt_configured test.call test.start)).2
  have hsame : test.arrival.channelWidth = (configured test.start test.tc).g.channelWidth :=
    congrArg Settings.channelWidth hsettings
  rw [hsame]
  exact test.width

/-- The bandwidth whose CFIs are computed is the configured one. -/
theorem inquiredBandwidth_arrival : inquiredBandwidth test.arrival.channelWidth = test.bw := by
  unfold inquiredBandwidth
  rw [width_arrival test]
  rcases test.wide with h | h | h <;> rw [h] <;> decide +kernel

/-- The first accepted inquiry leaves a vector with its picks, its responses
made from the drawn mask. -/
theorem built_spec {inq : Inquiry}
    (hval : (validate test.arrival test.phase.r test.phase.d).2 = .accepted inq) :
    test.built.randomPicks = nextPicks test.arrival test.covered test.phase.d ∧
    ∃ p chans, countryParam test.arrival.countryCode = .ok p ∧
      randomChanBw20 { test.arrival with
        randomPicks := nextPicks test.arrival test.covered test.phase.d } p = .ok chans ∧
      test.mask = randomMask (drawPsd p test.arrival.channelWidth
        test.arrival.differenceLastPicks test.phase.d) chans ∧
      test.built.vectors.field "responses" =
        .ok (randomDocument (randomResponse test.arrival.scriptTestVector p test.mask)) := by
  obtain ⟨hpicks, p, chans, hp, hchans, hvectors⟩ := validate_built (unbuilt_arrival test) hval
  have hchans' : randomChanBw20 { test.arrival with
      randomPicks := nextPicks test.arrival test.covered test.phase.d } p = .ok chans := hchans
  have hmask : test.mask = randomMask (drawPsd p test.arrival.channelWidth
      test.arrival.differenceLastPicks test.phase.d) chans := by
    simp only [RandomTest.mask, hp, hchans']
  refine ⟨hpicks, p, chans, hp, hchans', hmask, ?_⟩
  rw [hmask]
  exact hvectors

theorem nextPicks_arrival : nextPicks test.arrival test.covered test.phase.d =
    pickCfis test.arrival.differenceLastPicks test.arrival.randomPicks test.covered
      test.phase.d := by
  rw [nextPicks, if_neg (by rw [(unbuilt_arrival test).power]; exact Bool.false_ne_true)]

/-- A pick is a CFI of the country. -/
theorem picks_country {p : CountryParam} (hp : countryParam test.arrival.countryCode = .ok p)
    {cfi : Int} (hcfi : test.Picks cfi) : cfi ∈ p.cfis test.bw := by
  rw [RandomTest.Picks, nextPicks_arrival] at hcfi
  have hcov := mem_cfiSet.mp (cfiSet_pickCfis_subset hcfi)
  obtain ⟨n, hn, heq⟩ := covered_country hp test.phase.r _ hcov
  rw [inquiredBandwidth_arrival] at hn
  rw [num_key_injective heq]
  exact hn

/-- A pick is a CFI of the country, all its 20 MHz channels are in the mask,
and these have a lowest power. -/
theorem picks_spec {p : CountryParam} {chans : List Int}
    (hp : countryParam test.arrival.countryCode = .ok p)
    (hchans : randomChanBw20 { test.arrival with
      randomPicks := nextPicks test.arrival test.covered test.phase.d } p = .ok chans)
    (hmask : test.mask = randomMask (drawPsd p test.arrival.channelWidth
      test.arrival.differenceLastPicks test.phase.d) chans) :
    (∀ pick ∈ nextPicks test.arrival test.covered test.phase.d,
      ∃ cfi : Int, pick.key? = some (.num cfi) ∧ test.Picks cfi) ∧
    ∀ cfi, test.Picks cfi → cfi ∈ p.cfis test.bw ∧
      (∀ ch ∈ subChannels test.bw cfi, ch ∈ test.mask.map (·.1)) ∧
      ∃ q, getMinMaxpsdByBw test.mask cfi test.bw = some q := by
  obtain ⟨hpicks, hdrawn⟩ := randomChanBw20_eq_ok
    (g := { test.arrival with
      randomPicks := nextPicks test.arrival test.covered test.phase.d })
    (unbuilt_arrival test).power (width_arrival test) hchans
  have hkeys := @randomMask_keys (drawPsd p test.arrival.channelWidth
    test.arrival.differenceLastPicks test.phase.d) chans
  rw [← hmask] at hkeys
  have hpicked : ∀ pick ∈ nextPicks test.arrival test.covered test.phase.d,
      ∃ cfi : Int, pick.key? = some (.num cfi) ∧ test.Picks cfi ∧
        ∀ ch ∈ subChannels test.bw cfi, ch ∈ test.mask.map (·.1) := by
    intro pick hpick
    obtain ⟨cfi, hkey, hsub⟩ := hpicks pick hpick
    refine ⟨cfi, hkey, ?_, fun ch hch => (hkeys.2 ch).mpr (hsub ch hch)⟩
    exact mem_cfiSet.mpr (hkey ▸ List.mem_map_of_mem hpick)
  have hgrid : ∀ cfi, test.Picks cfi → ∀ e ∈ test.mask,
      (e.1 - (cfi - (test.bw.mhz / 10 - 2))) % 4 = 0 := by
    intro cfi hcfi e he
    have hch := (hkeys.2 e.1).mp (List.mem_map_of_mem he)
    obtain ⟨pick, hpick, cfi', hkey, hsub⟩ := hdrawn e.1 hch
    have hpicks' : test.Picks cfi' := mem_cfiSet.mpr (hkey ▸ List.mem_map_of_mem hpick)
    -- both CFIs begin on the grid of the 20 MHz channels
    have h1 := cfis_grid hp test.bw cfi (picks_country test hp hcfi)
    have h2 := cfis_grid hp test.bw cfi' (picks_country test hp hpicks')
    obtain ⟨-, -, h3⟩ := (mem_subChannels e.1).mp hsub
    omega
  refine ⟨fun pick hpick => ?_, fun cfi hcfi => ?_⟩
  · obtain ⟨cfi, hkey, hpick', -⟩ := hpicked pick hpick
    exact ⟨cfi, hkey, hpick'⟩
  · obtain ⟨pick, hpick, hkey⟩ := List.mem_map.mp (mem_cfiSet.mp hcfi)
    obtain ⟨cfi', hkey', -, hsub⟩ := hpicked pick hpick
    have hsame : cfi' = cfi := num_key_injective (hkey'.symm.trans hkey)
    subst hsame
    exact ⟨picks_country test hp hcfi, hsub, getMinMaxpsdByBw_isSome hkeys.1 (hgrid cfi' hcfi) hsub⟩

/-! ## The response -/

theorem wide_ne_bw20 : test.bw ≠ .bw20 := by
  rcases test.wide with h | h | h <;> rw [h] <;> decide

/-- The response offers a pick when the inquiry admits it and its lowest power
is not zero. -/
theorem offersPick_iff {p : CountryParam} {vectors sent : Json} {inq : Inquiry} {now : String}
    {cfi : Int} (hvectors : vectors.field "responses" =
      .ok (randomDocument (randomResponse test.arrival.scriptTestVector p test.mask)))
    (hreads : Reads test.request inq) (hsent : successResponse vectors inq now = .ok sent)
    (hcfi : cfi ∈ p.cfis test.bw)
    (hsub : ∀ ch ∈ subChannels test.bw cfi, ch ∈ test.mask.map (·.1))
    (hmin : ∃ q, getMinMaxpsdByBw test.mask cfi test.bw = some q) :
    OffersPick test.arrival test.bw sent cfi ↔
      (ByChannel test.arrival →
        LastInquiredChannel test.request (.num test.bw.opClass) (.num cfi) ∧
          getMinMaxpsdByBw test.mask cfi test.bw ≠ some 0) ∧
      (ByFrequency test.arrival → ∀ ch ∈ subChannels test.bw cfi,
        ∃ ranges, inquiredRanges test.request = .ok ranges ∧ SegmentWithin ch ranges) := by
  have hchannel : ByChannel test.arrival →
      ((∃ eirp, Offers (SentMember sent) (.num test.bw.opClass) (.num cfi) eirp) ↔
        LastInquiredChannel test.request (.num test.bw.opClass) (.num cfi) ∧
          getMinMaxpsdByBw test.mask cfi test.bw ≠ some 0) := by
    intro hby
    simp only [offers_sent_iff hreads hsent, offers_random_iff hvectors]
    -- the pick is an entry of its width unless its lowest power counts as missing
    have hentry := @mem_bwEntries_wide p test.mask test.bw cfi (wide_ne_bw20 test) hcfi
    obtain ⟨q, hq⟩ := hmin
    rw [hq] at hentry ⊢
    constructor
    · rintro ⟨eirp, ⟨-, e, he, heq, -⟩, hlast⟩
      obtain ⟨q', hq', hne⟩ := hentry.mp ⟨e, he, heq⟩
      rw [Option.some.injEq] at hq'
      exact ⟨hlast, by rw [hq']; simpa using hne⟩
    · rintro ⟨hlast, hne⟩
      obtain ⟨e, he, heq⟩ := hentry.mpr ⟨q, rfl, by simpa using hne⟩
      exact ⟨.float e.2, ⟨hby, e, he, heq, rfl⟩, hlast⟩
  have hsegment : ByFrequency test.arrival → ∀ ch ∈ subChannels test.bw cfi,
      ((∃ item, SentMember sent "availableFrequencyInfo" item ∧ SegmentItem ch item) ↔
        ∃ ranges, inquiredRanges test.request = .ok ranges ∧ SegmentWithin ch ranges) := by
    intro hby ch hch
    obtain ⟨-, hranges⟩ := exact_parts hreads hsent
    constructor
    · rintro ⟨item, hitem, hseg⟩
      obtain ⟨-, ranges, hread, hwithin⟩ := (hranges item).mp hitem
      exact ⟨ranges, hread, (withinRange_iff hseg).mp hwithin⟩
    · rintro ⟨ranges, hread, hwithin⟩
      obtain ⟨item, hitem, hseg⟩ := (segment_random_iff hvectors (hsub ch hch)).mpr hby
      exact ⟨item, (hranges item).mpr ⟨hitem, ranges, hread, (withinRange_iff hseg).mpr hwithin⟩,
        hseg⟩
  constructor
  · rintro ⟨hc, hs⟩
    exact ⟨fun hby => (hchannel hby).mp (hc hby),
      fun hby ch hch => (hsegment hby ch hch).mp (hs hby ch hch)⟩
  · rintro ⟨hc, hs⟩
    exact ⟨fun hby => (hchannel hby).mpr (hc hby),
      fun hby ch hch => (hsegment hby ch hch).mpr (hs hby ch hch)⟩

/-- No pick is left out for its power, unless it is drawn for the second phase
of a 320 MHz test. -/
theorem audible_of_drawn (hdraw : ¬ (test.bw = .bw320 ∧ test.arrival.differenceLastPicks = true))
    (cfi : Int) : getMinMaxpsdByBw test.mask cfi test.bw ≠ some 0 := by
  have hnot : ¬ (test.arrival.channelWidth.key? = some (.num 320) ∧
      test.arrival.differenceLastPicks = true) := by
    rintro ⟨hkey, hdiff⟩
    rw [width_arrival test, Option.some.injEq, Key.num.injEq] at hkey
    refine hdraw ⟨?_, hdiff⟩
    rcases test.wide with h | h | h <;> rw [h] at hkey ⊢ <;>
      first | rfl | exact absurd hkey (by norm_num [Bandwidth.mhz])
  unfold RandomTest.mask
  split
  · rename_i hnone
    simp [getMinMaxpsdByBw]
  · rename_i p hp
    dsimp only
    split
    · simp [getMinMaxpsdByBw]
    · exact getMinMaxpsdByBw_ne_zero (fun i => drawPsd_pos hp _ i hnot) cfi test.bw

/-- The request of the accepted inquiry, read once and for all. -/
theorem request_spec {inq : Inquiry}
    (hval : (validate test.arrival test.phase.r test.phase.d).2 = .accepted inq) :
    Reads test.request inq ∧ ∀ {vectors : Json} {now : String}, WellFormed vectors →
      ((∃ sent, successResponse vectors inq now = .ok sent) ↔
        (∃ certIds, certificationIds test.request = .ok certIds ∧ certIds ≠ []) ∧
          ∀ k, OffersClass vectors k → ReadableClass test.request k) := by
  have hpair : validate test.arrival test.phase.r test.phase.d = (test.built, .accepted inq) :=
    Prod.ext rfl hval
  obtain ⟨body, req, ids, -, -, hct, hjson, hids, -⟩ := validate_accepted hpair
  have hreq : test.request = req := by
    have hbody : recordedBody test.arrival test.phase.r = body := by
      rw [recordedBody, if_pos hct, hjson, Option.getD_some]
    rw [RandomTest.request, hbody, requestOf, hids]
  rw [hreq]
  exact ⟨simulator_reads hjson hids hval, fun hwf => accepted_success_iff hjson hids hpair hwf⟩

end Test

/-- **Random mode end to end.** The first accepted inquiry is answered with a
success that offers every pick, and there is one, exactly when it admits what
is picked for it. -/
theorem endToEnd_iff (files : TestFiles) (test : RandomTest files) :
    EndToEnd test ↔ AdmitsPicks test := by
  obtain ⟨inq, hval⟩ : ∃ inq, (validate test.arrival test.phase.r test.phase.d).2 =
      .accepted inq := test.phase.accepts
  obtain ⟨hpicks, p, chans, hp, hchans, hmask, hvectors⟩ := built_spec test hval
  obtain ⟨hkeys, hspec⟩ := picks_spec test hp hchans hmask
  obtain ⟨hreads, hsuccess⟩ := request_spec test hval
  have hwf : WellFormed test.built.vectors := RandomBuilt.wellFormed ⟨p, test.mask, hvectors⟩
  have hoffered : ∀ {sent : Json} {now : String} {cfi : Int},
      successResponse test.built.vectors inq now = .ok sent → test.Picks cfi →
      _ := fun hsent hcfi => offersPick_iff test hvectors hreads hsent (hspec _ hcfi).1
        (hspec _ hcfi).2.1 (hspec _ hcfi).2.2
  have hnonempty : test.built.randomPicks ≠ [] ↔ test.covered ≠ [] ∧
      (test.arrival.differenceLastPicks = true → 2 ≤ test.covered.length →
        ¬ cfiSet test.covered ⊆ cfiSet test.arrival.randomPicks) := by
    rw [hpicks, nextPicks_arrival]
    exact pickCfis_ne_nil_iff
  constructor
  · intro hend
    obtain ⟨hne, sent, hresp, hall⟩ := hend inq "" hval
    have hsent := respond_success_iff.mp hresp
    obtain ⟨hcert, hreadable⟩ := (hsuccess hwf).mp ⟨sent, hsent⟩
    obtain ⟨hcovers, hfresh⟩ := hnonempty.mp hne
    have hpick : ∀ cfi, test.Picks cfi → OffersPick test.arrival test.bw sent cfi := by
      intro cfi hcfi
      obtain ⟨pick, hmem, hkey⟩ := List.mem_map.mp (mem_cfiSet.mp hcfi)
      obtain ⟨cfi', hkey', hoffers⟩ := hall pick (hpicks ▸ hmem)
      rw [num_key_injective (hkey.symm.trans hkey')]
      exact hoffers
    refine ⟨hcert, hcovers, hfresh, fun hby bw => ?_, fun hby cfi hcfi => ?_,
      fun hby cfi hcfi => ?_, fun hby cfi hcfi => ?_⟩
    · exact hreadable _ ((offersClass_random hvectors).mpr ⟨hby, bw, rfl⟩)
    · exact (((hoffered hsent hcfi).mp (hpick cfi hcfi)).1 hby).1
    · exact (((hoffered hsent hcfi).mp (hpick cfi hcfi)).1 hby).2
    · exact ((hoffered hsent hcfi).mp (hpick cfi hcfi)).2 hby
  · intro hadmits inq' now hval'
    rw [hval, Verdict.accepted.injEq] at hval'
    subst hval'
    refine ⟨hnonempty.mpr ⟨hadmits.covers, hadmits.fresh⟩, ?_⟩
    -- the classes a random vector offers are those of the five widths
    obtain ⟨sent, hsent⟩ : ∃ sent, successResponse test.built.vectors inq now = .ok sent := by
      refine (hsuccess hwf).mpr ⟨hadmits.certified, fun k hk => ?_⟩
      obtain ⟨hby, bw, rfl⟩ := (offersClass_random hvectors).mp hk
      exact hadmits.readable hby bw
    refine ⟨sent, respond_success_iff.mpr hsent, fun pick hpick => ?_⟩
    obtain ⟨cfi, hkey, hcfi⟩ := hkeys pick (hpicks ▸ hpick)
    refine ⟨cfi, hkey, (hoffered hsent hcfi).mpr ⟨fun hby => ?_, fun hby => ?_⟩⟩
    · exact ⟨hadmits.listed hby cfi hcfi, hadmits.audible hby cfi hcfi⟩
    · exact hadmits.within hby cfi hcfi

/-! ## A narrow range -/

/-- Channels of the width are inquired, and a range that has none. -/
def narrowRange : RandomTest fun _ _ => .absent where
  start := Sys.init
  tc := randomCall none false
  call := randomCall_call none false
  bw := .bw80
  wide := .inl rfl
  width := rfl
  phase := onePhase (r := .ofJson (inquiryBody "one" [certUS]
    [("inquiredChannels", .arr [inquireChannels 133 [7, 23, 39, 55]]),
      ("inquiredFrequencyRange", .arr [inquireRange 5925 5930])]))
    (by unfold Passes; decide +kernel)

/-- The inquiry is accepted for its channels, and nothing is picked for it
because of the range. -/
theorem narrowRange_picks_none : ¬ ∀ files (test : RandomTest files),
    ByChannel test.arrival ∨ ByFrequency test.arrival → EndToEnd test := by
  intro h
  obtain ⟨inq, hverdict⟩ := narrowRange.phase.accepts
  obtain ⟨hne, -⟩ := h _ narrowRange (.inl (.inl rfl)) inq "now" hverdict
  exact hne (by decide +kernel)

end AfcDut.Simulator.Theorems.RandomMode
