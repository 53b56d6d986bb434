import AfcDut.Simulator.Calls
import AfcDut.Simulator.RandomOffers

/-!
# A reset between two test cases

What `/reset` leaves of the test before it. The replies after it are those of
a freshly started service exactly when the country is the default one and
there are no picks: the two globals it does not clear are both seen by some
later sequence of calls.
-/

namespace AfcDut.Simulator.Theorems.ResetIsolation

open Py Service Lts

/-- The state after a `/reset`. -/
def afterReset (s : Sys) (json : Option Json) : Sys := ⟨(reset s.g json).1, s.flight⟩

/-- Whatever is called next, the replies are those of a fresh service that was
reset in the same way. -/
def Isolates (files : TestFiles) (s : Sys) (json : Option Json) : Prop :=
  ∀ calls : List Call, (∀ c ∈ calls, c.NoReset) →
    replies files (afterReset s json) calls = replies files (afterReset Sys.init json) calls

/-- The two globals `/reset` leaves alone have their start-up values. -/
structure NothingLeft (g : Globals) : Prop where
  country : g.countryCode = .str "US"
  picks : g.randomPicks = []

/-- The globals of a service reset with the inquiry file `file`, but for what
the test before it left. -/
def cleared (file : Json) (picks : List Json) (countryCode : Json) : Globals :=
  { Globals.init with inquiryFile := file, randomPicks := picks, countryCode := countryCode }

theorem afterReset_eq {s : Sys} {json : Option Json} (hidle : s.flight = [])
    (h : (reset s.g json).2 = 200) :
    ∃ file, afterReset s json = ⟨cleared file s.g.randomPicks s.g.countryCode, []⟩ ∧
      afterReset Sys.init json = ⟨cleared file [] (.str "US"), []⟩ := by
  obtain ⟨file, hreset⟩ := reset_eq h
  refine ⟨file, ?_, ?_⟩
  · rw [afterReset, hreset, hidle]
    rfl
  · rw [afterReset, hreset]
    rfl

/-! ## A country that was left -/

/-- An inquiry of the default test, certified for the United States. -/
def inquireUS : HttpRequest :=
  .ofJson (inquiryBody "one" [certUS] [("inquiredChannels", .arr [inquireChannels 133 [7, 23]])])

theorem passes_inquireUS (file : Json) :
    Passes (cleared file [] (.str "US")) inquireUS .lowest := rfl

/-- Its ruleset is refused under any other country. -/
theorem country_of_passes {g : Globals} {d : Draws} (h : Passes g inquireUS d) :
    g.countryCode = .str "US" := by
  obtain ⟨certIds, rulesetIds, hcert, hrulesets⟩ := passes_rulesets (r := inquireUS) rfl rfl h
  change (.ok [certUS] : Except PyErr (List Json)) = .ok certIds at hcert
  rw [Except.ok.injEq] at hcert
  subst hcert
  exact checkRulesets_certUS hrulesets

/-- The status after the first inquiry tells the country. -/
theorem country_of_isolates {files : TestFiles} {s : Sys} {json : Option Json}
    (hidle : s.flight = []) (h : (reset s.g json).2 = 200) (hsame : Isolates files s json) :
    s.g.countryCode = .str "US" := by
  obtain ⟨file, hleft, hfresh⟩ := afterReset_eq hidle h
  have hreplies := hsame [.event (.inquiry inquireUS .lowest ""), .getStatus] (by simp [Call.NoReset])
  rw [hleft, hfresh] at hreplies
  simp only [replies, call, step, List.cons.injEq, Option.some.injEq, Reply.mk.injEq, true_and,
    and_true] at hreplies
  have hflag := (getStatus_vectors hreplies.2).2
  have hraised : ∀ g : Globals, (arrive files ⟨g, []⟩ inquireUS .lowest "").1.g.validRequest = true ↔
      g.validRequest = true ∨ Passes g inquireUS .lowest := by
    intro g
    obtain ⟨vectors, sent, hframe⟩ := arrive_frame files ⟨g, []⟩ inquireUS .lowest ""
    rw [hframe]
    exact validate_validRequest g inquireUS .lowest
  have hup := (hraised (cleared file [] (.str "US"))).mpr (.inr (passes_inquireUS file))
  rw [← hflag, hraised] at hup
  rcases hup with hup | hpass
  · exact absurd hup Bool.false_ne_true
  · exact @country_of_passes (cleared file s.g.randomPicks s.g.countryCode) _ hpass

/-! ## Picks that were left -/

/-- A country as the tests name it, with the ruleset it takes. -/
structure Country where
  code : String
  param : CountryParam
  rulesetId : String

def countries : List Country :=
  [⟨"US", countryUS, "US_47_CFR_PART_15_SUBPART_E"⟩, ⟨"CA", countryCA, "CA_RES_DBS-06"⟩]

variable {file left : Json} {picks : List Json} {c : Country} {bw : Bandwidth} {cfi : Int}

/-- A random test of one country and width that takes the difference to the
last picks. -/
def differenceCall (c : Country) (bw : Bandwidth) : TestCaseControl where
  unitUnderTest := some "AFCD"
  purpose := some "RSA"
  testVector := some 2
  phase := none
  respWaitTime := none
  holdResponse := none
  countryCode := some (.str c.code)
  channelWidth := some (.int bw.mhz)
  random := some (.bool true)
  onlyRandomPower := none
  differenceLastPicks := some (.bool true)

theorem differenceCall_call (c : Country) (bw : Bandwidth) : RandomCall (differenceCall c bw) :=
  ⟨⟨_, rfl⟩, ⟨_, rfl⟩, ⟨_, rfl⟩, rfl, rfl⟩

/-- The globals in that test, after a reset. -/
def inTest (file left : Json) (picks : List Json) (c : Country) (bw : Bandwidth) : Globals :=
  (configured ⟨cleared file picks left, []⟩ (differenceCall c bw)).g

/-- Another CFI of the width. -/
def partner (c : Country) (bw : Bandwidth) (cfi : Int) : Int :=
  ((c.param.cfis bw).find? (· ≠ cfi)).getD 0

/-- An inquiry of a CFI and its partner. -/
def inquirePair (c : Country) (bw : Bandwidth) (cfi : Int) : HttpRequest :=
  .ofJson (inquiryBody "one" [.obj [("rulesetId", .str c.rulesetId), ("id", .str "CID000")]]
    [("inquiredChannels", .arr [inquireChannels bw.opClass [cfi, partner c bw cfi]])])

/-- What makes the pair tell whether the CFI was left among the picks. -/
structure Telling (c : Country) (bw : Bandwidth) (cfi : Int) : Prop where
  passes : Passes (inTest .null (.str "US") [] c bw) (inquirePair c bw cfi) .lowest
  two : 2 ≤ (covered (inTest .null (.str "US") [] c bw) (inquirePair c bw cfi)).length
  pair : ∀ k ∈ (covered (inTest .null (.str "US") [] c bw) (inquirePair c bw cfi)).map Json.key?,
    k = some (.num cfi) ∨ k = some (.num (partner c bw cfi))
  asked : some (.num cfi) ∈
    (covered (inTest .null (.str "US") [] c bw) (inquirePair c bw cfi)).map Json.key?
  channel : ∃ ch ∈ subChannels bw cfi, ch ∉ subChannels bw (partner c bw cfi)

def tells (c : Country) (bw : Bandwidth) (cfi : Int) : Bool :=
  let g := inTest .null (.str "US") [] c bw
  let keys := (covered g (inquirePair c bw cfi)).map Json.key?
  (validate g (inquirePair c bw cfi) .lowest).2.isAccepted && decide (2 ≤ keys.length) &&
    (keys.all fun k => decide (k = some (.num cfi)) || decide (k = some (.num (partner c bw cfi)))) &&
    (keys.any fun k => decide (k = some (.num cfi))) &&
    ((subChannels bw cfi).any fun ch => !(subChannels bw (partner c bw cfi)).any (· == ch))

theorem tells_all : ∀ c ∈ countries, ∀ bw ∈ [Bandwidth.bw80, .bw160, .bw320],
    ∀ cfi ∈ c.param.cfis bw, tells c bw cfi = true := by
  decide +kernel

theorem telling_of_tells (h : tells c bw cfi = true) : Telling c bw cfi := by
  simp only [tells, Bool.and_eq_true, decide_eq_true_eq, List.length_map, List.all_eq_true,
    List.any_eq_true, Bool.or_eq_true, Bool.not_eq_true', List.any_eq_false, beq_iff_eq] at h
  obtain ⟨⟨⟨⟨hpass, htwo⟩, hpair⟩, k, hmem, rfl⟩, ch, hch, hother⟩ := h
  exact ⟨hpass, htwo, hpair, hmem, ch, hch, fun hin => hother ch hin rfl⟩

/-- Every CFI a pick can be has a test that tells. -/
theorem exists_telling {k : Option Key} (h : CountryCfi k) :
    ∃ c ∈ countries, ∃ bw cfi, k = some (.num (cfi : Int)) ∧ Telling c bw cfi := by
  obtain ⟨countryCode, p, channelWidth, hp, cfi, hcfi, rfl⟩ := h
  have hbw : inquiredBandwidth channelWidth ∈ [Bandwidth.bw80, .bw160, .bw320] := by
    unfold inquiredBandwidth
    split
    · simp
    · split <;> simp
  obtain ⟨c, hc, rfl⟩ : ∃ c ∈ countries, c.param = p := by
    rcases countryParam_cases hp with rfl | rfl
    · exact ⟨_, List.mem_cons_self, rfl⟩
    · exact ⟨_, List.mem_cons_of_mem _ List.mem_cons_self, rfl⟩
  exact ⟨c, hc, _, cfi, rfl, telling_of_tells (tells_all c hc _ hbw cfi hcfi)⟩

theorem unbuilt_inTest : Unbuilt (inTest file left picks c bw) :=
  unbuilt_configured (differenceCall_call c bw) _

/-- The picks of the test, as keys: the two CFIs but for those that were left. -/
theorem picks_inTest (file left : Json) (picks : List Json) (h : Telling c bw cfi)
    (k : Option Key) :
    k ∈ (pickCfis true picks (covered (inTest file left picks c bw) (inquirePair c bw cfi))
      .lowest).map Json.key? ↔
    k ∈ (covered (inTest .null (.str "US") [] c bw) (inquirePair c bw cfi)).map Json.key? ∧
      k ∉ picks.map Json.key? := by
  rw [← mem_cfiSet, show covered (inTest file left picks c bw) (inquirePair c bw cfi) =
    covered (inTest .null (.str "US") [] c bw) (inquirePair c bw cfi) from rfl,
    cfiSet_pickCfis_diff rfl h.two, Finset.mem_sdiff, mem_cfiSet, mem_cfiSet]

/-- The responses of a random vector tell the drawn channels. -/
theorem channels_of_document {scriptTestVector : Int} {p p' : CountryParam}
    {mask mask' : List (Int × MaskEntry)} (htv : scriptTestVector = 2 ∨ scriptTestVector = 3)
    (h : randomDocument (randomResponse scriptTestVector p mask) =
      randomDocument (randomResponse scriptTestVector p' mask')) :
    mask.map (·.1) = mask'.map (·.1) := by
  have hresp : randomResponse scriptTestVector p mask = randomResponse scriptTestVector p' mask' := by
    simpa only [randomDocument, Json.obj.injEq, List.cons.injEq, Prod.mk.injEq, Json.arr.injEq,
      true_and, and_true] using h
  have hinfo : (randomResponse scriptTestVector p mask).field "availableChannelInfo" =
      .ok (.arr (randomChanInfo p mask)) := (randomResponse_channels _).mpr ⟨htv, rfl⟩
  have hinfo' : (randomResponse scriptTestVector p' mask').field "availableChannelInfo" =
      .ok (.arr (randomChanInfo p' mask')) := (randomResponse_channels _).mpr ⟨htv, rfl⟩
  rw [hresp, hinfo', Except.ok.injEq, Json.arr.injEq] at hinfo
  -- the first item is that of the 20 MHz channels
  have hitem := (List.cons.inj hinfo).1
  have hpairs := congrArg itemPairs hitem
  rw [itemPairs_chanInfoItem, itemPairs_chanInfoItem, Except.ok.injEq] at hpairs
  have hints := congrArg (List.map Prod.fst) hpairs
  simp only [List.map_map] at hints
  have hinj : Function.Injective Json.int := fun _ _ => Json.int.inj
  have hkeys : ∀ m : List (Int × MaskEntry),
      (m.map fun e => Json.int e.1) = (m.map (·.1)).map Json.int := by
    intro m
    rw [List.map_map]
    rfl
  have hsame : (mask'.map fun e => Json.int e.1) = mask.map fun e => Json.int e.1 := hints
  rw [hkeys, hkeys] at hsame
  exact (List.map_injective_iff.mpr hinj hsame).symm

theorem called_inTest (files : TestFiles) :
    (call files ⟨cleared file picks left, []⟩ (.event (.setResponse (differenceCall c bw)))).1 =
      ⟨inTest file left picks c bw, []⟩ := rfl

/-- What the status shows after the inquiry of a telling test. -/
theorem vectors_after (files : TestFiles) :
    (call files ⟨inTest file left picks c bw, []⟩
      (.event (.inquiry (inquirePair c bw cfi) .lowest ""))).1.g.vectors =
    (validate (inTest file left picks c bw) (inquirePair c bw cfi) .lowest).1.vectors := by
  obtain ⟨sent, hframe⟩ := arrive_random_frame (s := ⟨inTest file left picks c bw, []⟩) files
    (inquirePair c bw cfi) .lowest "" rfl
  simp only [call, step]
  rw [hframe]

/-- The channels of the vector: those of the two CFIs but for the ones that
were left. -/
theorem channels_inTest (h : Telling c bw cfi)
    (hpass : Passes (inTest file left picks c bw) (inquirePair c bw cfi) .lowest) :
    ∃ p mask, (validate (inTest file left picks c bw) (inquirePair c bw cfi) .lowest).1.vectors.field
        "responses" = .ok (randomDocument (randomResponse 2 p mask)) ∧
      (some (.num cfi) ∉ picks.map Json.key? →
        ∀ ch ∈ subChannels bw cfi, ch ∈ mask.map (·.1)) ∧
      (some (.num cfi) ∈ picks.map Json.key? →
        ∀ ch ∈ mask.map (·.1), ch ∈ subChannels bw (partner c bw cfi)) := by
  obtain ⟨p, chans, -, hchans, hvectors⟩ := passes_builds unbuilt_inTest hpass
  have hwidth : (Json.int bw.mhz).key? = some (.num bw.mhz) := by simp [Json.key?]
  obtain ⟨hin, hout⟩ := @randomChanBw20_eq_ok _ _ bw _ rfl hwidth hchans
  have hpicks := picks_inTest file left picks h
  refine ⟨p, _, hvectors, ?_, ?_⟩
  · intro hnew ch hch
    rw [randomMask_keys.2]
    obtain ⟨pick, hpick, hkey⟩ := List.mem_map.mp ((hpicks _).mpr ⟨h.asked, hnew⟩)
    obtain ⟨cfi', hcfi', hall⟩ := hin pick hpick
    rw [hkey] at hcfi'
    rw [num_key_injective hcfi'] at hch
    exact hall ch hch
  · intro hleft ch hch
    rw [randomMask_keys.2] at hch
    obtain ⟨pick, hpick, cfi', hcfi', hsub⟩ := hout ch hch
    have hkey := (hpicks (some (.num cfi'))).mp (List.mem_map.mpr ⟨pick, hpick, hcfi'⟩)
    rcases h.pair _ hkey.1 with hsame | hother
    · exact absurd (hsame ▸ hleft) hkey.2
    · rw [← num_key_injective hother]
      exact hsub

/-- The status after a telling test tells whether its CFI was left. -/
theorem picks_of_isolates {files : TestFiles} {s : Sys} {json : Option Json}
    (hreach : Reachable (step files) Sys.init s) (hidle : s.flight = [])
    (h : (reset s.g json).2 = 200) (hsame : Isolates files s json) : s.g.randomPicks = [] := by
  by_contra hne
  obtain ⟨pick, hpick⟩ := List.exists_mem_of_ne_nil _ hne
  have hleft : pick.key? ∈ s.g.randomPicks.map Json.key? := List.mem_map_of_mem hpick
  obtain ⟨c, -, bw, cfi, hkey, htell⟩ := exists_telling (reachable_picksFromCountries hreach _ hleft)
  rw [hkey] at hleft
  obtain ⟨file, hold, hfresh⟩ := afterReset_eq hidle h
  have hreplies := hsame [.event (.setResponse (differenceCall c bw)),
    .event (.inquiry (inquirePair c bw cfi) .lowest ""), .getStatus] (by simp [Call.NoReset])
  rw [hold, hfresh] at hreplies
  simp only [replies, called_inTest, List.cons.injEq] at hreplies
  have hstatus := Option.some.inj hreplies.2.2.1
  have hvectors := (getStatus_vectors (Option.some.inj (Reply.mk.inj hstatus).2)).1
  rw [vectors_after, vectors_after] at hvectors
  have hpass : Passes (inTest file (.str "US") [] c bw) (inquirePair c bw cfi) .lowest := by
    have hnull := htell.passes
    unfold Passes at hnull ⊢
    rw [← hnull]
    exact congrArg Verdict.isAccepted
      (validate_inquiryFile (inTest .null (.str "US") [] c bw) file (inquirePair c bw cfi) .lowest)
  obtain ⟨p, mask, hfield, hall, -⟩ := channels_inTest htell hpass
  by_cases hpass' : Passes (inTest file s.g.countryCode s.g.randomPicks c bw) (inquirePair c bw cfi)
      .lowest
  · obtain ⟨p', mask', hfield', -, honly⟩ := channels_inTest htell hpass'
    rw [hvectors, hfield, Except.ok.injEq] at hfield'
    have hmask := channels_of_document (.inl rfl) hfield'
    obtain ⟨ch, hch, hnot⟩ := htell.channel
    have hin := hall List.not_mem_nil ch hch
    rw [hmask] at hin
    exact hnot (honly hleft ch hin)
  · -- nothing is built from the picks that were left
    rw [validate_refused_vectors (Bool.eq_false_iff.mpr hpass')] at hvectors
    rw [← hvectors] at hfield
    obtain ⟨kvs, hkvs, hnone⟩ := (@unbuilt_inTest file s.g.countryCode s.g.randomPicks c bw).vectors
    rw [hkvs, Json.field_obj_eq_ok, hnone] at hfield
    exact absurd hfield (by simp)

/-- **After a reset the replies are those of a fresh service exactly when the
country is the default one and there are no picks.** -/
theorem isolates_iff (files : TestFiles) {s : Sys} (hreach : Reachable (step files) Sys.init s)
    (hidle : s.flight = []) {json : Option Json} (h : (reset s.g json).2 = 200) :
    Isolates files s json ↔ NothingLeft s.g := by
  constructor
  · intro hsame
    exact ⟨country_of_isolates hidle h hsame, picks_of_isolates hreach hidle h hsame⟩
  · intro hnothing calls _
    obtain ⟨file, hold, hfresh⟩ := afterReset_eq hidle h
    rw [hold, hfresh, hnothing.country, hnothing.picks]

/-! ## A test in Canada -/

/-- The state after the tests of Canada have been configured. -/
def afterCanada : Sys :=
  final (step fun _ _ => .absent) Sys.init
    [.setResponse { differenceCall ⟨"CA", countryCA, "CA_RES_DBS-06"⟩ .bw80 with random := none }]

theorem isolates_iff_canada :
    Isolates (fun _ _ => .absent) afterCanada (some (.obj [])) ↔ NothingLeft afterCanada.g :=
  isolates_iff _ ⟨_, rfl⟩ rfl rfl

/-- The country stays Canada, and an inquiry for the United States is refused. -/
theorem canada_left :
    ¬ ∀ files s, Reachable (step files) Sys.init s → s.flight = [] →
      ∀ json, (reset s.g json).2 = 200 → Isolates files s json := by
  intro h
  have hsame := h (fun _ _ => .absent) afterCanada ⟨_, rfl⟩ rfl (some (.obj [])) rfl
  have hcountry := country_of_isolates (s := afterCanada) rfl rfl hsame
  exact absurd hcountry (by decide +kernel)

end AfcDut.Simulator.Theorems.ResetIsolation
