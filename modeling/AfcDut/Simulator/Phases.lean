import AfcDut.Simulator.RandomRuns
import AfcDut.Simulator.Reading
import AfcDut.Simulator.Flight

/-!
# Phases of a random test

A phase begins with a `/set-response` in random mode and is a run of inquiries
up to the next call. The first inquiry it accepts builds the random vector,
from the picks it finds; nothing after that changes the picks or the vector.
-/

namespace AfcDut.Simulator

open Py Service Lts

/-- A call that configures a random test of channels and powers. -/
structure RandomCall (tc : TestCaseControl) : Prop where
  unit : ∃ u, tc.unitUnderTest = some u
  purpose : ∃ p, tc.purpose = some p
  vector : ∃ n, tc.testVector = some n
  random : isSet tc.random = true
  power : (tc.onlyRandomPower.getD (.bool false)).truthy = false

/-- The state after a `/set-response`. -/
def configured (s : Sys) (tc : TestCaseControl) : Sys := ⟨(setResponse s.g tc).1, s.flight⟩

/-- The globals of a random test whose vector has not been built. -/
structure Unbuilt (g : Globals) : Prop where
  random : g.isRandom = true
  power : g.onlyRandomPower.truthy = false
  vectors : ∃ kvs, g.vectors = .obj kvs ∧ kvs.lookup "responses" = none

theorem unbuilt_configured {tc : TestCaseControl} (h : RandomCall tc) (s : Sys) :
    Unbuilt (configured s tc).g := by
  obtain ⟨⟨u, hu⟩, ⟨p, hp⟩, ⟨n, hn⟩, hrandom, hpower⟩ := h
  simp only [configured, setResponse, hu, hp, hn, hrandom, if_true]
  exact ⟨rfl, hpower, _, rfl, rfl⟩

theorem configured_picks (s : Sys) (tc : TestCaseControl) :
    (configured s tc).g.randomPicks = s.g.randomPicks := by
  simp only [configured, setResponse]
  split
  · split <;> rfl
  · rfl

theorem configured_difference {tc : TestCaseControl} (h : RandomCall tc) (s : Sys) :
    (configured s tc).g.differenceLastPicks = isSet tc.differenceLastPicks := by
  obtain ⟨⟨u, hu⟩, ⟨p, hp⟩, ⟨n, hn⟩, hrandom, -⟩ := h
  simp only [configured, setResponse, hu, hp, hn, hrandom, if_true]

/-- An event of a phase: no `/set-response` and no `/reset`. -/
def InPhase : Event → Prop
  | .setResponse _ => False
  | .reset _ => False
  | _ => True

/-- An inquiry that is accepted. -/
def AcceptedEvent (g : Globals) : Event → Prop
  | .inquiry r d _ => Passes g r d
  | _ => False

/-- The settings but for the hold, which `/set-params` may change. -/
def Globals.testSettings (g : Globals) : Settings := { g.settings with holdResponse := .null }

/-! ## What an inquiry covers -/

/-- The CFIs of the configured width from which the picks for a request are
made. -/
def coveredBy (g : Globals) (req : Json) : Except PyErr (List Json) := do
  let channels ← readInquiredChannels g req
  let ranges ← readInquiredRanges g req
  pure (Inquired.reqCfiBwX ⟨[], channels, ranges⟩)

/-- The same for a received inquiry; one that cannot be read covers none. -/
def covered (g : Globals) (r : HttpRequest) : List Json :=
  match (identify (recordedBody g r)).2 >>= coveredBy g with
  | .ok cfis => cfis
  | .error _ => []

/-- The CFIs to pick from come from one of the two computations. -/
theorem reqCfiBwX_cases {g : Globals} {req : Json} {channels : InquiredChannels}
    {ranges : InquiredRanges} (hchannels : readInquiredChannels g req = .ok channels)
    (hranges : readInquiredRanges g req = .ok ranges) (rulesetIds : List String) :
    Inquired.reqCfiBwX ⟨rulesetIds, channels, ranges⟩ = [] ∨
      (∃ items, getCfiByInquiredChannelsBw g.countryCode (inquiredBandwidth g.channelWidth) items =
        .ok (Inquired.reqCfiBwX ⟨rulesetIds, channels, ranges⟩)) ∨
      ∃ items, getCfiByInquiredFreqRangesBw g.countryCode (inquiredBandwidth g.channelWidth)
        items = .ok (Inquired.reqCfiBwX ⟨rulesetIds, channels, ranges⟩) := by
  obtain ⟨items, entries, -, -, -, -, hbyChan⟩ := readInquiredChannels_eq_ok hchannels
  obtain ⟨items', -, -, -, hnil, hbyFreq⟩ := readInquiredRanges_eq_ok hranges
  unfold Inquired.reqCfiBwX
  split
  · by_cases hitems : items' = []
    · exact .inl (hnil hitems)
    · exact .inr (.inr ⟨items', hbyFreq hitems⟩)
  · exact .inr (.inl ⟨items, hbyChan⟩)

/-- And are CFIs of the country. -/
theorem reqCfiBwX_country {g : Globals} {p : CountryParam} {version req : Json} {i : Inquired}
    (hp : countryParam g.countryCode = .ok p) (hread : readInquiry g version req = .ok i) :
    ∀ k ∈ i.reqCfiBwX.map Json.key?,
      ∃ cfi ∈ p.cfis (inquiredBandwidth g.channelWidth), k = some (.num cfi) := by
  simp only [readInquiry, bind_eq_ok, raising_eq_ok, pure_eq_ok, Except.ok.injEq] at hread
  obtain ⟨rulesetIds, -, channels, hchannels, ranges, hranges, rfl⟩ := hread
  rcases reqCfiBwX_cases hchannels hranges rulesetIds with hnil | ⟨items, h⟩ | ⟨items, h⟩
  · rw [hnil]
    intro k hk
    exact absurd hk List.not_mem_nil
  · exact getCfiByInquiredChannelsBw_country hp h
  · exact getCfiByInquiredFreqRangesBw_country hp h

/-- What is covered comes from one of the two computations. -/
theorem covered_cases (g : Globals) (r : HttpRequest) :
    covered g r = [] ∨
      (∃ items, getCfiByInquiredChannelsBw g.countryCode (inquiredBandwidth g.channelWidth) items =
        .ok (covered g r)) ∨
      ∃ items, getCfiByInquiredFreqRangesBw g.countryCode (inquiredBandwidth g.channelWidth)
        items = .ok (covered g r) := by
  unfold covered
  split
  · rename_i cfis hcovered
    simp only [bind_eq_ok, coveredBy, pure_eq_ok, Except.ok.injEq] at hcovered
    obtain ⟨req, -, channels, hchannels, ranges, hranges, rfl⟩ := hcovered
    exact reqCfiBwX_cases hchannels hranges []
  · exact .inl rfl

/-- What is covered has no CFI twice. -/
theorem nodup_covered (g : Globals) (r : HttpRequest) :
    ((covered g r).map Json.key?).Nodup := by
  rcases covered_cases g r with hnil | ⟨items, h⟩ | ⟨items, h⟩
  · rw [hnil]
    exact List.nodup_nil
  · exact nodup_getCfiByInquiredChannelsBw h
  · exact nodup_getCfiByInquiredFreqRangesBw h

/-- And only CFIs of the country. -/
theorem covered_country {g : Globals} {p : CountryParam} (hp : countryParam g.countryCode = .ok p)
    (r : HttpRequest) : ∀ k ∈ (covered g r).map Json.key?,
      ∃ cfi ∈ p.cfis (inquiredBandwidth g.channelWidth), k = some (.num cfi) := by
  rcases covered_cases g r with hnil | ⟨items, h⟩ | ⟨items, h⟩
  · rw [hnil]
    intro k hk
    exact absurd hk List.not_mem_nil
  · exact getCfiByInquiredChannelsBw_country hp h
  · exact getCfiByInquiredFreqRangesBw_country hp h

/-- The first accepted inquiry builds the vector from the picks it finds. -/
theorem validate_builds {g g₁ : Globals} {r : HttpRequest} {d : Draws} {inq : Inquiry}
    (hunbuilt : Unbuilt g) (h : validate g r d = (g₁, .accepted inq)) :
    ∃ g', buildRandomVector (received g r) (covered g r) d = (g', .ok ()) ∧
      g₁ = { g' with validRequest := true } := by
  obtain ⟨body, req, ids, i, g', hct, hjson, hids, hread, -, hbuild, hg, -⟩ := validate_accepted h
  refine ⟨g', ?_, hg⟩
  obtain ⟨kvs, hkvs, hnone⟩ := hunbuilt.vectors
  have hhas : (received g r).vectors.has "responses" = .ok false := by
    rw [show (received g r).vectors = .obj kvs from hkvs, Json.has_obj_iff, hnone]
    rfl
  rw [buildOnce, if_pos (show (received g r).isRandom = true from hunbuilt.random), hhas] at hbuild
  have hbody : recordedBody g r = body := by
    rw [recordedBody, if_pos hct, hjson, Option.getD_some]
  simp only [readInquiry, bind_eq_ok, raising_eq_ok, pure_eq_ok, Except.ok.injEq] at hread
  obtain ⟨rulesetIds, -, channels, hchannels, ranges, hranges, rfl⟩ := hread
  have hcovered : covered g r = Inquired.reqCfiBwX ⟨rulesetIds, channels, ranges⟩ := by
    simp only [covered, hbody, hids, ok_bind, coveredBy,
      show readInquiredChannels g req = .ok channels from hchannels,
      show readInquiredRanges g req = .ok ranges from hranges]
    rfl
  rw [hcovered]
  exact hbuild

/-- It keeps these picks, and its responses are made from the mask drawn for
them. -/
theorem validate_built {g : Globals} {r : HttpRequest} {d : Draws} {inq : Inquiry}
    (hunbuilt : Unbuilt g) (h : (validate g r d).2 = .accepted inq) :
    (validate g r d).1.randomPicks = nextPicks (received g r) (covered g r) d ∧
    ∃ p chans, countryParam g.countryCode = .ok p ∧
      randomChanBw20 { received g r with
        randomPicks := nextPicks (received g r) (covered g r) d } p = .ok chans ∧
      (validate g r d).1.vectors.field "responses" = .ok (randomDocument (randomResponse
        g.scriptTestVector p
        (randomMask (drawPsd p g.channelWidth g.differenceLastPicks d) chans))) := by
  obtain ⟨g', hbuild, hbuilt⟩ := validate_builds hunbuilt (Prod.ext rfl h)
  obtain ⟨p, chans, kvs, hp, hchans, -, rfl⟩ := buildRandomVector_eq_ok hbuild
  have hafter : (validate g r d).1 = _ := hbuilt
  rw [hafter]
  refine ⟨rfl, p, chans, hp, hchans, ?_⟩
  exact Json.field_obj_eq_ok.mpr (by rw [Json.lookup_assign, if_pos rfl]; rfl)

/-! ## Before the first acceptance -/

/-- In a phase only an inquiry writes more than `sent_response` and
`hold_response`. -/
theorem inPhase_step {files : TestFiles} {s t : Sys} {e : Event} {o : Output}
    (h : step files s e = some (t, o)) (hphase : InPhase e) :
    (∃ r d now, e = .inquiry r d now ∧ arrive files s r d now = (t, o)) ∨
      ∃ sent hold, t.g = { s.g with sentResponse := sent, holdResponse := hold } := by
  cases e with
  | inquiry r d now =>
      rw [step, Option.some.injEq] at h
      exact .inl ⟨r, d, now, rfl, h⟩
  | wake i now =>
      simp only [step, Option.map_eq_some_iff] at h
      obtain ⟨p, -, hw⟩ := h
      obtain ⟨sent, hframe⟩ := wake_frame s p (s.flight.eraseIdx i) now
      rw [hw] at hframe
      exact .inr ⟨sent, s.g.holdResponse, hframe⟩
  | setParams hold =>
      simp only [step, Option.some.injEq, Prod.mk.injEq] at h
      rw [← h.1]
      exact .inr ⟨s.g.sentResponse, _, rfl⟩
  | setResponse tc => exact absurd hphase id
  | reset json => exact absurd hphase id

/-- What an event of a phase leaves alone as long as it accepts nothing. -/
theorem unbuilt_step {files : TestFiles} {m : Move Sys Event Output} (hm : m.Of (step files))
    (hphase : InPhase m.event) (hrefused : ¬ AcceptedEvent m.before.g m.event)
    (h : Unbuilt m.before.g) :
    Unbuilt m.after.g ∧ m.after.g.testSettings = m.before.g.testSettings := by
  obtain ⟨s, e, o, t⟩ := m
  change Unbuilt s.g at h
  show Unbuilt t.g ∧ t.g.testSettings = s.g.testSettings
  rcases inPhase_step hm hphase with ⟨r, d, now, rfl, harrive⟩ | ⟨sent, hold, hg⟩
  · obtain ⟨sent, hframe⟩ := arrive_random_frame files r d now h.random
    rw [harrive] at hframe
    change t.g = _ at hframe
    have hno : (validate s.g r d).2.isAccepted = false := Bool.eq_false_iff.mpr hrefused
    have hsettings : t.g.settings = s.g.settings := by
      rw [hframe]
      exact validate_settings s.g r d
    have hvectors : t.g.vectors = s.g.vectors := by
      rw [hframe]
      exact validate_refused_vectors hno
    refine ⟨⟨?_, ?_, hvectors ▸ h.vectors⟩, by rw [Globals.testSettings, hsettings]; rfl⟩
    · exact (congrArg Settings.isRandom hsettings).trans h.random
    · rw [show t.g.onlyRandomPower = s.g.onlyRandomPower from
        congrArg Settings.onlyRandomPower hsettings]
      exact h.power
  · rw [hg]
    exact ⟨⟨h.random, h.power, h.vectors⟩, rfl⟩

/-- Only an inquiry that crashes may change the picks. -/
theorem unbuilt_picks {files : TestFiles} {m : Move Sys Event Output} (hm : m.Of (step files))
    (hphase : InPhase m.event) (hrefused : ¬ AcceptedEvent m.before.g m.event)
    (hcrash : m.output ≠ .serverError) (h : Unbuilt m.before.g) :
    m.after.g.randomPicks = m.before.g.randomPicks := by
  obtain ⟨s, e, o, t⟩ := m
  change o ≠ .serverError at hcrash
  show t.g.randomPicks = s.g.randomPicks
  rcases inPhase_step hm hphase with ⟨r, d, now, rfl, harrive⟩ | ⟨sent, hold, hg⟩
  · obtain ⟨sent, hframe⟩ := arrive_random_frame files r d now h.random
    rw [harrive] at hframe
    change t.g = _ at hframe
    rw [hframe]
    show (validate s.g r d).1.randomPicks = s.g.randomPicks
    cases hverdict : (validate s.g r d).2 with
    | refused status body => exact (validate_refused hverdict).1
    | crashed =>
        have hval : validate s.g r d = ((validate s.g r d).1, .crashed) := Prod.ext rfl hverdict
        rw [arrive, hval] at harrive
        exact absurd (Prod.mk.inj harrive).2.symm hcrash
    | accepted inq =>
        exact absurd (show (validate s.g r d).2.isAccepted = true by rw [hverdict]; rfl) hrefused
  · rw [hg]

/-! ## After it -/

/-- With its vector built, a random test keeps picks, vector and settings. -/
theorem built_step {files : TestFiles} {m : Move Sys Event Output} (hm : m.Of (step files))
    (hphase : InPhase m.event) (hrandom : m.before.g.isRandom = true)
    (hbuilt : m.before.g.vectors.has "responses" = .ok true) :
    m.after.g.randomPicks = m.before.g.randomPicks ∧ m.after.g.vectors = m.before.g.vectors ∧
      m.after.g.testSettings = m.before.g.testSettings := by
  obtain ⟨s, e, o, t⟩ := m
  show t.g.randomPicks = s.g.randomPicks ∧ t.g.vectors = s.g.vectors ∧
    t.g.testSettings = s.g.testSettings
  rcases inPhase_step hm hphase with ⟨r, d, now, rfl, harrive⟩ | ⟨sent, hold, hg⟩
  · obtain ⟨sent, hframe⟩ := arrive_random_frame files r d now hrandom
    rw [harrive] at hframe
    change t.g = _ at hframe
    obtain ⟨hpicks, hvectors⟩ := @validate_keeps s.g r d fun cfis => by
      rw [buildOnce, if_pos (show (received s.g r).isRandom = true from hrandom),
        show (received s.g r).vectors.has "responses" = .ok true from hbuilt]
    rw [hframe]
    refine ⟨hpicks, hvectors, ?_⟩
    show (validate s.g r d).1.testSettings = s.g.testSettings
    rw [Globals.testSettings, validate_settings]
    rfl
  · rw [hg]
    exact ⟨rfl, rfl, rfl⟩

/-! ## A phase -/

/-- A phase from the state `s`: refused inquiries, the first accepted one, and
whatever arrives after it. -/
structure Phase (files : TestFiles) (s : Sys) where
  pre : List Event
  r : HttpRequest
  d : Draws
  now : String
  post : List Event
  inPhase : ∀ e ∈ pre ++ post, InPhase e
  refused : ∀ m ∈ moves (step files) s pre, ¬ AcceptedEvent m.before.g m.event
  accepted : Passes (final (step files) s pre).g r d

variable {files : TestFiles} {s : Sys}

/-- The state in which the first accepted inquiry arrives. -/
def Phase.arrival (ph : Phase files s) : Sys := final (step files) s ph.pre

/-- The state at the end of the phase. -/
def Phase.finish (ph : Phase files s) : Sys :=
  final (step files) s (ph.pre ++ .inquiry ph.r ph.d ph.now :: ph.post)

/-- What the first accepted inquiry covers. -/
def Phase.covered (ph : Phase files s) : List Json := Simulator.covered ph.arrival.g ph.r

theorem Phase.unbuilt_arrival (ph : Phase files s) (h : Unbuilt s.g) :
    Unbuilt ph.arrival.g ∧ ph.arrival.g.testSettings = s.g.testSettings := by
  refine @final_invariant Sys Event Output (step files)
    (fun t => Unbuilt t.g ∧ t.g.testSettings = s.g.testSettings)
    (fun m => InPhase m.event ∧ ¬ AcceptedEvent m.before.g m.event) ?_ s ph.pre ⟨h, rfl⟩ ?_
  · rintro m hm ⟨hphase, hrefused⟩ ⟨hunbuilt, hsettings⟩
    obtain ⟨hafter, hsame⟩ := unbuilt_step hm hphase hrefused hunbuilt
    exact ⟨hafter, hsame.trans hsettings⟩
  · intro m hm
    refine ⟨ph.inPhase _ ?_, ph.refused m hm⟩
    exact List.mem_append_left _ (event_mem_of_moves m hm)

/-- The first accepted inquiry finds the picks that the phase began with,
unless one before it crashed. -/
theorem Phase.arrival_picks (ph : Phase files s) (h : Unbuilt s.g)
    (hcrash : ∀ m ∈ moves (step files) s ph.pre, m.output ≠ .serverError) :
    ph.arrival.g.randomPicks = s.g.randomPicks := by
  refine (@final_invariant Sys Event Output (step files)
    (fun t => Unbuilt t.g ∧ t.g.randomPicks = s.g.randomPicks)
    (fun m => InPhase m.event ∧ ¬ AcceptedEvent m.before.g m.event ∧
      m.output ≠ .serverError) ?_ s ph.pre ⟨h, rfl⟩ ?_).2
  · rintro m hm ⟨hphase, hrefused, hno⟩ ⟨hunbuilt, hpicks⟩
    refine ⟨(unbuilt_step hm hphase hrefused hunbuilt).1, ?_⟩
    exact (unbuilt_picks hm hphase hrefused hno hunbuilt).trans hpicks
  · intro m hm
    refine ⟨ph.inPhase _ ?_, ph.refused m hm, hcrash m hm⟩
    exact List.mem_append_left _ (event_mem_of_moves m hm)

/-- The state once that inquiry has run up to its first suspension point. -/
def Phase.built (ph : Phase files s) : Sys := (arrive files ph.arrival ph.r ph.d ph.now).1

theorem Phase.accepts (ph : Phase files s) :
    ∃ inq, (validate ph.arrival.g ph.r ph.d).2 = .accepted inq := by
  have hpass : (validate ph.arrival.g ph.r ph.d).2.isAccepted = true := ph.accepted
  cases hverdict : (validate ph.arrival.g ph.r ph.d).2 with
  | accepted inq => exact ⟨inq, rfl⟩
  | _ =>
      rw [hverdict] at hpass
      exact absurd hpass (by simp [Verdict.isAccepted])

/-- There the picks are made and the vector is built. -/
theorem Phase.built_spec (ph : Phase files s) (h : Unbuilt s.g) :
    ph.built.g.isRandom = true ∧ ph.built.g.vectors.has "responses" = .ok true ∧
      ph.built.g.vectors = (validate ph.arrival.g ph.r ph.d).1.vectors ∧
      ph.built.g.randomPicks = pickCfis ph.arrival.g.differenceLastPicks ph.arrival.g.randomPicks
        ph.covered ph.d := by
  obtain ⟨hunbuilt, -⟩ := ph.unbuilt_arrival h
  obtain ⟨inq, hval⟩ := ph.accepts
  have hpair : validate ph.arrival.g ph.r ph.d =
      ((validate ph.arrival.g ph.r ph.d).1, .accepted inq) := Prod.ext rfl hval
  obtain ⟨g', hbuild, hg⟩ := validate_builds hunbuilt hpair
  obtain ⟨p, chans, kvs, -, -, -, rfl⟩ := buildRandomVector_eq_ok hbuild
  obtain ⟨sent, hframe⟩ := arrive_random_frame files ph.r ph.d ph.now hunbuilt.random
  have hbuilt : ph.built.g = { (validate ph.arrival.g ph.r ph.d).1 with sentResponse := sent } :=
    hframe
  have hpicks : nextPicks (received ph.arrival.g ph.r) ph.covered ph.d =
      pickCfis ph.arrival.g.differenceLastPicks ph.arrival.g.randomPicks ph.covered ph.d := by
    have hpower : (received ph.arrival.g ph.r).onlyRandomPower.truthy = false := hunbuilt.power
    rw [nextPicks, if_neg (by rw [hpower]; exact Bool.false_ne_true)]
    rfl
  rw [hg] at hbuilt ⊢
  rw [hbuilt]
  refine ⟨hunbuilt.random, ?_, rfl, hpicks⟩
  rw [Json.has_obj_iff, Json.lookup_assign, if_pos rfl]
  rfl

/-- What the rest of the phase keeps of the state `t`. -/
def Kept (t u : Sys) : Prop :=
  u.g.randomPicks = t.g.randomPicks ∧ u.g.vectors = t.g.vectors ∧
    u.g.testSettings = t.g.testSettings

theorem kept_step {t : Sys} (hrandom : t.g.isRandom = true)
    (hbuilt : t.g.vectors.has "responses" = .ok true) :
    ∀ m : Move Sys Event Output, m.Of (step files) → InPhase m.event → Kept t m.before →
      Kept t m.after := by
  rintro m hm hphase ⟨hpicks, hvectors, hsettings⟩
  have hmode : m.before.g.isRandom = true := (congrArg Settings.isRandom hsettings).trans hrandom
  obtain ⟨hpicks', hvectors', hsettings'⟩ := built_step hm hphase hmode (hvectors ▸ hbuilt)
  exact ⟨hpicks'.trans hpicks, hvectors'.trans hvectors, hsettings'.trans hsettings⟩

theorem Phase.post_inPhase (ph : Phase files s) :
    ∀ m ∈ moves (step files) ph.built ph.post, InPhase m.event :=
  fun m hm => ph.inPhase _ (List.mem_append_right _ (event_mem_of_moves m hm))

/-- **The picks of a phase.** They are made by the first accepted inquiry, from
the CFIs it covers and the picks it finds. -/
theorem Phase.finish_picks (ph : Phase files s) (h : Unbuilt s.g) :
    ph.finish.g.randomPicks = pickCfis ph.arrival.g.differenceLastPicks ph.arrival.g.randomPicks
      ph.covered ph.d := by
  obtain ⟨hrandom, hbuilt, -, hpicks⟩ := ph.built_spec h
  have hfinish : ph.finish = final (step files) ph.built ph.post := by
    rw [Phase.finish, final_append]
    rfl
  have hkept : Kept ph.built ph.finish := by
    rw [hfinish]
    exact final_invariant (kept_step hrandom hbuilt) ⟨rfl, rfl, rfl⟩ ph.post_inPhase
  rw [hkept.1, hpicks]

/-- **The answers of a phase.** From the first accepted inquiry on, every answer
that is sent is made from the vector that was built for it. -/
theorem Phase.answers (ph : Phase files s) (h : Unbuilt s.g) :
    ∀ m ∈ moves (step files) ph.arrival (.inquiry ph.r ph.d ph.now :: ph.post), ∀ p a,
      m.output = .answered p a →
      a = (respond (validate ph.arrival.g ph.r ph.d).1 p.inq (eventTime m.event)).2 := by
  obtain ⟨hrandom, hbuilt, hvectors, -⟩ := ph.built_spec h
  have hkept := moves_invariant (kept_step hrandom hbuilt) ⟨rfl, rfl, rfl⟩ ph.post_inPhase
  have hanswer : ∀ {t u : Sys} {e : Event} {p : Pending} {a : Answer},
      step files t e = some (u, .answered p a) → u.g.vectors = ph.built.g.vectors →
      a = (respond (validate ph.arrival.g ph.r ph.d).1 p.inq (eventTime e)).2 := by
    intro t u e p a hstep hu
    rw [step_answered hstep]
    exact respond_congr (hu.trans hvectors) p.inq (eventTime e)
  intro m hm p a hout
  rcases List.mem_cons.mp hm with rfl | hm
  · -- the accepted inquiry itself, if nothing suspends it
    have hstep : step files ph.arrival (.inquiry ph.r ph.d ph.now) =
        some (ph.built, .answered p a) := by
      rw [step, ← hout]
      rfl
    exact hanswer hstep rfl
  · obtain ⟨hstep, -, hafter⟩ := hkept m hm
    have hstep' : step files m.before m.event = some (m.after, .answered p a) := by
      rw [← hout]
      exact hstep
    exact hanswer hstep' hafter.2.1

/-! ## Tests of one inquiry a phase -/

/-- The random test of 80 MHz channels that the test scripts configure. -/
def randomCall (phase : Option Int) (difference : Bool) : TestCaseControl where
  unitUnderTest := some "AFCD"
  purpose := some "SAU"
  testVector := some 2
  phase := phase
  respWaitTime := none
  holdResponse := none
  countryCode := some (.str "US")
  channelWidth := some (.int 80)
  random := some (.bool true)
  onlyRandomPower := none
  differenceLastPicks := some (.bool difference)

theorem randomCall_call (phase : Option Int) (difference : Bool) : RandomCall (randomCall phase difference) :=
  ⟨⟨_, rfl⟩, ⟨_, rfl⟩, ⟨_, rfl⟩, rfl, rfl⟩

theorem randomCall_difference (phase : Option Int) :
    isSet (randomCall phase true).differenceLastPicks = true := rfl

/-- A phase of one accepted inquiry. -/
def onePhase {r : HttpRequest} (h : Passes s.g r .lowest) :
    Phase files s where
  pre := []
  r := r
  d := .lowest
  now := "now"
  post := []
  inPhase := by simp
  refused := by simp [moves]
  accepted := h

end AfcDut.Simulator
