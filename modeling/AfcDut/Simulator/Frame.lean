import AfcDut.Simulator.System
import AfcDut.Service.Spec

/-!
# What the handlers leave alone

The validation in cases, and for each part of the inquiry handler the globals
it writes. Every invariant of a run is derived from these lemmas; none of the
later proofs unfolds a handler.
-/

namespace AfcDut.Simulator

open Py Service

/-- The globals only the test scripts' calls write. -/
structure Settings where
  respWaitTime : Int
  phase : Option Int
  filenamePrefix : String
  holdResponse : Json
  scriptTestVector : Int
  inquiryFile : Json
  isRandom : Bool
  differenceLastPicks : Bool
  onlyRandomPower : Json
  countryCode : Json
  channelWidth : Json

def Globals.settings (g : Globals) : Settings where
  respWaitTime := g.respWaitTime
  phase := g.phase
  filenamePrefix := g.filenamePrefix
  holdResponse := g.holdResponse
  scriptTestVector := g.scriptTestVector
  inquiryFile := g.inquiryFile
  isRandom := g.isRandom
  differenceLastPicks := g.differenceLastPicks
  onlyRandomPower := g.onlyRandomPower
  countryCode := g.countryCode
  channelWidth := g.channelWidth

/-- The body `recv_request` holds once a request has been received. -/
def recordedBody (g : Globals) (r : HttpRequest) : Json :=
  if r.contentType = some "application/json" then r.json.getD g.recvBody else .obj []

/-- The globals once a request has been received. -/
def received (g : Globals) (r : HttpRequest) : Globals :=
  { g with recvHeaders := .obj r.headers, recvBody := recordedBody g r }

/-- The locals of an accepted inquiry. -/
def Inquired.toInquiry (i : Inquired) (ids : ReplyIds) : Inquiry where
  reqId := ids.reqId
  version := ids.version
  rulesetIds := i.rulesetIds
  operClassDict := i.channels.operClassDict
  freqRangeList := i.ranges.freqRangeList
  hasChannel := i.channels.hasChannel
  hasFreqRange := i.ranges.hasFreqRange

/-- How the validation of `r` may end, from the globals `g` that have recorded
it. -/
inductive Validation (g : Globals) (r : HttpRequest) (d : Draws) : Globals × Verdict → Prop
  | refused (ids : ReplyIds) (a : Abort) :
      (∀ body req ids', r.json = some body → identify body = (ids', .ok req) → ids = ids') →
      Validation g r d (refuse g ids a)
  | unsupported (status : Nat) (body : Json) : r.contentType ≠ some "application/json" →
      Validation g r d (g, .refused status body)
  | crashed {body req : Json} {ids : ReplyIds} (i : Inquired) {e : PyErr} :
      r.json = some body → identify body = (ids, .ok req) →
      readInquiry g ids.version req = .ok i → (buildOnce g i.reqCfiBwX d).2 = .error e →
      Validation g r d ((buildOnce g i.reqCfiBwX d).1, .crashed)
  | accepted {body req : Json} {ids : ReplyIds} {i : Inquired} :
      r.contentType = some "application/json" → r.json = some body →
      identify body = (ids, .ok req) → readInquiry g ids.version req = .ok i →
      checkTestVector g i = .ok () → (buildOnce g i.reqCfiBwX d).2 = .ok () →
      Validation g r d
        ({ (buildOnce g i.reqCfiBwX d).1 with validRequest := true }, .accepted (i.toInquiry ids))

theorem validateRequest_cases {g : Globals} {r : HttpRequest} {d : Draws} {body req : Json}
    {ids : ReplyIds} (hct : r.contentType = some "application/json") (hjson : r.json = some body)
    (hids : identify body = (ids, .ok req)) :
    Validation g r d (validateRequest g ids req d) := by
  have hsame : ∀ body' req' ids', r.json = some body' → identify body' = (ids', .ok req') →
      ids = ids' := by
    intro body' req' ids' hjson' hids'
    rw [hjson, Option.some.injEq] at hjson'
    subst hjson'
    rw [hids] at hids'
    exact (Prod.mk.inj hids').1
  unfold validateRequest
  cases hread : readInquiry g ids.version req with
  | error a => exact .refused ids a.handled hsame
  | ok i =>
      cases hcheck : checkTestVector g i with
      | error a =>
          simp only [hcheck]
          exact .refused ids a hsame
      | ok u =>
          simp only [hcheck]
          cases hbuild : (buildOnce g i.reqCfiBwX d).2 with
          | error e =>
              have hpair : buildOnce g i.reqCfiBwX d = ((buildOnce g i.reqCfiBwX d).1, .error e) :=
                Prod.ext rfl hbuild
              rw [hpair]
              exact .crashed i hjson hids hread hbuild
          | ok u =>
              have hpair : buildOnce g i.reqCfiBwX d = ((buildOnce g i.reqCfiBwX d).1, .ok u) :=
                Prod.ext rfl hbuild
              rw [hpair]
              exact .accepted hct hjson hids hread hcheck hbuild

/-- The validation in cases. -/
theorem validate_cases (g : Globals) (r : HttpRequest) (d : Draws) :
    Validation (received g r) r d (validate g r d) := by
  unfold validate received recordedBody
  by_cases hct : r.contentType = some "application/json"
  · cases hjson : r.json with
    | none =>
        simp only [hct, if_true]
        exact .refused _ _ fun body _ _ hbody => absurd (hjson.symm.trans hbody) (by simp)
    | some body =>
        simp only [hct, if_true, Option.getD_some]
        rcases hids : identify body with ⟨ids, e | req⟩
        · refine .refused ids _ fun body' _ _ hbody hok => ?_
          rw [hjson, Option.some.injEq] at hbody
          subst hbody
          rw [hids] at hok
          exact absurd (Prod.mk.inj hok).2 (by simp)
        · exact validateRequest_cases hct hjson hids
  · simp only [if_neg hct]
    exact .unsupported _ _ hct

/-- What an accepted inquiry has passed. -/
theorem validate_accepted {g g₁ : Globals} {r : HttpRequest} {d : Draws} {inq : Inquiry}
    (h : validate g r d = (g₁, .accepted inq)) :
    ∃ body req ids i g', r.contentType = some "application/json" ∧ r.json = some body ∧
      identify body = (ids, .ok req) ∧
      readInquiry (received g r) ids.version req = .ok i ∧
      checkTestVector (received g r) i = .ok () ∧
      buildOnce (received g r) i.reqCfiBwX d = (g', .ok ()) ∧
      g₁ = { g' with validRequest := true } ∧ inq = i.toInquiry ids := by
  have hcases := validate_cases g r d
  rw [h] at hcases
  generalize hv : (g₁, Verdict.accepted inq) = v at hcases
  cases hcases with
  | refused ids a => cases a <;> simp [refuse] at hv
  | unsupported status body => simp at hv
  | crashed i => simp at hv
  | @accepted body req ids i hct hjson hids hread hcheck hbuild =>
      rw [Prod.mk.injEq, Verdict.accepted.injEq] at hv
      exact ⟨body, req, ids, i, _, hct, hjson, hids, hread, hcheck, Prod.ext rfl hbuild, hv.1, hv.2⟩

/-! ## Frames -/

/-- `gen_err_resp` writes only `sent_response`. -/
theorem refuse_frame (g : Globals) (ids : ReplyIds) (a : Abort) :
    ∃ sent, (refuse g ids a).1 = { g with sentResponse := sent } := by
  cases a with
  | reply respCode shortDesc suppInfo => exact ⟨_, rfl⟩
  | raised e => exact ⟨g.sentResponse, rfl⟩

@[simp] theorem refuse_isAccepted (g : Globals) (ids : ReplyIds) (a : Abort) :
    (refuse g ids a).2.isAccepted = false := by
  cases a <;> rfl

/-- `build_random_vector` writes only the picks and the vector. -/
theorem buildRandomVector_frame (g : Globals) (reqCfiBwX : List Json) (d : Draws) :
    ∃ picks vectors, (buildRandomVector g reqCfiBwX d).1 =
      { g with randomPicks := picks, vectors := vectors } := by
  unfold buildRandomVector
  cases countryParam g.countryCode with
  | error e => exact ⟨g.randomPicks, g.vectors, rfl⟩
  | ok p =>
      cases honly : g.onlyRandomPower.truthy with
      | true =>
          simp only [if_true]
          cases randomChanBw20 g p with
          | error e => exact ⟨g.randomPicks, g.vectors, rfl⟩
          | ok chans =>
              simp only
              split
              · exact ⟨g.randomPicks, g.vectors, rfl⟩
              · exact ⟨g.randomPicks, _, rfl⟩
      | false =>
          simp only [Bool.false_eq_true, if_false]
          split
          · exact ⟨_, g.vectors, rfl⟩
          · split
            · exact ⟨_, g.vectors, rfl⟩
            · exact ⟨_, _, rfl⟩

theorem buildOnce_frame (g : Globals) (reqCfiBwX : List Json) (d : Draws) :
    ∃ picks vectors, (buildOnce g reqCfiBwX d).1 =
      { g with randomPicks := picks, vectors := vectors } := by
  unfold buildOnce
  split
  · split
    · exact ⟨g.randomPicks, g.vectors, rfl⟩
    · exact ⟨g.randomPicks, g.vectors, rfl⟩
    · exact buildRandomVector_frame g reqCfiBwX d
  · exact ⟨g.randomPicks, g.vectors, rfl⟩

/-- Loading a vector writes the vector, or the reply that it is missing. -/
theorem loadVector_frame (files : TestFiles) (g : Globals) (inq : Inquiry) :
    ∃ vectors sent, (loadVector files g inq).1 =
      { g with vectors := vectors, sentResponse := sent } := by
  unfold loadVector
  split
  · exact ⟨g.vectors, g.sentResponse, rfl⟩
  · split
    · exact ⟨g.vectors, g.sentResponse, rfl⟩
    · split
      · exact ⟨g.vectors, g.sentResponse, rfl⟩
      · exact ⟨g.vectors, _, rfl⟩
      · exact ⟨g.vectors, g.sentResponse, rfl⟩
      · exact ⟨_, g.sentResponse, rfl⟩

theorem respond_frame (g : Globals) (inq : Inquiry) (now : String) :
    ∃ sent, (respond g inq now).1 = { g with sentResponse := sent } := by
  unfold respond
  dsimp only
  split
  · split
    · exact ⟨_, rfl⟩
    · exact ⟨_, rfl⟩
  · exact ⟨_, rfl⟩

/-- An inquiry is answered with success exactly when the vector in force can be
turned into a response. -/
theorem respond_success_iff {g : Globals} {inq : Inquiry} {now : String} {sent : Json} :
    (respond g inq now).2 = .success sent ↔ successResponse g.vectors inq now = .ok sent := by
  unfold respond
  cases hresp : successResponse g.vectors inq now with
  | error e =>
      cases g.vectors.truthy <;> simp
  | ok sent' =>
      have htruthy := truthy_of_successResponse hresp
      simp [htruthy]

theorem proceed_frame (s : Sys) (p : Pending) (others : List Pending) (now : String) :
    ∃ sent, (proceed s p others now).1.g = { s.g with sentResponse := sent } := by
  unfold proceed
  split
  · split
    · exact ⟨s.g.sentResponse, rfl⟩
    · exact ⟨s.g.sentResponse, rfl⟩
  · exact respond_frame s.g p.inq now

/-- The second half of a handler writes only `sent_response`. -/
theorem wake_frame (s : Sys) (p : Pending) (others : List Pending) (now : String) :
    ∃ sent, (wake s p others now).1.g = { s.g with sentResponse := sent } := by
  unfold wake
  split
  · split
    · exact ⟨s.g.sentResponse, rfl⟩
    · exact proceed_frame s p others now
  · exact respond_frame s.g p.inq now

/-- The pending inquiry an arrival creates. -/
def pendingOf (files : TestFiles) (g₁ g₂ : Globals) (inq : Inquiry) : Pending :=
  ⟨inq, .holding, g₂.recvBody, selectedVector files g₁ inq⟩

/-- How an arrival may end: at the validation, at the vector file, or past
both, held or proceeding. -/
inductive Arrival (files : TestFiles) (s : Sys) (r : HttpRequest) (d : Draws) (now : String) :
    Sys × Output → Prop
  | refused {g₁ : Globals} {status : Nat} {body : Json} :
      validate s.g r d = (g₁, .refused status body) →
      Arrival files s r d now (⟨g₁, s.flight⟩, .refused status body)
  | crashed {g₁ : Globals} :
      validate s.g r d = (g₁, .crashed) →
      Arrival files s r d now (⟨g₁, s.flight⟩, .serverError)
  | notFound {g₁ g₂ : Globals} {inq : Inquiry} {body : Json} :
      validate s.g r d = (g₁, .accepted inq) → loadVector files g₁ inq = (g₂, .notFound body) →
      Arrival files s r d now (⟨g₂, s.flight⟩, .notFound body)
  | unreadable {g₁ g₂ : Globals} {inq : Inquiry} :
      validate s.g r d = (g₁, .accepted inq) → loadVector files g₁ inq = (g₂, .crashed) →
      Arrival files s r d now (⟨g₂, s.flight⟩, .serverError)
  | held {g₁ g₂ : Globals} {inq : Inquiry} :
      validate s.g r d = (g₁, .accepted inq) → loadVector files g₁ inq = (g₂, .ready) →
      g₂.holdResponse.truthy = true →
      Arrival files s r d now (⟨g₂, s.flight ++ [pendingOf files g₁ g₂ inq]⟩, .silent)
  | proceeds {g₁ g₂ : Globals} {inq : Inquiry} :
      validate s.g r d = (g₁, .accepted inq) → loadVector files g₁ inq = (g₂, .ready) →
      g₂.holdResponse.truthy = false →
      Arrival files s r d now
        (proceed ⟨g₂, s.flight⟩ (pendingOf files g₁ g₂ inq) s.flight now)

theorem arrive_cases (files : TestFiles) (s : Sys) (r : HttpRequest) (d : Draws) (now : String) :
    Arrival files s r d now (arrive files s r d now) := by
  unfold arrive
  cases hval : validate s.g r d with
  | mk g₁ v =>
      cases v with
      | refused status body => exact .refused hval
      | crashed => exact .crashed hval
      | accepted inq =>
          cases hload : loadVector files g₁ inq with
          | mk g₂ l =>
              cases l with
              | notFound body => simpa only [hload] using .notFound hval hload
              | crashed => simpa only [hload] using .unreadable hval hload
              | ready =>
                  cases hhold : g₂.holdResponse.truthy with
                  | true => simpa only [hload, hhold, if_true] using .held hval hload hhold
                  | false =>
                      simpa only [hload, hhold, Bool.false_eq_true, if_false] using
                        .proceeds hval hload hhold

/-- After its validation an arriving inquiry writes only the vector and
`sent_response`. -/
theorem arrive_frame (files : TestFiles) (s : Sys) (r : HttpRequest) (d : Draws) (now : String) :
    ∃ vectors sent, (arrive files s r d now).1.g =
      { (validate s.g r d).1 with vectors := vectors, sentResponse := sent } := by
  have hload : ∀ {g₁ g₂ : Globals} {inq : Inquiry} {l : Loaded},
      loadVector files g₁ inq = (g₂, l) →
      ∃ vectors sent, g₂ = { g₁ with vectors := vectors, sentResponse := sent } := by
    intro g₁ g₂ inq l hl
    obtain ⟨vectors, sent, h⟩ := loadVector_frame files g₁ inq
    rw [hl] at h
    exact ⟨vectors, sent, h⟩
  have hcases := arrive_cases files s r d now
  generalize arrive files s r d now = v at hcases ⊢
  cases hcases with
  | @refused g₁ _ _ hval => rw [hval]; exact ⟨g₁.vectors, g₁.sentResponse, rfl⟩
  | @crashed g₁ hval => rw [hval]; exact ⟨g₁.vectors, g₁.sentResponse, rfl⟩
  | notFound hval hl => rw [hval]; exact hload hl
  | unreadable hval hl => rw [hval]; exact hload hl
  | held hval hl _ => rw [hval]; exact hload hl
  | @proceeds g₁ g₂ inq hval hl _ =>
      rw [hval]
      obtain ⟨vectors, sent, h⟩ := hload hl
      obtain ⟨sent', hp⟩ := proceed_frame ⟨g₂, s.flight⟩ (pendingOf files g₁ g₂ inq) s.flight now
      exact ⟨vectors, sent', by rw [hp, h]⟩

/-- The validation passes: control reaches `valid_request = True`. -/
def Passes (g : Globals) (r : HttpRequest) (d : Draws) : Prop :=
  (validate g r d).2.isAccepted = true

/-- Besides the received request the validation writes the picks, the vector,
`sent_response` and the flag, which it raises when it passes and never lowers. -/
theorem validate_frame (g : Globals) (r : HttpRequest) (d : Draws) :
    ∃ picks vectors sent flag, (validate g r d).1 =
        { received g r with randomPicks := picks, vectors := vectors, sentResponse := sent,
                            validRequest := flag } ∧
      (flag = true ↔ g.validRequest = true ∨ Passes g r d) := by
  unfold Passes
  have hcases := validate_cases g r d
  generalize validate g r d = v at hcases ⊢
  cases hcases with
  | refused ids a =>
      obtain ⟨sent, h⟩ := refuse_frame (received g r) ids a
      refine ⟨g.randomPicks, g.vectors, sent, g.validRequest, h, ?_⟩
      rw [refuse_isAccepted]
      simp
  | unsupported status body =>
      exact ⟨_, _, _, g.validRequest, rfl, by simp [Verdict.isAccepted]⟩
  | crashed i =>
      obtain ⟨picks, vectors, h⟩ := buildOnce_frame (received g r) i.reqCfiBwX d
      exact ⟨picks, vectors, _, g.validRequest, h, by simp [Verdict.isAccepted]⟩
  | @accepted _ _ _ i _ _ _ _ _ _ =>
      obtain ⟨picks, vectors, h⟩ := buildOnce_frame (received g r) i.reqCfiBwX d
      exact ⟨picks, vectors, _, true, by rw [h], by simp [Verdict.isAccepted]⟩

theorem validate_settings (g : Globals) (r : HttpRequest) (d : Draws) :
    (validate g r d).1.settings = g.settings := by
  obtain ⟨picks, vectors, sent, flag, h, -⟩ := validate_frame g r d
  rw [h]
  rfl

/-- Neither the validation nor the loading touches a setting. -/
theorem validated_settings {g g₁ : Globals} {r : HttpRequest} {d : Draws} {v : Verdict}
    (hval : validate g r d = (g₁, v)) : g₁.settings = g.settings := by
  have hsettings := validate_settings g r d
  rw [hval] at hsettings
  exact hsettings

theorem loaded_settings {files : TestFiles} {g g₁ g₂ : Globals} {r : HttpRequest} {d : Draws}
    {v : Verdict} {inq : Inquiry} {l : Loaded} (hval : validate g r d = (g₁, v))
    (hload : loadVector files g₁ inq = (g₂, l)) : g₂.settings = g.settings := by
  obtain ⟨vectors, sent, hframe⟩ := loadVector_frame files g₁ inq
  rw [hload] at hframe
  have hload₂ : g₂.settings = g₁.settings := by
    change g₂ = _ at hframe
    rw [hframe]
    rfl
  exact hload₂.trans (validated_settings hval)

/-- The request whose body is recorded is the one just received. -/
theorem validate_recvBody (g : Globals) (r : HttpRequest) (d : Draws) :
    (validate g r d).1.recvBody = recordedBody g r := by
  obtain ⟨picks, vectors, sent, flag, h, -⟩ := validate_frame g r d
  rw [h]
  rfl

theorem validate_validRequest (g : Globals) (r : HttpRequest) (d : Draws) :
    (validate g r d).1.validRequest = true ↔ g.validRequest = true ∨ Passes g r d := by
  obtain ⟨picks, vectors, sent, flag, h, hflag⟩ := validate_frame g r d
  rw [h]
  exact hflag

/-- A validation writes the picks and the vector where it builds, and what
builds is not refused. -/
theorem validate_kept_or_built (g : Globals) (r : HttpRequest) (d : Draws) :
    ((validate g r d).1.randomPicks = g.randomPicks ∧ (validate g r d).1.vectors = g.vectors) ∨
      (∀ status body, (validate g r d).2 ≠ .refused status body) ∧
        ∃ cfis, (validate g r d).1.randomPicks = (buildOnce (received g r) cfis d).1.randomPicks ∧
          (validate g r d).1.vectors = (buildOnce (received g r) cfis d).1.vectors := by
  have hpicks : (received g r).randomPicks = g.randomPicks := rfl
  have hvectors : (received g r).vectors = g.vectors := rfl
  rw [← hpicks, ← hvectors]
  have hcases := validate_cases g r d
  generalize validate g r d = v at hcases ⊢
  cases hcases with
  | refused ids a =>
      left
      obtain ⟨sent, hframe⟩ := refuse_frame (received g r) ids a
      rw [hframe]
      exact ⟨rfl, rfl⟩
  | unsupported status body => exact .inl ⟨rfl, rfl⟩
  | crashed i => exact .inr ⟨fun _ _ => by simp, _, rfl, rfl⟩
  | accepted => exact .inr ⟨fun _ _ => by simp, _, rfl, rfl⟩

/-- A validation that is refused keeps the picks and the vector. -/
theorem validate_refused {g : Globals} {r : HttpRequest} {d : Draws} {status : Nat} {body : Json}
    (h : (validate g r d).2 = .refused status body) :
    (validate g r d).1.randomPicks = g.randomPicks ∧ (validate g r d).1.vectors = g.vectors := by
  obtain hkept | ⟨hbuilt, _⟩ := validate_kept_or_built g r d
  · exact hkept
  · exact absurd h (hbuilt status body)

/-- Where there is nothing to build, every validation keeps them. -/
theorem validate_keeps {g : Globals} {r : HttpRequest} {d : Draws}
    (hbuild : ∀ cfis, (buildOnce (received g r) cfis d).1 = received g r) :
    (validate g r d).1.randomPicks = g.randomPicks ∧ (validate g r d).1.vectors = g.vectors := by
  obtain hkept | ⟨_, cfis, hpicks, hvectors⟩ := validate_kept_or_built g r d
  · exact hkept
  · rw [hbuild] at hpicks hvectors
    exact ⟨hpicks, hvectors⟩

end AfcDut.Simulator
