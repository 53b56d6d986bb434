import AfcDut.Simulator.Flight

/-!
# The pair of the status

`recv_request` is written when an inquiry arrives, `sent_response` when it is
answered. With nothing in flight the two belong together unless the last
inquiry to be answered was not the last to arrive, or an inquiry that arrived
last ended in an exception nobody catches, be it in a sleep that is too long.
-/

namespace AfcDut.Simulator.Theorems.StatusPair

open Py Service Lts

/-- A response names an inquiry: its version, and the `requestId` of its first
answer. -/
def Names (sent : Json) (ids : ReplyIds) : Prop :=
  sent.field "version" = .ok ids.version ∧
    (firstResponse sent >>= fun resp => resp.field "requestId") = .ok ids.reqId

/-- The status shows a request and the response to it. -/
def Paired (recvBody sent : Json) : Prop :=
  recvBody.truthy = true → sent.truthy = true →
    ∃ req, (identify recvBody).2 = .ok req ∧ Names sent (identify recvBody).1

/-- With nothing in flight, the status shows a matching pair. -/
def StatusMatches (s : Sys) : Prop := s.flight = [] → Paired s.g.recvBody s.g.sentResponse

instance (sent : Json) (ids : ReplyIds) : Decidable (Names sent ids) :=
  inferInstanceAs (Decidable (_ ∧ _))

instance (recvBody sent : Json) : Decidable (Paired recvBody sent) :=
  match h : (identify recvBody).2 with
  | .ok _ => decidable_of_iff
      (recvBody.truthy = true → sent.truthy = true → Names sent (identify recvBody).1)
      (by simp [Paired, h])
  | .error _ => decidable_of_iff (recvBody.truthy = true → sent.truthy = true → False)
      (by simp [Paired, h])

instance (s : Sys) : Decidable (StatusMatches s) :=
  decidable_of_iff (s.flight.isEmpty = true → Paired s.g.recvBody s.g.sentResponse)
    (by rw [List.isEmpty_iff, StatusMatches])

/-- The inquiry is a JSON body that identifies its request. -/
def Identified (r : HttpRequest) : Prop :=
  r.contentType = some "application/json" ∧
    ∃ body req, r.json = some body ∧ (identify body).2 = .ok req

/-- Inquiries that identify their request, and calls other than `/reset`. -/
def Regular : Event → Prop
  | .inquiry r _ _ => Identified r
  | .reset _ => False
  | _ => True

/-- Nothing holds a handler back from a wait that is too long to sleep. -/
def WaitTooLong (g : Globals) : Prop :=
  g.holdResponse.truthy = false ∧ sleepLimit < g.respWaitTime

/-- The inquiry would end in an exception that nobody catches: in the validation,
where its vector is loaded, or in its sleep. -/
def Crashes (files : TestFiles) (g : Globals) (r : HttpRequest) (d : Draws) : Prop :=
  match validate g r d with
  | (_, .crashed) => True
  | (g₁, .accepted inq) =>
      (loadVector files g₁ inq).2 = .crashed ∨
        ((loadVector files g₁ inq).2 = .ready ∧ WaitTooLong g)
  | _ => False

/-- A waiting handler would answer on its next turn. -/
def AnswersNext (g : Globals) (p : Pending) : Prop :=
  p.stage = .sleeping ∨ (g.holdResponse.truthy = false ∧ ¬ g.respWaitTime > 0)

/-- A waiting handler would die in its sleep on its next turn. -/
def DiesNext (g : Globals) (p : Pending) : Prop := p.stage = .holding ∧ WaitTooLong g

/-- An inquiry that crashes while nothing is in flight finds no response, or one
that already names it; the only inquiry in flight is answered while the recorded
request is empty or has its identification, and dies in its sleep only where the
request and the response recorded before belong together. -/
def LeavesPair (files : TestFiles) (m : Move Sys Event Output) : Prop :=
  match m.event with
  | .inquiry r d _ =>
      m.before.flight = [] → Crashes files m.before.g r d →
        m.before.g.sentResponse.truthy = true →
          Names m.before.g.sentResponse (identify (recordedBody m.before.g r)).1
  | .wake _ _ =>
      ∀ p, m.before.flight = [p] →
        (AnswersNext m.before.g p → m.before.g.recvBody.truthy = true →
          ∃ req, (identify m.before.g.recvBody).2 = .ok req ∧
            (identify m.before.g.recvBody).1 = ⟨p.inq.reqId, p.inq.version⟩) ∧
        (DiesNext m.before.g p → Paired m.before.g.recvBody m.before.g.sentResponse)
  | _ => True

/-! ## What each reply names -/

theorem names_errResp (ids : ReplyIds) (respCode : Int) (shortDesc : String)
    (suppInfo : Option Json) : Names (errResp ids respCode shortDesc suppInfo) ids := by
  constructor <;> rfl

theorem names_success {vectors : Json} {inq : Inquiry} {now : String} {sent : Json}
    (h : successResponse vectors inq now = .ok sent) : Names sent ⟨inq.reqId, inq.version⟩ := by
  obtain ⟨hversion, resp, stamped, resp', -, hstamp, hfilter, hsent⟩ := successResponse_eq_ok h
  obtain ⟨hreq, -⟩ := stamp_eq_ok hstamp
  obtain ⟨mid, hchan, hfreq⟩ := filterResponse_eq_ok hfilter
  refine ⟨hversion, ?_⟩
  rw [hsent, ok_bind, (filterField_eq_ok hfreq).1 _ (by decide),
    (filterField_eq_ok hchan).1 _ (by decide), hreq]

/-- The answer to an accepted inquiry names it. -/
theorem names_answer (g : Globals) (inq : Inquiry) (now : String) :
    Names (respond g inq now).2.sent ⟨inq.reqId, inq.version⟩ := by
  unfold respond
  dsimp only
  split
  · cases hresp : successResponse g.vectors inq now with
    | ok sent => exact names_success hresp
    | error e => exact names_errResp _ _ _ _
  · exact names_errResp _ _ _ _

/-- The answer is the response that is remembered. -/
theorem respond_sent (g : Globals) (inq : Inquiry) (now : String) :
    (respond g inq now).1.sentResponse = (respond g inq now).2.sent := by
  unfold respond
  dsimp only
  split
  · cases successResponse g.vectors inq now with
    | ok sent => rfl
    | error e => rfl
  · rfl

theorem names_respond (g : Globals) (inq : Inquiry) (now : String) :
    Names (respond g inq now).1.sentResponse ⟨inq.reqId, inq.version⟩ := by
  rw [respond_sent]
  exact names_answer g inq now

/-- The reply that a vector file is missing is remembered, and names the
inquiry. -/
theorem loadVector_notFound {files : TestFiles} {g g' : Globals} {inq : Inquiry} {body : Json}
    (h : loadVector files g inq = (g', .notFound body)) :
    g'.sentResponse = body ∧ Names body ⟨inq.reqId, inq.version⟩ := by
  unfold loadVector at h
  split at h
  · simp at h
  · split at h
    · simp at h
    · split at h
      · simp at h
      · obtain ⟨hg, hbody⟩ := Prod.mk.inj h
        rw [← hg, ← Loaded.notFound.inj hbody]
        exact ⟨rfl, names_errResp _ _ _ _⟩
      · simp at h
      · simp at h

/-- A crash writes nothing. -/
theorem loadVector_crashed {files : TestFiles} {g g' : Globals} {inq : Inquiry}
    (h : loadVector files g inq = (g', .crashed)) : g' = g := by
  unfold loadVector at h
  split at h
  · simp at h
  · split at h
    · simp at h
    · split at h
      · exact (Prod.mk.inj h).1.symm
      · simp at h
      · exact (Prod.mk.inj h).1.symm
      · simp at h

/-- A vector that is loaded leaves the remembered reply alone. -/
theorem loadVector_ready_sent {files : TestFiles} {g g' : Globals} {inq : Inquiry}
    (h : loadVector files g inq = (g', .ready)) : g'.sentResponse = g.sentResponse := by
  unfold loadVector at h
  split at h
  · exact congrArg Globals.sentResponse (Prod.mk.inj h).1.symm
  · split at h
    · exact congrArg Globals.sentResponse (Prod.mk.inj h).1.symm
    · split at h
      · simp at h
      · simp at h
      · simp at h
      · obtain ⟨rfl, -⟩ := Prod.mk.inj h
        rfl

/-- Two identifications that one response names are the same. -/
theorem names_unique {sent : Json} {ids ids' : ReplyIds} (h : Names sent ids) (h' : Names sent ids') :
    ids = ids' := by
  obtain ⟨hv, hr⟩ := h
  obtain ⟨hv', hr'⟩ := h'
  rw [hv, Except.ok.injEq] at hv'
  rw [hr, Except.ok.injEq] at hr'
  cases ids
  cases ids'
  simp only at hv' hr'
  rw [hv', hr']

theorem truthy_of_names {sent : Json} {ids : ReplyIds} (h : Names sent ids) : sent.truthy = true :=
  Json.truthy_of_field h.1

theorem paired_of_names {recvBody sent req : Json} (hids : (identify recvBody).2 = .ok req)
    (h : Names sent (identify recvBody).1) : Paired recvBody sent :=
  fun _ _ => ⟨req, hids, h⟩

/-- A pair in which the response names `ids` is a pair exactly when the request
is empty or has these. -/
theorem paired_iff_of_names {recvBody sent : Json} {ids : ReplyIds} (h : Names sent ids) :
    Paired recvBody sent ↔ (recvBody.truthy = true →
      ∃ req, (identify recvBody).2 = .ok req ∧ (identify recvBody).1 = ids) := by
  constructor
  · intro hpaired hrecv
    obtain ⟨req, hreq, hnames⟩ := hpaired hrecv (truthy_of_names h)
    exact ⟨req, hreq, names_unique hnames h⟩
  · intro hids hrecv _
    obtain ⟨req, hreq, heq⟩ := hids hrecv
    exact ⟨req, hreq, heq ▸ h⟩

/-! ## One inquiry -/

/-- What the validation of an identified inquiry leaves in `sent_response`. -/
inductive Validated (g : Globals) (r : HttpRequest) : Globals × Verdict → Prop
  | refused {g₁ : Globals} {status : Nat} {body : Json} :
      Names g₁.sentResponse (identify (recordedBody g r)).1 →
      Validated g r (g₁, .refused status body)
  | crashed {g₁ : Globals} : g₁.sentResponse = g.sentResponse → Validated g r (g₁, .crashed)
  | accepted {g₁ : Globals} {inq : Inquiry} : g₁.sentResponse = g.sentResponse →
      (identify (recordedBody g r)).1 = ⟨inq.reqId, inq.version⟩ →
      Validated g r (g₁, .accepted inq)

theorem recordedBody_of_identified {r : HttpRequest} (g : Globals) (h : Identified r) :
    ∃ req, r.json = some (recordedBody g r) ∧ (identify (recordedBody g r)).2 = .ok req := by
  obtain ⟨hct, body, req, hjson, hreq⟩ := h
  have hbody : recordedBody g r = body := by rw [recordedBody, if_pos hct, hjson, Option.getD_some]
  rw [hbody]
  exact ⟨req, hjson, hreq⟩

theorem validated {r : HttpRequest} (h : Identified r) (g : Globals) (d : Draws) :
    Validated g r (validate g r d) := by
  obtain ⟨req, hjson, hreq⟩ := recordedBody_of_identified g h
  have hids : identify (recordedBody g r) = ((identify (recordedBody g r)).1, .ok req) :=
    Prod.ext rfl hreq
  have hsent : (received g r).sentResponse = g.sentResponse := rfl
  have hcases := validate_cases g r d
  generalize validate g r d = v at hcases ⊢
  cases hcases with
  | refused ids a hsame =>
      cases a with
      | reply respCode shortDesc suppInfo =>
          have hnames := names_errResp ids respCode shortDesc suppInfo
          rw [hsame _ _ _ hjson hids] at hnames ⊢
          exact .refused hnames
      | raised e => exact .crashed hsent
  | unsupported status body hct => exact absurd h.1 hct
  | crashed i =>
      obtain ⟨picks, vectors, hframe⟩ := buildOnce_frame (received g r) i.reqCfiBwX d
      exact .crashed (by rw [hframe, ← hsent])
  | @accepted body' req' ids i hct hjson' hids' _ _ _ =>
      obtain ⟨picks, vectors, hframe⟩ := buildOnce_frame (received g r) i.reqCfiBwX d
      refine .accepted (by rw [hframe, ← hsent]) ?_
      rw [hjson, Option.some.injEq] at hjson'
      subst hjson'
      rw [hids']
      rfl

/-- A turn that answers leaves a pair when the recorded request has the
inquiry's identification, and only then; one that dies leaves what it found. -/
theorem turn_matches_iff {s t : Sys} {p : Pending} {others : List Pending} {now : String}
    {o : Output} (h : Turn s p others now (t, o)) :
    StatusMatches t ↔
      ((∃ a, o = .answered p a) → t.flight = [] → s.g.recvBody.truthy = true →
        ∃ req, (identify s.g.recvBody).2 = .ok req ∧
          (identify s.g.recvBody).1 = ⟨p.inq.reqId, p.inq.version⟩) ∧
      (o = .serverError → t.flight = [] → Paired s.g.recvBody s.g.sentResponse) := by
  cases h with
  | sleeps => simp [StatusMatches]
  | dies _ => simp [StatusMatches]
  | answers =>
      obtain ⟨sent, hframe⟩ := respond_frame s.g p.inq now
      have hrecv : (respond s.g p.inq now).1.recvBody = s.g.recvBody := by rw [hframe]
      have hpair := @paired_iff_of_names s.g.recvBody _ _ (names_respond s.g p.inq now)
      simp only [StatusMatches, hrecv, hpair, Output.answered.injEq, true_and, exists_eq',
        true_implies, reduceCtorEq, false_implies, and_true]

/-- The handler answers on this turn when nothing keeps it waiting, and dies when
its wait is too long. -/
theorem wake_output_iff {s t : Sys} {p : Pending} {others : List Pending} {now : String}
    {o : Output} (h : wake s p others now = (t, o)) :
    ((∃ a, o = .answered p a) ↔ AnswersNext s.g p) ∧ (o = .serverError ↔ DiesNext s.g p) := by
  unfold AnswersNext DiesNext WaitTooLong
  cases hstage : p.stage with
  | sleeping =>
      simp only [wake, hstage, Prod.mk.injEq] at h
      obtain ⟨-, rfl⟩ := h
      simp
  | holding =>
      simp only [wake, hstage] at h
      by_cases hhold : s.g.holdResponse.truthy = true
      · rw [if_pos hhold, Prod.mk.injEq] at h
        obtain ⟨-, rfl⟩ := h
        simp [hhold]
      · rw [if_neg hhold] at h
        rw [Bool.not_eq_true] at hhold
        by_cases hlong : sleepLimit < s.g.respWaitTime
        · rw [proceed_dies hlong, Prod.mk.injEq] at h
          obtain ⟨-, rfl⟩ := h
          simp [hhold, hlong, sleepLimit_pos.trans hlong]
        · by_cases hwait : s.g.respWaitTime > 0
          · rw [proceed_sleeps hwait hlong, Prod.mk.injEq] at h
            obtain ⟨-, rfl⟩ := h
            simp [hlong, hwait]
          · rw [proceed, if_neg hwait, Prod.mk.injEq] at h
            obtain ⟨-, rfl⟩ := h
            simp only [Output.answered.injEq, true_and, exists_eq', reduceCtorEq, false_or,
              hhold, hwait, not_false_eq_true, hlong, and_false, and_self]

/-- The body an arriving inquiry leaves in `recv_request` is its own. -/
theorem arrive_recvBody {files : TestFiles} {s t : Sys} {r : HttpRequest} {d : Draws}
    {now : String} {o : Output} (h : arrive files s r d now = (t, o)) :
    t.g.recvBody = recordedBody s.g r := by
  obtain ⟨vectors, sent, hframe⟩ := arrive_frame files s r d now
  rw [h] at hframe
  change t.g = _ at hframe
  rw [hframe]
  exact validate_recvBody s.g r d

/-- A crash replaces the received request and leaves the response: the two match
only if the old response already named the new request. -/
theorem crash_matches_iff {s t : Sys} {r : HttpRequest} (hid : Identified r)
    (hrecv : t.g.recvBody = recordedBody s.g r) (hsent : t.g.sentResponse = s.g.sentResponse)
    (hflight : t.flight = s.flight) :
    StatusMatches t ↔ (s.flight = [] → s.g.sentResponse.truthy = true →
      Names s.g.sentResponse (identify (recordedBody s.g r)).1) := by
  obtain ⟨req, -, hreq⟩ := recordedBody_of_identified s.g hid
  have htruthy : (recordedBody s.g r).truthy = true := by
    cases hversion : (recordedBody s.g r).field "version" with
    | ok v => exact Json.truthy_of_field hversion
    | error e => simp [identify, hversion] at hreq
  rw [StatusMatches, hflight, hrecv, hsent]
  refine forall_congr' fun _ => ?_
  constructor
  · intro hpaired hne
    obtain ⟨_, -, hnames⟩ := hpaired htruthy hne
    exact hnames
  · intro hnames _ hne
    exact ⟨req, hreq, hnames hne⟩

/-- An inquiry that does not crash leaves a pair, if nothing is in flight. -/
theorem arrive_matches_iff {files : TestFiles} {s t : Sys} {r : HttpRequest} {d : Draws}
    {now : String} {o : Output} (hid : Identified r) (h : arrive files s r d now = (t, o)) :
    StatusMatches t ↔ LeavesPair files ⟨s, .inquiry r d now, o, t⟩ := by
  obtain ⟨req, hjson, hreq⟩ := recordedBody_of_identified s.g hid
  have hrecv := arrive_recvBody h
  have hval := validated hid s.g d
  -- what names the inquiry makes a pair
  have hnamed : Names t.g.sentResponse (identify (recordedBody s.g r)).1 → StatusMatches t :=
    fun hnames _ => hrecv ▸ paired_of_names hreq hnames
  -- an exception leaves the response as it was
  have hcrash : Crashes files s.g r d → t.g.sentResponse = s.g.sentResponse →
      t.flight = s.flight → (StatusMatches t ↔ LeavesPair files ⟨s, .inquiry r d now, o, t⟩) := by
    intro hcrashes hsent hflight
    rw [crash_matches_iff hid hrecv hsent hflight]
    show _ ↔ (s.flight = [] → Crashes files s.g r d → _)
    simp only [hcrashes, true_implies]
  -- without one the condition says nothing
  have hleaves : ¬ Crashes files s.g r d → LeavesPair files ⟨s, .inquiry r d now, o, t⟩ :=
    fun hno _ hcrashes => absurd hcrashes hno
  have hcases := arrive_cases files s r d now
  rw [h] at hcases
  generalize hr : (t, o) = result at hcases
  cases hcases with
  | refused hv =>
      obtain ⟨rfl, rfl⟩ := Prod.mk.inj hr
      rw [hv] at hval
      cases hval with
      | refused hnames =>
          exact iff_of_true (hnamed hnames) (hleaves (by simp [Crashes, hv]))
  | crashed hv =>
      obtain ⟨rfl, rfl⟩ := Prod.mk.inj hr
      rw [hv] at hval
      cases hval with
      | crashed hsent => exact hcrash (by simp [Crashes, hv]) hsent rfl
  | @notFound g₁ g₂ inq body hv hl =>
      obtain ⟨rfl, rfl⟩ := Prod.mk.inj hr
      rw [hv] at hval
      cases hval with
      | accepted hsent hids =>
          refine iff_of_true (hnamed ?_) (hleaves (by simp [Crashes, hv, hl]))
          obtain ⟨hsent, hnames⟩ := loadVector_notFound hl
          rw [hids]
          show Names g₂.sentResponse _
          rw [hsent]
          exact hnames
  | @unreadable g₁ g₂ inq hv hl =>
      obtain ⟨rfl, rfl⟩ := Prod.mk.inj hr
      rw [hv] at hval
      cases hval with
      | accepted hsent hids =>
          refine hcrash (by simp [Crashes, hv, hl]) ?_ rfl
          rw [← hsent]
          exact congrArg Globals.sentResponse (loadVector_crashed hl)
  | @held g₁ g₂ inq hv hl hhold =>
      obtain ⟨rfl, rfl⟩ := Prod.mk.inj hr
      refine iff_of_true (fun hnil => ?_) (hleaves ?_)
      · exact absurd hnil (by simp)
      · have hhold₂ : g₂.holdResponse = s.g.holdResponse :=
          congrArg Settings.holdResponse (loaded_settings hv hl)
        simp [Crashes, hv, hl, WaitTooLong, ← hhold₂, hhold]
  | @proceeds g₁ g₂ inq hv hl hopen =>
      rw [hv] at hval
      cases hval with
      | accepted hsent hids =>
          have hsettings := loaded_settings hv hl
          have hhold₂ : g₂.holdResponse = s.g.holdResponse :=
            congrArg Settings.holdResponse hsettings
          have hwait₂ : g₂.respWaitTime = s.g.respWaitTime :=
            congrArg Settings.respWaitTime hsettings
          by_cases hlong : sleepLimit < s.g.respWaitTime
          · -- the sleep raises: the new request stays without an answer
            rw [proceed_dies (hwait₂.symm ▸ hlong)] at hr
            obtain ⟨rfl, rfl⟩ := Prod.mk.inj hr
            refine hcrash ?_ ((loadVector_ready_sent hl).trans hsent) rfl
            simp [Crashes, hv, hl, WaitTooLong, ← hhold₂, hopen, hlong]
          · have hturn := proceed_cases ⟨g₂, s.flight⟩ (pendingOf files g₁ g₂ inq) s.flight now
            rw [← hr] at hturn
            have hrecv₂ : g₂.recvBody = recordedBody s.g r := by
              obtain ⟨sent, hframe⟩ := proceed_frame ⟨g₂, s.flight⟩ (pendingOf files g₁ g₂ inq)
                s.flight now
              rw [← hr] at hframe
              change t.g = _ at hframe
              rw [← hrecv, hframe]
            have hmatches : StatusMatches t := by
              rw [turn_matches_iff hturn, hrecv₂]
              refine ⟨fun _ _ _ => ⟨req, hreq, hids⟩, fun hdies => ?_⟩
              cases hturn with
              | dies hlong₂ => exact absurd hlong₂ (hwait₂.symm ▸ hlong)
              | _ => exact absurd hdies (by simp)
            exact iff_of_true hmatches (hleaves (by simp [Crashes, hv, hl, WaitTooLong, hlong]))

/-! ## Runs -/

/-- The calls of the test scripts keep a pair, or clear it. -/
theorem setResponse_matches {s : Sys} (tc : TestCaseControl) (h : StatusMatches s) :
    StatusMatches ⟨(setResponse s.g tc).1, s.flight⟩ := by
  intro hflight
  have hpair := h hflight
  show Paired (setResponse s.g tc).1.recvBody (setResponse s.g tc).1.sentResponse
  unfold setResponse
  split
  · dsimp only
    split <;> exact fun hempty => absurd hempty Bool.false_ne_true
  · exact hpair

/-- A handler that takes its turn is the only one in flight when no other is
left. -/
theorem eraseIdx_eq_nil_iff {flight : List Pending} {i : Nat} {p : Pending}
    (hp : flight[i]? = some p) : flight.eraseIdx i = [] ↔ flight = [p] := by
  obtain ⟨hi, hget⟩ := List.getElem?_eq_some_iff.mp hp
  constructor
  · intro herase
    have hlength := List.length_eraseIdx_of_lt hi
    rw [herase, List.length_nil] at hlength
    obtain ⟨q, rfl⟩ := List.length_eq_one_iff.mp (show flight.length = 1 by omega)
    rw [List.mem_singleton.mp (List.mem_of_getElem? hp)]
  · rintro rfl
    rw [List.length_singleton, Nat.lt_one_iff] at hi
    rw [hi]
    rfl

/-- A wake keeps the pair exactly when the last answer belongs to the recorded
request, or the last handler dies over a pair. -/
theorem wake_matches_iff {files : TestFiles} {s t : Sys} {i : Nat} {p : Pending} {now : String}
    {o : Output} (hp : s.flight[i]? = some p) (hw : wake s p (s.flight.eraseIdx i) now = (t, o))
    (h : StatusMatches s) : StatusMatches t ↔ LeavesPair files ⟨s, .wake i now, o, t⟩ := by
  obtain ⟨hanswered, hdies⟩ := wake_output_iff hw
  -- the condition speaks of this handler, and only when no other is left
  have hleaves : LeavesPair files ⟨s, .wake i now, o, t⟩ ↔
      ((∃ a, o = .answered p a) → s.flight.eraseIdx i = [] → s.g.recvBody.truthy = true →
        ∃ req, (identify s.g.recvBody).2 = .ok req ∧
          (identify s.g.recvBody).1 = ⟨p.inq.reqId, p.inq.version⟩) ∧
      (o = .serverError → s.flight.eraseIdx i = [] → Paired s.g.recvBody s.g.sentResponse) := by
    rw [hanswered, hdies, eraseIdx_eq_nil_iff hp]
    constructor
    · intro hall
      exact ⟨fun hnext hone => (hall p hone).1 hnext, fun hnext hone => (hall p hone).2 hnext⟩
    · rintro ⟨hans, hdie⟩ q hq
      have hsame : p = q := by
        have hmem := List.mem_of_getElem? hp
        change s.flight = [q] at hq
        rwa [hq, List.mem_singleton] at hmem
      subst hsame
      exact ⟨fun hnext => hans hnext hq, fun hnext => hdie hnext hq⟩
  rw [hleaves]
  rcases wake_cases s p (s.flight.eraseIdx i) now with hkeeps | hturn
  · rw [hkeeps, Prod.mk.injEq] at hw
    obtain ⟨rfl, rfl⟩ := hw
    exact iff_of_true h (by simp)
  · rw [hw] at hturn
    rw [turn_matches_iff hturn]
    cases hturn with
    | sleeps => simp
    | dies _ => exact Iff.rfl
    | answers => exact Iff.rfl

/-- One move keeps the pair exactly when it leaves no foreign response. -/
theorem statusMatches_step {files : TestFiles} {m : Move Sys Event Output}
    (hm : m.Of (step files)) (hreg : Regular m.event) (h : StatusMatches m.before) :
    StatusMatches m.after ↔ LeavesPair files m := by
  obtain ⟨s, e, o, t⟩ := m
  change step files s e = some (t, o) at hm
  change StatusMatches s at h
  cases e with
  | inquiry r d now =>
      rw [step, Option.some.injEq] at hm
      exact arrive_matches_iff hreg hm
  | wake i now =>
      simp only [step, Option.map_eq_some_iff] at hm
      obtain ⟨p, hp, hw⟩ := hm
      exact wake_matches_iff hp hw h
  | setResponse tc =>
      simp only [step, Option.some.injEq, Prod.mk.injEq] at hm
      obtain ⟨rfl, rfl⟩ := hm
      exact iff_of_true (setResponse_matches tc h) trivial
  | setParams hold =>
      simp only [step, Option.some.injEq, Prod.mk.injEq] at hm
      obtain ⟨rfl, rfl⟩ := hm
      exact iff_of_true h trivial
  | reset json => exact absurd hreg id

/-- **The status over runs.** In a run from start-up of identified inquiries
and calls other than `/reset`, every state with nothing in flight shows a
matching pair exactly when no step leaves the response of an earlier request
behind. -/
theorem statusMatches_run_iff (files : TestFiles) (es : List Event) (hreg : ∀ e ∈ es, Regular e) :
    (∀ m ∈ moves (step files) Sys.init es, StatusMatches m.after) ↔
      ∀ m ∈ moves (step files) Sys.init es, LeavesPair files m := by
  have hinit : StatusMatches Sys.init := fun _ hempty => absurd hempty Bool.false_ne_true
  have hregular : ∀ m ∈ moves (step files) Sys.init es, Regular m.event := fun m hm =>
    hreg _ (event_mem_of_moves m hm)
  constructor
  · intro hall m hm
    -- the moves keep the pair, so the state before this one has it
    obtain ⟨hstep, hbefore, -⟩ := moves_invariant (I := StatusMatches)
      (G := fun m => StatusMatches m.after) (fun _ _ hg _ => hg) hinit hall m hm
    exact (statusMatches_step hstep (hregular m hm) hbefore).mp (hall m hm)
  · intro hok m hm
    have hguard : ∀ m ∈ moves (step files) Sys.init es, Regular m.event ∧ LeavesPair files m :=
      fun m hm => ⟨hregular m hm, hok m hm⟩
    exact (moves_invariant (I := StatusMatches) (G := fun m => Regular m.event ∧ LeavesPair files m)
      (fun _ hm hg h => (statusMatches_step hm hg.1 h).mpr hg.2) hinit hguard m hm).2.2

/-! ## Released in the order of arrival -/

/-- An inquiry of one channel. -/
def inquireOne (reqId : String) : HttpRequest :=
  .ofJson (inquiryBody reqId [certUS] [("inquiredChannels", .arr [inquireChannels 133 [7]])])

theorem identified_inquireOne (reqId : String) : Identified (inquireOne reqId) :=
  ⟨rfl, _, _, rfl, rfl⟩

/-- A run of two held inquiries, released in the order of their arrival. -/
def firstReleasedFirst : List Event :=
  [.setParams (some (.bool true)), .inquiry (inquireOne "first") .lowest "now",
    .inquiry (inquireOne "second") .lowest "now", .setParams (some (.bool false)),
    .wake 0 "now", .wake 0 "now"]

theorem regular_firstReleasedFirst : ∀ e ∈ firstReleasedFirst, Regular e := by
  simp only [firstReleasedFirst, List.forall_mem_cons, Regular, identified_inquireOne, true_and,
    List.not_mem_nil, false_implies, implies_true]

theorem statusMatches_inOrder :
    (∀ m ∈ moves (step fun _ _ => .json defaultVector) Sys.init firstReleasedFirst,
      StatusMatches m.after) ↔
      ∀ m ∈ moves (step fun _ _ => .json defaultVector) Sys.init firstReleasedFirst,
        LeavesPair (fun _ _ => .json defaultVector) m :=
  statusMatches_run_iff _ firstReleasedFirst regular_firstReleasedFirst

/-- Two held inquiries, the second released first: the status shows the second
request with the response to the first. -/
theorem released_last_first :
    ¬ ∀ files es, (∀ e ∈ es, Regular e) →
      ∀ m ∈ moves (step files) Sys.init es, StatusMatches m.after := by
  intro h
  have hall := h (fun _ _ => .json defaultVector)
    [.setParams (some (.bool true)), .inquiry (inquireOne "first") .lowest "now",
      .inquiry (inquireOne "second") .lowest "now", .setParams (some (.bool false)),
      .wake 1 "now", .wake 0 "now"]
    (by simp only [List.forall_mem_cons, Regular, identified_inquireOne, true_and,
      List.not_mem_nil, false_implies, implies_true])
  revert hall
  decide +kernel

end AfcDut.Simulator.Theorems.StatusPair
