import AfcDut.Simulator.Theorems.StatusPair

/-!
# What the replies name

Every 200 reply to an inquiry, now or after a wait, names the identification
that was read from its body. The version is read before the `requestId`: of an
inquiry without a version the reply names request 0.
-/

namespace AfcDut.Simulator.Theorems.ReplyNames

open Py Service Lts
open StatusPair (Names names_errResp names_answer loadVector_notFound)

/-- The body of an inquiry and the 200 reply a step gives it. -/
def repliedTo (m : Move Sys Event Output) : Option (Json × Json) :=
  match m.event, m.output with
  | .inquiry r _ _, .refused 200 sent => r.json.map fun body => (body, sent)
  | .inquiry r _ _, .notFound sent => r.json.map fun body => (body, sent)
  | _, .answered p a => some (p.body, a.sent)
  | _, _ => none

/-- The requests of the body are a list, and the first is an object that
carries this `requestId`. -/
def CarriesId (body reqId : Json) : Prop :=
  ∃ kvs rest, body.field "availableSpectrumInquiryRequests" = .ok (.arr (.obj kvs :: rest)) ∧
    kvs.lookup "requestId" = some reqId

/-- The first response has the `requestId`, and the version is echoed. -/
def NamesRequest (body reqId sent : Json) : Prop :=
  (firstResponse sent >>= fun resp => resp.field "requestId") = .ok reqId ∧
    ∀ version, body.field "version" = .ok version → sent.field "version" = .ok version

/-! ## What is read from the body -/

theorem identify_carried {body reqId version : Json} (hid : CarriesId body reqId)
    (hversion : body.field "version" = .ok version) :
    ∃ req, identify body = (⟨reqId, version⟩, .ok req) := by
  obtain ⟨kvs, rest, hreqs, hlookup⟩ := hid
  refine ⟨.obj kvs, ?_⟩
  have hfirst : (Json.arr (.obj kvs :: rest)).item 0 = .ok (.obj kvs) := rfl
  have hreqId : (Json.obj kvs).field "requestId" = .ok reqId := Json.field_obj_eq_ok.mpr hlookup
  simp only [identify, hversion, hreqs, ok_bind, hfirst, hreqId]

/-- Without a version nothing more is read. -/
theorem identify_unversioned {body : Json} (h : ∀ version, body.field "version" ≠ .ok version) :
    ∃ e, identify body = (⟨.int 0, .str ""⟩, .error e) := by
  cases hfield : body.field "version" with
  | ok version => exact absurd hfield (h version)
  | error e => exact ⟨e, by simp only [identify, hfield]⟩

/-- A reply that names what was read has the body's `requestId` exactly when
the body has a version, but for the request 0. -/
theorem namesRequest_iff {body reqId sent : Json} (hid : CarriesId body reqId)
    (hnames : Names sent (identify body).1) :
    NamesRequest body reqId sent ↔
      (∃ version, body.field "version" = .ok version) ∨ reqId = .int 0 := by
  obtain ⟨hversion, hreqId⟩ := hnames
  by_cases hcarried : ∃ version, body.field "version" = .ok version
  · obtain ⟨version, hfield⟩ := hcarried
    obtain ⟨req, hread⟩ := identify_carried hid hfield
    rw [hread] at hversion hreqId
    refine iff_of_true ⟨hreqId, ?_⟩ (.inl ⟨version, hfield⟩)
    intro version' hfield'
    rw [hfield, Except.ok.injEq] at hfield'
    exact hfield' ▸ hversion
  · obtain ⟨e, hread⟩ := identify_unversioned fun version hfield => hcarried ⟨version, hfield⟩
    rw [hread] at hreqId
    constructor
    · intro h
      have hsame := h.1
      rw [hreqId, Except.ok.injEq] at hsame
      exact .inr hsame.symm
    · intro h
      rcases h with hversion' | rfl
      · exact absurd hversion' hcarried
      · exact ⟨hreqId, fun version hfield => absurd ⟨version, hfield⟩ hcarried⟩

/-! ## What a step names -/

/-- A pending inquiry has the identification of its body. -/
def Known (p : Pending) : Prop :=
  ∃ req, identify p.body = (⟨p.inq.reqId, p.inq.version⟩, .ok req)

def AllKnown (s : Sys) : Prop := ∀ p ∈ s.flight, Known p

/-- A refusal names what was read before it. -/
theorem validate_refused_names {g g₁ : Globals} {r : HttpRequest} {d : Draws} {body sent : Json}
    (hjson : r.json = some body) (h : validate g r d = (g₁, .refused 200 sent)) :
    Names sent (identify body).1 := by
  have hrefuse : ∀ {g' : Globals} {ids : ReplyIds} {a : Abort},
      refuse g' ids a = (g₁, .refused 200 sent) → Names sent ids := by
    intro g' ids a ha
    cases a with
    | reply respCode shortDesc suppInfo =>
        rw [refuse, Prod.mk.injEq, Verdict.refused.injEq] at ha
        rw [← ha.2.2]
        exact names_errResp ids respCode shortDesc suppInfo
    | raised e => simp [refuse] at ha
  unfold validate at h
  dsimp only at h
  split at h
  · rename_i hct
    rw [hjson] at h
    dsimp only at h
    split at h
    · rename_i ids e hids
      rw [hids]
      exact hrefuse h
    · rename_i ids req hids
      rw [hids]
      have hcases := validateRequest_cases (g := { g with
        recvHeaders := .obj r.headers, recvBody := body }) (d := d) hct hjson hids
      rw [h] at hcases
      generalize hv : (g₁, Verdict.refused 200 sent) = v at hcases
      cases hcases with
      | refused ids' a hsame =>
          rw [← hsame body req ids hjson hids]
          exact hrefuse hv.symm
      | unsupported status body' hct' => exact absurd hct hct'
      | crashed i => simp at hv
      | accepted => simp at hv
  · simp at h

/-- What is accepted is identified. -/
theorem validate_accepted_known {g g₁ : Globals} {r : HttpRequest} {d : Draws} {inq : Inquiry}
    (h : validate g r d = (g₁, .accepted inq)) :
    ∃ body req, r.json = some body ∧ g₁.recvBody = body ∧
      identify body = (⟨inq.reqId, inq.version⟩, .ok req) := by
  have hrecv := validate_recvBody g r d
  obtain ⟨body, req, ids, i, g', hct, hjson, hids, -, -, -, -, rfl⟩ := validate_accepted h
  refine ⟨body, req, hjson, ?_, hids⟩
  rw [h] at hrecv
  rw [hrecv, recordedBody, if_pos hct, hjson, Option.getD_some]

/-- What `loadVector` leaves of the received body. -/
theorem pendingOf_known {files : TestFiles} {g g₁ g₂ : Globals} {r : HttpRequest} {d : Draws}
    {inq : Inquiry} {l : Loaded} (hval : validate g r d = (g₁, .accepted inq))
    (hload : loadVector files g₁ inq = (g₂, l)) : Known (pendingOf files g₁ g₂ inq) := by
  obtain ⟨body, req, -, hrecv, hids⟩ := validate_accepted_known hval
  obtain ⟨vectors, sent, hframe⟩ := loadVector_frame files g₁ inq
  rw [hload] at hframe
  change g₂ = _ at hframe
  refine ⟨req, ?_⟩
  show identify g₂.recvBody = _
  rw [hframe, show ({ g₁ with vectors := vectors, sentResponse := sent } : Globals).recvBody =
    g₁.recvBody from rfl, hrecv, hids]
  rfl

/-- A turn keeps the identification of what is pending, and an answer it gives
names the inquiry, whatever event led to it. -/
theorem turn_names {s t : Sys} {p : Pending} {others : List Pending} {now : String} {o : Output}
    (h : Turn s p others now (t, o)) (hp : Known p) (hothers : ∀ q ∈ others, Known q) :
    AllKnown t ∧ ∀ (s' : Sys) (e : Event) (body sent : Json),
      repliedTo ⟨s', e, o, t⟩ = some (body, sent) → Names sent (identify body).1 := by
  cases h with
  | sleeps =>
      refine ⟨fun q hq => ?_, fun s' e body sent hreply => ?_⟩
      · rcases List.mem_append.mp hq with hq | hq
        · exact hothers q hq
        · rw [List.mem_singleton] at hq
          exact hq ▸ hp
      · cases e <;> simp [repliedTo] at hreply
  | dies _ =>
      refine ⟨hothers, fun s' e body sent hreply => ?_⟩
      cases e <;> simp [repliedTo] at hreply
  | answers =>
      refine ⟨hothers, fun s' e body sent hreply => ?_⟩
      have hsent : (p.body, (respond s.g p.inq now).2.sent) = (body, sent) := by
        cases e <;> exact Option.some.inj hreply
      obtain ⟨rfl, rfl⟩ := Prod.mk.inj hsent
      obtain ⟨req, hread⟩ := hp
      rw [hread]
      exact names_answer s.g p.inq now

section Steps

variable {files : TestFiles} {s t : Sys} {o : Output}

theorem names_arrive {r : HttpRequest} {d : Draws} {now : String}
    (hm : arrive files s r d now = (t, o)) (h : AllKnown s) :
    AllKnown t ∧ ∀ body sent, repliedTo ⟨s, .inquiry r d now, o, t⟩ = some (body, sent) →
      Names sent (identify body).1 := by
  have hcases := arrive_cases files s r d now
  rw [hm] at hcases
  generalize hv : (t, o) = v at hcases
  cases hcases with
  | @refused g₁ status sent hval =>
      obtain ⟨rfl, rfl⟩ := Prod.mk.inj hv
      refine ⟨h, fun body sent' hreply => ?_⟩
      by_cases hstatus : status = 200
      · subst hstatus
        obtain ⟨body', hjson, hpair⟩ := Option.map_eq_some_iff.mp hreply
        obtain ⟨rfl, rfl⟩ := Prod.mk.inj hpair
        exact validate_refused_names hjson hval
      · simp [repliedTo, hstatus] at hreply
  | crashed hval =>
      obtain ⟨rfl, rfl⟩ := Prod.mk.inj hv
      exact ⟨h, fun body sent hreply => by simp [repliedTo] at hreply⟩
  | @notFound g₁ g₂ inq sent hval hload =>
      obtain ⟨rfl, rfl⟩ := Prod.mk.inj hv
      refine ⟨h, fun body sent' hreply => ?_⟩
      obtain ⟨body', hjson, hpair⟩ := Option.map_eq_some_iff.mp hreply
      obtain ⟨rfl, rfl⟩ := Prod.mk.inj hpair
      obtain ⟨body'', req, hjson', -, hids⟩ := validate_accepted_known hval
      rw [hjson, Option.some.injEq] at hjson'
      subst hjson'
      rw [hids]
      exact (loadVector_notFound hload).2
  | unreadable hval hload =>
      obtain ⟨rfl, rfl⟩ := Prod.mk.inj hv
      exact ⟨h, fun body sent hreply => by simp [repliedTo] at hreply⟩
  | held hval hload _ =>
      obtain ⟨rfl, rfl⟩ := Prod.mk.inj hv
      refine ⟨fun p hp => ?_, fun body sent hreply => by simp [repliedTo] at hreply⟩
      rcases List.mem_append.mp hp with hp | hp
      · exact h p hp
      · rw [List.mem_singleton.mp hp]
        exact pendingOf_known hval hload
  | @proceeds g₁ g₂ inq hval hload _ =>
      have hturn := proceed_cases ⟨g₂, s.flight⟩ (pendingOf files g₁ g₂ inq) s.flight now
      rw [← hv] at hturn
      obtain ⟨hknown, hnames⟩ := turn_names hturn (pendingOf_known hval hload) h
      exact ⟨hknown, hnames s _⟩

theorem names_wake {p : Pending} {i : Nat} {now : String} (hp : s.flight[i]? = some p)
    (hm : wake s p (s.flight.eraseIdx i) now = (t, o)) (h : AllKnown s) :
    AllKnown t ∧ ∀ body sent, repliedTo ⟨s, .wake i now, o, t⟩ = some (body, sent) →
      Names sent (identify body).1 := by
  have hmem : p ∈ s.flight := List.mem_of_getElem? hp
  have hothers : ∀ q ∈ s.flight.eraseIdx i, Known q :=
    fun q hq => h q (List.mem_of_mem_eraseIdx hq)
  rcases wake_cases s p (s.flight.eraseIdx i) now with hkeeps | hturn
  · obtain ⟨rfl, rfl⟩ := Prod.mk.inj (hm.symm.trans hkeeps)
    exact ⟨h, fun body sent hreply => by simp [repliedTo] at hreply⟩
  · rw [hm] at hturn
    obtain ⟨hknown, hnames⟩ := turn_names hturn (h p hmem) hothers
    exact ⟨hknown, hnames s _⟩

end Steps

/-- **Every step** keeps the identification of what is pending, and a 200
reply names what was read from its body. -/
theorem names_step {files : TestFiles} {m : Move Sys Event Output} (hm : m.Of (step files))
    (h : AllKnown m.before) :
    AllKnown m.after ∧ ∀ body sent, repliedTo m = some (body, sent) →
      Names sent (identify body).1 := by
  obtain ⟨s, e, o, t⟩ := m
  change AllKnown s at h
  change step files s e = some (t, o) at hm
  cases e with
  | inquiry r d now => exact names_arrive (Option.some.inj hm) h
  | wake i now =>
      obtain ⟨p, hp, hw⟩ := Option.map_eq_some_iff.mp hm
      exact names_wake hp hw h
  | setResponse tc =>
      obtain ⟨rfl, rfl⟩ := Prod.mk.inj (Option.some.inj hm)
      exact ⟨h, fun body sent hreply => by simp [repliedTo] at hreply⟩
  | setParams hold =>
      obtain ⟨rfl, rfl⟩ := Prod.mk.inj (Option.some.inj hm)
      exact ⟨h, fun body sent hreply => by simp [repliedTo] at hreply⟩
  | reset json =>
      obtain ⟨rfl, rfl⟩ := Prod.mk.inj (Option.some.inj hm)
      exact ⟨h, fun body sent hreply => by simp [repliedTo] at hreply⟩

/-- **In every run a 200 reply names its request exactly when the body has a
version**, but for the request 0. -/
theorem namesRequest_run_iff (files : TestFiles) (es : List Event) :
    ∀ m ∈ moves (step files) Sys.init es, ∀ body sent reqId, repliedTo m = some (body, sent) →
      CarriesId body reqId →
      (NamesRequest body reqId sent ↔
        (∃ version, body.field "version" = .ok version) ∨ reqId = .int 0) := by
  intro m hm body sent reqId hreply hid
  have hinit : AllKnown Sys.init := fun p hp => absurd hp List.not_mem_nil
  have hinv := moves_invariant (I := AllKnown) (G := fun _ => True)
    (fun m hm _ h => (names_step hm h).1) hinit (fun _ _ => trivial) m hm
  exact namesRequest_iff hid ((names_step hinv.1 hinv.2.1).2 body sent hreply)

/-! ## An inquiry without a version -/

/-- It carries a `requestId` and nothing else. -/
def unversioned : Json :=
  .obj [("availableSpectrumInquiryRequests", .arr [.obj [("requestId", .str "first")]])]

theorem carriesId_unversioned : CarriesId unversioned (.str "first") :=
  ⟨[("requestId", .str "first")], [], rfl, rfl⟩

def unversionedRun : List Event := [.inquiry (.ofJson unversioned) .lowest ""]

/-- The reply to it. -/
def unversionedMove : Move Sys Event Output where
  before := Sys.init
  event := .inquiry (.ofJson unversioned) .lowest ""
  output := (arrive (fun _ _ => .absent) Sys.init (.ofJson unversioned) .lowest "").2
  after := (arrive (fun _ _ => .absent) Sys.init (.ofJson unversioned) .lowest "").1

def unversionedReply : Json :=
  errResp ⟨.int 0, .str ""⟩ 102 "Missing Param."
    (some (.obj [("missingParams", .arr [.str (keyErrorText (.str "version"))])]))

theorem namesRequest_unversioned :
    unversionedMove ∈ moves (step fun _ _ => .absent) Sys.init unversionedRun ∧
      repliedTo unversionedMove = some (unversioned, unversionedReply) ∧
      (NamesRequest unversioned (.str "first") unversionedReply ↔
        (∃ version, unversioned.field "version" = .ok version) ∨ Json.str "first" = .int 0) :=
  ⟨List.mem_cons_self, rfl, namesRequest_run_iff (fun _ _ => .absent) unversionedRun unversionedMove
    List.mem_cons_self _ _ _ rfl carriesId_unversioned⟩

/-- Its reply is for the request 0. -/
theorem unversioned_named_zero :
    ¬ ∀ files es, ∀ m ∈ moves (step files) Sys.init es, ∀ body sent reqId,
      repliedTo m = some (body, sent) → CarriesId body reqId → NamesRequest body reqId sent := by
  intro h
  have hnames := h (fun _ _ => .absent) unversionedRun unversionedMove List.mem_cons_self
    unversioned unversionedReply (.str "first") rfl carriesId_unversioned
  have hid : (Except.ok (Json.int 0) : Except PyErr Json) = .ok (.str "first") := hnames.1
  simp at hid

end AfcDut.Simulator.Theorems.ReplyNames
