import AfcDut.Simulator.RandomRuns
import AfcDut.Simulator.Flight
import AfcDut.Simulator.Reading

/-!
# Acceptance and the answer

An accepted inquiry that nothing interferes with is answered from the vector
selected for it when that vector can be turned into a response. The two
halves of the handler disagree on four shapes of request: no certification,
nothing inquired and no vector configured, and, for a class the vector offers,
an inquired list that is not a list or that has an element no set can hold.
Between them the handler may die in a sleep that is too long.
-/

namespace AfcDut.Simulator.Theorems.Acceptance

open Py Service Lts

/-! ## The uninterrupted handler -/

/-- What the handler sends when an inquiry arrives and, if it sleeps, is woken
before anything else happens. -/
def handled (files : TestFiles) (s : Sys) (r : HttpRequest) (d : Draws) (now : String) :
    List Output :=
  (moves (step files) s [.inquiry r d now, .wake s.flight.length now]).map Move.output

/-- The inquiry is answered with the success response of its own vector. -/
def AnsweredFromSelection (files : TestFiles) (s : Sys) (r : HttpRequest) (d : Draws)
    (now : String) (inq : Inquiry) : Prop :=
  ∃ p vectors sent, .answered p (.success sent) ∈ handled files s r d now ∧ p.inq = inq ∧
    p.selected = some vectors ∧ successResponse vectors inq now = .ok sent

section Handled

variable {files : TestFiles} {s : Sys} {r : HttpRequest} {d : Draws} {now : String}
  {g₁ g₂ : Globals} {inq : Inquiry}

/-- Past the choice of the vector, it sleeps or not, and answers. -/
theorem handled_ready (now : String) (hhold : g₂.holdResponse.truthy = false)
    (hshort : g₂.respWaitTime ≤ sleepLimit)
    (hval : validate s.g r d = (g₁, .accepted inq)) (hload : loadVector files g₁ inq = (g₂, .ready)) :
    ∃ p silent, handled files s r d now = silent ++ [.answered p (respond g₂ inq now).2] ∧
      (∀ o ∈ silent, o = .silent) ∧ p.inq = inq ∧ p.selected = selectedVector files g₁ inq := by
  have harrive : arrive files s r d now =
      proceed ⟨g₂, s.flight⟩ (pendingOf files g₁ g₂ inq) s.flight now := by
    simp only [arrive, hval, hload, hhold, Bool.false_eq_true, if_false]
    rfl
  -- asleep it is woken by the second event; awake the second event finds nothing
  by_cases hwait : g₂.respWaitTime > 0
  · refine ⟨{ pendingOf files g₁ g₂ inq with stage := .sleeping }, [.silent], ?_, ?_, rfl, rfl⟩
    · rw [proceed_sleeps (s := ⟨g₂, s.flight⟩) hwait (not_lt.mpr hshort)] at harrive
      simp only [handled, moves, step, harrive, List.getElem?_concat_length, Option.map_some, wake,
        List.map_cons, List.map_nil, List.cons_append, List.nil_append]
      rfl
    · intro o ho
      exact List.mem_singleton.mp ho
  · refine ⟨pendingOf files g₁ g₂ inq, [], ?_, by simp, rfl, rfl⟩
    have hnone : s.flight[s.flight.length]? = none := List.getElem?_eq_none (le_refl _)
    simp only [handled, moves, step, harrive, proceed, if_neg hwait, hnone, Option.map_none,
      List.map_cons, List.map_nil, List.nil_append]
    rfl

/-- A wait that is too long ends it without an answer. -/
theorem handled_dies (now : String) (hhold : g₂.holdResponse.truthy = false)
    (hlong : sleepLimit < g₂.respWaitTime)
    (hval : validate s.g r d = (g₁, .accepted inq)) (hload : loadVector files g₁ inq = (g₂, .ready)) :
    handled files s r d now = [.serverError] := by
  have harrive : arrive files s r d now = (⟨g₂, s.flight⟩, .serverError) := by
    simp only [arrive, hval, hload, hhold, Bool.false_eq_true, if_false]
    exact proceed_dies hlong
  have hnone : s.flight[s.flight.length]? = none := List.getElem?_eq_none (le_refl _)
  simp only [handled, moves, step, harrive, hnone, Option.map_none, List.map_cons, List.map_nil]

theorem loadVector_of_selected {vectors : Json}
    (h : selectedVector files g₁ inq = some vectors) :
    ∃ g₂, loadVector files g₁ inq = (g₂, .ready) ∧ g₂.vectors = vectors := by
  cases hload : loadVector files g₁ inq with
  | mk g₂ l =>
      rcases loadVector_vectors hload with ⟨v, hv, hvectors, rfl⟩ | ⟨hnone, -⟩
      · rw [h, Option.some.injEq] at hv
        exact ⟨g₂, rfl, hvectors.trans hv.symm⟩
      · rw [h] at hnone
        exact absurd hnone (by simp)

/-- An accepted inquiry without a hold is answered from its selection exactly
when the wait is not too long and the selected vector can be turned into a
response. -/
theorem answeredFromSelection_iff (hhold : s.g.holdResponse.truthy = false)
    (hval : validate s.g r d = (g₁, .accepted inq)) :
    AnsweredFromSelection files s r d now inq ↔
      s.g.respWaitTime ≤ sleepLimit ∧ ∃ vectors, selectedVector files g₁ inq = some vectors ∧
        ∃ sent, successResponse vectors inq now = .ok sent := by
  have hsettings : (loadVector files g₁ inq).1.settings = s.g.settings := loaded_settings hval rfl
  have hhold₂ : (loadVector files g₁ inq).1.holdResponse.truthy = false :=
    (congrArg (fun t : Settings => t.holdResponse.truthy) hsettings).trans hhold
  have hwait₂ : (loadVector files g₁ inq).1.respWaitTime = s.g.respWaitTime :=
    congrArg Settings.respWaitTime hsettings
  constructor
  · rintro ⟨p, vectors, sent, hmem, hinq, hselected, hsent⟩
    cases hload : loadVector files g₁ inq with
    | mk g₂ l =>
        rw [hload] at hhold₂ hwait₂
        cases l with
        | ready =>
            by_cases hshort : s.g.respWaitTime ≤ sleepLimit
            · refine ⟨hshort, vectors, ?_, sent, hsent⟩
              obtain ⟨p', silent, hout, hsilent, -, hselected'⟩ :=
                handled_ready now hhold₂ (hwait₂.le.trans hshort) hval hload
              rw [hout, List.mem_append, List.mem_singleton] at hmem
              rcases hmem with hmem | hmem
              · exact absurd (hsilent _ hmem) (by simp)
              · rw [Output.answered.injEq] at hmem
                rw [← hselected', ← hmem.1, hselected]
            · -- the handler dies in its sleep
              have hlong : sleepLimit < g₂.respWaitTime := (not_le.mp hshort).trans_eq hwait₂.symm
              rw [handled_dies now hhold₂ hlong hval hload] at hmem
              simp at hmem
        | notFound body | crashed =>
            -- nothing is in flight for it: the wake is not enabled
            simp [handled, moves, step, arrive, hval, hload] at hmem
  · rintro ⟨hshort, vectors, hselected, sent, hsent⟩
    obtain ⟨g₂, hload, hvectors⟩ := loadVector_of_selected hselected
    rw [hload] at hhold₂ hwait₂
    obtain ⟨p, silent, hout, -, hinq, hsel⟩ :=
      handled_ready now hhold₂ (hwait₂.le.trans hshort) hval hload
    have hanswer : (respond g₂ inq now).2 = .success sent :=
      respond_success_iff.mpr (by rw [hvectors, hsent])
    refine ⟨p, vectors, sent, ?_, hinq, hsel.trans hselected, hsent⟩
    rw [hout, hanswer]
    simp

end Handled

/-! ## What the request must have -/

/-- The number of the vector file for the request. -/
def requestVec (g : Globals) (req : Json) : Option String :=
  if g.scriptTestVector ≠ 0 then some (toString g.scriptTestVector)
  else if inquires req "inquiredFrequencyRange" && inquires req "inquiredChannels" then some "3"
  else if inquires req "inquiredChannels" then some "2"
  else if inquires req "inquiredFrequencyRange" then some "1"
  else none

/-- The vector that answers the request offers channels of the class: a random
one those of every width, if it has channels at all; another one what its file
says. -/
def AnswersClass (files : TestFiles) (g : Globals) (req : Json) (k : Key) : Prop :=
  if g.isRandom then
    (g.scriptTestVector = 2 ∨ g.scriptTestVector = 3) ∧ ∃ bw : Bandwidth, k = .num bw.opClass
  else
    ∃ vec v, requestVec g req = some vec ∧ vectorFile files g vec = .ok (.json v) ∧ OffersClass v k

/-- What the rest of the handler needs beyond the validation: a wait that can be
slept through, and the shapes from which a response can be built. -/
structure Answerable (files : TestFiles) (g : Globals) (req : Json) : Prop where
  waits : g.respWaitTime ≤ sleepLimit
  certified : ∃ certIds, certificationIds req = .ok certIds ∧ certIds ≠ []
  selects : g.isRandom = true ∨ ∃ vec, requestVec g req = some vec
  readable : ∀ k, AnswersClass files g req k → ReadableClass req k

/-- The file that the settings name for the request exists and is well formed,
or random mode is on. -/
def FileReady (files : TestFiles) (g : Globals) (req : Json) : Prop :=
  g.isRandom = false → ∀ vec, requestVec g req = some vec →
    ∃ v, vectorFile files g vec = .ok (.json v) ∧ WellFormed v

/-! ## What the validation has established -/

section Accepted

variable {files : TestFiles} {g g₁ : Globals} {r : HttpRequest} {d : Draws} {body req : Json}
  {ids : ReplyIds} {inq : Inquiry}

theorem vecName_accepted (hjson : r.json = some body) (hids : identify body = (ids, .ok req))
    (hval : validate g r d = (g₁, .accepted inq)) : vecName g₁ inq = requestVec g req := by
  obtain ⟨-, -, hchannel, hrange⟩ := accepted_reading hjson hids hval
  have hsettings := validated_settings hval
  have htv : g₁.scriptTestVector = g.scriptTestVector :=
    congrArg Settings.scriptTestVector hsettings
  rw [vecName, Inquiry.vec, requestVec, htv, hchannel, hrange]

/-- The file named for the accepted inquiry is the one named for its request. -/
theorem vectorFile_accepted (hval : validate g r d = (g₁, .accepted inq)) (vec : String) :
    vectorFile files g₁ vec = vectorFile files g vec := by
  have hsettings := validated_settings hval
  have hcountry : g₁.countryCode = g.countryCode := congrArg Settings.countryCode hsettings
  have hfileName : g₁.filenamePrefix = g.filenamePrefix := congrArg Settings.filenamePrefix hsettings
  have hphase : g₁.phase = g.phase := congrArg Settings.phase hsettings
  simp only [vectorFile, vectorFilename, hcountry, hfileName, hphase]

/-- Random mode answers from a random document. -/
theorem accepted_randomBuilt (hready : RandomReady g) (hrandom : g.isRandom = true)
    (hval : validate g r d = (g₁, .accepted inq)) :
    RandomBuilt g₁.vectors g.scriptTestVector := by
  obtain ⟨_, _, _, i, g', -, -, -, -, -, hbuild, rfl, -⟩ := validate_accepted hval
  have hreceived : RandomReady (received g r) := hready
  have hbuilt := buildOnce_built hreceived hrandom hbuild
  exact hbuilt

/-- Outside random mode the vector comes from the file named for the request. -/
theorem selectedVector_file_iff (hjson : r.json = some body) (hids : identify body = (ids, .ok req))
    (hval : validate g r d = (g₁, .accepted inq)) (hmode : g₁.isRandom = false) (v : Json) :
    selectedVector files g₁ inq = some v ↔
      ∃ vec, requestVec g req = some vec ∧ vectorFile files g vec = .ok (.json v) := by
  rw [selectedVector, if_neg (by simp [hmode]), vecName_accepted hjson hids hval]
  cases requestVec g req with
  | none => simp
  | some vec =>
      simp only [Option.map_some, vectorFile_accepted hval, Option.some.injEq, exists_eq_left']
      cases vectorFile files g vec with
      | error e => simp
      | ok f => cases f <;> simp

/-- The vector selected for an accepted inquiry is well formed, and offers the
classes of the settings. -/
theorem selected_spec (hready : RandomReady g) (hjson : r.json = some body)
    (hids : identify body = (ids, .ok req)) (hfile : FileReady files g req)
    (hval : validate g r d = (g₁, .accepted inq)) :
    ((∃ v, selectedVector files g₁ inq = some v) ↔
      g.isRandom = true ∨ ∃ vec, requestVec g req = some vec) ∧
    ∀ v, selectedVector files g₁ inq = some v → WellFormed v ∧
      ∀ k, OffersClass v k ↔ AnswersClass files g req k := by
  have hsettings := validated_settings hval
  have hmode : g₁.isRandom = g.isRandom := congrArg Settings.isRandom hsettings
  cases hrandom : g.isRandom with
  | true =>
      rw [hrandom] at hmode
      have hsel : selectedVector files g₁ inq = some g₁.vectors := by
        rw [selectedVector, if_pos hmode]
      have hbuilt := accepted_randomBuilt hready hrandom hval
      refine ⟨by simp [hsel], fun v hv => ?_⟩
      rw [hsel, Option.some.injEq] at hv
      subst hv
      refine ⟨hbuilt.wellFormed, fun k => ?_⟩
      obtain ⟨p, mask, hfield⟩ := hbuilt
      rw [AnswersClass, if_pos hrandom]
      exact offersClass_random hfield
  | false =>
      rw [hrandom] at hmode
      have hsel : ∀ v, selectedVector files g₁ inq = some v ↔ _ :=
        selectedVector_file_iff hjson hids hval hmode
      constructor
      · simp only [hsel, Bool.false_eq_true, false_or]
        constructor
        · rintro ⟨v, vec, hvec, -⟩
          exact ⟨vec, hvec⟩
        · rintro ⟨vec, hvec⟩
          obtain ⟨v, hv, -⟩ := hfile hrandom vec hvec
          exact ⟨v, vec, hvec, hv⟩
      · intro v hv
        obtain ⟨vec, hvec, hvfile⟩ := (hsel v).mp hv
        obtain ⟨v', hv', hwf⟩ := hfile hrandom vec hvec
        rw [hvfile, Except.ok.injEq, TestFile.json.injEq] at hv'
        subst hv'
        refine ⟨hwf, fun k => ?_⟩
        rw [AnswersClass, if_neg (by simp [hrandom])]
        constructor
        · intro h
          exact ⟨vec, v, hvec, hvfile, h⟩
        · rintro ⟨vec', v', hvec', hvfile', h⟩
          rw [hvec, Option.some.injEq] at hvec'
          subst hvec'
          rw [hvfile, Except.ok.injEq, TestFile.json.injEq] at hvfile'
          exact hvfile' ▸ h

end Accepted

/-- **Acceptance and the answer.** In a reachable state without a hold whose
vector file is there and well formed (or in random mode), an accepted inquiry
is answered with the success response of its vector exactly when the wait is
not too long and the request has the shapes that the response building needs. -/
theorem accepted_answered_iff {files : TestFiles} {s : Sys}
    (hreach : Reachable (step files) Sys.init s) (hhold : s.g.holdResponse.truthy = false)
    {r : HttpRequest} {d : Draws} {body req : Json} {ids : ReplyIds} {inq : Inquiry}
    (hjson : r.json = some body) (hids : identify body = (ids, .ok req))
    (hfile : FileReady files s.g req) (haccept : (validate s.g r d).2 = .accepted inq)
    (now : String) :
    AnsweredFromSelection files s r d now inq ↔ Answerable files s.g req := by
  have hval : validate s.g r d = ((validate s.g r d).1, .accepted inq) := Prod.ext rfl haccept
  obtain ⟨hselects, hspec⟩ :=
    selected_spec (reachable_randomReady hreach) hjson hids hfile hval
  have hsuccess : ∀ v, selectedVector files (validate s.g r d).1 inq = some v →
      ((∃ sent, successResponse v inq now = .ok sent) ↔
        (∃ certIds, certificationIds req = .ok certIds ∧ certIds ≠ []) ∧
          ∀ k, AnswersClass files s.g req k → ReadableClass req k) := by
    intro v hv
    obtain ⟨hwf, hoffers⟩ := hspec v hv
    simp only [accepted_success_iff hjson hids hval hwf, hoffers]
  rw [answeredFromSelection_iff hhold hval]
  constructor
  · rintro ⟨hwaits, v, hv, hsent⟩
    obtain ⟨hcert, hread⟩ := (hsuccess v hv).mp hsent
    exact ⟨hwaits, hcert, hselects.mp ⟨v, hv⟩, hread⟩
  · intro hans
    obtain ⟨v, hv⟩ := hselects.mpr hans.selects
    exact ⟨hans.waits, v, hv, (hsuccess v hv).mpr ⟨hans.certified, hans.readable⟩⟩

/-! ## No certification -/

/-- A test vector directory with the default vector only. -/
def defaultFiles : TestFiles := fun _ _ => .json defaultVector

theorem wellFormed_defaultVector : WellFormed defaultVector where
  document := ⟨_, _, [], rfl, rfl⟩
  response := by
    intro resp hresp
    rw [show vectorResponse defaultVector = .ok (.obj [
      ("response", .obj [("responseCode", .int 0), ("shortDescription", .str "SUCCESS")]),
      ("availableFrequencyInfo", .arr []), ("availableChannelInfo", .arr [])]) from rfl,
      Except.ok.injEq] at hresp
    subst hresp
    refine ⟨⟨_, rfl⟩, fun info hinfo => ⟨[], ?_, by simp⟩, fun info hinfo => ⟨[], ?_, by simp⟩⟩
    · exact (Option.some.inj (Json.field_obj_eq_ok.mp hinfo)).symm
    · exact (Option.some.inj (Json.field_obj_eq_ok.mp hinfo)).symm

/-- An inquiry of one channel, with the given certifications. -/
def certifiedBy (certIds : List Json) : Json :=
  inquiryBody "one" certIds [("inquiredChannels", .arr [inquireChannels 133 [7]])]

/-- The inquiry `validate` accepts at start-up, if it does. -/
def acceptedAtStart (body : Json) : Option Inquiry :=
  match (validate .init (.ofJson body) .lowest).2 with
  | .accepted inq => some inq
  | _ => none

theorem validate_acceptedAtStart {body : Json} {inq : Inquiry}
    (h : acceptedAtStart body = some inq) :
    (validate .init (.ofJson body) .lowest).2 = .accepted inq := by
  unfold acceptedAtStart at h
  split at h
  · rename_i inq' hverdict
    rw [hverdict, Option.some.inj h]
  · simp at h

theorem accepted_answered_certUS :
    ∃ inq, AnsweredFromSelection defaultFiles Sys.init (.ofJson (certifiedBy [certUS])) .lowest
        "now" inq ↔
      Answerable defaultFiles Sys.init.g (requestOf (certifiedBy [certUS])) := by
  obtain ⟨inq, hinq⟩ := Option.isSome_iff_exists.mp
    (show (acceptedAtStart (certifiedBy [certUS])).isSome = true by decide +kernel)
  have hids : identify (certifiedBy [certUS]) = (⟨.str "one", .str "1.4"⟩,
      .ok (requestOf (certifiedBy [certUS]))) := rfl
  exact ⟨inq, accepted_answered_iff (Reachable.refl _) rfl rfl hids
    (fun _ _ _ => ⟨defaultVector, rfl, wellFormed_defaultVector⟩)
    (validate_acceptedAtStart hinq) "now"⟩

/-- A request with an empty list of certifications is accepted and answered
with a general failure. -/
theorem uncertified_accepted :
    ¬ ∀ (files : TestFiles) (s : Sys), Reachable (step files) Sys.init s →
      s.g.holdResponse.truthy = false → ∀ r d body ids req inq now, r.json = some body →
      identify body = (ids, .ok req) → FileReady files s.g req →
      (validate s.g r d).2 = .accepted inq → AnsweredFromSelection files s r d now inq := by
  intro h
  obtain ⟨inq, hinq⟩ := Option.isSome_iff_exists.mp
    (show (acceptedAtStart (certifiedBy [])).isSome = true by decide +kernel)
  obtain ⟨p, vectors, sent, hmem, -⟩ := h defaultFiles Sys.init (Reachable.refl _) rfl
    (.ofJson (certifiedBy [])) .lowest (certifiedBy []) ⟨.str "one", .str "1.4"⟩
    (requestOf (certifiedBy [])) inq "now" rfl rfl
    (fun _ _ _ => ⟨defaultVector, rfl, wellFormed_defaultVector⟩) (validate_acceptedAtStart hinq)
  have hnone : ∀ o ∈ handled defaultFiles Sys.init (.ofJson (certifiedBy [])) .lowest "now",
      ∀ p sent, o ≠ .answered p (.success sent) := by
    have hout : (handled defaultFiles Sys.init (.ofJson (certifiedBy [])) .lowest "now").all
        (fun o => match o with | .answered _ (.success _) => false | _ => true) = true := by
      decide +kernel
    intro o ho p sent heq
    have := List.all_eq_true.mp hout o ho
    rw [heq] at this
    exact absurd this (by simp)
  exact hnone _ hmem p sent rfl

end AfcDut.Simulator.Theorems.Acceptance
