import AfcDut.Simulator.RandomSpec
import AfcDut.Simulator.Frame

/-!
# Inquiries in flight

How a waiting handler takes its turn, and what each step does to the vector
in force: only an accepted inquiry gives it responses.
-/

namespace AfcDut.Simulator

open Py Service

/-! ## Turns of a waiting handler -/

/-- Past the hold, the handler sleeps, dies of a wait that is too long, or
answers. -/
inductive Turn (s : Sys) (p : Pending) (others : List Pending) (now : String) :
    Sys × Output → Prop
  | sleeps : Turn s p others now (⟨s.g, others ++ [{ p with stage := .sleeping }]⟩, .silent)
  | dies : sleepLimit < s.g.respWaitTime → Turn s p others now (⟨s.g, others⟩, .serverError)
  | answers : Turn s p others now
      (⟨(respond s.g p.inq now).1, others⟩, .answered p (respond s.g p.inq now).2)

theorem sleepLimit_pos : 0 < sleepLimit := by decide

theorem proceed_cases (s : Sys) (p : Pending) (others : List Pending) (now : String) :
    Turn s p others now (proceed s p others now) := by
  unfold proceed
  by_cases hwait : s.g.respWaitTime > 0
  · rw [if_pos hwait, sleep_of_pos hwait]
    by_cases hlong : sleepLimit < s.g.respWaitTime
    · rw [if_pos hlong]
      exact .dies hlong
    · rw [if_neg hlong]
      exact .sleeps
  · rw [if_neg hwait]
    exact .answers

/-- A wait that is too long ends the handler. -/
theorem proceed_dies {s : Sys} {p : Pending} {others : List Pending} {now : String}
    (hlong : sleepLimit < s.g.respWaitTime) :
    proceed s p others now = (⟨s.g, others⟩, .serverError) := by
  have hwait : s.g.respWaitTime > 0 := sleepLimit_pos.trans hlong
  rw [proceed, if_pos hwait, sleep_of_pos hwait, if_pos hlong]

/-- A shorter one is slept through. -/
theorem proceed_sleeps {s : Sys} {p : Pending} {others : List Pending} {now : String}
    (hwait : s.g.respWaitTime > 0) (hshort : ¬ sleepLimit < s.g.respWaitTime) :
    proceed s p others now = (⟨s.g, others ++ [{ p with stage := .sleeping }]⟩, .silent) := by
  rw [proceed, if_pos hwait, sleep_of_pos hwait, if_neg hshort]

/-- A waiting handler stays held, or takes its turn. -/
theorem wake_cases (s : Sys) (p : Pending) (others : List Pending) (now : String) :
    wake s p others now = (s, .silent) ∨ Turn s p others now (wake s p others now) := by
  unfold wake
  split
  · split
    · exact .inl rfl
    · exact .inr (proceed_cases s p others now)
  · exact .inr .answers

/-- What an inquiry is answered depends on no global but the vector. -/
theorem respond_congr {g g' : Globals} (h : g'.vectors = g.vectors) (inq : Inquiry) (now : String) :
    (respond g' inq now).2 = (respond g inq now).2 := by
  unfold respond
  rw [h]
  cases g.vectors.truthy with
  | false => rfl
  | true =>
      cases successResponse g.vectors inq now with
      | error e => rfl
      | ok sent => rfl

theorem turn_answered {s t : Sys} {p q : Pending} {others : List Pending} {now : String} {a : Answer}
    (h : Turn s p others now (t, .answered q a)) : a = (respond t.g q.inq now).2 := by
  cases h with
  | answers =>
      obtain ⟨sent, hframe⟩ := respond_frame s.g p.inq now
      refine respond_congr ?_ p.inq now
      rw [hframe]

/-- An answer that is sent is made from the vector in force, which it leaves in
force. -/
theorem step_answered {files : TestFiles} {s t : Sys} {e : Event} {p : Pending} {a : Answer}
    (h : step files s e = some (t, .answered p a)) : a = (respond t.g p.inq (eventTime e)).2 := by
  cases e with
  | inquiry r d now =>
      rw [step, Option.some.injEq] at h
      have hcases := arrive_cases files s r d now
      rw [h] at hcases
      generalize hr : (t, Output.answered p a) = result at hcases
      cases hcases with
      | @proceeds g₁ g₂ inq _ _ _ =>
          have hturn := proceed_cases ⟨g₂, s.flight⟩ (pendingOf files g₁ g₂ inq) s.flight now
          rw [← hr] at hturn
          exact turn_answered hturn
      | _ => simp at hr
  | wake i now =>
      simp only [step, Option.map_eq_some_iff] at h
      obtain ⟨q, -, hw⟩ := h
      rcases wake_cases s q (s.flight.eraseIdx i) now with hkeeps | hturn
      · rw [hkeeps] at hw
        simp at hw
      · rw [hw] at hturn
        exact turn_answered hturn
  | setResponse tc => simp [step] at h
  | setParams hold => simp [step] at h
  | reset json => simp [step] at h

/-! ## The vector in force -/

/-- A document a response could be read from. -/
def HasResponses (vectors : Json) : Prop := ∃ responses, vectors.field "responses" = .ok responses

instance (vectors : Json) : Decidable (HasResponses vectors) :=
  match h : vectors.field "responses" with
  | .ok responses => isTrue ⟨responses, h⟩
  | .error _ => isFalse fun ⟨_, h'⟩ => absurd (h.symm.trans h') (by simp)

theorem hasResponses_of_success {vectors : Json} {inq : Inquiry} {now : String} {sent : Json}
    (h : successResponse vectors inq now = .ok sent) : HasResponses vectors := by
  simp only [successResponse, bind_eq_ok] at h
  obtain ⟨responses, hresponses, -⟩ := h
  exact ⟨responses, hresponses⟩

/-- An inquiry that is not accepted leaves the vector alone. -/
theorem validate_refused_vectors {g : Globals} {r : HttpRequest} {d : Draws}
    (h : (validate g r d).2.isAccepted = false) : (validate g r d).1.vectors = g.vectors := by
  have hreceived : (received g r).vectors = g.vectors := rfl
  rw [← hreceived]
  have hcases := validate_cases g r d
  generalize validate g r d = v at hcases h ⊢
  cases hcases with
  | refused ids a =>
      obtain ⟨sent, h⟩ := refuse_frame (received g r) ids a
      rw [h]
  | unsupported status body => rfl
  | crashed i _ _ _ hraises => exact buildOnce_raises_vectors hraises
  | accepted => exact absurd h (by simp [Verdict.isAccepted])

/-- Outside random mode the validation leaves the vector alone. -/
theorem validate_vectors_of_not_random {g : Globals} {r : HttpRequest} {d : Draws}
    (hrandom : g.isRandom = false) : (validate g r d).1.vectors = g.vectors := by
  have hmode : (received g r).isRandom = false := hrandom
  refine (validate_keeps fun cfis => ?_).2
  rw [buildOnce, if_neg (by rw [hmode]; exact Bool.false_ne_true)]

/-- A vector that is selected and loaded is the one in force. -/
theorem loadVector_vectors {files : TestFiles} {g₁ g₂ : Globals} {inq : Inquiry} {l : Loaded}
    (h : loadVector files g₁ inq = (g₂, l)) :
    (∃ v, selectedVector files g₁ inq = some v ∧ g₂.vectors = v ∧ l = .ready) ∨
      (selectedVector files g₁ inq = none ∧ g₁.isRandom = false ∧ g₂.vectors = g₁.vectors ∧
        (l = .ready ↔ vecName g₁ inq = none)) := by
  unfold loadVector at h
  unfold selectedVector
  cases hrandom : g₁.isRandom with
  | true =>
      rw [if_pos hrandom, Prod.mk.injEq] at h
      left
      exact ⟨g₁.vectors, by simp, by rw [← h.1], h.2.symm⟩
  | false =>
      rw [if_neg (by simp [hrandom])] at h
      cases hvec : vecName g₁ inq with
      | none =>
          simp only [hvec, Prod.mk.injEq] at h
          right
          exact ⟨by simp, rfl, by rw [← h.1], by simp [← h.2]⟩
      | some vec =>
          simp only [hvec] at h
          cases hfile : vectorFile files g₁ vec with
          | error e =>
              simp only [hfile, Prod.mk.injEq] at h
              right
              exact ⟨by simp [hfile], rfl, by rw [← h.1], by simp [← h.2]⟩
          | ok f =>
              cases f with
              | absent =>
                  simp only [hfile, Prod.mk.injEq] at h
                  right
                  refine ⟨by simp [hfile], rfl, by rw [← h.1]; rfl, by simp [← h.2]⟩
              | malformed =>
                  simp only [hfile, Prod.mk.injEq] at h
                  right
                  exact ⟨by simp [hfile], rfl, by rw [← h.1], by simp [← h.2]⟩
              | json v =>
                  simp only [hfile, Prod.mk.injEq] at h
                  left
                  exact ⟨v, by simp [hfile], by rw [← h.1], h.2.symm⟩

/-- When no vector is selected for an accepted inquiry, the one in force stays. -/
theorem loadVector_keeps {files : TestFiles} {g g₁ g₂ : Globals} {r : HttpRequest} {d : Draws}
    {inq : Inquiry} {l : Loaded} (hval : validate g r d = (g₁, .accepted inq))
    (hload : loadVector files g₁ inq = (g₂, l)) (hnone : selectedVector files g₁ inq = none) :
    g₁.isRandom = false ∧ g₂.vectors = g.vectors ∧ (l = .ready ↔ vecName g₁ inq = none) := by
  rcases loadVector_vectors hload with ⟨v, hv, -⟩ | ⟨-, hrandom, hvectors, hready⟩
  · rw [hnone] at hv
    exact absurd hv (by simp)
  · have hsettings := validated_settings hval
    have hmode : g.isRandom = false := (congrArg Settings.isRandom hsettings).symm.trans hrandom
    have hsame := @validate_vectors_of_not_random g r d hmode
    rw [hval] at hsame
    exact ⟨hrandom, hvectors.trans hsame, hready⟩

/-- The calls of the test scripts keep the vector, or empty it of responses. -/
theorem setResponse_vectors (g : Globals) (tc : TestCaseControl) :
    (setResponse g tc).1.vectors = g.vectors ∨ ¬ HasResponses (setResponse g tc).1.vectors := by
  unfold setResponse
  split
  · right
    have hno : ∀ id, ¬ HasResponses (.obj [("testCaseID", id)]) := by
      rintro id ⟨responses, h⟩
      exact absurd h (by simp [Json.field_obj_eq_ok, Json.lookup_cons_ite])
    dsimp only
    split
    · exact hno _
    · exact hno _
  · exact .inl rfl

theorem reset_vectors (g : Globals) (json : Option Json) :
    ¬ HasResponses (reset g json).1.vectors := by
  have hempty : (reset g json).1.vectors = .obj [] := by
    unfold reset
    dsimp only
    split
    · split <;> rfl
    · rfl
  rw [hempty]
  rintro ⟨responses, h⟩
  exact absurd h (by simp [Json.field_obj_eq_ok])

end AfcDut.Simulator
