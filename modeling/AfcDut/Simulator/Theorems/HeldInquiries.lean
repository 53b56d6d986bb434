import AfcDut.Simulator.Flight

/-!
# Held inquiries and their vectors

The vector chosen for an inquiry goes into a global and is read again when the
inquiry is answered, after any hold or sleep. The answers are made from the
inquiries' own vectors as long as no inquiry replaces the vector of another
one that is still in flight.
-/

namespace AfcDut.Simulator.Theorems.HeldInquiries

open Py Service Lts

/-- The inquiry that was answered with success, and the response. -/
def succeeded : Output → Option (Pending × Json)
  | .answered p (.success sent) => some (p, sent)
  | _ => none

/-- A success that is sent is the selected vector's, for the inquiry's own
channels, ranges and identification. -/
def AnswersOwn (m : Move Sys Event Output) : Prop :=
  ∀ a ∈ succeeded m.output, ∃ v ∈ a.1.selected,
    successResponse v a.1.inq (eventTime m.event) = .ok a.2

instance (m : Move Sys Event Output) : Decidable (AnswersOwn m) :=
  inferInstanceAs (Decidable (∀ a ∈ succeeded m.output, _))

/-- The vector is the inquiry's own, or one that answers nothing. -/
def Own (vectors : Json) (p : Pending) : Prop := p.selected = some vectors ∨ ¬ HasResponses vectors

instance (vectors : Json) (p : Pending) : Decidable (Own vectors p) :=
  inferInstanceAs (Decidable (_ ∨ _))

/-- The inquiry that arrives, if it is accepted, with the globals after its
validation. -/
def accepts (g : Globals) : Event → Option (Globals × Inquiry)
  | .inquiry r d _ =>
      match validate g r d with
      | (g₁, .accepted inq) => some (g₁, inq)
      | _ => none
  | _ => none

/-- The inquiry that arrives, if it is accepted, finds in flight only inquiries
of the vector selected for it; if no vector is to be selected, it finds no
responses. -/
def Undisturbing (files : TestFiles) (m : Move Sys Event Output) : Prop :=
  ∀ a ∈ accepts m.before.g m.event,
    (∀ v ∈ selectedVector files a.1 a.2, ∀ p ∈ m.before.flight, Own v p) ∧
    (a.1.isRandom = false → vecName a.1 a.2 = none → ¬ HasResponses m.before.g.vectors)

instance (files : TestFiles) (m : Move Sys Event Output) : Decidable (Undisturbing files m) :=
  inferInstanceAs (Decidable (∀ a ∈ accepts m.before.g m.event, _))

/-- The vector in force is the own one of every inquiry in flight. -/
def AllOwn (s : Sys) : Prop := ∀ p ∈ s.flight, Own s.g.vectors p

theorem successResponse_own {vectors sent : Json} {p : Pending} {now : String}
    (hown : Own vectors p) (h : successResponse vectors p.inq now = .ok sent) :
    ∃ v ∈ p.selected, successResponse v p.inq now = .ok sent := by
  rcases hown with hown | hno
  · exact ⟨vectors, hown, h⟩
  · exact absurd (hasResponses_of_success h) hno

/-- A turn answers from the vector in force and keeps the others in flight. -/
theorem turn_own {s t : Sys} {p : Pending} {others : List Pending} {now : String} {o : Output}
    (h : Turn s p others now (t, o)) (hown : Own s.g.vectors p)
    (hothers : ∀ q ∈ others, Own s.g.vectors q) :
    AllOwn t ∧ ∀ a ∈ succeeded o, ∃ v ∈ a.1.selected, successResponse v a.1.inq now = .ok a.2 := by
  cases h with
  | sleeps =>
      refine ⟨?_, by simp [succeeded]⟩
      intro q hq
      rcases List.mem_append.mp hq with hq | hq
      · exact hothers q hq
      · rw [List.mem_singleton.mp hq]
        exact hown
  | dies _ => exact ⟨hothers, by simp [succeeded]⟩
  | answers =>
      obtain ⟨sent', hframe⟩ := respond_frame s.g p.inq now
      constructor
      · intro q hq
        change Own (respond s.g p.inq now).1.vectors q
        rw [hframe]
        exact hothers q hq
      · intro a ha
        cases hanswer : (respond s.g p.inq now).2 with
        | failure sent => rw [hanswer] at ha; simp [succeeded] at ha
        | success sent =>
            rw [hanswer, succeeded, Option.mem_some] at ha
            subst ha
            exact successResponse_own hown (respond_success_iff.mp hanswer)

/-- Once the vector of an accepted inquiry is loaded, the one in force is the own
one of the new inquiry and of all in flight. -/
theorem loaded_own {files : TestFiles} {s t : Sys} {r : HttpRequest} {d : Draws} {now : String}
    {o : Output} {g₁ g₂ : Globals} {inq : Inquiry}
    (hok : Undisturbing files ⟨s, .inquiry r d now, o, t⟩) (hown : AllOwn s)
    (hval : validate s.g r d = (g₁, .accepted inq))
    (hload : loadVector files g₁ inq = (g₂, .ready)) :
    (∀ q ∈ s.flight, Own g₂.vectors q) ∧ Own g₂.vectors (pendingOf files g₁ g₂ inq) := by
  have haccepts : accepts s.g (.inquiry r d now) = some (g₁, inq) := by simp only [accepts, hval]
  obtain ⟨hselected, hnone⟩ := hok (g₁, inq) haccepts
  rcases loadVector_vectors hload with ⟨v, hv, hvectors, -⟩ | ⟨hsel, -⟩
  · rw [hvectors]
    exact ⟨hselected v hv, .inl hv⟩
  · -- nothing is selected: an old vector stays, and must answer nothing
    obtain ⟨hrandom, hvectors, hready⟩ := loadVector_keeps hval hload hsel
    rw [hvectors]
    exact ⟨hown, .inr (hnone hrandom (hready.mp rfl))⟩

/-- An arriving inquiry has its own vector in force once it is loaded. -/
theorem arrive_own {files : TestFiles} {s t : Sys} {r : HttpRequest} {d : Draws} {now : String}
    {o : Output} (h : arrive files s r d now = (t, o))
    (hok : Undisturbing files ⟨s, .inquiry r d now, o, t⟩) (hown : AllOwn s) :
    AllOwn t ∧ ∀ a ∈ succeeded o, ∃ v ∈ a.1.selected, successResponse v a.1.inq now = .ok a.2 := by
  have hkeep : ∀ {g : Globals}, g.vectors = s.g.vectors → AllOwn ⟨g, s.flight⟩ := by
    intro g hg p hp
    change Own g.vectors p
    rw [hg]
    exact hown p hp
  have hcases := arrive_cases files s r d now
  rw [h] at hcases
  generalize hr : (t, o) = result at hcases
  cases hcases with
  | @refused g₁ status body hval =>
      obtain ⟨rfl, rfl⟩ := Prod.mk.inj hr
      have hsame := validate_refused_vectors (g := s.g) (r := r) (d := d) (by rw [hval]; rfl)
      rw [hval] at hsame
      exact ⟨hkeep hsame, by simp [succeeded]⟩
  | @crashed g₁ hval =>
      obtain ⟨rfl, rfl⟩ := Prod.mk.inj hr
      have hsame := validate_refused_vectors (g := s.g) (r := r) (d := d) (by rw [hval]; rfl)
      rw [hval] at hsame
      exact ⟨hkeep hsame, by simp [succeeded]⟩
  | @notFound g₁ g₂ inq body hval hload | @unreadable g₁ g₂ inq hval hload =>
      obtain ⟨rfl, rfl⟩ := Prod.mk.inj hr
      refine ⟨hkeep ?_, by simp [succeeded]⟩
      rcases loadVector_vectors hload with ⟨v, -, -, hl⟩ | ⟨hsel, -⟩
      · exact absurd hl (by simp)
      · exact (loadVector_keeps hval hload hsel).2.1
  | held hval hload _ =>
      obtain ⟨rfl, rfl⟩ := Prod.mk.inj hr
      obtain ⟨hothers, hnew⟩ := loaded_own hok hown hval hload
      refine ⟨?_, by simp [succeeded]⟩
      intro q hq
      rcases List.mem_append.mp hq with hq | hq
      · exact hothers q hq
      · rw [List.mem_singleton.mp hq]
        exact hnew
  | @proceeds g₁ g₂ inq hval hload _ =>
      obtain ⟨hothers, hnew⟩ := loaded_own hok hown hval hload
      have hturn := proceed_cases ⟨g₂, s.flight⟩ (pendingOf files g₁ g₂ inq) s.flight now
      rw [← hr] at hturn
      exact turn_own hturn hnew hothers

/-- One move keeps the vectors with their inquiries. -/
theorem allOwn_step {files : TestFiles} {m : Move Sys Event Output} (hm : m.Of (step files))
    (hok : Undisturbing files m) (hown : AllOwn m.before) : AllOwn m.after ∧ AnswersOwn m := by
  obtain ⟨s, e, o, t⟩ := m
  change step files s e = some (t, o) at hm
  change AllOwn s at hown
  cases e with
  | inquiry r d now =>
      rw [step, Option.some.injEq] at hm
      exact arrive_own hm hok hown
  | wake i now =>
      simp only [step, Option.map_eq_some_iff] at hm
      obtain ⟨p, hp, hw⟩ := hm
      have hothers : ∀ q ∈ s.flight.eraseIdx i, Own s.g.vectors q := fun q hq =>
        hown q (List.mem_of_mem_eraseIdx hq)
      rcases wake_cases s p (s.flight.eraseIdx i) now with hkeeps | hturn
      · rw [hkeeps, Prod.mk.injEq] at hw
        obtain ⟨rfl, rfl⟩ := hw
        exact ⟨hown, by simp [AnswersOwn, succeeded]⟩
      · rw [hw] at hturn
        exact turn_own hturn (hown p (List.mem_of_getElem? hp)) hothers
  | setResponse tc =>
      simp only [step, Option.some.injEq, Prod.mk.injEq] at hm
      obtain ⟨rfl, rfl⟩ := hm
      refine ⟨?_, by simp [AnswersOwn, succeeded]⟩
      intro p hp
      rcases setResponse_vectors s.g tc with hsame | hno
      · change Own (setResponse s.g tc).1.vectors p
        rw [hsame]
        exact hown p hp
      · exact .inr hno
  | setParams hold =>
      simp only [step, Option.some.injEq, Prod.mk.injEq] at hm
      obtain ⟨rfl, rfl⟩ := hm
      exact ⟨hown, by simp [AnswersOwn, succeeded]⟩
  | reset json =>
      simp only [step, Option.some.injEq, Prod.mk.injEq] at hm
      obtain ⟨rfl, rfl⟩ := hm
      exact ⟨fun p _ => .inr (reset_vectors s.g json), by simp [AnswersOwn, succeeded]⟩

/-- **Held inquiries.** In a run from start-up in which no accepted inquiry
replaces the vector of another one in flight, and none without a vector of its
own finds an old one, every success is made from its inquiry's own vector. -/
theorem answersOwn_run (files : TestFiles) (es : List Event)
    (hok : ∀ m ∈ moves (step files) Sys.init es, Undisturbing files m) :
    ∀ m ∈ moves (step files) Sys.init es, AnswersOwn m := by
  intro m hm
  have hinit : AllOwn Sys.init := fun p hp => absurd hp List.not_mem_nil
  obtain ⟨hstep, hbefore, -⟩ :=
    moves_invariant (fun m hm hg h => (allOwn_step hm hg h).1) hinit hok m hm
  exact (allOwn_step hstep (hok m hm) hbefore).2

/-! ## A retry in the next phase -/

/-- One vector for phase 1 and one for phase 2 of the test. -/
def twoPhaseFiles : TestFiles := fun _ name =>
  if name = "AFCD_UAU_1_phase1.json" then .json defaultVector
  else if name = "AFCD_UAU_1_phase2.json" then
    .json (.obj [("responses", .obj [("availableSpectrumInquiryResponses", .arr [.obj [
      ("availableFrequencyInfo", .arr [freqInfoItem 1 20])]])])])
  else .absent

/-- The phase of the test is configured, with a hold. -/
def holdPhase (n : Int) : Event :=
  .setResponse { unitUnderTest := some "AFCD"
                 purpose := some "UAU"
                 testVector := some 1
                 phase := some n
                 respWaitTime := none
                 holdResponse := some (.bool true)
                 countryCode := some (.str "US")
                 channelWidth := none
                 random := none
                 onlyRandomPower := none
                 differenceLastPicks := none }

/-- An inquiry of all frequencies. -/
def inquireAll (reqId : String) : Event :=
  .inquiry (.ofJson (inquiryBody reqId [certUS]
    [("inquiredFrequencyRange", .arr [inquireRange 5925 6425])])) .lowest "arrived"

/-- A held inquiry is retried, and both are released. -/
def retried : List Event :=
  [holdPhase 1, inquireAll "first", inquireAll "retry", .setParams (some (.bool false)),
    .wake 0 "now", .wake 0 "now"]

theorem answersOwn_retried :
    (moves (step twoPhaseFiles) Sys.init retried).length = 6 ∧
      ∀ m ∈ moves (step twoPhaseFiles) Sys.init retried, AnswersOwn m :=
  ⟨by decide +kernel, answersOwn_run twoPhaseFiles retried (by decide +kernel)⟩

/-- A held inquiry of phase 1 is answered from the vector of phase 2, once an
inquiry of that phase has arrived. -/
theorem held_answered_foreign :
    ¬ ∀ files es, ∀ m ∈ moves (step files) Sys.init es, AnswersOwn m := by
  intro h
  have hall := h twoPhaseFiles
    [holdPhase 1, inquireAll "first", holdPhase 2, inquireAll "second",
      .setParams (some (.bool false)), .wake 0 "now"]
  revert hall
  decide +kernel

end AfcDut.Simulator.Theorems.HeldInquiries
