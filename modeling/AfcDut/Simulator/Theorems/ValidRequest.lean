import AfcDut.Simulator.Frame

/-!
# The `valid_request` flag

`valid_request` is raised by an accepted inquiry and lowered only by `/reset`.
The status therefore tells the truth about the last inquiry in a run exactly
when no inquiry is refused while the flag is up.
-/

namespace AfcDut.Simulator.Theorems.ValidRequest

open Py Service Lts

/-- History: whether the last inquiry received passed the validation. -/
def lastPassed (s : Sys) (e : Event) (last : Bool) : Bool :=
  match e with
  | .inquiry r d _ => (validate s.g r d).2.isAccepted
  | _ => last

/-- The simulator, watched by that history variable. -/
abbrev watched (files : TestFiles) : StepFn (Sys × Bool) Event Output :=
  watch (step files) lastPassed

/-- If the status shows a non-empty `receivedRequest`, its `valid_request` is
the verdict on the last inquiry. -/
def FlagAgrees (w : Sys × Bool) : Prop :=
  ∀ body flag, (getStatus w.1.g).field "receivedRequest" = .ok body →
    (getStatus w.1.g).field "valid_request" = .ok (.bool flag) →
    body.truthy = true → (flag = true ↔ w.2 = true)

theorem flagAgrees_iff (w : Sys × Bool) :
    FlagAgrees w ↔ (w.1.g.recvBody.truthy = true → (w.1.g.validRequest = true ↔ w.2 = true)) := by
  have hbody : (getStatus w.1.g).field "receivedRequest" = .ok w.1.g.recvBody := rfl
  have hflag : (getStatus w.1.g).field "valid_request" = .ok (.bool w.1.g.validRequest) := rfl
  constructor
  · intro h
    exact h _ _ hbody hflag
  · intro h body flag hb hf
    rw [hbody, Except.ok.injEq] at hb
    rw [hflag, Except.ok.injEq, Json.bool.injEq] at hf
    rw [← hb, ← hf]
    exact h

instance (w : Sys × Bool) : Decidable (FlagAgrees w) :=
  decidable_of_iff _ (flagAgrees_iff w).symm

/-- An inquiry that arrives while the flag is up, and leaves a non-empty
`receivedRequest`, passes. -/
def NotRefusedWhileUp (m : Move (Sys × Bool) Event Output) : Prop :=
  ∀ r d now, m.event = .inquiry r d now → m.before.1.g.validRequest = true →
    (recordedBody m.before.1.g r).truthy = true → Passes m.before.1.g r d

/-- What an inquiry does to the two globals of the status. -/
theorem inquiry_status (files : TestFiles) (s : Sys) (r : HttpRequest) (d : Draws) (now : String) :
    (arrive files s r d now).1.g.recvBody = recordedBody s.g r ∧
    ((arrive files s r d now).1.g.validRequest = true ↔
      s.g.validRequest = true ∨ Passes s.g r d) := by
  obtain ⟨vectors, sent, h⟩ := arrive_frame files s r d now
  rw [h]
  exact ⟨validate_recvBody s.g r d, validate_validRequest s.g r d⟩

/-- Any other step keeps both globals, or empties the received request. -/
theorem other_status {files : TestFiles} {s t : Sys} {e : Event} {o : Output}
    (h : step files s e = some (t, o)) (hne : ∀ r d now, e ≠ .inquiry r d now) :
    (t.g.recvBody = s.g.recvBody ∧ t.g.validRequest = s.g.validRequest) ∨
      t.g.recvBody.truthy = false := by
  cases e with
  | inquiry r d now => exact absurd rfl (hne r d now)
  | wake i now =>
      -- the second half of a handler writes neither global
      simp only [step, Option.map_eq_some_iff] at h
      obtain ⟨p, _, hw⟩ := h
      obtain ⟨sent, hframe⟩ := wake_frame s p (s.flight.eraseIdx i) now
      rw [hw] at hframe
      left
      rw [hframe]
      exact ⟨rfl, rfl⟩
  | setResponse tc =>
      simp only [step, Option.some.injEq, Prod.mk.injEq] at h
      rw [← h.1]
      unfold setResponse
      split
      · right
        dsimp only
        split <;> rfl
      · exact .inl ⟨rfl, rfl⟩
  | setParams hold =>
      simp only [step, Option.some.injEq, Prod.mk.injEq] at h
      rw [← h.1]
      exact .inl ⟨rfl, rfl⟩
  | reset json =>
      simp only [step, Option.some.injEq, Prod.mk.injEq] at h
      rw [← h.1]
      right
      unfold reset
      dsimp only
      split
      · split <;> rfl
      · rfl

/-- One move keeps the agreement when no inquiry is refused while the flag is
up. -/
theorem flagAgrees_step {files : TestFiles} {m : Move (Sys × Bool) Event Output}
    (hm : m.Of (watched files)) (hok : NotRefusedWhileUp m) (h : FlagAgrees m.before) :
    FlagAgrees m.after := by
  rw [flagAgrees_iff] at h ⊢
  obtain ⟨hstep, hlast⟩ := watch_of hm
  rw [hlast]
  by_cases hinq : ∃ r d now, m.event = .inquiry r d now
  · obtain ⟨r, d, now, he⟩ := hinq
    rw [he, step, Option.some.injEq] at hstep
    obtain ⟨hbody, hflag⟩ := inquiry_status files m.before.1 r d now
    rw [hstep] at hbody hflag
    intro hne
    rw [hbody] at hne
    rw [hflag, he]
    constructor
    · intro hup
      exact hup.elim (fun hup => hok r d now he hup hne) id
    · exact Or.inr
  · have hkeep : lastPassed m.before.1 m.event m.before.2 = m.before.2 := by
      cases he : m.event with
      | inquiry r d now => exact absurd ⟨r, d, now, he⟩ hinq
      | _ => rfl
    rw [hkeep]
    rcases other_status hstep (fun r d now he => hinq ⟨r, d, now, he⟩) with ⟨hbody, hflag⟩ | hempty
    · rw [hbody, hflag]
      exact h
    · intro hne
      rw [hempty] at hne
      exact absurd hne Bool.false_ne_true

/-- **The flag over runs.** In a run from start-up the status agrees with the
last verdict after every step exactly when no inquiry that leaves a non-empty
`receivedRequest` is refused while `valid_request` is up. -/
theorem flagAgrees_run_iff (files : TestFiles) (es : List Event) :
    (∀ m ∈ moves (watched files) (Sys.init, false) es, FlagAgrees m.after) ↔
      ∀ m ∈ moves (watched files) (Sys.init, false) es, NotRefusedWhileUp m := by
  constructor
  · intro hall m hmem r d now he hup hne
    -- the flag is still up after the step, so agreement makes the verdict positive
    have hafter := (flagAgrees_iff m.after).mp (hall m hmem)
    obtain ⟨hstep, hlast⟩ := watch_of (moves_of m hmem)
    rw [he, step, Option.some.injEq] at hstep
    obtain ⟨hbody, hflag⟩ := inquiry_status files m.before.1 r d now
    rw [hstep] at hbody hflag
    have hpass := (hafter (hbody ▸ hne)).mp (hflag.mpr (.inl hup))
    rw [hlast, he] at hpass
    exact hpass
  · intro hok m hmem
    have hinit : FlagAgrees (Sys.init, false) := by
      rw [flagAgrees_iff]
      intro hne
      exact absurd hne Bool.false_ne_true
    exact (moves_invariant (fun _ hm hg => flagAgrees_step hm hg) hinit hok m hmem).2.2

/-- An accepted inquiry, then one without a device descriptor: the status
shows the second request and calls it valid. -/
theorem refused_shown_valid :
    ¬ ∀ es, FlagAgrees (final (watched fun _ _ => .json defaultVector) (Sys.init, false) es) := by
  intro h
  have hstale := h
    [.inquiry (.ofJson (inquiryBody "first" [certUS] [])) .lowest "now",
     .inquiry (.ofJson (.obj [("version", .str "1.4"), ("availableSpectrumInquiryRequests",
        .arr [.obj [("requestId", .str "second")]])])) .lowest "now"]
  revert hstale
  decide +kernel

end AfcDut.Simulator.Theorems.ValidRequest
