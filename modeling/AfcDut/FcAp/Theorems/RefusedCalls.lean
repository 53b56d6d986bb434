import AfcDut.FcAp.System
import AfcDut.Simulator.System

/-!
# What a refused `/set-response` leaves behind

Both services assign globals before the missing key raises: the simulator the
phase, the fixed-client service all that a purpose clears. A refused call
changes nothing only where these have those values already.
-/

namespace AfcDut.FcAp.Theorems.RefusedCalls

open Py Service Lts

/-! ## The simulator -/

/-- In the simulator, a `/set-response` that is answered 400 changes
nothing. -/
def SimulatorKeeps (files : Simulator.TestFiles) (events : List Simulator.Event) : Prop :=
  ∀ m ∈ moves (Simulator.step files) Simulator.Sys.init events, ∀ tc,
    m.event = .setResponse tc → m.output = .control 400 → m.after = m.before

/-- The call names unit, purpose and test vector, or no phase is set. -/
def SimulatorMeets (g : Simulator.Globals) (tc : Simulator.TestCaseControl) : Prop :=
  (tc.unitUnderTest.isSome = true ∧ tc.purpose.isSome = true ∧ tc.testVector.isSome = true) ∨
    g.phase = none

theorem simulator_setResponse_cases (g : Simulator.Globals) (tc : Simulator.TestCaseControl) :
    (tc.unitUnderTest.isSome = true ∧ tc.purpose.isSome = true ∧ tc.testVector.isSome = true ∧
        (Simulator.setResponse g tc).2 = 200) ∨
      (¬ (tc.unitUnderTest.isSome = true ∧ tc.purpose.isSome = true ∧
          tc.testVector.isSome = true) ∧
        Simulator.setResponse g tc = ({ g with phase := none }, 400)) := by
  unfold Simulator.setResponse
  cases hunit : tc.unitUnderTest with
  | none => right; simp
  | some unit =>
      cases hpurpose : tc.purpose with
      | none => right; simp
      | some purpose =>
          cases hvector : tc.testVector with
          | none => right; simp
          | some testVector =>
              left
              refine ⟨rfl, rfl, rfl, ?_⟩
              dsimp only
              split
              · rfl
              · rfl

theorem simulator_unchanged_iff (g : Simulator.Globals) (tc : Simulator.TestCaseControl) :
    ((Simulator.setResponse g tc).2 = 400 → (Simulator.setResponse g tc).1 = g) ↔
      SimulatorMeets g tc := by
  unfold SimulatorMeets
  rcases simulator_setResponse_cases g tc with ⟨hunit, hpurpose, hvector, hok⟩ | ⟨hno, hrefused⟩
  · rw [hok]
    exact iff_of_true (fun h => absurd h (by decide)) (.inl ⟨hunit, hpurpose, hvector⟩)
  · rw [hrefused]
    constructor
    · intro h
      exact .inr (congrArg Simulator.Globals.phase (h rfl)).symm
    · intro h _
      rcases h with h | h
      · exact absurd h hno
      · show { g with phase := none } = g
        rw [← h]

/-! ## The fixed-client service -/

def ServiceKeeps (files : String → TestFile) (events : List Event) : Prop :=
  ∀ m ∈ moves (step files) Sys.init events, ∀ tc,
    m.event = .setResponse tc → m.output = .control 400 → m.after = m.before

/-- The call names no purpose, or a unit too, or what a purpose clears is
clear. -/
def ServiceMeets (g : Globals) (tc : TestCaseControl) : Prop :=
  tc.purpose = none ∨ tc.unitUnderTest.isSome = true ∨
    (g.phase = none ∧ g.vectors = .obj [] ∧ g.recvHeaders = .obj [] ∧ g.recvBody = .obj [] ∧
      g.sentResponse = .obj [] ∧ g.respWaitTime = 0)

theorem cleared_eq_iff (g : Globals) :
    g.cleared = g ↔ g.phase = none ∧ g.vectors = .obj [] ∧ g.recvHeaders = .obj [] ∧
      g.recvBody = .obj [] ∧ g.sentResponse = .obj [] ∧ g.respWaitTime = 0 := by
  constructor
  · intro h
    rw [← h]
    exact ⟨rfl, rfl, rfl, rfl, rfl, rfl⟩
  · intro h
    obtain ⟨vectors, headers, body, valid, sent, wait, phase⟩ := g
    simp only at h
    obtain ⟨rfl, rfl, rfl, rfl, rfl, rfl⟩ := h
    rfl

theorem service_unchanged_iff (g : Globals) (tc : TestCaseControl) :
    ((setResponse g tc).2 = 400 → (setResponse g tc).1 = g) ↔ ServiceMeets g tc := by
  unfold setResponse ServiceMeets
  rw [← cleared_eq_iff]
  cases hpurpose : tc.purpose with
  | none => simp
  | some purpose =>
      cases hunit : tc.unitUnderTest with
      | none => simp
      | some unit => simp

/-! ## Runs -/

theorem simulatorKeeps_iff (files : Simulator.TestFiles) (events : List Simulator.Event) :
    SimulatorKeeps files events ↔
      ∀ m ∈ moves (Simulator.step files) Simulator.Sys.init events, ∀ tc,
        m.event = .setResponse tc → SimulatorMeets m.before.g tc := by
  refine forall_congr' fun m => forall_congr' fun hm => forall_congr' fun tc =>
    forall_congr' fun hevent => ?_
  have hstep : Simulator.step files m.before m.event = some (m.after, m.output) := moves_of m hm
  rw [hevent] at hstep
  simp only [Simulator.step, Option.some.injEq, Prod.mk.injEq] at hstep
  rw [← simulator_unchanged_iff, ← hstep.1, ← hstep.2, Simulator.Output.control.injEq]
  refine imp_congr_right fun _ => ?_
  constructor
  · intro h
    exact congrArg Simulator.Sys.g h
  · intro h
    rw [h]

theorem serviceKeeps_iff (files : String → TestFile) (events : List Event) :
    ServiceKeeps files events ↔
      ∀ m ∈ moves (step files) Sys.init events, ∀ tc,
        m.event = .setResponse tc → ServiceMeets m.before.g tc := by
  refine forall_congr' fun m => forall_congr' fun hm => forall_congr' fun tc =>
    forall_congr' fun hevent => ?_
  have hstep : step files m.before m.event = some (m.after, m.output) := moves_of m hm
  rw [hevent] at hstep
  simp only [step, Option.some.injEq, Prod.mk.injEq] at hstep
  rw [← service_unchanged_iff, ← hstep.1, ← hstep.2, Output.control.injEq]
  refine imp_congr_right fun _ => ?_
  constructor
  · intro h
    exact congrArg Sys.g h
  · intro h
    rw [h]

/-- In every run of either service, the refused calls change nothing if and
only if every call meets its condition. -/
theorem refused_keeps_iff (simFiles : Simulator.TestFiles) (simEvents : List Simulator.Event)
    (files : String → TestFile) (events : List Event) :
    (SimulatorKeeps simFiles simEvents ↔
      ∀ m ∈ moves (Simulator.step simFiles) Simulator.Sys.init simEvents, ∀ tc,
        m.event = .setResponse tc → SimulatorMeets m.before.g tc) ∧
    (ServiceKeeps files events ↔
      ∀ m ∈ moves (step files) Sys.init events, ∀ tc,
        m.event = .setResponse tc → ServiceMeets m.before.g tc) :=
  ⟨simulatorKeeps_iff simFiles simEvents, serviceKeeps_iff files events⟩

/-- A test case with a wait and a phase, and a call without its unit. -/
def simulatorCalls : List Simulator.Event :=
  [.setResponse ⟨some "AFCD", some "SRS", some 1, some 2, some 5, none, none, none, none, none, none⟩,
    .setResponse ⟨none, some "SRS", some 1, none, none, none, none, none, none, none, none⟩]

def serviceCalls : List Event :=
  [.setResponse ⟨some "AFCD", some "SRS", some 1, some 2, some 5, none, none⟩,
    .setResponse ⟨none, some "SRS", none, none, none, none, none⟩]

/-- In both services the refused second call takes the phase of the first
away. -/
theorem refused_changes :
    (¬ ∀ files events, SimulatorKeeps files events) ∧ ¬ ∀ files events, ServiceKeeps files events := by
  have hsimulator : ¬ ∀ files events, SimulatorKeeps files events := by
    intro h
    have hkept := h (fun _ _ => .absent) simulatorCalls _ (List.mem_cons_of_mem _ List.mem_cons_self)
      _ rfl rfl
    exact absurd (congrArg (fun s => s.g.phase) hkept) (by decide)
  have hservice : ¬ ∀ files events, ServiceKeeps files events := by
    intro h
    have hkept := h (fun _ => .absent) serviceCalls _ (List.mem_cons_of_mem _ List.mem_cons_self)
      _ rfl rfl
    exact absurd (congrArg (fun s => s.g.phase) hkept) (by decide)
  exact ⟨hsimulator, hservice⟩

end AfcDut.FcAp.Theorems.RefusedCalls
