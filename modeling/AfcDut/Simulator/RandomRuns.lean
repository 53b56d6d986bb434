import AfcDut.Simulator.RandomSpec
import AfcDut.Simulator.Frame

/-!
# The vector of a random test over a run

In random mode the vector has no responses yet or those of a random document,
in every state a run reaches: only `build_random_vector` writes responses
while the mode is on.
-/

namespace AfcDut.Simulator

open Py Service Lts

/-- In random mode, the vector is a dictionary without responses, or with those
of a random document for the configured test vector. -/
def RandomReady (g : Globals) : Prop :=
  g.isRandom = true →
    (∃ kvs, g.vectors = .obj kvs ∧ kvs.lookup "responses" = none) ∨
      RandomBuilt g.vectors g.scriptTestVector

theorem randomReady_congr {g g' : Globals} (hrandom : g'.isRandom = g.isRandom)
    (hvectors : g'.vectors = g.vectors) (htv : g'.scriptTestVector = g.scriptTestVector) :
    RandomReady g' ↔ RandomReady g := by
  unfold RandomReady
  rw [hrandom, hvectors, htv]

/-- A vector that is built has random responses. -/
theorem buildRandomVector_built {g g' : Globals} {reqCfiBwX : List Json} {d : Draws}
    (h : buildRandomVector g reqCfiBwX d = (g', .ok ())) :
    RandomBuilt g'.vectors g.scriptTestVector := by
  obtain ⟨p, chans, kvs, -, -, -, rfl⟩ := buildRandomVector_eq_ok h
  refine ⟨p, randomMask (drawPsd p g.channelWidth g.differenceLastPicks d) chans, ?_⟩
  exact Json.field_obj_eq_ok.mpr (by rw [Json.lookup_assign, if_pos rfl])

/-- After a building that returns, random mode has its vector. -/
theorem buildOnce_built {g g' : Globals} {reqCfiBwX : List Json} {d : Draws}
    (hready : RandomReady g) (hrandom : g.isRandom = true)
    (h : buildOnce g reqCfiBwX d = (g', .ok ())) : RandomBuilt g'.vectors g.scriptTestVector := by
  rw [buildOnce, if_pos hrandom] at h
  rcases hready hrandom with ⟨kvs, hkvs, hnone⟩ | hbuilt
  · -- no responses yet: this inquiry builds them
    have hhas : g.vectors.has "responses" = .ok false := by
      rw [hkvs, Json.has_obj_iff, hnone]
      rfl
    rw [hhas] at h
    exact buildRandomVector_built h
  · -- an earlier one has: they are left alone
    obtain ⟨p, mask, hfield⟩ := hbuilt
    obtain ⟨kvs, hkvs, hlookup⟩ := Json.field_eq_ok hfield
    have hhas : g.vectors.has "responses" = .ok true := by
      rw [hkvs, Json.has_obj_iff, hlookup]
      rfl
    rw [hhas] at h
    rw [← (Prod.mk.inj h).1]
    exact ⟨p, mask, hfield⟩

theorem buildOnce_randomReady {g : Globals} (reqCfiBwX : List Json) (d : Draws)
    (hready : RandomReady g) : RandomReady (buildOnce g reqCfiBwX d).1 := by
  obtain ⟨picks, vectors, hframe⟩ := buildOnce_frame g reqCfiBwX d
  have htv : (buildOnce g reqCfiBwX d).1.scriptTestVector = g.scriptTestVector := by rw [hframe]
  cases hbuild : buildOnce g reqCfiBwX d with
  | mk g' result =>
      rw [hbuild] at hframe htv
      dsimp only at hframe htv
      cases result with
      | ok u =>
          intro hrandom
          rw [hframe] at hrandom
          right
          rw [htv]
          exact buildOnce_built hready hrandom hbuild
      | error e =>
          have hvectors : (buildOnce g reqCfiBwX d).1.vectors = g.vectors :=
            buildOnce_raises_vectors (e := e) (by rw [hbuild])
          rw [hbuild] at hvectors
          exact (randomReady_congr (by rw [hframe]) hvectors htv).mpr hready

theorem validate_randomReady {g : Globals} (r : HttpRequest) (d : Draws) (hready : RandomReady g) :
    RandomReady (validate g r d).1 := by
  have hreceived : RandomReady (received g r) := hready
  have hcases := validate_cases g r d
  generalize validate g r d = v at hcases ⊢
  cases hcases with
  | refused ids a =>
      obtain ⟨sent, h⟩ := refuse_frame (received g r) ids a
      rw [h]
      exact hreceived
  | unsupported status body => exact hreceived
  | crashed i => exact buildOnce_randomReady i.reqCfiBwX d hreceived
  | @accepted _ _ _ i _ _ _ _ _ _ => exact buildOnce_randomReady i.reqCfiBwX d hreceived

/-- In random mode no file is loaded. -/
theorem loadVector_random {g : Globals} (files : TestFiles) (inq : Inquiry)
    (h : g.isRandom = true) : loadVector files g inq = (g, .ready) := by
  rw [loadVector, if_pos h]

/-- In random mode an arriving inquiry writes only `sent_response` after its
validation. -/
theorem arrive_random_frame {s : Sys} (files : TestFiles) (r : HttpRequest) (d : Draws)
    (now : String) (hrandom : s.g.isRandom = true) :
    ∃ sent, (arrive files s r d now).1.g = { (validate s.g r d).1 with sentResponse := sent } := by
  have hsettings := validate_settings s.g r d
  have hmode : (validate s.g r d).1.isRandom = true :=
    (congrArg Settings.isRandom hsettings).trans hrandom
  have hcases := arrive_cases files s r d now
  generalize arrive files s r d now = v at hcases ⊢
  cases hcases with
  | @refused g₁ _ _ h => exact ⟨g₁.sentResponse, by rw [h]⟩
  | @crashed g₁ h => exact ⟨g₁.sentResponse, by rw [h]⟩
  | @notFound g₁ _ _ _ h hl | @unreadable g₁ _ _ h hl | @held g₁ _ _ h hl _ =>
      rw [h] at hmode ⊢
      rw [loadVector_random files _ hmode, Prod.mk.injEq] at hl
      exact ⟨g₁.sentResponse, by rw [← hl.1]⟩
  | @proceeds g₁ g₂ inq h hl _ =>
      rw [h] at hmode ⊢
      rw [loadVector_random files _ hmode, Prod.mk.injEq] at hl
      obtain ⟨sent, hp⟩ := proceed_frame ⟨g₁, s.flight⟩ (pendingOf files g₁ g₁ inq) s.flight now
      exact ⟨sent, by rw [← hl.1, hp]⟩

theorem arrive_randomReady {s : Sys} (files : TestFiles) (r : HttpRequest) (d : Draws)
    (now : String) (hready : RandomReady s.g) : RandomReady (arrive files s r d now).1.g := by
  by_cases hrandom : s.g.isRandom = true
  · obtain ⟨sent, h⟩ := arrive_random_frame files r d now hrandom
    rw [h]
    exact validate_randomReady r d hready
  · obtain ⟨vectors, sent, h⟩ := arrive_frame files s r d now
    have hsettings := validate_settings s.g r d
    intro harrive
    rw [h] at harrive
    exact absurd ((congrArg Settings.isRandom hsettings).symm.trans harrive) hrandom

theorem setResponse_randomReady {g : Globals} (tc : TestCaseControl) (hready : RandomReady g) :
    RandomReady (setResponse g tc).1 := by
  unfold setResponse
  split
  · dsimp only
    split
    · exact fun _ => .inl ⟨_, rfl, rfl⟩
    · exact fun h => absurd h Bool.false_ne_true
  · exact hready

theorem reset_randomReady (g : Globals) (json : Option Json) : RandomReady (reset g json).1 := by
  intro h
  have hoff : (reset g json).1.isRandom = false := by
    unfold reset
    dsimp only
    split
    · split <;> rfl
    · rfl
  rw [hoff] at h
  exact absurd h Bool.false_ne_true

theorem randomReady_step {files : TestFiles} {m : Move Sys Event Output} (hm : m.Of (step files))
    (hready : RandomReady m.before.g) : RandomReady m.after.g := by
  obtain ⟨s, e, o, t⟩ := m
  change step files s e = some (t, o) at hm
  cases e with
  | inquiry r d now =>
      rw [step, Option.some.injEq] at hm
      have h := arrive_randomReady files r d now hready
      rw [hm] at h
      exact h
  | wake i now =>
      simp only [step, Option.map_eq_some_iff] at hm
      obtain ⟨p, -, hw⟩ := hm
      obtain ⟨sent, hframe⟩ := wake_frame s p (s.flight.eraseIdx i) now
      rw [hw] at hframe
      change t.g = _ at hframe
      change RandomReady t.g
      rw [hframe]
      exact hready
  | setResponse tc =>
      simp only [step, Option.some.injEq, Prod.mk.injEq] at hm
      rw [← hm.1]
      exact setResponse_randomReady tc hready
  | setParams hold =>
      simp only [step, Option.some.injEq, Prod.mk.injEq] at hm
      rw [← hm.1]
      exact hready
  | reset json =>
      simp only [step, Option.some.injEq, Prod.mk.injEq] at hm
      rw [← hm.1]
      exact reset_randomReady s.g json

/-- Every reachable state is ready for random mode. -/
theorem reachable_randomReady {files : TestFiles} {s : Sys}
    (h : Reachable (step files) Sys.init s) : RandomReady s.g :=
  h.invariant (I := fun s => RandomReady s.g) (fun hr => absurd hr Bool.false_ne_true)
    fun _ hm => randomReady_step hm

end AfcDut.Simulator
