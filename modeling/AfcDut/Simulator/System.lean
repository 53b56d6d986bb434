import AfcDut.Simulator.Post
import AfcDut.Lts.Trace

/-!
# The simulator as a transition system

Handlers of several inquiries may be active at once. Each runs atomically
between its two suspension points, the `holdResponse` loop and the
`respWaitTime` sleep; the calls of the test scripts run in between.
-/

namespace AfcDut.Simulator

open Py Service

/-- Where an accepted inquiry is waiting. -/
inductive Stage where
  | holding
  | sleeping
  deriving DecidableEq

/-- An accepted inquiry that has not been answered. `body` is its request and
`selected` the test vector chosen for it, `none` when none was; no handler
reads these two. -/
structure Pending where
  inq : Inquiry
  stage : Stage
  body : Json
  selected : Option Json

structure Sys where
  g : Globals
  flight : List Pending

def Sys.init : Sys := ⟨.init, []⟩

inductive Event where
  | inquiry (r : HttpRequest) (d : Draws) (now : String)
  | wake (i : Nat) (now : String)
  | setResponse (tc : TestCaseControl)
  | setParams (holdResponse : Option Json)
  | reset (json : Option Json)

/-- The time at which an answer would be written. -/
def eventTime : Event → String
  | .inquiry _ _ now => now
  | .wake _ now => now
  | _ => ""

/-- What a step sends. -/
inductive Output where
  | silent
  | serverError
  | refused (status : Nat) (body : Json)
  | notFound (body : Json)
  | answered (p : Pending) (a : Answer)
  | control (status : Nat)

/-- The vector the settings in force choose for an accepted inquiry: the
random one, or the one in the file named by test vector, prefix, phase and
country. An inquiry that names neither channels nor ranges may choose none. -/
def selectedVector (files : TestFiles) (g : Globals) (inq : Inquiry) : Option Json :=
  if g.isRandom then some g.vectors
  else
    match (vecName g inq).map (vectorFile files g) with
    | some (.ok (.json v)) => some v
    | _ => none

/-- Past the hold: sleep, or answer. -/
def proceed (s : Sys) (p : Pending) (others : List Pending) (now : String) : Sys × Output :=
  if s.g.respWaitTime > 0 then
    match sleep s.g.respWaitTime with
    -- the sleep stands outside every `try`
    | .error _ => (⟨s.g, others⟩, .serverError)
    | .ok () => (⟨s.g, others ++ [{ p with stage := .sleeping }]⟩, .silent)
  else
    let r := respond s.g p.inq now
    (⟨r.1, others⟩, .answered p r.2)

/-- An inquiry arrives and runs up to its first suspension point. -/
def arrive (files : TestFiles) (s : Sys) (r : HttpRequest) (d : Draws) (now : String) :
    Sys × Output :=
  match validate s.g r d with
  | (g, .refused status body) => (⟨g, s.flight⟩, .refused status body)
  | (g, .crashed) => (⟨g, s.flight⟩, .serverError)
  | (g, .accepted inq) =>
      let selected := selectedVector files g inq
      match loadVector files g inq with
      | (g, .notFound body) => (⟨g, s.flight⟩, .notFound body)
      | (g, .crashed) => (⟨g, s.flight⟩, .serverError)
      | (g, .ready) =>
          let p : Pending := ⟨inq, .holding, g.recvBody, selected⟩
          if g.holdResponse.truthy then (⟨g, s.flight ++ [p]⟩, .silent)
          else proceed ⟨g, s.flight⟩ p s.flight now

/-- A waiting handler gets its turn: the loop looks at `hold_response` again,
the sleep is over. -/
def wake (s : Sys) (p : Pending) (others : List Pending) (now : String) : Sys × Output :=
  match p.stage with
  -- `hold_response` is looked at once more, `resp_wait_time` only now
  | .holding => if s.g.holdResponse.truthy then (s, .silent) else proceed s p others now
  | .sleeping =>
      let r := respond s.g p.inq now
      (⟨r.1, others⟩, .answered p r.2)

def step (files : TestFiles) : Lts.StepFn Sys Event Output
  | s, .inquiry r d now => some (arrive files s r d now)
  | s, .wake i now => (s.flight[i]?).map fun p => wake s p (s.flight.eraseIdx i) now
  | s, .setResponse tc =>
      let r := setResponse s.g tc
      some (⟨r.1, s.flight⟩, .control r.2)
  | s, .setParams holdResponse => some (⟨setParams s.g holdResponse, s.flight⟩, .control 200)
  | s, .reset json =>
      let r := reset s.g json
      some (⟨r.1, s.flight⟩, .control r.2)

end AfcDut.Simulator
