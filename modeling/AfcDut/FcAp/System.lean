import AfcDut.FcAp.Routes
import AfcDut.Lts.Trace

/-!
# The fixed-client service as a transition system

The calls of the test scripts, `/set-response` and `/reset`, and the service
as a system in which they run between the suspension points of the inquiries.
A `/set-response` without a purpose changes single settings of the test in
force.
-/

namespace AfcDut.FcAp

open Py Service

/-! ## The calls -/

/-- The payload of `/set-response`. -/
structure TestCaseControl where
  unitUnderTest : Option String
  purpose : Option String
  testVector : Option Int
  phase : Option Int
  respWaitTime : Option Int
  holdResponse : Option Json
  countryCode : Option Json

/-- The globals a purpose clears. -/
def Globals.cleared (g : Globals) : Globals :=
  { g with
    phase := none
    vectors := .obj []
    recvHeaders := .obj []
    recvBody := .obj []
    sentResponse := .obj []
    respWaitTime := 0 }

/-- The settings that are set when they are given. -/
def Globals.set (g : Globals) (tc : TestCaseControl) : Globals :=
  { g with
    scriptTestVector := tc.testVector.getD g.scriptTestVector
    phase := tc.phase.or g.phase
    respWaitTime := tc.respWaitTime.getD g.respWaitTime
    holdResponse := tc.holdResponse.getD g.holdResponse
    countryCode := tc.countryCode.getD g.countryCode }

/-- `SetResponse.post`, with the status of its reply. -/
def setResponse (g : Globals) (tc : TestCaseControl) : Globals × Nat :=
  match tc.purpose with
  | none => (g.set tc, 200)
  | some purpose =>
      match tc.unitUnderTest with
      | some unit =>
          ({ g.cleared with filenamePrefix := unit ++ "_" ++ purpose ++ "_" }.set tc, 200)
      -- the missing key raises when the prefix is built, after the clearing
      | none => (g.cleared, 400)

/-- `/reset`, with the status of its reply; `country_code` stays. -/
def reset (g : Globals) (json : Option Json) : Globals × Nat :=
  let g := { g with
    vectors := .obj []
    recvHeaders := .obj []
    recvBody := .obj []
    sentResponse := .obj []
    respWaitTime := 0
    phase := none
    filenamePrefix := "default"
    scriptTestVector := 0
    holdResponse := .bool false
    validRequest := false }
  match json with
  | some (.obj kvs) =>
      match kvs.lookup "inquiryFile" with
      | some file => ({ g with inquiryFile := if file.truthy then file else .null }, 200)
      | none => ({ g with inquiryFile := .null }, 200)
  | _ => (g, 400)

/-! ## The system -/

/-- Where an accepted inquiry is waiting. -/
inductive Stage where
  | holding
  | sleeping
  deriving DecidableEq

structure Pending where
  inq : Inquiry
  stage : Stage

structure Sys where
  g : Globals
  flight : List Pending

def Sys.init : Sys := ⟨.init, []⟩

inductive Event where
  | inquiry (r : HttpRequest) (now : String)
  | wake (i : Nat) (now : String)
  | setResponse (tc : TestCaseControl)
  | reset (json : Option Json)

/-- What a step sends. -/
inductive Output where
  | silent
  | serverError
  | refused (status : Nat) (body : Json)
  | notFound (body : Json)
  | answered (a : Answer)
  | control (status : Nat)

/-- Past the hold: sleep, or answer. -/
def proceed (s : Sys) (p : Pending) (others : List Pending) (now : String) : Sys × Output :=
  if s.g.respWaitTime > 0 then
    match sleep s.g.respWaitTime with
    | .error _ => (⟨s.g, others⟩, .serverError)
    | .ok () => (⟨s.g, others ++ [{ p with stage := .sleeping }]⟩, .silent)
  else
    let r := respond s.g p.inq now
    (⟨r.1, others⟩, .answered r.2)

/-- An inquiry arrives and runs up to its first suspension point. -/
def arrive (files : String → TestFile) (s : Sys) (r : HttpRequest) (now : String) : Sys × Output :=
  match validate s.g r with
  | (g, .refused status body) => (⟨g, s.flight⟩, .refused status body)
  | (g, .crashed) => (⟨g, s.flight⟩, .serverError)
  | (g, .accepted inq) =>
      match loadVector files g inq with
      | (g, .notFound body) => (⟨g, s.flight⟩, .notFound body)
      | (g, .crashed) => (⟨g, s.flight⟩, .serverError)
      | (g, .ready) =>
          let p : Pending := ⟨inq, .holding⟩
          if g.holdResponse.truthy then (⟨g, s.flight ++ [p]⟩, .silent)
          else proceed ⟨g, s.flight⟩ p s.flight now

/-- A waiting handler gets its turn. -/
def wake (s : Sys) (p : Pending) (others : List Pending) (now : String) : Sys × Output :=
  match p.stage with
  | .holding => if s.g.holdResponse.truthy then (s, .silent) else proceed s p others now
  | .sleeping =>
      let r := respond s.g p.inq now
      (⟨r.1, others⟩, .answered r.2)

def step (files : String → TestFile) : Lts.StepFn Sys Event Output
  | s, .inquiry r now => some (arrive files s r now)
  | s, .wake i now => (s.flight[i]?).map fun p => wake s p (s.flight.eraseIdx i) now
  | s, .setResponse tc =>
      let r := setResponse s.g tc
      some (⟨r.1, s.flight⟩, .control r.2)
  | s, .reset json =>
      let r := reset s.g json
      some (⟨r.1, s.flight⟩, .control r.2)

end AfcDut.FcAp
