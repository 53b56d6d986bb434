import AfcDut.Simulator.Channels
import AfcDut.Service.Response

/-!
# Module state of the simulator

The globals of `routes.py`, the error replies, and the handlers the test
scripts call: `/set-response`, `/set-params`, `/get-status` and `/reset`.
Appending to the inquiry file is not modelled; nothing reads it back.
-/

namespace AfcDut.Simulator

open Py Service

structure Globals where
  vectors : Json
  recvHeaders : Json
  recvBody : Json
  validRequest : Bool
  sentResponse : Json
  respWaitTime : Int
  phase : Option Int
  filenamePrefix : String
  holdResponse : Json
  scriptTestVector : Int
  inquiryFile : Json
  randomPicks : List Json
  isRandom : Bool
  differenceLastPicks : Bool
  onlyRandomPower : Json
  countryCode : Json
  channelWidth : Json

/-- The globals of a freshly loaded module. -/
def Globals.init : Globals where
  vectors := .obj []
  recvHeaders := .obj []
  recvBody := .obj []
  validRequest := false
  sentResponse := .obj []
  respWaitTime := 0
  phase := none
  filenamePrefix := "default"
  holdResponse := .bool false
  scriptTestVector := 0
  inquiryFile := .null
  randomPicks := []
  isRandom := false
  differenceLastPicks := false
  onlyRandomPower := .bool false
  countryCode := .str "US"
  channelWidth := .int 80

/-- The reply `gen_err_resp` builds. -/
def errResp : ReplyIds → Int → String → Option Json → Json :=
  errRespWith [("rulesetId", .str "")]

/-- `gen_err_resp`: the reply is also remembered in `sent_response`. -/
def genErrResp (g : Globals) (ids : ReplyIds) (respCode : Int) (shortDesc : String)
    (suppInfo : Option Json) : Globals × Json :=
  let sent := errResp ids respCode shortDesc suppInfo
  ({ g with sentResponse := sent }, sent)

/-- The payload of `/set-response`. The first five fields are the ones the
API model declares and checks; the others are used as they come. -/
structure TestCaseControl where
  unitUnderTest : Option String
  purpose : Option String
  testVector : Option Int
  phase : Option Int
  respWaitTime : Option Int
  holdResponse : Option Json
  countryCode : Option Json
  channelWidth : Option Json
  random : Option Json
  onlyRandomPower : Option Json
  differenceLastPicks : Option Json

/-- `"k" in tc and tc["k"]`. -/
def isSet (field : Option Json) : Bool := field.any Json.truthy

/-- `vectors["testCaseID"]` as `/set-response` leaves it. -/
def testCaseID (unit purpose : String) (testVector : Int) (phase : Option Int) : Json :=
  .obj ([("unitUnderTest", .str unit), ("purpose", .str purpose), ("testVector", .int testVector)] ++
    (phase.map fun n => ("phase", .int n)).toList)

/-- `SetResponse.post`, with the status of its reply. -/
def setResponse (g : Globals) (tc : TestCaseControl) : Globals × Nat :=
  match tc.unitUnderTest, tc.purpose, tc.testVector with
  | some unit, some purpose, some testVector =>
      -- `valid_request` and `random_picks` are not among what is cleared
      let g := { g with
        phase := tc.phase
        vectors := .obj [("testCaseID", testCaseID unit purpose testVector tc.phase)]
        recvHeaders := .obj []
        recvBody := .obj []
        sentResponse := .obj []
        respWaitTime := tc.respWaitTime.getD 0
        isRandom := false
        filenamePrefix := unit ++ "_" ++ purpose
        scriptTestVector := testVector
        holdResponse := tc.holdResponse.getD g.holdResponse
        countryCode := tc.countryCode.getD g.countryCode
        channelWidth := tc.channelWidth.getD g.channelWidth }
      -- the two settings of the random mode keep their values outside it
      if isSet tc.random then
        ({ g with
          isRandom := true
          onlyRandomPower := tc.onlyRandomPower.getD (.bool false)
          differenceLastPicks := isSet tc.differenceLastPicks }, 200)
      else (g, 200)
  -- a missing key raises while `vectors` is being built, after `phase = None`
  | _, _, _ => ({ g with phase := none }, 400)

/-- `SetParams.post`. -/
def setParams (g : Globals) (holdResponse : Option Json) : Globals :=
  { g with holdResponse := holdResponse.getD g.holdResponse }

/-- `GetStatus.get`. -/
def getStatus (g : Globals) : Json :=
  .obj [("currentTestVector", g.vectors), ("receivedRequestHeaders", g.recvHeaders),
    ("receivedRequest", g.recvBody), ("sentResponse", g.sentResponse),
    ("valid_request", .bool g.validRequest)]

/-- `/reset`, with the status of its reply. The globals are cleared before
the body is looked at; `random_picks` and `country_code` stay. -/
def reset (g : Globals) (json : Option Json) : Globals × Nat :=
  let g := { g with
    vectors := .obj []
    recvHeaders := .obj []
    recvBody := .obj []
    sentResponse := .obj []
    respWaitTime := 0
    phase := none
    filenamePrefix := "default"
    scriptTestVector := 0
    holdResponse := .bool false
    validRequest := false
    isRandom := false
    differenceLastPicks := false
    onlyRandomPower := .bool false
    channelWidth := .int 80 }
  match json with
  | some (.obj kvs) =>
      -- only a dictionary has the `get` that is called
      match kvs.lookup "inquiryFile" with
      | some file => ({ g with inquiryFile := if file.truthy then file else .null }, 200)
      | none => ({ g with inquiryFile := .null }, 200)
  | _ => (g, 400)

end AfcDut.Simulator
