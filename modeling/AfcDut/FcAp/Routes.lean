import AfcDut.Service.Response

/-!
# The service for fixed-client connected access points

`routes.py` of `afc_fc_ap_service`: an older copy of the simulator's handlers
without the random mode. The validation reads the inquired channels and
ranges but computes no CFIs from them.
-/

namespace AfcDut.FcAp

open Py Service

structure Globals where
  vectors : Json
  recvHeaders : Json
  recvBody : Json
  validRequest : Bool
  sentResponse : Json
  respWaitTime : Int
  phase : Option Int
  filenamePrefix : String
  holdResponse : Json
  scriptTestVector : Int
  inquiryFile : Json
  countryCode : Json

/-- The globals of a freshly loaded module. -/
def Globals.init : Globals where
  vectors := .obj []
  recvHeaders := .obj []
  recvBody := .obj []
  validRequest := false
  sentResponse := .obj []
  respWaitTime := 0
  phase := none
  filenamePrefix := "default"
  holdResponse := .bool false
  scriptTestVector := 0
  inquiryFile := .null
  countryCode := .str "US"

/-- The reply `gen_err_resp` builds; unlike the simulator's it has no
`rulesetId`. -/
def errResp : ReplyIds → Int → String → Option Json → Json := errRespWith []

def genErrResp (g : Globals) (ids : ReplyIds) (respCode : Int) (shortDesc : String)
    (suppInfo : Option Json) : Globals × Json :=
  let sent := errResp ids respCode shortDesc suppInfo
  ({ g with sentResponse := sent }, sent)

/-! ## `AvailableSpectrum.post`, validation -/

structure InquiredChannels where
  operClassDict : List (Key × Json)
  hasChannel : Bool

structure InquiredRanges where
  freqRangeList : List (Json × Json)
  hasFreqRange : Bool

def readInquiredChannels (req : Json) : Except PyErr InquiredChannels := do
  match ← fieldItems req "inquiredChannels" with
  | none => pure ⟨[], false⟩
  | some items =>
      let dict ← operClassDict items
      -- no CFIs are computed here, so a `null` list of channels passes
      pure ⟨dict, decide (dict.length > 0)⟩

def readInquiredRanges (req : Json) : Except PyErr InquiredRanges := do
  match ← fieldItems req "inquiredFrequencyRange" with
  | none => pure ⟨[], false⟩
  | some items =>
      let ranges ← freqRangeList items
      pure ⟨ranges, decide (ranges.length > 0)⟩

structure Inquired where
  rulesetIds : List String
  channels : InquiredChannels
  ranges : InquiredRanges

/-- The `try` block, once the request is identified. -/
def readInquiry (g : Globals) (version req : Json) : Except Abort Inquired := do
  let rulesetIds ← checkDevice g.filenamePrefix g.countryCode version req
  let channels ← raising (readInquiredChannels req)
  let ranges ← raising (readInquiredRanges req)
  pure ⟨rulesetIds, channels, ranges⟩

def refuse (g : Globals) (ids : ReplyIds) : Abort → Globals × Verdict
  | .reply respCode shortDesc suppInfo =>
      let sent := genErrResp g ids respCode shortDesc suppInfo
      (sent.1, .refused 200 sent.2)
  | .raised _ => (g, .crashed)

def validateRequest (g : Globals) (ids : ReplyIds) (req : Json) : Globals × Verdict :=
  match readInquiry g ids.version req with
  | .error a => refuse g ids a.handled
  | .ok i =>
      ({ g with validRequest := true }, .accepted
        { reqId := ids.reqId
          version := ids.version
          rulesetIds := i.rulesetIds
          operClassDict := i.channels.operClassDict
          freqRangeList := i.ranges.freqRangeList
          hasChannel := i.channels.hasChannel
          hasFreqRange := i.ranges.hasFreqRange })

/-- The validation of a received request. The body is parsed, for the inquiry
file, before the content type is looked at. -/
def validate (g : Globals) (r : HttpRequest) : Globals × Verdict :=
  let g := { g with recvHeaders := .obj r.headers }
  if r.isJson ∧ r.json = none then
    refuse g ⟨.int 0, .str ""⟩ (Abort.raised .badRequest).handled
  else if r.contentType = some "application/json" then
    let body := r.json.getD .null
    let g := { g with recvBody := body }
    match identify body with
    | (ids, .error e) => refuse g ids (Abort.raised e).handled
    | (ids, .ok req) => validateRequest g ids req
  else ({ g with recvBody := .obj [] }, .refused 400 (unsupported r.contentType))

/-! ## `AvailableSpectrum.post`, test vector and response -/

def vectorFilename (g : Globals) (vec : String) : String :=
  -- the country is in the name of the default vector only
  if g.filenamePrefix = "default" then
    g.filenamePrefix ++ "_" ++ g.countryCode.text ++ ".json"
  else
    let n := g.phase.getD 0
    if n ≠ 0 then g.filenamePrefix ++ vec ++ "_phase" ++ toString n ++ ".json"
    else g.filenamePrefix ++ vec ++ ".json"

/-- Loading the vector file; the directory has no countries. -/
def loadVector (files : String → TestFile) (g : Globals) (inq : Inquiry) : Globals × Loaded :=
  match inq.vec g.scriptTestVector with
  | none => (g, .ready)
  | some vec =>
      match files (vectorFilename g vec) with
      | .absent =>
          let sent := genErrResp g ⟨inq.reqId, inq.version⟩ (-1) "General Failure" none
          (sent.1, .notFound sent.2)
      | .malformed => (g, .crashed)
      | .json v => ({ g with vectors := v }, .ready)

/-- The last part of the handler; `now` is the expiry time it writes. -/
def respond (g : Globals) (inq : Inquiry) (now : String) : Globals × Answer :=
  let failed :=
    let sent := genErrResp g ⟨inq.reqId, inq.version⟩ (-1) "General Failure" none
    (sent.1, Answer.failure sent.2)
  if g.vectors.truthy then
    match successResponse g.vectors inq now with
    | .ok sent => ({ g with sentResponse := sent }, .success sent)
    | .error _ => failed
  else failed

end AfcDut.FcAp
