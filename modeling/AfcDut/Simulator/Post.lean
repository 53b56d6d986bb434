import AfcDut.Simulator.Random

/-!
# `AvailableSpectrum.post`

The handler in its three atomic parts: validation up to the line that sets
`valid_request = True`, the choice of the test vector, and, after any wait,
the response.
-/

namespace AfcDut.Simulator

open Py Service

/-! ## Validation -/

/-- What the `try` block leaves of `inquiredChannels`. -/
structure InquiredChannels where
  operClassDict : List (Key × Json)
  hasChannel : Bool
  reqCfiBwXByChan : List Json

/-- What the `try` block leaves of `inquiredFrequencyRange`. -/
structure InquiredRanges where
  freqRangeList : List (Json × Json)
  hasFreqRange : Bool
  reqCfiBwXByFreq : List Json

def readInquiredChannels (g : Globals) (req : Json) : Except PyErr InquiredChannels := do
  match ← fieldItems req "inquiredChannels" with
  | none => pure ⟨[], false, []⟩
  | some items =>
      let dict ← operClassDict items
      -- an empty list is the same as no list
      if dict.length > 0 then
        let byChan ← getCfiByInquiredChannelsBw g.countryCode (inquiredBandwidth g.channelWidth) items
        pure ⟨dict, true, byChan⟩
      else pure ⟨dict, false, []⟩

def readInquiredRanges (g : Globals) (req : Json) : Except PyErr InquiredRanges := do
  match ← fieldItems req "inquiredFrequencyRange" with
  | none => pure ⟨[], false, []⟩
  | some items =>
      let ranges ← freqRangeList items
      if ranges.length > 0 then
        let byFreq ← getCfiByInquiredFreqRangesBw g.countryCode (inquiredBandwidth g.channelWidth) items
        pure ⟨ranges, true, byFreq⟩
      else pure ⟨ranges, false, []⟩

/-- The locals the `try` block leaves. -/
structure Inquired where
  rulesetIds : List String
  channels : InquiredChannels
  ranges : InquiredRanges

/-- `req_cfi_bwX`: the CFIs inquired by channel, unless there are none or the
inquired ranges hold fewer. -/
def Inquired.reqCfiBwX (i : Inquired) : List Json :=
  if i.ranges.hasFreqRange ∧ (i.channels.reqCfiBwXByChan = [] ∨
      i.ranges.reqCfiBwXByFreq.length < i.channels.reqCfiBwXByChan.length) then
    i.ranges.reqCfiBwXByFreq
  else i.channels.reqCfiBwXByChan

/-- The `try` block, once the request is identified. -/
def readInquiry (g : Globals) (version req : Json) : Except Abort Inquired := do
  let rulesetIds ← checkDevice g.filenamePrefix g.countryCode version req
  let channels ← raising (readInquiredChannels g req)
  let ranges ← raising (readInquiredRanges g req)
  pure ⟨rulesetIds, channels, ranges⟩

/-- The check of one inquiry kind that the test vector asks for; `tooFew` is
the text of the error, `atLeast` the word it uses for the bound. -/
def checkKind (g : Globals) (present : Bool) (missingField : String) (cfis : List Json)
    (tooFew : String → Except PyErr String) : Except Abort Unit := do
  if !present then throw (missingParam missingField)
  if g.isRandom then
    let wide : Bool := g.channelWidth.key? = some (.num 320)
    if cfis.length < 2 ∧ !wide then
      let errMsg ← raising (tooFew "two")
      throw (.reply (-1) errMsg none)
    -- for 320 MHz one CFI is enough
    else if cfis.length < 1 ∧ wide then
      let errMsg ← raising (tooFew "one")
      throw (.reply (-1) errMsg none)

def tooFewByFreq (g : Globals) (cfis : List Json) (atLeast : String) : Except PyErr String :=
  let w := g.channelWidth.text
  pure ("For testing purpose, frequencyRange should have at least " ++ atLeast ++ " " ++ w ++
    "MHz channels. The inquired frequency ranges including " ++ w ++ "MHz channels is " ++
    (Json.arr cfis).text)

def tooFewByChan (g : Globals) (cfis : List Json) (atLeast : String) : Except PyErr String := do
  let w := g.channelWidth.text
  let operClass ← chwdithToOpClass g.channelWidth
  pure ("For testing purpose, global operating class " ++ toString operClass ++
    " should have at least " ++ atLeast ++ " " ++ w ++ "MHz channels. The inquired " ++ w ++
    "MHz channels is " ++ (Json.arr cfis).text)

/-- The checks between the `try` block and the random vector. They are not
guarded: what raises here ends in an unhandled exception. -/
def checkTestVector (g : Globals) (i : Inquired) : Except Abort Unit := do
  if g.scriptTestVector = 1 ∨ g.scriptTestVector = 3 then
    checkKind g i.ranges.hasFreqRange "inquiredFrequencyRange" i.ranges.reqCfiBwXByFreq
      (tooFewByFreq g i.ranges.reqCfiBwXByFreq)
  if g.scriptTestVector = 2 ∨ g.scriptTestVector = 3 then
    checkKind g i.channels.hasChannel "inquiredChannels" i.channels.reqCfiBwXByChan
      (tooFewByChan g i.channels.reqCfiBwXByChan)

/-- `if is_random and "responses" not in vectors: build_random_vector(...)`. -/
def buildOnce (g : Globals) (reqCfiBwX : List Json) (d : Draws) : Globals × Except PyErr Unit :=
  if g.isRandom then
    match g.vectors.has "responses" with
    | .error e => (g, .error e)
    -- built by an earlier inquiry since the last `/set-response`
    | .ok true => (g, .ok ())
    | .ok false => buildRandomVector g reqCfiBwX d
  else (g, .ok ())

/-- A `return` of an error reply; an exception nobody catches is a crash. -/
def refuse (g : Globals) (ids : ReplyIds) : Abort → Globals × Verdict
  | .reply respCode shortDesc suppInfo =>
      let sent := genErrResp g ids respCode shortDesc suppInfo
      (sent.1, .refused 200 sent.2)
  | .raised _ => (g, .crashed)

/-- The validation of an identified request, up to `valid_request = True`. -/
def validateRequest (g : Globals) (ids : ReplyIds) (req : Json) (d : Draws) : Globals × Verdict :=
  match readInquiry g ids.version req with
  | .error a => refuse g ids a.handled
  | .ok i =>
      match checkTestVector g i with
      | .error a => refuse g ids a
      | .ok () =>
          match buildOnce g i.reqCfiBwX d with
          | (g, .error _) => (g, .crashed)
          | (g, .ok ()) =>
              ({ g with validRequest := true }, .accepted
                { reqId := ids.reqId
                  version := ids.version
                  rulesetIds := i.rulesetIds
                  operClassDict := i.channels.operClassDict
                  freqRangeList := i.ranges.freqRangeList
                  hasChannel := i.channels.hasChannel
                  hasFreqRange := i.ranges.hasFreqRange })

/-- The validation of a received request. A body that is not JSON leaves
`recv_request["body"]` as it was. -/
def validate (g : Globals) (r : HttpRequest) (d : Draws) : Globals × Verdict :=
  let g := { g with recvHeaders := .obj r.headers }
  if r.contentType = some "application/json" then
    match r.json with
    -- `request.json` raises inside the `try` block
    | none => refuse g ⟨.int 0, .str ""⟩ (Abort.raised .badRequest).handled
    | some body =>
        let g := { g with recvBody := body }
        match identify body with
        | (ids, .error e) => refuse g ids (Abort.raised e).handled
        | (ids, .ok req) => validateRequest g ids req d
  else ({ g with recvBody := .obj [] }, .refused 400 (unsupported r.contentType))

/-! ## The test vector -/

/-- The test vector directory, by country and file name. -/
abbrev TestFiles := String → String → TestFile

/-- `default.json`, the vector before any is configured. -/
def defaultVector : Json :=
  .obj [("description", .str "Default response before configuring test vector"),
    ("responses", .obj [("availableSpectrumInquiryResponses", .arr [.obj [
      ("response", .obj [("responseCode", .int 0), ("shortDescription", .str "SUCCESS")]),
      ("availableFrequencyInfo", .arr []), ("availableChannelInfo", .arr [])]])])]

/-- `vec`. -/
def vecName (g : Globals) (inq : Inquiry) : Option String := inq.vec g.scriptTestVector

def vectorFilename (g : Globals) (vec : String) : String :=
  if g.filenamePrefix = "default" then g.filenamePrefix ++ ".json"
  else
    -- `elif phase`: no phase and phase 0 name the same file
    let n := g.phase.getD 0
    if n ≠ 0 then g.filenamePrefix ++ "_" ++ vec ++ "_phase" ++ toString n ++ ".json"
    else g.filenamePrefix ++ "_" ++ vec ++ ".json"

/-- The test vector file under the settings; joining the path needs a country
code that is a string. -/
def vectorFile (files : TestFiles) (g : Globals) (vec : String) : Except PyErr TestFile :=
  match g.countryCode with
  | .str cc => pure (files cc (vectorFilename g vec))
  | _ => throw .typeError

/-- Loading the vector file of a test that is not random. -/
def loadVector (files : TestFiles) (g : Globals) (inq : Inquiry) : Globals × Loaded :=
  if g.isRandom then (g, .ready)
  else
    match vecName g inq with
    -- no file is opened, and `vectors` stays what it was
    | none => (g, .ready)
    | some vec =>
        match vectorFile files g vec with
        | .error _ => (g, .crashed)
        | .ok .absent =>
            let sent := genErrResp g ⟨inq.reqId, inq.version⟩ (-1) "General Failure" none
            (sent.1, .notFound sent.2)
        | .ok .malformed => (g, .crashed)
        | .ok (.json v) => ({ g with vectors := v }, .ready)

/-! ## The response -/

/-- The last part of the handler; `now` is the expiry time it writes. -/
def respond (g : Globals) (inq : Inquiry) (now : String) : Globals × Answer :=
  let failed :=
    let sent := genErrResp g ⟨inq.reqId, inq.version⟩ (-1) "General Failure" none
    (sent.1, Answer.failure sent.2)
  if g.vectors.truthy then
    match successResponse g.vectors inq now with
    | .ok sent => ({ g with sentResponse := sent }, .success sent)
    -- the copy is in `sent_response` already; the error reply replaces it
    | .error _ => failed
  else failed

end AfcDut.Simulator
