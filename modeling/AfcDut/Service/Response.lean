import AfcDut.Service.Inquiry

/-!
# Building the response

Both services answer an accepted inquiry with the same code: a copy of the
vector's responses, stamped with the inquiry's own identification and cut down
to the channels and frequency ranges it asked for.
-/

namespace AfcDut.Service

open Py

/-- The handler's locals that outlive the validation. -/
structure Inquiry where
  reqId : Json
  version : Json
  rulesetIds : List String
  operClassDict : List (Key × Json)
  freqRangeList : List (Json × Json)
  hasChannel : Bool
  hasFreqRange : Bool
  deriving DecidableEq

/-- The number of the vector: the configured one, or the one for what was
inquired. -/
def Inquiry.vec (inq : Inquiry) (scriptTestVector : Int) : Option String :=
  if scriptTestVector ≠ 0 then some (toString scriptTestVector)
  else if inq.hasFreqRange && inq.hasChannel then some "3"
  else if inq.hasChannel then some "2"
  else if inq.hasFreqRange then some "1"
  else none

/-- How the validation of an inquiry ends: a reply, an exception nobody
catches, or `valid_request = True`. -/
inductive Verdict where
  | refused (status : Nat) (body : Json)
  | crashed
  | accepted (inq : Inquiry)
  deriving DecidableEq

/-- What a path of the test vector directory leads to. -/
inductive TestFile where
  | absent
  | malformed
  | json (v : Json)

/-- How the choice of the vector ends. -/
inductive Loaded where
  | ready
  | notFound (body : Json)
  | crashed

/-- A reply to an accepted inquiry. -/
inductive Answer where
  | success (sent : Json)
  | failure (sent : Json)
  deriving DecidableEq

def Answer.sent : Answer → Json
  | .success sent => sent
  | .failure sent => sent

def Verdict.isAccepted : Verdict → Bool
  | .accepted _ => true
  | _ => false

/-- The reply of `gen_err_resp`; `extra` is what the service puts between the
request's id and the response. -/
def errRespWith (extra : List (String × Json)) (ids : ReplyIds) (respCode : Int)
    (shortDesc : String) (suppInfo : Option Json) : Json :=
  let response := [("responseCode", .int respCode), ("shortDescription", .str shortDesc)] ++
    (suppInfo.map fun info => ("supplementalInfo", info)).toList
  let responseDict := .obj ([("requestId", ids.reqId)] ++ extra ++ [("response", .obj response)])
  .obj [("availableSpectrumInquiryResponses", .arr [responseDict]), ("version", ids.version)]

/-- The 400 reply to another content type. -/
def unsupported (contentType : Option String) : Json :=
  .obj [("message", .str ("Content-Type " ++ contentType.getD "None" ++
    " not supported! Please use application/json."))]

/-- `a <= b` between numbers. Anything else raises; two strings or two lists,
which Python would order, occur in no test vector. -/
def le (a b : Json) : Except PyErr Bool := do
  let x ← a.num
  let y ← b.num
  pure (decide (x ≤ y))

def isInquiredFreqRange (l h : Json) : List (Json × Json) → Except PyErr Bool
  | [] => pure false
  | (low, high) :: rest => do
      -- `l >= low and h <= high`: the second comparison only when the first holds
      if ← le low l then
        if ← le h high then pure true else isInquiredFreqRange l h rest
      else isInquiredFreqRange l h rest

/-- The index-based copy of the inquired channels of one item and of their
limits; `item["maxEirp"]` is read only for a channel that is kept. -/
def overlay (reqChans : List Key) (item : Json) : List Json → Nat → Except PyErr (List Json × List Json)
  | [], _ => pure ([], [])
  | chan :: rest, idx => do
      let k ← chan.hash
      if k ∈ reqChans then
        -- `idx` counts the item's channels, kept or not
        let maxEirp ← item.field "maxEirp"
        let eirp ← maxEirp.item idx
        let (chans, eirps) ← overlay reqChans item rest (idx + 1)
        pure (chan :: chans, eirp :: eirps)
      else overlay reqChans item rest (idx + 1)

/-- One item of `availableChannelInfo`: dropped, kept whole, or cut down. -/
def filterChannelItem (operClassDict : List (Key × Json)) (item : Json) :
    Except PyErr (Option Json) := do
  let operClass ← item.field "globalOperatingClass"
  let k ← operClass.hash
  match operClassDict.lookup k with
  | none => pure none
  | some reqChansList =>
      let chansField ← item.field "channelCfi"
      let respChansList ← chansField.iter
      let respChans ← respChansList.mapM Json.hash
      if reqChansList.truthy then
        let reqElems ← reqChansList.iter
        let reqChans ← reqElems.mapM Json.hash
        if reqChans.any (· ∈ respChans) then
          let (chans, eirps) ← overlay reqChans item respChansList 0
          let cut ← item.setField "channelCfi" (.arr chans)
          let cut ← cut.setField "maxEirp" (.arr eirps)
          pure (some cut)
        else pure none
      -- `None`, as well as an empty list, asks for every channel
      else pure (some item)

/-- One item of `availableFrequencyInfo`: kept when inquired. -/
def filterFreqItem (freqRangeList : List (Json × Json)) (item : Json) :
    Except PyErr (Option Json) := do
  let freqRange ← item.field "frequencyRange"
  let l ← freqRange.field "lowFrequency"
  let h ← freqRange.field "highFrequency"
  if ← isInquiredFreqRange l h freqRangeList then pure (some item) else pure none

/-- Replace a list field of the response, if it is there, by what `keep`
leaves of it. -/
def filterField (resp : Json) (name : String) (keep : Json → Except PyErr (Option Json)) :
    Except PyErr Json := do
  if ← resp.has name then
    let info ← resp.field name
    let items ← info.iter
    let kept ← items.filterMapM keep
    resp.setField name (.arr kept)
  else pure resp

/-- `ruleset_ids[0]`. -/
def firstRuleset : List String → Except PyErr Json
  | [] => .error .indexError
  | r :: _ => .ok (.str r)

/-- The inquiry's identification, written into the first response. -/
def stamp (inq : Inquiry) (now : String) (resp : Json) : Except PyErr Json := do
  let resp ← resp.setField "requestId" inq.reqId
  let resp ← resp.setField "availabilityExpireTime" (.str now)
  let ruleset ← firstRuleset inq.rulesetIds
  resp.setField "rulesetId" ruleset

/-- The two response filters, channels first. -/
def filterResponse (inq : Inquiry) (resp : Json) : Except PyErr Json := do
  let resp ← filterField resp "availableChannelInfo" (filterChannelItem inq.operClassDict)
  filterField resp "availableFrequencyInfo" (filterFreqItem inq.freqRangeList)

/-- Write back the element that was mutated in place. -/
def putFirst : Json → Json → Except PyErr Json
  | .arr (_ :: rest), v => .ok (.arr (v :: rest))
  | _, _ => .error .typeError

/-- The success response: a filtered copy of `vectors["responses"]`. -/
def successResponse (vectors : Json) (inq : Inquiry) (now : String) : Except PyErr Json := do
  let responses ← vectors.field "responses"
  let sent ← responses.setField "version" inq.version
  let answers ← sent.field "availableSpectrumInquiryResponses"
  let resp ← answers.item 0
  let resp ← stamp inq now resp
  let resp ← filterResponse inq resp
  let answers ← putFirst answers resp
  sent.setField "availableSpectrumInquiryResponses" answers

end AfcDut.Service
