import AfcDut.Py.Builtins

/-!
# Reading an Available Spectrum Inquiry

The two AFC services (`afc_simulator_service` and `afc_fc_ap_service`) read a
request body with the same code up to the inquired channels: identification,
device descriptor, rulesets, location. That code is here; what they do
differently is in their own modules.
-/

namespace AfcDut.Service

open Py

/-- How a `try` block of a handler is left early: a `return` of an error
reply, or a raised exception. -/
inductive Abort where
  | reply (respCode : Int) (shortDesc : String) (suppInfo : Option Json)
  | raised (err : PyErr)

/-- Evaluate inside the `try` block. -/
def raising {α : Type} (x : Except PyErr α) : Except Abort α := x.mapError .raised

@[simp] theorem raising_ok {α : Type} (a : α) : raising (.ok a) = .ok a := rfl

@[simp] theorem raising_error {α : Type} (e : PyErr) :
    raising (.error e : Except PyErr α) = .error (.raised e) := rfl

theorem raising_eq_ok {α : Type} {x : Except PyErr α} {a : α} :
    raising x = .ok a ↔ x = .ok a := mapError_eq_ok

/-- What `request` offers the handlers: the headers, the `Content-Type`,
whether Flask takes it for a JSON type, and the parsed body, `none` when the
body is not JSON. -/
structure HttpRequest where
  headers : List (String × Json)
  contentType : Option String
  isJson : Bool
  json : Option Json
  isJson_json : contentType = some "application/json" → isJson = true

/-- A request whose `Content-Type` is the one the services accept. -/
def HttpRequest.ofJson (body : Json) : HttpRequest where
  headers := [("Content-Type", .str "application/json")]
  contentType := some "application/json"
  isJson := true
  json := some body
  isJson_json := fun _ => rfl

/-- The replies' `requestId` and `version` before either has been read. -/
structure ReplyIds where
  reqId : Json
  version : Json

/-- `version`, the first request and its `requestId`, read in this order; the
first component is what an error reply names when the reading stops there. -/
def identify (body : Json) : ReplyIds × Except PyErr Json :=
  match body.field "version" with
  | .error e => (⟨.int 0, .str ""⟩, .error e)
  | .ok version =>
      match body.field "availableSpectrumInquiryRequests" >>= fun reqs => reqs.item 0 with
      | .error e => (⟨.int 0, version⟩, .error e)
      | .ok req =>
          match req.field "requestId" with
          | .error e => (⟨.int 0, version⟩, .error e)
          | .ok reqId => (⟨reqId, version⟩, .ok req)

def generalFailure : Abort := .reply (-1) "General Failure" none

/-- `{label: [name]}`, the `supplementalInfo` of an error reply. -/
def namedParams (label name : String) : Json := .obj [(label, .arr [.str name])]

def invalidValue (param : String) : Abort :=
  .reply 103 "One or more fields have an invalid value." (some (namedParams "invalidParams" param))

def missingParam (param : String) : Abort :=
  .reply 102 "Missing Param." (some (namedParams "missingParams" param))

/-- The two `except` clauses: a `KeyError` names the missing parameter, any
other exception is a general failure. -/
def Abort.handled : Abort → Abort
  | .raised (.keyError key) => missingParam (keyErrorText key)
  | .raised _ => generalFailure
  | a => a

def rulesetIdToCountrycode (rulesetId : String) : Option String :=
  let rulesetId := upper rulesetId
  if rulesetId = "US_47_CFR_PART_15_SUBPART_E" then some "US"
  else if rulesetId = "CA_RES_DBS-06" then some "CA"
  else none

/-- The key under which a Python string or `None` is compared. -/
def optKey : Option String → Key
  | some s => .str s
  | none => .null

/-- `certification[country_code]`. -/
def certification (countryCode : Json) : Except PyErr String := do
  let k ← countryCode.hash
  if k = .str "US" then pure "FCC"
  else if k = .str "CA" then pure "ISED"
  else throw (.keyError countryCode)

/-- The loop over `dev_desc['certificationId']`; the result is `ruleset_ids`. -/
def checkRulesets (countryCode : Json) : List Json → Except Abort (List String)
  | [] => pure []
  | certId :: rest => do
      let rulesetId ← raising (certId.field "rulesetId")
      -- read for the log line, before the type of the ruleset is looked at
      let _ ← raising (certId.field "id")
      match rulesetId with
      | .str r =>
          if some (optKey (rulesetIdToCountrycode r)) = countryCode.key? then
            let rulesetIds ← checkRulesets countryCode rest
            pure (r :: rulesetIds)
          else
            let cert ← raising (certification countryCode)
            throw (.reply (-1) ("invalid rulesetId " ++ r ++ " for " ++ cert ++ " AFC DUT test") none)
      | _ => throw (invalidValue "rulesetId")

/-- One location object: absent, or present with the fields that are logged. -/
def countLocation (location : Json) (name : String) (read : Json → Except PyErr Unit) :
    Except PyErr Nat := do
  if ← location.has name then
    let value ← location.field name
    read value
    pure 1
  else pure 0

/-- `center['latitude']` and `center['longitude']`. -/
def readCenter (value : Json) : Except PyErr Unit := do
  let center ← value.field "center"
  let _ ← center.field "latitude"
  let _ ← center.field "longitude"

def readBoundary (value : Json) : Except PyErr Unit := do
  let _ ← value.field "outerBoundary"

/-- `valid_location_num`. -/
def validLocationNum (req : Json) : Except PyErr Nat := do
  if ← req.has "location" then
    let location ← req.field "location"
    let ellipse ← countLocation location "ellipse" readCenter
    let linear ← countLocation location "linearPolygon" readBoundary
    let radial ← countLocation location "radialPolygon" fun value => do
      readCenter value
      readBoundary value
    pure (ellipse + linear + radial)
  else pure 0

/-- The `try` block up to the location; the result is `ruleset_ids`. -/
def checkDevice (filenamePrefix : String) (countryCode version req : Json) :
    Except Abort (List String) := do
  if filenamePrefix = "" then throw generalFailure
  let devDesc ← raising (req.field "deviceDescriptor")
  let _ ← raising (devDesc.field "serialNumber")
  match ← raising (devDesc.field "certificationId") with
  -- an empty list passes, and leaves no ruleset
  | .arr certIds =>
      if version = .str "1.4" then
        let rulesetIds ← checkRulesets countryCode certIds
        let n ← raising (validLocationNum req)
        if n ≠ 1 then throw generalFailure
        pure rulesetIds
      else throw (.reply 100 "version not supported" none)
  | _ => throw (invalidValue "certificationId")

/-- One item of `req["inquiredChannels"]` as a dictionary entry: the class,
and its `channelCfi` or `None`. -/
def operClassItem (item : Json) : Except PyErr (Key × Json) := do
  let operClass ← item.field "globalOperatingClass"
  let cfi ← if ← item.has "channelCfi" then item.field "channelCfi" else pure .null
  let k ← operClass.hash
  pure (k, cfi)

/-- The dictionary comprehension over `req["inquiredChannels"]`: a later item
replaces an earlier one of the same class. -/
def operClassDict (items : List Json) : Except PyErr (List (Key × Json)) := do
  let entries ← items.mapM operClassItem
  pure (entries.foldl (fun dict entry => Json.assign dict entry.1 entry.2) [])

/-- The list comprehension over `req["inquiredFrequencyRange"]`. -/
def freqRangeList (items : List Json) : Except PyErr (List (Json × Json)) :=
  items.mapM fun item => do
    let low ← item.field "lowFrequency"
    let high ← item.field "highFrequency"
    pure (low, high)

/-- The items of an optional list field of the request. -/
def fieldItems (req : Json) (name : String) : Except PyErr (Option (List Json)) := do
  if ← req.has name then
    let value ← req.field name
    let items ← value.iter
    pure (some items)
  else pure none

/-- Where the dictionary is built, every item has a class; it is empty only
without items. -/
theorem operClassDict_eq_ok {items : List Json} {dict : List (Key × Json)}
    (h : operClassDict items = .ok dict) :
    (∀ item ∈ items, ∃ c, item.field "globalOperatingClass" = .ok c) ∧
      (dict.length > 0 ↔ items ≠ []) := by
  simp only [operClassDict, bind_eq_ok, pure_eq_ok, Except.ok.injEq] at h
  obtain ⟨entries, hentries, rfl⟩ := h
  constructor
  · intro item hitem
    obtain ⟨entry, hentry⟩ := mapM_isOk_iff.mp ⟨entries, hentries⟩ item hitem
    simp only [operClassItem, bind_eq_ok] at hentry
    obtain ⟨c, hc, -⟩ := hentry
    exact ⟨c, hc⟩
  · rw [gt_iff_lt, List.length_pos_iff, ne_eq, Json.foldl_assign_eq_nil_iff]
    exact not_congr (eq_nil_iff_of_mapM_eq_ok hentries)

/-- There is a range for each item. -/
theorem freqRangeList_length {items : List Json} {ranges : List (Json × Json)}
    (h : freqRangeList items = .ok ranges) : ranges.length > 0 ↔ items ≠ [] := by
  rw [gt_iff_lt, List.length_pos_iff]
  exact not_congr (eq_nil_iff_of_mapM_eq_ok h)

/-! ## Well-formed requests -/

/-- A certification under the ruleset of the United States. -/
def certUS : Json :=
  .obj [("rulesetId", .str "US_47_CFR_PART_15_SUBPART_E"), ("id", .str "CID000")]

/-- An inquiry with one request: the given identification and certifications,
a location, and what it asks for. -/
def inquiryBody (reqId : String) (certIds : List Json) (inquired : List (String × Json)) : Json :=
  .obj [("version", .str "1.4"), ("availableSpectrumInquiryRequests", .arr [.obj ([
    ("requestId", .str reqId),
    ("deviceDescriptor", .obj [("serialNumber", .str "SN000"), ("certificationId", .arr certIds)]),
    ("location", .obj [("ellipse", .obj [("center", .obj [
      ("longitude", .float (-121.98)), ("latitude", .float 37.38)])])])] ++ inquired)])]

/-- The request of an inquiry body. -/
def requestOf (body : Json) : Json :=
  match (identify body).2 with
  | .ok req => req
  | .error _ => .null

/-- `inquiredChannels` of one class. -/
def inquireChannels (operClass : Int) (cfis : List Int) : Json :=
  .obj [("globalOperatingClass", .int operClass), ("channelCfi", .arr (cfis.map .int))]

/-- `inquiredFrequencyRange` of one range. -/
def inquireRange (low high : Int) : Json :=
  .obj [("lowFrequency", .int low), ("highFrequency", .int high)]

end AfcDut.Service
