import AfcDut.Rf.Verdict
import AfcDut.Service.Exchange

/-!
# Responses as the validation reads them

The validation of a measurement gets the response the simulator sent, as a
JSON document. It reads numbers; a value that is no number is read as one that
is missing, both of which raise.
-/

namespace AfcDut.Rf

open Py Service Spectrum

def fieldOf (doc : Json) (name : String) : Option Json := (doc.field name).toOption

def numberOf (doc : Json) (name : String) : Option ℚ := (fieldOf doc name).bind Json.num?

/-- The elements of a list field. -/
def itemsOf (doc : Json) (name : String) : Option (List Json) :=
  (fieldOf doc name).bind fun items => items.iter.toOption

def numbersOf (doc : Json) (name : String) : Option (List ℚ) :=
  (itemsOf doc name).bind fun items => items.mapM Json.num?

def FrequencyRange.ofJson (freqRange : Json) : FrequencyRange where
  lowFrequency := numberOf freqRange "lowFrequency"
  highFrequency := numberOf freqRange "highFrequency"

def AvailableFrequencyInfo.ofJson (item : Json) : AvailableFrequencyInfo where
  frequencyRange := (fieldOf item "frequencyRange").map .ofJson
  maxPsd := numberOf item "maxPsd"

def AvailableChannelInfo.ofJson (item : Json) : AvailableChannelInfo where
  channelCfi := numbersOf item "channelCfi"
  maxEirp := numbersOf item "maxEirp"

def AvailResp.ofJson (resp : Json) : AvailResp where
  availableFrequencyInfo := (itemsOf resp "availableFrequencyInfo").map (·.map .ofJson)
  availableChannelInfo := (itemsOf resp "availableChannelInfo").map (·.map .ofJson)

/-- `sent_response["availableSpectrumInquiryResponses"][0]`. -/
def readSent (sent : Json) : Option AvailResp := (firstResponse sent).toOption.map .ofJson

/-! ## Members -/

theorem toOption_eq_some {ε α : Type} {x : Except ε α} {a : α} :
    x.toOption = some a ↔ x = .ok a := by
  cases x with
  | error e => simp [Except.toOption]
  | ok b => simp [Except.toOption]

theorem fieldOf_eq_some {doc v : Json} {name : String} :
    fieldOf doc name = some v ↔ doc.field name = .ok v := toOption_eq_some

theorem mem_itemsOf {doc item : Json} {name : String} :
    item ∈ (itemsOf doc name).getD [] ↔ Member doc name item := by
  unfold itemsOf Member
  cases hfield : doc.field name with
  | error e => simp [fieldOf, hfield, Except.toOption]
  | ok info =>
      cases hiter : info.iter with
      | error e => simp [fieldOf, hfield, hiter, Except.toOption]
      | ok items => simp [fieldOf, hfield, hiter, Except.toOption]

/-- A list of numbers is read number by number. -/
theorem numbersOf_map {α : Type} {doc : Json} {name : String} {write : α → Json} (value : α → ℚ)
    (hwrite : ∀ x, (write x).num? = some (value x)) {xs : List α}
    (h : doc.field name = .ok (.arr (xs.map write))) :
    numbersOf doc name = some (xs.map value) := by
  have hread : ∀ xs : List α, (xs.map write).mapM Json.num? = some (xs.map value) := by
    intro xs
    induction xs with
    | nil => rfl
    | cons x xs ih =>
        rw [List.map_cons, List.mapM_cons, ih, hwrite]
        rfl
  unfold numbersOf itemsOf
  rw [fieldOf_eq_some.mpr h]
  exact hread xs

end AfcDut.Rf
