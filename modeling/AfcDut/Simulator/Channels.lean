import AfcDut.Service.Inquiry

/-!
# Channels of the two countries

`country_param`, the operating classes, and the two computations of the CFIs
of one bandwidth that an inquiry covers.
-/

namespace AfcDut.Simulator

open Py

inductive Bandwidth where
  | bw20 | bw40 | bw80 | bw160 | bw320
  deriving DecidableEq

def Bandwidth.mhz : Bandwidth → Nat
  | .bw20 => 20
  | .bw40 => 40
  | .bw80 => 80
  | .bw160 => 160
  | .bw320 => 320

/-- `chwdith_to_op_class[bw]`. -/
def Bandwidth.opClass : Bandwidth → Int
  | .bw20 => 131
  | .bw40 => 132
  | .bw80 => 133
  | .bw160 => 134
  | .bw320 => 137

/-- One country's entry of `country_param`. -/
structure CountryParam where
  bw20 : List Int
  bw40 : List Int
  bw80 : List Int
  bw160 : List Int
  bw320 : List Int
  psdMin : ℚ
  psdMax : ℚ

def CountryParam.cfis (p : CountryParam) : Bandwidth → List Int
  | .bw20 => p.bw20
  | .bw40 => p.bw40
  | .bw80 => p.bw80
  | .bw160 => p.bw160
  | .bw320 => p.bw320

def countryUS : CountryParam where
  bw20 := [1, 5, 9, 13, 17, 21, 25, 29, 33, 37, 41, 45, 49, 53, 57, 61, 65, 69, 73, 77, 81, 85,
    89, 93, 117, 121, 125, 129, 133, 137, 141, 145, 149, 153, 157, 161, 165, 169, 173, 177, 181]
  bw40 := [3, 11, 19, 27, 35, 43, 51, 59, 67, 75, 83, 91, 123, 131, 139, 147, 155, 163, 171, 179]
  bw80 := [7, 23, 39, 55, 71, 87, 135, 151, 167]
  bw160 := [15, 47, 79, 143]
  bw320 := [31, 63]
  psdMin := 8
  psdMax := 22

def countryCA : CountryParam where
  bw20 := [1, 5, 9, 13, 17, 21, 25, 29, 33, 37, 41, 45, 49, 53, 57, 61, 65, 69, 73, 77, 81, 85,
    89, 93, 97, 101, 105, 109, 113, 117, 121, 125, 129, 133, 137, 141, 145, 149, 153, 157, 161,
    165, 169, 173, 177, 181]
  bw40 := [3, 11, 19, 27, 35, 43, 51, 59, 67, 75, 83, 91, 99, 107, 115, 123, 131, 139, 147, 155,
    163, 171, 179]
  bw80 := [7, 23, 39, 55, 71, 87, 103, 119, 135, 151, 167]
  bw160 := [15, 47, 79, 111, 143]
  bw320 := [31, 63, 95, 127]
  psdMin := 8
  psdMax := 22

/-- `country_param[country_code]`. -/
def countryParam (countryCode : Json) : Except PyErr CountryParam := do
  let k ← countryCode.hash
  if k = .str "US" then pure countryUS
  else if k = .str "CA" then pure countryCA
  else throw (.keyError countryCode)

/-- The bandwidth a `channel_width` names, if any. -/
def widthKey? (channelWidth : Json) : Option Bandwidth :=
  [Bandwidth.bw20, .bw40, .bw80, .bw160, .bw320].find? fun bw =>
    channelWidth.key? = some (.num bw.mhz)

/-- `chwdith_to_op_class[channel_width]`. -/
def chwdithToOpClass (channelWidth : Json) : Except PyErr Int := do
  let _ ← channelWidth.hash
  match widthKey? channelWidth with
  | some bw => pure bw.opClass
  | none => throw (.keyError channelWidth)

/-- The bandwidth whose CFIs an inquiry is checked for: 320 and 160 MHz when
`channel_width` says so, 80 MHz otherwise. -/
def inquiredBandwidth (channelWidth : Json) : Bandwidth :=
  if channelWidth.key? = some (.num 320) then .bw320
  else if channelWidth.key? = some (.num 160) then .bw160
  else .bw80

/-- The 20 MHz channels of a CFI. -/
def subChannels (bw : Bandwidth) (cfi : Int) : List Int :=
  let half : Int := bw.mhz / 10 - 2
  range (cfi - half) (cfi + half + 1) 4

/-- The first item of the class decides. The country's list has no repeats,
so it is its own set. -/
def getCfiByInquiredChannelsBw (countryCode : Json) (bw : Bandwidth) :
    List Json → Except PyErr (List Json)
  | [] => pure []
  | chan :: rest => do
      let operClass ← chan.field "globalOperatingClass"
      if operClass.key? = some (.num bw.opClass) then
        let p ← countryParam countryCode
        let all := (p.cfis bw).map Json.int
        -- a missing list stands for all channels, a `null` one raises in `set`
        let cfiChans ← chan.getD "channelCfi" (.arr all)
        let elems ← cfiChans.iter
        let inquired ← pySet elems
        pure (inter inquired all)
      else getCfiByInquiredChannelsBw countryCode bw rest

def convertToCh (freq : Json) : Except PyErr Int := do
  let q ← freq.num
  let ch ← trueDiv (q - 5950) 5
  pure (trunc ch)

/-- The 20 MHz channels one inquired range is taken to include. -/
def rangeChannels (freq : Json) : Except PyErr (List Int) := do
  let low ← freq.field "lowFrequency"
  let first ← convertToCh low
  let high ← freq.field "highFrequency"
  let last ← convertToCh high
  pure ((range first (last + 1) 1).filter fun ch => ch % 4 = 1)

def getCfiByInquiredFreqRangesBw (countryCode : Json) (bw : Bandwidth) (freqRanges : List Json) :
    Except PyErr (List Json) := do
  let chans ← freqRanges.mapM rangeChannels
  let reqCfiBw20 := chans.flatten
  let p ← countryParam countryCode
  let reqCfiBwX := (p.cfis bw).filter fun cfi => (subChannels bw cfi).all (· ∈ reqCfiBw20)
  pure (reqCfiBwX.map Json.int)

end AfcDut.Simulator
