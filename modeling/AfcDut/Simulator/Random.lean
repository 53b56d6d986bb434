import AfcDut.Simulator.State

/-!
# The random test vector

`build_random_vector`: pick CFIs of the chosen width, draw a power limit for
each of their 20 MHz channels, derive the wider channels from that mask, and
write the vector. Random outcomes are an input; `10 * math.log10(bw)` is the
decimal value the float prints.
-/

namespace AfcDut.Simulator

open Py

/-- The outcomes of the calls into `random` while one vector is built. -/
structure Draws where
  sample : List Json → Nat → List Json
  sample_subperm : ∀ xs k, k ≤ xs.length → (sample xs k).Subperm xs
  sample_length : ∀ xs k, k ≤ xs.length → (sample xs k).length = k
  random : Nat → ℚ
  random_nonneg : ∀ i, 0 ≤ random i
  random_le_one : ∀ i, random i ≤ 1

/-- The draws that take the first elements and the lowest values. -/
def Draws.lowest : Draws where
  sample xs k := xs.take k
  sample_subperm := fun xs k _ => (List.take_sublist k xs).subperm
  sample_length := fun _ _ hk => List.length_take_of_le hk
  random _ := 0
  random_nonneg _ := le_refl 0
  random_le_one _ := zero_le_one

/-- `random.uniform(a, b)` from one outcome of `random.random()`. -/
def uniform (a b r : ℚ) : ℚ := a + (b - a) * r

def tenLog10 : Bandwidth → ℚ
  | .bw20 => 13.010299956639813
  | .bw40 => 16.020599913279625
  | .bw80 => 19.030899869919434
  | .bw160 => 22.04119982655925
  | .bw320 => 25.05149978319906

/-- The value of `random_picks` after the picks have been made. -/
def pickCfis (differenceLastPicks : Bool) (lastPicks reqCfiBwX : List Json) (d : Draws) : List Json :=
  if !differenceLastPicks then
    if 2 ≤ reqCfiBwX.length then sortNums (d.sample reqCfiBwX (reqCfiBwX.length / 2))
    else sortNums reqCfiBwX
  else
    -- what an earlier phase picked is left out, unless there is no choice
    if 2 ≤ reqCfiBwX.length then sortNums (diff (distinct reqCfiBwX) (distinct lastPicks))
    else sortNums reqCfiBwX

/-- The 20 MHz channels of one pick, at the configured width. -/
def pickChannels (channelWidth cfi : Json) : Except PyErr (List Int) := do
  let w ← channelWidth.num
  let half := trunc (w / 10 - 2)
  -- `range` refuses a CFI that the inquiry gave as a float
  let c ← cfi.index
  pure (range (c - half) (c + half + 1) 4)

/-- An entry of `random_mask`. -/
structure MaskEntry where
  maxPsd : ℚ
  maxEirp : ℚ

/-- The PSD drawn for the `i`-th channel. -/
def drawPsd (p : CountryParam) (channelWidth : Json) (differenceLastPicks : Bool) (d : Draws)
    (i : Nat) : ℚ :=
  if channelWidth.key? = some (.num 320) then
    let minPsd := if !differenceLastPicks then uniform 5 15 (d.random (2 * i))
      else uniform (-5) 5 (d.random (2 * i))
    round1 (uniform minPsd (minPsd + 10) (d.random (2 * i + 1)))
  else round1 (uniform p.psdMin p.psdMax (d.random (2 * i)))

def maskEntry (psd : ℚ) : MaskEntry := ⟨psd, round1 (psd + tenLog10 .bw20)⟩

/-- The loop over `random_chan_bw20`: a channel seen again is drawn again. -/
def randomMask (psd : Nat → ℚ) (chans : List Int) : List (Int × MaskEntry) :=
  chans.zipIdx.foldl (fun mask ch => Json.assign mask ch.1 (maskEntry (psd ch.2))) []

def getMinMaxpsdByBw (mask : List (Int × MaskEntry)) (chan : Int) (bw : Bandwidth) : Option ℚ :=
  let startCh : ℚ := chan - ((bw.mhz : ℚ) / 10 - 2)
  let endCh : ℚ := chan + ((bw.mhz : ℚ) / 10 - 2)
  let psdList := (mask.filter fun e => startCh ≤ e.1 ∧ (e.1 : ℚ) ≤ endCh).map (·.2.maxPsd)
  if (psdList.length : ℚ) = (bw.mhz : ℚ) / 20 then psdList.min? else none

/-- The limit of a wide channel: a missing or zero PSD leaves it out. -/
def wideEntry (mask : List (Int × MaskEntry)) (bw : Bandwidth) (ch : Int) : Option (Int × ℚ) :=
  match getMinMaxpsdByBw mask ch bw with
  | none => none
  | some psd =>
      -- `if psd:` takes a limit of 0.0 for a missing one
      if psd = 0 then none
      else
        let eirp := round1 (psd + tenLog10 bw)
        some (ch, if 36 < eirp then 36 else eirp)

/-- `mask_bw40` to `mask_bw320`. -/
def wideMask (p : CountryParam) (mask : List (Int × MaskEntry)) (bw : Bandwidth) : List (Int × ℚ) :=
  (p.cfis bw).filterMap (wideEntry mask bw)

def freqInfoItem (ch : Int) (maxPsd : ℚ) : Json :=
  .obj [("frequencyRange", .obj [("highFrequency", .int (5950 + ch * 5 + 10)),
      ("lowFrequency", .int (5950 + ch * 5 - 10))]),
    ("maxPsd", .float maxPsd)]

def chanInfoItem (bw : Bandwidth) (entries : List (Int × ℚ)) : Json :=
  .obj [("channelCfi", .arr (entries.map fun e => .int e.1)),
    ("globalOperatingClass", .int bw.opClass),
    ("maxEirp", .arr (entries.map fun e => .float e.2))]

/-- `resp["availableFrequencyInfo"]`. -/
def randomFreqInfo (mask : List (Int × MaskEntry)) : List Json :=
  mask.map fun e => freqInfoItem e.1 e.2.maxPsd

/-- `resp["availableChannelInfo"]`, one item for each bandwidth. -/
def randomChanInfo (p : CountryParam) (mask : List (Int × MaskEntry)) : List Json :=
  chanInfoItem .bw20 (mask.map fun e => (e.1, e.2.maxEirp)) ::
    [Bandwidth.bw40, .bw80, .bw160, .bw320].map fun bw => chanInfoItem bw (wideMask p mask bw)

/-- The dictionary appended to the responses. -/
def randomResponse (scriptTestVector : Int) (p : CountryParam) (mask : List (Int × MaskEntry)) : Json :=
  .obj ([("response", .obj [("responseCode", .int 0), ("shortDescription", .str "SUCCESS")])] ++
    (if scriptTestVector = 1 ∨ scriptTestVector = 3 then
      [("availableFrequencyInfo", .arr (randomFreqInfo mask))] else []) ++
    (if scriptTestVector = 2 ∨ scriptTestVector = 3 then
      [("availableChannelInfo", .arr (randomChanInfo p mask))] else []))

/-- `random_chan_bw20`. -/
def randomChanBw20 (g : Globals) (p : CountryParam) : Except PyErr (List Int) :=
  if g.onlyRandomPower.truthy then pure p.bw20
  else do
    let chans ← g.randomPicks.mapM (pickChannels g.channelWidth)
    pure chans.flatten

/-- `build_random_vector`. The picks are a global: they stay made when a later
step raises. -/
def buildRandomVector (g : Globals) (reqCfiBwX : List Json) (d : Draws) :
    Globals × Except PyErr Unit :=
  match countryParam g.countryCode with
  | .error e => (g, .error e)
  | .ok p =>
      let g := if g.onlyRandomPower.truthy then g
        else { g with randomPicks := pickCfis g.differenceLastPicks g.randomPicks reqCfiBwX d }
      match randomChanBw20 g p with
      | .error e => (g, .error e)
      | .ok chans =>
          let mask := randomMask (drawPsd p g.channelWidth g.differenceLastPicks d) chans
          let responses := .obj [("availableSpectrumInquiryResponses",
            .arr [randomResponse g.scriptTestVector p mask])]
          match g.vectors.setField "responses" responses with
          | .error e => (g, .error e)
          | .ok vectors => ({ g with vectors := vectors }, .ok ())

end AfcDut.Simulator
