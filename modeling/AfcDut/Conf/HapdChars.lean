import AfcDut.Conf.HapdRun

/-!
# The size of the configuration

How many characters `generate_hostapd_config` writes for a request, counted
from its TLVs.
-/

namespace AfcDut.Conf

open Indigo ControlApp

/-! ## Counting -/

def countChars {α : Type} (chars : α → Nat) : List α → Nat
  | [] => 0
  | a :: l => chars a + countChars chars l

theorem length_flatMap {α : Type} {f : α → List UInt8} {chars : α → Nat}
    (h : ∀ a, (f a).length = chars a) (l : List α) :
    (l.flatMap f).length = countChars chars l := by
  induction l with
  | nil => rfl
  | cons a l ih => rw [List.flatMap_cons, List.length_append, h, ih, countChars]

/-- The characters of a line `name=value`. -/
def lineChars (name value : List UInt8) : Nat := name.length + value.length + 2

def intChars (n : Int) : Nat := (intText n).length

def macChars (env : HapdEnv) (table : Table) : Nat :=
  if (env.macAddress (getWirelessInterface table)).isSome then 17 else 0

def oweChars (hasOwe : Bool) (wlan : Table × Option Nat) : Nat :=
  match wlan.2 with
  | none => 0
  | some i => 23 + (wlan.1.ifname i).length + if hasOwe then 24 else 0

def wpsSettingChars (value : Int) (s : WpsSetting) : Nat :=
  if value = wpsEnableOob then lineChars s.wkey s.value
  else if value = wpsEnableNormal then
    if atoi s.attr = wpsCommon then lineChars s.wkey s.value
    else if atoi s.attr = wpsOobOnly && (cString "wps_state").isPrefixOf s.wkey then
      s.wkey.length + 3
    else 0
  else 0

/-- The characters of the lines of a TLV. -/
def tlvChars (env : HapdEnv) (hasOwe hasIcons : Bool) (table : Table) (t : PlacedTlv) : Nat :=
  if t.id = tlvChannel ∧ env.isMultipleBssid then 0
  else if t.id = tlvHe6gOnly then 0
  else if t.id = tlvBssIdentifier then
    if isBandEnabled table band6ghz && !env.wlanp.mbssidEnable then 6 else 0
  else match findGenericTlvConfig t.id semicolonList with
  | some cfg => countChars (lineChars cfg.configName) (strtok semicolon (cText t.value))
  | none =>
      if t.id = tlvHessid ∧ t.contains "self" then 8 + macChars env table
      else match findTlvHs2Profile t.id with
      | some profile =>
          (if needsIcons t.id && !hasIcons then 168 else 0) +
            (profile.profile.getD (atoi t.value).toNat []).length
      | none =>
          if t.id = tlvWpsEnable then
            countChars (wpsSettingChars (atoi t.value)) (env.wpsSettings.getD [])
          else match findTlvConfig t.id with
          | none => 0
          | some cfg =>
              if t.id = tlvOweTransitionBssIdentifier then
                oweChars hasOwe (oweWlan table (atoi t.value))
              else lineChars cfg.configName (cText t.value)

/-- The characters of the lines of the TLVs: what has been seen of `OWE` and
of the icons, and the table, go from one TLV to the next. -/
def loopChars (env : HapdEnv) : Bool → Bool → Table → List PlacedTlv → Nat
  | _, _, _, [] => 0
  | hasOwe, hasIcons, table, t :: ts =>
      tlvChars env hasOwe hasIcons table t +
        loopChars env (hasOwe || sets tlvWpaKeyMgmt "OWE" t) (hasIcons || needsIcons t.id)
          (nextTable table t) ts

def wideChars (f : HapdLocals) : Nat :=
  (if f.width = 2 then 42 else 0) +
    (if f.enableAc then
      (if f.vhtChwidthset then 0 else 18 + intChars f.width) +
        (30 + intChars (getCenterFreqIndex f.channel f.width)) + (if f.width = 2 then 19 else 0)
    else 0) +
    (if f.enableAx then
      (if f.chwidthset then 0 else 17 + intChars f.width) +
        (29 + intChars (getCenterFreqIndex f.channel f.width))
    else 0)

def widthChars (env : HapdEnv) (f : HapdLocals) : Nat :=
  if f.is6gOnly then
    (if f.chwidthset then 0 else 17 + intChars f.width) +
      (if f.width = 1 ∨ f.width = 2 then 13 else 0) +
      (29 + intChars (get6gCenterFreqIndex env.noReturn f.channel f.width)) +
      (if f.unsolPrRespInterval ≠ 0 then 33 + intChars f.unsolPrRespInterval else 31) + 45
  else if bandHasA f.band && (isHt40plusChan f.channel || isHt40minusChan f.channel) then
    17 + if f.width > 0 then wideChars f else 0
  else 0

def derivedChars (env : HapdEnv) (f : HapdLocals) : Nat :=
  (if f.enableWps then
    if f.useMbss then 16 else if bandStarts f.band 97 || bandStarts f.band 103 then 15 else 0
  else 0) +
    (if !f.hasPmf && (f.hasTransition || f.hasOwe || f.hasWpa) then 13 else 0) +
    (if f.hasSae then 18 else 0) +
    (if env.wlanp.mbssidEnable && env.wlanp.transmitter then 17 else 0) +
    (if f.hasSae && !f.hasSaeGroups then 32 else 0) + widthChars env f +
    (if f.enableMuedca then 529 else 0) + (if f.enableHs20 then 106 else 0)

/-- The characters of the configuration of a request. -/
def confChars (env : HapdEnv) (band : List UInt8) (table : Table) (ts : List PlacedTlv) : Nat :=
  (if env.isMultipleBssid then 37 else 66) + env.wlanp.ifname.length +
    loopChars env false false table ts + derivedChars env (finalLocals env band ts)

variable (env : HapdEnv)

theorem length_intLine (name : String) (n : Int) :
    (intLine name n).length = name.length + 2 + intChars n := by
  rw [intLine, length_configLine, length_cString, intChars]
  omega

/-! ## The pieces -/

theorem length_hapdHeader : (hapdHeader env).length =
    (if env.isMultipleBssid then 37 else 66) + env.wlanp.ifname.length := by
  -- a literal is counted from the list of its characters
  unfold hapdHeader
  split
  · simp [← String.length_toList]
    omega
  · simp [← String.length_toList]
    omega

theorem length_macAddr (table : Table) : (env.macAddr table).length = macChars env table := by
  unfold HapdEnv.macAddr macChars
  cases env.macAddress (getWirelessInterface table) <;> simp [length_macText]

theorem length_oweLines {cfg : TlvToConfigName} (hcfg : cfg.configName.length = 21)
    (hasOwe : Bool) (wlan : Table × Option Nat) :
    (oweLines cfg hasOwe wlan).length = oweChars hasOwe wlan := by
  unfold oweLines oweChars
  cases wlan.2 with
  | none => rfl
  | some i =>
      cases hasOwe <;> simp [hcfg, ← String.length_toList] <;> omega

theorem length_wpsLines (settings : List WpsSetting) (value : List UInt8) :
    (wpsLines settings value).length =
      countChars (wpsSettingChars (atoi value)) settings := by
  unfold wpsLines
  split
  · rename_i hoob
    apply length_flatMap
    intro s
    rw [WpsSetting.oobLine, length_configLine, wpsSettingChars, if_pos hoob, lineChars]
  · rename_i hoob
    split
    · rename_i hnormal
      apply length_flatMap
      intro s
      rw [wpsSettingChars, if_neg hoob, if_pos hnormal, WpsSetting.normalLine]
      split
      · exact length_configLine _ _
      · split
        · simp [length_configLine, ← String.length_toList]
        · rfl
    · rename_i hnormal
      induction settings with
      | nil => rfl
      | cons s settings ih =>
          rw [countChars, ← ih, wpsSettingChars, if_neg hoob, if_neg hnormal]
          rfl

theorem length_written (hasOwe hasIcons : Bool) (table : Table) (t : PlacedTlv) :
    (written env hasOwe hasIcons table t).length = tlvChars env hasOwe hasIcons table t := by
  unfold written tlvChars
  split
  · rfl
  split
  · rfl
  split
  · split
    · exact length_textLine "rnr=1"
    · rfl
  cases findGenericTlvConfig t.id semicolonList with
  | some cfg => exact length_flatMap (fun item => length_configLine _ _) _
  | none =>
      simp only
      split
      · simp [selfHessid, length_macAddr, ← String.length_toList]
        omega
      cases findTlvHs2Profile t.id with
      | some profile =>
          simp only [List.length_append]
          have hicons : hs20Icons.length = 168 := by decide +kernel
          split <;> simp [hicons]
      | none =>
          simp only
          split
          · cases env.wpsSettings with
            | none => rfl
            | some settings => exact length_wpsLines settings t.value
          cases hcfg : findTlvConfig t.id with
          | none => rfl
          | some cfg =>
              simp only
              split
              · rename_i hid
                apply length_oweLines
                rw [hid] at hcfg
                obtain rfl := Option.some.inj ((show findTlvConfig
                  tlvOweTransitionBssIdentifier = some ⟨tlvOweTransitionBssIdentifier,
                    cString "owe_transition_ifname", false⟩ by decide +kernel).symm.trans hcfg)
                rfl
              · exact length_configLine _ _

theorem length_loopText (hasOwe hasIcons : Bool) (table : Table) (ts : List PlacedTlv) :
    (loopText env hasOwe hasIcons table ts).length = loopChars env hasOwe hasIcons table ts := by
  induction ts generalizing hasOwe hasIcons table with
  | nil => rfl
  | cons t ts ih => rw [loopText, List.length_append, length_written, ih, loopChars]

theorem length_wpsRfBands (f : HapdLocals) : (wpsRfBands f).length =
    if f.enableWps then
      if f.useMbss then 16 else if bandStarts f.band 97 || bandStarts f.band 103 then 15 else 0
    else 0 := by
  unfold wpsRfBands
  cases f.enableWps <;> cases f.useMbss <;> cases bandStarts f.band 97 <;>
    cases bandStarts f.band 103 <;> simp [← String.length_toList]

theorem length_pmfLine (f : HapdLocals) : (pmfLine f).length =
    if !f.hasPmf && (f.hasTransition || f.hasOwe || f.hasWpa) then 13 else 0 := by
  unfold pmfLine
  cases f.hasPmf <;> cases f.hasTransition <;> cases f.hasSae <;> cases f.hasWpa <;>
    cases f.hasOwe <;> simp [← String.length_toList]

theorem length_opClass (width : Int) :
    (opClass width).length = if width = 1 ∨ width = 2 then 13 else 0 := by
  unfold opClass
  by_cases h1 : width = 1
  · simp [h1, ← String.length_toList]
  · by_cases h2 : width = 2 <;> simp [h1, h2, ← String.length_toList]

theorem length_lines6g (f : HapdLocals) : (lines6g env f).length =
    (if f.chwidthset then 0 else 17 + intChars f.width) +
      (if f.width = 1 ∨ f.width = 2 then 13 else 0) +
      (29 + intChars (get6gCenterFreqIndex env.noReturn f.channel f.width)) +
      (if f.unsolPrRespInterval ≠ 0 then 33 + intChars f.unsolPrRespInterval else 31) + 45 := by
  unfold lines6g
  cases f.chwidthset <;> by_cases hcadence : f.unsolPrRespInterval = 0 <;>
    simp [hcadence, length_intLine, length_opClass, ← String.length_toList] <;> omega

theorem length_wideLines (f : HapdLocals) : (wideLines f).length = wideChars f := by
  unfold wideLines wideChars
  cases f.enableAc <;> cases f.enableAx <;> cases f.vhtChwidthset <;> cases f.chwidthset <;>
    by_cases hwidth : f.width = 2 <;> simp [hwidth, length_intLine, ← String.length_toList] <;>
      omega

theorem length_lines5g (f : HapdLocals) : (lines5g f).length =
    if isHt40plusChan f.channel || isHt40minusChan f.channel then
      17 + if f.width > 0 then wideChars f else 0
    else 0 := by
  unfold lines5g
  cases isHt40plusChan f.channel <;> cases isHt40minusChan f.channel <;>
    by_cases hwidth : f.width > 0 <;> simp [hwidth, length_wideLines, ← String.length_toList]

theorem length_channelWidthLines (f : HapdLocals) :
    (channelWidthLines env f).length = widthChars env f := by
  unfold channelWidthLines widthChars
  cases f.is6gOnly
  · cases bandHasA f.band
    · rfl
    · simp only [if_true, Bool.true_and, length_lines5g, if_neg Bool.false_ne_true]
  · simp only [if_true, length_lines6g]

theorem length_derivedLines (f : HapdLocals) :
    (derivedLines env f).length = derivedChars env f := by
  have hmuedca : (muedcaLines f).length = if f.enableMuedca then 529 else 0 := by
    unfold muedcaLines
    split
    · decide +kernel
    · rfl
  have hhs20 : (hs20Lines f).length = if f.enableHs20 then 106 else 0 := by
    unfold hs20Lines
    split
    · decide +kernel
    · rfl
  have hmfp : (saeRequireMfp f).length = if f.hasSae then 18 else 0 := by
    unfold saeRequireMfp
    split <;> simp [← String.length_toList]
  have hmbssid : (multipleBssid env).length =
      if env.wlanp.mbssidEnable && env.wlanp.transmitter then 17 else 0 := by
    unfold multipleBssid
    split <;> simp [← String.length_toList]
  have hgroups : (saeGroups f).length = if f.hasSae && !f.hasSaeGroups then 32 else 0 := by
    unfold saeGroups
    split <;> simp [← String.length_toList]
  rw [derivedLines, derivedChars]
  simp only [List.length_append, hmuedca, hhs20, hmfp, hmbssid, hgroups, length_wpsRfBands,
    length_pmfLine, length_channelWidthLines]

theorem length_hapdText (band : List UInt8) (table : Table) (ts : List PlacedTlv) :
    (hapdText env band table ts).length = confChars env band table ts := by
  rw [hapdText, List.length_append, List.length_append, length_hapdHeader, length_loopText,
    length_derivedLines, confChars]

end AfcDut.Conf
