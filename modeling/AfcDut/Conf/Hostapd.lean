import AfcDut.Conf.Profiles
import AfcDut.Conf.Text

/-!
# The configuration of hostapd

`generate_hostapd_config` of `indigo_api_callback_dut.c`, built for the laptop
with `HOSTAPD_SUPPORT_MBSSID`: the text it writes and the interface table it
leaves. The output grows without a bound; what the
caller has room for is a question to its length. A copy into a local that does
not fit, and a profile that does not exist, are faults. `country` and
`enable_11h` are not kept: in this build nothing reads them.
-/

namespace AfcDut.Conf

open Indigo ControlApp

/-! ## Environment -/

structure WpsSetting where
  wkey : List UInt8
  value : List UInt8
  attr : List UInt8

/-- What is not in the request: the interface the configuration is for, which
is in use and so stays as it is, whether another interface of its band was
configured first, the settings of `get_vendor_wps_settings`, the hardware
addresses, and what `get_6g_center_freq_index` yields where it ends without a
`return`. -/
structure HapdEnv where
  wlanp : InterfaceInfo
  firstWlan : Bool
  wpsSettings : Option (List WpsSetting)
  macAddress : String → Option (Fin 6 → UInt8)
  noReturn : Int → Int → Int

/-- `is_multiple_bssid` -/
def HapdEnv.isMultipleBssid (env : HapdEnv) : Bool :=
  (env.wlanp.mbssidEnable && !env.wlanp.transmitter) || env.firstWlan

def isBandEnabled (t : Table) (band : Nat) : Bool :=
  t.interfaces.any fun w => w.inUse && w.band == band

/-- `get_wireless_interface`, while an interface is in use. -/
def getWirelessInterface (t : Table) : String :=
  ((t.interfaces.find? InterfaceInfo.inUse).map (·.ifname)).getD ""

/-- `mac_addr` after `get_mac_address`, which writes nothing if it fails. -/
def HapdEnv.macAddr (env : HapdEnv) (t : Table) : List UInt8 :=
  ((env.macAddress (getWirelessInterface t)).map macText).getD []

/-! ## Locals -/

@[ext] structure HapdLocals where
  hasSae : Bool
  hasWpa : Bool
  hasPmf : Bool
  hasOwe : Bool
  hasTransition : Bool
  hasSaeGroups : Bool
  channel : Int
  chwidth : Int
  enableAx : Bool
  chwidthset : Bool
  enableMuedca : Bool
  vhtChwidthset : Bool
  enableAc : Bool
  enableHs20 : Bool
  enableWps : Bool
  useMbss : Bool
  is6gOnly : Bool
  unsolPrRespInterval : Int
  /-- The bytes from `band` on, behind its 64 included. -/
  band : List UInt8
  hs20IconsAttached : Bool

/-- The locals before the loop; nothing has been written to `band`. -/
def HapdLocals.start (band : List UInt8) : HapdLocals where
  hasSae := false
  hasWpa := false
  hasPmf := false
  hasOwe := false
  hasTransition := false
  hasSaeGroups := false
  channel := 0
  chwidth := 1
  enableAx := false
  chwidthset := false
  enableMuedca := false
  vhtChwidthset := false
  enableAc := false
  enableHs20 := false
  enableWps := false
  useMbss := false
  is6gOnly := false
  unsolPrRespInterval := 0
  band := band
  hs20IconsAttached := false

structure HapdState extends HapdLocals where
  table : Table
  output : List UInt8

/-- `strcat(output, text)` -/
def HapdState.strcat (s : HapdState) (text : List UInt8) : HapdState :=
  { s with output := s.output ++ text }

/-! ## The loop over the TLVs -/

def bandSize : Nat := 64
def valueSize : Nat := 16
def countrySize : Nat := 16
def bssIdentifierStrSize : Nat := 8

/-- The number that the TLV `id` carries, or what was there before. -/
def readIf (id : UInt16) (t : PlacedTlv) (old : Int) : Except Fault Int :=
  if t.id = id then readInt valueSize t.value else .ok old

def bssIdentifierTlv (env : HapdEnv) (s : HapdState) : HapdState :=
  { s with useMbss := true }.strcat
    (if isBandEnabled s.table band6ghz && !env.wlanp.mbssidEnable then textLine "rnr=1" else [])

def semicolon : UInt8 := 59

/-- The lines of a setting whose value has several items. -/
def semicolonLines (cfg : TlvToConfigName) (value : List UInt8) : List UInt8 :=
  (strtok semicolon (cText value)).flatMap (configLine cfg.configName)

def selfHessid (env : HapdEnv) (t : Table) : List UInt8 :=
  configLine (cString "hessid") (env.macAddr t)

/-- `profile->profile[atoi(buffer)]`; `sprintf` of the `NULL` that an index
beyond the size leaves, and what lies behind the last profile or before the
first, are faults. -/
def profileText (profile : TlvToProfile) (value : List UInt8) : Except Fault (List UInt8) :=
  let i := atoi value
  if 0 ≤ i then
    match profile.profile[i.toNat]? with
    | some hs2Config => .ok hs2Config
    | none => .error (.slot i.toNat)
  else .error (.slot 0)

def needsIcons (id : UInt16) : Bool :=
  id == tlvOsuProvidersList || id == tlvOperatorIconMetadata

/-- The icons are attached once. -/
def attachIcons (s : HapdState) (t : PlacedTlv) : HapdState :=
  if needsIcons t.id && !s.hs20IconsAttached then
    { s with hs20IconsAttached := true }.strcat hs20Icons
  else s

def profileTlv (s : HapdState) (t : PlacedTlv) (profile : TlvToProfile) :
    Except Fault HapdState := do
  let s := attachIcons s t
  return s.strcat (← profileText profile t.value)

/-- `WPS_ENABLE_NORMAL` and `WPS_ENABLE_OOB`, and `WPS_OOB_ONLY` and
`WPS_COMMON`. -/
def wpsEnableNormal : Int := 1
def wpsEnableOob : Int := 2
def wpsOobOnly : Int := 1
def wpsCommon : Int := 2

def WpsSetting.oobLine (s : WpsSetting) : List UInt8 := configLine s.wkey s.value

/-- The state is set to configured, and the common settings stay. -/
def WpsSetting.normalLine (s : WpsSetting) : List UInt8 :=
  if atoi s.attr = wpsCommon then configLine s.wkey s.value
  else if atoi s.attr = wpsOobOnly && (cString "wps_state").isPrefixOf s.wkey then
    configLine s.wkey (cString "2")
  else []

def wpsLines (settings : List WpsSetting) (value : List UInt8) : List UInt8 :=
  if atoi value = wpsEnableOob then settings.flatMap WpsSetting.oobLine
  else if atoi value = wpsEnableNormal then settings.flatMap WpsSetting.normalLine
  else []

def wpsTlv (env : HapdEnv) (s : HapdState) (t : PlacedTlv) : HapdState :=
  match env.wpsSettings with
  | none => s
  | some settings => { s with enableWps := true }.strcat (wpsLines settings t.value)

/-- `memset` and `memcpy` into `band`. -/
def writeBand (band value : List UInt8) : List UInt8 :=
  value ++ List.replicate (bandSize - value.length) 0 ++ band.drop bandSize

def readBand (t : PlacedTlv) (band : List UInt8) : Except Fault (List UInt8) :=
  if t.id = tlvHwMode then
    if t.value.length ≤ bandSize then .ok (writeBand band t.value) else .error (.write bandSize)
  else .ok band

/-- The copy to `country`. -/
def readCountry (t : PlacedTlv) : Except Fault Unit :=
  if t.id = tlvCountryCode ∧ t.value.length > countrySize then .error (.write countrySize)
  else .ok ()

/-- The flags and the numbers that the TLV of a setting sets. -/
def readFlags (s : HapdState) (t : PlacedTlv) : Except Fault HapdState := do
  let band ← readBand t s.band
  let chwidth ← readIf tlvHeOperChwidth t s.chwidth
  let chwidth ← readIf tlvVhtOperChwidth t chwidth
  readCountry t
  let unsolPrRespInterval ← readIf tlvHeUnsolPrRespCadence t s.unsolPrRespInterval
  return { s with
    hasTransition :=
      s.hasTransition || decide (t.id = tlvWpaKeyMgmt ∧ t.contains "SAE" ∧ t.contains "WPA-PSK")
    hasOwe := s.hasOwe || decide (t.id = tlvWpaKeyMgmt ∧ t.contains "OWE")
    hasSae := s.hasSae || decide (t.id = tlvWpaKeyMgmt ∧ t.contains "SAE")
    hasWpa := s.hasWpa || decide (t.id = tlvWpa ∧ t.contains "2")
    hasPmf := s.hasPmf || decide (t.id = tlvIeee80211W)
    band
    chwidth
    chwidthset := s.chwidthset || decide (t.id = tlvHeOperChwidth)
    vhtChwidthset := s.vhtChwidthset || decide (t.id = tlvVhtOperChwidth)
    enableAc := s.enableAc || decide (t.id = tlvIeee80211Ac ∧ t.contains "1")
    enableAx := s.enableAx || decide (t.id = tlvIeee80211Ax ∧ t.contains "1")
    enableMuedca := s.enableMuedca || decide (t.id = tlvHeMuEdca)
    hasSaeGroups := s.hasSaeGroups || decide (t.id = tlvSaeGroups)
    unsolPrRespInterval
    enableHs20 := s.enableHs20 || decide (t.id = tlvHs20 ∧ t.contains "1") }

/-- `wlan` of an OWE transition, and the table after its assignment. -/
def oweWlan (t : Table) (bssIdentifier : Int) : Table × Option Nat :=
  getOrAssign t (parseBssIdentifier bssIdentifier)

/-- The lines for the other interface of an OWE transition, if there is one. -/
def oweLines (cfg : TlvToConfigName) (hasOwe : Bool) (wlan : Table × Option Nat) : List UInt8 :=
  match wlan.2 with
  | none => []
  | some i =>
      configLine cfg.configName (cString (wlan.1.ifname i)) ++
        if hasOwe then textLine "ignore_broadcast_ssid=1" else []

def oweTransitionTlv (s : HapdState) (t : PlacedTlv) (cfg : TlvToConfigName) :
    Except Fault HapdState := do
  let bssIdentifier ← readInt bssIdentifierStrSize t.value
  let wlan := oweWlan s.table bssIdentifier
  return { s with table := wlan.1 }.strcat (oweLines cfg s.hasOwe wlan)

def settingTlv (s : HapdState) (t : PlacedTlv) (cfg : TlvToConfigName) :
    Except Fault HapdState := do
  let s ← readFlags s t
  if t.id = tlvOweTransitionBssIdentifier then oweTransitionTlv s t cfg
  else return s.strcat (configLine cfg.configName (cText t.value))

/-- The body of the loop, after a channel has been read. -/
def dispatchTlv (env : HapdEnv) (s : HapdState) (t : PlacedTlv) : Except Fault HapdState :=
  if t.id = tlvChannel ∧ env.isMultipleBssid then .ok s
  else if t.id = tlvHe6gOnly then .ok { s with is6gOnly := true }
  else if t.id = tlvBssIdentifier then .ok (bssIdentifierTlv env s)
  else match findGenericTlvConfig t.id semicolonList with
  | some cfg => .ok (s.strcat (semicolonLines cfg t.value))
  | none =>
      if t.id = tlvHessid ∧ t.contains "self" then .ok (s.strcat (selfHessid env s.table))
      else match findTlvHs2Profile t.id with
      | some profile => profileTlv s t profile
      | none =>
          if t.id = tlvWpsEnable then .ok (wpsTlv env s t)
          else match findTlvConfig t.id with
          | some cfg => settingTlv s t cfg
          | none => .ok s

def hapdTlv (env : HapdEnv) (s : HapdState) (t : PlacedTlv) : Except Fault HapdState := do
  let channel ← readIf tlvChannel t s.channel
  dispatchTlv env { s with channel } t

/-! ## Derived lines -/

def getCenterFreqIndex (channel width : Int) : Int :=
  if width = 1 then
    if channel ≥ 36 ∧ channel ≤ 48 then 42
    else if channel ≤ 64 then 58
    else if channel ≥ 100 ∧ channel ≤ 112 then 106
    else if channel ≤ 128 then 122
    else if channel ≤ 144 then 138
    else if channel ≥ 149 ∧ channel ≤ 161 then 155
    else 0
  else if width = 2 then
    if channel ≥ 36 ∧ channel ≤ 64 then 50
    else if channel ≥ 36 ∧ channel ≤ 64 then 114
    else 0
  else 0

/-- The loop over the blocks of channels from `i` on. -/
def blockIndex (noReturn channel chwidth : Int) : Nat → Int → Int
  | 0, _ => noReturn
  | fuel + 1, i =>
      if i < 233 then
        if channel ≥ i ∧ channel < i + chwidth / 5 then i + (chwidth - 20) / 10
        else blockIndex noReturn channel chwidth fuel (i + chwidth / 5)
      else noReturn

def get6gCenterFreqIndex (noReturn : Int → Int → Int) (channel width : Int) : Int :=
  if width = 1 then blockIndex (noReturn channel width) channel 80 233 1
  else if width = 2 then blockIndex (noReturn channel width) channel 160 233 1
  else channel

def isHt40plusChan (chan : Int) : Bool :=
  chan ∈ [36, 44, 52, 60, 100, 108, 116, 124, 132, 140, 149, 157]

def isHt40minusChan (chan : Int) : Bool :=
  chan ∈ [40, 48, 56, 64, 104, 112, 120, 128, 136, 144, 153, 161]

/-- `!strncmp(band, text, 1)` -/
def bandStarts (band : List UInt8) (c : UInt8) : Bool := (cText band).head? == some c

/-- `strstr(band, "a")` -/
def bandHasA (band : List UInt8) : Bool := (cText band).contains 97

def wpsRfBands (s : HapdLocals) : List UInt8 :=
  if s.enableWps then
    if s.useMbss then textLine "wps_rf_bands=ag"
    else if bandStarts s.band 97 then textLine "wps_rf_bands=a"
    else if bandStarts s.band 103 then textLine "wps_rf_bands=g"
    else []
  else []

def pmfLine (s : HapdLocals) : List UInt8 :=
  if s.hasPmf then []
  else if s.hasTransition then textLine "ieee80211w=1"
  else if s.hasSae && s.hasWpa then textLine "ieee80211w=2"
  else if s.hasOwe then textLine "ieee80211w=2"
  else if s.hasWpa then textLine "ieee80211w=1"
  else []

def multipleBssid (env : HapdEnv) : List UInt8 :=
  if env.wlanp.mbssidEnable && env.wlanp.transmitter then textLine "multiple_bssid=1" else []

def saeRequireMfp (s : HapdLocals) : List UInt8 :=
  if s.hasSae then textLine "sae_require_mfp=1" else []

def saeGroups (s : HapdLocals) : List UInt8 :=
  if s.hasSae && !s.hasSaeGroups then textLine "sae_groups=15 16 17 18 19 20 21" else []

/-- `chwidth` after the loop. -/
def HapdLocals.width (s : HapdLocals) : Int :=
  if s.enableAc = false ∧ s.enableAx = false then 0 else s.chwidth

def intLine (name : String) (n : Int) : List UInt8 := configLine (cString name) (intText n)

def opClass (width : Int) : List UInt8 :=
  if width = 1 then textLine "op_class=133"
  else if width = 2 then textLine "op_class=134"
  else []

/-- The lines of a 6 GHz access point. -/
def lines6g (env : HapdEnv) (s : HapdLocals) : List UInt8 :=
  (if s.chwidthset then [] else intLine "he_oper_chwidth" s.width) ++ opClass s.width ++
    intLine "he_oper_centr_freq_seg0_idx" (get6gCenterFreqIndex env.noReturn s.channel s.width) ++
    (if s.unsolPrRespInterval ≠ 0 then
      intLine "unsol_bcast_probe_resp_interval" s.unsolPrRespInterval
    else textLine "fils_discovery_max_interval=20") ++
    textLine "he_bss_color=19" ++ textLine "ieee80211d=1" ++ textLine "country_code=US"

/-- The lines of a channel that is wider than 20 MHz. -/
def wideLines (s : HapdLocals) : List UInt8 :=
  (if s.width = 2 then
    textLine "ieee80211d=1" ++ textLine "country_code=US" ++ textLine "ieee80211h=1"
  else []) ++
    (if s.enableAc then
      (if s.vhtChwidthset then [] else intLine "vht_oper_chwidth" s.width) ++
        intLine "vht_oper_centr_freq_seg0_idx" (getCenterFreqIndex s.channel s.width) ++
        (if s.width = 2 then textLine "vht_capab=[VHT160]" else [])
    else []) ++
    (if s.enableAx then
      (if s.chwidthset then [] else intLine "he_oper_chwidth" s.width) ++
        intLine "he_oper_centr_freq_seg0_idx" (getCenterFreqIndex s.channel s.width)
    else [])

/-- The lines of a 5 GHz access point. A channel without a second one next to
it is not widened. -/
def lines5g (s : HapdLocals) : List UInt8 :=
  if isHt40plusChan s.channel then
    textLine "ht_capab=[HT40+]" ++ if s.width > 0 then wideLines s else []
  else if isHt40minusChan s.channel then
    textLine "ht_capab=[HT40-]" ++ if s.width > 0 then wideLines s else []
  else []

def channelWidthLines (env : HapdEnv) (s : HapdLocals) : List UInt8 :=
  if s.is6gOnly then lines6g env s
  else if bandHasA s.band then lines5g s
  else []

def muedcaLines (s : HapdLocals) : List UInt8 :=
  if s.enableMuedca then
    List.flatMap textLine [
      "he_mu_edca_qos_info_queue_request=1",
      "he_mu_edca_ac_be_aifsn=0",
      "he_mu_edca_ac_be_ecwmin=15",
      "he_mu_edca_ac_be_ecwmax=15",
      "he_mu_edca_ac_be_timer=255",
      "he_mu_edca_ac_bk_aifsn=0",
      "he_mu_edca_ac_bk_aci=1",
      "he_mu_edca_ac_bk_ecwmin=15",
      "he_mu_edca_ac_bk_ecwmax=15",
      "he_mu_edca_ac_bk_timer=255",
      "he_mu_edca_ac_vi_ecwmin=15",
      "he_mu_edca_ac_vi_ecwmax=15",
      "he_mu_edca_ac_vi_aifsn=0",
      "he_mu_edca_ac_vi_aci=2",
      "he_mu_edca_ac_vi_timer=255",
      "he_mu_edca_ac_vo_aifsn=0",
      "he_mu_edca_ac_vo_aci=3",
      "he_mu_edca_ac_vo_ecwmin=15",
      "he_mu_edca_ac_vo_ecwmax=15",
      "he_mu_edca_ac_vo_timer=255"]
  else []

def hs20Lines (s : HapdLocals) : List UInt8 :=
  if s.enableHs20 then
    List.flatMap textLine [
      "hs20_release=3",
      "manage_p2p=1",
      "allow_cross_connection=0",
      "bss_load_update_period=100",
      "hs20_deauth_req_timeout=3"]
  else []

/-- What is written after the loop. -/
def derivedLines (env : HapdEnv) (s : HapdLocals) : List UInt8 :=
  wpsRfBands s ++ pmfLine s ++ saeRequireMfp s ++ multipleBssid env ++ saeGroups s ++
    channelWidthLines env s ++ muedcaLines s ++ hs20Lines s

/-! ## The function -/

def hapdHeader (env : HapdEnv) : List UInt8 :=
  if env.isMultipleBssid then
    configLine (cString "bss") (cString env.wlanp.ifname) ++
      textLine "ctrl_interface=/var/run/hostapd"
  else
    textLine "ctrl_interface=/var/run/hostapd" ++ textLine "ctrl_interface_group=0" ++
      configLine (cString "interface") (cString env.wlanp.ifname)

def hapdTlvs (env : HapdEnv) : HapdState → List PlacedTlv → Except Fault HapdState
  | s, [] => .ok s
  | s, t :: ts => do hapdTlvs env (← hapdTlv env s t) ts

/-- The text and the table. `band` is what the local of this name holds on
entry. -/
def generateHostapdConfig (env : HapdEnv) (band : List UInt8) (table : Table)
    (tlvs : List PlacedTlv) : Except Fault (List UInt8 × Table) := do
  let s ← hapdTlvs env { HapdLocals.start band with table, output := hapdHeader env } tlvs
  return (s.output ++ derivedLines env s.toHapdLocals, s.table)

/-- An interface of its own, without WPS settings. -/
def loneWlan : HapdEnv where
  wlanp := ⟨0, band5ghz, "wlan0", false, false, 0, "/etc/hostapd/hostapd_wlan0.conf"⟩
  firstWlan := false
  wpsSettings := none
  macAddress := fun _ => none
  noReturn := fun _ _ => 0

end AfcDut.Conf
