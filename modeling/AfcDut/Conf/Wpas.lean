import AfcDut.Conf.Text

/-!
# The configuration of wpa_supplicant

`generate_wpas_config` of `indigo_api_callback_dut.c`: the global settings, and
then the network block. Each value is copied to a cleared buffer with room for
every TLV, so the function always ends. `pac_file_path` is not kept: the text
does not depend on it.
-/

namespace AfcDut.Conf

open Indigo ControlApp Data.Search

/-- `strstr(value, token)` of a copied value. -/
def valueContains (value : List UInt8) (token : String) : Bool :=
  (strstr (cText value) (cString token)).isSome

/-! ## Server certificates -/

/-- The files of `get_server_cert_hash` and the hashes of their certificates. -/
def serverCertHashes : List (String × String) := [
  ("rsa_server1_w1_fi.pem",
    "a7407d995678712bb7adb4e7a75e89674aba363dea0b8308c63b006329b0de2d"),
  ("rsa_server1ALT_w1_fi.pem",
    "79a9d7273368bee41566f79ae9fc84119f7c963cf8cfac5984e2e0adaeafb112"),
  ("rsa_server2_w1_fi.pem",
    "8d0e00b924e30f4595ae7f5ef9f1346e2c3f343dfb1caf1429b3bb6b32a1bf03"),
  ("rsa_server4_w1_fi.pem",
    "2703264d2d06727be661752ff5b57e85f842dc74e18aaa03316e7b2d08db6260")]

/-- `get_server_cert_hash`, into a cleared buffer. -/
def getServerCertHash (pemFile : List UInt8) : List UInt8 :=
  match serverCertHashes.find? fun item => cString item.1 == pemFile with
  | none => []
  | some item => cString "hash://server/sha256/" ++ cString item.2

/-! ## Lines -/

def quote : UInt8 := 34

/-- `"%s=\"%s\"\n"` -/
def quotedLine (name value : List UInt8) : List UInt8 :=
  name ++ equalsSign :: quote :: value ++ [quote, newline]

/-- What is written for the value of a setting. -/
def wpasValue (t : PlacedTlv) : List UInt8 :=
  if t.id = tlvCaCert ∧ cText t.value = cString "DEFAULT" then
    cString "/etc/ssl/certs/ca-certificates.crt"
  else if t.id = tlvServerCert then getServerCertHash (cText t.value)
  else cText t.value

/-- The line of a global setting. -/
def wpasGlobalLine (t : PlacedTlv) : List UInt8 :=
  match findWpasGlobalConfigName t.id with
  | some cfg => configLine cfg.configName (cText t.value)
  | none => []

/-- The line of a setting of the network. -/
def wpasNetworkLine (t : PlacedTlv) : List UInt8 :=
  match findTlvConfig t.id, findWpasGlobalConfigName t.id with
  | some cfg, none =>
      if cfg.quoted then quotedLine cfg.configName (wpasValue t)
      else configLine cfg.configName (wpasValue t)
  | _, _ => []

/-! ## The function -/

structure WpasFlags where
  ieee80211wConfigured : Bool
  transitionModeEnabled : Bool
  oweConfigured : Bool
  saeOnly : Bool

/-- The flags that the TLVs of the network set. -/
def wpasFlags (ts : List PlacedTlv) : WpasFlags where
  ieee80211wConfigured := ts.any fun t => t.id == tlvIeee80211W || t.id == tlvStaIeee80211W
  transitionModeEnabled := ts.any fun t =>
    t.id == tlvKeyMgmt && (valueContains t.value "WPA-PSK" && valueContains t.value "SAE")
  oweConfigured := ts.any fun t => t.id == tlvKeyMgmt && valueContains t.value "OWE"
  saeOnly := ts.any fun t =>
    t.id == tlvKeyMgmt && (!valueContains t.value "WPA-PSK" && valueContains t.value "SAE")

def wpasPmfLine (f : WpasFlags) : List UInt8 :=
  if f.ieee80211wConfigured then []
  else if f.transitionModeEnabled then textLine "ieee80211w=1"
  else if f.saeOnly then textLine "ieee80211w=2"
  else if f.oweConfigured then textLine "ieee80211w=2"
  else []

def wpasHeader : List UInt8 :=
  textLine "ctrl_interface=/var/run/wpa_supplicant" ++ textLine "ap_scan=1" ++ textLine "pmf=1"

def generateWpasConfig (tlvs : List PlacedTlv) : List UInt8 :=
  wpasHeader ++ tlvs.flatMap wpasGlobalLine ++ textLine "network=\x7b" ++
    tlvs.flatMap wpasNetworkLine ++ wpasPmfLine (wpasFlags tlvs) ++ textLine "\x7d"

end AfcDut.Conf
