import AfcDut.Conf.Text

/-!
# Hotspot profiles

The canned texts of `hs2_profile.h`. A TLV that has profiles names one of them
by its index.
-/

namespace AfcDut.Conf

open Indigo ControlApp

/-! ## Texts -/

/-- The bytes of a string constant, which need not be ASCII. -/
def utf8String (s : String) : List UInt8 := s.toList.flatMap String.utf8EncodeChar

def profileLines (lines : List String) : List UInt8 :=
  lines.flatMap fun line => utf8String line ++ [newline]

/-- `ADVICE_OF_CHARGE_1`, in hexadecimal. -/
def adviceOfCharge1 : List UInt8 := List.flatMap cString [
  "bc01000000d200454e475553443c3f786d6c2076657273696f6e3d22312e30222065",
  "6e636f64696e673d225554462d38223f3e3c506c616e20786d6c6e733d22687474703a2f2f77",
  "77772e77692d66692e6f72672f73706563696669636174696f6e732f686f7473706f7432646f",
  "74302f76312e302f616f637069223e3c4465736372697074696f6e3e57692d46692061636365",
  "737320666f72203120686f75722c207768696c6520796f752077616974206174207468652067",
  "6174652c2024302e39393c2f4465736372697074696f6e3e3c2f506c616e3ee3004652414341",
  "443c3f786d6c2076657273696f6e3d22312e302220656e636f64696e673d225554462d38223f",
  "3e3c506c616e20786d6c6e733d22687474703a2f2f7777772e77692d66692e6f72672f737065",
  "63696669636174696f6e732f686f7473706f7432646f74302f76312e302f616f637069223e3c",
  "4465736372697074696f6e3e416363c3a8732057692d46692070656e64616e74203120686575",
  "72652c2070656e64616e742071756520766f757320617474656e64657a20c3a0206c6120706f",
  "7274652c20302c393920243c2f4465736372697074696f6e3e3c2f506c616e3ea101010000c7",
  "00454e475553443c3f786d6c2076657273696f6e3d22312e302220656e636f64696e673d2255",
  "54462d38223f3e3c506c616e20786d6c6e733d22687474703a2f2f7777772e77692d66692e6f",
  "72672f73706563696669636174696f6e732f686f7473706f7432646f74302f76312e302f616f",
  "637069223e3c4465736372697074696f6e3e446f776e6c6f616420766964656f7320666f7220",
  "796f757220666c696768742c2024322e393920666f7220313047423c2f446573637269707469",
  "6f6e3e3c2f506c616e3ed3004652414341443c3f786d6c2076657273696f6e3d22312e302220",
  "656e636f64696e673d225554462d38223f3e3c506c616e20786d6c6e733d22687474703a2f2f",
  "7777772e77692d66692e6f72672f73706563696669636174696f6e732f686f7473706f743264",
  "6f74302f76312e302f616f637069223e3c4465736372697074696f6e3e54c3a96cc3a9636861",
  "7267657a2064657320766964c3a96f7320706f757220766f74726520766f6c2c20322c393920",
  "2420706f757220313020476f3c2f4465736372697074696f6e3e3c2f506c616e3ee40003002b",
  "736572766963652d70726f76696465722e636f6d3b66656465726174696f6e2e6578616d706c",
  "652e636f6db400454e475553443c3f786d6c2076657273696f6e3d22312e302220656e636f64",
  "696e673d225554462d38223f3e3c506c616e20786d6c6e733d22687474703a2f2f7777772e77",
  "692d66692e6f72672f73706563696669636174696f6e732f686f7473706f7432646f74302f76",
  "312e302f616f637069223e3c4465736372697074696f6e3e46726565207769746820796f7572",
  "20737562736372697074696f6e213c2f4465736372697074696f6e3e3c2f506c616e3e"]

def naiRealm : List (List UInt8) := [
  [],
  profileLines [
    "nai_realm=0,mail.example.com,21[2:4][5:7]",
    "nai_realm=0,cisco.com,21[2:4][5:7]",
    "nai_realm=0,wi-fi.org,13[5:6],21[2:4][5:7]",
    "nai_realm=0,example.com,13[5:6]"],
  profileLines ["nai_realm=0,wi-fi.org,21[2:4][5:7]"],
  profileLines [
    "nai_realm=0,cisco.com,21[2:4][5:7]",
    "nai_realm=0,wi-fi.org,13[5:6],21[2:4][5:7]",
    "nai_realm=0,example.com,13[5:6]"],
  profileLines ["nai_realm=0,mail.example.com,13[5:6],21[2:4][5:7]"],
  profileLines [
    "nai_realm=0,wi-fi.org,21[2:4][5:7]",
    "nai_realm=0,ruckuswireless.com,21[2:4][5:7]"],
  profileLines [
    "nai_realm=0,wi-fi.org,21[2:4][5:7]",
    "nai_realm=0,mail.example.com,21[2:4][5:7]"],
  profileLines ["nai_realm=0,wi-fi.org,13[5:6],21[2:4][5:7]"]]

def operFriendlyName : List (List UInt8) := [
  [],
  profileLines [
    "hs20_oper_friendly_name=eng:Wi-Fi Alliance",
    "hs20_oper_friendly_name=chi:Wi-Fi联盟"]]

def venueName : List (List UInt8) := [
  [],
  profileLines [
    "venue_name=eng:Wi-Fi Alliance 3408 Garrett Drive Santa Clara, CA 950514, USA",
    "venue_name=chi:Wi-Fi聯盟實驗室 三四零八 加洛路 聖克拉拉, 加利福尼亞 950514, 美國"],
  [],
  []]

def networkAuthType : List (List UInt8) := [
  [],
  profileLines ["network_auth_type=00https://tandc-server.wi-fi.org"],
  profileLines ["network_auth_type=01"]]

def ipaddrTypeAvail : List (List UInt8) := [
  [],
  profileLines ["ipaddr_type_availability=0c"]]

def hs20WanMetrics : List (List UInt8) := [
  [],
  profileLines ["hs20_wan_metrics=01:2500:384:0:0:10"],
  profileLines ["hs20_wan_metrics=01:1500:384:20:20:10"],
  profileLines ["hs20_wan_metrics=01:2000:1000:20:20:10"],
  profileLines ["hs20_wan_metrics=01:8000:1000:20:20:10"],
  profileLines ["hs20_wan_metrics=01:9000:5000:20:20:10"]]

def hs20ConnCapab : List (List UInt8) := [
  [],
  profileLines [
    "hs20_conn_capab=6:20:1",
    "hs20_conn_capab=6:80:1",
    "hs20_conn_capab=6:443:1",
    "hs20_conn_capab=17:500:1",
    "hs20_conn_capab=50:0:1"],
  [],
  profileLines ["hs20_conn_capab=6:80:1", "hs20_conn_capab=6:443:1"],
  profileLines [
    "hs20_conn_capab=6:80:1",
    "hs20_conn_capab=6:443:1",
    "hs20_conn_capab=6:5060:1",
    "hs20_conn_capab=17:5060:1"],
  []]

def operatingClassIndication : List (List UInt8) := [
  [],
  profileLines ["hs20_operating_class=51"],
  profileLines ["hs20_operating_class=73"],
  profileLines ["hs20_operating_class=5173"]]

def osuProvidersList : List (List UInt8) := [
  [],
  profileLines [
    "osu_ssid=\"OSU\"",
    "osu_server_uri=https://osu-server.r2-testbed.wi-fi.org/",
    "osu_friendly_name=eng:SP Red Test Only",
    "osu_friendly_name=kor:SP 빨강 테스트 전용",
    "osu_method_list=1",
    "osu_icon=icon_red_eng.png",
    "osu_icon=icon_red_zxx.png",
    "osu_service_desc=eng:Free service for test purpose",
    "osu_service_desc=kor:테스트 목적으로 무료 서비스"],
  [],
  [],
  [],
  []]

def osuProvidersNaiList : List (List UInt8) := [
  [],
  profileLines ["osu_nai2=anonymous@hotspot.net"],
  [],
  [],
  []]

def bssLoad : List (List UInt8) := [
  [],
  profileLines ["bss_load_test=1:50:65535"],
  profileLines ["bss_load_test=1:200:65535"],
  profileLines ["bss_load_test=1:75:65535"]]

def venueUrl : List (List UInt8) := [
  [],
  profileLines [
    "venue_url=1:https://venue-server.r2m-testbed.wi-fi.org/floorplans/index.html",
    "venue_url=1:https://venue-server.r2m-testbed.wi-fi.org/directory/index.html"],
  []]

def operatorIconMetadata : List (List UInt8) := [
  [],
  profileLines ["operator_icon=icon_red_eng.png"]]

def adviceOfCharge : List (List UInt8) := [
  [],
  cString "anqp_elem=278:" ++ adviceOfCharge1 ++ [newline]]

/-- Width, height, language, type, name and path of each icon. -/
def hs20Icon : List (List UInt8) := [
  profileLines [
    "hs20_icon=160:76:eng:image/png:icon_red_eng.png:/overlay/passpoint/icon_red_eng.png"],
  profileLines [
    "hs20_icon=128:61:zxx:image/png:icon_red_zxx.png:/overlay/passpoint/icon_red_zxx.png"]]

/-! ## Look-up -/

structure TlvToProfile where
  tlvId : UInt16
  profile : List (List UInt8)

def TlvToProfile.size (p : TlvToProfile) : Nat := p.profile.length

def hs2Profile : List TlvToProfile := [
  ⟨tlvVenueName, venueName⟩,
  ⟨tlvNaiRealm, naiRealm⟩,
  ⟨tlvHs20OperatorFriendlyName, operFriendlyName⟩,
  ⟨tlvNetworkAuthType, networkAuthType⟩,
  ⟨tlvIpaddrTypeAvailability, ipaddrTypeAvail⟩,
  ⟨tlvHs20WanMetrics, hs20WanMetrics⟩,
  ⟨tlvHs20ConnCapability, hs20ConnCapab⟩,
  ⟨tlvOsuProvidersList, osuProvidersList⟩,
  ⟨tlvOsuProvidersNaiList, osuProvidersNaiList⟩,
  ⟨tlvVenueUrl, venueUrl⟩,
  ⟨tlvBssloadEnable, bssLoad⟩,
  ⟨tlvOperatorIconMetadata, operatorIconMetadata⟩,
  ⟨tlvHs20OperatingClassIndication, operatingClassIndication⟩,
  ⟨tlvAdviceOfCharge, adviceOfCharge⟩]

def findTlvHs2Profile (tlvId : UInt16) : Option TlvToProfile :=
  hs2Profile.find? fun p => p.tlvId == tlvId

/-- What `attach_hs20_icons` adds to a text. -/
def hs20Icons : List UInt8 := hs20Icon.flatten

end AfcDut.Conf
