import AfcDut.Indigo.Wrapper

/-!
# The API and TLV lists

The tables of `indigo_api.c`, their look-ups, and the functions that fill a
wrapper.
-/

namespace AfcDut.Indigo

/-- A handler reads the request, fills the response and returns a code. -/
abbrev ApiCallbackFunc := PacketWrapper → PacketWrapper → Int × PacketWrapper

structure IndigoApi where
  type : UInt16
  name : String
  verify : Option ApiCallbackFunc
  handle : Option ApiCallbackFunc

structure IndigoTlv where
  id : UInt16
  name : String

def apiVersion : UInt8 := 0x01
def apiReservedByte : UInt8 := 0xff

def apiCmdResponse : UInt16 := 0x0000
def apiCmdAck : UInt16 := 0x0001
def apiGetControlAppVersion : UInt16 := 0x5002
def apiAfcdConfigure : UInt16 := 0x6001
def apiAfcdOperation : UInt16 := 0x6002
def apiAfcdGetInfo : UInt16 := 0x6003

def tlvMessage : UInt16 := 0xa000
def tlvStatus : UInt16 := 0xa001

def indigoApiList : List IndigoApi := [
  ⟨0x0000, "CMD_RESPONSE", none, none⟩,
  ⟨0x0001, "CMD_ACK", none, none⟩,
  ⟨0x1000, "AP_START_UP", none, none⟩,
  ⟨0x1001, "AP_STOP", none, none⟩,
  ⟨0x1002, "AP_CONFIGURE", none, none⟩,
  ⟨0x1003, "AP_TRIGGER_CHANSWITCH", none, none⟩,
  ⟨0x1004, "AP_SEND_DISCONNECT", none, none⟩,
  ⟨0x1005, "API_AP_SET_PARAM", none, none⟩,
  ⟨0x1006, "API_AP_SEND_BTM_REQ", none, none⟩,
  ⟨0x1007, "API_AP_SEND_ARP_MSGS", none, none⟩,
  ⟨0x1008, "AP_START_WPS", none, none⟩,
  ⟨0x1009, "AP_CONFIGURE_WSC", none, none⟩,
  ⟨0x2008, "STA_START_UP", none, none⟩,
  ⟨0x2000, "STA_ASSOCIATE", none, none⟩,
  ⟨0x2001, "STA_CONFIGURE", none, none⟩,
  ⟨0x2002, "STA_DISCONNECT", none, none⟩,
  ⟨0x2003, "STA_SEND_DISCONNECT", none, none⟩,
  ⟨0x2004, "STA_REASSOCIATE", none, none⟩,
  ⟨0x2005, "STA_SET_PARAM", none, none⟩,
  ⟨0x2006, "STA_SEND_BTM_QUERY", none, none⟩,
  ⟨0x2007, "STA_SEND_ANQP_QUERY", none, none⟩,
  ⟨0x2009, "STA_SET_PHY_MODE", none, none⟩,
  ⟨0x200a, "STA_SET_CHANNEL_WIDTH", none, none⟩,
  ⟨0x200b, "STA_POWER_SAVE", none, none⟩,
  ⟨0x2014, "STA_SCAN", none, none⟩,
  ⟨0x2012, "API_STA_HS2_ASSOCIATE", none, none⟩,
  ⟨0x2017, "API_STA_INSTALL_PPSMO", none, none⟩,
  ⟨0x200c, "P2P_START_UP", none, none⟩,
  ⟨0x200d, "P2P_FIND", none, none⟩,
  ⟨0x200e, "P2P_LISTEN", none, none⟩,
  ⟨0x200f, "P2P_ADD_GROUP", none, none⟩,
  ⟨0x2010, "P2P_START_WPS", none, none⟩,
  ⟨0x2011, "P2P_CONNECT", none, none⟩,
  ⟨0x2013, "API_STA_ADD_CREDENTIAL", none, none⟩,
  ⟨0x2015, "P2P_GET_INTENT_VALUE", none, none⟩,
  ⟨0x2016, "STA_START_WPS", none, none⟩,
  ⟨0x2018, "P2P_INVITE", none, none⟩,
  ⟨0x2019, "P2P_STOP_GROUP", none, none⟩,
  ⟨0x201a, "P2P_SET_SERV_DISC", none, none⟩,
  ⟨0x201b, "STA_SEND_ICON_REQ", none, none⟩,
  ⟨0x201c, "P2P_SET_EXT_LISTEN", none, none⟩,
  ⟨0x201d, "STA_ENABLE_WSC", none, none⟩,
  ⟨0x3000, "SNIFFER_START", none, none⟩,
  ⟨0x3001, "SNIFFER_STOP", none, none⟩,
  ⟨0x3002, "SNIFFER_UPLOAD_FILE", none, none⟩,
  ⟨0x3003, "SNIFFER_FILTER", none, none⟩,
  ⟨0x5000, "GET_IP_ADDR", none, none⟩,
  ⟨0x5001, "GET_MAC_ADDR", none, none⟩,
  ⟨0x5002, "GET_CONTROL_APP_VERSION", none, none⟩,
  ⟨0x5003, "START_LOOP_BACK_SERVER", none, none⟩,
  ⟨0x5004, "STOP_LOOP_BACK_SERVER", none, none⟩,
  ⟨0x5005, "CREATE_NEW_INTERFACE_BRIDGE_NETWORK", none, none⟩,
  ⟨0x5006, "ASSIGN_STATIC_IP", none, none⟩,
  ⟨0x5007, "DEVICE_RESET", none, none⟩,
  ⟨0x5008, "SEND_LOOP_BACK_DATA", none, none⟩,
  ⟨0x5009, "STOP_LOOP_BACK_DATA", none, none⟩,
  ⟨0x500a, "START_DHCP", none, none⟩,
  ⟨0x500b, "STOP_DHCP", none, none⟩,
  ⟨0x500c, "GET_WSC_PIN", none, none⟩,
  ⟨0x500d, "GET_WSC_CRED", none, none⟩,
  ⟨0x6001, "AFCD_CONFIGURE", none, none⟩,
  ⟨0x6002, "AFCD_OPERATION", none, none⟩,
  ⟨0x6003, "AFCD_GET_INFO", none, none⟩]

def indigoTlvList : List IndigoTlv := [
  ⟨0x0001, "SSID"⟩,
  ⟨0x0002, "CHANNEL"⟩,
  ⟨0x0003, "WEP_KEY0"⟩,
  ⟨0x0004, "AUTH_ALGORITHM"⟩,
  ⟨0x0005, "WEP_DEFAULT_KEY"⟩,
  ⟨0x0006, "IEEE80211_D"⟩,
  ⟨0x0007, "IEEE80211_N"⟩,
  ⟨0x0008, "IEEE80211_AC"⟩,
  ⟨0x0009, "COUNTRY_CODE"⟩,
  ⟨0x000a, "WMM_ENABLED"⟩,
  ⟨0x000b, "WPA"⟩,
  ⟨0x000c, "WPA_KEY_MGMT"⟩,
  ⟨0x000d, "RSN_PAIRWISE"⟩,
  ⟨0x000e, "WPA_PASSPHRASE"⟩,
  ⟨0x000f, "WPA_PAIRWISE"⟩,
  ⟨0x0010, "HT_CAPB"⟩,
  ⟨0x0011, "IEEE80211_H"⟩,
  ⟨0x0012, "IEEE80211_W"⟩,
  ⟨0x0013, "VHT_OPER_CHWIDTH"⟩,
  ⟨0x0014, "VHT_CAPB"⟩,
  ⟨0x0015, "IEEE8021_X"⟩,
  ⟨0x0016, "EAP_SERVER"⟩,
  ⟨0x0017, "AUTH_SERVER_ADDR"⟩,
  ⟨0x0018, "AUTH_SERVER_PORT"⟩,
  ⟨0x0019, "AUTH_SERVER_SHARED_SECRET"⟩,
  ⟨0x001a, "INTERFACE_NAME"⟩,
  ⟨0x001b, "NEW_INTERFACE_NAME"⟩,
  ⟨0x001c, "FREQUENCY"⟩,
  ⟨0x001d, "BSS_IDENTIFIER"⟩,
  ⟨0x001e, "HW_MODE"⟩,
  ⟨0x001f, "VHT_OPER_CENTR_FREQ"⟩,
  ⟨0x0020, "RESET_TYPE"⟩,
  ⟨0x0021, "APP_TYPE"⟩,
  ⟨0x0023, "IE_OVERRIDE"⟩,
  ⟨0x0024, "HOME_FQDN"⟩,
  ⟨0x0025, "USERNAME"⟩,
  ⟨0x0026, "PREFER"⟩,
  ⟨0x0027, "CREDENTIAL_TYPE"⟩,
  ⟨0x0028, "ADDRESS"⟩,
  ⟨0x0033, "DISABLE_PMKSA_CACHING"⟩,
  ⟨0x0034, "SAE_ANTI_CLOGGING_THRESHOLD"⟩,
  ⟨0x0035, "STA_SSID"⟩,
  ⟨0x0036, "KEY_MGMT"⟩,
  ⟨0x0037, "STA_WEP_KEY0"⟩,
  ⟨0x0038, "WEP_TX_KEYIDX"⟩,
  ⟨0x0039, "GROUP"⟩,
  ⟨0x003a, "PSK"⟩,
  ⟨0x003b, "PROTO"⟩,
  ⟨0x003c, "STA_IEEE80211_W"⟩,
  ⟨0x003d, "PAIRWISE"⟩,
  ⟨0x003e, "EAP"⟩,
  ⟨0x003f, "PHASE2"⟩,
  ⟨0x0040, "IDENTITY"⟩,
  ⟨0x0041, "PASSWORD"⟩,
  ⟨0x0042, "CA_CERT"⟩,
  ⟨0x0043, "PHASE1"⟩,
  ⟨0x0044, "CLIENT_CERT"⟩,
  ⟨0x0045, "PRIVATE_KEY"⟩,
  ⟨0x0052, "STA_POWER_SAVE"⟩,
  ⟨0x0055, "STATIC_IP"⟩,
  ⟨0x0057, "DEBUG_LEVEL"⟩,
  ⟨0x0058, "DUT_IP_ADDRESS"⟩,
  ⟨0x0059, "HOSTAPD_FILE_NAME"⟩,
  ⟨0x005c, "ROLE"⟩,
  ⟨0x005d, "BAND"⟩,
  ⟨0x005e, "BSSID"⟩,
  ⟨0x005f, "ARP_TRANSMISSION_RATE"⟩,
  ⟨0x0060, "ARP_TARGET_IP"⟩,
  ⟨0x0062, "ARP_FRAME_COUNT"⟩,
  ⟨0x0067, "PACKET_COUNT"⟩,
  ⟨0x0068, "PACKET_TYPE"⟩,
  ⟨0x0069, "PACKET_RATE"⟩,
  ⟨0x006a, "PHYMODE"⟩,
  ⟨0x006b, "CHANNEL_WIDTH"⟩,
  ⟨0x006d, "PAC_FILE"⟩,
  ⟨0x006e, "STA_SAE_GROUPS"⟩,
  ⟨0x0071, "SAE_GROUPS"⟩,
  ⟨0x0072, "IEEE80211_AX"⟩,
  ⟨0x0073, "HE_OPER_CHWIDTH"⟩,
  ⟨0x0074, "HE_OPER_CENTR_FREQ"⟩,
  ⟨0x0075, "MBO"⟩,
  ⟨0x0076, "MBO_CELL_DATA_CONN_PREF"⟩,
  ⟨0x0077, "BSS_TRANSITION"⟩,
  ⟨0x0078, "INTERWORKING"⟩,
  ⟨0x0079, "RRM_NEIGHBOR_REPORT"⟩,
  ⟨0x007a, "RRM_BEACON_REPORT"⟩,
  ⟨0x007b, "COUNTRY3"⟩,
  ⟨0x007c, "MBO_CELL_CAPA"⟩,
  ⟨0x007d, "TLV_DOMAIN_MATCH"⟩,
  ⟨0x007e, "TLV_DOMAIN_SUFFIX_MATCH"⟩,
  ⟨0x007f, "TLV_MBO_ASSOC_DISALLOW"⟩,
  ⟨0x0081, "TLV_DISASSOC_IMMINENT"⟩,
  ⟨0x0082, "TLV_BSS_TERMINATION"⟩,
  ⟨0x0083, "TLV_DISASSOC_TIMER"⟩,
  ⟨0x0084, "TLV_BSS_TERMINATION_TSF"⟩,
  ⟨0x0085, "TLV_BSS_TERMINATION_DURATION"⟩,
  ⟨0x0086, "TLV_REASSOCIAITION_RETRY_DELAY"⟩,
  ⟨0x0087, "TLV_BTMQUERY_REASON_CODE"⟩,
  ⟨0x0088, "TLV_CANDIDATE_LIST"⟩,
  ⟨0x0089, "TLV_ANQP_INFO_ID"⟩,
  ⟨0x008a, "TLV_GAS_COMEBACK_DELAY"⟩,
  ⟨0x008d, "TLV_SAE_PWE"⟩,
  ⟨0x008e, "TLV_OWE_GROUPS"⟩,
  ⟨0x008f, "TLV_STA_OWE_GROUP"⟩,
  ⟨0x0090, "TLV_HE_MU_EDCA"⟩,
  ⟨0x0092, "TLV_RSNXE_OVERRIDE_EAPOL"⟩,
  ⟨0x0093, "TLV_TRANSITION_DISABLE"⟩,
  ⟨0x0094, "SAE_CONFIRM_IMMEDIATE"⟩,
  ⟨0x0099, "SERVER_CERT"⟩,
  ⟨0x009c, "CONTROL_INTERFACE"⟩,
  ⟨0x009d, "PACKET_SIZE"⟩,
  ⟨0x009e, "DUT_UDP_PORT"⟩,
  ⟨0x00a2, "OWE_TRANSITION_BSS_IDENTIFIER"⟩,
  ⟨0xa000, "MESSAGE"⟩,
  ⟨0xa001, "STATUS"⟩,
  ⟨0xa002, "DUT_WLAN_IP_ADDR"⟩,
  ⟨0xa003, "DUT_MAC_ADDR"⟩,
  ⟨0xa004, "CONTROL_APP_VERSION"⟩,
  ⟨0x00a3, "FREQ_LIST"⟩,
  ⟨0x0022, "OP_CLASS"⟩,
  ⟨0x00a6, "HE_6G_ONLY"⟩,
  ⟨0x00a7, "UNSOL_PR_RESP_CADENCE"⟩,
  ⟨0x00a8, "FILS_DISCOERY_TX"⟩,
  ⟨0x00a1, "SKIP_6G_BSS_SECURITY_CHECK"⟩,
  ⟨0x0095, "RAND_MAC_ADDR"⟩,
  ⟨0x0096, "PREASSOC_RAND_MAC_ADDR"⟩,
  ⟨0x0097, "RAND_ADDR_LIFETIME"⟩,
  ⟨0x00a9, "HS20"⟩,
  ⟨0x00aa, "ACCESS_NETWORK_TYPE"⟩,
  ⟨0x00ab, "INTERNET"⟩,
  ⟨0x00ac, "VENUE_GROUP"⟩,
  ⟨0x00ad, "VENUE_TYPE"⟩,
  ⟨0x00ae, "HESSID"⟩,
  ⟨0x00b0, "ANQP_3GPP_CELL_NETWORK_INFO"⟩,
  ⟨0x00af, "OSU_SSID"⟩,
  ⟨0x00b1, "PROXY_ARP"⟩,
  ⟨0x00b2, "BSSLOAD_ENABLE"⟩,
  ⟨0x00b3, "ROAMING_CONSORTIUM"⟩,
  ⟨0x00b4, "NETWORK_AUTH_TYPE"⟩,
  ⟨0x00b5, "DOMAIN_LIST"⟩,
  ⟨0x00b6, "HS20_OPERATOR_FRIENDLY_NAME"⟩,
  ⟨0x00b7, "NAI_REALM"⟩,
  ⟨0x00b8, "VENUE_NAME"⟩,
  ⟨0x00b9, "IPADDR_TYPE_AVAILABILITY"⟩,
  ⟨0x00ba, "HS20_WAN_METRICS"⟩,
  ⟨0x00bb, "HS20_CONN_CAPABILITY"⟩,
  ⟨0x00bc, "VENUE_URL"⟩,
  ⟨0x00bd, "OPERATOR_ICON_METADATA"⟩,
  ⟨0x00be, "OSU_PROVIDERS_LIST"⟩,
  ⟨0x00bf, "OSU_PROVIDERS_NAI_LIST"⟩,
  ⟨0x00c0, "REALM"⟩,
  ⟨0x00c1, "IMSI"⟩,
  ⟨0x00c2, "MILENAGE"⟩,
  ⟨0x00a4, "BSSID_FILTER_LIST"⟩,
  ⟨0x00c3, "PPSMO_FILE"⟩,
  ⟨0x00c4, "OSU_SERVER_URI"⟩,
  ⟨0x00c5, "OSU_METHOD"⟩,
  ⟨0x00c6, "GO_INTENT"⟩,
  ⟨0x00c7, "WSC_METHOD"⟩,
  ⟨0x00c8, "PIN_METHOD"⟩,
  ⟨0x00c9, "PIN_CODE"⟩,
  ⟨0x00ca, "P2P_CONN_TYPE"⟩,
  ⟨0x00cb, "HS20_OPERATING_CLASS_INDICATION"⟩,
  ⟨0x00cc, "WPS_ENABLE"⟩,
  ⟨0x00cd, "UPDATE_CONFIG"⟩,
  ⟨0x00ce, "EAP_FRAG_SIZE"⟩,
  ⟨0x00cf, "PERFORM_WPS_IE_FRAG"⟩,
  ⟨0x00d0, "ADVICE_OF_CHARGE"⟩,
  ⟨0x00d1, "IGNORE_BROADCAST_SSID"⟩,
  ⟨0x00d2, "PERSISTENT_GROUP"⟩,
  ⟨0x00d3, "WSC_CONFIG_ONLY"⟩,
  ⟨0x00d4, "ICON_FILE"⟩,
  ⟨0x00d5, "P2P_DISABLED"⟩,
  ⟨0x00d6, "MANAGE_P2P"⟩,
  ⟨0x00d7, "AP_STA_COEXIST"⟩,
  ⟨0x00d8, "WPS_INDEPENDENT"⟩,
  ⟨0x00d9, "LOCAL_PWR_CONST"⟩,
  ⟨0x00da, "SPECTRUM_MGMT_REQ"⟩,
  ⟨0x00db, "CAPTURE_FILE"⟩,
  ⟨0x00dc, "CAPTURE_FILTER"⟩,
  ⟨0x00dd, "CAPTURE_INFILE"⟩,
  ⟨0x00de, "CAPTURE_OUTFILE"⟩,
  ⟨0xb000, "AFC_VERSION_NUMBER"⟩,
  ⟨0xb001, "AFC_REQUEST_ID"⟩,
  ⟨0xb002, "AFC_SERIAL_NUMBER"⟩,
  ⟨0xb003, "AFC_NRA"⟩,
  ⟨0xb004, "AFC_CERT_ID"⟩,
  ⟨0xb005, "AFC_RULE_SET_ID"⟩,
  ⟨0xb006, "AFC_LOCATION_GEO_AREA"⟩,
  ⟨0xb007, "AFC_ELLIPSE_CENTER"⟩,
  ⟨0xb008, "AFC_ELLIPSE_MAJOR_AXIS"⟩,
  ⟨0xb009, "AFC_ELLIPSE_MINOR_AXIS"⟩,
  ⟨0xb00a, "AFC_ELLIPSE_ORIENTATION"⟩,
  ⟨0xb00b, "AFC_LINEARPOLY_BOUNDARY"⟩,
  ⟨0xb00c, "AFC_RADIALPOLY_CENTER"⟩,
  ⟨0xb00d, "AFC_RADIALPOLY_BOUNDARY"⟩,
  ⟨0xb00e, "AFC_HEIGHT"⟩,
  ⟨0xb00f, "AFC_HEIGHT_TYPE"⟩,
  ⟨0xb010, "AFC_VERTICAL_UNCERT"⟩,
  ⟨0xb011, "AFC_DEPLOYMENT"⟩,
  ⟨0xb012, "AFC_FREQ_RANGE"⟩,
  ⟨0xb013, "AFC_GLOBAL_OPCL"⟩,
  ⟨0xb014, "AFC_CHANNEL_CFI"⟩,
  ⟨0xb015, "AFC_MIN_DESIRED_PWR"⟩,
  ⟨0xb016, "AFC_VENDOR_EXT"⟩,
  ⟨0xb017, "AFC_SERVER_URL"⟩,
  ⟨0xb018, "AFC_TEST_SSID"⟩,
  ⟨0xb019, "AFC_DEVICE_RESET"⟩,
  ⟨0xb01a, "AFC_SEND_SPECTRUM_REQ"⟩,
  ⟨0xb01b, "AFC_POWER_CYCLE"⟩,
  ⟨0xb01c, "AFC_SECURITY_TYPE"⟩,
  ⟨0xb01d, "AFC_WPA_PASSPHRASE"⟩,
  ⟨0xb01e, "AFC_SEND_TEST_FRAME"⟩,
  ⟨0xb01f, "AFC_BANDWIDTH"⟩,
  ⟨0xb020, "AFC_CA_CERT"⟩,
  ⟨0xb021, "AFC_CONNECT_SP_AP"⟩]

def getApiById (apis : List IndigoApi) (id : UInt16) : Option IndigoApi :=
  apis.find? fun api => id == api.type

def getTlvById (id : UInt16) : Option IndigoTlv :=
  indigoTlvList.find? fun tlv => id == tlv.id

/-- The first entry of that type gets the two functions; a type that is not in
the list is only logged. -/
def registerApi (id : UInt16) (verify handle : Option ApiCallbackFunc) :
    List IndigoApi → List IndigoApi
  | [] => []
  | api :: apis =>
      if id == api.type then
        { api with verify, handle } :: apis
      else
        api :: registerApi id verify handle apis

/-! ## Filling a wrapper -/

/-- The bytes of a C string constant, which is ASCII here. -/
def cString (s : String) : List UInt8 :=
  s.toList.map fun c => UInt8.ofNat c.toNat

def fillWrapperMessageHdr (wrapper : PacketWrapper) (msgType seq : Int) : PacketWrapper :=
  { wrapper with
    hdr := {
      version := apiVersion
      type := UInt16.ofInt msgType
      seq := UInt16.ofInt seq
      reserved := apiReservedByte
      reserved2 := apiReservedByte } }

def fillWrapperTlvByte (wrapper : PacketWrapper) (id : Int) (value : UInt8) :
    Except Fault PacketWrapper := do
  let filled ← wrapper.setSlot wrapper.tlvNum
    { id := UInt16.ofInt id, len := 1, value := [value] }
  return { filled with tlvNum := wrapper.tlvNum + 1 }

/-- The length byte wraps; the value keeps all its bytes. -/
def fillWrapperTlvBytes (wrapper : PacketWrapper) (id : Int) (len : Nat) (value : List UInt8) :
    Except Fault PacketWrapper := do
  let copy ← readBytes value 0 len
  let filled ← wrapper.setSlot wrapper.tlvNum
    { id := UInt16.ofInt id, len := UInt8.ofNat len, value := copy }
  return { filled with tlvNum := wrapper.tlvNum + 1 }

def fillWrapperAck (wrapper : PacketWrapper) (seq status : Int) (reason : String) :
    Except Fault PacketWrapper := do
  let message := cString reason
  let wrapper ← wrapper.setSlot 0
    { id := tlvStatus, len := 1, value := [UInt8.ofInt status] }
  let wrapper ← wrapper.setSlot 1
    { id := tlvMessage
      len := UInt8.ofNat message.length
      value := message.take (UInt8.ofNat message.length).toNat }
  return {
    wrapper with
    hdr := {
      version := apiVersion
      type := apiCmdAck
      seq := UInt16.ofInt seq
      reserved := apiReservedByte
      reserved2 := apiReservedByte }
    tlvNum := 2 }

end AfcDut.Indigo
