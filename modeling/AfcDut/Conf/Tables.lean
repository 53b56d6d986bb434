import AfcDut.ControlApp.ApHandlers
import AfcDut.Indigo.Api

/-!
# The names of the settings

The TLVs that `generate_hostapd_config` and `generate_wpas_config` know, and
the tables of `indigo_api_callback.h` that name the setting of each.
-/

namespace AfcDut.Conf

open Indigo ControlApp

/-! ## TLVs -/

def tlvSsid : UInt16 := 0x0001
def tlvChannel : UInt16 := 0x0002
def tlvWepKey0 : UInt16 := 0x0003
def tlvAuthAlgorithm : UInt16 := 0x0004
def tlvWepDefaultKey : UInt16 := 0x0005
def tlvIeee80211D : UInt16 := 0x0006
def tlvIeee80211N : UInt16 := 0x0007
def tlvIeee80211Ac : UInt16 := 0x0008
def tlvCountryCode : UInt16 := 0x0009
def tlvWmmEnabled : UInt16 := 0x000a
def tlvWpa : UInt16 := 0x000b
def tlvWpaKeyMgmt : UInt16 := 0x000c
def tlvRsnPairwise : UInt16 := 0x000d
def tlvWpaPassphrase : UInt16 := 0x000e
def tlvWpaPairwise : UInt16 := 0x000f
def tlvHtCapb : UInt16 := 0x0010
def tlvIeee80211H : UInt16 := 0x0011
def tlvIeee80211W : UInt16 := 0x0012
def tlvVhtOperChwidth : UInt16 := 0x0013
def tlvVhtCapb : UInt16 := 0x0014
def tlvIeee8021X : UInt16 := 0x0015
def tlvEapServer : UInt16 := 0x0016
def tlvAuthServerAddr : UInt16 := 0x0017
def tlvAuthServerPort : UInt16 := 0x0018
def tlvAuthServerSharedSecret : UInt16 := 0x0019
def tlvVhtOperCentrFreq : UInt16 := 0x001f
def tlvOpClass : UInt16 := 0x0022
def tlvIeOverride : UInt16 := 0x0023
def tlvHomeFqdn : UInt16 := 0x0024
def tlvUsername : UInt16 := 0x0025
def tlvPrefer : UInt16 := 0x0026
def tlvDisablePmksaCaching : UInt16 := 0x0033
def tlvSaeAntiCloggingThreshold : UInt16 := 0x0034
def tlvStaSsid : UInt16 := 0x0035
def tlvKeyMgmt : UInt16 := 0x0036
def tlvStaWepKey0 : UInt16 := 0x0037
def tlvWepTxKeyidx : UInt16 := 0x0038
def tlvGroup : UInt16 := 0x0039
def tlvPsk : UInt16 := 0x003a
def tlvProto : UInt16 := 0x003b
def tlvStaIeee80211W : UInt16 := 0x003c
def tlvPairwise : UInt16 := 0x003d
def tlvEap : UInt16 := 0x003e
def tlvPhase2 : UInt16 := 0x003f
def tlvIdentity : UInt16 := 0x0040
def tlvPassword : UInt16 := 0x0041
def tlvCaCert : UInt16 := 0x0042
def tlvPhase1 : UInt16 := 0x0043
def tlvClientCert : UInt16 := 0x0044
def tlvPrivateKey : UInt16 := 0x0045
def tlvBssid : UInt16 := 0x005e
def tlvPacFile : UInt16 := 0x006d
def tlvStaSaeGroups : UInt16 := 0x006e
def tlvSaeGroups : UInt16 := 0x0071
def tlvIeee80211Ax : UInt16 := 0x0072
def tlvHeOperChwidth : UInt16 := 0x0073
def tlvHeOperCentrFreq : UInt16 := 0x0074
def tlvMbo : UInt16 := 0x0075
def tlvMboCellDataConnPref : UInt16 := 0x0076
def tlvBssTransition : UInt16 := 0x0077
def tlvInterworking : UInt16 := 0x0078
def tlvRrmNeighborReport : UInt16 := 0x0079
def tlvRrmBeaconReport : UInt16 := 0x007a
def tlvCountry3 : UInt16 := 0x007b
def tlvMboCellCapa : UInt16 := 0x007c
def tlvDomainMatch : UInt16 := 0x007d
def tlvDomainSuffixMatch : UInt16 := 0x007e
def tlvMboAssocDisallow : UInt16 := 0x007f
def tlvGasComebackDelay : UInt16 := 0x008a
def tlvSaePwe : UInt16 := 0x008d
def tlvOweGroups : UInt16 := 0x008e
def tlvStaOweGroup : UInt16 := 0x008f
def tlvHeMuEdca : UInt16 := 0x0090
def tlvRsnxeOverrideEapol : UInt16 := 0x0092
def tlvTransitionDisable : UInt16 := 0x0093
def tlvSaeConfirmImmediate : UInt16 := 0x0094
def tlvRandMacAddr : UInt16 := 0x0095
def tlvPreassocRandMacAddr : UInt16 := 0x0096
def tlvRandAddrLifetime : UInt16 := 0x0097
def tlvServerCert : UInt16 := 0x0099
def tlvControlInterface : UInt16 := 0x009c
def tlvSkip6gBssSecurityCheck : UInt16 := 0x00a1
def tlvFreqList : UInt16 := 0x00a3
def tlvBssidFilterList : UInt16 := 0x00a4
def tlvHeUnsolPrRespCadence : UInt16 := 0x00a7
def tlvHeFilsDiscoveryTx : UInt16 := 0x00a8
def tlvHs20 : UInt16 := 0x00a9
def tlvAccessNetworkType : UInt16 := 0x00aa
def tlvInternet : UInt16 := 0x00ab
def tlvVenueGroup : UInt16 := 0x00ac
def tlvVenueType : UInt16 := 0x00ad
def tlvHessid : UInt16 := 0x00ae
def tlvOsuSsid : UInt16 := 0x00af
def tlvAnqp3gppCellNetworkInfo : UInt16 := 0x00b0
def tlvProxyArp : UInt16 := 0x00b1
def tlvBssloadEnable : UInt16 := 0x00b2
def tlvRoamingConsortium : UInt16 := 0x00b3
def tlvNetworkAuthType : UInt16 := 0x00b4
def tlvDomainList : UInt16 := 0x00b5
def tlvHs20OperatorFriendlyName : UInt16 := 0x00b6
def tlvNaiRealm : UInt16 := 0x00b7
def tlvVenueName : UInt16 := 0x00b8
def tlvIpaddrTypeAvailability : UInt16 := 0x00b9
def tlvHs20WanMetrics : UInt16 := 0x00ba
def tlvHs20ConnCapability : UInt16 := 0x00bb
def tlvVenueUrl : UInt16 := 0x00bc
def tlvOperatorIconMetadata : UInt16 := 0x00bd
def tlvOsuProvidersList : UInt16 := 0x00be
def tlvOsuProvidersNaiList : UInt16 := 0x00bf
def tlvRealm : UInt16 := 0x00c0
def tlvImsi : UInt16 := 0x00c1
def tlvMilenage : UInt16 := 0x00c2
def tlvOsuServerUri : UInt16 := 0x00c4
def tlvOsuMethod : UInt16 := 0x00c5
def tlvHs20OperatingClassIndication : UInt16 := 0x00cb
def tlvWpsEnable : UInt16 := 0x00cc
def tlvUpdateConfig : UInt16 := 0x00cd
def tlvEapFragSize : UInt16 := 0x00ce
def tlvAdviceOfCharge : UInt16 := 0x00d0
def tlvIgnoreBroadcastSsid : UInt16 := 0x00d1
def tlvP2pDisabled : UInt16 := 0x00d5
def tlvManageP2p : UInt16 := 0x00d6
def tlvWpsIndependent : UInt16 := 0x00d8
def tlvLocalPwrConst : UInt16 := 0x00d9
def tlvSpectrumMgmtReq : UInt16 := 0x00da

/-! ## Tables -/

/-- What is said of listed ids is decided id by id, not by all 65536. -/
instance decidableForallIds (ids : List UInt16) (p : UInt16 → Prop) [DecidablePred p] :
    Decidable (∀ id ∈ ids, p id) :=
  List.decidableBAll p ids

structure TlvToConfigName where
  tlvId : UInt16
  configName : List UInt8
  quoted : Bool
deriving DecidableEq, Repr

/-- The settings of hostapd, from `TLV_STA_SSID` on those of wpa_supplicant, and
one of both. -/
def maps : List TlvToConfigName := [
  ⟨tlvSsid, cString "ssid", false⟩,
  ⟨tlvChannel, cString "channel", false⟩,
  ⟨tlvWepKey0, cString "wep_key0", false⟩,
  ⟨tlvHwMode, cString "hw_mode", false⟩,
  ⟨tlvAuthAlgorithm, cString "auth_algs", false⟩,
  ⟨tlvWepDefaultKey, cString "wep_default_key", false⟩,
  ⟨tlvIeee80211D, cString "ieee80211d", false⟩,
  ⟨tlvIeee80211N, cString "ieee80211n", false⟩,
  ⟨tlvIeee80211Ac, cString "ieee80211ac", false⟩,
  ⟨tlvCountryCode, cString "country_code", false⟩,
  ⟨tlvWmmEnabled, cString "wmm_enabled", false⟩,
  ⟨tlvWpa, cString "wpa", false⟩,
  ⟨tlvWpaKeyMgmt, cString "wpa_key_mgmt", false⟩,
  ⟨tlvRsnPairwise, cString "rsn_pairwise", false⟩,
  ⟨tlvWpaPassphrase, cString "wpa_passphrase", false⟩,
  ⟨tlvWpaPairwise, cString "wpa_pairwise", false⟩,
  ⟨tlvHtCapb, cString "ht_capab", false⟩,
  ⟨tlvIeee80211W, cString "ieee80211w", false⟩,
  ⟨tlvIeee80211H, cString "ieee80211h", false⟩,
  ⟨tlvVhtOperChwidth, cString "vht_oper_chwidth", false⟩,
  ⟨tlvVhtOperCentrFreq, cString "vht_oper_centr_freq_seg0_idx", false⟩,
  ⟨tlvVhtCapb, cString "vht_capab", false⟩,
  ⟨tlvIeee8021X, cString "ieee8021x", false⟩,
  ⟨tlvEapServer, cString "eap_server", false⟩,
  ⟨tlvAuthServerAddr, cString "auth_server_addr", false⟩,
  ⟨tlvAuthServerPort, cString "auth_server_port", false⟩,
  ⟨tlvAuthServerSharedSecret, cString "auth_server_shared_secret", false⟩,
  ⟨tlvIeOverride, cString "own_ie_override", false⟩,
  ⟨tlvSaeAntiCloggingThreshold, cString "sae_anti_clogging_threshold", false⟩,
  ⟨tlvDisablePmksaCaching, cString "disable_pmksa_caching", false⟩,
  ⟨tlvSaeGroups, cString "sae_groups", false⟩,
  ⟨tlvIeee80211Ax, cString "ieee80211ax", false⟩,
  ⟨tlvHeOperChwidth, cString "he_oper_chwidth", false⟩,
  ⟨tlvHeOperCentrFreq, cString "he_oper_centr_freq_seg0_idx", false⟩,
  ⟨tlvMbo, cString "mbo", false⟩,
  ⟨tlvMboCellDataConnPref, cString "mbo_cell_data_conn_pref", false⟩,
  ⟨tlvBssTransition, cString "bss_transition", false⟩,
  ⟨tlvInterworking, cString "interworking", false⟩,
  ⟨tlvRrmNeighborReport, cString "rrm_neighbor_report", false⟩,
  ⟨tlvRrmBeaconReport, cString "rrm_beacon_report", false⟩,
  ⟨tlvCountry3, cString "country3", false⟩,
  ⟨tlvMboCellCapa, cString "mbo_cell_capa", false⟩,
  ⟨tlvMboAssocDisallow, cString "mbo_assoc_disallow", false⟩,
  ⟨tlvGasComebackDelay, cString "gas_comeback_delay", false⟩,
  ⟨tlvSaePwe, cString "sae_pwe", false⟩,
  ⟨tlvOweGroups, cString "owe_groups", false⟩,
  ⟨tlvHeMuEdca, cString "he_mu_edca_qos_info_param_count", false⟩,
  ⟨tlvTransitionDisable, cString "transition_disable", false⟩,
  ⟨tlvControlInterface, cString "ctrl_interface", false⟩,
  ⟨tlvRsnxeOverrideEapol, cString "rsnxe_override_eapol", false⟩,
  ⟨tlvSaeConfirmImmediate, cString "sae_confirm_immediate", false⟩,
  ⟨tlvOweTransitionBssIdentifier, cString "owe_transition_ifname", false⟩,
  ⟨tlvOpClass, cString "op_class", false⟩,
  ⟨tlvHeUnsolPrRespCadence, cString "unsol_bcast_probe_resp_interval", false⟩,
  ⟨tlvHeFilsDiscoveryTx, cString "fils_discovery_max_interval", false⟩,
  ⟨tlvSkip6gBssSecurityCheck, cString "skip_6g_bss_security_check", false⟩,
  ⟨tlvHs20, cString "hs20", false⟩,
  ⟨tlvAccessNetworkType, cString "access_network_type", false⟩,
  ⟨tlvInternet, cString "internet", false⟩,
  ⟨tlvVenueGroup, cString "venue_group", false⟩,
  ⟨tlvVenueType, cString "venue_type", false⟩,
  ⟨tlvHessid, cString "hessid", false⟩,
  ⟨tlvAnqp3gppCellNetworkInfo, cString "anqp_3gpp_cell_net", false⟩,
  ⟨tlvOsuSsid, cString "osu_ssid", false⟩,
  ⟨tlvProxyArp, cString "proxy_arp", false⟩,
  ⟨tlvOsuServerUri, cString "osu_server_uri", false⟩,
  ⟨tlvOsuMethod, cString "osu_method_list", false⟩,
  ⟨tlvDomainList, cString "domain_name", false⟩,
  ⟨tlvIgnoreBroadcastSsid, cString "ignore_broadcast_ssid", false⟩,
  ⟨tlvManageP2p, cString "manage_p2p", false⟩,
  ⟨tlvWpsIndependent, cString "wps_independent", false⟩,
  ⟨tlvLocalPwrConst, cString "local_pwr_constraint", false⟩,
  ⟨tlvSpectrumMgmtReq, cString "spectrum_mgmt_required", false⟩,
  ⟨tlvStaSsid, cString "ssid", true⟩,
  ⟨tlvKeyMgmt, cString "key_mgmt", false⟩,
  ⟨tlvStaWepKey0, cString "wep_key0", false⟩,
  ⟨tlvWepTxKeyidx, cString "wep_tx_keyidx", false⟩,
  ⟨tlvGroup, cString "group", false⟩,
  ⟨tlvPsk, cString "psk", true⟩,
  ⟨tlvProto, cString "proto", false⟩,
  ⟨tlvStaIeee80211W, cString "ieee80211w", false⟩,
  ⟨tlvPairwise, cString "pairwise", false⟩,
  ⟨tlvEap, cString "eap", false⟩,
  ⟨tlvPhase1, cString "phase1", true⟩,
  ⟨tlvPhase2, cString "phase2", true⟩,
  ⟨tlvIdentity, cString "identity", true⟩,
  ⟨tlvPassword, cString "password", true⟩,
  ⟨tlvCaCert, cString "ca_cert", true⟩,
  ⟨tlvServerCert, cString "ca_cert", true⟩,
  ⟨tlvPrivateKey, cString "private_key", true⟩,
  ⟨tlvClientCert, cString "client_cert", true⟩,
  ⟨tlvDomainMatch, cString "domain_match", true⟩,
  ⟨tlvDomainSuffixMatch, cString "domain_suffix_match", true⟩,
  ⟨tlvPacFile, cString "pac_file", true⟩,
  ⟨tlvStaOweGroup, cString "owe_group", false⟩,
  ⟨tlvBssid, cString "bssid", false⟩,
  ⟨tlvRealm, cString "realm", true⟩,
  ⟨tlvImsi, cString "imsi", true⟩,
  ⟨tlvMilenage, cString "milenage", true⟩,
  ⟨tlvBssidFilterList, cString "bssid_filter", false⟩,
  ⟨tlvUsername, cString "username", true⟩,
  ⟨tlvHomeFqdn, cString "domain", true⟩,
  ⟨tlvPrefer, cString "priority", false⟩,
  ⟨tlvEapFragSize, cString "fragment_size", false⟩]

/-- A semicolon in the value starts another line. -/
def semicolonList : List TlvToConfigName := [
  ⟨tlvRoamingConsortium, cString "roaming_consortium", false⟩]

/-- Settings of wpa_supplicant outside its network block. -/
def wpasGlobalMaps : List TlvToConfigName := [
  ⟨tlvStaSaeGroups, cString "sae_groups", false⟩,
  ⟨tlvMboCellCapa, cString "mbo_cell_capa", false⟩,
  ⟨tlvSaePwe, cString "sae_pwe", false⟩,
  ⟨tlvControlInterface, cString "ctrl_interface", false⟩,
  ⟨tlvRandMacAddr, cString "mac_addr", false⟩,
  ⟨tlvPreassocRandMacAddr, cString "preassoc_mac_addr", false⟩,
  ⟨tlvRandAddrLifetime, cString "rand_addr_lifetime", false⟩,
  ⟨tlvHs20, cString "hs20", false⟩,
  ⟨tlvInterworking, cString "interworking", false⟩,
  ⟨tlvHessid, cString "hessid", false⟩,
  ⟨tlvAccessNetworkType, cString "access_network_type", false⟩,
  ⟨tlvFreqList, cString "freq_list", false⟩,
  ⟨tlvUpdateConfig, cString "update_config", false⟩,
  ⟨tlvP2pDisabled, cString "p2p_disabled", false⟩]

def findGenericTlvConfig (tlvId : UInt16) (arr : List TlvToConfigName) : Option TlvToConfigName :=
  arr.find? fun cfg => cfg.tlvId == tlvId

def findTlvConfig (tlvId : UInt16) : Option TlvToConfigName :=
  findGenericTlvConfig tlvId maps

def findWpasGlobalConfigName (tlvId : UInt16) : Option TlvToConfigName :=
  findGenericTlvConfig tlvId wpasGlobalMaps

end AfcDut.Conf
