import AfcDut.Conf.FileEntries
import AfcDut.Indigo.Accepted

/-!
# Credentials read back

When `get_wsc_cred_handler` answers with the credentials of the request that the
configuration file was generated for. Its tokens also end the names of other
settings, and occur in values and profiles: one that stands first is read
instead.
-/

namespace AfcDut.Conf.Theorems.CredentialsBack

open Indigo ControlApp

/-! ## Requests -/

/-- A request for the credentials of a device of this role. -/
def AsksFor (req : PacketWrapper) (role : Int) : Prop :=
  ∃ tlv, findWrapperTlvById req tlvRole = some tlv ∧
    readInt valueSize (tlv.value.take tlv.len.toNat) = .ok role

/-- A configuration with three credentials, without newlines and quotes. -/
structure Configures (ts : List PlacedTlv) (ssidId passphraseId keyMgmtId : UInt16)
    (ssid passphrase keyMgmt : PlacedTlv) : Prop where
  distinct : (ts.map PlacedTlv.id).Nodup
  clean : ∀ t ∈ ts, newline ∉ t.value ∧ quote ∉ t.value
  hasSsid : ssid ∈ ts ∧ ssid.id = ssidId
  hasPassphrase : passphrase ∈ ts ∧ passphrase.id = passphraseId
  hasKeyMgmt : keyMgmt ∈ ts ∧ keyMgmt.id = keyMgmtId

/-! ## What must not come first -/

/-- The TLVs before a credential do not hide it. -/
def HapdFree (env : HapdEnv) (table : Table) (ts : List PlacedTlv) (name : String)
    (t : PlacedTlv) : Prop :=
  ∀ before after, ts = before ++ t :: after →
    LeftTo (cString name) t.value (hapdEntriesBefore env table before)

structure HapdReadable (env : HapdEnv) (table : Table) (ts : List PlacedTlv)
    (ssid passphrase keyMgmt : PlacedTlv) : Prop where
  profiles : ∀ t ∈ ts, ProfileExists t
  ssid : HapdFree env table ts "ssid" ssid
  passphrase : HapdFree env table ts "wpa_passphrase" passphrase
  keyMgmt : HapdFree env table ts "wpa_key_mgmt" keyMgmt

/-- For a station, the global settings come first too. -/
def WpasFree (ts : List PlacedTlv) (name : String) (t : PlacedTlv) : Prop :=
  ∀ before after, ts = before ++ t :: after →
    LeftTo (cString name) t.value (wpasEntriesBefore ts before)

structure WpasReadable (ts : List PlacedTlv) (ssid psk keyMgmt : PlacedTlv) : Prop where
  ssid : WpasFree ts "ssid" ssid
  psk : WpasFree ts "psk" psk
  keyMgmt : WpasFree ts "key_mgmt" keyMgmt

theorem hapdFree_iff (env : HapdEnv) (band : List UInt8) (table : Table) {ts : List PlacedTlv}
    {t : PlacedTlv} {name tok : String} (hmem : t ∈ ts) (hid : (t.id, name) ∈ aputNames)
    (hclean : newline ∉ t.value ∧ quote ∉ t.value) (htok : TokenOf (cString name) tok) :
    credValue (hapdText env band table ts) tok = .ok t.value ↔ HapdFree env table ts name t := by
  have hiff : ∀ before after, ts = before ++ t :: after →
      (credValue (hapdText env band table ts) tok = .ok t.value ↔
        LeftTo (cString name) t.value (hapdEntriesBefore env table before)) := by
    intro before after hsplit
    have hspells := spells_hapdBefore env table before
    rw [hapd_cred_iff env band table hsplit hid hclean htok.text, ← hspells.text]
    exact undisturbed_iff htok hclean.1 hclean.2 (value_length_lt t) hspells.whole
  constructor
  · intro hread before after hsplit
    exact (hiff before after hsplit).mp hread
  · intro hfree
    obtain ⟨before, after, hsplit⟩ := List.append_of_mem hmem
    exact (hiff before after hsplit).mpr (hfree before after hsplit)

theorem wpasFree_iff {ts : List PlacedTlv} {t : PlacedTlv} {name tok : String} {quoted : Bool}
    (hmem : t ∈ ts) (hid : (t.id, name, quoted) ∈ stautNames)
    (hclean : newline ∉ t.value ∧ quote ∉ t.value) (htok : TokenOf (cString name) tok) :
    credValue (generateWpasConfig ts) tok = .ok t.value ↔ WpasFree ts name t := by
  have hiff : ∀ before after, ts = before ++ t :: after →
      (credValue (generateWpasConfig ts) tok = .ok t.value ↔
        LeftTo (cString name) t.value (wpasEntriesBefore ts before)) := by
    intro before after hsplit
    have hspells := spells_wpasBefore ts before
    rw [wpas_cred_iff hsplit hid hclean htok.text, ← hspells.text]
    exact undisturbed_iff htok hclean.1 hclean.2 (value_length_lt t) hspells.whole
  constructor
  · intro hread before after hsplit
    exact (hiff before after hsplit).mp hread
  · intro hfree
    obtain ⟨before, after, hsplit⟩ := List.append_of_mem hmem
    exact (hiff before after hsplit).mpr (hfree before after hsplit)

/-! ## The handler -/

theorem handler_aput {req : PacketWrapper} (hrole : AsksFor req dutTypeAput)
    (hsingle : findWrapperTlvById req tlvBssIdentifier = none)
    (hapdConf wpasConf : Option (List UInt8)) :
    getWscCredHandler req hapdConf wpasConf = answerCreds req aputCreds hapdConf := by
  obtain ⟨tlv, hfind, hread⟩ := hrole
  unfold getWscCredHandler
  rw [hfind]
  simp only [hread, Py.ok_bind, if_true, hsingle, Option.isSome_none, Bool.false_eq_true, if_false]

theorem handler_staut {req : PacketWrapper} (hrole : AsksFor req dutTypeStaut)
    (hapdConf wpasConf : Option (List UInt8)) :
    getWscCredHandler req hapdConf wpasConf = answerCreds req stautCreds wpasConf := by
  obtain ⟨tlv, hfind, hread⟩ := hrole
  unfold getWscCredHandler
  rw [hfind]
  simp only [hread, Py.ok_bind, show ¬ dutTypeStaut = dutTypeAput by decide, if_false, if_true]

theorem tokenOf_names : TokenOf (cString "ssid") "ssid=" ∧
    TokenOf (cString "wpa_passphrase") "wpa_passphrase=" ∧
    TokenOf (cString "wpa_key_mgmt") "wpa_key_mgmt=" ∧ TokenOf (cString "psk") "psk=" ∧
    TokenOf (cString "key_mgmt") "key_mgmt=" := by
  refine ⟨?_, ?_, ?_, ?_, ?_⟩ <;> exact ⟨by decide, by decide, by decide⟩

/-- The answer to a request, over the text of its access point. -/
theorem aput_iff (env : HapdEnv) (band : List UInt8) (table : Table) {req : PacketWrapper}
    (wpasConf : Option (List UInt8)) {ts : List PlacedTlv} {ssid passphrase keyMgmt : PlacedTlv}
    (hrole : AsksFor req dutTypeAput) (hsingle : findWrapperTlvById req tlvBssIdentifier = none)
    (hconf : Configures ts tlvSsid tlvWpaPassphrase tlvWpaKeyMgmt ssid passphrase keyMgmt) :
    getWscCredHandler req (some (hapdText env band table ts)) wpasConf = credReply req 0x30 "OK"
        (aputCreds.zip [ssid.value, passphrase.value, keyMgmt.value]) ↔
      HapdFree env table ts "ssid" ssid ∧ HapdFree env table ts "wpa_passphrase" passphrase ∧
        HapdFree env table ts "wpa_key_mgmt" keyMgmt := by
  obtain ⟨hssid, hpassphrase, hkeyMgmt, -, -⟩ := tokenOf_names
  have hmem := hconf.hasSsid
  have hmem' := hconf.hasPassphrase
  have hmem'' := hconf.hasKeyMgmt
  rw [handler_aput hrole hsingle, answerCreds_iff (by decide) rfl, aputCreds, readCreds_three,
    hapdFree_iff env band table hmem.1 (by rw [hmem.2]; decide) (hconf.clean _ hmem.1) hssid,
    hapdFree_iff env band table hmem'.1 (by rw [hmem'.2]; decide) (hconf.clean _ hmem'.1)
      hpassphrase,
    hapdFree_iff env band table hmem''.1 (by rw [hmem''.2]; decide) (hconf.clean _ hmem''.1)
      hkeyMgmt]

/-- The answer to a request, over the text of its station. -/
theorem staut_iff {req : PacketWrapper} (hapdConf : Option (List UInt8)) {ts : List PlacedTlv}
    {ssid psk keyMgmt : PlacedTlv} (hrole : AsksFor req dutTypeStaut)
    (hconf : Configures ts tlvStaSsid tlvPsk tlvKeyMgmt ssid psk keyMgmt) :
    getWscCredHandler req hapdConf (some (generateWpasConfig ts)) = credReply req 0x30 "OK"
        (stautCreds.zip [ssid.value, psk.value, keyMgmt.value]) ↔
      WpasFree ts "ssid" ssid ∧ WpasFree ts "psk" psk ∧ WpasFree ts "key_mgmt" keyMgmt := by
  obtain ⟨hssid, -, -, hpsk, hkeyMgmt⟩ := tokenOf_names
  have hmem := hconf.hasSsid
  have hmem' := hconf.hasPassphrase
  have hmem'' := hconf.hasKeyMgmt
  have hnames : (tlvStaSsid, "ssid", true) ∈ stautNames ∧ (tlvPsk, "psk", true) ∈ stautNames ∧
      (tlvKeyMgmt, "key_mgmt", false) ∈ stautNames := by decide
  rw [handler_staut hrole, answerCreds_iff (by decide) rfl, stautCreds, readCreds_three,
    wpasFree_iff hmem.1 (hmem.2 ▸ hnames.1) (hconf.clean _ hmem.1) hssid,
    wpasFree_iff hmem'.1 (hmem'.2 ▸ hnames.2.1) (hconf.clean _ hmem'.1) hpsk,
    wpasFree_iff hmem''.1 (hmem''.2 ▸ hnames.2.2) (hconf.clean _ hmem''.1) hkeyMgmt]

/-! ## Misread credentials -/

/-- `GET_WSC_CRED` for a device of a role. -/
def credRequest (role : UInt8) : PacketWrapper :=
  ⟨⟨1, 0x500d, 2, 0xff, 0xff⟩, [⟨tlvRole, 1, [role]⟩], 1⟩

/-- `AP_CONFIGURE` of a BSS with a hidden network. -/
def hiddenPacket : List UInt8 :=
  [1, 0x10, 2, 0, 1, 0xff, 0xff, 0, 0x1d, 1, 49, 0, 0xd1, 1, 49, 0, 1, 3, 100, 117, 116, 0, 14, 8,
    49, 50, 51, 52, 53, 54, 55, 56, 0, 12, 7, 87, 80, 65, 45, 80, 83, 75]

def hiddenRequest : PacketWrapper :=
  ⟨⟨1, 0x1002, 1, 0xff, 0xff⟩, [⟨tlvBssIdentifier, 1, [49]⟩, ⟨tlvIgnoreBroadcastSsid, 1, [49]⟩,
    ⟨tlvSsid, 3, [100, 117, 116]⟩, ⟨tlvWpaPassphrase, 8, [49, 50, 51, 52, 53, 54, 55, 56]⟩,
    ⟨tlvWpaKeyMgmt, 7, [87, 80, 65, 45, 80, 83, 75]⟩], 5⟩

/-- `STA_CONFIGURE` for the access point `02:00:00:00:00:01`. -/
def roamPacket : List UInt8 :=
  [1, 0x20, 1, 0, 1, 0xff, 0xff, 0, 0x5e, 17, 48, 50, 58, 48, 48, 58, 48, 48, 58, 48, 48, 58, 48, 48,
    58, 48, 49, 0, 0x35, 3, 100, 117, 116, 0, 0x3a, 8, 49, 50, 51, 52, 53, 54, 55, 56, 0, 0x36, 7,
    87, 80, 65, 45, 80, 83, 75]

def roamRequest : PacketWrapper :=
  ⟨⟨1, 0x2001, 1, 0xff, 0xff⟩, [
    ⟨tlvBssid, 17, [48, 50, 58, 48, 48, 58, 48, 48, 58, 48, 48, 58, 48, 48, 58, 48, 49]⟩,
    ⟨tlvStaSsid, 3, [100, 117, 116]⟩, ⟨tlvPsk, 8, [49, 50, 51, 52, 53, 54, 55, 56]⟩,
    ⟨tlvKeyMgmt, 7, [87, 80, 65, 45, 80, 83, 75]⟩], 4⟩

/-- The TLV at a place of a request. -/
def tlvAt (req : PacketWrapper) (i : Nat) : PlacedTlv := (bareTlvs req.tlvs).getD i (bare .zero)

theorem tlvAt_mem {req : PacketWrapper} {i : Nat} (h : i < (bareTlvs req.tlvs).length) :
    tlvAt req i ∈ bareTlvs req.tlvs := by
  rw [tlvAt, List.getD_eq_getElem?_getD, List.getElem?_eq_getElem h, Option.getD_some]
  exact List.getElem_mem h

/-- The answer `creds` would give. -/
def okReply (role : UInt8) (creds : List CfgCred) (vals : List (List UInt8)) :
    Except Fault PacketWrapper :=
  credReply (credRequest role) 0x30 "OK" (creds.zip vals)

theorem misread_of_read {creds : List CfgCred} {data : List UInt8} {role : UInt8}
    {read vals : List (List UInt8)} (hcount : creds.length = 3) (hvals : vals.length = 3)
    (hread : readCreds data creds = .ok read) (hne : read ≠ vals) :
    answerCreds (credRequest role) creds (some data) = okReply role creds read ∧
      answerCreds (credRequest role) creds (some data) ≠ okReply role creds vals := by
  have hsmall : creds.length ≤ 126 := by omega
  have hlen := length_of_readCreds hread
  constructor
  · exact (answerCreds_iff hsmall hlen).mpr hread
  · intro hreply
    have hvals' := (answerCreds_iff hsmall (hvals.trans hcount.symm)).mp hreply
    exact hne (Except.ok.inj (hread.symm.trans hvals'))

/-- Two accepted requests in the domain, whose SSID `dut` is not what is read: an
access point answers with `1`, the value of `ignore_broadcast_ssid`, a station with
the value of `bssid`. -/
theorem creds_misread :
    (parsePacket .zero (hiddenPacket ++ []) hiddenPacket.length = .ok (0, hiddenRequest) ∧
      AsksFor (credRequest 50) dutTypeAput ∧
      findWrapperTlvById (credRequest 50) tlvBssIdentifier = none ∧
      Configures (bareTlvs hiddenRequest.tlvs) tlvSsid tlvWpaPassphrase tlvWpaKeyMgmt
        (tlvAt hiddenRequest 2) (tlvAt hiddenRequest 3) (tlvAt hiddenRequest 4) ∧
      (∀ t ∈ bareTlvs hiddenRequest.tlvs, CopiesFit t) ∧
      ∃ text table',
        generateHostapdConfig loneWlan [] (.empty .laptop) (bareTlvs hiddenRequest.tlvs) =
          .ok (text, table') ∧
        getWscCredHandler (credRequest 50) (some text) none = okReply 50 aputCreds
          [[49], (tlvAt hiddenRequest 3).value, (tlvAt hiddenRequest 4).value] ∧
        getWscCredHandler (credRequest 50) (some text) none ≠ okReply 50 aputCreds
          [(tlvAt hiddenRequest 2).value, (tlvAt hiddenRequest 3).value,
            (tlvAt hiddenRequest 4).value]) ∧
    (parsePacket .zero (roamPacket ++ []) roamPacket.length = .ok (0, roamRequest) ∧
      AsksFor (credRequest 49) dutTypeStaut ∧
      Configures (bareTlvs roamRequest.tlvs) tlvStaSsid tlvPsk tlvKeyMgmt
        (tlvAt roamRequest 1) (tlvAt roamRequest 2) (tlvAt roamRequest 3) ∧
      getWscCredHandler (credRequest 49) none
          (some (generateWpasConfig (bareTlvs roamRequest.tlvs))) = okReply 49 stautCreds
        [(tlvAt roamRequest 0).value, (tlvAt roamRequest 2).value, (tlvAt roamRequest 3).value] ∧
      getWscCredHandler (credRequest 49) none
          (some (generateWpasConfig (bareTlvs roamRequest.tlvs))) ≠ okReply 49 stautCreds
        [(tlvAt roamRequest 1).value, (tlvAt roamRequest 2).value,
          (tlvAt roamRequest 3).value]) := by
  have haput : AsksFor (credRequest 50) dutTypeAput := ⟨_, rfl, by decide⟩
  have hstaut : AsksFor (credRequest 49) dutTypeStaut := ⟨_, rfl, by decide⟩
  have hsingle : findWrapperTlvById (credRequest 50) tlvBssIdentifier = none := rfl
  have hfits : ∀ t ∈ bareTlvs hiddenRequest.tlvs, CopiesFit t := by
    have hother : ∀ t ∈ bareTlvs hiddenRequest.tlvs, t.id ∉ copiedIds := by decide
    exact fun t ht => copiesFit_of_not_mem (hother t ht)
  have hprofiles : ∀ t ∈ bareTlvs hiddenRequest.tlvs, ProfileExists t := by
    have hnone : ∀ t ∈ bareTlvs hiddenRequest.tlvs, (findTlvHs2Profile t.id).isNone = true := by
      decide +kernel
    exact fun t ht => profileExists_of_none (hnone t ht)
  constructor
  · refine ⟨by decide +kernel, haput, hsingle, ⟨by decide, by decide, ⟨tlvAt_mem (by decide), rfl⟩,
      ⟨tlvAt_mem (by decide), rfl⟩, ⟨tlvAt_mem (by decide), rfl⟩⟩, hfits, ?_⟩
    refine ⟨_, _, (generateHostapdConfig_ok_iff _ _ _ _ _ _).mpr
      ⟨fun t ht => ⟨hfits t ht, hprofiles t ht⟩, rfl, rfl⟩, ?_⟩
    rw [handler_aput haput hsingle]
    exact misread_of_read rfl rfl (by decide +kernel) (by decide)
  · refine ⟨by decide +kernel, hstaut, ⟨by decide, by decide, ⟨tlvAt_mem (by decide), rfl⟩,
      ⟨tlvAt_mem (by decide), rfl⟩, ⟨tlvAt_mem (by decide), rfl⟩⟩, ?_⟩
    rw [handler_staut hstaut]
    exact misread_of_read rfl rfl (by decide +kernel) (by decide)

/-- **Credentials read back.** The answer for an access point, and that for a
station, has the three credentials of the configuration exactly if what comes
before each of them does not hide it. -/
theorem creds_read_back_iff (env : HapdEnv) (band : List UInt8) (table : Table)
    (req : PacketWrapper) (otherConf : Option (List UInt8)) (ts : List PlacedTlv)
    (ssid passphrase keyMgmt : PlacedTlv) :
    (AsksFor req dutTypeAput → findWrapperTlvById req tlvBssIdentifier = none →
      Configures ts tlvSsid tlvWpaPassphrase tlvWpaKeyMgmt ssid passphrase keyMgmt →
      (∀ t ∈ ts, CopiesFit t) →
      ((∃ text table', generateHostapdConfig env band table ts = .ok (text, table') ∧
          getWscCredHandler req (some text) otherConf = credReply req 0x30 "OK"
            (aputCreds.zip [ssid.value, passphrase.value, keyMgmt.value])) ↔
        HapdReadable env table ts ssid passphrase keyMgmt)) ∧
    (AsksFor req dutTypeStaut →
      Configures ts tlvStaSsid tlvPsk tlvKeyMgmt ssid passphrase keyMgmt →
      (getWscCredHandler req otherConf (some (generateWpasConfig ts)) = credReply req 0x30 "OK"
          (stautCreds.zip [ssid.value, passphrase.value, keyMgmt.value]) ↔
        WpasReadable ts ssid passphrase keyMgmt)) := by
  constructor
  · intro hrole hsingle hconf hfits
    have hanswer := aput_iff env band table otherConf hrole hsingle hconf
    constructor
    · rintro ⟨text, table', hrun, hreply⟩
      obtain ⟨hall, rfl, -⟩ := (generateHostapdConfig_ok_iff env band table ts text table').mp hrun
      obtain ⟨hssid, hpassphrase, hkeyMgmt⟩ := hanswer.mp hreply
      exact ⟨fun t ht => (hall t ht).2, hssid, hpassphrase, hkeyMgmt⟩
    · intro hreadable
      refine ⟨_, _, (generateHostapdConfig_ok_iff env band table ts _ _).mpr
        ⟨fun t ht => ⟨hfits t ht, hreadable.profiles t ht⟩, rfl, rfl⟩, ?_⟩
      exact hanswer.mpr ⟨hreadable.ssid, hreadable.passphrase, hreadable.keyMgmt⟩
  · intro hrole hconf
    rw [staut_iff otherConf hrole hconf]
    constructor
    · rintro ⟨hssid, hpsk, hkeyMgmt⟩
      exact ⟨hssid, hpsk, hkeyMgmt⟩
    · intro hreadable
      exact ⟨hreadable.ssid, hreadable.psk, hreadable.keyMgmt⟩

/-- `AP_CONFIGURE` and `STA_CONFIGURE` with the credentials first. -/
def openRequest : PacketWrapper :=
  ⟨⟨1, 0x1002, 1, 0xff, 0xff⟩, [⟨tlvSsid, 3, [100, 117, 116]⟩,
    ⟨tlvWpaPassphrase, 8, [49, 50, 51, 52, 53, 54, 55, 56]⟩,
    ⟨tlvWpaKeyMgmt, 7, [87, 80, 65, 45, 80, 83, 75]⟩, ⟨tlvIgnoreBroadcastSsid, 1, [49]⟩], 4⟩

def joinRequest : PacketWrapper :=
  ⟨⟨1, 0x2001, 1, 0xff, 0xff⟩, [⟨tlvStaSsid, 3, [100, 117, 116]⟩,
    ⟨tlvPsk, 8, [49, 50, 51, 52, 53, 54, 55, 56]⟩, ⟨tlvKeyMgmt, 7, [87, 80, 65, 45, 80, 83, 75]⟩,
    ⟨tlvBssid, 17, [48, 50, 58, 48, 48, 58, 48, 48, 58, 48, 48, 58, 48, 48, 58, 48, 49]⟩], 4⟩

/-- They are read back. -/
theorem creds_read_back_iff_first :
    (∃ text table', generateHostapdConfig loneWlan [] (.empty .laptop) (bareTlvs openRequest.tlvs) =
        .ok (text, table') ∧
      getWscCredHandler (credRequest 50) (some text) none = okReply 50 aputCreds
        [(tlvAt openRequest 0).value, (tlvAt openRequest 1).value,
          (tlvAt openRequest 2).value]) ∧
    getWscCredHandler (credRequest 49) none
        (some (generateWpasConfig (bareTlvs joinRequest.tlvs))) = okReply 49 stautCreds
      [(tlvAt joinRequest 0).value, (tlvAt joinRequest 1).value, (tlvAt joinRequest 2).value] := by
  obtain ⟨hssid, hpassphrase, hkeyMgmt, hpsk, hkey⟩ := tokenOf_names
  have haput : AsksFor (credRequest 50) dutTypeAput := ⟨_, rfl, by decide⟩
  have hstaut : AsksFor (credRequest 49) dutTypeStaut := ⟨_, rfl, by decide⟩
  have hother : ∀ t ∈ bareTlvs openRequest.tlvs, t.id ∉ copiedIds := by decide
  have hnone : ∀ t ∈ bareTlvs openRequest.tlvs, (findTlvHs2Profile t.id).isNone = true := by
    decide +kernel
  have hmem : ∀ i < 4, tlvAt openRequest i ∈ bareTlvs openRequest.tlvs := fun i hi => tlvAt_mem hi
  have hmem' : ∀ i < 4, tlvAt joinRequest i ∈ bareTlvs joinRequest.tlvs := fun i hi => tlvAt_mem hi
  have hclean : ∀ t ∈ bareTlvs openRequest.tlvs, newline ∉ t.value ∧ quote ∉ t.value := by decide
  have hclean' : ∀ t ∈ bareTlvs joinRequest.tlvs, newline ∉ t.value ∧ quote ∉ t.value := by decide
  constructor
  · refine ((creds_read_back_iff loneWlan [] (.empty .laptop) (credRequest 50) none
      (bareTlvs openRequest.tlvs) _ _ _).1 haput rfl
      ⟨by decide, hclean, ⟨hmem 0 (by decide), rfl⟩, ⟨hmem 1 (by decide), rfl⟩,
        ⟨hmem 2 (by decide), rfl⟩⟩ fun t ht => copiesFit_of_not_mem (hother t ht)).mpr ?_
    exact {
      profiles := fun t ht => profileExists_of_none (hnone t ht)
      ssid := (hapdFree_iff loneWlan [] (.empty .laptop) (hmem 0 (by decide)) (by decide)
        (hclean _ (hmem 0 (by decide))) hssid).mp (by decide +kernel)
      passphrase := (hapdFree_iff loneWlan [] (.empty .laptop) (hmem 1 (by decide)) (by decide)
        (hclean _ (hmem 1 (by decide))) hpassphrase).mp (by decide +kernel)
      keyMgmt := (hapdFree_iff loneWlan [] (.empty .laptop) (hmem 2 (by decide)) (by decide)
        (hclean _ (hmem 2 (by decide))) hkeyMgmt).mp (by decide +kernel) }
  · refine ((creds_read_back_iff loneWlan [] (.empty .laptop) (credRequest 49) none
      (bareTlvs joinRequest.tlvs) _ _ _).2 hstaut
      ⟨by decide, hclean', ⟨hmem' 0 (by decide), rfl⟩, ⟨hmem' 1 (by decide), rfl⟩,
        ⟨hmem' 2 (by decide), rfl⟩⟩).mpr ?_
    have hnames : (tlvStaSsid, "ssid", true) ∈ stautNames ∧ (tlvPsk, "psk", true) ∈ stautNames ∧
        (tlvKeyMgmt, "key_mgmt", false) ∈ stautNames := by decide
    exact {
      ssid := (wpasFree_iff (hmem' 0 (by decide)) hnames.1
        (hclean' _ (hmem' 0 (by decide))) hssid).mp (by decide +kernel)
      psk := (wpasFree_iff (hmem' 1 (by decide)) hnames.2.1
        (hclean' _ (hmem' 1 (by decide))) hpsk).mp (by decide +kernel)
      keyMgmt := (wpasFree_iff (hmem' 2 (by decide)) hnames.2.2
        (hclean' _ (hmem' 2 (by decide))) hkey).mp (by decide +kernel) }

end AfcDut.Conf.Theorems.CredentialsBack
