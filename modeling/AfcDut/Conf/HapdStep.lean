import AfcDut.Conf.Hostapd
import AfcDut.Py.Raises

/-!
# One TLV of the request

What the loop of `generate_hostapd_config` makes of one TLV: when it goes
through, the locals and the table it leaves, and the lines it writes.
-/

namespace AfcDut.Conf

open Indigo ControlApp

/-! ## What fits -/

/-- The copies that `readFlags` makes fit their locals. -/
structure FlagsFit (t : PlacedTlv) : Prop where
  hwMode : t.id = tlvHwMode → t.value.length ≤ bandSize
  heWidth : t.id = tlvHeOperChwidth → IntFits valueSize t.value
  vhtWidth : t.id = tlvVhtOperChwidth → IntFits valueSize t.value
  country : t.id = tlvCountryCode → t.value.length ≤ countrySize
  cadence : t.id = tlvHeUnsolPrRespCadence → IntFits valueSize t.value

/-- The copies of a TLV fit their locals. -/
structure CopiesFit (t : PlacedTlv) : Prop extends FlagsFit t where
  channel : t.id = tlvChannel → IntFits valueSize t.value
  owe : t.id = tlvOweTransitionBssIdentifier → IntFits bssIdentifierStrSize t.value

instance (t : PlacedTlv) : Decidable (CopiesFit t) :=
  decidable_of_iff
    ((t.id = tlvHwMode → t.value.length ≤ bandSize) ∧
      (t.id = tlvHeOperChwidth → IntFits valueSize t.value) ∧
      (t.id = tlvVhtOperChwidth → IntFits valueSize t.value) ∧
      (t.id = tlvCountryCode → t.value.length ≤ countrySize) ∧
      (t.id = tlvHeUnsolPrRespCadence → IntFits valueSize t.value) ∧
      (t.id = tlvChannel → IntFits valueSize t.value) ∧
      (t.id = tlvOweTransitionBssIdentifier → IntFits bssIdentifierStrSize t.value))
    ⟨fun ⟨hwMode, heWidth, vhtWidth, country, cadence, channel, owe⟩ =>
      ⟨⟨hwMode, heWidth, vhtWidth, country, cadence⟩, channel, owe⟩,
    fun h => ⟨h.hwMode, h.heWidth, h.vhtWidth, h.country, h.cadence, h.channel, h.owe⟩⟩

/-- The profile that a TLV names exists. -/
def ProfileExists (t : PlacedTlv) : Prop :=
  ∀ profile, findTlvHs2Profile t.id = some profile →
    0 ≤ atoi t.value ∧ atoi t.value < profile.size

instance (t : PlacedTlv) : Decidable (ProfileExists t) :=
  inferInstanceAs (Decidable (∀ profile ∈ findTlvHs2Profile t.id,
    0 ≤ atoi t.value ∧ atoi t.value < profile.size))

/-- The TLVs that are copied to a local. -/
def copiedIds : List UInt16 := [tlvHwMode, tlvHeOperChwidth, tlvVhtOperChwidth, tlvCountryCode,
  tlvHeUnsolPrRespCadence, tlvChannel, tlvOweTransitionBssIdentifier]

theorem copiesFit_of_not_mem {t : PlacedTlv} (h : t.id ∉ copiedIds) : CopiesFit t := by
  simp only [copiedIds, List.mem_cons, List.not_mem_nil, or_false, not_or] at h
  refine ⟨⟨?_, ?_, ?_, ?_, ?_⟩, ?_, ?_⟩ <;> simp [h]

theorem profileExists_of_none {t : PlacedTlv} (h : (findTlvHs2Profile t.id).isNone = true) :
    ProfileExists t := by
  intro profile hprofile
  rw [hprofile] at h
  cases h

/-! ## What is left -/

def nextLocals (env : HapdEnv) (f : HapdLocals) (t : PlacedTlv) : HapdLocals where
  hasSae := f.hasSae || decide (t.id = tlvWpaKeyMgmt ∧ t.contains "SAE")
  hasWpa := f.hasWpa || decide (t.id = tlvWpa ∧ t.contains "2")
  hasPmf := f.hasPmf || decide (t.id = tlvIeee80211W)
  hasOwe := f.hasOwe || decide (t.id = tlvWpaKeyMgmt ∧ t.contains "OWE")
  hasTransition :=
    f.hasTransition || decide (t.id = tlvWpaKeyMgmt ∧ t.contains "SAE" ∧ t.contains "WPA-PSK")
  hasSaeGroups := f.hasSaeGroups || decide (t.id = tlvSaeGroups)
  channel := if t.id = tlvChannel then atoi t.value else f.channel
  chwidth :=
    if t.id = tlvHeOperChwidth ∨ t.id = tlvVhtOperChwidth then atoi t.value else f.chwidth
  enableAx := f.enableAx || decide (t.id = tlvIeee80211Ax ∧ t.contains "1")
  chwidthset := f.chwidthset || decide (t.id = tlvHeOperChwidth)
  enableMuedca := f.enableMuedca || decide (t.id = tlvHeMuEdca)
  vhtChwidthset := f.vhtChwidthset || decide (t.id = tlvVhtOperChwidth)
  enableAc := f.enableAc || decide (t.id = tlvIeee80211Ac ∧ t.contains "1")
  enableHs20 := f.enableHs20 || decide (t.id = tlvHs20 ∧ t.contains "1")
  enableWps := f.enableWps || decide (t.id = tlvWpsEnable ∧ env.wpsSettings.isSome)
  useMbss := f.useMbss || decide (t.id = tlvBssIdentifier)
  is6gOnly := f.is6gOnly || decide (t.id = tlvHe6gOnly)
  unsolPrRespInterval :=
    if t.id = tlvHeUnsolPrRespCadence then atoi t.value else f.unsolPrRespInterval
  band := if t.id = tlvHwMode then writeBand f.band t.value else f.band
  hs20IconsAttached := f.hs20IconsAttached || needsIcons t.id

def nextTable (table : Table) (t : PlacedTlv) : Table :=
  if t.id = tlvOweTransitionBssIdentifier then (oweWlan table (atoi t.value)).1 else table

/-- The lines a TLV writes. -/
def written (env : HapdEnv) (hasOwe hasIcons : Bool) (table : Table) (t : PlacedTlv) :
    List UInt8 :=
  if t.id = tlvChannel ∧ env.isMultipleBssid then []
  else if t.id = tlvHe6gOnly then []
  else if t.id = tlvBssIdentifier then
    if isBandEnabled table band6ghz && !env.wlanp.mbssidEnable then textLine "rnr=1" else []
  else match findGenericTlvConfig t.id semicolonList with
  | some cfg => semicolonLines cfg t.value
  | none =>
      if t.id = tlvHessid ∧ t.contains "self" then selfHessid env table
      else match findTlvHs2Profile t.id with
      | some profile =>
          (if needsIcons t.id && !hasIcons then hs20Icons else []) ++
            profile.profile.getD (atoi t.value).toNat []
      | none =>
          if t.id = tlvWpsEnable then
            match env.wpsSettings with
            | none => []
            | some settings => wpsLines settings t.value
          else match findTlvConfig t.id with
          | none => []
          | some cfg =>
              if t.id = tlvOweTransitionBssIdentifier then
                oweLines cfg hasOwe (oweWlan table (atoi t.value))
              else configLine cfg.configName (cText t.value)

/-- The state after a TLV. -/
def next (env : HapdEnv) (s : HapdState) (t : PlacedTlv) : HapdState where
  toHapdLocals := nextLocals env s.toHapdLocals t
  table := nextTable s.table t
  output := s.output ++ written env s.hasOwe s.hs20IconsAttached s.table t

/-! ## The settings -/

variable (env : HapdEnv) (s s' : HapdState) (t : PlacedTlv)

theorem readIf_of_fits {id : UInt16} {old : Int} (h : t.id = id → IntFits valueSize t.value) :
    readIf id t old = .ok (if t.id = id then atoi t.value else old) := by
  unfold readIf
  split
  · rename_i hid
    exact if_pos (h hid)
  · rfl

theorem fits_of_readIf {id : UInt16} {old n : Int} (h : readIf id t old = .ok n) :
    t.id = id → IntFits valueSize t.value := by
  intro hid
  by_contra hfits
  rw [readIf, if_pos hid, readInt, if_neg hfits] at h
  cases h

theorem readBand_of_fits {band : List UInt8} (h : t.id = tlvHwMode → t.value.length ≤ bandSize) :
    readBand t band = .ok (if t.id = tlvHwMode then writeBand band t.value else band) := by
  unfold readBand
  split
  · rename_i hid
    exact if_pos (h hid)
  · rfl

theorem fits_of_readBand {band band' : List UInt8} (h : readBand t band = .ok band') :
    t.id = tlvHwMode → t.value.length ≤ bandSize := by
  intro hid
  by_contra hfits
  rw [readBand, if_pos hid, if_neg hfits] at h
  cases h

theorem readCountry_ok_iff :
    readCountry t = .ok () ↔ (t.id = tlvCountryCode → t.value.length ≤ countrySize) := by
  unfold readCountry
  split
  · rename_i hover
    simp only [reduceCtorEq, false_iff]
    exact fun h => absurd (h hover.1) (Nat.not_le.mpr hover.2)
  · rename_i hroom
    simp only [true_iff]
    intro hid
    by_contra hlen
    exact hroom ⟨hid, Nat.lt_of_not_le hlen⟩

/-- What `readFlags` changes. -/
def flagged (f : HapdLocals) (t : PlacedTlv) : HapdLocals :=
  { nextLocals env f t with
    channel := f.channel
    enableWps := f.enableWps
    useMbss := f.useMbss
    is6gOnly := f.is6gOnly
    hs20IconsAttached := f.hs20IconsAttached }

theorem readFlags_of_fits (h : FlagsFit t) :
    readFlags s t = .ok ⟨flagged env s.toHapdLocals t, s.table, s.output⟩ := by
  rw [readFlags, readBand_of_fits t h.hwMode, Py.ok_bind, readIf_of_fits t h.heWidth, Py.ok_bind,
    readIf_of_fits t h.vhtWidth, Py.ok_bind, (readCountry_ok_iff t).mpr h.country, Py.ok_bind,
    readIf_of_fits t h.cadence, Py.ok_bind]
  have hwidth : (if t.id = tlvVhtOperChwidth then atoi t.value
      else if t.id = tlvHeOperChwidth then atoi t.value else s.chwidth) =
      if t.id = tlvHeOperChwidth ∨ t.id = tlvVhtOperChwidth then atoi t.value else s.chwidth := by
    grind
  rw [hwidth]
  rfl

theorem fits_of_readFlags (h : readFlags s t = .ok s') : FlagsFit t := by
  obtain ⟨band, hband, h⟩ := Py.bind_eq_ok.mp h
  obtain ⟨heWidth, hhe, h⟩ := Py.bind_eq_ok.mp h
  obtain ⟨vhtWidth, hvht, h⟩ := Py.bind_eq_ok.mp h
  obtain ⟨_, hcountry, h⟩ := Py.bind_eq_ok.mp h
  obtain ⟨interval, hinterval, h⟩ := Py.bind_eq_ok.mp h
  exact ⟨fits_of_readBand t hband, fits_of_readIf t hhe, fits_of_readIf t hvht,
    (readCountry_ok_iff t).mp hcountry, fits_of_readIf t hinterval⟩

/-! ## The branches -/

/-- The settings that do more than write their line. -/
def settingIds : List UInt16 := [tlvWpaKeyMgmt, tlvWpa, tlvIeee80211W, tlvHwMode,
  tlvHeOperChwidth, tlvVhtOperChwidth, tlvIeee80211Ac, tlvIeee80211Ax, tlvHeMuEdca, tlvSaeGroups,
  tlvCountryCode, tlvHeUnsolPrRespCadence, tlvHs20, tlvOweTransitionBssIdentifier]

/-- They have a name and nothing else claims their TLVs. -/
theorem of_mem_settingIds {id : UInt16} (h : id ∈ settingIds) :
    id ≠ tlvChannel ∧ id ≠ tlvHe6gOnly ∧ id ≠ tlvBssIdentifier ∧ id ≠ tlvHessid ∧
      id ≠ tlvWpsEnable ∧ findGenericTlvConfig id semicolonList = none ∧
      (findTlvHs2Profile id).isNone = true ∧ (findTlvConfig id).isSome = true := by
  revert id
  decide +kernel

/-- What another TLV changes. -/
theorem nextLocals_of_not_mem {f : HapdLocals} (h : t.id ∉ settingIds) :
    nextLocals env f t = { f with
      channel := if t.id = tlvChannel then atoi t.value else f.channel
      enableWps := f.enableWps || decide (t.id = tlvWpsEnable ∧ env.wpsSettings.isSome)
      useMbss := f.useMbss || decide (t.id = tlvBssIdentifier)
      is6gOnly := f.is6gOnly || decide (t.id = tlvHe6gOnly)
      hs20IconsAttached := f.hs20IconsAttached || needsIcons t.id } := by
  simp only [settingIds, List.mem_cons, List.not_mem_nil, or_false, not_or] at h
  simp [nextLocals, h]

theorem flagsFit_of_not_mem (h : t.id ∉ settingIds) : FlagsFit t := by
  simp only [settingIds, List.mem_cons, List.not_mem_nil, or_false, not_or] at h
  refine ⟨?_, ?_, ?_, ?_, ?_⟩ <;> simp [h]

theorem nextTable_of_not_mem {table : Table} (h : t.id ∉ settingIds) :
    nextTable table t = table := by
  simp only [settingIds, List.mem_cons, List.not_mem_nil, or_false, not_or] at h
  simp [nextTable, h]

/-- The TLVs that the loop looks for before the settings have no profile. -/
theorem no_profile {id : UInt16}
    (h : id ∈ [tlvChannel, tlvHe6gOnly, tlvBssIdentifier, tlvRoamingConsortium, tlvHessid,
      tlvWpsEnable]) : (findTlvHs2Profile id).isNone = true := by
  revert id
  decide +kernel

theorem not_needsIcons {id : UInt16} (h : findTlvHs2Profile id = none) :
    needsIcons id = false := by
  have hprofiles : ∀ id' ∈ [tlvOsuProvidersList, tlvOperatorIconMetadata],
      (findTlvHs2Profile id').isSome = true := by decide +kernel
  have hne : ∀ id' ∈ [tlvOsuProvidersList, tlvOperatorIconMetadata], id ≠ id' := by
    rintro id' hid' rfl
    have hsome := hprofiles _ hid'
    rw [h] at hsome
    cases hsome
  simp only [List.forall_mem_cons] at hne
  rw [needsIcons, beq_eq_false_iff_ne.mpr hne.1, beq_eq_false_iff_ne.mpr hne.2.1, Bool.or_false]

/-- The next locals of a TLV that only writes lines. -/
theorem nextLocals_eq_self {f : HapdLocals} (hnot : t.id ∉ settingIds)
    (hchannel : t.id = tlvChannel → f.channel = atoi t.value) (hwps : t.id ≠ tlvWpsEnable)
    (hbss : t.id ≠ tlvBssIdentifier) (h6g : t.id ≠ tlvHe6gOnly) (hicons : needsIcons t.id = false) :
    nextLocals env f t = f := by
  have hchan : (if t.id = tlvChannel then atoi t.value else f.channel) = f.channel := by
    split
    · rename_i hid
      exact (hchannel hid).symm
    · rfl
  rw [nextLocals_of_not_mem env t hnot, hchan]
  simp [hwps, hbss, h6g, hicons]

theorem attachIcons_eq : attachIcons s t =
    ⟨{ s.toHapdLocals with hs20IconsAttached := s.hs20IconsAttached || needsIcons t.id }, s.table,
      s.output ++ if needsIcons t.id && !s.hs20IconsAttached then hs20Icons else []⟩ := by
  unfold attachIcons
  cases hneeds : needsIcons t.id
  · simp
  · cases hattached : s.hs20IconsAttached
    · simp [HapdState.strcat]
    · have hsame : { s.toHapdLocals with hs20IconsAttached := true } = s.toHapdLocals := by
        rw [← hattached]
      simp [hsame]

theorem profileText_of_exists {profile : TlvToProfile} {value : List UInt8}
    (h : 0 ≤ atoi value ∧ atoi value < profile.size) :
    profileText profile value = .ok (profile.profile.getD (atoi value).toNat []) := by
  have hlt : (atoi value).toNat < profile.profile.length := by
    have hsize := h.2
    unfold TlvToProfile.size at hsize
    omega
  simp only [profileText, if_pos h.1, List.getElem?_eq_getElem hlt, List.getD_eq_getElem?_getD,
    Option.getD_some]

theorem exists_of_profileText {profile : TlvToProfile} {value text : List UInt8}
    (h : profileText profile value = .ok text) : 0 ≤ atoi value ∧ atoi value < profile.size := by
  unfold profileText at h
  by_cases hpos : 0 ≤ atoi value
  · refine ⟨hpos, ?_⟩
    by_contra hover
    have hnone : profile.profile[(atoi value).toNat]? = none := by
      rw [List.getElem?_eq_none_iff]
      unfold TlvToProfile.size at hover
      omega
    simp [hpos, hnone] at h
  · simp [hpos] at h

theorem flagged_eq_next {f : HapdLocals} (hchannel : t.id = tlvChannel → f.channel = atoi t.value)
    (hwps : t.id ≠ tlvWpsEnable) (hbss : t.id ≠ tlvBssIdentifier) (h6g : t.id ≠ tlvHe6gOnly)
    (hicons : needsIcons t.id = false) : flagged env f t = nextLocals env f t := by
  have hchan : (if t.id = tlvChannel then atoi t.value else f.channel) = f.channel := by
    split
    · rename_i hid
      exact (hchannel hid).symm
    · rfl
  simp [flagged, nextLocals, hchan, hwps, hbss, h6g, hicons]

/-- A setting whose flags have been read. -/
theorem settingTlv_of_fits (hflags : FlagsFit t)
    (howe : t.id = tlvOweTransitionBssIdentifier → IntFits bssIdentifierStrSize t.value)
    (cfg : TlvToConfigName) : settingTlv s t cfg =
      .ok ⟨flagged env s.toHapdLocals t, nextTable s.table t, s.output ++
        if t.id = tlvOweTransitionBssIdentifier then
          oweLines cfg s.hasOwe (oweWlan s.table (atoi t.value))
        else configLine cfg.configName (cText t.value)⟩ := by
  rw [settingTlv, readFlags_of_fits env s t hflags, Py.ok_bind]
  by_cases hid : t.id = tlvOweTransitionBssIdentifier
  · have hint : readInt bssIdentifierStrSize t.value = .ok (atoi t.value) := if_pos (howe hid)
    have hsame : (flagged env s.toHapdLocals t).hasOwe = s.hasOwe := by
      simp [flagged, nextLocals, hid, show tlvOweTransitionBssIdentifier ≠ tlvWpaKeyMgmt by decide]
    rw [if_pos hid, if_pos hid, oweTransitionTlv, hint, Py.ok_bind, nextTable, if_pos hid]
    simp only [hsame]
    rfl
  · rw [if_neg hid, if_neg hid, nextTable, if_neg hid]
    rfl

theorem fits_of_settingTlv {cfg : TlvToConfigName} (h : settingTlv s t cfg = .ok s') :
    FlagsFit t ∧
      (t.id = tlvOweTransitionBssIdentifier → IntFits bssIdentifierStrSize t.value) := by
  obtain ⟨read, hread, h⟩ := Py.bind_eq_ok.mp h
  refine ⟨fits_of_readFlags s read t hread, ?_⟩
  intro hid
  rw [if_pos hid] at h
  obtain ⟨n, hn, _⟩ := Py.bind_eq_ok.mp h
  by_contra hfits
  rw [readInt, if_neg hfits] at hn
  cases hn

theorem dispatchTlv_of_fits (hchannel : t.id = tlvChannel → s.channel = atoi t.value)
    (hflags : FlagsFit t)
    (howe : t.id = tlvOweTransitionBssIdentifier → IntFits bssIdentifierStrSize t.value)
    (hprofile : ProfileExists t) : dispatchTlv env s t = .ok (next env s t) := by
  unfold dispatchTlv next
  by_cases hmult : t.id = tlvChannel ∧ env.isMultipleBssid
  · have hnot : t.id ∉ settingIds := fun hmem => (of_mem_settingIds hmem).1 hmult.1
    have hsame : nextLocals env s.toHapdLocals t = s.toHapdLocals := by
      apply nextLocals_eq_self env t hnot hchannel
      all_goals rw [hmult.1]; decide
    rw [if_pos hmult, hsame, nextTable_of_not_mem t hnot, written, if_pos hmult, List.append_nil]
  by_cases h6g : t.id = tlvHe6gOnly
  · have hnot : t.id ∉ settingIds := fun hmem => (of_mem_settingIds hmem).2.1 h6g
    have hnext : nextLocals env s.toHapdLocals t = { s.toHapdLocals with is6gOnly := true } := by
      rw [nextLocals_of_not_mem env t hnot, h6g]
      simp [show tlvHe6gOnly ≠ tlvChannel by decide, show tlvHe6gOnly ≠ tlvWpsEnable by decide,
        show tlvHe6gOnly ≠ tlvBssIdentifier by decide, show needsIcons tlvHe6gOnly = false by decide]
    rw [if_neg hmult, if_pos h6g, hnext, nextTable_of_not_mem t hnot, written, if_neg hmult,
      if_pos h6g, List.append_nil]
  by_cases hbss : t.id = tlvBssIdentifier
  · have hnot : t.id ∉ settingIds := fun hmem => (of_mem_settingIds hmem).2.2.1 hbss
    have hnext : nextLocals env s.toHapdLocals t = { s.toHapdLocals with useMbss := true } := by
      rw [nextLocals_of_not_mem env t hnot, hbss]
      simp [show tlvBssIdentifier ≠ tlvChannel by decide,
        show tlvBssIdentifier ≠ tlvWpsEnable by decide,
        show tlvBssIdentifier ≠ tlvHe6gOnly by decide,
        show needsIcons tlvBssIdentifier = false by decide]
    rw [if_neg hmult, if_neg h6g, if_pos hbss, hnext, nextTable_of_not_mem t hnot, written,
      if_neg hmult, if_neg h6g, if_pos hbss]
    rfl
  rw [if_neg hmult, if_neg h6g, if_neg hbss, written, if_neg hmult, if_neg h6g, if_neg hbss]
  cases hsemi : findGenericTlvConfig t.id semicolonList with
  | some cfg =>
      have hid : t.id = tlvRoamingConsortium := by
        have hfound := List.mem_of_find?_eq_some hsemi
        have hmatch := List.find?_some hsemi
        rw [semicolonList, List.mem_singleton] at hfound
        rw [hfound, beq_iff_eq] at hmatch
        exact hmatch.symm
      have hnot : t.id ∉ settingIds := by
        rw [hid]
        decide
      have hsame : nextLocals env s.toHapdLocals t = s.toHapdLocals := by
        apply nextLocals_eq_self env t hnot hchannel
        all_goals rw [hid]; decide
      rw [hsame, nextTable_of_not_mem t hnot]
      rfl
  | none =>
      by_cases hself : t.id = tlvHessid ∧ t.contains "self"
      · have hnot : t.id ∉ settingIds := fun hmem => (of_mem_settingIds hmem).2.2.2.1 hself.1
        have hsame : nextLocals env s.toHapdLocals t = s.toHapdLocals := by
          apply nextLocals_eq_self env t hnot hchannel
          all_goals rw [hself.1]; decide
        simp only [if_pos hself, hsame, nextTable_of_not_mem t hnot]
        rfl
      simp only [if_neg hself]
      cases hp : findTlvHs2Profile t.id with
      | some profile =>
          have hnot : t.id ∉ settingIds := by
            intro hmem
            have hnone := (of_mem_settingIds hmem).2.2.2.2.2.2.1
            rw [hp] at hnone
            cases hnone
          have hother : ∀ id ∈ [tlvChannel, tlvHe6gOnly, tlvBssIdentifier, tlvRoamingConsortium,
              tlvHessid, tlvWpsEnable], t.id ≠ id := by
            rintro id hid rfl
            have hnone := no_profile hid
            rw [hp] at hnone
            cases hnone
          simp only [List.forall_mem_cons] at hother
          obtain ⟨hchan, -, -, -, -, hwps, -⟩ := hother
          have hnext : nextLocals env s.toHapdLocals t =
              { s.toHapdLocals with
                hs20IconsAttached := s.hs20IconsAttached || needsIcons t.id } := by
            rw [nextLocals_of_not_mem env t hnot]
            simp [hchan, hwps, hbss, h6g]
          simp only [profileTlv, profileText_of_exists (hprofile profile hp), Py.ok_bind,
            attachIcons_eq, hnext, nextTable_of_not_mem t hnot]
          rw [← List.append_assoc]
          rfl
      | none =>
          by_cases hwps : t.id = tlvWpsEnable
          · have hnot : t.id ∉ settingIds :=
              fun hmem => (of_mem_settingIds hmem).2.2.2.2.1 hwps
            have hnext : nextLocals env s.toHapdLocals t =
                { s.toHapdLocals with
                  enableWps := s.enableWps || env.wpsSettings.isSome } := by
              rw [nextLocals_of_not_mem env t hnot, hwps]
              simp [show tlvWpsEnable ≠ tlvChannel by decide,
                show tlvWpsEnable ≠ tlvBssIdentifier by decide,
                show tlvWpsEnable ≠ tlvHe6gOnly by decide,
                show needsIcons tlvWpsEnable = false by decide]
            simp only [if_pos hwps, hnext, nextTable_of_not_mem t hnot, wpsTlv]
            cases henv : env.wpsSettings with
            | none => simp
            | some settings => simp [HapdState.strcat]
          have hicons := not_needsIcons hp
          simp only [if_neg hwps]
          cases hcfg : findTlvConfig t.id with
          | none =>
              have hnot : t.id ∉ settingIds := by
                intro hmem
                have hsome := (of_mem_settingIds hmem).2.2.2.2.2.2.2
                rw [hcfg] at hsome
                cases hsome
              rw [nextLocals_eq_self env t hnot hchannel hwps hbss h6g hicons,
                nextTable_of_not_mem t hnot]
              simp
          | some cfg =>
              simp only [settingTlv_of_fits env s t hflags howe cfg,
                flagged_eq_next env t hchannel hwps hbss h6g hicons]

theorem fits_of_dispatchTlv (h : dispatchTlv env s t = .ok s') :
    FlagsFit t ∧
      (t.id = tlvOweTransitionBssIdentifier → IntFits bssIdentifierStrSize t.value) ∧
      ProfileExists t := by
  by_cases hmem : t.id ∈ settingIds
  · obtain ⟨hchannel, h6g, hbss, hhessid, hwps, hsemi, hprofile, hcfg⟩ := of_mem_settingIds hmem
    obtain ⟨cfg, hcfg⟩ := Option.isSome_iff_exists.mp hcfg
    have hnone := Option.isNone_iff_eq_none.mp hprofile
    simp [dispatchTlv, hchannel, h6g, hbss, hhessid, hwps, hsemi, hnone, hcfg] at h
    obtain ⟨hflags, howe⟩ := fits_of_settingTlv s s' t h
    refine ⟨hflags, howe, ?_⟩
    intro profile hp
    rw [hnone] at hp
    cases hp
  · have howe : t.id ≠ tlvOweTransitionBssIdentifier := by
      intro hid
      rw [hid] at hmem
      exact hmem (by decide)
    refine ⟨flagsFit_of_not_mem t hmem, fun hid => absurd hid howe, ?_⟩
    intro profile hp
    have hother : ∀ id ∈ [tlvChannel, tlvHe6gOnly, tlvBssIdentifier, tlvRoamingConsortium,
        tlvHessid, tlvWpsEnable], t.id ≠ id := by
      rintro id hid rfl
      have hnone := no_profile hid
      rw [hp] at hnone
      cases hnone
    simp only [List.forall_mem_cons] at hother
    obtain ⟨hchan, h6g, hbss, hroaming, hhessid, hwps, -⟩ := hother
    have hsemi : findGenericTlvConfig t.id semicolonList = none := by
      simp [findGenericTlvConfig, semicolonList, Ne.symm hroaming]
    simp [dispatchTlv, hchan, h6g, hbss, hhessid, hsemi, hp] at h
    obtain ⟨text, htext, _⟩ := Py.bind_eq_ok.mp h
    exact exists_of_profileText htext

/-- **One TLV.** It goes through exactly if its copies fit and its profile
exists. -/
theorem hapdTlv_ok_iff : hapdTlv env s t = .ok s' ↔
    (CopiesFit t ∧ ProfileExists t) ∧ s' = next env s t := by
  have hset : next env { s with channel := if t.id = tlvChannel then atoi t.value else s.channel } t =
      next env s t := by
    simp only [next, nextLocals]
    congr 2
    split <;> rfl
  constructor
  · intro hrun
    obtain ⟨channel, hchannel, hrun⟩ := Py.bind_eq_ok.mp hrun
    have hfits := fits_of_readIf t hchannel
    rw [readIf_of_fits t hfits] at hchannel
    obtain rfl := Except.ok.inj hchannel
    obtain ⟨hflags, howe, hprofile⟩ := fits_of_dispatchTlv env _ s' t hrun
    rw [dispatchTlv_of_fits env _ t (fun hid => if_pos hid) hflags howe hprofile, hset] at hrun
    exact ⟨⟨⟨hflags, hfits, howe⟩, hprofile⟩, (Except.ok.inj hrun).symm⟩
  · rintro ⟨⟨hcopies, hprofile⟩, rfl⟩
    rw [hapdTlv, readIf_of_fits t hcopies.channel, Py.ok_bind,
      dispatchTlv_of_fits env _ t (fun hid => if_pos hid) hcopies.toFlagsFit hcopies.owe hprofile,
      hset]

end AfcDut.Conf
