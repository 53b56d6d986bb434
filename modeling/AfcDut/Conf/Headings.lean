import AfcDut.Conf.HapdSwap
import AfcDut.Conf.ReadBack

/-!
# Where the sections begin

A hostapd file is a text, and a section of it begins at a line `interface=` or
`bss=`. `generate_hostapd_config` writes one such line, in its header, if no
value of the request brings one along.
-/

namespace AfcDut.Conf

open Indigo ControlApp Data.Lines

/-! ## Reading -/

def sectionKind (name : List UInt8) : Option SectionKind :=
  if name = cString "interface" then some .interface
  else if name = cString "bss" then some .bss
  else none

/-- The section a line begins: its kind, and the name of its interface. -/
def heading (line : List UInt8) : Option (SectionKind × List UInt8) :=
  let name := line.takeWhile (· ≠ equalsSign)
  (sectionKind name).map fun kind => (kind, line.drop (name.length + 1))

/-- The sections of a text, in order. -/
def headings (text : List UInt8) : List (SectionKind × List UInt8) :=
  (confLines text).filterMap heading

theorem headings_append {text : List UInt8} (h : Whole text) (rest : List UInt8) :
    headings (text ++ rest) = headings text ++ headings rest := by
  rw [headings, confLines_append h, List.filterMap_append]
  rfl

/-- The line of a setting says what the name of the setting says. -/
theorem headings_configLine {name value : List UInt8} (hname : newline ∉ name)
    (hmark : equalsSign ∉ name) (hvalue : newline ∉ value) :
    headings (configLine name value) =
      ((sectionKind name).map fun kind => (kind, value)).toList := by
  have hline : newline ∉ name ++ equalsSign :: value := by
    rw [List.mem_append, List.mem_cons]
    rintro (hin | hin | hin)
    · exact hname hin
    · exact absurd hin (by decide)
    · exact hvalue hin
  have hlines : confLines (configLine name value) = [name ++ equalsSign :: value] :=
    linesOf_line hline
  have hdrop : (name ++ equalsSign :: value).drop (name.length + 1) = value := by
    rw [List.drop_length_add_append]
    rfl
  rw [headings, hlines, List.filterMap_cons, List.filterMap_nil, heading,
    takeWhile_append_mark hmark, hdrop]
  cases sectionKind name <;> rfl

/-! ## Texts without a section -/

/-- Whole lines none of which begins a section. -/
structure Plain (text : List UInt8) : Prop where
  whole : Whole text
  none : headings text = []

/-- The name of a setting that is no section. -/
def SettingName (name : List UInt8) : Prop :=
  newline ∉ name ∧ equalsSign ∉ name ∧ sectionKind name = none

instance instDecidableSettingName (name : List UInt8) : Decidable (SettingName name) :=
  inferInstanceAs (Decidable (_ ∧ _))

/-- A fixed line that begins no section. It is looked at as a list of
characters; to decode a string is slow. -/
def FixedLine (line : String) : Prop :=
  ∃ text, line = String.ofList text ∧ newline ∉ text.map (fun c => c.toNat.toUInt8) ∧
    heading (text.map fun c => c.toNat.toUInt8) = none

def FixedName (name : String) : Prop :=
  ∃ text, name = String.ofList text ∧ SettingName (text.map fun c => c.toNat.toUInt8)

theorem cString_ofList (text : List Char) :
    cString (String.ofList text) = text.map fun c => c.toNat.toUInt8 := by
  rw [cString, String.toList_ofList]

theorem FixedName.settingName {name : String} (h : FixedName name) :
    SettingName (cString name) := by
  obtain ⟨text, rfl, h⟩ := h
  rwa [cString_ofList]

theorem plain_nil : Plain [] := ⟨terminated_nil, rfl⟩

theorem Plain.append {text rest : List UInt8} (h : Plain text) (hrest : Plain rest) :
    Plain (text ++ rest) where
  whole := h.whole.append hrest.whole
  none := by rw [headings_append h.whole, h.none, hrest.none, List.append_nil]

theorem plain_ite {c : Prop} [Decidable c] {text rest : List UInt8} (h : Plain text)
    (hrest : Plain rest) : Plain (if c then text else rest) := by
  split
  · exact h
  · exact hrest

theorem plain_flatMap {β : Type} {f : β → List UInt8} {items : List β}
    (h : ∀ b ∈ items, Plain (f b)) : Plain (items.flatMap f) := by
  induction items with
  | nil => exact plain_nil
  | cons b items ih =>
      rw [List.forall_mem_cons] at h
      rw [List.flatMap_cons]
      exact h.1.append (ih h.2)

theorem plain_textLine {line : String} (h : FixedLine line) : Plain (textLine line) where
  whole := whole_textLine line
  none := by
    obtain ⟨text, rfl, hone, hnone⟩ := h
    rw [← cString_ofList] at hone hnone
    rw [headings, confLines_textLine hone, List.filterMap_cons, hnone]
    rfl

theorem plain_configLine {name value : List UInt8} (hname : SettingName name)
    (hvalue : newline ∉ value) : Plain (configLine name value) where
  whole := whole_configLine name value
  none := by
    obtain ⟨hline, hmark, hkind⟩ := hname
    rw [headings_configLine hline hmark hvalue, hkind]
    rfl

theorem plain_intLine {name : String} (h : FixedName name) (n : Int) : Plain (intLine name n) :=
  plain_configLine h.settingName (newline_not_mem_intText n)

theorem plain_textLines {lines : List String} (h : ∀ line ∈ lines, FixedLine line) :
    Plain (lines.flatMap textLine) :=
  plain_flatMap fun line hline => plain_textLine (h line hline)

/-! ## The tables -/

/-- No setting of the tables is a section. -/
theorem settingName_of_find {list : List TlvToConfigName}
    (hlist : list = maps ∨ list = semicolonList) {id : UInt16} {cfg : TlvToConfigName}
    (h : findGenericTlvConfig id list = some cfg) :
    SettingName cfg.configName := by
  have hmaps : ∀ cfg ∈ maps, SettingName cfg.configName := by decide +kernel
  have hsemicolon : ∀ cfg ∈ semicolonList, SettingName cfg.configName := by decide +kernel
  have hmem : cfg ∈ list := List.mem_of_find?_eq_some h
  rcases hlist with rfl | rfl
  · exact hmaps cfg hmem
  · exact hsemicolon cfg hmem

/-! ## The profiles -/

/-- A newline is encoded as itself, and nothing else has it in its encoding. -/
theorem eq_of_newline_mem {c : Char} (h : newline ∈ String.utf8EncodeChar c) : c = '\n' := by
  have hbyte : ∀ {n : Nat}, newline = UInt8.ofNat n → n % 256 = 10 := by
    intro n hn
    simpa [newline] using (congrArg UInt8.toNat hn).symm
  have hc : c.val.toNat = 10 := by
    unfold String.utf8EncodeChar at h
    dsimp only at h
    split at h
    · rw [List.mem_singleton] at h
      have := hbyte h
      omega
    · -- the bytes of a longer encoding are at least 128
      exfalso
      split at h
      · simp only [List.mem_cons, List.not_mem_nil, or_false] at h
        rcases h with h | h <;> have := hbyte h <;> omega
      · split at h <;> simp only [List.mem_cons, List.not_mem_nil, or_false] at h
        · rcases h with h | h | h <;> have := hbyte h <;> omega
        · rcases h with h | h | h | h <;> have := hbyte h <;> omega
  exact Char.ext (UInt32.toNat_inj.mp hc)

/-- A line of a profile that begins no section. -/
def ProfileLine (line : String) : Prop :=
  ∃ text, line = String.ofList text ∧ '\n' ∉ text ∧
    heading (text.flatMap String.utf8EncodeChar) = none

theorem plain_profileLines {lines : List String} (h : ∀ line ∈ lines, ProfileLine line) :
    Plain (profileLines lines) := by
  refine plain_flatMap fun line hline => ?_
  obtain ⟨text, rfl, hone, hnone⟩ := h line hline
  have hbytes : newline ∉ utf8String (String.ofList text) := by
    rw [utf8String, String.toList_ofList, List.mem_flatMap]
    rintro ⟨c, hc, hin⟩
    exact hone (eq_of_newline_mem hin ▸ hc)
  refine ⟨terminated_line _, ?_⟩
  rw [headings, confLines, linesOf_line hbytes, List.filterMap_cons, utf8String,
    String.toList_ofList, hnone]
  rfl

theorem newline_not_mem_adviceOfCharge1 : newline ∉ adviceOfCharge1 := by
  have hpiece : ∀ {piece : String}, (∃ text, piece = String.ofList text ∧
      newline ∉ text.map fun c => c.toNat.toUInt8) → newline ∉ cString piece := by
    rintro _ ⟨text, rfl, h⟩
    rwa [cString, String.toList_ofList]
  rw [adviceOfCharge1, List.mem_flatMap, not_exists]
  simp only [not_and]
  simp only [List.forall_mem_cons, List.not_mem_nil, false_implies, implies_true, and_true]
  (repeat' apply And.intro) <;> exact hpiece ⟨_, rfl, by decide⟩

theorem plain_adviceOfCharge :
    Plain (cString "anqp_elem=278:" ++ adviceOfCharge1 ++ [newline]) := by
  have hname : FixedName "anqp_elem" := ⟨_, rfl, by decide⟩
  have hvalue : newline ∉ cString "278:" ++ adviceOfCharge1 := by
    rw [List.mem_append, not_or]
    exact ⟨by decide, newline_not_mem_adviceOfCharge1⟩
  have hline : cString "anqp_elem=278:" = cString "anqp_elem" ++ equalsSign :: cString "278:" := by
    decide
  have htext : cString "anqp_elem=278:" ++ adviceOfCharge1 ++ [newline] =
      configLine (cString "anqp_elem") (cString "278:" ++ adviceOfCharge1) := by
    rw [hline, configLine]
    simp only [List.append_assoc, List.cons_append]
  rw [htext]
  exact plain_configLine hname.settingName hvalue

theorem plain_profile {profile : TlvToProfile} (h : profile ∈ hs2Profile) :
    ∀ text ∈ profile.profile, Plain text := by
  simp only [hs2Profile, List.mem_cons, List.not_mem_nil, or_false] at h
  rcases h with rfl | rfl | rfl | rfl | rfl | rfl | rfl | rfl | rfl | rfl | rfl | rfl | rfl |
      rfl <;>
    simp only [venueName, naiRealm, operFriendlyName, networkAuthType, ipaddrTypeAvail,
      hs20WanMetrics, hs20ConnCapab, osuProvidersList, osuProvidersNaiList, venueUrl, bssLoad,
      operatorIconMetadata, operatingClassIndication, adviceOfCharge, List.forall_mem_cons,
      plain_nil, plain_adviceOfCharge, List.not_mem_nil, true_and, false_implies, implies_true,
      and_true] <;>
    (repeat' apply And.intro) <;>
    apply plain_profileLines <;>
    simp only [List.forall_mem_cons, List.not_mem_nil, false_implies, implies_true, and_true] <;>
    (repeat' apply And.intro) <;>
    exact ⟨_, rfl, by decide, by decide⟩

/-- What an index chooses begins no section. -/
theorem plain_profileAt {id : UInt16} {profile : TlvToProfile}
    (h : findTlvHs2Profile id = some profile) (i : Nat) : Plain (profile.profile.getD i []) := by
  rw [List.getD_eq_getElem?_getD]
  cases htext : profile.profile[i]? with
  | none => exact plain_nil
  | some text =>
      exact plain_profile (List.mem_of_find?_eq_some h) text (List.mem_of_getElem? htext)

theorem plain_hs20Icons : Plain hs20Icons := by
  rw [hs20Icons, ← List.flatMap_id]
  apply plain_flatMap
  simp only [hs20Icon, List.forall_mem_cons, List.not_mem_nil, false_implies, implies_true,
    and_true, id]
  constructor <;> apply plain_profileLines <;>
    simp only [List.forall_mem_cons, List.not_mem_nil, false_implies, implies_true, and_true] <;>
    exact ⟨_, rfl, by decide, by decide⟩

/-! ## The lines of a TLV -/

theorem mem_of_mem_splitOn {delimit c : UInt8} {text part : List UInt8}
    (h : part ∈ text.splitOn delimit) (hc : c ∈ part) : c ∈ text := by
  induction text generalizing part with
  | nil =>
      rw [List.splitOn_nil, List.mem_singleton] at h
      rwa [h] at hc
  | cons b text ih =>
      rw [List.splitOn_cons_eq_if_modifyHead] at h
      split at h
      · rcases List.mem_cons.mp h with rfl | h
        · exact absurd hc List.not_mem_nil
        · exact List.mem_cons_of_mem b (ih h hc)
      · cases hparts : text.splitOn delimit with
        | nil => exact absurd hparts (List.splitOn_ne_nil delimit text)
        | cons first rest =>
            rw [hparts, List.modifyHead_cons] at h
            rcases List.mem_cons.mp h with rfl | h
            · rcases List.mem_cons.mp hc with rfl | hc
              · exact List.mem_cons_self
              · exact List.mem_cons_of_mem b (ih (hparts ▸ List.mem_cons_self) hc)
            · exact List.mem_cons_of_mem b (ih (hparts ▸ List.mem_cons_of_mem first h) hc)

/-- The settings for WPS are single lines and no sections. -/
def PlainSettings (settings : Option (List WpsSetting)) : Prop :=
  ∀ list ∈ settings, ∀ s ∈ list, SettingName s.wkey ∧ newline ∉ s.value

/-- The interfaces have names of one line. -/
def OneLineNames (t : Table) : Prop := ∀ name ∈ t.names.map Prod.snd, newline ∉ cString name

theorem OneLineNames.ifname {t : Table} (h : OneLineNames t) (i : Nat) :
    newline ∉ cString (t.ifname i) := by
  cases hw : t.interfaces[i]? with
  | none =>
      unfold Table.ifname
      rw [hw]
      exact List.not_mem_nil
  | some w =>
      rw [Table.ifname_of_getElem? hw]
      apply h
      rw [Table.names, List.map_map, List.mem_map]
      exact ⟨w, List.mem_of_getElem? hw, rfl⟩

variable {env : HapdEnv} {table : Table} {t : PlacedTlv}

theorem shape_oweWlan (table : Table) (n : Int) : (oweWlan table n).1.shape = table.shape := by
  rw [oweWlan, getOrAssign]
  split
  · rfl
  · exact shape_assign table _

theorem shape_nextTable (table : Table) (t : PlacedTlv) :
    (nextTable table t).shape = table.shape := by
  rw [nextTable]
  split
  · exact shape_oweWlan table _
  · rfl

theorem OneLineNames.of_shape {t t' : Table} (h : OneLineNames t) (hshape : t'.shape = t.shape) :
    OneLineNames t' := by
  rw [OneLineNames, names_of_shape hshape]
  exact h

theorem plain_selfHessid (env : HapdEnv) (table : Table) : Plain (selfHessid env table) := by
  have hname : FixedName "hessid" := ⟨_, rfl, by decide⟩
  apply plain_configLine hname.settingName
  unfold HapdEnv.macAddr
  cases env.macAddress (getWirelessInterface table) with
  | none => exact List.not_mem_nil
  | some mac => exact newline_not_mem_macText mac

theorem plain_semicolonLines {cfg : TlvToConfigName} {value : List UInt8}
    (hname : SettingName cfg.configName) (hvalue : newline ∉ cText value) :
    Plain (semicolonLines cfg value) := by
  refine plain_flatMap fun item hitem => plain_configLine hname ?_
  exact fun hin => hvalue (mem_of_mem_splitOn (List.mem_of_mem_filter hitem) hin)

theorem plain_wpsLines {settings : List WpsSetting} (value : List UInt8)
    (h : ∀ s ∈ settings, SettingName s.wkey ∧ newline ∉ s.value) :
    Plain (wpsLines settings value) := by
  refine plain_ite (plain_flatMap fun s hs => plain_configLine (h s hs).1 (h s hs).2)
    (plain_ite (plain_flatMap fun s hs => ?_) plain_nil)
  exact plain_ite (plain_configLine (h s hs).1 (h s hs).2)
    (plain_ite (plain_configLine (h s hs).1 (by decide)) plain_nil)

theorem plain_oweLines {cfg : TlvToConfigName} (hname : SettingName cfg.configName)
    (hasOwe : Bool) {wlan : Table × Option Nat} (hnames : OneLineNames wlan.1) :
    Plain (oweLines cfg hasOwe wlan) := by
  unfold oweLines
  cases wlan.2 with
  | none => exact plain_nil
  | some i =>
      exact (plain_configLine hname (hnames.ifname i)).append
        (plain_ite (plain_textLine ⟨_, rfl, by decide, by decide⟩) plain_nil)

/-- **One TLV.** A value of one line begins no section, whatever the TLV. -/
theorem plain_written (hwps : PlainSettings env.wpsSettings) (hnames : OneLineNames table)
    (hvalue : newline ∉ cText t.value) (hasOwe hasIcons : Bool) :
    Plain (written env hasOwe hasIcons table t) := by
  unfold written
  refine plain_ite plain_nil (plain_ite plain_nil (plain_ite
    (plain_ite (plain_textLine ⟨_, rfl, by decide, by decide⟩) plain_nil) ?_))
  cases hsemicolon : findGenericTlvConfig t.id semicolonList with
  | some cfg => exact plain_semicolonLines (settingName_of_find (.inr rfl) hsemicolon) hvalue
  | none =>
      refine plain_ite (plain_selfHessid env table) ?_
      cases hp : findTlvHs2Profile t.id with
      | some profile =>
          exact (plain_ite plain_hs20Icons plain_nil).append (plain_profileAt hp _)
      | none =>
          refine plain_ite ?_ ?_
          · cases hsettings : env.wpsSettings with
            | none => exact plain_nil
            | some settings => exact plain_wpsLines t.value (hwps settings hsettings)
          · cases hcfg : findTlvConfig t.id with
            | none => exact plain_nil
            | some cfg =>
                have hname := settingName_of_find (.inl rfl) hcfg
                exact plain_ite
                  (plain_oweLines hname hasOwe (hnames.of_shape (shape_oweWlan table _)))
                  (plain_configLine hname hvalue)

/-- **All TLVs.** -/
theorem plain_loopText (hwps : PlainSettings env.wpsSettings) {ts : List PlacedTlv}
    (hnames : OneLineNames table) (hvalues : ∀ t ∈ ts, newline ∉ cText t.value)
    (hasOwe hasIcons : Bool) : Plain (loopText env hasOwe hasIcons table ts) := by
  induction ts generalizing hasOwe hasIcons table with
  | nil => exact plain_nil
  | cons t ts ih =>
      rw [List.forall_mem_cons] at hvalues
      exact (plain_written hwps hnames hvalues.1 hasOwe hasIcons).append
        (ih (hnames.of_shape (shape_nextTable table t)) hvalues.2 _ _)

/-! ## The derived lines -/

theorem plain_opClass (width : Int) : Plain (opClass width) :=
  plain_ite (plain_textLine ⟨_, rfl, by decide, by decide⟩)
    (plain_ite (plain_textLine ⟨_, rfl, by decide, by decide⟩) plain_nil)

theorem plain_narrowLines (env : HapdEnv) (f : HapdLocals) :
    Plain (wpsRfBands f ++ pmfLine f ++ saeRequireMfp f ++ multipleBssid env ++ saeGroups f) := by
  have hline : ∀ (p : Prop) [Decidable p] {line : String}, FixedLine line →
      Plain (if p then textLine line else []) :=
    fun p _ line h => plain_ite (plain_textLine h) plain_nil
  have hbands : Plain (wpsRfBands f) := by
    refine plain_ite (plain_ite (plain_textLine ⟨_, rfl, by decide, by decide⟩) ?_) plain_nil
    exact plain_ite (plain_textLine ⟨_, rfl, by decide, by decide⟩)
      (hline _ ⟨_, rfl, by decide, by decide⟩)
  have hpmf : Plain (pmfLine f) := by
    have hrequired : Plain (textLine "ieee80211w=2") :=
      plain_textLine ⟨_, rfl, by decide, by decide⟩
    have hoptional : FixedLine "ieee80211w=1" := ⟨_, rfl, by decide, by decide⟩
    exact plain_ite plain_nil (plain_ite (plain_textLine hoptional)
      (plain_ite hrequired (plain_ite hrequired (hline _ hoptional))))
  refine (((hbands.append hpmf).append (hline _ ?_)).append (hline _ ?_)).append (hline _ ?_)
  · exact ⟨_, rfl, by decide, by decide⟩
  · exact ⟨_, rfl, by decide, by decide⟩
  · exact ⟨_, rfl, by decide, by decide⟩

theorem plain_lines6g (env : HapdEnv) (f : HapdLocals) : Plain (lines6g env f) := by
  have hwidth : Plain (if f.chwidthset then [] else intLine "he_oper_chwidth" f.width) :=
    plain_ite plain_nil (plain_intLine ⟨_, rfl, by decide⟩ _)
  have hcenter (n : Int) : Plain (intLine "he_oper_centr_freq_seg0_idx" n) :=
    plain_intLine ⟨_, rfl, by decide⟩ n
  have hprobe : Plain (if f.unsolPrRespInterval ≠ 0 then
      intLine "unsol_bcast_probe_resp_interval" f.unsolPrRespInterval
      else textLine "fils_discovery_max_interval=20") :=
    plain_ite (plain_intLine ⟨_, rfl, by decide⟩ _)
      (plain_textLine ⟨_, rfl, by decide, by decide⟩)
  refine (((((hwidth.append (plain_opClass _)).append (hcenter _)).append hprobe).append
    (plain_textLine ?_)).append (plain_textLine ?_)).append (plain_textLine ?_)
  · exact ⟨_, rfl, by decide, by decide⟩
  · exact ⟨_, rfl, by decide, by decide⟩
  · exact ⟨_, rfl, by decide, by decide⟩

theorem plain_wideLines (f : HapdLocals) : Plain (wideLines f) := by
  refine ((plain_ite (((plain_textLine ?_).append (plain_textLine ?_)).append
    (plain_textLine ?_)) plain_nil).append ?_).append ?_
  · exact ⟨_, rfl, by decide, by decide⟩
  · exact ⟨_, rfl, by decide, by decide⟩
  · exact ⟨_, rfl, by decide, by decide⟩
  · refine plain_ite (((plain_ite plain_nil (plain_intLine ⟨_, rfl, by decide⟩ _)).append
      (plain_intLine ⟨_, rfl, by decide⟩ _)).append ?_) plain_nil
    exact plain_ite (plain_textLine ⟨_, rfl, by decide, by decide⟩) plain_nil
  · exact plain_ite ((plain_ite plain_nil (plain_intLine ⟨_, rfl, by decide⟩ _)).append
      (plain_intLine ⟨_, rfl, by decide⟩ _)) plain_nil

theorem plain_channelWidthLines (env : HapdEnv) (f : HapdLocals) :
    Plain (channelWidthLines env f) := by
  have hwide : ∀ {line}, FixedLine line →
      Plain (textLine line ++ if f.width > 0 then wideLines f else []) :=
    fun h => (plain_textLine h).append (plain_ite (plain_wideLines f) plain_nil)
  have h5g : Plain (lines5g f) :=
    plain_ite (hwide ⟨_, rfl, by decide, by decide⟩)
      (plain_ite (hwide ⟨_, rfl, by decide, by decide⟩) plain_nil)
  exact plain_ite (plain_lines6g env f) (plain_ite h5g plain_nil)

theorem plain_derivedLines (env : HapdEnv) (f : HapdLocals) : Plain (derivedLines env f) := by
  have hmuedca : Plain (muedcaLines f) := by
    refine plain_ite (plain_textLines ?_) plain_nil
    simp only [List.forall_mem_cons, List.not_mem_nil, false_implies, implies_true, and_true]
    (repeat' apply And.intro) <;> exact ⟨_, rfl, by decide, by decide⟩
  have hhs20 : Plain (hs20Lines f) := by
    refine plain_ite (plain_textLines ?_) plain_nil
    simp only [List.forall_mem_cons, List.not_mem_nil, false_implies, implies_true, and_true]
    (repeat' apply And.intro) <;> exact ⟨_, rfl, by decide, by decide⟩
  exact (((plain_narrowLines env f).append (plain_channelWidthLines env f)).append hmuedca).append
    hhs20

/-! ## The text -/

/-- The section that the header begins. -/
def hapdHeading (env : HapdEnv) : SectionKind × List UInt8 :=
  (if env.isMultipleBssid then .bss else .interface, cString env.wlanp.ifname)

theorem headings_hapdHeader (h : newline ∉ cString env.wlanp.ifname) :
    headings (hapdHeader env) = [hapdHeading env] := by
  have hcontrol : Plain (textLine "ctrl_interface=/var/run/hostapd") :=
    plain_textLine ⟨_, rfl, by decide, by decide⟩
  have hgroup : Plain (textLine "ctrl_interface_group=0") :=
    plain_textLine ⟨_, rfl, by decide, by decide⟩
  unfold hapdHeader hapdHeading
  cases env.isMultipleBssid with
  | true =>
      rw [if_pos rfl, if_pos rfl, headings_append (whole_configLine _ _), hcontrol.none,
        headings_configLine (by decide) (by decide) h]
      rfl
  | false =>
      rw [if_neg (by decide), if_neg (by decide),
        headings_append (hcontrol.append hgroup).whole, (hcontrol.append hgroup).none,
        headings_configLine (by decide) (by decide) h]
      rfl

/-- **The text has one section**, that of its header. -/
theorem headings_hapdText (hwps : PlainSettings env.wpsSettings)
    (hname : newline ∉ cString env.wlanp.ifname) (hnames : OneLineNames table)
    {ts : List PlacedTlv} (hvalues : ∀ t ∈ ts, newline ∉ cText t.value) (band : List UInt8) :
    headings (hapdText env band table ts) = [hapdHeading env] := by
  have hloop := plain_loopText hwps hnames hvalues false false
  have hderived := plain_derivedLines env (finalLocals env band ts)
  rw [hapdText, List.append_assoc, headings_append (whole_hapdHeader env),
    (hloop.append hderived).none, headings_hapdHeader hname, List.append_nil]

theorem whole_hapdText (env : HapdEnv) (band : List UInt8) (table : Table) (ts : List PlacedTlv) :
    Whole (hapdText env band table ts) :=
  ((whole_hapdHeader env).append (whole_loopText env _ _ table ts)).append
    (plain_derivedLines env _).whole

end AfcDut.Conf
