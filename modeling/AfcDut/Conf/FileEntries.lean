import AfcDut.Conf.Entries

/-!
# The entries of the two files

What the TLVs of a request stand for in the files of hostapd and
wpa_supplicant: the settings that the tables name, with the values of the TLVs,
and the canned texts that the values choose.
-/

namespace AfcDut.Conf

open Indigo ControlApp Data.Search Data.Lines

/-! ## hostapd -/

def WpsSetting.normalEntries (s : WpsSetting) : List Entry :=
  if atoi s.attr = wpsCommon then [.setting s.wkey s.value]
  else if atoi s.attr = wpsOobOnly && (cString "wps_state").isPrefixOf s.wkey then
    [.setting s.wkey (cString "2")]
  else []

def wpsEntries (settings : List WpsSetting) (value : List UInt8) : List Entry :=
  if atoi value = wpsEnableOob then settings.map fun s => .setting s.wkey s.value
  else if atoi value = wpsEnableNormal then settings.flatMap WpsSetting.normalEntries
  else []

def oweEntries (cfg : TlvToConfigName) (hasOwe : Bool) (wlan : Table × Option Nat) : List Entry :=
  match wlan.2 with
  | none => []
  | some i =>
      .setting cfg.configName (cString (wlan.1.ifname i)) ::
        if hasOwe then [.setting (cString "ignore_broadcast_ssid") (cString "1")] else []

/-- The entries of a TLV. `hasOwe` and `hasIcons` say whether a TLV before it
has asked for OWE and for the icons. -/
def hapdEntries (env : HapdEnv) (hasOwe hasIcons : Bool) (table : Table) (t : PlacedTlv) :
    List Entry :=
  if t.id = tlvChannel ∧ env.isMultipleBssid then []
  else if t.id = tlvHe6gOnly then []
  else if t.id = tlvBssIdentifier then
    if isBandEnabled table band6ghz && !env.wlanp.mbssidEnable then
      [.setting (cString "rnr") (cString "1")]
    else []
  else match findGenericTlvConfig t.id semicolonList with
  | some cfg => (strtok semicolon (cText t.value)).map (Entry.setting cfg.configName)
  | none =>
      if t.id = tlvHessid ∧ t.contains "self" then [.setting (cString "hessid") (env.macAddr table)]
      else match findTlvHs2Profile t.id with
      | some profile => [
          .canned (if needsIcons t.id && !hasIcons then hs20Icons else []),
          .canned (profile.profile.getD (atoi t.value).toNat [])]
      | none =>
          if t.id = tlvWpsEnable then
            match env.wpsSettings with
            | none => []
            | some settings => wpsEntries settings t.value
          else match findTlvConfig t.id with
          | none => []
          | some cfg =>
              if t.id = tlvOweTransitionBssIdentifier then
                oweEntries cfg hasOwe (oweWlan table (atoi t.value))
              else [.setting cfg.configName (cText t.value)]

def loopEntries (env : HapdEnv) : Bool → Bool → Table → List PlacedTlv → List Entry
  | _, _, _, [] => []
  | hasOwe, hasIcons, table, t :: ts =>
      hapdEntries env hasOwe hasIcons table t ++
        loopEntries env (hasOwe || sets tlvWpaKeyMgmt "OWE" t) (hasIcons || needsIcons t.id)
          (nextTable table t) ts

def hapdHeaderEntries (env : HapdEnv) : List Entry :=
  if env.isMultipleBssid then [
    .setting (cString "bss") (cString env.wlanp.ifname),
    .setting (cString "ctrl_interface") (cString "/var/run/hostapd")]
  else [
    .setting (cString "ctrl_interface") (cString "/var/run/hostapd"),
    .setting (cString "ctrl_interface_group") (cString "0"),
    .setting (cString "interface") (cString env.wlanp.ifname)]

/-- The entries before a TLV. -/
def hapdEntriesBefore (env : HapdEnv) (table : Table) (before : List PlacedTlv) : List Entry :=
  hapdHeaderEntries env ++ loopEntries env false false table before

/-! ## wpa_supplicant -/

def wpasGlobalEntries (t : PlacedTlv) : List Entry :=
  match findWpasGlobalConfigName t.id with
  | some cfg => [.setting cfg.configName (cText t.value)]
  | none => []

def wpasNetworkEntries (t : PlacedTlv) : List Entry :=
  match findTlvConfig t.id, findWpasGlobalConfigName t.id with
  | some cfg, none =>
      [.setting cfg.configName (if cfg.quoted then quote :: wpasValue t ++ [quote] else wpasValue t)]
  | _, _ => []

def wpasHeaderEntries : List Entry := [
  .setting (cString "ctrl_interface") (cString "/var/run/wpa_supplicant"),
  .setting (cString "ap_scan") (cString "1"),
  .setting (cString "pmf") (cString "1")]

/-- The entries before a TLV of the network: all the global settings are. -/
def wpasEntriesBefore (ts before : List PlacedTlv) : List Entry :=
  wpasHeaderEntries ++ ts.flatMap wpasGlobalEntries ++ [.setting (cString "network") (cString "\x7b")] ++
    before.flatMap wpasNetworkEntries

/-! ## The texts -/

/-- A text of whole lines, as entries. -/
structure Spells (entries : List Entry) (text : List UInt8) : Prop where
  text : entriesText entries = text
  whole : ∀ e ∈ entries, Whole e.text

variable {es fs : List Entry} {text rest : List UInt8}

theorem spells_nil : Spells [] [] := ⟨rfl, fun _ h => absurd h List.not_mem_nil⟩

theorem spells_one {e : Entry} (h : Whole e.text) : Spells [e] e.text :=
  ⟨by rw [entriesText, List.flatMap_singleton], fun e' he => by
    obtain rfl := List.mem_singleton.mp he
    exact h⟩

theorem spells_setting (name value : List UInt8) :
    Spells [.setting name value] (configLine name value) :=
  spells_one (whole_configLine name value)

theorem spells_canned (h : Whole text) : Spells [.canned text] text := spells_one h

theorem Spells.append (h : Spells es text) (hrest : Spells fs rest) :
    Spells (es ++ fs) (text ++ rest) where
  text := by rw [entriesText, List.flatMap_append, ← entriesText, ← entriesText, h.text, hrest.text]
  whole := List.forall_mem_append.mpr ⟨h.whole, hrest.whole⟩

theorem spells_ite {c : Prop} [Decidable c] (h : Spells es text) (hrest : Spells fs rest) :
    Spells (if c then es else fs) (if c then text else rest) := by
  split
  · exact h
  · exact hrest

theorem spells_flatMap {α : Type} {f : α → List Entry} {g : α → List UInt8}
    (h : ∀ a, Spells (f a) (g a)) (items : List α) : Spells (items.flatMap f) (items.flatMap g) := by
  induction items with
  | nil => exact spells_nil
  | cons a items ih =>
      rw [List.flatMap_cons, List.flatMap_cons]
      exact (h a).append ih

theorem spells_settings {α : Type} (name value : α → List UInt8) (items : List α) :
    Spells (items.map fun a => .setting (name a) (value a))
      (items.flatMap fun a => configLine (name a) (value a)) := by
  rw [List.map_eq_flatMap]
  exact spells_flatMap (fun a => spells_setting (name a) (value a)) items

theorem spells_wps (settings : List WpsSetting) (value : List UInt8) :
    Spells (wpsEntries settings value) (wpsLines settings value) := by
  refine spells_ite (spells_settings _ _ settings) (spells_ite (spells_flatMap ?_ settings) spells_nil)
  intro s
  exact spells_ite (spells_setting _ _) (spells_ite (spells_setting _ _) spells_nil)

theorem spells_owe (cfg : TlvToConfigName) (hasOwe : Bool) (wlan : Table × Option Nat) :
    Spells (oweEntries cfg hasOwe wlan) (oweLines cfg hasOwe wlan) := by
  unfold oweEntries oweLines
  cases wlan.2 with
  | none => exact spells_nil
  | some i =>
      have hline : textLine "ignore_broadcast_ssid=1" =
          configLine (cString "ignore_broadcast_ssid") (cString "1") := by decide
      rw [hline]
      exact (spells_setting _ _).append (spells_ite (spells_setting _ _) spells_nil)

theorem spells_hapd (env : HapdEnv) (hasOwe hasIcons : Bool) (table : Table) (t : PlacedTlv) :
    Spells (hapdEntries env hasOwe hasIcons table t) (written env hasOwe hasIcons table t) := by
  have hrnr : textLine "rnr=1" = configLine (cString "rnr") (cString "1") := by decide
  unfold hapdEntries written
  rw [hrnr]
  refine spells_ite spells_nil (spells_ite spells_nil (spells_ite
    (spells_ite (spells_setting _ _) spells_nil) ?_))
  cases findGenericTlvConfig t.id semicolonList with
  | some cfg => exact spells_settings (fun _ => cfg.configName) id _
  | none =>
      refine spells_ite (spells_setting _ _) ?_
      cases hp : findTlvHs2Profile t.id with
      | some profile =>
          exact (spells_canned (terminated_ite whole_hs20Icons terminated_nil)).append
            (spells_canned (whole_profileAt hp _))
      | none =>
          refine spells_ite ?_ ?_
          · cases env.wpsSettings with
            | none => exact spells_nil
            | some settings => exact spells_wps settings t.value
          · cases findTlvConfig t.id with
            | none => exact spells_nil
            | some cfg => exact spells_ite (spells_owe _ _ _) (spells_setting _ _)

theorem spells_loop (env : HapdEnv) (hasOwe hasIcons : Bool) (table : Table)
    (ts : List PlacedTlv) :
    Spells (loopEntries env hasOwe hasIcons table ts) (loopText env hasOwe hasIcons table ts) := by
  induction ts generalizing hasOwe hasIcons table with
  | nil => exact spells_nil
  | cons t ts ih => exact (spells_hapd env hasOwe hasIcons table t).append (ih _ _ _)

theorem spells_hapdBefore (env : HapdEnv) (table : Table) (before : List PlacedTlv) :
    Spells (hapdEntriesBefore env table before)
      (hapdHeader env ++ loopText env false false table before) := by
  have hctrl : textLine "ctrl_interface=/var/run/hostapd" =
      configLine (cString "ctrl_interface") (cString "/var/run/hostapd") := by decide
  have hgroup : textLine "ctrl_interface_group=0" =
      configLine (cString "ctrl_interface_group") (cString "0") := by decide
  refine Spells.append ?_ (spells_loop env false false table before)
  unfold hapdHeaderEntries hapdHeader
  rw [hctrl, hgroup]
  exact spells_ite ((spells_setting _ _).append (spells_setting _ _))
    (((spells_setting _ _).append (spells_setting _ _)).append (spells_setting _ _))

theorem spells_wpasGlobal (t : PlacedTlv) : Spells (wpasGlobalEntries t) (wpasGlobalLine t) := by
  unfold wpasGlobalEntries wpasGlobalLine
  cases findWpasGlobalConfigName t.id with
  | none => exact spells_nil
  | some cfg => exact spells_setting _ _

theorem quotedLine_eq (name value : List UInt8) :
    quotedLine name value = configLine name (quote :: value ++ [quote]) := by
  simp [quotedLine, configLine]

theorem spells_wpasNetwork (t : PlacedTlv) : Spells (wpasNetworkEntries t) (wpasNetworkLine t) := by
  unfold wpasNetworkEntries wpasNetworkLine
  cases findTlvConfig t.id with
  | none => exact spells_nil
  | some cfg =>
      cases findWpasGlobalConfigName t.id with
      | some _ => exact spells_nil
      | none =>
          simp only
          rw [quotedLine_eq, ← apply_ite (configLine cfg.configName)]
          exact spells_setting _ _

theorem spells_wpasBefore (ts before : List PlacedTlv) :
    Spells (wpasEntriesBefore ts before) (wpasBefore ts before) := by
  have hctrl : textLine "ctrl_interface=/var/run/wpa_supplicant" =
      configLine (cString "ctrl_interface") (cString "/var/run/wpa_supplicant") := by decide
  have hscan : textLine "ap_scan=1" = configLine (cString "ap_scan") (cString "1") := by decide
  have hpmf : textLine "pmf=1" = configLine (cString "pmf") (cString "1") := by decide
  have hnetwork : textLine "network=\x7b" = configLine (cString "network") (cString "\x7b") := by decide
  unfold wpasEntriesBefore wpasBefore wpasHeaderEntries wpasHeader
  rw [hctrl, hscan, hpmf, hnetwork]
  exact (((((spells_setting _ _).append (spells_setting _ _)).append (spells_setting _ _)).append
    (spells_flatMap spells_wpasGlobal ts)).append (spells_setting _ _)).append
    (spells_flatMap spells_wpasNetwork before)

end AfcDut.Conf
