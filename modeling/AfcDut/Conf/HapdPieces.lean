import AfcDut.Conf.HapdLines
import AfcDut.Data.Lines

/-!
# Whole lines

Every piece that `generate_hostapd_config` adds to the text is made of whole
lines, so that the lines of the text are those of its pieces.
-/

namespace AfcDut.Conf

open Indigo ControlApp Data.Lines

/-- Whole lines. -/
abbrev Whole (text : List UInt8) : Prop := Terminated newline text

theorem whole_textLine (line : String) : Whole (textLine line) := terminated_line _

theorem whole_configLine (name value : List UInt8) : Whole (configLine name value) :=
  terminated_line _

theorem whole_intLine (name : String) (n : Int) : Whole (intLine name n) := whole_configLine _ _

theorem whole_profileLines (lines : List String) : Whole (profileLines lines) :=
  terminated_flatMap fun _ _ => terminated_line _

theorem whole_textLines (lines : List String) : Whole (lines.flatMap textLine) :=
  terminated_flatMap fun line _ => whole_textLine line

/-- Every profile is whole lines, or empty. -/
theorem whole_profile {profile : TlvToProfile} (h : profile ∈ hs2Profile) :
    ∀ text ∈ profile.profile, Whole text := by
  have hadvice : Whole (cString "anqp_elem=278:" ++ adviceOfCharge1 ++ [newline]) :=
    terminated_line _
  simp only [hs2Profile, List.mem_cons, List.not_mem_nil, or_false] at h
  rcases h with rfl | rfl | rfl | rfl | rfl | rfl | rfl | rfl | rfl | rfl | rfl | rfl | rfl | rfl <;>
    simp only [venueName, naiRealm, operFriendlyName, networkAuthType, ipaddrTypeAvail,
      hs20WanMetrics, hs20ConnCapab, osuProvidersList, osuProvidersNaiList, venueUrl, bssLoad,
      operatorIconMetadata, operatingClassIndication, adviceOfCharge, List.forall_mem_cons,
      terminated_nil, whole_profileLines, hadvice, List.not_mem_nil, true_and, false_implies,
      implies_true]

/-- So is what an index chooses. -/
theorem whole_profileAt {id : UInt16} {profile : TlvToProfile}
    (h : findTlvHs2Profile id = some profile) (i : Nat) : Whole (profile.profile.getD i []) := by
  rw [List.getD_eq_getElem?_getD]
  cases htext : profile.profile[i]? with
  | none => exact terminated_nil
  | some text =>
      exact whole_profile (List.mem_of_find?_eq_some h) text (List.mem_of_getElem? htext)

theorem whole_hs20Icons : Whole hs20Icons := by
  rw [hs20Icons, ← List.flatMap_id]
  apply terminated_flatMap
  simp only [hs20Icon, List.forall_mem_cons, id, whole_profileLines, List.not_mem_nil, true_and,
    false_implies, implies_true]

theorem whole_wpsLines (settings : List WpsSetting) (value : List UInt8) :
    Whole (wpsLines settings value) := by
  refine terminated_ite (terminated_flatMap fun s _ => whole_configLine _ _)
    (terminated_ite (terminated_flatMap fun s _ => ?_) terminated_nil)
  exact terminated_ite (whole_configLine _ _) (terminated_ite (whole_configLine _ _) terminated_nil)

theorem whole_oweLines (cfg : TlvToConfigName) (hasOwe : Bool) (wlan : Table × Option Nat) :
    Whole (oweLines cfg hasOwe wlan) := by
  unfold oweLines
  cases wlan.2 with
  | none => exact terminated_nil
  | some i =>
      exact (whole_configLine _ _).append (terminated_ite (whole_textLine _) terminated_nil)

/-- The lines of a TLV. -/
theorem whole_written (env : HapdEnv) (hasOwe hasIcons : Bool) (table : Table) (t : PlacedTlv) :
    Whole (written env hasOwe hasIcons table t) := by
  unfold written
  refine terminated_ite terminated_nil (terminated_ite terminated_nil (terminated_ite
    (terminated_ite (whole_textLine _) terminated_nil) ?_))
  cases findGenericTlvConfig t.id semicolonList with
  | some cfg => exact terminated_flatMap fun item _ => whole_configLine _ _
  | none =>
      refine terminated_ite (whole_configLine _ _) ?_
      cases hp : findTlvHs2Profile t.id with
      | some profile =>
          exact (terminated_ite whole_hs20Icons terminated_nil).append (whole_profileAt hp _)
      | none =>
          refine terminated_ite ?_ ?_
          · cases env.wpsSettings with
            | none => exact terminated_nil
            | some settings => exact whole_wpsLines settings t.value
          · cases findTlvConfig t.id with
            | none => exact terminated_nil
            | some cfg => exact terminated_ite (whole_oweLines _ _ _) (whole_configLine _ _)

theorem whole_loopText (env : HapdEnv) (hasOwe hasIcons : Bool) (table : Table)
    (ts : List PlacedTlv) : Whole (loopText env hasOwe hasIcons table ts) := by
  induction ts generalizing hasOwe hasIcons table with
  | nil => exact terminated_nil
  | cons t ts ih => exact (whole_written _ _ _ _ _).append (ih _ _ _)

theorem whole_hapdHeader (env : HapdEnv) : Whole (hapdHeader env) :=
  terminated_ite ((whole_configLine _ _).append (whole_textLine _))
    (((whole_textLine _).append (whole_textLine _)).append (whole_configLine _ _))

/-- The lines before those of the width. -/
theorem whole_narrowLines (env : HapdEnv) (f : HapdLocals) :
    Whole (wpsRfBands f ++ pmfLine f ++ saeRequireMfp f ++ multipleBssid env ++ saeGroups f) := by
  have hline : ∀ (p : Prop) [Decidable p] (line : String),
      Whole (if p then textLine line else []) :=
    fun p _ line => terminated_ite (whole_textLine line) terminated_nil
  have hbands : Whole (wpsRfBands f) :=
    terminated_ite (terminated_ite (whole_textLine _)
      (terminated_ite (whole_textLine _) (hline _ _))) terminated_nil
  have hpmf : Whole (pmfLine f) :=
    terminated_ite terminated_nil (terminated_ite (whole_textLine _)
      (terminated_ite (whole_textLine _) (terminated_ite (whole_textLine _) (hline _ _))))
  exact (((hbands.append hpmf).append (hline _ _)).append (hline _ _)).append (hline _ _)

theorem whole_opClass (width : Int) : Whole (opClass width) :=
  terminated_ite (whole_textLine _) (terminated_ite (whole_textLine _) terminated_nil)

theorem whole_lines6g (env : HapdEnv) (f : HapdLocals) : Whole (lines6g env f) :=
  ((((((terminated_ite terminated_nil (whole_intLine _ _)).append (whole_opClass _)).append
    (whole_intLine _ _)).append (terminated_ite (whole_intLine _ _) (whole_textLine _))).append
    (whole_textLine _)).append (whole_textLine _)).append (whole_textLine _)

theorem whole_wideLines (f : HapdLocals) : Whole (wideLines f) := by
  refine ((terminated_ite (((whole_textLine _).append (whole_textLine _)).append
    (whole_textLine _)) terminated_nil).append ?_).append ?_
  · refine terminated_ite (((terminated_ite terminated_nil (whole_intLine _ _)).append
      (whole_intLine _ _)).append ?_) terminated_nil
    exact terminated_ite (whole_textLine _) terminated_nil
  · exact terminated_ite ((terminated_ite terminated_nil (whole_intLine _ _)).append
      (whole_intLine _ _)) terminated_nil

theorem whole_channelWidthLines (env : HapdEnv) (f : HapdLocals) :
    Whole (channelWidthLines env f) := by
  have hwide : ∀ line, Whole (textLine line ++ if f.width > 0 then wideLines f else []) :=
    fun line => (whole_textLine line).append (terminated_ite (whole_wideLines f) terminated_nil)
  exact terminated_ite (whole_lines6g env f) (terminated_ite
    (terminated_ite (hwide _) (terminated_ite (hwide _) terminated_nil)) terminated_nil)

theorem whole_muedcaLines (f : HapdLocals) : Whole (muedcaLines f) :=
  terminated_ite (whole_textLines _) terminated_nil

end AfcDut.Conf
