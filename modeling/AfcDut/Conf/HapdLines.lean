import AfcDut.Conf.HapdRun

/-!
# The lines of a TLV

On what the lines of a TLV depend besides its value: those of a BSS identifier,
a HESSID and an OWE transition on the interface table, those of a HESSID on the
memory behind the value, those of an OWE transition on `has_owe`, and those of
two profiles on whether the icons are attached.
-/

namespace AfcDut.Conf

open Indigo ControlApp

variable (env : HapdEnv) (hasOwe hasIcons : Bool) (table : Table) {t : PlacedTlv}

/-- `maps[]` on the two TLVs that are not always written as they are. -/
def hessidName : List UInt8 := cString "hessid"
def oweConfig : TlvToConfigName :=
  ⟨tlvOweTransitionBssIdentifier, cString "owe_transition_ifname", false⟩

def rnrLine : List UInt8 :=
  if isBandEnabled table band6ghz && !env.wlanp.mbssidEnable then textLine "rnr=1" else []

theorem written_bss (hid : t.id = tlvBssIdentifier) :
    written env hasOwe hasIcons table t = rnrLine env table := by
  rw [written, hid, if_neg fun h => absurd h.1 (by decide), if_neg (by decide), if_pos rfl]
  rfl

theorem written_hessid (hid : t.id = tlvHessid) :
    written env hasOwe hasIcons table t =
      if t.contains "self" then selfHessid env table
      else configLine hessidName (cText t.value) := by
  have hsemi : findGenericTlvConfig tlvHessid semicolonList = none := by decide +kernel
  have hprofile : findTlvHs2Profile tlvHessid = none :=
    Option.isNone_iff_eq_none.mp (by decide +kernel)
  have hcfg : findTlvConfig tlvHessid = some ⟨tlvHessid, hessidName, false⟩ := by decide +kernel
  rw [written, hid, if_neg fun h => absurd h.1 (by decide), if_neg (by decide),
    if_neg (by decide), hsemi, hprofile, hcfg]
  simp only [true_and, show tlvHessid ≠ tlvWpsEnable by decide,
    show tlvHessid ≠ tlvOweTransitionBssIdentifier by decide, if_false]

theorem written_owe (hid : t.id = tlvOweTransitionBssIdentifier) :
    written env hasOwe hasIcons table t =
      oweLines oweConfig hasOwe (oweWlan table (atoi t.value)) := by
  obtain ⟨hchannel, h6g, hbss, hhessid, hwps, hsemi, hprofile, -⟩ :=
    of_mem_settingIds (show tlvOweTransitionBssIdentifier ∈ settingIds by decide)
  have hcfg : findTlvConfig tlvOweTransitionBssIdentifier = some oweConfig := by decide +kernel
  rw [written, hid, if_neg fun h => hchannel h.1, if_neg h6g, if_neg hbss, hsemi, hcfg,
    Option.isNone_iff_eq_none.mp hprofile]
  simp only [hhessid, hwps, false_and, if_false, if_true]

/-- The lines of any other TLV depend on the value alone. -/
theorem written_of_ne {hasOwe' : Bool} {table' : Table} {t' : PlacedTlv} (hhdr : t.hdr = t'.hdr)
    (hbss : t.id ≠ tlvBssIdentifier) (hhessid : t.id ≠ tlvHessid)
    (howe : t.id ≠ tlvOweTransitionBssIdentifier) :
    written env hasOwe hasIcons table t = written env hasOwe' hasIcons table' t' := by
  have hid : t'.id = t.id := by rw [PlacedTlv.id, PlacedTlv.id, hhdr]
  have hvalue : t'.value = t.value := by rw [PlacedTlv.value, PlacedTlv.value, hhdr]
  unfold written
  rw [hid, hvalue]
  simp only [hbss, hhessid, howe, false_and, if_false]

/-- The icons come before the first profile that needs them. -/
theorem written_icons (hneeds : needsIcons t.id = true) :
    written env hasOwe hasIcons table t =
      (if hasIcons then [] else hs20Icons) ++ written env hasOwe true table t := by
  have hid : t.id = tlvOsuProvidersList ∨ t.id = tlvOperatorIconMetadata := by
    simpa [needsIcons] using hneeds
  have hother : ∀ id ∈ [tlvChannel, tlvHe6gOnly, tlvBssIdentifier, tlvHessid], t.id ≠ id := by
    rcases hid with hid | hid <;> rw [hid] <;> decide
  have hsemi : findGenericTlvConfig t.id semicolonList = none := by
    rcases hid with hid | hid <;> rw [hid] <;> rfl
  have hprofile : ∃ profile, findTlvHs2Profile t.id = some profile := by
    rcases hid with hid | hid <;> rw [hid] <;> exact ⟨_, rfl⟩
  simp only [List.forall_mem_cons] at hother
  obtain ⟨hchannel, h6g, hbss, hhessid, -⟩ := hother
  obtain ⟨profile, hprofile⟩ := hprofile
  unfold written
  simp only [hchannel, h6g, hbss, hhessid, false_and, if_false, hsemi, hprofile, hneeds]
  cases hasIcons <;> simp

theorem written_of_not_needsIcons {hasIcons' : Bool} (hneeds : needsIcons t.id = false) :
    written env hasOwe hasIcons table t = written env hasOwe hasIcons' table t := by
  unfold written
  simp only [hneeds, Bool.false_and]

/-! ## The lines of a part of the request -/

theorem loopText_append (ts us : List PlacedTlv) :
    loopText env hasOwe hasIcons table (ts ++ us) = loopText env hasOwe hasIcons table ts ++
      loopText env (hasOwe || ts.any (sets tlvWpaKeyMgmt "OWE"))
        (hasIcons || ts.any fun t => needsIcons t.id) (finalTable table ts) us := by
  induction ts generalizing hasOwe hasIcons table with
  | nil => simp [loopText, finalTable]
  | cons t ts ih =>
      rw [List.cons_append, loopText, ih, loopText, List.append_assoc, List.any_cons,
        List.any_cons, Bool.or_assoc, Bool.or_assoc]
      rfl

/-- The table depends on the values alone. -/
theorem finalTable_congr {ts us : List PlacedTlv}
    (h : ts.map PlacedTlv.hdr = us.map PlacedTlv.hdr) :
    finalTable table ts = finalTable table us := by
  induction ts generalizing us table with
  | nil => rw [List.map_eq_nil_iff.mp h.symm]
  | cons t ts ih =>
      cases us with
      | nil => cases h
      | cons u us =>
          obtain ⟨hhdr, hrest⟩ := List.cons_eq_cons.mp h
          have hnext : nextTable table t = nextTable table u := by
            rw [nextTable, nextTable, PlacedTlv.id, PlacedTlv.value, hhdr]
            rfl
          rw [finalTable, List.foldl_cons, hnext]
          exact ih (nextTable table u) hrest

end AfcDut.Conf
