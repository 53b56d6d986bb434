import AfcDut.ControlApp.ConfFiles
import AfcDut.ControlApp.Pointers

/-!
# Where a section goes

The handlers agree on the file of a section as long as the pointers they go by
name the leader of the band. The pointers are set and cleared apart from the
table; the condition says when they can be trusted, and the lemmas follow a
request that meets it.
-/

namespace AfcDut.ControlApp

open Indigo

/-! ## The condition -/

/-- A new interface opens a band that nothing points to, or its section goes
where the leader's pointer says. -/
def placedNew (wsc : Bool) (app : App) (bss : BssIdentifierInfo) : Bool :=
  match app.table.leader bss.band with
  | none => !bss.nontransmitted && (app.bandFirstWlan bss.band).isNone
  | some a =>
      if bss.nontransmitted then app.bandTransmitter bss.band == some a
      else !wsc && app.bandFirstWlan bss.band == some a

/-- An interface in use is configured again only as a leader alone in its
band, or without touching the leader's file. -/
def placedAgain (wsc : Bool) (app : App) (bss : BssIdentifierInfo) (i : Nat) : Bool :=
  if bss.nontransmitted then
    app.table.leader bss.band != some i &&
      app.bandTransmitter bss.band != app.table.leader bss.band
  else if app.table.leader bss.band == some i then
    (app.bandFirstWlan bss.band).isNone && app.table.bandMbssidCnt bss.band == 1
  else wsc || app.bandFirstWlan bss.band != app.table.leader bss.band

/-- No OWE transition TLV takes an interface. -/
def oweIdle (t : Table) (req : PacketWrapper) : Bool :=
  req.tlvs.all fun tlv =>
    tlv.id != tlvOweTransitionBssIdentifier ||
      ((getWirelessInterfaceInfo t (parseBssIdentifier (atoi tlv.value)).band
          (parseBssIdentifier (atoi tlv.value)).identifier).isSome ||
        (t.freeIdx (parseBssIdentifier (atoi tlv.value)).band).isNone)

/-- The interface a request already has. -/
def existing (t : Table) (bss : BssIdentifierInfo) (multiple : Bool) : Option Nat :=
  if multiple then getWirelessInterfaceInfo t bss.band bss.identifier else none

def configureMeets (wsc : Bool) (app : App) (req : PacketWrapper) : Bool :=
  match requestedBss req with
  | none => true
  | some (bss, multiple) =>
      match existing app.table bss multiple with
      | some i => placedAgain wsc app bss i && oweIdle app.table req
      | none =>
          (app.table.freeIdx bss.band).isNone ||
            (placedNew wsc app bss && oweIdle (assignWirelessInterfaceInfo app.table bss).1 req)

/-- The condition on a request, in the state before it. -/
def meets (app : App) : Request → Bool
  | .apConfigure req => configureMeets false app req
  | .apConfigureWsc stopped req => !stopped || configureMeets true (app.singleWlanReset req) req
  | .apStop _ => true
  | .deviceReset _ => true

/-! ## The invariant of the application -/

/-- Each band has the file of its list, and the pointers stay in their bands. -/
structure Inv (app : App) (bands : Nat → List Nat) : Prop where
  synced : Synced app.table app.files bands
  pointing : Pointing app

/-- A section appended where another interface of the band points changes no
leader's file. -/
theorem appendElsewhere {app : App} {bands : Nat → List Nat}
    (h : Synced app.table app.files bands) {b f : Nat} (hf : Within app.table b f)
    (hne : (bands b)[0]? ≠ some f) (text : Section) :
    Synced app.table (app.appendFile (app.table.confFile f) text).files bands := by
  unfold App.appendFile
  obtain hnone | hown := h.conf f
  · rw [if_pos hnone]
    exact h
  · rw [if_neg (by rw [hown]; exact confFileName_ne_empty _ _), hown]
    refine h.frame fun b' a ha => ?_
    obtain ⟨v, hv, hband⟩ := hf.entry
    obtain ⟨w, hw, _, hwb, _⟩ := h.lists.entry ha
    have hdiff : a ≠ f := by
      intro heq
      subst heq
      rw [hv, Option.some.injEq] at hw
      subst hw
      rw [hwb] at hband
      subst hband
      exact hne ha
    exact Function.update_of_ne (h.ownFile_ne hw hv hdiff) _ _

/-! ## Requests -/

theorem requestedBss_used {req : PacketWrapper} {bss : BssIdentifierInfo} {multiple : Bool}
    (h : requestedBss req = some (bss, multiple)) : bss.identifier ≠ unusedIdentifier := by
  unfold requestedBss at h
  split at h
  · simp only [Option.some.injEq, Prod.mk.injEq] at h
    rw [← h.1]
    exact parseBssIdentifier_used _
  · split at h
    · simp only [Option.some.injEq, Prod.mk.injEq] at h
      rw [← h.1]
      show (1 : Int) ≠ -1
      decide
    · exact absurd h (by simp)

/-- Idle OWE transition TLVs leave the table alone. -/
theorem oweTransition_idle {t : Table} {tlvs : List TlvHdr}
    (h : ∀ tlv ∈ tlvs, oweTransition t tlv = t) : tlvs.foldl oweTransition t = t := by
  induction tlvs with
  | nil => rfl
  | cons tlv tlvs ih =>
      rw [List.foldl_cons, h tlv List.mem_cons_self]
      exact ih fun tlv' htlv' => h tlv' (List.mem_cons_of_mem _ htlv')

theorem foldl_oweTransition {t : Table} {req : PacketWrapper} (h : oweIdle t req = true) :
    req.tlvs.foldl oweTransition t = t := by
  apply oweTransition_idle
  intro tlv htlv
  have hidle := List.all_eq_true.mp h tlv htlv
  unfold oweTransition
  by_cases hid : tlv.id = tlvOweTransitionBssIdentifier
  · rw [if_pos hid]
    unfold getOrAssign
    cases hget : getWirelessInterfaceInfo t (parseBssIdentifier (atoi tlv.value)).band
        (parseBssIdentifier (atoi tlv.value)).identifier with
    | some i => rfl
    | none =>
        have hfree : t.freeIdx (parseBssIdentifier (atoi tlv.value)).band = none := by
          simpa [hid, hget] using hidle
        exact congrArg Prod.fst (assign_of_no_freeIdx hfree)
  · rw [if_neg hid]

theorem configureWlan_eq {place : App → BssIdentifierInfo → Section → Nat → App} {app : App}
    {req : PacketWrapper} {bss : BssIdentifierInfo} {multiple : Bool} {table : Table} {i : Nat}
    (hreq : requestedBss req = some (bss, multiple))
    (hchoose : chooseWlan app.table bss multiple = (table, some i))
    (howe : oweIdle table req = true) :
    (configureWlan place app req).1 =
      place (app.chosen table bss i) bss ((app.chosen table bss i).header i) i := by
  unfold configureWlan
  rw [hreq]
  simp only [hchoose, generateHostapdConfig, setTransmitter_table, foldl_oweTransition howe]
  have hsame : { App.setTransmitter { app with table } bss (some i) with table } =
      App.setTransmitter { app with table } bss (some i) := by
    unfold App.setTransmitter
    split <;> rfl
  rw [hsame]
  rfl

section Place

variable {app : App} {bands : Nat → List Nat} {bss : BssIdentifierInfo} {i : Nat}

/-- The section of a nontransmitted BSS goes to the transmitter. -/
theorem synced_placeOf_transmitter {text : Section} (hnon : bss.nontransmitted = true)
    (h : Synced (app.appendToTransmitter bss.band text i).table
      (app.appendToTransmitter bss.band text i).files bands) (wsc : Bool) :
    Synced (placeOf wsc app bss text i).table (placeOf wsc app bss text i).files bands := by
  cases wsc with
  | true =>
      show Synced (App.placeWsc _ _ _ _).table (App.placeWsc _ _ _ _).files _
      unfold App.placeWsc
      rw [if_pos hnon]
      exact h
  | false =>
      show Synced (App.placeAp _ _ _ _).table (App.placeAp _ _ _ _).files _
      unfold App.placeAp App.chooseFile
      rw [setFirstWlan_table, setFirstWlan_files, if_pos hnon]
      exact h

/-- Any other section goes to its own file, after a WSC request always. -/
theorem synced_placeOf_own {text : Section} {wsc : Bool} (hplain : bss.nontransmitted = false)
    (hfirst : wsc = true ∨ app.bandFirstWlan bss.band = none)
    (h : Synced (app.writeFile (app.table.confFile i) text).table
      (app.writeFile (app.table.confFile i) text).files bands) :
    Synced (placeOf wsc app bss text i).table (placeOf wsc app bss text i).files bands := by
  cases wsc with
  | true =>
      show Synced (App.placeWsc _ _ _ _).table (App.placeWsc _ _ _ _).files _
      unfold App.placeWsc
      rw [hplain]
      exact h
  | false =>
      obtain hwsc | hnone := hfirst
      · exact absurd hwsc Bool.false_ne_true
      · show Synced (App.placeAp _ _ _ _).table (App.placeAp _ _ _ _).files _
        unfold App.placeAp App.chooseFile
        rw [setFirstWlan_table, setFirstWlan_files, hplain, hnone]
        exact h

/-- Or to the file of the interface configured first in the band. -/
theorem synced_placeOf_first {text : Section} {f : Nat} (hplain : bss.nontransmitted = false)
    (hfirst : app.bandFirstWlan bss.band = some f)
    (h : Synced ((app.appendFile (app.table.confFile f) text).eraseConfFile i).table
      ((app.appendFile (app.table.confFile f) text).eraseConfFile i).files bands) :
    Synced (placeOf false app bss text i).table (placeOf false app bss text i).files bands := by
  show Synced (App.placeAp _ _ _ _).table (App.placeAp _ _ _ _).files _
  unfold App.placeAp App.chooseFile
  rw [setFirstWlan_table, setFirstWlan_files, hplain, hfirst]
  exact h

end Place

/-! ## Headers -/

theorem header_of_getElem? {app : App} {i : Nat} {w : InterfaceInfo}
    (h : app.table.interfaces[i]? = some w) :
    app.header i =
      ⟨if (w.mbssidEnable && !w.transmitter) || (app.bandFirstWlan w.band).isSome then .bss
        else .interface, w.ifname⟩ := by
  unfold App.header
  rw [h]
  dsimp only
  split <;> rfl

section New

variable {app : App} {bands : Nat → List Nat} {bss : BssIdentifierInfo} {i : Nat}

theorem within_assign (hfree : app.table.freeIdx bss.band = some i) :
    Within (assignWirelessInterfaceInfo app.table bss).1 bss.band i := by
  obtain ⟨w, hw, hband, _⟩ := freeIdx_eq_some hfree
  have hwithin := within_of_getElem? hw
  rw [hband] at hwithin
  exact hwithin.of_shape (shape_assign app.table bss)

/-- The header of an interface that has just been assigned. -/
theorem header_assign (hfree : app.table.freeIdx bss.band = some i) :
    (app.chosen (assignWirelessInterfaceInfo app.table bss).1 bss i).header i =
      ⟨if bss.nontransmitted || (app.bandFirstWlan bss.band).isSome then .bss else .interface,
        app.table.ifname i⟩ := by
  obtain ⟨w, hw, hband, _⟩ := freeIdx_eq_some hfree
  have hnew : (app.chosen (assignWirelessInterfaceInfo app.table bss).1 bss i).table.interfaces[i]? =
      some (w.assign app.table.build bss (app.table.bandMbssidCnt bss.band)) := by
    unfold App.chosen
    rw [setTransmitter_table, assign_of_freeIdx hfree]
    show (app.table.interfaces.modify i _)[i]? = _
    rw [List.getElem?_modify_eq, hw]
    rfl
  rw [header_of_getElem? hnew, Table.ifname_of_getElem? hw]
  unfold App.chosen
  rw [setTransmitter_first]
  show (⟨if bss.nontransmitted || (app.bandFirstWlan w.band).isSome then .bss else .interface,
    w.ifname⟩ : Section) = _
  rw [hband]

/-- The section of an opening interface is written to its own file. -/
theorem synced_open (h : Synced app.table app.files bands)
    (hused : bss.identifier ≠ unusedIdentifier) (hfree : app.table.freeIdx bss.band = some i)
    (hempty : bands bss.band = []) (hplain : bss.nontransmitted = false) {app' : App}
    (happ : app' = (app.chosen (assignWirelessInterfaceInfo app.table bss).1 bss i).writeFile
      ((assignWirelessInterfaceInfo app.table bss).1.confFile i)
        ⟨.interface, app.table.ifname i⟩) :
    Synced app'.table app'.files
      (Function.update bands bss.band (bands bss.band ++ [i])) := by
  have hopen := h.openBand hused hfree hempty hplain
  have hown : (assignWirelessInterfaceInfo app.table bss).1.confFile i = app.table.ownFile i := by
    rw [Table.confFile_assign hfree, if_pos rfl]
    rfl
  have hne : app.table.ownFile i ≠ "" := confFileName_ne_empty _ _
  subst happ
  unfold App.chosen App.writeFile
  rw [hown, if_neg hne]
  simp only [setTransmitter_table, setTransmitter_files]
  exact hopen

/-- The section of a joining interface is appended to the leader's file. -/
theorem synced_join (h : Synced app.table app.files bands)
    (hused : bss.identifier ≠ unusedIdentifier) (hfree : app.table.freeIdx bss.band = some i)
    {a : Nat} (hlead : (bands bss.band)[0]? = some a) {app' : App}
    (happ : app' = ((app.chosen (assignWirelessInterfaceInfo app.table bss).1 bss i).appendFile
      ((assignWirelessInterfaceInfo app.table bss).1.confFile a)
        ⟨.bss, app.table.ifname i⟩).eraseConfFile i) :
    Synced app'.table app'.files
      (Function.update bands bss.band (bands bss.band ++ [i])) := by
  have hjoin := h.joinBand hused hfree hlead
  have hown : (assignWirelessInterfaceInfo app.table bss).1.confFile a = app.table.ownFile a := by
    rw [Table.confFile_assign hfree, if_neg (h.assign_getElem? hfree hlead).1]
    exact h.led_head hlead
  have hne : app.table.ownFile a ≠ "" := confFileName_ne_empty _ _
  subst happ
  unfold App.chosen App.appendFile App.eraseConfFile
  rw [hown, if_neg hne]
  simp only [setTransmitter_table, setTransmitter_files]
  exact hjoin

/-- **A new interface.** A request that meets the condition opens its band or
joins it. -/
theorem placed_new (wsc : Bool) (h : Inv app bands) (hused : bss.identifier ≠ unusedIdentifier)
    (hfree : app.table.freeIdx bss.band = some i) (hmeets : placedNew wsc app bss = true) :
    ∃ bands', Inv (placeOf wsc (app.chosen (assignWirelessInterfaceInfo app.table bss).1 bss i) bss
      ((app.chosen (assignWirelessInterfaceInfo app.table bss).1 bss i).header i) i) bands' := by
  have hpointing := (h.pointing.chosen (shape_assign app.table bss)
    (within_assign hfree)).placeOf (by
      unfold App.chosen
      rw [setTransmitter_table]
      exact within_assign hfree) wsc
      ((app.chosen (assignWirelessInterfaceInfo app.table bss).1 bss i).header i)
  refine ⟨Function.update bands bss.band (bands bss.band ++ [i]), ?_, hpointing⟩
  unfold placedNew at hmeets
  rw [h.synced.lists.leader_eq] at hmeets
  rw [header_assign hfree]
  have htable : (app.chosen (assignWirelessInterfaceInfo app.table bss).1 bss i).table =
      (assignWirelessInterfaceInfo app.table bss).1 := setTransmitter_table _ _ _
  have hfirst : (app.chosen (assignWirelessInterfaceInfo app.table bss).1 bss i).bandFirstWlan =
      app.bandFirstWlan := setTransmitter_first _ _ _
  cases hlead : (bands bss.band)[0]? with
  | none =>
      rw [hlead] at hmeets
      simp only [Bool.and_eq_true, Bool.not_eq_true', Option.isNone_iff_eq_none] at hmeets
      obtain ⟨hplain, hnone⟩ := hmeets
      have hempty : bands bss.band = [] :=
        List.head?_eq_none_iff.mp (List.head?_eq_getElem?.trans hlead)
      rw [hplain, hnone]
      apply synced_placeOf_own hplain (.inr (hfirst ▸ hnone))
      rw [htable]
      exact synced_open h.synced hused hfree hempty hplain rfl
  | some a =>
      rw [hlead] at hmeets
      have hjoin := synced_join h.synced hused hfree hlead rfl
      cases hnon : bss.nontransmitted with
      | true =>
          simp only [hnon, if_true, beq_iff_eq] at hmeets
          apply synced_placeOf_transmitter hnon
          have htransmitter : (app.chosen (assignWirelessInterfaceInfo app.table bss).1 bss
              i).bandTransmitter bss.band = some a := by
            unfold App.chosen
            rw [setTransmitter_of_nontransmitted _ _ hnon]
            exact hmeets
          unfold App.appendToTransmitter
          rw [htransmitter, htable]
          exact hjoin
      | false =>
          simp only [hnon, Bool.false_eq_true, if_false, Bool.and_eq_true, Bool.not_eq_true',
            beq_iff_eq] at hmeets
          obtain ⟨rfl, hsome⟩ := hmeets
          apply synced_placeOf_first hnon (hfirst ▸ hsome)
          rw [htable, hsome]
          exact hjoin

end New

/-! ## An interface in use -/

section Again

variable {app : App} {bands : Nat → List Nat} {bss : BssIdentifierInfo} {i : Nat}

/-- An interface in use that does not lead its band has no file. -/
theorem confFile_of_not_leader (h : Synced app.table app.files bands) {w : InterfaceInfo}
    (hw : app.table.interfaces[i]? = some w) (huse : w.inUse = true)
    (hne : (bands w.band)[0]? ≠ some i) : app.table.confFile i = "" := by
  have hplace := h.lists.place hw huse
  obtain ⟨a, rest, hband⟩ := Synced.exists_cons hplace
  rw [hband] at hplace hne
  obtain hia | hrest := List.mem_cons.mp (List.mem_of_getElem? hplace)
  · rw [hia] at hne
    exact absurd rfl hne
  · exact h.erased w.band a rest hband i hrest

/-- An interface that does not lead its own band leads none. -/
theorem leads_none (h : Synced app.table app.files bands) {w : InterfaceInfo}
    (hw : app.table.interfaces[i]? = some w) (hne : (bands w.band)[0]? ≠ some i) (b : Nat) :
    (bands b)[0]? ≠ some i := by
  intro hlead
  obtain ⟨v, hv, _, hband, _⟩ := h.lists.entry hlead
  rw [hw, Option.some.injEq] at hv
  subst hv
  subst hband
  exact hne hlead

/-- A section that goes to a transmitter other than the leader reaches no
leader's file. -/
theorem synced_appendToTransmitter (h : Inv app bands) (hi : ∀ b, (bands b)[0]? ≠ some i)
    {b : Nat} (hne : app.bandTransmitter b ≠ (bands b)[0]?) (text : Section) :
    Synced (app.appendToTransmitter b text i).table (app.appendToTransmitter b text i).files
      bands := by
  unfold App.appendToTransmitter
  cases htx : app.bandTransmitter b with
  | none => exact h.synced.eraseConfFile hi
  | some t =>
      rw [htx] at hne
      have happend := appendElsewhere h.synced (h.pointing.transmitter b t htx) (Ne.symm hne) text
      show Synced ((app.appendFile (app.table.confFile t) text).table.eraseConfFile i)
        (app.appendFile (app.table.confFile t) text).files bands
      rw [appendFile_table]
      exact happend.eraseConfFile hi

/-- The lone leader of its band writes its file again. -/
theorem synced_rewrite (h : Synced app.table app.files bands) (hlone : bands bss.band = [i])
    (hfirst : app.bandFirstWlan bss.band = none) :
    Synced (app.writeFile (app.table.confFile i) (app.header i)).table
      (app.writeFile (app.table.confFile i) (app.header i)).files bands := by
  have hlead := Synced.head_eq hlone
  obtain ⟨w, hw, _, hband, _⟩ := h.lists.entry hlead
  have hheader : app.header i = ⟨.interface, app.table.ifname i⟩ := by
    rw [header_of_getElem? hw, h.plain bss.band i hlead w hw, hband, hfirst,
      Table.ifname_of_getElem? hw]
    rfl
  have hne : app.table.ownFile i ≠ "" := confFileName_ne_empty _ _
  unfold App.writeFile
  rw [h.led bss.band i [] hlone, if_neg hne, hheader]
  exact h.rewriteLeader hlone

/-- The section of an interface that leads no band is lost, or goes to a file
that is no leader's. -/
theorem synced_misplaced (h : Inv app bands) {w : InterfaceInfo}
    (hw : app.table.interfaces[i]? = some w) (huse : w.inUse = true) (hband : w.band = bss.band)
    (hplain : bss.nontransmitted = false) (hlead : (bands bss.band)[0]? ≠ some i) {wsc : Bool}
    (hfirst : wsc = true ∨ app.bandFirstWlan bss.band ≠ (bands bss.band)[0]?) (text : Section) :
    Synced (placeOf wsc app bss text i).table (placeOf wsc app bss text i).files bands := by
  have hne : (bands w.band)[0]? ≠ some i := by
    rw [hband]
    exact hlead
  have hlost : Synced (app.writeFile (app.table.confFile i) text).table
      (app.writeFile (app.table.confFile i) text).files bands := by
    rw [confFile_of_not_leader h.synced hw huse hne]
    exact h.synced
  cases wsc with
  | true => exact synced_placeOf_own hplain (.inl rfl) hlost
  | false =>
      obtain hwsc | hfirst := hfirst
      · exact absurd hwsc Bool.false_ne_true
      · cases hptr : app.bandFirstWlan bss.band with
        | none => exact synced_placeOf_own hplain (.inr hptr) hlost
        | some f =>
            rw [hptr] at hfirst
            apply synced_placeOf_first hplain hptr
            have happend := appendElsewhere h.synced (h.pointing.first bss.band f hptr)
              (Ne.symm hfirst) text
            show Synced ((app.appendFile (app.table.confFile f) text).table.eraseConfFile i)
              (app.appendFile (app.table.confFile f) text).files bands
            rw [appendFile_table]
            exact happend.eraseConfFile (leads_none h.synced hw hne)

/-- **An interface in use.** A request that meets the condition changes the
file of no band, or writes the section of a lone leader again. -/
theorem placed_again (wsc : Bool) (h : Inv app bands)
    (hget : getWirelessInterfaceInfo app.table bss.band bss.identifier = some i)
    (hmeets : placedAgain wsc app bss i = true) :
    Inv (placeOf wsc (app.chosen app.table bss i) bss ((app.chosen app.table bss i).header i) i)
      bands := by
  obtain ⟨w, hw, hband, huse, _⟩ := getWirelessInterfaceInfo_eq_some hget
  have hwithin : Within app.table bss.band i := by
    rw [← hband]
    exact within_of_getElem? hw
  have hchosen : Pointing (app.chosen app.table bss i) := h.pointing.chosen rfl hwithin
  have htable : (app.chosen app.table bss i).table = app.table := setTransmitter_table _ _ _
  have hfiles : (app.chosen app.table bss i).files = app.files := setTransmitter_files _ _ _
  have hfirst : (app.chosen app.table bss i).bandFirstWlan = app.bandFirstWlan :=
    setTransmitter_first _ _ _
  have hsynced : Synced (app.chosen app.table bss i).table (app.chosen app.table bss i).files
      bands := by
    rw [htable, hfiles]
    exact h.synced
  refine ⟨?_, hchosen.placeOf (by rw [htable]; exact hwithin) wsc _⟩
  unfold placedAgain at hmeets
  rw [h.synced.lists.leader_eq] at hmeets
  cases hnon : bss.nontransmitted with
  | true =>
      simp only [hnon, if_true, Bool.and_eq_true, bne_iff_ne] at hmeets
      obtain ⟨hlead, htransmitter⟩ := hmeets
      apply synced_placeOf_transmitter hnon
      have hsame : app.chosen app.table bss i = app := setTransmitter_of_nontransmitted _ _ hnon _
      rw [hsame]
      rw [← hband] at hlead
      exact synced_appendToTransmitter h (leads_none h.synced hw hlead) htransmitter _
  | false =>
      simp only [hnon, Bool.false_eq_true, if_false] at hmeets
      by_cases hlead : (bands bss.band)[0]? = some i
      · simp only [hlead, beq_self_eq_true, if_true, Bool.and_eq_true,
          Option.isNone_iff_eq_none, beq_iff_eq, h.synced.lists.count] at hmeets
        obtain ⟨hnone, hcount⟩ := hmeets
        have hlone : bands bss.band = [i] := by
          obtain ⟨a, ha⟩ := List.length_eq_one_iff.mp hcount
          rw [ha] at hlead
          have hai : a = i := by simpa using hlead
          rw [ha, hai]
        rw [← hfirst] at hnone
        exact synced_placeOf_own hnon (.inr hnone) (synced_rewrite hsynced hlone hnone)
      · have hother : wsc = true ∨ app.bandFirstWlan bss.band ≠ (bands bss.band)[0]? := by
          simpa [hlead] using hmeets
        rw [← hfirst] at hother
        rw [← htable] at hw
        exact synced_misplaced ⟨hsynced, hchosen⟩ hw huse hband hnon hlead hother _

end Again

/-! ## The requests -/

section Requests

variable {app : App} {bands : Nat → List Nat}

theorem chooseWlan_of_existing {t : Table} {bss : BssIdentifierInfo} {multiple : Bool} {i : Nat}
    (h : existing t bss multiple = some i) :
    getWirelessInterfaceInfo t bss.band bss.identifier = some i ∧
      chooseWlan t bss multiple = (t, some i) := by
  unfold existing at h
  cases multiple with
  | false => exact absurd h (by simp)
  | true =>
      have hget : getWirelessInterfaceInfo t bss.band bss.identifier = some i := h
      refine ⟨hget, ?_⟩
      show getOrAssign t bss = _
      unfold getOrAssign
      rw [hget]

theorem chooseWlan_of_not_existing {t : Table} {bss : BssIdentifierInfo} {multiple : Bool}
    (h : existing t bss multiple = none) :
    chooseWlan t bss multiple = assignWirelessInterfaceInfo t bss := by
  unfold existing at h
  cases multiple with
  | false => rfl
  | true =>
      have hget : getWirelessInterfaceInfo t bss.band bss.identifier = none := h
      show getOrAssign t bss = _
      unfold getOrAssign
      rw [hget]

/-- A request that gets no interface changes nothing. -/
theorem configureWlan_of_none {place : App → BssIdentifierInfo → Section → Nat → App}
    {req : PacketWrapper} {bss : BssIdentifierInfo} {multiple : Bool}
    (hreq : requestedBss req = some (bss, multiple))
    (hchoose : chooseWlan app.table bss multiple = (app.table, none)) :
    (configureWlan place app req).1 = app := by
  unfold configureWlan
  rw [hreq]
  simp only [hchoose]
  rfl

/-- **Configuration.** A request that meets the condition keeps the
invariant. -/
theorem inv_configureWlan (wsc : Bool) (h : Inv app bands) {req : PacketWrapper}
    (hmeets : configureMeets wsc app req = true) :
    ∃ bands', Inv (configureWlan (placeOf wsc) app req).1 bands' := by
  unfold configureMeets at hmeets
  cases hreq : requestedBss req with
  | none =>
      unfold configureWlan
      rw [hreq]
      exact ⟨bands, h⟩
  | some requested =>
      obtain ⟨bss, multiple⟩ := requested
      simp only [hreq] at hmeets
      cases hexisting : existing app.table bss multiple with
      | some i =>
          simp only [hexisting, Bool.and_eq_true] at hmeets
          obtain ⟨hget, hchoose⟩ := chooseWlan_of_existing hexisting
          rw [configureWlan_eq hreq hchoose hmeets.2]
          exact ⟨bands, placed_again wsc h hget hmeets.1⟩
      | none =>
          simp only [hexisting] at hmeets
          have hassign := chooseWlan_of_not_existing hexisting
          cases hfree : app.table.freeIdx bss.band with
          | none =>
              rw [assign_of_no_freeIdx hfree] at hassign
              rw [configureWlan_of_none hreq hassign]
              exact ⟨bands, h⟩
          | some i =>
              simp only [hfree, Option.isNone_some, Bool.false_or, Bool.and_eq_true] at hmeets
              have hchoose : chooseWlan app.table bss multiple =
                  ((assignWirelessInterfaceInfo app.table bss).1, some i) := by
                rw [hassign, assign_of_freeIdx hfree]
              rw [configureWlan_eq hreq hchoose hmeets.2]
              exact placed_new wsc h (requestedBss_used hreq) hfree hmeets.1

theorem Inv.clear (h : Inv app bands) : Inv app.clear fun _ => [] :=
  ⟨h.synced.clear, h.pointing.of_shape (shape_clear app.table) rfl rfl⟩

theorem Inv.forgetBands (h : Inv app bands) : Inv app.forgetBands bands := by
  refine ⟨h.synced, ?_, ?_⟩
  · intro b f hf
    exact absurd hf (by simp [App.forgetBands])
  · intro b f hf
    exact absurd hf (by simp [App.forgetBands])

/-- **Step.** -/
theorem inv_step (h : Inv app bands) {request : Request} (hmeets : meets app request = true) :
    ∃ bands', Inv (app.step request) bands' := by
  cases request with
  | apConfigure req =>
      show ∃ bands', Inv (configureWlan (placeOf false) app req).1 bands'
      exact inv_configureWlan false h hmeets
  | apConfigureWsc stopped req =>
      cases stopped with
      | false => exact ⟨bands, h⟩
      | true =>
          show ∃ bands', Inv (configureWlan (placeOf true) (app.singleWlanReset req) req).1 bands'
          have hreset : ∃ bands', Inv (app.singleWlanReset req) bands' := by
            unfold App.singleWlanReset
            split
            · exact ⟨bands, h⟩
            · exact ⟨_, h.clear⟩
          obtain ⟨bands', h'⟩ := hreset
          exact inv_configureWlan true h' (by simpa [meets] using hmeets)
  | apStop stopped => exact ⟨_, h.clear.forgetBands⟩
  | deviceReset req =>
      show ∃ bands', Inv (resetDeviceHandler app req).1 bands'
      unfold resetDeviceHandler
      split
      · cases resetsAput req with
        | true => exact ⟨_, h.clear.forgetBands⟩
        | false => exact ⟨_, h.forgetBands⟩
      · exact ⟨bands, h⟩

/-- **Start-up.** No band has a file yet. -/
theorem inv_startUp (build : Build) {names : List (Nat × String)}
    (h : (names.map Prod.snd).Nodup) (files : String → List Section) :
    Inv (App.startUp build names files) fun _ => [] := by
  have hnames : (App.startUp build names files).table.names = names :=
    startUp_names names (.empty build)
  have hconf := @startUp_all (fun w => w.hapdConfFile = "") (fun _ _ => rfl) names (.empty build)
    (by simp [Table.empty])
  refine ⟨⟨startUp_lists build names, ?_, ?_, ?_, ?_, ?_, ?_⟩, ?_, ?_⟩
  · show ((App.startUp build names files).table.names.map Prod.snd).Nodup
    rw [hnames]
    exact h
  · intro i
    cases hw : (App.startUp build names files).table.interfaces[i]? with
    | none =>
        left
        unfold Table.confFile
        rw [hw]
        rfl
    | some w =>
        left
        rw [Table.confFile_of_getElem? hw]
        exact hconf w (List.mem_of_getElem? hw)
  all_goals
    intro b a
    simp [App.startUp]

end Requests

end AfcDut.ControlApp
