import AfcDut.ControlApp.TableChanges
import AfcDut.Data.ListModify

/-!
# The books of the interface table

The counters and the numbers of the interfaces against the entries they count,
and the BSS of an entry against the look-up.
-/

namespace AfcDut.ControlApp

open Indigo Data

/-! ## Counters and numbers -/

/-- The entries of a band that are in use. -/
def inBand (ws : List InterfaceInfo) (b : Nat) : List InterfaceInfo :=
  ws.filter fun w => w.inUse && w.band == b

/-- The counters count the entries in use, and those of a band are numbered
from 0. -/
structure Table.Accounted (t : Table) : Prop where
  configured : t.configuredInterfaceCount = (t.interfaces.filter InterfaceInfo.inUse).length
  band : ∀ b, t.bandMbssidCnt b = (inBand t.interfaces b).length
  numbered : ∀ b, ((inBand t.interfaces b).map InterfaceInfo.hapdBssId).Perm (List.range (inBand t.interfaces b).length)

theorem Table.Accounted.of_unused {t : Table} (hunused : ∀ w ∈ t.interfaces, w.inUse = false)
    (hconfigured : t.configuredInterfaceCount = 0) (hcount : ∀ b, t.bandMbssidCnt b = 0) :
    t.Accounted := by
  have hband : ∀ b, inBand t.interfaces b = [] := by
    intro b
    apply List.filter_eq_nil_iff.mpr
    intro w hw
    rw [hunused w hw]
    exact Bool.false_ne_true
  constructor
  · rw [hconfigured, List.filter_eq_nil_iff.mpr (by simpa using hunused)]
    rfl
  · intro b
    rw [hcount, hband]
    rfl
  · intro b
    rw [hband]
    rfl

/-- A band with one more entry, which has the next number. -/
theorem numbered_cons {ws vs : List InterfaceInfo} {w : InterfaceInfo} (hperm : vs.Perm (w :: ws))
    (hold : (ws.map InterfaceInfo.hapdBssId).Perm (List.range ws.length))
    (hnew : w.hapdBssId = ws.length) :
    (vs.map InterfaceInfo.hapdBssId).Perm (List.range vs.length) := by
  rw [hperm.length_eq, List.length_cons, List.range_succ]
  have hids : ((w :: ws).map InterfaceInfo.hapdBssId).Perm (ws.length :: List.range ws.length) := by
    rw [List.map_cons, hnew]
    exact hold.cons _
  calc
    List.Perm (vs.map InterfaceInfo.hapdBssId) ((w :: ws).map InterfaceInfo.hapdBssId) :=
      hperm.map _
    List.Perm _ (ws.length :: List.range ws.length) := hids
    List.Perm _ (List.range ws.length ++ [ws.length]) := (List.perm_append_singleton _ _).symm

theorem Table.Accounted.assign {t : Table} {bss : BssIdentifierInfo} {i : Nat} (h : t.Accounted)
    (hused : bss.identifier ≠ unusedIdentifier) (hfree : t.freeIdx bss.band = some i) :
    (assignWirelessInterfaceInfo t bss).1.Accounted := by
  obtain ⟨w, hw, hband, hunused⟩ := freeIdx_eq_some hfree
  have hinUse := inUse_assign hused t.build (t.bandMbssidCnt bss.band) w
  rw [assign_of_freeIdx hfree]
  -- the entries of the band of the BSS, and those of another band
  have hsame : (inBand (t.interfaces.modify i (·.assign t.build bss (t.bandMbssidCnt bss.band)))
      bss.band).Perm
        (w.assign t.build bss (t.bandMbssidCnt bss.band) :: inBand t.interfaces bss.band) := by
    apply filter_modify_new hw
    · rw [hunused]
      rfl
    · rw [hinUse, show (w.assign t.build bss (t.bandMbssidCnt bss.band)).band = bss.band from hband]
      exact beq_self_eq_true _
  have hother : ∀ b, b ≠ bss.band →
      inBand (t.interfaces.modify i (·.assign t.build bss (t.bandMbssidCnt bss.band))) b =
        inBand t.interfaces b := by
    intro b hb
    apply filter_modify_outside hw
    · rw [hunused]
      rfl
    · rw [show (w.assign t.build bss (t.bandMbssidCnt bss.band)).band = bss.band from hband,
        beq_eq_false_iff_ne.mpr hb.symm, Bool.and_false]
  constructor
  · show t.configuredInterfaceCount + 1 = _
    rw [(filter_modify_new hw hunused hinUse).length_eq, h.configured]
    rfl
  · intro b
    show Function.update t.bandMbssidCnt bss.band (t.bandMbssidCnt bss.band + 1) b =
      (inBand (t.interfaces.modify i _) b).length
    by_cases hb : b = bss.band
    · subst hb
      rw [Function.update_self, hsame.length_eq, h.band]
      rfl
    · rw [Function.update_of_ne hb, hother b hb, h.band]
  · intro b
    show ((inBand (t.interfaces.modify i _) b).map _).Perm
      (List.range (inBand (t.interfaces.modify i _) b).length)
    by_cases hb : b = bss.band
    · subst hb
      exact numbered_cons hsame (h.numbered _) (h.band _)
    · rw [hother b hb]
      exact h.numbered b

theorem Table.Accounted.eraseConfFile {t : Table} (h : t.Accounted) (i : Nat) :
    (t.eraseConfFile i).Accounted := by
  have hids : ∀ b, (inBand (t.eraseConfFile i).interfaces b).map InterfaceInfo.hapdBssId =
      (inBand t.interfaces b).map InterfaceInfo.hapdBssId := by
    intro b
    unfold inBand Table.eraseConfFile
    rw [map_filter_modify]
    · exact fun _ => rfl
    · exact fun _ => rfl
  have hlength : ∀ b,
      (inBand (t.eraseConfFile i).interfaces b).length = (inBand t.interfaces b).length := by
    intro b
    simpa using congrArg List.length (hids b)
  constructor
  · have hcount := @map_filter_modify _ _ InterfaceInfo.inUse InterfaceInfo.eraseConfFile
      InterfaceInfo.hapdBssId (fun _ => rfl) (fun _ => rfl) t.interfaces i
    show t.configuredInterfaceCount =
      ((t.interfaces.modify i InterfaceInfo.eraseConfFile).filter InterfaceInfo.inUse).length
    rw [h.configured]
    simpa using (congrArg List.length hcount).symm
  · intro b
    rw [hlength]
    exact h.band b
  · intro b
    rw [hids, hlength]
    exact h.numbered b

theorem Table.Accounted.kept : Table.Kept Table.Accounted fun _ _ => True :=
  ⟨fun h _ hused hfree => h.assign hused hfree, fun i h => h.eraseConfFile i⟩

theorem released_unused (t : Table) : ∀ w ∈ (clearInterfacesResource t).interfaces,
    w.inUse = false := by
  intro v hv
  obtain ⟨w, _, hw⟩ := List.mem_map.mp hv
  rw [← hw]
  rfl

theorem Table.Accounted.clear (t : Table) : (clearInterfacesResource t).Accounted :=
  .of_unused (released_unused t) rfl fun _ => rfl

theorem Table.Accounted.startUp (build : Build) (names : List (Nat × String))
    (files : String → List Section) : (App.startUp build names files).table.Accounted := by
  apply Table.Accounted.of_unused
  · exact startUp_all (fun _ _ => rfl) names (.empty build) (by simp [Table.empty])
  · show (names.foldl (fun t name => addWirelessInterfaceInfo t name.1 name.2)
      (Table.empty build)).configuredInterfaceCount = 0
    generalize hempty : Table.empty build = t
    have hzero : t.configuredInterfaceCount = 0 := by rw [← hempty]; rfl
    clear hempty
    induction names generalizing t with
    | nil => exact hzero
    | cons name names ih => exact ih (addWirelessInterfaceInfo t name.1 name.2) hzero
  · intro b
    show (names.foldl (fun t name => addWirelessInterfaceInfo t name.1 name.2)
      (Table.empty build)).bandMbssidCnt b = 0
    rw [startUp_count]
    rfl

/-! ## The BSS of an entry -/

/-- Entry `i` is in use for the BSS with this band and identifier. -/
def Table.Has (t : Table) (b : Nat) (identifier : Int) (i : Nat) : Prop :=
  ∃ w, t.interfaces[i]? = some w ∧ w.band = b ∧ w.inUse = true ∧ w.identifier = identifier

/-- No two entries in use have the same band and identifier. -/
def Table.Unambiguous (t : Table) : Prop :=
  ∀ b identifier i j, t.Has b identifier i → t.Has b identifier j → i = j

section Has

variable {t : Table} {b i : Nat} {identifier : Int}

theorem Table.Has.isSome (h : t.Has b identifier i) :
    (getWirelessInterfaceInfo t b identifier).isSome = true := by
  obtain ⟨w, hw, hband, huse, hid⟩ := h
  unfold getWirelessInterfaceInfo
  rw [List.findIdx?_isSome, List.any_eq_true]
  refine ⟨w, List.mem_of_getElem? hw, ?_⟩
  rw [hband, huse, hid, beq_self_eq_true, beq_self_eq_true]
  rfl

/-- In an unambiguous table the look-up has no choice. -/
theorem Table.Unambiguous.lookup (ht : t.Unambiguous) (h : t.Has b identifier i) :
    getWirelessInterfaceInfo t b identifier = some i := by
  obtain ⟨j, hj⟩ := Option.isSome_iff_exists.mp h.isSome
  rw [hj, ht b identifier j i (getWirelessInterfaceInfo_eq_some hj) h]

theorem Table.Has.inUse (h : t.Has b identifier i) {w : InterfaceInfo}
    (hw : t.interfaces[i]? = some w) : w.inUse = true := by
  obtain ⟨v, hv, _, huse, _⟩ := h
  rw [hw, Option.some.injEq] at hv
  rw [hv]
  exact huse

/-- An assignment gives one free entry a BSS. -/
theorem has_assign {bss : BssIdentifierInfo} {k : Nat} (hused : bss.identifier ≠ unusedIdentifier)
    (hfree : t.freeIdx bss.band = some k) :
    (assignWirelessInterfaceInfo t bss).1.Has b identifier i ↔
      t.Has b identifier i ∨ b = bss.band ∧ identifier = bss.identifier ∧ i = k := by
  obtain ⟨w, hw, hband, hunused⟩ := freeIdx_eq_some hfree
  rw [assign_of_freeIdx hfree]
  unfold Table.Has
  by_cases hik : i = k
  · subst hik
    simp only [List.getElem?_modify_eq, hw, Option.map_eq_map, Option.map_some,
      Option.some.injEq, exists_eq_left', and_true]
    show w.band = b ∧ _ ∧ bss.identifier = identifier ↔ _
    rw [inUse_assign hused, hunused, hband]
    constructor
    · intro h
      exact .inr ⟨h.1.symm, h.2.2.symm⟩
    · intro h
      obtain h | h := h
      · exact absurd h.2.1 Bool.false_ne_true
      · exact ⟨h.1.symm, rfl, h.2.symm⟩
  · simp only [List.getElem?_modify_ne _ _ (Ne.symm hik), hik, and_false, or_false]

theorem has_eraseConfFile (k : Nat) :
    (t.eraseConfFile k).Has b identifier i ↔ t.Has b identifier i := by
  show (∃ w, (t.interfaces.modify k InterfaceInfo.eraseConfFile)[i]? = some w ∧ _) ↔ _
  unfold Table.Has
  rw [List.getElem?_modify]
  cases t.interfaces[i]? with
  | none => simp
  | some w =>
      by_cases hik : k = i
      · simp [hik, InterfaceInfo.eraseConfFile, InterfaceInfo.inUse]
      · simp [hik]

/-- An entry keeps its BSS. -/
theorem Table.Has.kept (b : Nat) (identifier : Int) (i : Nat) :
    Table.Kept (fun t => t.Has b identifier i) fun _ _ => True :=
  ⟨fun h _ hused hfree => (has_assign hused hfree).mpr (.inl h),
    fun k h => (has_eraseConfFile k).mpr h⟩

/-- An assignment to this BSS gives it no second entry. -/
def Table.NoSecond (t : Table) (bss : BssIdentifierInfo) : Prop :=
  t.freeIdx bss.band = none ∨ NotFound t bss

/-- The table stays unambiguous as long as no BSS gets a second entry. -/
theorem Table.Unambiguous.kept : Table.Kept Table.Unambiguous Table.NoSecond where
  assign := by
    intro t bss k ht hnew hused hfree b identifier i j hi hj
    have hnone : ∀ i, ¬ t.Has bss.band bss.identifier i := by
      intro i hi
      have hsome := hi.isSome
      rcases hnew with hfull | hnew
      · rw [hfree] at hfull
        exact absurd hfull (by simp)
      · rw [show getWirelessInterfaceInfo t bss.band bss.identifier = none from hnew] at hsome
        exact absurd hsome (by simp)
    rcases (has_assign hused hfree).mp hi with hi | ⟨hb, hid, hi⟩
    · rcases (has_assign hused hfree).mp hj with hj | ⟨hb, hid, _⟩
      · exact ht b identifier i j hi hj
      · exact absurd (hb ▸ hid ▸ hi) (hnone i)
    · rcases (has_assign hused hfree).mp hj with hj | ⟨_, _, hj⟩
      · exact absurd (hb ▸ hid ▸ hj) (hnone j)
      · rw [hi, hj]
  erase := by
    intro t k ht b identifier i j hi hj
    exact ht b identifier i j ((has_eraseConfFile k).mp hi) ((has_eraseConfFile k).mp hj)

theorem Table.Unambiguous.of_unused (hunused : ∀ w ∈ t.interfaces, w.inUse = false) :
    t.Unambiguous := by
  intro b identifier i j hi
  obtain ⟨w, hw, _, huse, _⟩ := hi
  rw [hunused w (List.mem_of_getElem? hw)] at huse
  exact absurd huse Bool.false_ne_true

theorem notFound_of_unused (hunused : ∀ w ∈ t.interfaces, w.inUse = false)
    (bss : BssIdentifierInfo) : NotFound t bss := by
  unfold NotFound
  cases hget : getWirelessInterfaceInfo t bss.band bss.identifier with
  | none => rfl
  | some i =>
      obtain ⟨w, hw, _, huse, _⟩ := getWirelessInterfaceInfo_eq_some hget
      rw [hunused w (List.mem_of_getElem? hw)] at huse
      exact absurd huse Bool.false_ne_true

/-- The entry a request chooses has its BSS. -/
theorem has_chooseWlan {bss : BssIdentifierInfo} {multiple : Bool}
    (hused : bss.identifier ≠ unusedIdentifier) (h : (chooseWlan t bss multiple).2 = some i) :
    (chooseWlan t bss multiple).1.Has bss.band bss.identifier i := by
  cases hexisting : existing t bss multiple with
  | some k =>
      obtain ⟨hget, hchoose⟩ := chooseWlan_of_existing hexisting
      rw [hchoose, Option.some.injEq] at h
      rw [hchoose, ← h]
      exact getWirelessInterfaceInfo_eq_some hget
  | none =>
      rw [chooseWlan_of_not_existing hexisting] at h ⊢
      cases hfree : t.freeIdx bss.band with
      | none =>
          rw [assign_of_no_freeIdx hfree] at h
          exact absurd h (by simp)
      | some k =>
          rw [assign_of_freeIdx hfree, Option.some.injEq] at h
          exact (has_assign hused hfree).mpr (.inr ⟨rfl, rfl, h.symm⟩)

variable {app : App} {req : PacketWrapper}

/-- The interface a configuration answers with has the BSS of the request. -/
theorem has_configureWlan {wsc : Bool} (h : (configureWlan (placeOf wsc) app req).2 = some i) :
    ∃ bss multiple, requestedBss req = some (bss, multiple) ∧
      (configureWlan (placeOf wsc) app req).1.table.Has bss.band bss.identifier i := by
  cases hreq : requestedBss req with
  | none =>
      unfold configureWlan at h
      rw [hreq] at h
      exact absurd h (by simp)
  | some requested =>
      obtain ⟨bss, multiple⟩ := requested
      refine ⟨bss, multiple, rfl, ?_⟩
      have hchoose : (chooseWlan app.table bss multiple).2 = some i := by
        cases hchoose : (chooseWlan app.table bss multiple).2 with
        | none =>
            unfold configureWlan at h
            simp only [hreq, hchoose] at h
            exact absurd h (by simp)
        | some k =>
            rw [(configureWlan_table wsc hreq hchoose).1] at h
            exact h
      obtain ⟨_, t, ht, htable⟩ := configureWlan_table wsc hreq hchoose
      have hlast : t.Has bss.band bss.identifier i := ht ▸
        (Table.Has.kept bss.band bss.identifier i).oweTransition (fun _ _ _ => trivial) req.tlvs
          (has_chooseWlan (requestedBss_used hreq) hchoose)
      rcases htable with hkeep | herase
      · rw [hkeep]
        exact hlast
      · rw [herase]
        exact (has_eraseConfFile i).mpr hlast

theorem Table.Has.configureWlan (wsc : Bool) (h : app.table.Has b identifier i) :
    (configureWlan (placeOf wsc) app req).1.table.Has b identifier i :=
  (Table.Has.kept b identifier i).configureWlan (fun _ _ _ => trivial) wsc h fun _ _ => trivial

end Has

end AfcDut.ControlApp
