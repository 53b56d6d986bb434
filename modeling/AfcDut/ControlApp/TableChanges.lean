import AfcDut.ControlApp.Placing

/-!
# What a request does to the interface table

Every change of the table is an assignment, a release of everything, or the
loss of a file name. A property that these keep is kept by every request. Two
such properties are here: the table's books balance, and an interface keeps
its BSS until it is released.
-/

namespace AfcDut.ControlApp

open Indigo

/-! ## The rule -/

/-- Kept by an assignment to a BSS that meets the guard and by the loss of a
file name. -/
structure Table.Kept (I : Table → Prop) (guard : Table → BssIdentifierInfo → Prop) : Prop where
  assign : ∀ {t bss i}, I t → guard t bss → bss.identifier ≠ unusedIdentifier →
    t.freeIdx bss.band = some i → I (assignWirelessInterfaceInfo t bss).1
  erase : ∀ {t} (i : Nat), I t → I (t.eraseConfFile i)

/-- What is known of a BSS that is not found. -/
def NotFound (t : Table) (bss : BssIdentifierInfo) : Prop :=
  getWirelessInterfaceInfo t bss.band bss.identifier = none

namespace Table.Kept

variable {I : Table → Prop} {guard : Table → BssIdentifierInfo → Prop}

theorem assignWireless (hkept : Table.Kept I guard) {t : Table} {bss : BssIdentifierInfo}
    (h : I t) (hguard : guard t bss) (hused : bss.identifier ≠ unusedIdentifier) :
    I (assignWirelessInterfaceInfo t bss).1 := by
  cases hfree : t.freeIdx bss.band with
  | none =>
      rw [assign_of_no_freeIdx hfree]
      exact h
  | some i => exact hkept.assign h hguard hused hfree

theorem getOrAssign (hkept : Table.Kept I guard) (hlook : ∀ t bss, NotFound t bss → guard t bss)
    {t : Table} {bss : BssIdentifierInfo} (h : I t) (hused : bss.identifier ≠ unusedIdentifier) :
    I (getOrAssign t bss).1 := by
  unfold ControlApp.getOrAssign
  cases hget : getWirelessInterfaceInfo t bss.band bss.identifier with
  | some i => exact h
  | none => exact hkept.assignWireless h (hlook t bss hget) hused

theorem oweTransition (hkept : Table.Kept I guard) (hlook : ∀ t bss, NotFound t bss → guard t bss)
    (tlvs : List TlvHdr) {t : Table} (h : I t) : I (tlvs.foldl oweTransition t) := by
  induction tlvs generalizing t with
  | nil => exact h
  | cons tlv tlvs ih =>
      rw [List.foldl_cons]
      apply ih
      unfold ControlApp.oweTransition
      split
      · exact hkept.getOrAssign hlook h (parseBssIdentifier_used _)
      · exact h

theorem chooseWlan (hkept : Table.Kept I guard) (hlook : ∀ t bss, NotFound t bss → guard t bss)
    {t : Table} {bss : BssIdentifierInfo} {multiple : Bool} (h : I t)
    (hguard : multiple = false → guard t bss) (hused : bss.identifier ≠ unusedIdentifier) :
    I (chooseWlan t bss multiple).1 := by
  cases multiple with
  | true => exact hkept.getOrAssign hlook h hused
  | false => exact hkept.assignWireless h (hguard rfl) hused

end Table.Kept

/-! ## A configuration -/

section Configure

variable {app : App} {bss : BssIdentifierInfo}

/-- The choice of a file costs interface `i` its own at most. -/
theorem placeOf_table (wsc : Bool) (text : Section) (i : Nat) :
    (placeOf wsc app bss text i).table = app.table ∨
      (placeOf wsc app bss text i).table = app.table.eraseConfFile i := by
  have happend : (app.appendToTransmitter bss.band text i).table = app.table.eraseConfFile i := by
    unfold App.appendToTransmitter
    show Table.eraseConfFile (App.table _) i = _
    split <;> simp
  cases wsc with
  | true =>
      show (app.placeWsc bss text i).table = _ ∨ (app.placeWsc bss text i).table = _
      unfold App.placeWsc
      cases bss.nontransmitted with
      | true => exact .inr happend
      | false => exact .inl (writeFile_table ..)
  | false =>
      show ((app.chooseFile bss text i).setFirstWlan bss.band i).table = _ ∨
        ((app.chooseFile bss text i).setFirstWlan bss.band i).table = _
      rw [setFirstWlan_table]
      unfold App.chooseFile
      cases bss.nontransmitted with
      | true => exact .inr happend
      | false =>
          cases app.bandFirstWlan bss.band with
          | none => exact .inl (writeFile_table ..)
          | some first => exact .inr (congrArg (Table.eraseConfFile · i) (appendFile_table ..))

/-- The table after a configuration: the chosen interface, those of the OWE
transition TLVs, and a file name lost at most. -/
theorem configureWlan_table (wsc : Bool) {req : PacketWrapper} {multiple : Bool} {i : Nat}
    (hreq : requestedBss req = some (bss, multiple))
    (hchoose : (chooseWlan app.table bss multiple).2 = some i) :
    (configureWlan (placeOf wsc) app req).2 = some i ∧
      ∃ t, t = req.tlvs.foldl oweTransition (chooseWlan app.table bss multiple).1 ∧
        ((configureWlan (placeOf wsc) app req).1.table = t ∨
          (configureWlan (placeOf wsc) app req).1.table = t.eraseConfFile i) := by
  unfold configureWlan
  rw [hreq]
  obtain ⟨t, hpair⟩ : ∃ t, chooseWlan app.table bss multiple = (t, some i) :=
    ⟨_, Prod.ext rfl hchoose⟩
  simp only [hpair, generateHostapdConfig, setTransmitter_table]
  refine ⟨trivial, _, rfl, ?_⟩
  exact placeOf_table wsc _ i

/-- Without an interface only the table of `chooseWlan` is left, and it is the
one before. -/
theorem chooseWlan_none {t : Table} {multiple : Bool}
    (h : (chooseWlan t bss multiple).2 = none) : (chooseWlan t bss multiple).1 = t := by
  cases hexisting : existing t bss multiple with
  | some i =>
      rw [(chooseWlan_of_existing hexisting).2]
  | none =>
      rw [chooseWlan_of_not_existing hexisting] at h ⊢
      cases hfree : t.freeIdx bss.band with
      | none => rw [assign_of_no_freeIdx hfree]
      | some i =>
          rw [assign_of_freeIdx hfree] at h
          exact absurd h (by simp)

variable {I : Table → Prop} {guard : Table → BssIdentifierInfo → Prop}

/-- **Configuration.** What the changes of a table keep, a configuration
keeps. -/
theorem Table.Kept.configureWlan (hkept : Table.Kept I guard)
    (hlook : ∀ t bss, NotFound t bss → guard t bss) (wsc : Bool) {req : PacketWrapper}
    (h : I app.table)
    (hguard : ∀ bss, requestedBss req = some (bss, false) → guard app.table bss) :
    I (configureWlan (placeOf wsc) app req).1.table := by
  cases hreq : requestedBss req with
  | none =>
      unfold ControlApp.configureWlan
      rw [hreq]
      exact h
  | some requested =>
      obtain ⟨bss, multiple⟩ := requested
      have hused := requestedBss_used hreq
      cases hchoose : (ControlApp.chooseWlan app.table bss multiple).2 with
      | none =>
          have hsame : ControlApp.chooseWlan app.table bss multiple = (app.table, none) :=
            Prod.ext (chooseWlan_none hchoose) hchoose
          rw [configureWlan_of_none hreq hsame]
          exact h
      | some i =>
          obtain ⟨_, t, ht, htable⟩ := configureWlan_table wsc hreq hchoose
          have hchosen : I (ControlApp.chooseWlan app.table bss multiple).1 := by
            apply hkept.chooseWlan hlook h _ hused
            intro hsingle
            subst hsingle
            exact hguard bss hreq
          have hlast : I t := ht ▸ hkept.oweTransition hlook req.tlvs hchosen
          obtain hkeep | herase := htable
          · rw [hkeep]
            exact hlast
          · rw [herase]
            exact hkept.erase i hlast

end Configure

/-! ## A request -/

/-- **Request.** What the changes of a table and a release of everything keep,
every request keeps. -/
theorem Table.Kept.step {I : Table → Prop} (hkept : Table.Kept I fun _ _ => True)
    (hclear : ∀ t, I t → I (clearInterfacesResource t)) {app : App} (h : I app.table)
    (request : Request) : I (app.step request).table := by
  have hconfigure : ∀ (wsc : Bool) (app : App) (req : PacketWrapper), I app.table →
      I (ControlApp.configureWlan (placeOf wsc) app req).1.table :=
    fun wsc app req h => hkept.configureWlan (fun _ _ _ => trivial) wsc h fun _ _ => trivial
  cases request with
  | apConfigure req => exact hconfigure false app req h
  | apConfigureWsc stopped req =>
      cases stopped with
      | false => exact h
      | true =>
          apply hconfigure true
          unfold App.singleWlanReset
          split
          · exact h
          · exact hclear app.table h
  | apStop stopped => exact hclear app.table h
  | deviceReset req =>
      show I (resetDeviceHandler app req).1.table
      unfold resetDeviceHandler
      split
      · cases resetsAput req with
        | true => exact hclear app.table h
        | false => exact h
      · exact h

end AfcDut.ControlApp
