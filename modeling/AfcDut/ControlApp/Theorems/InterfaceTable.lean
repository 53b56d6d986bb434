import AfcDut.ControlApp.Books
import AfcDut.ControlApp.Theorems.ConfigFiles

/-!
# What the interface table says in every state

The counters and numbers of the table are right in every state a run of
requests reaches. The BSS of an entry is its own as long as no single-interface
`AP_CONFIGURE` finds identifier 1 of its band taken: that handler is the only
one that assigns without a look-up or a release.
-/

namespace AfcDut.ControlApp.Theorems.InterfaceTable

open Indigo Lts ConfigFiles

/-! ## Accounting -/

theorem accounted_step {app : App} (h : app.table.Accounted) (request : Request) :
    (app.step request).table.Accounted :=
  Table.Accounted.kept.step (fun t _ => .clear t) h request

/-- In every state some run of requests reaches after start-up the counters
and numbers of the table are right. -/
theorem table_accounted (build : Build) (names : List (Nat × String))
    (files : String → List Section) (requests : List Request) :
    (final serve (App.startUp build names files) requests).table.Accounted := by
  refine Reachable.invariant (I := fun app : App => app.table.Accounted) ⟨requests, rfl⟩
    (.startUp build names files) ?_
  intro m hm h
  have hstep := Option.some.inj hm
  rw [show m.after = m.before.step m.event from (congrArg Prod.fst hstep).symm]
  exact accounted_step h m.event

/-! ## Identity -/

/-- The BSS a request configures. -/
def configuredBss : Request → Option BssIdentifierInfo
  | .apConfigure req => (requestedBss req).map Prod.fst
  | .apConfigureWsc _ req => (requestedBss req).map Prod.fst
  | .apStop _ => none
  | .deviceReset _ => none

/-- What an answer says of a BSS. -/
def noted : Option BssIdentifierInfo → Option Nat → List (Nat × Int × Nat)
  | some bss, some i => [(bss.band, bss.identifier, i)]
  | _, _ => []

theorem noted_none (bss : Option BssIdentifierInfo) : noted bss none = [] := by
  cases bss with
  | none => rfl
  | some bss => rfl

/-- Band, identifier and interface of the BSSs configured since the last
release. -/
def record (app : App) (request : Request) (known : List (Nat × Int × Nat)) :
    List (Nat × Int × Nat) :=
  (if releases request then [] else known) ++
    noted (configuredBss request) (app.handle request).2.wlan

/-- The application, with the interfaces it gave to BSSs. -/
def recorded : StepFn (App × List (Nat × Int × Nat)) Request Reply := watch serve record

/-- Interface identity is unambiguous. -/
structure Identified (t : Table) (known : List (Nat × Int × Nat)) : Prop where
  /-- No two entries in use are of one BSS. -/
  unambiguous : t.Unambiguous
  /-- The look-up returns the entry that was assigned for the BSS. -/
  found : ∀ b identifier i, (b, identifier, i) ∈ known →
    getWirelessInterfaceInfo t b identifier = some i

/-- A single-interface `AP_CONFIGURE` assigns a second entry to a BSS. -/
def assignsAgain (app : App) : Request → Bool
  | .apConfigure req =>
      match requestedBss req with
      | some (bss, false) =>
          (app.table.freeIdx bss.band).isSome &&
            (getWirelessInterfaceInfo app.table bss.band bss.identifier).isSome
      | _ => false
  | _ => false

theorem identified_configure (wsc : Bool) {app : App} {known : List (Nat × Int × Nat)}
    {req : PacketWrapper} (h : Identified app.table known)
    (hguard : ∀ bss, requestedBss req = some (bss, false) → app.table.NoSecond bss) :
    Identified (configureWlan (placeOf wsc) app req).1.table
      (known ++
        noted ((requestedBss req).map Prod.fst) (configureWlan (placeOf wsc) app req).2) := by
  have hunambiguous : (configureWlan (placeOf wsc) app req).1.table.Unambiguous :=
    Table.Unambiguous.kept.configureWlan (fun _ _ hnew => .inr hnew) wsc h.unambiguous hguard
  refine ⟨hunambiguous, ?_⟩
  intro b identifier i hi
  apply hunambiguous.lookup
  rcases List.mem_append.mp hi with hold | hnew
  · have hhas : app.table.Has b identifier i :=
      getWirelessInterfaceInfo_eq_some (h.found b identifier i hold)
    exact hhas.configureWlan wsc
  · cases hwlan : (configureWlan (placeOf wsc) app req).2 with
    | none =>
        rw [hwlan, noted_none] at hnew
        exact absurd hnew List.not_mem_nil
    | some k =>
        obtain ⟨bss, multiple, hreq, hhas⟩ := has_configureWlan hwlan
        simp only [hreq, hwlan, Option.map_some, noted, List.mem_singleton, Prod.mk.injEq] at hnew
        obtain ⟨rfl, rfl, rfl⟩ := hnew
        exact hhas

theorem identified_clear (app : App) : Identified app.clear.table [] :=
  ⟨.of_unused (released_unused app.table), fun _ _ _ h => absurd h List.not_mem_nil⟩

theorem resetsAput_role {req : PacketWrapper} (h : resetsAput req = true) :
    (findWrapperTlvById req tlvRole).isSome = true := by
  unfold resetsAput at h
  cases hrole : findWrapperTlvById req tlvRole with
  | some tlv => rfl
  | none =>
      rw [hrole] at h
      exact absurd h Bool.false_ne_true

/-- What a move of the recorded application does. -/
theorem after_eq {m : Move (App × List (Nat × Int × Nat)) Request Reply} (h : m.Of recorded) :
    m.after.1 = m.before.1.step m.event ∧
      m.after.2 = record m.before.1 m.event m.before.2 := by
  obtain ⟨hstep, hrecord⟩ := watch_of h
  exact ⟨(congrArg Prod.fst (Option.some.inj hstep)).symm, hrecord⟩

/-- **Step.** -/
theorem identified_step {app : App} {known : List (Nat × Int × Nat)} (h : Identified app.table known)
    {request : Request} (hnew : assignsAgain app request = false) :
    Identified (app.step request).table (record app request known) := by
  cases request with
  | apConfigure req =>
      apply identified_configure false h
      intro bss hreq
      simp only [assignsAgain, hreq, Bool.and_eq_false_iff, Option.isSome_eq_false_iff,
        Option.isNone_iff_eq_none] at hnew
      exact hnew
  | apConfigureWsc stopped req =>
      cases stopped with
      | false =>
          show Identified app.table (known ++ noted ((requestedBss req).map Prod.fst) none)
          rw [noted_none, List.append_nil]
          exact h
      | true =>
          show Identified (configureWlan (placeOf true) (app.singleWlanReset req) req).1.table
            ((if true && (findWrapperTlvById req tlvBssIdentifier).isNone then [] else known) ++
              noted _ (configureWlan (placeOf true) (app.singleWlanReset req) req).2)
          unfold App.singleWlanReset
          cases hbss : findWrapperTlvById req tlvBssIdentifier with
          | some tlv =>
              -- nothing is released, and the request looks its BSS up
              apply identified_configure true h
              intro bss hreq
              unfold requestedBss at hreq
              rw [hbss] at hreq
              exact absurd hreq (by simp)
          | none =>
              -- everything is released, so no BSS is found
              apply identified_configure true (identified_clear app)
              intro bss _
              exact .inr (notFound_of_unused (released_unused app.table) bss)
  | apStop stopped => exact identified_clear app
  | deviceReset req =>
      show Identified (resetDeviceHandler app req).1.table
        ((if resetsAput req then [] else known) ++ [])
      rw [List.append_nil]
      unfold resetDeviceHandler
      cases hreset : resetsAput req with
      | true =>
          rw [if_pos (resetsAput_role hreset)]
          exact identified_clear app
      | false =>
          split
          · exact h
          · exact h

/-- A second entry for a BSS makes the table ambiguous. -/
theorem ambiguous_step {app : App} {request : Request} (hagain : assignsAgain app request = true) :
    ¬ (app.step request).table.Unambiguous := by
  intro hafter
  cases request with
  | apConfigure req =>
      unfold assignsAgain at hagain
      simp only at hagain
      split at hagain
      · rename_i bss hreq
        rw [Bool.and_eq_true] at hagain
        obtain ⟨k, hfree⟩ := Option.isSome_iff_exists.mp hagain.1
        obtain ⟨j, hget⟩ := Option.isSome_iff_exists.mp hagain.2
        have hold : app.table.Has bss.band bss.identifier j :=
          getWirelessInterfaceInfo_eq_some hget
        have hchoose : (chooseWlan app.table bss false).2 = some k := by
          show (assignWirelessInterfaceInfo app.table bss).2 = some k
          rw [assign_of_freeIdx hfree]
        have hanswer := (configureWlan_table false hreq hchoose).1
        obtain ⟨bss', multiple, hreq', hnew⟩ := has_configureWlan hanswer
        rw [hreq, Option.some.injEq, Prod.mk.injEq] at hreq'
        rw [← hreq'.1] at hnew
        have hjk : j = k := hafter _ _ j k (hold.configureWlan false) hnew
        -- but entry `k` was free
        obtain ⟨w, hw, _, hunused⟩ := freeIdx_eq_some hfree
        rw [hjk] at hold
        rw [hold.inUse hw] at hunused
        exact absurd hunused.symm Bool.false_ne_true
      · exact absurd hagain Bool.false_ne_true
  | apConfigureWsc stopped req => exact absurd hagain Bool.false_ne_true
  | apStop stopped => exact absurd hagain Bool.false_ne_true
  | deviceReset req => exact absurd hagain Bool.false_ne_true

/-- Identity is unambiguous in every state of a run if and only if no
single-interface `AP_CONFIGURE` finds identifier 1 of its band in use and a
free interface in the band. -/
theorem identity_unambiguous_iff (build : Build) (names : List (Nat × String))
    (files : String → List Section) (requests : List Request) :
    (∀ m ∈ moves recorded (App.startUp build names files, []) requests,
        Identified m.after.1.table m.after.2) ↔
      ∀ m ∈ moves recorded (App.startUp build names files, []) requests,
        assignsAgain m.before.1 m.event = false := by
  constructor
  · intro h m hm
    rw [← Bool.not_eq_true]
    intro hagain
    have hafter := after_eq (moves_of m hm)
    apply ambiguous_step hagain
    have hunambiguous := (h m hm).unambiguous
    rw [hafter.1] at hunambiguous
    exact hunambiguous
  · intro h m hm
    refine (moves_invariant (I := fun s => Identified s.1.table s.2)
      (G := fun m => assignsAgain m.before.1 m.event = false) ?_ ?_ h m hm).2.2
    · intro m hm hnew hbefore
      have hafter := after_eq hm
      rw [hafter.1, hafter.2]
      exact identified_step hbefore hnew
    · exact ⟨.of_unused (startUp_all (fun _ _ => rfl) names (.empty build) (by simp [Table.empty])),
        fun _ _ _ h => absurd h List.not_mem_nil⟩

/-- A configuration request with one TLV, the hardware mode. -/
def hwModeRequest (hwMode : List UInt8) : PacketWrapper :=
  ⟨.zero, [⟨tlvHwMode, hwMode.length.toUInt8, hwMode⟩], 1⟩

/-- Two single-interface requests for 5 GHz, with two interfaces in the
band. -/
def configuredAgain : List Request :=
  [.apConfigure (hwModeRequest [97]), .apConfigure (hwModeRequest [97])]

/-- Both interfaces get identifier 1. -/
theorem identity_ambiguous :
    ¬ ∀ (build : Build) (names : List (Nat × String)) (files : String → List Section)
      (requests : List Request),
      ∀ m ∈ moves recorded (App.startUp build names files, []) requests,
        Identified m.after.1.table m.after.2 := by
  intro h
  have hsecond := h .laptop [(band5ghz, "wlan0"), (band5ghz, "wlan1")] noFiles configuredAgain _
    (List.mem_cons_of_mem _ List.mem_cons_self)
  have hboth := hsecond.unambiguous band5ghz 1 0 1 ⟨_, rfl, rfl, rfl, rfl⟩ ⟨_, rfl, rfl, rfl, rfl⟩
  exact absurd hboth (by decide)

end AfcDut.ControlApp.Theorems.InterfaceTable
