import AfcDut.ControlApp.Placing
import AfcDut.Lts.Trace

/-!
# When the hostapd files stay well formed

Requests that meet the condition keep every hostapd file well formed. A
section that goes by a pointer the condition rejects is lost, is written twice
or takes the file name of its interface with it.
-/

namespace AfcDut.ControlApp.Theorems.ConfigFiles

open Indigo Lts

/-! ## Well-formed files -/

/-- A file named by an interface in use. -/
def NamedFile (app : App) (fn : String) : Prop :=
  fn ≠ "" ∧ ∃ w ∈ app.table.interfaces, w.inUse = true ∧ w.hapdConfFile = fn

/-- `answered` lists the interfaces whose configuration was answered OK since
they were last released. -/
structure WellFormed (app : App) (answered : List Nat) : Prop where
  /-- An interface in use that was configured has exactly one section. -/
  oneSection : ∀ i w, app.table.interfaces[i]? = some w → w.inUse = true → i ∈ answered →
    ∃! place : String × Nat, NamedFile app place.1 ∧
      ∃ s, (app.files place.1)[place.2]? = some s ∧ s.ifname = w.ifname
  /-- A file begins with its only `interface=` section. -/
  begins : ∀ fn, NamedFile app fn → ∃ first rest, app.files fn = first :: rest ∧
    first.kind = .interface ∧ ∀ s ∈ rest, s.kind = .bss
  /-- The `k`-th section of a band's file is of the interface with number `k`. -/
  numbered : ∀ v ∈ app.table.interfaces, v.inUse = true → v.hapdConfFile ≠ "" →
    ∀ k s, (app.files v.hapdConfFile)[k]? = some s →
      ∃ w ∈ app.table.interfaces, w.inUse = true ∧ w.band = v.band ∧ w.hapdBssId = k ∧
        w.ifname = s.ifname

/-! ## Runs -/

/-- The application answers every request. -/
def serve : StepFn App Request Reply := fun app request => some (app.handle request)

/-- The request releases every interface. -/
def releases : Request → Bool
  | .apConfigure _ => false
  | .apConfigureWsc stopped req => stopped && (findWrapperTlvById req tlvBssIdentifier).isNone
  | .apStop _ => true
  | .deviceReset req => resetsAput req

/-- The interfaces whose configuration was answered OK. -/
def answer (app : App) (request : Request) (answered : List Nat) : List Nat :=
  let reply := (app.handle request).2
  (if releases request then [] else answered) ++ if reply.status then reply.wlan.toList else []

/-- The application, with the answers it gave. -/
def tracked : StepFn (App × List Nat) Request Reply := watch serve answer

/-! ## The invariant gives well-formed files -/

section Invariant

variable {app : App} {bands : Nat → List Nat}

/-- A file named by an interface in use is the file of its band. -/
theorem named_file (h : Synced app.table app.files bands) {w : InterfaceInfo}
    (hw : w ∈ app.table.interfaces) (huse : w.inUse = true) (hne : w.hapdConfFile ≠ "") :
    ∃ a rest, bands w.band = a :: rest ∧ w.hapdConfFile = app.table.ownFile a := by
  obtain ⟨i, hi⟩ := List.getElem?_of_mem hw
  have hplace := h.lists.place hi huse
  have hconf := Table.confFile_of_getElem? hi
  obtain ⟨a, rest, hband⟩ := Synced.exists_cons hplace
  refine ⟨a, rest, hband, ?_⟩
  rw [hband] at hplace
  obtain hia | hrest := List.mem_cons.mp (List.mem_of_getElem? hplace)
  · rw [← hconf, hia]
    exact h.led w.band a rest hband
  · -- the others of the band have no file
    exact absurd (hconf.symm.trans (h.erased w.band a rest hband i hrest)) hne

theorem leader_named (h : Synced app.table app.files bands) {b a : Nat} {rest : List Nat}
    (hband : bands b = a :: rest) : NamedFile app (app.table.ownFile a) := by
  obtain ⟨w, hw, huse, _⟩ := h.lists.entry (Synced.head_eq hband)
  refine ⟨confFileName_ne_empty _ _, w, List.mem_of_getElem? hw, huse, ?_⟩
  rw [← Table.confFile_of_getElem? hw]
  exact h.led b a rest hband

/-- Every state the invariant holds of has well-formed files. -/
theorem wellFormed_of_synced (h : Synced app.table app.files bands) (answered : List Nat) :
    WellFormed app answered where
  oneSection := by
    intro i w hw huse _
    have hplace := h.lists.place hw huse
    obtain ⟨a, rest, hband⟩ := Synced.exists_cons hplace
    rw [hband] at hplace
    obtain ⟨s, hs, hname⟩ := @rendered_of_getElem? app.table _ _ _ hplace
    rw [← h.file w.band a rest hband] at hs
    refine ⟨(app.table.ownFile a, w.hapdBssId), ⟨leader_named h hband, s, hs, ?_⟩, ?_⟩
    · rw [hname, Table.ifname_of_getElem? hw]
    · intro place hplace'
      obtain ⟨fn, k⟩ := place
      obtain ⟨⟨hne, v, hv, hvuse, hfn⟩, s', hs', hname'⟩ := hplace'
      simp only at hfn hs' hne
      subst hfn
      obtain ⟨a', rest', hband', hfile⟩ := named_file h hv hvuse hne
      rw [hfile, h.file v.band a' rest' hband'] at hs'
      obtain ⟨j, hj, hjname⟩ := rendered_getElem? hs'
      rw [← hband'] at hj
      obtain ⟨u, hu, _, hub, huk⟩ := h.lists.entry hj
      have hij : j = i := by
        apply h.named.injective hu hw
        rw [← Table.ifname_of_getElem? hu, ← hjname, hname']
      subst hij
      rw [hw, Option.some.injEq] at hu
      subst hu
      rw [← hub, hband, List.cons.injEq] at hband'
      rw [hfile, hband'.1, huk]
  begins := by
    intro fn hfn
    obtain ⟨hne, w, hw, huse, hfn⟩ := hfn
    subst hfn
    obtain ⟨a, rest, hband, hfile⟩ := named_file h hw huse hne
    rw [hfile, h.file w.band a rest hband]
    refine ⟨_, _, rfl, rfl, ?_⟩
    intro s hs
    obtain ⟨i, _, rfl⟩ := List.mem_map.mp hs
    rfl
  numbered := by
    intro v hv huse hne k s hs
    obtain ⟨a, rest, hband, hfile⟩ := named_file h hv huse hne
    rw [hfile, h.file v.band a rest hband] at hs
    obtain ⟨i, hi, hname⟩ := rendered_getElem? hs
    rw [← hband] at hi
    obtain ⟨w, hw, hwuse, hwb, hwk⟩ := h.lists.entry hi
    exact ⟨w, List.mem_of_getElem? hw, hwuse, hwb, hwk,
      by rw [hname, Table.ifname_of_getElem? hw]⟩

end Invariant

/-! ## The theorem -/

/-- A configuration request with one TLV, the BSS identifier. -/
def bssRequest (bssIdentifier : List UInt8) : PacketWrapper :=
  ⟨.zero, [⟨tlvBssIdentifier, bssIdentifier.length.toUInt8, bssIdentifier⟩], 1⟩

/-- Files without a section. -/
def noFiles : String → List Section := fun _ => []

/-- A BSS that is configured twice: `"17"` is identifier 1 of the 5 GHz band. -/
def configuredTwice : App × List Nat :=
  final tracked (App.startUp .laptop [(band5ghz, "wlan0")] noFiles, [])
    [.apConfigure (bssRequest [49, 55]), .apConfigure (bssRequest [49, 55])]

/-- The second request appends its section to the interface's own file, as if
it were another interface's, and then erases the name of that file. -/
theorem second_request_unnames_file :
    ([(band5ghz, "wlan0")].map Prod.snd).Nodup ∧
      ¬ WellFormed configuredTwice.1 configuredTwice.2 := by
  refine ⟨by decide, ?_⟩
  intro h
  have hentry : ∃ w, configuredTwice.1.table.interfaces = [w] ∧ w.inUse = true ∧
      w.hapdConfFile = "" := by
    refine ⟨_, rfl, ?_, ?_⟩ <;> decide +kernel
  have hanswered : 0 ∈ configuredTwice.2 := by decide +kernel
  obtain ⟨w, hw, huse, hfile⟩ := hentry
  obtain ⟨place, ⟨hnamed, _⟩, _⟩ := h.oneSection 0 w (by rw [hw]; rfl) huse hanswered
  obtain ⟨hne, v, hv, _, hname⟩ := hnamed
  rw [hw, List.mem_singleton] at hv
  rw [hv, hfile] at hname
  exact hne hname.symm

/-- **Config files.** In every run whose requests meet the condition the
hostapd files are well formed after start-up and after each request. -/
theorem config_files_well_formed (build : Build) {names : List (Nat × String)}
    (hnames : (names.map Prod.snd).Nodup) (files : String → List Section)
    (requests : List Request)
    (hmeets : ∀ m ∈ moves tracked (App.startUp build names files, []) requests,
      meets m.before.1 m.event = true) :
    WellFormed (App.startUp build names files) [] ∧
      ∀ m ∈ moves tracked (App.startUp build names files, []) requests,
        WellFormed m.after.1 m.after.2 := by
  have hstart := inv_startUp build hnames files
  have preserved : ∀ m : Move (App × List Nat) Request Reply, m.Of tracked →
      meets m.before.1 m.event = true → (∃ bands, Inv m.before.1 bands) →
        ∃ bands, Inv m.after.1 bands := by
    intro m hm hmeets hinv
    obtain ⟨bands, hinv⟩ := hinv
    have hserve := (watch_of hm).1
    unfold serve at hserve
    have hstep : m.before.1.step m.event = m.after.1 := by
      simp only [Option.some.injEq] at hserve
      unfold App.step
      rw [hserve]
    rw [← hstep]
    exact inv_step hinv hmeets
  refine ⟨wellFormed_of_synced hstart.synced _, ?_⟩
  intro m hm
  obtain ⟨_, _, bands, hinv⟩ := moves_invariant (I := fun s => ∃ bands, Inv s.1 bands)
    (G := fun m => meets m.before.1 m.event = true) preserved ⟨_, hstart⟩ hmeets m hm
  exact wellFormed_of_synced hinv.synced _

/-- Two BSSs of one band, a stop, and a WSC configuration. -/
def servedRun : List Request :=
  [.apConfigure (bssRequest [49, 55]), .apConfigure (bssRequest [51, 51]), .apStop true,
    .apConfigureWsc true (bssRequest [49, 55])]

theorem config_files_well_formed_served :
    WellFormed (App.startUp .laptop [(band5ghz, "wlan0"), (band5ghz, "wlan1")] noFiles) [] ∧
      ∀ m ∈ moves tracked
        (App.startUp .laptop [(band5ghz, "wlan0"), (band5ghz, "wlan1")] noFiles, []) servedRun,
        WellFormed m.after.1 m.after.2 := by
  apply config_files_well_formed .laptop (by decide) noFiles servedRun
  have hall : (moves tracked
      (App.startUp .laptop [(band5ghz, "wlan0"), (band5ghz, "wlan1")] noFiles, []) servedRun).all
      (fun m => meets m.before.1 m.event) = true := by decide +kernel
  intro m hm
  exact List.all_eq_true.mp hall m hm

end AfcDut.ControlApp.Theorems.ConfigFiles
