import AfcDut.Conf.TextFiles
import AfcDut.ControlApp.TableChanges
import AfcDut.ControlApp.Theorems.ConfigFiles

/-!
# The files show the sections

The handlers on texts do what the handlers on sections do. So what is known of
the sections is known of the lines `interface=` and `bss=` of the files on the
disk.
-/

namespace AfcDut.Conf.Theorems.Sections

open Indigo ControlApp

/-! ## The generator -/

/-- The values of a request are of one line, and so are the settings for WPS. -/
def OneLine : TextRequest → Prop
  | .apConfigure around req | .apConfigureWsc _ around req =>
      PlainSettings around.wpsSettings ∧ ∀ t ∈ req.tlvs, newline ∉ cText t.value
  | .apStop _ | .deviceReset _ => True

theorem value_of_length {t : PlacedTlv} (h : t.hdr.value.length = t.hdr.len.toNat) :
    t.value = t.hdr.value := by
  rw [PlacedTlv.value, ← h, List.take_length]

/-- The loop on texts leaves the table of the loop on TLVs. -/
theorem finalTable_eq {ts : List PlacedTlv}
    (h : ∀ t ∈ ts, t.hdr.value.length = t.hdr.len.toNat) (table : Table) :
    finalTable table ts = (ts.map PlacedTlv.hdr).foldl oweTransition table := by
  induction ts generalizing table with
  | nil => rfl
  | cons t ts ih =>
      rw [List.forall_mem_cons] at h
      have hstep : nextTable table t = oweTransition table t.hdr := by
        rw [nextTable, oweTransition, value_of_length h.1]
        rfl
      rw [finalTable, List.foldl_cons, List.map_cons, List.foldl_cons, hstep]
      exact ih h.2 _

variable {app app' : TextApp} {abs : App}

/-- **The text is the section.** -/
theorem shown_generate (h : Shown app abs) (hnames : OneLineNames abs.table)
    {around : Surroundings} {req : PlacedRequest} (hwps : PlainSettings around.wpsSettings)
    (hvalues : ∀ t ∈ req.tlvs, newline ∉ cText t.value) {i : Nat} {text : List UInt8}
    (hrun : app.generate around req i = .ok (text, app')) :
    Shows text [(ControlApp.generateHostapdConfig abs req.wrapper i).1] ∧
      Shown app' (ControlApp.generateHostapdConfig abs req.wrapper i).2 := by
  unfold TextApp.generate at hrun
  rw [h.table, h.firstWlan] at hrun
  cases hw : abs.table.interfaces[i]? with
  | none =>
      rw [hw] at hrun
      cases hrun
  | some w =>
      rw [hw] at hrun
      obtain ⟨⟨output, table⟩, hgenerate, hrun⟩ := Py.bind_eq_ok.mp hrun
      obtain ⟨-, rfl, rfl⟩ := (generateHostapdConfig_ok_iff _ _ _ _ _ _).mp hgenerate
      dsimp only at hrun
      split at hrun
      · obtain ⟨rfl, rfl⟩ := Prod.mk.inj (Except.ok.inj hrun)
        refine ⟨⟨whole_hapdText _ _ _ _, ?_⟩, ?_⟩
        · have hname : newline ∉ cString w.ifname := by
            have hown := hnames.ifname i
            rwa [Table.ifname_of_getElem? hw] at hown
          rw [headings_hapdText hwps hname hnames hvalues]
          show _ = [sectionHeading (abs.header i)]
          unfold App.header hapdHeading
          rw [hw]
          show [(if ((w.mbssidEnable && !w.transmitter) || _) = true then _ else _, _)] = _
          dsimp only
          split <;> rfl
        · rw [finalTable_eq req.lengths, req.placed]
          exact ⟨rfl, h.transmitter, rfl, h.files⟩
      · cases hrun

/-! ## The handlers -/

theorem shown_configureWlan (h : Shown app abs) (hnames : OneLineNames abs.table)
    {around : Surroundings} {req : PlacedRequest} (hwps : PlainSettings around.wpsSettings)
    (hvalues : ∀ t ∈ req.tlvs, newline ∉ cText t.value) {wsc : Bool} {wlan : Option Nat}
    (hrun : app.configureWlan wsc around req = .ok (app', wlan)) :
    Shown app' (ControlApp.configureWlan (ControlApp.placeOf wsc) abs req.wrapper).1 ∧
      wlan = (ControlApp.configureWlan (ControlApp.placeOf wsc) abs req.wrapper).2 := by
  unfold TextApp.configureWlan at hrun
  unfold ControlApp.configureWlan
  cases hreq : requestedBss req.wrapper with
  | none =>
      rw [hreq] at hrun
      obtain ⟨rfl, rfl⟩ := Prod.mk.inj (Except.ok.inj hrun)
      exact ⟨h, rfl⟩
  | some requested =>
      obtain ⟨bss, multiple⟩ := requested
      -- the choice of an interface gives it a number, and keeps its name
      have hchosen : OneLineNames (chooseWlan abs.table bss multiple).1 := by
        apply hnames.of_shape
        rw [chooseWlan]
        split
        · rw [getOrAssign]
          split
          · rfl
          · exact shape_assign _ _
        · exact shape_assign _ _
      obtain ⟨table, wlan', hchoose⟩ : ∃ table wlan',
          chooseWlan abs.table bss multiple = (table, wlan') := ⟨_, _, rfl⟩
      rw [hchoose] at hchosen
      simp only [hreq, h.table, hchoose] at hrun ⊢
      have hset := (h.setTable table).setTransmitter bss wlan'
      cases wlan' with
      | none =>
          obtain ⟨rfl, rfl⟩ := Prod.mk.inj (Except.ok.inj hrun)
          exact ⟨hset, rfl⟩
      | some i =>
          obtain ⟨⟨text, mid⟩, hgenerate, hrun⟩ := Py.bind_eq_ok.mp hrun
          obtain ⟨rfl, rfl⟩ := Prod.mk.inj (Except.ok.inj hrun)
          have hsame : OneLineNames
              (App.setTransmitter { abs with table } bss (some i)).table := by
            rw [setTransmitter_table]
            exact hchosen
          obtain ⟨hshows, hshown⟩ := shown_generate hset hsame hwps hvalues hgenerate
          exact ⟨hshown.placeOf wsc bss hshows i, rfl⟩

/-- **Step.** A request on texts is the request on sections, and is answered
the same. -/
theorem shown_handle (h : Shown app abs) (hnames : OneLineNames abs.table)
    {request : TextRequest} (hline : OneLine request) {reply : Reply}
    (hrun : app.handle request = .ok (app', reply)) :
    Shown app' (abs.step request.toRequest) ∧ reply = (abs.handle request.toRequest).2 := by
  cases request with
  | apConfigure around req =>
      obtain ⟨⟨mid, wlan⟩, hconfigure, hrun⟩ := Py.bind_eq_ok.mp hrun
      obtain ⟨rfl, rfl⟩ := Prod.mk.inj (Except.ok.inj hrun)
      obtain ⟨hshown, hwlan⟩ := shown_configureWlan h hnames hline.1 hline.2 hconfigure
      refine ⟨hshown, ?_⟩
      rw [hwlan]
      rfl
  | apConfigureWsc stopped around req =>
      cases stopped with
      | false =>
          obtain ⟨rfl, rfl⟩ := Prod.mk.inj (Except.ok.inj hrun)
          exact ⟨h, rfl⟩
      | true =>
          obtain ⟨⟨mid, wlan⟩, hconfigure, hrun⟩ := Py.bind_eq_ok.mp hrun
          obtain ⟨rfl, rfl⟩ := Prod.mk.inj (Except.ok.inj hrun)
          have hreset : Shown (app.singleWlanReset req.wrapper)
              (abs.singleWlanReset req.wrapper) := by
            unfold TextApp.singleWlanReset App.singleWlanReset
            split
            · exact h
            · exact h.clear
          have hsame : OneLineNames (abs.singleWlanReset req.wrapper).table := by
            unfold App.singleWlanReset
            split
            · exact hnames
            · exact hnames.of_shape (shape_clear _)
          obtain ⟨hshown, hwlan⟩ := shown_configureWlan hreset hsame hline.1 hline.2 hconfigure
          refine ⟨hshown, ?_⟩
          rw [hwlan]
          rfl
  | apStop stopped =>
      obtain ⟨rfl, rfl⟩ := Prod.mk.inj (Except.ok.inj hrun)
      exact ⟨h.clear.forgetBands, rfl⟩
  | deviceReset req =>
      simp only [TextApp.handle] at hrun
      show Shown app' (resetDeviceHandler abs req).1 ∧ reply = (resetDeviceHandler abs req).2
      unfold resetDeviceHandler
      split at hrun
      · rename_i hrole
        obtain ⟨rfl, rfl⟩ := Prod.mk.inj (Except.ok.inj hrun)
        rw [if_pos hrole]
        refine ⟨Shown.forgetBands ?_, rfl⟩
        split
        · exact h.clear
        · exact h
      · rename_i hrole
        obtain ⟨rfl, rfl⟩ := Prod.mk.inj (Except.ok.inj hrun)
        rw [if_neg hrole]
        exact ⟨h, rfl⟩

/-! ## Runs -/

/-- The state of the sections after the requests, and the answers. -/
def answered (abs : App) : List Request → App × List Reply
  | [] => (abs, [])
  | request :: requests =>
      let rest := answered (abs.step request) requests
      (rest.1, (abs.handle request).2 :: rest.2)

/-- The names of the interfaces stay. -/
theorem oneLineNames_kept : Table.Kept OneLineNames fun _ _ => True where
  assign := fun h _ _ _ => h.of_shape (shape_assign _ _)
  erase := fun i h => h.of_shape (shape_eraseConfFile _ i)

/-- **Run.** By induction on the requests; the names are what a step needs of
the table. -/
theorem shown_run {requests : List TextRequest} (h : Shown app abs)
    (hnames : OneLineNames abs.table) (hlines : ∀ request ∈ requests, OneLine request)
    {replies : List Reply} (hrun : app.run requests = .ok (app', replies)) :
    Shown app' (answered abs (requests.map TextRequest.toRequest)).1 ∧
      replies = (answered abs (requests.map TextRequest.toRequest)).2 := by
  induction requests generalizing app abs replies with
  | nil =>
      obtain ⟨rfl, rfl⟩ := Prod.mk.inj (Except.ok.inj hrun)
      exact ⟨h, rfl⟩
  | cons request requests ih =>
      rw [List.forall_mem_cons] at hlines
      obtain ⟨⟨mid, reply⟩, hstep, hrun⟩ := Py.bind_eq_ok.mp hrun
      obtain ⟨⟨last, rest⟩, hrest, hrun⟩ := Py.bind_eq_ok.mp hrun
      obtain ⟨rfl, rfl⟩ := Prod.mk.inj (Except.ok.inj hrun)
      obtain ⟨hshown, rfl⟩ := shown_handle h hnames hlines.1 hstep
      have hkept : OneLineNames (abs.step request.toRequest).table :=
        oneLineNames_kept.step (fun t ht => ht.of_shape (shape_clear t)) hnames _
      obtain ⟨hend, rfl⟩ := ih hshown hkept hlines.2 hrest
      exact ⟨hend, rfl⟩

/-- The state of the sections at start-up, with whatever files there are. -/
def shownStart (names : List (Nat × String)) (files : String → List UInt8) : App :=
  App.startUp .laptop names fun fn => sectionsOf (files fn)

theorem shown_startUp (names : List (Nat × String)) {files : String → List UInt8}
    (hfiles : ∀ fn, Whole (files fn)) :
    Shown (TextApp.startUp names files) (shownStart names files) :=
  ⟨rfl, rfl, rfl, fun fn => shows_sectionsOf (hfiles fn)⟩

theorem inv_shownStart {names : List (Nat × String)} (h : (names.map Prod.snd).Nodup)
    (files : String → List UInt8) : Inv (shownStart names files) fun _ => [] :=
  inv_startUp .laptop h fun fn => sectionsOf (files fn)

theorem oneLineNames_startUp {names : List (Nat × String)}
    (hnames : ∀ name ∈ names, newline ∉ cString name.2) (files : String → List UInt8) :
    OneLineNames (shownStart names files).table := by
  have hkept : (shownStart names files).table.names = names := startUp_names names (.empty .laptop)
  rw [OneLineNames, hkept]
  intro name hname
  obtain ⟨named, hmem, rfl⟩ := List.mem_map.mp hname
  exact hnames named hmem

/-! ## Refinement -/

/-- **Refinement.** In every run that stays inside its buffers, from files of
whole lines and with interface names, values and WPS settings of one line, the
interface table, the pointers and the replies are those of the handlers on
sections, and each file on the disk shows the sections it has there. -/
theorem files_show_sections {names : List (Nat × String)} {files : String → List UInt8}
    (hnames : ∀ name ∈ names, newline ∉ cString name.2) (hfiles : ∀ fn, Whole (files fn))
    {requests : List TextRequest} (hlines : ∀ request ∈ requests, OneLine request)
    {replies : List Reply} (hrun : (TextApp.startUp names files).run requests = .ok (app', replies)) :
    Shown app' (answered (shownStart names files) (requests.map TextRequest.toRequest)).1 ∧
      replies = (answered (shownStart names files) (requests.map TextRequest.toRequest)).2 :=
  shown_run (shown_startUp names hfiles) (oneLineNames_startUp hnames files) hlines hrun

/-- A request whose one TLV is a BSS identifier of two digits. -/
def bssRequestOf (a b : UInt8) : PlacedRequest where
  wrapper := ⟨.zero, [⟨tlvBssIdentifier, 2, [a, b]⟩], 1⟩
  tlvs := [⟨⟨tlvBssIdentifier, 2, [a, b]⟩, []⟩]
  placed := rfl
  lengths := by
    intro t ht
    obtain rfl := List.mem_singleton.mp ht
    rfl

/-- No settings for WPS, no hardware addresses, and a cleared `band`. -/
def quiet : Surroundings := ⟨none, fun _ => none, fun _ _ => 0, []⟩

/-- A WSC configuration, a stop, and two BSSs of the 5 GHz band. -/
def twoBss : List TextRequest := [
  .apConfigureWsc true quiet (bssRequestOf 49 55), .apStop true,
  .apConfigure quiet (bssRequestOf 49 55), .apConfigure quiet (bssRequestOf 51 51)]

def twoNames : List (Nat × String) := [(band5ghz, "wlan0"), (band5ghz, "wlan1")]

theorem oneLine_twoBss : ∀ request ∈ twoBss, OneLine request := by
  have hone : ∀ a b, newline ∉ cText [a, b] → PlainSettings quiet.wpsSettings ∧
      ∀ t ∈ (bssRequestOf a b).tlvs, newline ∉ cText t.value := by
    intro a b h
    refine ⟨fun list hlist => absurd hlist (by simp [quiet]), ?_⟩
    intro t ht
    obtain rfl := List.mem_singleton.mp ht
    exact h
  simp only [twoBss, List.forall_mem_cons, List.not_mem_nil, false_implies, implies_true, and_true]
  exact ⟨hone _ _ (by decide), trivial, hone _ _ (by decide), hone _ _ (by decide)⟩

theorem oneLine_twoNames : ∀ name ∈ twoNames, newline ∉ cString name.2 := by decide

theorem files_show_sections_two :
    ∃ app' replies, (TextApp.startUp twoNames fun _ => []).run twoBss = .ok (app', replies) ∧
      Shown app' (answered (shownStart twoNames fun _ => [])
        (twoBss.map TextRequest.toRequest)).1 ∧
      replies = (answered (shownStart twoNames fun _ => [])
        (twoBss.map TextRequest.toRequest)).2 := by
  have hok : ((TextApp.startUp twoNames fun _ => []).run twoBss).toBool = true := by
    decide +kernel
  cases hrun : (TextApp.startUp twoNames fun _ => []).run twoBss with
  | error fault =>
      rw [hrun] at hok
      cases hok
  | ok result =>
      exact ⟨result.1, result.2, rfl, files_show_sections oneLine_twoNames
        (fun _ => Data.Lines.terminated_nil) oneLine_twoBss hrun⟩

/-- A value of two lines can bring a section along. -/
example : headings (configLine (cString "ssid") (cString "dut\nbss=wlan9")) =
    [(.bss, cString "wlan9")] := by decide

/-! ## The files of the bands -/

/-- Every request meets the condition in the state before it. -/
def allMeet (abs : App) : List Request → Bool
  | [] => true
  | request :: requests => meets abs request && allMeet (abs.step request) requests

theorem inv_answered {requests : List Request} {bands : Nat → List Nat} (h : Inv abs bands)
    (hmeets : allMeet abs requests = true) : ∃ bands', Inv (answered abs requests).1 bands' := by
  induction requests generalizing abs bands with
  | nil => exact ⟨bands, h⟩
  | cons request requests ih =>
      rw [allMeet, Bool.and_eq_true] at hmeets
      obtain ⟨bands', h'⟩ := inv_step h hmeets.1
      exact ih h' hmeets.2

/-- The kind of a section by the number of its interface in the band. -/
def kindOf (hapdBssId : Nat) : SectionKind := if hapdBssId = 0 then .interface else .bss

theorem rendered_at {t : Table} {a : Nat} {rest : List Nat} (k : Nat) :
    (rendered t (a :: rest))[k]? = ((a :: rest)[k]?).map fun i => ⟨kindOf k, t.ifname i⟩ := by
  cases k with
  | zero => rfl
  | succ k =>
      rw [rendered, List.getElem?_cons_succ, List.getElem?_cons_succ, List.getElem?_map]
      rfl

/-- **A file lists its band.** If besides every request meets the condition
under which the files stay well formed, then the sections of a file that an
interface in use names are exactly those of the interfaces in use of its band,
each at its number: the first is `interface=`, the others are `bss=`. -/
theorem file_lists_band {names : List (Nat × String)} {files : String → List UInt8}
    (hnames : ∀ name ∈ names, newline ∉ cString name.2) (hdistinct : (names.map Prod.snd).Nodup)
    (hfiles : ∀ fn, Whole (files fn)) {requests : List TextRequest}
    (hlines : ∀ request ∈ requests, OneLine request)
    (hmeets : allMeet (shownStart names files) (requests.map TextRequest.toRequest) = true)
    {replies : List Reply} (hrun : (TextApp.startUp names files).run requests = .ok (app', replies))
    {w : InterfaceInfo} (hw : w ∈ app'.table.interfaces) (huse : w.inUse = true)
    (hfile : w.hapdConfFile ≠ "") (k : Nat) (found : SectionKind × List UInt8) :
    (headings (app'.files w.hapdConfFile))[k]? = some found ↔
      ∃ v ∈ app'.table.interfaces, v.inUse = true ∧ v.band = w.band ∧ v.hapdBssId = k ∧
        found = (kindOf k, cString v.ifname) := by
  obtain ⟨hshown, -⟩ := shown_run (shown_startUp names hfiles) (oneLineNames_startUp hnames files)
    hlines hrun
  obtain ⟨bands, hinv⟩ := inv_answered (inv_shownStart hdistinct files) hmeets
  have h := hinv.synced
  rw [hshown.table] at hw ⊢
  obtain ⟨a, rest, hband, hown⟩ := ControlApp.Theorems.ConfigFiles.named_file h hw huse hfile
  rw [(hshown.files w.hapdConfFile).headings, hown, h.file w.band a rest hband,
    List.getElem?_map, rendered_at, Option.map_map, ← hband, Option.map_eq_some_iff]
  constructor
  · rintro ⟨i, hi, rfl⟩
    obtain ⟨v, hv, hvuse, hvband, hvid⟩ := h.lists.entry hi
    refine ⟨v, List.mem_of_getElem? hv, hvuse, hvband, hvid, ?_⟩
    rw [← Table.ifname_of_getElem? hv]
    rfl
  · rintro ⟨v, hv, hvuse, hvband, hvid, rfl⟩
    obtain ⟨i, hi⟩ := List.getElem?_of_mem hv
    have hplace := h.lists.place hi hvuse
    rw [hvband, hvid] at hplace
    refine ⟨i, hplace, ?_⟩
    rw [← Table.ifname_of_getElem? hi]
    rfl

/-- Whether an interface in use names a file. -/
def namesFile (app : TextApp) : Bool :=
  app.table.interfaces.any fun w => w.inUse && w.hapdConfFile != ""

theorem file_lists_band_two :
    ∃ app' replies, (TextApp.startUp twoNames fun _ => []).run twoBss = .ok (app', replies) ∧
      ∃ w ∈ app'.table.interfaces, w.inUse = true ∧ w.hapdConfFile ≠ "" ∧
        ∀ k found, (headings (app'.files w.hapdConfFile))[k]? = some found ↔
          ∃ v ∈ app'.table.interfaces, v.inUse = true ∧ v.band = w.band ∧ v.hapdBssId = k ∧
            found = (kindOf k, cString v.ifname) := by
  have hok : (((TextApp.startUp twoNames fun _ => []).run twoBss).toOption.any
      fun result => namesFile result.1) = true := by
    decide +kernel
  have hmeets : allMeet (shownStart twoNames fun _ => [])
      (twoBss.map TextRequest.toRequest) = true := by
    decide +kernel
  cases hrun : (TextApp.startUp twoNames fun _ => []).run twoBss with
  | error fault =>
      rw [hrun] at hok
      cases hok
  | ok result =>
      rw [hrun] at hok
      obtain ⟨w, hw, hnamed⟩ := List.any_eq_true.mp (show namesFile result.1 = true from hok)
      rw [Bool.and_eq_true, bne_iff_ne] at hnamed
      exact ⟨result.1, result.2, rfl, w, hw, hnamed.1, hnamed.2,
        file_lists_band oneLine_twoNames (by decide) (fun _ => Data.Lines.terminated_nil)
          oneLine_twoBss hmeets hrun hw hnamed.1 hnamed.2⟩

end AfcDut.Conf.Theorems.Sections
