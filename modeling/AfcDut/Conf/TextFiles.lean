import AfcDut.Conf.Headings

/-!
# The hostapd files as texts

The handlers of `indigo_api_callback_dut.c` that choose a file for a BSS, on
the files as they are on the disk: what they write is the text of
`generate_hostapd_config`.
-/

namespace AfcDut.Conf

open Indigo ControlApp

/-! ## Requests -/

/-- A request as it lies in memory. -/
structure PlacedRequest where
  wrapper : PacketWrapper
  tlvs : List PlacedTlv
  placed : tlvs.map PlacedTlv.hdr = wrapper.tlvs
  lengths : ∀ t ∈ tlvs, t.hdr.value.length = t.hdr.len.toNat

/-- What `generate_hostapd_config` finds outside the request and the tables. -/
structure Surroundings where
  wpsSettings : Option (List WpsSetting)
  macAddress : String → Option (Fin 6 → UInt8)
  noReturn : Int → Int → Int
  /-- What the local of this name holds on entry. -/
  band : List UInt8

/-- A request, with what its handler learns from elsewhere. -/
inductive TextRequest where
  | apConfigure (around : Surroundings) (req : PlacedRequest)
  | apConfigureWsc (stopped : Bool) (around : Surroundings) (req : PlacedRequest)
  | apStop (stopped : Bool)
  | deviceReset (req : PacketWrapper)

def TextRequest.toRequest : TextRequest → Request
  | .apConfigure _ req => .apConfigure req.wrapper
  | .apConfigureWsc stopped _ req => .apConfigureWsc stopped req.wrapper
  | .apStop stopped => .apStop stopped
  | .deviceReset req => .deviceReset req

/-! ## State -/

/-- `L_BUFFER_LEN` -/
def lBufferLen : Nat := 8192

/-- The interface table, the two tables of pointers by band, and the files. -/
structure TextApp where
  table : Table
  bandTransmitter : Nat → Option Nat
  bandFirstWlan : Nat → Option Nat
  files : String → List UInt8

namespace TextApp

def startUp (names : List (Nat × String)) (files : String → List UInt8) : TextApp where
  table := names.foldl (fun t name => addWirelessInterfaceInfo t name.1 name.2) (.empty .laptop)
  bandTransmitter := fun _ => none
  bandFirstWlan := fun _ => none
  files := files

/-- `write_file` -/
def writeFile (app : TextApp) (fn : String) (buffer : List UInt8) : TextApp :=
  if fn = "" then app else { app with files := Function.update app.files fn buffer }

/-- `append_file` -/
def appendFile (app : TextApp) (fn : String) (buffer : List UInt8) : TextApp :=
  if fn = "" then app
  else { app with files := Function.update app.files fn (app.files fn ++ buffer) }

def eraseConfFile (app : TextApp) (i : Nat) : TextApp :=
  { app with table := app.table.eraseConfFile i }

/-! ## Configuration -/

/-- `generate_hostapd_config` into `buffer`, which is cleared. -/
def generate (app : TextApp) (around : Surroundings) (req : PlacedRequest) (i : Nat) :
    Except Fault (List UInt8 × TextApp) :=
  match app.table.interfaces[i]? with
  | none => .error (.slot i)
  | some wlanp => do
      let env : HapdEnv :=
        ⟨wlanp, (app.bandFirstWlan wlanp.band).isSome, around.wpsSettings, around.macAddress,
          around.noReturn⟩
      let (output, table) ← generateHostapdConfig env around.band app.table req.tlvs
      if output.length < lBufferLen then return (output, { app with table })
      else .error (.write lBufferLen)

def setTransmitter (app : TextApp) (bss : BssIdentifierInfo) (wlan : Option Nat) : TextApp :=
  if wlan.isSome && (bss.mbssidEnable && bss.transmitter) then
    { app with bandTransmitter := Function.update app.bandTransmitter bss.band wlan }
  else app

def appendToTransmitter (app : TextApp) (band : Nat) (buffer : List UInt8) (i : Nat) : TextApp :=
  (match app.bandTransmitter band with
  | some t => app.appendFile (app.table.confFile t) buffer
  | none => app).eraseConfFile i

def setFirstWlan (app : TextApp) (band i : Nat) : TextApp :=
  if (app.bandFirstWlan band).isSome then app
  else { app with bandFirstWlan := Function.update app.bandFirstWlan band (some i) }

/-- The text is never empty, so that `AP_CONFIGURE` always has one to write. -/
def placeAp (app : TextApp) (bss : BssIdentifierInfo) (buffer : List UInt8) (i : Nat) : TextApp :=
  (if bss.nontransmitted then app.appendToTransmitter bss.band buffer i
  else
    match app.bandFirstWlan bss.band with
    | some first => (app.appendFile (app.table.confFile first) buffer).eraseConfFile i
    | none => app.writeFile (app.table.confFile i) buffer).setFirstWlan bss.band i

def placeWsc (app : TextApp) (bss : BssIdentifierInfo) (buffer : List UInt8) (i : Nat) : TextApp :=
  if bss.nontransmitted then app.appendToTransmitter bss.band buffer i
  else app.writeFile (app.table.confFile i) buffer

/-- The file choice of one of the two handlers. -/
def placeOf (wsc : Bool) : TextApp → BssIdentifierInfo → List UInt8 → Nat → TextApp :=
  if wsc then placeWsc else placeAp

def configureWlan (wsc : Bool) (app : TextApp) (around : Surroundings) (req : PlacedRequest) :
    Except Fault (TextApp × Option Nat) :=
  match requestedBss req.wrapper with
  | none => .ok (app, none)
  | some (bss, multiple) =>
      let (table, wlan) := chooseWlan app.table bss multiple
      let app := { app with table }.setTransmitter bss wlan
      match wlan with
      | none => .ok (app, none)
      | some i => do
          let (buffer, app) ← app.generate around req i
          return (placeOf wsc app bss buffer i, some i)

/-! ## The handlers -/

def clear (app : TextApp) : TextApp := { app with table := clearInterfacesResource app.table }

def forgetBands (app : TextApp) : TextApp :=
  { app with bandTransmitter := fun _ => none, bandFirstWlan := fun _ => none }

def singleWlanReset (app : TextApp) (req : PacketWrapper) : TextApp :=
  if (findWrapperTlvById req tlvBssIdentifier).isSome then app else app.clear

def handle (app : TextApp) : TextRequest → Except Fault (TextApp × Reply)
  | .apConfigure around req => do
      let (app, wlan) ← app.configureWlan false around req
      return (app, ⟨wlan.isSome, wlan⟩)
  | .apConfigureWsc stopped around req =>
      if stopped then do
        let (app, wlan) ← (app.singleWlanReset req.wrapper).configureWlan true around req
        return (app, ⟨true, wlan⟩)
      else .ok (app, ⟨false, none⟩)
  | .apStop stopped => .ok (app.clear.forgetBands, ⟨stopped, none⟩)
  | .deviceReset req =>
      if (findWrapperTlvById req tlvRole).isSome then
        .ok ((if resetsAput req then app.clear else app).forgetBands, ⟨true, none⟩)
      else .ok (app, ⟨false, none⟩)

/-- The requests one after the other, with the replies. -/
def run (app : TextApp) : List TextRequest → Except Fault (TextApp × List Reply)
  | [] => .ok (app, [])
  | request :: requests => do
      let (app, reply) ← app.handle request
      let (app, replies) ← run app requests
      return (app, reply :: replies)

end TextApp

/-! ## Texts and sections -/

/-- A section as the line it begins with has it. -/
def sectionHeading (s : Section) : SectionKind × List UInt8 := (s.kind, cString s.ifname)

/-- The text is whole lines, and its sections are these. -/
structure Shows (text : List UInt8) (sections : List Section) : Prop where
  whole : Whole text
  headings : headings text = sections.map sectionHeading

/-- The application with texts for the sections. -/
structure Shown (app : TextApp) (abs : App) : Prop where
  table : app.table = abs.table
  transmitter : app.bandTransmitter = abs.bandTransmitter
  firstWlan : app.bandFirstWlan = abs.bandFirstWlan
  files : ∀ fn, Shows (app.files fn) (abs.files fn)

/-- A file that some earlier process has left. -/
def sectionsOf (text : List UInt8) : List Section :=
  (headings text).map fun h => ⟨h.1, String.ofList (h.2.map fun b => Char.ofNat b.toNat)⟩

theorem shows_sectionsOf {text : List UInt8} (h : Whole text) : Shows text (sectionsOf text) where
  whole := h
  headings := by
    have hchar : ∀ n < 256, (Char.ofNat n).toNat = n := by
      intro n hn
      have hvalid : n.isValidChar := .inl (by omega)
      rw [Char.ofNat, dif_pos hvalid]
      rfl
    have hname : ∀ name : List UInt8,
        cString (String.ofList (name.map fun b => Char.ofNat b.toNat)) = name := by
      intro name
      rw [cString, String.toList_ofList, List.map_map]
      refine List.map_id'' (fun b => ?_) name
      show (Char.ofNat b.toNat).toNat.toUInt8 = b
      rw [hchar _ b.toNat_lt, Nat.toUInt8, UInt8.ofNat_toNat]
    rw [sectionsOf, List.map_map]
    symm
    refine List.map_id'' (fun h => ?_) _
    exact Prod.ext rfl (hname h.2)

theorem Shows.append {text rest : List UInt8} {sections more : List Section}
    (h : Shows text sections) (hrest : Shows rest more) :
    Shows (text ++ rest) (sections ++ more) where
  whole := h.whole.append hrest.whole
  headings := by rw [headings_append h.whole, h.headings, hrest.headings, List.map_append]

/-! ## One operation on both -/

namespace Shown

variable {app : TextApp} {abs : App} {text : List UInt8} {sec : Section}

theorem update (h : Shown app abs) {fn : String} {sections : List Section}
    (hshows : Shows text sections) :
    Shown { app with files := Function.update app.files fn text }
      { abs with files := Function.update abs.files fn sections } where
  table := h.table
  transmitter := h.transmitter
  firstWlan := h.firstWlan
  files := by
    intro fn'
    by_cases hfn : fn' = fn
    · subst hfn
      simpa using hshows
    · simpa [Function.update_of_ne hfn] using h.files fn'

theorem writeFile (h : Shown app abs) (fn : String) (hshows : Shows text [sec]) :
    Shown (app.writeFile fn text) (abs.writeFile fn sec) := by
  unfold TextApp.writeFile App.writeFile
  split
  · exact h
  · exact h.update hshows

theorem appendFile (h : Shown app abs) (fn : String) (hshows : Shows text [sec]) :
    Shown (app.appendFile fn text) (abs.appendFile fn sec) := by
  unfold TextApp.appendFile App.appendFile
  split
  · exact h
  · exact h.update ((h.files fn).append hshows)

theorem setTable (h : Shown app abs) (t : Table) :
    Shown { app with table := t } { abs with table := t } :=
  ⟨rfl, h.transmitter, h.firstWlan, h.files⟩

theorem eraseConfFile (h : Shown app abs) (i : Nat) :
    Shown (app.eraseConfFile i) (abs.eraseConfFile i) := by
  unfold TextApp.eraseConfFile App.eraseConfFile
  rw [h.table]
  exact h.setTable _

theorem clear (h : Shown app abs) : Shown app.clear abs.clear := by
  unfold TextApp.clear App.clear
  rw [h.table]
  exact h.setTable _

theorem forgetBands (h : Shown app abs) : Shown app.forgetBands abs.forgetBands :=
  ⟨h.table, rfl, rfl, h.files⟩

theorem setTransmitter (h : Shown app abs) (bss : BssIdentifierInfo) (wlan : Option Nat) :
    Shown (app.setTransmitter bss wlan) (abs.setTransmitter bss wlan) := by
  unfold TextApp.setTransmitter App.setTransmitter
  split
  · rw [h.transmitter]
    exact ⟨h.table, rfl, h.firstWlan, h.files⟩
  · exact h

theorem setFirstWlan (h : Shown app abs) (band i : Nat) :
    Shown (app.setFirstWlan band i) (abs.setFirstWlan band i) := by
  unfold TextApp.setFirstWlan App.setFirstWlan
  rw [h.firstWlan]
  split
  · exact h
  · exact ⟨h.table, h.transmitter, rfl, h.files⟩

theorem appendToTransmitter (h : Shown app abs) (band : Nat) (hshows : Shows text [sec]) (i : Nat) :
    Shown (app.appendToTransmitter band text i) (abs.appendToTransmitter band sec i) := by
  unfold TextApp.appendToTransmitter App.appendToTransmitter
  rw [h.transmitter]
  apply Shown.eraseConfFile
  cases abs.bandTransmitter band with
  | none => exact h
  | some t =>
      rw [h.table]
      exact h.appendFile _ hshows

/-- A text and its section go to the same file. -/
theorem placeOf (h : Shown app abs) (wsc : Bool) (bss : BssIdentifierInfo)
    (hshows : Shows text [sec]) (i : Nat) :
    Shown (TextApp.placeOf wsc app bss text i) (ControlApp.placeOf wsc abs bss sec i) := by
  cases wsc with
  | true =>
      show Shown (app.placeWsc bss text i) (abs.placeWsc bss sec i)
      unfold TextApp.placeWsc App.placeWsc
      split
      · exact h.appendToTransmitter _ hshows i
      · rw [h.table]
        exact h.writeFile _ hshows
  | false =>
      show Shown (app.placeAp bss text i) (abs.placeAp bss sec i)
      unfold TextApp.placeAp App.placeAp App.chooseFile
      apply Shown.setFirstWlan
      split
      · exact h.appendToTransmitter _ hshows i
      · rw [h.firstWlan]
        cases abs.bandFirstWlan bss.band with
        | none =>
            rw [h.table]
            exact h.writeFile _ hshows
        | some first =>
            rw [h.table]
            exact (h.appendFile _ hshows).eraseConfFile i

end Shown

end AfcDut.Conf
