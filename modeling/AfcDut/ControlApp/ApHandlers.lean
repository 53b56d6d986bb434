import AfcDut.ControlApp.Interfaces

/-!
# The access point handlers

`AP_CONFIGURE`, `AP_CONFIGURE_WSC`, `AP_STOP` and `DEVICE_RESET` of
`indigo_api_callback_dut.c`, built with `HOSTAPD_SUPPORT_MBSSID`, as far as
they choose an interface and a hostapd file for a BSS. A file is the list of
its sections; the settings inside a section are left out, and so are the
processes the handlers start and stop.
-/

namespace AfcDut.ControlApp

open Indigo

/-! ## TLVs -/

def tlvBssIdentifier : UInt16 := 0x001d
def tlvHwMode : UInt16 := 0x001e
def tlvRole : UInt16 := 0x005c
def tlvOweTransitionBssIdentifier : UInt16 := 0x00a2
def tlvHe6gOnly : UInt16 := 0x00a6

def band24ghz : Nat := 0
def band5ghz : Nat := 1
def band6ghz : Nat := 2

/-- `DUT_TYPE_APUT` -/
def dutTypeAput : Int := 0x02

/-! ## State -/

inductive SectionKind where
  | interface
  | bss
deriving DecidableEq, Repr

/-- The first lines of what `generate_hostapd_config` writes, and whose
configuration it is. -/
structure Section where
  kind : SectionKind
  ifname : String
deriving DecidableEq, Repr

/-- The interface table, the two tables of pointers by band, and the files. -/
structure App where
  table : Table
  bandTransmitter : Nat → Option Nat
  bandFirstWlan : Nat → Option Nat
  files : String → List Section

/-- The state after `set_wireless_interface`, with whatever files an earlier
process has left. -/
def App.startUp (build : Build) (names : List (Nat × String)) (files : String → List Section) :
    App where
  table := names.foldl (fun t name => addWirelessInterfaceInfo t name.1 name.2) (.empty build)
  bandTransmitter := fun _ => none
  bandFirstWlan := fun _ => none
  files := files

/-- `write_file`; the empty name opens no file. -/
def App.writeFile (app : App) (fn : String) (text : Section) : App :=
  if fn = "" then app else { app with files := Function.update app.files fn [text] }

/-- `append_file` -/
def App.appendFile (app : App) (fn : String) (text : Section) : App :=
  if fn = "" then app
  else { app with files := Function.update app.files fn (app.files fn ++ [text]) }

def App.eraseConfFile (app : App) (i : Nat) : App :=
  { app with table := app.table.eraseConfFile i }

/-- What a handler answers, and the interface it configured. -/
structure Reply where
  status : Bool
  wlan : Option Nat

/-! ## Configuration -/

/-- The header of a section. -/
def App.header (app : App) (i : Nat) : Section :=
  match app.table.interfaces[i]? with
  | some w =>
      if (w.mbssidEnable && !w.transmitter) || (app.bandFirstWlan w.band).isSome then
        ⟨.bss, w.ifname⟩
      else ⟨.interface, w.ifname⟩
  | none => ⟨.interface, ""⟩

/-- An OWE transition TLV names a BSS; its interface is assigned if need be. -/
def oweTransition (t : Table) (tlv : TlvHdr) : Table :=
  if tlv.id = tlvOweTransitionBssIdentifier then
    (getOrAssign t (parseBssIdentifier (atoi tlv.value))).1
  else t

/-- `generate_hostapd_config`: the section of interface `i`, and the table
after the loop over the TLVs. The text is never empty. -/
def generateHostapdConfig (app : App) (wrapper : PacketWrapper) (i : Nat) : Section × App :=
  (app.header i, { app with table := wrapper.tlvs.foldl oweTransition app.table })

/-- The band of a request that names no BSS. -/
def singleWlanBand (req : PacketWrapper) (hwMode : TlvHdr) : Nat :=
  if (findWrapperTlvById req tlvHe6gOnly).isSome then band6ghz
  else if (cText hwMode.value).head? = some 97 then band5ghz
  else band24ghz

/-- `bss_info` of a request, and whether it comes from a BSS identifier. The
single interface uses identifier 1. -/
def requestedBss (req : PacketWrapper) : Option (BssIdentifierInfo × Bool) :=
  match findWrapperTlvById req tlvBssIdentifier with
  | some tlv => some (parseBssIdentifier (atoi tlv.value), true)
  | none =>
      match findWrapperTlvById req tlvHwMode with
      | some tlv => some (⟨1, singleWlanBand req tlv, false, false⟩, false)
      | none => none

/-- `wlan`: with an identifier its interface or a new one, else a new one. -/
def chooseWlan (t : Table) (bss : BssIdentifierInfo) (multiple : Bool) : Table × Option Nat :=
  if multiple then getOrAssign t bss else assignWirelessInterfaceInfo t bss

/-- The interface becomes the transmitter of its band. -/
def App.setTransmitter (app : App) (bss : BssIdentifierInfo) (wlan : Option Nat) : App :=
  if wlan.isSome && (bss.mbssidEnable && bss.transmitter) then
    { app with bandTransmitter := Function.update app.bandTransmitter bss.band wlan }
  else app

/-- The section goes to the transmitter's file, and interface `i` has no file
of its own any more. -/
def App.appendToTransmitter (app : App) (band : Nat) (text : Section) (i : Nat) : App :=
  (match app.bandTransmitter band with
  | some t => app.appendFile (app.table.confFile t) text
  | none => app).eraseConfFile i

/-- The first interface configured in a band is remembered. -/
def App.setFirstWlan (app : App) (band i : Nat) : App :=
  if (app.bandFirstWlan band).isSome then app
  else { app with bandFirstWlan := Function.update app.bandFirstWlan band (some i) }

/-- The file `AP_CONFIGURE` chooses for a section. -/
def App.chooseFile (app : App) (bss : BssIdentifierInfo) (text : Section) (i : Nat) : App :=
  if bss.nontransmitted then app.appendToTransmitter bss.band text i
  else
    match app.bandFirstWlan bss.band with
    | some first => (app.appendFile (app.table.confFile first) text).eraseConfFile i
    | none => app.writeFile (app.table.confFile i) text

def App.placeAp (app : App) (bss : BssIdentifierInfo) (text : Section) (i : Nat) : App :=
  (app.chooseFile bss text i).setFirstWlan bss.band i

/-- The file `AP_CONFIGURE_WSC` chooses for a section. -/
def App.placeWsc (app : App) (bss : BssIdentifierInfo) (text : Section) (i : Nat) : App :=
  if bss.nontransmitted then app.appendToTransmitter bss.band text i
  else app.writeFile (app.table.confFile i) text

/-- What the two handlers share: the choice of `wlan`, its section, and a file
for it. -/
def configureWlan (place : App → BssIdentifierInfo → Section → Nat → App) (app : App)
    (req : PacketWrapper) : App × Option Nat :=
  match requestedBss req with
  | none => (app, none)
  | some (bss, multiple) =>
      let (table, wlan) := chooseWlan app.table bss multiple
      let app := { app with table }.setTransmitter bss wlan
      match wlan with
      | none => (app, none)
      | some i =>
          let (text, app) := generateHostapdConfig app req i
          (place app bss text i, some i)

def configureApHandler (app : App) (req : PacketWrapper) : App × Reply :=
  let (app, wlan) := configureWlan App.placeAp app req
  (app, ⟨wlan.isSome, wlan⟩)

/-- A request without a BSS identifier releases every interface. -/
def App.singleWlanReset (app : App) (req : PacketWrapper) : App :=
  if (findWrapperTlvById req tlvBssIdentifier).isSome then app
  else { app with table := clearInterfacesResource app.table }

/-- `stopped` is whether hostapd has gone when it is looked for; if not, the
handler gives up. -/
def configureApWscHandler (app : App) (stopped : Bool) (req : PacketWrapper) : App × Reply :=
  if stopped then
    let (app, wlan) := configureWlan App.placeWsc (app.singleWlanReset req) req
    (app, ⟨true, wlan⟩)
  else (app, ⟨false, none⟩)

/-! ## Release -/

/-- `memset` of `band_transmitter` and `band_first_wlan`. -/
def App.forgetBands (app : App) : App :=
  { app with bandTransmitter := fun _ => none, bandFirstWlan := fun _ => none }

def App.clear (app : App) : App := { app with table := clearInterfacesResource app.table }

def stopApHandler (app : App) (stopped : Bool) : App × Reply :=
  (app.clear.forgetBands, ⟨stopped, none⟩)

/-- Whether a reset is for an access point. -/
def resetsAput (req : PacketWrapper) : Bool :=
  match findWrapperTlvById req tlvRole with
  | some tlv => atoi tlv.value == dutTypeAput
  | none => false

def resetDeviceHandler (app : App) (req : PacketWrapper) : App × Reply :=
  if (findWrapperTlvById req tlvRole).isSome then
    ((if resetsAput req then app.clear else app).forgetBands, ⟨true, none⟩)
  else (app, ⟨false, none⟩)

/-! ## Requests -/

/-- A request, with what the handler learns of the hostapd process. -/
inductive Request where
  | apConfigure (req : PacketWrapper)
  | apConfigureWsc (stopped : Bool) (req : PacketWrapper)
  | apStop (stopped : Bool)
  | deviceReset (req : PacketWrapper)

def App.handle (app : App) : Request → App × Reply
  | .apConfigure req => configureApHandler app req
  | .apConfigureWsc stopped req => configureApWscHandler app stopped req
  | .apStop stopped => stopApHandler app stopped
  | .deviceReset req => resetDeviceHandler app req

def App.step (app : App) (request : Request) : App := (app.handle request).1

end AfcDut.ControlApp
