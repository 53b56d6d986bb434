import AfcDut.Indigo.Wrapper
import Mathlib.Logic.Function.Basic

/-!
# The interface table

The wireless interfaces of the control application (`utils.c`): their
assignment to a BSS, the look-up by band and identifier, and their release. A
pointer into the table is an index.
-/

namespace AfcDut.ControlApp

open Indigo

/-! ## TLV values -/

/-- The text of a value, as a zeroed local buffer holds it after the copy. A
value that does not fit its buffer overruns it and is outside this model. -/
def cText (value : List UInt8) : List UInt8 := value.takeWhile (· ≠ 0)

/-- `isspace` -/
def isSpaceByte (b : UInt8) : Bool := b = 32 || (9 ≤ b && b ≤ 13)

/-- `isdigit` -/
def isDigitByte (b : UInt8) : Bool := 48 ≤ b && b ≤ 57

/-- A sign, if there is one, and what follows it. -/
def signedBytes : List UInt8 → Int × List UInt8
  | 45 :: text => (-1, text)
  | 43 :: text => (1, text)
  | text => (1, text)

/-- `atoi`: the `long` of `strtol`, cut to an `int`. -/
def atoi (value : List UInt8) : Int :=
  let (sign, text) := signedBytes ((cText value).dropWhile isSpaceByte)
  let n : Nat := (text.takeWhile isDigitByte).foldl (fun n b => 10 * n + (b.toNat - 48)) 0
  (max (-9223372036854775808) (min 9223372036854775807 (sign * n))).bmod 4294967296

def findWrapperTlvById (wrapper : PacketWrapper) (id : UInt16) : Option TlvHdr :=
  wrapper.tlv.find? fun tlv => tlv.id == id

/-! ## Interfaces -/

/-- `UNUSED_IDENTIFIER` -/
def unusedIdentifier : Int := -1

structure InterfaceInfo where
  identifier : Int
  band : Nat
  ifname : String
  mbssidEnable : Bool
  transmitter : Bool
  hapdBssId : Nat
  hapdConfFile : String

structure BssIdentifierInfo where
  identifier : Int
  band : Nat
  mbssidEnable : Bool
  transmitter : Bool

/-- A BSS that another one's frames advertise. -/
def BssIdentifierInfo.nontransmitted (bss : BssIdentifierInfo) : Bool :=
  bss.mbssidEnable && !bss.transmitter

/-- What the application is built for. -/
inductive Build where
  | laptop
  | openwrt
  deriving DecidableEq

/-- `HAPD_CONF_FILE_DEFAULT_PATH` -/
def Build.hapdConfFileDefaultPath : Build → String
  | .laptop => "/etc/hostapd"
  | .openwrt => "/tmp"

/-- `interfaces`, `configured_interface_count` and `band_mbssid_cnt`, of an
application built for `build`. -/
structure Table where
  build : Build
  interfaces : List InterfaceInfo
  configuredInterfaceCount : Nat
  bandMbssidCnt : Nat → Nat

def parseBssIdentifier (bssIdentifier : Int) : BssIdentifierInfo where
  band := (bssIdentifier % 16).toNat
  identifier := bssIdentifier / 16 % 16
  mbssidEnable := bssIdentifier / 256 % 2 = 1
  transmitter := bssIdentifier / 512 % 2 = 1

namespace InterfaceInfo

def inUse (w : InterfaceInfo) : Bool := w.identifier != unusedIdentifier

/-- `"%s/hostapd_%s.conf"`; the names of interfaces fit the 64 bytes. -/
def confFileName (build : Build) (ifname : String) : String :=
  build.hapdConfFileDefaultPath ++ "/hostapd_" ++ ifname ++ ".conf"

/-- What an assignment writes. -/
def assign (build : Build) (bss : BssIdentifierInfo) (hapdBssId : Nat) (w : InterfaceInfo) :
    InterfaceInfo :=
  { w with
    identifier := bss.identifier
    mbssidEnable := bss.mbssidEnable
    transmitter := bss.transmitter
    hapdBssId := hapdBssId
    hapdConfFile := confFileName build w.ifname }

def release (w : InterfaceInfo) : InterfaceInfo := { w with identifier := unusedIdentifier }

/-- `memset(wlan->hapd_conf_file, 0, sizeof(wlan->hapd_conf_file))` -/
def eraseConfFile (w : InterfaceInfo) : InterfaceInfo := { w with hapdConfFile := "" }

end InterfaceInfo

/-- The table before any interface is added. -/
def Table.empty (build : Build) : Table := ⟨build, [], 0, fun _ => 0⟩

def addWirelessInterfaceInfo (t : Table) (band : Nat) (name : String) : Table :=
  { t with interfaces := t.interfaces ++ [⟨unusedIdentifier, band, name, false, false, 0, ""⟩] }

/-- An interface of the band that no BSS has. -/
def Table.freeIdx (t : Table) (band : Nat) : Option Nat :=
  t.interfaces.findIdx? fun w => w.band == band && !w.inUse

def assignWirelessInterfaceInfo (t : Table) (bss : BssIdentifierInfo) : Table × Option Nat :=
  match t.freeIdx bss.band with
  | none => (t, none)
  | some i =>
      ({ build := t.build
         interfaces := t.interfaces.modify i (·.assign t.build bss (t.bandMbssidCnt bss.band))
         configuredInterfaceCount := t.configuredInterfaceCount + 1
         bandMbssidCnt :=
          Function.update t.bandMbssidCnt bss.band (t.bandMbssidCnt bss.band + 1) }, some i)

def getWirelessInterfaceInfo (t : Table) (band : Nat) (identifier : Int) : Option Nat :=
  t.interfaces.findIdx? fun w => w.band == band && (w.inUse && w.identifier == identifier)

/-- `get_wireless_interface_info`, and `assign_wireless_interface_info` where
it returns `NULL`. -/
def getOrAssign (t : Table) (bss : BssIdentifierInfo) : Table × Option Nat :=
  match getWirelessInterfaceInfo t bss.band bss.identifier with
  | some i => (t, some i)
  | none => assignWirelessInterfaceInfo t bss

def clearInterfacesResource (t : Table) : Table where
  build := t.build
  interfaces := t.interfaces.map InterfaceInfo.release
  configuredInterfaceCount := 0
  bandMbssidCnt := fun _ => 0

/-- `interfaces[i].hapd_conf_file` -/
def Table.confFile (t : Table) (i : Nat) : String := (t.interfaces[i]?.map (·.hapdConfFile)).getD ""

/-- `interfaces[i].ifname` -/
def Table.ifname (t : Table) (i : Nat) : String := (t.interfaces[i]?.map (·.ifname)).getD ""

def Table.eraseConfFile (t : Table) (i : Nat) : Table :=
  { t with interfaces := t.interfaces.modify i InterfaceInfo.eraseConfFile }

end AfcDut.ControlApp
