import AfcDut.Conf.HapdPieces
import AfcDut.Conf.Wpas
import AfcDut.Indigo.Fill

/-!
# Credentials

`get_wsc_cred_handler` of `indigo_api_callback_dut.c`: it searches the
configuration file for three settings and answers with what follows them. The
file is given as the string that `read_file` returns. The keys are not kept:
they are only logged.
-/

namespace AfcDut.Conf

open Indigo ControlApp Data.Search

/-! ## Reading a setting -/

def credSize : Nat := 512

/-- What stands before a mark. Without the mark the length is that of no array. -/
def upTo (mark : UInt8) (pos : List UInt8) : Except Fault (List UInt8) :=
  if mark ∈ pos ∧ (pos.takeWhile (· ≠ mark)).length < credSize then
    .ok (pos.takeWhile (· ≠ mark))
  else .error (.write credSize)

/-- A value in quotes, or up to the end of the line. -/
def readSetting : List UInt8 → Except Fault (List UInt8)
  | 34 :: pos => upTo quote pos
  | pos => upTo newline pos

/-- `val` after the copy from behind the token; it is empty if the token is not
found. -/
def credValue (data : List UInt8) (tok : String) : Except Fault (List UInt8) :=
  match strstr data (cString tok) with
  | none => .ok []
  | some pos => readSetting (pos.drop tok.length)

structure CfgCred where
  tok : String
  tid : UInt16

def tlvWscSsid : UInt16 := 0xa00c
def tlvWscWpaKeyMgmt : UInt16 := 0xa00d
def tlvWscWpaPassphrase : UInt16 := 0xa00e

/-- `cfg_creds` of an access point. -/
def aputCreds : List CfgCred := [
  ⟨"ssid=", tlvWscSsid⟩,
  ⟨"wpa_passphrase=", tlvWscWpaPassphrase⟩,
  ⟨"wpa_key_mgmt=", tlvWscWpaKeyMgmt⟩]

/-- `cfg_creds` of a station. -/
def stautCreds : List CfgCred := [
  ⟨"ssid=", tlvWscSsid⟩,
  ⟨"psk=", tlvWscWpaPassphrase⟩,
  ⟨"key_mgmt=", tlvWscWpaKeyMgmt⟩]

/-- The loop over the credentials. -/
def readCreds (data : List UInt8) : List CfgCred → Except Fault (List (List UInt8))
  | [] => .ok []
  | cred :: creds => do
      let val ← credValue data cred.tok
      return val :: (← readCreds data creds)

/-! ## The handler -/

def dutTypeStaut : Int := 1
def dutTypeAput : Int := 2

/-- The answer, with the credentials if there are any. -/
def credReply (req : PacketWrapper) (status : UInt8) (message : String)
    (creds : List (CfgCred × List UInt8)) : Except Fault PacketWrapper :=
  fillWrapper apiCmdResponse.toNat req.hdr.seq.toNat
    (.byte tlvStatus.toNat status :: .bytes tlvMessage.toNat (cString message) ::
      creds.map fun cred => .bytes cred.1.tid.toNat cred.2)

def credNotOk (req : PacketWrapper) : Except Fault PacketWrapper :=
  credReply req 0x31 "Failed" []

def answerCreds (req : PacketWrapper) (creds : List CfgCred) (data : Option (List UInt8)) :
    Except Fault PacketWrapper :=
  match data with
  | none => credNotOk req
  | some data => do
      let vals ← readCreds data creds
      credReply req 0x30 "OK" (creds.zip vals)

/-- `hapdConf` is the file of the first interface in use, `wpasConf` that of the
station, where they can be read. -/
def getWscCredHandler (req : PacketWrapper) (hapdConf wpasConf : Option (List UInt8)) :
    Except Fault PacketWrapper :=
  match findWrapperTlvById req tlvRole with
  | none => credNotOk req
  | some tlv => do
      let role ← readInt valueSize (tlv.value.take tlv.len.toNat)
      if role = dutTypeAput then
        answerCreds req aputCreds
          (if (findWrapperTlvById req tlvBssIdentifier).isSome then none else hapdConf)
      else if role = dutTypeStaut then answerCreds req stautCreds wpasConf
      else credNotOk req

end AfcDut.Conf
