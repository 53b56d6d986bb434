import AfcDut.ControlApp.Interfaces
import AfcDut.ControlApp.KeyValue
import AfcDut.Indigo.Api

/-!
# The AFC device handlers

`afcd_configure_handler` and `afcd_operation_handler` of
`indigo_api_callback_afc.c`: which TLV values they copy, where to, and what
they answer. What they log is left out. A copy that leaves no room for the NUL
is a fault, for every copy is read as a string.
-/

namespace AfcDut.ControlApp

open Indigo

/-! ## TLVs -/

def tlvAfcLocationGeoArea : UInt16 := 0xb006
def tlvAfcLinearpolyBoundary : UInt16 := 0xb00b
def tlvAfcServerUrl : UInt16 := 0xb017
def tlvAfcSendSpectrumReq : UInt16 := 0xb01a
def tlvAfcSecurityType : UInt16 := 0xb01c
def tlvAfcSendTestFrame : UInt16 := 0xb01e
def tlvAfcBandwidth : UInt16 := 0xb01f
def tlvAfcCaCert : UInt16 := 0xb020

/-! ## Copies -/

/-- `memset` and `memcpy` of a value into a buffer of `size` bytes. -/
def copyValue (size : Nat) (tlv : TlvHdr) : Except Fault (List UInt8) := do
  let value ← readBytes tlv.value 0 tlv.len.toNat
  if value.length < size then return zeroed size value else .error (.write size)

/-- The copy of a TLV that need not be there. -/
def copyOptional (size : Nat) (tlv : Option TlvHdr) : Except Fault (Option (List UInt8)) :=
  match tlv with
  | some tlv => do return some (← copyValue size tlv)
  | none => return none

/-! ## Handlers -/

/-- `server_url`, `ca_cert` and `geo_area`. -/
structure AfcState where
  serverUrl : List UInt8
  caCert : List UInt8
  geoArea : List UInt8

def tlvValueSize : Nat := 64
def serverUrlSize : Nat := 64
def caCertSize : Nat := sBufferLen
def shortSize : Nat := 8

/-- The loop that logs the known TLVs. -/
def logTlvs : List TlvHdr → Except Fault Unit
  | [] => return ()
  | tlv :: tlvs => do
      if (getTlvById tlv.id).isSome then
        let _ ← copyValue tlvValueSize tlv
      logTlvs tlvs

/-- A request without the server or the certificate is answered not OK. -/
def afcdConfigureHandler (s : AfcState) (req : PacketWrapper) :
    Except Fault (AfcState × Bool) := do
  logTlvs req.tlvs
  match findWrapperTlvById req tlvAfcServerUrl with
  | none => return (s, false)
  | some url =>
      let serverUrl ← copyValue serverUrlSize url
      match findWrapperTlvById req tlvAfcCaCert with
      | none => return ({ s with serverUrl }, false)
      | some cert =>
          let caCert ← copyValue caCertSize cert
          let _security ← copyOptional shortSize (findWrapperTlvById req tlvAfcSecurityType)
          let _bw ← copyOptional shortSize (findWrapperTlvById req tlvAfcBandwidth)
          let geoArea ← copyOptional shortSize (findWrapperTlvById req tlvAfcLocationGeoArea)
          return (⟨serverUrl, caCert, geoArea.getD s.geoArea⟩, true)

def afcdOperationHandler (req : PacketWrapper) : Except Fault Bool := do
  let _reqType ← copyOptional shortSize (findWrapperTlvById req tlvAfcSendSpectrumReq)
  let _frameBw ← copyOptional shortSize (findWrapperTlvById req tlvAfcSendTestFrame)
  return true

end AfcDut.ControlApp
