import AfcDut.Indigo.Packet

/-!
# The control server

`control_receive_message` of `main.c` and the handler table that
`register_apis` of the AFC build makes of the API list.
-/

namespace AfcDut.Indigo

/-- The handlers of `indigo_api_callback_afc.c`. -/
structure AfcHandlers where
  getControlApp : ApiCallbackFunc
  afcdConfigure : ApiCallbackFunc
  afcdOperation : ApiCallbackFunc
  afcdGetInfo : ApiCallbackFunc

def registerApis (h : AfcHandlers) (apis : List IndigoApi) : List IndigoApi :=
  let apis := registerApi apiGetControlAppVersion none (some h.getControlApp) apis
  let apis := registerApi apiAfcdConfigure none (some h.afcdConfigure) apis
  let apis := registerApi apiAfcdOperation none (some h.afcdOperation) apis
  registerApi apiAfcdGetInfo none (some h.afcdGetInfo) apis

/-- `BUFFER_LEN` -/
def bufferLen : Nat := 1536

/-- The bytes that `sendto` is given. -/
def sendto (buffer : List UInt8) (len : Int) : List UInt8 :=
  buffer.take len.toNat

/-- `fill_wrapper_ack`, `assemble_packet` and `sendto`. -/
def sendAck (buffer : List UInt8) (resp : PacketWrapper) (seq : UInt16) (status : Int)
    (reason : String) : Except Fault (List UInt8 × List UInt8) := do
  let resp ← fillWrapperAck resp seq.toNat status reason
  let (len, buffer) ← assemblePacket buffer bufferLen resp
  return (sendto buffer len, buffer)

/-- `buffer` holds the `len` bytes of the datagram and what the stack held
behind them; the messages sent are returned. -/
def controlReceiveMessage (apis : List IndigoApi) (buffer : List UInt8) (len : Nat) :
    Except Fault (List (List UInt8)) := do
  let (ret, req) ← parsePacket .zero buffer len
  if ret ≠ 0 then
    let (nack, _) ← sendAck buffer .zero req.hdr.seq 0x31 "Unable to parse the packet"
    return [nack]
  match getApiById apis req.hdr.type with
  | none =>
      let (nack, _) ← sendAck buffer .zero req.hdr.seq 0x31 "Unable to find the API handler"
      return [nack]
  | some api =>
      let (verified, resp) :=
        match api.verify with
        | none => ((0 : Int), PacketWrapper.zero)
        | some verify => verify req .zero
      if verified ≠ 0 then
        let (nack, _) ← sendAck buffer resp req.hdr.seq 1 "Unable to find the API handler"
        return [nack]
      let (ack, buffer) ← sendAck buffer resp req.hdr.seq 0x30 "ACK: Command received"
      match api.handle with
      | none => return [ack]
      | some handle =>
          let (ret, resp) := handle req .zero
          if ret = 0 then
            let (len, buffer) ← assemblePacket buffer bufferLen resp
            return [ack, sendto buffer len]
          else
            return [ack]

end AfcDut.Indigo
