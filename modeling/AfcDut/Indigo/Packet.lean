import AfcDut.Indigo.Api

/-!
# The control messages

`parse_packet` and `assemble_packet` of `indigo_packet.c` with `debug_packet`
and `capture_packet` at 0, where they are unless the application is started
with `-d` or `-c`: `print_tlv` may overrun its buffer of 512 bytes.
-/

namespace AfcDut.Indigo

/-! ## Bytes -/

/-- A `char` is signed and is widened with its sign. -/
def charInt (b : UInt8) : Int32 := b.toInt8.toInt32

/-- `((hi & 0x00ff) << 8) | (lo & 0x00ff)`, stored in an `unsigned short`. -/
def be16 (hi lo : UInt8) : UInt16 :=
  (((charInt hi &&& 0x00ff) <<< 8) ||| (charInt lo &&& 0x00ff)).toInt16.toUInt16

/-- `(char) (x >> 8)` -/
def hi16 (x : UInt16) : UInt8 := (x >>> 8).toUInt8

/-- `(char) (x & 0x00ff)` -/
def lo16 (x : UInt16) : UInt8 := (x &&& 0x00ff).toUInt8

/-! ## Parsing -/

/-- `sizeof(struct message_hdr)`; the structure is packed. -/
def sizeofMessageHdr : Nat := 7

def parseMessageHdr (hdr : MessageHdr) (message : List UInt8) (messageLen : Nat) :
    Except Fault (Int × MessageHdr) :=
  if messageLen < sizeofMessageHdr then
    .ok (-1, hdr)
  else do
    let version ← readByte message 0
    let type := be16 (← readByte message 1) (← readByte message 2)
    let seq := be16 (← readByte message 3) (← readByte message 4)
    let reserved ← readByte message 5
    let reserved2 ← readByte message 6
    return (sizeofMessageHdr, { version, type, seq, reserved, reserved2 })

/-- The length byte is not compared with what is left of the packet. -/
def parseTlv (tlv : TlvHdr) (packet : List UInt8) (packetLen : Nat) :
    Except Fault (Int × TlvHdr) :=
  if packetLen < 3 then
    .ok (-1, tlv)
  else do
    let id := be16 (← readByte packet 0) (← readByte packet 1)
    let len ← readByte packet 2
    let value ← readBytes packet 3 len.toNat
    return (len.toNat + 3, { id, len, value })

/-- The TLV loop of `parse_packet`. A TLV that does not parse ends the loop
without an error and leaves its zeroed structure in the slot. -/
def parseTlvs (packet : List UInt8) (packetLen parser : Nat) (req : PacketWrapper) :
    Except Fault PacketWrapper :=
  if parser < packetLen then do
    let req ← req.setSlot req.tlvNum TlvHdr.zero
    let (ret, tlv) ← parseTlv TlvHdr.zero (packet.drop parser) (packetLen - parser)
    let req ← req.setSlot req.tlvNum tlv
    if 0 < ret then
      parseTlvs packet packetLen (parser + ret.toNat) { req with tlvNum := req.tlvNum + 1 }
    else
      return req
  else
    return req
termination_by packetLen - parser
decreasing_by omega

def parsePacket (req : PacketWrapper) (packet : List UInt8) (packetLen : Nat) :
    Except Fault (Int × PacketWrapper) := do
  let (ret, hdr) ← parseMessageHdr req.hdr packet packetLen
  let req := { req with hdr }
  if 0 < ret then
    let req ← parseTlvs packet packetLen ret.toNat req
    match getApiById indigoApiList req.hdr.type with
    | none => return (-1, req)
    | some _ =>
        if req.tlvs.all fun tlv => (getTlvById tlv.id).isSome then
          return (0, req)
        else
          return (-1, req)
  else
    return (-1, req)

/-! ## Assembling -/

def genMessageHdr (buf : List UInt8) (message : Int) (messageLen : Nat) (hdr : MessageHdr) :
    Except Fault (Int × List UInt8) :=
  if messageLen < sizeofMessageHdr then
    .ok (-1, buf)
  else do
    let buf ← store buf message
      [hdr.version, hi16 hdr.type, lo16 hdr.type, hi16 hdr.seq, lo16 hdr.seq,
        hdr.reserved, hdr.reserved2]
    return (sizeofMessageHdr, buf)

def genTlv (buf : List UInt8) (packet packetSize : Int) (t : TlvHdr) :
    Except Fault (Int × List UInt8) :=
  if packetSize < t.len.toNat + 3 then
    .ok (-1, buf)
  else do
    let buf ← store buf packet [hi16 t.id, lo16 t.id, t.len]
    let value ← readBytes t.value 0 t.len.toNat
    let buf ← store buf (packet + 3) value
    return (t.len.toNat + 3, buf)

/-- The TLV loop of `assemble_packet`: the `-1` of a TLV that does not fit is
added to the offset like a length. -/
def genTlvs (buf : List UInt8) (packetSize packetLen : Int) :
    List TlvHdr → Except Fault (Int × List UInt8)
  | [] => .ok (packetLen, buf)
  | t :: ts => do
      let (ret, buf) ← genTlv buf packetLen (packetSize - packetLen) t
      if ret ≠ 0 then
        genTlvs buf packetSize (packetLen + ret) ts
      else
        return (packetLen, buf)

def assemblePacket (packet : List UInt8) (packetSize : Nat) (wrapper : PacketWrapper) :
    Except Fault (Int × List UInt8) := do
  let (ret, packet) ← genMessageHdr packet 0 packetSize wrapper.hdr
  genTlvs packet packetSize ret wrapper.tlvs

end AfcDut.Indigo
