import AfcDut.Py.Raises
import AfcDut.Py.Json
import AfcDut.Indigo.Grammar

/-!
# The encoder of the test client

`Tlv.to_bytes` and `Msg.to_bytes` of `test.py`.
-/

namespace AfcDut.TestClient

open Py (PyErr)
open Indigo (MessageHdr hi16 lo16 tlvCodec messageBytes)

structure Tlv where
  id : Nat
  val : List UInt8
deriving DecidableEq

structure Msg where
  id : Nat
  seq : Nat
  tlvs : List Tlv
deriving DecidableEq

def Msg.version : Nat := 0x01
def Msg.reserved : Nat := 0xff

/-- `bytearray.append` -/
def append (raw : List UInt8) (b : Nat) : Except PyErr (List UInt8) :=
  if b < 256 then .ok (raw ++ [UInt8.ofNat b]) else .error .valueError

def Tlv.toBytes (t : Tlv) : Except PyErr (List UInt8) := do
  let raw ← append [] (t.id >>> 8)
  let raw ← append raw (t.id &&& 0x00ff)
  let raw ← append raw t.val.length
  return raw ++ t.val

def Msg.toBytes (m : Msg) : Except PyErr (List UInt8) := do
  let raw ← append [] Msg.version
  let raw ← append raw (m.id >>> 8)
  let raw ← append raw (m.id &&& 0x00ff)
  let raw ← append raw (m.seq >>> 8)
  let raw ← append raw (m.seq &&& 0x00ff)
  let raw ← append raw Msg.reserved
  let raw ← append raw Msg.reserved
  m.tlvs.foldlM (fun raw t => do
    let output ← t.toBytes
    return raw ++ output) raw

/-! ## The same bytes as the C code -/

theorem append_toNat (raw : List UInt8) (b : UInt8) : append raw b.toNat = .ok (raw ++ [b]) := by
  have lt : b.toNat < 256 := b.toNat_lt
  rw [append, if_pos lt, UInt8.ofNat_toNat]

theorem shiftRight_toNat (x : UInt16) : x.toNat >>> 8 = (hi16 x).toNat := by
  rw [Indigo.hi16_toNat, Nat.shiftRight_eq_div_pow]

theorem and_toNat (x : UInt16) : x.toNat &&& 0x00ff = (lo16 x).toNat := by
  rw [Indigo.lo16_toNat]
  exact Nat.and_two_pow_sub_one_eq_mod _ 8

/-- The harness object for a TLV of the grammar. -/
def ofTlv (t : Indigo.Tlv) : Tlv := ⟨t.id.toNat, t.value⟩

theorem toBytes_ofTlv (t : Indigo.Tlv) : (ofTlv t).toBytes = .ok t.encode := by
  show (do
    let raw ← append [] (t.id.toNat >>> 8)
    let raw ← append raw (t.id.toNat &&& 0x00ff)
    let raw ← append raw t.value.length
    return raw ++ t.value : Except PyErr (List UInt8)) = _
  rw [shiftRight_toNat, and_toNat, ← t.len_toNat, append_toNat]
  show (append [hi16 t.id] _).bind _ = _
  rw [append_toNat]
  show (append [hi16 t.id, lo16 t.id] _).bind _ = _
  rw [append_toNat]
  rfl

theorem foldlM_ofTlv (ts : List Indigo.Tlv) (raw : List UInt8) :
    (ts.map ofTlv).foldlM (fun raw t => do
      let output ← t.toBytes
      return raw ++ output) raw = .ok (raw ++ tlvCodec.encodeAll ts) := by
  induction ts generalizing raw with
  | nil =>
      rw [Wire.Codec.encodeAll_nil, List.append_nil]
      rfl
  | cons t ts ih =>
      rw [List.map_cons, List.foldlM_cons, toBytes_ofTlv]
      show (ts.map ofTlv).foldlM _ (raw ++ t.encode) = _
      rw [ih, Wire.Codec.encodeAll_cons, List.append_assoc]
      rfl

/-- For the version and the reserved bytes that the harness uses, it sends what
the assembler writes. -/
theorem toBytes_eq (hdr : MessageHdr) (ts : List Indigo.Tlv) (version : hdr.version = 1)
    (reserved : hdr.reserved = 0xff) (reserved2 : hdr.reserved2 = 0xff) :
    Msg.toBytes ⟨hdr.type.toNat, hdr.seq.toNat, ts.map ofTlv⟩ = .ok (messageBytes hdr ts) := by
  show (do
    let raw ← append [] (1 : UInt8).toNat
    let raw ← append raw (hdr.type.toNat >>> 8)
    let raw ← append raw (hdr.type.toNat &&& 0x00ff)
    let raw ← append raw (hdr.seq.toNat >>> 8)
    let raw ← append raw (hdr.seq.toNat &&& 0x00ff)
    let raw ← append raw (0xff : UInt8).toNat
    let raw ← append raw (0xff : UInt8).toNat
    (ts.map ofTlv).foldlM _ raw) = _
  simp only [shiftRight_toNat, and_toNat, append_toNat, Py.ok_bind]
  rw [foldlM_ofTlv, messageBytes, MessageHdr.bytes, version, reserved, reserved2]
  rfl

end AfcDut.TestClient
