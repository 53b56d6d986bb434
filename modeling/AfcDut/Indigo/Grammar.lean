import AfcDut.Wire.Codec
import AfcDut.Indigo.Packet

/-!
# The message grammar

A message is a header of seven bytes and a row of TLVs, each an id, a length
byte and exactly that many value bytes.
-/

namespace AfcDut.Indigo

/-! ## Two-byte numbers -/

theorem charInt_and (b : UInt8) :
    (charInt b &&& 0x00ff).toBitVec = b.toBitVec.setWidth 32 := by
  show b.toBitVec.signExtend 32 &&& 0xff#32 = _
  generalize b.toBitVec = v
  revert v
  decide +kernel

theorem be16_toNat (hi lo : UInt8) : (be16 hi lo).toNat = hi.toNat * 256 + lo.toNat := by
  have hiLt : hi.toNat < 256 := hi.toNat_lt
  have loLt : lo.toNat < 2 ^ 8 := lo.toNat_lt
  have bits : (be16 hi lo).toBitVec =
      ((hi.toBitVec.setWidth 32 <<< 8) ||| lo.toBitVec.setWidth 32).setWidth 16 := by
    rw [← charInt_and, ← charInt_and, ← BitVec.signExtend_eq_setWidth_of_le _ (by decide)]
    rfl
  have shifted : hi.toNat <<< 8 = hi.toNat * 256 := Nat.shiftLeft_eq _ _
  have joined := Nat.shiftLeft_add_eq_or_of_lt loLt hi.toNat
  show (be16 hi lo).toBitVec.toNat = _
  rw [bits]
  simp only [BitVec.toNat_setWidth, BitVec.toNat_or, BitVec.toNat_shiftLeft,
    UInt8.toNat_toBitVec]
  rw [Nat.mod_eq_of_lt (show hi.toNat < 2 ^ 32 by omega),
    Nat.mod_eq_of_lt (show lo.toNat < 2 ^ 32 by omega),
    Nat.mod_eq_of_lt (show hi.toNat <<< 8 < 2 ^ 32 by omega), ← joined]
  omega

theorem hi16_toNat (x : UInt16) : (hi16 x).toNat = x.toNat / 256 := by
  have lt : x.toNat < 65536 := x.toNat_lt
  simp only [hi16, UInt16.toNat_toUInt8, UInt16.toNat_shiftRight]
  show x.toNat >>> 8 % 256 = _
  rw [Nat.shiftRight_eq_div_pow]
  omega

theorem lo16_toNat (x : UInt16) : (lo16 x).toNat = x.toNat % 256 := by
  have mask : (0x00ff : UInt16).toNat = 2 ^ 8 - 1 := rfl
  simp only [lo16, UInt16.toNat_toUInt8, UInt16.toNat_and]
  rw [mask, Nat.and_two_pow_sub_one_eq_mod]
  omega

@[simp] theorem be16_hi16_lo16 (x : UInt16) : be16 (hi16 x) (lo16 x) = x := by
  apply UInt16.toNat_inj.mp
  rw [be16_toNat, hi16_toNat, lo16_toNat]
  omega

@[simp] theorem hi16_be16 (hi lo : UInt8) : hi16 (be16 hi lo) = hi := by
  have lt : lo.toNat < 256 := lo.toNat_lt
  apply UInt8.toNat_inj.mp
  rw [hi16_toNat, be16_toNat]
  omega

@[simp] theorem lo16_be16 (hi lo : UInt8) : lo16 (be16 hi lo) = lo := by
  have lt : lo.toNat < 256 := lo.toNat_lt
  apply UInt8.toNat_inj.mp
  rw [lo16_toNat, be16_toNat]
  omega

/-! ## Headers -/

def MessageHdr.bytes (hdr : MessageHdr) : List UInt8 :=
  [hdr.version, hi16 hdr.type, lo16 hdr.type, hi16 hdr.seq, lo16 hdr.seq,
    hdr.reserved, hdr.reserved2]

@[simp] theorem MessageHdr.length_bytes (hdr : MessageHdr) :
    hdr.bytes.length = sizeofMessageHdr := rfl

theorem MessageHdr.bytes_injective : Function.Injective MessageHdr.bytes := by
  intro hdr hdr' same
  simp only [MessageHdr.bytes, List.cons.injEq, and_true] at same
  obtain ⟨version, typeHi, typeLo, seqHi, seqLo, reserved, reserved2⟩ := same
  have type : hdr.type = hdr'.type := by
    rw [← be16_hi16_lo16 hdr.type, typeHi, typeLo, be16_hi16_lo16]
  have seq : hdr.seq = hdr'.seq := by
    rw [← be16_hi16_lo16 hdr.seq, seqHi, seqLo, be16_hi16_lo16]
  cases hdr
  cases hdr'
  simp_all

/-- Seven bytes are a header. -/
theorem exists_hdr_bytes (bs : List UInt8) (long : sizeofMessageHdr ≤ bs.length) :
    ∃ hdr body, bs = MessageHdr.bytes hdr ++ body := by
  match bs, long with
  | version :: typeHi :: typeLo :: seqHi :: seqLo :: reserved :: reserved2 :: body, _ =>
      refine ⟨⟨version, be16 typeHi typeLo, be16 seqHi seqLo, reserved, reserved2⟩, body, ?_⟩
      simp [MessageHdr.bytes]

/-! ## TLVs -/

/-- An id and a value that its length byte can describe. -/
structure Tlv where
  id : UInt16
  value : List UInt8
  fits : value.length < 256
deriving DecidableEq

namespace Tlv

def len (t : Tlv) : UInt8 := UInt8.ofNat t.value.length

@[simp] theorem len_toNat (t : Tlv) : t.len.toNat = t.value.length := by
  rw [len, UInt8.toNat_ofNat']
  exact Nat.mod_eq_of_lt t.fits

/-- The TLV as the code keeps it. -/
def toHdr (t : Tlv) : TlvHdr := ⟨t.id, t.len, t.value⟩

def encode (t : Tlv) : List UInt8 :=
  [hi16 t.id, lo16 t.id, t.len] ++ t.value

@[simp] theorem length_encode (t : Tlv) : t.encode.length = t.value.length + 3 := by
  rw [encode, List.length_append, Nat.add_comm]
  rfl

def decode : List UInt8 → Option (Tlv × List UInt8)
  | hi :: lo :: len :: rest =>
      if whole : len.toNat ≤ rest.length then
        some (⟨be16 hi lo, rest.take len.toNat, by
          have lt : len.toNat < 256 := len.toNat_lt
          rw [List.length_take]
          omega⟩, rest.drop len.toNat)
      else
        none
  | _ => none

theorem decode_encode (t : Tlv) (rest : List UInt8) :
    decode (t.encode ++ rest) = some (t, rest) := by
  have whole : t.len.toNat ≤ (t.value ++ rest).length := by
    rw [len_toNat, List.length_append]
    omega
  show decode (hi16 t.id :: lo16 t.id :: t.len :: (t.value ++ rest)) = _
  rw [decode, dif_pos whole]
  simp

theorem encode_decode (bs : List UInt8) (t : Tlv) (rest : List UInt8)
    (read : decode bs = some (t, rest)) : bs = t.encode ++ rest := by
  match bs, read with
  | hi :: lo :: len :: tail, read =>
      rw [decode] at read
      split at read
      case isTrue whole =>
        injection read with read
        injection read with first rest
        subst first rest
        have length : UInt8.ofNat (min len.toNat tail.length) = len := by
          rw [Nat.min_eq_left whole, UInt8.ofNat_toNat]
        simp [encode, Tlv.len, length]
      case isFalse => exact absurd read.symm (Option.some_ne_none _)

end Tlv

def tlvCodec : Wire.Codec Tlv UInt8 where
  encode := Tlv.encode
  decode := Tlv.decode
  decode_encode := Tlv.decode_encode
  encode_decode := Tlv.encode_decode
  encode_ne_nil t := by simp [Tlv.encode]

/-- The bytes that the length byte of a cut TLV promises beyond the end. -/
def missing : List UInt8 → Nat
  | _ :: _ :: len :: rest => len.toNat - rest.length
  | _ => 0

/-- A rest that no TLV starts ends inside a TLV header or inside a value. -/
theorem stuck_iff (tail : List UInt8) :
    tlvCodec.Stuck tail ↔ tail.length < 3 ∨ 0 < missing tail := by
  show Tlv.decode tail = none ↔ _
  match tail with
  | [] => simp [Tlv.decode]
  | [_] => simp [Tlv.decode]
  | [_, _] => simp [Tlv.decode]
  | _ :: _ :: len :: rest =>
      simp only [Tlv.decode, missing, List.length_cons]
      split
      · simp only [reduceCtorEq, false_iff]
        omega
      · simp only [true_iff]
        omega

theorem missing_of_short {tail : List UInt8} (short : tail.length < 3) : missing tail = 0 := by
  match tail, short with
  | [], _ => rfl
  | [_], _ => rfl
  | [_, _], _ => rfl

/-! ## Messages -/

def KnownApi (type : UInt16) : Prop := (getApiById indigoApiList type).isSome

def KnownTlv (id : UInt16) : Prop := (getTlvById id).isSome

instance (type : UInt16) : Decidable (KnownApi type) := inferInstanceAs (Decidable (_ = true))

instance (id : UInt16) : Decidable (KnownTlv id) := inferInstanceAs (Decidable (_ = true))

/-- The bytes of a header and of whole TLVs. -/
def messageBytes (hdr : MessageHdr) (ts : List Tlv) : List UInt8 :=
  hdr.bytes ++ tlvCodec.encodeAll ts

/-- A header of a registered type, and at most `TLV_NUM` complete TLVs with
registered ids. -/
structure Registered (hdr : MessageHdr) (ts : List Tlv) : Prop where
  api : KnownApi hdr.type
  count : ts.length ≤ tlvNumMax
  tlv : ∀ t ∈ ts, KnownTlv t.id

def IsMessage (bs : List UInt8) : Prop :=
  ∃ hdr ts, bs = messageBytes hdr ts ∧ Registered hdr ts

/-- The string cut into a header, whole TLVs and a rest that no TLV starts. -/
structure Shape (bs : List UInt8) (hdr : MessageHdr) (ts : List Tlv) (tail : List UInt8) :
    Prop where
  eq : bs = messageBytes hdr ts ++ tail
  stuck : tlvCodec.Stuck tail

theorem shape_exists (bs : List UInt8) (long : sizeofMessageHdr ≤ bs.length) :
    ∃ hdr ts tail, Shape bs hdr ts tail := by
  obtain ⟨hdr, body, rfl⟩ := exists_hdr_bytes bs long
  obtain ⟨ts, tail, eq, stuck⟩ := tlvCodec.splits_exists body
  exact ⟨hdr, ts, tail, by rw [eq, messageBytes, List.append_assoc], stuck⟩

theorem Shape.long {bs tail : List UInt8} {hdr : MessageHdr} {ts : List Tlv}
    (shape : Shape bs hdr ts tail) : sizeofMessageHdr ≤ bs.length := by
  rw [shape.eq, messageBytes, List.length_append, List.length_append, MessageHdr.length_bytes]
  omega

theorem Shape.unique {bs tail tail' : List UInt8} {hdr hdr' : MessageHdr} {ts ts' : List Tlv}
    (shape : Shape bs hdr ts tail) (shape' : Shape bs hdr' ts' tail') :
    hdr = hdr' ∧ ts = ts' ∧ tail = tail' := by
  have same := shape.eq.symm.trans shape'.eq
  simp only [messageBytes, List.append_assoc] at same
  obtain ⟨hdrs, bodies⟩ := List.append_inj same rfl
  have cut := Wire.Codec.Splits.unique (c := tlvCodec) ⟨rfl, shape.stuck⟩ ⟨bodies, shape'.stuck⟩
  exact ⟨MessageHdr.bytes_injective hdrs, cut⟩

theorem shape_messageBytes (hdr : MessageHdr) (ts : List Tlv) :
    Shape (messageBytes hdr ts) hdr ts [] :=
  ⟨(List.append_nil _).symm, tlvCodec.stuck_nil⟩

theorem messageBytes_injective {hdr : MessageHdr} {ts ts' : List Tlv}
    (same : messageBytes hdr ts = messageBytes hdr ts') : ts = ts' := by
  have whole := shape_messageBytes hdr ts
  rw [same] at whole
  exact (whole.unique (shape_messageBytes hdr ts')).2.1

theorem Shape.isMessage_iff {bs tail : List UInt8} {hdr : MessageHdr} {ts : List Tlv}
    (shape : Shape bs hdr ts tail) : IsMessage bs ↔ tail = [] ∧ Registered hdr ts := by
  constructor
  · intro ⟨hdr', ts', eq, registered⟩
    have whole := shape_messageBytes hdr' ts'
    rw [← eq] at whole
    obtain ⟨rfl, rfl, empty⟩ := shape.unique whole
    exact ⟨empty, registered⟩
  · intro ⟨empty, registered⟩
    exact ⟨hdr, ts, by rw [shape.eq, empty, List.append_nil], registered⟩

end AfcDut.Indigo
