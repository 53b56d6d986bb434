import AfcDut.Indigo.Parse
import AfcDut.Indigo.Assemble
import AfcDut.Indigo.TestClient

/-!
# The codec round trips

`debug_packet` and `capture_packet` are 0.
-/

namespace AfcDut.Indigo

open TestClient (Msg)

/-- A wrapper for a registered message: at most `TLV_NUM` slots, each with a
registered id and a value of the announced length. -/
structure Encodable (w : PacketWrapper) : Prop where
  api : KnownApi w.hdr.type
  filled : w.tlvNum ≤ w.tlv.length
  count : w.tlvNum ≤ tlvNumMax
  tlv : ∀ t ∈ w.tlvs, KnownTlv t.id ∧ t.len.toNat = t.value.length

theorem TlvHdr.toHdr_shown {t : TlvHdr} (whole : t.len.toNat = t.value.length) :
    t.shown.toHdr = t := by
  have readable : t.Readable := Nat.le_of_eq whole
  have value : t.value.take t.len.toNat = t.value := by
    rw [whole, List.take_length]
  have len : t.shown.len = t.len := by
    rw [Tlv.len, readable.length_shown, UInt8.ofNat_toNat]
  show TlvHdr.mk t.id t.shown.len (t.value.take t.len.toNat) = t
  rw [len, value]

namespace Encodable

variable {w : PacketWrapper} (enc : Encodable w)
include enc

theorem readable : ∀ t ∈ w.tlvs, t.Readable := by
  intro t mem
  exact Nat.le_of_eq (enc.tlv t mem).2

theorem map_shown : (w.tlvs.map TlvHdr.shown).map Tlv.toHdr = w.tlvs := by
  have same : ∀ t ∈ w.tlvs, (Tlv.toHdr ∘ TlvHdr.shown) t = id t := by
    intro t mem
    exact TlvHdr.toHdr_shown (enc.tlv t mem).2
  rw [List.map_map, List.map_congr_left same, List.map_id]

theorem length_tlvs : w.tlvs.length = w.tlvNum := by
  show (w.tlv.take w.tlvNum).length = _
  rw [List.length_take]
  exact Nat.min_eq_left enc.filled

theorem registered : Registered w.hdr (w.tlvs.map TlvHdr.shown) where
  api := enc.api
  count := by
    rw [List.length_map, enc.length_tlvs]
    exact enc.count
  tlv := by
    rw [List.forall_mem_map]
    intro t mem
    exact (enc.tlv t mem).1

theorem length_bytes : w.bytes.length = 7 + (w.tlvs.map fun t => 3 + t.len.toNat).sum := by
  have body : ∀ ts : List TlvHdr, (∀ t ∈ ts, t.Readable) →
      (tlvCodec.encodeAll (ts.map TlvHdr.shown)).length =
        (ts.map fun t => 3 + t.len.toNat).sum := by
    intro ts readable
    induction ts with
    | nil => rfl
    | cons t ts ih =>
        rw [List.forall_mem_cons] at readable
        have length := readable.1.length_encode
        rw [List.map_cons, Wire.Codec.encodeAll_cons, List.length_append, ih readable.2,
          List.map_cons, List.sum_cons]
        show t.shown.encode.length + _ = _
        omega
  rw [PacketWrapper.bytes, messageBytes, List.length_append, body _ enc.readable]
  rfl

end Encodable

/-- A registered message is accepted, and parsed to its own header and TLVs. -/
theorem parsePacket_messageBytes {hdr : MessageHdr} {ts : List Tlv}
    (registered : Registered hdr ts) (after : List UInt8) :
    parsePacket .zero (messageBytes hdr ts ++ after) (messageBytes hdr ts).length =
      .ok (0, ⟨hdr, ts.map Tlv.toHdr, ts.length⟩) := by
  have reach : InReach ts [] after := by
    constructor
    · rw [slots, if_pos rfl]
      exact registered.count
    · exact Nat.zero_le _
  have accepts : Accepts hdr ts [] :=
    ⟨registered.api, registered.tlv, fun _ none => by simp [cutId] at none⟩
  rw [(shape_messageBytes hdr ts).parsePacket reach, if_pos accepts, parsed_whole]

theorem codec_round_trip :
    (∀ (w : PacketWrapper) (buf after : List UInt8) (size : Nat), Encodable w →
      7 + (w.tlvs.map fun t => 3 + t.len.toNat).sum ≤ size → size ≤ buf.length →
      ∃ len out, assemblePacket buf size w = .ok (Int.ofNat len, out) ∧
        parsePacket .zero (out.take len ++ after) len = .ok (0, ⟨w.hdr, w.tlvs, w.tlvNum⟩)) ∧
    (∀ (bs buf after : List UInt8) (size : Nat), IsMessage bs →
      bs.length ≤ size → size ≤ buf.length →
      ∃ req out, parsePacket .zero (bs ++ after) bs.length = .ok (0, req) ∧
        assemblePacket buf size req = .ok (bs.length, out) ∧ out.take bs.length = bs) ∧
    (∀ (w : PacketWrapper) (buf : List UInt8) (size : Nat), Encodable w →
      7 + (w.tlvs.map fun t => 3 + t.len.toNat).sum ≤ size → size ≤ buf.length →
      w.hdr.version = 1 → w.hdr.reserved = 0xff → w.hdr.reserved2 = 0xff →
      ∃ len out, assemblePacket buf size w = .ok (Int.ofNat len, out) ∧
        Msg.toBytes ⟨w.hdr.type.toNat, w.hdr.seq.toNat,
          w.tlvs.map fun t => ⟨t.id.toNat, t.value⟩⟩ = .ok (out.take len)) := by
  refine ⟨?_, ?_, ?_⟩
  · intro w buf after size enc room inside
    rw [← enc.length_bytes] at room
    refine ⟨w.bytes.length, patch buf 0 w.bytes, assemblePacket_all enc.readable room inside, ?_⟩
    have parse := parsePacket_messageBytes enc.registered after
    rw [enc.map_shown, List.length_map, enc.length_tlvs] at parse
    rw [take_patch_zero (by omega)]
    exact parse
  · intro bs buf after size ⟨hdr, ts, eq, registered⟩ room inside
    subst eq
    have bytes := bytes_whole hdr ts
    have assembled := assemblePacket_all (readable_whole hdr ts) (by rw [bytes]; exact room) inside
    rw [bytes] at assembled
    exact ⟨_, _, parsePacket_messageBytes registered after, assembled,
      take_patch_zero (by omega)⟩
  · intro w buf size enc room inside version reserved reserved2
    rw [← enc.length_bytes] at room
    refine ⟨w.bytes.length, patch buf 0 w.bytes, assemblePacket_all enc.readable room inside, ?_⟩
    have sent := TestClient.toBytes_eq w.hdr (w.tlvs.map TlvHdr.shown) version reserved reserved2
    have tlvs : (w.tlvs.map TlvHdr.shown).map TestClient.ofTlv =
        w.tlvs.map fun t => ⟨t.id.toNat, t.value⟩ := by
      rw [List.map_map]
      apply List.map_congr_left
      intro t mem
      show TestClient.Tlv.mk t.id.toNat (t.value.take t.len.toNat) = _
      rw [(enc.tlv t mem).2, List.take_length]
    rw [tlvs] at sent
    rw [take_patch_zero (by omega)]
    exact sent

/-- A request with the top bit set in its sequence number, a value byte and an
id, and with an empty value. -/
def sampleRequest : PacketWrapper :=
  ⟨⟨1, 0x5002, 0x80ff, 0xff, 0xff⟩, [⟨0xa000, 2, [0x80, 0x07]⟩, ⟨0xb001, 0, []⟩], 2⟩

theorem encodable_sampleRequest : Encodable sampleRequest :=
  ⟨by decide +kernel, by decide, by decide, by decide +kernel⟩

theorem isMessage_sampleRequest : IsMessage sampleRequest.bytes :=
  ⟨_, _, rfl, encodable_sampleRequest.registered⟩

theorem codec_round_trip_sampleRequest :
    (∃ len out, assemblePacket (List.replicate 15 0) 15 sampleRequest =
        .ok (Int.ofNat len, out) ∧
      parsePacket .zero (out.take len ++ []) len =
        .ok (0, ⟨sampleRequest.hdr, sampleRequest.tlvs, sampleRequest.tlvNum⟩)) ∧
    (∃ req out, parsePacket .zero (sampleRequest.bytes ++ []) sampleRequest.bytes.length =
        .ok (0, req) ∧
      assemblePacket (List.replicate 15 0) 15 req = .ok (sampleRequest.bytes.length, out) ∧
      out.take sampleRequest.bytes.length = sampleRequest.bytes) ∧
    (∃ len out, assemblePacket (List.replicate 15 0) 15 sampleRequest =
        .ok (Int.ofNat len, out) ∧
      Msg.toBytes ⟨sampleRequest.hdr.type.toNat, sampleRequest.hdr.seq.toNat,
        sampleRequest.tlvs.map fun t => ⟨t.id.toNat, t.value⟩⟩ = .ok (out.take len)) :=
  ⟨codec_round_trip.1 sampleRequest (List.replicate 15 0) [] 15 encodable_sampleRequest
      (by decide) (by decide),
    codec_round_trip.2.1 sampleRequest.bytes (List.replicate 15 0) [] 15
      isMessage_sampleRequest (by decide) (by decide),
    codec_round_trip.2.2 sampleRequest (List.replicate 15 0) 15 encodable_sampleRequest
      (by decide) (by decide) rfl rfl rfl⟩

end AfcDut.Indigo
