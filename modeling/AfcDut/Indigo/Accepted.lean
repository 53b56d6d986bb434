import AfcDut.Indigo.Parse

/-!
# What an accepted request holds

Every slot that `parse_packet` fills has a value of as many bytes as its length
byte says, and the slots that count have registered ids.
-/

namespace AfcDut.Indigo

/-- The value has the length the length byte says. -/
def TlvHdr.Whole (t : TlvHdr) : Prop := t.len.toNat = t.value.length

structure Accepted (req : PacketWrapper) : Prop where
  whole : ∀ t ∈ req.tlv, t.Whole
  known : ∀ t ∈ req.tlvs, (getTlvById t.id).isSome = true
  /-- A slot that does not count is zeroed. -/
  spare : ∀ t ∈ req.tlv, t ∈ req.tlvs ∨ t = TlvHdr.zero

theorem Tlv.toHdr_whole (t : Tlv) : t.toHdr.Whole := t.len_toNat

section

variable {packet after tail : List UInt8} {hdr : MessageHdr} {ts : List Tlv}

/-- The slots of whole TLVs, and what the rest of the packet adds to them. -/
theorem parsed_slots (reach : InReach ts tail after) :
    (∀ t ∈ (parsed hdr ts tail after).tlv, t.Whole) ∧
      ∀ t ∈ (parsed hdr ts tail after).tlv,
        t ∈ (parsed hdr ts tail after).tlvs ∨ t = TlvHdr.zero := by
  have full := (full_hdr hdr).pushAll (ts.map Tlv.toHdr)
  have slots : ∀ t ∈ (PacketWrapper.pushAll { PacketWrapper.zero with hdr }
      (ts.map Tlv.toHdr)).tlv, t.Whole := by
    show ∀ t ∈ [] ++ ts.map Tlv.toHdr, t.Whole
    rw [List.nil_append, List.forall_mem_map]
    exact fun t _ => t.toHdr_whole
  unfold parsed PacketWrapper.finish
  split
  · refine ⟨slots, fun t ht => .inl ?_⟩
    rwa [full.tlvs_eq]
  · rename_i hi lo len rest
    have read : len.toNat - rest.length ≤ after.length := reach.read
    have cut : TlvHdr.Whole ⟨be16 hi lo, len, (rest ++ after).take len.toNat⟩ := by
      show len.toNat = ((rest ++ after).take len.toNat).length
      rw [List.length_take, List.length_append]
      omega
    refine ⟨?_, fun t ht => .inl ?_⟩
    · intro t ht
      rcases List.mem_append.mp ht with old | new
      · exact slots t old
      · exact List.mem_singleton.mp new ▸ cut
    · rwa [(full.push _).tlvs_eq]
  · constructor
    · intro t ht
      rcases List.mem_append.mp ht with old | new
      · exact slots t old
      · exact List.mem_singleton.mp new ▸ rfl
    · intro t ht
      rcases List.mem_append.mp ht with old | new
      · left
        rwa [full.tlvs_spare]
      · exact .inr (List.mem_singleton.mp new)

/-- **Accepted requests.** `after` is what can be read behind the packet. -/
theorem accepted_of_parsePacket {req : PacketWrapper}
    (h : parsePacket .zero (packet ++ after) packet.length = .ok (0, req)) : Accepted req := by
  rcases Nat.lt_or_ge packet.length sizeofMessageHdr with short | long
  · rw [parsePacket_short _ _ short] at h
    cases h
  obtain ⟨hdr, ts, tail, shape⟩ := shape_exists packet long
  by_cases reach : InReach ts tail after
  · have result := shape.parsePacket reach
    rw [h, Except.ok.injEq, Prod.mk.injEq] at result
    obtain ⟨ret, rfl⟩ := result
    have looked : lookUps (parsed hdr ts tail after) = if Accepts hdr ts tail then 0 else -1 :=
      lookUps_parsed
    rw [← ret] at looked
    have known : KnownApi (parsed hdr ts tail after).hdr.type ∧
        ∀ t ∈ (parsed hdr ts tail after).tlvs, KnownTlv t.id := by
      by_contra refused
      rw [lookUps, if_neg refused] at looked
      cases looked
    obtain ⟨whole, spare⟩ := @parsed_slots after tail hdr ts reach
    exact ⟨whole, known.2, spare⟩
  · obtain ⟨fault, failed⟩ := shape.parsePacket_fault reach
    rw [h] at failed
    cases failed

end

/-- A TLV that is found by a nonzero id is one that counts. -/
theorem Accepted.mem_tlvs {req : PacketWrapper} (h : Accepted req) {t : TlvHdr}
    (ht : t ∈ req.tlv) (hid : t.id ≠ 0) : t ∈ req.tlvs := by
  rcases h.spare t ht with counts | rfl
  · exact counts
  · exact absurd rfl hid

end AfcDut.Indigo
