import AfcDut.Indigo.Grammar

/-!
# What `parse_packet` does

The parser run on a packet that is cut as in the grammar: each whole TLV takes
one slot, and the rest that no TLV starts is either ignored or completed with
the bytes that follow the packet in memory.
-/

namespace AfcDut.Indigo

/-! ## One TLV -/

theorem parseTlv_short (tlv : TlvHdr) (packet : List UInt8) {packetLen : Nat}
    (short : packetLen < 3) : parseTlv tlv packet packetLen = .ok (-1, tlv) :=
  if_pos short

/-- The three bytes of a TLV header decide how many bytes are copied. -/
theorem parseTlv_cons (tlv : TlvHdr) (hi lo len : UInt8) (rest : List UInt8) {packetLen : Nat}
    (long : 3 ≤ packetLen) :
    parseTlv tlv (hi :: lo :: len :: rest) packetLen =
      if len.toNat ≤ rest.length then
        .ok (len.toNat + 3, ⟨be16 hi lo, len, rest.take len.toNat⟩)
      else
        .error (.read (3 + len.toNat - 1)) := by
  have bound : 3 + len.toNat ≤ (hi :: lo :: len :: rest).length ↔ len.toNat ≤ rest.length := by
    simp only [List.length_cons]
    omega
  rw [parseTlv, if_neg (by omega)]
  show (readBytes (hi :: lo :: len :: rest) 3 len.toNat).bind _ = _
  rw [readBytes]
  by_cases inside : len.toNat ≤ rest.length
  · rw [if_pos (bound.mpr inside), if_pos inside]
    rfl
  · rw [if_neg (fun h => inside (bound.mp h)), if_neg inside]
    rfl

theorem parseTlv_encode (tlv : TlvHdr) (t : Tlv) (rest : List UInt8) {packetLen : Nat}
    (long : 3 ≤ packetLen) :
    parseTlv tlv (t.encode ++ rest) packetLen = .ok (t.encode.length, t.toHdr) := by
  show parseTlv tlv (hi16 t.id :: lo16 t.id :: t.len :: (t.value ++ rest)) packetLen = _
  have inside : t.len.toNat ≤ (t.value ++ rest).length := by
    rw [Tlv.len_toNat, List.length_append]
    omega
  rw [parseTlv_cons _ _ _ _ _ long, if_pos inside, be16_hi16_lo16, Tlv.len_toNat,
    List.take_left, Tlv.length_encode]
  rfl

/-! ## The TLV loop -/

/-- At the offset `parser` the rest of the packet is `body`, and `after` follows
the packet in memory. -/
structure At (packet : List UInt8) (packetLen parser : Nat) (body after : List UInt8) :
    Prop where
  drop : packet.drop parser = body ++ after
  len : packetLen = parser + body.length

theorem At.advance {packet : List UInt8} {packetLen parser : Nat} {bs body after : List UInt8}
    (here : At packet packetLen parser (bs ++ body) after) :
    At packet packetLen (parser + bs.length) body after where
  drop := by
    rw [← List.drop_drop, here.drop, List.append_assoc, List.drop_left]
  len := by
    have len := here.len
    rw [List.length_append] at len
    omega

section

variable {packet : List UInt8} {packetLen parser : Nat} {body after : List UInt8}
variable {req : PacketWrapper}

theorem parseTlvs_end (here : At packet packetLen parser [] after) :
    parseTlvs packet packetLen parser req = .ok req := by
  have len := here.len
  rw [List.length_nil] at len
  rw [parseTlvs, if_neg (by omega)]
  rfl

/-- With the slots used up, the next one is written behind the array. -/
theorem parseTlvs_over (here : At packet packetLen parser body after) (more : body ≠ [])
    (used : tlvNumMax ≤ req.tlvNum) :
    parseTlvs packet packetLen parser req = .error (.slot req.tlvNum) := by
  have pos := List.length_pos_iff.mpr more
  have len := here.len
  rw [parseTlvs, if_pos (by omega), PacketWrapper.setSlot_over _ _ used]
  rfl

/-- One round of the loop. -/
theorem parseTlvs_round (here : At packet packetLen parser body after) (more : body ≠ [])
    (full : req.Full) (room : req.tlvNum < tlvNumMax) :
    parseTlvs packet packetLen parser req =
      (parseTlv TlvHdr.zero (body ++ after) body.length).bind fun (ret, tlv) =>
        if 0 < ret then
          parseTlvs packet packetLen (parser + ret.toNat) (req.push tlv)
        else
          .ok (req.spare tlv) := by
  have pos := List.length_pos_iff.mpr more
  have len := here.len
  rw [parseTlvs, if_pos (by omega), full.setSlot room, here.drop,
    show packetLen - parser = body.length by omega]
  show (parseTlv _ _ _).bind _ = _
  congr 1
  funext ⟨ret, tlv⟩
  show ((req.spare TlvHdr.zero).setSlot req.tlvNum tlv).bind _ = _
  rw [full.setSlot_spare room]
  rfl

/-- A whole TLV takes one slot and moves the offset behind it. -/
theorem parseTlvs_tlv (t : Tlv) (here : At packet packetLen parser (t.encode ++ body) after)
    (full : req.Full) (room : req.tlvNum < tlvNumMax) :
    parseTlvs packet packetLen parser req =
      parseTlvs packet packetLen (parser + t.encode.length) (req.push t.toHdr) := by
  have length := t.length_encode
  rw [parseTlvs_round here (by simp [Tlv.encode]) full room, List.append_assoc,
    parseTlv_encode _ _ _ (by rw [List.length_append]; omega)]
  show (if 0 < (t.encode.length : Int) then _ else _) = _
  rw [if_pos (by omega)]
  rfl

/-- The whole TLVs of the packet fill one slot each, in order, as long as there
are slots. -/
theorem parseTlvs_encodeAll (ts : List Tlv) {req : PacketWrapper}
    (here : At packet packetLen parser (tlvCodec.encodeAll ts ++ body) after)
    (full : req.Full) (room : req.tlvNum + ts.length ≤ tlvNumMax) :
    parseTlvs packet packetLen parser req =
      parseTlvs packet packetLen (parser + (tlvCodec.encodeAll ts).length)
        (req.pushAll (ts.map Tlv.toHdr)) := by
  induction ts generalizing parser req with
  | nil => rw [List.map_nil, PacketWrapper.pushAll_nil]; rfl
  | cons t ts ih =>
      rw [List.length_cons] at room
      rw [Wire.Codec.encodeAll_cons, List.append_assoc] at here
      have next := ih here.advance (full.push t.toHdr)
        (show req.tlvNum + 1 + ts.length ≤ tlvNumMax by omega)
      rw [parseTlvs_tlv t here full (by omega)]
      show parseTlvs _ _ (parser + (tlvCodec.encode t).length) _ = _
      rw [next, List.map_cons, PacketWrapper.pushAll_cons, Wire.Codec.encodeAll_cons,
        List.length_append, Nat.add_assoc]

/-- The TLV after the last slot is not parsed but written out of bounds. -/
theorem parseTlvs_encodeAll_over (ts : List Tlv) {req : PacketWrapper}
    (here : At packet packetLen parser (tlvCodec.encodeAll ts ++ body) after)
    (full : req.Full) (fits : req.tlvNum ≤ tlvNumMax)
    (used : tlvNumMax < req.tlvNum + ts.length) :
    parseTlvs packet packetLen parser req = .error (.slot tlvNumMax) := by
  induction ts generalizing parser req with
  | nil =>
      rw [List.length_nil] at used
      omega
  | cons t ts ih =>
      rw [List.length_cons] at used
      rw [Wire.Codec.encodeAll_cons, List.append_assoc] at here
      rcases Nat.lt_or_ge req.tlvNum tlvNumMax with room | filled
      · have next := ih here.advance (full.push t.toHdr)
          (show req.tlvNum + 1 ≤ tlvNumMax by omega)
          (show tlvNumMax < req.tlvNum + 1 + ts.length by omega)
        rw [parseTlvs_tlv t here full room]
        exact next
      · have more : tlvCodec.encode t ++ (tlvCodec.encodeAll ts ++ body) ≠ [] := by
          intro empty
          exact tlvCodec.encode_ne_nil t (List.append_eq_nil_iff.mp empty).1
        rw [parseTlvs_over here more filled, show req.tlvNum = tlvNumMax by omega]

/-! ## The rest that no TLV starts -/

/-- The wrapper after the loop has met the rest of the packet: one or two bytes
leave a zeroed slot, a longer rest is taken for a whole TLV. -/
def PacketWrapper.finish (w : PacketWrapper) (tail after : List UInt8) : PacketWrapper :=
  match tail with
  | [] => w
  | hi :: lo :: len :: rest => w.push ⟨be16 hi lo, len, (rest ++ after).take len.toNat⟩
  | _ => w.spare TlvHdr.zero

theorem parseTlvs_tail {tail : List UInt8} (here : At packet packetLen parser tail after)
    (stuck : tlvCodec.Stuck tail) (full : req.Full)
    (room : tail = [] ∨ req.tlvNum < tlvNumMax) :
    (missing tail ≤ after.length →
      parseTlvs packet packetLen parser req = .ok (req.finish tail after)) ∧
    (after.length < missing tail →
      ∃ i, parseTlvs packet packetLen parser req = .error (.read i)) := by
  match tail, room with
  | [], _ =>
      constructor
      · intro _
        exact parseTlvs_end here
      · intro beyond
        exact absurd beyond (Nat.not_lt_zero _)
  | [b], .inr room =>
      constructor
      · intro _
        rw [parseTlvs_round here (List.cons_ne_nil _ _) full room,
          parseTlv_short _ _ (by simp)]
        rfl
      · intro beyond
        exact absurd beyond (Nat.not_lt_zero _)
  | [b, b'], .inr room =>
      constructor
      · intro _
        rw [parseTlvs_round here (List.cons_ne_nil _ _) full room,
          parseTlv_short _ _ (by simp)]
        rfl
      · intro beyond
        exact absurd beyond (Nat.not_lt_zero _)
  | hi :: lo :: len :: rest, .inr room =>
      have cut : 0 < missing (hi :: lo :: len :: rest) := by
        rcases (stuck_iff _).mp stuck with short | cut
        · simp only [List.length_cons] at short
          omega
        · exact cut
      simp only [missing] at cut ⊢
      have long : 3 ≤ (hi :: lo :: len :: rest).length := by
        simp only [List.length_cons]
        omega
      have inside : len.toNat ≤ (rest ++ after).length ↔ len.toNat - rest.length ≤ after.length := by
        rw [List.length_append]
        omega
      rw [parseTlvs_round here (List.cons_ne_nil _ _) full room]
      simp only [List.cons_append]
      rw [parseTlv_cons _ _ _ _ _ long]
      constructor
      · intro reach
        rw [if_pos (inside.mpr reach)]
        show (if 0 < (len.toNat : Int) + 3 then _ else _) = _
        rw [if_pos (by omega)]
        -- the offset is now past the end, so the loop is over
        rw [parseTlvs, if_neg]
        · rfl
        · have len' := here.len
          simp only [List.length_cons] at len'
          omega
      · intro beyond
        rw [if_neg (fun h => absurd (inside.mp h) (by omega))]
        exact ⟨_, rfl⟩

end

/-! ## The whole packet -/

/-- The slots the loop sets: one for each whole TLV, and one for a rest. -/
def slots (ts : List Tlv) (tail : List UInt8) : Nat :=
  ts.length + if tail = [] then 0 else 1

/-- The accesses of the loop stay in the slots of the wrapper and in the memory
that can be read. -/
structure InReach (ts : List Tlv) (tail after : List UInt8) : Prop where
  slots : slots ts tail ≤ tlvNumMax
  read : missing tail ≤ after.length

/-- The id that a rest of three bytes or more is taken to have. -/
def cutId : List UInt8 → Option UInt16
  | hi :: lo :: _ :: _ => some (be16 hi lo)
  | _ => none

/-- All ids that the parser looks up are registered. -/
structure Accepts (hdr : MessageHdr) (ts : List Tlv) (tail : List UInt8) : Prop where
  api : KnownApi hdr.type
  tlv : ∀ t ∈ ts, KnownTlv t.id
  cut : ∀ id ∈ cutId tail, KnownTlv id

instance (hdr : MessageHdr) (ts : List Tlv) (tail : List UInt8) :
    Decidable (Accepts hdr ts tail) :=
  decidable_of_iff
    (KnownApi hdr.type ∧ (∀ t ∈ ts, KnownTlv t.id) ∧
      ((cutId tail).all fun id => (getTlvById id).isSome) = true)
    ⟨fun ⟨api, tlv, cut⟩ => ⟨api, tlv, (Option.all_eq_true _ _).mp cut⟩,
      fun h => ⟨h.api, h.tlv, (Option.all_eq_true _ _).mpr h.cut⟩⟩

/-- The wrapper that the parser leaves. -/
def parsed (hdr : MessageHdr) (ts : List Tlv) (tail after : List UInt8) : PacketWrapper :=
  (PacketWrapper.pushAll { PacketWrapper.zero with hdr } (ts.map Tlv.toHdr)).finish tail after

theorem parseMessageHdr_short (hdr : MessageHdr) (message : List UInt8) {messageLen : Nat}
    (short : messageLen < sizeofMessageHdr) :
    parseMessageHdr hdr message messageLen = .ok (-1, hdr) :=
  if_pos short

theorem parseMessageHdr_bytes (hdr hdr' : MessageHdr) (rest : List UInt8) {messageLen : Nat}
    (long : sizeofMessageHdr ≤ messageLen) :
    parseMessageHdr hdr' (hdr.bytes ++ rest) messageLen = .ok (sizeofMessageHdr, hdr) := by
  have read : parseMessageHdr hdr' (hdr.bytes ++ rest) messageLen =
      .ok (sizeofMessageHdr, ⟨hdr.version, be16 (hi16 hdr.type) (lo16 hdr.type),
        be16 (hi16 hdr.seq) (lo16 hdr.seq), hdr.reserved, hdr.reserved2⟩) := by
    rw [parseMessageHdr, if_neg (by omega)]
    rfl
  rw [read, be16_hi16_lo16, be16_hi16_lo16]

theorem parsePacket_short (req : PacketWrapper) (packet : List UInt8) {packetLen : Nat}
    (short : packetLen < sizeofMessageHdr) :
    parsePacket req packet packetLen = .ok (-1, req) := by
  rw [parsePacket, parseMessageHdr_short _ _ short]
  rfl

/-- The look-ups after the loop. -/
def lookUps (req : PacketWrapper) : Int :=
  if KnownApi req.hdr.type ∧ ∀ t ∈ req.tlvs, KnownTlv t.id then 0 else -1

theorem parsePacket_hdr (req : PacketWrapper) (hdr : MessageHdr) (rest : List UInt8)
    {packetLen : Nat} (long : sizeofMessageHdr ≤ packetLen) :
    parsePacket req (hdr.bytes ++ rest) packetLen =
      (parseTlvs (hdr.bytes ++ rest) packetLen sizeofMessageHdr { req with hdr }).bind
        fun req => .ok (lookUps req, req) := by
  rw [parsePacket, parseMessageHdr_bytes _ _ _ long]
  show (parseTlvs _ _ sizeofMessageHdr { req with hdr }).bind _ = _
  congr 1
  funext req
  have all : (req.tlvs.all fun tlv => (getTlvById tlv.id).isSome) = true ↔
      ∀ t ∈ req.tlvs, KnownTlv t.id := List.all_eq_true
  cases found : getApiById indigoApiList req.hdr.type with
  | none =>
      have unknown : ¬KnownApi req.hdr.type := by simp [KnownApi, found]
      have refused : lookUps req = -1 := if_neg (fun h => unknown h.1)
      rw [refused]
      rfl
  | some api =>
      have api : KnownApi req.hdr.type := by simp [KnownApi, found]
      by_cases known : ∀ t ∈ req.tlvs, KnownTlv t.id
      · have accepted : lookUps req = 0 := if_pos ⟨api, known⟩
        rw [accepted]
        exact if_pos (all.mpr known)
      · have refused : lookUps req = -1 := if_neg (fun h => known h.2)
        rw [refused]
        exact if_neg (fun h => known (all.mp h))

section

variable {packet after tail : List UInt8} {hdr : MessageHdr} {ts : List Tlv}

theorem parsed_hdr : (parsed hdr ts tail after).hdr = hdr := by
  unfold parsed PacketWrapper.finish
  split <;> rfl

theorem full_hdr (hdr : MessageHdr) : PacketWrapper.Full { PacketWrapper.zero with hdr } := rfl

/-- With nothing left over the wrapper has the TLVs of the packet. -/
theorem parsed_whole : parsed hdr ts [] after =
    ⟨hdr, ts.map Tlv.toHdr, ts.length⟩ := by
  simp [parsed, PacketWrapper.finish, PacketWrapper.pushAll, PacketWrapper.zero]

theorem lookUps_parsed : lookUps (parsed hdr ts tail after) =
    if Accepts hdr ts tail then 0 else -1 := by
  have full := (full_hdr hdr).pushAll (ts.map Tlv.toHdr)
  have whole : (∀ t ∈ ts.map Tlv.toHdr, KnownTlv t.id) ↔ ∀ t ∈ ts, KnownTlv t.id := by
    rw [List.forall_mem_map]
    rfl
  have all : (∀ t ∈ (parsed hdr ts tail after).tlvs, KnownTlv t.id) ↔
      (∀ t ∈ ts, KnownTlv t.id) ∧ ∀ id ∈ cutId tail, KnownTlv id := by
    unfold parsed PacketWrapper.finish
    split
    case h_1 =>
      rw [full.tlvs_eq]
      show (∀ t ∈ ts.map Tlv.toHdr, KnownTlv t.id) ↔ _
      rw [whole]
      simp [cutId]
    case h_2 hi lo len rest =>
      rw [(full.push _).tlvs_eq]
      show (∀ t ∈ ts.map Tlv.toHdr ++ [_], KnownTlv t.id) ↔ _
      rw [List.forall_mem_append, whole, List.forall_mem_singleton]
      simp [cutId]
    case h_3 short long =>
      have none : cutId tail = none := by
        unfold cutId
        split
        case h_1 hi lo len rest => exact absurd rfl (long hi lo len rest)
        case h_2 => rfl
      rw [full.tlvs_spare, none]
      show (∀ t ∈ ts.map Tlv.toHdr, KnownTlv t.id) ↔ _
      rw [whole]
      simp
  rw [lookUps, parsed_hdr]
  by_cases accepts : Accepts hdr ts tail
  · rw [if_pos accepts, if_pos ⟨accepts.api, all.mpr ⟨accepts.tlv, accepts.cut⟩⟩]
  · rw [if_neg accepts]
    apply if_neg
    intro ⟨api, ids⟩
    exact accepts ⟨api, (all.mp ids).1, (all.mp ids).2⟩

theorem Shape.memory (shape : Shape packet hdr ts tail) :
    packet ++ after = hdr.bytes ++ (tlvCodec.encodeAll ts ++ tail ++ after) := by
  rw [shape.eq, messageBytes]
  simp only [List.append_assoc]

/-- Where the loop starts. -/
theorem Shape.here (shape : Shape packet hdr ts tail) (after : List UInt8) :
    At (hdr.bytes ++ (tlvCodec.encodeAll ts ++ tail ++ after)) packet.length
      sizeofMessageHdr (tlvCodec.encodeAll ts ++ tail) after where
  drop := by rw [← hdr.length_bytes, List.drop_left]
  len := by rw [shape.eq, messageBytes, List.append_assoc, List.length_append, hdr.length_bytes]

/-- Inside its reach the parser takes the rest for one more TLV or drops it,
and answers by the ids alone. -/
theorem Shape.parsePacket (shape : Shape packet hdr ts tail) (reach : InReach ts tail after) :
    parsePacket .zero (packet ++ after) packet.length =
      .ok (if Accepts hdr ts tail then 0 else -1, parsed hdr ts tail after) := by
  have slots := reach.slots
  have here := shape.here after
  have room : tail = [] ∨ ts.length < tlvNumMax := by
    rcases Decidable.em (tail = []) with empty | more
    · exact .inl empty
    · rw [Indigo.slots, if_neg more] at slots
      exact .inr slots
  have count : 0 + ts.length ≤ tlvNumMax := by
    rw [Indigo.slots] at slots
    omega
  have loop := parseTlvs_encodeAll ts here (full_hdr hdr) count
  have rest := (parseTlvs_tail here.advance shape.stuck
    ((full_hdr hdr).pushAll (ts.map Tlv.toHdr)) (by
      show tail = [] ∨ 0 + (ts.map Tlv.toHdr).length < tlvNumMax
      rwa [List.length_map, Nat.zero_add])).1 reach.read
  rw [shape.memory, parsePacket_hdr _ _ _ shape.long, loop, rest]
  show Except.ok (lookUps (parsed hdr ts tail after), parsed hdr ts tail after) = _
  rw [lookUps_parsed]

/-- Outside its reach the parser has no defined result. -/
theorem Shape.parsePacket_fault (shape : Shape packet hdr ts tail)
    (beyond : ¬InReach ts tail after) :
    ∃ fault, Indigo.parsePacket .zero (packet ++ after) packet.length = .error fault := by
  have here := shape.here after
  have loop : ∃ fault, parseTlvs (hdr.bytes ++ (tlvCodec.encodeAll ts ++ tail ++ after))
      packet.length sizeofMessageHdr { PacketWrapper.zero with hdr } = .error fault := by
    rcases Nat.lt_or_ge tlvNumMax ts.length with many | count
    · exact ⟨_, parseTlvs_encodeAll_over ts here (full_hdr hdr) (Nat.zero_le _)
        (by show tlvNumMax < 0 + ts.length; omega)⟩
    rw [parseTlvs_encodeAll ts here (full_hdr hdr) (by show 0 + ts.length ≤ tlvNumMax; omega)]
    have full := (full_hdr hdr).pushAll (ts.map Tlv.toHdr)
    have used : (PacketWrapper.pushAll { PacketWrapper.zero with hdr }
        (ts.map Tlv.toHdr)).tlvNum = ts.length := by
      show 0 + (ts.map Tlv.toHdr).length = _
      rw [List.length_map, Nat.zero_add]
    rcases Decidable.em (tail = []) with empty | more
    · refine absurd ⟨?_, ?_⟩ beyond
      · rw [slots, if_pos empty]
        exact count
      · rw [empty]
        exact Nat.zero_le _
    rcases Nat.lt_or_ge ts.length tlvNumMax with room | filled
    · have short : after.length < missing tail := by
        apply Nat.lt_of_not_le
        intro read
        apply beyond
        refine ⟨?_, read⟩
        rw [slots, if_neg more]
        exact room
      obtain ⟨i, fault⟩ := (parseTlvs_tail here.advance shape.stuck full
        (.inr (by rw [used]; exact room))).2 short
      exact ⟨_, fault⟩
    · exact ⟨_, parseTlvs_over here.advance more (by rw [used]; exact filled)⟩
  obtain ⟨fault, loop⟩ := loop
  refine ⟨fault, ?_⟩
  rw [shape.memory, parsePacket_hdr _ _ _ shape.long, loop]
  rfl

end

end AfcDut.Indigo
