import AfcDut.Indigo.Grammar

/-!
# What `assemble_packet` does

The writes of the assembler as changes of a buffer: an item that fits is
written at the offset, one that does not takes a byte back from what is there.
-/

namespace AfcDut.Indigo

/-! ## Buffers -/

/-- The buffer with the bytes written at the offset. -/
def patch (buf : List UInt8) (off : Nat) (bytes : List UInt8) : List UInt8 :=
  buf.take off ++ bytes ++ buf.drop (off + bytes.length)

section

variable {buf bytes : List UInt8} {off : Nat}

theorem store_patch (inside : off + bytes.length ≤ buf.length) :
    store buf off bytes = .ok (patch buf off bytes) :=
  if_pos ⟨Int.natCast_nonneg off, inside⟩

theorem store_before (bytes : List UInt8) {start : Int} (before : start < 0) :
    store buf start bytes = .error (.write start) :=
  if_neg (fun h => absurd h.1 (by omega))

theorem length_patch (inside : off + bytes.length ≤ buf.length) :
    (patch buf off bytes).length = buf.length := by
  simp only [patch, List.length_append, List.length_take, List.length_drop]
  omega

theorem take_patch (inside : off + bytes.length ≤ buf.length) :
    (patch buf off bytes).take (off + bytes.length) = buf.take off ++ bytes := by
  have length : (buf.take off ++ bytes).length = off + bytes.length := by
    rw [List.length_append, List.length_take]
    omega
  rw [← length, patch, List.take_left]

theorem take_patch_zero (inside : bytes.length ≤ buf.length) :
    (patch buf 0 bytes).take bytes.length = bytes := by
  have inside : 0 + bytes.length ≤ buf.length := by omega
  have taken := take_patch inside
  rw [Nat.zero_add, List.take_zero, List.nil_append] at taken
  exact taken

/-- A write leaves what lies before it. -/
theorem take_patch_le {q : Nat} (le : q ≤ off) (inside : off ≤ buf.length) :
    (patch buf off bytes).take q = buf.take q := by
  have prior : q ≤ (buf.take off).length := by
    rw [List.length_take]
    omega
  rw [patch, List.append_assoc, List.take_append_of_le_length prior, List.take_take,
    Nat.min_eq_left le]

/-- Two writes in a row are one. -/
theorem patch_patch (more : List UInt8) (inside : off + bytes.length ≤ buf.length) :
    patch (patch buf off bytes) (off + bytes.length) more = patch buf off (bytes ++ more) := by
  have length : (buf.take off ++ bytes).length = off + bytes.length := by
    rw [List.length_append, List.length_take]
    omega
  have rest : (patch buf off bytes).drop (off + bytes.length + more.length) =
      buf.drop (off + (bytes ++ more).length) := by
    have past : (patch buf off bytes).drop (off + bytes.length) =
        buf.drop (off + bytes.length) := by
      rw [← length, patch, List.drop_left, length]
    rw [← List.drop_drop, past, List.drop_drop, List.length_append, Nat.add_assoc]
  rw [patch, take_patch inside, rest, patch]
  simp only [List.append_assoc]

theorem patch_nil : patch buf off [] = buf := by
  simp [patch]

end

/-! ## One TLV -/

namespace TlvHdr

/-- The value has the bytes that the length byte announces. -/
def Readable (t : TlvHdr) : Prop := t.len.toNat ≤ t.value.length

/-- The TLV as a peer sees it. -/
def shown (t : TlvHdr) : Tlv where
  id := t.id
  value := t.value.take t.len.toNat
  fits := by
    have lt : t.len.toNat < 256 := t.len.toNat_lt
    rw [List.length_take]
    omega

theorem Readable.length_shown {t : TlvHdr} (readable : t.Readable) :
    t.shown.value.length = t.len.toNat := by
  show (t.value.take t.len.toNat).length = _
  rw [List.length_take]
  exact Nat.min_eq_left readable

theorem Readable.length_encode {t : TlvHdr} (readable : t.Readable) :
    t.shown.encode.length = t.len.toNat + 3 := by
  rw [Tlv.length_encode, readable.length_shown]

theorem Readable.encode_shown {t : TlvHdr} (readable : t.Readable) :
    t.shown.encode = [hi16 t.id, lo16 t.id, t.len] ++ t.value.take t.len.toNat := by
  have len : t.shown.len = t.len := by
    rw [Tlv.len, readable.length_shown, UInt8.ofNat_toNat]
  rw [Tlv.encode, len]
  rfl

end TlvHdr

theorem Tlv.readable_toHdr (t : Tlv) : t.toHdr.Readable := by
  show t.len.toNat ≤ t.value.length
  exact Nat.le_of_eq t.len_toNat

@[simp] theorem Tlv.shown_toHdr (t : Tlv) : t.toHdr.shown = t := by
  have value : t.value.take t.len.toNat = t.value := by
    rw [Tlv.len_toNat, List.take_length]
  cases t
  simp only [TlvHdr.shown, Tlv.toHdr, Tlv.mk.injEq, true_and]
  exact value

section

variable {buf : List UInt8} {t : TlvHdr}

theorem genTlv_full {packet packetSize : Int} (full : packetSize < t.len.toNat + 3) :
    genTlv buf packet packetSize t = .ok (-1, buf) :=
  if_pos full

theorem genTlv_fits (readable : t.Readable) {off : Nat} {packetSize : Int}
    (room : t.len.toNat + 3 ≤ packetSize)
    (inside : off + t.shown.encode.length ≤ buf.length) :
    genTlv buf off packetSize t =
      .ok (t.shown.encode.length, patch buf off t.shown.encode) := by
  have length := readable.length_encode
  have head : off + [hi16 t.id, lo16 t.id, t.len].length ≤ buf.length := by
    show off + 3 ≤ buf.length
    omega
  have value : off + 3 + (t.value.take t.len.toNat).length ≤
      (patch buf off [hi16 t.id, lo16 t.id, t.len]).length := by
    have count := readable.length_shown
    rw [length_patch head]
    show off + 3 + t.shown.value.length ≤ _
    omega
  have copied : readBytes t.value 0 t.len.toNat = .ok (t.value.take t.len.toNat) :=
    if_pos (by rw [Nat.zero_add]; exact readable)
  rw [genTlv, if_neg (by omega), store_patch head]
  show (readBytes t.value 0 t.len.toNat).bind _ = _
  rw [copied]
  show (store _ ((off + 3 : Nat) : Int) _).bind _ = _
  rw [store_patch value, readable.length_encode, readable.encode_shown]
  show Except.ok (_, patch (patch buf off _) (off + [hi16 t.id, lo16 t.id, t.len].length) _) = _
  rw [patch_patch _ head]
  rfl

/-- In front of the buffer there is nothing to write to. -/
theorem genTlv_before {packet packetSize : Int} (room : t.len.toNat + 3 ≤ packetSize)
    (before : packet < 0) : genTlv buf packet packetSize t = .error (.write packet) := by
  rw [genTlv, if_neg (by omega), store_before _ before]
  rfl

end

/-! ## The TLV loop -/

section

variable {buf : List UInt8} {size : Nat} {t : TlvHdr} {ts : List TlvHdr}

theorem genTlvs_full {off : Int} (full : size < off + t.len.toNat + 3) :
    genTlvs buf size off (t :: ts) = genTlvs buf size (off - 1) ts := by
  rw [genTlvs, genTlv_full (by omega)]
  rfl

theorem genTlvs_fits (readable : t.Readable) {off : Nat}
    (room : off + t.shown.encode.length ≤ size) (inside : size ≤ buf.length) :
    genTlvs buf size off (t :: ts) =
      genTlvs (patch buf off t.shown.encode) size ((off + t.shown.encode.length : Nat)) ts := by
  have length := readable.length_encode
  have moved : ((t.shown.encode.length : Nat) : Int) ≠ 0 := by omega
  rw [genTlvs, genTlv_fits readable (by omega) (by omega)]
  show (if ((t.shown.encode.length : Nat) : Int) ≠ 0 then
      genTlvs (patch buf off t.shown.encode) size (off + t.shown.encode.length) ts
    else .ok (off, patch buf off t.shown.encode)) = _
  rw [if_pos moved]
  rfl

theorem genTlvs_before {off : Int} (room : off + t.len.toNat + 3 ≤ size) (before : off < 0) :
    genTlvs buf size off (t :: ts) = .error (.write off) := by
  rw [genTlvs, genTlv_before (by omega) before]
  rfl

/-- TLVs that fit are written one after the other. -/
theorem genTlvs_append (buf : List UInt8) (off : Nat) (ts rest : List TlvHdr)
    (readable : ∀ t ∈ ts, t.Readable)
    (room : off + (tlvCodec.encodeAll (ts.map TlvHdr.shown)).length ≤ size)
    (inside : size ≤ buf.length) :
    genTlvs buf size off (ts ++ rest) =
      genTlvs (patch buf off (tlvCodec.encodeAll (ts.map TlvHdr.shown))) size
        (off + (tlvCodec.encodeAll (ts.map TlvHdr.shown)).length : Nat) rest := by
  induction ts generalizing buf off with
  | nil =>
      rw [List.map_nil, Wire.Codec.encodeAll_nil, patch_nil]
      rfl
  | cons t ts ih =>
      rw [List.forall_mem_cons] at readable
      rw [List.map_cons, Wire.Codec.encodeAll_cons, List.length_append] at room
      have first : off + t.shown.encode.length ≤ size := by
        have room : off + (t.shown.encode.length + _) ≤ size := room
        omega
      have within : off + t.shown.encode.length ≤ buf.length := by omega
      have next := ih (patch buf off t.shown.encode) (off + t.shown.encode.length) readable.2
        (by rw [Nat.add_assoc]; exact room) (by rw [length_patch within]; exact inside)
      rw [List.cons_append, genTlvs_fits readable.1 first inside, next, patch_patch _ within,
        List.map_cons, Wire.Codec.encodeAll_cons, List.length_append, Nat.add_assoc]
      rfl

/-- TLVs none of which fits leave the buffer and take a byte each from the
offset. -/
theorem genTlvs_none (buf : List UInt8) (ts : List TlvHdr) {off : Int}
    (full : ∀ i (lt : i < ts.length), (size : Int) < off - i + ts[i].len.toNat + 3) :
    genTlvs buf size off ts = .ok (off - ts.length, buf) := by
  induction ts generalizing off with
  | nil =>
      rw [genTlvs, List.length_nil]
      simp
  | cons t ts ih =>
      have head := full 0 (Nat.zero_lt_succ _)
      have tail : ∀ i (lt : i < ts.length), (size : Int) < off - 1 - i + ts[i].len.toNat + 3 := by
        intro i lt
        have next := full (i + 1) (Nat.succ_lt_succ lt)
        rw [List.getElem_cons_succ] at next
        omega
      rw [List.getElem_cons_zero] at head
      rw [genTlvs_full (by omega), ih tail, List.length_cons]
      congr 2
      omega

/-- Below the buffer the first TLV that would fit is written out of bounds. -/
theorem genTlvs_fault (buf : List UInt8) (ts : List TlvHdr) {off : Int} (before : off < 0)
    (room : ∃ i, ∃ lt : i < ts.length, off - i + ts[i].len.toNat + 3 ≤ (size : Int)) :
    ∃ fault, genTlvs buf size off ts = .error fault := by
  induction ts generalizing off with
  | nil =>
      obtain ⟨i, lt, _⟩ := room
      exact absurd lt (Nat.not_lt_zero i)
  | cons t ts ih =>
      rcases Int.lt_or_le size (off + t.len.toNat + 3) with full | fits
      · rw [genTlvs_full full]
        apply ih (by omega)
        obtain ⟨i, lt, room⟩ := room
        cases i with
        | zero =>
            rw [List.getElem_cons_zero] at room
            omega
        | succ i =>
            refine ⟨i, Nat.lt_of_succ_lt_succ lt, ?_⟩
            rw [List.getElem_cons_succ] at room
            omega
      · exact ⟨_, genTlvs_before fits before⟩

/-- In a buffer with room for a header and the longest TLV the offset stays
behind the header, whatever does not fit. -/
theorem genTlvs_keeps (ts : List TlvHdr) (readable : ∀ t ∈ ts, t.Readable) {off : Nat}
    (behind : sizeofMessageHdr ≤ off) (large : 265 ≤ size)
    (inside : size ≤ buf.length) :
    ∃ len : Nat, ∃ out, genTlvs buf size off ts = .ok (Int.ofNat len, out) ∧
      sizeofMessageHdr ≤ len ∧ out.take sizeofMessageHdr = buf.take sizeofMessageHdr := by
  have seven : sizeofMessageHdr = 7 := rfl
  induction ts generalizing buf off with
  | nil => exact ⟨off, buf, rfl, behind, rfl⟩
  | cons t ts ih =>
      rw [List.forall_mem_cons] at readable
      have length := readable.1.length_encode
      have lt : t.len.toNat < 256 := t.len.toNat_lt
      rcases Nat.lt_or_ge size (off + t.len.toNat + 3) with full | fits
      · have back : (off : Int) - 1 = (off - 1 : Nat) := by omega
        rw [genTlvs_full (by omega), back]
        exact ih readable.2 (by omega) inside
      · have within : off + t.shown.encode.length ≤ buf.length := by omega
        rw [genTlvs_fits readable.1 (by omega) inside]
        obtain ⟨len, out, run, long, kept⟩ := ih readable.2
          (show sizeofMessageHdr ≤ off + t.shown.encode.length by omega)
          (show size ≤ (patch buf off t.shown.encode).length by rw [length_patch within]; omega)
        refine ⟨len, out, run, long, ?_⟩
        rw [kept, take_patch_le behind (by omega)]

end

/-! ## The whole packet -/

/-- The bytes of the wrapper, had they all room. -/
def PacketWrapper.bytes (w : PacketWrapper) : List UInt8 :=
  messageBytes w.hdr (w.tlvs.map TlvHdr.shown)

theorem tlvs_whole (hdr : MessageHdr) (ts : List Tlv) :
    PacketWrapper.tlvs ⟨hdr, ts.map Tlv.toHdr, ts.length⟩ = ts.map Tlv.toHdr := by
  apply List.take_of_length_le
  exact Nat.le_of_eq (List.length_map _)

theorem readable_whole (hdr : MessageHdr) (ts : List Tlv) :
    ∀ t ∈ PacketWrapper.tlvs ⟨hdr, ts.map Tlv.toHdr, ts.length⟩, t.Readable := by
  rw [tlvs_whole, List.forall_mem_map]
  intro t _
  exact t.readable_toHdr

/-- A wrapper of TLVs of the grammar has the bytes of a message. -/
theorem bytes_whole (hdr : MessageHdr) (ts : List Tlv) :
    PacketWrapper.bytes ⟨hdr, ts.map Tlv.toHdr, ts.length⟩ = messageBytes hdr ts := by
  have same : ∀ t ∈ ts, (TlvHdr.shown ∘ Tlv.toHdr) t = id t := by
    intro t _
    exact t.shown_toHdr
  rw [PacketWrapper.bytes, tlvs_whole, List.map_map, List.map_congr_left same, List.map_id]

section

variable {buf : List UInt8} {size : Nat} {w : PacketWrapper}

theorem assemblePacket_short (short : size < sizeofMessageHdr) :
    assemblePacket buf size w = genTlvs buf size (-1) w.tlvs := by
  rw [assemblePacket, genMessageHdr, if_pos short]
  rfl

theorem assemblePacket_hdr (long : sizeofMessageHdr ≤ size) (inside : size ≤ buf.length) :
    assemblePacket buf size w =
      genTlvs (patch buf 0 w.hdr.bytes) size sizeofMessageHdr w.tlvs := by
  have head : 0 + w.hdr.bytes.length ≤ buf.length := by
    rw [MessageHdr.length_bytes]
    omega
  rw [assemblePacket, genMessageHdr, if_neg (by omega)]
  show ((store buf ((0 : Nat) : Int) w.hdr.bytes).bind _).bind _ = _
  rw [store_patch head]
  rfl

/-- A wrapper whose bytes all have room is assembled to these bytes. -/
theorem assemblePacket_all (readable : ∀ t ∈ w.tlvs, t.Readable)
    (room : w.bytes.length ≤ size) (inside : size ≤ buf.length) :
    assemblePacket buf size w = .ok (w.bytes.length, patch buf 0 w.bytes) := by
  have split : w.bytes.length =
      sizeofMessageHdr + (tlvCodec.encodeAll (w.tlvs.map TlvHdr.shown)).length := by
    rw [PacketWrapper.bytes, messageBytes, List.length_append, MessageHdr.length_bytes]
  have head : 0 + w.hdr.bytes.length ≤ buf.length := by
    rw [MessageHdr.length_bytes]
    omega
  have joined := patch_patch (tlvCodec.encodeAll (w.tlvs.map TlvHdr.shown)) head
  rw [MessageHdr.length_bytes, Nat.zero_add] at joined
  have behind : sizeofMessageHdr + (tlvCodec.encodeAll (w.tlvs.map TlvHdr.shown)).length ≤
      size := by omega
  have written := genTlvs_append (patch buf 0 w.hdr.bytes) sizeofMessageHdr w.tlvs []
    readable behind (by rw [length_patch head]; exact inside)
  rw [List.append_nil] at written
  rw [assemblePacket_hdr (by omega) inside, written, joined, split]
  rfl

/-- Such a buffer gets the header of the wrapper in any case. -/
theorem assemblePacket_keeps (readable : ∀ t ∈ w.tlvs, t.Readable)
    (large : 265 ≤ size) (inside : size ≤ buf.length) :
    ∃ len : Nat, ∃ out body, assemblePacket buf size w = .ok (Int.ofNat len, out) ∧
      out.take len = w.hdr.bytes ++ body := by
  have seven : sizeofMessageHdr = 7 := rfl
  have head : 0 + w.hdr.bytes.length ≤ buf.length := by
    rw [MessageHdr.length_bytes]
    omega
  obtain ⟨len, out, run, long, kept⟩ := genTlvs_keeps w.tlvs readable
    (Nat.le_refl sizeofMessageHdr) large
    (show size ≤ (patch buf 0 w.hdr.bytes).length by rw [length_patch head]; exact inside)
  have header : (out.take len).take sizeofMessageHdr = w.hdr.bytes := by
    rw [List.take_take, Nat.min_eq_left long, kept]
    exact take_patch_zero (show w.hdr.bytes.length ≤ buf.length by omega)
  refine ⟨len, out, (out.take len).drop sizeofMessageHdr, ?_, ?_⟩
  · rw [assemblePacket_hdr (by omega) inside]
    exact run
  · rw [← header, List.take_append_drop]

end

end AfcDut.Indigo
