import AfcDut.Indigo.Fill

/-!
# Assembling into a buffer of any size

When `assemble_packet` reports a failure or leaves a message that holds the
filled header and a run of the filled TLVs from the first on.
-/

namespace AfcDut.Indigo

/-! ## What was filled in, and what a peer sees -/

namespace FillCall

def pair (c : FillCall) : Int × List UInt8 := (c.id, c.value)

/-- The id fits two bytes, and the length of the value one. -/
structure Plain (c : FillCall) : Prop where
  id_nonneg : 0 ≤ c.id
  id_lt : c.id < 65536
  value_lt : c.value.length < 256

instance (c : FillCall) : Decidable c.Plain :=
  decidable_of_iff (0 ≤ c.id ∧ c.id < 65536 ∧ c.value.length < 256)
    ⟨fun ⟨nonneg, lt, value⟩ => ⟨nonneg, lt, value⟩,
      fun h => ⟨h.id_nonneg, h.id_lt, h.value_lt⟩⟩

/-- The bytes the TLV takes in the packet; the length has wrapped. -/
def size (c : FillCall) : Nat := 3 + c.value.length % 256

end FillCall

def Tlv.pair (t : Tlv) : Int × List UInt8 := (t.id.toNat, t.value)

/-- The room that the TLVs of the calls need. -/
def callsSize : List FillCall → Nat
  | [] => 0
  | c :: calls => c.size + callsSize calls

/-- The room the whole message needs. -/
def filledSize (calls : List FillCall) : Nat := 7 + callsSize calls

/-- The assembler fails with a negative result, or leaves at most `size` bytes
that are the header and the first of the pairs passed to the fill calls. -/
def Uncorrupted (msgType seq : Int) (calls : List FillCall) (buf : List UInt8) (size : Nat) :
    Prop :=
  ∃ w, fillWrapper msgType seq calls = .ok w ∧
    ∃ ret out, assemblePacket buf size w = .ok (ret, out) ∧
      (ret < 0 ∨ ∃ len : Nat, ret = len ∧ len ≤ size ∧
        ∃ ts : List Tlv, out.take len = messageBytes w.hdr ts ∧
          ts.map Tlv.pair <+: calls.map FillCall.pair)

theorem FillCall.pair_shown_iff (c : FillCall) : c.tlv.shown.pair = c.pair ↔ c.Plain := by
  have id : (UInt16.ofInt c.id).toNat = (c.id % 65536).toNat := by
    rw [UInt16.ofInt, UInt16.toNat_ofNat']
    exact Nat.mod_eq_of_lt (by omega)
  have value : (c.value.take (c.value.length % 256) = c.value) ↔ c.value.length < 256 := by
    constructor
    · intro same
      have lengths := congrArg List.length same
      rw [List.length_take] at lengths
      omega
    · intro short
      rw [Nat.mod_eq_of_lt short, List.take_length]
  show (((UInt16.ofInt c.id).toNat : Int), c.value.take c.tlv.len.toNat) = (c.id, c.value) ↔ _
  rw [Prod.mk.injEq, c.tlv_len, value, id]
  constructor
  · intro ⟨same, short⟩
    exact ⟨by omega, by omega, short⟩
  · intro plain
    have nonneg := plain.id_nonneg
    have lt := plain.id_lt
    exact ⟨by omega, plain.value_lt⟩

theorem map_pair_shown_iff (calls : List FillCall) :
    ((calls.map FillCall.tlv).map TlvHdr.shown).map Tlv.pair <+: calls.map FillCall.pair ↔
      ∀ c ∈ calls, c.Plain := by
  have whole : ((calls.map FillCall.tlv).map TlvHdr.shown).map Tlv.pair <+:
        calls.map FillCall.pair ↔
      calls.map (fun c => c.tlv.shown.pair) = calls.map FillCall.pair := by
    rw [List.map_map, List.map_map]
    constructor
    · intro start
      exact start.eq_of_length (by rw [List.length_map, List.length_map])
    · intro same
      exact same ▸ List.prefix_refl _
  rw [whole, List.map_inj_left]
  constructor
  · intro same c mem
    exact c.pair_shown_iff.mp (same c mem)
  · intro plain c mem
    exact c.pair_shown_iff.mpr (plain c mem)

/-! ## Sizes -/

theorem FillCall.length_encode (c : FillCall) : c.tlv.shown.encode.length = c.size := by
  rw [c.readable_tlv.length_encode, c.tlv_len, Nat.add_comm]
  rfl

theorem length_encodeAll_filled (calls : List FillCall) :
    (tlvCodec.encodeAll ((calls.map FillCall.tlv).map TlvHdr.shown)).length =
      callsSize calls := by
  induction calls with
  | nil => rfl
  | cons c calls ih =>
      rw [List.map_cons, List.map_cons, Wire.Codec.encodeAll_cons, List.length_append, ih]
      show c.tlv.shown.encode.length + _ = c.size + _
      rw [c.length_encode]

/-- TLVs that are the first of the pairs have the size of the first calls. -/
theorem length_messageBytes_of_prefix {hdr : MessageHdr} {ts : List Tlv}
    {calls : List FillCall} (start : ts.map Tlv.pair <+: calls.map FillCall.pair) :
    ts.length ≤ calls.length ∧
      (messageBytes hdr ts).length = filledSize (calls.take ts.length) := by
  induction ts generalizing calls with
  | nil => exact ⟨Nat.zero_le _, rfl⟩
  | cons t ts ih =>
      cases calls with
      | nil =>
          have short := start.length_le
          rw [List.length_map, List.length_cons] at short
          exact absurd short (by simp)
      | cons c calls =>
          rw [List.map_cons, List.map_cons, List.cons_prefix_cons] at start
          obtain ⟨first, start⟩ := start
          obtain ⟨count, length⟩ := ih start
          have value : t.value = c.value := congrArg Prod.snd first
          have fits := t.fits
          have size : t.encode.length = c.size := by
            rw [t.length_encode, FillCall.size, ← value, Nat.mod_eq_of_lt fits, Nat.add_comm]
          refine ⟨Nat.succ_le_succ count, ?_⟩
          have body : (messageBytes hdr (t :: ts)).length =
              t.encode.length + (messageBytes hdr ts).length := by
            simp only [messageBytes, Wire.Codec.encodeAll_cons, List.length_append]
            show _ + (t.encode.length + _) = _
            omega
          rw [body, size, length, List.length_cons, List.take_succ_cons]
          simp only [filledSize, callsSize]
          omega

theorem filledSize_append (as bs : List FillCall) :
    filledSize (as ++ bs) = filledSize as + callsSize bs := by
  induction as with
  | nil => rfl
  | cons c as ih =>
      simp only [filledSize, List.cons_append, callsSize] at ih ⊢
      omega

/-- Each further call takes three bytes at least. -/
theorem filledSize_take_lt (calls : List FillCall) {k j : Nat} (lt : k < j)
    (le : j ≤ calls.length) : filledSize (calls.take k) + 3 ≤ filledSize (calls.take j) := by
  have split : calls.take j = calls.take k ++ (calls.take j).drop k := by
    have taken : (calls.take j).take k = calls.take k := by
      rw [List.take_take, Nat.min_eq_left (Nat.le_of_lt lt)]
    rw [← taken, List.take_append_drop]
  have more : 0 < ((calls.take j).drop k).length := by
    rw [List.length_drop, List.length_take]
    omega
  have size : 3 ≤ callsSize ((calls.take j).drop k) := by
    match (calls.take j).drop k, more with
    | c :: cs, _ =>
        rw [callsSize, FillCall.size]
        omega
  rw [split, filledSize_append]
  omega

theorem filledSize_take_le (calls : List FillCall) {k j : Nat} (le : k ≤ j)
    (fits : j ≤ calls.length) : filledSize (calls.take k) ≤ filledSize (calls.take j) := by
  rcases Nat.lt_or_eq_of_le le with lt | rfl
  · have grown := filledSize_take_lt calls lt fits
    omega
  · exact Nat.le_refl _

/-! ## The three ways a buffer can be short -/

section

variable {msgType seq : Int} {calls : List FillCall} {buf : List UInt8} {size : Nat}

/-- The result of the assembler decides. -/
theorem uncorrupted_iff_of_run (count : calls.length ≤ tlvNumMax) {ret : Int}
    {out : List UInt8}
    (run : assemblePacket buf size ⟨filledHdr msgType seq, calls.map FillCall.tlv,
      calls.length⟩ = .ok (ret, out)) :
    Uncorrupted msgType seq calls buf size ↔
      (ret < 0 ∨ ∃ len : Nat, ret = len ∧ len ≤ size ∧
        ∃ ts : List Tlv, out.take len = messageBytes (filledHdr msgType seq) ts ∧
          ts.map Tlv.pair <+: calls.map FillCall.pair) := by
  constructor
  · intro ⟨w, filled, ret', out', run', sound⟩
    rw [fillWrapper_eq count] at filled
    injection filled with filled
    subst filled
    rw [run] at run'
    injection run' with same
    injection same with same same'
    subst same same'
    exact sound
  · intro sound
    exact ⟨_, fillWrapper_eq count, ret, out, run, sound⟩

theorem not_uncorrupted_of_fault (count : calls.length ≤ tlvNumMax) {fault : Fault}
    (run : assemblePacket buf size ⟨filledHdr msgType seq, calls.map FillCall.tlv,
      calls.length⟩ = .error fault) :
    ¬Uncorrupted msgType seq calls buf size := by
  intro ⟨w, filled, ret, out, run', _⟩
  rw [fillWrapper_eq count] at filled
  injection filled with filled
  subst filled
  rw [run] at run'
  exact absurd run' (by simp)

/-- With room for everything only ids and lengths that do not fit their fields
change the message. -/
theorem uncorrupted_of_room (count : calls.length ≤ tlvNumMax)
    (room : filledSize calls ≤ size) (inside : size ≤ buf.length) :
    Uncorrupted msgType seq calls buf size ↔ ∀ c ∈ calls, c.Plain := by
  have bytes : PacketWrapper.bytes ⟨filledHdr msgType seq, calls.map FillCall.tlv,
      calls.length⟩ = messageBytes (filledHdr msgType seq)
        ((calls.map FillCall.tlv).map TlvHdr.shown) := by
    rw [PacketWrapper.bytes, filled_tlvs]
  have length : (messageBytes (filledHdr msgType seq)
      ((calls.map FillCall.tlv).map TlvHdr.shown)).length = filledSize calls := by
    rw [messageBytes, List.length_append, length_encodeAll_filled]
    rfl
  have readable : ∀ t ∈ PacketWrapper.tlvs ⟨filledHdr msgType seq, calls.map FillCall.tlv,
      calls.length⟩, t.Readable := by
    rw [filled_tlvs]
    exact readable_filled calls
  have run := assemblePacket_all readable (by rw [bytes, length]; exact room) inside
  have within : (messageBytes (filledHdr msgType seq)
      ((calls.map FillCall.tlv).map TlvHdr.shown)).length ≤ buf.length := by omega
  have written := take_patch_zero within
  rw [bytes] at run
  rw [uncorrupted_iff_of_run count run, ← map_pair_shown_iff]
  constructor
  · intro sound
    rcases sound with negative | ⟨len, ret, _, ts, taken, start⟩
    · omega
    · have whole : (messageBytes (filledHdr msgType seq)
          ((calls.map FillCall.tlv).map TlvHdr.shown)).length = len := Int.ofNat.inj ret
      rw [← whole, written] at taken
      rw [messageBytes_injective taken]
      exact start
  · intro start
    exact .inr ⟨_, rfl, by omega, _, written, start⟩

/-- Too short for the header: the offset starts at `-1`, and the first TLV that
fits is written in front of the buffer. -/
theorem uncorrupted_of_short (count : calls.length ≤ tlvNumMax) (short : size < 7) :
    Uncorrupted msgType seq calls buf size ↔
      ∀ i (lt : i < calls.length), size + 1 + i < calls[i].size := by
  have run : assemblePacket buf size ⟨filledHdr msgType seq, calls.map FillCall.tlv,
      calls.length⟩ = genTlvs buf size (-1) (calls.map FillCall.tlv) := by
    rw [assemblePacket_short short, filled_tlvs]
  have len : ∀ i (lt : i < calls.length) (lt' : i < (calls.map FillCall.tlv).length),
      (calls.map FillCall.tlv)[i].len.toNat + 3 = calls[i].size := by
    intro i lt lt'
    rw [List.getElem_map, FillCall.tlv_len, FillCall.size, Nat.add_comm]
  constructor
  · intro sound i lt
    apply Nat.lt_of_not_le
    intro fits
    have lt' : i < (calls.map FillCall.tlv).length := by rwa [List.length_map]
    have room := len i lt lt'
    obtain ⟨fault, failed⟩ := genTlvs_fault buf (calls.map FillCall.tlv)
      (show (-1 : Int) < 0 by omega) ⟨i, lt', show _ ≤ (size : Int) by omega⟩
    rw [failed] at run
    exact not_uncorrupted_of_fault count run sound
  · intro full
    have none := genTlvs_none buf (calls.map FillCall.tlv)
      (show ∀ i (lt' : i < (calls.map FillCall.tlv).length),
          (size : Int) < -1 - i + (calls.map FillCall.tlv)[i].len.toNat + 3 by
        intro i lt'
        have lt : i < calls.length := by rwa [List.length_map] at lt'
        have room := len i lt lt'
        have narrow := full i lt
        omega)
    rw [none] at run
    rw [uncorrupted_iff_of_run count run]
    left
    omega

/-- A TLV that does not fit, and at most one behind it: the offset falls back
into the TLV before, or lands past the room that TLV ended in. -/
theorem genTlvs_last_two (buf : List UInt8) (c : FillCall) (rest : List FillCall)
    (le : rest.length ≤ 1) {off : Nat} (pos : 0 < off) (inside : size ≤ buf.length)
    (full : size < off + c.size) :
    ∃ ret out, genTlvs buf size off ((c :: rest).map FillCall.tlv) = .ok (ret, out) ∧
      size ≤ out.length ∧ (ret = off - 1 ∨ ret = off - 2 ∨ (off < ret ∧ ret ≤ size)) := by
  have len := c.tlv_len
  rw [FillCall.size] at full
  rw [List.map_cons, genTlvs_full (by omega)]
  match rest, le with
  | [], _ => exact ⟨_, _, rfl, inside, .inl rfl⟩
  | [d], _ =>
      have len' := d.readable_tlv.length_encode
      rw [List.map_cons, List.map_nil]
      rcases Nat.lt_or_ge size (off - 1 + d.tlv.shown.encode.length) with full' | fits
      · rw [genTlvs_full (by omega)]
        exact ⟨_, _, rfl, inside, .inr (.inl (by omega))⟩
      · have back : (off : Int) - 1 = (off - 1 : Nat) := by omega
        rw [back, genTlvs_fits d.readable_tlv fits inside]
        refine ⟨_, _, rfl, ?_, .inr (.inr (by omega))⟩
        rw [length_patch (by omega)]
        exact inside

/-- One of the last two TLVs is the first that does not fit. -/
theorem exists_first_unfit (room : filledSize (calls.take (calls.length - 2)) ≤ size)
    (short : size < filledSize calls) (hdr : 7 ≤ size) :
    ∃ j, j < calls.length ∧ calls.length ≤ j + 2 ∧ filledSize (calls.take j) ≤ size ∧
      size < filledSize (calls.take (j + 1)) := by
  have whole : calls.take calls.length = calls := List.take_length
  have pos : 0 < calls.length := by
    apply Nat.pos_of_ne_zero
    intro none
    rw [List.length_eq_zero_iff.mp none] at short
    have : filledSize [] = 7 := rfl
    omega
  rcases Nat.lt_or_ge size (filledSize (calls.take (calls.length - 1))) with early | late
  · refine ⟨calls.length - 2, by omega, by omega, room, ?_⟩
    rcases Nat.lt_or_ge calls.length 2 with one | two
    · rw [show calls.length - 1 = calls.length - 2 by omega] at early
      omega
    · rwa [show calls.length - 2 + 1 = calls.length - 1 by omega]
  · refine ⟨calls.length - 1, by omega, by omega, late, ?_⟩
    rwa [show calls.length - 1 + 1 = calls.length by omega, whole]

/-- What is assembled when it is TLV `j`: the offset is never the end of `j`
TLVs. -/
theorem assemblePacket_last_two {j : Nat} (lt : j < calls.length) (last : calls.length ≤ j + 2)
    (fits : filledSize (calls.take j) ≤ size) (full : size < filledSize (calls.take (j + 1)))
    (hdr : 7 ≤ size) (inside : size ≤ buf.length) :
    ∃ ret out, assemblePacket buf size ⟨filledHdr msgType seq, calls.map FillCall.tlv,
        calls.length⟩ = .ok (ret, out) ∧ size ≤ out.length ∧
      (ret = filledSize (calls.take j) - 1 ∨ ret = filledSize (calls.take j) - 2 ∨
        (filledSize (calls.take j) < ret ∧ ret ≤ size)) := by
  have next : calls.take (j + 1) = calls.take j ++ [calls[j]] :=
    (List.take_append_getElem lt).symm
  have rest : calls.drop j = calls[j] :: calls.drop (j + 1) := List.drop_eq_getElem_cons lt
  have above : size < filledSize (calls.take j) + calls[j].size := by
    rw [next, filledSize_append] at full
    exact full
  have head : 0 + (filledHdr msgType seq).bytes.length ≤ buf.length := by
    rw [MessageHdr.length_bytes]
    show 0 + 7 ≤ _
    omega
  have start : filledSize (calls.take j) = sizeofMessageHdr +
      (tlvCodec.encodeAll (((calls.take j).map FillCall.tlv).map TlvHdr.shown)).length := by
    rw [length_encodeAll_filled]
    rfl
  have split : calls.map FillCall.tlv =
      (calls.take j).map FillCall.tlv ++ (calls.drop j).map FillCall.tlv := by
    rw [← List.map_append, List.take_append_drop]
  have patched : (patch buf 0 (filledHdr msgType seq).bytes).length = buf.length :=
    length_patch head
  have written := genTlvs_append (patch buf 0 (filledHdr msgType seq).bytes) sizeofMessageHdr
    ((calls.take j).map FillCall.tlv) ((calls.drop j).map FillCall.tlv)
    (readable_filled _) (start ▸ fits) (Nat.le_trans inside (Nat.le_of_eq patched.symm))
  have body : sizeofMessageHdr + (tlvCodec.encodeAll
      (((calls.take j).map FillCall.tlv).map TlvHdr.shown)).length ≤
      (patch buf 0 (filledHdr msgType seq).bytes).length := by
    rw [← start, patched]
    exact Nat.le_trans fits inside
  have within : size ≤ (patch (patch buf 0 (filledHdr msgType seq).bytes) sizeofMessageHdr
      (tlvCodec.encodeAll (((calls.take j).map FillCall.tlv).map TlvHdr.shown))).length := by
    rw [length_patch body, patched]
    exact inside
  rw [← split, ← start, rest] at written
  obtain ⟨ret, out, run, kept, back⟩ := genTlvs_last_two _ calls[j] (calls.drop (j + 1))
    (by rw [List.length_drop]; omega) (show 0 < filledSize (calls.take j) by
      rw [filledSize]; omega) within above
  rw [run] at written
  refine ⟨ret, out, ?_, kept, back⟩
  rw [assemblePacket_hdr hdr inside, filled_tlvs]
  exact written

/-- Room for the header and for all but the last two TLVs, yet not for all. -/
theorem not_uncorrupted_of_band (count : calls.length ≤ tlvNumMax) (hdr : 7 ≤ size)
    (room : filledSize (calls.take (calls.length - 2)) ≤ size) (short : size < filledSize calls)
    (inside : size ≤ buf.length) : ¬Uncorrupted msgType seq calls buf size := by
  obtain ⟨j, lt, last, fits, full⟩ := exists_first_unfit room short hdr
  obtain ⟨ret, out, result, kept, back⟩ :=
    @assemblePacket_last_two msgType seq calls buf size j lt last fits full hdr inside
  have least : 7 ≤ filledSize (calls.take j) := by
    rw [filledSize]
    omega
  rw [uncorrupted_iff_of_run count result]
  intro sound
  rcases sound with negative | ⟨len, rfl, le, ts, taken, begins⟩
  · omega
  · obtain ⟨few, length⟩ := length_messageBytes_of_prefix begins
    rw [← taken, List.length_take, Nat.min_eq_left (by omega)] at length
    -- `length` is the room of the first TLVs, which is never one or two bytes short of `j`
    rcases Nat.lt_trichotomy ts.length j with before | same | behind
    · have grown := filledSize_take_lt calls before (Nat.le_of_lt lt)
      omega
    · rw [same] at length
      omega
    · have grown := filledSize_take_le calls (show j + 1 ≤ ts.length from behind) few
      omega

end

/-- The message has room and every id and length fits its field; or the header
has no room, and no TLV fits either from the offsets that the failures leave. -/
def Sized (calls : List FillCall) (size : Nat) : Prop :=
  (filledSize calls ≤ size ∧ ∀ c ∈ calls, c.Plain) ∨
    (size < 7 ∧ ∀ i (lt : i < calls.length), size + 1 + i < calls[i].size)

/-- A sized buffer is enough. It is needed too unless three TLVs or more are
left when the first does not fit, and only a wrapper without TLVs comes through
for every size. -/
theorem uncorrupted_iff (msgType seq : Int) (calls : List FillCall)
    (count : calls.length ≤ tlvNumMax) :
    (∀ buf size, size ≤ buf.length →
      (Sized calls size → Uncorrupted msgType seq calls buf size) ∧
      ((size < 7 ∨ filledSize (calls.take (calls.length - 2)) ≤ size) →
        Uncorrupted msgType seq calls buf size → Sized calls size)) ∧
    ((∀ buf size, size ≤ buf.length → Uncorrupted msgType seq calls buf size) ↔
      calls = []) := by
  have least : 7 ≤ filledSize calls := by
    rw [filledSize]
    omega
  refine ⟨?_, ?_⟩
  · intro buf size inside
    constructor
    · intro sized
      rcases sized with ⟨room, plain⟩ | ⟨short, full⟩
      · exact (uncorrupted_of_room count room inside).mpr plain
      · exact (uncorrupted_of_short count short).mpr full
    · intro outside sound
      rcases Nat.lt_or_ge size 7 with short | hdr
      · exact .inr ⟨short, (uncorrupted_of_short count short).mp sound⟩
      rcases Nat.lt_or_ge size (filledSize calls) with narrow | room
      · rcases outside with short | some
        · omega
        · exact absurd sound (not_uncorrupted_of_band count hdr some narrow inside)
      · exact .inl ⟨room, (uncorrupted_of_room count room inside).mp sound⟩
  · constructor
    · intro sound
      cases calls with
      | nil => rfl
      | cons c calls =>
          have fewer := filledSize_take_lt (c :: calls)
            (show (c :: calls).length - 2 < (c :: calls).length by
              rw [List.length_cons]; omega) (Nat.le_refl _)
          have more : filledSize ((c :: calls).take (c :: calls).length) =
              filledSize (c :: calls) := congrArg filledSize List.take_length
          have kept : 7 ≤ filledSize ((c :: calls).take ((c :: calls).length - 2)) := by
            rw [filledSize]
            omega
          have size : filledSize (c :: calls) - 1 ≤
              (List.replicate (filledSize (c :: calls) - 1) (0 : UInt8)).length :=
            Nat.le_of_eq List.length_replicate.symm
          exact absurd (sound _ _ size)
            (not_uncorrupted_of_band count (by omega) (by omega) (by omega) size)
    · intro none buf size inside
      subst none
      rcases Nat.lt_or_ge size 7 with short | room
      · exact (uncorrupted_of_short count short).mpr (fun i lt => absurd lt (Nat.not_lt_zero i))
      · exact (uncorrupted_of_room count room inside).mpr (by simp)

/-- A response of a status and the text `OK` needs 16 bytes. -/
def okResponse : List FillCall :=
  [.byte 0xa001 0x30, .bytes 0xa000 [0x4f, 0x4b]]

/-- Into twelve bytes the assembler writes ten, the last TLV cut inside its
value; and a value of 256 bytes is sent as an empty one. -/
theorem okResponse_corrupted :
    ¬Uncorrupted 0 5 okResponse (List.replicate 12 0) 12 ∧
    ¬Uncorrupted 0 5 [.bytes 0xa000 (List.replicate 256 0x41)] (List.replicate 1536 0) 1536 := by
  constructor
  · exact not_uncorrupted_of_band (by decide) (by decide) (by decide) (by decide) (by decide)
  · intro sound
    have plain := (uncorrupted_of_room (by decide) (by decide +kernel) (by decide +kernel)).mp
      sound
    exact absurd plain (by decide +kernel)

theorem uncorrupted_okResponse :
    (∀ buf size, size ≤ buf.length →
      (Sized okResponse size → Uncorrupted 0 5 okResponse buf size) ∧
      ((size < 7 ∨ filledSize (okResponse.take (okResponse.length - 2)) ≤ size) →
        Uncorrupted 0 5 okResponse buf size → Sized okResponse size)) ∧
    ((∀ buf size, size ≤ buf.length → Uncorrupted 0 5 okResponse buf size) ↔
      okResponse = []) :=
  uncorrupted_iff 0 5 okResponse (by decide)

end AfcDut.Indigo
