import AfcDut.Indigo.Parse

/-!
# Which datagrams are accepted, and which are read in bounds

Nothing is printed or captured: `debug_packet` and `capture_packet` are 0.
-/

namespace AfcDut.Indigo

/-- The parser answers, and accepts only a message. -/
def Judges (packet after : List UInt8) : Prop :=
  ∃ ret req, parsePacket .zero (packet ++ after) packet.length = .ok (ret, req) ∧
    (ret = 0 ↔ IsMessage packet)

section

variable {packet after tail : List UInt8} {hdr : MessageHdr} {ts : List Tlv}

theorem not_isMessage_of_short (short : packet.length < sizeofMessageHdr) :
    ¬IsMessage packet := by
  intro ⟨hdr, ts, eq, _⟩
  have whole := shape_messageBytes hdr ts
  rw [← eq] at whole
  have long := whole.long
  omega

theorem judges_of_short (short : packet.length < sizeofMessageHdr) : Judges packet after := by
  refine ⟨-1, .zero, parsePacket_short _ _ short, ?_⟩
  have refused := not_isMessage_of_short short
  constructor
  · intro zero
    exact absurd zero (by decide)
  · intro message
    exact absurd message refused

theorem Shape.ret_eq_zero_iff :
    (if Accepts hdr ts tail then (0 : Int) else -1) = 0 ↔ Accepts hdr ts tail := by
  split
  case isTrue accepts => exact ⟨fun _ => accepts, fun _ => rfl⟩
  case isFalse refused => exact ⟨fun zero => absurd zero (by decide), fun h => absurd h refused⟩

/-- In reach and with nothing left over, the look-ups are the whole grammar. -/
theorem Shape.accepts_iff (shape : Shape packet hdr ts []) (reach : InReach ts [] after) :
    Accepts hdr ts [] ↔ IsMessage packet := by
  have count := reach.slots
  rw [slots, if_pos rfl] at count
  rw [shape.isMessage_iff]
  constructor
  · intro accepts
    exact ⟨rfl, accepts.api, count, accepts.tlv⟩
  · intro whole
    have registered := whole.2
    exact ⟨registered.api, registered.tlv, fun _ none => by simp [cutId] at none⟩

theorem Shape.judges_cut (shape : Shape packet hdr ts tail) :
    Judges packet after ↔
      InReach ts tail after ∧ (tail = [] ∨ ¬Accepts hdr ts tail) := by
  constructor
  · intro ⟨ret, req, run, judged⟩
    rcases Classical.em (InReach ts tail after) with reach | beyond
    · refine ⟨reach, ?_⟩
      have result := shape.parsePacket reach
      rw [run] at result
      injection result with result
      injection result with ret
      rw [ret, Shape.ret_eq_zero_iff] at judged
      rcases Decidable.em (tail = []) with empty | more
      · exact .inl empty
      · apply Or.inr
        intro accepts
        exact more (shape.isMessage_iff.mp (judged.mp accepts)).1
    · obtain ⟨fault, failed⟩ := shape.parsePacket_fault beyond
      rw [run] at failed
      exact absurd failed (by simp)
  · intro ⟨reach, clean⟩
    refine ⟨_, _, shape.parsePacket reach, ?_⟩
    rw [Shape.ret_eq_zero_iff]
    rcases clean with rfl | refused
    · exact shape.accepts_iff reach
    · rcases Decidable.em (tail = []) with rfl | more
      · exact shape.accepts_iff reach
      · constructor
        · intro accepts
          exact absurd accepts refused
        · intro message
          exact absurd (shape.isMessage_iff.mp message).1 more

end

/-- The parser judges a datagram rightly iff it is too short for a header, or
the loop stays in its slots and in readable memory and then either nothing was
left over behind the whole TLVs or an id that is looked up is not registered. -/
theorem judges_iff (packet after : List UInt8) :
    Judges packet after ↔
      packet.length < sizeofMessageHdr ∨
        ∃ hdr ts tail, Shape packet hdr ts tail ∧ InReach ts tail after ∧
          (tail = [] ∨ ¬Accepts hdr ts tail) := by
  rcases Nat.lt_or_ge packet.length sizeofMessageHdr with short | long
  · exact ⟨fun _ => .inl short, fun _ => judges_of_short short⟩
  obtain ⟨hdr, ts, tail, shape⟩ := shape_exists packet long
  rw [shape.judges_cut]
  constructor
  · intro ⟨reach, clean⟩
    exact .inr ⟨hdr, ts, tail, shape, reach, clean⟩
  · intro h
    rcases h with short | ⟨hdr', ts', tail', shape', reach, clean⟩
    · omega
    · obtain ⟨rfl, rfl, rfl⟩ := shape.unique shape'
      exact ⟨reach, clean⟩

/-- `AFCD_OPERATION` with a `DEVICE_RESET` TLV whose value is missing: the byte
behind the datagram is taken for it. -/
theorem cut_operation_accepted :
    parsePacket .zero ([1, 0x60, 2, 0, 1, 0xff, 0xff, 0xb0, 0x19, 1] ++ [0x31]) 10 =
      .ok (0, ⟨⟨1, 0x6002, 1, 0xff, 0xff⟩, [⟨0xb019, 1, [0x31]⟩], 1⟩) ∧
    ¬IsMessage [1, 0x60, 2, 0, 1, 0xff, 0xff, 0xb0, 0x19, 1] := by
  have shape : Shape [1, 0x60, 2, 0, 1, 0xff, 0xff, 0xb0, 0x19, 1]
      ⟨1, 0x6002, 1, 0xff, 0xff⟩ [] [0xb0, 0x19, 1] := ⟨by decide +kernel, rfl⟩
  constructor
  · decide +kernel
  · intro message
    exact absurd (shape.isMessage_iff.mp message).1 (by decide)

/-! ## Bounds -/

/-- With nothing readable behind the datagram, every access is in bounds iff no
TLV is cut inside its value and the TLVs, with a started one, fit the slots. -/
theorem in_bounds_iff (packet : List UInt8) :
    (∃ result, parsePacket .zero packet packet.length = .ok result) ↔
      packet.length < sizeofMessageHdr ∨
        ∃ hdr ts tail, Shape packet hdr ts tail ∧ tail.length < 3 ∧
          slots ts tail ≤ tlvNumMax := by
  rcases Nat.lt_or_ge packet.length sizeofMessageHdr with short | long
  · exact ⟨fun _ => .inl short, fun _ => ⟨_, parsePacket_short _ _ short⟩⟩
  obtain ⟨hdr, ts, tail, shape⟩ := shape_exists packet long
  constructor
  · intro ⟨result, run⟩
    rcases Classical.em (InReach ts tail []) with reach | beyond
    · refine .inr ⟨hdr, ts, tail, shape, ?_, reach.slots⟩
      have read : missing tail ≤ 0 := reach.read
      rcases (stuck_iff tail).mp shape.stuck with cut | cut
      · exact cut
      · omega
    · obtain ⟨fault, failed⟩ := shape.parsePacket_fault beyond
      rw [List.append_nil, run] at failed
      exact absurd failed (by simp)
  · intro h
    rcases h with short | ⟨hdr', ts', tail', shape', cut, count⟩
    · omega
    · have reach : InReach ts' tail' [] :=
        ⟨count, Nat.le_of_eq (missing_of_short cut)⟩
      have run := shape'.parsePacket reach
      rw [List.append_nil] at run
      exact ⟨_, run⟩

/-- A header with 129 empty TLVs, far below `BUFFER_LEN`. -/
def manyTlvs : List UInt8 :=
  [1, 0x60, 2, 0, 1, 0xff, 0xff] ++ (List.replicate 129 [0xb0, 0x19, 0]).flatten

theorem out_of_bounds :
    parsePacket .zero [1, 0x60, 2, 0, 1, 0xff, 0xff, 0xb0, 0x19, 1] 10 = .error (.read 3) ∧
    manyTlvs.length = 394 ∧
    parsePacket .zero manyTlvs manyTlvs.length = .error (.slot 128) := by
  refine ⟨?_, ?_, ?_⟩ <;> decide +kernel

end AfcDut.Indigo
