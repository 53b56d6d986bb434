import AfcDut.Indigo.Assemble

/-!
# Wrappers that handlers fill

One header and a row of `fill_wrapper_tlv_byte` and `fill_wrapper_tlv_bytes`
calls.
-/

namespace AfcDut.Indigo

inductive FillCall where
  | byte (id : Int) (value : UInt8)
  | bytes (id : Int) (value : List UInt8)
deriving DecidableEq

namespace FillCall

def id : FillCall → Int
  | byte id _ => id
  | bytes id _ => id

def value : FillCall → List UInt8
  | byte _ value => [value]
  | bytes _ value => value

def run (w : PacketWrapper) : FillCall → Except Fault PacketWrapper
  | byte id value => fillWrapperTlvByte w id value
  | bytes id value => fillWrapperTlvBytes w id value.length value

/-- The TLV a call leaves in its slot. -/
def tlv (c : FillCall) : TlvHdr :=
  ⟨UInt16.ofInt c.id, UInt8.ofNat c.value.length, c.value⟩

theorem tlv_len (c : FillCall) : c.tlv.len.toNat = c.value.length % 256 :=
  UInt8.toNat_ofNat'

theorem readable_tlv (c : FillCall) : c.tlv.Readable := by
  show c.tlv.len.toNat ≤ c.value.length
  rw [c.tlv_len]
  exact Nat.mod_le _ _

theorem run_full {w : PacketWrapper} (full : w.Full) (room : w.tlvNum < tlvNumMax)
    (c : FillCall) : c.run w = .ok (w.push c.tlv) := by
  cases c with
  | byte id value =>
      rw [run, fillWrapperTlvByte, full.setSlot room]
      rfl
  | bytes id value =>
      have copied : readBytes value 0 value.length = .ok value := by
        rw [readBytes, if_pos (by omega), List.drop_zero, List.take_length]
      rw [run, fillWrapperTlvBytes, copied]
      show (w.setSlot w.tlvNum _).bind _ = _
      rw [full.setSlot room]
      rfl

end FillCall

/-- A handler's response: `fill_wrapper_message_hdr`, then the calls. -/
def fillWrapper (msgType seq : Int) (calls : List FillCall) : Except Fault PacketWrapper :=
  calls.foldlM FillCall.run (fillWrapperMessageHdr .zero msgType seq)

/-- The header that `fill_wrapper_message_hdr` writes. -/
def filledHdr (msgType seq : Int) : MessageHdr :=
  (fillWrapperMessageHdr .zero msgType seq).hdr

theorem foldlM_run (calls : List FillCall) {w : PacketWrapper} (full : w.Full)
    (room : w.tlvNum + calls.length ≤ tlvNumMax) :
    calls.foldlM FillCall.run w = .ok (w.pushAll (calls.map FillCall.tlv)) := by
  induction calls generalizing w with
  | nil =>
      rw [List.map_nil, PacketWrapper.pushAll_nil]
      rfl
  | cons c calls ih =>
      rw [List.length_cons] at room
      rw [List.foldlM_cons, c.run_full full (by omega)]
      show calls.foldlM FillCall.run (w.push c.tlv) = _
      rw [ih (full.push _) (by show w.tlvNum + 1 + calls.length ≤ tlvNumMax; omega),
        List.map_cons, PacketWrapper.pushAll_cons]

/-- Up to `TLV_NUM` calls fill one slot each. -/
theorem fillWrapper_eq {msgType seq : Int} {calls : List FillCall}
    (count : calls.length ≤ tlvNumMax) :
    fillWrapper msgType seq calls =
      .ok ⟨filledHdr msgType seq, calls.map FillCall.tlv, calls.length⟩ := by
  have filled := foldlM_run calls (w := fillWrapperMessageHdr .zero msgType seq) rfl
    (by show 0 + calls.length ≤ tlvNumMax; omega)
  rw [fillWrapper, filled]
  show Except.ok (PacketWrapper.mk (filledHdr msgType seq) ([] ++ calls.map FillCall.tlv)
    (0 + (calls.map FillCall.tlv).length)) = _
  rw [List.nil_append, List.length_map, Nat.zero_add]

theorem filled_tlvs (hdr : MessageHdr) (calls : List FillCall) :
    PacketWrapper.tlvs ⟨hdr, calls.map FillCall.tlv, calls.length⟩ = calls.map FillCall.tlv := by
  show (calls.map FillCall.tlv).take calls.length = _
  apply List.take_of_length_le
  exact Nat.le_of_eq (List.length_map _)

theorem readable_filled (calls : List FillCall) :
    ∀ t ∈ calls.map FillCall.tlv, t.Readable := by
  rw [List.forall_mem_map]
  intro c _
  exact c.readable_tlv

end AfcDut.Indigo
