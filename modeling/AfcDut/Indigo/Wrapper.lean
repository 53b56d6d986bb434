import Mathlib.Data.List.Basic
import Mathlib.Tactic.Common

/-!
# Memory and the packet wrapper

The structures of `indigo_packet.h`, and memory as the code uses it: a pointer
to read from is the list of the bytes that can be read from it on, a buffer to
write is a list and an offset, which the code lets go below zero.
-/

namespace AfcDut.Indigo

/-- An access outside the object it is made to; what the C code does after it
is undefined. -/
inductive Fault where
  | read (index : Nat)
  | slot (index : Nat)
  | write (index : Int)
deriving DecidableEq, Repr

def readByte (mem : List UInt8) (i : Nat) : Except Fault UInt8 :=
  match mem[i]? with
  | some b => .ok b
  | none => .error (.read i)

/-- The source of a `memcpy`. -/
def readBytes (mem : List UInt8) (i n : Nat) : Except Fault (List UInt8) :=
  if i + n ≤ mem.length then .ok ((mem.drop i).take n) else .error (.read (i + n - 1))

/-- The destination of a `memcpy` or of consecutive assignments. -/
def store (buf : List UInt8) (start : Int) (bytes : List UInt8) : Except Fault (List UInt8) :=
  if 0 ≤ start ∧ start.toNat + bytes.length ≤ buf.length then
    .ok (buf.take start.toNat ++ bytes ++ buf.drop (start.toNat + bytes.length))
  else
    .error (.write start)

/-- `TLV_NUM` -/
def tlvNumMax : Nat := 128

structure MessageHdr where
  version : UInt8
  type : UInt16
  seq : UInt16
  reserved : UInt8
  reserved2 : UInt8
deriving DecidableEq, Repr

structure TlvHdr where
  id : UInt16
  len : UInt8
  value : List UInt8
deriving DecidableEq, Repr

/-- `tlv` holds the slots of `tlv[TLV_NUM]` that are not `NULL`; the code fills
them from slot 0 on. -/
structure PacketWrapper where
  hdr : MessageHdr
  tlv : List TlvHdr
  tlvNum : Nat
deriving DecidableEq, Repr

def MessageHdr.zero : MessageHdr := ⟨0, 0, 0, 0, 0⟩

def TlvHdr.zero : TlvHdr := ⟨0, 0, []⟩

/-- The wrapper after `memset(&req, 0, sizeof(struct packet_wrapper))`. -/
def PacketWrapper.zero : PacketWrapper := ⟨MessageHdr.zero, [], 0⟩

/-- `wrapper->tlv[i] = t` -/
def PacketWrapper.setSlot (wrapper : PacketWrapper) (i : Nat) (t : TlvHdr) :
    Except Fault PacketWrapper :=
  if i < tlvNumMax then
    .ok { wrapper with tlv := wrapper.tlv.take i ++ t :: wrapper.tlv.drop (i + 1) }
  else
    .error (.slot i)

/-- The TLVs the code looks at: `tlv[0]` up to `tlv[tlv_num - 1]`. -/
def PacketWrapper.tlvs (wrapper : PacketWrapper) : List TlvHdr :=
  wrapper.tlv.take wrapper.tlvNum

/-! ## Slots -/

namespace PacketWrapper

/-- Every slot in use holds a TLV that counts. -/
def Full (w : PacketWrapper) : Prop := w.tlv.length = w.tlvNum

def push (w : PacketWrapper) (t : TlvHdr) : PacketWrapper :=
  { w with tlv := w.tlv ++ [t], tlvNum := w.tlvNum + 1 }

/-- The wrapper with one more slot set, which does not count. -/
def spare (w : PacketWrapper) (t : TlvHdr) : PacketWrapper :=
  { w with tlv := w.tlv ++ [t] }

def pushAll (w : PacketWrapper) (ts : List TlvHdr) : PacketWrapper :=
  { w with tlv := w.tlv ++ ts, tlvNum := w.tlvNum + ts.length }

@[simp] theorem pushAll_nil (w : PacketWrapper) : w.pushAll [] = w := by
  simp [pushAll]

theorem pushAll_cons (w : PacketWrapper) (t : TlvHdr) (ts : List TlvHdr) :
    w.pushAll (t :: ts) = (w.push t).pushAll ts := by
  simp only [pushAll, push, List.length_cons, List.append_assoc, List.cons_append,
    List.nil_append, mk.injEq, true_and]
  omega

theorem Full.push {w : PacketWrapper} (full : w.Full) (t : TlvHdr) : (w.push t).Full := by
  show (w.tlv ++ [t]).length = w.tlvNum + 1
  rw [List.length_append, full]
  rfl

theorem Full.pushAll {w : PacketWrapper} (full : w.Full) (ts : List TlvHdr) :
    (w.pushAll ts).Full := by
  show (w.tlv ++ ts).length = w.tlvNum + ts.length
  rw [List.length_append, full]

theorem Full.tlvs_eq {w : PacketWrapper} (full : w.Full) : w.tlvs = w.tlv := by
  show w.tlv.take w.tlvNum = w.tlv
  rw [← full, List.take_length]

theorem Full.tlvs_spare {w : PacketWrapper} (full : w.Full) (t : TlvHdr) :
    (w.spare t).tlvs = w.tlv := by
  show (w.tlv ++ [t]).take w.tlvNum = w.tlv
  rw [← full, List.take_left]

theorem setSlot_over (w : PacketWrapper) (t : TlvHdr) {i : Nat} (used : tlvNumMax ≤ i) :
    w.setSlot i t = .error (.slot i) :=
  if_neg (by omega)

theorem Full.setSlot {w : PacketWrapper} (full : w.Full) (room : w.tlvNum < tlvNumMax)
    (t : TlvHdr) : w.setSlot w.tlvNum t = .ok (w.spare t) := by
  have kept : w.tlv.take w.tlvNum = w.tlv := full.tlvs_eq
  have gone : w.tlv.drop (w.tlvNum + 1) = [] := by
    apply List.drop_eq_nil_of_le
    rw [full]
    exact Nat.le_succ _
  rw [PacketWrapper.setSlot, if_pos room, kept, gone]
  rfl

/-- A slot that was set is set again. -/
theorem Full.setSlot_spare {w : PacketWrapper} (full : w.Full) (room : w.tlvNum < tlvNumMax)
    (t t' : TlvHdr) : (w.spare t').setSlot w.tlvNum t = .ok (w.spare t) := by
  have kept : (w.tlv ++ [t']).take w.tlvNum = w.tlv := by
    rw [← full, List.take_left]
  have gone : (w.tlv ++ [t']).drop (w.tlvNum + 1) = [] := by
    apply List.drop_eq_nil_of_le
    rw [List.length_append, full]
    exact Nat.le_refl _
  rw [PacketWrapper.setSlot, if_pos room]
  show Except.ok { w with
    tlv := (w.tlv ++ [t']).take w.tlvNum ++ t :: (w.tlv ++ [t']).drop (w.tlvNum + 1) } = _
  rw [kept, gone]
  rfl

end PacketWrapper

end AfcDut.Indigo
