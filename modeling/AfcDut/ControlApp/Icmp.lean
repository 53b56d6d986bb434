import AfcDut.Indigo.Wrapper
import AfcDut.Data.OnesComplement
import AfcDut.Py.Raises

/-!
# ICMP echo packets

`icmp_checksum`, `setup_icmphdr` and the sending loop of `send_icmp_data`
(`utils.c`). The sockets and the replies are left out. A 16-bit field lies in
memory with its low byte first, and an `unsigned long` has 64 bits.
-/

namespace AfcDut.ControlApp.Icmp

open Indigo

/-! ## The checksum -/

/-- A 16-bit field as it lies in memory. -/
def le16 (x : UInt16) : List UInt8 := [x.toUInt8, (x >>> 8).toUInt8]

/-- `*buf` of an `unsigned short *buf`. -/
def readWord (buf : List UInt8) : Except Fault UInt64 := do
  let lo ← readByte buf 0
  let hi ← readByte buf 1
  return lo.toUInt64 + 256 * hi.toUInt64

/-- The summing loop and the odd byte after it. -/
def sumWords : List UInt8 → Nat → UInt64 → Except Fault UInt64
  | _, 0, sum => return sum
  | buf, 1, sum => return sum + (← readByte buf 0).toUInt64
  | buf, size + 2, sum => do sumWords (buf.drop 2) size (sum + (← readWord buf))

/-- `(sum & 0xffff) + (sum >> 16)` -/
def foldSum (sum : UInt64) : UInt64 := (sum &&& (0xffff : UInt64)) + (sum >>> (16 : UInt64))

/-- A size below one sums nothing. -/
def icmpChecksum (buf : List UInt8) (size : Int) : Except Fault UInt16 := do
  let sum ← sumWords buf size.toNat 0
  return (~~~foldSum (foldSum sum)).toUInt16

/-! ## The header -/

/-- `sizeof(struct icmphdr)` -/
def sizeofIcmphdr : Nat := 8

/-- `buf` is the memory from the header on. -/
def setupIcmphdr (type code : UInt8) (id seq : UInt16) (buf : List UInt8) (packetSize : Int) :
    Except Fault (List UInt8) := do
  let buf ← store buf 0 (List.replicate sizeofIcmphdr 0)
  let buf ← store buf 0 [type]
  let buf ← store buf 1 [code]
  let buf ← store buf 4 (le16 id)
  let buf ← store buf 6 (le16 seq)
  let checksum ← icmpChecksum buf packetSize
  store buf 2 (le16 checksum)

/-! ## Sending -/

/-- `ICMP_ECHO` -/
def icmpEcho : UInt8 := 8

/-- `sizeof(buf)` in `send_icmp_data` -/
def icmpBufSize : Nat := 1600

/-- The buffer with its payload. -/
def payloadBuf (packetSize : Nat) : List UInt8 :=
  (List.range icmpBufSize).map fun i => if sizeofIcmphdr ≤ i ∧ i < packetSize then 0x0a else 0

/-- The packets sent from number `pktSent` on; each header is written where
the last one was. -/
def sendPackets (packetSize : Nat) : Nat → Nat → List UInt8 → Except Fault (List (List UInt8))
  | 0, _, _ => return []
  | count + 1, pktSent, buf => do
      let buf ← setupIcmphdr icmpEcho 0 0 pktSent.toUInt16 buf packetSize
      let packet ← readBytes buf 0 packetSize
      return packet :: (← sendPackets packetSize count (pktSent + 1) buf)

/-- `send_icmp_data` with a packet count that is not -1. -/
def sendIcmpData (packetCount packetSize : Nat) : Except Fault (List (List UInt8)) :=
  sendPackets packetSize packetCount 1 (payloadBuf packetSize)

/-! ## The sum as a number -/

/-- The bytes as little-endian 16-bit words, a last odd one padded with zero. -/
def wordSum : List UInt8 → Nat
  | lo :: hi :: rest => lo.toNat + 256 * hi.toNat + wordSum rest
  | [last] => last.toNat
  | [] => 0

theorem wordSum_le : ∀ bytes : List UInt8, 2 * wordSum bytes ≤ 65535 * (bytes.length + 1)
  | [] => by simp [wordSum]
  | [last] => by
      have hlast := last.toNat_lt
      simp only [wordSum, List.length_singleton]
      omega
  | lo :: hi :: rest => by
      have ih := wordSum_le rest
      have hlo := lo.toNat_lt
      have hhi := hi.toNat_lt
      simp only [wordSum, List.length_cons]
      omega

/-- A sum that stays below `2^64` is not cut. -/
theorem sumWords_toNat : ∀ (buf : List UInt8) (size : Nat) (sum : UInt64), size ≤ buf.length →
    sum.toNat + wordSum (buf.take size) < 18446744073709551616 →
    ∃ total, sumWords buf size sum = .ok total ∧
      total.toNat = sum.toNat + wordSum (buf.take size)
  | buf, 0, sum, _, _ => ⟨sum, rfl, by simp [wordSum]⟩
  | [], size + 1, sum, hsize, _ => by simp at hsize
  | last :: rest, 1, sum, _, hbound => by
      refine ⟨sum + last.toUInt64, rfl, ?_⟩
      simp only [List.take_succ_cons, List.take_zero, wordSum] at hbound ⊢
      rw [UInt64.toNat_add, UInt8.toNat_toUInt64]
      omega
  | [_], size + 2, sum, hsize, _ => by simp at hsize
  | lo :: hi :: rest, size + 2, sum, hsize, hbound => by
      have hlo := lo.toNat_lt
      have hhi := hi.toNat_lt
      have hword : (lo.toUInt64 + 256 * hi.toUInt64).toNat = lo.toNat + 256 * hi.toNat := by
        rw [UInt64.toNat_add, UInt64.toNat_mul, UInt8.toNat_toUInt64, UInt8.toNat_toUInt64]
        show (lo.toNat + 256 * hi.toNat % 18446744073709551616) % 18446744073709551616 = _
        omega
      simp only [List.take_succ_cons, wordSum] at hbound ⊢
      have hsum : (sum + (lo.toUInt64 + 256 * hi.toUInt64)).toNat =
          sum.toNat + (lo.toNat + 256 * hi.toNat) := by
        rw [UInt64.toNat_add, hword]
        omega
      simp only [List.length_cons] at hsize
      obtain ⟨total, htotal, hvalue⟩ := sumWords_toNat rest size
        (sum + (lo.toUInt64 + 256 * hi.toUInt64)) (by omega) (by omega)
      exact ⟨total, htotal, by omega⟩

open Data.OnesComplement

theorem foldSum_toNat (sum : UInt64) : (foldSum sum).toNat = fold 65536 sum.toNat := by
  have hsum := sum.toNat_lt
  have hlow : (sum &&& (0xffff : UInt64)).toNat = sum.toNat % 65536 := by
    rw [UInt64.toNat_and]
    exact Nat.and_two_pow_sub_one_eq_mod sum.toNat 16
  have hhigh : (sum >>> (16 : UInt64)).toNat = sum.toNat / 65536 := by
    rw [UInt64.toNat_shiftRight]
    exact Nat.shiftRight_eq_div_pow sum.toNat 16
  unfold foldSum fold
  rw [UInt64.toNat_add, hlow, hhigh]
  omega

/-- What `icmp_checksum` returns is the complement of the folded sum. -/
theorem icmpChecksum_eq {buf : List UInt8} {size : Nat} (hsize : size ≤ buf.length)
    (hbound : size ≤ 65536) : ∃ checksum, icmpChecksum buf size = .ok checksum ∧
      checksum.toNat = 65535 - fold 65536 (fold 65536 (wordSum (buf.take size))) := by
  have hle := wordSum_le (buf.take size)
  rw [List.length_take_of_le hsize] at hle
  obtain ⟨total, htotal, hvalue⟩ := sumWords_toNat buf size 0 hsize
    (by rw [UInt64.toNat_zero]; omega)
  rw [UInt64.toNat_zero, Nat.zero_add] at hvalue
  refine ⟨(~~~foldSum (foldSum total)).toUInt16, ?_, ?_⟩
  · show (do
      let sum ← sumWords buf size 0
      return (~~~foldSum (foldSum sum)).toUInt16) = _
    rw [htotal]
    rfl
  · have hfold := fold_fold_lt (w := 65536) (s := total.toNat) (by omega)
    have hnot : (~~~foldSum (foldSum total)).toNat =
        18446744073709551615 - (foldSum (foldSum total)).toNat := UInt64.toNat_not _
    rw [UInt64.toNat_toUInt16, hnot, foldSum_toNat, foldSum_toNat, ← hvalue]
    omega

/-! ## The packet -/

/-- The header as it lies in memory. -/
def header (type code : UInt8) (checksum id seq : UInt16) : List UInt8 :=
  [type, code] ++ le16 checksum ++ le16 id ++ le16 seq

/-- Bytes are written in place of as many others. -/
theorem store_at (a c : List UInt8) {b : List UInt8} (bytes : List UInt8)
    (hlen : b.length = bytes.length) :
    store (a ++ b ++ c) a.length bytes = .ok (a ++ bytes ++ c) := by
  have hroom : (0 : Int) ≤ a.length ∧
      (a.length : Int).toNat + bytes.length ≤ (a ++ b ++ c).length := by
    rw [List.length_append, List.length_append, hlen]
    omega
  have htake : (a ++ b ++ c).take a.length = a := by
    rw [List.append_assoc, List.take_left]
  have hdrop : (a ++ b ++ c).drop (a.length + bytes.length) = c := by
    rw [← hlen, ← List.length_append, List.drop_left]
  unfold store
  rw [if_pos hroom, Int.toNat_natCast, htake, hdrop]

/-- The fields go where the header has them, and the checksum is taken while
its own field is zero. -/
theorem setupIcmphdr_eq (type code : UInt8) (id seq : UInt16) {old payload : List UInt8}
    (hold : old.length = sizeofIcmphdr) (packetSize : Int) :
    setupIcmphdr type code id seq (old ++ payload) packetSize =
      (icmpChecksum (header type code 0 id seq ++ payload) packetSize).map
        fun checksum => header type code checksum id seq ++ payload := by
  have hzero : store (old ++ payload) 0 (List.replicate sizeofIcmphdr 0) =
      .ok (List.replicate sizeofIcmphdr 0 ++ payload) :=
    store_at [] payload _ (hold.trans List.length_replicate.symm)
  have htype : store (List.replicate sizeofIcmphdr 0 ++ payload) 0 [type] =
      .ok ([type] ++ List.replicate 7 0 ++ payload) :=
    store_at [] (b := [0]) (List.replicate 7 0 ++ payload) [type] rfl
  have hcode : store ([type] ++ List.replicate 7 0 ++ payload) 1 [code] =
      .ok ([type, code, 0, 0] ++ List.replicate 4 0 ++ payload) :=
    store_at [type] (b := [0]) (List.replicate 6 0 ++ payload) [code] rfl
  have hid : store ([type, code, 0, 0] ++ List.replicate 4 0 ++ payload) 4 (le16 id) =
      .ok ([type, code, 0, 0] ++ le16 id ++ [0, 0] ++ payload) :=
    store_at [type, code, 0, 0] (b := [0, 0]) ([0, 0] ++ payload) (le16 id) rfl
  have hseq : store ([type, code, 0, 0] ++ le16 id ++ [0, 0] ++ payload) 6 (le16 seq) =
      .ok (header type code 0 id seq ++ payload) :=
    store_at ([type, code, 0, 0] ++ le16 id) (b := [0, 0]) payload (le16 seq) rfl
  have hchecksum (checksum : UInt16) :
      store (header type code 0 id seq ++ payload) 2 (le16 checksum) =
        .ok (header type code checksum id seq ++ payload) :=
    store_at [type, code] (b := [0, 0]) (le16 id ++ le16 seq ++ payload) (le16 checksum) rfl
  unfold setupIcmphdr
  rw [hzero, Py.ok_bind, htype, Py.ok_bind, hcode, Py.ok_bind, hid, Py.ok_bind, hseq, Py.ok_bind]
  cases icmpChecksum (header type code 0 id seq ++ payload) packetSize with
  | error e => rfl
  | ok checksum => exact hchecksum checksum

/-- The checksum is one more word of the sum. -/
theorem wordSum_header (type code : UInt8) (checksum id seq : UInt16) (payload : List UInt8) :
    wordSum (header type code checksum id seq ++ payload) =
      wordSum (header type code 0 id seq ++ payload) + checksum.toNat := by
  have hword : checksum.toUInt8.toNat + 256 * (checksum >>> 8).toUInt8.toNat =
      checksum.toNat := by
    have hlt := checksum.toNat_lt
    have hshift : (checksum >>> 8).toNat = checksum.toNat / 256 := by
      rw [UInt16.toNat_shiftRight]
      exact Nat.shiftRight_eq_div_pow checksum.toNat 8
    rw [UInt16.toNat_toUInt8, UInt16.toNat_toUInt8, hshift]
    omega
  have hnone : (0 : UInt16).toUInt8.toNat + 256 * ((0 : UInt16) >>> 8).toUInt8.toNat = 0 := rfl
  simp only [header, le16, List.cons_append, List.nil_append, wordSum]
  omega

end AfcDut.ControlApp.Icmp
