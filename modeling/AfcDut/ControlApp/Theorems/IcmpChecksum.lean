import AfcDut.ControlApp.Icmp

/-!
# Echo packets carry a correct checksum

Whatever the payload, the words of a packet that `setup_icmphdr` has finished
sum to all ones.
-/

namespace AfcDut.ControlApp.Theorems.IcmpChecksum

open Indigo Icmp Data.OnesComplement

/-- The sum of a packet of at most 1600 bytes is far below `65536 * 65536`. -/
theorem wordSum_lt {bytes : List UInt8} (h : bytes.length ≤ icmpBufSize) :
    wordSum bytes + 65535 < 65536 * 65536 := by
  have hle := wordSum_le bytes
  unfold icmpBufSize at h
  omega

/-- A finished packet: the complement of the folded sum is one of its words. -/
theorem fold_finished (type code : UInt8) (id seq checksum : UInt16) {payload : List UInt8}
    (hlen : payload.length + sizeofIcmphdr ≤ icmpBufSize)
    (hchecksum : checksum.toNat = 65535 -
      fold 65536 (fold 65536 (wordSum (header type code 0 id seq ++ payload)))) :
    fold 65536 (fold 65536 (wordSum (header type code checksum id seq ++ payload))) = 65535 := by
  have hlt : wordSum (header type code 0 id seq ++ payload) + 65535 < 65536 * 65536 := by
    apply wordSum_lt
    rw [List.length_append, Nat.add_comm]
    exact hlen
  rw [wordSum_header, hchecksum]
  exact fold_fold_complement (w := 65536) (by omega) (by omega) (by omega)

/-- What `setup_icmphdr` leaves: a packet of the same size with the same
payload, whose words fold to all ones. -/
theorem setupIcmphdr_finished (type code : UInt8) (id seq : UInt16) {buf : List UInt8} {n : Nat}
    (hmin : sizeofIcmphdr ≤ n) (hmax : n ≤ icmpBufSize) (hbuf : n ≤ buf.length) :
    ∃ packet, setupIcmphdr type code id seq buf n = .ok packet ∧
      packet.length = buf.length ∧ packet.drop sizeofIcmphdr = buf.drop sizeofIcmphdr ∧
      fold 65536 (fold 65536 (wordSum (packet.take n))) = 65535 ∧
      icmpChecksum packet n = .ok 0 := by
  have hold : (buf.take sizeofIcmphdr).length = sizeofIcmphdr :=
    List.length_take_of_le (by omega)
  have hsplit : buf.take sizeofIcmphdr ++ buf.drop sizeofIcmphdr = buf :=
    List.take_append_drop _ _
  have hlength (checksum : UInt16) :
      (header type code checksum id seq ++ buf.drop sizeofIcmphdr).length = buf.length := by
    have hheader : (header type code checksum id seq).length = sizeofIcmphdr := rfl
    rw [List.length_append, List.length_drop, hheader]
    omega
  have htake (checksum : UInt16) :
      (header type code checksum id seq ++ buf.drop sizeofIcmphdr).take n =
        header type code checksum id seq ++ (buf.drop sizeofIcmphdr).take (n - sizeofIcmphdr) := by
    have hall : (header type code checksum id seq).take n = header type code checksum id seq :=
      List.take_of_length_le hmin
    rw [List.take_append, hall]
    rfl
  unfold icmpBufSize at hmax
  obtain ⟨checksum, hchecksum, hvalue⟩ :=
    icmpChecksum_eq (hbuf.trans (hlength 0).ge) (by omega)
  rw [htake 0] at hvalue
  have hpayload : ((buf.drop sizeofIcmphdr).take (n - sizeofIcmphdr)).length + sizeofIcmphdr ≤
      icmpBufSize := by
    rw [List.length_take]
    unfold icmpBufSize
    omega
  have hfolded := fold_finished type code id seq checksum hpayload hvalue
  rw [← htake checksum] at hfolded
  refine ⟨header type code checksum id seq ++ buf.drop sizeofIcmphdr, ?_, hlength checksum, rfl,
    hfolded, ?_⟩
  · conv_lhs => rw [← hsplit]
    rw [setupIcmphdr_eq type code id seq hold, hchecksum]
    rfl
  · obtain ⟨again, hagain, hzero⟩ :=
      icmpChecksum_eq (hbuf.trans (hlength checksum).ge) (by omega)
    rw [hfolded] at hzero
    rw [hagain]
    exact congrArg Except.ok (UInt16.toNat_inj.mp hzero)

/-- **Checksum.** For every size from 8 to 1600 the header is written and the
bytes after it stay. The words of the packet fold to all ones, for which two
folds are enough, and the checksum taken again is zero. -/
theorem finished_packet_folds_to_ones (type code : UInt8) (id seq : UInt16) (buf : List UInt8)
    {n : Nat} (hmin : 8 ≤ n) (hmax : n ≤ 1600) (hbuf : n ≤ buf.length) :
    (∀ bytes : List UInt8, bytes.length = n →
      settle 65536 (wordSum bytes) = fold 65536 (fold 65536 (wordSum bytes))) ∧
    ∃ packet, setupIcmphdr type code id seq buf n = .ok packet ∧
      packet.drop sizeofIcmphdr = buf.drop sizeofIcmphdr ∧
      settle 65536 (wordSum (packet.take n)) = 0xffff ∧
      icmpChecksum packet n = .ok 0 := by
  have two_folds : ∀ bytes : List UInt8, bytes.length = n →
      settle 65536 (wordSum bytes) = fold 65536 (fold 65536 (wordSum bytes)) := by
    intro bytes hlen
    have hlt := wordSum_lt (hlen.trans_le hmax)
    exact settle_eq_fold_fold (by omega)
  obtain ⟨packet, hpacket, hlength, hrest, hfolded, hagain⟩ :=
    setupIcmphdr_finished type code id seq hmin hmax hbuf
  refine ⟨two_folds, packet, hpacket, hrest, ?_, hagain⟩
  rw [two_folds _ (List.length_take_of_le (hbuf.trans hlength.ge))]
  exact hfolded

theorem finished_packet_folds_to_ones_odd :
    ∃ packet, setupIcmphdr icmpEcho 0 0 1 (payloadBuf 9) 9 = .ok packet ∧
      settle 65536 (wordSum (packet.take 9)) = 0xffff ∧ icmpChecksum packet 9 = .ok 0 := by
  obtain ⟨_, packet, hpacket, _, hsum, hchecksum⟩ := finished_packet_folds_to_ones icmpEcho 0 0 1
    (payloadBuf 9) (n := 9) (by decide) (by decide) (by simp [payloadBuf, icmpBufSize])
  exact ⟨packet, hpacket, hsum, hchecksum⟩

/-! ## A run of packets -/

/-- Each header is written where the last one was, and every packet that is
sent has the size asked for and a correct checksum. -/
theorem sendPackets_correct {n : Nat} (hmin : sizeofIcmphdr ≤ n) (hmax : n ≤ icmpBufSize)
    (count pktSent : Nat) (buf : List UInt8) (hbuf : n ≤ buf.length) :
    ∃ packets, sendPackets n count pktSent buf = .ok packets ∧ packets.length = count ∧
      ∀ packet ∈ packets, packet.length = n ∧
        fold 65536 (fold 65536 (wordSum packet)) = 65535 := by
  induction count generalizing pktSent buf with
  | zero => exact ⟨[], rfl, rfl, by simp⟩
  | succ count ih =>
      obtain ⟨next, hnext, hlength, _, hfolded, _⟩ :=
        setupIcmphdr_finished icmpEcho 0 0 pktSent.toUInt16 hmin hmax hbuf
      have hroom : n ≤ next.length := hbuf.trans hlength.ge
      obtain ⟨packets, hpackets, hcount, hall⟩ := ih (pktSent + 1) next hroom
      have hread : readBytes next 0 n = .ok (next.take n) := if_pos (by omega)
      refine ⟨next.take n :: packets, ?_, congrArg Nat.succ hcount, ?_⟩
      · rw [sendPackets, hnext, Py.ok_bind, hread, Py.ok_bind, hpackets]
        rfl
      · intro packet hmem
        rcases List.mem_cons.mp hmem with rfl | hmem
        · exact ⟨List.length_take_of_le hroom, hfolded⟩
        · exact hall packet hmem

theorem sendIcmpData_correct {n : Nat} (hmin : sizeofIcmphdr ≤ n) (hmax : n ≤ icmpBufSize)
    (packetCount : Nat) :
    ∃ packets, sendIcmpData packetCount n = .ok packets ∧ packets.length = packetCount ∧
      ∀ packet ∈ packets, packet.length = n ∧
        fold 65536 (fold 65536 (wordSum packet)) = 65535 := by
  apply sendPackets_correct hmin hmax
  rw [payloadBuf, List.length_map, List.length_range]
  exact hmax

end AfcDut.ControlApp.Theorems.IcmpChecksum
