import AfcDut.ControlApp.AfcHandlers
import AfcDut.Indigo.Accepted

/-!
# When the AFC device handlers copy within bounds

The length byte of a value goes up to 255 and no copy is checked against its
destination.
-/

namespace AfcDut.ControlApp.Theorems.AfcCopies

open Indigo

/-! ## Copies -/

theorem copyValue_ok_iff {size : Nat} {tlv : TlvHdr} (h : tlv.Whole) :
    (∃ bytes, copyValue size tlv = .ok bytes) ↔ tlv.len.toNat < size := by
  have hread : readBytes tlv.value 0 tlv.len.toNat = .ok tlv.value := by
    unfold readBytes
    rw [if_pos (by rw [h]; omega), h, List.drop_zero, List.take_length]
  unfold copyValue
  rw [hread, Py.ok_bind, h]
  split
  · rename_i hlt
    exact ⟨fun _ => hlt, fun _ => ⟨_, rfl⟩⟩
  · rename_i hge
    exact ⟨fun h => (nomatch h.choose_spec), fun hlt => absurd hlt hge⟩

/-- The first value with this id, if there is one, leaves room for the NUL in
`size` bytes. -/
def Fits (req : PacketWrapper) (id : UInt16) (size : Nat) : Prop :=
  ∀ tlv, findWrapperTlvById req id = some tlv → tlv.len.toNat < size

/-- The buffer in which every known value is logged. -/
theorem logTlvs_ok_iff {tlvs : List TlvHdr}
    (h : ∀ t ∈ tlvs, t.Whole ∧ (getTlvById t.id).isSome = true) :
    logTlvs tlvs = .ok () ↔ ∀ t ∈ tlvs, t.len.toNat < tlvValueSize := by
  induction tlvs with
  | nil => exact ⟨fun _ _ h => absurd h List.not_mem_nil, fun _ => rfl⟩
  | cons t tlvs ih =>
      obtain ⟨hwhole, hknown⟩ := h t List.mem_cons_self
      have hiff : (∃ bytes, copyValue tlvValueSize t = .ok bytes) ↔
          t.len.toNat < tlvValueSize := copyValue_ok_iff hwhole
      have hrest : logTlvs tlvs = .ok () ↔ ∀ t ∈ tlvs, t.len.toNat < tlvValueSize :=
        ih fun u hu => h u (List.mem_cons_of_mem _ hu)
      rw [List.forall_mem_cons, ← hiff, ← hrest, logTlvs, if_pos hknown]
      constructor
      · intro hrun
        obtain ⟨bytes, hbytes, hrun⟩ := Py.bind_eq_ok.mp hrun
        exact ⟨⟨bytes, hbytes⟩, hrun⟩
      · intro ⟨⟨bytes, hbytes⟩, hrun⟩
        rw [hbytes, hrun]
        rfl

theorem mem_of_findWrapperTlvById {req : PacketWrapper} {id : UInt16} {tlv : TlvHdr}
    (h : findWrapperTlvById req id = some tlv) : tlv ∈ req.tlv ∧ tlv.id = id := by
  unfold findWrapperTlvById at h
  exact ⟨List.mem_of_find?_eq_some h, by simpa using List.find?_some h⟩

section

variable {req : PacketWrapper} (hreq : Accepted req)
include hreq

theorem logTlvs_accepted :
    logTlvs req.tlvs = .ok () ↔ ∀ t ∈ req.tlvs, t.len.toNat < tlvValueSize :=
  logTlvs_ok_iff fun t ht => ⟨hreq.whole t (List.mem_of_mem_take ht), hreq.known t ht⟩

theorem copyOptional_ok_iff (id : UInt16) (size : Nat) :
    (∃ bytes, copyOptional size (findWrapperTlvById req id) = .ok bytes) ↔ Fits req id size := by
  unfold Fits
  cases hfind : findWrapperTlvById req id with
  | none => exact ⟨fun _ _ h => (nomatch h), fun _ => ⟨none, rfl⟩⟩
  | some tlv =>
      have hmem := (mem_of_findWrapperTlvById hfind).1
      have hiff : (∃ bytes, copyValue size tlv = .ok bytes) ↔ tlv.len.toNat < size :=
        copyValue_ok_iff (hreq.whole tlv hmem)
      constructor
      · intro ⟨bytes, hbytes⟩ other hother
        obtain rfl := Option.some.inj hother
        obtain ⟨copy, hcopy, _⟩ := Py.bind_eq_ok.mp hbytes
        exact hiff.mp ⟨copy, hcopy⟩
      · intro h
        obtain ⟨copy, hcopy⟩ := hiff.mpr (h tlv rfl)
        refine ⟨some copy, ?_⟩
        show (copyValue size tlv >>= fun bytes => pure (some bytes)) = _
        rw [hcopy]
        rfl

/-- A value that could be logged fits the larger buffers as well. -/
theorem copyValue_of_logged (hlogged : logTlvs req.tlvs = .ok ()) {id : UInt16} (hid : id ≠ 0)
    {tlv : TlvHdr} (hfind : findWrapperTlvById req id = some tlv) {size : Nat}
    (hsize : tlvValueSize ≤ size) : ∃ bytes, copyValue size tlv = .ok bytes := by
  obtain ⟨hmem, hsame⟩ := mem_of_findWrapperTlvById hfind
  have hcounts := hreq.mem_tlvs hmem (hsame ▸ hid)
  have hlen := (logTlvs_accepted hreq).mp hlogged tlv hcounts
  exact (copyValue_ok_iff (hreq.whole tlv hmem)).mpr (by omega)

end

/-! ## Conditions -/

/-- Every value is logged from 64 bytes; the short buffers are only reached
with a server and a certificate. -/
structure ConfigureFits (req : PacketWrapper) : Prop where
  logged : ∀ t ∈ req.tlvs, t.len.toNat ≤ 63
  short : (findWrapperTlvById req tlvAfcServerUrl).isSome = true →
    (findWrapperTlvById req tlvAfcCaCert).isSome = true →
    Fits req tlvAfcSecurityType 8 ∧ Fits req tlvAfcBandwidth 8 ∧ Fits req tlvAfcLocationGeoArea 8

structure OperationFits (req : PacketWrapper) : Prop where
  spectrumReq : Fits req tlvAfcSendSpectrumReq 8
  testFrame : Fits req tlvAfcSendTestFrame 8

section

variable {req : PacketWrapper} (hreq : Accepted req)
include hreq

theorem afcdConfigureHandler_ok_iff (s : AfcState) :
    (∃ result, afcdConfigureHandler s req = .ok result) ↔ ConfigureFits req := by
  have hlog := logTlvs_accepted hreq
  have hshort := fun id => copyOptional_ok_iff hreq id shortSize
  constructor
  · intro ⟨result, hrun⟩
    obtain ⟨_, hlogged, hrun⟩ := Py.bind_eq_ok.mp hrun
    refine ⟨fun t ht => Nat.le_of_lt_succ (hlog.mp hlogged t ht), ?_⟩
    intro hurl hcert
    obtain ⟨url, hurl⟩ := Option.isSome_iff_exists.mp hurl
    obtain ⟨cert, hcert⟩ := Option.isSome_iff_exists.mp hcert
    simp only [hurl, hcert] at hrun
    obtain ⟨_, _, hrun⟩ := Py.bind_eq_ok.mp hrun
    obtain ⟨_, _, hrun⟩ := Py.bind_eq_ok.mp hrun
    obtain ⟨security, hsecurity, hrun⟩ := Py.bind_eq_ok.mp hrun
    obtain ⟨bw, hbw, hrun⟩ := Py.bind_eq_ok.mp hrun
    obtain ⟨geoArea, hgeoArea, _⟩ := Py.bind_eq_ok.mp hrun
    exact ⟨(hshort _).mp ⟨_, hsecurity⟩, (hshort _).mp ⟨_, hbw⟩, (hshort _).mp ⟨_, hgeoArea⟩⟩
  · intro hfits
    have hlogged := hlog.mpr fun t ht => Nat.lt_succ_of_le (hfits.logged t ht)
    unfold afcdConfigureHandler
    rw [hlogged, Py.ok_bind]
    cases hurl : findWrapperTlvById req tlvAfcServerUrl with
    | none => exact ⟨_, rfl⟩
    | some url =>
        obtain ⟨serverUrl, hserverUrl⟩ := copyValue_of_logged hreq hlogged (by decide) hurl
          (show tlvValueSize ≤ serverUrlSize by decide)
        simp only [hserverUrl, Py.ok_bind]
        cases hcert : findWrapperTlvById req tlvAfcCaCert with
        | none => exact ⟨_, rfl⟩
        | some cert =>
            obtain ⟨caCert, hcaCert⟩ := copyValue_of_logged hreq hlogged (by decide) hcert
              (show tlvValueSize ≤ caCertSize by decide)
            obtain ⟨hsecurity, hbw, hgeoArea⟩ :=
              hfits.short (by rw [hurl]; rfl) (by rw [hcert]; rfl)
            obtain ⟨security, hsecurity⟩ := (hshort _).mpr hsecurity
            obtain ⟨bw, hbw⟩ := (hshort _).mpr hbw
            obtain ⟨geoArea, hgeoArea⟩ := (hshort _).mpr hgeoArea
            simp only [hcaCert, hsecurity, hbw, hgeoArea, Py.ok_bind]
            exact ⟨_, rfl⟩

theorem afcdOperationHandler_ok_iff :
    (∃ result, afcdOperationHandler req = .ok result) ↔ OperationFits req := by
  have hspectrum := copyOptional_ok_iff hreq tlvAfcSendSpectrumReq shortSize
  have hframe := copyOptional_ok_iff hreq tlvAfcSendTestFrame shortSize
  constructor
  · intro ⟨_, hrun⟩
    obtain ⟨reqType, hreqType, hrun⟩ := Py.bind_eq_ok.mp hrun
    obtain ⟨frameBw, hframeBw, _⟩ := Py.bind_eq_ok.mp hrun
    exact ⟨hspectrum.mp ⟨reqType, hreqType⟩, hframe.mp ⟨frameBw, hframeBw⟩⟩
  · intro hfits
    obtain ⟨reqType, hreqType⟩ := hspectrum.mpr hfits.spectrumReq
    obtain ⟨frameBw, hframeBw⟩ := hframe.mpr hfits.testFrame
    refine ⟨true, ?_⟩
    unfold afcdOperationHandler
    rw [hreqType, Py.ok_bind, hframeBw]
    rfl

end

/-! ## The theorem -/

/-- The boundary that `location_conf` sends for a linear polygon in the US. -/
def linearPolygonBoundary : List UInt8 :=
  cString ("-121.9875329371091,37.382479218209305 -121.98371347155712,37.38271792164739 " ++
    "-121.98558028898755,37.37992163368795")

/-- `AFCD_CONFIGURE` with that boundary. -/
def linearPolygonPacket : List UInt8 :=
  [1, 0x60, 1, 0, 1, 0xff, 0xff, 0xb0, 0x0b, linearPolygonBoundary.length.toUInt8] ++
    linearPolygonBoundary

def linearPolygonRequest : PacketWrapper :=
  ⟨⟨1, 0x6001, 1, 0xff, 0xff⟩,
    [⟨tlvAfcLinearpolyBoundary, linearPolygonBoundary.length.toUInt8, linearPolygonBoundary⟩], 1⟩

theorem accepted_linearPolygonRequest :
    parsePacket .zero (linearPolygonPacket ++ []) linearPolygonPacket.length =
      .ok (0, linearPolygonRequest) := by
  decide +kernel

/-- The parser accepts the boundary, and the copy that is logged overruns its
64 bytes. -/
theorem boundary_overruns :
    parsePacket .zero (linearPolygonPacket ++ []) linearPolygonPacket.length =
      .ok (0, linearPolygonRequest) ∧
    ∀ s result, afcdConfigureHandler s linearPolygonRequest ≠ .ok result := by
  have hreq := accepted_of_parsePacket accepted_linearPolygonRequest
  refine ⟨accepted_linearPolygonRequest, ?_⟩
  intro s result hrun
  have hfits := (afcdConfigureHandler_ok_iff hreq s).mp ⟨result, hrun⟩
  have hlen := hfits.logged _ List.mem_cons_self
  have hlong : ¬ linearPolygonBoundary.length.toUInt8.toNat ≤ 63 := by decide +kernel
  exact hlong hlen

/-- **Copies.** For every accepted request, whatever lies behind the packet,
`afcd_configure_handler` stays in its buffers exactly if no value has more than
63 bytes and, when a server and a certificate are given, the first security
type, bandwidth and area have at most 7; `afcd_operation_handler` exactly if the
first spectrum request and test frame have at most 7. -/
theorem copies_within_bounds_iff {packet after : List UInt8} {req : PacketWrapper}
    (h : parsePacket .zero (packet ++ after) packet.length = .ok (0, req)) :
    (∀ s, (∃ result, afcdConfigureHandler s req = .ok result) ↔ ConfigureFits req) ∧
      ((∃ result, afcdOperationHandler req = .ok result) ↔ OperationFits req) := by
  have hreq := accepted_of_parsePacket h
  exact ⟨afcdConfigureHandler_ok_iff hreq, afcdOperationHandler_ok_iff hreq⟩

/-- `AFCD_OPERATION` with a spectrum request of eight digits. -/
theorem copies_within_bounds_iff_long_type :
    (∃ result, afcdOperationHandler ⟨⟨1, 0x6002, 1, 0xff, 0xff⟩,
      [⟨tlvAfcSendSpectrumReq, 8, List.replicate 8 48⟩], 1⟩ = .ok result) ↔
    OperationFits ⟨⟨1, 0x6002, 1, 0xff, 0xff⟩,
      [⟨tlvAfcSendSpectrumReq, 8, List.replicate 8 48⟩], 1⟩ := by
  have h : parsePacket .zero
      ([1, 0x60, 2, 0, 1, 0xff, 0xff, 0xb0, 0x1a, 8] ++ List.replicate 8 48 ++ []) 18 =
        .ok (0, ⟨⟨1, 0x6002, 1, 0xff, 0xff⟩,
          [⟨tlvAfcSendSpectrumReq, 8, List.replicate 8 48⟩], 1⟩) := by decide +kernel
  exact (@copies_within_bounds_iff
    ([1, 0x60, 2, 0, 1, 0xff, 0xff, 0xb0, 0x1a, 8] ++ List.replicate 8 48) _ _ h).2

end AfcDut.ControlApp.Theorems.AfcCopies
