import AfcDut.Conf.Undecided
import AfcDut.Indigo.Accepted

/-!
# A function of the request

When the text of `generate_hostapd_config` depends on the request alone. The
searches of values that have no terminator, and a band that no TLV has set, are
the ways to fail.
-/

namespace AfcDut.Conf.Theorems.RequestOnly

open Indigo ControlApp

variable {env : HapdEnv} {table : Table} {hdrs : List TlvHdr}

/-- Whatever lies behind the values, and whatever `band` holds on entry, there
is one text. -/
def TextOfRequest (env : HapdEnv) (table : Table) (hdrs : List TlvHdr) : Prop :=
  ∃ text, ∀ ts band, ts.map PlacedTlv.hdr = hdrs →
    ∃ table', generateHostapdConfig env band table ts = .ok (text, table')

theorem sameText_of_textOfRequest (h : TextOfRequest env table hdrs) :
    SameText env table hdrs := by
  obtain ⟨text, hrun⟩ := h
  have heq : ∀ ts band, ts.map PlacedTlv.hdr = hdrs → text = hapdText env band table ts := by
    intro ts band hts
    obtain ⟨table', hok⟩ := hrun ts band hts
    exact ((generateHostapdConfig_ok_iff env band table ts text table').mp hok).2.1
  intro ts us band band' hts hus
  rw [← heq ts band hts, ← heq us band' hus]

theorem tlvOk_of_textOfRequest (h : TextOfRequest env table hdrs) :
    ∀ t ∈ bareTlvs hdrs, TlvOk t := by
  obtain ⟨text, hrun⟩ := h
  obtain ⟨table', hok⟩ := hrun (bareTlvs hdrs) [] (map_hdr_bareTlvs hdrs)
  exact ((generateHostapdConfig_ok_iff env [] table _ text table').mp hok).1

/-- What lies behind a value does not decide whether the TLV goes through. -/
theorem tlvOk_of_bare {t : PlacedTlv} (h : TlvOk (bare t.hdr)) : TlvOk t :=
  ⟨⟨⟨h.1.hwMode, h.1.heWidth, h.1.vhtWidth, h.1.country, h.1.cadence⟩, h.1.channel, h.1.owe⟩, h.2⟩

/-! ## Two requests -/

/-- `AP_CONFIGURE` of a BSS with the key management `WPA-PSK`. -/
def keyPacket : List UInt8 :=
  [1, 0x10, 2, 0, 1, 0xff, 0xff, 0, 0x1d, 1, 49, 0, 12, 7, 87, 80, 65, 45, 80, 83, 75]

def keyRequest : PacketWrapper :=
  ⟨⟨1, 0x1002, 1, 0xff, 0xff⟩,
    [⟨tlvBssIdentifier, 1, [49]⟩, ⟨tlvWpaKeyMgmt, 7, [87, 80, 65, 45, 80, 83, 75]⟩], 2⟩

/-- `AP_CONFIGURE` of a BSS with the channel 36 and no band. -/
def channelPacket : List UInt8 :=
  [1, 0x10, 2, 0, 1, 0xff, 0xff, 0, 0x1d, 1, 49, 0, 2, 2, 51, 54]

def channelRequest : PacketWrapper :=
  ⟨⟨1, 0x1002, 1, 0xff, 0xff⟩,
    [⟨tlvBssIdentifier, 1, [49]⟩, ⟨tlvChannel, 2, [51, 54]⟩], 2⟩

/-- Two accepted requests with more than one text: the first leaves the
security mode to the memory behind a value, the second the lines of its channel to
the local `band`. -/
theorem text_not_of_request :
    (parsePacket .zero (keyPacket ++ []) keyPacket.length = .ok (0, keyRequest) ∧
      ∀ env table, ¬ TextOfRequest env table keyRequest.tlvs) ∧
    (parsePacket .zero (channelPacket ++ []) channelPacket.length = .ok (0, channelRequest) ∧
      ∀ env table, ¬ TextOfRequest env table channelRequest.tlvs) := by
  refine ⟨⟨by decide +kernel, ?_⟩, by decide +kernel, ?_⟩
  · intro env table h
    have hreaches : Reaches keyRequest.tlvs tlvWpaKeyMgmt :=
      ⟨_, List.mem_cons_of_mem _ List.mem_cons_self, rfl, by decide⟩
    have hunsure : ¬ Sure keyRequest.tlvs (sets tlvWpaKeyMgmt "SAE") := by
      show ¬ (bareTlvs keyRequest.tlvs).any (sets tlvWpaKeyMgmt "SAE") = true
      decide +kernel
    exact (sameText_of_textOfRequest h).sae ⟨hunsure, hreaches⟩
  · intro env table h
    have hht40 : isHt40Chan (lastInt (hasId tlvChannel) 0 (bareTlvs channelRequest.tlvs)) =
        true := by
      decide +kernel
    have hoff := ((sameText_of_textOfRequest h).unset rfl).2 rfl
    rw [show (finalLocals env [] (bareTlvs channelRequest.tlvs)).channel =
      lastInt (hasId tlvChannel) 0 (bareTlvs channelRequest.tlvs) from rfl, hht40] at hoff
    cases hoff

/-- **A function of the request.** Every run of a request goes through with one
text, whatever lies behind its values and in `band` on entry, exactly if the
request decides what the code looks for. -/
theorem text_of_request_iff (env : HapdEnv) (table : Table) (hdrs : List TlvHdr) :
    TextOfRequest env table hdrs ↔ Decides env table hdrs := by
  constructor
  · intro h
    have hsame := sameText_of_textOfRequest h
    have hok := tlvOk_of_textOfRequest h
    exact {
      goesThrough := hok
      lines := fun before hdr after hsplit =>
        ⟨fun hid => hsame.hessid hsplit hid, fun hid hwlan => hsame.owe hsplit hid hwlan⟩
      sae := hsame.sae
      hs20 := hsame.hs20
      transition := hsame.transition
      wpa := hsame.wpa
      rfBand := hsame.rfBand
      channelBand := hsame.channelBand fun u hu hid => (hok u hu).1.hwMode hid
      width6g := hsame.width6g
      width5g := hsame.width5g }
  · intro h
    refine ⟨hapdText env [] table (bareTlvs hdrs), ?_⟩
    rintro ts band rfl
    refine ⟨finalTable table ts, (generateHostapdConfig_ok_iff env band table ts _ _).mpr
      ⟨?_, (hapdText_of_decided h band).symm, rfl⟩⟩
    intro t ht
    exact tlvOk_of_bare (h.goesThrough (bare t.hdr) (by
      rw [bareTlvs_map]
      exact List.mem_map_of_mem ht))

end AfcDut.Conf.Theorems.RequestOnly
