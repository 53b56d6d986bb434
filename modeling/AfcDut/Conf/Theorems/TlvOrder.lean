import AfcDut.Conf.HapdSwap
import AfcDut.Indigo.Accepted

/-!
# The order of the TLVs

When the order of the TLVs makes no difference to the lines and the table of
`generate_hostapd_config`. An OWE transition that comes before the key management,
a BSS identifier or a HESSID, and two widths, are the ways to fail.
-/

namespace AfcDut.Conf.Theorems.TlvOrder

open Indigo ControlApp

variable {env : HapdEnv} {band : List UInt8} {table : Table} {ts : List PlacedTlv}

/-- Every order has the same lines, counted with their repetitions, and leaves
the same table. -/
def OrderIndependent (env : HapdEnv) (band : List UInt8) (table : Table)
    (ts : List PlacedTlv) : Prop :=
  ∀ us, us.Perm ts → ∃ text text' table',
    generateHostapdConfig env band table ts = .ok (text, table') ∧
      generateHostapdConfig env band table us = .ok (text', table') ∧
      (confLines text').Perm (confLines text)

theorem sameLines_of_orderIndependent (h : OrderIndependent env band table ts) :
    SameLines env band table ts := by
  intro us hperm
  obtain ⟨text, text', table', hts, hus, hlines⟩ := h us hperm
  rw [((generateHostapdConfig_ok_iff env band table ts text table').mp hts).2.1,
    ((generateHostapdConfig_ok_iff env band table us text' table').mp hus).2.1] at hlines
  exact hlines

/-! ## A request in two orders -/

/-- Two interfaces of the 5 GHz band, the first of which is in use. -/
def twoWlans : Table :=
  (assignWirelessInterfaceInfo
    (addWirelessInterfaceInfo (addWirelessInterfaceInfo (.empty .laptop) band5ghz "wlan0")
      band5ghz "wlan1")
    (parseBssIdentifier 1)).1

/-- `AP_CONFIGURE` of the first BSS with the key management `OWE` and a transition
to the other one of the band. -/
def owePacket : List UInt8 :=
  [1, 0x10, 2, 0, 1, 0xff, 0xff, 0, 0x1d, 1, 49, 0, 12, 3, 79, 87, 69, 0, 0xa2, 2, 49, 55]

def oweRequest : PacketWrapper :=
  ⟨⟨1, 0x1002, 1, 0xff, 0xff⟩, [⟨tlvBssIdentifier, 1, [49]⟩, ⟨tlvWpaKeyMgmt, 3, [79, 87, 69]⟩,
    ⟨tlvOweTransitionBssIdentifier, 2, [49, 55]⟩], 3⟩

/-- An accepted request with distinct ids, whose values have no NUL, fit and are
followed by a NUL: only behind the key management does the transition hide the
network. -/
theorem order_dependent :
    parsePacket .zero (owePacket ++ []) owePacket.length = .ok (0, oweRequest) ∧
      ((bareTlvs oweRequest.tlvs).map PlacedTlv.id).Nodup ∧
      (∀ t ∈ bareTlvs oweRequest.tlvs, 0 ∉ t.value ∧ cText t.behind = [] ∧ CopiesFit t) ∧
      ∀ band, ¬ OrderIndependent loneWlan band twoWlans (bareTlvs oweRequest.tlvs) := by
  refine ⟨by decide +kernel, by decide, by decide, ?_⟩
  · intro band h
    have hkey : bare ⟨tlvWpaKeyMgmt, 3, [79, 87, 69]⟩ ∈ bareTlvs oweRequest.tlvs :=
      List.mem_cons_of_mem _ List.mem_cons_self
    have hwlan : (oweWlan twoWlans (atoi (bare ⟨tlvOweTransitionBssIdentifier, 2,
        [49, 55]⟩).value)).2.isSome = true := by decide +kernel
    have hoff := (sameLines_of_orderIndependent h).owe (by decide)
      (List.mem_cons_of_mem _ (List.mem_cons_of_mem _ List.mem_cons_self)) rfl hwlan hkey
    have hon : sets tlvWpaKeyMgmt "OWE" (bare ⟨tlvWpaKeyMgmt, 3, [79, 87, 69]⟩) = true := by
      decide +kernel
    rw [hon] at hoff
    cases hoff

/-- **The order of the TLVs.** A request of distinct ids whose values fit their
locals has the same lines and leaves the same table in every order exactly if
every profile exists and neither an OWE transition nor two widths let the order
through. -/
theorem order_independent_iff (hids : (ts.map PlacedTlv.id).Nodup)
    (hfits : ∀ t ∈ ts, CopiesFit t) :
    OrderIndependent env band table ts ↔ OrderFree env band table ts := by
  constructor
  · intro h
    have hsame := sameLines_of_orderIndependent h
    obtain ⟨text, -, table', hok, -⟩ := h ts (.refl ts)
    have hall := ((generateHostapdConfig_ok_iff env band table ts text table').mp hok).1
    exact {
      profiles := fun t ht => (hall t ht).2
      owe := fun t ht hid hwlan u hu => hsame.owe hids ht hid hwlan hu
      bss := fun t ht hid u hu huid hmbssid => hsame.bss hids ht hid hu huid hmbssid
      hessid := fun t ht hid u hu huid hself => hsame.hessid hids ht hid hu huid hself
      width6g := fun t ht hhe u hu hvht hon h6g => hsame.width6g hids ht hhe hu hvht hon h6g
      width5g := fun t ht hhe u hu hvht hon h6g hband hht40 =>
        hsame.width5g hids ht hhe hu hvht hon h6g hband hht40 }
  · intro h us hperm
    refine ⟨hapdText env band table ts, hapdText env band table us, finalTable table ts,
      (generateHostapdConfig_ok_iff _ _ _ _ _ _).mpr ⟨?_, rfl, rfl⟩,
      (generateHostapdConfig_ok_iff _ _ _ _ _ _).mpr
        ⟨?_, rfl, (finalTable_perm hids hperm table).symm⟩, confLines_of_orderFree hids h hperm⟩
    · exact fun t ht => ⟨hfits t ht, h.profiles t ht⟩
    · exact fun t ht => ⟨hfits t (hperm.mem_iff.mp ht), h.profiles t (hperm.mem_iff.mp ht)⟩

/-- A BSS with a profile, one width given twice, and a transition to the other BSS of
the band. -/
def roamingTlvs : List PlacedTlv :=
  bareTlvs [⟨tlvBssIdentifier, 1, [49]⟩, ⟨tlvHwMode, 1, [97]⟩, ⟨tlvChannel, 2, [51, 54]⟩,
    ⟨tlvSsid, 3, [100, 117, 116]⟩, ⟨tlvWpaKeyMgmt, 3, [83, 65, 69]⟩, ⟨tlvIeee80211Ac, 1, [49]⟩,
    ⟨tlvVhtOperChwidth, 1, [49]⟩, ⟨tlvHeOperChwidth, 1, [49]⟩, ⟨tlvNaiRealm, 1, [49]⟩,
    ⟨tlvOweTransitionBssIdentifier, 2, [49, 55]⟩]

theorem orderFree_roamingTlvs : OrderFree loneWlan [] twoWlans roamingTlvs where
  profiles := by decide
  owe := by decide
  bss := by decide
  hessid := by decide
  width6g := by decide
  width5g := by decide

/-- The same TLVs from the last to the first. -/
theorem order_independent_reversed : ∃ text text' table',
    generateHostapdConfig loneWlan [] twoWlans roamingTlvs = .ok (text, table') ∧
      generateHostapdConfig loneWlan [] twoWlans roamingTlvs.reverse = .ok (text', table') ∧
      (confLines text').Perm (confLines text) :=
  (order_independent_iff (by decide) (by decide)).mpr orderFree_roamingTlvs _
    (List.reverse_perm _)

end AfcDut.Conf.Theorems.TlvOrder
