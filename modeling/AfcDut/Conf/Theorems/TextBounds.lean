import AfcDut.Conf.Placement
import AfcDut.Indigo.Accepted

/-!
# The room for the configuration

When the text of `generate_hostapd_config` fits the 8191 characters that
`configure_ap_handler` has room for. A profile that does not exist is the
other way to fail.
-/

namespace AfcDut.Conf.Theorems.TextBounds

open Indigo ControlApp

variable (env : HapdEnv)

/-! ## Two requests -/

/-- `AP_CONFIGURE` of a BSS with the fifth of four load profiles. -/
def loadPacket : List UInt8 :=
  [1, 0x10, 2, 0, 1, 0xff, 0xff, 0, 0x1d, 1, 49, 0, 0xb2, 1, 52]

def loadRequest : PacketWrapper :=
  ⟨⟨1, 0x1002, 1, 0xff, 0xff⟩, [⟨tlvBssIdentifier, 1, [49]⟩, ⟨tlvBssloadEnable, 1, [52]⟩], 2⟩

/-- `AP_CONFIGURE` of a BSS with the first list of realms fifty-four times. -/
def realmPacket : List UInt8 :=
  [1, 0x10, 2, 0, 1, 0xff, 0xff, 0, 0x1d, 1, 49] ++ (List.replicate 54 [0, 0xb7, 1, 49]).flatten

def realmRequest : PacketWrapper :=
  ⟨⟨1, 0x1002, 1, 0xff, 0xff⟩,
    ⟨tlvBssIdentifier, 1, [49]⟩ :: List.replicate 54 ⟨tlvNaiRealm, 1, [49]⟩, 55⟩

/-- The values of a request, with the same bytes behind each. -/
def placed (behind : List UInt8) (req : PacketWrapper) : List PlacedTlv :=
  req.tlvs.map fun hdr => ⟨hdr, behind⟩

theorem realmChars (hasOwe hasIcons : Bool) (table : Table) (behind : List UInt8) :
    tlvChars env hasOwe hasIcons table ⟨⟨tlvNaiRealm, 1, [49]⟩, behind⟩ = 152 := by
  have hchannel : tlvNaiRealm ≠ tlvChannel := by decide
  have h6g : tlvNaiRealm ≠ tlvHe6gOnly := by decide
  have hbss : tlvNaiRealm ≠ tlvBssIdentifier := by decide
  have hhessid : tlvNaiRealm ≠ tlvHessid := by decide
  have hskip : tlvChars env hasOwe hasIcons table ⟨⟨tlvNaiRealm, 1, [49]⟩, behind⟩ =
      0 + (naiRealm.getD (atoi [49]).toNat []).length := by
    have hid : PlacedTlv.id ⟨⟨tlvNaiRealm, 1, [49]⟩, behind⟩ = tlvNaiRealm := rfl
    rw [tlvChars, hid, if_neg fun h => hchannel h.1, if_neg h6g, if_neg hbss]
    refine Eq.trans (if_neg fun h => hhessid h.1) ?_
    rfl
  rw [hskip]
  decide +kernel

theorem realmsChars (hasOwe hasIcons : Bool) (table : Table) (behind : List UInt8) (n : Nat) :
    loopChars env hasOwe hasIcons table
      (List.replicate n ⟨⟨tlvNaiRealm, 1, [49]⟩, behind⟩) = 152 * n := by
  induction n generalizing hasOwe hasIcons table with
  | zero => rfl
  | succ n ih =>
      rw [List.replicate_succ, loopChars, realmChars, ih]
      omega

theorem placed_realmRequest (behind : List UInt8) : placed behind realmRequest =
    ⟨⟨tlvBssIdentifier, 1, [49]⟩, behind⟩ ::
      List.replicate 54 ⟨⟨tlvNaiRealm, 1, [49]⟩, behind⟩ := by
  rw [placed, show realmRequest.tlvs = ⟨tlvBssIdentifier, 1, [49]⟩ ::
    List.replicate 54 ⟨tlvNaiRealm, 1, [49]⟩ from rfl, List.map_cons, List.map_replicate]

/-- All TLVs of the request go through. -/
theorem tlvOk_realmRequest (behind : List UInt8) : ∀ t ∈ placed behind realmRequest, TlvOk t := by
  have hprofile : findTlvHs2Profile tlvNaiRealm = some ⟨tlvNaiRealm, naiRealm⟩ := rfl
  have hindex : 0 ≤ atoi [49] ∧ atoi [49] < (naiRealm.length : Int) := by decide +kernel
  intro t ht
  rw [placed_realmRequest] at ht
  rcases List.mem_cons.mp ht with rfl | ht
  · exact ⟨copiesFit_of_not_mem (show tlvBssIdentifier ∉ copiedIds by decide),
      profileExists_of_none (show (findTlvHs2Profile tlvBssIdentifier).isNone = true by rfl)⟩
  · obtain rfl := List.eq_of_mem_replicate ht
    refine ⟨copiesFit_of_not_mem (show tlvNaiRealm ∉ copiedIds by decide), fun profile hp => ?_⟩
    obtain rfl := Option.some.inj (hprofile.symm.trans hp)
    exact hindex

theorem realmRequestChars (band : List UInt8) (table : Table) (behind : List UInt8) :
    8191 < confChars env band table (placed behind realmRequest) := by
  rw [placed_realmRequest, confChars, loopChars, realmsChars]
  omega

/-- A load profile that does not exist, and a text that is too long: both
requests are accepted, and their values fit. -/
theorem text_unbounded :
    (parsePacket .zero (loadPacket ++ []) loadPacket.length = .ok (0, loadRequest) ∧
      loadPacket.length ≤ 1536 ∧
      ∀ env band table behind, (∀ t ∈ placed behind loadRequest, CopiesFit t) ∧
        ∀ result, generateHostapdConfig env band table (placed behind loadRequest) ≠ .ok result) ∧
    (parsePacket .zero (realmPacket ++ []) realmPacket.length = .ok (0, realmRequest) ∧
      realmPacket.length ≤ 1536 ∧
      ∀ env band table behind, (∀ t ∈ placed behind realmRequest, CopiesFit t) ∧
        ∃ text table', generateHostapdConfig env band table (placed behind realmRequest) =
            .ok (text, table') ∧ 8191 < text.length) := by
  refine ⟨⟨by decide +kernel, by decide, ?_⟩, by decide +kernel, by decide +kernel, ?_⟩
  · intro env band table behind
    constructor
    · intro t ht
      obtain ⟨hdr, hhdr, rfl⟩ := List.mem_map.mp ht
      have hother : ∀ hdr ∈ loadRequest.tlvs, hdr.id ∉ copiedIds := by decide
      exact copiesFit_of_not_mem (hother hdr hhdr)
    · rintro ⟨text, table'⟩ hrun
      have hall := ((generateHostapdConfig_ok_iff env band table _ text table').mp hrun).1
      have hprofile := (hall _ (List.mem_cons_of_mem _ List.mem_cons_self)).2 _ rfl
      exact absurd hprofile.2 (show ¬ atoi [52] < (bssLoad.length : Int) by decide +kernel)
  · intro env band table behind
    have hok := tlvOk_realmRequest behind
    refine ⟨fun t ht => (hok t ht).1, _, _,
      (generateHostapdConfig_ok_iff env band table _ _ _).mpr ⟨hok, rfl, rfl⟩, ?_⟩
    rw [length_hapdText]
    exact realmRequestChars env band table behind

/-- **Bounds.** Whatever the interface, the settings, the memory behind the
values and the table: a request whose values fit their locals finds every
profile and stays within 8191 characters exactly if every profile index is
below the number of profiles and the lines, counted, are not more. -/
theorem text_bounded_iff {band : List UInt8} {table : Table} {ts : List PlacedTlv}
    (h : ∀ t ∈ ts, CopiesFit t) :
    (∃ text table', generateHostapdConfig env band table ts = .ok (text, table') ∧
      text.length ≤ 8191) ↔
    (∀ t ∈ ts, ProfileExists t) ∧ confChars env band table ts ≤ 8191 := by
  simp only [generateHostapdConfig_ok_iff]
  constructor
  · rintro ⟨text, table', ⟨hall, rfl, -⟩, hlen⟩
    rw [length_hapdText] at hlen
    exact ⟨fun t ht => (hall t ht).2, hlen⟩
  · rintro ⟨hprofiles, hlen⟩
    refine ⟨_, _, ⟨fun t ht => ⟨h t ht, hprofiles t ht⟩, rfl, rfl⟩, ?_⟩
    rw [length_hapdText]
    exact hlen

/-- A BSS on channel 36 with two profiles, and values that are copied to locals. -/
def profileTlvs : List PlacedTlv :=
  bareTlvs [⟨tlvBssIdentifier, 1, [49]⟩, ⟨tlvHwMode, 1, [97]⟩, ⟨tlvChannel, 2, [51, 54]⟩,
    ⟨tlvSsid, 3, [100, 117, 116]⟩, ⟨tlvIeee80211Ac, 1, [49]⟩, ⟨tlvVhtOperChwidth, 1, [49]⟩,
    ⟨tlvBssloadEnable, 1, [51]⟩, ⟨tlvNaiRealm, 1, [49]⟩]

theorem text_bounded_iff_profiles :
    (∃ text table',
      generateHostapdConfig loneWlan [] (.empty .laptop) profileTlvs = .ok (text, table') ∧
      text.length ≤ 8191) ↔
    (∀ t ∈ profileTlvs, ProfileExists t) ∧
      confChars loneWlan [] (.empty .laptop) profileTlvs ≤ 8191 :=
  text_bounded_iff loneWlan (by decide)

end AfcDut.Conf.Theorems.TextBounds
