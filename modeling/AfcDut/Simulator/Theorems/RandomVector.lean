import AfcDut.Simulator.RandomLimits

/-!
# The channels and limits of a random vector

What `build_random_vector` lists for each width, against the limits it drew: a
wide channel is missing when its lowest limit is zero, and the limit of a
20 MHz channel is the only one that is not capped.
-/

namespace AfcDut.Simulator.Theorems.RandomVector

open Py Service

/-! ## The calls -/

/-- A call of `build_random_vector` that returns: the globals and CFIs it is
called on, the outcomes of its draws, and the globals it leaves. The CFIs are
CFIs of the country, as `reqCfiBwX_country` says of its callers. -/
structure Building where
  g : Globals
  reqCfiBwX : List Json
  d : Draws
  p : CountryParam
  chans : List Int
  built : Globals
  country : countryParam g.countryCode = .ok p
  covered : ∀ k ∈ reqCfiBwX.map Json.key?,
    ∃ cfi ∈ p.cfis (inquiredBandwidth g.channelWidth), k = some (.num cfi)
  channels : randomChanBw20 { g with randomPicks := nextPicks g reqCfiBwX d } p = .ok chans
  returns : buildRandomVector g reqCfiBwX d = (built, .ok ())

namespace Building

variable (b : Building)

/-- The limit drawn for the `i`-th channel. -/
def psd : Nat → ℚ := drawPsd b.p b.g.channelWidth b.g.differenceLastPicks b.d

/-- `random_mask` -/
def mask : List (Int × MaskEntry) := randomMask b.psd b.chans

/-- The limit of a drawn channel. -/
def limit (ch : Int) : Option ℚ := lastDrawn b.psd b.chans ch

/-- The vector has `availableChannelInfo`. -/
def ByChannel : Prop := b.g.scriptTestVector = 2 ∨ b.g.scriptTestVector = 3

/-- `availableChannelInfo` lists the CFI under the operating class of its
width, with this limit. -/
def Advertises (bw : Bandwidth) (cfi : Int) (maxEirp : Json) : Prop :=
  Offers (VectorMember b.built.vectors) (.num bw.opClass) (.num cfi) maxEirp

def Lists (bw : Bandwidth) (cfi : Int) : Prop := ∃ maxEirp, b.Advertises bw cfi maxEirp

theorem responses : b.built.vectors.field "responses" =
    .ok (randomDocument (randomResponse b.g.scriptTestVector b.p b.mask)) := by
  obtain ⟨p, chans, kvs, hp, hchans, _, hbuilt⟩ := buildRandomVector_eq_ok b.returns
  have hsame : p = b.p := Except.ok.inj (hp.symm.trans b.country)
  subst hsame
  have hdrawn : chans = b.chans := Except.ok.inj (hchans.symm.trans b.channels)
  subst hdrawn
  rw [hbuilt]
  exact Json.field_obj_eq_ok.mpr (by rw [Json.lookup_assign, if_pos rfl]; rfl)

theorem advertises_iff (bw : Bandwidth) (cfi : Int) (maxEirp : Json) :
    b.Advertises bw cfi maxEirp ↔
      b.ByChannel ∧ ∃ e ∈ bwEntries b.p b.mask bw, e.1 = cfi ∧ maxEirp = .float e.2 :=
  offers_random_iff b.responses maxEirp

/-- The picks of the call are CFIs of the country, unless it makes none. -/
theorem residue : ∃ r, ∀ ch ∈ b.chans, ch % 4 = r := by
  by_cases hpower : b.g.onlyRandomPower.truthy = true
  · -- all channels of the country are drawn
    have hchans := b.channels
    unfold randomChanBw20 at hchans
    rw [if_pos (by exact hpower), pure_eq_ok, Except.ok.injEq] at hchans
    refine ⟨1, fun ch hch => ?_⟩
    rw [← hchans] at hch
    have hgrid := cfis_grid b.country .bw20 ch hch
    simpa [Bandwidth.mhz] using hgrid
  · refine @randomChanBw20_residue { b.g with randomPicks := nextPicks b.g b.reqCfiBwX b.d }
      b.p b.chans b.country ?_ b.channels
    intro k hk
    apply b.covered
    have hpicks : nextPicks b.g b.reqCfiBwX b.d =
        pickCfis b.g.differenceLastPicks b.g.randomPicks b.reqCfiBwX b.d := if_neg hpower
    have hk' : k ∈ cfiSet (nextPicks b.g b.reqCfiBwX b.d) := mem_cfiSet.mpr hk
    rw [hpicks] at hk'
    exact mem_cfiSet.mp (cfiSet_pickCfis_subset hk')

/-- Every 20 MHz channel of the CFI has a limit, and `q` is the lowest. -/
def LowestLimit (bw : Bandwidth) (cfi : Int) (q : ℚ) : Prop := Lowest b.psd b.chans bw cfi q

variable {bw : Bandwidth} {cfi : Int}

variable {b}

/-- Only in the second phase of a 320 MHz test can the lowest limit be zero. -/
theorem LowestLimit.pos {q : ℚ} (hq : b.LowestLimit bw cfi q)
    (h : ¬ (b.g.channelWidth.key? = some (.num 320) ∧ b.g.differenceLastPicks = true)) :
    0 < q := by
  obtain ⟨ch, _, hlimit⟩ := hq.least.1
  obtain ⟨i, hi⟩ := lastDrawn_eq_some hlimit
  rw [← hi]
  exact drawPsd_pos b.country b.d i h

/-- Only in the first phase of a 320 MHz test can a limit be above 22 dBm/MHz. -/
theorem limit_le {ch : Int} {q : ℚ} (hq : b.limit ch = some q)
    (h : ¬ (b.g.channelWidth.key? = some (.num 320) ∧ b.g.differenceLastPicks = false)) :
    q ≤ 22 := by
  obtain ⟨i, hi⟩ := lastDrawn_eq_some hq
  rw [← hi]
  exact drawPsd_le b.country b.d i h

variable (b)

theorem getMin_iff (hcfi : cfi ∈ b.p.cfis bw) (q : ℚ) :
    getMinMaxpsdByBw b.mask cfi bw = some q ↔ b.LowestLimit bw cfi q := by
  obtain ⟨r, hr⟩ := b.residue
  exact getMinMaxpsdByBw_eq_some_iff hr (cfis_grid b.country bw cfi hcfi) q

/-- A wide channel is listed when its lowest limit is not zero. -/
theorem lists_iff (hchannel : b.ByChannel) (hwide : bw ≠ .bw20) (hcfi : cfi ∈ b.p.cfis bw) :
    b.Lists bw cfi ↔ ∃ q, b.LowestLimit bw cfi q ∧ q ≠ 0 := by
  have hentries : b.Lists bw cfi ↔ ∃ e ∈ bwEntries b.p b.mask bw, e.1 = cfi := by
    unfold Lists
    simp only [advertises_iff]
    constructor
    · intro h
      obtain ⟨_, _, e, he, hkey, _⟩ := h
      exact ⟨e, he, hkey⟩
    · intro h
      obtain ⟨e, he, hkey⟩ := h
      exact ⟨_, hchannel, e, he, hkey, rfl⟩
  rw [hentries, mem_bwEntries_wide hwide hcfi]
  exact exists_congr fun q => and_congr_left fun _ => b.getMin_iff hcfi q

/-- The keys of the mask are the channels with a limit. -/
theorem drawn_iff : (∀ ch ∈ subChannels bw cfi, ch ∈ b.mask.map (·.1)) ↔
    ∀ ch ∈ subChannels bw cfi, ∃ q, b.limit ch = some q :=
  forall_congr' fun ch => imp_congr_right fun _ => mem_keys_iff ch

end Building

/-- An accepted inquiry that builds its vector makes such a call. -/
theorem exists_building {g g' : Globals} {version req : Json} {i : Inquired} {d : Draws}
    (hread : readInquiry g version req = .ok i) (hrandom : g.isRandom = true)
    (hhas : g.vectors.has "responses" = .ok false)
    (h : buildOnce g i.reqCfiBwX d = (g', .ok ())) :
    ∃ b : Building, b.g = g ∧ b.reqCfiBwX = i.reqCfiBwX ∧ b.d = d ∧ b.built = g' := by
  rw [buildOnce, if_pos hrandom, hhas] at h
  obtain ⟨p, chans, _, hp, hchans, _⟩ := buildRandomVector_eq_ok h
  exact ⟨⟨g, i.reqCfiBwX, d, p, chans, g', hp, reqCfiBwX_country hp hread, hchans, h⟩,
    rfl, rfl, rfl, rfl⟩

/-! ## Wide channels -/

/-- A wide channel of the country is listed if and only if all its 20 MHz
channels are in the mask, exactly when its lowest limit is not zero. -/
theorem wide_listed_iff (b : Building) (hchannel : b.ByChannel) {bw : Bandwidth}
    (hwide : bw ≠ .bw20) {cfi : Int} (hcfi : cfi ∈ b.p.cfis bw) :
    (b.Lists bw cfi ↔ ∀ ch ∈ subChannels bw cfi, ch ∈ b.mask.map (·.1)) ↔
      ¬ b.LowestLimit bw cfi 0 := by
  rw [b.lists_iff hchannel hwide hcfi, b.drawn_iff]
  constructor
  · intro h hzero
    obtain ⟨q, hq, hne⟩ := h.mpr hzero.drawn
    exact hne (hq.least.unique hzero.least)
  · intro hzero
    constructor
    · intro h
      obtain ⟨q, hq, _⟩ := h
      exact hq.drawn
    · intro hdrawn
      obtain ⟨r, hr⟩ := b.residue
      obtain ⟨q, hq⟩ := exists_lowest hr (cfis_grid b.country bw cfi hcfi) hdrawn
      refine ⟨q, hq, fun hq0 => hzero ?_⟩
      rw [← hq0]
      exact hq

/-! ### A zero limit -/

/-- The globals of a 320 MHz test by channels, in its first phase or in the
second one, after CFI 31 was picked. -/
def wideTest (second : Bool) : Globals :=
  { Globals.init with
    isRandom := true
    scriptTestVector := 2
    channelWidth := .int 320
    differenceLastPicks := second
    randomPicks := if second then [.int 31] else [] }

/-- The draws that take the first CFIs, and for each channel these two
values. -/
def drawing (r s : ℚ) (hr : 0 ≤ r ∧ r ≤ 1) (hs : 0 ≤ s ∧ s ≤ 1) : Draws :=
  { Draws.lowest with
    random := fun i => if i % 2 = 0 then r else s
    random_nonneg := by
      intro i
      split
      · exact hr.1
      · exact hs.1
    random_le_one := by
      intro i
      split
      · exact hr.2
      · exact hs.2 }

/-- What an inquiry that covers both 320 MHz channels of the country gives. -/
theorem covered_wide (second : Bool) : ∀ k ∈ [Json.int 31, Json.int 63].map Json.key?,
    ∃ cfi ∈ countryUS.cfis (inquiredBandwidth (wideTest second).channelWidth),
      k = some (.num cfi) := by
  have hwidth : inquiredBandwidth (wideTest second).channelWidth = .bw320 := by
    unfold inquiredBandwidth
    exact if_pos rfl
  rw [hwidth]
  intro k hk
  rcases List.mem_cons.mp hk with rfl | hk
  · exact ⟨31, by decide, rfl⟩
  · rw [List.map_singleton, List.mem_singleton] at hk
    subst hk
    exact ⟨63, by decide, rfl⟩

/-- The second phase of the test, with the lowest range from 0 and its lowest
value drawn for every channel. -/
def silent : Building where
  g := wideTest true
  reqCfiBwX := [.int 31, .int 63]
  d := drawing (1 / 2) 0 (by norm_num) (by norm_num)
  p := countryUS
  chans := subChannels .bw320 63
  built := _
  country := rfl
  covered := covered_wide true
  channels := by
    show randomChanBw20 { wideTest true with randomPicks := [.int 63] } countryUS = _
    decide +kernel
  returns := rfl

theorem drawing_even {r s : ℚ} (hr : 0 ≤ r ∧ r ≤ 1) (hs : 0 ≤ s ∧ s ≤ 1) (i : Nat) :
    (drawing r s hr hs).random (2 * i) = r := if_pos (by omega)

theorem drawing_odd {r s : ℚ} (hr : 0 ≤ r ∧ r ≤ 1) (hs : 0 ≤ s ∧ s ≤ 1) (i : Nat) :
    (drawing r s hr hs).random (2 * i + 1) = s := if_neg (by omega)

theorem silent_psd (i : Nat) : silent.psd i = 0 := by
  have heven : silent.d.random (2 * i) = 1 / 2 := drawing_even (by norm_num) (by norm_num) i
  have hodd : silent.d.random (2 * i + 1) = 0 := drawing_odd (by norm_num) (by norm_num) i
  show drawPsd countryUS (.int 320) true silent.d i = 0
  unfold drawPsd
  rw [if_pos (show (Json.int 320).key? = some (.num 320) from rfl)]
  simp only [Bool.not_true, Bool.false_eq_true, if_false, heven, hodd]
  have hlow : uniform (-5) 5 (1 / 2) = 0 := by unfold uniform; norm_num
  rw [hlow, show uniform 0 (0 + 10) 0 = 0 by unfold uniform; norm_num]
  decide +kernel

theorem silent_limit : ∀ ch ∈ subChannels .bw320 63, silent.limit ch = some 0 := by
  have hpsd : silent.psd = fun _ => 0 := funext silent_psd
  unfold Building.limit
  rw [hpsd]
  decide +kernel

theorem silent_lowest : silent.LowestLimit .bw320 63 0 where
  drawn := fun ch hch => ⟨0, silent_limit ch hch⟩
  least := by
    constructor
    · exact ⟨33, by decide, silent_limit 33 (by decide)⟩
    · intro x hx
      obtain ⟨ch, hch, hx⟩ := hx
      have hzero := silent_limit ch hch
      unfold Building.limit at hzero
      rw [hzero, Option.some.injEq] at hx
      exact hx.le

/-- All 20 MHz channels of CFI 63 are in the mask, and CFI 63 is not
listed. -/
theorem silent_not_listed :
    ¬ ∀ b : Building, b.ByChannel → ∀ bw : Bandwidth, bw ≠ .bw20 → ∀ cfi ∈ b.p.cfis bw,
      (b.Lists bw cfi ↔ ∀ ch ∈ subChannels bw cfi, ch ∈ b.mask.map (·.1)) := by
  intro h
  have hwide : Bandwidth.bw320 ≠ .bw20 := by decide
  have hcfi : (63 : Int) ∈ silent.p.cfis .bw320 := by decide
  have hlists := (h silent (.inl rfl) .bw320 hwide 63 hcfi).mpr
    (silent.drawn_iff.mpr silent_lowest.drawn)
  obtain ⟨q, hq, hne⟩ := (silent.lists_iff (.inl rfl) hwide hcfi).mp hlists
  exact hne (hq.least.unique silent_lowest.least)

/-- In the second phase CFI 31 is not drawn, and is not listed. -/
theorem wide_listed_31 :
    (silent.Lists .bw320 31 ↔ ∀ ch ∈ subChannels .bw320 31, ch ∈ silent.mask.map (·.1)) ↔
      ¬ silent.LowestLimit .bw320 31 0 :=
  wide_listed_iff silent (.inl rfl) (by decide) (by decide)

/-! ## Limits -/

/-- A limit is the lowest PSD of the CFI plus the bandwidth, to one decimal,
and at most 36 dBm. -/
def Building.Capped (b : Building) (bw : Bandwidth) (cfi : Int) (maxEirp : ℚ) : Prop :=
  maxEirp ≤ 36 ∧ ∃ q, b.LowestLimit bw cfi q ∧ maxEirp = min 36 (round1 (q + tenLog10 bw))

theorem round1_tenth (m : Int) :
    round1 ((m : ℚ) / 10 + tenLog10 .bw20) = ((m + 130 : Int) : ℚ) / 10 := by
  have hfloor : ⌊((m : ℚ) / 10 + tenLog10 .bw20) * 10⌋ = m + 130 := by
    rw [Int.floor_eq_iff]
    unfold tenLog10
    push_cast
    constructor
    · linarith
    · linarith
  unfold round1 roundHalfEven
  rw [hfloor]
  have hnear : ((m : ℚ) / 10 + tenLog10 .bw20) * 10 - ((m + 130 : Int) : ℚ) < 1 / 2 := by
    unfold tenLog10
    push_cast
    linarith
  simp only [if_pos hnear]

/-- A limit that was drawn has one decimal. -/
theorem drawPsd_tenth (p : CountryParam) (channelWidth : Json) (differenceLastPicks : Bool)
    (d : Draws) (i : Nat) :
    ∃ m : Int, drawPsd p channelWidth differenceLastPicks d i = (m : ℚ) / 10 := by
  unfold drawPsd round1
  split
  · exact ⟨_, rfl⟩
  · exact ⟨_, rfl⟩

/-- The 20 MHz limit needs no cap up to 23 dBm/MHz. -/
theorem eirp20_le_iff {b : Building} {ch : Int} {q : ℚ} (h : b.limit ch = some q) :
    round1 (q + tenLog10 .bw20) ≤ 36 ↔ q ≤ 23 := by
  obtain ⟨i, hi⟩ := lastDrawn_eq_some h
  obtain ⟨m, hm⟩ := drawPsd_tenth b.p b.g.channelWidth b.g.differenceLastPicks b.d i
  have hq : q = (m : ℚ) / 10 := hi.symm.trans hm
  rw [hq, round1_tenth]
  push_cast
  constructor
  · intro h
    linarith
  · intro h
    linarith

section Limits

variable (b : Building) {bw : Bandwidth} {cfi : Int} {maxEirp : ℚ}

theorem subChannels_bw20 (cfi : Int) : subChannels .bw20 cfi = [cfi] := by
  have hsingle : ∀ x, x ∈ subChannels .bw20 cfi ↔ x = cfi := by
    intro x
    rw [mem_subChannels]
    simp only [Bandwidth.mhz]
    omega
  have hlength : (subChannels .bw20 cfi).length = 1 := length_subChannels
  obtain ⟨a, ha⟩ := List.length_eq_one_iff.mp hlength
  rw [ha, (hsingle a).mp (by rw [ha]; exact List.mem_singleton_self a)]

/-- A 20 MHz channel has its own limit. -/
theorem lowestLimit_bw20 (q : ℚ) : b.LowestLimit .bw20 cfi q ↔ b.limit cfi = some q := by
  constructor
  · intro h
    obtain ⟨ch, hch, hq⟩ := h.least.1
    rw [subChannels_bw20, List.mem_singleton] at hch
    rw [← hch]
    exact hq
  · intro h
    constructor
    · intro ch hch
      rw [subChannels_bw20, List.mem_singleton] at hch
      rw [hch]
      exact ⟨q, h⟩
    · constructor
      · exact ⟨cfi, by rw [subChannels_bw20]; exact List.mem_singleton_self cfi, h⟩
      · intro x hx
        obtain ⟨ch, hch, hx⟩ := hx
        rw [subChannels_bw20, List.mem_singleton] at hch
        rw [hch, show lastDrawn b.psd b.chans cfi = some q from h, Option.some.injEq] at hx
        exact hx.le

theorem advertises_bw20 : b.Advertises .bw20 cfi (.float maxEirp) ↔
    b.ByChannel ∧ ∃ q, b.limit cfi = some q ∧ maxEirp = round1 (q + tenLog10 .bw20) := by
  rw [b.advertises_iff]
  refine and_congr_right fun _ => ?_
  constructor
  · intro h
    obtain ⟨e, he, hkey, heirp⟩ := h
    obtain ⟨x, hx, rfl⟩ := List.mem_map.mp he
    obtain ⟨q, hq, hentry⟩ := (mem_randomMask_iff x).mp hx
    rw [Json.float.injEq] at heirp
    refine ⟨q, hkey ▸ hq, ?_⟩
    rw [heirp, hentry]
    rfl
  · intro h
    obtain ⟨q, hq, rfl⟩ := h
    refine ⟨(cfi, (maskEntry q).maxEirp), ?_, rfl, rfl⟩
    exact List.mem_map.mpr ⟨(cfi, maskEntry q), (mem_randomMask_iff _).mpr ⟨q, hq, rfl⟩, rfl⟩

/-- The limit of a wide channel is capped. -/
theorem capped_wide (hwide : bw ≠ .bw20) (h : b.Advertises bw cfi (.float maxEirp)) :
    b.Capped bw cfi maxEirp := by
  obtain ⟨_, e, he, hkey, heirp⟩ := (b.advertises_iff bw cfi _).mp h
  rw [Json.float.injEq] at heirp
  have hwideMask : e ∈ wideMask b.p b.mask bw := by
    cases bw with
    | bw20 => exact absurd rfl hwide
    | _ => exact he
  obtain ⟨ch, hch, hentry⟩ := List.mem_filterMap.mp hwideMask
  have hsame : cfi = ch := hkey.symm.trans (wideEntry_fst hentry)
  subst hsame
  unfold wideEntry at hentry
  split at hentry
  · exact absurd hentry (by simp)
  · rename_i q hq
    split at hentry
    · exact absurd hentry (by simp)
    · rw [Option.some.injEq] at hentry
      have hvalue : maxEirp = min 36 (round1 (q + tenLog10 bw)) := by
        rw [heirp, ← hentry]
        show (if 36 < round1 (q + tenLog10 bw) then (36 : ℚ) else round1 (q + tenLog10 bw)) = _
        split
        · rename_i hcap
          rw [min_eq_left hcap.le]
        · rename_i hcap
          rw [min_eq_right (not_lt.mp hcap)]
      refine ⟨?_, q, (b.getMin_iff hch q).mp hq, hvalue⟩
      rw [hvalue]
      exact min_le_left _ _

end Limits

/-- Every advertised limit is consistent and capped if and only if, where
channels are advertised at all, no 20 MHz channel has a limit above
23 dBm/MHz. -/
theorem limits_capped_iff (b : Building) :
    (∀ bw cfi maxEirp, b.Advertises bw cfi (.float maxEirp) → b.Capped bw cfi maxEirp) ↔
      (b.ByChannel → ∀ ch q, b.limit ch = some q → q ≤ 23) := by
  constructor
  · intro h hchannel ch q hq
    have hlisted := (advertises_bw20 b).mpr ⟨hchannel, q, hq, rfl⟩
    exact (eirp20_le_iff hq).mp (h .bw20 ch _ hlisted).1
  · intro h bw cfi maxEirp hlisted
    by_cases hwide : bw = .bw20
    · subst hwide
      obtain ⟨hchannel, q, hq, hvalue⟩ := (advertises_bw20 b).mp hlisted
      have hle := (eirp20_le_iff hq).mpr (h hchannel cfi q hq)
      refine ⟨hvalue ▸ hle, q, (lowestLimit_bw20 b q).mpr hq, ?_⟩
      rw [hvalue, min_eq_right hle]
    · exact capped_wide b hwide hlisted

/-- The first phase of the test, with the highest range and its highest value
drawn for every channel. -/
def loud : Building where
  g := wideTest false
  reqCfiBwX := [.int 31, .int 63]
  d := drawing 1 1 (by norm_num) (by norm_num)
  p := countryUS
  chans := subChannels .bw320 31
  built := _
  country := rfl
  covered := covered_wide false
  channels := by
    show randomChanBw20 { wideTest false with randomPicks := [.int 31] } countryUS = _
    decide +kernel
  returns := rfl

theorem loud_psd (i : Nat) : loud.psd i = 25 := by
  have heven : loud.d.random (2 * i) = 1 := drawing_even (by norm_num) (by norm_num) i
  have hodd : loud.d.random (2 * i + 1) = 1 := drawing_odd (by norm_num) (by norm_num) i
  show drawPsd countryUS (.int 320) false loud.d i = 25
  unfold drawPsd
  rw [if_pos (show (Json.int 320).key? = some (.num 320) from rfl)]
  simp only [Bool.not_false, if_true, heven, hodd]
  have hlow : uniform 5 15 1 = 15 := by unfold uniform; norm_num
  rw [hlow, show uniform 15 (15 + 10) 1 = 25 by unfold uniform; norm_num]
  decide +kernel

/-- Channel 1 is drawn 25 dBm/MHz and advertised with 38 dBm. -/
theorem loud_not_capped :
    ¬ ∀ (b : Building) bw cfi maxEirp, b.Advertises bw cfi (.float maxEirp) →
      b.Capped bw cfi maxEirp := by
  intro h
  have hlimit : loud.limit 1 = some 25 := by
    have hpsd : loud.psd = fun _ => 25 := funext loud_psd
    unfold Building.limit
    rw [hpsd]
    decide +kernel
  have hcap := (h loud .bw20 1 _ ((advertises_bw20 loud).mpr ⟨.inl rfl, 25, hlimit, rfl⟩)).1
  have hvalue : round1 (25 + tenLog10 .bw20) = 38 := by decide +kernel
  rw [hvalue] at hcap
  exact absurd hcap (by norm_num)

end AfcDut.Simulator.Theorems.RandomVector
