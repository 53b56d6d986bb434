import AfcDut.Simulator.RandomSpec
import AfcDut.Simulator.ChannelSpec

/-!
# What a random vector offers

The mask of a built vector holds every 20 MHz channel of every pick, so each
pick is offered under its own operating class, unless the lowest power drawn
for it is zero, and each of its segments as a frequency range.
-/

namespace AfcDut.Simulator

open Py Service

/-! ## The drawn channels -/

theorem key_of_index {j : Json} {n : Int} (h : j.index = .ok n) : j.key? = some (.num n) := by
  cases j with
  | bool b =>
      rw [Json.index, Except.ok.injEq] at h
      subst h
      cases b <;> rfl
  | int m =>
      rw [Json.index, Except.ok.injEq] at h
      subst h
      rfl
  | _ => simp [Json.index] at h

/-- The 20 MHz channels of a pick of the configured width. -/
theorem pickChannels_eq_ok {channelWidth pick : Json} {bw : Bandwidth} {chans : List Int}
    (hwidth : channelWidth.key? = some (.num bw.mhz))
    (h : pickChannels channelWidth pick = .ok chans) :
    ∃ cfi : Int, pick.key? = some (.num cfi) ∧ chans = subChannels bw cfi := by
  have hnum : channelWidth.num = .ok (bw.mhz : ℚ) := Json.num_eq_ok.mpr (Json.num?_of_key? hwidth)
  simp only [pickChannels, hnum, ok_bind, bind_eq_ok, pure_eq_ok, Except.ok.injEq, halfWidth_cast,
    trunc_intCast] at h
  obtain ⟨cfi, hcfi, rfl⟩ := h
  exact ⟨cfi, key_of_index hcfi, rfl⟩

theorem num_key_injective {a b : Int} (h : some (Key.num a) = some (Key.num b)) : a = b := by
  rw [Option.some.injEq, Key.num.injEq] at h
  exact_mod_cast h

/-- The drawn channels are those of the picks, which are whole numbers. -/
theorem randomChanBw20_eq_ok {g : Globals} {p : CountryParam} {bw : Bandwidth} {chans : List Int}
    (hpower : g.onlyRandomPower.truthy = false) (hwidth : g.channelWidth.key? = some (.num bw.mhz))
    (h : randomChanBw20 g p = .ok chans) :
    (∀ pick ∈ g.randomPicks, ∃ cfi : Int, pick.key? = some (.num cfi) ∧
      ∀ ch ∈ subChannels bw cfi, ch ∈ chans) ∧
    ∀ ch ∈ chans, ∃ pick ∈ g.randomPicks, ∃ cfi : Int, pick.key? = some (.num cfi) ∧
      ch ∈ subChannels bw cfi := by
  simp only [randomChanBw20, hpower, Bool.false_eq_true, if_false, bind_eq_ok, pure_eq_ok,
    Except.ok.injEq] at h
  obtain ⟨lists, hlists, rfl⟩ := h
  constructor
  · intro pick hpick
    obtain ⟨chans, hchans⟩ := mapM_isOk_iff.mp ⟨lists, hlists⟩ pick hpick
    obtain ⟨cfi, hcfi, rfl⟩ := pickChannels_eq_ok hwidth hchans
    refine ⟨cfi, hcfi, fun ch hch => List.mem_flatten.mpr ⟨_, ?_, hch⟩⟩
    exact (mem_of_mapM_eq_ok hlists).mpr ⟨pick, hpick, hchans⟩
  · intro ch hch
    obtain ⟨chans, hchans, hmem⟩ := List.mem_flatten.mp hch
    obtain ⟨pick, hpick, heq⟩ := (mem_of_mapM_eq_ok hlists).mp hchans
    obtain ⟨cfi, hcfi, rfl⟩ := pickChannels_eq_ok hwidth heq
    exact ⟨pick, hpick, cfi, hcfi, hmem⟩

theorem le_uniform {a b r : ℚ} (hab : a ≤ b) (hr : 0 ≤ r) : a ≤ uniform a b r := by
  have hnonneg : 0 ≤ (b - a) * r := mul_nonneg (sub_nonneg.mpr hab) hr
  show a ≤ a + (b - a) * r
  linarith

theorem uniform_le {a b r : ℚ} (hab : a ≤ b) (hr : r ≤ 1) : uniform a b r ≤ b := by
  have hle : (b - a) * r ≤ b - a := mul_le_of_le_one_right (sub_nonneg.mpr hab) hr
  show a + (b - a) * r ≤ b
  linarith

theorem psd_range {countryCode : Json} {p : CountryParam}
    (hp : countryParam countryCode = .ok p) : p.psdMin = 8 ∧ p.psdMax = 22 := by
  rcases countryParam_cases hp with rfl | rfl
  · exact ⟨rfl, rfl⟩
  · exact ⟨rfl, rfl⟩

section Draws

variable {countryCode channelWidth : Json} {p : CountryParam} {differenceLastPicks : Bool}

/-- Only the second phase of a 320 MHz test may draw a power that is not
positive. -/
theorem drawPsd_pos (hp : countryParam countryCode = .ok p) (d : Draws) (i : Nat)
    (h : ¬ (channelWidth.key? = some (.num 320) ∧ differenceLastPicks = true)) :
    0 < drawPsd p channelWidth differenceLastPicks d i := by
  have hround : ∀ {q : ℚ}, 1 ≤ q → 0 < round1 q := by
    intro q hq
    have hone : round1 1 ≤ round1 q := round1_mono hq
    have hval : round1 1 = 1 := by decide +kernel
    linarith
  obtain ⟨hpsdMin, hpsdMax⟩ := psd_range hp
  unfold drawPsd
  split
  · rename_i hwide
    have hfirst : differenceLastPicks = false := by
      cases differenceLastPicks with
      | false => rfl
      | true => exact absurd ⟨hwide, rfl⟩ h
    simp only [hfirst, Bool.not_false, if_true]
    have hmin : (5 : ℚ) ≤ uniform 5 15 (d.random (2 * i)) :=
      le_uniform (by norm_num) (d.random_nonneg _)
    have hmax := le_uniform (a := uniform 5 15 (d.random (2 * i)))
      (b := uniform 5 15 (d.random (2 * i)) + 10) (by linarith) (d.random_nonneg (2 * i + 1))
    exact hround (by linarith)
  · rw [hpsdMin, hpsdMax]
    have hmin : (8 : ℚ) ≤ uniform 8 22 (d.random (2 * i)) :=
      le_uniform (by norm_num) (d.random_nonneg _)
    exact hround (by linarith)

/-- Only the first phase of a 320 MHz test may draw more than 22 dBm/MHz. -/
theorem drawPsd_le (hp : countryParam countryCode = .ok p) (d : Draws) (i : Nat)
    (h : ¬ (channelWidth.key? = some (.num 320) ∧ differenceLastPicks = false)) :
    drawPsd p channelWidth differenceLastPicks d i ≤ 22 := by
  have hround : ∀ {q : ℚ}, q ≤ 22 → round1 q ≤ 22 := by
    intro q hq
    have hle : round1 q ≤ round1 22 := round1_mono hq
    have hval : round1 22 = 22 := by decide +kernel
    linarith
  obtain ⟨hpsdMin, hpsdMax⟩ := psd_range hp
  unfold drawPsd
  split
  · rename_i hwide
    have hsecond : differenceLastPicks = true := by
      cases differenceLastPicks with
      | false => exact absurd ⟨hwide, rfl⟩ h
      | true => rfl
    simp only [hsecond, Bool.not_true, Bool.false_eq_true, if_false]
    have hmin : uniform (-5) 5 (d.random (2 * i)) ≤ 5 := uniform_le (by norm_num) (d.random_le_one _)
    have hmax := uniform_le (a := uniform (-5) 5 (d.random (2 * i)))
      (b := uniform (-5) 5 (d.random (2 * i)) + 10) (by linarith) (d.random_le_one (2 * i + 1))
    exact hround (by linarith)
  · rw [hpsdMin, hpsdMax]
    exact hround (uniform_le (by norm_num) (d.random_le_one _))

end Draws

/-- The limit of an entry of the mask was drawn. -/
theorem mem_randomMask {psd : Nat → ℚ} {chans : List Int} :
    ∀ e ∈ randomMask psd chans, ∃ i, e.2 = maskEntry (psd i) := by
  have hassign : ∀ {dict : List (Int × MaskEntry)} {ch : Int} {i : Nat},
      (∀ e ∈ dict, ∃ i, e.2 = maskEntry (psd i)) →
      ∀ e ∈ Json.assign dict ch (maskEntry (psd i)), ∃ i, e.2 = maskEntry (psd i) := by
    intro dict ch i
    induction dict with
    | nil =>
        intro _ e he
        rw [Json.assign, List.mem_singleton] at he
        exact ⟨i, by rw [he]⟩
    | cons kv kvs ih =>
        intro hdict e he
        obtain ⟨hhead, htail⟩ := List.forall_mem_cons.mp hdict
        unfold Json.assign at he
        split at he
        · rcases List.mem_cons.mp he with rfl | he
          · exact ⟨i, rfl⟩
          · exact htail e he
        · rcases List.mem_cons.mp he with rfl | he
          · exact hhead
          · exact ih htail e he
  have hfold : ∀ (xs : List (Int × Nat)) (dict : List (Int × MaskEntry)),
      (∀ e ∈ dict, ∃ i, e.2 = maskEntry (psd i)) →
      ∀ e ∈ xs.foldl (fun mask ch => Json.assign mask ch.1 (maskEntry (psd ch.2))) dict,
        ∃ i, e.2 = maskEntry (psd i) := by
    intro xs
    induction xs with
    | nil => intro dict hdict; exact hdict
    | cons x xs ih => intro dict hdict; exact ih _ (hassign hdict)
  exact hfold _ [] fun e he => absurd he List.not_mem_nil

/-- Of powers that are all positive the lowest is not zero. -/
theorem getMinMaxpsdByBw_ne_zero {psd : Nat → ℚ} {chans : List Int} (hpos : ∀ i, 0 < psd i)
    (cfi : Int) (bw : Bandwidth) : getMinMaxpsdByBw (randomMask psd chans) cfi bw ≠ some 0 := by
  unfold getMinMaxpsdByBw
  dsimp only
  split
  · intro hmin
    obtain ⟨e, he, hzero⟩ := List.mem_map.mp (List.min?_mem hmin)
    obtain ⟨i, hi⟩ := mem_randomMask e (List.mem_filter.mp he).1
    have hdrawn : e.2.maxPsd = psd i := by rw [hi, maskEntry]
    exact absurd (hpos i) (by rw [← hdrawn, hzero]; exact lt_irrefl 0)
  · simp

/-! ## The offers of the vector -/

section Offers

variable {p : CountryParam} {mask : List (Int × MaskEntry)} {scriptTestVector : Int} {vectors : Json}
  {bw : Bandwidth} {cfi : Int}

/-- A wide channel of the country is among the entries of its width when its
lowest power is there and not zero. -/
theorem mem_bwEntries_wide (hwide : bw ≠ .bw20) (hcfi : cfi ∈ p.cfis bw) :
    (∃ e ∈ bwEntries p mask bw, e.1 = cfi) ↔
      ∃ q, getMinMaxpsdByBw mask cfi bw = some q ∧ q ≠ 0 := by
  have hentries : bwEntries p mask bw = wideMask p mask bw := by
    cases bw <;> first | rfl | exact absurd rfl hwide
  have hmem : (∃ e ∈ bwEntries p mask bw, e.1 = cfi) ↔
      ∃ e, wideEntry mask bw cfi = some e ∧ e.1 = cfi := by
    rw [hentries]
    simp only [wideMask, List.mem_filterMap]
    constructor
    · rintro ⟨e, ⟨ch, -, he⟩, rfl⟩
      exact ⟨e, wideEntry_fst he ▸ he, rfl⟩
    · rintro ⟨e, he, heq⟩
      exact ⟨e, ⟨cfi, hcfi, he⟩, heq⟩
  rw [hmem]
  cases hmin : getMinMaxpsdByBw mask cfi bw with
  | none => simp [wideEntry, hmin]
  | some q =>
      rw [wideEntry_isSome hmin]
      simp

/-- A random vector with channels offers the entries of each width under the
operating class of that width. -/
theorem offers_random_iff
    (h : vectors.field "responses" = .ok (randomDocument (randomResponse scriptTestVector p mask)))
    (eirp : Json) :
    Offers (VectorMember vectors) (.num bw.opClass) (.num cfi) eirp ↔
      (scriptTestVector = 2 ∨ scriptTestVector = 3) ∧
        ∃ e ∈ bwEntries p mask bw, e.1 = cfi ∧ eirp = .float e.2 := by
  have hlists : ∀ bw', Lists (chanInfoItem bw' (bwEntries p mask bw')) (.num cfi) eirp ↔
      ∃ e ∈ bwEntries p mask bw', e.1 = cfi ∧ eirp = .float e.2 := by
    intro bw'
    constructor
    · rintro ⟨pairs, ch, hpairs, hmem, hkey⟩
      rw [itemPairs_chanInfoItem, Except.ok.injEq] at hpairs
      subst hpairs
      obtain ⟨e, he, heq⟩ := List.mem_map.mp hmem
      obtain ⟨rfl, rfl⟩ := Prod.mk.inj heq
      have hq : (e.1 : ℚ) = cfi := by simpa [Json.key?] using hkey
      exact ⟨e, he, by exact_mod_cast hq, rfl⟩
    · rintro ⟨e, he, rfl, rfl⟩
      exact ⟨_, .int e.1, itemPairs_chanInfoItem bw' _, List.mem_map.mpr ⟨e, he, rfl⟩, rfl⟩
  simp only [Offers, vectorMember_channels_random h]
  constructor
  · rintro ⟨item, ⟨htv, bw', rfl⟩, hclass, hlist⟩
    rw [classKey_chanInfoItem, Except.ok.injEq, Key.num.injEq] at hclass
    have hbw : bw' = bw := opClass_injective (by exact_mod_cast hclass)
    subst hbw
    exact ⟨htv, (hlists bw').mp hlist⟩
  · rintro ⟨htv, he⟩
    exact ⟨_, ⟨htv, bw, rfl⟩, classKey_chanInfoItem bw _, (hlists bw).mpr he⟩

/-- An item of `availableFrequencyInfo` for a 20 MHz channel. -/
def SegmentItem (ch : Int) (item : Json) : Prop :=
  ∃ freqRange, item.field "frequencyRange" = .ok freqRange ∧
    freqRange.field "lowFrequency" = .ok (.int (5950 + ch * 5 - 10)) ∧
    freqRange.field "highFrequency" = .ok (.int (5950 + ch * 5 + 10))

theorem segmentItem_freqInfoItem (ch : Int) (maxPsd : ℚ) : SegmentItem ch (freqInfoItem ch maxPsd) :=
  ⟨_, rfl, rfl, rfl⟩

/-- One of the ranges contains the 20 MHz channel. -/
def SegmentWithin (ch : Int) (ranges : List (Json × Json)) : Prop :=
  ∃ r ∈ ranges, ∃ low high, r.1.num? = some low ∧ r.2.num? = some high ∧
    low ≤ 5950 + ch * 5 - 10 ∧ 5950 + ch * 5 + 10 ≤ high

theorem withinRange_iff {ch : Int} {item : Json} {ranges : List (Json × Json)}
    (h : SegmentItem ch item) : WithinRange item ranges ↔ SegmentWithin ch ranges := by
  obtain ⟨freqRange, hrange, hlow, hhigh⟩ := h
  have hlowNum : (Json.int (5950 + ch * 5 - 10)).num? = some (5950 + ch * 5 - 10 : ℚ) := by
    simp [Json.num?]
  have hhighNum : (Json.int (5950 + ch * 5 + 10)).num? = some (5950 + ch * 5 + 10 : ℚ) := by
    simp [Json.num?]
  constructor
  · rintro ⟨freqRange', l, h, x, y, hrange', hl, hh, hx, hy, hwithin⟩
    rw [hrange, Except.ok.injEq] at hrange'
    subst hrange'
    rw [hlow, Except.ok.injEq] at hl
    rw [hhigh, Except.ok.injEq] at hh
    subst hl hh
    rw [hlowNum, Option.some.injEq] at hx
    rw [hhighNum, Option.some.injEq] at hy
    subst hx hy
    exact hwithin
  · intro hwithin
    exact ⟨freqRange, _, _, _, _, hrange, hlow, hhigh, hlowNum, hhighNum, hwithin⟩

/-- A random vector with ranges has an item for each channel of the mask. -/
theorem segment_random_iff
    (h : vectors.field "responses" = .ok (randomDocument (randomResponse scriptTestVector p mask)))
    {ch : Int} (hch : ch ∈ mask.map (·.1)) :
    (∃ item, VectorMember vectors "availableFrequencyInfo" item ∧ SegmentItem ch item) ↔
      scriptTestVector = 1 ∨ scriptTestVector = 3 := by
  simp only [vectorMember_ranges_random h]
  constructor
  · rintro ⟨item, ⟨htv, -⟩, -⟩
    exact htv
  · intro htv
    obtain ⟨e, he, rfl⟩ := List.mem_map.mp hch
    exact ⟨_, ⟨htv, e, he, rfl⟩, segmentItem_freqInfoItem e.1 e.2.maxPsd⟩

end Offers

end AfcDut.Simulator
