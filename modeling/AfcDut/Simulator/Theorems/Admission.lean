import AfcDut.Simulator.Admission

/-!
# Admission against the response filters

Which CFIs an inquiry is taken to cover, and which ones its response filters
would let through. By frequency the computation asks for the centres of the
20 MHz channels and the filter for whole segments in one range; by channel the
computation reads the first item of a class and the filter the last one, and
they read a `null` and an empty list differently.
-/

namespace AfcDut.Simulator.Theorems.Admission

open Py Service

/-! ## By frequency -/

/-- The computation returns, each once, the CFIs of the country whose segments
all pass the frequency filter. -/
def FreqAgrees (countryCode : Json) (p : CountryParam) (bw : Bandwidth)
    (ranges : List InquiredRange) : Prop :=
  ∃ cfis : List Int,
    getCfiByInquiredFreqRangesBw countryCode bw (rangeItems ranges) = .ok (cfis.map Json.int) ∧
    cfis.Nodup ∧
    ∀ cfi, cfi ∈ cfis ↔ cfi ∈ p.cfis bw ∧
      ∀ ch ∈ subChannels bw cfi, SegmentPasses (rangeItems ranges) ch

/-- No CFI of the width has all its centres in the ranges, but a segment in
none of them. -/
def NoCutSegment (p : CountryParam) (bw : Bandwidth) (ranges : List InquiredRange) : Prop :=
  ∀ cfi ∈ p.cfis bw, (∀ ch ∈ subChannels bw cfi, ∃ r ∈ ranges, r.HasCentre ch) →
    ∀ ch ∈ subChannels bw cfi, ∃ r ∈ ranges, r.HasSegment ch

/-- The computation agrees with the frequency filter if and only if no bound
is so large that its channel number overflows and the ranges cut no segment of
a CFI whose centres they all have. -/
theorem freqAgrees_iff {countryCode : Json} {p : CountryParam}
    (hp : countryParam countryCode = .ok p) (bw : Bandwidth) (ranges : List InquiredRange) :
    FreqAgrees countryCode p bw ranges ↔
      (∀ r ∈ ranges, r.Convertible) ∧ NoCutSegment p bw ranges := by
  by_cases hconv : ∀ r ∈ ranges, r.Convertible
  · rw [and_iff_right hconv]
    obtain ⟨cfis, hcfis, hnodup, hmem⟩ := getCfiByInquiredFreqRangesBw_spec hp bw hconv
    unfold FreqAgrees NoCutSegment
    simp only [segmentPasses_iff]
    constructor
    · intro h cfi hcfi hcentres
      obtain ⟨cfis', hcfis', _, hmem'⟩ := h
      have hsame : cfis' = cfis := by
        rw [hcfis, Except.ok.injEq] at hcfis'
        exact List.map_injective_iff.mpr (fun a b hab => Json.int.inj hab) hcfis'.symm
      subst hsame
      exact ((hmem' cfi).mp ((hmem cfi).mpr ⟨hcfi, hcentres⟩)).2
    · intro h
      refine ⟨cfis, hcfis, hnodup, fun cfi => ?_⟩
      rw [hmem]
      refine and_congr_right fun hcfi => ⟨h cfi hcfi, fun hsegments ch hch => ?_⟩
      -- a whole segment has its centre
      obtain ⟨r, hr, hseg⟩ := hsegments ch hch
      exact ⟨r, hr, hseg.hasCentre⟩
  · -- the division raises, and with it the computation
    refine iff_of_false (fun h => hconv ?_) fun h => hconv h.1
    obtain ⟨cfis, hcfis, -⟩ := h
    exact (getCfiByInquiredFreqRangesBw_isOk hp).mp ⟨_, hcfis⟩

/-- One range. -/
def oneRange (low high : Int) (h : low < high) : InquiredRange :=
  ⟨inquireRange low high, low, high, h, rfl, rfl⟩

/-- From the centre of channel 1 to that of channel 13, the outer ones of the
80 MHz channel 7. -/
def centres : List InquiredRange := [oneRange 5955 6015 (by decide)]

/-- Channel 7 is taken to be covered, and its outer segments do not pass. -/
theorem centres_disagree :
    ¬ ∀ countryCode p, countryParam countryCode = .ok p → ∀ bw ∈ [Bandwidth.bw80, .bw160, .bw320],
      ∀ ranges, FreqAgrees countryCode p bw ranges := by
  intro h
  obtain ⟨cfis, hcfis, _, hmem⟩ := h (.str "US") countryUS rfl .bw80 (by decide) centres
  have hadmitted : getCfiByInquiredFreqRangesBw (.str "US") .bw80 (rangeItems centres) =
      .ok [.int 7] := by decide +kernel
  rw [hadmitted, Except.ok.injEq] at hcfis
  have hseven : (7 : Int) ∈ cfis := by
    have hin : Json.int 7 ∈ cfis.map Json.int := hcfis ▸ List.mem_cons_self
    obtain ⟨n, hn, heq⟩ := List.mem_map.mp hin
    exact Json.int.inj heq ▸ hn
  obtain ⟨r, hr, hlow, _⟩ := (segmentPasses_iff centres 1).mp (((hmem 7).mp hseven).2 1 (by decide))
  rw [List.mem_singleton.mp hr] at hlow
  exact absurd hlow (by decide)

/-- The edges of two CFIs of 80 MHz, and a range inside the first. -/
def edges : List InquiredRange :=
  [oneRange 5945 6025 (by decide), oneRange 5960 5990 (by decide), oneRange 6105 6185 (by decide)]

/-- Ranges on the edges of the segments agree. -/
theorem freqAgrees_edges :
    FreqAgrees (.str "US") countryUS .bw80 edges ↔
      (∀ r ∈ edges, r.Convertible) ∧ NoCutSegment countryUS .bw80 edges :=
  freqAgrees_iff rfl .bw80 edges

/-! ## By channel -/

/-- The computation returns the CFIs of the country that the channel filter
keeps of the whole list. -/
def ChannelAgrees (countryCode : Json) (p : CountryParam) (bw : Bandwidth)
    (classes : List InquiredClass) : Prop :=
  ∃ cfis, getCfiByInquiredChannelsBw countryCode bw (classItems classes) = .ok cfis ∧
    ∀ eirp : Int → ℚ, ∀ k, k ∈ cfis.map Json.key? ↔
      ∃ cfi ∈ p.cfis bw, k = some (.num cfi) ∧ FilterKeeps (classItems classes) p bw eirp cfi

/-- The first item of the class has no `null` list, and asks for the CFIs of
the country that the last one lets through. -/
def FirstAsLast (p : CountryParam) (bw : Bandwidth) (classes : List InquiredClass) : Prop :=
  ∀ first last, firstOf classes bw = some first → lastOf classes bw = some last →
    first.list ≠ .null ∧ ∀ cfi ∈ p.cfis bw, first.list.Asks cfi ↔ last.list.Keeps cfi

theorem firstOf_none_iff (classes : List InquiredClass) (bw : Bandwidth) :
    firstOf classes bw = none ↔ lastOf classes bw = none := by
  unfold firstOf lastOf
  rw [List.find?_eq_none, List.find?_eq_none]
  simp only [List.mem_reverse]

/-- Two readings of the country's CFIs have the same keys when they ask for the
same CFIs. -/
theorem same_keys_iff {cfis : List Int} {P Q : Int → Prop} :
    (∀ k : Option Key, (∃ cfi ∈ cfis, k = some (.num cfi) ∧ P cfi) ↔
        ∃ cfi ∈ cfis, k = some (.num cfi) ∧ cfi ∈ cfis ∧ Q cfi) ↔
      ∀ cfi ∈ cfis, P cfi ↔ Q cfi := by
  constructor
  · intro h cfi hcfi
    have hkey := h (some (.num cfi))
    constructor
    · intro hp
      obtain ⟨n, _, heq, _, hq⟩ := hkey.mp ⟨cfi, hcfi, rfl, hp⟩
      exact num_key_injective heq ▸ hq
    · intro hq
      obtain ⟨n, _, heq, hp⟩ := hkey.mpr ⟨cfi, hcfi, rfl, hcfi, hq⟩
      exact num_key_injective heq ▸ hp
  · intro h k
    constructor
    · intro hk
      obtain ⟨cfi, hcfi, heq, hp⟩ := hk
      exact ⟨cfi, hcfi, heq, hcfi, (h cfi hcfi).mp hp⟩
    · intro hk
      obtain ⟨cfi, hcfi, heq, _, hq⟩ := hk
      exact ⟨cfi, hcfi, heq, (h cfi hcfi).mpr hq⟩

theorem firstAsLast_iff {p : CountryParam} {bw : Bandwidth} {classes : List InquiredClass}
    {first last : InquiredClass} (hfirst : firstOf classes bw = some first)
    (hlast : lastOf classes bw = some last) :
    FirstAsLast p bw classes ↔
      first.list ≠ .null ∧ ∀ cfi ∈ p.cfis bw, first.list.Asks cfi ↔ last.list.Keeps cfi := by
  unfold FirstAsLast
  rw [hfirst, hlast]
  constructor
  · intro h
    exact h first last rfl rfl
  · intro h f l hf hl
    rw [Option.some.injEq] at hf hl
    exact hf ▸ hl ▸ h

/-- The computation agrees with the channel filter if and only if the first
item of the class has a readable list that asks for what the last one lets
through. -/
theorem channelAgrees_iff {countryCode : Json} {p : CountryParam}
    (hp : countryParam countryCode = .ok p) (bw : Bandwidth) (classes : List InquiredClass) :
    ChannelAgrees countryCode p bw classes ↔ FirstAsLast p bw classes := by
  unfold ChannelAgrees
  simp only [filterKeeps_iff]
  rw [getCfiByInquiredChannelsBw_first]
  cases hfirst : firstOf classes bw with
  | none =>
      have hlast := (firstOf_none_iff classes bw).mp hfirst
      unfold FirstAsLast
      rw [hfirst, hlast]
      simp
  | some first =>
      obtain ⟨last, hlast⟩ : ∃ last, lastOf classes bw = some last := by
        rw [← Option.ne_none_iff_exists', ne_eq, ← firstOf_none_iff, hfirst]
        simp
      rw [firstAsLast_iff hfirst hlast]
      simp only [hlast, Option.some.injEq, exists_eq_left']
      by_cases hnull : first.list = .null
      · -- `set(None)` raises
        rw [cfisOfItem_null hp hnull]
        simp [hnull]
      · obtain ⟨cfis, hcfis, hmem⟩ := @cfisOfItem_spec countryCode p bw hp first hnull
        simp only [hcfis, Except.ok.injEq, exists_eq_left', hmem, same_keys_iff, forall_const]
        exact (and_iff_right hnull).symm

/-- Class 133 with a `null` list. -/
def nullClass : InquiredClass where
  item := .obj [("globalOperatingClass", .int 133), ("channelCfi", .null)]
  operClass := .int 133
  key := .num 133
  list := .null
  classField := rfl
  hashable := rfl
  cfiField := rfl

/-- The computation raises on a `null` list. -/
theorem null_disagrees :
    ¬ ∀ countryCode p, countryParam countryCode = .ok p → ∀ bw ∈ [Bandwidth.bw80, .bw160, .bw320],
      ∀ classes, ChannelAgrees countryCode p bw classes := by
  intro h
  obtain ⟨cfis, hcfis, _⟩ := h (.str "US") countryUS rfl .bw80 (by decide) [nullClass]
  have hraises : getCfiByInquiredChannelsBw (.str "US") .bw80 (classItems [nullClass]) =
      .error .typeError := by
    rw [getCfiByInquiredChannelsBw_first]
    exact cfisOfItem_null (p := countryUS) rfl rfl
  rw [hraises] at hcfis
  exact absurd hcfis (by simp)

theorem channelAgrees_null :
    ChannelAgrees (.str "US") countryUS .bw80 [nullClass] ↔
      FirstAsLast countryUS .bw80 [nullClass] :=
  channelAgrees_iff rfl .bw80 _

end AfcDut.Simulator.Theorems.Admission
