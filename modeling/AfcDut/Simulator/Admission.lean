import AfcDut.Simulator.ChannelSpec
import AfcDut.Simulator.RandomOffers

/-!
# What an inquiry admits

The two computations of the CFIs an inquiry covers, on inquiries that are well
formed: an inquired range covers a 20 MHz channel when the channel's centre is
in it, and of the inquired classes the first one of the width counts.
-/

namespace AfcDut.Simulator

open Py Service

/-! ## By frequency -/

/-- An item of `inquiredFrequencyRange`. -/
structure InquiredRange where
  item : Json
  low : Int
  high : Int
  ordered : low < high
  lowField : item.field "lowFrequency" = .ok (.int low)
  highField : item.field "highFrequency" = .ok (.int high)

/-- The centre of a 20 MHz channel, in MHz. -/
def centre (ch : Int) : Int := 5950 + 5 * ch

namespace InquiredRange

/-- The centre of the channel, or a frequency less than 5 MHz above it, is not
below the range, and the centre is not above it. -/
def HasCentre (r : InquiredRange) (ch : Int) : Prop := r.low < centre ch + 5 ∧ centre ch ≤ r.high

/-- The range contains the whole segment of the channel. -/
def HasSegment (r : InquiredRange) (ch : Int) : Prop :=
  r.low ≤ centre ch - 10 ∧ centre ch + 10 ≤ r.high

/-- Both bounds have a channel number. -/
def Convertible (r : InquiredRange) : Prop :=
  FitsDouble (((r.low : ℚ) - 5950) / 5) ∧ FitsDouble (((r.high : ℚ) - 5950) / 5)

theorem HasSegment.hasCentre {r : InquiredRange} {ch : Int} (h : r.HasSegment ch) :
    r.HasCentre ch := by
  obtain ⟨hlow, hhigh⟩ := h
  constructor <;> omega

end InquiredRange

theorem trunc_freq_le_iff {ch freq : Int} (hch : 0 ≤ ch) :
    trunc (((freq : ℚ) - 5950) / 5) ≤ ch ↔ freq < centre ch + 5 := by
  unfold centre
  by_cases hfreq : 5950 ≤ freq
  · have hq : (0 : ℚ) ≤ ((freq : ℚ) - 5950) / 5 := by
      have hcast : (5950 : ℚ) ≤ freq := by exact_mod_cast hfreq
      linarith
    rw [trunc_of_nonneg hq, ← Int.lt_add_one_iff, Int.floor_lt, div_lt_iff₀ (by norm_num)]
    constructor
    · intro h
      have hcast : (freq : ℚ) < ((5950 + 5 * ch + 5 : Int) : ℚ) := by push_cast at h ⊢; linarith
      exact_mod_cast hcast
    · intro h
      have hcast : (freq : ℚ) < ((5950 + 5 * ch + 5 : Int) : ℚ) := by exact_mod_cast h
      push_cast at hcast ⊢
      linarith
  · -- below 5950 MHz the number is rounded up, to 0 at most
    have hq : ((freq : ℚ) - 5950) / 5 ≤ 0 := by
      have hcast : (freq : ℚ) < 5950 := by exact_mod_cast not_le.mp hfreq
      linarith
    have hle := trunc_nonpos hq
    constructor <;> intro _ <;> omega

theorem le_trunc_freq_iff {ch freq : Int} (hch : 0 < ch) :
    ch ≤ trunc (((freq : ℚ) - 5950) / 5) ↔ centre ch ≤ freq := by
  unfold centre
  by_cases hfreq : 5950 ≤ freq
  · have hq : (0 : ℚ) ≤ ((freq : ℚ) - 5950) / 5 := by
      have hcast : (5950 : ℚ) ≤ freq := by exact_mod_cast hfreq
      linarith
    rw [trunc_of_nonneg hq, Int.le_floor, le_div_iff₀ (by norm_num)]
    constructor
    · intro h
      have hcast : ((5950 + 5 * ch : Int) : ℚ) ≤ freq := by push_cast; linarith
      exact_mod_cast hcast
    · intro h
      have hcast : ((5950 + 5 * ch : Int) : ℚ) ≤ freq := by exact_mod_cast h
      push_cast at hcast
      linarith
  · have hq : ((freq : ℚ) - 5950) / 5 ≤ 0 := by
      have hcast : (freq : ℚ) < 5950 := by exact_mod_cast not_le.mp hfreq
      linarith
    have hle := trunc_nonpos hq
    constructor <;> intro _ <;> omega

theorem subChannels_grid {countryCode : Json} {p : CountryParam} {bw : Bandwidth} {cfi : Int}
    (hp : countryParam countryCode = .ok p) (hcfi : cfi ∈ p.cfis bw) :
    ∀ ch ∈ subChannels bw cfi, ch % 4 = 1 := by
  intro ch hch
  have hgrid := cfis_grid hp bw cfi hcfi
  rw [mem_subChannels] at hch
  omega

theorem subChannels_pos {countryCode : Json} {p : CountryParam} {bw : Bandwidth} {cfi : Int}
    (hp : countryParam countryCode = .ok p) (hcfi : cfi ∈ p.cfis bw) :
    ∀ ch ∈ subChannels bw cfi, 0 < ch := by
  intro ch hch
  have hbottom : ∀ cfi ∈ p.cfis bw, (bw.mhz / 10 - 2 : Int) < cfi := by
    rcases countryParam_cases hp with rfl | rfl <;> cases bw <;> decide
  have hcfi := hbottom cfi hcfi
  rw [mem_subChannels] at hch
  omega

/-- The channels of a range can be computed when its bounds have channel
numbers. -/
theorem rangeChannels_isOk (r : InquiredRange) :
    (∃ chans, rangeChannels r.item = .ok chans) ↔ r.Convertible := by
  rw [rangeChannels_isOk_iff r.lowField r.highField]
  have hbound : ∀ freq : Int, Simulator.Convertible (.int freq) ↔
      FitsDouble (((freq : ℚ) - 5950) / 5) := by
    intro freq
    simp [Simulator.Convertible, Json.num?]
  rw [hbound, hbound, InquiredRange.Convertible]

/-- The 20 MHz channels of a range are those whose centres it has. -/
theorem rangeChannels_spec {r : InquiredRange} (hconv : r.Convertible) :
    ∃ chans, rangeChannels r.item = .ok chans ∧
      ∀ ch, 0 < ch → ch % 4 = 1 → (ch ∈ chans ↔ r.HasCentre ch) := by
  have hlow : convertToCh (.int r.low) = .ok (trunc (((r.low : ℚ) - 5950) / 5)) :=
    convertToCh_eq_ok.mpr ⟨_, rfl, hconv.1, rfl⟩
  have hhigh : convertToCh (.int r.high) = .ok (trunc (((r.high : ℚ) - 5950) / 5)) :=
    convertToCh_eq_ok.mpr ⟨_, rfl, hconv.2, rfl⟩
  refine ⟨(range (trunc (((r.low : ℚ) - 5950) / 5)) (trunc (((r.high : ℚ) - 5950) / 5) + 1) 1).filter
    fun ch => ch % 4 = 1, ?_, ?_⟩
  · unfold rangeChannels
    rw [r.lowField, r.highField]
    simp only [ok_bind, hlow, hhigh]
    rfl
  · intro ch hpos hgrid
    rw [List.mem_filter, mem_range (by decide)]
    simp only [hgrid, decide_true, and_true]
    rw [trunc_freq_le_iff hpos.le, Int.lt_add_one_iff, le_trunc_freq_iff hpos]
    unfold InquiredRange.HasCentre
    constructor
    · intro h
      exact ⟨h.1, h.2.1⟩
    · intro h
      exact ⟨h.1, h.2, Int.emod_one _⟩

/-- The items of the ranges, as the two computations get them. -/
abbrev rangeItems (ranges : List InquiredRange) : List Json := ranges.map InquiredRange.item

/-- The computation on such items returns when every bound has a channel
number. -/
theorem getCfiByInquiredFreqRangesBw_isOk {countryCode : Json} {p : CountryParam}
    (hp : countryParam countryCode = .ok p) {bw : Bandwidth} {ranges : List InquiredRange} :
    (∃ cfis, getCfiByInquiredFreqRangesBw countryCode bw (rangeItems ranges) = .ok cfis) ↔
      ∀ r ∈ ranges, r.Convertible := by
  rw [getCfiByInquiredFreqRangesBw_isOk_iff, and_iff_left ⟨p, hp⟩]
  simp only [List.forall_mem_map, rangeChannels_isOk]

/-- The CFIs the computation returns: those of the country all of whose 20 MHz
channels have their centres in the ranges. -/
theorem getCfiByInquiredFreqRangesBw_spec {countryCode : Json} {p : CountryParam}
    (hp : countryParam countryCode = .ok p) (bw : Bandwidth) {ranges : List InquiredRange}
    (hconv : ∀ r ∈ ranges, r.Convertible) :
    ∃ cfis : List Int,
      getCfiByInquiredFreqRangesBw countryCode bw (rangeItems ranges) = .ok (cfis.map Json.int) ∧
      cfis.Nodup ∧
      ∀ cfi, cfi ∈ cfis ↔ cfi ∈ p.cfis bw ∧
        ∀ ch ∈ subChannels bw cfi, ∃ r ∈ ranges, r.HasCentre ch := by
  obtain ⟨lists, hlists⟩ : ∃ lists, (rangeItems ranges).mapM rangeChannels = .ok lists := by
    apply mapM_isOk_iff.mpr
    intro item hitem
    obtain ⟨r, hr, rfl⟩ := List.mem_map.mp hitem
    exact (rangeChannels_isOk r).mpr (hconv r hr)
  have hcentre : ∀ ch, 0 < ch → ch % 4 = 1 →
      (ch ∈ lists.flatten ↔ ∃ r ∈ ranges, r.HasCentre ch) := by
    intro ch hpos hgrid
    rw [List.mem_flatten]
    constructor
    · intro h
      obtain ⟨chans, hchans, hmem⟩ := h
      obtain ⟨item, hitem, heq⟩ := (mem_of_mapM_eq_ok hlists).mp hchans
      obtain ⟨r, hr, rfl⟩ := List.mem_map.mp hitem
      obtain ⟨chans', hchans', hspec⟩ := rangeChannels_spec (hconv r hr)
      rw [hchans', Except.ok.injEq] at heq
      subst heq
      exact ⟨r, hr, (hspec ch hpos hgrid).mp hmem⟩
    · intro h
      obtain ⟨r, hr, hhas⟩ := h
      obtain ⟨chans, hchans, hspec⟩ := rangeChannels_spec (hconv r hr)
      refine ⟨chans, (mem_of_mapM_eq_ok hlists).mpr ⟨r.item, List.mem_map_of_mem hr, hchans⟩, ?_⟩
      exact (hspec ch hpos hgrid).mpr hhas
  refine ⟨(p.cfis bw).filter fun cfi => (subChannels bw cfi).all (· ∈ lists.flatten), ?_,
    (cfis_nodup hp bw).filter _, ?_⟩
  · simp only [getCfiByInquiredFreqRangesBw, hlists, hp, ok_bind]
    rfl
  · intro cfi
    rw [List.mem_filter, List.all_eq_true]
    refine and_congr_right fun hcfi => forall_congr' fun ch => imp_congr_right fun hch => ?_
    rw [decide_eq_true_eq]
    exact hcentre ch (subChannels_pos hp hcfi ch hch) (subChannels_grid hp hcfi ch hch)

/-- The frequency filter of a response passes the segment of a 20 MHz channel. -/
def SegmentPasses (items : List Json) (ch : Int) : Prop :=
  ∃ ranges, freqRangeList items = .ok ranges ∧
    isInquiredFreqRange (.int (centre ch - 10)) (.int (centre ch + 10)) ranges = .ok true

theorem segmentPasses_iff (ranges : List InquiredRange) (ch : Int) :
    SegmentPasses (rangeItems ranges) ch ↔ ∃ r ∈ ranges, r.HasSegment ch := by
  have hlist : freqRangeList (rangeItems ranges) =
      .ok (ranges.map fun r => (.int r.low, .int r.high)) := by
    induction ranges with
    | nil => rfl
    | cons r ranges ih =>
        unfold freqRangeList at ih ⊢
        rw [rangeItems, List.map_cons, List.mapM_cons, r.lowField, r.highField]
        simp only [ok_bind]
        rw [ih]
        rfl
  unfold SegmentPasses
  rw [hlist]
  simp only [Except.ok.injEq, exists_eq_left']
  clear hlist
  induction ranges with
  | nil => simp [isInquiredFreqRange]
  | cons r ranges ih =>
      have hle : ∀ a b : Int, le (.int a) (.int b) = .ok (decide (a ≤ b)) := by
        intro a b
        refine le_eq_ok.mpr ⟨_, _, rfl, rfl, ?_⟩
        exact decide_eq_decide.mpr Int.cast_le
      have hseg : r.HasSegment ch ↔ r.low ≤ centre ch - 10 ∧ centre ch + 10 ≤ r.high := Iff.rfl
      rw [List.map_cons, isInquiredFreqRange, List.exists_mem_cons_iff, hseg]
      simp only [hle, ok_bind, ← ih]
      by_cases hlow : r.low ≤ centre ch - 10
      · by_cases hhigh : centre ch + 10 ≤ r.high
        · simp [hlow, hhigh]
        · simp [hlow, hhigh]
      · simp [hlow]

/-! ## By channel -/

/-- What an item of `inquiredChannels` has under `channelCfi`. -/
inductive CfiList where
  | absent
  | null
  | cfis (ns : List Int)

namespace CfiList

/-- The item has the list. -/
def In (item : Json) : CfiList → Prop
  | absent => ∀ v, item.field "channelCfi" ≠ .ok v
  | null => item.field "channelCfi" = .ok .null
  | cfis ns => item.field "channelCfi" = .ok (.arr (ns.map Json.int))

/-- A missing list asks for every CFI. -/
def Asks : CfiList → Int → Prop
  | absent, _ => True
  | null, _ => False
  | cfis ns, cfi => cfi ∈ ns

/-- A missing, `null` or empty list lets every CFI through. -/
def Keeps : CfiList → Int → Prop
  | absent, _ => True
  | null, _ => True
  | cfis ns, cfi => ns = [] ∨ cfi ∈ ns

/-- The value in `oper_class_dict`. -/
def value : CfiList → Json
  | absent => .null
  | null => .null
  | cfis ns => .arr (ns.map Json.int)

theorem num_mem_keys (ns : List Int) (cfi : Int) :
    some (Key.num cfi) ∈ (ns.map Json.int).map Json.key? ↔ cfi ∈ ns := by
  constructor
  · intro h
    obtain ⟨x, hx, hkey⟩ := List.mem_map.mp h
    obtain ⟨n, hn, rfl⟩ := List.mem_map.mp hx
    have hsame : n = cfi := num_key_injective hkey
    exact hsame ▸ hn
  · intro h
    exact List.mem_map.mpr ⟨.int cfi, List.mem_map_of_mem h, rfl⟩

theorem admits_value (list : CfiList) (cfi : Int) :
    Admits list.value (.num cfi) ↔ list.Keeps cfi := by
  cases list with
  | absent => exact iff_of_true (.inl rfl) trivial
  | null => exact iff_of_true (.inl rfl) trivial
  | cfis ns =>
      unfold Admits value Keeps
      have htruthy : (Json.arr (ns.map Json.int)).truthy = false ↔ ns = [] := by
        cases ns with
        | nil => exact iff_of_true rfl rfl
        | cons n ns => exact iff_of_false (by simp [Json.truthy]) (by simp)
      simp only [htruthy, Json.iter, Except.ok.injEq, exists_eq_left', num_mem_keys]

theorem hashable_value (list : CfiList) (h : list.value.truthy = true) :
    list.value.HashableElems := by
  cases list with
  | absent => exact absurd h Bool.false_ne_true
  | null => exact absurd h Bool.false_ne_true
  | cfis ns => exact ⟨_, rfl, hashable_ints ns⟩

end CfiList

/-- An item of `inquiredChannels`. -/
structure InquiredClass where
  item : Json
  operClass : Json
  key : Key
  list : CfiList
  classField : item.field "globalOperatingClass" = .ok operClass
  hashable : operClass.key? = some key
  cfiField : list.In item

namespace InquiredClass

/-- The item is of the operating class of the width. -/
def isOf (bw : Bandwidth) (c : InquiredClass) : Bool := c.key == .num bw.opClass

theorem hasClass_item (bw : Bandwidth) (c : InquiredClass) : hasClass bw c.item = c.isOf bw := by
  unfold hasClass isOf
  rw [c.classField]
  show decide (c.operClass.key? = some (.num bw.opClass)) = _
  rw [c.hashable]
  simp [beq_eq_decide]

theorem operClassItem_item (c : InquiredClass) : operClassItem c.item = .ok (c.key, c.list.value) := by
  obtain ⟨kvs, hkvs, -⟩ := Json.field_eq_ok c.classField
  have hhash : c.operClass.hash = .ok c.key := Json.hash_eq_ok.mpr c.hashable
  have hcfi := c.cfiField
  unfold operClassItem
  rw [c.classField]
  rw [hkvs] at hcfi ⊢
  cases hlookup : kvs.lookup "channelCfi" with
  | none =>
      have hhas : (Json.obj kvs).has "channelCfi" = .ok false := by
        rw [Json.has_obj_iff, hlookup]
        rfl
      simp only [ok_bind, hhas, hhash, Bool.false_eq_true, if_false, pure_eq_ok]
      cases hlist : c.list with
      | absent => rfl
      | null => rfl
      | cfis ns =>
          rw [hlist] at hcfi
          have hsome := Json.field_obj_eq_ok.mp hcfi
          rw [hlookup] at hsome
          exact absurd hsome (by simp)
  | some v =>
      have hhas : (Json.obj kvs).has "channelCfi" = .ok true := by
        rw [Json.has_obj_iff, hlookup]
        rfl
      have hfield : (Json.obj kvs).field "channelCfi" = .ok v := Json.field_obj_eq_ok.mpr hlookup
      simp only [ok_bind, hhas, hhash, if_true, hfield, pure_eq_ok]
      cases hlist : c.list with
      | absent =>
          rw [hlist] at hcfi
          exact absurd hfield (hcfi v)
      | null =>
          rw [hlist, CfiList.In, hfield, Except.ok.injEq] at hcfi
          rw [hcfi]
          rfl
      | cfis ns =>
          rw [hlist, CfiList.In, hfield, Except.ok.injEq] at hcfi
          rw [hcfi]
          rfl

end InquiredClass

section Classes

variable {countryCode : Json} {p : CountryParam} {bw : Bandwidth} (classes : List InquiredClass)

/-- The items of the classes, as the two readings get them. -/
abbrev classItems (classes : List InquiredClass) : List Json := classes.map InquiredClass.item

/-- The item whose list the computation reads. -/
def firstOf (bw : Bandwidth) : Option InquiredClass := classes.find? (InquiredClass.isOf bw)

/-- The item whose list the filter reads. -/
def lastOf (bw : Bandwidth) : Option InquiredClass := classes.reverse.find? (InquiredClass.isOf bw)

theorem getCfiByInquiredChannelsBw_first :
    getCfiByInquiredChannelsBw countryCode bw (classItems classes) =
      match firstOf classes bw with
      | none => .ok []
      | some c => cfisOfItem countryCode bw c.item := by
  have hclass : ∀ item ∈ classItems classes, ∃ c, item.field "globalOperatingClass" = .ok c := by
    intro item hitem
    obtain ⟨c, _, rfl⟩ := List.mem_map.mp hitem
    exact ⟨_, c.classField⟩
  have htest : hasClass bw ∘ InquiredClass.item = InquiredClass.isOf bw :=
    funext fun c => c.hasClass_item bw
  rw [getCfiByInquiredChannelsBw_eq hclass, List.find?_map, htest, firstOf]
  cases classes.find? (InquiredClass.isOf bw) with
  | none => rfl
  | some c => rfl

/-- A `null` list raises. -/
theorem cfisOfItem_null (hp : countryParam countryCode = .ok p) {c : InquiredClass}
    (hnull : c.list = .null) : cfisOfItem countryCode bw c.item = .error .typeError := by
  rw [cfisOfItem_raises_iff c.classField]
  right
  refine ⟨⟨p, hp⟩, rfl, .null, ?_, ?_⟩
  · have hcfi := c.cfiField
    rw [hnull] at hcfi
    exact hcfi
  · intro h
    obtain ⟨elems, helems, _⟩ := h
    simp [Json.iter] at helems

/-- Any other one can be made a set. -/
theorem cfisOfItem_isOk (hp : countryParam countryCode = .ok p) {c : InquiredClass}
    (hlist : c.list ≠ .null) : ∃ cfis, cfisOfItem countryCode bw c.item = .ok cfis := by
  have hcfi := c.cfiField
  apply not_raises_iff.mp
  intro h
  obtain ⟨e, he⟩ := h
  rcases (cfisOfItem_raises_iff c.classField).mp he with hno | ⟨_, _, v, hv, hbad⟩
  · rw [hp] at hno
    exact absurd hno (by simp)
  · cases hc : c.list with
    | absent =>
        rw [hc] at hcfi
        exact hcfi v hv
    | null => exact hlist hc
    | cfis ns =>
        rw [hc, CfiList.In, hv, Except.ok.injEq] at hcfi
        exact hbad ⟨_, by rw [hcfi]; rfl, hashable_ints ns⟩

/-- What the list has, where it is there. -/
theorem asks_iff {c : InquiredClass} (hlist : c.list ≠ .null) (cfi : Int) :
    (∀ v elems, c.item.field "channelCfi" = .ok v → v.iter = .ok elems →
      some (Key.num cfi) ∈ elems.map Json.key?) ↔ c.list.Asks cfi := by
  have hcfi := c.cfiField
  cases hc : c.list with
  | absent =>
      rw [hc] at hcfi
      exact iff_of_true (fun v _ hv => absurd hv (hcfi v)) trivial
  | null => exact absurd hc hlist
  | cfis ns =>
      rw [hc] at hcfi
      have hfield : c.item.field "channelCfi" = .ok (.arr (ns.map Json.int)) := hcfi
      constructor
      · intro h
        exact (CfiList.num_mem_keys ns cfi).mp (h _ _ hfield rfl)
      · intro h v elems hv helems
        rw [hfield, Except.ok.injEq] at hv
        subst hv
        rw [Json.iter, Except.ok.injEq] at helems
        subst helems
        exact (CfiList.num_mem_keys ns cfi).mpr h

/-- The set holds the country's CFIs that the item asks for. -/
theorem cfisOfItem_spec (hp : countryParam countryCode = .ok p) {c : InquiredClass}
    (hlist : c.list ≠ .null) :
    ∃ cfis, cfisOfItem countryCode bw c.item = .ok cfis ∧
      ∀ k, k ∈ cfis.map Json.key? ↔
        ∃ cfi ∈ p.cfis bw, k = some (.num cfi) ∧ c.list.Asks cfi := by
  obtain ⟨cfis, hcfis⟩ := @cfisOfItem_isOk countryCode p bw hp c hlist
  refine ⟨cfis, hcfis, fun k => ?_⟩
  rw [mem_cfisOfItem c.classField hp hcfis]
  have hcountry : k ∈ ((p.cfis bw).map Json.int).map Json.key? ↔
      ∃ cfi ∈ p.cfis bw, k = some (.num cfi) := by
    rw [List.map_map, List.mem_map]
    exact exists_congr fun cfi => and_congr_right fun _ => eq_comm
  rw [hcountry]
  constructor
  · intro h
    obtain ⟨⟨cfi, hmem, rfl⟩, hall⟩ := h
    exact ⟨cfi, hmem, rfl, (asks_iff hlist cfi).mp hall⟩
  · intro h
    obtain ⟨cfi, hmem, rfl, hasked⟩ := h
    exact ⟨⟨cfi, hmem, rfl⟩, (asks_iff hlist cfi).mpr hasked⟩

theorem operClassDict_spec : ∃ dict, operClassDict (classItems classes) = .ok dict ∧
    dict.lookup (.num bw.opClass) = (lastOf classes bw).map (·.list.value) := by
  have hentries : (classItems classes).mapM operClassItem =
      .ok (classes.map fun c => (c.key, c.list.value)) := by
    induction classes with
    | nil => rfl
    | cons c classes ih =>
        rw [classItems, List.map_cons, List.mapM_cons, c.operClassItem_item, ih]
        rfl
  refine ⟨_, by simp only [operClassDict, hentries, ok_bind]; rfl, ?_⟩
  rw [Json.lookup_foldl_assign, List.lookup_nil, Option.or_none, ← List.map_reverse, lastOf]
  generalize classes.reverse = cs
  induction cs with
  | nil => rfl
  | cons c cs ih =>
      rw [List.map_cons, Json.lookup_cons_ite, List.find?_cons]
      unfold InquiredClass.isOf at ih ⊢
      by_cases hkey : c.key = .num bw.opClass
      · rw [if_pos hkey.symm, hkey, beq_self_eq_true]
        rfl
      · rw [if_neg (Ne.symm hkey), beq_eq_false_iff_ne.mpr hkey]
        exact ih

/-- The whole list of the country, with a limit for each CFI. -/
def wholeItem (p : CountryParam) (bw : Bandwidth) (eirp : Int → ℚ) : Json :=
  chanInfoItem bw ((p.cfis bw).map fun cfi => (cfi, eirp cfi))

/-- Of the whole list the response filter keeps the CFI. -/
def FilterKeeps (items : List Json) (p : CountryParam) (bw : Bandwidth) (eirp : Int → ℚ)
    (cfi : Int) : Prop :=
  ∃ dict item', operClassDict items = .ok dict ∧
    filterChannelItem dict (wholeItem p bw eirp) = .ok (some item') ∧
    ∃ maxEirp, Lists item' (.num cfi) maxEirp

theorem lists_wholeItem (eirp : Int → ℚ) (cfi : Int) (maxEirp : Json) :
    Lists (wholeItem p bw eirp) (.num cfi) maxEirp ↔
      cfi ∈ p.cfis bw ∧ maxEirp = .float (eirp cfi) := by
  unfold Service.Lists wholeItem
  simp only [itemPairs_chanInfoItem, Except.ok.injEq, List.map_map]
  constructor
  · intro h
    obtain ⟨pairs, ch, rfl, hmem, hkey⟩ := h
    obtain ⟨n, hn, heq⟩ := List.mem_map.mp hmem
    obtain ⟨rfl, rfl⟩ := Prod.mk.inj heq
    have hsame : n = cfi := num_key_injective hkey
    subst hsame
    exact ⟨hn, rfl⟩
  · intro h
    obtain ⟨hmem, rfl⟩ := h
    exact ⟨_, .int cfi, rfl, List.mem_map.mpr ⟨cfi, hmem, rfl⟩, rfl⟩

/-- The filter keeps what the last item of the class lets through. -/
theorem filterKeeps_iff (eirp : Int → ℚ) (cfi : Int) :
    FilterKeeps (classItems classes) p bw eirp cfi ↔
      cfi ∈ p.cfis bw ∧ ∃ c, lastOf classes bw = some c ∧ c.list.Keeps cfi := by
  obtain ⟨dict, hdict, hlookup⟩ := @operClassDict_spec bw classes
  have hclass := classKey_chanInfoItem bw ((p.cfis bw).map fun cfi => (cfi, eirp cfi))
  obtain ⟨o, ho⟩ : ∃ o, filterChannelItem dict (wholeItem p bw eirp) = .ok o := by
    refine filterChannelItem_isOk (channelItemOk_chanInfoItem bw _) hclass ?_
    intro value hvalue
    rw [hlookup] at hvalue
    obtain ⟨c, _, rfl⟩ := Option.map_eq_some_iff.mp hvalue
    exact c.list.hashable_value
  obtain ⟨k, hk, hcase⟩ := filterChannelItem_cases ho
  rw [show classKey (wholeItem p bw eirp) = .ok (.num bw.opClass) from hclass,
    Except.ok.injEq] at hk
  subst hk
  have hkeeps : FilterKeeps (classItems classes) p bw eirp cfi ↔
      ∃ maxEirp item', o = some item' ∧ Lists item' (.num cfi) maxEirp := by
    unfold FilterKeeps
    simp only [hdict, Except.ok.injEq, exists_and_left, exists_eq_left', ho]
    constructor
    · intro h
      obtain ⟨item', hitem, maxEirp, hlists⟩ := h
      exact ⟨maxEirp, item', hitem, hlists⟩
    · intro h
      obtain ⟨maxEirp, item', hitem, hlists⟩ := h
      exact ⟨item', hitem, maxEirp, hlists⟩
  rw [hkeeps]
  simp only [channelItem_lists hcase, lists_wholeItem, hlookup, Option.map_eq_some_iff]
  constructor
  · intro h
    obtain ⟨_, ⟨hmem, _⟩, value, ⟨c, hc, rfl⟩, hadmits⟩ := h
    exact ⟨hmem, c, hc, (c.list.admits_value cfi).mp hadmits⟩
  · intro h
    obtain ⟨hmem, c, hc, hk⟩ := h
    exact ⟨_, ⟨hmem, rfl⟩, _, ⟨c, hc, rfl⟩, (c.list.admits_value cfi).mpr hk⟩

end Classes

end AfcDut.Simulator
