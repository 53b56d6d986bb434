import AfcDut.Simulator.Channels

/-!
# What the CFI computations return

The two computations behind `req_cfi_bwX`: when they raise, and which CFIs
they return. By channel, the first item of the class alone decides.
-/

namespace AfcDut.Simulator

open Py Service

/-! ## Sets of inquired values -/

theorem iter_raises {j : Json} {e : PyErr} (h : j.iter = .error e) : e = .typeError := by
  cases j <;> simp [Json.iter] at h <;> exact h.symm

theorem pySet_eq_ok_iff {xs ys : List Json} :
    pySet xs = .ok ys ↔ (∀ x ∈ xs, ∃ k, x.key? = some k) ∧ ys = distinct xs := by
  simp only [pySet, bind_eq_ok, pure_eq_ok, Except.ok.injEq]
  have hall : (∃ ks, xs.mapM Json.hash = .ok ks) ↔ ∀ x ∈ xs, ∃ k, x.key? = some k := by
    simp only [mapM_isOk_iff, Json.hash_eq_ok]
  rw [← hall]
  constructor
  · rintro ⟨ks, hks, rfl⟩
    exact ⟨⟨ks, hks⟩, rfl⟩
  · rintro ⟨⟨ks, hks⟩, rfl⟩
    exact ⟨ks, hks, rfl⟩

theorem pySet_raises_iff {xs : List Json} {e : PyErr} :
    pySet xs = .error e ↔ e = .typeError ∧ ¬ ∀ x ∈ xs, ∃ k, x.key? = some k := by
  have hhash : ∀ {e : PyErr}, xs.mapM Json.hash = .error e → e = .typeError := by
    induction xs with
    | nil => intro e h; simp at h
    | cons x xs ih =>
        intro e h
        simp only [List.mapM_cons, bind_eq_error] at h
        rcases h with h | ⟨k, -, h | ⟨ks, -, h⟩⟩
        · unfold Json.hash at h
          split at h
          · simp at h
          · exact (Except.error.inj h).symm
        · exact ih h
        · simp at h
  cases hset : pySet xs with
  | ok ys =>
      obtain ⟨hall, -⟩ := pySet_eq_ok_iff.mp hset
      exact iff_of_false (by simp) fun h => h.2 hall
  | error e' =>
      have hno : ¬ ∀ x ∈ xs, ∃ k, x.key? = some k := by
        intro hall
        rw [pySet_eq_ok_iff.mpr ⟨hall, rfl⟩] at hset
        exact absurd hset (by simp)
      have hte : e' = .typeError := by
        simp only [pySet, bind_eq_error] at hset
        rcases hset with h | ⟨ks, -, h⟩
        · exact hhash h
        · simp at h
      simp only [hno, not_false_eq_true, and_true, Except.error.injEq, hte]
      exact ⟨fun h => h.symm, fun h => h.symm⟩

/-! ## By channel -/

/-- The item is of the operating class of the width. -/
def hasClass (bw : Bandwidth) (item : Json) : Bool :=
  match item.field "globalOperatingClass" with
  | .ok operClass => decide (operClass.key? = some (.num bw.opClass))
  | .error _ => false

/-- The CFIs of the width that one item asks for. -/
def cfisOfItem (countryCode : Json) (bw : Bandwidth) (item : Json) : Except PyErr (List Json) := do
  let p ← countryParam countryCode
  let all := (p.cfis bw).map Json.int
  let cfiChans ← item.getD "channelCfi" (.arr all)
  let elems ← cfiChans.iter
  let inquired ← pySet elems
  pure (inter inquired all)

/-- The first item of the class decides; without one there are no CFIs. -/
theorem getCfiByInquiredChannelsBw_eq {countryCode : Json} {bw : Bandwidth} {items : List Json}
    (h : ∀ item ∈ items, ∃ c, item.field "globalOperatingClass" = .ok c) :
    getCfiByInquiredChannelsBw countryCode bw items =
      match items.find? (hasClass bw) with
      | none => .ok []
      | some item => cfisOfItem countryCode bw item := by
  induction items with
  | nil => rfl
  | cons item rest ih =>
      obtain ⟨operClass, hclass⟩ := h item List.mem_cons_self
      have ih := ih fun item hitem => h item (List.mem_cons_of_mem _ hitem)
      by_cases hk : operClass.key? = some (.num bw.opClass)
      · have hhas : hasClass bw item = true := by simp [hasClass, hclass, hk]
        rw [List.find?_cons_of_pos hhas]
        simp only [getCfiByInquiredChannelsBw, hclass, ok_bind, hk, if_true, cfisOfItem]
      · have hhas : ¬ hasClass bw item = true := by simp [hasClass, hclass, hk]
        rw [List.find?_cons_of_neg hhas, ← ih]
        simp only [getCfiByInquiredChannelsBw, hclass, ok_bind, hk, if_false]

/-- What `chan.get("channelCfi", ...)` gives: the list of the item, or all. -/
theorem getD_channelCfi {item operClass all : Json}
    (hclass : item.field "globalOperatingClass" = .ok operClass) :
    (item.getD "channelCfi" all = .ok all ∧ ∀ v, item.field "channelCfi" ≠ .ok v) ∨
      ∃ v, item.field "channelCfi" = .ok v ∧ item.getD "channelCfi" all = .ok v := by
  obtain ⟨kvs, rfl, -⟩ := Json.field_eq_ok hclass
  cases hlookup : kvs.lookup "channelCfi" with
  | none => simp [Json.getD, Json.field, hlookup]
  | some v => simp [Json.getD, Json.field, hlookup]

theorem hashable_ints (ns : List Int) : ∀ x ∈ ns.map Json.int, ∃ k, x.key? = some k := by
  intro x hx
  obtain ⟨n, -, rfl⟩ := List.mem_map.mp hx
  exact ⟨_, rfl⟩

/-- The computation raises for an unknown country, or when the item's own list
cannot be made a set. -/
theorem cfisOfItem_raises_iff {countryCode item operClass : Json} {bw : Bandwidth} {e : PyErr}
    (hclass : item.field "globalOperatingClass" = .ok operClass) :
    cfisOfItem countryCode bw item = .error e ↔
      countryParam countryCode = .error e ∨
        ((∃ p, countryParam countryCode = .ok p) ∧ e = .typeError ∧
          ∃ v, item.field "channelCfi" = .ok v ∧ ¬ v.HashableElems) := by
  unfold cfisOfItem
  cases hp : countryParam countryCode with
  | error e' => simp
  | ok p =>
      simp only [ok_bind, reduceCtorEq, false_or, Except.ok.injEq, exists_eq', true_and]
      rcases @getD_channelCfi item operClass (.arr ((p.cfis bw).map Json.int)) hclass with
        ⟨hget, hno⟩ | ⟨v, hv, hget⟩
      · rw [hget]
        simp only [ok_bind, Json.iter, bind_eq_error, pySet_raises_iff, pure_eq_ok, reduceCtorEq,
          and_false, exists_false, or_false]
        constructor
        · rintro ⟨-, hbad⟩
          exact absurd (hashable_ints _) hbad
        · rintro ⟨-, v, hv, -⟩
          exact absurd hv (hno v)
      · rw [hget]
        simp only [ok_bind, hv, Except.ok.injEq, exists_eq_left', bind_eq_error, pure_eq_ok,
          reduceCtorEq, and_false, exists_false, or_false]
        cases hiter : v.iter with
        | error e' =>
            rw [iter_raises hiter]
            simp only [Except.error.injEq, reduceCtorEq, false_and, exists_false, or_false,
              Json.HashableElems, hiter, not_false_eq_true, and_true]
            exact eq_comm
        | ok elems =>
            simp only [reduceCtorEq, false_or, Except.ok.injEq, exists_eq_left',
              pySet_raises_iff, Json.HashableElems, hiter]

/-- Where it returns, a CFI of the country is asked for when the item lists it
or lists nothing. -/
theorem mem_cfisOfItem {countryCode item operClass : Json} {bw : Bandwidth} {p : CountryParam}
    {cfis : List Json} (hclass : item.field "globalOperatingClass" = .ok operClass)
    (hp : countryParam countryCode = .ok p) (h : cfisOfItem countryCode bw item = .ok cfis)
    (k : Option Key) :
    k ∈ cfis.map Json.key? ↔ k ∈ ((p.cfis bw).map Json.int).map Json.key? ∧
      ∀ v elems, item.field "channelCfi" = .ok v → v.iter = .ok elems → k ∈ elems.map Json.key? := by
  simp only [cfisOfItem, hp, ok_bind, bind_eq_ok, pySet_eq_ok_iff, pure_eq_ok, Except.ok.injEq] at h
  obtain ⟨cfiChans, hget, elems, hiter, _, ⟨-, rfl⟩, rfl⟩ := h
  rw [mem_map_key_inter, mem_map_key_distinct, and_comm]
  refine and_congr_right fun hall => ?_
  rcases @getD_channelCfi item operClass (.arr ((p.cfis bw).map Json.int)) hclass with
    ⟨hget', hno⟩ | ⟨v, hv, hget'⟩
  · rw [hget', Except.ok.injEq] at hget
    subst hget
    rw [Json.iter, Except.ok.injEq] at hiter
    subst hiter
    exact iff_of_true hall fun v _ hv => absurd hv (hno v)
  · rw [hget', Except.ok.injEq] at hget
    subst hget
    simp only [hv, Except.ok.injEq]
    constructor
    · rintro hk v' elems' rfl hiter'
      rw [hiter, Except.ok.injEq] at hiter'
      exact hiter' ▸ hk
    · intro hk
      exact hk v elems rfl hiter

/-! ## The countries' lists -/

theorem countryParam_cases {countryCode : Json} {p : CountryParam}
    (h : countryParam countryCode = .ok p) : p = countryUS ∨ p = countryCA := by
  simp only [countryParam, bind_eq_ok] at h
  obtain ⟨k, -, h⟩ := h
  split at h
  · exact .inl (Except.ok.inj h).symm
  · split at h
    · exact .inr (Except.ok.inj h).symm
    · simp at h

theorem cfis_nodup {countryCode : Json} {p : CountryParam} (h : countryParam countryCode = .ok p)
    (bw : Bandwidth) : (p.cfis bw).Nodup := by
  rcases countryParam_cases h with rfl | rfl <;> cases bw <;> decide

/-- The 20 MHz channels of every CFI are on one grid. -/
theorem cfis_grid {countryCode : Json} {p : CountryParam} (h : countryParam countryCode = .ok p)
    (bw : Bandwidth) : ∀ cfi ∈ p.cfis bw, (cfi - (bw.mhz / 10 - 2)) % 4 = 1 := by
  rcases countryParam_cases h with rfl | rfl <;> cases bw <;> decide

theorem opClass_injective : Function.Injective Bandwidth.opClass := by
  intro a b h
  cases a <;> cases b <;> first | rfl | exact absurd h (by decide)

/-- The CFIs that are returned are CFIs of the country. -/
theorem getCfiByInquiredChannelsBw_country {countryCode : Json} {bw : Bandwidth} {p : CountryParam}
    {items cfis : List Json} (hp : countryParam countryCode = .ok p)
    (h : getCfiByInquiredChannelsBw countryCode bw items = .ok cfis) :
    ∀ k ∈ cfis.map Json.key?, ∃ cfi ∈ p.cfis bw, k = some (.num cfi) := by
  induction items with
  | nil =>
      rw [getCfiByInquiredChannelsBw, pure_eq_ok, Except.ok.injEq] at h
      subst h
      intro k hk
      exact absurd hk List.not_mem_nil
  | cons chan rest ih =>
      simp only [getCfiByInquiredChannelsBw, bind_eq_ok] at h
      obtain ⟨operClass, -, h⟩ := h
      split at h
      · simp only [bind_eq_ok, hp, pure_eq_ok, Except.ok.injEq, exists_eq_left'] at h
        obtain ⟨cfiChans, -, elems, -, inquired, -, rfl⟩ := h
        intro k hk
        obtain ⟨-, hall⟩ := mem_map_key_inter.mp hk
        obtain ⟨x, hx, rfl⟩ := List.mem_map.mp hall
        obtain ⟨cfi, hcfi, rfl⟩ := List.mem_map.mp hx
        exact ⟨cfi, hcfi, rfl⟩
      · exact ih h

/-- No CFI is returned twice. -/
theorem nodup_getCfiByInquiredChannelsBw {countryCode : Json} {bw : Bandwidth}
    {items cfis : List Json} (h : getCfiByInquiredChannelsBw countryCode bw items = .ok cfis) :
    (cfis.map Json.key?).Nodup := by
  induction items with
  | nil =>
      rw [getCfiByInquiredChannelsBw, pure_eq_ok, Except.ok.injEq] at h
      subst h
      exact List.nodup_nil
  | cons chan rest ih =>
      simp only [getCfiByInquiredChannelsBw, bind_eq_ok] at h
      obtain ⟨operClass, -, h⟩ := h
      split at h
      · simp only [bind_eq_ok, pySet_eq_ok_iff, pure_eq_ok, Except.ok.injEq] at h
        obtain ⟨p, hp, cfiChans, -, elems, -, _, ⟨-, rfl⟩, rfl⟩ := h
        exact nodup_key_inter (nodup_key_distinct elems) (nodup_key_ints (cfis_nodup hp bw))
      · exact ih h

/-! ## By frequency -/

/-- A bound that has a channel number: a number, and not so large that the
division by 5 overflows. -/
def Convertible (freq : Json) : Prop :=
  ∃ q, freq.num? = some q ∧ FitsDouble ((q - 5950) / 5)

theorem convertToCh_eq_ok {freq : Json} {n : Int} :
    convertToCh freq = .ok n ↔
      ∃ q, freq.num? = some q ∧ FitsDouble ((q - 5950) / 5) ∧ trunc ((q - 5950) / 5) = n := by
  simp only [convertToCh, bind_eq_ok, Json.num_eq_ok, trueDiv_eq_ok, pure_eq_ok, Except.ok.injEq]
  constructor
  · rintro ⟨q, hq, _, ⟨hfits, rfl⟩, hn⟩
    exact ⟨q, hq, hfits, hn⟩
  · rintro ⟨q, hq, hfits, hn⟩
    exact ⟨q, hq, _, ⟨hfits, rfl⟩, hn⟩

theorem convertToCh_isOk_iff {freq : Json} : (∃ n, convertToCh freq = .ok n) ↔ Convertible freq := by
  simp only [convertToCh_eq_ok, Convertible]
  constructor
  · rintro ⟨n, q, hq, hfits, -⟩
    exact ⟨q, hq, hfits⟩
  · rintro ⟨q, hq, hfits⟩
    exact ⟨_, q, hq, hfits, rfl⟩

theorem rangeChannels_isOk_iff {item : Json} {low high : Json}
    (hlow : item.field "lowFrequency" = .ok low) (hhigh : item.field "highFrequency" = .ok high) :
    (∃ chans, rangeChannels item = .ok chans) ↔ Convertible low ∧ Convertible high := by
  rw [← convertToCh_isOk_iff, ← convertToCh_isOk_iff]
  simp only [rangeChannels, hlow, hhigh, ok_bind, bind_eq_ok, pure_eq_ok]
  constructor
  · rintro ⟨chans, first, hfirst, last, hlast, -⟩
    exact ⟨⟨first, hfirst⟩, last, hlast⟩
  · rintro ⟨⟨first, hfirst⟩, last, hlast⟩
    exact ⟨_, first, hfirst, last, hlast, rfl⟩

/-- The computation returns when every bound has a channel number and the
country is known. -/
theorem getCfiByInquiredFreqRangesBw_isOk_iff {countryCode : Json} {bw : Bandwidth}
    {items : List Json} :
    (∃ cfis, getCfiByInquiredFreqRangesBw countryCode bw items = .ok cfis) ↔
      (∀ item ∈ items, ∃ chans, rangeChannels item = .ok chans) ∧
        ∃ p, countryParam countryCode = .ok p := by
  simp only [getCfiByInquiredFreqRangesBw, bind_eq_ok, pure_eq_ok]
  rw [← mapM_isOk_iff]
  constructor
  · rintro ⟨cfis, chans, hchans, p, hp, -⟩
    exact ⟨⟨chans, hchans⟩, p, hp⟩
  · rintro ⟨⟨chans, hchans⟩, p, hp⟩
    exact ⟨_, chans, hchans, p, hp, rfl⟩

theorem getCfiByInquiredFreqRangesBw_country {countryCode : Json} {bw : Bandwidth}
    {p : CountryParam} {items cfis : List Json} (hp : countryParam countryCode = .ok p)
    (h : getCfiByInquiredFreqRangesBw countryCode bw items = .ok cfis) :
    ∀ k ∈ cfis.map Json.key?, ∃ cfi ∈ p.cfis bw, k = some (.num cfi) := by
  simp only [getCfiByInquiredFreqRangesBw, bind_eq_ok, hp, pure_eq_ok, Except.ok.injEq,
    exists_eq_left'] at h
  obtain ⟨chans, -, rfl⟩ := h
  intro k hk
  obtain ⟨x, hx, rfl⟩ := List.mem_map.mp hk
  obtain ⟨cfi, hcfi, rfl⟩ := List.mem_map.mp hx
  exact ⟨cfi, (List.mem_filter.mp hcfi).1, rfl⟩

theorem nodup_getCfiByInquiredFreqRangesBw {countryCode : Json} {bw : Bandwidth}
    {items cfis : List Json} (h : getCfiByInquiredFreqRangesBw countryCode bw items = .ok cfis) :
    (cfis.map Json.key?).Nodup := by
  simp only [getCfiByInquiredFreqRangesBw, bind_eq_ok, pure_eq_ok, Except.ok.injEq] at h
  obtain ⟨chans, -, p, hp, rfl⟩ := h
  exact nodup_key_ints ((cfis_nodup hp bw).filter _)

end AfcDut.Simulator
