import AfcDut.Simulator.Post
import AfcDut.Service.Exchange
import AfcDut.Service.WellFormed

/-!
# What a random vector contains

The outcome of `build_random_vector` in one equation, and the content of the
vector it writes: the mask has one entry for each drawn channel, every width
has its item, and the response can be filtered.
-/

namespace AfcDut.Simulator

open Py Service

/-! ## The outcome of the building -/

/-- `random_picks` as `build_random_vector` leaves it. -/
def nextPicks (g : Globals) (reqCfiBwX : List Json) (d : Draws) : List Json :=
  if g.onlyRandomPower.truthy then g.randomPicks
  else pickCfis g.differenceLastPicks g.randomPicks reqCfiBwX d

/-- The responses with one answer. -/
def randomDocument (resp : Json) : Json := .obj [("availableSpectrumInquiryResponses", .arr [resp])]

theorem assignPicks_eq (g : Globals) (reqCfiBwX : List Json) (d : Draws) :
    (if g.onlyRandomPower.truthy then g
      else { g with randomPicks := pickCfis g.differenceLastPicks g.randomPicks reqCfiBwX d }) =
      { g with randomPicks := nextPicks g reqCfiBwX d } := by
  unfold nextPicks
  split
  · rfl
  · rfl

/-- The building returns with the picks made and the responses assigned. -/
theorem buildRandomVector_eq_ok {g g' : Globals} {reqCfiBwX : List Json} {d : Draws}
    (h : buildRandomVector g reqCfiBwX d = (g', .ok ())) :
    ∃ p chans kvs, countryParam g.countryCode = .ok p ∧
      randomChanBw20 { g with randomPicks := nextPicks g reqCfiBwX d } p = .ok chans ∧
      g.vectors = .obj kvs ∧
      g' = { g with
        randomPicks := nextPicks g reqCfiBwX d
        vectors := .obj (Json.assign kvs "responses" (randomDocument (randomResponse
          g.scriptTestVector p
          (randomMask (drawPsd p g.channelWidth g.differenceLastPicks d) chans)))) } := by
  unfold buildRandomVector at h
  cases hp : countryParam g.countryCode with
  | error e => simp [hp] at h
  | ok p =>
      simp only [hp, assignPicks_eq] at h
      cases hchans : randomChanBw20 { g with randomPicks := nextPicks g reqCfiBwX d } p with
      | error e => simp [hchans] at h
      | ok chans =>
          simp only [hchans] at h
          cases hset : g.vectors.setField "responses" (randomDocument (randomResponse
              g.scriptTestVector p
              (randomMask (drawPsd p g.channelWidth g.differenceLastPicks d) chans))) with
          | error e =>
              unfold randomDocument at hset
              rw [hset] at h
              simp at h
          | ok vectors =>
              unfold randomDocument at hset
              rw [hset] at h
              simp only [Prod.mk.injEq, and_true] at h
              obtain ⟨kvs, hkvs, hvec⟩ := Json.setField_eq_ok.mp hset
              exact ⟨p, chans, kvs, rfl, hchans, hkvs, by rw [← h, hvec]; rfl⟩

/-- A building that raises has made its picks or not even that. -/
theorem buildRandomVector_raises {g g' : Globals} {reqCfiBwX : List Json} {d : Draws} {e : PyErr}
    (h : buildRandomVector g reqCfiBwX d = (g', .error e)) :
    g' = g ∨ g' = { g with randomPicks := nextPicks g reqCfiBwX d } := by
  unfold buildRandomVector at h
  cases hp : countryParam g.countryCode with
  | error e =>
      simp only [hp, Prod.mk.injEq] at h
      exact .inl h.1.symm
  | ok p =>
      simp only [hp, assignPicks_eq] at h
      right
      split at h
      · exact (Prod.mk.inj h).1.symm
      · split at h
        · exact (Prod.mk.inj h).1.symm
        · exact absurd (Prod.mk.inj h).2 (by simp)

/-- A building that raises has not written the vector. -/
theorem buildOnce_raises_vectors {g : Globals} {reqCfiBwX : List Json} {d : Draws} {e : PyErr}
    (h : (buildOnce g reqCfiBwX d).2 = .error e) :
    (buildOnce g reqCfiBwX d).1.vectors = g.vectors := by
  cases hbuild : buildOnce g reqCfiBwX d with
  | mk g' result =>
      rw [hbuild] at h
      dsimp only at h ⊢
      subst h
      unfold buildOnce at hbuild
      split at hbuild
      · split at hbuild
        · rw [(Prod.mk.inj hbuild).1]
        · exact absurd (Prod.mk.inj hbuild).2 (by simp)
        · rcases buildRandomVector_raises hbuild with rfl | rfl <;> rfl
      · exact absurd (Prod.mk.inj hbuild).2 (by simp)

/-! ## The mask -/

section Mask

variable {psd : Nat → ℚ} {chans : List Int}

theorem mem_map_fst_assign {κ υ : Type} [DecidableEq κ] (dict : List (κ × υ)) (k l : κ) (v : υ) :
    l ∈ (Json.assign dict k v).map (·.1) ↔ l ∈ dict.map (·.1) ∨ l = k := by
  induction dict with
  | nil => simp [Json.assign]
  | cons kv kvs ih =>
      unfold Json.assign
      split
      · rename_i h
        subst h
        simp only [List.map_cons, List.mem_cons]
        tauto
      · simp only [List.map_cons, List.mem_cons, ih]
        tauto

theorem nodup_map_fst_assign {κ υ : Type} [DecidableEq κ] {dict : List (κ × υ)}
    (h : (dict.map (·.1)).Nodup) (k : κ) (v : υ) : ((Json.assign dict k v).map (·.1)).Nodup := by
  induction dict with
  | nil => simp [Json.assign]
  | cons kv kvs ih =>
      rw [List.map_cons, List.nodup_cons] at h
      unfold Json.assign
      split
      · rename_i heq
        subst heq
        rw [List.map_cons, List.nodup_cons]
        exact h
      · rename_i hne
        rw [List.map_cons, List.nodup_cons, mem_map_fst_assign]
        exact ⟨fun hmem => hmem.elim h.1 hne, ih h.2⟩

/-- The channels of the mask are the drawn ones, each once. -/
theorem randomMask_keys : ((randomMask psd chans).map (·.1)).Nodup ∧
    ∀ ch, ch ∈ (randomMask psd chans).map (·.1) ↔ ch ∈ chans := by
  have hfold : ∀ (xs : List (Int × Nat)) (dict : List (Int × MaskEntry)),
      (dict.map (·.1)).Nodup →
      ((xs.foldl (fun mask ch => Json.assign mask ch.1 (maskEntry (psd ch.2))) dict).map
          (·.1)).Nodup ∧
        ∀ ch, ch ∈ (xs.foldl (fun mask ch => Json.assign mask ch.1 (maskEntry (psd ch.2)))
            dict).map (·.1) ↔ ch ∈ dict.map (·.1) ∨ ch ∈ xs.map (·.1) := by
    intro xs
    induction xs with
    | nil =>
        intro dict hdict
        exact ⟨hdict, fun ch => by simp⟩
    | cons x xs ih =>
        intro dict hdict
        obtain ⟨hnodup, hmem⟩ := ih _ (nodup_map_fst_assign hdict x.1 (maskEntry (psd x.2)))
        refine ⟨hnodup, fun ch => ?_⟩
        rw [List.foldl_cons, hmem, mem_map_fst_assign, List.map_cons, List.mem_cons, or_assoc]
  obtain ⟨hnodup, hmem⟩ := hfold chans.zipIdx [] List.nodup_nil
  refine ⟨hnodup, fun ch => (hmem ch).trans ?_⟩
  rw [List.zipIdx_map_fst]
  simp

end Mask

/-! ## The response -/

section Response

variable {scriptTestVector : Int} {p : CountryParam} {mask : List (Int × MaskEntry)}

theorem randomResponse_channels (info : Json) :
    (randomResponse scriptTestVector p mask).field "availableChannelInfo" = .ok info ↔
      (scriptTestVector = 2 ∨ scriptTestVector = 3) ∧ info = .arr (randomChanInfo p mask) := by
  rw [randomResponse, Json.field_obj_eq_ok, @eq_comm _ info]
  by_cases h1 : scriptTestVector = 1 ∨ scriptTestVector = 3 <;>
    by_cases h2 : scriptTestVector = 2 ∨ scriptTestVector = 3 <;>
    simp [h1, h2, Json.lookup_cons_ite]

theorem randomResponse_ranges (info : Json) :
    (randomResponse scriptTestVector p mask).field "availableFrequencyInfo" = .ok info ↔
      (scriptTestVector = 1 ∨ scriptTestVector = 3) ∧ info = .arr (randomFreqInfo mask) := by
  rw [randomResponse, Json.field_obj_eq_ok, @eq_comm _ info]
  by_cases h1 : scriptTestVector = 1 ∨ scriptTestVector = 3 <;>
    by_cases h2 : scriptTestVector = 2 ∨ scriptTestVector = 3 <;>
    simp [h1, h2, Json.lookup_cons_ite]

/-- The channels and limits of one width. -/
def bwEntries (p : CountryParam) (mask : List (Int × MaskEntry)) : Bandwidth → List (Int × ℚ)
  | .bw20 => mask.map fun e => (e.1, e.2.maxEirp)
  | bw => wideMask p mask bw

/-- `availableChannelInfo` has one item for each width. -/
theorem mem_randomChanInfo (item : Json) :
    item ∈ randomChanInfo p mask ↔ ∃ bw, item = chanInfoItem bw (bwEntries p mask bw) := by
  simp only [randomChanInfo, List.map_cons, List.map_nil, List.mem_cons, List.not_mem_nil, or_false]
  constructor
  · rintro (h | h | h | h | h)
    · exact ⟨.bw20, h⟩
    · exact ⟨.bw40, h⟩
    · exact ⟨.bw80, h⟩
    · exact ⟨.bw160, h⟩
    · exact ⟨.bw320, h⟩
  · rintro ⟨bw, rfl⟩
    cases bw <;> simp [bwEntries]

theorem classKey_chanInfoItem (bw : Bandwidth) (entries : List (Int × ℚ)) :
    classKey (chanInfoItem bw entries) = .ok (.num bw.opClass) := by
  rfl

theorem itemPairs_chanInfoItem (bw : Bandwidth) (entries : List (Int × ℚ)) :
    itemPairs (chanInfoItem bw entries) =
      .ok (entries.map fun e => (Json.int e.1, Json.float e.2)) := by
  have h : itemPairs (chanInfoItem bw entries) =
      .ok ((entries.map fun e => Json.int e.1).zip (entries.map fun e => Json.float e.2)) := rfl
  rw [h, List.zip_map']

theorem channelItemOk_chanInfoItem (bw : Bandwidth) (entries : List (Int × ℚ)) :
    ChannelItemOk (chanInfoItem bw entries) where
  operClass := ⟨_, classKey_chanInfoItem bw entries⟩
  lists := by
    refine ⟨entries.map fun e => .int e.1, entries.map fun e => .float e.2, rfl, rfl, ?_, ?_⟩
    · rw [List.length_map, List.length_map]
    · intro x hx
      obtain ⟨e, -, rfl⟩ := List.mem_map.mp hx
      exact ⟨_, rfl⟩

theorem freqItemOk_freqInfoItem (ch : Int) (maxPsd : ℚ) : FreqItemOk (freqInfoItem ch maxPsd) :=
  ⟨_, _, _, _, _, rfl, rfl, rfl, rfl, rfl⟩

/-- A random response can be filtered. -/
theorem responseOk_randomResponse : ResponseOk (randomResponse scriptTestVector p mask) where
  object := ⟨_, rfl⟩
  channels := by
    intro info hinfo
    obtain ⟨-, rfl⟩ := (randomResponse_channels info).mp hinfo
    refine ⟨_, rfl, fun item hitem => ?_⟩
    obtain ⟨bw, rfl⟩ := (mem_randomChanInfo item).mp hitem
    exact channelItemOk_chanInfoItem bw _
  ranges := by
    intro info hinfo
    obtain ⟨-, rfl⟩ := (randomResponse_ranges info).mp hinfo
    refine ⟨_, rfl, fun item hitem => ?_⟩
    obtain ⟨e, -, rfl⟩ := List.mem_map.mp hitem
    exact freqItemOk_freqInfoItem e.1 e.2.maxPsd

/-- A vector whose responses are a random document. -/
def RandomBuilt (vectors : Json) (scriptTestVector : Int) : Prop :=
  ∃ p mask, vectors.field "responses" = .ok (randomDocument (randomResponse scriptTestVector p mask))

theorem vectorResponse_random {vectors resp : Json}
    (h : vectors.field "responses" = .ok (randomDocument resp)) : vectorResponse vectors = .ok resp := by
  simp only [vectorResponse, h, ok_bind]
  rfl

/-- The items of a random vector: one for each width, and one for each 20 MHz
channel of the mask. -/
theorem vectorMember_channels_random {vectors item : Json}
    (h : vectors.field "responses" = .ok (randomDocument (randomResponse scriptTestVector p mask))) :
    VectorMember vectors "availableChannelInfo" item ↔
      (scriptTestVector = 2 ∨ scriptTestVector = 3) ∧
        ∃ bw, item = chanInfoItem bw (bwEntries p mask bw) := by
  simp only [VectorMember, vectorResponse_random h, Except.ok.injEq, exists_eq_left', Member,
    randomResponse_channels]
  constructor
  · rintro ⟨info, items, ⟨htv, rfl⟩, hitems, hmem⟩
    rw [Json.iter, Except.ok.injEq] at hitems
    subst hitems
    exact ⟨htv, (mem_randomChanInfo item).mp hmem⟩
  · rintro ⟨htv, hitem⟩
    exact ⟨_, _, ⟨htv, rfl⟩, rfl, (mem_randomChanInfo item).mpr hitem⟩

/-- A random vector offers channels of every width, if it has channels. -/
theorem offersClass_random {vectors : Json} {k : Key}
    (h : vectors.field "responses" = .ok (randomDocument (randomResponse scriptTestVector p mask))) :
    OffersClass vectors k ↔
      (scriptTestVector = 2 ∨ scriptTestVector = 3) ∧ ∃ bw : Bandwidth, k = .num bw.opClass := by
  simp only [OffersClass, vectorMember_channels_random h]
  constructor
  · rintro ⟨item, ⟨htv, bw, rfl⟩, hk⟩
    rw [classKey_chanInfoItem, Except.ok.injEq] at hk
    exact ⟨htv, bw, hk.symm⟩
  · rintro ⟨htv, bw, rfl⟩
    exact ⟨_, ⟨htv, bw, rfl⟩, classKey_chanInfoItem bw _⟩

theorem vectorMember_ranges_random {vectors item : Json}
    (h : vectors.field "responses" = .ok (randomDocument (randomResponse scriptTestVector p mask))) :
    VectorMember vectors "availableFrequencyInfo" item ↔
      (scriptTestVector = 1 ∨ scriptTestVector = 3) ∧
        ∃ e ∈ mask, item = freqInfoItem e.1 e.2.maxPsd := by
  simp only [VectorMember, vectorResponse_random h, Except.ok.injEq, exists_eq_left', Member,
    randomResponse_ranges]
  constructor
  · rintro ⟨info, items, ⟨htv, rfl⟩, hitems, hmem⟩
    rw [Json.iter, Except.ok.injEq] at hitems
    subst hitems
    obtain ⟨e, he, rfl⟩ := List.mem_map.mp hmem
    exact ⟨htv, e, he, rfl⟩
  · rintro ⟨htv, e, he, rfl⟩
    exact ⟨_, _, ⟨htv, rfl⟩, rfl, List.mem_map.mpr ⟨e, he, rfl⟩⟩

theorem RandomBuilt.wellFormed {vectors : Json} (h : RandomBuilt vectors scriptTestVector) :
    WellFormed vectors := by
  obtain ⟨p, mask, hresp⟩ := h
  refine ⟨⟨_, _, [], hresp, rfl⟩, fun resp hvector => ?_⟩
  rw [vectorResponse_random hresp, Except.ok.injEq] at hvector
  exact hvector ▸ responseOk_randomResponse

end Response

/-! ## Wide channels -/

section Wide

variable {mask : List (Int × MaskEntry)} {bw : Bandwidth} {cfi : Int}

theorem mem_subChannels (x : Int) :
    x ∈ subChannels bw cfi ↔ cfi - (bw.mhz / 10 - 2) ≤ x ∧ x ≤ cfi + (bw.mhz / 10 - 2) ∧
      (x - (cfi - (bw.mhz / 10 - 2))) % 4 = 0 := by
  unfold subChannels
  rw [mem_range (by decide)]
  refine and_congr_right fun _ => and_congr_left fun _ => ?_
  omega

theorem subChannels_nodup : (subChannels bw cfi).Nodup := by
  unfold subChannels range
  refine List.Nodup.map (fun a b h => ?_) List.nodup_range
  simpa using h

theorem length_subChannels : (subChannels bw cfi).length = bw.mhz / 20 := by
  simp only [subChannels, range, List.length_map, List.length_range]
  cases bw <;> simp only [Bandwidth.mhz] <;> omega

theorem halfWidth_cast : (bw.mhz : ℚ) / 10 - 2 = ((bw.mhz / 10 - 2 : Int) : ℚ) := by
  cases bw <;> simp only [Bandwidth.mhz] <;> norm_num

/-- On the 20 MHz grid, the entries in the window of a wide channel are its
20 MHz channels that the mask has. -/
theorem window_keys (hgrid : ∀ e ∈ mask, (e.1 - (cfi - (bw.mhz / 10 - 2))) % 4 = 0) (x : Int) :
    x ∈ (mask.filter fun e => (cfi : ℚ) - ((bw.mhz : ℚ) / 10 - 2) ≤ e.1 ∧
        (e.1 : ℚ) ≤ cfi + ((bw.mhz : ℚ) / 10 - 2)).map (·.1) ↔
      x ∈ subChannels bw cfi ∧ x ∈ mask.map (·.1) := by
  rw [halfWidth_cast, mem_subChannels]
  have hlo : ∀ n : Int, ((cfi : ℚ) - ((bw.mhz / 10 - 2 : Int) : ℚ) ≤ n ↔
      cfi - (bw.mhz / 10 - 2) ≤ n) := fun n => by exact_mod_cast Iff.rfl
  have hhi : ∀ n : Int, ((n : ℚ) ≤ cfi + ((bw.mhz / 10 - 2 : Int) : ℚ) ↔
      n ≤ cfi + (bw.mhz / 10 - 2)) := fun n => by exact_mod_cast Iff.rfl
  simp only [hlo, hhi, List.mem_map, List.mem_filter, decide_eq_true_eq]
  constructor
  · rintro ⟨e, ⟨he, h⟩, rfl⟩
    exact ⟨⟨h.1, h.2, hgrid e he⟩, e, he, rfl⟩
  · rintro ⟨⟨h1, h2, -⟩, e, he, rfl⟩
    exact ⟨e, ⟨he, h1, h2⟩, rfl⟩

/-- A wide channel whose 20 MHz channels are all drawn has a lowest PSD. -/
theorem getMinMaxpsdByBw_isSome (hnodup : (mask.map (·.1)).Nodup)
    (hgrid : ∀ e ∈ mask, (e.1 - (cfi - (bw.mhz / 10 - 2))) % 4 = 0)
    (hall : ∀ ch ∈ subChannels bw cfi, ch ∈ mask.map (·.1)) :
    ∃ q, getMinMaxpsdByBw mask cfi bw = some q := by
  have hperm : ((mask.filter fun e => (cfi : ℚ) - ((bw.mhz : ℚ) / 10 - 2) ≤ e.1 ∧
      (e.1 : ℚ) ≤ cfi + ((bw.mhz : ℚ) / 10 - 2)).map (·.1)).Perm (subChannels bw cfi) := by
    refine (List.perm_ext_iff_of_nodup ?_ subChannels_nodup).mpr fun x => ?_
    · exact hnodup.sublist (List.filter_sublist.map _)
    · rw [window_keys hgrid]
      exact and_iff_left_of_imp (hall x)
  have hlength := hperm.length_eq
  rw [length_subChannels, List.length_map] at hlength
  have hcount : ((bw.mhz / 20 : Nat) : ℚ) = (bw.mhz : ℚ) / 20 := by
    cases bw <;> simp only [Bandwidth.mhz] <;> norm_num
  unfold getMinMaxpsdByBw
  simp only [List.length_map, hlength, hcount, if_true]
  refine Option.isSome_iff_exists.mp (List.isSome_min?_of_ne_nil fun hnil => ?_)
  rw [List.map_eq_nil_iff] at hnil
  rw [hnil, List.length_nil] at hlength
  cases bw <;> simp [Bandwidth.mhz] at hlength

/-- The wide channel is in the mask of its width unless its lowest PSD is
zero. -/
theorem wideEntry_isSome {q : ℚ} (h : getMinMaxpsdByBw mask cfi bw = some q) :
    (∃ e, wideEntry mask bw cfi = some e ∧ e.1 = cfi) ↔ q ≠ 0 := by
  unfold wideEntry
  simp only [h]
  by_cases hq : q = 0
  · simp [hq]
  · simp [hq]

theorem wideEntry_fst {e : Int × ℚ} {ch : Int} (h : wideEntry mask bw ch = some e) : e.1 = ch := by
  unfold wideEntry at h
  split at h
  · simp at h
  · split at h
    · simp at h
    · simp only [Option.some.injEq] at h
      rw [← h]

end Wide

end AfcDut.Simulator
