import AfcDut.Analyzer.Theorems.Script
import AfcDut.Rf.Document
import AfcDut.Simulator.Admission
import AfcDut.Simulator.RandomLimits
import AfcDut.Simulator.Theorems.RandomMode
import AfcDut.Simulator.Theorems.TwoPhases
import Mathlib.Data.Set.List

/-!
# The limits that were drawn

A random test draws a limit for each 20 MHz channel of a pick, and the script
later holds the device to the limits of the response that was sent: these are,
at a pick, the lowest that was drawn and the power it comes to at the pick's
width.
-/

namespace AfcDut.Analyzer.Theorems.Drawn

open Py Rf Service Simulator Spectrum Script Grouping RfMeasurementValidation
open Simulator.Theorems.RandomMode Simulator.Theorems.TwoPhases

/-! ## By frequency -/

/-- The grant of a 20 MHz channel with its limit. -/
def segment (s : Int × ℚ) : Grant ℚ ℚ :=
  ⟨5950 + s.1 * 5 - 10, 5950 + s.1 * 5 + 10, s.2, by linarith⟩

def segmentItem (s : Int × ℚ) : Json := freqInfoItem s.1 s.2

theorem segmentItem_injective : Function.Injective segmentItem := by
  intro s s' h
  unfold segmentItem freqInfoItem at h
  simp only [Json.obj.injEq, List.cons.injEq, Prod.mk.injEq, Json.int.injEq, Json.float.injEq,
    true_and, and_true] at h
  obtain ⟨⟨hch, -⟩, hpsd⟩ := h
  exact Prod.ext (by omega) hpsd

theorem ofJson_segmentItem (s : Int × ℚ) :
    AvailableFrequencyInfo.ofJson (segmentItem s) = offered (segment s) := by
  have hlow : numberOf (.obj [("highFrequency", .int (5950 + s.1 * 5 + 10)),
      ("lowFrequency", .int (5950 + s.1 * 5 - 10))]) "lowFrequency" =
      some (5950 + s.1 * 5 - 10 : ℚ) := by
    show some ((5950 + s.1 * 5 - 10 : Int) : ℚ) = _
    push_cast
    rfl
  have hhigh : numberOf (.obj [("highFrequency", .int (5950 + s.1 * 5 + 10)),
      ("lowFrequency", .int (5950 + s.1 * 5 - 10))]) "highFrequency" =
      some (5950 + s.1 * 5 + 10 : ℚ) := by
    show some ((5950 + s.1 * 5 + 10 : Int) : ℚ) = _
    push_cast
    rfl
  show AvailableFrequencyInfo.mk (some ⟨_, _⟩) (some s.2) = _
  rw [hlow, hhigh]
  rfl

/-- A list of such items offers their grants. -/
theorem exists_segments {items : List Json} (h : ∀ item ∈ items, ∃ s, item = segmentItem s) :
    ∃ ss : List (Int × ℚ), items.map AvailableFrequencyInfo.ofJson = (ss.map segment).map offered ∧
      ∀ s, s ∈ ss ↔ segmentItem s ∈ items := by
  obtain ⟨ss, rfl⟩ : items ∈ Set.range (List.map segmentItem) := by
    rw [Set.range_list_map]
    intro item hitem
    obtain ⟨s, rfl⟩ := h item hitem
    exact ⟨s, rfl⟩
  refine ⟨ss, ?_, fun s => (List.mem_map_of_injective segmentItem_injective).symm⟩
  rw [List.map_map, List.map_map]
  exact List.map_congr_left fun s _ => ofJson_segmentItem s

variable {mask : List (Int × MaskEntry)} {bw : Bandwidth} {cfi : Int} {q : ℚ}

/-- The window of a validation is the block of channels the simulator takes
the minimum over. -/
theorem limitAt_segments {ss : List (Int × ℚ)} :
    limitAt (ss.map segment) (5950 + 5 * cfi) bw.mhz = some q ↔
      (∃ s ∈ ss, (cfi - (bw.mhz / 10 - 2) ≤ s.1 ∧ s.1 ≤ cfi + (bw.mhz / 10 - 2)) ∧ s.2 = q) ∧
        ∀ s ∈ ss, cfi - (bw.mhz / 10 - 2) ≤ s.1 ∧ s.1 ≤ cfi + (bw.mhz / 10 - 2) → q ≤ s.2 := by
  -- the width is even, and half of it is a number of channel steps
  obtain ⟨half, hhalf, hblock⟩ : ∃ half : Int, (bw.mhz : Int) = 2 * (5 * half) ∧
      (bw.mhz / 10 - 2 : Int) = half - 2 := by
    cases bw with
    | bw20 => exact ⟨2, rfl, rfl⟩
    | bw40 => exact ⟨4, rfl, rfl⟩
    | bw80 => exact ⟨8, rfl, rfl⟩
    | bw160 => exact ⟨16, rfl, rfl⟩
    | bw320 => exact ⟨32, rfl, rfl⟩
  have hinside : ∀ s : Int × ℚ, (segment s).Inside ((5950 + 5 * cfi - 5 * half : Int) : ℚ)
      ((5950 + 5 * cfi + 5 * half : Int) : ℚ) ↔
        cfi - (bw.mhz / 10 - 2) ≤ s.1 ∧ s.1 ≤ cfi + (bw.mhz / 10 - 2) := by
    intro s
    have hlow : (segment s).low = ((5950 + s.1 * 5 - 10 : Int) : ℚ) := by
      push_cast
      rfl
    have hhigh : (segment s).high = ((5950 + s.1 * 5 + 10 : Int) : ℚ) := by
      push_cast
      rfl
    unfold Grant.Inside
    rw [hlow, hhigh, Int.cast_le, Int.cast_le, hblock]
    constructor
    · rintro ⟨h1, h2⟩
      constructor <;> omega
    · rintro ⟨h1, h2⟩
      constructor <;> omega
  have hwindow : Rf.window ((5950 + 5 * cfi : Int) : ℚ) ((bw.mhz : Int) : ℚ) =
      (((5950 + 5 * cfi - 5 * half : Int) : ℚ), ((5950 + 5 * cfi + 5 * half : Int) : ℚ)) := by
    rw [hhalf, window_even]
  unfold limitAt
  rw [hwindow, insideLimit_eq_some_iff]
  simp only [List.mem_map, exists_exists_and_eq_and, forall_exists_index, and_imp,
    forall_apply_eq_imp_iff₂, hinside]
  rfl

/-- Where the mask has a full block, all it has there is the block. -/
theorem mem_subChannels_of_window (hsub : ∀ ch ∈ subChannels bw cfi, ch ∈ mask.map (·.1))
    (hlength : (Simulator.window mask cfi bw).length = bw.mhz / 20) {e : Int × MaskEntry}
    (he : e ∈ Simulator.window mask cfi bw) : e.1 ∈ subChannels bw cfi := by
  have hkeys : (subChannels bw cfi).Subperm ((Simulator.window mask cfi bw).map (·.1)) := by
    refine subChannels_nodup.subperm fun ch hch => ?_
    obtain ⟨e, he, rfl⟩ := List.mem_map.mp (hsub ch hch)
    obtain ⟨hlow, hhigh, -⟩ := (mem_subChannels e.1).mp hch
    exact List.mem_map_of_mem ((mem_window e).mpr ⟨he, hlow, hhigh⟩)
  -- as many entries as the block has channels, and these among them
  have hperm := hkeys.perm_of_length_le (by rw [List.length_map, hlength, length_subChannels])
  exact hperm.mem_iff.mpr (List.mem_map_of_mem he)

/-- The minimum is taken over a full window. -/
theorem getMinMaxpsdByBw_eq_some (hq : getMinMaxpsdByBw mask cfi bw = some q) :
    (Simulator.window mask cfi bw).length = bw.mhz / 20 ∧
      (∃ e ∈ Simulator.window mask cfi bw, e.2.maxPsd = q) ∧
        ∀ e ∈ Simulator.window mask cfi bw, q ≤ e.2.maxPsd := by
  rw [getMinMaxpsdByBw_eq] at hq
  split at hq
  · rename_i hlength
    rw [List.min?_eq_some_iff] at hq
    obtain ⟨hmem, hleast⟩ := hq
    exact ⟨hlength, List.mem_map.mp hmem, fun e he => hleast _ (List.mem_map_of_mem he)⟩
  · exact absurd hq (by simp)

/-- It is the lowest of the block. -/
theorem isLeast_block (hsub : ∀ ch ∈ subChannels bw cfi, ch ∈ mask.map (·.1))
    (hq : getMinMaxpsdByBw mask cfi bw = some q) :
    IsLeast {psd | ∃ e ∈ mask, e.1 ∈ subChannels bw cfi ∧ e.2.maxPsd = psd} q := by
  obtain ⟨hlength, ⟨e, he, rfl⟩, hleast⟩ := getMinMaxpsdByBw_eq_some hq
  constructor
  · exact ⟨e, ((mem_window e).mp he).1, mem_subChannels_of_window hsub hlength he, rfl⟩
  · rintro psd ⟨e', he', hch, rfl⟩
    obtain ⟨hlow, hhigh, -⟩ := (mem_subChannels e'.1).mp hch
    exact hleast e' ((mem_window e').mpr ⟨he', hlow, hhigh⟩)

/-- The limit around a pick, of items that include its block, is the lowest of
the block. -/
theorem limitAt_drawn {ss : List (Int × ℚ)} {within : Int → Prop}
    (hss : ∀ s, s ∈ ss ↔ (∃ e ∈ mask, s = (e.1, e.2.maxPsd)) ∧ within s.1)
    (hsub : ∀ ch ∈ subChannels bw cfi, ch ∈ mask.map (·.1))
    (hwithin : ∀ ch ∈ subChannels bw cfi, within ch)
    (hq : getMinMaxpsdByBw mask cfi bw = some q) :
    limitAt (ss.map segment) (5950 + 5 * cfi) bw.mhz = some q := by
  obtain ⟨hlength, ⟨e, he, rfl⟩, hleast⟩ := getMinMaxpsdByBw_eq_some hq
  obtain ⟨hmem, hin⟩ := (mem_window e).mp he
  have hblock : (e.1, e.2.maxPsd) ∈ ss :=
    (hss _).mpr ⟨⟨e, hmem, rfl⟩, hwithin _ (mem_subChannels_of_window hsub hlength he)⟩
  rw [limitAt_segments]
  refine ⟨⟨_, hblock, hin, rfl⟩, fun s hs hin' => ?_⟩
  obtain ⟨⟨e', he', rfl⟩, -⟩ := (hss s).mp hs
  exact hleast e' ((mem_window e').mpr ⟨he', hin'⟩)

/-! ## By channel -/

/-- An item that lists channels with their limits. -/
def listing (entries : List (Int × ℚ)) : AvailableChannelInfo :=
  ⟨some (entries.map fun e => (e.1 : ℚ)), some (entries.map (·.2))⟩

/-- The lists of an item are those of some entries. -/
def ListsEntries (item : Json) (entries : List (Int × ℚ)) : Prop :=
  item.field "channelCfi" = .ok (.arr (entries.map fun e => .int e.1)) ∧
    item.field "maxEirp" = .ok (.arr (entries.map fun e => .float e.2))

theorem ofJson_listsEntries {item : Json} {entries : List (Int × ℚ)}
    (h : ListsEntries item entries) : AvailableChannelInfo.ofJson item = listing entries := by
  unfold AvailableChannelInfo.ofJson listing
  rw [numbersOf_map (fun e : Int × ℚ => (e.1 : ℚ)) (fun _ => rfl) h.1,
    numbersOf_map (fun e : Int × ℚ => e.2) (fun _ => rfl) h.2]

theorem itemPairs_listsEntries {item : Json} {entries : List (Int × ℚ)}
    (h : ListsEntries item entries) :
    itemPairs item = .ok (entries.map fun e => (Json.int e.1, Json.float e.2)) := by
  unfold itemPairs
  rw [h.1, h.2]
  show Except.ok ((entries.map fun e => Json.int e.1).zip (entries.map fun e => Json.float e.2)) = _
  rw [List.zip_map']

/-- The copy of the inquired channels keeps each with its own limit. -/
theorem overlay_entries {req : List Key} {item : Json} {entries : List (Int × ℚ)}
    (hitem : item.field "maxEirp" = .ok (.arr (entries.map fun e => .float e.2)))
    (rest : List (Int × ℚ)) (idx : Nat) (hrest : entries.drop idx = rest) {cs es : List Json}
    (h : overlay req item (rest.map fun e => .int e.1) idx = .ok (cs, es)) :
    ∃ kept : List (Int × ℚ), kept.Sublist rest ∧ cs = kept.map (fun e => .int e.1) ∧
      es = kept.map (fun e => .float e.2) := by
  -- `rest` is what is left of the entries from `idx` on
  induction rest generalizing idx cs es with
  | nil =>
      simp only [List.map_nil, overlay, pure_eq_ok, Except.ok.injEq, Prod.mk.injEq] at h
      exact ⟨[], List.Sublist.refl _, h.1.symm, h.2.symm⟩
  | cons e rest ih =>
      have hnext : entries.drop (idx + 1) = rest := by
        rw [← List.drop_drop, hrest]
        rfl
      simp only [List.map_cons, overlay, bind_eq_ok, Json.hash_eq_ok] at h
      obtain ⟨k, -, h⟩ := h
      split at h
      · simp only [bind_eq_ok, hitem, Except.ok.injEq, exists_eq_left', Json.item_arr_eq_ok,
          pure_eq_ok, Prod.mk.injEq] at h
        obtain ⟨eirp, heirp, ⟨cs', es'⟩, hoverlay, rfl, rfl⟩ := h
        obtain ⟨kept, hsub, rfl, rfl⟩ := ih (idx + 1) hnext hoverlay
        have hhere : entries[idx]? = some e := by
          rw [← List.head?_drop, hrest]
          rfl
        rw [List.getElem?_map, hhere, Option.map_some, Option.some.injEq] at heirp
        subst heirp
        exact ⟨e :: kept, hsub.cons_cons e, rfl, rfl⟩
      · obtain ⟨kept, hsub, hcs, hes⟩ := ih (idx + 1) hnext h
        exact ⟨kept, hsub.cons e, hcs, hes⟩

/-- What is left of an item that lists entries lists some of them, in order. -/
theorem filterChannelItem_entries {dict : List (Key × Json)} {item item' : Json}
    {entries : List (Int × ℚ)} (hentries : ListsEntries item entries)
    (h : filterChannelItem dict item = .ok (some item')) :
    ∃ kept : List (Int × ℚ), kept.Sublist entries ∧ ListsEntries item' kept := by
  obtain ⟨hcfis, heirps⟩ := hentries
  simp only [filterChannelItem, bind_eq_ok] at h
  obtain ⟨operClass, -, k, -, h⟩ := h
  cases hlookup : dict.lookup k with
  | none => simp [hlookup] at h
  | some inquired =>
      simp only [hlookup, bind_eq_ok, hcfis, Except.ok.injEq, exists_eq_left', Json.iter] at h
      obtain ⟨keys, -, h⟩ := h
      split at h
      · simp only [bind_eq_ok] at h
        obtain ⟨elems, -, req, -, h⟩ := h
        split at h
        · simp only [bind_eq_ok, pure_eq_ok, Except.ok.injEq, Option.some.injEq] at h
          obtain ⟨⟨cs, es⟩, hoverlay, cut, hcut, cut', hcut', rfl⟩ := h
          obtain ⟨kept, hsub, rfl, rfl⟩ := overlay_entries heirps entries 0 rfl hoverlay
          refine ⟨kept, hsub, ?_, ?_⟩
          · rw [Json.field_setField hcut', if_neg (by decide), Json.field_setField hcut, if_pos rfl]
          · rw [Json.field_setField hcut', if_pos rfl]
        · exact absurd h (by simp)
      · simp only [pure_eq_ok, Except.ok.injEq, Option.some.injEq] at h
        subst h
        exact ⟨entries, List.Sublist.refl _, hcfis, heirps⟩

/-- The script finds a channel's limit, whichever item it comes to first, when
the limits listed for the channel are all the same. -/
theorem getChannelMaxEirp_of_same {items : List Json} {cfi : Int} {eirp : ℚ}
    (hmem : ∃ item ∈ items, ∃ entries, ListsEntries item entries ∧ (cfi, eirp) ∈ entries)
    (hsame : ∀ item ∈ items, ∃ entries, ListsEntries item entries ∧
      ∀ e ∈ entries, e.1 = cfi → e.2 = eirp) :
    getChannelMaxEirp cfi (items.map AvailableChannelInfo.ofJson) = .ok (some eirp) := by
  induction items with
  | nil =>
      obtain ⟨item, hnil, -⟩ := hmem
      exact absurd hnil List.not_mem_nil
  | cons item items ih =>
      obtain ⟨entries, hentries, hlimit⟩ := hsame item List.mem_cons_self
      have hread := ofJson_listsEntries hentries
      rw [List.map_cons, hread]
      unfold getChannelMaxEirp
      simp only [listing, key, ok_bind]
      by_cases hin : (cfi : ℚ) ∈ entries.map fun e => (e.1 : ℚ)
      · -- the position of the channel is that of an entry for it
        rw [if_pos hin]
        have hlt := List.idxOf_lt_length_of_mem hin
        have hfound := List.getElem_idxOf hlt
        rw [List.getElem_map] at hfound
        rw [List.length_map] at hlt
        have heirp := hlimit _ (List.getElem_mem hlt) (by exact_mod_cast hfound)
        rw [List.getElem?_map, List.getElem?_eq_getElem hlt, Option.map_some, heirp]
        rfl
      · rw [if_neg hin]
        obtain ⟨item', hitem', entries', hentries', hmem⟩ := hmem
        obtain rfl | hrest := List.mem_cons.mp hitem'
        · -- an item lists its entries and no others
          rw [ofJson_listsEntries hentries', listing, listing, AvailableChannelInfo.mk.injEq,
            Option.some.injEq] at hread
          rw [← hread.1] at hin
          exact absurd (List.mem_map.mpr ⟨_, hmem, rfl⟩) hin
        · exact ih ⟨item', hrest, entries', hentries', hmem⟩ fun item'' hitem'' =>
            hsame item'' (List.mem_cons_of_mem _ hitem'')

/-- The power a limit comes to at a width, as the simulator writes it. -/
def powerAt (bw : Bandwidth) (q : ℚ) : ℚ :=
  let eirp := round1 (q + tenLog10 bw)
  if 36 < eirp then 36 else eirp

theorem wideEntry_eq {ch : Int} (hq : getMinMaxpsdByBw mask ch bw = some q) (hzero : q ≠ 0) :
    wideEntry mask bw ch = some (ch, powerAt bw q) := by
  unfold wideEntry
  rw [hq]
  simp only [hzero, if_false]
  rfl

/-- No centre is one of two widths. -/
theorem cfis_disjoint {countryCode : Json} {p : CountryParam}
    (hp : countryParam countryCode = .ok p) {bw' : Bandwidth} (h : cfi ∈ p.cfis bw)
    (h' : cfi ∈ p.cfis bw') : bw = bw' := by
  revert cfi
  rcases countryParam_cases hp with rfl | rfl <;> cases bw <;> cases bw' <;> decide

/-- All a vector lists for a picked centre is the power of its lowest limit. -/
theorem eirp_of_bwEntries {countryCode : Json} {p : CountryParam}
    (hp : countryParam countryCode = .ok p) (hcfi : cfi ∈ p.cfis bw)
    (hkeys : cfi ∉ mask.map (·.1)) (hq : getMinMaxpsdByBw mask cfi bw = some q) (hzero : q ≠ 0)
    {bw' : Bandwidth} {e : Int × ℚ} (he : e ∈ bwEntries p mask bw') (hch : e.1 = cfi) :
    e.2 = powerAt bw q := by
  have hwide : e ∈ wideMask p mask bw' → e.2 = powerAt bw q := by
    intro hmem
    obtain ⟨ch, hlisted, hentry⟩ := List.mem_filterMap.mp hmem
    have hsame : ch = cfi := (wideEntry_fst hentry).symm.trans hch
    subst hsame
    obtain rfl := cfis_disjoint hp hcfi hlisted
    rw [wideEntry_eq hq hzero, Option.some.injEq] at hentry
    rw [← hentry]
  cases bw' with
  | bw20 =>
      -- the list for 20 MHz has the channels of the mask and no others
      obtain ⟨e', he', rfl⟩ := List.mem_map.mp he
      exact absurd (hch ▸ List.mem_map_of_mem he') hkeys
  | bw40 => exact hwide he
  | bw80 => exact hwide he
  | bw160 => exact hwide he
  | bw320 => exact hwide he

/-! ## What is read of a sent response -/

section Sent

variable {vectors sent resp : Json} {inq : Inquiry} {now : String} {scriptTestVector : Int}
  {p : CountryParam}

theorem respAvailFreqInfo_readSent (h : firstResponse sent = .ok resp) :
    (new (readSent sent) none).respAvailFreqInfo =
      ((itemsOf resp "availableFrequencyInfo").getD []).map .ofJson := by
  unfold readSent
  rw [h]
  show ((itemsOf resp "availableFrequencyInfo").map
    (·.map AvailableFrequencyInfo.ofJson)).getD [] = _
  cases itemsOf resp "availableFrequencyInfo" with
  | none => rfl
  | some items => rfl

theorem respAvailChanInfo_readSent (h : firstResponse sent = .ok resp) :
    (new (readSent sent) none).respAvailChanInfo =
      ((itemsOf resp "availableChannelInfo").getD []).map .ofJson := by
  unfold readSent
  rw [h]
  show ((itemsOf resp "availableChannelInfo").map (·.map AvailableChannelInfo.ofJson)).getD [] = _
  cases itemsOf resp "availableChannelInfo" with
  | none => rfl
  | some items => rfl

theorem sentMember_iff (h : firstResponse sent = .ok resp) {name : String} {item : Json} :
    SentMember sent name item ↔ item ∈ (itemsOf resp name).getD [] := by
  unfold SentMember
  simp only [h, Except.ok.injEq, exists_eq_left', mem_itemsOf]

theorem sent_entries
    (hvectors : vectors.field "responses" =
      .ok (randomDocument (randomResponse scriptTestVector p mask)))
    (hsent : successResponse vectors inq now = .ok sent) {item : Json}
    (hitem : SentMember sent "availableChannelInfo" item) :
    ∃ bw' kept, kept.Sublist (bwEntries p mask bw') ∧ ListsEntries item kept := by
  obtain ⟨old, hold, hkeep⟩ := (sentMember_channels hsent item).mp hitem
  obtain ⟨-, bw', rfl⟩ := (vectorMember_channels_random hvectors).mp hold
  have hentries : ListsEntries (chanInfoItem bw' (bwEntries p mask bw')) (bwEntries p mask bw') :=
    ⟨rfl, rfl⟩
  obtain ⟨kept, hsub, hlists⟩ := filterChannelItem_entries hentries hkeep
  exact ⟨bw', kept, hsub, hlists⟩

/-- The limit of a picked centre in the response is the power of the lowest
limit that was drawn. -/
theorem getChannelMaxEirp_sent {countryCode : Json} (hp : countryParam countryCode = .ok p)
    (hvectors : vectors.field "responses" =
      .ok (randomDocument (randomResponse scriptTestVector p mask)))
    (hsent : successResponse vectors inq now = .ok sent) (hcfi : cfi ∈ p.cfis bw)
    (hkeys : cfi ∉ mask.map (·.1)) (hq : getMinMaxpsdByBw mask cfi bw = some q) (hzero : q ≠ 0)
    (hoffers : ∃ eirp, Offers (SentMember sent) (.num bw.opClass) (.num cfi) eirp) :
    getChannelMaxEirp cfi (new (readSent sent) none).respAvailChanInfo =
      .ok (some (powerAt bw q)) := by
  obtain ⟨-, -, -, resp, -, -, -, hfirst⟩ := successResponse_eq_ok hsent
  rw [respAvailChanInfo_readSent hfirst]
  refine getChannelMaxEirp_of_same ?_ fun item hitem => ?_
  · obtain ⟨eirp, item, hitem, -, pairs, ch, hpairs, hpair, hkey⟩ := hoffers
    obtain ⟨bw', kept, hsub, hlists⟩ := sent_entries hvectors hsent hitem
    refine ⟨item, (sentMember_iff hfirst).mp hitem, kept, hlists, ?_⟩
    rw [itemPairs_listsEntries hlists, Except.ok.injEq] at hpairs
    subst hpairs
    obtain ⟨e, he, heq⟩ := List.mem_map.mp hpair
    obtain ⟨rfl, rfl⟩ := Prod.mk.inj heq
    have hch : e.1 = cfi := num_key_injective hkey
    have heirp := eirp_of_bwEntries hp hcfi hkeys hq hzero (hsub.subset he) hch
    rwa [← hch, ← heirp]
  · obtain ⟨bw', kept, hsub, hlists⟩ :=
      sent_entries hvectors hsent ((sentMember_iff hfirst).mpr hitem)
    refine ⟨kept, hlists, fun e he hch => ?_⟩
    exact eirp_of_bwEntries hp hcfi hkeys hq hzero (hsub.subset he) hch

/-- A response that was cut down to what was inquired still grants the block of
a pick, and its limit around the pick is the lowest that was drawn. -/
theorem spLimit_sent {req : Json} (hreads : Reads req inq)
    (htv : scriptTestVector = 1 ∨ scriptTestVector = 3)
    (hvectors : vectors.field "responses" =
      .ok (randomDocument (randomResponse scriptTestVector p mask)))
    (hsent : successResponse vectors inq now = .ok sent)
    (hsub : ∀ ch ∈ subChannels bw cfi, ch ∈ mask.map (·.1))
    (hwithin : ∀ ch ∈ subChannels bw cfi,
      ∃ ranges, inquiredRanges req = .ok ranges ∧ SegmentWithin ch ranges)
    (hq : getMinMaxpsdByBw mask cfi bw = some q) :
    (new (readSent sent) none).spLimit (5950 + 5 * cfi) bw.mhz = .ok (some q) := by
  obtain ⟨-, -, -, resp, -, -, -, hfirst⟩ := successResponse_eq_ok hsent
  obtain ⟨-, hranges⟩ := exact_parts hreads hsent
  -- the grants that are left are those within an inquired range
  have hmem : ∀ item, item ∈ (itemsOf resp "availableFrequencyInfo").getD [] ↔
      (∃ e ∈ mask, item = segmentItem (e.1, e.2.maxPsd)) ∧
        ∃ ranges, inquiredRanges req = .ok ranges ∧ WithinRange item ranges := by
    intro item
    rw [← sentMember_iff hfirst, hranges, vectorMember_ranges_random hvectors]
    exact and_congr_left fun _ => and_iff_right htv
  obtain ⟨ss, hread, hss⟩ := exists_segments fun item hitem => by
    obtain ⟨⟨e, -, rfl⟩, -⟩ := (hmem item).mp hitem
    exact ⟨_, rfl⟩
  have hlimit : limitAt (ss.map segment) (5950 + 5 * cfi) bw.mhz = some q := by
    refine limitAt_drawn (fun s => ?_) hsub hwithin hq
    rw [hss, hmem]
    refine and_congr ?_ ?_
    · simp only [segmentItem_injective.eq_iff]
    · have hsegment : SegmentItem s.1 (segmentItem s) := segmentItem_freqInfoItem s.1 s.2
      simp only [withinRange_iff hsegment]
  have hspLimit := spLimit_offered ((respAvailFreqInfo_readSent hfirst).trans hread)
    ((5950 + 5 * cfi : Int) : ℚ) ((bw.mhz : Int) : ℚ)
  unfold limitAt at hlimit
  rw [hlimit] at hspLimit
  push_cast at hspLimit
  exact hspLimit

end Sent

/-! ## What is drawn -/

theorem round1_intCast (n : Int) : round1 n = n := by
  have hfloor : ⌊(n : ℚ) * 10⌋ = n * 10 := by
    have hint : (n : ℚ) * 10 = ((n * 10 : Int) : ℚ) := by push_cast; rfl
    rw [hint, Int.floor_intCast]
  unfold round1 roundHalfEven
  rw [hfloor]
  push_cast
  rw [sub_self, if_pos (by norm_num)]
  linarith

/-- No limit below -5 dBm/MHz is drawn. -/
theorem le_drawPsd {countryCode : Json} {p : CountryParam} (hp : countryParam countryCode = .ok p)
    (channelWidth : Json) (differenceLastPicks : Bool) (d : Draws) (i : Nat) :
    -5 ≤ drawPsd p channelWidth differenceLastPicks d i := by
  have hround : ∀ {q : ℚ}, -5 ≤ q → -5 ≤ round1 q := by
    intro q hq
    have hle := round1_mono hq
    have hfive := round1_intCast (-5)
    push_cast at hfive
    rwa [hfive] at hle
  obtain ⟨hpsdMin, hpsdMax⟩ := psd_range hp
  unfold drawPsd
  split
  · have hwide : ∀ {low : ℚ}, -5 ≤ low →
        -5 ≤ round1 (uniform low (low + 10) (d.random (2 * i + 1))) := by
      intro low hlow
      exact hround (hlow.trans (le_uniform (by linarith) (d.random_nonneg _)))
    cases differenceLastPicks with
    | false =>
        have hmin : (5 : ℚ) ≤ uniform 5 15 (d.random (2 * i)) :=
          le_uniform (by norm_num) (d.random_nonneg _)
        exact hwide (le_trans (by norm_num) hmin)
    | true => exact hwide (le_uniform (by norm_num) (d.random_nonneg _))
  · rw [hpsdMin, hpsdMax]
    have hmin : (8 : ℚ) ≤ uniform 8 22 (d.random (2 * i)) :=
      le_uniform (by norm_num) (d.random_nonneg _)
    exact hround (by linarith)

/-- A limit that is drawn comes to more than 0 dBm. -/
theorem powerAt_pos (hq : -5 ≤ q) : 0 < powerAt bw q := by
  have hten : (13 : ℚ) ≤ tenLog10 bw := by
    cases bw <;> norm_num [tenLog10]
  have hle : round1 ((1 : Int) : ℚ) ≤ round1 (q + tenLog10 bw) := round1_mono (by
    push_cast
    linarith)
  rw [round1_intCast] at hle
  unfold powerAt
  dsimp only
  split
  · norm_num
  · push_cast at hle
    linarith

section Test

variable {files : TestFiles} (test : RandomTest files)

/-- The lowest limit that was drawn for the channels of a pick. -/
def LowestDrawn (cfi : Int) (q : ℚ) : Prop :=
  IsLeast {psd | ∃ e ∈ test.mask, e.1 ∈ subChannels test.bw cfi ∧ e.2.maxPsd = psd} q

/-- The channels of the mask are 20 MHz channels, those of its entries. -/
theorem mask_grid {p : CountryParam} {chans : List Int}
    (hp : countryParam test.arrival.countryCode = .ok p)
    (hchans : randomChanBw20 { test.arrival with
      randomPicks := nextPicks test.arrival test.covered test.phase.d } p = .ok chans)
    (hmask : test.mask = randomMask (drawPsd p test.arrival.channelWidth
      test.arrival.differenceLastPicks test.phase.d) chans) :
    ∀ ch ∈ test.mask.map (·.1), ch % 4 = 1 := by
  intro ch hch
  obtain ⟨-, hdrawn⟩ := randomChanBw20_eq_ok
    (g := { test.arrival with
      randomPicks := nextPicks test.arrival test.covered test.phase.d })
    (unbuilt_arrival test).power (width_arrival test) hchans
  rw [hmask, randomMask_keys.2] at hch
  obtain ⟨pick, hpick, cfi, hkey, hsub⟩ := hdrawn ch hch
  have hcfi : test.Picks cfi := mem_cfiSet.mpr (hkey ▸ List.mem_map_of_mem hpick)
  exact subChannels_grid hp (picks_country test hp hcfi) ch hsub

/-- The centre of a wide channel is no 20 MHz channel. -/
theorem pick_not_drawn {p : CountryParam} (hp : countryParam test.arrival.countryCode = .ok p)
    (hgrid : ∀ ch ∈ test.mask.map (·.1), ch % 4 = 1) (hcfi : cfi ∈ p.cfis test.bw) :
    cfi ∉ test.mask.map (·.1) := by
  intro hmem
  have hch := hgrid cfi hmem
  have hcentre := cfis_grid hp test.bw cfi hcfi
  rcases test.wide with hbw | hbw | hbw <;> rw [hbw] at hcentre <;>
    simp only [Bandwidth.mhz] at hcentre <;> omega

/-- The lowest limit of a pick was drawn. -/
theorem le_lowestDrawn {p : CountryParam} {chans : List Int}
    (hp : countryParam test.arrival.countryCode = .ok p)
    (hmask : test.mask = randomMask (drawPsd p test.arrival.channelWidth
      test.arrival.differenceLastPicks test.phase.d) chans) (hq : LowestDrawn test cfi q) :
    -5 ≤ q := by
  obtain ⟨⟨e, he, -, rfl⟩, -⟩ := hq
  rw [hmask] at he
  obtain ⟨i, hi⟩ := mem_randomMask e he
  rw [hi]
  exact le_drawPsd hp _ _ _ i

/-- The response is a success, and what it says at a pick is the lowest limit
drawn for the pick and its power. -/
theorem pick_limits (hadmits : AdmitsPicks test) {inq : Inquiry}
    (hval : (validate test.arrival test.phase.r test.phase.d).2 = .accepted inq) (now : String) :
    ∃ sent, (respond test.built inq now).2 = .success sent ∧
      ∀ cfi, test.Picks cfi → ∃ q, LowestDrawn test cfi q ∧
        (ByFrequency test.arrival →
          (new (readSent sent) none).spLimit (5950 + 5 * cfi) test.bw.mhz = .ok (some q)) ∧
        (ByChannel test.arrival →
          getChannelMaxEirp cfi (new (readSent sent) none).respAvailChanInfo =
              .ok (some (powerAt test.bw q)) ∧ powerAt test.bw q ≠ 0) := by
  obtain ⟨-, p, chans, hp, hchans, hmask, hvectors⟩ := built_spec test hval
  obtain ⟨-, hspec⟩ := picks_spec test hp hchans hmask
  obtain ⟨hreads, hsuccess⟩ := request_spec test hval
  have hwf : WellFormed test.built.vectors := RandomBuilt.wellFormed ⟨p, test.mask, hvectors⟩
  obtain ⟨sent, hsent⟩ : ∃ sent, successResponse test.built.vectors inq now = .ok sent := by
    refine (hsuccess hwf).mpr ⟨hadmits.certified, fun k hk => ?_⟩
    obtain ⟨hby, bw, rfl⟩ := (offersClass_random hvectors).mp hk
    exact hadmits.readable hby bw
  refine ⟨sent, respond_success_iff.mpr hsent, fun cfi hpick => ?_⟩
  obtain ⟨hcfi, hsub, q, hq⟩ := hspec cfi hpick
  have hlowest : LowestDrawn test cfi q := isLeast_block hsub hq
  refine ⟨q, hlowest, fun hby => ?_, fun hby => ?_⟩
  · exact spLimit_sent hreads hby hvectors hsent hsub (hadmits.within hby cfi hpick) hq
  · -- the response offers the pick, with the power of its lowest limit
    have hoffers := ((offersPick_iff test hvectors hreads hsent hcfi hsub ⟨q, hq⟩).mpr
      ⟨fun _ => ⟨hadmits.listed hby cfi hpick, hadmits.audible hby cfi hpick⟩,
        fun hby' => hadmits.within hby' cfi hpick⟩).channel hby
    have hzero : q ≠ 0 := by
      rintro rfl
      exact hadmits.audible hby cfi hpick hq
    have hkeys := pick_not_drawn test hp (mask_grid test hp hchans hmask) hcfi
    have hpos : 0 < powerAt test.bw q := powerAt_pos (le_lowestDrawn test hp hmask hlowest)
    exact ⟨getChannelMaxEirp_sent hp hvectors hsent hcfi hkeys hq hzero hoffers, hpos.ne'⟩

end Test

/-- **Limits.** In a random test whose inquiry admits what is picked for it,
the limits the script reads at a pick are the lowest limit that was drawn for
its channels, and the power that comes to at the pick's width. -/
theorem limits_drawn {files : TestFiles} (test : RandomTest files) (hadmits : AdmitsPicks test)
    {inq : Inquiry} (hval : (validate test.arrival test.phase.r test.phase.d).2 = .accepted inq)
    (now : String) :
    ∃ sent, (respond test.built inq now).2 = .success sent ∧
      ∀ cfi, test.Picks cfi → ∃ q, LowestDrawn test cfi q ∧
        (ByFrequency test.arrival →
          limitsByFreq (readSent sent) test.bw.mhz cfi = .ok (.psd (some q))) ∧
        (ByChannel test.arrival →
          limitsByChan (readSent sent) cfi = .ok (.eirp (some (powerAt test.bw q)))) := by
  obtain ⟨sent, hsent, hlimits⟩ := pick_limits test hadmits hval now
  refine ⟨sent, hsent, fun cfi hpick => ?_⟩
  obtain ⟨q, hlowest, hfreq, hchan⟩ := hlimits cfi hpick
  refine ⟨q, hlowest, fun hby => ?_, fun hby => ?_⟩
  · exact limitsByFreq_iff.mpr ⟨some q, hfreq hby, rfl⟩
  · obtain ⟨heirp, hzero⟩ := hchan hby
    exact limitsByChan_iff.mpr ⟨_, heirp, by rw [RfMeasurementValidation.nonzero, if_neg hzero]⟩

theorem call_first : RandomCall (randomCall (some 1) false) := randomCall_call (some 1) false

theorem wide_80 : Bandwidth.bw80 = .bw80 ∨ Bandwidth.bw80 = .bw160 ∨ Bandwidth.bw80 = .bw320 :=
  .inl rfl

theorem width_first : (configured Sys.init (randomCall (some 1) false)).g.channelWidth.key? =
    some (.num Bandwidth.bw80.mhz) := rfl

/-- Four channels of 80 MHz are inquired, and two picked. -/
def firstTest : RandomTest fun _ _ => .absent where
  start := Sys.init
  tc := randomCall (some 1) false
  call := call_first
  bw := .bw80
  wide := wide_80
  width := width_first
  phase := firstPhase

theorem entries_first : inquiredEntries firstTest.request =
    .ok [(.num 133, .arr [.int 7, .int 23, .int 39, .int 55])] := rfl

theorem drawn_first : firstTest.covered ≠ [] ∧
    nextPicks firstTest.arrival firstTest.covered firstTest.phase.d = [.int 7, .int 23] ∧
    (∀ e ∈ firstTest.mask, e.2.maxPsd = 8) ∧ powerAt firstTest.bw 8 = 27 := by
  decide +kernel

theorem picks_first {cfi : Int} : firstTest.Picks cfi ↔ cfi = 7 ∨ cfi = 23 := by
  unfold RandomTest.Picks
  rw [drawn_first.2.1, mem_cfiSet, List.map_cons, List.map_cons, List.map_nil, List.mem_cons,
    List.mem_singleton]
  refine or_congr ⟨num_key_injective, ?_⟩ ⟨num_key_injective, ?_⟩
  · rintro rfl
    rfl
  · rintro rfl
    rfl

theorem admits_first : AdmitsPicks firstTest where
  certified := ⟨[certUS], rfl, List.cons_ne_nil _ _⟩
  covers := drawn_first.1
  fresh := fun h => absurd h Bool.false_ne_true
  readable := by
    intro _ bw entries value hentries hlookup _
    rw [entries_first, Except.ok.injEq] at hentries
    subst hentries
    rw [List.reverse_singleton, Json.lookup_cons_ite] at hlookup
    split at hlookup
    · obtain rfl := Option.some.inj hlookup
      exact ⟨_, rfl, by simp [Json.key?]⟩
    · exact absurd hlookup (by simp)
  listed := by
    intro _ cfi hcfi
    refine ⟨_, _, entries_first, rfl, .inr ⟨_, rfl, ?_⟩⟩
    rcases picks_first.mp hcfi with rfl | rfl <;> simp [Json.key?]
  audible := fun _ cfi _ => audible_of_drawn firstTest (fun h => absurd h.1 (by decide)) cfi
  within := fun hby => absurd hby (by unfold ByFrequency; decide)

theorem lowest_first {cfi : Int} {q : ℚ} (h : LowestDrawn firstTest cfi q) : q = 8 := by
  obtain ⟨⟨e, he, -, rfl⟩, -⟩ := h
  exact drawn_first.2.2.1 e he

theorem limits_drawn_first : ∃ inq sent, (respond firstTest.built inq "now").2 = .success sent ∧
    limitsByChan (readSent sent) 23 = .ok (.eirp (some 27)) := by
  obtain ⟨inq, hval⟩ := firstTest.phase.accepts
  obtain ⟨sent, hsent, hlimits⟩ := limits_drawn firstTest admits_first hval "now"
  obtain ⟨q, hlowest, -, hchan⟩ := hlimits 23 (picks_first.mpr (.inr rfl))
  have hlimit := hchan (.inl rfl)
  rw [lowest_first hlowest, drawn_first.2.2.2] at hlimit
  exact ⟨inq, sent, hsent, hlimit⟩

/-- **Drawn to judged.** A random test by channel passes a device at a pick,
with an automatic tester and the neighbours scanned, exactly when the device
was heard there and never above the power of the lowest limit that was drawn. -/
theorem passes_drawn_iff {files : TestFiles} (test : RandomTest files)
    (hadmits : AdmitsPicks test) (hby : ByChannel test.arrival) {inq : Inquiry}
    (hval : (validate test.arrival test.phase.r test.phase.d).2 = .accepted inq) (now : String)
    (t : RfTester) (format : FreqFormat) (air : Int → Int → Air) (rfReportFile : String)
    (desc : PowerValidDesc) :
    ∃ sent, (respond test.built inq now).2 = .success sent ∧
      ∀ cfi opChannel isCfi, test.Picks cfi →
        operatingCfi opChannel test.bw.mhz isCfi = .ok (some cfi) →
        ThreeFrequencies cfi test.bw.mhz → ∃ q, LowestDrawn test cfi q ∧
          (((validateRfMeasurementByChan (listening t format air) (readSent sent) opChannel
              rfReportFile test.bw.mhz isCfi).outcome desc).1 = .ok true ↔
            t.files = .ok () ∧ (air cfi test.bw.mhz).packets ≠ [] ∧
              ∀ packet ∈ (air cfi test.bw.mhz).packets,
                (packet (5950 + 5 * cfi)).channelPowerDbm.value ≤ powerAt test.bw q) := by
  obtain ⟨sent, hsent, hlimits⟩ := pick_limits test hadmits hval now
  refine ⟨sent, hsent, fun cfi opChannel isCfi hpick hcentre hthree => ?_⟩
  obtain ⟨q, hlowest, -, hchan⟩ := hlimits cfi hpick
  obtain ⟨hlisted, hzero⟩ := hchan hby
  refine ⟨q, hlowest, ?_⟩
  unfold validateRfMeasurementByChan
  simp only [validateRfMeasurementByChan_eq]
  rw [validateRfMeasurement_iff (by simp)]
  constructor
  · rintro ⟨cfi', quoted, hjudged⟩
    obtain ⟨limit, h⟩ := heardWithinEirp_of_judged hcentre hthree hjudged
    -- the limit the device was held to is the one that was drawn
    have hlimit := h.listed
    rw [hlisted, Except.ok.injEq, Option.some.injEq] at hlimit
    subst hlimit
    exact ⟨h.files, h.heard, h.power⟩
  · rintro ⟨hfiles, hheard, hpower⟩
    have h : HeardWithinEirp t air (readSent sent) cfi test.bw.mhz (powerAt test.bw q) :=
      ⟨hfiles, hlisted, hzero, hheard, hpower⟩
    exact ⟨cfi, _, h.judged hcentre hthree⟩

theorem three_23 : ThreeFrequencies 23 80 := by
  refine ⟨?_, ?_, by decide⟩ <;> norm_num [lowerChan, higherChan]

theorem passes_drawn_first : ∃ inq sent, (respond firstTest.built inq "now").2 = .success sent ∧
    ((validateRfMeasurementByChan (listening quietFiles decimal fun _ _ => pulse) (readSent sent) 23
      "rfMeasurementReport_step_6.json" 80 true).outcome none).1 = .ok true := by
  obtain ⟨inq, hval⟩ := firstTest.phase.accepts
  obtain ⟨sent, hsent, hpasses⟩ := passes_drawn_iff firstTest admits_first (.inl rfl) hval "now"
    quietFiles decimal (fun _ _ => pulse) "rfMeasurementReport_step_6.json" none
  obtain ⟨q, hlowest, hiff⟩ := hpasses 23 23 true (picks_first.mpr (.inr rfl)) rfl three_23
  refine ⟨inq, sent, hsent, hiff.mpr ⟨rfl, by rw [pulse_packets]; simp, fun packet hpacket => ?_⟩⟩
  rw [pulse_packets, List.mem_singleton] at hpacket
  rw [lowest_first hlowest, drawn_first.2.2.2, hpacket]
  show (0 : ℚ) ≤ 27
  norm_num

end AfcDut.Analyzer.Theorems.Drawn
