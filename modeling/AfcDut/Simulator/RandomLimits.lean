import AfcDut.Simulator.RandomOffers
import AfcDut.Simulator.Phases
import AfcDut.Simulator.Picks
import Mathlib.Order.Bounds.Basic

/-!
# The limits of a random vector

The mask holds, for each drawn channel, the limit drawn for it last. All drawn
channels have one remainder by four, so the count in `get_min_maxpsd_by_bw` is
right just when every 20 MHz channel of the CFI is drawn, and the minimum it
takes is the lowest of their limits.
-/

namespace AfcDut.Simulator

open Py Service

/-! ## The limit of a channel -/

/-- The limit drawn last for a channel. -/
def lastDrawn (psd : Nat → ℚ) (chans : List Int) (ch : Int) : Option ℚ :=
  (chans.zipIdx.reverse.lookup ch).map psd

section Limits

variable {psd : Nat → ℚ} {chans : List Int}

theorem lookup_map_snd {κ υ ω : Type} [DecidableEq κ] (f : υ → ω) (entries : List (κ × υ)) (k : κ) :
    (entries.map fun e => (e.1, f e.2)).lookup k = (entries.lookup k).map f := by
  induction entries with
  | nil => rfl
  | cons e entries ih =>
      rw [List.map_cons, Json.lookup_cons_ite, Json.lookup_cons_ite]
      split
      · rfl
      · exact ih

theorem lookup_randomMask (ch : Int) :
    (randomMask psd chans).lookup ch = (lastDrawn psd chans ch).map maskEntry := by
  have hfold : randomMask psd chans =
      (chans.zipIdx.map fun e => (e.1, maskEntry (psd e.2))).foldl
        (fun dict entry => Json.assign dict entry.1 entry.2) [] := by
    rw [List.foldl_map]
    rfl
  have hmap := lookup_map_snd (fun i => maskEntry (psd i)) chans.zipIdx.reverse ch
  rw [hfold, Json.lookup_foldl_assign, List.lookup_nil, Option.or_none, ← List.map_reverse, hmap,
    lastDrawn, Option.map_map]
  rfl

/-- In a dictionary an entry is what the look-up of its key gives. -/
theorem mem_iff_lookup {κ υ : Type} [DecidableEq κ] {dict : List (κ × υ)}
    (h : (dict.map (·.1)).Nodup) (e : κ × υ) : e ∈ dict ↔ dict.lookup e.1 = some e.2 := by
  induction dict with
  | nil => simp
  | cons x dict ih =>
      rw [List.map_cons, List.nodup_cons] at h
      rw [Json.lookup_cons_ite, List.mem_cons]
      by_cases hkey : e.1 = x.1
      · rw [if_pos hkey, Option.some.injEq]
        constructor
        · intro hmem
          rcases hmem with rfl | hmem
          · rfl
          · exact absurd (List.mem_map_of_mem hmem) (hkey ▸ h.1)
        · intro hval
          exact .inl (Prod.ext hkey hval.symm)
      · rw [if_neg hkey, ← ih h.2]
        constructor
        · intro hmem
          rcases hmem with rfl | hmem
          · exact absurd rfl hkey
          · exact hmem
        · exact .inr

theorem mem_randomMask_iff (e : Int × MaskEntry) :
    e ∈ randomMask psd chans ↔ ∃ q, lastDrawn psd chans e.1 = some q ∧ e.2 = maskEntry q := by
  rw [mem_iff_lookup randomMask_keys.1, lookup_randomMask, Option.map_eq_some_iff]
  exact exists_congr fun q => and_congr_right fun _ => eq_comm

theorem mem_keys_iff (ch : Int) :
    ch ∈ (randomMask psd chans).map (·.1) ↔ ∃ q, lastDrawn psd chans ch = some q := by
  rw [List.mem_map]
  constructor
  · intro h
    obtain ⟨e, he, rfl⟩ := h
    obtain ⟨q, hq, _⟩ := (mem_randomMask_iff e).mp he
    exact ⟨q, hq⟩
  · intro h
    obtain ⟨q, hq⟩ := h
    exact ⟨(ch, maskEntry q), (mem_randomMask_iff _).mpr ⟨q, hq, rfl⟩, rfl⟩

/-- A limit is one that was drawn. -/
theorem lastDrawn_eq_some {ch : Int} {q : ℚ} (h : lastDrawn psd chans ch = some q) :
    ∃ i, psd i = q := by
  obtain ⟨i, _, hi⟩ := Option.map_eq_some_iff.mp h
  exact ⟨i, hi⟩

end Limits

/-! ## The count -/

section Count

variable {mask : List (Int × MaskEntry)} {bw : Bandwidth} {cfi : Int}

/-- The entries `get_min_maxpsd_by_bw` looks at. -/
def window (mask : List (Int × MaskEntry)) (cfi : Int) (bw : Bandwidth) : List (Int × MaskEntry) :=
  mask.filter fun e => (cfi : ℚ) - ((bw.mhz : ℚ) / 10 - 2) ≤ e.1 ∧
    (e.1 : ℚ) ≤ cfi + ((bw.mhz : ℚ) / 10 - 2)

theorem count_cast : ((bw.mhz / 20 : Nat) : ℚ) = (bw.mhz : ℚ) / 20 := by
  cases bw <;> simp only [Bandwidth.mhz] <;> norm_num

theorem getMinMaxpsdByBw_eq (mask : List (Int × MaskEntry)) (cfi : Int) (bw : Bandwidth) :
    getMinMaxpsdByBw mask cfi bw =
      if (window mask cfi bw).length = bw.mhz / 20 then
        ((window mask cfi bw).map (·.2.maxPsd)).min? else none := by
  have hcount : (((window mask cfi bw).map (·.2.maxPsd)).length : ℚ) = (bw.mhz : ℚ) / 20 ↔
      (window mask cfi bw).length = bw.mhz / 20 := by
    rw [← count_cast, List.length_map]
    exact Nat.cast_inj
  show (if (((window mask cfi bw).map (·.2.maxPsd)).length : ℚ) = (bw.mhz : ℚ) / 20 then _
    else none) = _
  simp only [hcount]
  rfl

theorem mem_window (e : Int × MaskEntry) :
    e ∈ window mask cfi bw ↔
      e ∈ mask ∧ cfi - (bw.mhz / 10 - 2) ≤ e.1 ∧ e.1 ≤ cfi + (bw.mhz / 10 - 2) := by
  unfold window
  rw [List.mem_filter, decide_eq_true_eq, halfWidth_cast]
  refine and_congr_right fun _ => and_congr ?_ ?_
  · exact_mod_cast Iff.rfl
  · exact_mod_cast Iff.rfl

theorem length_range_four (start stop : Int) :
    (range start stop 4).length = ((stop - start + 3) / 4).toNat := by
  unfold range
  rw [List.length_map, List.length_range]
  congr 2
  omega

/-- Off the grid of the CFI there is no room for as many channels. -/
theorem length_window_lt {r : Int} (hnodup : (mask.map (·.1)).Nodup)
    (hcfi : (cfi - (bw.mhz / 10 - 2)) % 4 = 1) (hkeys : ∀ e ∈ mask, e.1 % 4 = r) (hr : r ≠ 1) :
    (window mask cfi bw).length < bw.mhz / 20 := by
  obtain ⟨lo, hlo⟩ : ∃ lo, lo = cfi - (bw.mhz / 10 - 2 : Int) := ⟨_, rfl⟩
  have hsub : (window mask cfi bw).map (·.1) ⊆
      range (lo + (r - 1) % 4) (cfi + (bw.mhz / 10 - 2) + 1) 4 := by
    intro x hx
    obtain ⟨e, he, rfl⟩ := List.mem_map.mp hx
    obtain ⟨hmem, hge, hle⟩ := (mem_window e).mp he
    have hres := hkeys e hmem
    rw [mem_range (by decide)]
    omega
  have hnodup' : ((window mask cfi bw).map (·.1)).Nodup :=
    hnodup.sublist (List.filter_sublist.map _)
  have hlength := (hnodup'.subperm hsub).length_le
  rw [List.length_map, length_range_four] at hlength
  have hr4 : (window mask cfi bw).length = 0 ∨ 1 ≤ (r - 1) % 4 := by
    cases hw : window mask cfi bw with
    | nil => exact .inl rfl
    | cons e es =>
        have he : e ∈ mask := ((mem_window e).mp (hw ▸ List.mem_cons_self)).1
        have hres := hkeys e he
        right
        omega
  cases bw <;> simp only [Bandwidth.mhz] at * <;> omega

/-- The window is full just when every 20 MHz channel of the CFI is drawn. -/
theorem length_window_iff {r : Int} (hnodup : (mask.map (·.1)).Nodup)
    (hcfi : (cfi - (bw.mhz / 10 - 2)) % 4 = 1) (hkeys : ∀ e ∈ mask, e.1 % 4 = r) :
    (window mask cfi bw).length = bw.mhz / 20 ↔ ∀ ch ∈ subChannels bw cfi, ch ∈ mask.map (·.1) := by
  have hnodup' : ((window mask cfi bw).map (·.1)).Nodup :=
    hnodup.sublist (List.filter_sublist.map _)
  have hbottom : cfi - (bw.mhz / 10 - 2) ∈ subChannels bw cfi := by
    rw [mem_subChannels]
    cases bw <;> simp only [Bandwidth.mhz] <;> omega
  by_cases hr : r = 1
  · have hgrid : ∀ e ∈ mask, (e.1 - (cfi - (bw.mhz / 10 - 2))) % 4 = 0 := by
      intro e he
      have hres := hkeys e he
      omega
    have hsub : (window mask cfi bw).map (·.1) ⊆ subChannels bw cfi :=
      fun x hx => ((window_keys hgrid x).mp hx).1
    have hsubperm := hnodup'.subperm hsub
    constructor
    · intro hlength ch hch
      have hperm : ((window mask cfi bw).map (·.1)).Perm (subChannels bw cfi) := by
        apply hsubperm.perm_of_length_le
        rw [length_subChannels, List.length_map, hlength]
      exact ((window_keys hgrid ch).mp (hperm.mem_iff.mpr hch)).2
    · intro hall
      have hperm : ((window mask cfi bw).map (·.1)).Perm (subChannels bw cfi) := by
        refine (List.perm_ext_iff_of_nodup hnodup' subChannels_nodup).mpr fun x => ?_
        rw [window, window_keys hgrid]
        exact and_iff_left_of_imp (hall x)
      rw [← length_subChannels, ← hperm.length_eq, List.length_map]
  · constructor
    · intro hlength
      have hlt := length_window_lt hnodup hcfi hkeys hr
      omega
    · intro hall
      obtain ⟨e, he, hkey⟩ := List.mem_map.mp (hall _ hbottom)
      have hres := hkeys e he
      omega

end Count

/-! ## The lowest limit -/

/-- Every 20 MHz channel of the CFI is drawn, and `q` is the lowest of their
limits. -/
structure Lowest (psd : Nat → ℚ) (chans : List Int) (bw : Bandwidth) (cfi : Int) (q : ℚ) :
    Prop where
  drawn : ∀ ch ∈ subChannels bw cfi, ∃ x, lastDrawn psd chans ch = some x
  least : IsLeast {x | ∃ ch ∈ subChannels bw cfi, lastDrawn psd chans ch = some x} q

section Lowest

variable {psd : Nat → ℚ} {chans : List Int} {bw : Bandwidth} {cfi r : Int}

theorem bottom_mem_subChannels : cfi - (bw.mhz / 10 - 2) ∈ subChannels bw cfi := by
  rw [mem_subChannels]
  cases bw <;> simp only [Bandwidth.mhz] <;> omega

/-- The limits in a full window are those of the CFI's channels. -/
theorem mem_window_limits (hchans : ∀ ch ∈ chans, ch % 4 = r)
    (hcfi : (cfi - (bw.mhz / 10 - 2)) % 4 = 1)
    (hdrawn : ∀ ch ∈ subChannels bw cfi, ∃ x, lastDrawn psd chans ch = some x) (x : ℚ) :
    x ∈ (window (randomMask psd chans) cfi bw).map (·.2.maxPsd) ↔
      ∃ ch ∈ subChannels bw cfi, lastDrawn psd chans ch = some x := by
  have hkeys : ∀ e ∈ randomMask psd chans, e.1 % 4 = r := by
    intro e he
    exact hchans _ ((randomMask_keys.2 e.1).mp (List.mem_map_of_mem he))
  -- the lowest channel of the CFI is drawn, so the drawn channels are on its grid
  have hbottom : (cfi - (bw.mhz / 10 - 2)) % 4 = r :=
    hchans _ ((randomMask_keys.2 _).mp ((mem_keys_iff _).mpr (hdrawn _ bottom_mem_subChannels)))
  have hgrid : ∀ e ∈ randomMask psd chans, (e.1 - (cfi - (bw.mhz / 10 - 2))) % 4 = 0 := by
    intro e he
    have hres := hkeys e he
    omega
  constructor
  · intro hx
    obtain ⟨e, he, rfl⟩ := List.mem_map.mp hx
    have hsub := ((window_keys hgrid e.1).mp (List.mem_map_of_mem he)).1
    obtain ⟨q, hq, hentry⟩ := (mem_randomMask_iff e).mp (List.mem_filter.mp he).1
    exact ⟨e.1, hsub, by rw [hq, hentry]; rfl⟩
  · intro hx
    obtain ⟨ch, hch, hq⟩ := hx
    have hmem := (window_keys hgrid ch).mpr ⟨hch, (mem_keys_iff ch).mpr ⟨x, hq⟩⟩
    obtain ⟨e, he, rfl⟩ := List.mem_map.mp hmem
    refine List.mem_map.mpr ⟨e, he, ?_⟩
    obtain ⟨q, hq', hentry⟩ := (mem_randomMask_iff e).mp (List.mem_filter.mp he).1
    rw [hq, Option.some.injEq] at hq'
    rw [hentry, hq']
    rfl

/-- **Minimum.** What `get_min_maxpsd_by_bw` returns is the lowest limit. -/
theorem getMinMaxpsdByBw_eq_some_iff (hchans : ∀ ch ∈ chans, ch % 4 = r)
    (hcfi : (cfi - (bw.mhz / 10 - 2)) % 4 = 1) (q : ℚ) :
    getMinMaxpsdByBw (randomMask psd chans) cfi bw = some q ↔ Lowest psd chans bw cfi q := by
  have hkeys : ∀ e ∈ randomMask psd chans, e.1 % 4 = r := by
    intro e he
    exact hchans _ ((randomMask_keys.2 e.1).mp (List.mem_map_of_mem he))
  have hfull := length_window_iff randomMask_keys.1 hcfi hkeys
  simp only [mem_keys_iff] at hfull
  rw [getMinMaxpsdByBw_eq]
  by_cases hdrawn : ∀ ch ∈ subChannels bw cfi, ∃ x, lastDrawn psd chans ch = some x
  · have hlimits := mem_window_limits hchans hcfi hdrawn
    rw [if_pos (hfull.mpr hdrawn), List.min?_eq_some_iff]
    constructor
    · intro h
      exact ⟨hdrawn, (hlimits q).mp h.1, fun x hx => h.2 x ((hlimits x).mpr hx)⟩
    · intro h
      exact ⟨(hlimits q).mpr h.least.1, fun x hx => h.least.2 ((hlimits x).mp hx)⟩
  · rw [if_neg fun h => hdrawn (hfull.mp h)]
    constructor
    · intro h
      exact absurd h (by simp)
    · intro h
      exact absurd h.drawn hdrawn

/-- Where every channel is drawn there is a lowest limit. -/
theorem exists_lowest (hchans : ∀ ch ∈ chans, ch % 4 = r)
    (hcfi : (cfi - (bw.mhz / 10 - 2)) % 4 = 1)
    (hdrawn : ∀ ch ∈ subChannels bw cfi, ∃ x, lastDrawn psd chans ch = some x) :
    ∃ q, Lowest psd chans bw cfi q := by
  obtain ⟨x, hx⟩ := hdrawn _ bottom_mem_subChannels
  have hmem := (mem_window_limits hchans hcfi hdrawn x).mpr ⟨_, bottom_mem_subChannels, hx⟩
  obtain ⟨q, hq⟩ := Option.isSome_iff_exists.mp
    (List.isSome_min?_of_ne_nil (List.ne_nil_of_mem hmem))
  have hlimits := mem_window_limits hchans hcfi hdrawn
  rw [List.min?_eq_some_iff] at hq
  exact ⟨q, hdrawn, (hlimits q).mp hq.1, fun x hx => hq.2 x ((hlimits x).mpr hx)⟩

end Lowest

/-! ## The channels drawn together -/

/-- The drawn channels have one remainder by four: the picks are CFIs of one
width, or all channels of the country are drawn. -/
theorem randomChanBw20_residue {g : Globals} {p : CountryParam} {chans : List Int}
    (hp : countryParam g.countryCode = .ok p)
    (hpicks : ∀ k ∈ g.randomPicks.map Json.key?,
      ∃ cfi ∈ p.cfis (inquiredBandwidth g.channelWidth), k = some (.num cfi))
    (h : randomChanBw20 g p = .ok chans) : ∃ r, ∀ ch ∈ chans, ch % 4 = r := by
  unfold randomChanBw20 at h
  split at h
  · rw [pure_eq_ok, Except.ok.injEq] at h
    subst h
    refine ⟨1, fun ch hch => ?_⟩
    have hgrid := cfis_grid hp .bw20 ch hch
    simpa [Bandwidth.mhz] using hgrid
  · simp only [bind_eq_ok, pure_eq_ok, Except.ok.injEq] at h
    obtain ⟨lists, hlists, rfl⟩ := h
    cases hnum : g.channelWidth.num with
    | error e =>
        -- without a number for the width nothing is drawn
        refine ⟨0, fun ch hch => ?_⟩
        obtain ⟨chans, hchans, _⟩ := List.mem_flatten.mp hch
        obtain ⟨pick, _, heq⟩ := (mem_of_mapM_eq_ok hlists).mp hchans
        simp [pickChannels, hnum] at heq
    | ok w =>
        refine ⟨(1 + ((inquiredBandwidth g.channelWidth).mhz / 10 - 2) - trunc (w / 10 - 2)) % 4,
          fun ch hch => ?_⟩
        obtain ⟨chans, hchans, hmem⟩ := List.mem_flatten.mp hch
        obtain ⟨pick, hpick, heq⟩ := (mem_of_mapM_eq_ok hlists).mp hchans
        simp only [pickChannels, hnum, ok_bind, bind_eq_ok, pure_eq_ok, Except.ok.injEq] at heq
        obtain ⟨c, hc, rfl⟩ := heq
        obtain ⟨cfi, hcfi, hkey⟩ := hpicks _ (List.mem_map_of_mem hpick)
        rw [key_of_index hc] at hkey
        have hsame := num_key_injective hkey
        have hgrid := cfis_grid hp _ cfi hcfi
        rw [mem_range (by decide)] at hmem
        omega

end AfcDut.Simulator
