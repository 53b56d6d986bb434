import AfcDut.Rf.Scan
import AfcDut.Simulator.ChannelSpec
import Mathlib.Data.Int.ConditionallyCompleteOrder
import Mathlib.Data.Int.SuccPred
import Mathlib.Tactic.Ring
import Mathlib.Tactic.Linarith
import Mathlib.Tactic.NormNum

/-!
# Adjacent frequencies on the simulator's grid

The check of a block takes one limit for its whole window and lets a window
without a limit pass. Where the response offers 20 MHz segments and the blocks
lie on channels, every segment is inside a block or shares no sample with it,
and the one limit speaks for all samples.
-/

namespace AfcDut.Rf.Theorems.AdjacentGrid

open Py Spectrum Simulator RfMeasurementValidation

/-! ## Segments and blocks -/

/-- The limit offered for the segment of a 20 MHz channel. -/
structure Segment where
  channel : Int
  maxPsd : ℚ
  grid : channel % 4 = 1

/-- The item of `availableFrequencyInfo` is the `offered` one of this grant. -/
def Segment.grant (s : Segment) : Grant ℚ ℚ :=
  ⟨5950 + 5 * s.channel - 10, 5950 + 5 * s.channel + 10, s.maxPsd, by linarith⟩

/-- A channel whose 20 MHz channels are on the grid. -/
structure AlignedChannel where
  bw : Bandwidth
  cfi : Int
  aligned : (cfi - (bw.mhz / 10 - 2)) % 4 = 1

namespace AlignedChannel

def center (c : AlignedChannel) : ℚ := 5950 + 5 * c.cfi

def width (c : AlignedChannel) : ℚ := c.bw.mhz

/-- The centre, or one width beside it. -/
def BlockFreq (c : AlignedChannel) (freq : ℚ) : Prop :=
  freq = c.center ∨ freq = c.center - c.width ∨ freq = c.center + c.width

/-- The channels a country lists are aligned. -/
def ofListed {countryCode : Json} {p : CountryParam} (hp : countryParam countryCode = .ok p)
    {bw : Bandwidth} {cfi : Int} (hcfi : cfi ∈ p.cfis bw) : AlignedChannel :=
  ⟨bw, cfi, cfis_grid hp bw cfi hcfi⟩

end AlignedChannel

/-- A block at the channel or beside it, of at most one sample for each MHz. -/
structure OnGrid (c : AlignedChannel) (info : PsdInfo) : Prop where
  freqMhz : ∀ freq, info.freqMhz = some freq → c.BlockFreq freq
  psdDbmMHz : ∀ psds, info.psdDbmMHz = some psds → psds.length ≤ c.bw.mhz

theorem onGrid {c : AlignedChannel} {freq : ℚ} {psds : List ℚ} (hfreq : c.BlockFreq freq)
    (hpsds : psds.length ≤ c.bw.mhz) : OnGrid c ⟨some freq, some psds⟩ where
  freqMhz := fun _ h => Option.some.inj h ▸ hfreq
  psdDbmMHz := fun _ h => Option.some.inj h ▸ hpsds

/-- The object for the response and the report. -/
def checked (segments : List Segment) (chans : Option (List AvailableChannelInfo))
    (c : AlignedChannel) (packets : List Packet) : RfMeasurementValidation :=
  .new (some ⟨some ((segments.map Segment.grant).map offered), chans⟩)
    (some ⟨c.center, c.width, packets⟩)

/-- Every sample in the segment is within its limit; sample `i` of a block is
at `i` MHz above the block's lower end. -/
def SamplesWithin (g : Grant ℚ ℚ) (width : ℚ) (packets : List Packet) : Prop :=
  ∀ pkt ∈ packets, ∀ infos, pkt.freqPsdPerMHz = some infos → ∀ info ∈ infos,
    ∀ freq psds, info.freqMhz = some freq → info.psdDbmMHz = some psds →
      ∀ (i : Nat) psd, psds[i]? = some psd →
        g.low ≤ freq - width / 2 + i → freq - width / 2 + i < g.high → psd ≤ g.limit

/-- Every packet is within the limit. -/
def PacketsWithin (g : Grant ℚ ℚ) (packets : List Packet) : Prop :=
  ∀ pkt ∈ packets, ∃ p, pkt.maxPSD = some p ∧ p ≤ g.limit

/-! ## The grid -/

/-- The edges of the 20 MHz segments. -/
def edge (k : Int) : ℚ := (5945 + 20 * k : Int)

theorem edge_strictMono : StrictMono edge := by
  intro a b h
  unfold edge
  exact_mod_cast (by omega : 5945 + 20 * a < 5945 + 20 * b)

theorem Segment.edges (s : Segment) :
    ∃ k, s.grant.low = edge k ∧ s.grant.high = edge (k + 1) := by
  have hgrid := s.grid
  obtain ⟨k, hk⟩ : ∃ k, s.channel = 4 * k + 1 := ⟨s.channel / 4, by omega⟩
  refine ⟨k, ?_, ?_⟩
  · show (5950 + 5 * s.channel - 10 : ℚ) = _
    unfold edge
    rw [hk]
    push_cast
    ring
  · show (5950 + 5 * s.channel + 10 : ℚ) = _
    unfold edge
    rw [hk]
    push_cast
    ring

/-- A width is some 20 MHz channels, and the lower end of a channel an edge. -/
theorem AlignedChannel.edges (c : AlignedChannel) :
    ∃ u k : Int, c.width = 20 * u ∧ c.center = edge k + 10 * u := by
  have haligned := c.aligned
  obtain ⟨u, hu⟩ : ∃ u : Int, (c.bw.mhz : Int) = 20 * u := by
    cases c.bw with
    | bw20 => exact ⟨1, rfl⟩
    | bw40 => exact ⟨2, rfl⟩
    | bw80 => exact ⟨4, rfl⟩
    | bw160 => exact ⟨8, rfl⟩
    | bw320 => exact ⟨16, rfl⟩
  rw [hu] at haligned
  obtain ⟨k, hk⟩ : ∃ k, c.cfi = 4 * k + 2 * u - 1 := ⟨(c.cfi - (2 * u - 1)) / 4, by omega⟩
  refine ⟨u, k, ?_, ?_⟩
  · show ((c.bw.mhz : Nat) : ℚ) = 20 * u
    exact_mod_cast hu
  · show (5950 + 5 * c.cfi : ℚ) = _
    unfold edge
    rw [hk]
    push_cast
    ring

/-- The window of a block is between edges, and `int` leaves it alone. -/
theorem window_edges {c : AlignedChannel} {freq : ℚ} (h : c.BlockFreq freq) :
    ∃ m n : Int, freq - c.width / 2 = edge m ∧ freq + c.width / 2 = edge n ∧
      window freq c.width = (edge m, edge n) := by
  obtain ⟨u, k, hwidth, hcenter⟩ := c.edges
  obtain ⟨m, n, hlow, hhigh⟩ : ∃ m n : Int,
      freq - c.width / 2 = edge m ∧ freq + c.width / 2 = edge n := by
    unfold edge at hcenter ⊢
    push_cast at hcenter ⊢
    rcases h with rfl | rfl | rfl
    · refine ⟨k, k + u, ?_, ?_⟩ <;> push_cast <;> linarith
    · refine ⟨k - u, k, ?_, ?_⟩ <;> push_cast <;> linarith
    · refine ⟨k + u, k + 2 * u, ?_, ?_⟩ <;> push_cast <;> linarith
  refine ⟨m, n, hlow, hhigh, ?_⟩
  unfold window
  rw [hlow, hhigh]
  unfold edge
  rw [trunc_intCast, trunc_intCast]

/-! ## What a passing report promises -/

section Passing

variable {segments : List Segment} {chans : Option (List AvailableChannelInfo)}
  {c : AlignedChannel} {packets : List Packet}

theorem spLimit_checked (freq chwidth : ℚ) :
    (checked segments chans c packets).spLimit freq chwidth =
      .ok (insideLimit (segments.map Segment.grant) (window freq chwidth).1
        (window freq chwidth).2) :=
  spLimit_offered rfl freq chwidth

/-- The limit of a window is not above that of a segment inside it. -/
theorem limit_le {lo hi : ℚ} {s : Segment} (hs : s ∈ segments) (hin : s.grant.Inside lo hi) :
    ∃ limit, insideLimit (segments.map Segment.grant) lo hi = some limit ∧ limit ≤ s.maxPsd := by
  have hmem : s.grant ∈ segments.map Segment.grant := List.mem_map_of_mem hs
  cases hlimit : insideLimit (segments.map Segment.grant) lo hi with
  | none => exact absurd hin (insideLimit_eq_none_iff.mp hlimit _ hmem)
  | some limit => exact ⟨limit, rfl, (insideLimit_eq_some_iff.mp hlimit).2 _ hmem hin⟩

/-- A segment that shares a sample with a block is inside its window. -/
theorem inside_of_sample {freq : ℚ} (hfreq : c.BlockFreq freq) {s : Segment} {i : Nat}
    (hi : i < c.bw.mhz)
    (hlow : s.grant.low ≤ freq - c.width / 2 + i) (hhigh : freq - c.width / 2 + i < s.grant.high) :
    s.grant.Inside (window freq c.width).1 (window freq c.width).2 := by
  obtain ⟨m, n, hm, hn, hwindow⟩ := window_edges hfreq
  obtain ⟨k, hk, hk'⟩ := s.edges
  have hi' : (i : ℚ) < c.width := by
    unfold AlignedChannel.width
    exact_mod_cast hi
  rw [hwindow]
  refine Grant.inside_of_ticks edge_strictMono (Order.covBy_add_one k) hk hk' ⟨hlow, hhigh⟩ ⟨?_, ?_⟩
  · rw [hm]
    linarith [(Nat.cast_nonneg i : (0 : ℚ) ≤ i)]
  · linarith

theorem samples_within (hgrid : ∀ pkt ∈ packets, ∀ infos, pkt.freqPsdPerMHz = some infos →
      ∀ info ∈ infos, OnGrid c info)
    (hfits : (checked segments chans c packets).BlocksFit) {s : Segment} (hs : s ∈ segments) :
    SamplesWithin s.grant c.width packets := by
  intro pkt hpkt infos hinfos info hinfo freq psds hfreq hpsds i psd hpsd hlow hhigh
  have hon := hgrid pkt hpkt infos hinfos info hinfo
  have hi : i < c.bw.mhz :=
    (List.getElem?_eq_some_iff.mp hpsd).1.trans_le (hon.psdDbmMHz psds hpsds)
  obtain ⟨limit, hlimit, hle⟩ := limit_le hs (inside_of_sample (hon.freqMhz freq hfreq) hi hlow hhigh)
  obtain ⟨infos', hinfos', hblocks⟩ := hfits.2 pkt hpkt
  rw [hinfos, Option.some.injEq] at hinfos'
  subst hinfos'
  obtain ⟨freq', psds', hfreq', hpsds', limit?, hlimit?, -, hwithin⟩ := hblocks info hinfo
  rw [hfreq, Option.some.injEq] at hfreq'
  rw [hpsds, Option.some.injEq] at hpsds'
  subst hfreq' hpsds'
  rw [spLimit_checked, Except.ok.injEq] at hlimit?
  have hmax : psd ≤ limit := hwithin limit (hlimit? ▸ hlimit) psd (List.mem_of_getElem? hpsd)
  exact hmax.trans hle

theorem packets_within (hfits : (checked segments chans c packets).PowerFits) {s : Segment}
    (hs : s ∈ segments)
    (hin : s.grant.Inside (c.center - c.width / 2) (c.center + c.width / 2)) :
    PacketsWithin s.grant packets := by
  obtain ⟨m, n, hm, hn, hwindow⟩ := window_edges (c := c) (.inl rfl)
  rw [hm, hn] at hin
  obtain ⟨limit', hlimit', hle⟩ := limit_le hs hin
  obtain ⟨-, limit, hlimit, hwithin⟩ := hfits
  have hcenter : (checked segments chans c packets).spLimit c.center c.width = .ok (some limit) :=
    hlimit
  rw [spLimit_checked, hwindow, hlimit', Except.ok.injEq, Option.some.injEq] at hcenter
  intro pkt hpkt
  obtain ⟨p, hp, hmax⟩ := hwithin pkt hpkt
  exact ⟨p, hp, hmax.trans (hcenter ▸ hle)⟩

end Passing

/-- **Soundness on the grid.** For any segments of 20 MHz channels, an aligned
channel, and any packets of blocks on it and beside it: if both flags are true,
every sample in an offered segment is within its limit, and so is every packet
for the segments inside the channel. -/
theorem true_flags_sound (segments : List Segment) (chans : Option (List AvailableChannelInfo))
    (c : AlignedChannel) (packets : List Packet)
    (hgrid : ∀ pkt ∈ packets, ∀ infos, pkt.freqPsdPerMHz = some infos →
      ∀ info ∈ infos, OnGrid c info) (memo : Memo)
    (hflags : ((checked segments chans c packets).validateRfMeasurementByFreq.run memo).1 =
      (true, true)) :
    ∀ s ∈ segments, SamplesWithin s.grant c.width packets ∧
      (s.grant.Inside (c.center - c.width / 2) (c.center + c.width / 2) →
        PacketsWithin s.grant packets) := by
  rw [validateRfMeasurementByFreq_eq] at hflags
  have hpower := freqVerdict_power_iff _ |>.mp (congrArg Prod.fst hflags)
  have hadjacent := freqVerdict_adjacent_iff _ |>.mp (congrArg Prod.snd hflags)
  intro s hs
  refine ⟨samples_within hgrid (adjacent_iff.mp hadjacent.1).2 hs, fun hin => ?_⟩
  exact packets_within (powerByFreq_iff.mp hpower.1) hs hin

def channelOne : AlignedChannel :=
  .ofListed (rfl : countryParam (.str "US") = .ok countryUS) (by decide : 1 ∈ countryUS.cfis .bw20)

/-- A packet on channel 1; the block below it is where nothing is offered. -/
def packetOne : Packet :=
  ⟨some 17, none, some [⟨some 5935, some [30]⟩, ⟨some 5955, some [17, 18]⟩,
    ⟨some 5975, some [-4, -3]⟩]⟩

theorem packetOne_onGrid : ∀ pkt ∈ [packetOne], ∀ infos, pkt.freqPsdPerMHz = some infos →
    ∀ info ∈ infos, OnGrid channelOne info := by
  intro pkt hpkt infos hinfos info hinfo
  obtain rfl := List.mem_singleton.mp hpkt
  obtain rfl := Option.some.inj hinfos
  simp only [List.mem_cons, List.not_mem_nil, or_false] at hinfo
  have hcenter : channelOne.center = 5955 := by
    norm_num [channelOne, AlignedChannel.ofListed, AlignedChannel.center]
  have hwidth : channelOne.width = 20 := rfl
  rcases hinfo with rfl | rfl | rfl
  · exact onGrid (.inr (.inl (by rw [hcenter, hwidth]; norm_num))) (by decide)
  · exact onGrid (.inl hcenter.symm) (by decide)
  · exact onGrid (.inr (.inr (by rw [hcenter, hwidth]; norm_num))) (by decide)

/-- With channel 1 offered at 18 dBm/MHz and channel 5 at -3, the packet
passes, and its samples keep the limit of channel 5. -/
theorem true_flags_sound_channel_five :
    SamplesWithin (Segment.mk 5 (-3) rfl).grant channelOne.width [packetOne] :=
  (true_flags_sound [⟨1, 18, rfl⟩, ⟨5, -3, rfl⟩] none channelOne [packetOne] packetOne_onGrid .init
    (by decide +kernel) ⟨5, -3, rfl⟩ (by simp)).1

end AfcDut.Rf.Theorems.AdjacentGrid
