import AfcDut.Analyzer.Script
import AfcDut.Conf.Hostapd
import AfcDut.Simulator.Channels
import Mathlib.Tactic.Linarith
import Mathlib.Tactic.Ring

/-!
# One centre for script, device and simulator

A script measures at the centre it finds in its own tables. The device
computes the centre it transmits at, and the simulator offers limits for the
centres of a country: the three are one for every primary channel.
-/

namespace AfcDut.Analyzer.Theorems.Centre

open Conf Py Simulator

/-! ## The tables of the script -/

theorem inBlock_iff {opChannel bw cfi : Int} :
    inBlock opChannel bw cfi = true ↔
      10 * cfi - bw < 10 * opChannel ∧ 10 * opChannel < 10 * cfi + bw := by
  have hcast : ∀ a b : Int, (a : ℚ) < b ↔ a < b := fun a b => Int.cast_lt
  unfold inBlock
  rw [decide_eq_true_iff, ← hcast, ← hcast]
  push_cast
  constructor
  · rintro ⟨hlow, hhigh⟩
    constructor <;> linarith
  · rintro ⟨hlow, hhigh⟩
    constructor <;> linarith

/-- The tables with disjoint blocks: each of `n` blocks holds `bw / 20`
primary channels, from channel 1 on. -/
def Blocks (bw : Int) (n : Nat) : Prop :=
  bw % 20 = 0 ∧ 0 < bw ∧
    cfiBw bw = .ok ((List.range n).map fun k : Nat => bw / 5 * k + (bw / 10 - 1))

theorem blocks_40 : Blocks 40 29 := ⟨by decide, by decide, rfl⟩

theorem blocks_80 : Blocks 80 14 := ⟨by decide, by decide, rfl⟩

theorem blocks_160 : Blocks 160 7 := ⟨by decide, by decide, rfl⟩

/-- A 20 MHz channel in the first `n` blocks. -/
def Primary (bw : Int) (n : Nat) (opChannel : Int) : Prop :=
  opChannel % 4 = 1 ∧ 1 ≤ opChannel ∧ opChannel ≤ bw / 5 * n
deriving Decidable

/-- In a block of a table, from its first primary channel on. -/
theorem inBlock_table {m j opChannel : Int} (hprimary : opChannel % 4 = 1) :
    inBlock opChannel (20 * m) (20 * m / 5 * j + (20 * m / 10 - 1)) = true ↔
      4 * m * j ≤ opChannel - 1 ∧ opChannel - 1 < 4 * m * j + 4 * m := by
  have hfive : 20 * m / 5 = 4 * m := by omega
  have hten : 20 * m / 10 = 2 * m := by omega
  have hassoc : 4 * m * j = 4 * (m * j) := by ring
  rw [inBlock_iff, hfive, hten, hassoc]
  generalize m * j = mj
  omega

theorem block_unique {w x k j : Int} (hw : 0 < w) (hk : w * k ≤ x ∧ x < w * k + w)
    (hj : w * j ≤ x ∧ x < w * j + w) : k = j := by
  have hquot : ∀ i, w * i ≤ x ∧ x < w * i + w → x / w = i := fun i hi =>
    ((Int.ediv_emod_unique hw (r := x - w * i)).mpr ⟨by omega, by omega, by omega⟩).1
  rw [← hquot k hk, hquot j hj]

/-- A primary channel is in one block, and the script finds its centre. -/
theorem getCfiFromOpChannel_of_primary {bw opChannel : Int} {n : Nat} (h : Blocks bw n)
    (hprimary : Primary bw n opChannel) :
    ∃ k : Nat, k < n ∧ bw / 5 * k + 1 ≤ opChannel ∧ opChannel < bw / 5 * k + bw / 5 + 1 ∧
      getCfiFromOpChannel opChannel bw = .ok (bw / 5 * k + (bw / 10 - 1)) := by
  obtain ⟨hmod, hpos, htable⟩ := h
  obtain ⟨hfour, hlow, hhigh⟩ := hprimary
  obtain ⟨m, rfl⟩ : ∃ m, bw = 20 * m := ⟨bw / 20, by omega⟩
  have hfive : 20 * m / 5 = 4 * m := by omega
  have hm : 0 < 4 * m := by omega
  -- the block is the quotient of the channels before
  have hquot : 0 ≤ (opChannel - 1) / (4 * m) := Int.ediv_nonneg (by omega) hm.le
  obtain ⟨k, hk⟩ : ∃ k : Nat, (opChannel - 1) / (4 * m) = k := ⟨_, (Int.toNat_of_nonneg hquot).symm⟩
  have hsplit := Int.mul_ediv_add_emod (opChannel - 1) (4 * m)
  have hrem := Int.emod_nonneg (opChannel - 1) hm.ne'
  have hlt := Int.emod_lt_of_pos (opChannel - 1) hm
  rw [hk] at hsplit
  have hkn : k < n := by
    have hdiv : (opChannel - 1) / (4 * m) < n :=
      Int.ediv_lt_of_lt_mul hm (by rw [hfive] at hhigh; rw [Int.mul_comm]; omega)
    rw [hk] at hdiv
    exact_mod_cast hdiv
  refine ⟨k, hkn, by rw [hfive]; omega, by rw [hfive]; omega, ?_⟩
  unfold getCfiFromOpChannel
  rw [if_neg (not_not.mpr hfour), htable]
  cases hfind : ((List.range n).map fun k : Nat => 20 * m / 5 * (k : Int) + (20 * m / 10 - 1)).find?
      (inBlock opChannel (20 * m)) with
  | none =>
      rw [List.find?_eq_none] at hfind
      refine absurd ?_ (hfind _ (List.mem_map.mpr ⟨k, List.mem_range.mpr hkn, rfl⟩))
      exact (inBlock_table hfour).mpr ⟨by omega, by omega⟩
  | some cfi =>
      obtain ⟨j, -, rfl⟩ := List.mem_map.mp (List.mem_of_find?_eq_some hfind)
      obtain ⟨hj, hj'⟩ := (inBlock_table hfour).mp (List.find?_some hfind)
      have hjk : (j : Int) = k := block_unique hm ⟨hj, hj'⟩ ⟨by omega, by omega⟩
      simp only [ok_bind, hfind, Option.getD_some, hjk]
      rfl

/-- Any other channel has no centre. -/
theorem getCfiFromOpChannel_of_not_primary {bw opChannel : Int} {n : Nat} (h : Blocks bw n)
    (hprimary : ¬ Primary bw n opChannel) : getCfiFromOpChannel opChannel bw = .ok 0 := by
  obtain ⟨hmod, hpos, htable⟩ := h
  obtain ⟨m, rfl⟩ : ∃ m, bw = 20 * m := ⟨bw / 20, by omega⟩
  have hfive : 20 * m / 5 = 4 * m := by omega
  unfold getCfiFromOpChannel
  by_cases hfour : opChannel % 4 = 1
  · have hnone : ((List.range n).map fun k : Nat =>
        20 * m / 5 * (k : Int) + (20 * m / 10 - 1)).find? (inBlock opChannel (20 * m)) = none := by
      rw [List.find?_eq_none]
      intro cfi hcfi hin
      obtain ⟨j, hj, rfl⟩ := List.mem_map.mp hcfi
      obtain ⟨hlow, hhigh⟩ := (inBlock_table hfour).mp hin
      have hjn : (j : Int) + 1 ≤ n := by exact_mod_cast List.mem_range.mp hj
      refine hprimary ⟨hfour, ?_, ?_⟩
      · have hnonneg : 0 ≤ 4 * m * j := Int.mul_nonneg (by omega) (by omega)
        omega
      · rw [hfive]
        nlinarith
    rw [if_neg (not_not.mpr hfour), htable, ok_bind, hnone]
    rfl
  · rw [if_pos hfour]
    rfl

/-- The channels for which the script finds one centre of a table. -/
theorem getCfiFromOpChannel_table_iff {bw opChannel : Int} {n j : Nat} (h : Blocks bw n)
    (hj : j < n) :
    getCfiFromOpChannel opChannel bw = .ok (bw / 5 * j + (bw / 10 - 1)) ↔
      opChannel % 4 = 1 ∧ inBlock opChannel bw (bw / 5 * j + (bw / 10 - 1)) = true := by
  obtain ⟨m, rfl⟩ : ∃ m, bw = 20 * m := ⟨bw / 20, by have := h.1; omega⟩
  have hm : 0 < 4 * m := by have := h.2.1; omega
  have hfive : 20 * m / 5 = 4 * m := by omega
  have hten : 20 * m / 10 = 2 * m := by omega
  have hnonneg : 0 ≤ 4 * m * (j : Int) := Int.mul_nonneg hm.le (by omega)
  have hlast : 4 * m * (j : Int) + 4 * m ≤ 4 * m * n := by
    have hjn : (j : Int) + 1 ≤ n := by exact_mod_cast hj
    nlinarith
  constructor
  · intro hcfi
    by_cases hprimary : Primary (20 * m) n opChannel
    · obtain ⟨k, -, hlow, hhigh, hk⟩ := getCfiFromOpChannel_of_primary h hprimary
      rw [hcfi, Except.ok.injEq, hfive] at hk
      rw [hfive] at hlow hhigh
      exact ⟨hprimary.1, (inBlock_table hprimary.1).mpr ⟨by omega, by omega⟩⟩
    · rw [getCfiFromOpChannel_of_not_primary h hprimary, Except.ok.injEq, hfive, hten] at hcfi
      omega
  · rintro ⟨hfour, hin⟩
    obtain ⟨hlow, hhigh⟩ := (inBlock_table hfour).mp hin
    obtain ⟨k, -, hklow, hkhigh, hk⟩ := getCfiFromOpChannel_of_primary h
      (show Primary (20 * m) n opChannel from ⟨hfour, by omega, by rw [hfive]; omega⟩)
    rw [hfive] at hklow hkhigh
    have hkj : (k : Int) = j := block_unique hm ⟨by omega, by omega⟩ ⟨hlow, hhigh⟩
    rw [hk, hkj]

/-! ## The device -/

/-- The loop stops at the block that holds the channel. -/
theorem blockIndex_of_mem (noReturn : Int) {channel chwidth : Int} (hwidth : 0 ≤ chwidth / 5)
    (d fuel : Nat) (i : Int) (hband : i + chwidth / 5 * d < 233)
    (hlow : i + chwidth / 5 * d ≤ channel) (hhigh : channel < i + chwidth / 5 * d + chwidth / 5) :
    blockIndex noReturn channel chwidth (fuel + d + 1) i =
      i + chwidth / 5 * d + (chwidth - 20) / 10 := by
  induction d generalizing i with
  | zero =>
      simp only [Nat.cast_zero, mul_zero, add_zero] at hband hlow hhigh ⊢
      rw [blockIndex, if_pos hband, if_pos ⟨hlow, hhigh⟩]
  | succ d ih =>
      have hstep : chwidth / 5 * ((d + 1 : Nat) : Int) = chwidth / 5 * d + chwidth / 5 := by
        push_cast
        ring
      have hnonneg : 0 ≤ chwidth / 5 * d := Int.mul_nonneg hwidth (by omega)
      rw [hstep] at hband hlow hhigh ⊢
      -- the channel is past this block
      rw [blockIndex, if_pos (by omega), if_neg (by omega)]
      rw [show fuel + (d + 1) = fuel + d + 1 from rfl, ih _ (by omega) (by omega) (by omega)]
      ring

/-- The device finds the centre of the script in each block of the band. -/
theorem getCfiFromOpChannel_eq_blockIndex (noReturn : Int) {bw opChannel : Int} {n : Nat}
    (h : Blocks bw n) (hn : n ≤ 233) (hband : bw / 5 * n ≤ 232)
    (hprimary : Primary bw n opChannel) :
    getCfiFromOpChannel opChannel bw = .ok (blockIndex noReturn opChannel bw 233 1) := by
  obtain ⟨k, hk, hlow, hhigh, hcfi⟩ := getCfiFromOpChannel_of_primary h hprimary
  obtain ⟨hmod, hpos, -⟩ := h
  have hwidth : 0 ≤ bw / 5 := by omega
  have hlast : bw / 5 * (k : Int) + bw / 5 ≤ bw / 5 * n := by
    have hkn : (k : Int) + 1 ≤ n := by exact_mod_cast hk
    nlinarith
  have hfuel : (233 : Nat) = (232 - k) + k + 1 := by omega
  rw [hcfi, hfuel, blockIndex_of_mem noReturn hwidth k (232 - k) 1 (by omega) (by omega) (by omega)]
  congr 1
  omega

/-! ## The simulator -/

/-- The bandwidths whose blocks the script tells apart, with their number. -/
def Table (bw : Bandwidth) (n : Nat) : Prop :=
  (bw = .bw40 ∧ n = 29) ∨ (bw = .bw80 ∧ n = 14) ∨ (bw = .bw160 ∧ n = 7)

theorem Table.blocks {bw : Bandwidth} {n : Nat} (h : Table bw n) : Blocks bw.mhz n := by
  obtain ⟨rfl, rfl⟩ | ⟨rfl, rfl⟩ | ⟨rfl, rfl⟩ := h
  · exact blocks_40
  · exact blocks_80
  · exact blocks_160

/-- The simulator's centres of one bandwidth are in the script's table. -/
theorem cfis_table {bw : Bandwidth} {n : Nat} {p : CountryParam} {cfi : Int}
    (htable : Table bw n) (hp : p = countryUS ∨ p = countryCA) (hcfi : cfi ∈ p.cfis bw) :
    ∃ j < n, cfi = (bw.mhz : Int) / 5 * j + ((bw.mhz : Int) / 10 - 1) := by
  revert cfi
  obtain ⟨rfl, rfl⟩ | ⟨rfl, rfl⟩ | ⟨rfl, rfl⟩ := htable <;> obtain rfl | rfl := hp <;> decide

theorem offered_iff {bw : Bandwidth} {n : Nat} (htable : Table bw n)
    {p : CountryParam} (hp : p = countryUS ∨ p = countryCA) {cfi : Int} (hcfi : cfi ∈ p.cfis bw)
    (opChannel : Int) :
    getCfiFromOpChannel opChannel bw.mhz = .ok cfi ↔
      opChannel % 4 = 1 ∧ 10 * |opChannel - cfi| < bw.mhz := by
  obtain ⟨j, hj, rfl⟩ := cfis_table htable hp hcfi
  rw [getCfiFromOpChannel_table_iff htable.blocks hj, inBlock_iff]
  refine and_congr_right fun _ => ?_
  generalize (bw.mhz : Int) / 5 * j + ((bw.mhz : Int) / 10 - 1) = cfi
  rcases abs_cases (opChannel - cfi) with ⟨habs, _⟩ | ⟨habs, _⟩ <;> rw [habs] <;> omega

/-! ## All three -/

/-- The channels of the band with a centre at 80 MHz and at 160 MHz. -/
def PrimaryChannel (opChannel : Int) : Prop :=
  opChannel % 4 = 1 ∧ 1 ≤ opChannel ∧ opChannel ≤ 221
deriving Decidable

/-- A table that covers those channels gives the device's centres. -/
theorem getCfiFromOpChannel_eq {bw : Int} {n : Nat} (h : Blocks bw n) (hn : n ≤ 14)
    (hband : bw / 5 * n = 224) (noReturn opChannel : Int) :
    getCfiFromOpChannel opChannel bw = .ok (if PrimaryChannel opChannel then
      blockIndex noReturn opChannel bw 233 1 else 0) := by
  by_cases hprimary : PrimaryChannel opChannel
  · rw [if_pos hprimary]
    obtain ⟨hfour, hlow, hhigh⟩ := hprimary
    exact getCfiFromOpChannel_eq_blockIndex noReturn h (by omega) (by omega)
      ⟨hfour, hlow, by omega⟩
  · rw [if_neg hprimary]
    refine getCfiFromOpChannel_of_not_primary h fun hin => hprimary ?_
    obtain ⟨hfour, hlow, hhigh⟩ := hin
    exact ⟨hfour, hlow, by omega⟩

/-- **One centre.** At 80 and at 160 MHz the centre a script measures at is,
for every primary channel, the one the device writes in its configuration, and
for no other channel is there a measurement. A centre the simulator offers is
measured for exactly the 20 MHz channels of its block. -/
theorem one_centre (noReturn : Int → Int → Int) (opChannel : Int) :
    (getCfiFromOpChannel opChannel 80 = .ok (if PrimaryChannel opChannel then
        get6gCenterFreqIndex noReturn opChannel 1 else 0) ∧
      getCfiFromOpChannel opChannel 160 = .ok (if PrimaryChannel opChannel then
        get6gCenterFreqIndex noReturn opChannel 2 else 0)) ∧
      ∀ bw ∈ [Bandwidth.bw40, .bw80, .bw160], ∀ p ∈ [countryUS, countryCA], ∀ cfi ∈ p.cfis bw,
        (getCfiFromOpChannel opChannel bw.mhz = .ok cfi ↔
          opChannel % 4 = 1 ∧ 10 * |opChannel - cfi| < bw.mhz) := by
  refine ⟨⟨getCfiFromOpChannel_eq blocks_80 (by omega) rfl _ opChannel,
    getCfiFromOpChannel_eq blocks_160 (by omega) rfl _ opChannel⟩, ?_⟩
  intro bw hbw p hp cfi hcfi
  have hcountry : p = countryUS ∨ p = countryCA := by simpa using hp
  obtain rfl | rfl | rfl : bw = .bw40 ∨ bw = .bw80 ∨ bw = .bw160 := by simpa using hbw
  · exact offered_iff (.inl ⟨rfl, rfl⟩) hcountry hcfi opChannel
  · exact offered_iff (.inr (.inl ⟨rfl, rfl⟩)) hcountry hcfi opChannel
  · exact offered_iff (.inr (.inr ⟨rfl, rfl⟩)) hcountry hcfi opChannel

end AfcDut.Analyzer.Theorems.Centre
