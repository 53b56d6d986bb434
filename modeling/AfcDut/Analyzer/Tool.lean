import AfcDut.Analyzer.Capture
import AfcDut.Py.Raises

/-!
# The PSD files of the tool

What `IQsniffer_test` writes for each packet it captures: for each frequency
of the scan list, in order, a block of rows. The reader cuts the rows where
the text of the frequency changes, so it finds the blocks as long as no two
neighbours have the same frequency.
-/

namespace AfcDut.Analyzer

open Py Rf

/-! ## What is written -/

/-- A number the tool writes: `float` reads its text as its value. -/
structure Numeral where
  text : String
  value : ℚ
  reads : float text = .ok value

/-- How the tool writes frequencies. -/
structure FreqFormat where
  text : Int → String
  reads : ∀ freqMhz, float (text freqMhz) = .ok freqMhz

/-- What the tool measures of a packet at one frequency. -/
structure FreqBlock where
  channelPowerDbm : Numeral
  peakPsdDbmMhz : Numeral
  psdDbmMhz : List Numeral
  /-- A block has at least one row. -/
  psd_ne : psdDbmMhz ≠ []
  /-- The cells of the columns the driver does not read. -/
  others : Row

/-- A captured packet: its measurements at each frequency. -/
abbrev TxPacket := Int → FreqBlock

variable (format : FreqFormat)

/-- One PSD row of a block. -/
def FreqBlock.psdRow (block : FreqBlock) (freqMhz : Int) (psd : Numeral) : Row :=
  ("freq_mhz", some (format.text freqMhz)) ::
    ("channel_power_dbm", some block.channelPowerDbm.text) ::
    ("peak_psd_dbm_mhz", some block.peakPsdDbmMhz.text) ::
    ("psd_dbm_mhz", some psd.text) :: block.others

def FreqBlock.rows (block : FreqBlock) (freqMhz : Int) : List Row :=
  block.psdDbmMhz.map (block.psdRow format freqMhz)

def packetRows (scanList : List Int) (packet : TxPacket) : List Row :=
  scanList.flatMap fun freqMhz => (packet freqMhz).rows format freqMhz

/-- A capture of any number of packets, without an error. The tool leaves a fresh
file for each run: the captures of a round share its name, and the driver does
not remove it between them. -/
def captureOf (scanList : List Int) (packets : List TxPacket) : Scan where
  raised := none
  stdOut := []
  resultCsv := some (packets.flatMap (packetRows format scanList))

/-! ## A row -/

theorem FreqFormat.text_injective {f g : Int} (h : format.text f = format.text g) : f = g := by
  have hf := format.reads f
  rw [h, format.reads g, Except.ok.injEq] at hf
  exact_mod_cast hf.symm

section Rows

variable (block : FreqBlock) (freqMhz : Int) (psd : Numeral)

@[simp] theorem psdRow_freq :
    (block.psdRow format freqMhz psd).cell "freq_mhz" = .ok (some (format.text freqMhz)) := rfl

theorem number_of_cell {row : Row} {name text : String} {value : ℚ}
    (h : row.cell name = .ok (some text)) (hread : float text = .ok value) :
    row.number name = .ok value := by
  unfold Row.number
  rw [h, ok_bind]
  show (float text).mapError Err.py = .ok value
  rw [hread]
  rfl

theorem number_freq : (block.psdRow format freqMhz psd).number "freq_mhz" = .ok (freqMhz : ℚ) :=
  number_of_cell rfl (format.reads freqMhz)

theorem number_channelPower :
    (block.psdRow format freqMhz psd).number "channel_power_dbm" =
      .ok block.channelPowerDbm.value :=
  number_of_cell rfl block.channelPowerDbm.reads

theorem number_peakPsd :
    (block.psdRow format freqMhz psd).number "peak_psd_dbm_mhz" = .ok block.peakPsdDbmMhz.value :=
  number_of_cell rfl block.peakPsdDbmMhz.reads

theorem number_psd : (block.psdRow format freqMhz psd).number "psd_dbm_mhz" = .ok psd.value :=
  number_of_cell rfl psd.reads

/-- A row of another frequency opens a block. -/
theorem psdStep_opens {freq : Option (Option String)} {acc : List Pkt}
    (h : freq ≠ some (some (format.text freqMhz))) :
    psdStep (freq, acc) (block.psdRow format freqMhz psd) =
      .ok (some (some (format.text freqMhz)),
        acc ++ [⟨block.psdRow format freqMhz psd, [psd.value]⟩]) := by
  unfold psdStep
  rw [number_psd, ok_bind, psdRow_freq, ok_bind, if_pos h]
  rfl

/-- A row of the same frequency joins the block before it. -/
theorem psdStep_joins (acc : List Pkt) (last : Pkt) :
    psdStep (some (some (format.text freqMhz)), acc ++ [last]) (block.psdRow format freqMhz psd) =
      .ok (some (some (format.text freqMhz)),
        acc ++ [{ last with psdDbmMhz := last.psdDbmMhz ++ [psd.value] }]) := by
  unfold psdStep
  rw [number_psd, ok_bind, psdRow_freq, ok_bind, if_neg (fun h => h rfl)]
  simp

end Rows

/-! ## A block -/

/-- The packet the reader makes of a block: its first row, with all of its
samples. -/
def FreqBlock.pkt (block : FreqBlock) (freqMhz : Int) : Pkt :=
  ⟨block.psdRow format freqMhz (block.psdDbmMhz.head block.psd_ne),
    block.psdDbmMhz.map (·.value)⟩

theorem psdRows_join (block : FreqBlock) (freqMhz : Int) (acc : List Pkt) (last : Pkt)
    (psds : List Numeral) :
    (psds.map (block.psdRow format freqMhz)).foldlM psdStep
        (some (some (format.text freqMhz)), acc ++ [last]) =
      .ok (some (some (format.text freqMhz)),
        acc ++ [{ last with psdDbmMhz := last.psdDbmMhz ++ psds.map (·.value) }]) := by
  induction psds generalizing last with
  | nil => simp
  | cons psd psds ih =>
      rw [List.map_cons, List.foldlM_cons, psdStep_joins, ok_bind, ih]
      simp

theorem psdRows_open (block : FreqBlock) {freqMhz : Int} {freq : Option (Option String)}
    (h : freq ≠ some (some (format.text freqMhz))) (acc : List Pkt) (psds : List Numeral)
    (hne : psds ≠ []) :
    (psds.map (block.psdRow format freqMhz)).foldlM psdStep (freq, acc) =
      .ok (some (some (format.text freqMhz)),
        acc ++ [⟨block.psdRow format freqMhz (psds.head hne), psds.map (·.value)⟩]) := by
  cases psds with
  | nil => exact absurd rfl hne
  | cons psd psds =>
      rw [List.map_cons, List.foldlM_cons, psdStep_opens format block freqMhz psd h, ok_bind,
        psdRows_join]
      simp

/-- After another frequency a block is read as one packet. -/
theorem rows_open (block : FreqBlock) {freqMhz : Int} {freq : Option (Option String)}
    (h : freq ≠ some (some (format.text freqMhz))) (acc : List Pkt) :
    (block.rows format freqMhz).foldlM psdStep (freq, acc) =
      .ok (some (some (format.text freqMhz)), acc ++ [block.pkt format freqMhz]) :=
  psdRows_open format block h acc block.psdDbmMhz block.psd_ne

/-! ## Three distinct frequencies -/

/-- The packets the reader makes of one packet. -/
def packetPkts (scanList : List Int) (packet : TxPacket) : List Pkt :=
  scanList.map fun freqMhz => (packet freqMhz).pkt format freqMhz

/-- The frequency the reader has seen last lets a block of `freqMhz` begin. -/
def Fresh (freq : Option (Option String)) (freqMhz : Int) : Prop :=
  freq ≠ some (some (format.text freqMhz))

theorem fresh_of_ne {f g : Int} (h : f ≠ g) : Fresh format (some (some (format.text f))) g := by
  intro heq
  rw [Option.some.injEq, Option.some.injEq] at heq
  exact h (format.text_injective heq)

theorem packetRows_three {c l u : Int} (hcl : c ≠ l) (hlu : l ≠ u) (packet : TxPacket)
    {freq : Option (Option String)} (h : Fresh format freq c) (acc : List Pkt) :
    (packetRows format [c, l, u] packet).foldlM psdStep (freq, acc) =
      .ok (some (some (format.text u)), acc ++ packetPkts format [c, l, u] packet) := by
  have hrows : packetRows format [c, l, u] packet =
      (packet c).rows format c ++ ((packet l).rows format l ++ (packet u).rows format u) := by
    simp [packetRows]
  rw [hrows, List.foldlM_append, rows_open format _ h, ok_bind, List.foldlM_append,
    rows_open format _ (fresh_of_ne format hcl), ok_bind,
    rows_open format _ (fresh_of_ne format hlu)]
  simp [packetPkts]

/-- **A file of packets at three distinct frequencies** is read packet by
packet. -/
theorem captureRows_three {c l u : Int} (hcl : c ≠ l) (hlu : l ≠ u) (huc : u ≠ c)
    (packets : List TxPacket) {freq : Option (Option String)} (h : Fresh format freq c)
    (acc : List Pkt) :
    ∃ freq', (packets.flatMap (packetRows format [c, l, u])).foldlM psdStep (freq, acc) =
      .ok (freq', acc ++ packets.flatMap (packetPkts format [c, l, u])) := by
  induction packets generalizing freq acc with
  | nil => exact ⟨freq, by simp⟩
  | cons packet packets ih =>
      obtain ⟨freq', hrest⟩ := ih (fresh_of_ne format huc)
        (acc ++ packetPkts format [c, l, u] packet)
      refine ⟨freq', ?_⟩
      rw [List.flatMap_cons, List.foldlM_append, packetRows_three format hcl hlu packet h, ok_bind,
        hrest, List.flatMap_cons, List.append_assoc]

theorem psdPkts_three {c l u : Int} (hcl : c ≠ l) (hlu : l ≠ u) (huc : u ≠ c)
    (packets : List TxPacket) :
    psdPkts (packets.flatMap (packetRows format [c, l, u])) =
      .ok (packets.flatMap (packetPkts format [c, l, u])) := by
  have fresh : Fresh format none c := by
    intro h
    exact absurd h (by simp)
  obtain ⟨freq', hread⟩ := captureRows_three format hcl hlu huc packets fresh []
  unfold psdPkts
  rw [hread]
  rfl

/-! ## How many packets a file can give -/

/-- A row opens at most one block, and none where its frequency goes on. -/
theorem psdStep_length {state state' : Option (Option String) × List Pkt} {row : Row}
    {freqMhz : Option String} (hrow : row.cell "freq_mhz" = .ok freqMhz)
    (h : psdStep state row = .ok state') :
    state'.1 = some freqMhz ∧
      state'.2.length = state.2.length + if state.1 = some freqMhz then 0 else 1 := by
  unfold psdStep at h
  obtain ⟨psd, _, h⟩ := bind_eq_ok.mp h
  rw [hrow, ok_bind] at h
  by_cases hfreq : state.1 = some freqMhz
  · rw [if_neg (not_not_intro hfreq)] at h
    cases hlast : state.2.getLast? with
    | none =>
        rw [hlast] at h
        exact absurd h (by simp)
    | some last =>
        rw [hlast] at h
        simp only [pure_eq_ok, Except.ok.injEq] at h
        subst h
        have hne : state.2 ≠ [] := by
          intro hnil
          rw [hnil] at hlast
          exact absurd hlast (by simp)
        have hpos := List.length_pos_iff.mpr hne
        refine ⟨hfreq, ?_⟩
        simp only [hfreq, if_true, List.length_append, List.length_dropLast, List.length_singleton]
        omega
  · rw [if_pos hfreq] at h
    simp only [pure_eq_ok, Except.ok.injEq] at h
    subst h
    simp [hfreq]

/-- The rows of one frequency open at most one block. -/
theorem rows_length (block : FreqBlock) {freqMhz : Int}
    {state state' : Option (Option String) × List Pkt}
    (h : (block.rows format freqMhz).foldlM psdStep state = .ok state') :
    state'.1 = some (some (format.text freqMhz)) ∧
      state'.2.length =
        state.2.length + if state.1 = some (some (format.text freqMhz)) then 0 else 1 := by
  have joined : ∀ (psds : List Numeral) (s s' : Option (Option String) × List Pkt),
      s.1 = some (some (format.text freqMhz)) →
      (psds.map (block.psdRow format freqMhz)).foldlM psdStep s = .ok s' →
      s'.1 = some (some (format.text freqMhz)) ∧ s'.2.length = s.2.length := by
    intro psds
    induction psds with
    | nil =>
        intro s s' hs hrun
        simp only [List.map_nil, List.foldlM_nil, pure_eq_ok, Except.ok.injEq] at hrun
        subst hrun
        exact ⟨hs, rfl⟩
    | cons psd psds ih =>
        intro s s' hs hrun
        rw [List.map_cons, List.foldlM_cons] at hrun
        obtain ⟨mid, hmid, hrest⟩ := bind_eq_ok.mp hrun
        have hstep := psdStep_length (psdRow_freq format block freqMhz psd) hmid
        rw [if_pos hs] at hstep
        obtain ⟨hfreq, hlen⟩ := ih mid s' hstep.1 hrest
        exact ⟨hfreq, hlen.trans hstep.2⟩
  unfold FreqBlock.rows at h
  have hne := block.psd_ne
  generalize block.psdDbmMhz = psds at hne h
  cases psds with
  | nil => exact absurd rfl hne
  | cons psd psds =>
      rw [List.map_cons, List.foldlM_cons] at h
      obtain ⟨mid, hmid, hrest⟩ := bind_eq_ok.mp h
      have hstep := psdStep_length (psdRow_freq format block freqMhz psd) hmid
      obtain ⟨hfreq, hlen⟩ := joined psds mid state' hstep.1 hrest
      exact ⟨hfreq, hlen.trans hstep.2⟩

/-- A packet gives at most one block for each frequency. -/
theorem packetRows_length {scanList : List Int} (packet : TxPacket)
    {state state' : Option (Option String) × List Pkt}
    (h : (packetRows format scanList packet).foldlM psdStep state = .ok state') :
    state'.2.length ≤ state.2.length + scanList.length := by
  induction scanList generalizing state with
  | nil =>
      simp only [packetRows, List.flatMap_nil, List.foldlM_nil, pure_eq_ok, Except.ok.injEq] at h
      subst h
      exact Nat.le_refl _
  | cons freqMhz scanList ih =>
      have hrows : packetRows format (freqMhz :: scanList) packet =
          (packet freqMhz).rows format freqMhz ++ packetRows format scanList packet := rfl
      rw [hrows, List.foldlM_append] at h
      obtain ⟨mid, hmid, hrest⟩ := bind_eq_ok.mp h
      have hblock := (rows_length format (packet freqMhz) hmid).2
      have htail := ih hrest
      rw [List.length_cons]
      split at hblock <;> omega

/-- A packet scanned at one frequency only gives at most one block. -/
theorem packetRows_length_const {scanList : List Int} {c : Int} (hconst : ∀ f ∈ scanList, f = c)
    (packet : TxPacket) {state state' : Option (Option String) × List Pkt}
    (h : (packetRows format scanList packet).foldlM psdStep state = .ok state') :
    state'.2.length ≤ state.2.length + if state.1 = some (some (format.text c)) then 0 else 1 := by
  induction scanList generalizing state with
  | nil =>
      simp only [packetRows, List.flatMap_nil, List.foldlM_nil, pure_eq_ok, Except.ok.injEq] at h
      subst h
      exact Nat.le_add_right _ _
  | cons freqMhz scanList ih =>
      have hrows : packetRows format (freqMhz :: scanList) packet =
          (packet freqMhz).rows format freqMhz ++ packetRows format scanList packet := rfl
      have hfreq := hconst freqMhz List.mem_cons_self
      subst hfreq
      rw [hrows, List.foldlM_append] at h
      obtain ⟨mid, hmid, hrest⟩ := bind_eq_ok.mp h
      obtain ⟨hsame, hblock⟩ := rows_length format (packet freqMhz) hmid
      have htail := ih (fun f hf => hconst f (List.mem_cons_of_mem _ hf)) hrest
      rw [if_pos hsame] at htail
      omega

/-- A run over packets of which each gives at most two blocks. -/
theorem captureRows_length {scanList : List Int}
    (htwo : ∀ packet state state', (packetRows format scanList packet).foldlM psdStep state =
      .ok state' → state'.2.length ≤ state.2.length + 2)
    (packets : List TxPacket) {state state' : Option (Option String) × List Pkt}
    (h : (packets.flatMap (packetRows format scanList)).foldlM psdStep state = .ok state') :
    state'.2.length ≤ state.2.length + 2 * packets.length := by
  induction packets generalizing state with
  | nil =>
      simp only [List.flatMap_nil, List.foldlM_nil, pure_eq_ok, Except.ok.injEq] at h
      subst h
      exact Nat.le_refl _
  | cons packet packets ih =>
      rw [List.flatMap_cons, List.foldlM_append] at h
      obtain ⟨mid, hmid, hrest⟩ := bind_eq_ok.mp h
      have hpacket := htwo packet _ _ hmid
      have htail := ih hrest
      rw [List.length_cons]
      omega

theorem psdPkts_length {scanList : List Int}
    (htwo : ∀ packet state state', (packetRows format scanList packet).foldlM psdStep state =
      .ok state' → state'.2.length ≤ state.2.length + 2)
    {packets : List TxPacket} {pkts : List Pkt}
    (h : psdPkts (packets.flatMap (packetRows format scanList)) = .ok pkts) :
    pkts.length ≤ 2 * packets.length := by
  unfold psdPkts at h
  obtain ⟨state, hstate, hpkts⟩ := bind_eq_ok.mp h
  simp only [pure_eq_ok, Except.ok.injEq] at hpkts
  subst hpkts
  have hlen := captureRows_length format htwo packets hstate
  simpa using hlen

end AfcDut.Analyzer
