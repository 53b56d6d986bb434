import AfcDut.Conf.HapdOrder

/-!
# Two TLVs that change places

What a request gives away whose lines are the same in every order: two of its
TLVs stand first, once in either order, and all that differs is what they write
and the width they leave.
-/

namespace AfcDut.Conf

open Indigo ControlApp Data.Lines Data.Gathered

variable {env : HapdEnv} {band : List UInt8} {table : Table} {ts : List PlacedTlv}
  {x y : PlacedTlv}

/-- Every order has the same lines. -/
def SameLines (env : HapdEnv) (band : List UInt8) (table : Table) (ts : List PlacedTlv) : Prop :=
  ∀ us, us.Perm ts →
    (confLines (hapdText env band table us)).Perm (confLines (hapdText env band table ts))

/-- Two items can stand first, in either order. -/
theorem exists_pair_first {α : Type} {l : List α} {a b : α} (ha : a ∈ l) (hb : b ∈ l)
    (hne : a ≠ b) : ∃ rest, (a :: b :: rest).Perm l ∧ (b :: a :: rest).Perm l := by
  obtain ⟨s, t, rfl⟩ := List.append_of_mem ha
  have hb' : b ∈ s ++ t := by
    rw [List.mem_append, List.mem_cons] at hb
    rw [List.mem_append]
    exact hb.imp id fun h => h.resolve_left (Ne.symm hne)
  obtain ⟨u, v, huv⟩ := List.append_of_mem hb'
  refine ⟨u ++ v, ?_, ?_⟩
  · exact ((List.perm_middle.symm.trans (.of_eq huv.symm)).cons a).trans List.perm_middle.symm
  · exact (List.Perm.swap a b _).trans
      (((List.perm_middle.symm.trans (.of_eq huv.symm)).cons a).trans List.perm_middle.symm)

/-- What two TLVs write that stand first. -/
def pairText (env : HapdEnv) (table : Table) (x y : PlacedTlv) : List UInt8 :=
  written env false false table x ++
    written env (sets tlvWpaKeyMgmt "OWE" x) (needsIcons x.id) (nextTable table x) y

theorem whole_pairText (env : HapdEnv) (table : Table) (x y : PlacedTlv) :
    Whole (pairText env table x y) :=
  (whole_written _ _ _ _ _).append (whole_written _ _ _ _ _)

theorem loopText_pair (env : HapdEnv) (table : Table) (x y : PlacedTlv)
    (rest : List PlacedTlv) : loopText env false false table (x :: y :: rest) =
      pairText env table x y ++ loopText env
        (sets tlvWpaKeyMgmt "OWE" x || sets tlvWpaKeyMgmt "OWE" y)
        (needsIcons x.id || needsIcons y.id) (nextTable (nextTable table x) y) rest := by
  rw [loopText, loopText, pairText, Bool.false_or, Bool.false_or, List.append_assoc]

/-- TLVs of distinct ids leave one table in either order. -/
theorem nextTable_comm (hne : x.id ≠ y.id) (table : Table) :
    nextTable (nextTable table x) y = nextTable (nextTable table y) x := by
  unfold nextTable
  by_cases hx : x.id = tlvOweTransitionBssIdentifier
  · rw [if_pos hx, if_pos hx, if_neg fun hy => hne (hx.trans hy.symm),
      if_neg fun hy => hne (hx.trans hy.symm)]
  · rw [if_neg hx, if_neg hx]

/-- The lines of either order, but for the rest of the loop. -/
theorem SameLines.first (h : SameLines env band table ts) (hx : x ∈ ts) (hy : y ∈ ts)
    (hne : x.id ≠ y.id) : ∃ rest, (x :: y :: rest).Perm ts ∧ (y :: x :: rest).Perm ts ∧
      (confLines (pairText env table x y) ++
        confLines (derivedLines env (finalLocals env band (x :: y :: rest)))).Perm
      (confLines (pairText env table y x) ++
        confLines (derivedLines env (finalLocals env band (y :: x :: rest)))) := by
  obtain ⟨rest, hxy, hyx⟩ := exists_pair_first hx hy fun heq => hne (congrArg PlacedTlv.id heq)
  refine ⟨rest, hxy, hyx, ?_⟩
  have hlines := (h _ hxy).trans (h _ hyx).symm
  rw [confLines_hapdText, confLines_hapdText, loopText_pair, loopText_pair, nextTable_comm hne,
    Bool.or_comm, Bool.or_comm (needsIcons x.id), confLines_append (whole_pairText _ _ _ _),
    confLines_append (whole_pairText _ _ _ _)] at hlines
  simp only [List.append_assoc, List.perm_append_left_iff] at hlines
  have hswap : ∀ p r d : List (List UInt8), (p ++ (r ++ d)).Perm (r ++ (p ++ d)) :=
    fun p r d => List.perm_append_comm_assoc p r d
  exact (List.perm_append_left_iff _).mp ((hswap _ _ _).symm.trans (hlines.trans (hswap _ _ _)))

/-- Two TLVs of which at most one is a width. -/
theorem SameLines.pair (h : SameLines env band table ts) (hids : (ts.map PlacedTlv.id).Nodup)
    (hx : x ∈ ts) (hy : y ∈ ts) (hne : x.id ≠ y.id) (hwidth : isWidth y = false) :
    (confLines (pairText env table x y)).Perm (confLines (pairText env table y x)) := by
  obtain ⟨rest, hxy, hyx, hlines⟩ := h.first hx hy hne
  have hlast : lastInt isWidth 1 (x :: y :: rest) = lastInt isWidth 1 (y :: x :: rest) := by
    unfold lastInt
    rw [lastValue_cons, lastValue_cons, lastValue_cons, lastValue_cons, hwidth]
    rfl
  have hlocals : finalLocals env band (x :: y :: rest) = finalLocals env band (y :: x :: rest) := by
    rw [finalLocals_perm hids hxy, finalLocals_perm hids hyx, hlast]
  rw [hlocals] at hlines
  exact (List.perm_append_right_iff _).mp hlines

/-- They write as many characters in either order. -/
theorem SameLines.chars (h : SameLines env band table ts) (hids : (ts.map PlacedTlv.id).Nodup)
    (hx : x ∈ ts) (hy : y ∈ ts) (hne : x.id ≠ y.id) (hwidth : isWidth y = false) :
    (pairText env table x y).length = (pairText env table y x).length :=
  length_eq_of_perm (whole_pairText _ _ _ _) (whole_pairText _ _ _ _)
    (h.pair hids hx hy hne hwidth)

/-! ## An OWE transition and another TLV -/

theorem isWidth_owe {t : PlacedTlv} (hid : t.id = tlvOweTransitionBssIdentifier) :
    isWidth t = false := by
  apply decide_eq_false
  rw [hid]
  decide

theorem nextTable_of_ne {t : PlacedTlv} (hid : t.id ≠ tlvOweTransitionBssIdentifier)
    (table : Table) : nextTable table t = table := if_neg hid

theorem SameLines.owe (h : SameLines env band table ts) (hids : (ts.map PlacedTlv.id).Nodup)
    {t u : PlacedTlv} (ht : t ∈ ts) (hid : t.id = tlvOweTransitionBssIdentifier)
    (hwlan : (oweWlan table (atoi t.value)).2.isSome) (hu : u ∈ ts) :
    sets tlvWpaKeyMgmt "OWE" u = false := by
  by_contra hon
  rw [Bool.not_eq_false] at hon
  have huid : u.id = tlvWpaKeyMgmt := (of_decide_eq_true hon).1
  have hother : ∀ id ∈ [tlvBssIdentifier, tlvHessid, tlvOweTransitionBssIdentifier], u.id ≠ id := by
    rw [huid]
    decide
  simp only [List.forall_mem_cons] at hother
  obtain ⟨hbss, hhessid, howe, -⟩ := hother
  have hchars := h.chars hids hu ht (fun heq => howe (heq.trans hid)) (isWidth_owe hid)
  have hsame : ∀ hasOwe' hasIcons' table', (written env hasOwe' hasIcons' table' u).length =
      (written env false false table u).length := by
    intro hasOwe' hasIcons' table'
    rw [written_of_not_needsIcons env hasOwe' hasIcons' table' (t := u) (by rw [huid]; decide)]
    exact congrArg List.length (written_of_ne env _ _ _ rfl hbss hhessid howe)
  obtain ⟨i, hi⟩ := Option.isSome_iff_exists.mp hwlan
  rw [pairText, pairText, List.length_append, List.length_append, hon, nextTable_of_ne howe,
    written_owe env _ _ _ hid, written_owe env _ _ _ hid, length_oweLines rfl,
    length_oweLines rfl, hsame (sets tlvWpaKeyMgmt "OWE" t)] at hchars
  simp only [oweChars, hi] at hchars
  simp at hchars
  omega

/-- The lines of an OWE transition that no `OWE` has come before. -/
theorem written_owe_second {t u : PlacedTlv} (hid : t.id = tlvOweTransitionBssIdentifier)
    (hu : u.id ≠ tlvOweTransitionBssIdentifier) (hkey : u.id ≠ tlvWpaKeyMgmt)
    (hasIcons : Bool) : written env (sets tlvWpaKeyMgmt "OWE" u) hasIcons (nextTable table u) t =
      written env false false table t := by
  have hoff : sets tlvWpaKeyMgmt "OWE" u = false := decide_eq_false fun h => hkey h.1
  rw [hoff, nextTable_of_ne hu, written_owe env _ _ _ hid, written_owe env _ _ _ hid]

theorem SameLines.bss (h : SameLines env band table ts) (hids : (ts.map PlacedTlv.id).Nodup)
    {t u : PlacedTlv} (ht : t ∈ ts) (hid : t.id = tlvOweTransitionBssIdentifier) (hu : u ∈ ts)
    (huid : u.id = tlvBssIdentifier) (hmbssid : env.wlanp.mbssidEnable = false) :
    isBandEnabled (oweWlan table (atoi t.value)).1 band6ghz = isBandEnabled table band6ghz := by
  have howe : u.id ≠ tlvOweTransitionBssIdentifier := by
    rw [huid]
    decide
  have hkey : u.id ≠ tlvWpaKeyMgmt := by
    rw [huid]
    decide
  have hchars := h.chars hids hu ht (fun heq => howe (heq.trans hid)) (isWidth_owe hid)
  rw [pairText, pairText, List.length_append, List.length_append,
    written_owe_second hid howe hkey, written_bss env _ _ _ huid, written_bss env _ _ _ huid,
    nextTable, if_pos hid] at hchars
  unfold rnrLine at hchars
  rw [hmbssid] at hchars
  cases hnew : isBandEnabled (oweWlan table (atoi t.value)).1 band6ghz <;>
    cases hold : isBandEnabled table band6ghz <;> rw [hnew, hold] at hchars <;> simp at hchars

theorem newline_not_mem_macText (mac : Fin 6 → UInt8) : newline ∉ macText mac := by
  have hdigit : ∀ n < 16, newline ≠ hexDigit n := by decide
  have hbyte : ∀ i, newline ≠ hexDigit ((mac i).toNat / 16) ∧
      newline ≠ hexDigit ((mac i).toNat % 16) := by
    intro i
    have hlt := (mac i).toNat_lt
    exact ⟨hdigit _ (by omega), hdigit _ (by omega)⟩
  have hcolon : newline ≠ 58 := by decide
  simp [macText, hexByte, hbyte, hcolon]

theorem confLines_selfHessid (env : HapdEnv) (table : Table) :
    confLines (selfHessid env table) = [hessidName ++ equalsSign :: env.macAddr table] := by
  apply linesOf_line
  have hname : newline ∉ hessidName ++ [equalsSign] := by decide
  have hmac : newline ∉ env.macAddr table := by
    unfold HapdEnv.macAddr
    cases env.macAddress (getWirelessInterface table) with
    | none => exact List.not_mem_nil
    | some mac => exact newline_not_mem_macText mac
  rw [show cString "hessid" ++ equalsSign :: env.macAddr table =
    (hessidName ++ [equalsSign]) ++ env.macAddr table by simp [hessidName], List.mem_append, not_or]
  exact ⟨hname, hmac⟩

theorem SameLines.hessid (h : SameLines env band table ts) (hids : (ts.map PlacedTlv.id).Nodup)
    {t u : PlacedTlv} (ht : t ∈ ts) (hid : t.id = tlvOweTransitionBssIdentifier) (hu : u ∈ ts)
    (huid : u.id = tlvHessid) (hself : u.contains "self" = true) :
    env.macAddr (oweWlan table (atoi t.value)).1 = env.macAddr table := by
  have howe : u.id ≠ tlvOweTransitionBssIdentifier := by
    rw [huid]
    decide
  have hkey : u.id ≠ tlvWpaKeyMgmt := by
    rw [huid]
    decide
  have hwhole : Whole (selfHessid env table) := whole_configLine _ _
  have hlines := h.pair hids hu ht (fun heq => howe (heq.trans hid)) (isWidth_owe hid)
  rw [pairText, pairText, written_owe_second hid howe hkey, written_hessid env _ _ _ huid,
    written_hessid env _ _ _ huid, if_pos hself, if_pos hself, nextTable, if_pos hid,
    confLines_append hwhole,
    confLines_append (whole_written _ _ _ _ _), confLines_selfHessid, confLines_selfHessid] at hlines
  have hline := (List.perm_append_left_iff _).mp (List.perm_append_comm.trans hlines)
  have hsame := List.append_cancel_left
    (List.cons_eq_cons.mp (List.perm_singleton.mp hline)).1
  exact (List.cons_eq_cons.mp hsame).2.symm

/-! ## Two widths -/

/-- A width writes the same wherever it stands. -/
theorem written_width {t : PlacedTlv} (hwidth : isWidth t = true) (hasOwe hasIcons : Bool)
    (table' : Table) :
    written env hasOwe hasIcons table' t = written env false false table t := by
  have hid : t.id = tlvHeOperChwidth ∨ t.id = tlvVhtOperChwidth := of_decide_eq_true hwidth
  have hother : ∀ id ∈ [tlvBssIdentifier, tlvHessid, tlvOweTransitionBssIdentifier], t.id ≠ id := by
    rcases hid with hid | hid <;> rw [hid] <;> decide
  have hicons : needsIcons t.id = false := by
    rcases hid with hid | hid <;> rw [hid] <;> decide
  simp only [List.forall_mem_cons] at hother
  obtain ⟨hbss, hhessid, howe, -⟩ := hother
  rw [written_of_not_needsIcons env hasOwe hasIcons table' hicons]
  exact written_of_ne env _ _ _ rfl hbss hhessid howe

/-- The width that is left when two widths stand first. -/
theorem lastInt_pair {rest : List PlacedTlv} (hids : ((x :: y :: rest).map PlacedTlv.id).Nodup)
    (hx : isWidth x = true) (hy : isWidth y = true) :
    lastInt isWidth 1 (x :: y :: rest) = atoi y.value := by
  rw [List.map_cons, List.map_cons, List.nodup_cons, List.nodup_cons, List.mem_cons, not_or] at hids
  have hnone : rest.filter isWidth = [] := by
    rw [List.filter_eq_nil_iff]
    intro z hz hwidth
    have hzx : z.id ≠ x.id := fun heq => hids.1.2 (heq ▸ List.mem_map_of_mem hz)
    have hzy : z.id ≠ y.id := fun heq => hids.2.1 (heq ▸ List.mem_map_of_mem hz)
    rcases of_decide_eq_true hx with hxid | hxid <;> rcases of_decide_eq_true hy with hyid | hyid <;>
      rcases of_decide_eq_true hwidth with hzid | hzid <;> simp_all
  unfold lastInt
  rw [lastValue_cons, lastValue_cons, if_pos hy, lastValue, hnone]
  rfl

theorem confLines_derivedLines (env : HapdEnv) (f : HapdLocals) :
    confLines (derivedLines env f) =
      confLines (wpsRfBands f ++ pmfLine f ++ saeRequireMfp f ++ multipleBssid env ++ saeGroups f) ++
        (confLines (channelWidthLines env f) ++
          (confLines (muedcaLines f) ++ confLines (hs20Lines f))) := by
  rw [derivedLines, List.append_assoc, List.append_assoc, confLines_append (whole_narrowLines env f),
    confLines_append (whole_channelWidthLines env f), confLines_append (whole_muedcaLines f)]

/-- The lines of the width for either of two widths. -/
theorem SameLines.widths (h : SameLines env band table ts) (hids : (ts.map PlacedTlv.id).Nodup)
    (hx : x ∈ ts) (hy : y ∈ ts) (hne : x.id ≠ y.id) (hwx : isWidth x = true)
    (hwy : isWidth y = true) :
    (confLines (channelWidthLines env { finalLocals env band ts with chwidth := atoi y.value })).Perm
      (confLines
        (channelWidthLines env { finalLocals env band ts with chwidth := atoi x.value })) := by
  obtain ⟨rest, hxy, hyx, hlines⟩ := h.first hx hy hne
  have hids' : ∀ us : List PlacedTlv, us.Perm ts → (us.map PlacedTlv.id).Nodup :=
    fun us hperm => (hperm.map _).nodup_iff.mpr hids
  have hpair : (confLines (pairText env table x y)).Perm (confLines (pairText env table y x)) := by
    rw [pairText, pairText, written_width hwy (sets tlvWpaKeyMgmt "OWE" x),
      written_width hwx (sets tlvWpaKeyMgmt "OWE" y), confLines_append (whole_written _ _ _ _ _),
      confLines_append (whole_written _ _ _ _ _)]
    exact List.perm_append_comm
  have hderived := (List.perm_append_left_iff _).mp ((hpair.symm.append_right _).trans hlines)
  rw [finalLocals_perm hids hxy, finalLocals_perm hids hyx, lastInt_pair (hids' _ hxy) hwx hwy,
    lastInt_pair (hids' _ hyx) hwy hwx, confLines_derivedLines, confLines_derivedLines] at hderived
  exact (List.perm_append_right_iff _).mp ((List.perm_append_left_iff _).mp hderived)

/-! ## What the lines say of a width -/

theorem confLines_textLine {line : String} (h : newline ∉ cString line) :
    confLines (textLine line) = [cString line] := linesOf_line h

theorem confLines_intLine {name : String} (h : newline ∉ cString name) (n : Int) :
    confLines (intLine name n) = [cString name ++ equalsSign :: intText n] := by
  apply linesOf_line
  rw [List.mem_append, List.mem_cons, not_or, not_or]
  exact ⟨h, by decide, newline_not_mem_intText n⟩

/-- The lines of a width of 6 GHz that are not in every one. -/
def classLines (env : HapdEnv) (f : HapdLocals) : List UInt8 :=
  opClass f.width ++ intLine "he_oper_centr_freq_seg0_idx"
    (get6gCenterFreqIndex env.noReturn f.channel f.width)

/-- The operating class tells the two wide widths from the others. -/
theorem mem_classLines (env : HapdEnv) (f : HapdLocals) :
    (cString "op_class=133" ∈ confLines (classLines env f) ↔ f.width = 1) ∧
      (cString "op_class=134" ∈ confLines (classLines env f) ↔ f.width = 2) := by
  have hother : ∀ line : String, (cString line).head? = some 111 → ∀ n,
      cString line ≠ cString "he_oper_centr_freq_seg0_idx" ++ equalsSign :: intText n := by
    intro line hhead n heq
    rw [heq] at hhead
    exact absurd hhead (show some 104 ≠ some 111 by decide)
  have h133 := hother "op_class=133" (by decide)
  have h134 := hother "op_class=134" (by decide)
  have hne : cString "op_class=133" ≠ cString "op_class=134" := by decide
  rw [classLines, confLines_append (whole_opClass _), confLines_intLine (by decide),
    List.mem_append, List.mem_append, List.mem_singleton, List.mem_singleton]
  unfold opClass
  by_cases h1 : f.width = 1
  · rw [if_pos h1, confLines_textLine (by decide)]
    simp [h1, hne.symm, h134]
  · by_cases h2 : f.width = 2
    · rw [if_neg h1, if_pos h2, confLines_textLine (by decide)]
      simp [h2, hne, h133]
    · rw [if_neg h1, if_neg h2]
      simp [h1, h2, h133, h134, confLines, linesOf]

theorem sameWidth6g_of_lines {f g : HapdLocals} (hset : f.chwidthset = true)
    (hset' : g.chwidthset = true) (hinterval : f.unsolPrRespInterval = g.unsolPrRespInterval)
    (h : (confLines (lines6g env f)).Perm (confLines (lines6g env g))) :
    SameWidth6g f.width g.width := by
  have hsplit : ∀ f' : HapdLocals, f'.chwidthset = true → ∃ rest,
      confLines (lines6g env f') = confLines (classLines env f') ++ rest ∧
      rest = confLines ((if f'.unsolPrRespInterval ≠ 0 then
          intLine "unsol_bcast_probe_resp_interval" f'.unsolPrRespInterval
        else textLine "fils_discovery_max_interval=20") ++
        (textLine "he_bss_color=19" ++ (textLine "ieee80211d=1" ++
          textLine "country_code=US"))) := by
    intro f' hon
    have hwhole : Whole (classLines env f') := (whole_opClass _).append (whole_intLine _ _)
    refine ⟨_, ?_, rfl⟩
    rw [← confLines_append hwhole, lines6g, hon]
    simp only [if_true, List.nil_append, List.append_assoc, classLines]
  obtain ⟨rest, hf, hrest⟩ := hsplit f hset
  obtain ⟨rest', hg, hrest'⟩ := hsplit g hset'
  rw [hf, hg, hrest, hrest', hinterval, List.perm_append_right_iff] at h
  have h133 := (mem_classLines env f).1.symm.trans (h.mem_iff.trans (mem_classLines env g).1)
  have h134 := (mem_classLines env f).2.symm.trans (h.mem_iff.trans (mem_classLines env g).2)
  unfold SameWidth6g
  omega

/-- The digits of the channel in the middle of a wide one. -/
theorem intChars_centerFreq (channel width : Int) :
    1 ≤ intChars (getCenterFreqIndex channel width) ∧
      intChars (getCenterFreqIndex channel width) ≤ 3 := by
  have hmem : getCenterFreqIndex channel width ∈
      ([0, 42, 58, 106, 122, 138, 155, 50, 114] : List Int) := by
    unfold getCenterFreqIndex
    split_ifs <;> decide
  have hall : ∀ n ∈ ([0, 42, 58, 106, 122, 138, 155, 50, 114] : List Int),
      1 ≤ intChars n ∧ intChars n ≤ 3 := by decide
  exact hall _ hmem

theorem intChars_centerFreq_80 {channel : Int} (h : isHt40Chan channel = true) :
    2 ≤ intChars (getCenterFreqIndex channel 1) := by
  have hall : ∀ n ∈ ([36, 44, 52, 60, 100, 108, 116, 124, 132, 140, 149, 157, 40, 48, 56, 64, 104,
      112, 120, 128, 136, 144, 153, 161] : List Int), 2 ≤ intChars (getCenterFreqIndex n 1) := by
    decide +kernel
  apply hall
  simp only [isHt40Chan, isHt40plusChan, isHt40minusChan, Bool.or_eq_true, decide_eq_true_eq] at h
  simp only [List.mem_cons, List.not_mem_nil, or_false] at h ⊢
  omega

/-- The characters of a width of 5 GHz: the wider of the known ones has more. -/
theorem wideChars_bounds {f : HapdLocals} (hset : f.chwidthset = true)
    (hvht : f.vhtChwidthset = true) (hon : f.enableAc = true ∨ f.enableAx = true)
    (hht40 : isHt40Chan f.channel = true) {least : Nat}
    (hleast : least = (if f.enableAc then 31 else 0) + if f.enableAx then 30 else 0) :
    0 < least ∧ (3 ≤ f.width → wideChars f = least) ∧
      (f.width = 1 → least < wideChars f ∧ wideChars f ≤ least + 4) ∧
      (f.width = 2 → least + 4 < wideChars f) := by
  have hbounds := intChars_centerFreq f.channel f.width
  have hwide : 3 ≤ f.width → intChars (getCenterFreqIndex f.channel f.width) = 1 := by
    intro hle
    rw [getCenterFreqIndex_of_wide _ hle]
    rfl
  have h80 : f.width = 1 → 2 ≤ intChars (getCenterFreqIndex f.channel f.width) := by
    intro h1
    rw [h1]
    exact intChars_centerFreq_80 hht40
  unfold wideChars
  rw [hset, hvht]
  generalize intChars (getCenterFreqIndex f.channel f.width) = chars at *
  by_cases h2 : f.width = 2
  · cases hac : f.enableAc <;> cases hax : f.enableAx <;> simp_all <;> omega
  · cases hac : f.enableAc <;> cases hax : f.enableAx <;> simp_all <;> omega

theorem sameWidth5g_of_length {f g : HapdLocals} (hset : f.chwidthset = true)
    (hset' : g.chwidthset = true) (hvht : f.vhtChwidthset = true)
    (hvht' : g.vhtChwidthset = true) (hchannel : f.channel = g.channel)
    (hac : f.enableAc = g.enableAc) (hax : f.enableAx = g.enableAx)
    (hon : f.enableAc = true ∨ f.enableAx = true) (hht40 : isHt40Chan f.channel = true)
    (h : (lines5g f).length = (lines5g g).length) : SameWidth5g f.width g.width := by
  have hf := wideChars_bounds hset hvht hon hht40 rfl
  rw [hchannel] at hht40
  rw [hac, hax] at hf hon
  have hg := wideChars_bounds hset' hvht' hon hht40 rfl
  unfold isHt40Chan at hht40
  rw [length_lines5g, length_lines5g, hchannel, if_pos hht40, if_pos hht40] at h
  generalize ((if g.enableAc then 31 else 0) + if g.enableAx then 30 else 0) = least at *
  obtain ⟨hpos, hf3, hf1, hf2⟩ := hf
  obtain ⟨-, hg3, hg1, hg2⟩ := hg
  unfold SameWidth5g
  by_cases hfpos : f.width > 0
  · by_cases hgpos : g.width > 0
    · rw [if_pos hfpos, if_pos hgpos] at h
      omega
    · rw [if_pos hfpos, if_neg hgpos] at h
      omega
  · by_cases hgpos : g.width > 0
    · rw [if_neg hfpos, if_pos hgpos] at h
      omega
    · omega

/-- The two widths of a request, in the lines that either order leaves. -/
theorem SameLines.widthLines (h : SameLines env band table ts)
    (hids : (ts.map PlacedTlv.id).Nodup) {t u : PlacedTlv} (ht : t ∈ ts)
    (hhe : t.id = tlvHeOperChwidth) (hu : u ∈ ts) (hvht : u.id = tlvVhtOperChwidth) :
    (confLines (channelWidthLines env { finalLocals env band ts with chwidth := atoi t.value })).Perm
      (confLines
        (channelWidthLines env { finalLocals env band ts with chwidth := atoi u.value })) := by
  refine (h.widths hids ht hu ?_ (decide_eq_true (.inl hhe)) (decide_eq_true (.inr hvht))).symm
  rw [hhe, hvht]
  decide

theorem SameLines.width6g (h : SameLines env band table ts) (hids : (ts.map PlacedTlv.id).Nodup)
    {t u : PlacedTlv} (ht : t ∈ ts) (hhe : t.id = tlvHeOperChwidth) (hu : u ∈ ts)
    (hvht : u.id = tlvVhtOperChwidth)
    (hon : (finalLocals env band ts).enableAc = true ∨ (finalLocals env band ts).enableAx = true)
    (h6g : (finalLocals env band ts).is6gOnly = true) :
    SameWidth6g (atoi t.value) (atoi u.value) := by
  have hlines := h.widthLines hids ht hhe hu hvht
  have hset : (finalLocals env band ts).chwidthset = true :=
    List.any_eq_true.mpr ⟨t, ht, decide_eq_true hhe⟩
  have h6gLines : ∀ n, channelWidthLines env { finalLocals env band ts with chwidth := n } =
      lines6g env { finalLocals env band ts with chwidth := n } := fun n => if_pos h6g
  have hwidth : ∀ n, ({ finalLocals env band ts with chwidth := n } : HapdLocals).width = n :=
    fun n => width_of_on hon
  rw [h6gLines, h6gLines] at hlines
  have hsame := sameWidth6g_of_lines
    (f := { finalLocals env band ts with chwidth := atoi t.value })
    (g := { finalLocals env band ts with chwidth := atoi u.value }) hset hset rfl hlines
  rwa [hwidth, hwidth] at hsame

theorem SameLines.width5g (h : SameLines env band table ts) (hids : (ts.map PlacedTlv.id).Nodup)
    {t u : PlacedTlv} (ht : t ∈ ts) (hhe : t.id = tlvHeOperChwidth) (hu : u ∈ ts)
    (hvht : u.id = tlvVhtOperChwidth)
    (hon : (finalLocals env band ts).enableAc = true ∨ (finalLocals env band ts).enableAx = true)
    (h6g : (finalLocals env band ts).is6gOnly = false)
    (hband : bandHasA (finalLocals env band ts).band = true)
    (hht40 : isHt40Chan (finalLocals env band ts).channel = true) :
    SameWidth5g (atoi t.value) (atoi u.value) := by
  have hlines := h.widthLines hids ht hhe hu hvht
  have hset : (finalLocals env band ts).chwidthset = true :=
    List.any_eq_true.mpr ⟨t, ht, decide_eq_true hhe⟩
  have hvhtset : (finalLocals env band ts).vhtChwidthset = true :=
    List.any_eq_true.mpr ⟨u, hu, decide_eq_true hvht⟩
  have h5gLines : ∀ n, channelWidthLines env { finalLocals env band ts with chwidth := n } =
      lines5g { finalLocals env band ts with chwidth := n } := by
    intro n
    show (if (finalLocals env band ts).is6gOnly then _
      else if bandHasA (finalLocals env band ts).band then _ else _) = _
    rw [h6g, hband]
    rfl
  have hwidth : ∀ n, ({ finalLocals env band ts with chwidth := n } : HapdLocals).width = n :=
    fun n => width_of_on hon
  have hlen := length_eq_of_perm (whole_channelWidthLines env _) (whole_channelWidthLines env _)
    hlines
  rw [h5gLines, h5gLines] at hlen
  have hsame := sameWidth5g_of_length
    (f := { finalLocals env band ts with chwidth := atoi t.value })
    (g := { finalLocals env band ts with chwidth := atoi u.value })
    hset hset hvhtset hvhtset rfl rfl rfl hon hht40 hlen
  rwa [hwidth, hwidth] at hsame

end AfcDut.Conf
