import AfcDut.Conf.Band
import AfcDut.Conf.HapdLines
import AfcDut.Conf.Placement

/-!
# What the request decides

`generate_hostapd_config` searches some values as strings although they have no
terminator, and reads `band` whether or not a TLV has set it. The requests
whose text does not depend on what is found there.
-/

namespace AfcDut.Conf

open Indigo ControlApp Data.Gathered

variable (env : HapdEnv) (table : Table)

/-! ## What must be decided -/

/-- The lines of a TLV, behind the TLVs `before`. A HESSID whose value goes on
behind its end must say what `self` would say, and an OWE transition must know
of `OWE`. -/
structure LineDecided (before : List TlvHdr) (hdr : TlvHdr) : Prop where
  hessid : hdr.id = tlvHessid →
    (bare hdr).contains "self" = true ∨ 0 ∈ (bare hdr).value ∨
      (bare hdr).value = env.macAddr (finalTable table (bareTlvs before))
  owe : hdr.id = tlvOweTransitionBssIdentifier →
    (oweWlan (finalTable table (bareTlvs before)) (atoi (bare hdr).value)).2.isSome →
    ¬ Undecided before tlvWpaKeyMgmt (sets tlvWpaKeyMgmt "OWE")

/-- A band is given, and its string either ends in the local or has its `a`
there. -/
def BandDecided (hdrs : List TlvHdr) : Prop :=
  ∃ t, ((bareTlvs hdrs).filter (hasId tlvHwMode)).getLast? = some t ∧
    (t.value.length < bandSize ∨ 0 ∈ t.value ∨ 97 ∈ t.value)

def isHt40Chan (chan : Int) : Bool := isHt40plusChan chan || isHt40minusChan chan

/-- The request decides every line; the locals are those of the run in which a
NUL follows each value. -/
structure Decides (hdrs : List TlvHdr) : Prop where
  goesThrough : ∀ t ∈ bareTlvs hdrs, TlvOk t
  lines : ∀ before hdr after, hdrs = before ++ hdr :: after → LineDecided env table before hdr
  sae : ¬ Undecided hdrs tlvWpaKeyMgmt (sets tlvWpaKeyMgmt "SAE")
  hs20 : ¬ Undecided hdrs tlvHs20 (sets tlvHs20 "1")
  transition : (finalLocals env [] (bareTlvs hdrs)).hasPmf = false →
    ¬ Undecided hdrs tlvWpaKeyMgmt isTransition
  wpa : (finalLocals env [] (bareTlvs hdrs)).hasPmf = false →
    (finalLocals env [] (bareTlvs hdrs)).hasTransition = false →
    (finalLocals env [] (bareTlvs hdrs)).hasOwe = false → ¬ Undecided hdrs tlvWpa (sets tlvWpa "2")
  rfBand : (finalLocals env [] (bareTlvs hdrs)).enableWps = true →
    (finalLocals env [] (bareTlvs hdrs)).useMbss = false → ∃ hdr ∈ hdrs, hdr.id = tlvHwMode
  channelBand : (finalLocals env [] (bareTlvs hdrs)).is6gOnly = false →
    isHt40Chan (finalLocals env [] (bareTlvs hdrs)).channel = true → BandDecided hdrs
  width6g : (finalLocals env [] (bareTlvs hdrs)).is6gOnly = true →
    (finalLocals env [] (bareTlvs hdrs)).chwidth ≠ 0 →
    ((finalLocals env [] (bareTlvs hdrs)).chwidthset = true →
      (finalLocals env [] (bareTlvs hdrs)).chwidth = 1 ∨
        (finalLocals env [] (bareTlvs hdrs)).chwidth = 2) →
    (finalLocals env [] (bareTlvs hdrs)).enableAc = false →
    (finalLocals env [] (bareTlvs hdrs)).enableAx = false →
    ¬ Reaches hdrs tlvIeee80211Ac ∧ ¬ Reaches hdrs tlvIeee80211Ax
  width5g : (finalLocals env [] (bareTlvs hdrs)).is6gOnly = false →
    bandHasA (finalLocals env [] (bareTlvs hdrs)).band = true →
    isHt40Chan (finalLocals env [] (bareTlvs hdrs)).channel = true →
    0 < (finalLocals env [] (bareTlvs hdrs)).chwidth →
    ¬ Undecided hdrs tlvIeee80211Ac (sets tlvIeee80211Ac "1") ∧
      ¬ Undecided hdrs tlvIeee80211Ax (sets tlvIeee80211Ax "1")

/-! ## A decided request -/

section

variable {env table} {ts : List PlacedTlv} {t : PlacedTlv}

/-- A HESSID that reads like its own `self`. -/
theorem written_hessid_self (hasOwe hasIcons : Bool) (hid : t.id = tlvHessid)
    (hnul : 0 ∉ t.value) (hvalue : t.value = env.macAddr table) :
    written env hasOwe hasIcons table t = selfHessid env table := by
  rw [written_hessid env _ _ _ hid]
  split
  · rfl
  · rw [cText_of_not_mem hnul, hvalue]
    rfl

theorem written_hessid_of_decided (hasOwe hasOwe' hasIcons : Bool) (hid : t.id = tlvHessid)
    (h : (bare t.hdr).contains "self" = true ∨ 0 ∈ t.value ∨ t.value = env.macAddr table) :
    written env hasOwe hasIcons table t = written env hasOwe' hasIcons table (bare t.hdr) := by
  by_cases hnul : 0 ∈ t.value
  · rw [written_hessid env _ _ _ hid, written_hessid env _ _ _ (show (bare t.hdr).id = _ from hid),
      contains_of_nul hnul]
    rfl
  · rcases h with hself | hmem | hmac
    · rw [written_hessid env _ _ _ hid,
        written_hessid env _ _ _ (show (bare t.hdr).id = _ from hid), if_pos hself,
        if_pos (contains_of_bare hself)]
    · exact absurd hmem hnul
    · rw [written_hessid_self hasOwe hasIcons hid hnul hmac,
        written_hessid_self hasOwe' hasIcons (show (bare t.hdr).id = _ from hid) hnul hmac]

/-- One TLV of a decided request. -/
theorem written_of_decided {before : List PlacedTlv} (hasIcons : Bool)
    (h : LineDecided env table (before.map PlacedTlv.hdr) t.hdr) :
    written env (before.any (sets tlvWpaKeyMgmt "OWE")) hasIcons (finalTable table before) t =
      written env ((bareTlvs (before.map PlacedTlv.hdr)).any (sets tlvWpaKeyMgmt "OWE")) hasIcons
        (finalTable table before) (bare t.hdr) := by
  have htable : finalTable table (bareTlvs (before.map PlacedTlv.hdr)) = finalTable table before :=
    finalTable_congr table (map_hdr_bareTlvs _)
  by_cases hhessid : t.id = tlvHessid
  · have hself := h.hessid hhessid
    rw [htable] at hself
    exact written_hessid_of_decided _ _ hasIcons hhessid hself
  · by_cases howe : t.id = tlvOweTransitionBssIdentifier
    · have hknown := h.owe howe
      rw [htable] at hknown
      rw [written_owe env _ _ _ howe,
        written_owe env _ _ _ (show (bare t.hdr).id = tlvOweTransitionBssIdentifier from howe)]
      show oweLines oweConfig _ (oweWlan (finalTable table before) (atoi t.value)) =
        oweLines oweConfig _ (oweWlan (finalTable table before) (atoi t.value))
      cases hwlan : (oweWlan (finalTable table before) (atoi t.value)).2 with
      | none => simp only [oweLines, hwlan]
      | some i =>
          rw [any_of_decided (searches_sets _ _) (hknown (by
            show ((oweWlan (finalTable table before) (atoi t.value)).2).isSome = true
            rw [hwlan]
            rfl))]
    · by_cases hbss : t.id = tlvBssIdentifier
      · rw [written_bss env _ _ _ hbss, written_bss env _ _ _ (show (bare t.hdr).id = _ from hbss)]
      · exact written_of_ne env _ _ _ rfl hbss hhessid howe

/-- The TLVs behind `before`. -/
theorem loopText_of_decided (before : List PlacedTlv) (hasIcons : Bool)
    (h : ∀ l t r, ts = l ++ t :: r →
      LineDecided env table ((before ++ l).map PlacedTlv.hdr) t.hdr) :
    loopText env (before.any (sets tlvWpaKeyMgmt "OWE")) hasIcons (finalTable table before) ts =
      loopText env ((bareTlvs (before.map PlacedTlv.hdr)).any (sets tlvWpaKeyMgmt "OWE")) hasIcons
        (finalTable table before) (bareTlvs (ts.map PlacedTlv.hdr)) := by
  induction ts generalizing before hasIcons with
  | nil => rfl
  | cons t ts ih =>
      have hfirst : LineDecided env table (before.map PlacedTlv.hdr) t.hdr := by
        have hsplit := h [] t ts rfl
        rwa [List.append_nil] at hsplit
      have hrest := ih (before ++ [t]) (hasIcons || needsIcons t.id) (by
        intro l u r hts
        rw [List.append_assoc]
        exact h (t :: l) u r (by rw [hts]; rfl))
      have htable : finalTable table (before ++ [t]) = nextTable (finalTable table before) t := by
        rw [finalTable, List.foldl_append]
        rfl
      rw [htable, List.any_append, List.map_append, bareTlvs, List.map_append, List.any_append,
        List.any_cons, List.any_nil, Bool.or_false, List.map_singleton, List.map_singleton,
        List.any_cons, List.any_nil, Bool.or_false] at hrest
      rw [loopText, written_of_decided hasIcons hfirst, hrest]
      rfl

/-! ## The derived lines -/

variable {hdrs : List TlvHdr}

/-- What does not depend on the memory behind the values. -/
theorem finalLocals_eq (env : HapdEnv) (ts : List PlacedTlv) (band : List UInt8) :
    finalLocals env band ts = { finalLocals env [] (bareTlvs (ts.map PlacedTlv.hdr)) with
      hasSae := ts.any (sets tlvWpaKeyMgmt "SAE")
      hasWpa := ts.any (sets tlvWpa "2")
      hasOwe := ts.any (sets tlvWpaKeyMgmt "OWE")
      hasTransition := ts.any isTransition
      enableAx := ts.any (sets tlvIeee80211Ax "1")
      enableAc := ts.any (sets tlvIeee80211Ac "1")
      enableHs20 := ts.any (sets tlvHs20 "1")
      band := ts.foldl writeHwMode band } := by
  have hany : ∀ test : PlacedTlv → Bool, (∀ t, test (bare t.hdr) = test t) →
      (bareTlvs (ts.map PlacedTlv.hdr)).any test = ts.any test := by
    intro test htest
    rw [bareTlvs_map, List.any_map]
    congr 1
    funext t
    exact htest t
  have hlast : ∀ (kind : PlacedTlv → Bool) (old : Int), (∀ t, kind (bare t.hdr) = kind t) →
      lastInt kind old (bareTlvs (ts.map PlacedTlv.hdr)) = lastInt kind old ts := by
    intro kind old hkind
    rw [bareTlvs_map]
    exact lastValue_map hkind (fun _ => rfl) old ts
  ext : 1
  case hasPmf => exact (hany (hasId tlvIeee80211W) fun _ => rfl).symm
  case hasSaeGroups => exact (hany (hasId tlvSaeGroups) fun _ => rfl).symm
  case channel => exact (hlast (hasId tlvChannel) 0 fun _ => rfl).symm
  case chwidth => exact (hlast isWidth 1 fun _ => rfl).symm
  case chwidthset => exact (hany (hasId tlvHeOperChwidth) fun _ => rfl).symm
  case enableMuedca => exact (hany (hasId tlvHeMuEdca) fun _ => rfl).symm
  case vhtChwidthset => exact (hany (hasId tlvVhtOperChwidth) fun _ => rfl).symm
  case enableWps =>
    exact congrArg (· && env.wpsSettings.isSome) (hany (hasId tlvWpsEnable) fun _ => rfl).symm
  case useMbss => exact (hany (hasId tlvBssIdentifier) fun _ => rfl).symm
  case is6gOnly => exact (hany (hasId tlvHe6gOnly) fun _ => rfl).symm
  case unsolPrRespInterval => exact (hlast (hasId tlvHeUnsolPrRespCadence) 0 fun _ => rfl).symm
  case hs20IconsAttached => exact (hany (fun t => needsIcons t.id) fun _ => rfl).symm
  all_goals rfl

theorem pmfLine_eq {f g : HapdLocals} (hpmf : f.hasPmf = g.hasPmf) (hsae : f.hasSae = g.hasSae)
    (htransition : g.hasPmf = false → f.hasTransition = g.hasTransition)
    (howe : g.hasPmf = false → g.hasTransition = false → f.hasOwe = g.hasOwe)
    (hwpa : g.hasPmf = false → g.hasTransition = false → g.hasOwe = false →
      f.hasWpa = g.hasWpa) : pmfLine f = pmfLine g := by
  unfold pmfLine
  rw [hpmf, hsae]
  cases hp : g.hasPmf
  · rw [htransition hp]
    cases ht : g.hasTransition
    · rw [howe hp ht]
      cases ho : g.hasOwe
      · rw [hwpa hp ht ho]
      · cases g.hasSae <;> cases f.hasWpa <;> cases g.hasWpa <;> rfl
    · rfl
  · rfl

theorem get6gCenterFreqIndex_of_narrow (noReturn : Int → Int → Int) {channel width : Int}
    (h1 : width ≠ 1) (h2 : width ≠ 2) : get6gCenterFreqIndex noReturn channel width = channel := by
  rw [get6gCenterFreqIndex, if_neg h1, if_neg h2]

theorem opClass_of_narrow {width : Int} (h1 : width ≠ 1) (h2 : width ≠ 2) :
    opClass width = [] := by
  rw [opClass, if_neg h1, if_neg h2]

/-- The lines of a 6 GHz access point of a width that makes no difference. -/
theorem lines6g_eq {f g : HapdLocals} (hset : f.chwidthset = g.chwidthset)
    (hchannel : f.channel = g.channel)
    (hinterval : f.unsolPrRespInterval = g.unsolPrRespInterval)
    (hwidth : f.width = g.width ∨
      (g.chwidthset = true ∧ (f.width ≠ 1 ∧ f.width ≠ 2) ∧ g.width ≠ 1 ∧ g.width ≠ 2)) :
    lines6g env f = lines6g env g := by
  unfold lines6g
  rw [hset, hchannel, hinterval]
  rcases hwidth with hsame | ⟨hon, hf, hg⟩
  · rw [hsame]
  · rw [opClass_of_narrow hf.1 hf.2, opClass_of_narrow hg.1 hg.2,
      get6gCenterFreqIndex_of_narrow env.noReturn hf.1 hf.2,
      get6gCenterFreqIndex_of_narrow env.noReturn hg.1 hg.2, hon]
    rfl

theorem lines5g_of_narrow {f : HapdLocals} (h : isHt40Chan f.channel = false) : lines5g f = [] := by
  rw [isHt40Chan, Bool.or_eq_false_iff] at h
  simp [lines5g, h.1, h.2]

theorem lines5g_of_not_wide {f g : HapdLocals} (hchannel : f.channel = g.channel)
    (hf : ¬ f.width > 0) (hg : ¬ g.width > 0) : lines5g f = lines5g g := by
  unfold lines5g
  rw [hchannel, if_neg hf, if_neg hg]

theorem foldl_writeHwMode_bare (band : List UInt8) (ts : List PlacedTlv) :
    ts.foldl writeHwMode band = (bareTlvs (ts.map PlacedTlv.hdr)).foldl writeHwMode band := by
  rw [bareTlvs_map, List.foldl_map]
  rfl

theorem exists_lastBand (h : ∃ hdr ∈ hdrs, hdr.id = tlvHwMode) :
    ∃ t, ((bareTlvs hdrs).filter (hasId tlvHwMode)).getLast? = some t := by
  obtain ⟨hdr, hmem, hid⟩ := h
  cases hlast : ((bareTlvs hdrs).filter (hasId tlvHwMode)).getLast? with
  | some t => exact ⟨t, rfl⟩
  | none =>
      have hempty := List.filter_eq_nil_iff.mp (List.getLast?_eq_none_iff.mp hlast)
      exact absurd (decide_eq_true hid) (hempty (bare hdr) (List.mem_map_of_mem hmem))

variable (h : Decides env table hdrs)

include h

/-- The bands fit their local. -/
theorem Decides.bandFits : ∀ u ∈ bareTlvs hdrs, u.id = tlvHwMode → u.value.length ≤ bandSize :=
  fun u hu hid => (h.goesThrough u hu).1.hwMode hid

theorem Decides.wpsRfBands (band : List UInt8) :
    wpsRfBands { finalLocals env [] (bareTlvs hdrs) with
      band := (bareTlvs hdrs).foldl writeHwMode band } =
      wpsRfBands (finalLocals env [] (bareTlvs hdrs)) := by
  cases hwps : (finalLocals env [] (bareTlvs hdrs)).enableWps
  · simp [AfcDut.Conf.wpsRfBands, hwps]
  cases hmbss : (finalLocals env [] (bareTlvs hdrs)).useMbss
  · obtain ⟨hdr, hmem, hid⟩ := h.rfBand hwps hmbss
    obtain ⟨t, hlast⟩ := exists_lastBand ⟨hdr, hmem, hid⟩
    obtain ⟨old, hold, -⟩ := @foldl_writeHwMode band _ _ hlast
    obtain ⟨old', hold', -⟩ := @foldl_writeHwMode [] _ _ hlast
    have hfits := h.bandFits t (List.mem_of_mem_filter (List.mem_of_getLast? hlast)) (by
      exact of_decide_eq_true (List.mem_filter.mp (List.mem_of_getLast? hlast)).2)
    have hstarts : ∀ c, bandStarts ((bareTlvs hdrs).foldl writeHwMode band) c =
        bandStarts ((bareTlvs hdrs).foldl writeHwMode []) c := by
      intro c
      rw [hold, hold']
      exact bandStarts_writeBand hfits c
    unfold AfcDut.Conf.wpsRfBands
    simp only [hstarts]
    rfl
  · simp [AfcDut.Conf.wpsRfBands, hwps, hmbss]

theorem Decides.bandHasA (hnarrow : (finalLocals env [] (bareTlvs hdrs)).is6gOnly = false)
    (hht40 : isHt40Chan (finalLocals env [] (bareTlvs hdrs)).channel = true)
    (band : List UInt8) : bandHasA ((bareTlvs hdrs).foldl writeHwMode band) =
      bandHasA ((bareTlvs hdrs).foldl writeHwMode []) := by
  obtain ⟨t, hlast, hknown⟩ := h.channelBand hnarrow hht40
  obtain ⟨old, hold, -⟩ := @foldl_writeHwMode band _ _ hlast
  obtain ⟨old', hold', -⟩ := @foldl_writeHwMode [] _ _ hlast
  obtain ⟨hmem, hid⟩ := List.mem_filter.mp (List.mem_of_getLast? hlast)
  rw [hold, hold']
  exact bandHasA_writeBand (h.bandFits t hmem (of_decide_eq_true hid)) hknown

omit h

theorem width_of_on {f : HapdLocals} (h : f.enableAc = true ∨ f.enableAx = true) :
    f.width = f.chwidth := by
  rw [HapdLocals.width, if_neg]
  rintro ⟨hac, hax⟩
  rcases h with hon | hon
  · rw [hac] at hon
    cases hon
  · rw [hax] at hon
    cases hon

theorem width_of_off {f : HapdLocals} (hac : f.enableAc = false) (hax : f.enableAx = false) :
    f.width = 0 :=
  if_pos ⟨hac, hax⟩

/-- What 802.11ac and 802.11ax decide of the width. -/
theorem width_eq_or {f g : HapdLocals} (hwidth : f.chwidth = g.chwidth)
    (hac : g.enableAc = true → f.enableAc = true) (hax : g.enableAx = true → f.enableAx = true)
    (hoff : g.chwidth ≠ 0 → (g.chwidthset = true → g.chwidth = 1 ∨ g.chwidth = 2) →
      g.enableAc = false → g.enableAx = false → f.enableAc = false ∧ f.enableAx = false) :
    f.width = g.width ∨ (g.chwidthset = true ∧ (f.width ≠ 1 ∧ f.width ≠ 2) ∧
      g.width ≠ 1 ∧ g.width ≠ 2) := by
  by_cases hon : g.enableAc = true ∨ g.enableAx = true
  · left
    rw [width_of_on hon, width_of_on (hon.imp hac hax), hwidth]
  rw [not_or, Bool.not_eq_true, Bool.not_eq_true] at hon
  rw [width_of_off hon.1 hon.2]
  by_cases hf : f.enableAc = true ∨ f.enableAx = true
  · rw [width_of_on hf, hwidth]
    by_cases hzero : g.chwidth = 0
    · exact .inl hzero
    by_cases hlines : g.chwidthset = true → g.chwidth = 1 ∨ g.chwidth = 2
    · obtain ⟨hac', hax'⟩ := hoff hzero hlines hon.1 hon.2
      rw [hac', hax'] at hf
      exact absurd hf (by decide)
    · rw [Classical.not_imp, not_or] at hlines
      exact .inr ⟨hlines.1, hlines.2, by decide, by decide⟩
  · rw [not_or, Bool.not_eq_true, Bool.not_eq_true] at hf
    exact .inl (width_of_off hf.1 hf.2)

/-- The lines of a 5 GHz access point whose width is decided where it is used. -/
theorem lines5g_eq {f g : HapdLocals} (hwidth : f.chwidth = g.chwidth)
    (hset : f.chwidthset = g.chwidthset) (hvht : f.vhtChwidthset = g.vhtChwidthset)
    (hchannel : f.channel = g.channel)
    (hon : isHt40Chan g.channel = true → 0 < g.chwidth →
      f.enableAc = g.enableAc ∧ f.enableAx = g.enableAx) : lines5g f = lines5g g := by
  cases hht40 : isHt40Chan g.channel
  · rw [lines5g_of_narrow hht40, lines5g_of_narrow (hchannel ▸ hht40)]
  by_cases hpos : 0 < g.chwidth
  · obtain ⟨hac, hax⟩ := hon hht40 hpos
    have hsame : f.width = g.width := by
      rw [HapdLocals.width, HapdLocals.width, hac, hax, hwidth]
    unfold lines5g wideLines
    rw [hsame, hchannel, hac, hax, hset, hvht]
  · have hnot : ∀ f' : HapdLocals, f'.chwidth = g.chwidth → ¬ f'.width > 0 := by
      intro f' hf'
      unfold HapdLocals.width
      split
      · decide
      · rw [hf']
        exact hpos
    exact lines5g_of_not_wide hchannel (hnot f hwidth) (hnot g rfl)

/-- The width lines of a decided request. -/
theorem channelWidthLines_of_decided (h : Decides env table (ts.map PlacedTlv.hdr))
    (band : List UInt8) : channelWidthLines env (finalLocals env band ts) =
      channelWidthLines env (finalLocals env [] (bareTlvs (ts.map PlacedTlv.hdr))) := by
  have hac : ¬ Undecided (ts.map PlacedTlv.hdr) tlvIeee80211Ac (sets tlvIeee80211Ac "1") →
      (finalLocals env band ts).enableAc =
        (finalLocals env [] (bareTlvs (ts.map PlacedTlv.hdr))).enableAc :=
    any_of_decided (searches_sets _ _)
  have hax : ¬ Undecided (ts.map PlacedTlv.hdr) tlvIeee80211Ax (sets tlvIeee80211Ax "1") →
      (finalLocals env band ts).enableAx =
        (finalLocals env [] (bareTlvs (ts.map PlacedTlv.hdr))).enableAx :=
    any_of_decided (searches_sets _ _)
  have heq := finalLocals_eq env ts band
  have hwidth := congrArg HapdLocals.chwidth heq
  have hset := congrArg HapdLocals.chwidthset heq
  have hvht := congrArg HapdLocals.vhtChwidthset heq
  have hchannel := congrArg HapdLocals.channel heq
  have hinterval := congrArg HapdLocals.unsolPrRespInterval heq
  have h6g := congrArg HapdLocals.is6gOnly heq
  have hband : (finalLocals env band ts).band = (bareTlvs (ts.map PlacedTlv.hdr)).foldl
      writeHwMode band := foldl_writeHwMode_bare band ts
  unfold channelWidthLines
  rw [h6g]
  cases hon : (finalLocals env [] (bareTlvs (ts.map PlacedTlv.hdr))).is6gOnly
  · simp only [Bool.false_eq_true, if_false]
    cases hht40 : isHt40Chan (finalLocals env [] (bareTlvs (ts.map PlacedTlv.hdr))).channel
    · rw [lines5g_of_narrow hht40, lines5g_of_narrow (hchannel ▸ hht40), ite_self, ite_self]
    have hsame : bandHasA (finalLocals env band ts).band =
        bandHasA (finalLocals env [] (bareTlvs (ts.map PlacedTlv.hdr))).band := by
      rw [hband]
      exact h.bandHasA hon hht40 band
    rw [hsame]
    cases ha : bandHasA (finalLocals env [] (bareTlvs (ts.map PlacedTlv.hdr))).band
    · rfl
    · simp only [if_true]
      refine lines5g_eq hwidth hset hvht hchannel ?_
      intro hht40 hpos
      obtain ⟨hdecAc, hdecAx⟩ := h.width5g hon ha hht40 hpos
      exact ⟨hac hdecAc, hax hdecAx⟩
  · simp only [if_true]
    refine lines6g_eq hset hchannel hinterval (width_eq_or hwidth
      (any_of_sure (searches_sets _ _)) (any_of_sure (searches_sets _ _)) ?_)
    intro hzero hlines hoffAc hoffAx
    obtain ⟨hnotAc, hnotAx⟩ := h.width6g hon hzero hlines hoffAc hoffAx
    rw [hac fun hund => hnotAc hund.2, hax fun hund => hnotAx hund.2]
    exact ⟨hoffAc, hoffAx⟩

theorem derivedLines_of_decided (h : Decides env table (ts.map PlacedTlv.hdr))
    (band : List UInt8) : derivedLines env (finalLocals env band ts) =
      derivedLines env (finalLocals env [] (bareTlvs (ts.map PlacedTlv.hdr))) := by
  have heq := finalLocals_eq env ts band
  have hsae : (finalLocals env band ts).hasSae =
      (finalLocals env [] (bareTlvs (ts.map PlacedTlv.hdr))).hasSae :=
    any_of_decided (searches_sets _ _) h.sae
  have hhs20 : (finalLocals env band ts).enableHs20 =
      (finalLocals env [] (bareTlvs (ts.map PlacedTlv.hdr))).enableHs20 :=
    any_of_decided (searches_sets _ _) h.hs20
  have hgroups := congrArg HapdLocals.hasSaeGroups heq
  have hmuedca := congrArg HapdLocals.enableMuedca heq
  have hpmf : pmfLine (finalLocals env band ts) =
      pmfLine (finalLocals env [] (bareTlvs (ts.map PlacedTlv.hdr))) := by
    have hset : (finalLocals env band ts).hasPmf =
        (finalLocals env [] (bareTlvs (ts.map PlacedTlv.hdr))).hasPmf := by rw [heq]
    apply pmfLine_eq hset hsae
    · intro hoff
      exact any_of_decided searches_isTransition (h.transition hoff)
    · intro hoff hno
      -- no transition and no undecided one: every key management ends in its value
      have hreaches : ¬ Reaches (ts.map PlacedTlv.hdr) tlvWpaKeyMgmt :=
        fun hr => h.transition hoff ⟨Bool.not_eq_true _ ▸ hno, hr⟩
      exact any_of_decided (searches_sets _ _) fun hund => hreaches hund.2
    · intro hoff hnot hnowe
      exact any_of_decided (searches_sets _ _) (h.wpa hoff hnot hnowe)
  have hbands : wpsRfBands (finalLocals env band ts) =
      wpsRfBands (finalLocals env [] (bareTlvs (ts.map PlacedTlv.hdr))) := by
    rw [← h.wpsRfBands band, heq, foldl_writeHwMode_bare]
    rfl
  unfold derivedLines
  rw [hbands, hpmf, channelWidthLines_of_decided h band, saeRequireMfp, saeGroups, muedcaLines,
    hs20Lines, hsae, hgroups, hmuedca, hhs20]
  rfl

/-- A decided request gives one text. -/
theorem hapdText_of_decided (h : Decides env table (ts.map PlacedTlv.hdr)) (band : List UInt8) :
    hapdText env band table ts = hapdText env [] table (bareTlvs (ts.map PlacedTlv.hdr)) := by
  have hloop : loopText env false false table ts =
      loopText env false false table (bareTlvs (ts.map PlacedTlv.hdr)) := by
    apply loopText_of_decided [] false
    intro l t r hts
    rw [List.nil_append]
    apply h.lines (l.map PlacedTlv.hdr) t.hdr (r.map PlacedTlv.hdr)
    rw [hts, List.map_append, List.map_cons]
  rw [hapdText, hapdText, derivedLines_of_decided h band, hloop]

end

end AfcDut.Conf
