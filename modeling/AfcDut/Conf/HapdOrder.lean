import AfcDut.Conf.Decided
import AfcDut.Conf.HapdPieces

/-!
# The order of the TLVs

What the lines and the table of `generate_hostapd_config` owe to the order of
TLVs that have distinct ids: what an OWE transition changes for the TLVs behind
it and what it knows of those before it, and which of two widths comes last.
-/

namespace AfcDut.Conf

open Indigo ControlApp Data.Lines Data.Gathered

variable {env : HapdEnv} {band : List UInt8} {table : Table} {ts us : List PlacedTlv}

def confLines (text : List UInt8) : List (List UInt8) := linesOf newline text

/-! ## What must not depend on the order -/

/-- Widths for which a 6 GHz access point has the same lines. -/
def SameWidth6g (a b : Int) : Prop := a = b ∨ (a ≠ 1 ∧ a ≠ 2) ∧ b ≠ 1 ∧ b ≠ 2

/-- Widths for which a 5 GHz access point has the same lines. -/
def SameWidth5g (a b : Int) : Prop := a = b ∨ a ≤ 0 ∧ b ≤ 0 ∨ 3 ≤ a ∧ 3 ≤ b

instance (a b : Int) : Decidable (SameWidth6g a b) := inferInstanceAs (Decidable (_ ∨ _))

instance (a b : Int) : Decidable (SameWidth5g a b) := inferInstanceAs (Decidable (_ ∨ _))

/-- No order gives other lines. -/
structure OrderFree (env : HapdEnv) (band : List UInt8) (table : Table) (ts : List PlacedTlv) :
    Prop where
  profiles : ∀ t ∈ ts, ProfileExists t
  owe : ∀ t ∈ ts, t.id = tlvOweTransitionBssIdentifier →
    (oweWlan table (atoi t.value)).2.isSome → ∀ u ∈ ts, sets tlvWpaKeyMgmt "OWE" u = false
  bss : ∀ t ∈ ts, t.id = tlvOweTransitionBssIdentifier → ∀ u ∈ ts, u.id = tlvBssIdentifier →
    env.wlanp.mbssidEnable = false →
      isBandEnabled (oweWlan table (atoi t.value)).1 band6ghz = isBandEnabled table band6ghz
  hessid : ∀ t ∈ ts, t.id = tlvOweTransitionBssIdentifier → ∀ u ∈ ts, u.id = tlvHessid →
    u.contains "self" = true →
      env.macAddr (oweWlan table (atoi t.value)).1 = env.macAddr table
  width6g : ∀ t ∈ ts, t.id = tlvHeOperChwidth → ∀ u ∈ ts, u.id = tlvVhtOperChwidth →
    (finalLocals env band ts).enableAc = true ∨ (finalLocals env band ts).enableAx = true →
    (finalLocals env band ts).is6gOnly = true → SameWidth6g (atoi t.value) (atoi u.value)
  width5g : ∀ t ∈ ts, t.id = tlvHeOperChwidth → ∀ u ∈ ts, u.id = tlvVhtOperChwidth →
    (finalLocals env band ts).enableAc = true ∨ (finalLocals env band ts).enableAx = true →
    (finalLocals env band ts).is6gOnly = false →
    bandHasA (finalLocals env band ts).band = true →
    isHt40Chan (finalLocals env band ts).channel = true →
    SameWidth5g (atoi t.value) (atoi u.value)

/-! ## The locals and the table -/

/-- Only the width depends on the order. -/
theorem finalLocals_perm (hids : (ts.map PlacedTlv.id).Nodup) (hperm : us.Perm ts)
    (env : HapdEnv) (band : List UInt8) : finalLocals env band us =
      { finalLocals env band ts with chwidth := lastInt isWidth 1 us } := by
  have hlast : ∀ id old, lastInt (hasId id) old us = lastInt (hasId id) old ts := by
    intro id old
    unfold lastInt lastValue
    rw [show us.filter (hasId id) = ts.filter (hasId id) from filter_kind_perm hids hperm id]
  have hband : us.foldl writeHwMode band = ts.foldl writeHwMode band := by
    have hfilter : us.filter (hasId tlvHwMode) = ts.filter (hasId tlvHwMode) :=
      filter_kind_perm hids hperm tlvHwMode
    have hfold : ∀ l : List PlacedTlv, l.foldl writeHwMode band =
        (l.filter (hasId tlvHwMode)).foldl (fun old t => writeBand old t.value) band := by
      intro l
      rw [List.foldl_filter]
      congr 1
      funext old t
      simp [writeHwMode, hasId]
    rw [hfold, hfold, hfilter]
  ext : 1
  case channel => exact hlast tlvChannel 0
  case unsolPrRespInterval => exact hlast tlvHeUnsolPrRespCadence 0
  case band => exact hband
  case enableWps => exact congrArg (· && env.wpsSettings.isSome) hperm.any_eq
  case chwidth => rfl
  all_goals exact hperm.any_eq

/-- The table is that of the one OWE transition, if there is one. -/
theorem finalTable_cases (hids : (ts.map PlacedTlv.id).Nodup) (table : Table) :
    (∀ t ∈ ts, t.id ≠ tlvOweTransitionBssIdentifier) ∧ finalTable table ts = table ∨
      ∃ t ∈ ts, t.id = tlvOweTransitionBssIdentifier ∧
        finalTable table ts = (oweWlan table (atoi t.value)).1 := by
  induction ts generalizing table with
  | nil => exact .inl ⟨fun t ht => absurd ht List.not_mem_nil, rfl⟩
  | cons t ts ih =>
      rw [List.map_cons, List.nodup_cons] at hids
      rw [finalTable, List.foldl_cons]
      by_cases hid : t.id = tlvOweTransitionBssIdentifier
      · rw [nextTable, if_pos hid]
        right
        refine ⟨t, List.mem_cons_self, hid, ?_⟩
        rcases ih hids.2 (oweWlan table (atoi t.value)).1 with ⟨-, htable⟩ | ⟨u, hu, huid, -⟩
        · exact htable
        · exact absurd (List.mem_map.mpr ⟨u, hu, huid.trans hid.symm⟩) hids.1
      · rw [nextTable, if_neg hid]
        rcases ih hids.2 table with ⟨hnone, htable⟩ | ⟨u, hu, huid, htable⟩
        · refine .inl ⟨?_, htable⟩
          rw [List.forall_mem_cons]
          exact ⟨hid, hnone⟩
        · exact .inr ⟨u, List.mem_cons_of_mem _ hu, huid, htable⟩

theorem finalTable_perm (hids : (ts.map PlacedTlv.id).Nodup) (hperm : us.Perm ts)
    (table : Table) : finalTable table us = finalTable table ts := by
  have hids' : (us.map PlacedTlv.id).Nodup := (hperm.map _).nodup_iff.mpr hids
  rcases finalTable_cases hids' table with ⟨hnone, htable⟩ | ⟨u, hu, huid, htable⟩
  · rcases finalTable_cases hids table with ⟨-, htable'⟩ | ⟨t, ht, hid, -⟩
    · rw [htable, htable']
    · exact absurd hid (hnone t (hperm.mem_iff.mpr ht))
  · rcases finalTable_cases hids table with ⟨hnone, -⟩ | ⟨t, ht, hid, htable'⟩
    · exact absurd huid (hnone u (hperm.mem_iff.mp hu))
    · rw [htable, htable', eq_of_kind hids (hperm.mem_iff.mp hu) ht (huid.trans hid.symm)]

/-! ## The lines of the loop -/

/-- The lines of a TLV that comes first. -/
def ownLines (env : HapdEnv) (table : Table) (t : PlacedTlv) : List (List UInt8) :=
  confLines (written env false true table t)

/-- A TLV has its own lines wherever it stands. -/
theorem written_in_place (hids : (ts.map PlacedTlv.id).Nodup) (h : OrderFree env band table ts)
    {before after : List PlacedTlv} {t : PlacedTlv} (hsplit : (before ++ t :: after).Perm ts) :
    written env (before.any (sets tlvWpaKeyMgmt "OWE")) true (finalTable table before) t =
      written env false true table t := by
  have hmem : t ∈ ts := hsplit.mem_iff.mp (by simp)
  have hbefore : ∀ u ∈ before, u ∈ ts := fun u hu => hsplit.mem_iff.mp (by simp [hu])
  have hids' : ((before ++ t :: after).map PlacedTlv.id).Nodup :=
    (hsplit.map _).nodup_iff.mpr hids
  rw [List.map_append, List.map_cons, List.nodup_append] at hids'
  have htable := finalTable_cases hids'.1 table
  by_cases hbss : t.id = tlvBssIdentifier
  · rw [written_bss env _ _ _ hbss, written_bss env _ _ _ hbss]
    rcases htable with ⟨-, htable⟩ | ⟨o, ho, hoid, htable⟩
    · rw [htable]
    · unfold rnrLine
      rw [htable]
      cases hmbssid : env.wlanp.mbssidEnable
      · rw [h.bss o (hbefore o ho) hoid t hmem hbss hmbssid]
      · simp
  by_cases hhessid : t.id = tlvHessid
  · rw [written_hessid env _ _ _ hhessid, written_hessid env _ _ _ hhessid]
    rcases htable with ⟨-, htable⟩ | ⟨o, ho, hoid, htable⟩
    · rw [htable]
    · cases hself : t.contains "self"
      · rfl
      · rw [selfHessid, selfHessid, htable, h.hessid o (hbefore o ho) hoid t hmem hhessid hself]
  by_cases howe : t.id = tlvOweTransitionBssIdentifier
  · rw [written_owe env _ _ _ howe, written_owe env _ _ _ howe]
    rcases htable with ⟨-, htable⟩ | ⟨o, ho, hoid, -⟩
    · rw [htable]
      cases hwlan : (oweWlan table (atoi t.value)).2 with
      | none => simp only [oweLines, hwlan]
      | some i =>
          have hno : before.any (sets tlvWpaKeyMgmt "OWE") = false := by
            rw [List.any_eq_false]
            intro u hu
            rw [h.owe t hmem howe (by rw [hwlan]; rfl) u (hbefore u hu)]
            decide
          rw [hno]
    · exact absurd (hoid.trans howe.symm)
        (hids'.2.2 _ (List.mem_map_of_mem ho) _ List.mem_cons_self)
  exact written_of_ne env _ _ _ rfl hbss hhessid howe

theorem confLines_append {text : List UInt8} (h : Whole text) (rest : List UInt8) :
    confLines (text ++ rest) = confLines text ++ confLines rest :=
  linesOf_append h rest

/-- The lines of TLVs that have their own lines wherever they stand. -/
theorem loopLines_perm (before : List PlacedTlv) (hasIcons : Bool)
    (h : ∀ l t r, ts = l ++ t :: r →
      written env ((before ++ l).any (sets tlvWpaKeyMgmt "OWE")) true
        (finalTable table (before ++ l)) t = written env false true table t) :
    (confLines (loopText env (before.any (sets tlvWpaKeyMgmt "OWE")) hasIcons
      (finalTable table before) ts)).Perm
      ((if !hasIcons && ts.any fun t => needsIcons t.id then confLines hs20Icons else []) ++
        ts.flatMap (ownLines env table)) := by
  induction ts generalizing before hasIcons with
  | nil => simp [loopText, confLines, linesOf]
  | cons t ts ih =>
      have hfirst := h [] t ts rfl
      rw [List.append_nil] at hfirst
      have hrest := ih (before ++ [t]) (hasIcons || needsIcons t.id) (by
        intro l u r hts
        rw [List.append_assoc]
        exact h (t :: l) u r (by rw [hts]; rfl))
      have htable : finalTable table (before ++ [t]) = nextTable (finalTable table before) t := by
        rw [finalTable, List.foldl_append]
        rfl
      rw [htable, List.any_append, List.any_cons, List.any_nil, Bool.or_false] at hrest
      rw [loopText, confLines_append (whole_written _ _ _ _ _), List.flatMap_cons, List.any_cons]
      cases hneeds : needsIcons t.id
      · rw [written_of_not_needsIcons env _ _ _ hneeds, hfirst, Bool.false_or, Bool.or_false]
        rw [hneeds, Bool.or_false] at hrest
        exact (hrest.append_left _).trans (List.perm_append_comm_assoc _ _ _)
      · have hicons : Whole (if hasIcons then [] else hs20Icons) :=
          terminated_ite terminated_nil whole_hs20Icons
        rw [written_icons env _ _ _ hneeds, hfirst, confLines_append hicons]
        rw [hneeds, Bool.or_true] at hrest
        rw [Bool.true_or, List.append_assoc]
        cases hasIcons
        · exact (hrest.append_left _).append_left _
        · exact (hrest.append_left _).append_left _

/-- The lines of the loop in any order. -/
theorem loopLines_of_orderFree (hids : (ts.map PlacedTlv.id).Nodup)
    (h : OrderFree env band table ts) (hperm : us.Perm ts) :
    (confLines (loopText env false false table us)).Perm
      (confLines (loopText env false false table ts)) := by
  have hlines : ∀ vs : List PlacedTlv, vs.Perm ts →
      (confLines (loopText env false false table vs)).Perm
        ((if !false && vs.any fun t => needsIcons t.id then confLines hs20Icons else []) ++
          vs.flatMap (ownLines env table)) := by
    intro vs hvs
    apply loopLines_perm [] false
    rintro l t r rfl
    exact written_in_place hids h hvs
  have hus := hlines us hperm
  rw [hperm.any_eq] at hus
  exact hus.trans (((hperm.flatMap_right _).append_left _).trans (hlines ts (.refl ts)).symm)

/-! ## The lines of the width -/

theorem opClass_of_same {a b : Int} (h : SameWidth6g a b) : opClass a = opClass b := by
  rcases h with rfl | ⟨ha, hb⟩
  · rfl
  · rw [opClass_of_narrow ha.1 ha.2, opClass_of_narrow hb.1 hb.2]

theorem get6gCenterFreqIndex_of_same (noReturn : Int → Int → Int) (channel : Int) {a b : Int}
    (h : SameWidth6g a b) :
    get6gCenterFreqIndex noReturn channel a = get6gCenterFreqIndex noReturn channel b := by
  rcases h with rfl | ⟨ha, hb⟩
  · rfl
  · rw [get6gCenterFreqIndex_of_narrow noReturn ha.1 ha.2,
      get6gCenterFreqIndex_of_narrow noReturn hb.1 hb.2]

/-- The lines of a 6 GHz access point of another width. -/
theorem lines6g_of_same {f g : HapdLocals} (hset : f.chwidthset = true)
    (hset' : g.chwidthset = true) (hchannel : f.channel = g.channel)
    (hinterval : f.unsolPrRespInterval = g.unsolPrRespInterval)
    (h : SameWidth6g f.width g.width) : lines6g env f = lines6g env g := by
  unfold lines6g
  rw [hset, hset', hchannel, hinterval, opClass_of_same h,
    get6gCenterFreqIndex_of_same env.noReturn g.channel h]
  rfl

theorem getCenterFreqIndex_of_wide (channel : Int) {width : Int} (h : 3 ≤ width) :
    getCenterFreqIndex channel width = 0 := by
  unfold getCenterFreqIndex
  rw [if_neg (by omega), if_neg (by omega)]

/-- The lines of a 5 GHz access point of another width. -/
theorem lines5g_of_same {f g : HapdLocals} (hset : f.chwidthset = true)
    (hset' : g.chwidthset = true) (hvht : f.vhtChwidthset = true)
    (hvht' : g.vhtChwidthset = true) (hchannel : f.channel = g.channel)
    (hac : f.enableAc = g.enableAc) (hax : f.enableAx = g.enableAx)
    (h : SameWidth5g f.width g.width) : lines5g f = lines5g g := by
  rcases h with hsame | ⟨hf, hg⟩ | ⟨hf, hg⟩
  · unfold lines5g wideLines
    rw [hsame, hchannel, hac, hax, hset, hset', hvht, hvht']
  · exact lines5g_of_not_wide hchannel (by omega) (by omega)
  · have hwide : wideLines f = wideLines g := by
      unfold wideLines
      rw [getCenterFreqIndex_of_wide _ hf, getCenterFreqIndex_of_wide _ hg, hac, hax, hset, hset',
        hvht, hvht']
      simp only [show ¬ f.width = 2 by omega, show ¬ g.width = 2 by omega, if_false, if_true]
    unfold lines5g
    rw [hchannel, hwide, if_pos (show f.width > 0 by omega), if_pos (show g.width > 0 by omega)]

/-- The width of an order is that of its last TLV of a width. -/
theorem width_cases (hids : (ts.map PlacedTlv.id).Nodup) (hperm : us.Perm ts) :
    lastInt isWidth 1 us = lastInt isWidth 1 ts ∨
      ∃ t ∈ ts, t.id = tlvHeOperChwidth ∧ ∃ u ∈ ts, u.id = tlvVhtOperChwidth ∧
        (lastInt isWidth 1 us = atoi t.value ∧ lastInt isWidth 1 ts = atoi u.value ∨
          lastInt isWidth 1 us = atoi u.value ∧ lastInt isWidth 1 ts = atoi t.value) := by
  have hus : ∀ {t}, t ∈ us ↔ t ∈ ts := hperm.mem_iff
  rcases lastValue_cases isWidth (fun t => atoi t.value) 1 us with ⟨hnone, hone⟩ | ⟨t, ht, hwt, hvt⟩
  · rcases lastValue_cases isWidth (fun t => atoi t.value) 1 ts with ⟨-, hone'⟩ | ⟨u, hu, hwu, -⟩
    · exact .inl (hone.trans hone'.symm)
    · rw [hnone u (hus.mpr hu)] at hwu
      cases hwu
  · rcases lastValue_cases isWidth (fun t => atoi t.value) 1 ts with ⟨hnone, -⟩ | ⟨u, hu, hwu, hvu⟩
    · rw [hnone t (hus.mp ht)] at hwt
      cases hwt
    · rcases of_decide_eq_true hwt with hhe | hvht
      · rcases of_decide_eq_true hwu with hhe' | hvht'
        · rw [eq_of_kind hids (hus.mp ht) hu (hhe.trans hhe'.symm)] at hvt
          exact .inl (hvt.trans hvu.symm)
        · exact .inr ⟨t, hus.mp ht, hhe, u, hu, hvht', .inl ⟨hvt, hvu⟩⟩
      · rcases of_decide_eq_true hwu with hhe' | hvht'
        · exact .inr ⟨u, hu, hhe', t, hus.mp ht, hvht, .inr ⟨hvt, hvu⟩⟩
        · rw [eq_of_kind hids (hus.mp ht) hu (hvht.trans hvht'.symm)] at hvt
          exact .inl (hvt.trans hvu.symm)

theorem SameWidth6g.symm {a b : Int} (h : SameWidth6g a b) : SameWidth6g b a := by
  rcases h with rfl | ⟨ha, hb⟩
  · exact .inl rfl
  · exact .inr ⟨hb, ha⟩

theorem SameWidth5g.symm {a b : Int} (h : SameWidth5g a b) : SameWidth5g b a := by
  rcases h with rfl | ⟨ha, hb⟩ | ⟨ha, hb⟩
  · exact .inl rfl
  · exact .inr (.inl ⟨hb, ha⟩)
  · exact .inr (.inr ⟨hb, ha⟩)

/-- The lines of the width in any order. -/
theorem channelWidthLines_of_orderFree (hids : (ts.map PlacedTlv.id).Nodup)
    (h : OrderFree env band table ts) (hperm : us.Perm ts) :
    channelWidthLines env (finalLocals env band us) =
      channelWidthLines env (finalLocals env band ts) := by
  have heq := finalLocals_perm hids hperm env band
  rcases width_cases hids hperm with hsame | ⟨t, ht, hhe, u, hu, hvht, hwidths⟩
  · rw [heq, hsame]
    rfl
  have hchannel := congrArg HapdLocals.channel heq
  have hac := congrArg HapdLocals.enableAc heq
  have hax := congrArg HapdLocals.enableAx heq
  have hinterval := congrArg HapdLocals.unsolPrRespInterval heq
  have hset : (finalLocals env band ts).chwidthset = true :=
    List.any_eq_true.mpr ⟨t, ht, decide_eq_true hhe⟩
  have hvhtset : (finalLocals env band ts).vhtChwidthset = true :=
    List.any_eq_true.mpr ⟨u, hu, decide_eq_true hvht⟩
  by_cases hon : (finalLocals env band ts).enableAc = true ∨
      (finalLocals env band ts).enableAx = true
  · have hus : (finalLocals env band us).width = lastInt isWidth 1 us := by
      apply width_of_on
      rw [hac, hax]
      exact hon
    have hts : (finalLocals env band ts).width = lastInt isWidth 1 ts := width_of_on hon
    unfold channelWidthLines
    rw [congrArg HapdLocals.is6gOnly heq, congrArg HapdLocals.band heq]
    cases h6g : (finalLocals env band ts).is6gOnly
    · cases hband : bandHasA (finalLocals env band ts).band
      · rfl
      simp only [Bool.false_eq_true, if_false, if_true]
      cases hht40 : isHt40Chan (finalLocals env band ts).channel
      · rw [lines5g_of_narrow hht40, lines5g_of_narrow (hchannel ▸ hht40)]
      have hsame := h.width5g t ht hhe u hu hvht hon h6g hband hht40
      refine lines5g_of_same ((congrArg HapdLocals.chwidthset heq).trans hset) hset
        ((congrArg HapdLocals.vhtChwidthset heq).trans hvhtset) hvhtset hchannel hac hax ?_
      rw [hus, hts]
      rcases hwidths with ⟨hl, hr⟩ | ⟨hl, hr⟩
      · rw [hl, hr]
        exact hsame
      · rw [hl, hr]
        exact hsame.symm
    · simp only [if_true]
      have hsame := h.width6g t ht hhe u hu hvht hon h6g
      refine lines6g_of_same ((congrArg HapdLocals.chwidthset heq).trans hset) hset hchannel
        hinterval ?_
      rw [hus, hts]
      rcases hwidths with ⟨hl, hr⟩ | ⟨hl, hr⟩
      · rw [hl, hr]
        exact hsame
      · rw [hl, hr]
        exact hsame.symm
  · rw [not_or, Bool.not_eq_true, Bool.not_eq_true] at hon
    have hus : (finalLocals env band us).width = 0 :=
      width_of_off (hac.trans hon.1) (hax.trans hon.2)
    have hts : (finalLocals env band ts).width = 0 := width_of_off hon.1 hon.2
    have h6g : lines6g env (finalLocals env band us) = lines6g env (finalLocals env band ts) :=
      lines6g_of_same ((congrArg HapdLocals.chwidthset heq).trans hset) hset hchannel
        hinterval (.inl (hus.trans hts.symm))
    have h5g : lines5g (finalLocals env band us) = lines5g (finalLocals env band ts) :=
      lines5g_of_not_wide hchannel (by omega) (by omega)
    unfold channelWidthLines
    rw [congrArg HapdLocals.is6gOnly heq, congrArg HapdLocals.band heq, h6g, h5g]

/-- The lines behind the loop in any order. -/
theorem derivedLines_of_orderFree (hids : (ts.map PlacedTlv.id).Nodup)
    (h : OrderFree env band table ts) (hperm : us.Perm ts) :
    derivedLines env (finalLocals env band us) = derivedLines env (finalLocals env band ts) := by
  have hwidth := channelWidthLines_of_orderFree hids h hperm
  rw [finalLocals_perm hids hperm] at hwidth ⊢
  unfold derivedLines
  rw [hwidth]
  rfl

theorem confLines_hapdText (env : HapdEnv) (band : List UInt8) (table : Table)
    (ts : List PlacedTlv) : confLines (hapdText env band table ts) =
      confLines (hapdHeader env) ++ confLines (loopText env false false table ts) ++
        confLines (derivedLines env (finalLocals env band ts)) := by
  rw [hapdText, confLines_append ((whole_hapdHeader env).append (whole_loopText _ _ _ _ _)),
    confLines_append (whole_hapdHeader env)]

/-- The lines of the configuration in any order. -/
theorem confLines_of_orderFree (hids : (ts.map PlacedTlv.id).Nodup)
    (h : OrderFree env band table ts) (hperm : us.Perm ts) :
    (confLines (hapdText env band table us)).Perm (confLines (hapdText env band table ts)) := by
  rw [confLines_hapdText, confLines_hapdText, derivedLines_of_orderFree hids h hperm]
  exact ((loopLines_of_orderFree hids h hperm).append_left _).append_right _

end AfcDut.Conf
