import AfcDut.Conf.Decided

/-!
# What two runs show

A request that leaves something to the memory behind its values, or to what
`band` holds on entry, has two runs whose texts differ: one kind of TLV is
followed by what its search looks for, and in the other run by a NUL.
-/

namespace AfcDut.Conf

open Indigo ControlApp Data.Search

variable {env : HapdEnv} {table : Table} {hdrs : List TlvHdr} {id : UInt16}
  {behind : List UInt8}

/-- No two runs of the request differ in their texts. -/
def SameText (env : HapdEnv) (table : Table) (hdrs : List TlvHdr) : Prop :=
  ∀ ts us band band', ts.map PlacedTlv.hdr = hdrs → us.map PlacedTlv.hdr = hdrs →
    hapdText env band table ts = hapdText env band' table us

/-! ## The loop -/

/-- A TLV that is neither a HESSID nor followed by something else. -/
theorem written_followed (hhessid : id ≠ tlvHessid) (hasOwe hasIcons : Bool) (hdr : TlvHdr) :
    written env hasOwe hasIcons table (followed id behind hdr) =
      written env hasOwe hasIcons table (bare hdr) := by
  by_cases hid : hdr.id = id
  · by_cases hbss : hdr.id = tlvBssIdentifier
    · rw [written_bss env _ _ _ (show (followed id behind hdr).id = _ from hbss),
        written_bss env _ _ _ (show (bare hdr).id = _ from hbss)]
    · by_cases howe : hdr.id = tlvOweTransitionBssIdentifier
      · rw [written_owe env _ _ _ (show (followed id behind hdr).id = _ from howe),
          written_owe env _ _ _ (show (bare hdr).id = _ from howe)]
        rfl
      · exact written_of_ne env _ _ _ rfl hbss (fun heq => hhessid (hid.symm.trans heq)) howe
  · rw [followed_of_ne hid]

/-- Only a HESSID and the key management write or say anything else. -/
theorem loopText_followed (hhessid : id ≠ tlvHessid) (hkey : id ≠ tlvWpaKeyMgmt)
    (hasOwe hasIcons : Bool) (table : Table) (hdrs : List TlvHdr) :
    loopText env hasOwe hasIcons table (hdrs.map (followed id behind)) =
      loopText env hasOwe hasIcons table (bareTlvs hdrs) := by
  induction hdrs generalizing hasOwe hasIcons table with
  | nil => rfl
  | cons hdr hdrs ih =>
      have howe : sets tlvWpaKeyMgmt "OWE" (followed id behind hdr) =
          sets tlvWpaKeyMgmt "OWE" (bare hdr) := by
        by_cases hid : hdr.id = id
        · have hne : ∀ t : PlacedTlv, t.hdr = hdr → sets tlvWpaKeyMgmt "OWE" t = false := by
            rintro t rfl
            exact decide_eq_false fun h => hkey (hid.symm.trans h.1)
          rw [hne _ rfl, hne _ rfl]
        · rw [followed_of_ne hid]
      rw [List.map_cons, loopText, ih, written_followed hhessid, howe]
      rfl

/-- The run in which one kind is followed by a text. -/
theorem SameText.derived (h : SameText env table hdrs) (hhessid : id ≠ tlvHessid)
    (hkey : id ≠ tlvWpaKeyMgmt) (behind : List UInt8) :
    derivedLines env (finalLocals env [] (hdrs.map (followed id behind))) =
      derivedLines env (finalLocals env [] (bareTlvs hdrs)) := by
  have hsame := h (hdrs.map (followed id behind)) (bareTlvs hdrs) [] []
    (map_hdr_followed id behind hdrs) (map_hdr_bareTlvs hdrs)
  rw [hapdText, hapdText, loopText_followed hhessid hkey] at hsame
  exact List.append_cancel_left hsame

theorem SameText.charsBehind (h : SameText env table hdrs) (hhessid : id ≠ tlvHessid)
    (hkey : id ≠ tlvWpaKeyMgmt) (behind : List UInt8) :
    derivedChars env (finalLocals env [] (hdrs.map (followed id behind))) =
      derivedChars env (finalLocals env [] (bareTlvs hdrs)) := by
  rw [← length_derivedLines, ← length_derivedLines, h.derived hhessid hkey]

/-- What the run in which a kind other than the key management is followed by a
text changes. -/
theorem finalLocals_followed (env : HapdEnv) (hkey : id ≠ tlvWpaKeyMgmt) (behind : List UInt8)
    (hdrs : List TlvHdr) : finalLocals env [] (hdrs.map (followed id behind)) =
      { finalLocals env [] (bareTlvs hdrs) with
        hasWpa := (hdrs.map (followed id behind)).any (sets tlvWpa "2")
        enableAx := (hdrs.map (followed id behind)).any (sets tlvIeee80211Ax "1")
        enableAc := (hdrs.map (followed id behind)).any (sets tlvIeee80211Ac "1")
        enableHs20 := (hdrs.map (followed id behind)).any (sets tlvHs20 "1") } := by
  rw [finalLocals_eq, map_hdr_followed, foldl_writeHwMode_bare, map_hdr_followed,
    any_followed_of_ne (searches_sets tlvWpaKeyMgmt "SAE") hkey.symm,
    any_followed_of_ne (searches_sets tlvWpaKeyMgmt "OWE") hkey.symm,
    any_followed_of_ne searches_isTransition hkey.symm]
  rfl

/-- A kind whose search finds what lies behind the value. -/
theorem followed_sets {token : String} (hund : Undecided hdrs id (sets id token))
    (hnul : 0 ∉ cString token) :
    (hdrs.map (followed id (cString token))).any (sets id token) = true :=
  any_followed_of_reaches hund.2 fun _ hid hvalue =>
    sets_of_behind hid hvalue hnul (List.infix_refl _)

/-! ## One flag -/

theorem derivedChars_hs20 {f : HapdLocals} (hoff : f.enableHs20 = false) :
    derivedChars env { f with enableHs20 := true } = derivedChars env f + 106 := by
  have hwidth : widthChars env { f with enableHs20 := true } = widthChars env f := rfl
  unfold derivedChars
  rw [hwidth, hoff]
  rfl

theorem SameText.hs20 (h : SameText env table hdrs) :
    ¬ Undecided hdrs tlvHs20 (sets tlvHs20 "1") := by
  intro hund
  have hlocals : finalLocals env [] (hdrs.map (followed tlvHs20 (cString "1"))) =
      { finalLocals env [] (bareTlvs hdrs) with enableHs20 := true } := by
    rw [finalLocals_followed env (by decide), followed_sets hund (by decide),
      any_followed_of_ne (searches_sets tlvWpa "2") (by decide),
      any_followed_of_ne (searches_sets tlvIeee80211Ax "1") (by decide),
      any_followed_of_ne (searches_sets tlvIeee80211Ac "1") (by decide)]
    rfl
  have hoff : (finalLocals env [] (bareTlvs hdrs)).enableHs20 = false :=
    Bool.eq_false_iff.mpr hund.1
  have hchars := h.charsBehind (show tlvHs20 ≠ tlvHessid by decide)
    (show tlvHs20 ≠ tlvWpaKeyMgmt by decide) (cString "1")
  rw [hlocals, derivedChars_hs20 hoff] at hchars
  omega

/-- A WPA version that asks for protected frames. -/
theorem derivedChars_wpa {f : HapdLocals} (hpmf : f.hasPmf = false)
    (htransition : f.hasTransition = false) (howe : f.hasOwe = false) (hoff : f.hasWpa = false) :
    derivedChars env { f with hasWpa := true } = derivedChars env f + 13 := by
  have hwidth : widthChars env { f with hasWpa := true } = widthChars env f := rfl
  unfold derivedChars
  rw [hwidth, hpmf, htransition, howe, hoff]
  simp
  omega

theorem SameText.wpa (h : SameText env table hdrs)
    (hpmf : (finalLocals env [] (bareTlvs hdrs)).hasPmf = false)
    (htransition : (finalLocals env [] (bareTlvs hdrs)).hasTransition = false)
    (howe : (finalLocals env [] (bareTlvs hdrs)).hasOwe = false) :
    ¬ Undecided hdrs tlvWpa (sets tlvWpa "2") := by
  intro hund
  have hlocals : finalLocals env [] (hdrs.map (followed tlvWpa (cString "2"))) =
      { finalLocals env [] (bareTlvs hdrs) with hasWpa := true } := by
    rw [finalLocals_followed env (by decide), followed_sets hund (by decide),
      any_followed_of_ne (searches_sets tlvIeee80211Ax "1") (by decide),
      any_followed_of_ne (searches_sets tlvIeee80211Ac "1") (by decide),
      any_followed_of_ne (searches_sets tlvHs20 "1") (by decide)]
    rfl
  have hoff : (finalLocals env [] (bareTlvs hdrs)).hasWpa = false :=
    Bool.eq_false_iff.mpr hund.1
  have hchars := h.charsBehind (show tlvWpa ≠ tlvHessid by decide)
    (show tlvWpa ≠ tlvWpaKeyMgmt by decide) (cString "2")
  rw [hlocals, derivedChars_wpa hpmf htransition howe hoff] at hchars
  omega

/-! ## The width -/

theorem finalLocals_ac (env : HapdEnv)
    (hund : Undecided hdrs tlvIeee80211Ac (sets tlvIeee80211Ac "1")) :
    finalLocals env [] (hdrs.map (followed tlvIeee80211Ac (cString "1"))) =
      { finalLocals env [] (bareTlvs hdrs) with enableAc := true } := by
  rw [finalLocals_followed env (by decide), followed_sets hund (by decide),
    any_followed_of_ne (searches_sets tlvWpa "2") (by decide),
    any_followed_of_ne (searches_sets tlvIeee80211Ax "1") (by decide),
    any_followed_of_ne (searches_sets tlvHs20 "1") (by decide)]
  rfl

theorem finalLocals_ax (env : HapdEnv)
    (hund : Undecided hdrs tlvIeee80211Ax (sets tlvIeee80211Ax "1")) :
    finalLocals env [] (hdrs.map (followed tlvIeee80211Ax (cString "1"))) =
      { finalLocals env [] (bareTlvs hdrs) with enableAx := true } := by
  rw [finalLocals_followed env (by decide), followed_sets hund (by decide),
    any_followed_of_ne (searches_sets tlvWpa "2") (by decide),
    any_followed_of_ne (searches_sets tlvIeee80211Ac "1") (by decide),
    any_followed_of_ne (searches_sets tlvHs20 "1") (by decide)]
  rfl

/-- 802.11ac or 802.11ax adds lines for a wide channel of the 5 GHz band. -/
theorem derivedChars_wide {f : HapdLocals} {ac ax : Bool} (h6g : f.is6gOnly = false)
    (hband : bandHasA f.band = true) (hht40 : isHt40Chan f.channel = true)
    (hwide : 0 < f.chwidth)
    (hmore : f.enableAc = false ∧ ac = true ∧ ax = f.enableAx ∨
      f.enableAx = false ∧ ax = true ∧ ac = f.enableAc) :
    derivedChars env f < derivedChars env { f with enableAc := ac, enableAx := ax } := by
  have hwidth : widthChars env f < widthChars env { f with enableAc := ac, enableAx := ax } := by
    unfold isHt40Chan at hht40
    rcases hmore with ⟨hoff, rfl, rfl⟩ | ⟨hoff, rfl, rfl⟩
    · cases hax : f.enableAx <;>
        simp only [widthChars, wideChars, HapdLocals.width, h6g, hband, hht40, hoff, hax, gt_iff_lt,
          hwide, Int.lt_irrefl, Bool.and_self, Bool.true_eq_false, Bool.false_eq_true, and_self,
          and_true, and_false, if_true, if_false] <;>
        omega
    · cases hac : f.enableAc <;>
        simp only [widthChars, wideChars, HapdLocals.width, h6g, hband, hht40, hoff, hac, gt_iff_lt,
          hwide, Int.lt_irrefl, Bool.and_self, Bool.true_eq_false, Bool.false_eq_true, and_self,
          and_true, and_false, if_true, if_false] <;>
        omega
  unfold derivedChars
  simp only
  omega

theorem SameText.width5g (h : SameText env table hdrs)
    (h6g : (finalLocals env [] (bareTlvs hdrs)).is6gOnly = false)
    (hband : bandHasA (finalLocals env [] (bareTlvs hdrs)).band = true)
    (hht40 : isHt40Chan (finalLocals env [] (bareTlvs hdrs)).channel = true)
    (hwide : 0 < (finalLocals env [] (bareTlvs hdrs)).chwidth) :
    ¬ Undecided hdrs tlvIeee80211Ac (sets tlvIeee80211Ac "1") ∧
      ¬ Undecided hdrs tlvIeee80211Ax (sets tlvIeee80211Ax "1") := by
  constructor
  · intro hund
    have hoff : (finalLocals env [] (bareTlvs hdrs)).enableAc = false :=
      Bool.eq_false_iff.mpr hund.1
    have hchars := h.charsBehind (show tlvIeee80211Ac ≠ tlvHessid by decide)
      (show tlvIeee80211Ac ≠ tlvWpaKeyMgmt by decide) (cString "1")
    rw [finalLocals_ac env hund] at hchars
    exact absurd hchars.symm
      (derivedChars_wide h6g hband hht40 hwide (.inl ⟨hoff, rfl, rfl⟩)).ne
  · intro hund
    have hoff : (finalLocals env [] (bareTlvs hdrs)).enableAx = false :=
      Bool.eq_false_iff.mpr hund.1
    have hchars := h.charsBehind (show tlvIeee80211Ax ≠ tlvHessid by decide)
      (show tlvIeee80211Ax ≠ tlvWpaKeyMgmt by decide) (cString "1")
    rw [finalLocals_ax env hund] at hchars
    exact absurd hchars.symm
      (derivedChars_wide h6g hband hht40 hwide (.inr ⟨hoff, rfl, rfl⟩)).ne

/-- A width that is used and is not that of a station without 802.11ac and
802.11ax. -/
theorem lines6g_ne {f g : HapdLocals} (hset : f.chwidthset = g.chwidthset) (hg : g.width = 0)
    (hf : f.width ≠ 0) (hlines : g.chwidthset = true → f.width = 1 ∨ f.width = 2) :
    lines6g env f ≠ lines6g env g := by
  intro h
  unfold lines6g at h
  rw [hset, hg] at h
  cases hon : g.chwidthset
  · rw [hon] at h
    simp only [Bool.false_eq_true, if_false, intLine, configLine, List.append_assoc,
      List.cons_append] at h
    have hcut := List.append_cancel_left h
    rw [List.cons.injEq, eq_self, true_and] at hcut
    have hsame := (append_mark_start (newline_not_mem_intText f.width)
      (newline_not_mem_intText 0)).mp ⟨_, (List.append_assoc _ _ _).trans hcut⟩
    exact hf (eq_zero_of_intText hsame)
  · rw [hon] at h
    simp only [if_true, List.nil_append] at h
    rcases hlines hon with hwidth | hwidth
    · rw [hwidth] at h
      exact absurd (congrArg List.head? h) (show some 111 ≠ some 104 by decide)
    · rw [hwidth] at h
      exact absurd (congrArg List.head? h) (show some 111 ≠ some 104 by decide)

/-- What 802.11ac and 802.11ax change of the derived lines. -/
theorem channelWidthLines_of_derived {f : HapdLocals} {ac ax : Bool}
    (h : derivedLines env { f with enableAc := ac, enableAx := ax } = derivedLines env f) :
    channelWidthLines env { f with enableAc := ac, enableAx := ax } =
      channelWidthLines env f := by
  unfold derivedLines at h
  have hhs20 := List.append_cancel_right h
  have hmuedca := List.append_cancel_right hhs20
  exact List.append_cancel_left hmuedca

/-- The lines of a 6 GHz access point tell whether 802.11ac or 802.11ax is on. -/
theorem derivedLines_narrow {f : HapdLocals} {ac ax : Bool} (h6g : f.is6gOnly = true)
    (hused : f.chwidth ≠ 0) (hlines : f.chwidthset = true → f.chwidth = 1 ∨ f.chwidth = 2)
    (hac : f.enableAc = false) (hax : f.enableAx = false) (hon : ac = true ∨ ax = true) :
    derivedLines env { f with enableAc := ac, enableAx := ax } ≠ derivedLines env f := by
  intro h
  have hwidth := channelWidthLines_of_derived h
  rw [channelWidthLines, channelWidthLines, if_pos h6g, if_pos h6g] at hwidth
  have hfull : ({ f with enableAc := ac, enableAx := ax } : HapdLocals).width = f.chwidth :=
    width_of_on hon
  refine lines6g_ne ?_ (width_of_off hac hax) ?_ ?_ hwidth
  · rfl
  · rw [hfull]
    exact hused
  · rw [hfull]
    exact hlines

theorem SameText.width6g (h : SameText env table hdrs)
    (h6g : (finalLocals env [] (bareTlvs hdrs)).is6gOnly = true)
    (hused : (finalLocals env [] (bareTlvs hdrs)).chwidth ≠ 0)
    (hlines : (finalLocals env [] (bareTlvs hdrs)).chwidthset = true →
      (finalLocals env [] (bareTlvs hdrs)).chwidth = 1 ∨
        (finalLocals env [] (bareTlvs hdrs)).chwidth = 2)
    (hac : (finalLocals env [] (bareTlvs hdrs)).enableAc = false)
    (hax : (finalLocals env [] (bareTlvs hdrs)).enableAx = false) :
    ¬ Reaches hdrs tlvIeee80211Ac ∧ ¬ Reaches hdrs tlvIeee80211Ax := by
  constructor
  · intro hreaches
    have hund : Undecided hdrs tlvIeee80211Ac (sets tlvIeee80211Ac "1") :=
      ⟨Bool.eq_false_iff.mp hac, hreaches⟩
    have hsame := h.derived (show tlvIeee80211Ac ≠ tlvHessid by decide)
      (show tlvIeee80211Ac ≠ tlvWpaKeyMgmt by decide) (cString "1")
    rw [finalLocals_ac env hund] at hsame
    exact derivedLines_narrow h6g hused hlines hac hax (.inl rfl) hsame
  · intro hreaches
    have hund : Undecided hdrs tlvIeee80211Ax (sets tlvIeee80211Ax "1") :=
      ⟨Bool.eq_false_iff.mp hax, hreaches⟩
    have hsame := h.derived (show tlvIeee80211Ax ≠ tlvHessid by decide)
      (show tlvIeee80211Ax ≠ tlvWpaKeyMgmt by decide) (cString "1")
    rw [finalLocals_ax env hund] at hsame
    exact derivedLines_narrow h6g hused hlines hac hax (.inr rfl) hsame

/-! ## The key management -/

theorem chars_mono {p q : Bool} (h : p = true → q = true) (n : Nat) :
    (if p then n else 0) ≤ if q then n else 0 := by
  cases p
  · exact Nat.zero_le _
  · rw [h rfl]

theorem tlvChars_owe (hasOwe hasIcons : Bool) (table : Table) {t : PlacedTlv}
    (hid : t.id = tlvOweTransitionBssIdentifier) : tlvChars env hasOwe hasIcons table t =
      oweChars hasOwe (oweWlan table (atoi t.value)) := by
  rw [← length_written, written_owe env _ _ _ hid, length_oweLines rfl]

/-- An OWE transition says more once `OWE` has been seen. -/
theorem tlvChars_followed {hasOwe hasOwe' : Bool} (howe : hasOwe = true → hasOwe' = true)
    (hasIcons : Bool) (hdr : TlvHdr) : tlvChars env hasOwe hasIcons table (bare hdr) ≤
      tlvChars env hasOwe' hasIcons table (followed tlvWpaKeyMgmt behind hdr) := by
  by_cases hid : hdr.id = tlvOweTransitionBssIdentifier
  · rw [tlvChars_owe _ _ _ (show (bare hdr).id = _ from hid),
      tlvChars_owe _ _ _ (show (followed tlvWpaKeyMgmt behind hdr).id = _ from hid)]
    show oweChars hasOwe (oweWlan table (atoi (bare hdr).value)) ≤
      oweChars hasOwe' (oweWlan table (atoi (bare hdr).value))
    unfold oweChars
    cases (oweWlan table (atoi (bare hdr).value)).2 with
    | none => exact Nat.le_refl 0
    | some i => exact Nat.add_le_add_left (chars_mono howe 24) _
  · rw [← length_written, ← length_written, written_followed (by decide)]
    by_cases hbss : hdr.id = tlvBssIdentifier
    · rw [written_bss env _ _ _ (show (bare hdr).id = _ from hbss),
        written_bss env _ _ _ (show (bare hdr).id = _ from hbss)]
    · by_cases hhessid : hdr.id = tlvHessid
      · rw [written_hessid env _ _ _ (show (bare hdr).id = _ from hhessid),
          written_hessid env _ _ _ (show (bare hdr).id = _ from hhessid)]
      · have hsame : written env hasOwe hasIcons table (bare hdr) =
            written env hasOwe' hasIcons table (bare hdr) :=
          written_of_ne env _ _ _ rfl hbss hhessid hid
        rw [hsame]

/-- What lies behind the key management only adds characters. -/
theorem loopChars_followed {hasOwe hasOwe' : Bool} (howe : hasOwe = true → hasOwe' = true)
    (hasIcons : Bool) (table : Table) (hdrs : List TlvHdr) :
    loopChars env hasOwe hasIcons table (bareTlvs hdrs) ≤
      loopChars env hasOwe' hasIcons table (hdrs.map (followed tlvWpaKeyMgmt behind)) := by
  induction hdrs generalizing hasOwe hasOwe' hasIcons table with
  | nil => exact Nat.le_refl 0
  | cons hdr hdrs ih =>
      have hseen : (hasOwe || sets tlvWpaKeyMgmt "OWE" (bare hdr)) = true →
          (hasOwe' || sets tlvWpaKeyMgmt "OWE" (followed tlvWpaKeyMgmt behind hdr)) = true := by
        simp only [Bool.or_eq_true]
        exact Or.imp howe (@Searches.keeps _ _ (searches_sets tlvWpaKeyMgmt "OWE")
          (followed tlvWpaKeyMgmt behind hdr))
      exact Nat.add_le_add (tlvChars_followed howe hasIcons hdr) (ih hseen _ _)

/-- What the run in which the key management is followed by a text changes. -/
theorem finalLocals_key (env : HapdEnv) (behind : List UInt8) (hdrs : List TlvHdr) :
    finalLocals env [] (hdrs.map (followed tlvWpaKeyMgmt behind)) =
      { finalLocals env [] (bareTlvs hdrs) with
        hasSae := (hdrs.map (followed tlvWpaKeyMgmt behind)).any (sets tlvWpaKeyMgmt "SAE")
        hasOwe := (hdrs.map (followed tlvWpaKeyMgmt behind)).any (sets tlvWpaKeyMgmt "OWE")
        hasTransition := (hdrs.map (followed tlvWpaKeyMgmt behind)).any isTransition } := by
  rw [finalLocals_eq, map_hdr_followed, foldl_writeHwMode_bare, map_hdr_followed,
    any_followed_of_ne (searches_sets tlvWpa "2") (by decide),
    any_followed_of_ne (searches_sets tlvIeee80211Ax "1") (by decide),
    any_followed_of_ne (searches_sets tlvIeee80211Ac "1") (by decide),
    any_followed_of_ne (searches_sets tlvHs20 "1") (by decide)]
  rfl

theorem any_followed_of_bare {test : PlacedTlv → Bool} (h : Searches id test)
    (hdrs : List TlvHdr) (hbare : (bareTlvs hdrs).any test = true) :
    (hdrs.map (followed id behind)).any test = true := by
  apply any_of_sure h
  rw [map_hdr_followed]
  exact hbare

/-- More flags, more characters. -/
theorem derivedChars_key {f : HapdLocals} {sae owe transition : Bool}
    (hsae : f.hasSae = true → sae = true) (howe : f.hasOwe = true → owe = true)
    (htransition : f.hasTransition = true → transition = true) :
    derivedChars env f + (if !f.hasSae && sae then 18 else 0) ≤
      derivedChars env { f with hasSae := sae, hasOwe := owe, hasTransition := transition } := by
  have hwidth : widthChars env
      { f with hasSae := sae, hasOwe := owe, hasTransition := transition } =
      widthChars env f := rfl
  have hpmf : (!f.hasPmf && (f.hasTransition || f.hasOwe || f.hasWpa)) = true →
      (!f.hasPmf && (transition || owe || f.hasWpa)) = true := by
    simp only [Bool.and_eq_true, Bool.or_eq_true]
    exact And.imp id (Or.imp (Or.imp htransition howe) id)
  have hgroups : (f.hasSae && !f.hasSaeGroups) = true → (sae && !f.hasSaeGroups) = true := by
    simp only [Bool.and_eq_true]
    exact And.imp hsae id
  have hpmfChars := chars_mono hpmf 13
  have hgroupsChars := chars_mono hgroups 32
  have hsaeChars : (if f.hasSae then 18 else 0) + (if !f.hasSae && sae then 18 else 0) =
      if sae then 18 else 0 := by
    cases hon : f.hasSae
    · cases sae <;> rfl
    · rw [hsae hon]
      rfl
  unfold derivedChars
  rw [hwidth]
  simp only
  omega

/-- The key management followed by a text leaves the number of characters. -/
theorem SameText.charsKey (h : SameText env table hdrs) (behind : List UInt8) :
    loopChars env false false table (hdrs.map (followed tlvWpaKeyMgmt behind)) +
        derivedChars env (finalLocals env [] (hdrs.map (followed tlvWpaKeyMgmt behind))) =
      loopChars env false false table (bareTlvs hdrs) +
        derivedChars env (finalLocals env [] (bareTlvs hdrs)) := by
  have hsame := congrArg List.length (h (hdrs.map (followed tlvWpaKeyMgmt behind)) (bareTlvs hdrs)
    [] [] (map_hdr_followed _ behind hdrs) (map_hdr_bareTlvs hdrs))
  rw [length_hapdText, length_hapdText, confChars, confChars] at hsame
  omega

/-- The characters behind the loop. -/
theorem derivedChars_followed (env : HapdEnv) (behind : List UInt8) (hdrs : List TlvHdr) :
    derivedChars env (finalLocals env [] (bareTlvs hdrs)) +
        (if !(finalLocals env [] (bareTlvs hdrs)).hasSae &&
          (hdrs.map (followed tlvWpaKeyMgmt behind)).any (sets tlvWpaKeyMgmt "SAE")
        then 18 else 0) ≤
      derivedChars env (finalLocals env [] (hdrs.map (followed tlvWpaKeyMgmt behind))) := by
  rw [finalLocals_key]
  exact derivedChars_key (any_followed_of_bare (searches_sets _ _) hdrs)
    (any_followed_of_bare (searches_sets _ _) hdrs)
    (any_followed_of_bare searches_isTransition hdrs)

theorem SameText.sae (h : SameText env table hdrs) :
    ¬ Undecided hdrs tlvWpaKeyMgmt (sets tlvWpaKeyMgmt "SAE") := by
  intro hund
  have hoff : (finalLocals env [] (bareTlvs hdrs)).hasSae = false :=
    Bool.eq_false_iff.mpr hund.1
  have hloop : loopChars env false false table (bareTlvs hdrs) ≤
      loopChars env false false table (hdrs.map (followed tlvWpaKeyMgmt (cString "SAE"))) :=
    loopChars_followed id false table hdrs
  have hderived := derivedChars_followed env (cString "SAE") hdrs
  rw [hoff, followed_sets hund (by decide)] at hderived
  have hchars := h.charsKey (cString "SAE")
  simp only [Bool.not_false, Bool.and_self, if_true] at hderived
  omega

/-- The same lines where the key management is followed by a text: the characters
of the loop and those behind it can only be more. -/
theorem SameText.derived_key (h : SameText env table hdrs) (behind : List UInt8) :
    derivedLines env (finalLocals env [] (hdrs.map (followed tlvWpaKeyMgmt behind))) =
      derivedLines env (finalLocals env [] (bareTlvs hdrs)) := by
  have hloop : loopChars env false false table (bareTlvs hdrs) ≤
      loopChars env false false table (hdrs.map (followed tlvWpaKeyMgmt behind)) :=
    loopChars_followed id false table hdrs
  have hderived := derivedChars_followed env behind hdrs
  have hchars := h.charsKey behind
  have hsame := h (hdrs.map (followed tlvWpaKeyMgmt behind)) (bareTlvs hdrs) [] []
    (map_hdr_followed _ behind hdrs) (map_hdr_bareTlvs hdrs)
  refine (List.append_inj' hsame ?_).2
  rw [length_derivedLines, length_derivedLines]
  omega

theorem take_of_append {a b x y : List UInt8} (h : a ++ x = b ++ y) {n : Nat}
    (ha : n ≤ a.length) (hb : n ≤ b.length) : a.take n = b.take n := by
  have hleft : (a ++ x).take n = a.take n := List.take_append_of_le_length ha
  rw [← hleft, h, List.take_append_of_le_length hb]

/-- A transition asks for less than SAE alone, and SAE alone does not stay silent. -/
theorem derivedLines_transition {f g : HapdLocals} (hwps : wpsRfBands f = wpsRfBands g)
    (hpmf : f.hasPmf = false) (hpmf' : g.hasPmf = false) (htransition : f.hasTransition = true)
    (hoff : g.hasTransition = false) (hsae : g.hasSae = true) :
    derivedLines env f ≠ derivedLines env g := by
  have hf : pmfLine f = textLine "ieee80211w=1" := by
    unfold pmfLine
    rw [hpmf, htransition]
    rfl
  have hg : pmfLine g = textLine "ieee80211w=2" ∨ pmfLine g = [] := by
    unfold pmfLine
    rw [hpmf', hoff, hsae]
    cases g.hasWpa
    · cases g.hasOwe
      · exact .inr rfl
      · exact .inl rfl
    · exact .inl rfl
  intro h
  unfold derivedLines saeRequireMfp at h
  rw [hwps, hf, hsae] at h
  simp only [List.append_assoc, if_true] at h
  have hrest := List.append_cancel_left h
  rcases hg with hg | hg
  · rw [hg] at hrest
    exact absurd (take_of_append (n := 12) hrest (by simp [← String.length_toList])
      (by simp [← String.length_toList])) (by decide)
  · rw [hg, List.nil_append] at hrest
    exact absurd (take_of_append (n := 12) hrest (by simp [← String.length_toList])
      (by simp [← String.length_toList])) (by decide)

theorem SameText.transition (h : SameText env table hdrs)
    (hpmf : (finalLocals env [] (bareTlvs hdrs)).hasPmf = false) :
    ¬ Undecided hdrs tlvWpaKeyMgmt isTransition := by
  intro hund
  -- a key management that reaches behind its value says `SAE` already
  have hsae : (finalLocals env [] (bareTlvs hdrs)).hasSae = true := by
    by_contra hno
    exact h.sae ⟨hno, hund.2⟩
  have hon : (hdrs.map (followed tlvWpaKeyMgmt (cString "SAEWPA-PSK"))).any isTransition = true :=
    any_followed_of_reaches hund.2 fun hdr hid hvalue => decide_eq_true
      ⟨hid, contains_of_behind hvalue (by decide) (by decide),
        contains_of_behind hvalue (by decide) (by decide)⟩
  have hsame := h.derived_key (cString "SAEWPA-PSK")
  rw [finalLocals_key, hon] at hsame
  have hoff : (finalLocals env [] (bareTlvs hdrs)).hasTransition = false :=
    Bool.eq_false_iff.mpr hund.1
  exact absurd hsame (derivedLines_transition rfl hpmf hpmf rfl hoff hsae)

theorem loopChars_append (hasOwe hasIcons : Bool) (table : Table) (ts us : List PlacedTlv) :
    loopChars env hasOwe hasIcons table (ts ++ us) = loopChars env hasOwe hasIcons table ts +
      loopChars env (hasOwe || ts.any (sets tlvWpaKeyMgmt "OWE"))
        (hasIcons || ts.any fun t => needsIcons t.id) (finalTable table ts) us := by
  rw [← length_loopText, loopText_append, List.length_append, length_loopText, length_loopText]

/-- An OWE transition with an interface, behind a key management that leaves
`OWE` to what follows it. -/
theorem loopChars_owe {before after : List TlvHdr} {hdr : TlvHdr}
    (hid : hdr.id = tlvOweTransitionBssIdentifier)
    (hwlan : (oweWlan (finalTable table (bareTlvs before)) (atoi (bare hdr).value)).2.isSome)
    (hund : Undecided before tlvWpaKeyMgmt (sets tlvWpaKeyMgmt "OWE")) :
    loopChars env false false table (bareTlvs (before ++ hdr :: after)) <
      loopChars env false false table
        ((before ++ hdr :: after).map (followed tlvWpaKeyMgmt (cString "OWE"))) := by
  have hoff : (bareTlvs before).any (sets tlvWpaKeyMgmt "OWE") = false :=
    Bool.eq_false_iff.mpr hund.1
  have hicons : ((before.map (followed tlvWpaKeyMgmt (cString "OWE"))).any
      fun t => needsIcons t.id) = (bareTlvs before).any fun t => needsIcons t.id := by
    rw [bareTlvs, List.any_map, List.any_map]
    rfl
  have htable : finalTable table (before.map (followed tlvWpaKeyMgmt (cString "OWE"))) =
      finalTable table (bareTlvs before) :=
    finalTable_congr table ((map_hdr_followed _ _ before).trans (map_hdr_bareTlvs before).symm)
  have hbefore : loopChars env false false table (bareTlvs before) ≤
      loopChars env false false table (before.map (followed tlvWpaKeyMgmt (cString "OWE"))) :=
    loopChars_followed id false table before
  rw [bareTlvs, List.map_append, List.map_append, List.map_cons, List.map_cons, loopChars_append,
    loopChars_append, hicons, htable, followed_sets hund (by decide)]
  show loopChars env false false table (bareTlvs before) +
      loopChars env (false || (bareTlvs before).any (sets tlvWpaKeyMgmt "OWE"))
        (false || (bareTlvs before).any fun t => needsIcons t.id)
        (finalTable table (bareTlvs before)) (bare hdr :: bareTlvs after) < _
  rw [hoff]
  obtain ⟨i, hi⟩ := Option.isSome_iff_exists.mp hwlan
  have hmore : oweChars false (oweWlan (finalTable table (bareTlvs before)) (atoi (bare hdr).value)) +
      24 = oweChars true (oweWlan (finalTable table (bareTlvs before)) (atoi (bare hdr).value)) := by
    simp [oweChars, hi]
  have hafter : ∀ hasIcons, loopChars env (false || sets tlvWpaKeyMgmt "OWE" (bare hdr)) hasIcons
      (nextTable (finalTable table (bareTlvs before)) (bare hdr)) (bareTlvs after) ≤
      loopChars env true hasIcons (nextTable (finalTable table (bareTlvs before)) (bare hdr))
        (after.map (followed tlvWpaKeyMgmt (cString "OWE"))) :=
    fun hasIcons => loopChars_followed (fun _ => rfl) hasIcons _ after
  have hmoreChars := hafter ((false || (bareTlvs before).any fun t => needsIcons t.id) ||
    needsIcons (bare hdr).id)
  refine Nat.add_lt_add_of_le_of_lt hbefore (Nat.add_lt_add_of_lt_of_le ?_ hmoreChars)
  rw [tlvChars_owe _ _ _ (show (bare hdr).id = _ from hid),
    tlvChars_owe _ _ _ (show (followed tlvWpaKeyMgmt (cString "OWE") hdr).id = _ from hid)]
  show oweChars false (oweWlan (finalTable table (bareTlvs before)) (atoi (bare hdr).value)) <
    oweChars true (oweWlan (finalTable table (bareTlvs before)) (atoi (bare hdr).value))
  omega

theorem SameText.owe (h : SameText env table hdrs) {before after : List TlvHdr} {hdr : TlvHdr}
    (hsplit : hdrs = before ++ hdr :: after) (hid : hdr.id = tlvOweTransitionBssIdentifier)
    (hwlan : (oweWlan (finalTable table (bareTlvs before)) (atoi (bare hdr).value)).2.isSome) :
    ¬ Undecided before tlvWpaKeyMgmt (sets tlvWpaKeyMgmt "OWE") := by
  intro hund
  subst hsplit
  have hloop := h.charsKey (cString "OWE")
  have hderived := derivedChars_followed env (cString "OWE") (before ++ hdr :: after)
  have hmore : loopChars env false false table (bareTlvs (before ++ hdr :: after)) < _ :=
    loopChars_owe hid hwlan hund
  omega

/-! ## A HESSID -/

/-- The tests of other kinds do not see what lies behind one value. -/
theorem any_placed {test : PlacedTlv → Bool} (h : Searches id test) {t : PlacedTlv}
    (hne : t.id ≠ id) (ts us : List PlacedTlv) :
    (ts ++ t :: us).any test = (ts ++ bare t.hdr :: us).any test := by
  have hfail : ∀ t' : PlacedTlv, t'.hdr = t.hdr → test t' = false := by
    intro t' hhdr
    by_contra htest
    have hid := h.kind (Bool.not_eq_false _ ▸ htest)
    rw [PlacedTlv.id, hhdr] at hid
    exact hne hid
  rw [List.any_append, List.any_append, List.any_cons, List.any_cons, hfail _ rfl,
    hfail (bare t.hdr) rfl]

/-- What lies behind a HESSID is in its own line or nowhere. -/
theorem finalLocals_hessid {t : PlacedTlv} (hid : t.id = tlvHessid) (before after : List TlvHdr) :
    finalLocals env [] (bareTlvs before ++ t :: bareTlvs after) =
      finalLocals env [] (bareTlvs (before ++ t.hdr :: after)) := by
  have hbare : bareTlvs (before ++ t.hdr :: after) =
      bareTlvs before ++ bare t.hdr :: bareTlvs after := by
    rw [bareTlvs, List.map_append, List.map_cons]
    rfl
  have hhdrs : (bareTlvs before ++ t :: bareTlvs after).map PlacedTlv.hdr =
      before ++ t.hdr :: after := by
    rw [List.map_append, List.map_cons, map_hdr_bareTlvs, map_hdr_bareTlvs]
  have hne : ∀ id ∈ [tlvWpaKeyMgmt, tlvWpa, tlvIeee80211Ax, tlvIeee80211Ac, tlvHs20], t.id ≠ id := by
    rw [hid]
    decide
  simp only [List.forall_mem_cons] at hne
  obtain ⟨hkey, hwpa, hax, hac, hhs20, -⟩ := hne
  rw [finalLocals_eq, hhdrs, foldl_writeHwMode_bare, hhdrs, any_placed (searches_sets _ _) hkey,
    any_placed (searches_sets _ _) hwpa, any_placed (searches_sets _ _) hkey,
    any_placed searches_isTransition hkey, any_placed (searches_sets _ _) hax,
    any_placed (searches_sets _ _) hac, any_placed (searches_sets _ _) hhs20, ← hbare]
  rfl

theorem loopText_hessid {t : PlacedTlv} (hid : t.id = tlvHessid) (hasOwe hasIcons : Bool)
    (table : Table) (us : List PlacedTlv) : loopText env hasOwe hasIcons table (t :: us) =
      written env hasOwe hasIcons table t ++ loopText env hasOwe hasIcons table us := by
  have howe : sets tlvWpaKeyMgmt "OWE" t = false := by
    apply decide_eq_false
    rw [hid]
    exact fun h => absurd h.1 (by decide)
  have hicons : needsIcons t.id = false := by
    rw [hid]
    decide
  have htable : nextTable table t = table := by
    rw [nextTable, hid, if_neg (by decide)]
  rw [loopText, howe, hicons, htable, Bool.or_false, Bool.or_false]

theorem SameText.hessid (h : SameText env table hdrs) {before after : List TlvHdr} {hdr : TlvHdr}
    (hsplit : hdrs = before ++ hdr :: after) (hid : hdr.id = tlvHessid) :
    (bare hdr).contains "self" = true ∨ 0 ∈ (bare hdr).value ∨
      (bare hdr).value = env.macAddr (finalTable table (bareTlvs before)) := by
  by_cases hself : (bare hdr).contains "self" = true
  · exact .inl hself
  by_cases hnul : 0 ∈ (bare hdr).value
  · exact .inr (.inl hnul)
  right; right
  subst hsplit
  have hbare : bareTlvs (before ++ hdr :: after) =
      bareTlvs before ++ bare hdr :: bareTlvs after := by
    rw [bareTlvs, List.map_append, List.map_cons]
    rfl
  have hhdrs : (bareTlvs before ++ ⟨hdr, cString "self"⟩ :: bareTlvs after).map PlacedTlv.hdr =
      before ++ hdr :: after := by
    rw [List.map_append, List.map_cons, map_hdr_bareTlvs, map_hdr_bareTlvs]
  have hsame := h _ _ [] [] hhdrs (map_hdr_bareTlvs (before ++ hdr :: after))
  rw [hapdText, hapdText, finalLocals_hessid (t := ⟨hdr, cString "self"⟩) hid] at hsame
  have hloop := List.append_cancel_left (List.append_cancel_right hsame)
  rw [hbare, loopText_append, loopText_append] at hloop
  have hrest := List.append_cancel_left hloop
  rw [loopText_hessid (t := ⟨hdr, cString "self"⟩) hid, loopText_hessid (t := bare hdr) hid] at hrest
  have hline := List.append_cancel_right hrest
  have hfound : (PlacedTlv.mk hdr (cString "self")).contains "self" = true :=
    contains_of_behind hnul (by decide) (List.infix_refl _)
  rw [written_hessid env _ _ _ (show (PlacedTlv.mk hdr (cString "self")).id = _ from hid),
    written_hessid env _ _ _ (show (bare hdr).id = _ from hid), if_pos hfound, if_neg hself,
    cText_of_not_mem hnul, selfHessid, configLine, configLine] at hline
  have hvalue := (List.cons_eq_cons.mp
    (List.append_cancel_left (List.append_cancel_right hline))).2
  exact hvalue.symm

/-! ## The band -/

/-- The local starts with an `a` and has another one behind it. -/
def outsideBand : List UInt8 := 97 :: List.replicate 63 0 ++ [97]

/-- The first letter of the band is one that `wps_rf_bands` names. -/
def bandNamed (band : List UInt8) : Bool := bandStarts band 97 || bandStarts band 103

/-- A band that says no less adds no characters only if it says no more. -/
theorem of_derivedChars_band {f : HapdLocals} {band : List UInt8}
    (hnamed : bandNamed f.band = true → bandNamed band = true)
    (hhas : bandHasA f.band = true → bandHasA band = true)
    (h : derivedChars env { f with band } = derivedChars env f) :
    (f.enableWps = true → f.useMbss = false → bandNamed band = true → bandNamed f.band = true) ∧
      (f.is6gOnly = false → isHt40Chan f.channel = true → bandHasA band = true →
        bandHasA f.band = true) := by
  have hwps : (if f.enableWps then if f.useMbss then 16 else if bandNamed f.band then 15 else 0
      else 0) ≤ if f.enableWps then if f.useMbss then 16 else if bandNamed band then 15 else 0
      else 0 := by
    have hmore := chars_mono hnamed 15
    split
    · split
      · exact Nat.le_refl 16
      · exact hmore
    · exact Nat.le_refl 0
  have hwidth : widthChars env f ≤ widthChars env { f with band } := by
    unfold widthChars
    cases f.is6gOnly
    · cases hold : bandHasA f.band
      · simp
      · rw [hhas hold]
        exact Nat.le_refl _
    · exact Nat.le_refl _
  have hwpsEq : (if f.enableWps then if f.useMbss then 16 else if bandNamed band then 15 else 0
      else 0) = if f.enableWps then if f.useMbss then 16 else if bandNamed f.band then 15 else 0
      else 0 := by
    unfold derivedChars at h
    unfold bandNamed at hwps ⊢
    simp only at h
    omega
  have hwidthEq : widthChars env { f with band } = widthChars env f := by
    unfold derivedChars at h
    unfold bandNamed at hwps
    simp only at h
    omega
  constructor
  · intro hon hmbss hnew
    by_contra hold
    rw [hon, hmbss, hnew, Bool.eq_false_iff.mpr hold] at hwpsEq
    simp at hwpsEq
  · intro h6g hht40 hnew
    by_contra hold
    unfold isHt40Chan at hht40
    unfold widthChars at hwidthEq
    rw [Bool.eq_false_iff.mpr hold] at hwidthEq
    simp [h6g, hnew, hht40] at hwidthEq

/-- Two runs whose locals `band` differ on entry. -/
theorem SameText.charsBand (h : SameText env table hdrs) (band : List UInt8) :
    derivedChars env { finalLocals env [] (bareTlvs hdrs) with
      band := (bareTlvs hdrs).foldl writeHwMode band } =
      derivedChars env (finalLocals env [] (bareTlvs hdrs)) := by
  have hsame := h (bareTlvs hdrs) (bareTlvs hdrs) band [] (map_hdr_bareTlvs hdrs)
    (map_hdr_bareTlvs hdrs)
  rw [hapdText, hapdText] at hsame
  have hlines := congrArg List.length (List.append_cancel_left hsame)
  rw [length_derivedLines, length_derivedLines] at hlines
  exact hlines

/-- No band: the local is read as it was on entry. -/
theorem SameText.unset (h : SameText env table hdrs)
    (hnone : (bareTlvs hdrs).filter (hasId tlvHwMode) = []) :
    ((finalLocals env [] (bareTlvs hdrs)).enableWps = true →
      (finalLocals env [] (bareTlvs hdrs)).useMbss = true) ∧
    ((finalLocals env [] (bareTlvs hdrs)).is6gOnly = false →
      isHt40Chan (finalLocals env [] (bareTlvs hdrs)).channel = false) := by
  have hband : (finalLocals env [] (bareTlvs hdrs)).band = [] := foldl_writeHwMode_of_none hnone
  have hchars := h.charsBand outsideBand
  rw [foldl_writeHwMode_of_none hnone] at hchars
  obtain ⟨hwps, hwidth⟩ := of_derivedChars_band (by rw [hband]; decide) (by rw [hband]; decide)
    hchars
  rw [hband] at hwps hwidth
  constructor
  · intro hon
    by_contra hmbss
    exact absurd (hwps hon (Bool.eq_false_iff.mpr hmbss) (by decide)) (by decide)
  · intro h6g
    by_contra hht40
    exact absurd (hwidth h6g (eq_true_of_ne_false hht40) (by decide)) (by decide)

theorem SameText.rfBand (h : SameText env table hdrs)
    (hon : (finalLocals env [] (bareTlvs hdrs)).enableWps = true)
    (hmbss : (finalLocals env [] (bareTlvs hdrs)).useMbss = false) :
    ∃ hdr ∈ hdrs, hdr.id = tlvHwMode := by
  by_contra hno
  have hnone : (bareTlvs hdrs).filter (hasId tlvHwMode) = [] := by
    rw [List.filter_eq_nil_iff]
    intro t ht hid
    obtain ⟨hdr, hmem, rfl⟩ := List.mem_map.mp ht
    exact hno ⟨hdr, hmem, of_decide_eq_true hid⟩
  have hset := (h.unset hnone).1 hon
  rw [hmbss] at hset
  cases hset

theorem SameText.channelBand (h : SameText env table hdrs)
    (hfits : ∀ u ∈ bareTlvs hdrs, u.id = tlvHwMode → u.value.length ≤ bandSize)
    (h6g : (finalLocals env [] (bareTlvs hdrs)).is6gOnly = false)
    (hht40 : isHt40Chan (finalLocals env [] (bareTlvs hdrs)).channel = true) :
    BandDecided hdrs := by
  cases hlast : ((bareTlvs hdrs).filter (hasId tlvHwMode)).getLast? with
  | none =>
      have hoff := (h.unset (List.getLast?_eq_none_iff.mp hlast)).2 h6g
      rw [hht40] at hoff
      cases hoff
  | some t =>
      refine ⟨t, hlast, ?_⟩
      by_contra hno
      rw [not_or, not_or] at hno
      obtain ⟨hmem, hid⟩ := List.mem_filter.mp (List.mem_of_getLast? hlast)
      have hlen : t.value.length = bandSize :=
        Nat.le_antisymm (hfits t hmem (of_decide_eq_true hid)) (Nat.not_lt.mp hno.1)
      obtain ⟨old, hold, hdrop⟩ := @foldl_writeHwMode [] _ _ hlast
      obtain ⟨old', hold', hdrop'⟩ := @foldl_writeHwMode outsideBand _ _ hlast
      have hband : (finalLocals env [] (bareTlvs hdrs)).band = writeBand old t.value := hold
      have hstarts : ∀ c, bandStarts (writeBand old t.value) c =
          bandStarts (writeBand old' t.value) c :=
        bandStarts_writeBand (Nat.le_of_eq hlen)
      have htext : bandHasA (writeBand old t.value) = false := by
        unfold bandHasA
        rw [cText_writeBand_full hlen hno.2.1, hdrop hfits]
        simpa [cText] using hno.2.2
      have htext' : bandHasA (writeBand old' t.value) = true := by
        unfold bandHasA
        rw [cText_writeBand_full hlen hno.2.1, hdrop' hfits]
        simp [cText, outsideBand, bandSize]
      have hchars := h.charsBand outsideBand
      rw [hold'] at hchars
      obtain ⟨-, hwidth⟩ := of_derivedChars_band (by
        rw [hband, bandNamed, hstarts, hstarts]
        exact id) (by
        rw [hband, htext]
        exact fun hne => absurd hne (by decide)) hchars
      have hon := hwidth h6g hht40 htext'
      rw [hband, htext] at hon
      cases hon

end AfcDut.Conf
