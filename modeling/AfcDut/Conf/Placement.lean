import AfcDut.Conf.HapdChars

/-!
# What lies behind the values

How a string search in a value depends on the memory behind it, and what a
request alone decides of it.
-/

namespace AfcDut.Conf

open Indigo ControlApp Data.Search

/-! ## Strings -/

theorem cText_append_of_not_mem {value : List UInt8} (h : 0 ∉ value) (behind : List UInt8) :
    cText (value ++ behind) = value ++ cText behind := by
  unfold cText
  rw [List.takeWhile_append_of_pos]
  intro b hb
  simp only [ne_eq, decide_not, Bool.not_eq_eq_eq_not, Bool.not_true, decide_eq_false_iff_not]
  rintro rfl
  exact h hb

theorem cText_append_of_mem {value : List UInt8} (h : 0 ∈ value) (behind : List UInt8) :
    cText (value ++ behind) = cText value := by
  induction value with
  | nil => cases h
  | cons b value ih =>
      unfold cText at ih ⊢
      rw [List.cons_append, List.takeWhile_cons, List.takeWhile_cons]
      by_cases hb : b = 0
      · simp [hb]
      · simp only [ne_eq, hb, not_false_eq_true, decide_true, if_true, List.cons.injEq, true_and]
        exact ih ((List.mem_cons.mp h).resolve_left (Ne.symm hb))

theorem cText_of_not_mem {value : List UInt8} (h : 0 ∉ value) : cText value = value := by
  have happend := cText_append_of_not_mem h []
  rw [List.append_nil] at happend
  rw [happend]
  exact List.append_nil value

theorem cText_prefix (value behind : List UInt8) : cText value <+: cText (value ++ behind) := by
  by_cases h : 0 ∈ value
  · rw [cText_append_of_mem h]
  · rw [cText_append_of_not_mem h, cText_of_not_mem h]
    exact List.prefix_append value (cText behind)

/-! ## Placements -/

/-- A TLV with a NUL right behind its value. -/
def bare (hdr : TlvHdr) : PlacedTlv := ⟨hdr, []⟩

/-- The request, with a NUL right behind each value. -/
def bareTlvs (hdrs : List TlvHdr) : List PlacedTlv := hdrs.map bare

variable {t : PlacedTlv} {id : UInt16} {token : String}

theorem contains_iff : t.contains token = true ↔ cString token <:+: t.text := by
  rw [PlacedTlv.contains, strstr_isSome_iff]

/-- A value with a NUL decides what is found in it. -/
theorem contains_of_nul (h : 0 ∈ t.value) : t.contains token = (bare t.hdr).contains token := by
  have htext : t.text = (bare t.hdr).text := by
    show cText (t.value ++ t.behind) = cText (t.value ++ [])
    rw [cText_append_of_mem h, cText_append_of_mem h]
  unfold PlacedTlv.contains
  rw [htext]

/-- What is found in the value is found whatever lies behind it. -/
theorem contains_of_bare (h : (bare t.hdr).contains token = true) : t.contains token = true := by
  rw [contains_iff] at h ⊢
  have htext : (bare t.hdr).text <+: t.text := by
    show cText (t.value ++ []) <+: cText (t.value ++ t.behind)
    rw [List.append_nil]
    exact cText_prefix t.value t.behind
  exact h.trans htext.isInfix

/-- What lies behind a value without a NUL is found as if it were part of it. -/
theorem contains_of_behind {hdr : TlvHdr} {behind : List UInt8} (hvalue : 0 ∉ (bare hdr).value)
    (hbehind : 0 ∉ behind) (h : cString token <:+: behind) :
    (PlacedTlv.mk hdr behind).contains token = true := by
  have htext : (PlacedTlv.mk hdr behind).text = (bare hdr).value ++ behind := by
    show cText ((bare hdr).value ++ behind) = (bare hdr).value ++ behind
    rw [cText_append_of_not_mem hvalue, cText_of_not_mem hbehind]
  rw [contains_iff, htext]
  exact h.trans (List.suffix_append _ behind).isInfix

/-! ## What the request decides -/

/-- A test of the TLVs of one kind that searches the string of the value. -/
structure Searches (id : UInt16) (test : PlacedTlv → Bool) : Prop where
  kind : ∀ {t}, test t = true → t.id = id
  keeps : ∀ {t}, test (bare t.hdr) = true → test t = true
  nul : ∀ {t}, 0 ∈ t.value → test t = test (bare t.hdr)

theorem searches_sets (id : UInt16) (token : String) : Searches id (sets id token) where
  kind := fun h => (decide_eq_true_iff.mp h).1
  keeps := by
    intro t h
    obtain ⟨hid, hcontains⟩ := decide_eq_true_iff.mp h
    exact decide_eq_true ⟨hid, contains_of_bare hcontains⟩
  nul := by
    intro t h
    unfold sets
    rw [contains_of_nul h]
    rfl

theorem searches_isTransition : Searches tlvWpaKeyMgmt isTransition where
  kind := fun h => (decide_eq_true_iff.mp h).1
  keeps := by
    intro t h
    obtain ⟨hid, hsae, hpsk⟩ := decide_eq_true_iff.mp h
    exact decide_eq_true ⟨hid, contains_of_bare hsae, contains_of_bare hpsk⟩
  nul := by
    intro t h
    unfold isTransition
    rw [contains_of_nul h, contains_of_nul h]
    rfl

/-- Some value passes the test whatever lies behind it. -/
def Sure (hdrs : List TlvHdr) (test : PlacedTlv → Bool) : Prop :=
  (bareTlvs hdrs).any test = true

/-- Some TLV of the kind has no NUL in its value, so that the search goes on
behind it. -/
def Reaches (hdrs : List TlvHdr) (id : UInt16) : Prop :=
  ∃ hdr ∈ hdrs, hdr.id = id ∧ 0 ∉ (bare hdr).value

/-- The memory behind the values decides the test. -/
def Undecided (hdrs : List TlvHdr) (id : UInt16) (test : PlacedTlv → Bool) : Prop :=
  ¬ Sure hdrs test ∧ Reaches hdrs id

variable {test : PlacedTlv → Bool} {ts : List PlacedTlv}

theorem bareTlvs_map (ts : List PlacedTlv) :
    bareTlvs (ts.map PlacedTlv.hdr) = ts.map fun t => bare t.hdr := by
  rw [bareTlvs, List.map_map]
  rfl

/-- A sure test passes in every placement. -/
theorem any_of_sure (h : Searches id test) (hsure : Sure (ts.map PlacedTlv.hdr) test) :
    ts.any test = true := by
  rw [Sure, bareTlvs_map, List.any_map, List.any_eq_true] at hsure
  obtain ⟨t, ht, htest⟩ := hsure
  exact List.any_eq_true.mpr ⟨t, ht, h.keeps htest⟩

/-- A decided test has the same outcome in every placement. -/
theorem any_of_decided (h : Searches id test)
    (hdecided : ¬ Undecided (ts.map PlacedTlv.hdr) id test) :
    ts.any test = (bareTlvs (ts.map PlacedTlv.hdr)).any test := by
  by_cases hsure : Sure (ts.map PlacedTlv.hdr) test
  · rw [any_of_sure h hsure, hsure]
  · have hreaches : ¬ Reaches (ts.map PlacedTlv.hdr) id := fun hr => hdecided ⟨hsure, hr⟩
    have hbare : (bareTlvs (ts.map PlacedTlv.hdr)).any test = false :=
      Bool.not_eq_true _ ▸ hsure
    rw [hbare, List.any_eq_false]
    intro t ht htest
    have hnul : 0 ∈ t.value := by
      by_contra hnul
      exact hreaches ⟨t.hdr, List.mem_map_of_mem ht, h.kind htest, hnul⟩
    rw [h.nul hnul] at htest
    apply hsure
    rw [Sure, bareTlvs_map, List.any_map, List.any_eq_true]
    exact ⟨t, ht, htest⟩

/-! ## One kind followed by a text -/

/-- The TLVs of one kind are followed by `behind`, the others by a NUL. -/
def followed (id : UInt16) (behind : List UInt8) (hdr : TlvHdr) : PlacedTlv :=
  ⟨hdr, if hdr.id = id then behind else []⟩

theorem followed_of_ne {hdr : TlvHdr} {behind : List UInt8} (h : hdr.id ≠ id) :
    followed id behind hdr = bare hdr := by
  rw [followed, if_neg h, bare]

theorem map_hdr_followed (id : UInt16) (behind : List UInt8) (hdrs : List TlvHdr) :
    (hdrs.map (followed id behind)).map PlacedTlv.hdr = hdrs := by
  rw [List.map_map]
  exact List.map_id' hdrs

theorem map_hdr_bareTlvs (hdrs : List TlvHdr) : (bareTlvs hdrs).map PlacedTlv.hdr = hdrs := by
  rw [bareTlvs, List.map_map]
  exact List.map_id' hdrs

/-- The tests of other kinds have the outcome they have with NULs. -/
theorem any_followed_of_ne {id' : UInt16} (h : Searches id' test) (hne : id' ≠ id)
    (behind : List UInt8) (hdrs : List TlvHdr) :
    (hdrs.map (followed id behind)).any test = (bareTlvs hdrs).any test := by
  rw [bareTlvs, List.any_map, List.any_map]
  congr 1
  funext hdr
  by_cases hid : hdr.id = id
  · have hfail : ∀ t : PlacedTlv, t.hdr = hdr → test t = false := by
      rintro t rfl
      by_contra htest
      exact hne ((h.kind (Bool.not_eq_false _ ▸ htest)).symm.trans hid)
    rw [Function.comp_apply, Function.comp_apply, hfail _ rfl, hfail _ rfl]
  · rw [Function.comp_apply, Function.comp_apply, followed_of_ne hid]

/-- A kind that reaches behind its value passes a test that what follows passes. -/
theorem any_followed_of_reaches {behind : List UInt8} {hdrs : List TlvHdr}
    (hreaches : Reaches hdrs id)
    (h : ∀ hdr, hdr.id = id → 0 ∉ (bare hdr).value → test ⟨hdr, behind⟩ = true) :
    (hdrs.map (followed id behind)).any test = true := by
  obtain ⟨hdr, hmem, hid, hvalue⟩ := hreaches
  rw [List.any_map, List.any_eq_true]
  refine ⟨hdr, hmem, ?_⟩
  rw [Function.comp_apply, followed, if_pos hid]
  exact h hdr hid hvalue

theorem sets_of_behind {hdr : TlvHdr} {behind : List UInt8} (hid : hdr.id = id)
    (hvalue : 0 ∉ (bare hdr).value) (hbehind : 0 ∉ behind) (h : cString token <:+: behind) :
    sets id token ⟨hdr, behind⟩ = true :=
  decide_eq_true ⟨hid, contains_of_behind hvalue hbehind h⟩

end AfcDut.Conf
