import AfcDut.Conf.Placement

/-!
# The local `band`

What the string at `band` is after the loop: that of the band given last, and
where its 64 letters fill the local, what lies behind.
-/

namespace AfcDut.Conf

open Indigo ControlApp

variable {band band' value : List UInt8} {us : List PlacedTlv} {t : PlacedTlv}

theorem drop_writeBand (h : value.length ≤ bandSize) :
    (writeBand band value).drop bandSize = band.drop bandSize := by
  have hlen : (value ++ List.replicate (bandSize - value.length) 0).length = bandSize := by
    rw [List.length_append, List.length_replicate]
    omega
  rw [writeBand, List.drop_append, hlen, Nat.sub_self, List.drop_zero,
    List.drop_eq_nil_of_le (Nat.le_of_eq hlen), List.nil_append]

theorem foldl_writeHwMode_of_none (h : us.filter (hasId tlvHwMode) = []) :
    us.foldl writeHwMode band = band := by
  induction us with
  | nil => rfl
  | cons u us ih =>
      by_cases hid : hasId tlvHwMode u = true
      · rw [List.filter_cons_of_pos hid] at h
        cases h
      · rw [List.filter_cons_of_neg hid] at h
        rw [List.foldl_cons, writeHwMode, if_neg fun heq => hid (decide_eq_true heq), ih h]

/-- The band that is left is the one given last. -/
theorem foldl_writeHwMode (h : (us.filter (hasId tlvHwMode)).getLast? = some t) :
    ∃ old, us.foldl writeHwMode band = writeBand old t.value ∧
      ((∀ u ∈ us, u.id = tlvHwMode → u.value.length ≤ bandSize) →
        old.drop bandSize = band.drop bandSize) := by
  induction us generalizing band with
  | nil => cases h
  | cons u us ih =>
      rw [List.foldl_cons]
      by_cases hid : hasId tlvHwMode u = true
      · have heq : u.id = tlvHwMode := of_decide_eq_true hid
        rw [List.filter_cons_of_pos hid, List.getLast?_cons] at h
        rw [writeHwMode, if_pos heq]
        cases hlast : (us.filter (hasId tlvHwMode)).getLast? with
        | none =>
            rw [hlast] at h
            obtain rfl := Option.some.inj h
            exact ⟨band, foldl_writeHwMode_of_none (List.getLast?_eq_none_iff.mp hlast),
              fun _ => rfl⟩
        | some v =>
            rw [hlast] at h
            obtain rfl := Option.some.inj h
            obtain ⟨old, hfold, hdrop⟩ := @ih (writeBand band u.value) hlast
            refine ⟨old, hfold, ?_⟩
            intro hfits
            rw [hdrop fun w hw => hfits w (List.mem_cons_of_mem _ hw),
              drop_writeBand (hfits u List.mem_cons_self heq)]
      · rw [List.filter_cons_of_neg hid] at h
        obtain ⟨old, hfold, hdrop⟩ := @ih band h
        rw [writeHwMode, if_neg fun heq => hid (decide_eq_true heq)]
        exact ⟨old, hfold, fun hfits => hdrop fun w hw => hfits w (List.mem_cons_of_mem _ hw)⟩

/-- A band with a NUL in the local. -/
theorem cText_writeBand (h : value.length < bandSize ∨ 0 ∈ value) :
    cText (writeBand band value) = cText value := by
  unfold writeBand
  by_cases hnul : 0 ∈ value
  · rw [List.append_assoc, cText_append_of_mem hnul]
  · obtain ⟨n, hn⟩ := Nat.exists_eq_succ_of_ne_zero
      (Nat.sub_ne_zero_of_lt (h.resolve_right hnul))
    rw [List.append_assoc, cText_append_of_not_mem hnul, hn, List.replicate_succ,
      cText_of_not_mem hnul]
    exact List.append_nil value

/-- A band that fills the local. -/
theorem cText_writeBand_full (hlen : value.length = bandSize) (hnul : 0 ∉ value) :
    cText (writeBand band value) = value ++ cText (band.drop bandSize) := by
  rw [writeBand, hlen, Nat.sub_self, List.replicate_zero, List.append_nil,
    cText_append_of_not_mem hnul]

/-- The first letter of a band that is given. -/
theorem bandStarts_writeBand (h : value.length ≤ bandSize) (c : UInt8) :
    bandStarts (writeBand band value) c = bandStarts (writeBand band' value) c := by
  unfold bandStarts
  by_cases hend : value.length < bandSize ∨ 0 ∈ value
  · rw [cText_writeBand hend, cText_writeBand hend]
  · rw [not_or] at hend
    have hlen : value.length = bandSize := Nat.le_antisymm h (Nat.not_lt.mp hend.1)
    rw [cText_writeBand_full hlen hend.2, cText_writeBand_full hlen hend.2]
    cases value with
    | nil => cases hlen
    | cons a value => rfl

theorem bandHasA_writeBand (hfits : value.length ≤ bandSize)
    (h : value.length < bandSize ∨ 0 ∈ value ∨ 97 ∈ value) :
    bandHasA (writeBand band value) = bandHasA (writeBand band' value) := by
  unfold bandHasA
  by_cases hend : value.length < bandSize ∨ 0 ∈ value
  · rw [cText_writeBand hend, cText_writeBand hend]
  · have ha : 97 ∈ value := by
      rcases h with hlt | hnul | ha
      · exact absurd (.inl hlt) hend
      · exact absurd (.inr hnul) hend
      · exact ha
    rw [not_or] at hend
    have hlen : value.length = bandSize := Nat.le_antisymm hfits (Nat.not_lt.mp hend.1)
    rw [cText_writeBand_full hlen hend.2, cText_writeBand_full hlen hend.2]
    simp [ha]

end AfcDut.Conf
