import Mathlib.Data.List.Basic
import Mathlib.Data.List.Infix
import Mathlib.Tactic.Common

/-!
# The first occurrence of a pattern

The search for a pattern in a text. It returns what follows from the first
occurrence on, as a pointer into the text does.
-/

namespace AfcDut.Data.Search

variable {α : Type} [DecidableEq α]

/-- `strstr` -/
def strstr : List α → List α → Option (List α)
  | [], pattern => if pattern.isEmpty then some [] else none
  | c :: text, pattern =>
      if pattern.isPrefixOf (c :: text) then some (c :: text) else strstr text pattern

variable {pattern text : List α}

theorem strstr_of_start (h : pattern <+: text) : strstr text pattern = some text := by
  cases text with
  | nil => rw [List.prefix_nil.mp h]; rfl
  | cons c text => exact if_pos (List.isPrefixOf_iff_prefix.mpr h)

theorem strstr_cons_of_not_start {c : α} (h : ¬ pattern <+: c :: text) :
    strstr (c :: text) pattern = strstr text pattern :=
  if_neg (fun hpre => h (List.isPrefixOf_iff_prefix.mp hpre))

/-- What is found begins with the pattern and ends the text. -/
theorem of_strstr {found : List α} (h : strstr text pattern = some found) :
    pattern <+: found ∧ found <:+ text := by
  induction text with
  | nil =>
      unfold strstr at h
      split at h
      · obtain rfl := Option.some.inj h
        rename_i hempty
        rw [List.isEmpty_iff.mp hempty]
        exact ⟨List.nil_prefix, List.nil_suffix⟩
      · cases h
  | cons c text ih =>
      by_cases hpre : pattern <+: c :: text
      · rw [strstr_of_start hpre] at h
        obtain rfl := Option.some.inj h
        exact ⟨hpre, List.suffix_refl _⟩
      · rw [strstr_cons_of_not_start hpre] at h
        obtain ⟨hfound, hsuffix⟩ := ih h
        exact ⟨hfound, hsuffix.trans (List.suffix_cons c text)⟩

theorem strstr_eq_none_iff : strstr text pattern = none ↔ ¬ pattern <:+: text := by
  induction text with
  | nil =>
      unfold strstr
      rw [List.infix_nil]
      cases pattern <;> simp
  | cons c text ih =>
      rw [List.infix_cons_iff]
      by_cases hpre : pattern <+: c :: text
      · simp [strstr_of_start hpre, hpre]
      · rw [strstr_cons_of_not_start hpre, ih]
        simp [hpre]

theorem strstr_isSome_iff : (strstr text pattern).isSome = true ↔ pattern <:+: text := by
  rw [← not_iff_not, ← strstr_eq_none_iff, Bool.not_eq_true, Option.isSome_eq_false_iff,
    Option.isNone_iff_eq_none]

/-- No occurrence begins where the first letter of the pattern is missing. -/
theorem strstr_append_of_not_mem {a : α} {rest seg : List α} (h : a ∉ seg) :
    strstr (seg ++ text) (a :: rest) = strstr text (a :: rest) := by
  induction seg with
  | nil => rfl
  | cons c seg ih =>
      rw [List.mem_cons, not_or] at h
      have hpre : ¬ a :: rest <+: c :: (seg ++ text) := by
        rw [List.cons_prefix_cons]
        exact fun hboth => h.1 hboth.1
      rw [List.cons_append, strstr_cons_of_not_start hpre]
      exact ih h.2

/-- The first occurrence of one letter. -/
theorem strstr_letter {a : α} {seg : List α} (h : a ∉ seg) (text : List α) :
    strstr (seg ++ a :: text) [a] = some (a :: text) := by
  rw [strstr_append_of_not_mem h]
  exact strstr_of_start (List.cons_prefix_cons.mpr ⟨rfl, List.nil_prefix⟩)

theorem strstr_letter_none {a : α} (h : a ∉ text) : strstr text [a] = none := by
  rw [strstr_eq_none_iff, List.singleton_infix_iff]
  exact h

/-- The first occurrence: there is none that ends before it does. -/
theorem strstr_eq_some_iff (hne : pattern ≠ []) {rest : List α} :
    strstr text pattern = some (pattern ++ rest) ↔
      ∃ start, text = start ++ (pattern ++ rest) ∧ ¬ pattern <:+: start ++ pattern.dropLast := by
  have hlead : ∀ start, start ++ pattern.dropLast <+: start ++ (pattern ++ rest) := by
    intro start
    rw [List.prefix_append_right_inj]
    exact (List.dropLast_prefix pattern).trans (List.prefix_append pattern rest)
  constructor
  · intro h
    induction text with
    | nil =>
        have hnil := List.suffix_nil.mp (of_strstr h).2
        exact absurd (List.append_eq_nil_iff.mp hnil).1 hne
    | cons c text ih =>
        by_cases hpre : pattern <+: c :: text
        · rw [strstr_of_start hpre] at h
          refine ⟨[], Option.some.inj h, fun hin => ?_⟩
          have hlen := hin.length_le
          have hpos := List.length_pos_iff.mpr hne
          rw [List.nil_append, List.length_dropLast] at hlen
          omega
        · rw [strstr_cons_of_not_start hpre] at h
          obtain ⟨start, rfl, hfirst⟩ := ih h
          refine ⟨c :: start, rfl, ?_⟩
          rw [List.cons_append, List.infix_cons_iff, not_or]
          exact ⟨fun hstart => hpre (hstart.trans (hlead (c :: start))), hfirst⟩
  · rintro ⟨start, rfl, hfirst⟩
    induction start with
    | nil => exact strstr_of_start (List.prefix_append pattern rest)
    | cons c start ih =>
        rw [List.cons_append, List.infix_cons_iff, not_or] at hfirst
        have hpre : ¬ pattern <+: c :: (start ++ (pattern ++ rest)) := by
          intro hstart
          apply hfirst.1
          refine List.prefix_of_prefix_length_le hstart (hlead (c :: start)) ?_
          rw [List.length_cons, List.length_append, List.length_dropLast]
          omega
        rw [List.cons_append, strstr_cons_of_not_start hpre]
        exact ih hfirst.2

/-! ## Two texts -/

/-- What is found in a text is found first, whatever follows the text. -/
theorem strstr_append_of_some {found : List α} (h : strstr text pattern = some found)
    (rest : List α) : strstr (text ++ rest) pattern = some (found ++ rest) := by
  induction text with
  | nil =>
      obtain ⟨hpre, hsuffix⟩ := of_strstr h
      obtain rfl := List.suffix_nil.mp hsuffix
      obtain rfl := List.prefix_nil.mp hpre
      exact strstr_of_start List.nil_prefix
  | cons c text ih =>
      by_cases hpre : pattern <+: c :: text
      · rw [strstr_of_start hpre] at h
        obtain rfl := Option.some.inj h
        exact strstr_of_start (hpre.trans (List.prefix_append _ rest))
      · rw [strstr_cons_of_not_start hpre] at h
        obtain ⟨hfound, hsuffix⟩ := of_strstr h
        -- an earlier start would lie within the text: what is found there is as long
        have hlen : pattern.length ≤ (c :: text).length :=
          (hfound.length_le.trans hsuffix.length_le).trans (Nat.le_succ _)
        have hpre' : ¬ pattern <+: c :: (text ++ rest) := fun hstart =>
          hpre (List.prefix_of_prefix_length_le hstart (List.prefix_append (c :: text) rest) hlen)
        rw [List.cons_append, strstr_cons_of_not_start hpre', ih h]

/-- A text that ends with a mark that the pattern lacks. -/
theorem strstr_append_of_none {mark : α} (hmark : mark ∉ pattern) {start : List α}
    (h : strstr (start ++ [mark]) pattern = none) (rest : List α) :
    strstr (start ++ mark :: rest) pattern = strstr rest pattern := by
  have hne : pattern ≠ [] := by
    rintro rfl
    rw [strstr_of_start List.nil_prefix] at h
    cases h
  induction start with
  | nil =>
      have hpre : ¬ pattern <+: mark :: rest := by
        intro hstart
        obtain ⟨c, pattern, rfl⟩ := List.exists_cons_of_ne_nil hne
        exact hmark ((List.cons_prefix_cons.mp hstart).1 ▸ List.mem_cons_self)
      rw [List.nil_append, strstr_cons_of_not_start hpre]
  | cons c start ih =>
      rw [List.cons_append] at h
      have hpre : ¬ pattern <+: c :: (start ++ [mark]) := by
        intro hstart
        rw [strstr_of_start hstart] at h
        cases h
      have hpre' : ¬ pattern <+: c :: (start ++ mark :: rest) := by
        intro hstart
        have hwhole : c :: start ++ [mark] <+: c :: (start ++ mark :: rest) :=
          ⟨rest, by simp⟩
        rcases List.prefix_or_prefix_of_prefix hstart hwhole with hin | hover
        · exact hpre hin
        · exact hmark (hover.subset (by simp))
      rw [strstr_cons_of_not_start hpre] at h
      rw [List.cons_append, strstr_cons_of_not_start hpre', ih h]

/-! ## A mark between a key and what follows it -/

omit [DecidableEq α] in
/-- A text that ends with its only mark, at the start of a key and what follows. -/
theorem prefix_key {mark : α} {stem key rest : List α} (hstem : mark ∉ stem) :
    stem ++ [mark] <+: key ++ mark :: rest ↔ stem ++ [mark] <+: key ∨ stem = key := by
  induction stem generalizing key with
  | nil => cases key <;> simp
  | cons c stem ih =>
      rw [List.mem_cons, not_or] at hstem
      cases key with
      | nil => simp [Ne.symm hstem.1]
      | cons c' key =>
          rw [List.cons_append, List.cons_append, List.cons_prefix_cons, List.cons_prefix_cons,
            ih hstem.2, List.cons.injEq, and_or_left]

omit [DecidableEq α] in
/-- Texts free of a mark that stand before it in one text are the same. -/
theorem append_mark_start {mark : α} {key key' rest : List α} (hkey : mark ∉ key)
    (hkey' : mark ∉ key') : key ++ [mark] <+: key' ++ mark :: rest ↔ key = key' := by
  rw [prefix_key hkey]
  exact or_iff_right fun hin => hkey' (hin.subset (List.mem_append_right _ List.mem_cons_self))

omit [DecidableEq α] in
/-- It is in the key, or ends with it, or is in what follows. -/
theorem infix_key {mark : α} {stem key rest : List α} (hstem : mark ∉ stem) :
    stem ++ [mark] <:+: key ++ mark :: rest ↔
      stem ++ [mark] <:+: key ∨ stem <:+ key ∨ stem ++ [mark] <:+: rest := by
  induction key with
  | nil =>
      have hstart := @prefix_key _ mark stem [] rest hstem
      rw [List.nil_append] at hstart
      rw [List.nil_append, List.infix_cons_iff, hstart, List.suffix_nil, List.prefix_nil,
        List.infix_nil]
      simp
  | cons c key ih =>
      have hstart := @prefix_key _ mark stem (c :: key) rest hstem
      rw [List.cons_append] at hstart
      rw [List.cons_append, List.infix_cons_iff, hstart, ih, List.infix_cons_iff,
        List.suffix_cons_iff]
      tauto

end AfcDut.Data.Search
