import AfcDut.Conf.ReadBack

/-!
# Settings and canned texts

The configuration files as settings and canned texts, and at which of them the
search for a credential stops: a setting whose name ends with that of the
credential or whose value has its token, and a canned text that has it.
-/

namespace AfcDut.Conf

open Indigo ControlApp Data.Search Data.Lines

/-- A setting, or a text of the headers. -/
inductive Entry
  | setting (name value : List UInt8)
  | canned (text : List UInt8)

def Entry.text : Entry → List UInt8
  | .setting name value => configLine name value
  | .canned text => text

def entriesText (entries : List Entry) : List UInt8 := entries.flatMap Entry.text

variable (stem value : List UInt8)

/-- The search for `stem=` stops in the entry. -/
def Entry.Mentions : Entry → Prop
  | .setting name val =>
      stem ++ [equalsSign] <:+: name ∨ stem <:+ name ∨ stem ++ [equalsSign] <:+: val
  | .canned text => stem ++ [equalsSign] <:+: text

/-- A value in quotes, or up to the end of the line. -/
def ReadsAs (text : List UInt8) : Prop :=
  (∃ behind, text = quote :: (value ++ quote :: behind)) ∨
    ∃ behind, text = value ++ newline :: behind

/-- The value stands behind the first `stem=` of the entry. -/
def Entry.Says (e : Entry) : Prop :=
  ∃ start rest, e.text = start ++ (stem ++ [equalsSign] ++ rest) ∧
    ¬ stem ++ [equalsSign] <:+: start ++ stem ∧ ReadsAs value rest

/-- The entries before a credential do not hide its value: none of them mentions
it, or the first that does has the same one. -/
def LeftTo (entries : List Entry) : Prop :=
  (∀ e ∈ entries, ¬ e.Mentions stem) ∧ 0 ∉ value ∨
    ∃ before e after, entries = before ++ e :: after ∧ (∀ e ∈ before, ¬ e.Mentions stem) ∧
      e.Says stem value

variable {stem value} {tok : String} {entries : List Entry} {e : Entry}

/-- The token of a credential. -/
structure TokenOf (stem : List UInt8) (tok : String) : Prop where
  text : cString tok = stem ++ [equalsSign]
  oneLine : newline ∉ stem
  noMark : equalsSign ∉ stem

theorem TokenOf.newline_not_mem (h : TokenOf stem tok) : newline ∉ cString tok := by
  rw [h.text, List.mem_append, not_or]
  exact ⟨h.oneLine, by decide⟩

theorem TokenOf.ne_nil (h : TokenOf stem tok) : cString tok ≠ [] := by
  rw [h.text]
  simp

/-! ## One entry -/

theorem mentions_iff (htok : TokenOf stem tok) :
    strstr e.text (cString tok) = none ↔ ¬ e.Mentions stem := by
  rw [strstr_eq_none_iff, htok.text, not_iff_not]
  cases e with
  | canned text => rfl
  | setting name val =>
      have hval : stem ++ [equalsSign] <:+: val ++ [newline] ↔ stem ++ [equalsSign] <:+: val := by
        rw [List.infix_concat_iff]
        refine or_iff_right fun hend => ?_
        rcases List.suffix_concat_iff.mp hend with hnil | ⟨t, ht, -⟩
        · simp at hnil
        · exact absurd (List.append_inj' ht rfl).2 (by decide)
      rw [Entry.text, configLine, List.append_assoc, List.cons_append,
        infix_key htok.noMark, hval]
      rfl

theorem upTo_iff {mark : UInt8} (hmark : mark ∉ value) (hlen : value.length < credSize)
    {text : List UInt8} : upTo mark text = .ok value ↔ ∃ behind, text = value ++ mark :: behind := by
  constructor
  · intro hread
    have hmem : mark ∈ text := by
      by_contra hnot
      exact upTo_of_not_mem hnot hread
    obtain ⟨start, behind, rfl, hstart⟩ := List.eq_append_cons_of_mem hmem
    rw [upTo, takeWhile_append_mark hstart] at hread
    split at hread
    · exact ⟨behind, by rw [Except.ok.inj hread]⟩
    · cases hread
  · rintro ⟨behind, rfl⟩
    exact upTo_mark hmark hlen behind

theorem readSetting_iff (hline : newline ∉ value) (hquote : quote ∉ value)
    (hlen : value.length < credSize) {text : List UInt8} :
    readSetting text = .ok value ↔ ReadsAs value text := by
  unfold ReadsAs
  by_cases hstart : ∃ rest, text = quote :: rest
  · obtain ⟨rest, rfl⟩ := hstart
    have hplain : ¬ ∃ behind, quote :: rest = value ++ newline :: behind := by
      rintro ⟨behind, heq⟩
      cases value with
      | nil => exact absurd (List.cons_eq_cons.mp heq).1 (by decide)
      | cons b value => exact hquote ((List.cons_eq_cons.mp heq).1 ▸ List.mem_cons_self)
    rw [or_iff_left hplain, show readSetting (quote :: rest) = upTo quote rest from rfl,
      upTo_iff hquote hlen]
    simp only [List.cons_eq_cons, true_and]
  · have hread : readSetting text = upTo newline text := by
      cases text with
      | nil => rfl
      | cons b text => exact readSetting_of_ne fun hb => hstart ⟨text, by rw [hb]⟩
    rw [hread, upTo_iff hline hlen, or_iff_right]
    rintro ⟨behind, rfl⟩
    exact hstart ⟨_, rfl⟩

theorem says_iff (htok : TokenOf stem tok) (hline : newline ∉ value) (hquote : quote ∉ value)
    (hlen : value.length < credSize) (hfound : strstr e.text (cString tok) ≠ none) :
    credValue e.text tok = .ok value ↔ e.Says stem value := by
  obtain ⟨pos, hpos⟩ := Option.ne_none_iff_exists'.mp hfound
  obtain ⟨⟨tail, rfl⟩, -⟩ := of_strstr hpos
  have hread : credValue e.text tok = readSetting tail := by
    rw [credValue, hpos]
    simp only [← length_cString, List.drop_left]
  rw [hread, readSetting_iff hline hquote hlen]
  constructor
  · intro hreads
    obtain ⟨start, heq, hfirst⟩ := (strstr_eq_some_iff htok.ne_nil).mp hpos
    rw [htok.text, List.dropLast_concat] at hfirst
    exact ⟨start, tail, htok.text ▸ heq, htok.text ▸ hfirst, hreads⟩
  · rintro ⟨start, rest, heq, hfirst, hreads⟩
    have hsome : strstr e.text (cString tok) = some (cString tok ++ rest) := by
      rw [strstr_eq_some_iff htok.ne_nil, htok.text, List.dropLast_concat]
      exact ⟨start, heq, hfirst⟩
    obtain rfl := List.append_cancel_left (Option.some.inj (hpos.symm.trans hsome))
    exact hreads

/-- An entry that has the value mentions the credential. -/
theorem found_of_says (htok : TokenOf stem tok) (h : e.Says stem value) :
    strstr e.text (cString tok) ≠ none := by
  obtain ⟨start, rest, heq, -⟩ := h
  rw [Ne, strstr_eq_none_iff, not_not, heq, htok.text]
  exact ⟨start, rest, by simp⟩

/-! ## Several entries -/

theorem whole_entriesText (hwhole : ∀ e ∈ entries, Whole e.text) : Whole (entriesText entries) :=
  terminated_flatMap hwhole

theorem clear_entries (htok : TokenOf stem tok) (hwhole : ∀ e ∈ entries, Whole e.text) :
    strstr (entriesText entries) (cString tok) = none ↔ ∀ e ∈ entries, ¬ e.Mentions stem := by
  induction entries with
  | nil => simp [entriesText, strstr_eq_none_iff, htok.ne_nil]
  | cons e entries ih =>
      rw [List.forall_mem_cons] at hwhole
      rw [List.forall_mem_cons, ← ih hwhole.2, ← mentions_iff htok]
      show strstr (e.text ++ entriesText entries) (cString tok) = none ↔ _
      cases hfound : strstr e.text (cString tok) with
      | none =>
          rw [strstr_of_clear hwhole.1 htok.newline_not_mem hfound]
          simp
      | some pos => simp [strstr_append_of_some hfound]

/-- The first entry that mentions a credential is the one that is read. -/
theorem found_iff (htok : TokenOf stem tok) (hline : newline ∉ value) (hquote : quote ∉ value)
    (hlen : value.length < credSize) (hwhole : ∀ e ∈ entries, Whole e.text) :
    strstr (entriesText entries) (cString tok) ≠ none ∧
        credValue (entriesText entries) tok = .ok value ↔
      ∃ before e after, entries = before ++ e :: after ∧ (∀ e ∈ before, ¬ e.Mentions stem) ∧
        e.Says stem value := by
  have hnewline := htok.newline_not_mem
  constructor
  · rintro ⟨hfound, hread⟩
    induction entries with
    | nil => exact absurd (strstr_eq_none_iff.mpr (by simpa [entriesText] using htok.ne_nil)) hfound
    | cons e entries ih =>
        rw [List.forall_mem_cons] at hwhole
        by_cases hclear : strstr e.text (cString tok) = none
        · have hskip := strstr_of_clear hwhole.1 hnewline hclear (entriesText entries)
          change strstr (e.text ++ entriesText entries) (cString tok) ≠ none at hfound
          change credValue (e.text ++ entriesText entries) tok = .ok value at hread
          rw [hskip] at hfound
          rw [credValue, hskip, ← credValue] at hread
          obtain ⟨before, e', after, rfl, hbefore, hsays⟩ := ih hwhole.2 hfound hread
          exact ⟨e :: before, e', after, rfl,
            List.forall_mem_cons.mpr ⟨(mentions_iff htok).mp hclear, hbefore⟩, hsays⟩
        · have hhere := (credValue_of_found hwhole.1 hnewline htok.ne_nil hclear hline
            (entriesText entries)).mp hread
          exact ⟨[], e, entries, rfl, fun _ h => absurd h List.not_mem_nil,
            (says_iff htok hline hquote hlen hclear).mp hhere⟩
  · rintro ⟨before, e, after, rfl, hbefore, hsays⟩
    rw [List.forall_mem_append, List.forall_mem_cons] at hwhole
    obtain ⟨hwbefore, hwhole, -⟩ := hwhole
    have htext : entriesText (before ++ e :: after) =
        entriesText before ++ (e.text ++ entriesText after) := by
      rw [entriesText, List.flatMap_append, List.flatMap_cons]
      rfl
    have hfound := found_of_says htok hsays
    have hskip := strstr_of_clear (whole_entriesText hwbefore) hnewline
      ((clear_entries htok hwbefore).mpr hbefore) (e.text ++ entriesText after)
    rw [htext, hskip, credValue, hskip, ← credValue]
    refine ⟨?_, (credValue_of_found hwhole hnewline htok.ne_nil hfound hline _).mpr
      ((says_iff htok hline hquote hlen hfound).mpr hsays)⟩
    obtain ⟨pos, hpos⟩ := Option.ne_none_iff_exists'.mp hfound
    rw [strstr_append_of_some hpos]
    exact Option.some_ne_none _

/-- The text before a credential leaves its token to it exactly if its entries do. -/
theorem undisturbed_iff (htok : TokenOf stem tok) (hline : newline ∉ value)
    (hquote : quote ∉ value) (hlen : value.length < credSize)
    (hwhole : ∀ e ∈ entries, Whole e.text) :
    Undisturbed (entriesText entries) tok value ↔ LeftTo stem value entries := by
  rw [Undisturbed, clear_entries htok hwhole, found_iff htok hline hquote hlen hwhole, LeftTo]

end AfcDut.Conf
