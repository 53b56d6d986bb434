import AfcDut.ControlApp.KeyValue

/-!
# Status values are read exactly

`get_key_value` finds the line whose key is the token, wherever it stands, and
no other line.
-/

namespace AfcDut.ControlApp.Theorems.KeyValue

open Indigo Data.Search

/-- What `get_key_value` looks for. -/
def linePattern (token : List UInt8) : List UInt8 := newline :: token ++ [equalsSign]

/-- Without a line there is no equals sign. -/
theorem no_key (final : Bool) (token : List UInt8) :
    ¬ token ++ [equalsSign] <:+: laterLines [] final := by
  intro hinfix
  have hmark := hinfix.subset (List.mem_append_right token (List.mem_singleton_self equalsSign))
  cases final <;> simp [laterLines, newline, equalsSign] at hmark

section

variable {token : List UInt8} {lines : List (List UInt8 × List UInt8)}
  (hequals : equalsSign ∉ token)
include hequals

/-- A line is found exactly if its key is the token. -/
theorem prefix_line_iff {line : List UInt8 × List UInt8} (hkey : equalsSign ∉ line.1)
    (rest : List UInt8) :
    token ++ [equalsSign] <+: keyValueLine line ++ rest ↔ token = line.1 := by
  rw [keyValueLine, List.append_assoc, List.cons_append]
  exact append_mark_start hequals hkey

theorem search_line {line : List UInt8 × List UInt8} (h : StatusLines (line :: lines))
    (final : Bool) :
    strstr (laterLines (line :: lines) final) (linePattern token) =
      if token = line.1 then some (laterLines (line :: lines) final)
      else strstr (laterLines lines final) (linePattern token) := by
  have hkey := h.noEquals line List.mem_cons_self
  have hstart : linePattern token <+: laterLines (line :: lines) final ↔ token = line.1 := by
    rw [laterLines_cons, linePattern, List.cons_append, List.cons_prefix_cons,
      prefix_line_iff hequals hkey]
    exact and_iff_right rfl
  by_cases hsame : token = line.1
  · rw [if_pos hsame]
    exact strstr_of_start (hstart.mpr hsame)
  · rw [if_neg hsame]
    have hnot := mt hstart.mp hsame
    rw [laterLines_cons] at hnot ⊢
    rw [strstr_cons_of_not_start hnot]
    exact strstr_append_of_not_mem h.onLine

/-- The line is found behind whatever lines come before it. -/
theorem search_found {value : List UInt8} (h : StatusLines lines) (hmem : (token, value) ∈ lines)
    (final : Bool) : ∃ rest, strstr (laterLines lines final) (linePattern token) =
      some (linePattern token ++ (value ++ laterLines rest final)) := by
  induction lines with
  | nil => cases hmem
  | cons line lines ih =>
      rw [search_line hequals h]
      rcases List.mem_cons.mp hmem with rfl | hlater
      · refine ⟨lines, ?_⟩
        rw [if_pos rfl, laterLines_cons, keyValueLine, linePattern]
        simp
      · have hne : token ≠ line.1 := by
          intro heq
          have hnodup := List.nodup_cons.mp h.distinct
          exact hnodup.1 (heq ▸ List.mem_map_of_mem hlater)
        rw [if_neg hne]
        exact ih h.tail hlater

theorem search_none (h : StatusLines lines) (hnot : ∀ value, (token, value) ∉ lines)
    (final : Bool) : strstr (laterLines lines final) (linePattern token) = none := by
  induction lines with
  | nil =>
      rw [strstr_eq_none_iff]
      exact fun hinfix => no_key final token ((List.suffix_cons _ _).isInfix.trans hinfix)
  | cons line lines ih =>
      have hne : token ≠ line.1 := by
        intro heq
        exact hnot line.2 (heq ▸ List.mem_cons_self)
      rw [search_line hequals h, if_neg hne]
      exact ih h.tail fun value hmem => hnot value (List.mem_cons_of_mem _ hmem)

end

/-! ## The three cases of the code -/

section

variable {value buffer token : List UInt8}

theorem length_linePattern : (linePattern token).length = token.length + 2 := by
  rw [linePattern, List.length_append, List.length_cons, List.length_singleton]

theorem sprintf_line (hroom : token.length + 3 ≤ sBufferLen) :
    sprintf sBufferLen (linePattern token) = .ok (linePattern token) := by
  apply if_pos
  rw [length_linePattern]
  omega

theorem sprintf_first (hroom : token.length + 3 ≤ sBufferLen) :
    sprintf sBufferLen (token ++ [equalsSign]) = .ok (token ++ [equalsSign]) := by
  apply if_pos
  rw [List.length_append, List.length_singleton]
  omega

/-- A token with no room for the NUL overruns the local buffer. -/
theorem getKeyValue_overrun (hroom : sBufferLen ≤ token.length + 2) :
    getKeyValue value buffer token = .error (.write sBufferLen) := by
  have hover : sprintf sBufferLen (linePattern token) = .error (.write sBufferLen) := by
    apply if_neg
    rw [length_linePattern]
    omega
  unfold getKeyValue
  rw [linePattern] at hover
  rw [hover]
  rfl

theorem getKeyValue_later (hroom : token.length + 3 ≤ sBufferLen) {ptr : List UInt8}
    (hfound : strstr buffer (linePattern token) = some (linePattern token ++ ptr)) :
    getKeyValue value buffer token = storeLine value ptr := by
  have hline := sprintf_line hroom
  have hdrop : (linePattern token ++ ptr).drop (linePattern token).length = ptr :=
    List.drop_left
  unfold getKeyValue
  rw [linePattern] at hline hfound hdrop
  rw [hline, Py.ok_bind, hfound]
  exact congrArg (storeLine value) hdrop

theorem getKeyValue_first (hroom : token.length + 3 ≤ sBufferLen) {ptr : List UInt8}
    (hnone : strstr (token ++ [equalsSign] ++ ptr) (linePattern token) = none) :
    getKeyValue value (token ++ [equalsSign] ++ ptr) token = storeLine value ptr := by
  have hline := sprintf_line hroom
  have hstart : (token ++ [equalsSign]).isPrefixOf (token ++ [equalsSign] ++ ptr) = true :=
    List.isPrefixOf_iff_prefix.mpr (List.prefix_append _ _)
  unfold getKeyValue
  rw [linePattern] at hline hnone
  rw [hline, Py.ok_bind, hnone, sprintf_first hroom]
  show (if (token ++ [equalsSign]).isPrefixOf (token ++ [equalsSign] ++ ptr) = true then
    storeLine value ((token ++ [equalsSign] ++ ptr).drop (token ++ [equalsSign]).length)
    else return (-1, value)) = _
  rw [if_pos hstart, List.drop_left]

theorem getKeyValue_missing (hroom : token.length + 3 ≤ sBufferLen)
    (hnone : strstr buffer (linePattern token) = none)
    (hfirst : ¬ token ++ [equalsSign] <+: buffer) :
    getKeyValue value buffer token = .ok (-1, value) := by
  have hline := sprintf_line hroom
  unfold getKeyValue
  rw [linePattern] at hline hnone
  rw [hline, Py.ok_bind, hnone, sprintf_first hroom]
  show (if (token ++ [equalsSign]).isPrefixOf buffer = true then
    storeLine value (buffer.drop (token ++ [equalsSign]).length) else return (-1, value)) = _
  rw [if_neg fun h => hfirst (List.isPrefixOf_iff_prefix.mp h)]
  rfl

end

/-! ## The theorem -/

/-- A token of 510 letters, with a newline before it and an equals sign after
it, leaves no room for the NUL in the 512 bytes. -/
theorem long_token_overruns :
    (List.replicate 510 (97 : UInt8)).length < sBufferLen ∧
      equalsSign ∉ List.replicate 510 (97 : UInt8) ∧ newline ∉ List.replicate 510 (97 : UInt8) ∧
      StatusLines [] ∧
      getKeyValue [0] (statusText [] false) (List.replicate 510 97) =
        .error (.write sBufferLen) := by
  have hletter : ∀ mark : UInt8, mark ≠ 97 → mark ∉ List.replicate 510 (97 : UInt8) :=
    fun mark hne hmem => hne (List.mem_replicate.mp hmem).2
  have hlength : (List.replicate 510 (97 : UInt8)).length = 510 := List.length_replicate
  have hempty : StatusLines [] := by
    refine ⟨List.nodup_nil, ?_, ?_, ?_, ?_⟩ <;> exact fun _ h => nomatch h
  refine ⟨?_, hletter _ (by decide), hletter _ (by decide), hempty, ?_⟩
  · rw [hlength]
    decide
  · apply getKeyValue_overrun
    rw [hlength]
    decide

/-- **Status values.** For every status text and every token that leaves room
for a newline, an equals sign and the NUL, the value of the line whose key is
the token is stored, and nothing is stored if no line has that key. A newline
in the token changes nothing. -/
theorem get_key_value_exact {lines : List (List UInt8 × List UInt8)} (h : StatusLines lines)
    (final : Bool) {token : List UInt8} (hequals : equalsSign ∉ token)
    (hroom : token.length + 3 ≤ sBufferLen) :
    (∀ value, (token, value) ∈ lines → ∀ size, value.length < size →
      getKeyValue (List.replicate size 0) (statusText lines final) token =
        .ok (0, zeroed size value)) ∧
    ((∀ value, (token, value) ∉ lines) → ∀ buffer,
      getKeyValue buffer (statusText lines final) token = .ok (-1, buffer)) := by
  cases lines with
  | nil =>
      refine ⟨fun _ hmem => absurd hmem List.not_mem_nil, ?_⟩
      intro hnot buffer
      apply getKeyValue_missing hroom (search_none hequals h hnot final)
      exact fun hstart => no_key final token hstart.isInfix
  | cons line lines =>
      have hskip : strstr (statusText (line :: lines) final) (linePattern token) =
          strstr (laterLines lines final) (linePattern token) := by
        rw [statusText_cons]
        exact strstr_append_of_not_mem h.onLine
      constructor
      · intro value hmem size hsize
        rcases List.mem_cons.mp hmem with rfl | hlater
        · have hnot : ∀ other, (token, other) ∉ lines := by
            intro other hother
            exact (List.nodup_cons.mp h.distinct).1 (List.mem_map.mpr ⟨_, hother, rfl⟩)
          have hnone := hskip.trans (search_none hequals h.tail hnot final)
          have hfirst : statusText ((token, value) :: lines) final =
              token ++ [equalsSign] ++ (value ++ laterLines lines final) := by
            rw [statusText_cons, keyValueLine]
            simp
          rw [hfirst] at hnone ⊢
          rw [getKeyValue_first hroom hnone]
          exact storeLine_value (h.valueOnLine _ List.mem_cons_self) hsize lines final
        · obtain ⟨rest, hfound⟩ := search_found hequals h.tail hlater final
          rw [getKeyValue_later hroom (hskip.trans hfound)]
          exact storeLine_value (h.tail.valueOnLine _ hlater) hsize rest final
      · intro hnot buffer
        have hlater : ∀ value, (token, value) ∉ lines :=
          fun value hmem => hnot value (List.mem_cons_of_mem _ hmem)
        apply getKeyValue_missing hroom (hskip.trans (search_none hequals h.tail hlater final))
        rw [statusText_cons, prefix_line_iff hequals (h.noEquals line List.mem_cons_self)]
        intro heq
        exact hnot line.2 (heq ▸ List.mem_cons_self)

/-- `ssid` behind a `bssid` line whose value looks like one of its own. -/
theorem get_key_value_exact_ssid :
    getKeyValue (List.replicate 4 0)
      (statusText [("bssid".toUTF8.toList, "ssid=x".toUTF8.toList),
        ("ssid".toUTF8.toList, "dut".toUTF8.toList)] true) "ssid".toUTF8.toList =
      .ok (0, zeroed 4 "dut".toUTF8.toList) := by
  have h : StatusLines [("bssid".toUTF8.toList, "ssid=x".toUTF8.toList),
      ("ssid".toUTF8.toList, "dut".toUTF8.toList)] := by
    refine ⟨by decide +kernel, ?_, ?_, ?_, ?_⟩ <;> decide +kernel
  apply (get_key_value_exact h true (by decide +kernel) (by decide +kernel)).1 _
    (by decide +kernel)
  decide +kernel

end AfcDut.ControlApp.Theorems.KeyValue
