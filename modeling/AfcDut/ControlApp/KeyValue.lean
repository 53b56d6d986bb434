import AfcDut.Indigo.Wrapper
import AfcDut.Data.Search
import AfcDut.Py.Raises

/-!
# Status texts

`get_key_value` of `utils.c`, by which the handlers read the status of hostapd
and of wpa_supplicant. A C string is the list of its bytes before the NUL; the
buffer a value goes to is its memory.
-/

namespace AfcDut.ControlApp

open Indigo Data.Search

/-- `S_BUFFER_LEN` -/
def sBufferLen : Nat := 512

/-- `sprintf` into a local buffer of `size` bytes. -/
def sprintf (size : Nat) (text : List UInt8) : Except Fault (List UInt8) :=
  if text.length < size then .ok text else .error (.write size)

def newline : UInt8 := 10
def equalsSign : UInt8 := 61

/-- What `ptr` points to is stored, up to the end of the line. `strncpy` writes
no NUL there. -/
def storeLine (value ptr : List UInt8) : Except Fault (Int × List UInt8) := do
  match strstr ptr [newline] with
  | some endptr => return (0, ← store value 0 (ptr.take (ptr.length - endptr.length)))
  | none => return (0, ← store value 0 (ptr ++ [0]))

/-- The first line of a reply has no newline before it and is looked at if no
other line is found. -/
def getKeyValue (value buffer token : List UInt8) : Except Fault (Int × List UInt8) := do
  let line ← sprintf sBufferLen (newline :: token ++ [equalsSign])
  match strstr buffer line with
  | some ptr => storeLine value (ptr.drop line.length)
  | none =>
      let first ← sprintf sBufferLen (token ++ [equalsSign])
      if first.isPrefixOf buffer then
        storeLine value (buffer.drop first.length)
      else
        return (-1, value)

/-! ## Lines -/

/-- A line `key=value`. -/
def keyValueLine (line : List UInt8 × List UInt8) : List UInt8 :=
  line.1 ++ equalsSign :: line.2

/-- The lines joined by newlines, with or without a final one. -/
def statusText (lines : List (List UInt8 × List UInt8)) (final : Bool) : List UInt8 :=
  [newline].intercalate (lines.map keyValueLine) ++ if final then [newline] else []

/-- What the keys and the values of a status text are made of. -/
structure StatusLines (lines : List (List UInt8 × List UInt8)) : Prop where
  distinct : (lines.map Prod.fst).Nodup
  nonempty : ∀ line ∈ lines, line.1 ≠ []
  noEquals : ∀ line ∈ lines, equalsSign ∉ line.1
  keyOnLine : ∀ line ∈ lines, newline ∉ line.1
  valueOnLine : ∀ line ∈ lines, newline ∉ line.2

/-- The lines after the first, each with the newline before it. -/
def laterLines (lines : List (List UInt8 × List UInt8)) (final : Bool) : List UInt8 :=
  lines.flatMap (fun line => newline :: keyValueLine line) ++ if final then [newline] else []

theorem laterLines_cons (line : List UInt8 × List UInt8) (lines : List (List UInt8 × List UInt8))
    (final : Bool) : laterLines (line :: lines) final =
      newline :: (keyValueLine line ++ laterLines lines final) := by
  rw [laterLines, List.flatMap_cons, List.append_assoc, List.cons_append]
  rfl

theorem statusText_cons (line : List UInt8 × List UInt8) (lines : List (List UInt8 × List UInt8))
    (final : Bool) :
    statusText (line :: lines) final = keyValueLine line ++ laterLines lines final := by
  have hjoin : [newline].intercalate ((line :: lines).map keyValueLine) =
      keyValueLine line ++ lines.flatMap fun line => newline :: keyValueLine line := by
    induction lines generalizing line with
    | nil => simp [List.intercalate]
    | cons next lines ih =>
        rw [List.map_cons, List.map_cons, List.intercalate_cons_cons, ← List.map_cons, ih,
          List.flatMap_cons, List.append_assoc]
        rfl
  rw [statusText, hjoin, List.append_assoc]
  rfl

namespace StatusLines

variable {line : List UInt8 × List UInt8} {lines : List (List UInt8 × List UInt8)}

theorem tail (h : StatusLines (line :: lines)) : StatusLines lines where
  distinct := (List.nodup_cons.mp h.distinct).2
  nonempty := fun l hl => h.nonempty l (List.mem_cons_of_mem _ hl)
  noEquals := fun l hl => h.noEquals l (List.mem_cons_of_mem _ hl)
  keyOnLine := fun l hl => h.keyOnLine l (List.mem_cons_of_mem _ hl)
  valueOnLine := fun l hl => h.valueOnLine l (List.mem_cons_of_mem _ hl)

theorem onLine (h : StatusLines (line :: lines)) : newline ∉ keyValueLine line := by
  have hkey := h.keyOnLine line List.mem_cons_self
  have hvalue := h.valueOnLine line List.mem_cons_self
  have hmark : newline ≠ equalsSign := by decide
  rw [keyValueLine, List.mem_append, List.mem_cons]
  rintro (hin | heq | hin)
  · exact hkey hin
  · exact hmark heq
  · exact hvalue hin

end StatusLines

/-! ## Storing a line -/

/-- A zeroed buffer holds a text and the NUL after it. -/
def zeroed (size : Nat) (text : List UInt8) : List UInt8 :=
  text ++ List.replicate (size - text.length) 0

theorem store_zeros {size : Nat} {text : List UInt8} (h : text.length ≤ size) :
    store (List.replicate size 0) 0 text = .ok (zeroed size text) := by
  have hroom : (0 : Int) ≤ 0 ∧
      (0 : Int).toNat + text.length ≤ (List.replicate size (0 : UInt8)).length := by
    rw [List.length_replicate]
    exact ⟨Int.le_refl 0, by simpa using h⟩
  unfold store
  rw [if_pos hroom, zeroed]
  simp [List.drop_replicate]

/-- The end of the line is a newline or the end of the text. -/
theorem storeLine_value {size : Nat} {value : List UInt8} (hvalue : newline ∉ value)
    (hsize : value.length < size) (lines : List (List UInt8 × List UInt8)) (final : Bool) :
    storeLine (List.replicate size 0) (value ++ laterLines lines final) =
      .ok (0, zeroed size value) := by
  have hnewline : ∀ rest, storeLine (List.replicate size 0) (value ++ newline :: rest) =
      .ok (0, zeroed size value) := by
    intro rest
    have htake : (value ++ newline :: rest).take
        ((value ++ newline :: rest).length - (newline :: rest).length) = value := by
      rw [List.length_append, Nat.add_sub_cancel, List.take_left]
    unfold storeLine
    rw [strstr_letter hvalue]
    show (do return ((0 : Int), ← store _ 0 (List.take _ (value ++ newline :: rest)))) = _
    rw [htake, store_zeros (Nat.le_of_lt hsize)]
    rfl
  cases lines with
  | cons line lines => exact laterLines_cons line lines final ▸ hnewline _
  | nil =>
      cases final with
      | true => exact hnewline []
      | false =>
          have hlast : value ++ laterLines [] false = value := List.append_nil _
          have hnul : zeroed size (value ++ [0]) = zeroed size value := by
            have hsplit : size - value.length = size - (value ++ [0]).length + 1 := by
              rw [List.length_append, List.length_singleton]
              omega
            rw [zeroed, zeroed, hsplit, List.replicate_succ, List.append_assoc]
            rfl
          have hlen : (value ++ [(0 : UInt8)]).length ≤ size := by
            rw [List.length_append, List.length_singleton]
            exact hsize
          unfold storeLine
          rw [hlast, strstr_letter_none hvalue]
          show (do return ((0 : Int), ← store _ 0 (value ++ [0]))) = _
          rw [store_zeros hlen, hnul]
          rfl

end AfcDut.ControlApp
