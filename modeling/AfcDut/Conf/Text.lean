import AfcDut.ControlApp.HapdCommand
import AfcDut.ControlApp.KeyValue
import AfcDut.Conf.Tables

/-!
# Values and lines

How the two generators of configuration files read the value of a TLV, and the
lines they write. A value has no terminator: where the code searches it as a
string, the search goes on into what lies behind it.
-/

namespace AfcDut.Conf

open Indigo ControlApp Data.Search

/-! ## Values -/

/-- A TLV of a request, and what lies behind its value in memory. -/
structure PlacedTlv where
  hdr : TlvHdr
  behind : List UInt8

namespace PlacedTlv

def id (t : PlacedTlv) : UInt16 := t.hdr.id

/-- The `len` bytes of the value. -/
def value (t : PlacedTlv) : List UInt8 := t.hdr.value.take t.hdr.len.toNat

/-- The string at `tlv->value`. -/
def text (t : PlacedTlv) : List UInt8 := cText (t.value ++ t.behind)

/-- `strstr(tlv->value, token)` -/
def contains (t : PlacedTlv) (token : String) : Bool := (strstr t.text (cString token)).isSome

end PlacedTlv

/-- Whether `atoi` stops at one of these bytes. -/
def atoiStops (bytes : List UInt8) : Bool :=
  !((signedBytes (bytes.dropWhile isSpaceByte)).2.dropWhile isDigitByte).isEmpty

/-- A copy into a cleared local of `size` bytes that `atoi` reads to its end. -/
def IntFits (size : Nat) (value : List UInt8) : Prop :=
  value.length < size ∨ value.length = size ∧ atoiStops value = true

instance (size : Nat) (value : List UInt8) : Decidable (IntFits size value) :=
  inferInstanceAs (Decidable (_ ∨ _))

/-- `memset`, `memcpy` and `atoi` -/
def readInt (size : Nat) (value : List UInt8) : Except Fault Int :=
  if IntFits size value then .ok (atoi value) else .error (.write size)

/-! ## Lines -/

/-- A line that is fixed. -/
def textLine (line : String) : List UInt8 := cString line ++ [newline]

/-- `"%s=%s\n"` -/
def configLine (name value : List UInt8) : List UInt8 := name ++ equalsSign :: value ++ [newline]

/-- `"%d"` -/
def intText (n : Int) : List UInt8 :=
  (if n < 0 then [45] else []) ++ (Nat.toDigits 10 n.natAbs).map fun c => c.toNat.toUInt8

def hexDigit (n : Nat) : UInt8 := if n < 10 then UInt8.ofNat (48 + n) else UInt8.ofNat (87 + n)

/-- `"%02x"` -/
def hexByte (b : UInt8) : List UInt8 := [hexDigit (b.toNat / 16), hexDigit (b.toNat % 16)]

/-- The six bytes of a hardware address, with colons between them. -/
def macText (mac : Fin 6 → UInt8) : List UInt8 :=
  hexByte (mac 0) ++ 58 :: hexByte (mac 1) ++ 58 :: hexByte (mac 2) ++ 58 :: hexByte (mac 3) ++
    58 :: hexByte (mac 4) ++ 58 :: hexByte (mac 5)

@[simp] theorem length_macText (mac : Fin 6 → UInt8) : (macText mac).length = 17 := rfl

@[simp] theorem length_cString (s : String) : (cString s).length = s.length := by
  rw [cString, List.length_map, String.length_toList]

@[simp] theorem length_textLine (line : String) : (textLine line).length = line.length + 1 := by
  rw [textLine, List.length_append, length_cString, List.length_singleton]

@[simp] theorem length_configLine (name value : List UInt8) :
    (configLine name value).length = name.length + value.length + 2 := by
  rw [configLine, List.length_append, List.length_append, List.length_cons, List.length_singleton]
  omega

/-! ## Numbers -/

theorem digit_of_byte {c : Char} (h : c.isDigit = true) :
    Char.ofNat c.toNat.toUInt8.toNat = c := by
  have hle : c.toNat ≤ 57 := by
    simp only [Char.isDigit, Bool.and_eq_true, decide_eq_true_eq] at h
    exact h.2
  have hbyte : c.toNat.toUInt8.toNat = c.toNat := by
    rw [Nat.toUInt8, UInt8.toNat_ofNat']
    omega
  rw [hbyte, Char.ofNat_toNat]

/-- Decimal digits tell numbers apart. -/
theorem digits_inj {m n : Nat}
    (h : (Nat.toDigits 10 m).map (fun c => c.toNat.toUInt8) =
      (Nat.toDigits 10 n).map fun c => c.toNat.toUInt8) : m = n := by
  have hback : ∀ k, ((Nat.toDigits 10 k).map fun c => c.toNat.toUInt8).map
      (fun b => Char.ofNat b.toNat) = Nat.toDigits 10 k := by
    intro k
    rw [List.map_map]
    conv_rhs => rw [← List.map_id (Nat.toDigits 10 k)]
    exact List.map_congr_left fun c hc =>
      digit_of_byte (Nat.isDigit_of_mem_toDigits (by decide) (by decide) hc)
  have hdigits := congrArg (List.map fun b => Char.ofNat b.toNat) h
  rw [hback, hback] at hdigits
  rw [← @Nat.ofDigitChars_ten_toDigits m, hdigits, Nat.ofDigitChars_ten_toDigits]

theorem digit_bounds {n : Nat} {b : UInt8}
    (h : b ∈ (Nat.toDigits 10 n).map fun c => c.toNat.toUInt8) : 48 ≤ b ∧ b ≤ 57 := by
  obtain ⟨c, hc, rfl⟩ := List.mem_map.mp h
  have hdigit := Nat.isDigit_of_mem_toDigits (by decide) (by decide) hc
  simp only [Char.isDigit, Bool.and_eq_true, decide_eq_true_eq] at hdigit
  have hlo : 48 ≤ c.toNat := hdigit.1
  have hhi : c.toNat ≤ 57 := hdigit.2
  constructor
  · rw [UInt8.le_iff_toNat_le, Nat.toUInt8, UInt8.toNat_ofNat']
    show 48 ≤ _
    omega
  · rw [UInt8.le_iff_toNat_le, Nat.toUInt8, UInt8.toNat_ofNat']
    show _ ≤ 57
    omega

theorem eq_zero_of_intText {n : Int} (h : intText n = intText 0) : n = 0 := by
  have hzero : intText 0 = [48] := rfl
  rw [hzero, intText] at h
  by_cases hneg : n < 0
  · rw [if_pos hneg] at h
    exact absurd (List.cons_eq_cons.mp h).1 (by decide)
  · rw [if_neg hneg, List.nil_append] at h
    have hdigits := @digits_inj n.natAbs 0 h
    omega

theorem newline_not_mem_intText (n : Int) : newline ∉ intText n := by
  unfold intText
  rw [List.mem_append, not_or]
  constructor
  · split <;> decide
  · intro hmem
    exact absurd (digit_bounds hmem).1 (by decide)

end AfcDut.Conf
