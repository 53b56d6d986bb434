import AfcDut.Py.Json
import Mathlib.Data.Rat.Floor
import Mathlib.Data.List.Sort
import Mathlib.Tactic.Linarith

/-!
# Built-in functions

`int`, `round`, `/`, `range`, `sleep`, `sorted`, sets of JSON values,
`str.upper`, `str` and `repr`, each as far as the handlers use it.
-/

namespace AfcDut.Py

/-! ## Numbers -/

/-- `int(x)` of a float: towards zero. -/
def trunc (q : ℚ) : Int := q.num.tdiv q.den

/-- Nearest integer, ties to the even one. -/
def roundHalfEven (q : ℚ) : Int :=
  let f := ⌊q⌋
  if q - f < 1 / 2 then f
  else if 1 / 2 < q - f then f + 1
  else if f % 2 = 0 then f else f + 1

/-- `round(x, 1)`. -/
def round1 (q : ℚ) : ℚ := roundHalfEven (q * 10) / 10

/-- `min(xs)` of a list of numbers. -/
def minNum (xs : List ℚ) : Except PyErr ℚ :=
  match xs.min? with
  | some q => .ok q
  | none => .error .valueError

/-- Where the doubles end: half a step above the largest one, `2 ^ 1024 - 2 ^ 970`,
from where rounding gives `2 ^ 1024`. -/
def doubleEnd : ℚ := ((2 ^ 54 - 1) * (2 ^ 194) ^ 5 : Nat)

/-- The number rounds to a finite double. -/
def FitsDouble (q : ℚ) : Prop := -doubleEnd < q ∧ q < doubleEnd

instance (q : ℚ) : Decidable (FitsDouble q) := inferInstanceAs (Decidable (_ ∧ _))

/-- `x / y` for a divisor other than 0: the quotient is a double, and one that
is too large for a double raises. Its rounding below that is not modelled. -/
def trueDiv (x y : ℚ) : Except PyErr ℚ :=
  if FitsDouble (x / y) then pure (x / y) else throw .overflowError

/-- The longest wait in seconds whose nanoseconds are a signed 64-bit number. -/
def sleepLimit : Int := (2 ^ 63 - 1) / 10 ^ 9

/-- `time.sleep(seconds)`. -/
def sleep (seconds : Int) : Except PyErr Unit :=
  if seconds < 0 then throw .valueError
  else if sleepLimit < seconds then throw .overflowError
  else pure ()

/-- `range(start, stop, step)` for a positive step. -/
def range (start stop : Int) (step : Nat) : List Int :=
  (List.range ((stop - start + step - 1) / step).toNat).map fun (i : Nat) => start + step * i

@[simp] theorem trunc_intCast (n : Int) : trunc n = n := by
  simp [trunc]

theorem trunc_of_nonneg {q : ℚ} (h : 0 ≤ q) : trunc q = ⌊q⌋ := by
  rw [trunc, Int.tdiv_eq_ediv_of_nonneg (Rat.num_nonneg.mpr h), ← Rat.floor_def']

theorem trunc_nonpos {q : ℚ} (h : q ≤ 0) : trunc q ≤ 0 := by
  have hnum : q.num ≤ 0 := Rat.num_nonpos.mpr h
  have hneg : 0 ≤ (-q.num).tdiv q.den := by
    rw [Int.tdiv_eq_ediv_of_nonneg (by omega)]
    exact Int.ediv_nonneg (by omega) (Int.natCast_nonneg _)
  rw [Int.neg_tdiv] at hneg
  unfold trunc
  omega

theorem trueDiv_eq_ok {x y q : ℚ} : trueDiv x y = .ok q ↔ FitsDouble (x / y) ∧ x / y = q := by
  unfold trueDiv
  split
  · rename_i hfits
    simp [hfits]
  · rename_i hlarge
    simp [hlarge]

/-- A positive wait is slept through, or too long. -/
theorem sleep_of_pos {seconds : Int} (h : 0 < seconds) :
    sleep seconds = if sleepLimit < seconds then .error .overflowError else .ok () := by
  rw [sleep, if_neg (not_lt.mpr h.le)]
  rfl

theorem roundHalfEven_mono {p q : ℚ} (h : p ≤ q) : roundHalfEven p ≤ roundHalfEven q := by
  have hfl : ⌊p⌋ ≤ ⌊q⌋ := Int.floor_le_floor h
  rcases hfl.lt_or_eq with hlt | heq
  · have hp : roundHalfEven p ≤ ⌊p⌋ + 1 := by
      simp only [roundHalfEven]
      split_ifs <;> omega
    have hq : ⌊q⌋ ≤ roundHalfEven q := by
      simp only [roundHalfEven]
      split_ifs <;> omega
    omega
  · -- equal integer parts: the fractional parts compare, and so do the branches
    simp only [roundHalfEven, heq]
    split_ifs <;> first | omega | (exfalso; linarith)

theorem round1_mono {p q : ℚ} (h : p ≤ q) : round1 p ≤ round1 q := by
  have hr : roundHalfEven (p * 10) ≤ roundHalfEven (q * 10) :=
    roundHalfEven_mono (by linarith)
  have hc : (roundHalfEven (p * 10) : ℚ) ≤ roundHalfEven (q * 10) := by exact_mod_cast hr
  unfold round1
  linarith

theorem mem_range {start stop x : Int} {step : Nat} (hs : 0 < step) :
    x ∈ range start stop step ↔ start ≤ x ∧ x < stop ∧ (x - start) % step = 0 := by
  have hs' : (0 : Int) < step := by exact_mod_cast hs
  simp only [range, List.mem_map, List.mem_range]
  constructor
  · rintro ⟨i, hi, rfl⟩
    have hi' : (i : Int) < (stop - start + step - 1) / step := by omega
    have hle : ((i : Int) + 1) * step ≤ stop - start + step - 1 :=
      (Int.le_ediv_iff_mul_le hs').mp (by omega)
    have hnn : (0 : Int) ≤ step * i := by positivity
    refine ⟨by omega, by nlinarith, ?_⟩
    rw [add_sub_cancel_left, Int.mul_emod_right]
  · rintro ⟨hlo, hhi, hmod⟩
    obtain ⟨k, hk⟩ : (step : Int) ∣ x - start := Int.dvd_of_emod_eq_zero hmod
    have hk0 : 0 ≤ k := by
      by_contra hneg
      have : (step : Int) * k < 0 := mul_neg_of_pos_of_neg hs' (by omega)
      omega
    refine ⟨k.toNat, ?_, by rw [Int.toNat_of_nonneg hk0]; omega⟩
    have hlt : k + 1 ≤ (stop - start + step - 1) / step :=
      (Int.le_ediv_iff_mul_le hs').mpr (by nlinarith)
    omega

/-! ## Sets of hashable values -/

/-- Keep the first of the values that hash alike. -/
def distinct : List Json → List Json
  | [] => []
  | x :: xs => x :: (distinct xs).filter fun y => y.key? ≠ x.key?

/-- `set(xs)`, listed in order of first occurrence. CPython's own order is
that of a hash table; no caller depends on it. -/
def pySet (xs : List Json) : Except PyErr (List Json) := do
  let _ ← xs.mapM Json.hash
  pure (distinct xs)

/-- `set(value)` returns: an iterable of hashable values. -/
def Json.HashableElems (value : Json) : Prop :=
  ∃ elems, value.iter = .ok elems ∧ ∀ x ∈ elems, ∃ k, x.key? = some k

/-- `a & b` of two sets. CPython walks the smaller operand, the right one on
a tie, so it is that operand's elements that are kept. -/
def inter (a b : List Json) : List Json :=
  if a.length < b.length then a.filter fun x => x.key? ∈ b.map Json.key?
  else b.filter fun x => x.key? ∈ a.map Json.key?

/-- `a - b` of two sets. -/
def diff (a b : List Json) : List Json :=
  a.filter fun x => x.key? ∉ b.map Json.key?

theorem mem_map_key_distinct {xs : List Json} {k : Option Key} :
    k ∈ (distinct xs).map Json.key? ↔ k ∈ xs.map Json.key? := by
  induction xs with
  | nil => rfl
  | cons x xs ih =>
      simp only [distinct, List.map_cons, List.mem_cons, List.mem_map, List.mem_filter,
        decide_eq_true_eq] at ih ⊢
      constructor
      · rintro (h | ⟨y, ⟨hy, _⟩, hk⟩)
        · exact .inl h
        · exact .inr (ih.mp ⟨y, hy, hk⟩)
      · rintro (h | h)
        · exact .inl h
        · obtain ⟨y, hy, hk⟩ := ih.mpr h
          by_cases hxy : y.key? = x.key?
          · exact .inl (hk ▸ hxy)
          · exact .inr ⟨y, ⟨hy, hxy⟩, hk⟩

theorem mem_map_key_inter {a b : List Json} {k : Option Key} :
    k ∈ (inter a b).map Json.key? ↔ k ∈ a.map Json.key? ∧ k ∈ b.map Json.key? := by
  unfold inter
  split_ifs
  · simp only [List.mem_map, List.mem_filter, decide_eq_true_eq]
    constructor
    · rintro ⟨x, ⟨hx, y, hy, hyx⟩, rfl⟩
      exact ⟨⟨x, hx, rfl⟩, y, hy, hyx⟩
    · rintro ⟨⟨x, hx, rfl⟩, y, hy, hyx⟩
      exact ⟨x, ⟨hx, y, hy, hyx⟩, rfl⟩
  · simp only [List.mem_map, List.mem_filter, decide_eq_true_eq]
    constructor
    · rintro ⟨x, ⟨hx, y, hy, hyx⟩, rfl⟩
      exact ⟨⟨y, hy, hyx⟩, x, hx, rfl⟩
    · rintro ⟨⟨y, hy, hyx⟩, x, hx, rfl⟩
      exact ⟨x, ⟨hx, y, hy, hyx⟩, rfl⟩

theorem mem_map_key_diff {a b : List Json} {k : Option Key} :
    k ∈ (diff a b).map Json.key? ↔ k ∈ a.map Json.key? ∧ k ∉ b.map Json.key? := by
  simp only [diff, List.mem_map, List.mem_filter, decide_eq_true_eq]
  constructor
  · rintro ⟨x, ⟨hx, hn⟩, rfl⟩
    exact ⟨⟨x, hx, rfl⟩, hn⟩
  · rintro ⟨⟨x, hx, rfl⟩, hn⟩
    exact ⟨x, ⟨hx, hn⟩, rfl⟩

/-- No two elements of a set hash alike. -/
theorem nodup_key_distinct (xs : List Json) : ((distinct xs).map Json.key?).Nodup := by
  induction xs with
  | nil => exact List.nodup_nil
  | cons x xs ih =>
      rw [distinct, List.map_cons, List.nodup_cons]
      constructor
      · intro hmem
        obtain ⟨y, hy, hkey⟩ := List.mem_map.mp hmem
        exact absurd hkey (by simpa using (List.mem_filter.mp hy).2)
      · exact ih.sublist (List.filter_sublist.map _)

theorem nodup_key_inter {a b : List Json} (ha : (a.map Json.key?).Nodup)
    (hb : (b.map Json.key?).Nodup) : ((inter a b).map Json.key?).Nodup := by
  unfold inter
  split_ifs
  · exact ha.sublist (List.filter_sublist.map _)
  · exact hb.sublist (List.filter_sublist.map _)

theorem nodup_key_ints {ns : List Int} (h : ns.Nodup) :
    ((ns.map Json.int).map Json.key?).Nodup := by
  rw [List.map_map]
  refine h.map fun a b hab => ?_
  have hq : (a : ℚ) = b := by simpa [Json.key?] using hab
  exact_mod_cast hq

/-- `xs.sort()` of a list of numbers. -/
def sortNums (xs : List Json) : List Json :=
  xs.insertionSort fun x y => x.num?.getD 0 ≤ y.num?.getD 0

@[simp] theorem mem_sortNums {xs : List Json} {x : Json} : x ∈ sortNums xs ↔ x ∈ xs :=
  List.mem_insertionSort _

theorem mem_map_key_sortNums {xs : List Json} {k : Option Key} :
    k ∈ (sortNums xs).map Json.key? ↔ k ∈ xs.map Json.key? := by
  simp only [List.mem_map, mem_sortNums]

/-! ## Texts -/

/-- `c.upper()` of one character, where the result is ASCII; letters whose
capital is not ASCII are left as they are. -/
def upperChar (c : Char) : List Char :=
  match c.toNat with
  | 0xDF => ['S', 'S']
  | 0x131 => ['I']
  | 0x17F => ['S']
  | 0xFB00 => ['F', 'F']
  | 0xFB01 => ['F', 'I']
  | 0xFB02 => ['F', 'L']
  | 0xFB03 => ['F', 'F', 'I']
  | 0xFB04 => ['F', 'F', 'L']
  | 0xFB05 => ['S', 'T']
  | 0xFB06 => ['S', 'T']
  | _ => [c.toUpper]

/-- `s.upper()`, to be compared with an ASCII text. -/
def upper (s : String) : String := String.ofList (s.toList.flatMap upperChar)

/-- One character of a `repr`, whose quotation mark is `q`. -/
def reprChar (q c : Char) : List Char :=
  let backslash := Char.ofNat 92
  let hex (n : Nat) : Char := "0123456789abcdef".toList.getD n 'f'
  if c = q ∨ c = backslash then [backslash, c]
  else if c.toNat = 9 then [backslash, 't']
  else if c.toNat = 10 then [backslash, 'n']
  else if c.toNat = 13 then [backslash, 'r']
  else if c.toNat < 32 ∨ c.toNat = 127 then
    [backslash, 'x', hex (c.toNat / 16), hex (c.toNat % 16)]
  else [c]

/-- `repr(s)` of a string of printable characters and ASCII controls: single
quotes, unless only single quotes occur in the text. -/
def reprStr (s : String) : String :=
  let single := Char.ofNat 39
  let double := Char.ofNat 34
  let q := if single ∈ s.toList ∧ double ∉ s.toList then double else single
  String.ofList (q :: s.toList.flatMap (reprChar q) ++ [q])

/-- `repr(x)` of a float with a finite decimal expansion of at most seventeen
places, the ones a JSON text can name; a ratio stands for any other. -/
def reprFloat (q : ℚ) : String :=
  match (List.range 18).find? fun k => 10 ^ k % q.den == 0 with
  | none => toString q.num ++ "/" ++ toString q.den
  | some k =>
      let digits := toString (q.num.natAbs * (10 ^ k / q.den) % 10 ^ k)
      let whole := toString (q.num.natAbs * (10 ^ k / q.den) / 10 ^ k)
      let zeros := String.ofList (List.replicate (k - digits.length) '0')
      (if q.num < 0 then "-" else "") ++ whole ++ "." ++ (if k = 0 then "0" else zeros ++ digits)

mutual

/-- `repr(x)`. -/
def Json.repr : Json → String
  | .null => "None"
  | .bool b => if b then "True" else "False"
  | .int n => toString n
  | .float q => reprFloat q
  | .str s => reprStr s
  | .arr xs => "[" ++ ", ".intercalate (Json.reprList xs) ++ "]"
  | .obj kvs => "\x7b" ++ ", ".intercalate (Json.reprFields kvs) ++ "\x7d"

def Json.reprList : List Json → List String
  | [] => []
  | x :: xs => x.repr :: Json.reprList xs

def Json.reprFields : List (String × Json) → List String
  | [] => []
  | (k, x) :: kvs => (reprStr k ++ ": " ++ x.repr) :: Json.reprFields kvs

end

/-- `str(x)`, also what an f-string prints. -/
def Json.text : Json → String
  | .str s => s
  | j => j.repr

/-- `str(err)` of a `KeyError`. -/
def keyErrorText (key : Json) : String := key.repr

example : upper "us_47_cfr_part_15_\u017fubpart_e" = "US_47_CFR_PART_15_SUBPART_E" := by
  decide +kernel

example : (Json.arr [.float 7, .float (151 / 10), .str "a"]).repr = "[7.0, 15.1, 'a']" := by
  decide +kernel

end AfcDut.Py
