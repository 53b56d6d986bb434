import AfcDut.Py.Builtins
import Mathlib.Data.List.TakeWhile
import Mathlib.Tactic.Ring

/-!
# Reading text

`float` of a text and `in` on texts. A value is the exact rational its text
names. The texts of infinities and of NaN name none: `isNonFinite` tells them.
Digits and white space are those of ASCII.
-/

namespace AfcDut.Py

/-! ## Numbers -/

/-- The white space `float` strips. -/
def isSpace (c : Char) : Bool :=
  c = ' ' || c = '\t' || c = '\n' || c = '\r' || c = '\x0b' || c = '\x0c'

/-- `str.strip()`. -/
def strip (cs : List Char) : List Char :=
  ((cs.dropWhile isSpace).reverse.dropWhile isSpace).reverse

/-- The number a row of digits names. -/
def digitsVal (ds : List Char) : Nat := Nat.ofDigitChars 10 ds 0

/-- A sign, if there is one, and what follows it. -/
def signed : List Char → Int × List Char
  | '-' :: cs => (-1, cs)
  | '+' :: cs => (1, cs)
  | cs => (1, cs)

/-- The digits with at most one point among them, and what follows them. -/
def mantissa (cs : List Char) : Option (ℚ × List Char) :=
  let whole := cs.takeWhile (·.isDigit)
  match cs.dropWhile (·.isDigit) with
  | '.' :: rest =>
      let fraction := rest.takeWhile (·.isDigit)
      if whole.isEmpty && fraction.isEmpty then none
      else some ((digitsVal (whole ++ fraction) : ℚ) / 10 ^ fraction.length,
        rest.dropWhile (·.isDigit))
  | rest => if whole.isEmpty then none else some (digitsVal whole, rest)

/-- What may follow the mantissa: nothing, or `e` and an integer. -/
def exponent : List Char → Option Int
  | [] => some 0
  | c :: cs =>
      let (sign, ds) := signed cs
      if (c = 'e' || c = 'E') && !ds.isEmpty && ds.all (·.isDigit) then
        some (sign * digitsVal ds)
      else none

/-- The text without its underscores, if each of them has a digit before and
behind it. -/
def dropUnderscores (afterDigit : Bool) : List Char → Option (List Char)
  | [] => some []
  | '_' :: cs => if afterDigit && cs.head?.any (·.isDigit) then dropUnderscores false cs else none
  | c :: cs => (dropUnderscores c.isDigit cs).map (c :: ·)

/-- `float(s)` of a text. -/
def float (s : String) : Except PyErr ℚ :=
  match dropUnderscores false (strip s.toList) with
  | none => .error .valueError
  | some text =>
      let (sign, cs) := signed text
      match mantissa cs with
      | none => .error .valueError
      | some (m, rest) =>
          match exponent rest with
          | none => .error .valueError
          | some e => .ok (sign * m * 10 ^ e)

example : float " -1_2.50e1\n" = .ok (-125) := by decide +kernel

/-- `float(s)` is an infinity or NaN. -/
def isNonFinite (s : String) : Bool :=
  let name := (signed (strip s.toList)).2.map Char.toLower
  name == "inf".toList || name == "infinity".toList || name == "nan".toList

/-! ## The text of an integer -/

theorem isSpace_of_isDigit {c : Char} (h : c.isDigit) : isSpace c = false := by
  have hrange := Char.isDigit_iff_toNat.mp h
  have hne : ∀ d : Char, d.toNat < 48 → c ≠ d := by
    intro d hd heq
    subst heq
    have hzero : '0'.toNat = 48 := rfl
    omega
  unfold isSpace
  simp [hne ' ' (by decide), hne '\t' (by decide), hne '\n' (by decide), hne '\r' (by decide),
    hne '\x0b' (by decide), hne '\x0c' (by decide)]

theorem strip_eq_self {cs : List Char} (h : ∀ c ∈ cs, isSpace c = false) : strip cs = cs := by
  have drops : ∀ ds : List Char, (∀ c ∈ ds, isSpace c = false) → ds.dropWhile isSpace = ds := by
    intro ds hds
    cases ds with
    | nil => rfl
    | cons d ds => rw [List.dropWhile_cons, hds d List.mem_cons_self, if_neg Bool.false_ne_true]
  unfold strip
  rw [drops cs h, drops cs.reverse (fun c hc => h c (List.mem_reverse.mp hc)), List.reverse_reverse]

theorem mantissa_digits {ds : List Char} (hne : ds ≠ []) (h : ∀ c ∈ ds, c.isDigit) :
    mantissa ds = some ((digitsVal ds : ℚ), []) := by
  have htake : ds.takeWhile (·.isDigit) = ds := List.takeWhile_eq_self_iff.mpr h
  have hdrop : ds.dropWhile (·.isDigit) = [] := List.dropWhile_eq_nil_iff.mpr h
  have hempty : ds.isEmpty = false := by
    cases ds with
    | nil => exact absurd rfl hne
    | cons d ds => rfl
  unfold mantissa
  simp only [htake, hdrop, hempty]
  rfl

theorem dropUnderscores_eq_self {cs : List Char} (h : '_' ∉ cs) (afterDigit : Bool) :
    dropUnderscores afterDigit cs = some cs := by
  induction cs generalizing afterDigit with
  | nil => rfl
  | cons c cs ih =>
      have hne : c ≠ '_' := fun heq => h (heq ▸ List.mem_cons_self)
      have hrest := ih (fun hmem => h (List.mem_cons_of_mem c hmem)) c.isDigit
      unfold dropUnderscores
      split
      · contradiction
      · rename_i heq
        exact absurd (List.cons.inj heq).1 hne
      · rename_i heq
        obtain ⟨rfl, rfl⟩ := List.cons.inj heq
        rw [hrest, Option.map_some]

/-- The digits of a number, after a sign or none, are read back. -/
theorem float_digits {s : String} {sign : Int} {n : Nat}
    (hstrip : ∀ c ∈ s.toList, isSpace c = false) (hplain : '_' ∉ s.toList)
    (hsigned : signed s.toList = (sign, Nat.toDigits 10 n)) : float s = .ok (sign * n) := by
  have hdigits : ∀ c ∈ Nat.toDigits 10 n, c.isDigit :=
    fun c hc => Nat.isDigit_of_mem_toDigits (by decide) (by decide) hc
  unfold float
  rw [strip_eq_self hstrip, dropUnderscores_eq_self hplain]
  simp only [hsigned, mantissa_digits Nat.toDigits_ne_nil hdigits, exponent, digitsVal,
    Nat.ofDigitChars_ten_toDigits, zpow_zero, mul_one]

theorem signed_digits {ds : List Char} (h : ∀ c ∈ ds, c.isDigit) : signed ds = (1, ds) := by
  cases ds with
  | nil => rfl
  | cons d ds =>
      have hd := h d List.mem_cons_self
      unfold signed
      split
      · rename_i heq
        rw [List.cons.injEq] at heq
        rw [heq.1] at hd
        exact absurd hd (by decide)
      · rename_i heq
        rw [List.cons.injEq] at heq
        rw [heq.1] at hd
        exact absurd hd (by decide)
      · rfl

/-- `float(str(n))`. -/
theorem float_repr (n : Int) : float n.repr = .ok (n : ℚ) := by
  have digit : ∀ m c, c ∈ Nat.toDigits 10 m → c.isDigit :=
    fun m c hc => Nat.isDigit_of_mem_toDigits (by decide) (by decide) hc
  have plain : ∀ m, '_' ∉ Nat.toDigits 10 m :=
    fun m hm => absurd (digit m '_' hm) (by decide)
  cases n with
  | ofNat m =>
      have hlist : (Int.repr (.ofNat m)).toList = Nat.toDigits 10 m := Nat.toList_repr
      have hread := float_digits (s := Int.repr (.ofNat m))
        (by rw [hlist]; exact fun c hc => isSpace_of_isDigit (digit m c hc))
        (by rw [hlist]; exact plain m)
        (by rw [hlist]; exact signed_digits (digit m))
      rw [hread]
      simp
  | negSucc m =>
      have hlist : (Int.repr (.negSucc m)).toList = '-' :: Nat.toDigits 10 (m + 1) := by
        show ("-" ++ Nat.repr (m + 1)).toList = _
        rw [String.toList_append, Nat.toList_repr]
        rfl
      have hspace : ∀ c ∈ (Int.repr (.negSucc m)).toList, isSpace c = false := by
        rw [hlist, List.forall_mem_cons]
        exact ⟨by decide, fun c hc => isSpace_of_isDigit (digit (m + 1) c hc)⟩
      have hsign : signed (Int.repr (.negSucc m)).toList = (-1, Nat.toDigits 10 (m + 1)) := by
        rw [hlist]
        rfl
      have hplain : '_' ∉ (Int.repr (.negSucc m)).toList := by
        rw [hlist, List.mem_cons, not_or]
        exact ⟨by decide, plain (m + 1)⟩
      rw [float_digits hspace hplain hsign, Int.cast_negSucc]
      push_cast
      ring_nf

/-! ## Substrings -/

/-- `sub in s`. -/
def contains (sub s : String) : Bool := s.toList.tails.any fun rest => sub.toList.isPrefixOf rest

end AfcDut.Py
