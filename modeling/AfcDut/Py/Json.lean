import AfcDut.Py.Raises
import Mathlib.Data.Rat.Defs
import Mathlib.Data.List.Infix
import Mathlib.Algebra.Order.Field.Rat

/-!
# JSON values as Python objects

The values `json.loads` returns and the operations handlers apply to them:
subscripts, `in`, iteration, truth, hashing, item assignment. A finite float
is its exact value. Every operation that Python may refuse is an `Except`.
-/

namespace AfcDut.Py

/-- A parsed JSON value. An object keeps its keys in insertion order. -/
inductive Json where
  | null
  | bool (b : Bool)
  | int (n : Int)
  | float (q : ℚ)
  | str (s : String)
  | arr (xs : List Json)
  | obj (kvs : List (String × Json))
  deriving Inhabited

/-- The exceptions the handlers tell apart: `KeyError`, which carries the
missing key, and the others. -/
inductive PyErr where
  | keyError (key : Json)
  | indexError
  | typeError
  | valueError
  | overflowError
  | attributeError
  | badRequest

/-- What `hash` and `==` see of a hashable value: `True`, `1` and `1.0` are
one dictionary key. -/
inductive Key where
  | null
  | num (q : ℚ)
  | str (s : String)
  deriving DecidableEq

namespace Json

/-! ## Decidable equality -/

mutual

def beq : Json → Json → Bool
  | .null, .null => true
  | .bool a, .bool b => a == b
  | .int a, .int b => a == b
  | .float a, .float b => a == b
  | .str a, .str b => a == b
  | .arr xs, .arr ys => beqList xs ys
  | .obj xs, .obj ys => beqFields xs ys
  | _, _ => false

def beqList : List Json → List Json → Bool
  | [], [] => true
  | x :: xs, y :: ys => beq x y && beqList xs ys
  | _, _ => false

def beqFields : List (String × Json) → List (String × Json) → Bool
  | [], [] => true
  | (k, x) :: xs, (l, y) :: ys => k == l && beq x y && beqFields xs ys
  | _, _ => false

end

mutual

theorem beq_iff : ∀ a b : Json, beq a b = true ↔ a = b
  | .null, b => by cases b <;> simp [beq]
  | .bool _, b => by cases b <;> simp [beq]
  | .int _, b => by cases b <;> simp [beq]
  | .float _, b => by cases b <;> simp [beq]
  | .str _, b => by cases b <;> simp [beq]
  | .arr xs, b => by
      cases b with
      | arr ys => simp [beq, beqList_iff xs ys]
      | _ => simp [beq]
  | .obj xs, b => by
      cases b with
      | obj ys => simp [beq, beqFields_iff xs ys]
      | _ => simp [beq]

theorem beqList_iff : ∀ xs ys : List Json, beqList xs ys = true ↔ xs = ys
  | [], ys => by cases ys <;> simp [beqList]
  | x :: xs, ys => by
      cases ys with
      | nil => simp [beqList]
      | cons y ys => simp [beqList, beq_iff x y, beqList_iff xs ys]

theorem beqFields_iff : ∀ xs ys : List (String × Json), beqFields xs ys = true ↔ xs = ys
  | [], ys => by cases ys <;> simp [beqFields]
  | (k, x) :: xs, ys => by
      cases ys with
      | nil => simp [beqFields]
      | cons y ys => simp [beqFields, beq_iff x y.2, beqFields_iff xs ys, Prod.ext_iff]

end

instance : DecidableEq Json := fun a b => decidable_of_iff _ (beq_iff a b)

/-! ## Truth, numbers and hashing -/

/-- `bool(x)`. -/
def truthy : Json → Bool
  | .null => false
  | .bool b => b
  | .int n => n != 0
  | .float q => q != 0
  | .str s => s != ""
  | .arr xs => !xs.isEmpty
  | .obj kvs => !kvs.isEmpty

/-- The numeric value of an `int`, a `float` or a `bool`. -/
def num? : Json → Option ℚ
  | .bool b => some (if b then 1 else 0)
  | .int n => some n
  | .float q => some q
  | _ => none

/-- Reading an operand of an arithmetic operation. -/
def num (j : Json) : Except PyErr ℚ :=
  match j.num? with
  | some q => .ok q
  | none => .error .typeError

/-- Reading an argument of `range`: a `float` is refused. -/
def index : Json → Except PyErr Int
  | .bool b => .ok (if b then 1 else 0)
  | .int n => .ok n
  | _ => .error .typeError

/-- The key of a hashable value; lists and dictionaries have none. -/
def key? : Json → Option Key
  | .null => some .null
  | .bool b => some (.num (if b then 1 else 0))
  | .int n => some (.num n)
  | .float q => some (.num q)
  | .str s => some (.str s)
  | .arr _ => none
  | .obj _ => none

/-- `hash(x)`. -/
def hash (j : Json) : Except PyErr Key :=
  match j.key? with
  | some k => .ok k
  | none => .error .typeError

/-! ## Subscripts, membership and iteration -/

/-- `j[k]` for a string `k`. -/
def field : Json → String → Except PyErr Json
  | .obj kvs, k =>
      match kvs.lookup k with
      | some v => .ok v
      | none => .error (.keyError (.str k))
  | _, _ => .error .typeError

/-- `j[i]` for a non-negative integer `i`. -/
def item : Json → Nat → Except PyErr Json
  | .arr xs, i =>
      match xs[i]? with
      | some v => .ok v
      | none => .error .indexError
  | .str s, i =>
      match s.toList[i]? with
      | some c => .ok (.str (String.singleton c))
      | none => .error .indexError
  | .obj _, i => .error (.keyError (.int i))
  | _, _ => .error .typeError

/-- `k in j` for a string `k`: a key of a dictionary, an element of a list, a
substring of a string. -/
def has : Json → String → Except PyErr Bool
  | .obj kvs, k => .ok (kvs.lookup k).isSome
  | .arr xs, k => .ok (xs.any fun x => x.key? == some (.str k))
  | .str s, k => .ok (decide (k.toList <:+: s.toList))
  | _, _ => .error .typeError

/-- `j.get(k, default)`. -/
def getD : Json → String → Json → Except PyErr Json
  | .obj kvs, k, d => .ok ((kvs.lookup k).getD d)
  | _, _, _ => .error .attributeError

/-- The elements `for x in j` visits. -/
def iter : Json → Except PyErr (List Json)
  | .arr xs => .ok xs
  | .obj kvs => .ok (kvs.map fun kv => .str kv.1)
  | .str s => .ok (s.toList.map fun c => .str (String.singleton c))
  | _ => .error .typeError

/-! ## Item assignment -/

/-- Assigning a key of an insertion-ordered dictionary. -/
def assign {κ υ : Type} [DecidableEq κ] : List (κ × υ) → κ → υ → List (κ × υ)
  | [], k, v => [(k, v)]
  | kv :: kvs, k, v => if kv.1 = k then (k, v) :: kvs else kv :: assign kvs k v

/-- `j[k] = v` for a string `k`. -/
def setField : Json → String → Json → Except PyErr Json
  | .obj kvs, k, v => .ok (.obj (assign kvs k v))
  | _, _, _ => .error .typeError

theorem lookup_cons_ite {κ υ : Type} [DecidableEq κ] (kv : κ × υ) (kvs : List (κ × υ)) (l : κ) :
    (kv :: kvs).lookup l = if l = kv.1 then some kv.2 else kvs.lookup l := by
  rw [List.lookup_cons]
  by_cases h : l = kv.1
  · simp [h]
  · have hne : (l == kv.1) = false := by simpa using h
    rw [hne, if_neg h]

theorem lookup_assign {κ υ : Type} [DecidableEq κ] (kvs : List (κ × υ)) (k l : κ) (v : υ) :
    (assign kvs k v).lookup l = if l = k then some v else kvs.lookup l := by
  induction kvs with
  | nil => simp [assign, lookup_cons_ite]
  | cons kv kvs ih =>
      by_cases hkv : kv.1 = k
      · subst hkv
        by_cases h : l = kv.1 <;> simp [assign, lookup_cons_ite, h]
      · by_cases h : l = kv.1
        · subst h
          simp [assign, lookup_cons_ite, hkv]
        · simp [assign, lookup_cons_ite, hkv, h, ih]

/-- A dictionary built from entries holds the last one of each key. -/
theorem lookup_foldl_assign {κ υ : Type} [DecidableEq κ] (entries dict : List (κ × υ)) (k : κ) :
    (entries.foldl (fun dict entry => assign dict entry.1 entry.2) dict).lookup k =
      (entries.reverse.lookup k).or (dict.lookup k) := by
  induction entries generalizing dict with
  | nil => rfl
  | cons entry entries ih =>
      rw [List.foldl_cons, ih, List.reverse_cons, List.lookup_append, Option.or_assoc,
        lookup_assign, lookup_cons_ite, List.lookup_nil]
      by_cases h : k = entry.1
      · simp [h]
      · simp [h]

theorem assign_ne_nil {κ υ : Type} [DecidableEq κ] (dict : List (κ × υ)) (k : κ) (v : υ) :
    assign dict k v ≠ [] := by
  cases dict with
  | nil => exact List.cons_ne_nil _ _
  | cons kv kvs =>
      unfold assign
      split <;> exact List.cons_ne_nil _ _

/-- Only without entries is the dictionary empty. -/
theorem foldl_assign_eq_nil_iff {κ υ : Type} [DecidableEq κ] {entries : List (κ × υ)} :
    entries.foldl (fun dict entry => assign dict entry.1 entry.2) [] = [] ↔ entries = [] := by
  rcases entries.eq_nil_or_concat with rfl | ⟨init, entry, rfl⟩
  · simp
  · rw [List.concat_eq_append, List.foldl_append]
    simp [assign_ne_nil]

@[simp] theorem field_obj_eq_ok {kvs : List (String × Json)} {k : String} {v : Json} :
    (Json.obj kvs).field k = .ok v ↔ kvs.lookup k = some v := by
  simp only [field]
  cases hv : kvs.lookup k <;> simp

/-- Only a dictionary has a string subscript. -/
theorem field_eq_ok {j v : Json} {k : String} (h : j.field k = .ok v) :
    ∃ kvs, j = .obj kvs ∧ kvs.lookup k = some v := by
  cases j with
  | obj kvs => exact ⟨kvs, rfl, field_obj_eq_ok.mp h⟩
  | _ => simp [field] at h

/-- Only a dictionary can be assigned a string key. -/
theorem setField_eq_ok {j j' v : Json} {k : String} :
    j.setField k v = .ok j' ↔ ∃ kvs, j = .obj kvs ∧ j' = .obj (assign kvs k v) := by
  cases j with
  | obj kvs => simp [setField, @eq_comm _ j']
  | _ => simp [setField]

/-- Reading after an assignment. -/
theorem field_setField {j j' v : Json} {k : String} (h : j.setField k v = .ok j') (l : String) :
    j'.field l = if l = k then .ok v else j.field l := by
  obtain ⟨kvs, rfl, rfl⟩ := setField_eq_ok.mp h
  simp only [field, lookup_assign]
  by_cases hl : l = k
  · simp [hl]
  · simp [hl]

/-- On a dictionary, `k in j` says whether `j[k]` returns. -/
theorem has_obj_iff {kvs : List (String × Json)} {k : String} {b : Bool} :
    (Json.obj kvs).has k = .ok b ↔ b = (kvs.lookup k).isSome := by
  rw [has, Except.ok.injEq, eq_comm]

/-- What has a field is true. -/
theorem truthy_of_field {j v : Json} {k : String} (h : j.field k = .ok v) : j.truthy = true := by
  obtain ⟨kvs, rfl, hlookup⟩ := field_eq_ok h
  cases kvs with
  | nil => simp at hlookup
  | cons kv kvs => rfl

@[simp] theorem item_arr_eq_ok {xs : List Json} {i : Nat} {v : Json} :
    (Json.arr xs).item i = .ok v ↔ xs[i]? = some v := by
  simp only [item]
  cases hv : xs[i]? <;> simp

@[simp] theorem hash_eq_ok {j : Json} {k : Key} : j.hash = .ok k ↔ j.key? = some k := by
  unfold hash
  cases j.key? <;> simp

@[simp] theorem num_eq_ok {j : Json} {q : ℚ} : j.num = .ok q ↔ j.num? = some q := by
  unfold num
  cases j.num? <;> simp

/-- What hashes as a number is one. -/
theorem num?_of_key? {j : Json} {q : ℚ} (h : j.key? = some (.num q)) : j.num? = some q := by
  cases j <;> simp_all [num?, key?]

end Json

end AfcDut.Py
