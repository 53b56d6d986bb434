import Mathlib.Data.List.Nodup
import Mathlib.Data.List.Basic

/-!
# Dictionaries of lists

A dictionary whose values are lists, in the order its keys were set, built by
extending one entry after the other. After any additions its entries are the
keys with something added, each with all that was added under it, in order.
-/

namespace AfcDut.Data

/-- The entries of a dictionary of lists, in insertion order. -/
abbrev ListDict (K V : Type) := List (K × List V)

namespace ListDict

variable {K V : Type} [DecidableEq K]

/-- The entry of a key is set, or extended. -/
def extend (key : K) (vs : List V) : ListDict K V → ListDict K V
  | [] => [(key, vs)]
  | (k, old) :: rest => if k = key then (k, old ++ vs) :: rest else (k, old) :: extend key vs rest

/-- An addition of nothing sets no key. -/
def add (d : ListDict K V) (a : K × List V) : ListDict K V :=
  if a.2.isEmpty then d else extend a.1 a.2 d

/-- What a list of additions adds under a key. -/
def gather (key : K) (adds : List (K × List V)) : List V :=
  adds.flatMap fun a => if a.1 = key then a.2 else []

@[simp] theorem gather_nil (key : K) : gather key ([] : List (K × List V)) = [] := rfl

theorem gather_append (key : K) (xs ys : List (K × List V)) :
    gather key (xs ++ ys) = gather key xs ++ gather key ys :=
  List.flatMap_append

/-- One addition for each of distinct keys. -/
theorem gather_map {keys : List K} (h : keys.Nodup) (f : K → List V) (key : K) :
    gather key (keys.map fun k => (k, f k)) = if key ∈ keys then f key else [] := by
  induction keys with
  | nil => rfl
  | cons k keys ih =>
      rw [List.nodup_cons] at h
      have hcons : gather key ((k :: keys).map fun k => (k, f k)) =
          (if k = key then f k else []) ++ gather key (keys.map fun k => (k, f k)) := rfl
      rw [hcons, ih h.2]
      by_cases hk : k = key
      · subst hk
        simp [h.1]
      · simp [hk, Ne.symm hk]

/-! ## One extension -/

theorem lookup_cons_of_ne {key k : K} (h : key ≠ k) (v : List V) (rest : ListDict K V) :
    ((k, v) :: rest).lookup key = rest.lookup key := by
  rw [List.lookup_cons, beq_false_of_ne h]

theorem lookup_extend (key key' : K) (vs : List V) (d : ListDict K V) :
    (extend key vs d).lookup key' =
      if key' = key then some ((d.lookup key).getD [] ++ vs) else d.lookup key' := by
  induction d with
  | nil =>
      unfold extend
      by_cases hk : key' = key
      · subst hk
        simp
      · rw [lookup_cons_of_ne hk, if_neg hk]
  | cons entry rest ih =>
      obtain ⟨k, old⟩ := entry
      unfold extend
      by_cases hkey : k = key
      · subst hkey
        by_cases hk : key' = k
        · subst hk
          simp
        · rw [if_pos rfl, if_neg hk, lookup_cons_of_ne hk, lookup_cons_of_ne hk]
      · rw [if_neg hkey, lookup_cons_of_ne (Ne.symm hkey)]
        by_cases hk : key' = k
        · subst hk
          rw [if_neg hkey, List.lookup_cons_self, List.lookup_cons_self]
        · rw [lookup_cons_of_ne hk, lookup_cons_of_ne hk, ih]

theorem keys_extend (key : K) (vs : List V) (d : ListDict K V) :
    (extend key vs d).map Prod.fst =
      if key ∈ d.map Prod.fst then d.map Prod.fst else d.map Prod.fst ++ [key] := by
  induction d with
  | nil => simp [extend]
  | cons entry rest ih =>
      obtain ⟨k, old⟩ := entry
      unfold extend
      by_cases hk : k = key
      · simp [hk]
      · rw [if_neg hk, List.map_cons, List.map_cons, ih]
        by_cases hmem : key ∈ rest.map Prod.fst
        · rw [if_pos hmem, if_pos (List.mem_cons_of_mem _ hmem)]
        · rw [if_neg hmem, if_neg]
          · rfl
          · intro h
            obtain h | h := List.mem_cons.mp h
            · exact hk h.symm
            · exact hmem h

/-- With distinct keys an entry is what a lookup finds. -/
theorem mem_iff_lookup {d : ListDict K V} (h : (d.map Prod.fst).Nodup) (key : K) (vs : List V) :
    (key, vs) ∈ d ↔ d.lookup key = some vs := by
  induction d with
  | nil => simp
  | cons entry rest ih =>
      obtain ⟨k, old⟩ := entry
      rw [List.map_cons, List.nodup_cons] at h
      rw [List.mem_cons, ih h.2]
      by_cases hk : key = k
      · subst hk
        have hnone : ¬ rest.lookup key = some vs := by
          intro hl
          apply h.1
          exact List.mem_map.mpr ⟨(key, vs), (ih h.2).mpr hl, rfl⟩
        rw [List.lookup_cons_self]
        simp [hnone, eq_comm]
      · rw [lookup_cons_of_ne hk]
        simp [hk]

/-! ## Any additions -/

/-- The dictionary holds what the additions add. -/
structure Gathers (d : ListDict K V) (adds : List (K × List V)) : Prop where
  nodup : (d.map Prod.fst).Nodup
  lookup : ∀ key, d.lookup key = if gather key adds = [] then none else some (gather key adds)

theorem Gathers.nil : Gathers ([] : ListDict K V) [] where
  nodup := List.nodup_nil
  lookup := fun _ => rfl

theorem Gathers.add {d : ListDict K V} {adds : List (K × List V)} (h : Gathers d adds)
    (a : K × List V) : Gathers (d.add a) (adds ++ [a]) := by
  obtain ⟨k, vs⟩ := a
  have hone : ∀ key, gather key [(k, vs)] = if k = key then vs else [] := by
    intro key
    simp [gather]
  unfold ListDict.add
  cases hvs : vs.isEmpty with
  | true =>
      rw [List.isEmpty_iff] at hvs
      subst hvs
      refine ⟨h.nodup, fun key => ?_⟩
      have hsame : gather key (adds ++ [(k, [])]) = gather key adds := by
        rw [gather_append, hone]
        simp
      rw [hsame]
      exact h.lookup key
  | false =>
      have hne : vs ≠ [] := by
        intro hnil
        rw [hnil] at hvs
        exact absurd hvs (by simp)
      constructor
      · show (((extend k vs d).map Prod.fst)).Nodup
        rw [keys_extend]
        split
        · exact h.nodup
        · rename_i hmem
          exact List.nodup_append.mpr ⟨h.nodup, List.nodup_singleton k, by
            intro x hx y hy hxy
            rw [List.mem_singleton] at hy
            exact hmem (hy ▸ hxy ▸ hx)⟩
      · intro key
        show (extend k vs d).lookup key = _
        rw [lookup_extend, gather_append, hone]
        by_cases hk : key = k
        · subst hk
          rw [h.lookup key]
          by_cases hg : gather key adds = []
          · simp [hg, hne]
          · simp [hg]
        · rw [if_neg hk, if_neg (Ne.symm hk), List.append_nil]
          exact h.lookup key

/-- The run lemma: extending entry by entry gathers every addition. -/
theorem Gathers.foldl {d : ListDict K V} {adds : List (K × List V)} (h : Gathers d adds)
    (more : List (K × List V)) : Gathers (more.foldl ListDict.add d) (adds ++ more) := by
  induction more generalizing d adds with
  | nil =>
      rw [List.append_nil]
      exact h
  | cons a more ih =>
      have hstep := ih (h.add a)
      rw [List.append_assoc] at hstep
      exact hstep

theorem Gathers.mem_iff {d : ListDict K V} {adds : List (K × List V)} (h : Gathers d adds)
    (key : K) (vs : List V) : (key, vs) ∈ d ↔ vs ≠ [] ∧ gather key adds = vs := by
  rw [mem_iff_lookup h.nodup, h.lookup]
  by_cases hg : gather key adds = []
  · rw [if_pos hg, hg]
    constructor
    · intro hnone
      exact absurd hnone (by simp)
    · intro hvs
      exact absurd hvs.2.symm hvs.1
  · rw [if_neg hg, Option.some.injEq]
    constructor
    · intro heq
      exact ⟨heq ▸ hg, heq⟩
    · exact fun hvs => hvs.2

end ListDict

end AfcDut.Data
