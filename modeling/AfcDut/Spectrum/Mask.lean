import Mathlib.Data.List.Basic
import Mathlib.Order.Cover
import Mathlib.Order.Lattice
import Mathlib.Order.MinMax
import Mathlib.Tactic.Common

/-!
# Masks of limited ranges

A mask is a list of grants, each a limit over a closed range; ranges may
overlap and leave gaps. The limit of a window is taken here from the grants
that lie inside it, and the lemmas say how that limit depends on the way a
grant is cut, and which grants of a grid lie inside.
-/

namespace AfcDut.Spectrum

/-- A limit over a range of positive width. -/
structure Grant (α β : Type) [LT α] where
  low : α
  high : α
  limit : β
  low_lt_high : low < high

variable {α β : Type} [LinearOrder α]

namespace Grant

/-- The grant lies in the window. -/
def Inside (g : Grant α β) (lo hi : α) : Prop := lo ≤ g.low ∧ g.high ≤ hi

/-- The grant and the window share a range of positive width. -/
def Overlaps (g : Grant α β) (lo hi : α) : Prop := max g.low lo < min g.high hi

instance (g : Grant α β) (lo hi : α) : Decidable (g.Inside lo hi) :=
  inferInstanceAs (Decidable (_ ∧ _))

instance (g : Grant α β) (lo hi : α) : Decidable (g.Overlaps lo hi) :=
  inferInstanceAs (Decidable (_ < _))

/-- The part of a grant below a cut. -/
def below (g : Grant α β) (m : α) (h : g.low < m) : Grant α β := ⟨g.low, m, g.limit, h⟩

/-- The part of a grant above a cut. -/
def above (g : Grant α β) (m : α) (h : m < g.high) : Grant α β := ⟨m, g.high, g.limit, h⟩

/-- A grant inside a window is inside every wider one. -/
theorem Inside.mono {g : Grant α β} {lo hi lo' hi' : α} (h : g.Inside lo hi) (hlo : lo' ≤ lo)
    (hhi : hi ≤ hi') : g.Inside lo' hi' :=
  ⟨hlo.trans h.1, h.2.trans hhi⟩

/-- A grant between neighbouring ticks is inside a window between ticks as soon
as they share a point. -/
theorem inside_of_ticks {ι : Type} [LinearOrder ι] {tick : ι → α} (htick : StrictMono tick)
    {g : Grant α β} {s t m n : ι} (hst : s ⋖ t) (hlow : g.low = tick s) (hhigh : g.high = tick t)
    {x : α} (hg : g.low ≤ x ∧ x < g.high) (hw : tick m ≤ x ∧ x < tick n) :
    g.Inside (tick m) (tick n) := by
  have hm : m < t := htick.lt_iff_lt.mp (hw.1.trans_lt (hhigh ▸ hg.2))
  have hn : s < n := htick.lt_iff_lt.mp ((hlow ▸ hg.1).trans_lt hw.2)
  constructor
  · rw [hlow]
    exact htick.monotone (hst.le_of_lt hm)
  · rw [hhigh]
    exact htick.monotone (hst.ge_of_gt hn)

end Grant

/-- Every point of the window lies in some grant. -/
def Covers (gs : List (Grant α β)) (lo hi : α) : Prop :=
  ∀ x, lo ≤ x → x ≤ hi → ∃ g ∈ gs, g.low ≤ x ∧ x ≤ g.high

/-- The limits of the grants inside a window. -/
def insideLimits (gs : List (Grant α β)) (lo hi : α) : List β :=
  (gs.filter fun g => g.Inside lo hi).map (·.limit)

theorem mem_insideLimits {gs : List (Grant α β)} {lo hi : α} {p : β} :
    p ∈ insideLimits gs lo hi ↔ ∃ g ∈ gs, g.Inside lo hi ∧ g.limit = p := by
  simp [insideLimits, and_assoc]

variable [LinearOrder β]

/-- The lowest of these limits. -/
def insideLimit (gs : List (Grant α β)) (lo hi : α) : Option β := (insideLimits gs lo hi).min?

/-- Some grant inside the window has a limit that is no higher. -/
def Shadowed (gs : List (Grant α β)) (p : β) (lo hi : α) : Prop :=
  ∃ g ∈ gs, g.Inside lo hi ∧ g.limit ≤ p

theorem insideLimit_eq_none_iff {gs : List (Grant α β)} {lo hi : α} :
    insideLimit gs lo hi = none ↔ ∀ g ∈ gs, ¬ g.Inside lo hi := by
  simp [insideLimit, insideLimits]

theorem insideLimit_eq_some_iff {gs : List (Grant α β)} {lo hi : α} {p : β} :
    insideLimit gs lo hi = some p ↔
      (∃ g ∈ gs, g.Inside lo hi ∧ g.limit = p) ∧ ∀ g ∈ gs, g.Inside lo hi → p ≤ g.limit := by
  rw [insideLimit, List.min?_eq_some_iff, mem_insideLimits]
  refine and_congr_right fun _ => ⟨fun h g hg hin => h _ ?_, fun h q hq => ?_⟩
  · exact mem_insideLimits.mpr ⟨g, hg, hin, rfl⟩
  · obtain ⟨g, hg, hin, rfl⟩ := mem_insideLimits.mp hq
    exact h g hg hin

/-! ## How a limit depends on the list of candidates -/

/-- The least element of a list depends on its elements only. -/
theorem min?_congr {xs ys : List β} (h : ∀ p, p ∈ xs ↔ p ∈ ys) : xs.min? = ys.min? := by
  cases hx : xs.min? with
  | none =>
      rw [List.min?_eq_none_iff] at hx
      subst hx
      have hy : ys = [] := List.eq_nil_iff_forall_not_mem.mpr fun p hp =>
        List.not_mem_nil ((h p).mpr hp)
      rw [hy]
      rfl
  | some p =>
      rw [List.min?_eq_some_iff] at hx
      symm
      rw [List.min?_eq_some_iff]
      exact ⟨(h p).mp hx.1, fun q hq => hx.2 q ((h q).mpr hq)⟩

/-- One more candidate changes nothing exactly when another is no higher. -/
theorem min?_cons_eq_iff {xs : List β} {p : β} :
    (p :: xs).min? = xs.min? ↔ ∃ q ∈ xs, q ≤ p := by
  constructor
  · intro h
    cases hx : xs.min? with
    | none =>
        rw [hx, List.min?_eq_none_iff] at h
        exact absurd h (List.cons_ne_nil p xs)
    | some q =>
        rw [hx, List.min?_eq_some_iff] at h
        exact ⟨q, (List.min?_eq_some_iff.mp hx).1, h.2 p List.mem_cons_self⟩
  · rintro ⟨q, hq, hqp⟩
    cases hx : xs.min? with
    | none =>
        rw [List.min?_eq_none_iff] at hx
        subst hx
        exact absurd hq List.not_mem_nil
    | some r =>
        obtain ⟨hr, hmin⟩ := List.min?_eq_some_iff.mp hx
        refine List.min?_eq_some_iff.mpr ⟨List.mem_cons_of_mem p hr, fun b hb => ?_⟩
        rcases List.mem_cons.mp hb with rfl | hb
        · exact (hmin q hq).trans hqp
        · exact hmin b hb

/-! ## Cutting a grant -/

section Cut

variable {parts others : List (Grant α β)} {g : Grant α β} {lo hi : α}

/-- When every candidate among some grants has the limit `q`, those grants
count as one candidate. -/
theorem insideLimit_append {q : β} {c : Prop} [Decidable c]
    (hparts : ∀ p, p ∈ insideLimits parts lo hi ↔ c ∧ q = p) :
    insideLimit (parts ++ others) lo hi =
      if c then (q :: insideLimits others lo hi).min? else (insideLimits others lo hi).min? := by
  have hmem : ∀ p, p ∈ insideLimits (parts ++ others) lo hi ↔
      (c ∧ q = p) ∨ p ∈ insideLimits others lo hi := by
    intro p
    rw [← hparts p]
    simp only [insideLimits, List.filter_append, List.map_append, List.mem_append]
  by_cases hc : c
  · rw [if_pos hc]
    refine min?_congr fun p => ?_
    rw [hmem, List.mem_cons, @eq_comm _ p q]
    simp only [hc, true_and]
  · rw [if_neg hc]
    refine min?_congr fun p => ?_
    rw [hmem]
    simp only [hc, false_and, false_or]

theorem insideLimit_perm {gs ks : List (Grant α β)} (h : gs.Perm ks) :
    insideLimit gs lo hi = insideLimit ks lo hi := by
  refine min?_congr fun p => ?_
  simp only [mem_insideLimits, h.mem_iff]

variable {m : α} (hlow : g.low < m) (hhigh : m < g.high)

/-- **Cutting a grant.** The limit of a window survives the cut exactly when
the window holds the whole grant, or neither part, or another grant whose
limit is no higher. -/
theorem insideLimit_cut_iff :
    insideLimit (g.below m hlow :: g.above m hhigh :: others) lo hi =
        insideLimit (g :: others) lo hi ↔
      ((g.below m hlow).Inside lo hi ∨ (g.above m hhigh).Inside lo hi →
        g.Inside lo hi ∨ Shadowed others g.limit lo hi) := by
  have hparts : ∀ p, p ∈ insideLimits [g.below m hlow, g.above m hhigh] lo hi ↔
      ((g.below m hlow).Inside lo hi ∨ (g.above m hhigh).Inside lo hi) ∧ g.limit = p := by
    intro p
    simp only [mem_insideLimits, List.mem_cons, List.not_mem_nil, or_false]
    constructor
    · rintro ⟨k, rfl | rfl, hin, hp⟩
      · exact ⟨.inl hin, hp⟩
      · exact ⟨.inr hin, hp⟩
    · rintro ⟨hin | hin, hp⟩
      · exact ⟨_, .inl rfl, hin, hp⟩
      · exact ⟨_, .inr rfl, hin, hp⟩
  -- on either side the grant counts as one candidate, or as none
  have hwhole : ∀ p, p ∈ insideLimits [g] lo hi ↔ g.Inside lo hi ∧ g.limit = p := by
    intro p
    simp [mem_insideLimits]
  have hshadow : Shadowed others g.limit lo hi ↔ ∃ q ∈ insideLimits others lo hi, q ≤ g.limit := by
    simp only [Shadowed, mem_insideLimits]
    constructor
    · rintro ⟨k, hk, hin, hle⟩
      exact ⟨_, ⟨k, hk, hin, rfl⟩, hle⟩
    · rintro ⟨_, ⟨k, hk, hin, rfl⟩, hle⟩
      exact ⟨k, hk, hin, hle⟩
  -- a window that holds the whole grant holds its parts
  have hbelow : g.Inside lo hi → (g.below m hlow).Inside lo hi := fun h =>
    ⟨h.1, hhigh.le.trans h.2⟩
  show insideLimit ([g.below m hlow, g.above m hhigh] ++ others) lo hi =
    insideLimit ([g] ++ others) lo hi ↔ _
  rw [insideLimit_append hparts, insideLimit_append hwhole, hshadow]
  by_cases hpart : (g.below m hlow).Inside lo hi ∨ (g.above m hhigh).Inside lo hi
  · by_cases hg : g.Inside lo hi
    · rw [if_pos hpart, if_pos hg]
      exact iff_of_true rfl fun _ => .inl hg
    · rw [if_pos hpart, if_neg hg, min?_cons_eq_iff]
      simp only [hpart, hg, false_or, forall_const]
  · have hg : ¬ g.Inside lo hi := fun h => hpart (.inl (hbelow h))
    rw [if_neg hpart, if_neg hg]
    exact iff_of_true rfl fun h => absurd h hpart

end Cut

end AfcDut.Spectrum
