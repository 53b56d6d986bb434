import AfcDut.ControlApp.Interfaces

/-!
# What the interface table lists

Abstractly the table lists, for each band, the interfaces that have a BSS, in
the order in which they got it. An assignment appends to the list of its band,
a release empties every list; `hapd_bss_id` is the place in the list and
`band_mbssid_cnt` its length.
-/

namespace AfcDut.ControlApp

open Indigo

/-! ## The relation -/

/-- The interfaces in use, band by band. -/
structure Table.Lists (t : Table) (bands : Nat → List Nat) : Prop where
  mem : ∀ b k i, (bands b)[k]? = some i ↔
    ∃ w : InterfaceInfo, t.interfaces[i]? = some w ∧ w.inUse = true ∧ w.band = b ∧ w.hapdBssId = k
  count : ∀ b, t.bandMbssidCnt b = (bands b).length

/-- The bands and names of the interfaces. -/
def Table.names (t : Table) : List (Nat × String) := t.interfaces.map fun w => (w.band, w.ifname)

/-- The build and the names, which no handler changes. -/
def Table.shape (t : Table) : Build × List (Nat × String) := (t.build, t.names)

theorem names_of_shape {t t' : Table} (h : t'.shape = t.shape) : t'.names = t.names :=
  congrArg Prod.snd h

/-! ## Identifiers in use -/

theorem parseBssIdentifier_used (n : Int) : (parseBssIdentifier n).identifier ≠ unusedIdentifier := by
  show n / 16 % 16 ≠ -1
  omega

theorem inUse_assign {bss : BssIdentifierInfo} (hused : bss.identifier ≠ unusedIdentifier)
    (build : Build) (k : Nat) (w : InterfaceInfo) : (w.assign build bss k).inUse = true := by
  show (bss.identifier != unusedIdentifier) = true
  simpa using hused

/-! ## Look-ups -/

theorem freeIdx_eq_some {t : Table} {b i : Nat} (h : t.freeIdx b = some i) :
    ∃ w, t.interfaces[i]? = some w ∧ w.band = b ∧ w.inUse = false := by
  unfold Table.freeIdx at h
  obtain ⟨hlt, hfree, _⟩ := List.findIdx?_eq_some_iff_getElem.mp h
  refine ⟨t.interfaces[i], List.getElem?_eq_getElem hlt, ?_, ?_⟩
  · simpa using (Bool.and_eq_true_iff.mp hfree).1
  · simpa using (Bool.and_eq_true_iff.mp hfree).2

theorem getWirelessInterfaceInfo_eq_some {t : Table} {b i : Nat} {identifier : Int}
    (h : getWirelessInterfaceInfo t b identifier = some i) :
    ∃ w, t.interfaces[i]? = some w ∧ w.band = b ∧ w.inUse = true ∧ w.identifier = identifier := by
  unfold getWirelessInterfaceInfo at h
  obtain ⟨hlt, hfound, _⟩ := List.findIdx?_eq_some_iff_getElem.mp h
  obtain ⟨hband, hrest⟩ := Bool.and_eq_true_iff.mp hfound
  obtain ⟨huse, hid⟩ := Bool.and_eq_true_iff.mp hrest
  exact ⟨t.interfaces[i], List.getElem?_eq_getElem hlt, by simpa using hband, huse,
    by simpa using hid⟩

theorem assign_of_freeIdx {t : Table} {bss : BssIdentifierInfo} {i : Nat}
    (h : t.freeIdx bss.band = some i) :
    assignWirelessInterfaceInfo t bss =
      ({ build := t.build
         interfaces := t.interfaces.modify i (·.assign t.build bss (t.bandMbssidCnt bss.band))
         configuredInterfaceCount := t.configuredInterfaceCount + 1
         bandMbssidCnt :=
          Function.update t.bandMbssidCnt bss.band (t.bandMbssidCnt bss.band + 1) }, some i) := by
  unfold assignWirelessInterfaceInfo
  rw [h]

theorem assign_of_no_freeIdx {t : Table} {bss : BssIdentifierInfo}
    (h : t.freeIdx bss.band = none) : assignWirelessInterfaceInfo t bss = (t, none) := by
  unfold assignWirelessInterfaceInfo
  rw [h]

/-! ## Shapes -/

/-- A change of one entry that keeps its name and band. -/
theorem names_modify (t : Table) (i : Nat) (f : InterfaceInfo → InterfaceInfo)
    (hband : ∀ w, (f w).band = w.band) (hname : ∀ w, (f w).ifname = w.ifname) :
    (t.interfaces.modify i f).map (fun w => (w.band, w.ifname)) = t.names := by
  apply List.ext_getElem?
  intro j
  unfold Table.names
  rw [List.getElem?_map, List.getElem?_map, List.getElem?_modify]
  cases t.interfaces[j]? with
  | none => rfl
  | some w => split <;> simp [hband, hname]

theorem shape_assign (t : Table) (bss : BssIdentifierInfo) :
    (assignWirelessInterfaceInfo t bss).1.shape = t.shape := by
  cases h : t.freeIdx bss.band with
  | none => rw [assign_of_no_freeIdx h]
  | some i =>
      rw [assign_of_freeIdx h]
      exact Prod.ext rfl (names_modify t i _ (fun _ => rfl) (fun _ => rfl))

theorem shape_eraseConfFile (t : Table) (i : Nat) : (t.eraseConfFile i).shape = t.shape :=
  Prod.ext rfl (names_modify t i _ (fun _ => rfl) (fun _ => rfl))

theorem shape_clear (t : Table) : (clearInterfacesResource t).shape = t.shape := by
  refine Prod.ext rfl ?_
  show ((t.interfaces.map InterfaceInfo.release).map _) = t.names
  rw [List.map_map]
  rfl

/-! ## The operations -/

/-- What is in a band after one interface is appended to a band. -/
theorem getElem?_appended (bands : Nat → List Nat) (b₀ i b k j : Nat) :
    (Function.update bands b₀ (bands b₀ ++ [i]) b)[k]? = some j ↔
      (bands b)[k]? = some j ∨ b = b₀ ∧ k = (bands b₀).length ∧ j = i := by
  by_cases hb : b = b₀
  · subst hb
    rw [Function.update_self, List.getElem?_append]
    by_cases hlt : k < (bands b).length
    · rw [if_pos hlt]
      constructor
      · exact .inl
      · intro h
        obtain h | ⟨_, hk, _⟩ := h
        · exact h
        · omega
    · rw [if_neg hlt, List.getElem?_singleton,
        List.getElem?_eq_none (show (bands b).length ≤ k by omega)]
      constructor
      · intro h
        split at h
        · rw [Option.some.injEq] at h
          exact .inr ⟨rfl, by omega, h.symm⟩
        · exact absurd h (by simp)
      · intro h
        obtain h | ⟨_, hk, hj⟩ := h
        · exact absurd h (by simp)
        · rw [if_pos (by omega), hj]
  · rw [Function.update_of_ne hb]
    constructor
    · exact .inl
    · intro h
      obtain h | ⟨hb', _⟩ := h
      · exact h
      · exact absurd hb' hb

namespace Table.Lists

variable {t : Table} {bands : Nat → List Nat}

/-- A free interface is in no list. -/
theorem free_not_mem (h : t.Lists bands) {i : Nat} {w : InterfaceInfo}
    (hw : t.interfaces[i]? = some w) (hunused : w.inUse = false) (b k : Nat) :
    (bands b)[k]? ≠ some i := by
  intro hk
  obtain ⟨v, hv, huse, _⟩ := (h.mem b k i).mp hk
  rw [hw, Option.some.injEq] at hv
  rw [← hv, hunused] at huse
  exact absurd huse Bool.false_ne_true

/-- An assignment takes the next place of its band. -/
theorem assign (h : t.Lists bands) {bss : BssIdentifierInfo}
    (hused : bss.identifier ≠ unusedIdentifier) {i : Nat} (hfree : t.freeIdx bss.band = some i) :
    (assignWirelessInterfaceInfo t bss).1.Lists
      (Function.update bands bss.band (bands bss.band ++ [i])) := by
  obtain ⟨w, hw, hband, hunused⟩ := freeIdx_eq_some hfree
  rw [assign_of_freeIdx hfree]
  constructor
  · intro b k j
    rw [getElem?_appended]
    by_cases hij : i = j
    · subst hij
      -- the new entry is in its new place only
      have hnew : (t.interfaces.modify i (·.assign t.build bss (t.bandMbssidCnt bss.band)))[i]? =
          some (w.assign t.build bss (t.bandMbssidCnt bss.band)) := by
        rw [List.getElem?_modify_eq, hw]
        rfl
      constructor
      · intro hk
        obtain hold | ⟨hb, hk, _⟩ := hk
        · exact absurd hold (h.free_not_mem hw hunused b k)
        · exact ⟨_, hnew, inUse_assign hused t.build _ w, hband.trans hb.symm,
            (h.count _).trans hk.symm⟩
      · intro hv
        obtain ⟨v, hv, _, hb, hk⟩ := hv
        rw [hnew, Option.some.injEq] at hv
        subst hv
        exact .inr ⟨hb.symm.trans hband, hk.symm.trans (h.count _), rfl⟩
    · have hold : (t.interfaces.modify i (·.assign t.build bss (t.bandMbssidCnt bss.band)))[j]? =
          t.interfaces[j]? := List.getElem?_modify_ne _ _ hij
      show _ ↔ ∃ v : InterfaceInfo, (t.interfaces.modify i _)[j]? = some v ∧ _
      rw [hold, ← h.mem b k j]
      constructor
      · intro hk
        obtain hk | ⟨_, _, hj⟩ := hk
        · exact hk
        · exact absurd hj.symm hij
      · exact .inl
  · intro b
    show Function.update t.bandMbssidCnt bss.band (t.bandMbssidCnt bss.band + 1) b = _
    by_cases hb : b = bss.band
    · subst hb
      rw [Function.update_self, Function.update_self, List.length_append, h.count]
      rfl
    · rw [Function.update_of_ne hb, Function.update_of_ne hb]
      exact h.count b

/-- A table that no BSS has an interface of lists nothing. -/
theorem of_unused {t : Table} (hunused : ∀ w ∈ t.interfaces, w.inUse = false)
    (hcount : ∀ b, t.bandMbssidCnt b = 0) : t.Lists fun _ => [] := by
  constructor
  · intro b k i
    constructor
    · intro hk
      exact absurd hk (by simp)
    · intro hk
      obtain ⟨w, hw, huse, _⟩ := hk
      rw [hunused w (List.mem_of_getElem? hw)] at huse
      exact absurd huse Bool.false_ne_true
  · exact hcount

/-- A release empties the table. -/
theorem clear (t : Table) : (clearInterfacesResource t).Lists fun _ => [] := by
  apply of_unused
  · intro v hv
    obtain ⟨w, _, hw⟩ := List.mem_map.mp hv
    rw [← hw]
    rfl
  · exact fun _ => rfl

/-- A change of an entry that keeps its use, band and place keeps the lists. -/
theorem modify (h : t.Lists bands) (i : Nat) {f : InterfaceInfo → InterfaceInfo}
    (huse : ∀ w, (f w).inUse = w.inUse) (hband : ∀ w, (f w).band = w.band)
    (hid : ∀ w, (f w).hapdBssId = w.hapdBssId) :
    Table.Lists { t with interfaces := t.interfaces.modify i f } bands := by
  constructor
  · intro b k j
    rw [h.mem b k j]
    show _ ↔ ∃ v : InterfaceInfo, (t.interfaces.modify i f)[j]? = some v ∧ _
    rw [List.getElem?_modify]
    cases t.interfaces[j]? with
    | none => simp
    | some w => split <;> simp [huse, hband, hid]
  · exact h.count

theorem eraseConfFile (h : t.Lists bands) (i : Nat) : (t.eraseConfFile i).Lists bands :=
  h.modify i (fun _ => rfl) (fun _ => rfl) (fun _ => rfl)

/-- An interface in use has its place in its band. -/
theorem place (h : t.Lists bands) {i : Nat} {w : InterfaceInfo} (hw : t.interfaces[i]? = some w)
    (huse : w.inUse = true) : (bands w.band)[w.hapdBssId]? = some i :=
  (h.mem w.band w.hapdBssId i).mpr ⟨w, hw, huse, rfl, rfl⟩

/-- What a place of a band holds. -/
theorem entry (h : t.Lists bands) {b k i : Nat} (hk : (bands b)[k]? = some i) :
    ∃ w, t.interfaces[i]? = some w ∧ w.inUse = true ∧ w.band = b ∧ w.hapdBssId = k :=
  (h.mem b k i).mp hk

end Table.Lists

/-! ## Start-up -/

/-- What holds of every interface that is added. -/
theorem startUp_all {P : InterfaceInfo → Prop}
    (hnew : ∀ band name, P ⟨unusedIdentifier, band, name, false, false, 0, ""⟩)
    (names : List (Nat × String)) (t : Table) (h : ∀ w ∈ t.interfaces, P w) :
    ∀ w ∈ (names.foldl (fun t name => addWirelessInterfaceInfo t name.1 name.2) t).interfaces,
      P w := by
  induction names generalizing t with
  | nil => exact h
  | cons name names ih =>
      apply ih
      intro w hw
      obtain hold | hadded := List.mem_append.mp hw
      · exact h w hold
      · rw [List.mem_singleton] at hadded
        subst hadded
        exact hnew name.1 name.2

theorem startUp_names (names : List (Nat × String)) (t : Table) :
    (names.foldl (fun t name => addWirelessInterfaceInfo t name.1 name.2) t).names =
      t.names ++ names := by
  induction names generalizing t with
  | nil => simp
  | cons name names ih =>
      rw [List.foldl_cons, ih]
      simp [Table.names, addWirelessInterfaceInfo]

theorem startUp_build (names : List (Nat × String)) (t : Table) :
    (names.foldl (fun t name => addWirelessInterfaceInfo t name.1 name.2) t).build = t.build := by
  induction names generalizing t with
  | nil => rfl
  | cons name names ih =>
      rw [List.foldl_cons, ih]
      rfl

theorem startUp_count (names : List (Nat × String)) (t : Table) :
    (names.foldl (fun t name => addWirelessInterfaceInfo t name.1 name.2) t).bandMbssidCnt =
      t.bandMbssidCnt := by
  induction names generalizing t with
  | nil => rfl
  | cons name names ih =>
      rw [List.foldl_cons, ih]
      rfl

/-- At start-up no interface has a BSS. -/
theorem startUp_lists (build : Build) (names : List (Nat × String)) :
    (names.foldl (fun t name => addWirelessInterfaceInfo t name.1 name.2) (.empty build)).Lists
      fun _ => [] := by
  apply Table.Lists.of_unused
  · exact startUp_all (fun _ _ => rfl) names (.empty build) (by simp [Table.empty])
  · intro b
    rw [startUp_count]
    rfl

end AfcDut.ControlApp
