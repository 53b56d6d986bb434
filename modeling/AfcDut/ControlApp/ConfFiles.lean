import AfcDut.ControlApp.Accounting
import AfcDut.ControlApp.ApHandlers

/-!
# Bands and their files

The first interface of a band's list leads it: it alone has a file, and the
file has one section for each interface of the list, in order. Each operation
of the handlers keeps this in the circumstances stated here.
-/

namespace AfcDut.ControlApp

open Indigo

/-! ## Names -/

theorem confFileName_injective {build : Build} {x y : String}
    (h : InterfaceInfo.confFileName build x = InterfaceInfo.confFileName build y) : x = y := by
  unfold InterfaceInfo.confFileName at h
  have hlist := congrArg String.toList h
  simp only [String.toList_append] at hlist
  exact String.toList_inj.mp (List.append_cancel_left (List.append_cancel_right hlist))

theorem confFileName_ne_empty (build : Build) (x : String) :
    InterfaceInfo.confFileName build x ≠ "" := by
  intro h
  have hlist := congrArg String.toList h
  unfold InterfaceInfo.confFileName at hlist
  simp [String.toList_append] at hlist

namespace Table

theorem ifname_of_shape {t t' : Table} (h : t'.shape = t.shape) (i : Nat) :
    t'.ifname i = t.ifname i := by
  have hshape : ∀ t : Table, t.ifname i = ((t.shape.2[i]?).map Prod.snd).getD "" := by
    intro t
    show _ = ((t.names[i]?).map Prod.snd).getD ""
    unfold Table.ifname Table.names
    rw [List.getElem?_map, Option.map_map]
    rfl
  rw [hshape, hshape, h]

theorem ifname_of_getElem? {t : Table} {i : Nat} {w : InterfaceInfo}
    (h : t.interfaces[i]? = some w) : t.ifname i = w.ifname := by
  unfold Table.ifname
  rw [h]
  rfl

theorem confFile_of_getElem? {t : Table} {i : Nat} {w : InterfaceInfo}
    (h : t.interfaces[i]? = some w) : t.confFile i = w.hapdConfFile := by
  unfold Table.confFile
  rw [h]
  rfl

/-- The interfaces have pairwise distinct names. -/
def Named (t : Table) : Prop := (t.names.map Prod.snd).Nodup

theorem Named.of_shape {t t' : Table} (h : t.Named) (hshape : t'.shape = t.shape) : t'.Named := by
  unfold Named
  rw [names_of_shape hshape]
  exact h

theorem Named.injective {t : Table} (h : t.Named) {i j : Nat} {v w : InterfaceInfo}
    (hv : t.interfaces[i]? = some v) (hw : t.interfaces[j]? = some w)
    (hname : v.ifname = w.ifname) : i = j := by
  have hget : ∀ {k : Nat} {u : InterfaceInfo}, t.interfaces[k]? = some u →
      (t.names.map Prod.snd)[k]? = some u.ifname := by
    intro k u hu
    unfold Table.names
    rw [List.getElem?_map, List.getElem?_map, hu]
    rfl
  have hi := hget hv
  obtain ⟨hlt, _⟩ := List.getElem?_eq_some_iff.mp hi
  exact (List.getElem?_inj hlt h).mp (by rw [hi, hget hw, hname])

theorem confFile_assign {t : Table} {bss : BssIdentifierInfo} {i : Nat}
    (h : t.freeIdx bss.band = some i) (j : Nat) :
    (assignWirelessInterfaceInfo t bss).1.confFile j =
      if j = i then InterfaceInfo.confFileName t.build (t.ifname i) else t.confFile j := by
  obtain ⟨w, hw, _, _⟩ := freeIdx_eq_some h
  rw [assign_of_freeIdx h]
  unfold Table.confFile
  by_cases hij : j = i
  · subst hij
    rw [List.getElem?_modify_eq, hw, if_pos rfl, ifname_of_getElem? hw]
    rfl
  · rw [List.getElem?_modify_ne _ _ (Ne.symm hij), if_neg hij]

theorem confFile_eraseConfFile (t : Table) (i j : Nat) :
    (t.eraseConfFile i).confFile j = if j = i then "" else t.confFile j := by
  unfold Table.confFile Table.eraseConfFile
  by_cases hij : j = i
  · subst hij
    rw [List.getElem?_modify_eq, if_pos rfl]
    cases t.interfaces[j]? with
    | none => rfl
    | some w => rfl
  · rw [List.getElem?_modify_ne _ _ (Ne.symm hij), if_neg hij]

theorem confFile_clear (t : Table) (j : Nat) :
    (clearInterfacesResource t).confFile j = t.confFile j := by
  unfold Table.confFile clearInterfacesResource
  rw [List.getElem?_map, Option.map_map]
  rfl

/-- The file an interface gets when it is assigned. -/
def ownFile (t : Table) (i : Nat) : String := InterfaceInfo.confFileName t.build (t.ifname i)

theorem ownFile_of_shape {t t' : Table} (h : t'.shape = t.shape) (i : Nat) :
    t'.ownFile i = t.ownFile i := by
  have hbuild : t'.build = t.build := congrArg Prod.fst h
  unfold ownFile
  rw [ifname_of_shape h, hbuild]

/-- The interface that leads a band. -/
def leader (t : Table) (b : Nat) : Option Nat :=
  t.interfaces.findIdx? fun w => w.inUse && (w.band == b && w.hapdBssId == 0)

theorem Lists.leader_eq {t : Table} {bands : Nat → List Nat} (h : t.Lists bands) (b : Nat) :
    t.leader b = (bands b)[0]? := by
  have meets : ∀ {w : InterfaceInfo},
      (w.inUse && (w.band == b && w.hapdBssId == 0)) = true ↔
        w.inUse = true ∧ w.band = b ∧ w.hapdBssId = 0 := by
    intro w
    simp
  unfold leader
  cases hfind : t.interfaces.findIdx? fun w => w.inUse && (w.band == b && w.hapdBssId == 0) with
  | none =>
      cases hhead : (bands b)[0]? with
      | none => rfl
      | some a =>
          obtain ⟨w, hw, huse⟩ := h.entry hhead
          have hnot := List.findIdx?_eq_none_iff.mp hfind w (List.mem_of_getElem? hw)
          rw [meets.mpr huse] at hnot
          exact absurd hnot (by simp)
  | some a =>
      obtain ⟨hlt, hfound, _⟩ := List.findIdx?_eq_some_iff_getElem.mp hfind
      have huse := meets.mp hfound
      exact ((h.mem b 0 a).mpr ⟨_, List.getElem?_eq_getElem hlt, huse⟩).symm

end Table

/-! ## Files -/

/-- The file of a band. -/
def rendered (t : Table) : List Nat → List Section
  | [] => []
  | a :: rest => ⟨.interface, t.ifname a⟩ :: rest.map fun i => ⟨.bss, t.ifname i⟩

theorem rendered_of_shape {t t' : Table} (h : t'.shape = t.shape) (band : List Nat) :
    rendered t' band = rendered t band := by
  cases band with
  | nil => rfl
  | cons a rest =>
      unfold rendered
      simp only [Table.ifname_of_shape h]

theorem rendered_getElem? {t : Table} {band : List Nat} {k : Nat} {s : Section}
    (h : (rendered t band)[k]? = some s) :
    ∃ i, band[k]? = some i ∧ s.ifname = t.ifname i := by
  cases band with
  | nil => exact absurd h (by simp [rendered])
  | cons a rest =>
      cases k with
      | zero =>
          have hs : s = ⟨.interface, t.ifname a⟩ := by simpa [rendered, eq_comm] using h
          exact ⟨a, rfl, by rw [hs]⟩
      | succ k =>
          have hs : (rest.map fun i => (⟨.bss, t.ifname i⟩ : Section))[k]? = some s := h
          rw [List.getElem?_map, Option.map_eq_some_iff] at hs
          obtain ⟨i, hi, hs⟩ := hs
          exact ⟨i, hi, by rw [← hs]⟩

theorem rendered_of_getElem? {t : Table} {band : List Nat} {k i : Nat} (h : band[k]? = some i) :
    ∃ s, (rendered t band)[k]? = some s ∧ s.ifname = t.ifname i := by
  cases band with
  | nil => exact absurd h (by simp)
  | cons a rest =>
      cases k with
      | zero =>
          have ha : a = i := by simpa using h
          exact ⟨⟨.interface, t.ifname a⟩, rfl, by rw [ha]⟩
      | succ k =>
          refine ⟨⟨.bss, t.ifname i⟩, ?_, rfl⟩
          show (rest.map fun i => (⟨.bss, t.ifname i⟩ : Section))[k]? = _
          rw [List.getElem?_map, show rest[k]? = some i from h]
          rfl

/-! ## The invariant -/

/-- Each band has the file of its list. -/
structure Synced (t : Table) (files : String → List Section) (bands : Nat → List Nat) : Prop where
  lists : t.Lists bands
  named : t.Named
  /-- An interface has its own file or none. -/
  conf : ∀ i, t.confFile i = "" ∨ t.confFile i = t.ownFile i
  /-- A leader was not assigned as a nontransmitted BSS. -/
  plain : ∀ b a, (bands b)[0]? = some a → ∀ w, t.interfaces[a]? = some w →
    (w.mbssidEnable && !w.transmitter) = false
  led : ∀ b a rest, bands b = a :: rest → t.confFile a = t.ownFile a
  erased : ∀ b a rest, bands b = a :: rest → ∀ i ∈ rest, t.confFile i = ""
  file : ∀ b a rest, bands b = a :: rest → files (t.ownFile a) = rendered t (a :: rest)

namespace Synced

variable {t : Table} {files : String → List Section} {bands : Nat → List Nat}

/-- A leader is a leader of one band, at its head. -/
theorem head_unique (h : Synced t files bands) {b b' k : Nat} {a : Nat}
    (ha : (bands b)[0]? = some a) (hk : (bands b')[k]? = some a) : b' = b ∧ k = 0 := by
  obtain ⟨v, hv, _, hvb, hvk⟩ := h.lists.entry ha
  obtain ⟨w, hw, _, hwb, hwk⟩ := h.lists.entry hk
  rw [hv, Option.some.injEq] at hw
  subst hw
  exact ⟨hwb.symm.trans hvb, hwk.symm.trans hvk⟩

/-- Distinct interfaces have distinct files. -/
theorem ownFile_ne (h : Synced t files bands) {i j : Nat} {v w : InterfaceInfo}
    (hv : t.interfaces[i]? = some v) (hw : t.interfaces[j]? = some w) (hne : i ≠ j) :
    t.ownFile i ≠ t.ownFile j := by
  intro hfile
  have hname := confFileName_injective hfile
  rw [Table.ifname_of_getElem? hv, Table.ifname_of_getElem? hw] at hname
  exact hne (h.named.injective hv hw hname)

/-- So do the leaders of distinct bands. -/
theorem leader_file_ne (h : Synced t files bands) {b b' a a' : Nat}
    (ha : (bands b)[0]? = some a) (ha' : (bands b')[0]? = some a') (hne : b' ≠ b) :
    t.ownFile a' ≠ t.ownFile a := by
  obtain ⟨v, hv, _⟩ := h.lists.entry ha
  obtain ⟨w, hw, _⟩ := h.lists.entry ha'
  apply h.ownFile_ne hw hv
  intro heq
  subst heq
  exact hne (h.head_unique ha ha').1

theorem head_eq {b a : Nat} {rest : List Nat} (h : bands b = a :: rest) :
    (bands b)[0]? = some a := by
  rw [h]
  rfl

theorem exists_rest {b a : Nat} (h : (bands b)[0]? = some a) : ∃ rest, bands b = a :: rest :=
  List.head?_eq_some_iff.mp (List.head?_eq_getElem?.trans h)

/-- A band with an interface has a leader. -/
theorem exists_cons {b k i : Nat} (h : (bands b)[k]? = some i) :
    ∃ a rest, bands b = a :: rest := by
  apply List.exists_cons_of_ne_nil
  intro hnil
  rw [hnil] at h
  exact absurd h (by simp)

theorem mem_rest {b a j : Nat} {rest : List Nat} (h : bands b = a :: rest) (hj : j ∈ rest) :
    ∃ k, (bands b)[k + 1]? = some j := by
  obtain ⟨k, hk⟩ := List.getElem?_of_mem hj
  exact ⟨k, by rw [h]; exact hk⟩

/-- A leader has its file. -/
theorem led_head (h : Synced t files bands) {b a : Nat} (ha : (bands b)[0]? = some a) :
    t.confFile a = t.ownFile a := by
  obtain ⟨rest, hrest⟩ := exists_rest ha
  exact h.led b a rest hrest

/-! ## The operations -/

/-- After a release no band has a file. -/
theorem clear (h : Synced t files bands) :
    Synced (clearInterfacesResource t) files fun _ => [] where
  lists := .clear t
  named := h.named.of_shape (shape_clear t)
  conf := by
    intro i
    rw [Table.confFile_clear, Table.ownFile_of_shape (shape_clear t)]
    exact h.conf i
  plain := by
    intro b a ha
    exact absurd ha (by simp)
  led := by
    intro b a rest hb
    exact absurd hb (by simp)
  erased := by
    intro b a rest hb
    exact absurd hb (by simp)
  file := by
    intro b a rest hb
    exact absurd hb (by simp)

/-- Files that no leader has may change. -/
theorem frame (h : Synced t files bands) {files' : String → List Section}
    (hsame : ∀ b a, (bands b)[0]? = some a → files' (t.ownFile a) = files (t.ownFile a)) :
    Synced t files' bands :=
  { h with
    file := by
      intro b a rest hb
      rw [hsame b a (head_eq hb)]
      exact h.file b a rest hb }

/-- Only a leader has a file name to lose. -/
theorem eraseConfFile (h : Synced t files bands) {i : Nat}
    (hi : ∀ b, (bands b)[0]? ≠ some i) : Synced (t.eraseConfFile i) files bands where
  lists := h.lists.eraseConfFile i
  named := h.named.of_shape (shape_eraseConfFile t i)
  conf := by
    intro j
    rw [Table.confFile_eraseConfFile, Table.ownFile_of_shape (shape_eraseConfFile t i)]
    split
    · exact .inl rfl
    · exact h.conf j
  plain := by
    intro b a ha w hw
    have hne : i ≠ a := fun heq => hi b (heq ▸ ha)
    have hold : (t.eraseConfFile i).interfaces[a]? = t.interfaces[a]? :=
      List.getElem?_modify_ne _ _ hne
    rw [hold] at hw
    exact h.plain b a ha w hw
  led := by
    intro b a rest hb
    have hne : a ≠ i := fun heq => hi b (heq ▸ head_eq hb)
    rw [Table.confFile_eraseConfFile, if_neg hne, Table.ownFile_of_shape (shape_eraseConfFile t i)]
    exact h.led b a rest hb
  erased := by
    intro b a rest hb j hj
    rw [Table.confFile_eraseConfFile]
    split
    · rfl
    · exact h.erased b a rest hb j hj
  file := by
    intro b a rest hb
    rw [Table.ownFile_of_shape (shape_eraseConfFile t i),
      rendered_of_shape (shape_eraseConfFile t i)]
    exact h.file b a rest hb

/-- The file of a leader that is alone in its band is written again. -/
theorem rewriteLeader (h : Synced t files bands) {b a : Nat} (halone : bands b = [a]) :
    Synced t (Function.update files (t.ownFile a) [⟨.interface, t.ifname a⟩]) bands :=
  { h with
    file := by
      intro b' a' rest hb'
      by_cases hbb : b' = b
      · subst hbb
        rw [halone, List.cons.injEq] at hb'
        obtain ⟨rfl, rfl⟩ := hb'
        rw [Function.update_self]
        rfl
      · rw [Function.update_of_ne (h.leader_file_ne (head_eq halone) (head_eq hb') hbb)]
        exact h.file b' a' rest hb' }

section Assign

variable {bss : BssIdentifierInfo} {i : Nat}

/-- An assignment leaves the entries of the lists alone. -/
theorem assign_getElem? (h : Synced t files bands) (hfree : t.freeIdx bss.band = some i)
    {b k j : Nat} (hj : (bands b)[k]? = some j) :
    j ≠ i ∧ (assignWirelessInterfaceInfo t bss).1.interfaces[j]? = t.interfaces[j]? := by
  obtain ⟨w, hw, _, hunused⟩ := freeIdx_eq_some hfree
  have hne : j ≠ i := by
    intro heq
    subst heq
    exact h.lists.free_not_mem hw hunused b k hj
  rw [assign_of_freeIdx hfree]
  exact ⟨hne, List.getElem?_modify_ne _ _ (Ne.symm hne)⟩

/-- The files of the new interface and of a leader differ. -/
theorem assign_file_ne (h : Synced t files bands) (hfree : t.freeIdx bss.band = some i)
    {b a : Nat} (ha : (bands b)[0]? = some a) : t.ownFile a ≠ t.ownFile i := by
  obtain ⟨w, hw, _⟩ := freeIdx_eq_some hfree
  obtain ⟨v, hv, _⟩ := h.lists.entry ha
  exact h.ownFile_ne hv hw (h.assign_getElem? hfree ha).1

/-- A change that gives interface `i` to one band is a matter of that band. -/
theorem of_band (h : Synced t files bands) {t' : Table} {files' : String → List Section}
    {b₀ a : Nat} {rest : List Nat} (lists : t'.Lists (Function.update bands b₀ (a :: rest)))
    (shape : t'.shape = t.shape) (others : ∀ j, j ≠ i → t'.interfaces[j]? = t.interfaces[j]?)
    (free : ∀ b k : Nat, (bands b)[k]? ≠ some i)
    (own : t'.confFile i = "" ∨ t'.confFile i = t.ownFile i)
    (plain : ∀ w, t'.interfaces[a]? = some w → (w.mbssidEnable && !w.transmitter) = false)
    (led : t'.confFile a = t.ownFile a) (erased : ∀ j ∈ rest, t'.confFile j = "")
    (file : files' (t.ownFile a) = rendered t (a :: rest))
    (same : ∀ b a' : Nat, b ≠ b₀ → (bands b)[0]? = some a' →
      files' (t.ownFile a') = files (t.ownFile a')) :
    Synced t' files' (Function.update bands b₀ (a :: rest)) := by
  have hself : Function.update bands b₀ (a :: rest) b₀ = a :: rest := Function.update_self _ _ _
  have hother : ∀ {b : Nat}, b ≠ b₀ → Function.update bands b₀ (a :: rest) b = bands b :=
    fun hb => Function.update_of_ne hb _ _
  have hne : ∀ {b k j : Nat}, (bands b)[k]? = some j → j ≠ i := by
    intro b k j hj heq
    subst heq
    exact free b k hj
  have hconf : ∀ j, j ≠ i → t'.confFile j = t.confFile j := by
    intro j hj
    unfold Table.confFile
    rw [others j hj]
  constructor
  · exact lists
  · exact h.named.of_shape shape
  · intro j
    rw [Table.ownFile_of_shape shape]
    by_cases hij : j = i
    · subst hij
      exact own
    · rw [hconf j hij]
      exact h.conf j
  · intro b a' ha' w hw
    by_cases hb : b = b₀
    · subst hb
      rw [hself] at ha'
      have haa : a = a' := by simpa using ha'
      subst haa
      exact plain w hw
    · rw [hother hb] at ha'
      rw [others a' (hne ha')] at hw
      exact h.plain b a' ha' w hw
  · intro b a' rest' hband
    rw [Table.ownFile_of_shape shape]
    by_cases hb : b = b₀
    · subst hb
      rw [hself, List.cons.injEq] at hband
      rw [← hband.1]
      exact led
    · rw [hother hb] at hband
      rw [hconf a' (hne (head_eq hband))]
      exact h.led b a' rest' hband
  · intro b a' rest' hband j hj
    by_cases hb : b = b₀
    · subst hb
      rw [hself, List.cons.injEq] at hband
      rw [← hband.2] at hj
      exact erased j hj
    · rw [hother hb] at hband
      obtain ⟨k, hk⟩ := mem_rest hband hj
      rw [hconf j (hne hk)]
      exact h.erased b a' rest' hband j hj
  · intro b a' rest' hband
    rw [Table.ownFile_of_shape shape, rendered_of_shape shape]
    by_cases hb : b = b₀
    · subst hb
      rw [hself, List.cons.injEq] at hband
      rw [← hband.1, ← hband.2]
      exact file
    · rw [hother hb] at hband
      rw [same b a' hb (head_eq hband)]
      exact h.file b a' rest' hband

/-- **A band is opened.** The first interface of a band that is not a
nontransmitted BSS gets a file with its section. -/
theorem openBand (h : Synced t files bands) (hused : bss.identifier ≠ unusedIdentifier)
    (hfree : t.freeIdx bss.band = some i) (hempty : bands bss.band = [])
    (hplain : bss.nontransmitted = false) :
    Synced (assignWirelessInterfaceInfo t bss).1
      (Function.update files (t.ownFile i) [⟨.interface, t.ifname i⟩])
      (Function.update bands bss.band (bands bss.band ++ [i])) := by
  obtain ⟨v, hv, _, hunused⟩ := freeIdx_eq_some hfree
  have hlists := h.lists.assign hused hfree
  have hown : (assignWirelessInterfaceInfo t bss).1.confFile i = t.ownFile i := by
    rw [Table.confFile_assign hfree, if_pos rfl]
    rfl
  rw [hempty, List.nil_append] at hlists ⊢
  apply h.of_band hlists (shape_assign t bss)
  · intro j hj
    rw [assign_of_freeIdx hfree]
    exact List.getElem?_modify_ne _ _ (Ne.symm hj)
  · exact h.lists.free_not_mem hv hunused
  · exact .inr hown
  · intro w hw
    have hnew : (assignWirelessInterfaceInfo t bss).1.interfaces[i]? =
        some (v.assign t.build bss (t.bandMbssidCnt bss.band)) := by
      rw [assign_of_freeIdx hfree]
      show (t.interfaces.modify i _)[i]? = _
      rw [List.getElem?_modify_eq, hv]
      rfl
    rw [hnew, Option.some.injEq] at hw
    subst hw
    exact hplain
  · exact hown
  · intro j hj
    exact absurd hj List.not_mem_nil
  · rw [Function.update_self]
    rfl
  · intro b a _ ha
    exact Function.update_of_ne (h.assign_file_ne hfree ha) _ _

/-- **A band is joined.** The section of a further interface follows those in
the leader's file, and the interface has no file of its own. -/
theorem joinBand (h : Synced t files bands) (hused : bss.identifier ≠ unusedIdentifier)
    (hfree : t.freeIdx bss.band = some i) {a : Nat} (hlead : (bands bss.band)[0]? = some a) :
    Synced ((assignWirelessInterfaceInfo t bss).1.eraseConfFile i)
      (Function.update files (t.ownFile a) (files (t.ownFile a) ++ [⟨.bss, t.ifname i⟩]))
      (Function.update bands bss.band (bands bss.band ++ [i])) := by
  obtain ⟨v, hv, _, hunused⟩ := freeIdx_eq_some hfree
  obtain ⟨rest, hrest⟩ := exists_rest hlead
  have hlists := (h.lists.assign hused hfree).eraseConfFile i
  have hconf : ∀ j, ((assignWirelessInterfaceInfo t bss).1.eraseConfFile i).confFile j =
      if j = i then "" else t.confFile j := by
    intro j
    rw [Table.confFile_eraseConfFile, Table.confFile_assign hfree]
    split <;> rfl
  have hothers : ∀ j, j ≠ i →
      ((assignWirelessInterfaceInfo t bss).1.eraseConfFile i).interfaces[j]? =
        t.interfaces[j]? := by
    intro j hj
    rw [assign_of_freeIdx hfree]
    exact (List.getElem?_modify_ne _ _ (Ne.symm hj)).trans
      (List.getElem?_modify_ne _ _ (Ne.symm hj))
  have hne : a ≠ i := (h.assign_getElem? hfree hlead).1
  rw [hrest, List.cons_append] at hlists ⊢
  apply h.of_band hlists ((shape_eraseConfFile _ i).trans (shape_assign t bss)) hothers
  · exact h.lists.free_not_mem hv hunused
  · left
    rw [hconf, if_pos rfl]
  · intro w hw
    rw [hothers a hne] at hw
    exact h.plain bss.band a hlead w hw
  · rw [hconf, if_neg hne]
    exact h.led_head hlead
  · intro j hj
    rw [hconf]
    split
    · rfl
    · rename_i hij
      obtain hj | hj := List.mem_append.mp hj
      · exact h.erased bss.band a rest hrest j hj
      · exact absurd (List.mem_singleton.mp hj) hij
  · rw [Function.update_self, h.file bss.band a rest hrest]
    simp [rendered]
  · intro b a' hb ha'
    exact Function.update_of_ne (h.leader_file_ne hlead ha' hb) _ _

end Assign

end Synced

end AfcDut.ControlApp
