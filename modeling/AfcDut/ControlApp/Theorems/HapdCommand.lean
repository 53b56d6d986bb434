import AfcDut.ControlApp.HapdCommand
import AfcDut.ControlApp.Theorems.ConfigFiles

/-!
# When the hostapd command gets every file

The names of the files go into 128 bytes without a check. In every state a run
of requests reaches they fit exactly if the interfaces that are listed take at
most 127 characters.
-/

namespace AfcDut.ControlApp.Theorems.HapdCommand

open Indigo Lts ConfigFiles

/-- In every state some run of requests reaches after start-up a file name is
erased or the interface's own. -/
theorem ownNames_final (build : Build) (names : List (Nat × String))
    (files : String → List Section) (requests : List Request) :
    (final serve (App.startUp build names files) requests).table.OwnNames := by
  refine Reachable.invariant (I := fun app : App => app.table.OwnNames) ⟨requests, rfl⟩
    (.startUp build names files) ?_
  intro m hm h
  have hstep := Option.some.inj hm
  rw [show m.after = m.before.step m.event from (congrArg Prod.fst hstep).symm]
  exact Table.OwnNames.kept.step (fun t h => h.clear) h m.event

theorem build_final (build : Build) (names : List (Nat × String))
    (files : String → List Section) (requests : List Request) :
    (final serve (App.startUp build names files) requests).table.build = build := by
  refine Reachable.invariant (I := fun app : App => app.table.build = build) ⟨requests, rfl⟩
    (startUp_build names (.empty build)) ?_
  intro m hm h
  have hstep := Option.some.inj hm
  rw [show m.after = m.before.step m.event from (congrArg Prod.fst hstep).symm]
  exact (Table.build_kept build).step (fun _ h => h) h m.event

/-- The string is built inside its buffer and names every listed file; without
one the command gets the file `hapdConfFile`. -/
def Complete (useOpenwrtWpad swapHapd : Bool) (hapdConfFile : String) (t : Table) : Prop :=
  ∃ swap, getAllHapdConfFiles useOpenwrtWpad swapHapd t hapdConfFile =
    .ok (if t.interfaces.any (·.listed useOpenwrtWpad) then
        hapdFileNames useOpenwrtWpad t.interfaces
      else hapdConfFile, swap)

section

variable {useOpenwrtWpad swapHapd : Bool} {hapdConfFile : String} {t : Table} {build : Build}

theorem complete_of_room (hown : t.OwnNames) (hbuild : t.build = build)
    (hroom : hapdFileChars build useOpenwrtWpad t.interfaces ≤ 127) :
    Complete useOpenwrtWpad swapHapd hapdConfFile t := by
  subst hbuild
  have hfits : "".length + hapdFileChars t.build useOpenwrtWpad t.interfaces < confFilesSize := by
    show 0 + _ < 128
    omega
  obtain ⟨s, hs, htext, hcount⟩ := foldlM_fits hown ⟨"", 0, swapHapd⟩ hfits
  rw [String.empty_append] at htext
  have hnone : s.validIdCnt = 0 ↔ t.interfaces.any (·.listed useOpenwrtWpad) = false := by
    rw [hcount, Nat.zero_add, List.countP_eq_zero, List.any_eq_false]
  refine ⟨s.swapHapd, ?_⟩
  unfold getAllHapdConfFiles collectHapdConfFiles
  rw [hs, Py.ok_bind, htext]
  cases hany : t.interfaces.any (·.listed useOpenwrtWpad) with
  | false => rw [if_pos (hnone.mpr hany)]; rfl
  | true => rw [if_neg (fun h => by simp [hnone.mp h] at hany)]; rfl

theorem not_complete_of_overrun (hown : t.OwnNames) (hbuild : t.build = build)
    (hover : 127 < hapdFileChars build useOpenwrtWpad t.interfaces) :
    ¬ Complete useOpenwrtWpad swapHapd hapdConfFile t := by
  subst hbuild
  have hsize : confFilesSize ≤ "".length + hapdFileChars t.build useOpenwrtWpad t.interfaces := by
    show 128 ≤ 0 + _
    omega
  have herror := foldlM_overruns hown ⟨"", 0, swapHapd⟩ (by show 0 < 128; omega) hsize
  intro h
  obtain ⟨swap, hs⟩ := h
  unfold getAllHapdConfFiles collectHapdConfFiles at hs
  rw [herror] at hs
  cases hs

end

/-- The four interfaces of a laptop. -/
def laptop : App :=
  App.startUp .laptop (setWirelessInterface .laptop (Build.defaultAppInterfacesParams .laptop))
    noFiles

/-- Two BSSs in each band: identifiers 1 and 2 at 2.4 GHz and at 5 GHz. -/
def fourWsc : List Request :=
  [.apConfigureWsc true (bssRequest [49, 54]), .apConfigureWsc true (bssRequest [51, 50]),
    .apConfigureWsc true (bssRequest [49, 55]), .apConfigureWsc true (bssRequest [51, 51])]

/-- Four names of 31 characters, each with its space, leave no room for the
NUL. -/
theorem four_files_overrun :
    ¬ Complete false false "/etc/hostapd/hostapd.conf" (final serve laptop fourWsc).table := by
  have hover : 127 < hapdFileChars .laptop false (final serve laptop fourWsc).table.interfaces := by
    decide +kernel
  exact not_complete_of_overrun (ownNames_final _ _ _ _) (build_final _ _ _ _) hover

/-- **Files of the command.** In every state of every run of either build, for
either hostapd, the string fits its buffer and names every file in table order
exactly if the listed interfaces take at most 127 characters: the path, 15 and
the interface's name for one that has its file name, one for one that has lost
it. -/
theorem conf_files_complete_iff (build : Build) (names : List (Nat × String))
    (files : String → List Section) (requests : List Request) (useOpenwrtWpad swapHapd : Bool)
    (hapdConfFile : String) :
    Complete useOpenwrtWpad swapHapd hapdConfFile
        (final serve (App.startUp build names files) requests).table ↔
      hapdFileChars build useOpenwrtWpad
        (final serve (App.startUp build names files) requests).table.interfaces ≤ 127 := by
  have hown := ownNames_final build names files requests
  have hbuild := build_final build names files requests
  constructor
  · intro hcomplete
    by_contra hover
    exact not_complete_of_overrun hown hbuild (Nat.lt_of_not_le hover) hcomplete
  · exact complete_of_room hown hbuild

end AfcDut.ControlApp.Theorems.HapdCommand
