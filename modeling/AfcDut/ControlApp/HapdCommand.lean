import AfcDut.ControlApp.TableChanges
import AfcDut.Data.ListModify
import AfcDut.ControlApp.ConfFiles
import AfcDut.Py.Raises

/-!
# The files of the hostapd command

`set_wireless_interface`, which fills the interface table from the command
line, and `get_all_hapd_conf_files`, which lists the files of the interfaces in
use for hostapd (`utils.c`, built with `HOSTAPD_SUPPORT_MBSSID_WAR`).
-/

namespace AfcDut.ControlApp

open Indigo

/-! ## The table -/

/-- `strtok`: the parts between delimiters that are not empty. -/
def strtok {α : Type} [DecidableEq α] (delimit : α) (text : List α) : List (List α) :=
  (text.splitOn delimit).filter fun part => !part.isEmpty

/-- The interface a part of the parameter names. -/
def wirelessInterfaceOf : List Char → Option (Nat × String)
  | '2' :: ':' :: name => some (band24ghz, String.ofList name)
  | '5' :: ':' :: name => some (band5ghz, String.ofList name)
  | '6' :: ':' :: name => some (band6ghz, String.ofList name)
  | _ => none

/-- The interfaces added before a part that names none. -/
def parseWirelessInterfaceInfo (info : List Char) : List (Nat × String) :=
  (((strtok ',' info).map wirelessInterfaceOf).takeWhile Option.isSome).filterMap id

/-- `set_wireless_interface`: what it adds to the empty table. Only the laptop
takes one name for both bands. -/
def setWirelessInterface (build : Build) (name : List Char) : List (Nat × String) :=
  if name.contains ':' || name.contains ',' then parseWirelessInterfaceInfo name
  else
    match build with
    | .laptop => [(band24ghz, String.ofList name), (band5ghz, String.ofList name)]
    | .openwrt => []

/-- `DEFAULT_APP_INTERFACES_PARAMS` -/
def Build.defaultAppInterfacesParams : Build → List Char
  | .laptop => "2:wlan0,2:wlan1,5:wlan0,5:wlan1".toList
  | .openwrt => "2:ath1,2:ath11,2:ath12,2:ath13,5:ath0,5:ath01,5:ath02,5:ath03".toList

example : setWirelessInterface .laptop (Build.defaultAppInterfacesParams .laptop) =
    [(band24ghz, "wlan0"), (band24ghz, "wlan1"), (band5ghz, "wlan0"), (band5ghz, "wlan1")] := by
  decide +kernel

/-! ## The files -/

/-- `sizeof(conf_files)` -/
def confFilesSize : Nat := 128

/-- `strcat`, and `strncat` of a whole text, into a buffer of `size` bytes. -/
def strcat (size : Nat) (dest src : String) : Except Fault String :=
  if dest.length + src.length < size then .ok (dest ++ src) else .error (.write size)

/-- `conf_files`, `valid_id_cnt` and `*swap_hapd`. -/
structure HapdFiles where
  confFiles : String
  validIdCnt : Nat
  swapHapd : Bool

/-- One turn of the loop. An interface that the running hostapd cannot serve is
skipped. -/
def addHapdConfFile (useOpenwrtWpad : Bool) (s : HapdFiles) (w : InterfaceInfo) :
    Except Fault HapdFiles :=
  if w.inUse then
    if useOpenwrtWpad && !w.mbssidEnable then
      .ok { s with swapHapd := true }
    else if !useOpenwrtWpad && w.mbssidEnable then
      .ok s
    else do
      let confFiles ← strcat confFilesSize s.confFiles w.hapdConfFile
      let confFiles ← strcat confFilesSize confFiles " "
      return { s with confFiles, validIdCnt := s.validIdCnt + 1 }
  else
    .ok s

def collectHapdConfFiles (useOpenwrtWpad swapHapd : Bool) (t : Table) : Except Fault HapdFiles :=
  t.interfaces.foldlM (addHapdConfFile useOpenwrtWpad) ⟨"", 0, swapHapd⟩

/-- `hapdConfFile` is the file of a hostapd that serves no BSS. -/
def getAllHapdConfFiles (useOpenwrtWpad swapHapd : Bool) (t : Table) (hapdConfFile : String) :
    Except Fault (String × Bool) := do
  let s ← collectHapdConfFiles useOpenwrtWpad swapHapd t
  return (if s.validIdCnt = 0 then hapdConfFile else s.confFiles, s.swapHapd)

/-! ## What the string should be -/

/-- An interface in use that is not skipped. -/
def InterfaceInfo.listed (useOpenwrtWpad : Bool) (w : InterfaceInfo) : Bool :=
  w.inUse && (w.mbssidEnable == useOpenwrtWpad)

/-- The names of the listed interfaces' files, each followed by a space. -/
def hapdFileNames (useOpenwrtWpad : Bool) (ws : List InterfaceInfo) : String :=
  String.join ((ws.filter (·.listed useOpenwrtWpad)).map fun w => w.hapdConfFile ++ " ")

/-- The characters an interface takes in the string: a name of the form
`%s/hostapd_%s.conf`, unless it has been erased, and a space. -/
def InterfaceInfo.fileChars (build : Build) (w : InterfaceInfo) : Nat :=
  if w.hapdConfFile = "" then 1
  else build.hapdConfFileDefaultPath.length + 15 + w.ifname.length

/-- The characters the listed interfaces take. -/
def hapdFileChars (build : Build) (useOpenwrtWpad : Bool) : List InterfaceInfo → Nat
  | [] => 0
  | w :: ws => (if w.listed useOpenwrtWpad then w.fileChars build else 0) +
      hapdFileChars build useOpenwrtWpad ws

/-! ## One interface -/

section

variable {useOpenwrtWpad : Bool} {s : HapdFiles} {w : InterfaceInfo} {ws : List InterfaceInfo}

theorem hapdFileNames_listed (h : w.listed useOpenwrtWpad = true) :
    hapdFileNames useOpenwrtWpad (w :: ws) =
      (w.hapdConfFile ++ " ") ++ hapdFileNames useOpenwrtWpad ws := by
  rw [hapdFileNames, List.filter_cons_of_pos h, List.map_cons, String.join_cons]
  rfl

theorem hapdFileNames_skipped (h : w.listed useOpenwrtWpad = false) :
    hapdFileNames useOpenwrtWpad (w :: ws) = hapdFileNames useOpenwrtWpad ws := by
  rw [hapdFileNames, List.filter_cons_of_neg (by rw [h]; exact Bool.false_ne_true)]
  rfl

theorem strcat_fits {size : Nat} {dest src : String} (h : dest.length + src.length < size) :
    strcat size dest src = .ok (dest ++ src) :=
  if_pos h

theorem strcat_overruns {size : Nat} {dest src : String} (h : size ≤ dest.length + src.length) :
    strcat size dest src = .error (.write size) :=
  if_neg (by omega)

/-- A skipped interface leaves the string. -/
theorem addHapdConfFile_skipped (h : w.listed useOpenwrtWpad = false) :
    ∃ s', addHapdConfFile useOpenwrtWpad s w = .ok s' ∧ s'.confFiles = s.confFiles ∧
      s'.validIdCnt = s.validIdCnt := by
  unfold InterfaceInfo.listed at h
  unfold addHapdConfFile
  cases huse : w.inUse with
  | false => exact ⟨s, rfl, rfl, rfl⟩
  | true =>
      rw [huse, Bool.true_and] at h
      cases useOpenwrtWpad <;> cases hmbssid : w.mbssidEnable <;> rw [hmbssid] at h
      · cases h
      · exact ⟨s, rfl, rfl, rfl⟩
      · exact ⟨_, rfl, rfl, rfl⟩
      · cases h

/-- The two `strcat` of a listed interface. -/
theorem addHapdConfFile_listed (h : w.listed useOpenwrtWpad = true) :
    addHapdConfFile useOpenwrtWpad s w = (do
      let confFiles ← strcat confFilesSize s.confFiles w.hapdConfFile
      let confFiles ← strcat confFilesSize confFiles " "
      return { s with confFiles, validIdCnt := s.validIdCnt + 1 }) := by
  obtain ⟨huse, hmbssid⟩ := Bool.and_eq_true_iff.mp h
  rw [beq_iff_eq] at hmbssid
  unfold addHapdConfFile
  rw [if_pos huse, hmbssid]
  cases useOpenwrtWpad <;> rfl

theorem addHapdConfFile_fits (h : w.listed useOpenwrtWpad = true)
    (hroom : s.confFiles.length + (w.hapdConfFile.length + 1) < confFilesSize) :
    ∃ s', addHapdConfFile useOpenwrtWpad s w = .ok s' ∧
      s'.confFiles = s.confFiles ++ (w.hapdConfFile ++ " ") ∧
      s'.validIdCnt = s.validIdCnt + 1 := by
  have hname : strcat confFilesSize s.confFiles w.hapdConfFile =
      .ok (s.confFiles ++ w.hapdConfFile) :=
    strcat_fits (by omega)
  have hspace : strcat confFilesSize (s.confFiles ++ w.hapdConfFile) " " =
      .ok (s.confFiles ++ w.hapdConfFile ++ " ") := by
    apply strcat_fits
    rw [String.length_append]
    show s.confFiles.length + w.hapdConfFile.length + 1 < confFilesSize
    omega
  refine ⟨{ s with
    confFiles := s.confFiles ++ w.hapdConfFile ++ " ", validIdCnt := s.validIdCnt + 1 }, ?_,
    String.append_assoc, rfl⟩
  rw [addHapdConfFile_listed h, hname, Py.ok_bind, hspace]
  rfl

theorem addHapdConfFile_overruns (h : w.listed useOpenwrtWpad = true)
    (hover : confFilesSize ≤ s.confFiles.length + (w.hapdConfFile.length + 1)) :
    addHapdConfFile useOpenwrtWpad s w = .error (.write confFilesSize) := by
  rw [addHapdConfFile_listed h]
  rcases Nat.lt_or_ge (s.confFiles.length + w.hapdConfFile.length) confFilesSize with hlt | hge
  · have hspace : strcat confFilesSize (s.confFiles ++ w.hapdConfFile) " " =
        .error (.write confFilesSize) := by
      apply strcat_overruns
      rw [String.length_append]
      show confFilesSize ≤ s.confFiles.length + w.hapdConfFile.length + 1
      omega
    rw [strcat_fits hlt, Py.ok_bind, hspace]
    rfl
  · rw [strcat_overruns hge]
    rfl

end

/-! ## The whole table -/

/-- A file name is erased, or made of the interface's own name. -/
def Table.OwnNames (t : Table) : Prop :=
  ∀ w ∈ t.interfaces,
    w.hapdConfFile = "" ∨ w.hapdConfFile = InterfaceInfo.confFileName t.build w.ifname

theorem length_confFileName (build : Build) (ifname : String) :
    (InterfaceInfo.confFileName build ifname).length =
      build.hapdConfFileDefaultPath.length + 14 + ifname.length := by
  have hstem : "/hostapd_".length = 9 := by decide +kernel
  have hsuffix : ".conf".length = 5 := by decide +kernel
  unfold InterfaceInfo.confFileName
  simp only [String.length_append, hstem, hsuffix]
  omega

theorem fileChars_eq {build : Build} {w : InterfaceInfo}
    (h : w.hapdConfFile = "" ∨ w.hapdConfFile = InterfaceInfo.confFileName build w.ifname) :
    w.fileChars build = w.hapdConfFile.length + 1 := by
  unfold InterfaceInfo.fileChars
  rcases h with herased | hown
  · rw [if_pos herased, herased]
    rfl
  · rw [if_neg (hown ▸ confFileName_ne_empty build w.ifname), hown, length_confFileName]
    omega

section

variable {build : Build} {useOpenwrtWpad : Bool} {ws : List InterfaceInfo}
  (hown : ∀ w ∈ ws,
    w.hapdConfFile = "" ∨ w.hapdConfFile = InterfaceInfo.confFileName build w.ifname)
include hown

/-- What the rest of the table adds to the string so far. -/
theorem foldlM_fits (s : HapdFiles)
    (hroom : s.confFiles.length + hapdFileChars build useOpenwrtWpad ws < confFilesSize) :
    ∃ s', ws.foldlM (addHapdConfFile useOpenwrtWpad) s = .ok s' ∧
      s'.confFiles = s.confFiles ++ hapdFileNames useOpenwrtWpad ws ∧
      s'.validIdCnt = s.validIdCnt + ws.countP (·.listed useOpenwrtWpad) := by
  induction ws generalizing s with
  | nil => exact ⟨s, rfl, String.append_empty.symm, rfl⟩
  | cons w ws ih =>
      have hrest := fun v hv => hown v (List.mem_cons_of_mem _ hv)
      rw [hapdFileChars] at hroom
      cases hlisted : w.listed useOpenwrtWpad with
      | false =>
          obtain ⟨s', hs', htext, hcount⟩ := addHapdConfFile_skipped (s := s) hlisted
          have hskip : (w :: ws).countP (·.listed useOpenwrtWpad) =
              ws.countP (·.listed useOpenwrtWpad) :=
            List.countP_cons_of_neg (by rw [hlisted]; exact Bool.false_ne_true)
          rw [List.foldlM_cons, hs', Py.ok_bind, hapdFileNames_skipped hlisted, hskip, ← htext,
            ← hcount]
          apply ih hrest
          rw [hlisted, if_neg Bool.false_ne_true] at hroom
          rw [htext]
          omega
      | true =>
          have hchars := fileChars_eq (hown w List.mem_cons_self)
          rw [hlisted, if_pos rfl, hchars] at hroom
          obtain ⟨s', hs', htext, hcount⟩ := addHapdConfFile_fits (s := s) hlisted (by omega)
          have hone : (w :: ws).countP (·.listed useOpenwrtWpad) =
              ws.countP (·.listed useOpenwrtWpad) + 1 := List.countP_cons_of_pos hlisted
          have htotal : s.validIdCnt + (ws.countP (·.listed useOpenwrtWpad) + 1) =
              s'.validIdCnt + ws.countP (·.listed useOpenwrtWpad) := by
            rw [hcount]
            omega
          rw [List.foldlM_cons, hs', Py.ok_bind, hapdFileNames_listed hlisted, hone, htotal,
            ← String.append_assoc, ← htext]
          apply ih hrest
          rw [htext, String.length_append, String.length_append]
          show s.confFiles.length + (w.hapdConfFile.length + 1) + _ < _
          omega

/-- The name that does not fit is written past the end. -/
theorem foldlM_overruns (s : HapdFiles) (hs : s.confFiles.length < confFilesSize)
    (hover : confFilesSize ≤ s.confFiles.length + hapdFileChars build useOpenwrtWpad ws) :
    ws.foldlM (addHapdConfFile useOpenwrtWpad) s = .error (.write confFilesSize) := by
  induction ws generalizing s with
  | nil =>
      rw [hapdFileChars] at hover
      omega
  | cons w ws ih =>
      have hrest := fun v hv => hown v (List.mem_cons_of_mem _ hv)
      rw [hapdFileChars] at hover
      cases hlisted : w.listed useOpenwrtWpad with
      | false =>
          obtain ⟨s', hs', htext, _⟩ := addHapdConfFile_skipped (s := s) hlisted
          rw [hlisted, if_neg Bool.false_ne_true, Nat.zero_add] at hover
          rw [List.foldlM_cons, hs', Py.ok_bind]
          exact ih hrest s' (htext ▸ hs) (htext ▸ hover)
      | true =>
          have hchars := fileChars_eq (hown w List.mem_cons_self)
          rw [hlisted, if_pos rfl, hchars] at hover
          rcases Nat.lt_or_ge (s.confFiles.length + (w.hapdConfFile.length + 1)) confFilesSize
            with hlt | hge
          · obtain ⟨s', hs', htext, _⟩ := addHapdConfFile_fits (s := s) hlisted hlt
            have hlen : s'.confFiles.length =
                s.confFiles.length + (w.hapdConfFile.length + 1) := by
              rw [htext, String.length_append, String.length_append]
              rfl
            rw [List.foldlM_cons, hs', Py.ok_bind]
            exact ih hrest s' (hlen ▸ hlt) (by omega)
          · rw [List.foldlM_cons, addHapdConfFile_overruns hlisted hge]
            rfl

end

/-! ## Runs -/

theorem Table.OwnNames.kept : Table.Kept Table.OwnNames fun _ _ => True where
  assign := by
    intro t bss i h _ _ hfree
    rw [assign_of_freeIdx hfree]
    exact Data.forall_mem_modify h (fun w _ => .inr rfl) i
  erase := fun i h => Data.forall_mem_modify h (fun w _ => .inl rfl) i

theorem Table.OwnNames.clear {t : Table} (h : t.OwnNames) :
    (clearInterfacesResource t).OwnNames := by
  intro v hv
  obtain ⟨w, hw, rfl⟩ := List.mem_map.mp hv
  exact h w hw

theorem Table.OwnNames.startUp (build : Build) (names : List (Nat × String))
    (files : String → List Section) : (App.startUp build names files).table.OwnNames :=
  startUp_all (fun _ _ => .inl rfl) names (.empty build) (by simp [Table.empty])

/-- No request changes what the application is built for. -/
theorem Table.build_kept (build : Build) :
    Table.Kept (fun t => t.build = build) fun _ _ => True where
  assign := by
    intro t bss i h _ _ _
    rw [← h]
    exact congrArg Prod.fst (shape_assign t bss)
  erase := fun _ h => h

end AfcDut.ControlApp
