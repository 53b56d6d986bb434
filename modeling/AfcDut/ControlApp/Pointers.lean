import AfcDut.ControlApp.Accounting
import AfcDut.ControlApp.ApHandlers

/-!
# The pointers by band

`band_transmitter` and `band_first_wlan` point to an interface of their band in
every state. The helpers of the handlers change the table, the files or the
pointers, and leave the rest alone.
-/

namespace AfcDut.ControlApp

open Indigo

/-! ## What the helpers change -/

section Frames

variable (app : App) (fn : String) (text : Section) (bss : BssIdentifierInfo) (b i : Nat)

@[simp] theorem writeFile_table : (app.writeFile fn text).table = app.table := by
  unfold App.writeFile
  split <;> rfl

@[simp] theorem writeFile_first : (app.writeFile fn text).bandFirstWlan = app.bandFirstWlan := by
  unfold App.writeFile
  split <;> rfl

@[simp] theorem writeFile_transmitter :
    (app.writeFile fn text).bandTransmitter = app.bandTransmitter := by
  unfold App.writeFile
  split <;> rfl

@[simp] theorem appendFile_table : (app.appendFile fn text).table = app.table := by
  unfold App.appendFile
  split <;> rfl

@[simp] theorem appendFile_first : (app.appendFile fn text).bandFirstWlan = app.bandFirstWlan := by
  unfold App.appendFile
  split <;> rfl

@[simp] theorem appendFile_transmitter :
    (app.appendFile fn text).bandTransmitter = app.bandTransmitter := by
  unfold App.appendFile
  split <;> rfl

@[simp] theorem setFirstWlan_table : (app.setFirstWlan b i).table = app.table := by
  unfold App.setFirstWlan
  split <;> rfl

@[simp] theorem setFirstWlan_files : (app.setFirstWlan b i).files = app.files := by
  unfold App.setFirstWlan
  split <;> rfl

@[simp] theorem setTransmitter_table (wlan : Option Nat) :
    (app.setTransmitter bss wlan).table = app.table := by
  unfold App.setTransmitter
  split <;> rfl

@[simp] theorem setTransmitter_files (wlan : Option Nat) :
    (app.setTransmitter bss wlan).files = app.files := by
  unfold App.setTransmitter
  split <;> rfl

@[simp] theorem setTransmitter_first (wlan : Option Nat) :
    (app.setTransmitter bss wlan).bandFirstWlan = app.bandFirstWlan := by
  unfold App.setTransmitter
  split <;> rfl

/-- A nontransmitted BSS is no transmitter. -/
theorem setTransmitter_of_nontransmitted (h : bss.nontransmitted = true) (wlan : Option Nat) :
    app.setTransmitter bss wlan = app := by
  unfold App.setTransmitter
  rw [if_neg]
  unfold BssIdentifierInfo.nontransmitted at h
  intro hset
  cases htx : bss.transmitter <;> simp [htx] at h hset

end Frames

/-! ## Pointers -/

/-- The entry is one of the band. -/
def Within (t : Table) (b f : Nat) : Prop := ∃ name, t.names[f]? = some (b, name)

theorem within_of_getElem? {t : Table} {f : Nat} {w : InterfaceInfo}
    (h : t.interfaces[f]? = some w) : Within t w.band f := by
  refine ⟨w.ifname, ?_⟩
  unfold Table.names
  rw [List.getElem?_map, h]
  rfl

theorem Within.of_shape {t t' : Table} {b f : Nat} (h : Within t b f) (hshape : t'.shape = t.shape) :
    Within t' b f := by
  unfold Within
  rw [names_of_shape hshape]
  exact h

theorem Within.entry {t : Table} {b f : Nat} (h : Within t b f) :
    ∃ w, t.interfaces[f]? = some w ∧ w.band = b := by
  obtain ⟨name, hname⟩ := h
  unfold Table.names at hname
  rw [List.getElem?_map, Option.map_eq_some_iff] at hname
  obtain ⟨w, hw, hpair⟩ := hname
  exact ⟨w, hw, congrArg Prod.fst hpair⟩

/-- The pointers of a band point into it. -/
structure Pointing (app : App) : Prop where
  first : ∀ b f, app.bandFirstWlan b = some f → Within app.table b f
  transmitter : ∀ b f, app.bandTransmitter b = some f → Within app.table b f

theorem pointer_update {t : Table} {ptr : Nat → Option Nat} {b i : Nat}
    (h : ∀ b f, ptr b = some f → Within t b f) (hi : Within t b i) :
    ∀ b' f, Function.update ptr b (some i) b' = some f → Within t b' f := by
  intro b' f hf
  by_cases hb : b' = b
  · subst hb
    rw [Function.update_self, Option.some.injEq] at hf
    rw [← hf]
    exact hi
  · rw [Function.update_of_ne hb] at hf
    exact h b' f hf

namespace Pointing

variable {app : App}

theorem of_shape (h : Pointing app) {app' : App} (hshape : app'.table.shape = app.table.shape)
    (hfirst : app'.bandFirstWlan = app.bandFirstWlan)
    (htransmitter : app'.bandTransmitter = app.bandTransmitter) : Pointing app' := by
  constructor
  · intro b f hf
    rw [hfirst] at hf
    exact (h.first b f hf).of_shape hshape
  · intro b f hf
    rw [htransmitter] at hf
    exact (h.transmitter b f hf).of_shape hshape

theorem setFirstWlan (h : Pointing app) {b i : Nat} (hi : Within app.table b i) :
    Pointing (app.setFirstWlan b i) := by
  unfold App.setFirstWlan
  split
  · exact h
  · exact ⟨pointer_update h.first hi, h.transmitter⟩

theorem setTransmitter (h : Pointing app) {bss : BssIdentifierInfo} {i : Nat}
    (hi : Within app.table bss.band i) : Pointing (app.setTransmitter bss (some i)) := by
  unfold App.setTransmitter
  split
  · exact ⟨h.first, pointer_update h.transmitter hi⟩
  · exact h

end Pointing

/-! ## Pointers after a request -/

/-- The state in which the section of interface `i` is placed. -/
def App.chosen (app : App) (table : Table) (bss : BssIdentifierInfo) (i : Nat) : App :=
  { app with table }.setTransmitter bss (some i)

/-- The file choice of one of the two handlers. -/
def placeOf (wsc : Bool) : App → BssIdentifierInfo → Section → Nat → App :=
  if wsc then App.placeWsc else App.placeAp

theorem Pointing.eraseConfFile {app : App} (h : Pointing app) (i : Nat) :
    Pointing (app.eraseConfFile i) :=
  h.of_shape (shape_eraseConfFile _ i) rfl rfl

theorem Pointing.writeFile {app : App} (h : Pointing app) (fn : String) (text : Section) :
    Pointing (app.writeFile fn text) :=
  h.of_shape (by simp) (by simp) (by simp)

theorem Pointing.appendFile {app : App} (h : Pointing app) (fn : String) (text : Section) :
    Pointing (app.appendFile fn text) :=
  h.of_shape (by simp) (by simp) (by simp)

theorem Pointing.appendToTransmitter {app : App} (h : Pointing app) (b : Nat) (text : Section)
    (i : Nat) : Pointing (app.appendToTransmitter b text i) := by
  unfold App.appendToTransmitter
  apply Pointing.eraseConfFile
  cases app.bandTransmitter b with
  | none => exact h
  | some t => exact h.appendFile _ text

theorem Pointing.placeOf {app : App} (h : Pointing app) {bss : BssIdentifierInfo} {i : Nat}
    (hi : Within app.table bss.band i) (wsc : Bool) (text : Section) :
    Pointing (placeOf wsc app bss text i) := by
  cases wsc with
  | true =>
      show Pointing (app.placeWsc bss text i)
      unfold App.placeWsc
      split
      · exact h.appendToTransmitter bss.band text i
      · exact h.writeFile _ text
  | false =>
      show Pointing ((app.chooseFile bss text i).setFirstWlan bss.band i)
      have hfile : Pointing (app.chooseFile bss text i) ∧
          (app.chooseFile bss text i).table.shape = app.table.shape := by
        unfold App.chooseFile App.appendToTransmitter
        split
        · refine ⟨h.appendToTransmitter bss.band text i, ?_⟩
          exact (shape_eraseConfFile _ i).trans (by split <;> simp)
        · split
          · exact ⟨(h.appendFile _ text).eraseConfFile i, (shape_eraseConfFile _ i).trans (by simp)⟩
          · exact ⟨h.writeFile _ text, by simp⟩
      exact hfile.1.setFirstWlan (hi.of_shape hfile.2)

theorem Pointing.chosen {app : App} (h : Pointing app) {table : Table}
    (hshape : table.shape = app.table.shape) {bss : BssIdentifierInfo} {i : Nat}
    (hi : Within table bss.band i) : Pointing (app.chosen table bss i) :=
  Pointing.setTransmitter (@Pointing.of_shape app h { app with table } hshape rfl rfl) hi

end AfcDut.ControlApp
