import AfcDut.Conf.HapdStep
import AfcDut.Data.Gathered

/-!
# The whole loop

What `generate_hostapd_config` writes for a request, in terms of its TLVs: the
header, the lines of each TLV and the lines derived from the locals.
-/

namespace AfcDut.Conf

open Indigo ControlApp Data.Gathered

variable (env : HapdEnv)

/-- A TLV goes through. -/
def TlvOk (t : PlacedTlv) : Prop := CopiesFit t ∧ ProfileExists t

theorem hapdTlvs_ok_iff (s s' : HapdState) (ts : List PlacedTlv) :
    hapdTlvs env s ts = .ok s' ↔ (∀ t ∈ ts, TlvOk t) ∧ s' = ts.foldl (next env) s := by
  induction ts generalizing s with
  | nil => simp [hapdTlvs, eq_comm]
  | cons t ts ih =>
      rw [hapdTlvs, Py.bind_eq_ok, List.forall_mem_cons, List.foldl_cons]
      constructor
      · rintro ⟨mid, hstep, hrest⟩
        obtain ⟨hok, rfl⟩ := (hapdTlv_ok_iff env s mid t).mp hstep
        obtain ⟨hall, hs'⟩ := (ih _).mp hrest
        exact ⟨⟨hok, hall⟩, hs'⟩
      · rintro ⟨⟨hok, hall⟩, hs'⟩
        exact ⟨next env s t, (hapdTlv_ok_iff env s _ t).mpr ⟨hok, rfl⟩, (ih _).mpr ⟨hall, hs'⟩⟩

/-! ## The locals -/

def hasId (id : UInt16) (t : PlacedTlv) : Bool := decide (t.id = id)

/-- A TLV in whose string the code finds a token. -/
def sets (id : UInt16) (token : String) (t : PlacedTlv) : Bool :=
  decide (t.id = id ∧ t.contains token)

def isTransition (t : PlacedTlv) : Bool :=
  decide (t.id = tlvWpaKeyMgmt ∧ t.contains "SAE" ∧ t.contains "WPA-PSK")

def isWidth (t : PlacedTlv) : Bool := decide (t.id = tlvHeOperChwidth ∨ t.id = tlvVhtOperChwidth)

/-- The number in the last TLV of a kind. -/
def lastInt (kind : PlacedTlv → Bool) (old : Int) (ts : List PlacedTlv) : Int :=
  lastValue kind (fun t => atoi t.value) old ts

def writeHwMode (band : List UInt8) (t : PlacedTlv) : List UInt8 :=
  if t.id = tlvHwMode then writeBand band t.value else band

/-- The locals after the loop, in terms of the request. -/
def finalLocals (band : List UInt8) (ts : List PlacedTlv) : HapdLocals where
  hasSae := ts.any (sets tlvWpaKeyMgmt "SAE")
  hasWpa := ts.any (sets tlvWpa "2")
  hasPmf := ts.any (hasId tlvIeee80211W)
  hasOwe := ts.any (sets tlvWpaKeyMgmt "OWE")
  hasTransition := ts.any isTransition
  hasSaeGroups := ts.any (hasId tlvSaeGroups)
  channel := lastInt (hasId tlvChannel) 0 ts
  chwidth := lastInt isWidth 1 ts
  enableAx := ts.any (sets tlvIeee80211Ax "1")
  chwidthset := ts.any (hasId tlvHeOperChwidth)
  enableMuedca := ts.any (hasId tlvHeMuEdca)
  vhtChwidthset := ts.any (hasId tlvVhtOperChwidth)
  enableAc := ts.any (sets tlvIeee80211Ac "1")
  enableHs20 := ts.any (sets tlvHs20 "1")
  enableWps := ts.any (hasId tlvWpsEnable) && env.wpsSettings.isSome
  useMbss := ts.any (hasId tlvBssIdentifier)
  is6gOnly := ts.any (hasId tlvHe6gOnly)
  unsolPrRespInterval := lastInt (hasId tlvHeUnsolPrRespCadence) 0 ts
  band := ts.foldl writeHwMode band
  hs20IconsAttached := ts.any fun t => needsIcons t.id

theorem foldl_nextLocals (band : List UInt8) (ts : List PlacedTlv) :
    ts.foldl (nextLocals env) (.start band) = finalLocals env band ts := by
  ext : 1
  case hasSae => exact foldl_flag (fun _ _ => rfl) (HapdLocals.start band) ts
  case hasWpa => exact foldl_flag (fun _ _ => rfl) (HapdLocals.start band) ts
  case hasPmf => exact foldl_flag (fun _ _ => rfl) (HapdLocals.start band) ts
  case hasOwe => exact foldl_flag (fun _ _ => rfl) (HapdLocals.start band) ts
  case hasTransition => exact foldl_flag (fun _ _ => rfl) (HapdLocals.start band) ts
  case hasSaeGroups => exact foldl_flag (fun _ _ => rfl) (HapdLocals.start band) ts
  case channel =>
    exact foldl_value (fun _ _ => by simp [nextLocals, hasId]) (HapdLocals.start band) ts
  case chwidth =>
    exact foldl_value (fun _ _ => by simp [nextLocals, isWidth]) (HapdLocals.start band) ts
  case enableAx => exact foldl_flag (fun _ _ => rfl) (HapdLocals.start band) ts
  case chwidthset => exact foldl_flag (fun _ _ => rfl) (HapdLocals.start band) ts
  case enableMuedca => exact foldl_flag (fun _ _ => rfl) (HapdLocals.start band) ts
  case vhtChwidthset => exact foldl_flag (fun _ _ => rfl) (HapdLocals.start band) ts
  case enableAc => exact foldl_flag (fun _ _ => rfl) (HapdLocals.start band) ts
  case enableHs20 => exact foldl_flag (fun _ _ => rfl) (HapdLocals.start band) ts
  case enableWps =>
    have hany : (ts.foldl (nextLocals env) (.start band)).enableWps =
        ts.any fun t => decide (t.id = tlvWpsEnable ∧ env.wpsSettings.isSome) :=
      foldl_flag (fun _ _ => rfl) (HapdLocals.start band) ts
    rw [hany]
    unfold finalLocals hasId
    cases env.wpsSettings <;> simp
  case useMbss => exact foldl_flag (fun _ _ => rfl) (HapdLocals.start band) ts
  case is6gOnly => exact foldl_flag (fun _ _ => rfl) (HapdLocals.start band) ts
  case unsolPrRespInterval =>
    exact foldl_value (fun _ _ => by simp [nextLocals, hasId]) (HapdLocals.start band) ts
  case band =>
    exact @foldl_component _ _ (nextLocals env) _ HapdLocals.band writeHwMode (fun _ _ => rfl)
      (.start band) ts
  case hs20IconsAttached => exact foldl_flag (fun _ _ => rfl) (HapdLocals.start band) ts

/-! ## The text -/

/-- The lines of the TLVs. -/
def loopText : Bool → Bool → Table → List PlacedTlv → List UInt8
  | _, _, _, [] => []
  | hasOwe, hasIcons, table, t :: ts =>
      written env hasOwe hasIcons table t ++
        loopText (hasOwe || sets tlvWpaKeyMgmt "OWE" t) (hasIcons || needsIcons t.id) (nextTable table t) ts

theorem foldl_next_output (s : HapdState) (ts : List PlacedTlv) :
    (ts.foldl (next env) s).output =
      s.output ++ loopText env s.hasOwe s.hs20IconsAttached s.table ts := by
  induction ts generalizing s with
  | nil => rw [List.foldl_nil, loopText, List.append_nil]
  | cons t ts ih =>
      rw [List.foldl_cons, ih, loopText, ← List.append_assoc]
      rfl

/-- The table after the loop. -/
def finalTable (table : Table) (ts : List PlacedTlv) : Table := ts.foldl nextTable table

/-- The text of a request whose TLVs go through. -/
def hapdText (band : List UInt8) (table : Table) (ts : List PlacedTlv) : List UInt8 :=
  hapdHeader env ++ loopText env false false table ts ++ derivedLines env (finalLocals env band ts)

/-- **The function.** It ends exactly if every TLV goes through. -/
theorem generateHostapdConfig_ok_iff (band : List UInt8) (table : Table) (ts : List PlacedTlv)
    (text : List UInt8) (table' : Table) :
    generateHostapdConfig env band table ts = .ok (text, table') ↔
      (∀ t ∈ ts, TlvOk t) ∧ text = hapdText env band table ts ∧ table' = finalTable table ts := by
  have hlocals : ∀ s : HapdState, (ts.foldl (next env) s).toHapdLocals =
      ts.foldl (nextLocals env) s.toHapdLocals :=
    fun s => foldl_component (fun _ _ => rfl) s ts
  have htable : ∀ s : HapdState, (ts.foldl (next env) s).table = ts.foldl nextTable s.table :=
    fun s => foldl_component (fun _ _ => rfl) s ts
  have hend : ∀ s : HapdState, s = ⟨.start band, table, hapdHeader env⟩ →
      ((ts.foldl (next env) s).output ++
          derivedLines env (ts.foldl (next env) s).toHapdLocals = hapdText env band table ts) ∧
        (ts.foldl (next env) s).table = finalTable table ts := by
    rintro s rfl
    rw [foldl_next_output, hlocals, htable, foldl_nextLocals]
    exact ⟨rfl, rfl⟩
  obtain ⟨hout, htab⟩ := hend _ rfl
  rw [generateHostapdConfig, Py.bind_eq_ok]
  constructor
  · rintro ⟨s, hrun, hresult⟩
    obtain ⟨hall, rfl⟩ := (hapdTlvs_ok_iff env _ s ts).mp hrun
    obtain ⟨rfl, rfl⟩ := Prod.mk.inj (Except.ok.inj hresult)
    exact ⟨hall, hout, htab⟩
  · rintro ⟨hall, rfl, rfl⟩
    refine ⟨_, (hapdTlvs_ok_iff env _ _ ts).mpr ⟨hall, rfl⟩, ?_⟩
    rw [← hout, ← htab]
    rfl

end AfcDut.Conf
