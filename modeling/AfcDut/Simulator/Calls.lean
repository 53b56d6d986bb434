import AfcDut.Simulator.Phases
import AfcDut.Simulator.Picks

/-!
# Calls and replies

What a client of the simulator sees of a run: the calls it makes, `/get-status`
among them, and the replies it gets. Below, what a run can leave in
`random_picks`, and when an inquiry is accepted.
-/

namespace AfcDut.Simulator

open Py Service Lts

/-- An HTTP reply. A control call is answered with a fixed text for its
status, which is left out. -/
structure Reply where
  status : Nat
  body : Option Json

/-- The reply a step sends, if it sends one. -/
def reply : Output → Option Reply
  | .silent => none
  | .serverError => some ⟨500, none⟩
  | .refused status body => some ⟨status, some body⟩
  | .notFound body => some ⟨200, some body⟩
  | .answered _ a => some ⟨200, some a.sent⟩
  | .control status => some ⟨status, none⟩

/-- A call; the turn of a waiting handler is an event too. -/
inductive Call where
  | event (e : Event)
  | getStatus

/-- Every call but `/reset`. -/
def Call.NoReset : Call → Prop
  | .event (.reset _) => False
  | _ => True

def call (files : TestFiles) (s : Sys) : Call → Sys × Option Reply
  | .getStatus => (s, some ⟨200, some (getStatus s.g)⟩)
  | .event e =>
      match step files s e with
      | none => (s, none)
      | some (t, o) => (t, reply o)

/-- What the calls of a run are answered, one entry for each. -/
def replies (files : TestFiles) : Sys → List Call → List (Option Reply)
  | _, [] => []
  | s, c :: cs => (call files s c).2 :: replies files (call files s c).1 cs

theorem getStatus_vectors {g g' : Globals} (h : getStatus g = getStatus g') :
    g.vectors = g'.vectors ∧ g.validRequest = g'.validRequest := by
  simp only [getStatus, Json.obj.injEq, List.cons.injEq, Prod.mk.injEq, true_and, and_true,
    Json.bool.injEq] at h
  exact ⟨h.1, h.2.2.2.2⟩

/-! ## Accepted inquiries -/

/-- What passes is accepted. -/
theorem accepted_of_passes {g : Globals} {r : HttpRequest} {d : Draws} (h : Passes g r d) :
    ∃ inq, (validate g r d).2 = .accepted inq := by
  unfold Passes at h
  cases hverdict : (validate g r d).2 with
  | accepted inq => exact ⟨inq, rfl⟩
  | refused status body => rw [hverdict] at h; exact absurd h Bool.false_ne_true
  | crashed => rw [hverdict] at h; exact absurd h Bool.false_ne_true

/-- The first accepted inquiry of a random test draws the channels of its
picks and builds the vector from them. -/
theorem passes_builds {g : Globals} {r : HttpRequest} {d : Draws} (hunbuilt : Unbuilt g)
    (h : Passes g r d) :
    ∃ p chans, countryParam g.countryCode = .ok p ∧
      randomChanBw20 { received g r with
        randomPicks := pickCfis g.differenceLastPicks g.randomPicks (covered g r) d } p = .ok chans ∧
      (validate g r d).1.vectors.field "responses" = .ok (randomDocument (randomResponse
        g.scriptTestVector p
        (randomMask (drawPsd p g.channelWidth g.differenceLastPicks d) chans))) := by
  obtain ⟨inq, hverdict⟩ := accepted_of_passes h
  obtain ⟨-, p, chans, hp, hchans, hvectors⟩ := validate_built hunbuilt hverdict
  have hpower : (received g r).onlyRandomPower.truthy = false := hunbuilt.power
  rw [nextPicks, if_neg (by rw [hpower]; exact Bool.false_ne_true)] at hchans
  exact ⟨p, chans, hp, hchans, hvectors⟩

/-- An accepted inquiry is certified under the rulesets of the country. -/
theorem passes_rulesets {g : Globals} {r : HttpRequest} {d : Draws} {body req : Json}
    {ids : ReplyIds} (hjson : r.json = some body) (hids : identify body = (ids, .ok req))
    (h : Passes g r d) :
    ∃ certIds rulesetIds, certificationIds req = .ok certIds ∧
      checkRulesets g.countryCode certIds = .ok rulesetIds := by
  obtain ⟨inq, hverdict⟩ := accepted_of_passes h
  obtain ⟨body', req', ids', i, g', -, hjson', hids', hread, -⟩ :=
    validate_accepted (Prod.ext rfl hverdict)
  rw [hjson, Option.some.injEq] at hjson'
  subst hjson'
  rw [hids, Prod.mk.injEq, Except.ok.injEq] at hids'
  obtain ⟨-, rfl⟩ := hids'
  simp only [readInquiry, bind_eq_ok] at hread
  obtain ⟨rulesetIds, hdevice, -⟩ := hread
  obtain ⟨certIds, hcert, hrulesets⟩ := checkDevice_rulesets hdevice
  exact ⟨certIds, rulesetIds, hcert, hrulesets⟩

/-- The ruleset of the United States passes under no other country. -/
theorem checkRulesets_certUS {countryCode : Json} {rulesetIds : List String}
    (h : checkRulesets countryCode [certUS] = .ok rulesetIds) : countryCode = .str "US" := by
  unfold checkRulesets at h
  simp only [bind_eq_ok, raising_eq_ok] at h
  obtain ⟨rulesetId, hrule, id, -, h⟩ := h
  rw [show certUS.field "rulesetId" = .ok (.str "US_47_CFR_PART_15_SUBPART_E") from rfl,
    Except.ok.injEq] at hrule
  subst hrule
  dsimp only at h
  split at h
  · rename_i hkey
    rw [show optKey (rulesetIdToCountrycode "US_47_CFR_PART_15_SUBPART_E") = .str "US" from by
      decide +kernel] at hkey
    cases countryCode with
    | str cc =>
        rw [Json.key?, Option.some.injEq, Key.str.injEq] at hkey
        rw [hkey]
    | _ => simp [Json.key?] at hkey
  · simp only [bind_eq_ok] at h
    obtain ⟨cert, -, h⟩ := h
    simp at h

/-! ## The inquiry file -/

theorem buildRandomVector_inquiryFile (g : Globals) (file : Json) (cfis : List Json) (d : Draws) :
    (buildRandomVector { g with inquiryFile := file } cfis d).2 = (buildRandomVector g cfis d).2 := by
  unfold buildRandomVector
  cases countryParam g.countryCode with
  | error e => rfl
  | ok p =>
      -- with or without new picks, the drawn channels do not depend on the file
      by_cases hpower : g.onlyRandomPower.truthy = true
      · simp only [hpower, if_true]
        rw [show randomChanBw20 { g with inquiryFile := file } p = randomChanBw20 g p from rfl]
        cases randomChanBw20 g p with
        | error e => rfl
        | ok chans =>
            dsimp only
            cases g.vectors.setField "responses" _ <;> rfl
      · simp only [hpower, Bool.false_eq_true, if_false]
        generalize pickCfis g.differenceLastPicks g.randomPicks cfis d = picks
        rw [show randomChanBw20 { g with inquiryFile := file, randomPicks := picks } p =
          randomChanBw20 { g with randomPicks := picks } p from rfl]
        cases randomChanBw20 { g with randomPicks := picks } p with
        | error e => rfl
        | ok chans =>
            dsimp only
            cases g.vectors.setField "responses" _ <;> rfl

theorem buildOnce_inquiryFile (g : Globals) (file : Json) (cfis : List Json) (d : Draws) :
    (buildOnce { g with inquiryFile := file } cfis d).2 = (buildOnce g cfis d).2 := by
  unfold buildOnce
  dsimp only
  split
  · split
    · rfl
    · rfl
    · exact buildRandomVector_inquiryFile g file cfis d
  · rfl

theorem refuse_inquiryFile (g : Globals) (file : Json) (ids : ReplyIds) (a : Abort) :
    (refuse { g with inquiryFile := file } ids a).2 = (refuse g ids a).2 := by
  cases a <;> rfl

theorem validateRequest_inquiryFile (g : Globals) (file : Json) (ids : ReplyIds) (req : Json)
    (d : Draws) : (validateRequest { g with inquiryFile := file } ids req d).2 =
      (validateRequest g ids req d).2 := by
  unfold validateRequest
  rw [show readInquiry { g with inquiryFile := file } ids.version req =
    readInquiry g ids.version req from rfl]
  cases readInquiry g ids.version req with
  | error a => exact refuse_inquiryFile g file ids a.handled
  | ok i =>
      dsimp only
      rw [show checkTestVector { g with inquiryFile := file } i = checkTestVector g i from rfl]
      cases checkTestVector g i with
      | error a => exact refuse_inquiryFile g file ids a
      | ok u =>
          have hbuild := buildOnce_inquiryFile g file i.reqCfiBwX d
          generalize buildOnce { g with inquiryFile := file } i.reqCfiBwX d = left at hbuild ⊢
          generalize buildOnce g i.reqCfiBwX d = right at hbuild ⊢
          obtain ⟨g₁, res₁⟩ := left
          obtain ⟨g₂, res₂⟩ := right
          change res₁ = res₂ at hbuild
          subst hbuild
          cases res₁ <;> rfl

/-- The verdict does not depend on the inquiry file. -/
theorem validate_inquiryFile (g : Globals) (file : Json) (r : HttpRequest) (d : Draws) :
    (validate { g with inquiryFile := file } r d).2 = (validate g r d).2 := by
  unfold validate
  dsimp only
  split
  · cases r.json with
    | none => rfl
    | some body =>
        dsimp only
        split
        · exact refuse_inquiryFile
            { g with recvHeaders := .obj r.headers, recvBody := body } file _ _
        · exact validateRequest_inquiryFile
            { g with recvHeaders := .obj r.headers, recvBody := body } file _ _ d
  · rfl

/-! ## What a run leaves in the picks -/

/-- `/reset` clears all but the picks and the country. -/
theorem reset_eq {g : Globals} {json : Option Json} (h : (reset g json).2 = 200) :
    ∃ file, ∀ g', (reset g' json).1 = { Globals.init with
      inquiryFile := file, randomPicks := g'.randomPicks, countryCode := g'.countryCode } := by
  unfold reset at h ⊢
  dsimp only at h ⊢
  split at h
  · split at h
    · exact ⟨_, fun _ => rfl⟩
    · exact ⟨_, fun _ => rfl⟩
  · exact absurd h (by simp)

theorem reset_picks (g : Globals) (json : Option Json) :
    (reset g json).1.randomPicks = g.randomPicks := by
  unfold reset
  dsimp only
  split
  · split <;> rfl
  · rfl

/-- A key of a CFI that some country has at one of the inquired widths. -/
def CountryCfi (k : Option Key) : Prop :=
  ∃ countryCode p channelWidth, countryParam countryCode = .ok p ∧
    ∃ cfi ∈ p.cfis (inquiredBandwidth channelWidth), k = some (.num cfi)

def PicksFromCountries (g : Globals) : Prop := ∀ k ∈ g.randomPicks.map Json.key?, CountryCfi k

/-- The picks stay, or are taken from the given CFIs. -/
theorem buildOnce_picks (g : Globals) (cfis : List Json) (d : Draws) :
    (buildOnce g cfis d).1.randomPicks = g.randomPicks ∨
      (∃ p, countryParam g.countryCode = .ok p) ∧
        ∀ k ∈ (buildOnce g cfis d).1.randomPicks.map Json.key?, k ∈ cfis.map Json.key? := by
  unfold buildOnce
  split
  · split
    · exact .inl rfl
    · exact .inl rfl
    · unfold buildRandomVector
      cases hp : countryParam g.countryCode with
      | error e => exact .inl rfl
      | ok p =>
          dsimp only
          by_cases hpower : g.onlyRandomPower.truthy = true
          · rw [if_pos hpower]
            -- only the power is drawn: the picks are not touched
            refine .inl ?_
            split
            · rfl
            · split <;> rfl
          · rw [if_neg hpower]
            refine .inr ⟨⟨p, rfl⟩, ?_⟩
            have hsub : ∀ k ∈ (pickCfis g.differenceLastPicks g.randomPicks cfis d).map Json.key?,
                k ∈ cfis.map Json.key? := by
              intro k hk
              exact mem_cfiSet.mp (cfiSet_pickCfis_subset (mem_cfiSet.mpr hk))
            split
            · exact hsub
            · split <;> exact hsub
  · exact .inl rfl

/-- What an inquiry leaves in the picks comes from a country's table. -/
theorem validate_picks {g : Globals} (r : HttpRequest) (d : Draws) (h : PicksFromCountries g) :
    PicksFromCountries (validate g r d).1 := by
  have hbuilt : ∀ {version req : Json} {i : Inquired},
      readInquiry (received g r) version req = .ok i →
      PicksFromCountries (buildOnce (received g r) i.reqCfiBwX d).1 := by
    intro version req i hread k hk
    rcases buildOnce_picks (received g r) i.reqCfiBwX d with hsame | ⟨⟨p, hp⟩, hsub⟩
    · rw [hsame] at hk
      exact h k hk
    · obtain ⟨cfi, hcfi, hkey⟩ := reqCfiBwX_country hp hread k (hsub k hk)
      exact ⟨g.countryCode, p, g.channelWidth, hp, cfi, hcfi, hkey⟩
  have hcases := validate_cases g r d
  generalize validate g r d = v at hcases ⊢
  cases hcases with
  | refused ids a =>
      obtain ⟨sent, hrefuse⟩ := refuse_frame (received g r) ids a
      rw [hrefuse]
      exact h
  | unsupported status body _ => exact h
  | crashed i _ _ hread _ => exact hbuilt hread
  | accepted _ _ _ hread _ _ => exact hbuilt hread

theorem picksFromCountries_step {files : TestFiles} {m : Move Sys Event Output}
    (hm : m.Of (step files)) (h : PicksFromCountries m.before.g) :
    PicksFromCountries m.after.g := by
  obtain ⟨s, e, o, t⟩ := m
  change PicksFromCountries s.g at h
  show PicksFromCountries t.g
  by_cases hphase : InPhase e
  · rcases inPhase_step hm hphase with ⟨r, d, now, rfl, harrive⟩ | ⟨sent, hold, hg⟩
    · obtain ⟨vectors, sent, hframe⟩ := arrive_frame files s r d now
      rw [harrive] at hframe
      change t.g = _ at hframe
      rw [hframe]
      exact validate_picks r d h
    · rw [hg]
      exact h
  · -- neither of the two calls that end a phase touches the picks
    cases e with
    | setResponse tc =>
        have hpicks := configured_picks s tc
        simp only [Move.Of, step, Option.some.injEq, Prod.mk.injEq] at hm
        rw [← hm.1]
        intro k hk
        rw [show (setResponse s.g tc).1.randomPicks = s.g.randomPicks from hpicks] at hk
        exact h k hk
    | reset json =>
        simp only [Move.Of, step, Option.some.injEq, Prod.mk.injEq] at hm
        rw [← hm.1]
        intro k hk
        rw [reset_picks] at hk
        exact h k hk
    | inquiry r d now => exact absurd trivial hphase
    | wake i now => exact absurd trivial hphase
    | setParams hold => exact absurd trivial hphase

/-- Whatever picks a run leaves are CFIs of a country. -/
theorem reachable_picksFromCountries {files : TestFiles} {s : Sys}
    (h : Reachable (step files) Sys.init s) : PicksFromCountries s.g :=
  h.invariant (I := fun s => PicksFromCountries s.g) (fun _ hk => absurd hk List.not_mem_nil)
    fun _ hm => picksFromCountries_step hm

end AfcDut.Simulator
