import AfcDut.Simulator.Reading
import AfcDut.FcAp.Routes

/-!
# Exactness of the response filter

A success response offers what the vector offers and the inquiry asked for.
The channels are looked up in a dictionary by operating class, which holds
the last entry of each class: the filter is exact unless an earlier entry of
a repeated class asks for a channel that the last one does not.
-/

namespace AfcDut.Service.Theorems.ResponseFilter

open Py

/-- The response holds exactly the inquired part of the vector. -/
structure Exact (vectors req sent : Json) : Prop where
  channels : ∀ operClass cfi eirp, Offers (SentMember sent) operClass cfi eirp ↔
    Offers (VectorMember vectors) operClass cfi eirp ∧ InquiredChannel req operClass cfi
  order : ∀ item', SentMember sent "availableChannelInfo" item' →
    ∃ item, VectorMember vectors "availableChannelInfo" item ∧ classKey item' = classKey item ∧
      ∀ pairs', itemPairs item' = .ok pairs' →
        ∃ pairs, itemPairs item = .ok pairs ∧ pairs'.Sublist pairs
  ranges : ∀ item, SentMember sent "availableFrequencyInfo" item ↔
    VectorMember vectors "availableFrequencyInfo" item ∧
      ∃ ranges, inquiredRanges req = .ok ranges ∧ WithinRange item ranges

/-- What the vector offers and some entry asks for, the last entry of its
class asks for. -/
def LastEntriesDecide (vectors req : Json) : Prop :=
  ∀ operClass cfi eirp, Offers (VectorMember vectors) operClass cfi eirp →
    InquiredChannel req operClass cfi → LastInquiredChannel req operClass cfi

/-! ## The services' answers -/

/-- The simulator, having accepted the request, answers it from `vectors`
with the success response `sent`, and is left with `vectors'`. -/
def SimulatorAnswers (vectors req sent vectors' : Json) : Prop :=
  ∃ g d r body ids inq g' now, r.json = some body ∧ identify body = (ids, .ok req) ∧
    (Simulator.validate g r d).2 = .accepted inq ∧ g'.vectors = vectors ∧
    (Simulator.respond g' inq now).2 = .success sent ∧
    (Simulator.respond g' inq now).1.vectors = vectors'

/-- The same for the service of the fixed-client access points. -/
def FcApAnswers (vectors req sent vectors' : Json) : Prop :=
  ∃ g r body ids inq g' now, r.json = some body ∧ identify body = (ids, .ok req) ∧
    (FcAp.validate g r).2 = .accepted inq ∧ g'.vectors = vectors ∧
    (FcAp.respond g' inq now).2 = .success sent ∧
    (FcAp.respond g' inq now).1.vectors = vectors'

theorem fcAp_channels {req : Json} {channels : FcAp.InquiredChannels}
    (h : FcAp.readInquiredChannels req = .ok channels) :
    ∃ entries, inquiredEntries req = .ok entries ∧
      ∀ k, channels.operClassDict.lookup k = entries.reverse.lookup k := by
  simp only [FcAp.readInquiredChannels, bind_eq_ok] at h
  obtain ⟨items, hitems, h⟩ := h
  simp only [inquiredEntries, listedItems, hitems, ok_bind, pure_eq_ok]
  cases items with
  | none =>
      simp only [pure_eq_ok, Except.ok.injEq] at h
      subst h
      exact ⟨[], rfl, fun k => rfl⟩
  | some items =>
      simp only [bind_eq_ok, pure_eq_ok, Except.ok.injEq] at h
      obtain ⟨dict, hdict, rfl⟩ := h
      exact operClassDict_lookup hdict

theorem fcAp_ranges {req : Json} {ranges : FcAp.InquiredRanges}
    (h : FcAp.readInquiredRanges req = .ok ranges) :
    inquiredRanges req = .ok ranges.freqRangeList := by
  simp only [FcAp.readInquiredRanges, bind_eq_ok] at h
  obtain ⟨items, hitems, h⟩ := h
  simp only [inquiredRanges, listedItems, hitems, ok_bind]
  cases items with
  | none =>
      simp only [pure_eq_ok, Except.ok.injEq] at h
      subst h
      rfl
  | some items =>
      simp only [bind_eq_ok, pure_eq_ok, Except.ok.injEq] at h
      obtain ⟨list, hlist, rfl⟩ := h
      exact hlist

/-- An accepted inquiry of this service keeps its request, too. -/
theorem fcAp_reads {g : FcAp.Globals} {r : HttpRequest} {body req : Json} {ids : ReplyIds}
    {inq : Inquiry} (hjson : r.json = some body) (hids : identify body = (ids, .ok req))
    (h : (FcAp.validate g r).2 = .accepted inq) : Reads req inq := by
  have hrefuse : ∀ (g : FcAp.Globals) ids a, (FcAp.refuse g ids a).2 ≠ .accepted inq := by
    intro g ids a
    cases a <;> simp [FcAp.refuse]
  unfold FcAp.validate at h
  dsimp only at h
  split at h
  · exact absurd h (hrefuse _ _ _)
  · split at h
    · rw [hjson, Option.getD_some, hids] at h
      unfold FcAp.validateRequest at h
      cases hread : FcAp.readInquiry { g with recvHeaders := .obj r.headers, recvBody := body }
          ids.version req with
      | error a =>
          simp only [hread] at h
          exact absurd h (hrefuse _ _ _)
      | ok i =>
          simp only [hread, Verdict.accepted.injEq] at h
          subst h
          simp only [FcAp.readInquiry, bind_eq_ok, raising_eq_ok, pure_eq_ok,
            Except.ok.injEq] at hread
          obtain ⟨rulesetIds, -, channels, hchannels, ranges, hranges, rfl⟩ := hread
          exact ⟨fcAp_channels hchannels, fcAp_ranges hranges⟩
    · exact absurd h (by simp)

/-! ## Exactness -/

section Exactness

variable {vectors req sent : Json} {inq : Inquiry} {now : String}

theorem exact_iff (hreads : Reads req inq) (h : successResponse vectors inq now = .ok sent) :
    Exact vectors req sent ↔ LastEntriesDecide vectors req := by
  obtain ⟨horder, hranges⟩ := exact_parts hreads h
  have hlast : ∀ operClass cfi, LastInquiredChannel req operClass cfi → InquiredChannel req operClass cfi := by
    rintro operClass cfi ⟨entries, value, hentries, hlookup, hadmits⟩
    obtain ⟨pre, post, hsplit, -⟩ := List.lookup_eq_some_iff.mp hlookup
    have hmem : (operClass, value) ∈ entries.reverse := hsplit ▸ by simp
    exact ⟨entries, value, hentries, List.mem_reverse.mp hmem, hadmits⟩
  constructor
  · intro hexact operClass cfi eirp hoffers hinq
    have hsent := (hexact.channels operClass cfi eirp).mpr ⟨hoffers, hinq⟩
    exact ((offers_sent_iff hreads h operClass cfi eirp).mp hsent).2
  · intro hdecide
    refine ⟨fun operClass cfi eirp => ?_, horder, hranges⟩
    rw [offers_sent_iff hreads h]
    exact ⟨fun ⟨ho, hl⟩ => ⟨ho, hlast _ _ hl⟩, fun ⟨ho, hi⟩ => ⟨ho, hdecide _ _ _ ho hi⟩⟩

end Exactness

/-! ## Both services -/

theorem fcAp_respond_success {g : FcAp.Globals} {inq : Inquiry} {now : String} {sent : Json}
    (h : (FcAp.respond g inq now).2 = .success sent) :
    successResponse g.vectors inq now = .ok sent ∧
      (FcAp.respond g inq now).1.vectors = g.vectors := by
  unfold FcAp.respond at h ⊢
  cases hresp : successResponse g.vectors inq now with
  | error e => cases htruthy : g.vectors.truthy <;> simp [hresp, htruthy] at h
  | ok sent' =>
      have htruthy := truthy_of_successResponse hresp
      simp only [hresp, htruthy, if_true, Answer.success.injEq] at h ⊢
      exact ⟨congrArg _ h, trivial⟩

/-- A success of either service is built by the shared code. -/
theorem answers_built {vectors req sent vectors' : Json}
    (h : SimulatorAnswers vectors req sent vectors' ∨ FcApAnswers vectors req sent vectors') :
    ∃ inq now, Reads req inq ∧ successResponse vectors inq now = .ok sent ∧ vectors' = vectors := by
  rcases h with ⟨g, d, r, body, ids, inq, g', now, hjson, hids, haccept, rfl, hsent, rfl⟩ |
    ⟨g, r, body, ids, inq, g', now, hjson, hids, haccept, rfl, hsent, rfl⟩
  · obtain ⟨s, hframe⟩ := Simulator.respond_frame g' inq now
    refine ⟨inq, now, Simulator.simulator_reads hjson hids haccept,
      Simulator.respond_success_iff.mp hsent, ?_⟩
    rw [hframe]
  · obtain ⟨hsuccess, hstored⟩ := fcAp_respond_success hsent
    exact ⟨inq, now, fcAp_reads hjson hids haccept, hsuccess, hstored⟩

/-- **Exactness of the filter.** A success response of either service is the
inquired part of the vector, and the stored vector is left alone, exactly
when the last entry of a class asks for every offered channel that some entry
of the class asks for. -/
theorem responseFilter_exact_iff (vectors req sent vectors' : Json)
    (h : SimulatorAnswers vectors req sent vectors' ∨ FcApAnswers vectors req sent vectors') :
    Exact vectors req sent ∧ vectors' = vectors ↔ LastEntriesDecide vectors req := by
  obtain ⟨inq, now, hreads, hsuccess, hstored⟩ := answers_built h
  rw [exact_iff hreads hsuccess]
  exact and_iff_left hstored

/-! ## A repeated class -/

/-- A vector that offers two 80 MHz channels. -/
def twoChannels : Json :=
  .obj [("responses", .obj [("availableSpectrumInquiryResponses", .arr [.obj [
    ("availableChannelInfo", .arr [.obj [("globalOperatingClass", .int 133),
      ("channelCfi", .arr [.int 7, .int 23]), ("maxEirp", .arr [.int 30, .int 31])]])]])])]

/-- What the simulator answers after start-up, with that vector loaded. -/
def answerFor (body : Json) : Option Answer :=
  match (Simulator.validate .init (.ofJson body) .lowest).2 with
  | .accepted inq =>
      some (Simulator.respond { Simulator.Globals.init with vectors := twoChannels } inq "now").2
  | _ => none

theorem simulatorAnswers_twoChannels {body sent : Json} {ids : ReplyIds}
    (hids : identify body = (ids, .ok (requestOf body)))
    (hsent : answerFor body = some (.success sent)) :
    SimulatorAnswers twoChannels (requestOf body) sent twoChannels := by
  unfold answerFor at hsent
  cases hverdict : (Simulator.validate .init (.ofJson body) .lowest).2 with
  | refused status reply => rw [hverdict] at hsent; exact absurd hsent (by simp)
  | crashed => rw [hverdict] at hsent; exact absurd hsent (by simp)
  | accepted inq =>
      rw [hverdict] at hsent
      obtain ⟨s, hframe⟩ := Simulator.respond_frame
        { Simulator.Globals.init with vectors := twoChannels } inq "now"
      exact ⟨.init, .lowest, .ofJson body, body, ids, inq,
        { Simulator.Globals.init with vectors := twoChannels }, "now", rfl, hids, hverdict, rfl,
        Option.some.inj hsent, by rw [hframe]⟩

/-- One entry of the class. -/
def oneEntry : Json :=
  inquiryBody "one" [certUS] [("inquiredChannels", .arr [inquireChannels 133 [7]])]

/-- The class is repeated, and each entry lists one channel. -/
def twoEntries : Json :=
  inquiryBody "two" [certUS]
    [("inquiredChannels", .arr [inquireChannels 133 [7], inquireChannels 133 [23]])]

def sentFor (body : Json) : Json := ((answerFor body).map Answer.sent).getD .null

theorem responseFilter_exact_oneEntry :
    Exact twoChannels (requestOf oneEntry) (sentFor oneEntry) ∧ twoChannels = twoChannels ↔
      LastEntriesDecide twoChannels (requestOf oneEntry) :=
  responseFilter_exact_iff _ _ _ _
    (.inl (simulatorAnswers_twoChannels rfl (by decide +kernel)))

/-- Every item of the vector has as many limits as channels. -/
def Paired (vectors : Json) : Prop :=
  ∀ item, VectorMember vectors "availableChannelInfo" item →
    ∃ chans eirps, item.field "channelCfi" = .ok (.arr chans) ∧
      item.field "maxEirp" = .ok (.arr eirps) ∧ chans.length = eirps.length

/-- The only item of the vector of two channels. -/
def item133 : Json :=
  .obj [("globalOperatingClass", .int 133), ("channelCfi", .arr [.int 7, .int 23]),
    ("maxEirp", .arr [.int 30, .int 31])]

theorem vectorMember_twoChannels (item : Json) :
    VectorMember twoChannels "availableChannelInfo" item ↔ item = item133 := by
  have hvector : vectorResponse twoChannels = .ok (.obj [("availableChannelInfo", .arr [item133])]) :=
    rfl
  simp only [VectorMember, hvector, Except.ok.injEq, exists_eq_left', Member]
  constructor
  · rintro ⟨info, items, hinfo, hitems, hmem⟩
    rw [Json.field_obj_eq_ok, show [("availableChannelInfo", Json.arr [item133])].lookup
      "availableChannelInfo" = some (.arr [item133]) from rfl, Option.some.injEq] at hinfo
    subst hinfo
    rw [Json.iter, Except.ok.injEq] at hitems
    subst hitems
    exact List.mem_singleton.mp hmem
  · rintro rfl
    exact ⟨.arr [item133], [item133], rfl, rfl, List.mem_singleton_self _⟩

/-- A repeated class: the vector offers channel 7, the first entry lists it,
and the response withholds it. -/
theorem repeated_class_withheld :
    ¬ ∀ vectors req sent vectors', Paired vectors →
      SimulatorAnswers vectors req sent vectors' ∨ FcApAnswers vectors req sent vectors' →
      Exact vectors req sent ∧ vectors' = vectors := by
  intro h
  have hpaired : Paired twoChannels := by
    intro item hmem
    rw [vectorMember_twoChannels] at hmem
    subst hmem
    exact ⟨_, _, rfl, rfl, rfl⟩
  have hanswers : SimulatorAnswers twoChannels (requestOf twoEntries) (sentFor twoEntries) twoChannels :=
    simulatorAnswers_twoChannels rfl (by decide +kernel)
  have hexact := (h _ _ _ _ hpaired (.inl hanswers)).1
  have hoffers : Offers (VectorMember twoChannels) (.num 133) (.num 7) (.int 30) :=
    ⟨item133, (vectorMember_twoChannels _).mpr rfl, rfl, [(.int 7, .int 30), (.int 23, .int 31)],
      .int 7, rfl, by simp, rfl⟩
  have hinquired : InquiredChannel (requestOf twoEntries) (.num 133) (.num 7) :=
    ⟨[(.num 133, .arr [.int 7]), (.num 133, .arr [.int 23])], .arr [.int 7], rfl, by simp,
      .inr ⟨[.int 7], rfl, by decide⟩⟩
  obtain ⟨inq, now, hreads, hsuccess, -⟩ := answers_built (.inl hanswers)
  have hsent := (hexact.channels _ _ _).mpr ⟨hoffers, hinquired⟩
  obtain ⟨entries, value, hentries, hlookup, hadmits⟩ :=
    ((offers_sent_iff hreads hsuccess _ _ _).mp hsent).2
  -- the last entry of the class lists channel 23 only
  rw [show inquiredEntries (requestOf twoEntries) =
    .ok [(.num 133, .arr [.int 7]), (.num 133, .arr [.int 23])] from rfl, Except.ok.injEq] at hentries
  subst hentries
  rw [show ([(Key.num 133, Json.arr [.int 7]), (.num 133, .arr [.int 23])].reverse.lookup (.num 133))
    = some (.arr [.int 23]) from by decide +kernel, Option.some.injEq] at hlookup
  subst hlookup
  rcases hadmits with hfalsy | ⟨elems, helems, hin⟩
  · exact absurd hfalsy (by decide)
  · rw [Json.iter, Except.ok.injEq] at helems
    subst helems
    exact absurd hin (by decide +kernel)

end AfcDut.Service.Theorems.ResponseFilter
