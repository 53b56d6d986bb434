import AfcDut.Service.Spec

/-!
# What a vector offers, an inquiry asks for, and a response holds

The members of the two lists of a response and the entries of the two lists
of a request, and how a success response relates them.
-/

namespace AfcDut.Service

open Py

/-! ## What a document offers and an inquiry asks for -/

/-- An element of a list field of a loaded vector's first response. -/
def VectorMember (vectors : Json) (name : String) (item : Json) : Prop :=
  ∃ resp, vectorResponse vectors = .ok resp ∧ Member resp name item

/-- An element of a list field of a sent response. -/
def SentMember (sent : Json) (name : String) (item : Json) : Prop :=
  ∃ resp, firstResponse sent = .ok resp ∧ Member resp name item

/-- Some item of `availableChannelInfo` holds the triple. -/
def Offers (members : String → Json → Prop) (operClass cfi : Key) (eirp : Json) : Prop :=
  ∃ item, members "availableChannelInfo" item ∧ classKey item = .ok operClass ∧
    Lists item cfi eirp

/-- Some item of the vector's `availableChannelInfo` is of the class. -/
def OffersClass (vectors : Json) (k : Key) : Prop :=
  ∃ item, VectorMember vectors "availableChannelInfo" item ∧ classKey item = .ok k

/-- The items of an optional list field; an absent one has none. -/
def listedItems (req : Json) (name : String) : Except PyErr (List Json) := do
  let items ← fieldItems req name
  pure (items.getD [])

/-- The entries of `inquiredChannels`: class, and `channelCfi` or `None`. -/
def inquiredEntries (req : Json) : Except PyErr (List (Key × Json)) := do
  let items ← listedItems req "inquiredChannels"
  items.mapM operClassItem

/-- The ranges of `inquiredFrequencyRange`. -/
def inquiredRanges (req : Json) : Except PyErr (List (Json × Json)) := do
  let items ← listedItems req "inquiredFrequencyRange"
  freqRangeList items

/-- Some entry of the class lists the channel, or lists none. -/
def InquiredChannel (req : Json) (operClass cfi : Key) : Prop :=
  ∃ entries value, inquiredEntries req = .ok entries ∧ (operClass, value) ∈ entries ∧
    Admits value cfi

/-- The last entry of the class does. -/
def LastInquiredChannel (req : Json) (operClass cfi : Key) : Prop :=
  ∃ entries value, inquiredEntries req = .ok entries ∧
    entries.reverse.lookup operClass = some value ∧ Admits value cfi

/-- What the last entry of the class asks for is nothing, or can be made a
set. -/
def ReadableClass (req : Json) (k : Key) : Prop :=
  ∀ entries value, inquiredEntries req = .ok entries → entries.reverse.lookup k = some value →
    value.truthy = true → value.HashableElems

/-- What an accepted inquiry keeps of its request. -/
structure Reads (req : Json) (inq : Inquiry) : Prop where
  channels : ∃ entries, inquiredEntries req = .ok entries ∧
    ∀ k, inq.operClassDict.lookup k = entries.reverse.lookup k
  ranges : inquiredRanges req = .ok inq.freqRangeList

/-- The dictionary comprehension keeps the last entry of a class. -/
theorem operClassDict_lookup {items : List Json} {dict : List (Key × Json)}
    (h : operClassDict items = .ok dict) :
    ∃ entries, items.mapM operClassItem = .ok entries ∧
      ∀ k, dict.lookup k = entries.reverse.lookup k := by
  simp only [operClassDict, bind_eq_ok, pure_eq_ok, Except.ok.injEq] at h
  obtain ⟨entries, hentries, rfl⟩ := h
  refine ⟨entries, hentries, fun k => ?_⟩
  rw [Json.lookup_foldl_assign, List.lookup_nil, Option.or_none]

/-! ## What is sent -/

section Sent

variable {vectors req sent : Json} {inq : Inquiry} {now : String}

/-- A list field of the sent response is the filtered field of the vector. -/
theorem sentMember_channels (h : successResponse vectors inq now = .ok sent) (item' : Json) :
    SentMember sent "availableChannelInfo" item' ↔
      ∃ item, VectorMember vectors "availableChannelInfo" item ∧
        filterChannelItem inq.operClassDict item = .ok (some item') := by
  obtain ⟨-, resp, stamped, resp', hvector, hstamp, hfilter, hsent⟩ := successResponse_eq_ok h
  obtain ⟨-, -, hstampField⟩ := stamp_eq_ok hstamp
  obtain ⟨mid, hchan, hfreq⟩ := filterResponse_eq_ok hfilter
  have hmid : ∀ item, Member resp' "availableChannelInfo" item ↔
      Member mid "availableChannelInfo" item :=
    member_congr ((filterField_eq_ok hfreq).1 _ (by decide))
  have hstamped : ∀ item, Member stamped "availableChannelInfo" item ↔
      Member resp "availableChannelInfo" item :=
    member_congr (hstampField _ (by decide) (by decide) (by decide))
  simp only [SentMember, VectorMember, hsent, hvector, Except.ok.injEq, exists_eq_left', hmid,
    member_filterField hchan, hstamped]

theorem sentMember_ranges (h : successResponse vectors inq now = .ok sent) (item' : Json) :
    SentMember sent "availableFrequencyInfo" item' ↔
      ∃ item, VectorMember vectors "availableFrequencyInfo" item ∧
        filterFreqItem inq.freqRangeList item = .ok (some item') := by
  obtain ⟨-, resp, stamped, resp', hvector, hstamp, hfilter, hsent⟩ := successResponse_eq_ok h
  obtain ⟨-, -, hstampField⟩ := stamp_eq_ok hstamp
  obtain ⟨mid, hchan, hfreq⟩ := filterResponse_eq_ok hfilter
  have hmid : ∀ item, Member mid "availableFrequencyInfo" item ↔
      Member resp "availableFrequencyInfo" item := fun item =>
    (member_congr ((filterField_eq_ok hchan).1 _ (by decide)) item).trans
      (member_congr (hstampField _ (by decide) (by decide) (by decide)) item)
  simp only [SentMember, VectorMember, hsent, hvector, Except.ok.injEq, exists_eq_left',
    member_filterField hfreq, hmid]

/-- Every item of the vector is filtered without raising. -/
theorem vectorMember_isOk (h : successResponse vectors inq now = .ok sent) :
    (∀ item, VectorMember vectors "availableChannelInfo" item →
      ∃ o, filterChannelItem inq.operClassDict item = .ok o) ∧
    ∀ item, VectorMember vectors "availableFrequencyInfo" item →
      ∃ o, filterFreqItem inq.freqRangeList item = .ok o := by
  obtain ⟨-, resp, stamped, resp', hvector, hstamp, hfilter, hsent⟩ := successResponse_eq_ok h
  obtain ⟨-, -, hstampField⟩ := stamp_eq_ok hstamp
  obtain ⟨mid, hchan, hfreq⟩ := filterResponse_eq_ok hfilter
  constructor
  · rintro item ⟨resp₂, hvector₂, hmem⟩
    rw [hvector, Except.ok.injEq] at hvector₂
    subst hvector₂
    refine member_filterField_isOk hchan ?_
    exact (member_congr (hstampField _ (by decide) (by decide) (by decide)) item).mpr hmem
  · rintro item ⟨resp₂, hvector₂, hmem⟩
    rw [hvector, Except.ok.injEq] at hvector₂
    subst hvector₂
    refine member_filterField_isOk hfreq ?_
    refine (member_congr ((filterField_eq_ok hchan).1 _ (by decide)) item).mpr ?_
    exact (member_congr (hstampField _ (by decide) (by decide) (by decide)) item).mpr hmem

/-- The response offers what the vector offers and the last entry of the class
asks for. -/
theorem offers_sent_iff (hreads : Reads req inq) (h : successResponse vectors inq now = .ok sent)
    (operClass cfi : Key) (eirp : Json) :
    Offers (SentMember sent) operClass cfi eirp ↔
      Offers (VectorMember vectors) operClass cfi eirp ∧ LastInquiredChannel req operClass cfi := by
  obtain ⟨entries, hentries, hlookup⟩ := hreads.channels
  have hlast : LastInquiredChannel req operClass cfi ↔
      ∃ value, inq.operClassDict.lookup operClass = some value ∧ Admits value cfi := by
    simp only [LastInquiredChannel, hentries, Except.ok.injEq, hlookup]
    constructor
    · rintro ⟨_, value, rfl, hv, ha⟩
      exact ⟨value, hv, ha⟩
    · rintro ⟨value, hv, ha⟩
      exact ⟨entries, value, rfl, hv, ha⟩
  rw [hlast]
  constructor
  · rintro ⟨item', hmem, hclass, hlists⟩
    obtain ⟨item, hitem, hkeep⟩ := (sentMember_channels h item').mp hmem
    obtain ⟨k, hk, hcase⟩ := filterChannelItem_cases hkeep
    obtain ⟨hclass', -⟩ := channelItem_sublist hk hcase
    rw [hclass, Except.ok.injEq] at hclass'
    subst hclass'
    obtain ⟨hold, hadmits⟩ := (channelItem_lists hcase cfi eirp).mp ⟨item', rfl, hlists⟩
    exact ⟨⟨item, hitem, hk, hold⟩, hadmits⟩
  · rintro ⟨⟨item, hitem, hclass, hlists⟩, hadmits⟩
    obtain ⟨o, hkeep⟩ := (vectorMember_isOk h).1 item hitem
    obtain ⟨k, hk, hcase⟩ := filterChannelItem_cases hkeep
    rw [hclass, Except.ok.injEq] at hk
    subst hk
    obtain ⟨item', rfl, hnew⟩ := (channelItem_lists hcase cfi eirp).mpr ⟨hlists, hadmits⟩
    refine ⟨item', (sentMember_channels h item').mpr ⟨item, hitem, hkeep⟩, ?_, hnew⟩
    exact (channelItem_sublist hclass hcase).1

/-- Order, pairing and frequency items are exact for every inquiry. -/
theorem exact_parts (hreads : Reads req inq) (h : successResponse vectors inq now = .ok sent) :
    (∀ item', SentMember sent "availableChannelInfo" item' →
      ∃ item, VectorMember vectors "availableChannelInfo" item ∧ classKey item' = classKey item ∧
        ∀ pairs', itemPairs item' = .ok pairs' →
          ∃ pairs, itemPairs item = .ok pairs ∧ pairs'.Sublist pairs) ∧
    ∀ item, SentMember sent "availableFrequencyInfo" item ↔
      VectorMember vectors "availableFrequencyInfo" item ∧
        ∃ ranges, inquiredRanges req = .ok ranges ∧ WithinRange item ranges := by
  constructor
  · intro item' hmem
    obtain ⟨item, hitem, hkeep⟩ := (sentMember_channels h item').mp hmem
    obtain ⟨k, hk, hcase⟩ := filterChannelItem_cases hkeep
    obtain ⟨hclass, hpairs⟩ := channelItem_sublist hk hcase
    exact ⟨item, hitem, hclass.trans hk.symm, hpairs⟩
  · intro item
    rw [sentMember_ranges h]
    simp only [hreads.ranges, Except.ok.injEq, exists_eq_left']
    constructor
    · rintro ⟨old, hold, hkeep⟩
      obtain ⟨rfl, hwithin⟩ := (filterFreqItem_eq_ok hkeep item).mp rfl
      exact ⟨hold, hwithin⟩
    · rintro ⟨hitem, hwithin⟩
      obtain ⟨o, hkeep⟩ := (vectorMember_isOk h).2 item hitem
      have hsome := (filterFreqItem_eq_ok hkeep item).mpr ⟨rfl, hwithin⟩
      exact ⟨item, hitem, hsome ▸ hkeep⟩

end Sent

end AfcDut.Service
