import AfcDut.Service.Spec

/-!
# Vectors a response can be built from

What a test vector and an inquiry must satisfy for the response building to
return, and what follows from its having returned.
-/

namespace AfcDut.Service

open Py

/-- An item of `availableChannelInfo` with a list of channels and a limit for
each. -/
structure ChannelItemOk (item : Json) : Prop where
  operClass : ∃ k, classKey item = .ok k
  lists : ∃ chans eirps, item.field "channelCfi" = .ok (.arr chans) ∧
    item.field "maxEirp" = .ok (.arr eirps) ∧ chans.length = eirps.length ∧
    ∀ x ∈ chans, ∃ k, x.key? = some k

/-- An item of `availableFrequencyInfo` with a range of numbers. -/
def FreqItemOk (item : Json) : Prop :=
  ∃ freqRange l h x y, item.field "frequencyRange" = .ok freqRange ∧
    freqRange.field "lowFrequency" = .ok l ∧ freqRange.field "highFrequency" = .ok h ∧
    l.num? = some x ∧ h.num? = some y

/-- A first response whose list fields are lists of such items. -/
structure ResponseOk (resp : Json) : Prop where
  object : ∃ kvs, resp = .obj kvs
  channels : ∀ info, resp.field "availableChannelInfo" = .ok info →
    ∃ items, info = .arr items ∧ ∀ item ∈ items, ChannelItemOk item
  ranges : ∀ info, resp.field "availableFrequencyInfo" = .ok info →
    ∃ items, info = .arr items ∧ ∀ item ∈ items, FreqItemOk item

/-- A well-formed test vector. -/
structure WellFormed (vectors : Json) : Prop where
  document : ∃ kvs resp rest, vectors.field "responses" = .ok (.obj kvs) ∧
    kvs.lookup "availableSpectrumInquiryResponses" = some (.arr (resp :: rest))
  response : ∀ resp, vectorResponse vectors = .ok resp → ResponseOk resp

/-- What was inquired for the classes a response offers can be made a set, or
is nothing. -/
def ClassesReadable (resp : Json) (operClassDict : List (Key × Json)) : Prop :=
  ∀ item k value, Member resp "availableChannelInfo" item → classKey item = .ok k →
    operClassDict.lookup k = some value → value.truthy = true → value.HashableElems

def RangesNumeric (ranges : List (Json × Json)) : Prop :=
  ∀ r ∈ ranges, (∃ q, r.1.num? = some q) ∧ ∃ q, r.2.num? = some q

theorem mapM_hash_isOk_iff {xs : List Json} :
    (∃ ks, xs.mapM Json.hash = .ok ks) ↔ ∀ x ∈ xs, ∃ k, x.key? = some k := by
  simp only [mapM_isOk_iff, Json.hash_eq_ok]

/-- The copy reads a limit at an index that has one. -/
theorem overlay_isOk {req : List Key} {item : Json} {eirps : List Json}
    (hfield : item.field "maxEirp" = .ok (.arr eirps)) {chans : List Json} {idx : Nat}
    (hkeys : ∀ x ∈ chans, ∃ k, x.key? = some k) (hlength : idx + chans.length ≤ eirps.length) :
    ∃ r, overlay req item chans idx = .ok r := by
  induction chans generalizing idx with
  | nil => exact ⟨_, rfl⟩
  | cons chan rest ih =>
      obtain ⟨k, hk⟩ := hkeys chan List.mem_cons_self
      rw [List.length_cons] at hlength
      have hnext : (idx + 1) + rest.length ≤ eirps.length := by omega
      obtain ⟨⟨cs, es⟩, hrest⟩ := ih (fun x hx => hkeys x (List.mem_cons_of_mem _ hx)) hnext
      have hhash : chan.hash = .ok k := Json.hash_eq_ok.mpr hk
      obtain ⟨eirp, heirp⟩ : ∃ eirp, eirps[idx]? = some eirp :=
        ⟨_, List.getElem?_eq_getElem (by omega)⟩
      have hitem : (Json.arr eirps).item idx = .ok eirp := Json.item_arr_eq_ok.mpr heirp
      -- the index is in bounds whether or not the channel is kept
      by_cases hin : k ∈ req
      · exact ⟨_, by simp only [overlay, hhash, ok_bind, hin, if_true, hfield, hitem, hrest]; rfl⟩
      · exact ⟨(cs, es), by simp only [overlay, hhash, ok_bind, hin, if_false, hrest]⟩

theorem filterChannelItem_isOk {dict : List (Key × Json)} {item : Json} {k : Key}
    (hitem : ChannelItemOk item) (hclass : classKey item = .ok k)
    (hreadable : ∀ value, dict.lookup k = some value → value.truthy = true → value.HashableElems) :
    ∃ o, filterChannelItem dict item = .ok o := by
  simp only [classKey, bind_eq_ok] at hclass
  obtain ⟨operClass, hfield, hhash⟩ := hclass
  obtain ⟨chans, eirps, hchans, heirps, hlength, hkeys⟩ := hitem.lists
  simp only [filterChannelItem, hfield, hhash, ok_bind]
  cases hlookup : dict.lookup k with
  | none => exact ⟨_, rfl⟩
  | some value =>
      obtain ⟨respKeys, hresp⟩ := mapM_hash_isOk_iff.mpr hkeys
      have hiter : (Json.arr chans).iter = .ok chans := rfl
      simp only [hchans, ok_bind, hiter, hresp]
      cases htruthy : value.truthy with
      | false => exact ⟨_, rfl⟩
      | true =>
          obtain ⟨elems, helems, hhashable⟩ := hreadable value hlookup htruthy
          obtain ⟨req, hreq⟩ := mapM_hash_isOk_iff.mpr hhashable
          simp only [if_true, helems, ok_bind, hreq]
          split
          · obtain ⟨⟨cs, es⟩, hoverlay⟩ : ∃ r, overlay req item chans 0 = .ok r :=
              overlay_isOk heirps hkeys (by omega)
            obtain ⟨kvs, rfl, -⟩ := Json.field_eq_ok hfield
            exact ⟨_, by simp only [hoverlay, ok_bind, Json.setField]; rfl⟩
          · exact ⟨_, rfl⟩

theorem isInquiredFreqRange_isOk {l h : Json} {x y : ℚ} {ranges : List (Json × Json)}
    (hl : l.num? = some x) (hh : h.num? = some y) (hranges : RangesNumeric ranges) :
    ∃ b, isInquiredFreqRange l h ranges = .ok b := by
  induction ranges with
  | nil => exact ⟨_, rfl⟩
  | cons r rest ih =>
      obtain ⟨⟨low, hlow⟩, high, hhigh⟩ := hranges r List.mem_cons_self
      obtain ⟨b, hb⟩ := ih fun r hr => hranges r (List.mem_cons_of_mem _ hr)
      have hle : le r.1 l = .ok (decide (low ≤ x)) := le_eq_ok.mpr ⟨low, x, hlow, hl, rfl⟩
      have hle' : le h r.2 = .ok (decide (y ≤ high)) := le_eq_ok.mpr ⟨y, high, hh, hhigh, rfl⟩
      simp only [isInquiredFreqRange, hle, hle', ok_bind, hb]
      split
      · split
        · exact ⟨_, rfl⟩
        · exact ⟨b, rfl⟩
      · exact ⟨b, rfl⟩

theorem filterFreqItem_isOk {ranges : List (Json × Json)} {item : Json} (hitem : FreqItemOk item)
    (hranges : RangesNumeric ranges) : ∃ o, filterFreqItem ranges item = .ok o := by
  obtain ⟨freqRange, l, h, x, y, hrange, hl, hh, hx, hy⟩ := hitem
  obtain ⟨b, hb⟩ := isInquiredFreqRange_isOk hx hy hranges
  simp only [filterFreqItem, hrange, hl, hh, ok_bind, hb]
  split
  · exact ⟨_, rfl⟩
  · exact ⟨_, rfl⟩

/-- A list field whose elements can be filtered can be filtered. -/
theorem filterField_isOk {kvs : List (String × Json)} {name : String}
    {keep : Json → Except PyErr (Option Json)}
    (hfield : ∀ info, (Json.obj kvs).field name = .ok info →
      ∃ items, info = .arr items ∧ ∀ item ∈ items, ∃ o, keep item = .ok o) :
    ∃ kvs', filterField (.obj kvs) name keep = .ok (.obj kvs') := by
  cases hlookup : kvs.lookup name with
  | none =>
      have hhas : (Json.obj kvs).has name = .ok false := by
        rw [Json.has_obj_iff, hlookup]
        rfl
      exact ⟨kvs, by simp only [filterField, hhas, ok_bind]; rfl⟩
  | some info =>
      have hhas : (Json.obj kvs).has name = .ok true := by
        rw [Json.has_obj_iff, hlookup]
        rfl
      have hinfo : (Json.obj kvs).field name = .ok info := Json.field_obj_eq_ok.mpr hlookup
      obtain ⟨items, rfl, hitems⟩ := hfield info hinfo
      obtain ⟨kept, hkept⟩ := filterMapM_isOk_iff.mpr hitems
      exact ⟨Json.assign kvs name (.arr kept), by
        simp only [filterField, hhas, ok_bind, if_true, hinfo, Json.iter, hkept, Json.setField]⟩

/-- An item that has been filtered had a readable class. -/
theorem filterChannelItem_readable {dict : List (Key × Json)} {item value : Json} {k : Key}
    {o : Option Json} (h : filterChannelItem dict item = .ok o) (hclass : classKey item = .ok k)
    (hlookup : dict.lookup k = some value) (htruthy : value.truthy = true) :
    value.HashableElems := by
  simp only [classKey, bind_eq_ok] at hclass
  obtain ⟨operClass, hfield, hhash⟩ := hclass
  simp only [filterChannelItem, hfield, hhash, ok_bind, hlookup, htruthy, if_true, bind_eq_ok] at h
  obtain ⟨channelCfi, -, chans, -, respChans, -, elems, helems, req, hreq, -⟩ := h
  exact ⟨elems, helems, mapM_hash_isOk_iff.mp ⟨req, hreq⟩⟩

theorem stamp_isOk {inq : Inquiry} {now : String} {kvs : List (String × Json)}
    (hruleset : inq.rulesetIds ≠ []) : ∃ kvs', stamp inq now (.obj kvs) = .ok (.obj kvs') := by
  cases hids : inq.rulesetIds with
  | nil => exact absurd hids hruleset
  | cons r rest =>
      simp only [stamp, Json.setField, ok_bind, hids, firstRuleset]
      exact ⟨_, rfl⟩

theorem filterResponse_isOk {inq : Inquiry} {kvs : List (String × Json)}
    (hresp : ResponseOk (.obj kvs)) (hclasses : ClassesReadable (.obj kvs) inq.operClassDict)
    (hranges : RangesNumeric inq.freqRangeList) :
    ∃ resp', filterResponse inq (.obj kvs) = .ok resp' := by
  obtain ⟨mid, hmid⟩ : ∃ kvs', filterField (.obj kvs) "availableChannelInfo"
      (filterChannelItem inq.operClassDict) = .ok (.obj kvs') := filterField_isOk (by
      intro info hinfo
      obtain ⟨items, rfl, hitems⟩ := hresp.channels info hinfo
      refine ⟨items, rfl, fun item hitem => ?_⟩
      obtain ⟨k, hk⟩ := (hitems item hitem).operClass
      exact filterChannelItem_isOk (hitems item hitem) hk fun value =>
        hclasses item k value ⟨_, items, hinfo, rfl, hitem⟩ hk)
  obtain ⟨resp', hresp'⟩ : ∃ kvs', filterField (.obj mid) "availableFrequencyInfo"
      (filterFreqItem inq.freqRangeList) = .ok (.obj kvs') := filterField_isOk (by
      intro info hinfo
      rw [(filterField_eq_ok hmid).1 _ (by decide)] at hinfo
      obtain ⟨items, rfl, hitems⟩ := hresp.ranges info hinfo
      exact ⟨items, rfl, fun item hitem => filterFreqItem_isOk (hitems item hitem) hranges⟩)
  simp only [filterResponse, hmid, ok_bind, hresp']
  exact ⟨_, rfl⟩

/-- **When a response can be built.** From a well-formed vector, with ranges
of numbers: exactly when there is a first ruleset and every class the vector
offers was inquired readably. -/
theorem successResponse_isOk_iff {vectors : Json} {inq : Inquiry} {now : String}
    (hwf : WellFormed vectors) (hranges : RangesNumeric inq.freqRangeList) :
    (∃ sent, successResponse vectors inq now = .ok sent) ↔
      inq.rulesetIds ≠ [] ∧
        ∀ resp, vectorResponse vectors = .ok resp → ClassesReadable resp inq.operClassDict := by
  constructor
  · rintro ⟨sent, hsent⟩
    obtain ⟨-, resp, stamped, resp', hvector, hstamp, hfilter, -⟩ := successResponse_eq_ok hsent
    obtain ⟨-, ⟨r, hr, -⟩, hstampField⟩ := stamp_eq_ok hstamp
    obtain ⟨mid, hchan, -⟩ := filterResponse_eq_ok hfilter
    refine ⟨?_, fun resp₂ hvector₂ item k value hmem hk hlookup htruthy => ?_⟩
    · intro hnil
      rw [hnil] at hr
      exact absurd hr (by simp)
    · rw [hvector, Except.ok.injEq] at hvector₂
      subst hvector₂
      have hmem' : Member stamped "availableChannelInfo" item :=
        (member_congr (hstampField _ (by decide) (by decide) (by decide)) item).mpr hmem
      obtain ⟨o, ho⟩ := member_filterField_isOk hchan hmem'
      exact filterChannelItem_readable ho hk hlookup htruthy
  · rintro ⟨hruleset, hclasses⟩
    obtain ⟨kvs, resp, rest, hresponses, hanswers⟩ := hwf.document
    have hanswers' : (Json.obj kvs).field "availableSpectrumInquiryResponses" =
        .ok (.arr (resp :: rest)) := Json.field_obj_eq_ok.mpr hanswers
    have hvector : vectorResponse vectors = .ok resp := by
      simp only [vectorResponse, firstResponse, hresponses, hanswers', ok_bind]
      rfl
    obtain ⟨rkvs, rfl⟩ := (hwf.response resp hvector).object
    obtain ⟨stamped, hstamp⟩ : ∃ kvs', stamp inq now (.obj rkvs) = .ok (.obj kvs') :=
      stamp_isOk hruleset
    have hfield : ∀ l, l = "availableChannelInfo" ∨ l = "availableFrequencyInfo" →
        (Json.obj stamped).field l = (Json.obj rkvs).field l := by
      rintro l (rfl | rfl) <;>
        exact (stamp_eq_ok hstamp).2.2 _ (by decide) (by decide) (by decide)
    have hresp : ResponseOk (.obj stamped) := by
      refine ⟨⟨stamped, rfl⟩, fun info hinfo => ?_, fun info hinfo => ?_⟩
      · exact (hwf.response _ hvector).channels info (hfield _ (.inl rfl) ▸ hinfo)
      · exact (hwf.response _ hvector).ranges info (hfield _ (.inr rfl) ▸ hinfo)
    have hreadable : ClassesReadable (.obj stamped) inq.operClassDict :=
      fun item k value hmem => hclasses _ hvector item k value
        ((member_congr (hfield _ (.inl rfl)) item).mp hmem)
    obtain ⟨resp', hresp'⟩ := filterResponse_isOk hresp hreadable hranges
    -- the version is written first, and does not hide the answers
    have hdoc : (Json.obj (Json.assign kvs "version" inq.version)).field
        "availableSpectrumInquiryResponses" = .ok (.arr (.obj rkvs :: rest)) := by
      rw [Json.field_setField (j := .obj kvs) rfl, if_neg (by decide), hanswers']
    have hitem : (Json.arr (.obj rkvs :: rest)).item 0 = .ok (.obj rkvs) := rfl
    simp only [successResponse, hresponses, ok_bind, Json.setField, hdoc, hitem, hstamp, hresp',
      putFirst]
    exact ⟨_, rfl⟩

end AfcDut.Service
