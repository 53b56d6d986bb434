import AfcDut.Service.Response

/-!
# What the response building does

One lemma for each function of the response building. The filter is described
by the pairs `(cfi, eirp)` of an item: which items survive, and which of
their pairs.
-/

namespace AfcDut.Service

open Py

/-! ## The steps of a success -/

/-- The first response of a document with the vector's layout. -/
def firstResponse (doc : Json) : Except PyErr Json := do
  let answers ← doc.field "availableSpectrumInquiryResponses"
  answers.item 0

/-- The first response of a loaded vector. -/
def vectorResponse (vectors : Json) : Except PyErr Json := do
  let responses ← vectors.field "responses"
  firstResponse responses

/-- Stamping writes three fields. -/
theorem stamp_eq_ok {inq : Inquiry} {now : String} {resp resp' : Json}
    (h : stamp inq now resp = .ok resp') :
    resp'.field "requestId" = .ok inq.reqId ∧
    (∃ r, inq.rulesetIds.head? = some r ∧ resp'.field "rulesetId" = .ok (.str r)) ∧
    ∀ l, l ≠ "requestId" → l ≠ "availabilityExpireTime" → l ≠ "rulesetId" →
      resp'.field l = resp.field l := by
  simp only [stamp, bind_eq_ok] at h
  obtain ⟨a, ha, b, hb, ruleset, hr, hc⟩ := h
  have hfield : ∀ l, resp'.field l = if l = "rulesetId" then .ok ruleset else
      if l = "availabilityExpireTime" then .ok (.str now) else
      if l = "requestId" then .ok inq.reqId else resp.field l := by
    intro l
    rw [Json.field_setField hc, Json.field_setField hb, Json.field_setField ha]
  refine ⟨?_, ?_, ?_⟩
  · rw [hfield]
    simp
  · cases hids : inq.rulesetIds with
    | nil =>
        rw [hids] at hr
        simp [firstRuleset] at hr
    | cons r rest =>
        rw [hids, firstRuleset, Except.ok.injEq] at hr
        refine ⟨r, rfl, ?_⟩
        rw [hfield, ← hr]
        simp
  · intro l h1 h2 h3
    rw [hfield, if_neg h3, if_neg h2, if_neg h1]

/-- A field is filtered when it is there, and nothing else is touched. -/
theorem filterField_eq_ok {resp resp' : Json} {name : String}
    {keep : Json → Except PyErr (Option Json)} (h : filterField resp name keep = .ok resp') :
    (∀ l, l ≠ name → resp'.field l = resp.field l) ∧
    ((resp.has name = .ok false ∧ resp' = resp) ∨
      ∃ info items kept, resp.field name = .ok info ∧ info.iter = .ok items ∧
        items.filterMapM keep = .ok kept ∧ resp'.field name = .ok (.arr kept)) := by
  simp only [filterField, bind_eq_ok] at h
  obtain ⟨b, hb, h⟩ := h
  cases b with
  | false =>
      simp only [Bool.false_eq_true, if_false, pure_eq_ok, Except.ok.injEq] at h
      subst h
      exact ⟨fun _ _ => rfl, .inl ⟨hb, rfl⟩⟩
  | true =>
      simp only [if_true, bind_eq_ok] at h
      obtain ⟨info, hinfo, items, hitems, kept, hkept, hset⟩ := h
      have hfield := Json.field_setField hset
      refine ⟨fun l hl => ?_, .inr ⟨info, items, kept, hinfo, hitems, hkept, ?_⟩⟩
      · rw [hfield, if_neg hl]
      · rw [hfield, if_pos rfl]

/-- The two filters work on two fields of the same response. -/
theorem filterResponse_eq_ok {inq : Inquiry} {resp resp' : Json}
    (h : filterResponse inq resp = .ok resp') :
    ∃ mid, filterField resp "availableChannelInfo" (filterChannelItem inq.operClassDict) = .ok mid ∧
      filterField mid "availableFrequencyInfo" (filterFreqItem inq.freqRangeList) = .ok resp' := by
  simpa only [filterResponse, bind_eq_ok] using h

/-- A success response is the vector's first response, stamped and filtered,
under the inquiry's version. -/
theorem successResponse_eq_ok {vectors : Json} {inq : Inquiry} {now : String} {sent : Json}
    (h : successResponse vectors inq now = .ok sent) :
    sent.field "version" = .ok inq.version ∧
    ∃ resp stamped resp', vectorResponse vectors = .ok resp ∧ stamp inq now resp = .ok stamped ∧
      filterResponse inq stamped = .ok resp' ∧ firstResponse sent = .ok resp' := by
  simp only [successResponse, bind_eq_ok] at h
  obtain ⟨responses, hresponses, doc, hdoc, answers, hanswers, resp, hresp, stamped, hstamped,
    resp', hresp', answers', hput, hsent⟩ := h
  have hdocField := Json.field_setField hdoc
  have hsentField := Json.field_setField hsent
  rw [hdocField, if_neg (by decide)] at hanswers
  refine ⟨?_, resp, stamped, resp', ?_, hstamped, hresp', ?_⟩
  · rw [hsentField, if_neg (by decide), hdocField, if_pos rfl]
  · simp only [vectorResponse, firstResponse, bind_eq_ok]
    exact ⟨responses, hresponses, answers, hanswers, hresp⟩
  · simp only [firstResponse, bind_eq_ok]
    refine ⟨answers', ?_, ?_⟩
    · rw [hsentField, if_pos rfl]
    · cases answers with
      | arr xs =>
          cases xs with
          | nil => simp [putFirst] at hput
          | cons x rest =>
              rw [putFirst, Except.ok.injEq] at hput
              subst hput
              simp
      | _ => simp [putFirst] at hput

/-- A vector that has responses is not empty. -/
theorem truthy_of_successResponse {vectors : Json} {inq : Inquiry} {now : String} {sent : Json}
    (h : successResponse vectors inq now = .ok sent) : vectors.truthy = true := by
  simp only [successResponse, bind_eq_ok] at h
  obtain ⟨responses, hresponses, -⟩ := h
  exact Json.truthy_of_field hresponses

/-! ## Members of a list field -/

/-- `item` is an element of the list field `name`. -/
def Member (doc : Json) (name : String) (item : Json) : Prop :=
  ∃ info items, doc.field name = .ok info ∧ info.iter = .ok items ∧ item ∈ items

theorem member_congr {doc doc' : Json} {name : String} (h : doc'.field name = doc.field name)
    (item : Json) : Member doc' name item ↔ Member doc name item := by
  unfold Member
  rw [h]

/-- Filtering a field keeps the images of its members, and looks at each. -/
theorem member_filterField {resp resp' : Json} {name : String}
    {keep : Json → Except PyErr (Option Json)} (h : filterField resp name keep = .ok resp')
    (item : Json) :
    Member resp' name item ↔ ∃ old, Member resp name old ∧ keep old = .ok (some item) := by
  obtain ⟨-, ⟨habsent, rfl⟩ | ⟨info, items, kept, hinfo, hitems, hkept, hfield⟩⟩ :=
    filterField_eq_ok h
  · -- an absent field has no members on either side
    have hnone : ∀ item, ¬ Member resp' name item := by
      rintro item ⟨info, -, hinfo, -⟩
      obtain ⟨kvs, rfl, hlookup⟩ := Json.field_eq_ok hinfo
      have hno := Json.has_obj_iff.mp habsent
      rw [hlookup] at hno
      exact absurd hno (by simp)
    exact iff_of_false (hnone item) fun ⟨old, hold, _⟩ => hnone old hold
  · constructor
    · rintro ⟨info', items', hinfo', hitems', hmem⟩
      rw [hfield, Except.ok.injEq] at hinfo'
      subst hinfo'
      rw [Json.iter, Except.ok.injEq] at hitems'
      subst hitems'
      obtain ⟨old, hold, hkeep⟩ := (mem_of_filterMapM_eq_ok hkept).mp hmem
      exact ⟨old, ⟨info, items, hinfo, hitems, hold⟩, hkeep⟩
    · rintro ⟨old, ⟨info', items', hinfo', hitems', hmem⟩, hkeep⟩
      rw [hinfo, Except.ok.injEq] at hinfo'
      subst hinfo'
      rw [hitems, Except.ok.injEq] at hitems'
      subst hitems'
      exact ⟨_, kept, hfield, rfl, (mem_of_filterMapM_eq_ok hkept).mpr ⟨old, hmem, hkeep⟩⟩

/-- No member of a filtered field makes the filter raise. -/
theorem member_filterField_isOk {resp resp' : Json} {name : String}
    {keep : Json → Except PyErr (Option Json)} (h : filterField resp name keep = .ok resp')
    {item : Json} (hmem : Member resp name item) : ∃ o, keep item = .ok o := by
  obtain ⟨info', items', hinfo', hitems', hin⟩ := hmem
  obtain ⟨-, ⟨habsent, rfl⟩ | ⟨info, items, kept, hinfo, hitems, hkept, hfield⟩⟩ :=
    filterField_eq_ok h
  · obtain ⟨kvs, rfl, hlookup⟩ := Json.field_eq_ok hinfo'
    have hno := Json.has_obj_iff.mp habsent
    rw [hlookup] at hno
    exact absurd hno (by simp)
  · rw [hinfo, Except.ok.injEq] at hinfo'
    subst hinfo'
    rw [hitems, Except.ok.injEq] at hitems'
    subst hitems'
    exact filterMapM_isOk_iff.mp ⟨kept, hkept⟩ item hin

/-! ## One item of `availableChannelInfo` -/

/-- The dictionary key of an item's operating class. -/
def classKey (item : Json) : Except PyErr Key := do
  let operClass ← item.field "globalOperatingClass"
  operClass.hash

/-- The channels of an item, each with the limit at its index. -/
def itemPairs (item : Json) : Except PyErr (List (Json × Json)) := do
  let channelCfi ← item.field "channelCfi"
  let chans ← channelCfi.iter
  let maxEirp ← item.field "maxEirp"
  let eirps ← maxEirp.iter
  pure (chans.zip eirps)

/-- The item lists a channel with a limit. -/
def Lists (item : Json) (cfi : Key) (eirp : Json) : Prop :=
  ∃ pairs ch, itemPairs item = .ok pairs ∧ (ch, eirp) ∈ pairs ∧ ch.key? = some cfi

/-- What was inquired for a class admits the channel: it lists it, or lists
nothing at all. -/
def Admits (inquired : Json) (cfi : Key) : Prop :=
  inquired.truthy = false ∨ ∃ elems, inquired.iter = .ok elems ∧ some cfi ∈ elems.map Json.key?

/-- Indexing agrees with iterating, wherever indexing returns. -/
theorem iter_of_item {j e : Json} {i : Nat} (h : j.item i = .ok e) :
    ∃ es, j.iter = .ok es ∧ ∀ n x, j.item n = .ok x ↔ es[n]? = some x := by
  cases j with
  | arr xs => exact ⟨xs, rfl, fun n x => Json.item_arr_eq_ok⟩
  | str s =>
      refine ⟨_, rfl, fun n x => ?_⟩
      rw [Json.item, List.getElem?_map]
      cases s.toList[n]? <;> simp
  | obj kvs => simp [Json.item] at h
  | _ => simp [Json.item] at h

/-- The copy keeps the pairs of the inquired channels, in order. -/
theorem overlay_eq_ok {req : List Key} {item maxEirp : Json} {eirps : List Json}
    (hfield : item.field "maxEirp" = .ok maxEirp)
    (hitem : ∀ n x, maxEirp.item n = .ok x ↔ eirps[n]? = some x)
    {chans : List Json} {idx : Nat} {cs es : List Json}
    (h : overlay req item chans idx = .ok (cs, es)) :
    cs.zip es = (chans.zip (eirps.drop idx)).filter fun p => p.1.key? ∈ req.map some := by
  induction chans generalizing idx cs es with
  | nil =>
      simp only [overlay, pure_eq_ok, Except.ok.injEq, Prod.mk.injEq] at h
      rw [← h.1, ← h.2]
      rfl
  | cons chan rest ih =>
      simp only [overlay, bind_eq_ok, Json.hash_eq_ok] at h
      obtain ⟨k, hk, h⟩ := h
      have hkey : chan.key? ∈ req.map some ↔ k ∈ req := by simp [hk]
      -- a kept channel takes the limit at its index, a dropped one skips it
      by_cases hin : k ∈ req
      · rw [if_pos hin] at h
        simp only [bind_eq_ok, hfield, Except.ok.injEq, exists_eq_left', pure_eq_ok,
          Prod.mk.injEq] at h
        obtain ⟨eirp, heirp, ⟨cs', es'⟩, hrest, hcs, hes⟩ := h
        have hidx := (hitem idx eirp).mp heirp
        have hdrop : eirps.drop idx = eirp :: eirps.drop (idx + 1) :=
          List.drop_eq_getElem?_toList_append ▸ by simp [hidx]
        rw [← hcs, ← hes, hdrop, List.zip_cons_cons, List.zip_cons_cons,
          List.filter_cons_of_pos (by simpa using hkey.mpr hin), ih hrest]
      · rw [if_neg hin] at h
        rw [ih h]
        cases hdrop : eirps.drop idx with
        | nil =>
            have hnil : eirps.drop (idx + 1) = [] := by
              rw [List.drop_eq_nil_iff] at hdrop ⊢
              omega
            simp [hnil]
        | cons eirp rest' =>
            have htail : eirps.drop (idx + 1) = rest' := by
              rw [← List.drop_drop, hdrop]
              rfl
            rw [htail, List.zip_cons_cons, List.filter_cons_of_neg (by simpa using mt hkey.mp hin)]

/-- A channel that is kept has had its limit read. -/
theorem overlay_reads {req : List Key} {item : Json} {chans : List Json} {idx : Nat}
    {r : List Json × List Json} (h : overlay req item chans idx = .ok r)
    (hany : ∃ ch ∈ chans, ch.key? ∈ req.map some) :
    ∃ maxEirp n e, item.field "maxEirp" = .ok maxEirp ∧ maxEirp.item n = .ok e := by
  induction chans generalizing idx r with
  | nil =>
      obtain ⟨ch, hch, -⟩ := hany
      exact absurd hch List.not_mem_nil
  | cons chan rest ih =>
      simp only [overlay, bind_eq_ok, Json.hash_eq_ok] at h
      obtain ⟨k, hk, h⟩ := h
      by_cases hin : k ∈ req
      · simp only [if_pos hin, bind_eq_ok] at h
        obtain ⟨maxEirp, hmax, e, he, -⟩ := h
        exact ⟨maxEirp, idx, e, hmax, he⟩
      · rw [if_neg hin] at h
        obtain ⟨ch, hch, hkey⟩ := hany
        rcases List.mem_cons.mp hch with rfl | hch
        · rw [hk, List.mem_map_of_injective (Option.some_injective _)] at hkey
          exact absurd hkey hin
        · exact ih h ⟨ch, hch, hkey⟩

/-- What happens to an item, by what was inquired for its class. -/
inductive ChannelItem (item : Json) (k : Key) : Option Json → Option Json → Prop
  | dropped : ChannelItem item k none none
  | whole {inquired : Json} : inquired.truthy = false → ChannelItem item k (some inquired) (some item)
  | disjoint {inquired channelCfi : Json} {elems chans : List Json} :
      inquired.truthy = true → inquired.iter = .ok elems → item.field "channelCfi" = .ok channelCfi →
      channelCfi.iter = .ok chans → (∀ ch ∈ chans, ch.key? ∉ elems.map Json.key?) →
      ChannelItem item k (some inquired) none
  | cut {inquired item' : Json} {elems : List Json} {pairs : List (Json × Json)} :
      inquired.truthy = true → inquired.iter = .ok elems → classKey item' = .ok k →
      itemPairs item = .ok pairs →
      itemPairs item' = .ok (pairs.filter fun p => p.1.key? ∈ elems.map Json.key?) →
      ChannelItem item k (some inquired) (some item')

/-- `hash` of every element is its key. -/
theorem mapM_hash_eq_ok {xs : List Json} {ks : List Key} (h : xs.mapM Json.hash = .ok ks) :
    xs.map Json.key? = ks.map some := by
  induction xs generalizing ks with
  | nil =>
      rw [List.mapM_nil, pure_eq_ok, Except.ok.injEq] at h
      subst h
      rfl
  | cons x xs ih =>
      simp only [List.mapM_cons, bind_eq_ok, pure_eq_ok, Except.ok.injEq, Json.hash_eq_ok] at h
      obtain ⟨k, hk, rest, hrest, rfl⟩ := h
      rw [List.map_cons, List.map_cons, hk, ih hrest]

/-- The two sets meet when some channel of the item was inquired. -/
theorem any_mem_keys_iff {elems chans : List Json} {req respChans : List Key}
    (hreq : elems.map Json.key? = req.map some) (hresp : chans.map Json.key? = respChans.map some) :
    req.any (· ∈ respChans) = true ↔ ∃ ch ∈ chans, ch.key? ∈ elems.map Json.key? := by
  rw [hreq, List.any_eq_true]
  constructor
  · rintro ⟨k, hk, hk'⟩
    have hmem : some k ∈ chans.map Json.key? := by
      rw [hresp]
      exact List.mem_map_of_mem (by simpa using hk')
    obtain ⟨ch, hch, hkey⟩ := List.mem_map.mp hmem
    exact ⟨ch, hch, hkey ▸ List.mem_map_of_mem hk⟩
  · rintro ⟨ch, hch, hkey⟩
    obtain ⟨k, hk, hk'⟩ := List.mem_map.mp hkey
    have hmem : ch.key? ∈ respChans.map some := hresp ▸ List.mem_map_of_mem hch
    rw [← hk', List.mem_map_of_injective (Option.some_injective _)] at hmem
    exact ⟨k, hk, by simpa using hmem⟩

/-- Writing the two copied lists cuts the pairs of the item, and keeps its
class. -/
theorem cut_pairs {item channelCfi cut₁ cut₂ : Json} {elems chans cs es : List Json} {req : List Key}
    (hcfi : item.field "channelCfi" = .ok channelCfi) (hchans : channelCfi.iter = .ok chans)
    (hreq : elems.map Json.key? = req.map some)
    (hany : ∃ ch ∈ chans, ch.key? ∈ elems.map Json.key?)
    (hoverlay : overlay req item chans 0 = .ok (cs, es))
    (hcut₁ : item.setField "channelCfi" (.arr cs) = .ok cut₁)
    (hcut₂ : cut₁.setField "maxEirp" (.arr es) = .ok cut₂) :
    classKey cut₂ = classKey item ∧ ∃ pairs, itemPairs item = .ok pairs ∧
      itemPairs cut₂ = .ok (pairs.filter fun p => p.1.key? ∈ elems.map Json.key?) := by
  have hfield₁ := Json.field_setField hcut₁
  have hfield₂ := Json.field_setField hcut₂
  obtain ⟨maxEirp, n, e, hmax, he⟩ := overlay_reads hoverlay (hreq ▸ hany)
  obtain ⟨eirps, heirps, hitem⟩ := iter_of_item he
  have hzip := overlay_eq_ok hmax hitem hoverlay
  have hclass : cut₂.field "globalOperatingClass" = item.field "globalOperatingClass" := by
    rw [hfield₂, if_neg (by decide), hfield₁, if_neg (by decide)]
  have hcs : cut₂.field "channelCfi" = .ok (.arr cs) := by
    rw [hfield₂, if_neg (by decide), hfield₁, if_pos rfl]
  have hes : cut₂.field "maxEirp" = .ok (.arr es) := by
    rw [hfield₂, if_pos rfl]
  refine ⟨by rw [classKey, classKey, hclass], chans.zip eirps, ?_, ?_⟩
  · simp only [itemPairs, hcfi, hchans, hmax, heirps, ok_bind, pure_eq_ok]
  · simp only [itemPairs, hcs, hes, Json.iter, ok_bind, pure_eq_ok, Except.ok.injEq]
    rw [hzip, List.drop_zero, hreq]

/-- The item filter in cases. -/
theorem filterChannelItem_cases {dict : List (Key × Json)} {item : Json} {o : Option Json}
    (h : filterChannelItem dict item = .ok o) :
    ∃ k, classKey item = .ok k ∧ ChannelItem item k (dict.lookup k) o := by
  simp only [filterChannelItem, bind_eq_ok, Json.hash_eq_ok] at h
  obtain ⟨operClass, hclass, k, hk, h⟩ := h
  have hclassKey : classKey item = .ok k := by
    simp only [classKey, bind_eq_ok, Json.hash_eq_ok]
    exact ⟨operClass, hclass, hk⟩
  refine ⟨k, hclassKey, ?_⟩
  cases hlookup : dict.lookup k with
  | none =>
      simp only [hlookup, pure_eq_ok, Except.ok.injEq] at h
      subst h
      exact .dropped
  | some inquired =>
      simp only [hlookup, bind_eq_ok] at h
      obtain ⟨channelCfi, hcfi, chans, hchans, respChans, hresp, h⟩ := h
      cases htruthy : inquired.truthy with
      | false =>
          simp only [htruthy, Bool.false_eq_true, if_false, pure_eq_ok, Except.ok.injEq] at h
          subst h
          exact .whole htruthy
      | true =>
          simp only [htruthy, if_true, bind_eq_ok] at h
          obtain ⟨elems, helems, req, hreq, h⟩ := h
          have hreqKeys := mapM_hash_eq_ok hreq
          have hany := any_mem_keys_iff hreqKeys (mapM_hash_eq_ok hresp)
          by_cases hcut : req.any (· ∈ respChans) = true
          · rw [if_pos hcut] at h
            simp only [bind_eq_ok, pure_eq_ok, Except.ok.injEq] at h
            obtain ⟨⟨cs, es⟩, hoverlay, cut₁, hcut₁, cut₂, hcut₂, rfl⟩ := h
            obtain ⟨hclassCut, pairs, hpairs, hpairsCut⟩ :=
              cut_pairs hcfi hchans hreqKeys (hany.mp hcut) hoverlay hcut₁ hcut₂
            exact .cut htruthy helems (hclassCut.trans hclassKey) hpairs hpairsCut
          · rw [if_neg hcut] at h
            simp only [pure_eq_ok, Except.ok.injEq] at h
            subst h
            exact .disjoint htruthy helems hcfi hchans fun ch hch hmem => hcut (hany.mpr ⟨ch, hch, hmem⟩)

/-- What the filter leaves of an item: the pairs its class admits, in the
order of the vector. -/
theorem channelItem_lists {item : Json} {k : Key} {inquired o : Option Json}
    (h : ChannelItem item k inquired o) (cfi : Key) (eirp : Json) :
    (∃ item', o = some item' ∧ Lists item' cfi eirp) ↔
      Lists item cfi eirp ∧ ∃ value, inquired = some value ∧ Admits value cfi := by
  cases h with
  | dropped => simp
  | @whole inquired hfalsy => simp [Admits, hfalsy]
  | @disjoint inquired channelCfi elems chans htruthy helems hcfi hchans hnone =>
      simp only [reduceCtorEq, false_and, exists_false, false_iff, Option.some.injEq,
        exists_eq_left']
      rintro ⟨⟨pairs, ch, hpairs, hmem, hkey⟩, hadmits⟩
      simp only [itemPairs, hcfi, hchans, ok_bind, bind_eq_ok, pure_eq_ok, Except.ok.injEq] at hpairs
      obtain ⟨maxEirp, -, eirps, -, rfl⟩ := hpairs
      rcases hadmits with hfalsy | ⟨elems', helems', hin⟩
      · rw [htruthy] at hfalsy
        exact absurd hfalsy (by decide)
      · rw [helems, Except.ok.injEq] at helems'
        subst helems'
        exact hnone ch (List.of_mem_zip hmem).1 (hkey ▸ hin)
  | @cut inquired item' elems pairs htruthy helems hclass hpairs hpairs' =>
      simp only [Option.some.injEq, exists_eq_left']
      constructor
      · rintro ⟨pairs', ch, hp, hmem, hkey⟩
        rw [hpairs', Except.ok.injEq] at hp
        subst hp
        rw [List.mem_filter, decide_eq_true_eq] at hmem
        exact ⟨⟨pairs, ch, hpairs, hmem.1, hkey⟩, .inr ⟨elems, helems, hkey ▸ hmem.2⟩⟩
      · rintro ⟨⟨pairs', ch, hp, hmem, hkey⟩, hadmits⟩
        rw [hpairs, Except.ok.injEq] at hp
        subst hp
        refine ⟨_, ch, hpairs', List.mem_filter.mpr ⟨hmem, ?_⟩, hkey⟩
        rcases hadmits with hfalsy | ⟨elems', helems', hin⟩
        · rw [htruthy] at hfalsy
          exact absurd hfalsy (by decide)
        · rw [helems, Except.ok.injEq] at helems'
          subst helems'
          simpa [hkey] using hin

/-- A kept item has the class and, in order, pairs of the original. -/
theorem channelItem_sublist {item item' : Json} {k : Key} {inquired : Option Json}
    (hclass : classKey item = .ok k) (h : ChannelItem item k inquired (some item')) :
    classKey item' = .ok k ∧ ∀ pairs', itemPairs item' = .ok pairs' →
      ∃ pairs, itemPairs item = .ok pairs ∧ pairs'.Sublist pairs := by
  cases h with
  | whole hfalsy => exact ⟨hclass, fun pairs' h' => ⟨pairs', h', .refl _⟩⟩
  | @cut inquired _ elems pairs htruthy helems hclass' hpairs hpairs' =>
      refine ⟨hclass', fun ps hps => ⟨pairs, hpairs, ?_⟩⟩
      rw [hpairs', Except.ok.injEq] at hps
      exact hps ▸ List.filter_sublist

/-! ## One item of `availableFrequencyInfo` -/

/-- The range of an item is contained in one inquired range. -/
def WithinRange (item : Json) (ranges : List (Json × Json)) : Prop :=
  ∃ freqRange l h x y, item.field "frequencyRange" = .ok freqRange ∧
    freqRange.field "lowFrequency" = .ok l ∧ freqRange.field "highFrequency" = .ok h ∧
    l.num? = some x ∧ h.num? = some y ∧
    ∃ r ∈ ranges, ∃ low high, r.1.num? = some low ∧ r.2.num? = some high ∧ low ≤ x ∧ y ≤ high

theorem le_eq_ok {a b : Json} {c : Bool} :
    le a b = .ok c ↔ ∃ x y, a.num? = some x ∧ b.num? = some y ∧ decide (x ≤ y) = c := by
  simp only [le, bind_eq_ok, Json.num_eq_ok, pure_eq_ok, Except.ok.injEq]
  constructor
  · rintro ⟨x, hx, y, hy, h⟩
    exact ⟨x, y, hx, hy, h⟩
  · rintro ⟨x, y, hx, hy, h⟩
    exact ⟨x, hx, y, hy, h⟩

/-- The loop over the inquired ranges finds one that contains the range. -/
theorem isInquiredFreqRange_iff {l h : Json} {ranges : List (Json × Json)} {b : Bool}
    (hok : isInquiredFreqRange l h ranges = .ok b) :
    b = true ↔ ∃ x y, l.num? = some x ∧ h.num? = some y ∧
      ∃ r ∈ ranges, ∃ low high, r.1.num? = some low ∧ r.2.num? = some high ∧ low ≤ x ∧ y ≤ high := by
  induction ranges with
  | nil =>
      simp only [isInquiredFreqRange, pure_eq_ok, Except.ok.injEq] at hok
      subst hok
      simp
  | cons r rest ih =>
      simp only [isInquiredFreqRange, bind_eq_ok] at hok
      obtain ⟨c, hc, hok⟩ := hok
      obtain ⟨low, x, hlow, hx, hcx⟩ := le_eq_ok.mp hc
      -- a range that does not contain the item's leaves the answer to the rest
      have hlater : isInquiredFreqRange l h rest = .ok b →
          (∀ high y, r.2.num? = some high → h.num? = some y → low ≤ x → ¬ y ≤ high) →
          (b = true ↔ ∃ x y, l.num? = some x ∧ h.num? = some y ∧
            ∃ q ∈ r :: rest, ∃ low high, q.1.num? = some low ∧ q.2.num? = some high ∧
              low ≤ x ∧ y ≤ high) := by
        intro hrest hno
        rw [ih hrest]
        refine exists_congr fun x' => exists_congr fun y => and_congr_right fun hx' =>
          and_congr_right fun hy => ?_
        rw [List.exists_mem_cons_iff, or_iff_right]
        rintro ⟨low', high, hlow', hhigh, hle, hle'⟩
        rw [hlow, Option.some.injEq] at hlow'
        rw [hx, Option.some.injEq] at hx'
        subst hlow' hx'
        exact hno high y hhigh hy hle hle'
      cases c with
      | false =>
          simp only [Bool.false_eq_true, if_false] at hok
          exact hlater hok fun _ _ _ _ hle => absurd hle (by simpa using hcx)
      | true =>
          simp only [if_true, bind_eq_ok] at hok
          obtain ⟨c', hc', hok⟩ := hok
          obtain ⟨y, high, hy, hhigh, hcy⟩ := le_eq_ok.mp hc'
          cases c' with
          | false =>
              simp only [Bool.false_eq_true, if_false] at hok
              refine hlater hok fun high' y' hhigh' hy' _ => ?_
              rw [hhigh, Option.some.injEq] at hhigh'
              rw [hy, Option.some.injEq] at hy'
              subst hhigh' hy'
              simpa using hcy
          | true =>
              simp only [if_true, pure_eq_ok, Except.ok.injEq] at hok
              subst hok
              exact iff_of_true rfl ⟨x, y, hx, hy, r, List.mem_cons_self, low, high, hlow, hhigh,
                by simpa using hcx, by simpa using hcy⟩

/-- The filter keeps an item unchanged, and exactly when its range was
inquired. -/
theorem filterFreqItem_eq_ok {ranges : List (Json × Json)} {item : Json} {o : Option Json}
    (h : filterFreqItem ranges item = .ok o) (item' : Json) :
    o = some item' ↔ item' = item ∧ WithinRange item ranges := by
  simp only [filterFreqItem, bind_eq_ok] at h
  obtain ⟨freqRange, hrange, l, hl, hi, hhi, b, hb, h⟩ := h
  have hwithin : WithinRange item ranges ↔ b = true := by
    rw [isInquiredFreqRange_iff hb]
    constructor
    · rintro ⟨freqRange', l', h', x, y, hr', hl', hh', hx, hy, hex⟩
      rw [hrange, Except.ok.injEq] at hr'
      subst hr'
      rw [hl, Except.ok.injEq] at hl'
      rw [hhi, Except.ok.injEq] at hh'
      subst hl' hh'
      exact ⟨x, y, hx, hy, hex⟩
    · rintro ⟨x, y, hx, hy, hex⟩
      exact ⟨freqRange, l, hi, x, y, hrange, hl, hhi, hx, hy, hex⟩
  cases b with
  | false =>
      simp only [Bool.false_eq_true, if_false, pure_eq_ok, Except.ok.injEq] at h
      subst h
      rw [hwithin]
      simp
  | true =>
      simp only [if_true, pure_eq_ok, Except.ok.injEq] at h
      subst h
      rw [hwithin, Option.some.injEq]
      exact ⟨fun heq => ⟨heq.symm, rfl⟩, fun heq => heq.1.symm⟩

end AfcDut.Service
