import AfcDut.Py.Raises
import AfcDut.Indigo.Server
import AfcDut.Indigo.Parse
import AfcDut.Indigo.Fill

/-!
# Acknowledgements and responses

What the control server sends for a datagram. Nothing is printed or captured:
`debug_packet` and `capture_packet` are 0.
-/

namespace AfcDut.Indigo

/-! ## Messages -/

/-- An `API_CMD_ACK` message with this status byte. -/
def Ack (seq : UInt16) (status : UInt8) (msg : List UInt8) : Prop :=
  ∃ st reason : Tlv, st.id = tlvStatus ∧ st.value = [status] ∧ reason.id = tlvMessage ∧
    msg = messageBytes ⟨apiVersion, apiCmdAck, seq, apiReservedByte, apiReservedByte⟩
      [st, reason]

/-- A message with the header of an `API_CMD_RESPONSE`. -/
def Response (seq : UInt16) (msg : List UInt8) : Prop :=
  ∃ hdr body, hdr.type = apiCmdResponse ∧ hdr.seq = seq ∧ msg = MessageHdr.bytes hdr ++ body

/-- One NACK and nothing more, or one ACK and then one response. -/
def Answered (seq : UInt16) (sent : List (List UInt8)) : Prop :=
  (∃ nack status, status ≠ 0x30 ∧ Ack seq status nack ∧ sent = [nack]) ∨
    (∃ ack resp, Ack seq 0x30 ack ∧ Response seq resp ∧ sent = [ack, resp])

/-- The server answers the datagram, with its sequence number when it has one. -/
def FollowsProtocol (apis : List IndigoApi) (buffer : List UInt8) (len : Nat) : Prop :=
  ∃ seq sent, controlReceiveMessage apis buffer len = .ok sent ∧ Answered seq sent ∧
    ∀ hdr body, buffer.take len = MessageHdr.bytes hdr ++ body → seq = hdr.seq

/-- The status byte of an acknowledgement can be read off it. -/
theorem Ack.status_unique {seq seq' : UInt16} {status status' : UInt8} {msg : List UInt8}
    (ack : Ack seq status msg) (ack' : Ack seq' status' msg) : status = status' := by
  obtain ⟨st, reason, _, value, _, rfl⟩ := ack
  obtain ⟨st', reason', _, value', _, same⟩ := ack'
  have whole := shape_messageBytes
    ⟨apiVersion, apiCmdAck, seq, apiReservedByte, apiReservedByte⟩ [st, reason]
  rw [same] at whole
  have tlvs := (whole.unique (shape_messageBytes _ _)).2.1
  injection tlvs with first _
  rw [first, value'] at value
  injection value with status
  exact status.symm

/-! ## The handler table -/

theorem getApiById_cons (api : IndigoApi) (apis : List IndigoApi) (type : UInt16) :
    getApiById (api :: apis) type = if type = api.type then some api else getApiById apis type := by
  rw [getApiById, List.find?_cons]
  by_cases same : type = api.type
  · have found : (type == api.type) = true := beq_iff_eq.mpr same
    rw [if_pos same, found]
  · have other : (type == api.type) = false := beq_eq_false_iff_ne.mpr same
    rw [if_neg same, other]
    rfl

theorem getApiById_registerApi (id type : UInt16) (verify handle : Option ApiCallbackFunc)
    (apis : List IndigoApi) :
    getApiById (registerApi id verify handle apis) type =
      if type = id then (getApiById apis type).map fun api => { api with verify, handle }
      else getApiById apis type := by
  induction apis with
  | nil => simp [registerApi, getApiById]
  | cons api apis ih =>
      rw [registerApi, getApiById_cons]
      by_cases here : id = api.type
      · rw [if_pos (beq_iff_eq.mpr here), getApiById_cons]
        by_cases asked : type = id
        · have found : type = api.type := asked.trans here
          rw [if_pos asked, if_pos found, if_pos found]
          rfl
        · have other : type ≠ api.type := here ▸ asked
          rw [if_neg asked, if_neg other, if_neg other]
      · rw [if_neg (fun same => here (beq_iff_eq.mp same)), getApiById_cons]
        by_cases found : type = api.type
        · have asked : type ≠ id := by
            intro same
            exact here (same.symm.trans found)
          rw [if_pos found, if_neg asked, if_pos found]
        · rw [if_neg found, if_neg found, ih]

/-- The types that `register_apis` gives a handler. -/
def registeredTypes : List UInt16 :=
  [apiGetControlAppVersion, apiAfcdConfigure, apiAfcdOperation, apiAfcdGetInfo]

theorem indigoApiList_bare : ∀ api ∈ indigoApiList, api.verify = none ∧ api.handle = none := by
  have bare : (indigoApiList.all fun api => api.verify.isNone && api.handle.isNone) = true := rfl
  intro api mem
  have both := List.all_eq_true.mp bare api mem
  rw [Bool.and_eq_true, Option.isNone_iff_eq_none, Option.isNone_iff_eq_none] at both
  exact both

/-- The entry of a type has no check and this handler. -/
def Handles (apis : List IndigoApi) (type : UInt16) (handle : Option ApiCallbackFunc) : Prop :=
  ∃ api, getApiById apis type = some api ∧ api.verify = none ∧ api.handle = handle

theorem handles_bare {type : UInt16} (known : KnownApi type) :
    Handles indigoApiList type none := by
  obtain ⟨api, found⟩ := Option.isSome_iff_exists.mp known
  exact ⟨api, found, indigoApiList_bare api (List.mem_of_find?_eq_some found)⟩

theorem Handles.registerApi {apis : List IndigoApi} {type : UInt16}
    {handle : Option ApiCallbackFunc} (before : Handles apis type handle) (id : UInt16)
    (f : ApiCallbackFunc) :
    Handles (registerApi id none (some f) apis) type (if type = id then some f else handle) := by
  obtain ⟨api, found, verify, old⟩ := before
  rw [Handles, getApiById_registerApi, found]
  by_cases same : type = id
  · rw [if_pos same, if_pos same]
    exact ⟨_, rfl, rfl, rfl⟩
  · rw [if_neg same, if_neg same]
    exact ⟨api, rfl, verify, old⟩

/-- The function that `register_apis` ties to a type. -/
def handlerOf (h : AfcHandlers) (type : UInt16) : Option ApiCallbackFunc :=
  if type = apiAfcdGetInfo then some h.afcdGetInfo
  else if type = apiAfcdOperation then some h.afcdOperation
  else if type = apiAfcdConfigure then some h.afcdConfigure
  else if type = apiGetControlAppVersion then some h.getControlApp
  else none

theorem handles_registerApis (h : AfcHandlers) {type : UInt16} (known : KnownApi type) :
    Handles (registerApis h indigoApiList) type (handlerOf h type) :=
  (((handles_bare known).registerApi apiGetControlAppVersion h.getControlApp).registerApi
    apiAfcdConfigure h.afcdConfigure).registerApi apiAfcdOperation h.afcdOperation
      |>.registerApi apiAfcdGetInfo h.afcdGetInfo

theorem handlerOf_eq_none_iff (h : AfcHandlers) (type : UInt16) :
    handlerOf h type = none ↔ type ∉ registeredTypes := by
  simp only [handlerOf, registeredTypes, List.mem_cons, List.not_mem_nil, or_false, not_or]
  constructor
  · intro none
    split at none
    · exact absurd none (by simp)
    split at none
    · exact absurd none (by simp)
    split at none
    · exact absurd none (by simp)
    split at none
    · exact absurd none (by simp)
    rename_i info operation configure version
    exact ⟨version, configure, operation, info⟩
  · intro ⟨version, configure, operation, info⟩
    rw [if_neg info, if_neg operation, if_neg configure, if_neg version]

theorem handlerOf_mem {h : AfcHandlers} {type : UInt16} {f : ApiCallbackFunc}
    (handler : handlerOf h type = some f) :
    f = h.getControlApp ∨ f = h.afcdConfigure ∨ f = h.afcdOperation ∨ f = h.afcdGetInfo := by
  unfold handlerOf at handler
  split at handler
  · exact .inr (.inr (.inr (Option.some.inj handler).symm))
  split at handler
  · exact .inr (.inr (.inl (Option.some.inj handler).symm))
  split at handler
  · exact .inr (.inl (Option.some.inj handler).symm)
  split at handler
  · exact .inl (Option.some.inj handler).symm
  · exact absurd handler (by simp)

/-! ## What is sent -/

theorem ofInt_toNat (x : UInt16) : UInt16.ofInt x.toNat = x := by
  have lt : x.toNat < 65536 := x.toNat_lt
  apply UInt16.toNat_inj.mp
  rw [UInt16.ofInt, UInt16.toNat_ofNat']
  omega

/-- An acknowledgement always has room. -/
theorem sendAck_eq {buffer : List UInt8} (long : bufferLen ≤ buffer.length) (seq : UInt16)
    (status : Int) {reason : String} (short : (cString reason).length < 256) :
    ∃ msg out, sendAck buffer .zero seq status reason = .ok (msg, out) ∧
      Ack seq (UInt8.ofInt status) msg ∧ bufferLen ≤ out.length := by
  let st : Tlv := ⟨tlvStatus, [UInt8.ofInt status], show 1 < 256 by decide⟩
  let text : Tlv := ⟨tlvMessage, cString reason, short⟩
  let hdr : MessageHdr := ⟨apiVersion, apiCmdAck, seq, apiReservedByte, apiReservedByte⟩
  have all : (cString reason).take (UInt8.ofNat (cString reason).length).toNat =
      cString reason := by
    rw [UInt8.toNat_ofNat', Nat.mod_eq_of_lt short, List.take_length]
  have filled : fillWrapperAck .zero seq.toNat status reason =
      .ok ⟨hdr, [st, text].map Tlv.toHdr, [st, text].length⟩ := by
    show Except.ok (PacketWrapper.mk ⟨apiVersion, apiCmdAck, UInt16.ofInt seq.toNat, _, _⟩
      [_, ⟨tlvMessage, _, (cString reason).take _⟩] 2) = _
    rw [ofInt_toNat, all]
    rfl
  have length : (messageBytes hdr [st, text]).length = 14 + (cString reason).length := by
    show (hdr.bytes ++ (st.encode ++ (text.encode ++ []))).length = _
    rw [List.length_append, List.length_append, List.length_append, st.length_encode,
      text.length_encode, hdr.length_bytes]
    show 7 + (1 + 3 + ((cString reason).length + 3 + 0)) = _
    omega
  have room : (messageBytes hdr [st, text]).length ≤ bufferLen := by
    rw [length]
    show _ ≤ 1536
    omega
  have run := assemblePacket_all (readable_whole hdr [st, text])
    (by rw [bytes_whole]; exact room) long
  rw [bytes_whole] at run
  refine ⟨messageBytes hdr [st, text], patch buffer 0 (messageBytes hdr [st, text]), ?_,
    ⟨st, text, rfl, rfl, rfl, rfl⟩, ?_⟩
  · rw [sendAck, filled]
    show (assemblePacket buffer bufferLen _).bind _ = _
    rw [run]
    show Except.ok (List.take _ _, _) = _
    rw [Int.toNat_natCast, take_patch_zero (Nat.le_trans room long)]
  · rw [length_patch (by omega)]
    exact long

/-- The handler fills one `CMD_RESPONSE` with the sequence number of the
request and returns 0. -/
def Responds (f : ApiCallbackFunc) : Prop :=
  ∀ req, ∃ calls resp, calls.length ≤ tlvNumMax ∧
    fillWrapper apiCmdResponse.toNat req.hdr.seq.toNat calls = .ok resp ∧
    f req .zero = (0, resp)

structure AfcHandlers.Respond (h : AfcHandlers) : Prop where
  getControlApp : Responds h.getControlApp
  afcdConfigure : Responds h.afcdConfigure
  afcdOperation : Responds h.afcdOperation
  afcdGetInfo : Responds h.afcdGetInfo

theorem AfcHandlers.Respond.handlerOf {h : AfcHandlers} (respond : h.Respond) {type : UInt16}
    {f : ApiCallbackFunc} (handler : handlerOf h type = some f) : Responds f := by
  rcases handlerOf_mem handler with rfl | rfl | rfl | rfl
  · exact respond.getControlApp
  · exact respond.afcdConfigure
  · exact respond.afcdOperation
  · exact respond.afcdGetInfo

/-- Whatever the response holds, its header is sent. -/
theorem assembled_response {f : ApiCallbackFunc} (responds : Responds f) (req : PacketWrapper)
    {buffer : List UInt8} (long : bufferLen ≤ buffer.length) :
    ∃ resp, f req .zero = (0, resp) ∧
      ∃ len out, assemblePacket buffer bufferLen resp = .ok (len, out) ∧
        Response req.hdr.seq (sendto out len) := by
  obtain ⟨calls, resp, count, filled, run⟩ := responds req
  rw [fillWrapper_eq count] at filled
  injection filled with filled
  subst filled
  have readable : ∀ t ∈ PacketWrapper.tlvs ⟨filledHdr apiCmdResponse.toNat req.hdr.seq.toNat,
      calls.map FillCall.tlv, calls.length⟩, t.Readable := by
    rw [filled_tlvs]
    exact readable_filled calls
  obtain ⟨len, out, body, assembled, sent⟩ :=
    assemblePacket_keeps readable (show 265 ≤ bufferLen by decide) long
  exact ⟨_, run, _, out, assembled, _, body, ofInt_toNat apiCmdResponse,
    ofInt_toNat req.hdr.seq, sent⟩

section

variable {apis : List IndigoApi} {buffer : List UInt8} {len : Nat} {req : PacketWrapper}

theorem receive_refused (long : bufferLen ≤ buffer.length)
    (parse : parsePacket .zero buffer len = .ok (-1, req)) :
    ∃ nack, controlReceiveMessage apis buffer len = .ok [nack] ∧ Ack req.hdr.seq 0x31 nack := by
  obtain ⟨nack, out, sent, ack, _⟩ := sendAck_eq long req.hdr.seq 0x31
    (show (cString "Unable to parse the packet").length < 256 by decide +kernel)
  refine ⟨nack, ?_, ack⟩
  rw [controlReceiveMessage, parse]
  show (sendAck buffer .zero req.hdr.seq 0x31 "Unable to parse the packet").bind _ = _
  rw [sent]
  rfl

theorem receive_unhandled (long : bufferLen ≤ buffer.length)
    (parse : parsePacket .zero buffer len = .ok (0, req)) (handles : Handles apis req.hdr.type none) :
    ∃ ack, controlReceiveMessage apis buffer len = .ok [ack] ∧ Ack req.hdr.seq 0x30 ack := by
  obtain ⟨api, found, noVerify, noHandle⟩ := handles
  obtain ⟨ack, out, sent, isAck, _⟩ := sendAck_eq long req.hdr.seq 0x30
    (show (cString "ACK: Command received").length < 256 by decide +kernel)
  refine ⟨ack, ?_, isAck⟩
  rw [controlReceiveMessage, parse]
  simp only [Py.ok_bind, ne_eq, not_true_eq_false, if_false, found, noVerify, sent, noHandle]
  rfl

theorem receive_handled (long : bufferLen ≤ buffer.length)
    (parse : parsePacket .zero buffer len = .ok (0, req)) {f : ApiCallbackFunc}
    (handles : Handles apis req.hdr.type (some f)) (responds : Responds f) :
    ∃ ack resp, controlReceiveMessage apis buffer len = .ok [ack, resp] ∧
      Ack req.hdr.seq 0x30 ack ∧ Response req.hdr.seq resp := by
  obtain ⟨api, found, noVerify, handler⟩ := handles
  obtain ⟨ack, out, sent, isAck, long'⟩ := sendAck_eq long req.hdr.seq 0x30
    (show (cString "ACK: Command received").length < 256 by decide +kernel)
  obtain ⟨resp, filled, len', out', assembled, response⟩ := assembled_response responds req long'
  refine ⟨ack, sendto out' len', ?_, isAck, response⟩
  rw [controlReceiveMessage, parse]
  simp only [Py.ok_bind, ne_eq, not_true_eq_false, if_false, found, noVerify, sent, handler,
    filled, if_true, assembled]
  rfl

end

/-! ## The protocol -/

section

variable {h : AfcHandlers} {buffer tail : List UInt8} {len : Nat} {hdr : MessageHdr}
variable {ts : List Tlv}

/-- The sequence number of the messages sent is that of the datagram. -/
theorem Shape.seq_eq (shape : Shape (buffer.take len) hdr ts tail) :
    ∀ hdr' body, buffer.take len = MessageHdr.bytes hdr' ++ body → hdr.seq = hdr'.seq := by
  intro hdr' body eq
  have same := shape.eq.symm.trans eq
  rw [messageBytes, List.append_assoc] at same
  rw [MessageHdr.bytes_injective (List.append_inj same rfl).1]

/-- An accepted datagram is answered iff its type has a handler. -/
theorem follows_of_accepts (respond : h.Respond) (long : bufferLen ≤ buffer.length)
    (shape : Shape (buffer.take len) hdr ts tail) {req : PacketWrapper} (known : KnownApi hdr.type)
    (seq : req.hdr = hdr) (parse : parsePacket .zero buffer len = .ok (0, req)) :
    FollowsProtocol (registerApis h indigoApiList) buffer len ↔ hdr.type ∈ registeredTypes := by
  have handles : Handles (registerApis h indigoApiList) req.hdr.type (handlerOf h hdr.type) := by
    rw [seq]
    exact handles_registerApis h known
  cases handler : handlerOf h hdr.type with
  | none =>
      have unhandled := (handlerOf_eq_none_iff h hdr.type).mp handler
      rw [handler] at handles
      obtain ⟨ack, run, isAck⟩ := receive_unhandled long parse handles
      constructor
      · intro ⟨_, sent, run', answered, _⟩
        rw [run] at run'
        injection run' with same
        subst same
        rcases answered with ⟨nack, status, other, isNack, one⟩ | ⟨_, _, _, _, two⟩
        · injection one with one
          subst one
          exact absurd (isNack.status_unique isAck) other
        · exact absurd (congrArg List.length two) (by simp)
      · intro handled
        exact absurd handled unhandled
  | some f =>
      have handled : hdr.type ∈ registeredTypes := by
        apply Classical.byContradiction
        intro unhandled
        rw [(handlerOf_eq_none_iff h hdr.type).mpr unhandled] at handler
        exact absurd handler (by simp)
      have responds := respond.handlerOf handler
      rw [handler] at handles
      obtain ⟨ack, resp, run, isAck, response⟩ := receive_handled long parse handles responds
      rw [seq] at isAck response
      constructor
      · intro _
        exact handled
      · intro _
        exact ⟨hdr.seq, _, run, .inr ⟨ack, resp, isAck, response, rfl⟩, shape.seq_eq⟩

theorem Shape.follows_iff (respond : h.Respond) (long : bufferLen ≤ buffer.length)
    (received : len ≤ buffer.length) (shape : Shape (buffer.take len) hdr ts tail) :
    FollowsProtocol (registerApis h indigoApiList) buffer len ↔
      InReach ts tail (buffer.drop len) ∧ (Accepts hdr ts tail → hdr.type ∈ registeredTypes) := by
  have length : (buffer.take len).length = len := by
    rw [List.length_take]
    omega
  rcases Classical.em (InReach ts tail (buffer.drop len)) with reach | beyond
  · have parse := shape.parsePacket reach
    rw [List.take_append_drop, length] at parse
    have seq : (parsed hdr ts tail (buffer.drop len)).hdr = hdr := parsed_hdr
    rcases Decidable.em (Accepts hdr ts tail) with accepts | refuses
    · rw [if_pos accepts] at parse
      rw [follows_of_accepts respond long shape accepts.api seq parse]
      constructor
      · intro handled
        exact ⟨reach, fun _ => handled⟩
      · intro ⟨_, handled⟩
        exact handled accepts
    · rw [if_neg refuses] at parse
      obtain ⟨nack, sent, ack⟩ := receive_refused long parse
      rw [seq] at ack
      constructor
      · intro _
        exact ⟨reach, fun accepts => absurd accepts refuses⟩
      · intro _
        exact ⟨hdr.seq, _, sent, .inl ⟨nack, 0x31, by decide, ack, rfl⟩, shape.seq_eq⟩
  · obtain ⟨fault, failed⟩ := shape.parsePacket_fault beyond
    rw [List.take_append_drop, length] at failed
    constructor
    · intro ⟨_, _, run, _⟩
      rw [controlReceiveMessage, failed] at run
      exact absurd run (by simp [bind, Except.bind])
    · intro ⟨reach, _⟩
      exact absurd reach beyond

end

/-- With the handlers of the AFC build the server answers iff the datagram is
too short for a header, or the parser stays in its slots and in the buffer and
does not accept a message whose type has no handler. -/
theorem followsProtocol_iff (h : AfcHandlers) (respond : h.Respond) (buffer : List UInt8)
    (size : buffer.length = bufferLen) (len : Nat) (received : len ≤ bufferLen) :
    FollowsProtocol (registerApis h indigoApiList) buffer len ↔
      len < sizeofMessageHdr ∨
        ∃ hdr ts tail, Shape (buffer.take len) hdr ts tail ∧
          InReach ts tail (buffer.drop len) ∧
          (Accepts hdr ts tail → hdr.type ∈ registeredTypes) := by
  have long : bufferLen ≤ buffer.length := Nat.le_of_eq size.symm
  have length : (buffer.take len).length = len := by
    rw [List.length_take]
    omega
  rcases Nat.lt_or_ge len sizeofMessageHdr with short | hasHdr
  · refine ⟨fun _ => .inl short, fun _ => ?_⟩
    obtain ⟨nack, sent, ack⟩ := receive_refused long (parsePacket_short .zero buffer short)
    refine ⟨_, _, sent, .inl ⟨nack, 0x31, by decide, ack, rfl⟩, ?_⟩
    intro hdr body eq
    have none := congrArg List.length eq
    rw [length, List.length_append, hdr.length_bytes] at none
    omega
  · obtain ⟨hdr, ts, tail, shape⟩ := shape_exists (buffer.take len)
      (by rw [length]; exact hasHdr)
    rw [shape.follows_iff respond long (by omega)]
    constructor
    · intro ⟨reach, handled⟩
      exact .inr ⟨hdr, ts, tail, shape, reach, handled⟩
    · intro answers
      rcases answers with short | ⟨hdr', ts', tail', shape', reach, handled⟩
      · omega
      · obtain ⟨rfl, rfl, rfl⟩ := shape.unique shape'
        exact ⟨reach, handled⟩

/-- A handler that answers with a status and the text `OK`. -/
def okHandler : ApiCallbackFunc := fun req _ =>
  (0, ⟨filledHdr apiCmdResponse.toNat req.hdr.seq.toNat,
    [⟨0xa001, 1, [0x30]⟩, ⟨0xa000, 2, [0x4f, 0x4b]⟩], 2⟩)

def okHandlers : AfcHandlers := ⟨okHandler, okHandler, okHandler, okHandler⟩

theorem responds_okHandler : Responds okHandler := by
  intro req
  exact ⟨[.byte 0xa001 0x30, .bytes 0xa000 [0x4f, 0x4b]], _, by decide,
    fillWrapper_eq (by decide), rfl⟩

theorem respond_okHandlers : okHandlers.Respond :=
  ⟨responds_okHandler, responds_okHandler, responds_okHandler, responds_okHandler⟩

/-- `AP_START_UP` without TLVs, sequence number 7. -/
def apStartUp : List UInt8 := [1, 0x10, 0, 0, 7, 0xff, 0xff]

/-- The receive buffer that holds this datagram and zeros behind it. -/
def received (datagram : List UInt8) : List UInt8 :=
  datagram ++ List.replicate (bufferLen - datagram.length) 0

/-- `AP_START_UP` is acknowledged with `ACK: Command received`, and nothing
follows. -/
theorem apStartUp_left_waiting :
    controlReceiveMessage (registerApis okHandlers indigoApiList) (received apStartUp) 7 =
      .ok [[1, 0, 1, 0, 7, 0xff, 0xff, 0xa0, 0x01, 1, 0x30, 0xa0, 0x00, 21] ++
        cString "ACK: Command received"] ∧
    ¬FollowsProtocol (registerApis okHandlers indigoApiList) (received apStartUp) 7 := by
  have shape : Shape ((received apStartUp).take 7) ⟨1, 0x1000, 7, 0xff, 0xff⟩ [] [] :=
    ⟨by decide +kernel, rfl⟩
  have accepts : Accepts ⟨1, 0x1000, 7, 0xff, 0xff⟩ [] [] := by decide +kernel
  constructor
  · decide +kernel
  · intro follows
    have handled := ((shape.follows_iff respond_okHandlers (by decide +kernel)
      (by decide +kernel)).mp follows).2 accepts
    exact absurd handled (by decide)

/-- `GET_CONTROL_APP_VERSION` without TLVs, which has a handler. -/
def getVersion : List UInt8 := [1, 0x50, 2, 0, 7, 0xff, 0xff]

theorem followsProtocol_getVersion :
    FollowsProtocol (registerApis okHandlers indigoApiList) (received getVersion) 7 := by
  have shape : Shape ((received getVersion).take 7) ⟨1, 0x5002, 7, 0xff, 0xff⟩ [] [] :=
    ⟨by decide +kernel, rfl⟩
  apply (followsProtocol_iff okHandlers respond_okHandlers (received getVersion)
    (by decide +kernel) 7 (by decide)).mpr
  exact .inr ⟨_, _, _, shape, ⟨by decide, Nat.zero_le _⟩, fun _ => by decide⟩

end AfcDut.Indigo
