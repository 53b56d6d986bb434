import AfcDut.ControlApp.WpaCtrl

/-!
# Requests and their replies

Over any run of a connection the replies that are returned answer the commands
in order, one by one, so that after a request that gave up a reply belongs to an
earlier command. Unsolicited messages are never taken for replies.
-/

namespace AfcDut.ControlApp.WpaCtrl

open Lts

abbrev SessionMove := Move Session Event Output

/-! ## The accounts of a connection -/

/-- The command that a step sends. -/
def sentBy (m : SessionMove) : List Datagram :=
  match m.event, m.output with
  | .request cmd _ true, .silent => [cmd]
  | _, _ => []

/-- The command that a step answers, and the answer. -/
def answeredBy (m : SessionMove) : List (Datagram × Datagram) :=
  match m.event with
  | .answer reply => m.before.commands.head?.toList.map fun cmd => (cmd, reply)
  | _ => []

/-- The reply that a step returns, with the room for it. -/
def returnedBy (m : SessionMove) : List (Nat × Datagram) :=
  match m.output with
  | .reply n reply => [(n, reply)]
  | _ => []

def isReply (d : Datagram) : Bool := !unsolicited d

/-- The reply that a step takes from the socket, whole, with the room for it. -/
def takenBy (m : SessionMove) : List (Nat × Datagram) :=
  match m.event, m.before.waiting with
  | .recv, some w => ((m.before.inbox.take 1).filter isReply).map fun d => (w.replyLen, d)
  | _, _ => []

theorem unsolicited_take {d : Datagram} {n : Nat} (h : 0 < n) :
    unsolicited (d.take n) = unsolicited d := by
  obtain ⟨n, rfl⟩ := Nat.exists_eq_succ_of_ne_zero (Nat.ne_of_gt h)
  cases d <;> rfl

/-- The step ends a request with an error. -/
def fails (m : SessionMove) : Bool :=
  match m.output with
  | .failed _ => true
  | _ => false

/-- What a step of the connection can do. -/
inductive SessionStep (m : SessionMove) : Prop
  | request (cmd : Datagram) (w : Waiting) (idle : m.before.waiting = none)
      (after : m.after = ⟨m.before.commands ++ [cmd], m.before.inbox, some w⟩)
      (sent : sentBy m = [cmd]) (answered : answeredBy m = [])
      (returned : returnedBy m = []) (taken : takenBy m = [])
  | answer (cmd : Datagram) (rest : List Datagram) (reply : Datagram)
      (commands : m.before.commands = cmd :: rest)
      (after : m.after = ⟨rest, m.before.inbox ++ [reply], m.before.waiting⟩)
      (isReply : isReply reply = true) (sent : sentBy m = [])
      (answered : answeredBy m = [(cmd, reply)])
      (returned : returnedBy m = []) (taken : takenBy m = [])
  | notify (msg : Datagram)
      (after : m.after = ⟨m.before.commands, m.before.inbox ++ [msg], m.before.waiting⟩)
      (unsolicited : unsolicited msg = true) (sent : sentBy m = [])
      (answered : answeredBy m = []) (returned : returnedBy m = []) (taken : takenBy m = [])
  | skip (w : Waiting) (d : Datagram) (rest : List Datagram) (waiting : m.before.waiting = some w)
      (inbox : m.before.inbox = d :: rest) (unsolicited : unsolicited d = true)
      (after : m.after = ⟨m.before.commands, rest, some w⟩) (sent : sentBy m = [])
      (answered : answeredBy m = []) (returned : returnedBy m = [])
      (taken : takenBy m = [])
  | reply (w : Waiting) (d : Datagram) (rest : List Datagram)
      (waiting : m.before.waiting = some w) (inbox : m.before.inbox = d :: rest)
      (isReply : isReply d = true) (after : m.after = ⟨m.before.commands, rest, none⟩)
      (sent : sentBy m = []) (answered : answeredBy m = [])
      (returned : returnedBy m = [(w.replyLen, d.take w.replyLen)])
      (taken : takenBy m = [(w.replyLen, d)])
  | other (commands : m.after.commands = m.before.commands) (inbox : m.after.inbox = m.before.inbox)
      (waiting : m.after.waiting = m.before.waiting ∨ fails m = true)
      (sent : sentBy m = []) (answered : answeredBy m = [])
      (returned : returnedBy m = []) (taken : takenBy m = [])

theorem sessionStep_of {m : SessionMove} (h : m.Of step) : SessionStep m := by
  obtain ⟨⟨commands, inbox, waiting⟩, e, o, t⟩ := m
  have hs : step ⟨commands, inbox, waiting⟩ e = some (t, o) := h
  cases e with
  | request cmd w sent =>
      cases waiting with
      | some w' => cases hs
      | none =>
          cases sent with
          | false =>
              cases hs
              exact .other rfl rfl (.inl rfl) rfl rfl rfl rfl
          | true =>
              cases hs
              exact .request cmd w rfl rfl rfl rfl rfl rfl
  | answer reply =>
      cases commands with
      | nil => cases hs
      | cons cmd rest =>
          simp only [step] at hs
          split at hs
          · cases hs
          · rename_i hreply
            cases hs
            exact .answer cmd rest reply rfl rfl (by simpa [isReply] using hreply) rfl rfl rfl rfl
  | notify msg =>
      simp only [step] at hs
      split at hs
      · rename_i hmsg
        cases hs
        exact .notify msg rfl hmsg rfl rfl rfl rfl
      · cases hs
  | recv =>
      cases waiting with
      | none => cases inbox <;> cases hs
      | some w =>
          cases inbox with
          | nil => cases hs
          | cons d rest =>
              simp only [step, Option.some.injEq] at hs
              unfold receive at hs
              simp only [unsolicited_take w.room] at hs
              split at hs
              · rename_i hmsg
                cases hs
                refine .skip w d rest rfl rfl hmsg rfl rfl rfl ?_ ?_
                · cases hcb : w.msgCb <;> simp [returnedBy]
                · simp [takenBy, isReply, hmsg]
              · rename_i hreply
                cases hs
                exact .reply w d rest rfl rfl (by simpa [isReply] using hreply) rfl rfl rfl rfl
                  (by simpa [takenBy, isReply] using hreply)
  | interrupted =>
      cases waiting with
      | none => cases hs
      | some w => cases hs; exact .other rfl rfl (.inl rfl) rfl rfl rfl rfl
  | recvError =>
      cases waiting with
      | none => cases hs
      | some w => cases hs; exact .other rfl rfl (.inr rfl) rfl rfl rfl rfl
  | timeout =>
      cases waiting with
      | none => cases inbox <;> cases hs
      | some w =>
          cases inbox with
          | nil => cases hs; exact .other rfl rfl (.inr rfl) rfl rfl rfl rfl
          | cons d rest => cases hs

/-! ## The accounts over a run -/

/-- The daemon answers the commands in the order they are sent. -/
theorem commands_fifo (s : Session) (es : List Event) :
    s.commands ++ (moves step s es).flatMap sentBy =
      (moves step s es).flatMap (fun m => (answeredBy m).map Prod.fst) ++
        (final step s es).commands := by
  refine moves_fifo (G := fun _ => True) (fun s : Session => s.commands) _ _
    (fun m hm _ => ?_) fun _ _ => trivial
  cases sessionStep_of hm with
  | request cmd w idle after sent answered => simp [sent, answered, after]
  | answer cmd rest reply commands after isReply sent answered =>
      simp [sent, answered, after, commands]
  | notify msg after unsolicited sent answered => simp [sent, answered, after]
  | skip w d rest waiting inbox unsolicited after sent answered => simp [sent, answered, after]
  | reply w d rest waiting inbox isReply after sent answered => simp [sent, answered, after]
  | other commands inbox waiting sent answered => simp [sent, answered, commands]

/-- The client takes the answers in the order they are given. -/
theorem replies_fifo (s : Session) (es : List Event) :
    s.inbox.filter isReply ++ (moves step s es).flatMap (fun m => (answeredBy m).map Prod.snd) =
      (moves step s es).flatMap (fun m => (takenBy m).map Prod.snd) ++
        (final step s es).inbox.filter isReply := by
  refine moves_fifo (G := fun _ => True) (fun s : Session => s.inbox.filter isReply) _ _
    (fun m hm _ => ?_) fun _ _ => trivial
  cases sessionStep_of hm with
  | request cmd w idle after sent answered returned taken => simp [answered, taken, after]
  | answer cmd rest reply commands after isReply sent answered returned taken =>
      simp [answered, taken, after, isReply]
  | notify msg after unsolicited sent answered returned taken =>
      simp [answered, taken, after, isReply, unsolicited]
  | skip w d rest waiting inbox unsolicited after sent answered returned taken =>
      simp [answered, taken, after, inbox, isReply, unsolicited]
  | reply w d rest waiting inbox isReply after sent answered returned taken =>
      simp [answered, taken, after, inbox, isReply]
  | other commands inbox waiting sent answered returned taken =>
      simp [answered, taken, inbox]

/-- A request returns what it takes, as far as there is room. -/
theorem returned_taken (s : Session) (es : List Event) :
    (moves step s es).flatMap returnedBy =
      ((moves step s es).flatMap takenBy).map fun r => (r.1, r.2.take r.1) := by
  rw [List.map_flatMap]
  refine List.flatMap_congr fun m hm => ?_
  cases sessionStep_of (moves_of m hm) with
  | request cmd w idle after sent answered returned taken => simp [returned, taken]
  | answer cmd rest reply commands after isReply sent answered returned taken =>
      simp [returned, taken]
  | notify msg after unsolicited sent answered returned taken => simp [returned, taken]
  | skip w d rest waiting inbox unsolicited after sent answered returned taken =>
      simp [returned, taken]
  | reply w d rest waiting inbox isReply after sent answered returned taken =>
      simp [returned, taken]
  | other commands inbox waiting sent answered returned taken => simp [returned, taken]

/-- From the start of a connection on. -/
theorem sent_eq (es : List Event) :
    (moves step .init es).flatMap sentBy =
      ((moves step .init es).flatMap answeredBy).map Prod.fst ++
        (final step .init es).commands := by
  have hfifo := commands_fifo .init es
  rw [← List.map_flatMap] at hfifo
  exact hfifo

theorem answers_eq (es : List Event) :
    ((moves step .init es).flatMap answeredBy).map Prod.snd =
      ((moves step .init es).flatMap takenBy).map Prod.snd ++
        (final step .init es).inbox.filter isReply := by
  have hfifo := replies_fifo .init es
  rw [← List.map_flatMap, ← List.map_flatMap] at hfifo
  exact hfifo

/-- What is taken answers what is sent, one by one. -/
theorem taken_answers {es : List Event} {i n : Nat} {full : Datagram}
    (taken : ((moves step .init es).flatMap takenBy)[i]? = some (n, full)) :
    ∃ cmd, ((moves step .init es).flatMap sentBy)[i]? = some cmd ∧
      ((moves step .init es).flatMap answeredBy)[i]? = some (cmd, full) := by
  -- the answers taken are the first of those given, and these are for the first commands
  have hlt : i < (((moves step .init es).flatMap takenBy).map Prod.snd).length := by
    rw [List.length_map]
    exact (List.getElem?_eq_some_iff.mp taken).1
  have hfull : (((moves step .init es).flatMap answeredBy).map Prod.snd)[i]? = some full := by
    rw [answers_eq, List.getElem?_append_left hlt, List.getElem?_map, taken]
    rfl
  rw [List.getElem?_map, Option.map_eq_some_iff] at hfull
  obtain ⟨⟨cmd, full'⟩, hanswered, rfl⟩ := hfull
  have hlt' : i < (((moves step .init es).flatMap answeredBy).map Prod.fst).length := by
    rw [List.length_map]
    exact (List.getElem?_eq_some_iff.mp hanswered).1
  refine ⟨cmd, ?_, hanswered⟩
  rw [sent_eq, List.getElem?_append_left hlt', List.getElem?_map, hanswered]
  rfl

/-- **The replies answer the commands in order.** In every run the i-th reply that
is returned is the daemon's answer to the i-th command that was sent, cut to the
room for it, whichever request returns it. No answer starts with `<`, the mark
of an unsolicited message. -/
theorem replies_in_order {es : List Event} {i n : Nat} {reply : Datagram}
    (returned : ((moves step .init es).flatMap returnedBy)[i]? = some (n, reply)) :
    ∃ cmd full, ((moves step .init es).flatMap sentBy)[i]? = some cmd ∧
      ((moves step .init es).flatMap answeredBy)[i]? = some (cmd, full) ∧
      reply = full.take n := by
  rw [returned_taken, List.getElem?_map, Option.map_eq_some_iff] at returned
  obtain ⟨⟨n', full⟩, htaken, heq⟩ := returned
  cases heq
  obtain ⟨cmd, hsent, hanswered⟩ := taken_answers htaken
  exact ⟨cmd, full, hsent, hanswered, rfl⟩

/-- A request gives up, and the next one gets its reply. -/
def staleReply : List Event :=
  [.request [1] ⟨8, false, by decide⟩ true, .timeout, .answer [10],
    .request [2] ⟨8, false, by decide⟩ true, .recv]

theorem replies_in_order_stale :
    ∃ cmd full, ((moves step .init staleReply).flatMap sentBy)[0]? = some cmd ∧
      ((moves step .init staleReply).flatMap answeredBy)[0]? = some (cmd, full) ∧
      [10] = full.take 8 :=
  replies_in_order rfl

/-- While no request fails, each one that has been sent has its reply, but for
the one that waits. -/
theorem sent_balance {s : Session} {es : List Event}
    (noFail : ∀ m ∈ moves step s es, fails m = false) :
    s.waiting.toList.length + ((moves step s es).flatMap sentBy).length =
      ((moves step s es).flatMap takenBy).length +
        (final step s es).waiting.toList.length := by
  have hfifo := moves_fifo (G := fun m : SessionMove => fails m = false)
    (fun s : Session => s.waiting.toList.map fun _ => ())
    (fun m => (sentBy m).map fun _ => ()) (fun m => (takenBy m).map fun _ => ())
    (fun m hm hok => by
      cases sessionStep_of hm with
      | request cmd w idle after sent answered returned taken =>
          simp [sent, taken, after, idle]
      | answer cmd rest reply commands after isReply sent answered returned taken =>
          simp [sent, taken, after]
      | notify msg after unsolicited sent answered returned taken =>
          simp [sent, taken, after]
      | skip w d rest waiting inbox unsolicited after sent answered returned taken =>
          simp [sent, taken, after, waiting]
      | reply w d rest waiting inbox isReply after sent answered returned taken =>
          simp [sent, taken, after, waiting]
      | other commands inbox waiting sent answered returned taken =>
          rcases waiting with hsame | hfail
          · simp [sent, taken, hsame]
          · rw [hok] at hfail
            cases hfail) noFail
  have hlen := congrArg List.length hfifo
  rw [← List.map_flatMap, ← List.map_flatMap] at hlen
  simpa using hlen

/-- **Each request gets its own reply.** As long as no request on the connection
has failed, the reply a request returns is the daemon's answer to the command
it sent, and the daemon has nothing left to answer. -/
theorem own_reply {es : List Event}
    (noFail : ∀ m ∈ moves step .init es, fails m = false) {e : Event}
    {s : Session} {n : Nat} {reply : Datagram}
    (returns : step (final step .init es) e = some (s, .reply n reply)) :
    ∃ cmd full, ((moves step .init es).flatMap sentBy).getLast? = some cmd ∧
      ((moves step .init es).flatMap answeredBy).getLast? = some (cmd, full) ∧
      reply = full.take n ∧ s.commands = [] := by
  have hstep := sessionStep_of (m := ⟨final step .init es, e, .reply n reply, s⟩) returns
  have hreturned : returnedBy ⟨final step .init es, e, .reply n reply, s⟩ = [(n, reply)] := rfl
  cases hstep with
  | request cmd w idle after sent answered returned => cases returned
  | answer cmd rest full commands after isReply sent answered returned => cases returned
  | notify msg after unsolicited sent answered returned => cases returned
  | skip w d rest waiting inbox unsolicited after sent answered returned =>
      cases returned
  | other commands inbox waiting sent answered returned => cases returned
  | reply w d rest waiting inbox hreply after sent answered returned =>
      simp only at waiting inbox after
      have hbalance := sent_balance noFail
      have hstart : Session.init.waiting.toList.length = 0 := rfl
      have hwaits : (final step .init es).waiting.toList.length = 1 := by
        rw [waiting]
        rfl
      have hsent := sent_eq es
      have hanswers := answers_eq es
      rw [inbox, List.filter_cons_of_pos hreply] at hanswers
      have hsentLen := congrArg List.length hsent
      have hanswersLen := congrArg List.length hanswers
      simp only [List.length_append, List.length_map, List.length_cons] at hsentLen hanswersLen
      -- one command was waiting for its reply, and this is the one that is read
      have hcommands : (final step .init es).commands = [] :=
        List.length_eq_zero_iff.mp (by omega)
      have hrest : rest.filter isReply = [] := List.length_eq_zero_iff.mp (by omega)
      rw [hrest] at hanswers
      have hlast : (((moves step .init es).flatMap answeredBy).map Prod.snd).getLast? = some d := by
        rw [hanswers, List.getLast?_append]
        rfl
      rw [List.getLast?_map, Option.map_eq_some_iff] at hlast
      obtain ⟨⟨cmd, full⟩, hlast, rfl⟩ := hlast
      cases returned
      refine ⟨cmd, full, ?_, hlast, rfl, ?_⟩
      · rw [hsent, hcommands, List.append_nil, List.getLast?_map, hlast]
        rfl
      · rw [after]
        exact hcommands

/-- The second of two requests, with an unsolicited message before its reply. -/
def twoRequests : List Event :=
  [.request [1] ⟨8, false, by decide⟩ true, .answer [10], .recv,
    .request [2] ⟨8, false, by decide⟩ true, .notify [lessThan, 7], .answer [20], .recv]

theorem own_reply_second :
    ∃ cmd full, ((moves step .init twoRequests).flatMap sentBy).getLast? = some cmd ∧
      ((moves step .init twoRequests).flatMap answeredBy).getLast? = some (cmd, full) ∧
      [20] = full.take 8 ∧ (⟨[], [], none⟩ : Session).commands = [] :=
  own_reply (e := .recv) (by decide) rfl

end AfcDut.ControlApp.WpaCtrl
