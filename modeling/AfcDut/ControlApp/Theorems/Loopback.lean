import AfcDut.ControlApp.LoopbackBooks

/-!
# Loopback traffic over a run

A loopback server is stopped by exactly one pending timeout. Packets are sent on
the sender's own open socket and on no other, none after a stop, and a UDP
sender without echoes comes to an end.
-/

namespace AfcDut.ControlApp.Loopback

open Eloop EloopData Lts

abbrev AppMove := Move App (Event Reader Timer Unit × Io) AppOutput

/-! ## What a step of the app can do -/

def AppData.applyAll (d : AppData) (ops : List AppOp) : AppData :=
  ops.foldl (fun d o => o.apply d) d

/-- A handler that runs to its end. -/
theorem final_handler {l : AppLoop} (calling : l.pc.calling = true) (ops : List AppOp) :
    (final Eloop.step l (ops.map .op ++ [.ret])).data = AppData.applyAll l.data ops := by
  induction ops generalizing l with
  | nil =>
      obtain ⟨d, pc⟩ := l
      cases pc <;> rfl
  | cons o ops ih =>
      have hop : Eloop.step l (.op o) =
          some ({ l with data := o.apply l.data }, .value (o.result l.data)) := by
        simp only [Eloop.step, calling, if_true]
      simp only [List.map_cons, List.cons_append, final, hop]
      exact ih calling

/-- A step runs the loop, and to its end the handler that the loop calls. -/
theorem step_some {a a' : App} {x : Event Reader Timer Unit × Io} {o : AppOutput}
    (h : step a x = some (a', o)) :
    ∃ l out, Eloop.step a.loop x.1 = some (l, out) ∧
      ((∀ o, x.1 ≠ .op o) ∧ x.1 ≠ .ret ∧ x.2.api.fresh a.vars = true) ∧
      ((handler a.vars x.2 out = none ∧ a' = ⟨l, a.vars⟩ ∧ o = .silent) ∨
        ∃ r, handler a.vars x.2 out = some r ∧
          a' = ⟨final Eloop.step l (r.2.2.map .op ++ [.ret]), r.2.1⟩ ∧ o = r.1) := by
  obtain ⟨e, io⟩ := x
  have hstep : (∀ o, e ≠ .op o) ∧ e ≠ .ret ∧ a.advance e io = some (a', o) := by
    cases e with
    | op op => cases h
    | ret => cases h
    | _ => exact ⟨nofun, nofun, h⟩
  obtain ⟨hop, hret, hstep⟩ := hstep
  unfold App.advance at hstep
  split at hstep
  · rename_i hfresh
    cases hl : Eloop.step a.loop e with
    | none => rw [hl] at hstep; cases hstep
    | some r =>
        refine ⟨r.1, r.2, rfl, ⟨hop, hret, hfresh⟩, ?_⟩
        rw [hl] at hstep
        simp only at hstep
        cases hh : handler a.vars io r.2 with
        | none =>
            rw [hh] at hstep
            cases hstep
            exact .inl ⟨rfl, rfl, rfl⟩
        | some q =>
            obtain ⟨o', v, ops⟩ := q
            rw [hh] at hstep
            cases hstep
            exact .inr ⟨_, rfl, rfl, rfl⟩
  · cases hstep

inductive AppStep (m : AppMove) : Prop
  | quiet (readers : m.after.loop.data.readers = m.before.loop.data.readers)
      (timeout : m.after.loop.data.timeout = m.before.loop.data.timeout)
      (vars : m.after.vars = m.before.vars) (output : m.output = .silent)
  | api (fresh : m.event.2.api.fresh m.before.vars = true)
      (data : m.after.loop.data =
        AppData.applyAll m.before.loop.data (apiHandler m.before.vars m.event.2.api).2.2)
      (vars : m.after.vars = (apiHandler m.before.vars m.event.2.api).2.1)
      (output : m.output = (apiHandler m.before.vars m.event.2.api).1)
  | stop (t : EloopTimeout Timer) (rest : List (EloopTimeout Timer))
      (head : m.before.loop.data.timeout = t :: rest) (stop : isStop t = true)
      (data : m.after.loop.data =
        ({ m.before.loop.data with timeout := rest } : AppData).unregisterReadSock t.eloopData)
      (vars : m.after.vars = { m.before.vars.close t.eloopData with loopbackSocket := 0 })
      (output : m.output = .silent)
  | packet (t : EloopTimeout Timer) (rest : List (EloopTimeout Timer))
      (head : m.before.loop.data.timeout = t :: rest) (send : isSend t = true)
      (data : m.after.loop.data = AppData.applyAll { m.before.loop.data with timeout := rest }
        (sendContinuousLoopbackPacket m.before.vars m.event.2.packet).2)
      (vars : m.after.vars = (sendContinuousLoopbackPacket m.before.vars m.event.2.packet).1)
      (output : m.output = .packet m.before.vars.loopback.sock
        (m.after.vars.loopback.pktRcv != m.before.vars.loopback.pktRcv))

theorem appStep_of {m : AppMove} (h : m.Of step) : AppStep m := by
  obtain ⟨l, out, hl, ⟨hop, hret, hfresh⟩, hhandler⟩ := step_some h
  have hs := steps_of_step hl
  obtain ⟨a, ⟨e, io⟩, o, a'⟩ := m
  obtain ⟨⟨d, pc⟩, v⟩ := a
  simp only at hs hop hret hfresh hhandler
  cases hs with
  | op d pc o calling => exact absurd rfl (hop o)
  | signal d pc sig registered =>
      obtain ⟨-, hafter, hout⟩ | ⟨r, hsome, -⟩ := hhandler
      · cases hafter
        exact .quiet rfl rfl rfl hout
      · cases hsome
  | lower | pending =>
      obtain ⟨-, hafter, hout⟩ | ⟨r, hsome, -⟩ := hhandler
      · cases hafter
        exact .quiet rfl rfl rfl hout
      · cases hsome
  | consume d p i g at_i =>
      -- `handle_term` sets a flag that no book reads
      obtain ⟨hnone, -⟩ | ⟨r, hsome, hafter, hout⟩ := hhandler
      · cases hnone
      · cases hsome
        cases hafter
        have hdata := final_handler (l := ⟨{ d with signals := d.signals.set i { g with
          signaled := 0 } }, .inSignal p i⟩) rfl [.terminate]
        refine .quiet ?_ ?_ rfl hout
        · simp only [hdata]; rfl
        · simp only [hdata]; rfl
  | fire d p now t rest head due =>
      obtain ⟨time, e, u, timer, seq⟩ := t
      obtain ⟨hnone, -⟩ | ⟨r, hsome, hafter, hout⟩ := hhandler
      · cases timer <;> cases hnone
      · cases timer with
        | loopbackServerTimeout =>
            obtain rfl := Option.some.inj hsome
            cases hafter
            exact .stop _ rest head rfl (final_handler rfl _) rfl hout
        | sendContinuousLoopbackPacket =>
            obtain rfl := Option.some.inj hsome
            cases hafter
            exact .packet _ rest head rfl (final_handler rfl _) rfl hout
  | control d pc pc' e out moves =>
      have hquiet : handler v io out = none →
          AppStep (⟨⟨⟨d, pc⟩, v⟩, (e, io), o, a'⟩ : AppMove) := by
        intro hnone
        obtain ⟨-, hafter, hout⟩ | ⟨r, hsome, -⟩ := hhandler
        · cases hafter
          exact .quiet rfl rfl rfl hout
        · rw [hnone] at hsome
          cases hsome
      cases moves with
      | reader p i r at_i ready =>
          obtain ⟨sock, e, u, kind, seq⟩ := r
          obtain ⟨hnone, -⟩ | ⟨q, hsome, hafter, hout⟩ := hhandler
          · cases kind <;> cases hnone
          · cases kind with
            | controlReceiveMessage =>
                obtain rfl := Option.some.inj hsome
                cases hafter
                exact .api hfresh (final_handler rfl _) rfl hout
            | loopbackServerReceiveMessage =>
                cases hsome
                cases hafter
                have hdata := final_handler (l := ⟨d, .inReader p i⟩) rfl []
                refine .quiet ?_ ?_ rfl hout
                · simp only [hdata]; rfl
                · simp only [hdata]; rfl
      | _ => exact hquiet rfl

/-! ## The books over a run -/

theorem Books.congr {d d' : AppData} {v : Vars} (h : Books d v) (hr : d'.readers = d.readers)
    (ht : d'.timeout = d.timeout) : Books d' v := by
  have hservers : servers d' = servers d := by simp only [servers, hr]
  have hstops : stops d' = stops d := by simp only [stops, ht]
  refine ⟨h.std, ?_, ?_, ?_, ?_, ?_, ?_, ?_, ?_, h.counts⟩
  · exact hr ▸ h.socks
  · exact hr ▸ h.opened
  · exact hservers ▸ h.status
  · exact hstops ▸ h.stopped
  · rw [hservers, hstops]
    exact h.timed
  · exact ht ▸ h.stopArgs
  · exact hr ▸ h.sender
  · exact ht ▸ h.due

theorem fresh_iff {v : Vars} {s : Int} :
    ((some s).all fun s => decide (0 ≤ s ∧ s ∉ v.openFds)) = true ↔ 0 ≤ s ∧ s ∉ v.openFds := by
  simp

theorem books_api {d : AppData} {v : Vars} (h : Books d v) {api : Api}
    (fresh : api.fresh v = true) :
    Books (AppData.applyAll d (apiHandler v api).2.2) (apiHandler v api).2.1 := by
  cases api with
  | startServer io =>
      obtain ⟨sock, bound, named, memReader, memTimeout, now⟩ := io
      cases sock with
      | none => exact h
      | some s =>
          obtain ⟨hnonneg, hfresh⟩ := fresh_iff.mp fresh
          cases bound with
          | false => exact h.openClose hfresh
          | true =>
              cases named with
              | false => exact h.openClose hfresh
              | true =>
                  cases memReader with
                  | false => exact h.leak s
                  | true => exact h.serverStart hfresh hnonneg memTimeout now loopbackTimeout 0
  | stopServer =>
      by_cases hset : v.loopbackSocket = 0
      · simpa [apiHandler, loopbackServerStatus, hset, AppData.applyAll] using h
      · simpa [apiHandler, loopbackServerStatus, loopbackServerStop, hset, AppData.applyAll,
          Op.apply] using h.serverStop hset
  | sendUdp io =>
      obtain ⟨sock, bound, connected, mem, now, rate⟩ := io
      cases sock with
      | none => exact h
      | some s =>
          obtain ⟨hnonneg, hfresh⟩ := fresh_iff.mp fresh
          have hne : s ≠ 0 := fun h0 => hfresh (h0 ▸ h.std)
          cases bound with
          | false => exact h.leak s
          | true =>
              cases connected with
              | false => exact h.openClose hfresh
              | true => exact (h.newSender hfresh hnonneg rate .udp).sendLater hne mem now 0
  | sendIcmp io =>
      obtain ⟨sock, bound, connected, mem, now, rate⟩ := io
      cases sock with
      | none => exact h
      | some s =>
          obtain ⟨hnonneg, hfresh⟩ := fresh_iff.mp fresh
          have hne : s ≠ 0 := fun h0 => hfresh (h0 ▸ h.std)
          cases bound with
          | false => exact h.leak s
          | true => exact (h.newSender hfresh hnonneg rate .icmp).sendLater hne mem now 0
  | stopData =>
      by_cases hpos : v.loopback.sock ≤ 0
      · simpa [apiHandler, stopLoopbackData, hpos, AppData.applyAll] using h
      · simpa [apiHandler, stopLoopbackData, hpos, AppData.applyAll, Op.apply]
          using h.stopSender hpos
  | other => exact h

/-- A packet leaves the socket and the delay of the sender as they are. -/
theorem sendContinuous_info (v : Vars) (io : PacketIo) :
    (sendContinuousLoopbackPacket v io).1.loopback.sock = v.loopback.sock ∧
      (sendContinuousLoopbackPacket v io).1.loopback.pktType = v.loopback.pktType ∧
      (sendContinuousLoopbackPacket v io).1.loopback.pktSent = v.loopback.pktSent + 1 ∧
      (sendContinuousLoopbackPacket v io).1.openFds = v.openFds ∧
      (sendContinuousLoopbackPacket v io).1.loopbackSocket = v.loopbackSocket ∧
      v.loopback.pktRcv ≤ (sendContinuousLoopbackPacket v io).1.loopback.pktRcv ∧
      (sendContinuousLoopbackPacket v io).1.loopback.pktRcv ≤ v.loopback.pktRcv + 1 := by
  unfold sendContinuousLoopbackPacket
  split
  · rename_i htype
    unfold sendOneLoopbackIcmpPacket
    simp only
    split <;> simp [htype]
  · rename_i htype
    unfold sendOneLoopbackUdpPacket
    simp only
    split <;> simp [htype]

/-- It makes at most the next one due. -/
theorem sendContinuous_ops (v : Vars) (io : PacketIo) :
    (sendContinuousLoopbackPacket v io).2 = [] ∨
      (sendContinuousLoopbackPacket v io).2 = [registerSender io.mem io.now v.loopback.rate] := by
  unfold sendContinuousLoopbackPacket
  split
  · refine .inr ?_
    unfold sendOneLoopbackIcmpPacket
    simp only
    split <;> rfl
  · unfold sendOneLoopbackUdpPacket
    simp only
    split
    · split
      · exact .inr rfl
      · exact .inl rfl
    · exact .inr rfl

theorem books_packet {d : AppData} {v : Vars} (h : Books d v) {t : EloopTimeout Timer}
    {rest : List (EloopTimeout Timer)} (head : d.timeout = t :: rest) (send : isSend t = true)
    (io : PacketIo) :
    Books (AppData.applyAll { d with timeout := rest } (sendContinuousLoopbackPacket v io).2)
      (sendContinuousLoopbackPacket v io).1 := by
  obtain ⟨hsock, -, hsent, hfds, hserver, -, hrcv⟩ := sendContinuous_info v io
  have hne : v.loopback.sock ≠ 0 := (h.due t (head ▸ List.mem_cons_self) send).2.2
  have hcounts := h.counts
  have hvars : (sendContinuousLoopbackPacket v io).1 =
      { v with loopback := (sendContinuousLoopbackPacket v io).1.loopback } := by
    rw [← hfds, ← hserver]
  have hbooks : Books { d with timeout := rest } (sendContinuousLoopbackPacket v io).1 := by
    rw [hvars]
    exact (h.pop head).countPacket hsock (by omega)
  -- the sender registers itself again, unless it has come to its end
  rcases sendContinuous_ops v io with hops | hops
  · rw [hops]
    exact hbooks
  · rw [hops]
    exact hbooks.sendLater (hsock ▸ hne) io.mem io.now v.loopback.rate

theorem books_step (m : AppMove) (h : m.Of step) (books : Books m.before.loop.data m.before.vars) :
    Books m.after.loop.data m.after.vars := by
  cases appStep_of h with
  | quiet readers timeout vars => rw [vars]; exact books.congr readers timeout
  | api fresh data vars => rw [data, vars]; exact books_api books fresh
  | stop t rest head stop data vars => rw [data, vars]; exact books.serverTimeout head stop
  | packet t rest head send data vars => rw [data, vars]; exact books_packet books head send _

theorem books_init {control : Int} (pos : 0 < control) :
    Books (App.init control).loop.data (App.init control).vars where
  std := by simp [App.init]
  socks := List.nodup_singleton control
  opened := by
    intro r hr
    rw [List.mem_singleton.mp hr]
    exact ⟨List.mem_cons_self, pos⟩
  status := .inl rfl
  stopped := List.nodup_nil
  timed := fun _ hs => absurd hs List.not_mem_nil
  stopArgs := fun _ ht => absurd ht List.not_mem_nil
  sender := fun h => absurd rfl h
  due := fun _ ht => absurd ht List.not_mem_nil
  counts := le_rfl

/-! ## The servers -/

/-- The timeouts of the servers get their memory. -/
def timeoutMem (api : Api) : Prop := ∀ io, api = .startServer io → io.memTimeout = true

/-- Every server has its timeout. -/
def Timed (d : AppData) : Prop := ∀ s ∈ servers d, s ∈ stops d

theorem mem_stops_register {d : AppData} {s : Int} (h : s ∈ stops d) (mem : Bool) (now : Timeval)
    (secs usecs : Nat) (handler : Timer) (e u : Ctx) :
    s ∈ stops (d.registerTimeout mem now secs usecs handler e u) := by
  cases mem with
  | false => exact h
  | true =>
      obtain ⟨t, ht, hrest⟩ := mem_stops.mp h
      have hperm := perm_registerTimeout (d := d) now secs usecs handler e u
      exact mem_stops.mpr ⟨t, hperm.mem_iff.mpr (List.mem_cons_of_mem _ ht), hrest⟩

/-- A timeout that is not cancelled stays. -/
theorem mem_stops_cancel {d : AppData} {s : Int} (h : s ∈ stops d) {handler : Timer} {e u : Ctx}
    (other : handler = .sendContinuousLoopbackPacket ∨ e ≠ eloopAllCtx ∧ s ≠ e) :
    s ∈ stops (d.cancelTimeout handler e u) := by
  obtain ⟨t, ht, hstop, rfl⟩ := mem_stops.mp h
  refine mem_stops.mpr ⟨t, List.mem_filter.mpr ⟨ht, ?_⟩, hstop, rfl⟩
  simp only [isStop, decide_eq_true_eq] at hstop
  rcases other with rfl | ⟨hall, hne⟩
  · simp [matchesTimeout, hstop]
  · simp [matchesTimeout, hall, hne]

theorem mem_stops_pop {d : AppData} {s : Int} (h : s ∈ stops d) {t : EloopTimeout Timer}
    {rest : List (EloopTimeout Timer)} (head : d.timeout = t :: rest) :
    s ∈ stops ({ d with timeout := rest } : AppData) ∨ isStop t = true ∧ s = t.eloopData := by
  obtain ⟨u, hu, hstop, rfl⟩ := mem_stops.mp h
  rw [head] at hu
  rcases List.mem_cons.mp hu with rfl | hu
  · exact .inr ⟨hstop, rfl⟩
  · exact .inl (mem_stops.mpr ⟨u, hu, hstop, rfl⟩)

theorem Timed.sendLater {d : AppData} (h : Timed d) (mem : Bool) (now : Timeval) (usecs : Nat) :
    Timed ((registerSender mem now usecs).apply d) := by
  cases mem with
  | false => exact h
  | true => exact fun s hs => mem_stops_register (h s hs) true now 0 usecs _ _ _

theorem timed_api {d : AppData} {v : Vars} (books : Books d v) (h : Timed d) {api : Api}
    (mem : timeoutMem api) : Timed (AppData.applyAll d (apiHandler v api).2.2) := by
  cases api with
  | startServer io =>
      obtain ⟨sock, bound, named, memReader, memTimeout, now⟩ := io
      obtain rfl : memTimeout = true := mem _ rfl
      cases sock with
      | none => exact h
      | some s =>
          cases bound with
          | false => exact h
          | true =>
              cases named with
              | false => exact h
              | true =>
                  cases memReader with
                  | false => exact h
                  | true =>
                      intro s' hs'
                      obtain ⟨r, hr, hserver, rfl⟩ := mem_servers.mp hs'
                      rcases List.mem_append.mp hr with hr | hr
                      · exact mem_stops_register (d := d.registerReadSock true s
                          .loopbackServerReceiveMessage null null)
                          (h _ (mem_servers.mpr ⟨r, hr, hserver, rfl⟩))
                          true now loopbackTimeout 0 .loopbackServerTimeout s null
                      · rw [List.mem_singleton.mp hr]
                        have hperm := perm_registerTimeout (d := d.registerReadSock true s
                          .loopbackServerReceiveMessage null null) now loopbackTimeout 0
                          .loopbackServerTimeout s null
                        exact mem_stops.mpr ⟨_, hperm.mem_iff.mpr List.mem_cons_self, rfl, rfl⟩
  | stopServer =>
      by_cases hset : v.loopbackSocket = 0
      · simpa [apiHandler, loopbackServerStatus, hset, AppData.applyAll] using h
      · have hdata : AppData.applyAll d (apiHandler v .stopServer).2.2 =
            (d.cancelTimeout .loopbackServerTimeout v.loopbackSocket null).unregisterReadSock
              v.loopbackSocket := by
          simp [apiHandler, loopbackServerStatus, loopbackServerStop, hset, AppData.applyAll,
            Op.apply]
        obtain ⟨r, hr, -, hsock⟩ := mem_servers.mp (books.status.resolve_left hset)
        have hpos := (books.opened r hr).2
        have hall : v.loopbackSocket ≠ eloopAllCtx := by
          unfold eloopAllCtx
          omega
        intro s hs
        rw [hdata] at hs ⊢
        have hcancel := books.cancel .loopbackServerTimeout v.loopbackSocket null
        obtain ⟨hs, hne⟩ := (mem_servers_unregister hcancel.socks).mp hs
        exact mem_stops_cancel (h s hs) (.inr ⟨hall, hne⟩)
  | sendUdp io =>
      obtain ⟨sock, bound, connected, memory, now, rate⟩ := io
      cases sock with
      | none => exact h
      | some s =>
          cases bound with
          | false => exact h
          | true =>
              cases connected with
              | false => exact h
              | true => exact h.sendLater memory now 0
  | sendIcmp io =>
      obtain ⟨sock, bound, connected, memory, now, rate⟩ := io
      cases sock with
      | none => exact h
      | some s =>
          cases bound with
          | false => exact h
          | true => exact h.sendLater memory now 0
  | stopData =>
      by_cases hpos : v.loopback.sock ≤ 0
      · simpa [apiHandler, stopLoopbackData, hpos, AppData.applyAll] using h
      · intro s hs
        have hdata : AppData.applyAll d (apiHandler v .stopData).2.2 =
            d.cancelTimeout .sendContinuousLoopbackPacket infoPtr null := by
          simp [apiHandler, stopLoopbackData, hpos, AppData.applyAll, Op.apply]
        rw [hdata] at hs ⊢
        exact mem_stops_cancel (h s hs) (.inl rfl)
  | other => exact h

theorem timed_step (m : AppMove) (hof : m.Of step) (mem : timeoutMem m.event.2.api)
    (inv : Books m.before.loop.data m.before.vars ∧ Timed m.before.loop.data) :
    Books m.after.loop.data m.after.vars ∧ Timed m.after.loop.data := by
  refine ⟨books_step m hof inv.1, ?_⟩
  obtain ⟨books, h⟩ := inv
  cases appStep_of hof with
  | quiet readers timeout vars =>
      intro s hs
      have hservers : servers m.after.loop.data = servers m.before.loop.data := by
        simp only [servers, readers]
      have hstops : stops m.after.loop.data = stops m.before.loop.data := by
        simp only [stops, timeout]
      rw [hstops]
      exact h s (hservers ▸ hs)
  | api fresh data vars => rw [data]; exact timed_api books h mem
  | stop t rest head stop data vars =>
      intro s hs
      rw [data] at hs ⊢
      obtain ⟨hs, hne⟩ := (mem_servers_unregister (books.pop head).socks).mp hs
      rcases mem_stops_pop (h s hs) head with hmem | ⟨-, heq⟩
      · exact hmem
      · exact absurd heq hne
  | packet t rest head send data vars =>
      have hpop : Timed ({ m.before.loop.data with timeout := rest } : AppData) := by
        intro s hs
        rcases mem_stops_pop (h s hs) head with hmem | ⟨hstop, -⟩
        · exact hmem
        · simp only [isSend, isStop, decide_eq_true_eq] at send hstop
          rw [send] at hstop
          cases hstop
      rw [data]
      rcases sendContinuous_ops m.before.vars m.event.2.packet with hops | hops
      · rw [hops]
        exact hpop
      · rw [hops]
        exact hpop.sendLater _ _ _

/-- **Every loopback server is stopped once.** Whatever comes in which order, the
sockets of the servers that the loop listens on are those that one pending
timeout will close, each its own, and the server that the status is about is
one of them. -/
theorem servers_timed {control : Int} (pos : 0 < control)
    {es : List (Event Reader Timer Unit × Io)}
    (mem : ∀ m ∈ moves step (App.init control) es, timeoutMem m.event.2.api) :
    (servers (final step (App.init control) es).loop.data).Perm
        (stops (final step (App.init control) es).loop.data) ∧
      (servers (final step (App.init control) es).loop.data).Nodup ∧
      (loopbackServerStatus (final step (App.init control) es).vars ≠ 0 →
        (final step (App.init control) es).vars.loopbackSocket ∈
          servers (final step (App.init control) es).loop.data) := by
  have hinit : Books (App.init control).loop.data (App.init control).vars ∧
      Timed (App.init control).loop.data :=
    ⟨books_init pos, fun s hs => absurd hs List.not_mem_nil⟩
  obtain ⟨books, timed⟩ := final_invariant
    (I := fun a : App => Books a.loop.data a.vars ∧ Timed a.loop.data) timed_step hinit mem
  have hnodup : (servers (final step (App.init control) es).loop.data).Nodup :=
    books.socks.sublist (List.filter_sublist.map _)
  refine ⟨?_, hnodup, fun hstatus => ?_⟩
  · exact (List.perm_ext_iff_of_nodup hnodup books.stopped).mpr fun s =>
      ⟨timed s, books.timed s⟩
  · refine books.status.resolve_left fun h0 => hstatus ?_
    simp [loopbackServerStatus, h0]

/-- A server is started, and a second one before the first is stopped. -/
def twoServers : List (Event Reader Timer Unit × Io) :=
  let idle : PacketIo := ⟨true, true, true, true, ⟨0, 0⟩⟩
  let pass : List (Event Reader Timer Unit × Io) :=
    [(.clock ⟨0, 0⟩, ⟨.other, idle⟩), (.selected 1 false [3], ⟨.other, idle⟩),
      (.tick, ⟨.other, idle⟩), (.clock ⟨0, 0⟩, ⟨.other, idle⟩)]
  pass ++ [(.tick, ⟨.startServer ⟨some 4, true, true, true, true, ⟨0, 0⟩⟩, idle⟩),
      (.tick, ⟨.other, idle⟩), (.tick, ⟨.other, idle⟩)] ++
    pass ++ [(.tick, ⟨.startServer ⟨some 5, true, true, true, true, ⟨1, 0⟩⟩, idle⟩)]

theorem servers_timed_two :
    (servers (final step (App.init 3) twoServers).loop.data).Perm
        (stops (final step (App.init 3) twoServers).loop.data) ∧
      (servers (final step (App.init 3) twoServers).loop.data).Nodup ∧
      (loopbackServerStatus (final step (App.init 3) twoServers).vars ≠ 0 →
        (final step (App.init 3) twoServers).vars.loopbackSocket ∈
          servers (final step (App.init 3) twoServers).loop.data) := by
  refine servers_timed (by decide) fun m hm io hio => ?_
  have hevent := event_mem_of_moves m hm
  simp only [twoServers, List.cons_append, List.nil_append, List.mem_cons, List.not_mem_nil,
    or_false] at hevent
  rcases hevent with h | h | h | h | h | h | h | h | h | h | h | h <;> rw [h] at hio <;>
    cases hio <;> rfl

/-! ## The sender -/

/-- **Packets go out on the sender's own socket.** It is open, and it is none
that the loop listens on. -/
theorem packets_own_socket {control : Int} (pos : 0 < control)
    {es : List (Event Reader Timer Unit × Io)} {m : AppMove}
    (hm : m ∈ moves step (App.init control) es) {sock : Int} {echo : Bool}
    (packet : m.output = .packet sock echo) :
    sock = m.before.vars.loopback.sock ∧ 0 < sock ∧ sock ∈ m.before.vars.openFds ∧
      sock ∉ m.before.loop.data.readers.map (·.sock) ∧
      m.after.vars.loopback.pktSent = m.before.vars.loopback.pktSent + 1 ∧
      m.after.vars.loopback.pktRcv ≤ m.after.vars.loopback.pktSent := by
  obtain ⟨hof, books, books'⟩ := moves_invariant
    (I := fun a : App => Books a.loop.data a.vars) (G := fun _ => True)
    (fun m hm _ h => books_step m hm h) (books_init pos) (fun _ _ => trivial) m hm
  cases appStep_of hof with
  | quiet readers timeout vars output => rw [output] at packet; cases packet
  | api fresh data vars output =>
      rw [output] at packet
      cases hapi : m.event.2.api <;> rw [hapi] at packet <;> cases packet
  | stop t rest head stop data vars output => rw [output] at packet; cases packet
  | packet t rest head send data vars output =>
      rw [output] at packet
      cases packet
      obtain ⟨hpos, hopen, hnot⟩ :=
        books.sender (books.due t (head ▸ List.mem_cons_self) send).2.2
      refine ⟨rfl, hpos, hopen, hnot, ?_, books'.counts⟩
      rw [vars]
      exact (sendContinuous_info _ _).2.2.1

/-- A UDP sender is started and sends its first packet. -/
def oneSender : List (Event Reader Timer Unit × Io) :=
  let idle : PacketIo := ⟨true, true, true, true, ⟨0, 5⟩⟩
  [(.clock ⟨0, 0⟩, ⟨.other, idle⟩), (.selected 1 false [3], ⟨.other, idle⟩),
    (.tick, ⟨.other, idle⟩), (.clock ⟨0, 0⟩, ⟨.other, idle⟩),
    (.tick, ⟨.sendUdp ⟨some 4, true, true, true, ⟨0, 0⟩, 1000⟩, idle⟩),
    (.tick, ⟨.other, idle⟩), (.clock ⟨0, 1⟩, ⟨.other, idle⟩),
    (.selected 1 false [3], ⟨.other, idle⟩), (.tick, ⟨.other, idle⟩),
    (.clock ⟨0, 2⟩, ⟨.other, idle⟩)]

theorem packets_own_socket_one :
    ∃ m ∈ moves step (App.init 3) oneSender, ∃ sock echo, m.output = .packet sock echo ∧
      sock = m.before.vars.loopback.sock ∧ 0 < sock ∧ sock ∈ m.before.vars.openFds ∧
        sock ∉ m.before.loop.data.readers.map (·.sock) ∧
        m.after.vars.loopback.pktSent = m.before.vars.loopback.pktSent + 1 ∧
        m.after.vars.loopback.pktRcv ≤ m.after.vars.loopback.pktSent := by
  have hm : (moves step (App.init 3) oneSender)[9]? = some _ := rfl
  exact ⟨_, List.mem_of_getElem? hm, _, _, rfl,
    packets_own_socket (by decide) (List.mem_of_getElem? hm) rfl⟩

/-- The call starts a sender. -/
def Api.starts : Api → Bool
  | .sendUdp _ | .sendIcmp _ => true
  | _ => false

/-- What an API that starts no sender leaves of the sender. -/
theorem api_info {v : Vars} {api : Api} (h : api.starts = false) :
    (apiHandler v api).2.1.loopback.pktSent = v.loopback.pktSent ∧
      (apiHandler v api).2.1.loopback.pktType = v.loopback.pktType ∧
      (v.loopback.sock = 0 → (apiHandler v api).2.1.loopback.sock = 0) := by
  cases api with
  | startServer io =>
      obtain ⟨sock, bound, named, memReader, memTimeout, now⟩ := io
      cases sock <;> cases bound <;> cases named <;> cases memReader <;> exact ⟨rfl, rfl, id⟩
  | stopServer =>
      simp only [apiHandler, loopbackServerStop]
      split
      · split <;> exact ⟨rfl, rfl, id⟩
      · exact ⟨rfl, rfl, id⟩
  | stopData =>
      simp only [apiHandler, stopLoopbackData]
      split
      · exact ⟨rfl, rfl, id⟩
      · exact ⟨rfl, rfl, fun _ => rfl⟩
  | other => exact ⟨rfl, rfl, id⟩
  | sendUdp | sendIcmp => cases h

theorem silent_step (m : AppMove) (hof : m.Of step) (noStart : m.event.2.api.starts = false)
    (inv : Books m.before.loop.data m.before.vars ∧ m.before.vars.loopback.sock = 0) :
    (Books m.after.loop.data m.after.vars ∧ m.after.vars.loopback.sock = 0) ∧
      ∀ sock echo, m.output ≠ .packet sock echo := by
  obtain ⟨books, hzero⟩ := inv
  refine ⟨⟨books_step m hof books, ?_⟩, fun sock echo hout => ?_⟩
  · cases appStep_of hof with
    | quiet readers timeout vars => rw [vars]; exact hzero
    | api fresh data vars => rw [vars]; exact (api_info noStart).2.2 hzero
    | stop t rest head stop data vars => rw [vars]; exact hzero
    | packet t rest head send data vars =>
        exact absurd hzero (books.due t (head ▸ List.mem_cons_self) send).2.2
  · cases appStep_of hof with
    | quiet readers timeout vars output => rw [output] at hout; cases hout
    | api fresh data vars output =>
        rw [output] at hout
        cases hapi : m.event.2.api <;> rw [hapi] at hout <;> cases hout
    | stop t rest head stop data vars output => rw [output] at hout; cases hout
    | packet t rest head send data vars =>
        exact absurd hzero (books.due t (head ▸ List.mem_cons_self) send).2.2

/-- **Silence after a stop.** From the call that stops the data on, no packet is
sent until a sender is started. -/
theorem silent_after_stop {control : Int} (pos : 0 < control) {m : AppMove}
    (reached : Reachable step (App.init control) m.before) (hof : m.Of step) {received : Nat}
    {sent : Option Nat} (stopped : m.output = .stopped received sent)
    {es : List (Event Reader Timer Unit × Io)}
    (noStart : ∀ x ∈ moves step m.after es, x.event.2.api.starts = false) :
    ∀ x ∈ moves step m.after es, ∀ sock echo, x.output ≠ .packet sock echo := by
  have books : Books m.before.loop.data m.before.vars :=
    reached.invariant (I := fun a : App => Books a.loop.data a.vars) (books_init pos) books_step
  have hzero : m.after.vars.loopback.sock = 0 := by
    cases appStep_of hof with
    | quiet readers timeout vars output => rw [output] at stopped; cases stopped
    | stop t rest head stop data vars output => rw [output] at stopped; cases stopped
    | packet t rest head send data vars output => rw [output] at stopped; cases stopped
    | api fresh data vars output =>
        rw [output] at stopped
        cases hapi : m.event.2.api with
        | stopData =>
            rw [vars, hapi]
            simp only [apiHandler, stopLoopbackData]
            split
            · rename_i hnot
              by_contra hne
              have hsock := (books.sender hne).1
              omega
            · rfl
        | _ => rw [hapi] at stopped; cases stopped
  intro x hx
  obtain ⟨hxof, hinv, -⟩ := moves_invariant
    (I := fun a : App => Books a.loop.data a.vars ∧ a.vars.loopback.sock = 0)
    (fun m hm hn hi => (silent_step m hm hn hi).1) ⟨books_step m hof books, hzero⟩ noStart x hx
  exact (silent_step x hxof (noStart x hx) hinv).2

/-- It is stopped, and the loop goes round once more. -/
def stopSender : Event Reader Timer Unit × Io :=
  (.tick, ⟨.stopData, ⟨true, true, true, true, ⟨0, 3⟩⟩⟩)

def oneMorePass : List (Event Reader Timer Unit × Io) :=
  let idle : Io := ⟨.other, ⟨true, true, true, true, ⟨0, 9⟩⟩⟩
  [(.tick, idle), (.clock ⟨9, 0⟩, idle), (.selected 0 false [], idle), (.tick, idle),
    (.clock ⟨9, 0⟩, idle)]

theorem silent_after_stop_one :
    (moves step (final step (App.init 3) (oneSender ++ [stopSender])) oneMorePass).length = 5 ∧
      ∀ x ∈ moves step (final step (App.init 3) (oneSender ++ [stopSender])) oneMorePass,
        ∀ sock echo, x.output ≠ .packet sock echo :=
  ⟨rfl, silent_after_stop (show (0 : Int) < 3 by decide)
    (m := ⟨final step (App.init 3) oneSender, stopSender, .stopped 1 (some 1),
      final step (App.init 3) (oneSender ++ [stopSender])⟩)
    ⟨oneSender, rfl⟩ rfl rfl (by decide)⟩

/-! ## A sender without echoes -/

def isPacket (m : AppMove) : Bool :=
  match m.output with
  | .packet _ _ => true
  | _ => false

def isEcho (m : AppMove) : Bool :=
  match m.output with
  | .packet _ echo => echo
  | _ => false

/-- How many packets may still be sent without an echo. -/
def purse (a : App) : Nat :=
  999 - a.vars.loopback.pktSent + a.loop.data.timeout.countP isSend

theorem countP_isSend_register {d : AppData} (mem : Bool) (now : Timeval) (secs usecs : Nat)
    (handler : Timer) (e u : Ctx) :
    (d.registerTimeout mem now secs usecs handler e u).timeout.countP isSend ≤
      d.timeout.countP isSend + if handler = .sendContinuousLoopbackPacket then 1 else 0 := by
  cases mem with
  | false => exact Nat.le_add_right _ _
  | true =>
      rw [(perm_registerTimeout now secs usecs handler e u).countP_eq, List.countP_cons]
      simp [isSend]

/-- An API that starts no sender makes no packet due. -/
theorem countP_isSend_api {d : AppData} {v : Vars} {api : Api} (h : api.starts = false) :
    (AppData.applyAll d (apiHandler v api).2.2).timeout.countP isSend ≤
      d.timeout.countP isSend := by
  cases api with
  | startServer io =>
      obtain ⟨sock, bound, named, memReader, memTimeout, now⟩ := io
      cases sock with
      | none => exact le_rfl
      | some s =>
          cases bound with
          | false => exact le_rfl
          | true =>
              cases named with
              | false => exact le_rfl
              | true =>
                  cases memReader with
                  | false => exact le_rfl
                  | true =>
                      exact countP_isSend_register (d := d.registerReadSock true s
                        .loopbackServerReceiveMessage null null) memTimeout now loopbackTimeout 0
                        .loopbackServerTimeout s null
  | stopServer =>
      simp only [apiHandler, loopbackServerStop]
      split
      · split
        · exact List.filter_sublist.countP_le
        · exact le_rfl
      · exact le_rfl
  | stopData =>
      simp only [apiHandler, stopLoopbackData]
      split
      · exact le_rfl
      · exact List.filter_sublist.countP_le
  | other => exact le_rfl
  | sendUdp | sendIcmp => cases h

/-- A UDP packet without an echo uses up the purse. -/
theorem purse_packet {d : AppData} {v : Vars} {t : EloopTimeout Timer}
    {rest : List (EloopTimeout Timer)} (head : d.timeout = t :: rest) (send : isSend t = true)
    (udp : v.loopback.pktType = .udp) (io : PacketIo) :
    1 + (999 - (sendContinuousLoopbackPacket v io).1.loopback.pktSent +
        (AppData.applyAll { d with timeout := rest }
          (sendContinuousLoopbackPacket v io).2).timeout.countP isSend) ≤
      ((sendContinuousLoopbackPacket v io).1.loopback.pktRcv != v.loopback.pktRcv).toNat +
        (999 - v.loopback.pktSent + d.timeout.countP isSend) := by
  have hlater := countP_isSend_register (d := { d with timeout := rest }) io.mem io.now 0
    v.loopback.rate .sendContinuousLoopbackPacket infoPtr null
  simp only [if_true] at hlater
  rw [head, List.countP_cons_of_pos send]
  unfold sendContinuousLoopbackPacket sendOneLoopbackUdpPacket
  simp only [udp]
  split
  · simp only [bne_self_eq_false, Bool.toNat_false]
    split
    · simp only [AppData.applyAll, List.foldl_cons, List.foldl_nil, registerSender, Op.apply]
      omega
    · simp only [AppData.applyAll, List.foldl_nil]
      omega
  · have hecho : (v.loopback.pktRcv + 1 != v.loopback.pktRcv) = true := by simp
    simp only [hecho, Bool.toNat_true, AppData.applyAll, List.foldl_cons, List.foldl_nil,
      registerSender, Op.apply]
    omega

theorem purse_step (m : AppMove) (hof : m.Of step) (noStart : m.event.2.api.starts = false)
    (udp : m.before.vars.loopback.pktType = .udp) :
    m.after.vars.loopback.pktType = .udp ∧
      (isPacket m).toNat + purse m.after ≤ (isEcho m).toNat + purse m.before := by
  cases appStep_of hof with
  | quiet readers timeout vars output =>
      rw [vars]
      refine ⟨udp, ?_⟩
      simp only [purse, isPacket, isEcho, output, timeout, vars]
      exact le_rfl
  | api fresh data vars output =>
      obtain ⟨hsent, htype, -⟩ := @api_info m.before.vars _ noStart
      rw [vars]
      refine ⟨htype.trans udp, ?_⟩
      have hcount := @countP_isSend_api m.before.loop.data m.before.vars _ noStart
      have hnone : isPacket m = false := by
        unfold isPacket
        rw [output]
        cases m.event.2.api <;> rfl
      rw [hnone]
      simp only [purse, vars, data, hsent]
      simp only [Bool.toNat_false]
      omega
  | stop t rest head stop data vars output =>
      rw [vars]
      refine ⟨udp, ?_⟩
      have hcount := (List.sublist_cons_self t rest).countP_le (p := isSend)
      simp only [purse, isPacket, isEcho, output, vars, data, head, unregisterReadSock, Vars.close]
      omega
  | packet t rest head send data vars output =>
      refine ⟨?_, ?_⟩
      · rw [vars]
        exact (sendContinuous_info _ _).2.1.trans udp
      · have hpurse := purse_packet head send udp m.event.2.packet
        simp only [purse, isPacket, isEcho, output, vars, data]
        exact hpurse

/-- **A UDP sender without echoes gives up.** From any state on, and while no
other sender is started, it sends no more packets than are left up to the
thousandth, but one more for each echo and for each packet that is due. -/
theorem udp_gives_up {a : App} (udp : a.vars.loopback.pktType = .udp)
    {es : List (Event Reader Timer Unit × Io)}
    (noStart : ∀ m ∈ moves step a es, m.event.2.api.starts = false) :
    (moves step a es).countP isPacket ≤
      (moves step a es).countP isEcho + (999 - a.vars.loopback.pktSent) +
        a.loop.data.timeout.countP isSend := by
  have hcount := moves_countP_le (I := fun a : App => a.vars.loopback.pktType = .udp)
    (G := fun m => m.event.2.api.starts = false) purse
    (fun m hm hg hi => (purse_step m hm hg hi).1) (fun m hm hg hi => (purse_step m hm hg hi).2)
    udp noStart
  unfold purse at hcount
  omega

theorem udp_gives_up_one :
    (moves step (final step (App.init 3) oneSender) oneMorePass).countP isPacket ≤
      (moves step (final step (App.init 3) oneSender) oneMorePass).countP isEcho +
        (999 - (final step (App.init 3) oneSender).vars.loopback.pktSent) +
        (final step (App.init 3) oneSender).loop.data.timeout.countP isSend :=
  udp_gives_up rfl (by decide)

end AfcDut.ControlApp.Loopback
