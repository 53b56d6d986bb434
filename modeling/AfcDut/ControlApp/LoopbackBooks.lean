import AfcDut.ControlApp.Loopback
import AfcDut.Eloop.Numbered

/-!
# What the loopback handlers keep

Each descriptor is one socket of the loop or the sender's, a timeout that stops
a server names a server, and a packet is only due while the sender has its
socket.
-/

namespace AfcDut.ControlApp.Loopback

open Eloop EloopData Data TimerQueue

abbrev AppData := EloopData Reader Timer Unit

def isServer (r : EloopSock Reader) : Bool := decide (r.handler = .loopbackServerReceiveMessage)

def isStop (t : EloopTimeout Timer) : Bool := decide (t.handler = .loopbackServerTimeout)

def isSend (t : EloopTimeout Timer) : Bool := decide (t.handler = .sendContinuousLoopbackPacket)

/-- The sockets of the loopback servers. -/
def servers (d : AppData) : List Int := (d.readers.filter isServer).map (·.sock)

/-- The sockets that a pending timeout will close. -/
def stops (d : AppData) : List Int := (d.timeout.filter isStop).map (·.eloopData)

structure Books (d : AppData) (v : Vars) : Prop where
  std : 0 ∈ v.openFds
  socks : (d.readers.map (·.sock)).Nodup
  opened : ∀ r ∈ d.readers, r.sock ∈ v.openFds ∧ 0 < r.sock
  status : v.loopbackSocket = 0 ∨ v.loopbackSocket ∈ servers d
  stopped : (stops d).Nodup
  timed : ∀ s ∈ stops d, s ∈ servers d
  stopArgs : ∀ t ∈ d.timeout, isStop t = true → t.userData = null
  sender : v.loopback.sock ≠ 0 → 0 < v.loopback.sock ∧ v.loopback.sock ∈ v.openFds ∧
    v.loopback.sock ∉ d.readers.map (·.sock)
  due : ∀ t ∈ d.timeout, isSend t = true →
    t.eloopData = infoPtr ∧ t.userData = null ∧ v.loopback.sock ≠ 0
  counts : v.loopback.pktRcv ≤ v.loopback.pktSent

/-! ## Lists -/

theorem eraseP_eq_filter {l : List (EloopSock Reader)} (h : (l.map (·.sock)).Nodup) (s : Int) :
    (l.eraseP fun r => r.sock == s) = l.filter fun r => r.sock != s := by
  induction l with
  | nil => rfl
  | cons r l ih =>
      obtain ⟨hr, hl⟩ := List.nodup_cons.mp h
      by_cases heq : r.sock = s
      · rw [List.eraseP_cons_of_pos (by simpa using heq),
          List.filter_cons_of_neg (by simpa using heq), List.filter_eq_self.mpr]
        intro r' hr'
        have hne : r'.sock ≠ s := fun h' =>
          hr (List.mem_map.mpr ⟨r', hr', h'.trans heq.symm⟩)
        simpa using hne
      · rw [List.eraseP_cons_of_neg (by simpa using heq),
          List.filter_cons_of_pos (by simpa using heq), ih hl]

theorem mem_servers {d : AppData} {s : Int} :
    s ∈ servers d ↔ ∃ r ∈ d.readers, isServer r = true ∧ r.sock = s := by
  simp [servers, and_assoc]

theorem mem_stops {d : AppData} {s : Int} :
    s ∈ stops d ↔ ∃ t ∈ d.timeout, isStop t = true ∧ t.eloopData = s := by
  simp [stops, and_assoc]

theorem sock_mem_of_server {d : AppData} {s : Int} (h : s ∈ servers d) :
    s ∈ d.readers.map (·.sock) := by
  obtain ⟨r, hr, -, hs⟩ := mem_servers.mp h
  exact List.mem_map.mpr ⟨r, hr, hs⟩

theorem mem_servers_unregister {d : AppData} (h : (d.readers.map (·.sock)).Nodup) {s s' : Int} :
    s' ∈ servers (d.unregisterReadSock s) ↔ s' ∈ servers d ∧ s' ≠ s := by
  simp only [mem_servers, unregisterReadSock, eraseP_eq_filter h, List.mem_filter,
    bne_iff_ne, ne_eq]
  constructor
  · rintro ⟨r, ⟨hr, hne⟩, hserver, rfl⟩
    exact ⟨⟨r, hr, hserver, rfl⟩, hne⟩
  · rintro ⟨⟨r, hr, hserver, rfl⟩, hne⟩
    exact ⟨r, ⟨hr, hne⟩, hserver, rfl⟩

theorem perm_registerTimeout {d : AppData} (now : Timeval) (secs usecs : Nat) (handler : Timer)
    (e u : Ctx) :
    (d.registerTimeout true now secs usecs handler e u).timeout.Perm
      (⟨dueTime now secs usecs, e, u, handler, d.registered⟩ :: d.timeout) := by
  simp only [registerTimeout, if_true, insertTimeout_eq]
  exact perm_enqueue _ _

theorem mem_close {v : Vars} {fd s : Int} : fd ∈ (v.close s).openFds ↔ fd ∈ v.openFds ∧ fd ≠ s := by
  simp [Vars.close]

/-! ## The handlers -/

namespace Books

variable {d : AppData} {v : Vars}

/-- The first timeout leaves the list. -/
theorem pop (h : Books d v) {t : EloopTimeout Timer} {rest : List (EloopTimeout Timer)}
    (head : d.timeout = t :: rest) : Books { d with timeout := rest } v where
  std := h.std
  socks := h.socks
  opened := h.opened
  status := h.status
  stopped := by
    have hall := h.stopped
    unfold stops at hall ⊢
    rw [head] at hall
    exact hall.sublist (((List.sublist_cons_self t rest).filter _).map _)
  timed := fun s hs => h.timed s (by
    obtain ⟨u, hu, hrest⟩ := mem_stops.mp hs
    exact mem_stops.mpr ⟨u, head ▸ List.mem_cons_of_mem _ hu, hrest⟩)
  stopArgs := fun u hu => h.stopArgs u (head ▸ List.mem_cons_of_mem _ hu)
  sender := h.sender
  due := fun u hu => h.due u (head ▸ List.mem_cons_of_mem _ hu)
  counts := h.counts

/-- A server that no timeout names goes, and its socket is closed. -/
theorem dropServer (h : Books d v) {s : Int} (server : s ∈ servers d) (untimed : s ∉ stops d) :
    Books (d.unregisterReadSock s) { v.close s with loopbackSocket := 0 } where
  std := by
    obtain ⟨r, hr, -, rfl⟩ := mem_servers.mp server
    exact mem_close.mpr ⟨h.std, (h.opened r hr).2.ne⟩
  socks := h.socks.sublist (List.eraseP_sublist.map _)
  opened := by
    intro r hr
    simp only [unregisterReadSock, eraseP_eq_filter h.socks, List.mem_filter, bne_iff_ne] at hr
    exact ⟨mem_close.mpr ⟨(h.opened r hr.1).1, hr.2⟩, (h.opened r hr.1).2⟩
  status := .inl rfl
  stopped := h.stopped
  timed := fun s' hs' => (mem_servers_unregister h.socks).mpr
    ⟨h.timed s' hs', fun heq => untimed (heq ▸ hs')⟩
  stopArgs := h.stopArgs
  sender := by
    intro hsock
    obtain ⟨hpos, hopen, hnot⟩ := h.sender hsock
    refine ⟨hpos, mem_close.mpr ⟨hopen, ?_⟩, fun hmem => ?_⟩
    · intro heq
      have hsame : v.loopback.sock = s := heq
      exact hnot (hsame ▸ sock_mem_of_server server)
    · exact hnot ((List.eraseP_sublist.map _).subset hmem)
  due := h.due
  counts := h.counts

/-- The timeout that stops a server, taken from the list before it runs. -/
theorem serverTimeout (h : Books d v) {t : EloopTimeout Timer}
    {rest : List (EloopTimeout Timer)} (head : d.timeout = t :: rest)
    (stop : isStop t = true) :
    Books (({ d with timeout := rest } : AppData).unregisterReadSock t.eloopData)
      { v.close t.eloopData with loopbackSocket := 0 } := by
  have hnodup := h.stopped
  unfold stops at hnodup
  rw [head, List.filter_cons_of_pos stop, List.map_cons, List.nodup_cons] at hnodup
  refine (h.pop head).dropServer ?_ hnodup.1
  exact h.timed _ (mem_stops.mpr ⟨t, head ▸ List.mem_cons_self, stop, rfl⟩)

theorem cancel (h : Books d v) (handler : Timer) (e u : Ctx) :
    Books (d.cancelTimeout handler e u) v where
  std := h.std
  socks := h.socks
  opened := h.opened
  status := h.status
  stopped := h.stopped.sublist ((List.filter_sublist.filter _).map _)
  timed := fun s hs => h.timed s (by
    obtain ⟨t, ht, hrest⟩ := mem_stops.mp hs
    exact mem_stops.mpr ⟨t, List.mem_of_mem_filter ht, hrest⟩)
  stopArgs := fun t ht => h.stopArgs t (List.mem_of_mem_filter ht)
  sender := h.sender
  due := fun t ht => h.due t (List.mem_of_mem_filter ht)
  counts := h.counts

/-- The cancelled timeouts of a server are gone. -/
theorem not_mem_stops_cancel (h : Books d v) (s : Int) :
    s ∉ stops (d.cancelTimeout .loopbackServerTimeout s null) := by
  intro hs
  obtain ⟨t, ht, hstop, heq⟩ := mem_stops.mp hs
  obtain ⟨ht, hnot⟩ := List.mem_filter.mp ht
  have huser := h.stopArgs t ht hstop
  simp only [isStop, decide_eq_true_eq] at hstop
  simp [matchesTimeout, hstop, heq, huser] at hnot

theorem serverStop (h : Books d v) (set : v.loopbackSocket ≠ 0) :
    Books ((d.cancelTimeout .loopbackServerTimeout v.loopbackSocket null).unregisterReadSock
        v.loopbackSocket)
      { v.close v.loopbackSocket with loopbackSocket := 0 } := by
  refine (h.cancel _ _ _).dropServer ?_ (h.not_mem_stops_cancel _)
  exact h.status.resolve_left set

/-- A descriptor that is opened and not used. -/
theorem leak (h : Books d v) (s : Int) : Books d (v.open s) where
  std := List.mem_cons_of_mem _ h.std
  socks := h.socks
  opened := fun r hr => ⟨List.mem_cons_of_mem _ (h.opened r hr).1, (h.opened r hr).2⟩
  status := h.status
  stopped := h.stopped
  timed := h.timed
  stopArgs := h.stopArgs
  sender := fun hs => ⟨(h.sender hs).1, List.mem_cons_of_mem _ (h.sender hs).2.1, (h.sender hs).2.2⟩
  due := h.due
  counts := h.counts

/-- It is opened and closed again. -/
theorem openClose (h : Books d v) {s : Int} (fresh : s ∉ v.openFds) :
    Books d ((v.open s).close s) := by
  have hfds : ((v.open s).close s) = v := by
    have hall : (v.openFds.filter fun fd => fd != s) = v.openFds :=
      List.filter_eq_self.mpr fun fd hfd => by
        simpa using fun heq : fd = s => fresh (heq ▸ hfd)
    simp [Vars.close, Vars.open, hall]
  rw [hfds]
  exact h

/-- A new socket for a server. -/
theorem newServer (h : Books d v) {s : Int} (fresh : s ∉ v.openFds) (nonneg : 0 ≤ s) :
    Books (d.registerReadSock true s .loopbackServerReceiveMessage null null)
      { v.open s with loopbackSocket := s } where
  std := List.mem_cons_of_mem _ h.std
  socks := by
    simp only [registerReadSock, if_true, List.map_append, List.map_cons, List.map_nil]
    refine List.nodup_append.mpr ⟨h.socks, List.nodup_singleton _, ?_⟩
    intro s' hs' s'' hs''
    obtain ⟨r, hr, rfl⟩ := List.mem_map.mp hs'
    rw [List.mem_singleton.mp hs'']
    exact fun heq => fresh (heq ▸ (h.opened r hr).1)
  opened := by
    have hne : s ≠ 0 := fun h0 => fresh (h0 ▸ h.std)
    intro r hr
    rcases List.mem_append.mp hr with hr | hr
    · exact ⟨List.mem_cons_of_mem _ (h.opened r hr).1, (h.opened r hr).2⟩
    · rw [List.mem_singleton.mp hr]
      exact ⟨List.mem_cons_self, by simp only; omega⟩
  status := .inr (mem_servers.mpr
    ⟨_, List.mem_append_right _ (List.mem_singleton.mpr rfl), rfl, rfl⟩)
  stopped := h.stopped
  timed := fun s' hs' => by
    obtain ⟨r, hr, hrest⟩ := mem_servers.mp (h.timed s' hs')
    exact mem_servers.mpr ⟨r, List.mem_append_left _ hr, hrest⟩
  stopArgs := h.stopArgs
  sender := by
    intro hs
    obtain ⟨hpos, hopen, hnot⟩ := h.sender hs
    refine ⟨hpos, List.mem_cons_of_mem _ hopen, ?_⟩
    simp only [registerReadSock, if_true, List.map_append, List.map_cons, List.map_nil,
      List.mem_append, List.mem_singleton, not_or]
    exact ⟨hnot, fun heq => fresh (heq ▸ hopen)⟩
  due := h.due
  counts := h.counts

/-- A server that is not yet timed gets its timeout. -/
theorem timeServer (h : Books d v) {s : Int} (server : s ∈ servers d) (untimed : s ∉ stops d)
    (mem : Bool) (now : Timeval) (secs usecs : Nat) :
    Books (d.registerTimeout mem now secs usecs .loopbackServerTimeout s null) v := by
  cases mem with
  | false => exact h
  | true =>
      have hperm := perm_registerTimeout (d := d) now secs usecs .loopbackServerTimeout s null
      have hmem : ∀ t : EloopTimeout Timer,
          t ∈ (d.registerTimeout true now secs usecs .loopbackServerTimeout s null).timeout →
            t = ⟨dueTime now secs usecs, s, null, .loopbackServerTimeout, d.registered⟩ ∨
              t ∈ d.timeout := by
        intro t ht
        simpa only [hperm.mem_iff, List.mem_cons] using ht
      refine ⟨h.std, h.socks, h.opened, h.status, ?_, ?_, ?_, h.sender, ?_, h.counts⟩
      · unfold stops
        rw [((hperm.filter _).map _).nodup_iff, List.filter_cons_of_pos rfl, List.map_cons,
          List.nodup_cons]
        exact ⟨untimed, h.stopped⟩
      · intro s' hs'
        obtain ⟨t, ht, hstop, rfl⟩ := mem_stops.mp hs'
        rcases hmem t ht with rfl | ht
        · exact server
        · exact h.timed _ (mem_stops.mpr ⟨t, ht, hstop, rfl⟩)
      · intro t ht hstop
        rcases hmem t ht with rfl | ht
        · rfl
        · exact h.stopArgs t ht hstop
      · intro t ht hsend
        rcases hmem t ht with rfl | ht
        · cases hsend
        · exact h.due t ht hsend

theorem serverStart (h : Books d v) {s : Int} (fresh : s ∉ v.openFds) (nonneg : 0 ≤ s)
    (mem : Bool) (now : Timeval) (secs usecs : Nat) :
    Books ((d.registerReadSock true s .loopbackServerReceiveMessage null null).registerTimeout
        mem now secs usecs .loopbackServerTimeout s null)
      { v.open s with loopbackSocket := s } := by
  refine (h.newServer fresh nonneg).timeServer ?_ (fun hstop => ?_) mem now secs usecs
  · exact mem_servers.mpr ⟨_, List.mem_append_right _ (List.mem_singleton.mpr rfl), rfl, rfl⟩
  · obtain ⟨r, hr, -, heq⟩ := mem_servers.mp (h.timed s hstop)
    exact fresh (heq ▸ (h.opened r hr).1)

/-- The next packet becomes due. -/
theorem sendLater (h : Books d v) (sock : v.loopback.sock ≠ 0) (mem : Bool) (now : Timeval)
    (usecs : Nat) : Books ((registerSender mem now usecs).apply d) v := by
  cases mem with
  | false => exact h
  | true =>
      have hperm := perm_registerTimeout (d := d) now 0 usecs .sendContinuousLoopbackPacket
        infoPtr null
      have hmem : ∀ t : EloopTimeout Timer,
          t ∈ ((registerSender true now usecs).apply d).timeout →
            t = ⟨dueTime now 0 usecs, infoPtr, null, .sendContinuousLoopbackPacket,
              d.registered⟩ ∨ t ∈ d.timeout := by
        intro t ht
        simpa only [registerSender, Op.apply, hperm.mem_iff, List.mem_cons] using ht
      refine ⟨h.std, h.socks, h.opened, h.status, ?_, ?_, ?_, h.sender, ?_, h.counts⟩
      · unfold stops registerSender Op.apply
        rw [((hperm.filter _).map _).nodup_iff, List.filter_cons_of_neg Bool.false_ne_true]
        exact h.stopped
      · intro s' hs'
        obtain ⟨t, ht, hstop, rfl⟩ := mem_stops.mp hs'
        rcases hmem t ht with rfl | ht
        · cases hstop
        · exact h.timed _ (mem_stops.mpr ⟨t, ht, hstop, rfl⟩)
      · intro t ht hstop
        rcases hmem t ht with rfl | ht
        · cases hstop
        · exact h.stopArgs t ht hstop
      · intro t ht hsend
        rcases hmem t ht with rfl | ht
        · exact ⟨rfl, rfl, sock⟩
        · exact h.due t ht hsend

/-- The sender takes a new socket; the old one stays open. -/
theorem newSender (h : Books d v) {s : Int} (fresh : s ∉ v.openFds) (nonneg : 0 ≤ s)
    (rate : Nat) (pktType : PktType) :
    Books d { v.open s with loopback := ⟨s, rate, 0, 0, pktType⟩ } where
  std := List.mem_cons_of_mem _ h.std
  socks := h.socks
  opened := fun r hr => ⟨List.mem_cons_of_mem _ (h.opened r hr).1, (h.opened r hr).2⟩
  status := h.status
  stopped := h.stopped
  timed := h.timed
  stopArgs := h.stopArgs
  sender := by
    intro hne
    refine ⟨lt_of_le_of_ne nonneg hne.symm, List.mem_cons_self, fun hmem => ?_⟩
    obtain ⟨r, hr, heq⟩ := List.mem_map.mp hmem
    have hsame : r.sock = s := heq
    exact fresh (hsame ▸ (h.opened r hr).1)
  due := fun t ht hsend => by
    obtain ⟨he, hu, -⟩ := h.due t ht hsend
    refine ⟨he, hu, fun h0 => ?_⟩
    have hzero : s = 0 := h0
    exact fresh (hzero ▸ h.std)
  counts := le_rfl

/-- One more packet is counted, and perhaps its echo. -/
theorem countPacket (h : Books d v) {info : LoopbackInfo} (sock : info.sock = v.loopback.sock)
    (counts : info.pktRcv ≤ info.pktSent) : Books d { v with loopback := info } where
  std := h.std
  socks := h.socks
  opened := h.opened
  status := h.status
  stopped := h.stopped
  timed := h.timed
  stopArgs := h.stopArgs
  sender := by simpa only [sock] using h.sender
  due := by simpa only [sock] using h.due
  counts := counts

/-- The sender stops: nothing is due any more, and its socket is closed. -/
theorem stopSender (h : Books d v) (pos : ¬ v.loopback.sock ≤ 0) :
    Books (d.cancelTimeout .sendContinuousLoopbackPacket infoPtr null)
      { v.close v.loopback.sock with loopback := { v.loopback with sock := 0 } } := by
  have hcancel := h.cancel .sendContinuousLoopbackPacket infoPtr null
  obtain ⟨hpos, hopen, hnot⟩ := h.sender (by omega)
  refine ⟨?_, hcancel.socks, ?_, hcancel.status, hcancel.stopped, hcancel.timed,
    hcancel.stopArgs, fun hne => absurd rfl hne, ?_, h.counts⟩
  · exact mem_close.mpr ⟨h.std, hpos.ne⟩
  · intro r hr
    refine ⟨mem_close.mpr ⟨(h.opened r hr).1, fun heq => ?_⟩, (h.opened r hr).2⟩
    exact hnot (List.mem_map.mpr ⟨r, hr, heq⟩)
  · intro t ht hsend
    obtain ⟨ht, hkept⟩ := List.mem_filter.mp ht
    obtain ⟨he, hu, -⟩ := h.due t ht hsend
    simp only [isSend, decide_eq_true_eq] at hsend
    simp [matchesTimeout, hsend, he, hu] at hkept

end Books

end AfcDut.ControlApp.Loopback
