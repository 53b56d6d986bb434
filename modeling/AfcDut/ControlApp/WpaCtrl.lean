import AfcDut.Lts.Trace

/-!
# The control interface of hostapd and wpa_supplicant

`wpa_ctrl_request` (`wpa_ctrl.c`) on a connection of datagrams. The daemon
answers the commands in the order they come, whatever it answers and whenever,
and may send an unsolicited message at any moment; its replies do not start with
`<`. Without the cookie, which only the UDP build has.
-/

namespace AfcDut.ControlApp.WpaCtrl

abbrev Datagram := List UInt8

/-- `'<'` -/
def lessThan : UInt8 := 60

/-- `res > 0 && reply[0] == '<'` of what `recv` has stored. -/
def unsolicited (stored : Datagram) : Bool := stored.head? == some lessThan

/-- What `wpa_ctrl_request` has been given, while it waits; there is room for a reply. -/
structure Waiting where
  replyLen : Nat
  msgCb : Bool
  room : 0 < replyLen
  deriving DecidableEq, Repr

/-- Both ends of a connection: the commands the daemon has not answered, the
datagrams the client has not read, and the request that waits. -/
structure Session where
  commands : List Datagram
  inbox : List Datagram
  waiting : Option Waiting
  deriving DecidableEq, Repr

def Session.init : Session := ⟨[], [], none⟩

inductive Event where
  /-- the call, and whether `send` succeeds -/
  | request (cmd : Datagram) (w : Waiting) (sent : Bool)
  | answer (reply : Datagram)
  | notify (msg : Datagram)
  /-- `recv` on a socket that is ready -/
  | recv
  | interrupted
  | recvError
  /-- `select` returns after two seconds -/
  | timeout

inductive Output where
  | silent
  /-- the return value of a request that fails -/
  | failed (res : Int)
  /-- the request returns 0, with `reply_len` as given and `reply` -/
  | reply (replyLen : Nat) (reply : Datagram)
  | callback (msg : Datagram)
  deriving DecidableEq, Repr

/-- What `msg_cb` gets: cut short for its NUL. -/
def callbackText (w : Waiting) (stored : Datagram) : Datagram := stored.take (w.replyLen - 1)

/-- `recv` and the rest of the round of the loop. -/
def receive (s : Session) (w : Waiting) (d : Datagram) (rest : List Datagram) :
    Session × Output :=
  let stored := d.take w.replyLen
  if unsolicited stored then
    ({ s with inbox := rest },
      if w.msgCb then .callback (callbackText w stored) else .silent)
  else (⟨s.commands, rest, none⟩, .reply w.replyLen stored)

/-- A move of the client, of the daemon, or of time. -/
def step : Lts.StepFn Session Event Output
  | s, .request cmd w sent =>
      match s.waiting with
      | some _ => none
      | none =>
          if sent then some (⟨s.commands ++ [cmd], s.inbox, some w⟩, .silent)
          else some (s, .failed (-1))
  | s, .answer reply =>
      match s.commands with
      | [] => none
      | _ :: rest =>
          if unsolicited reply then none
          else some (⟨rest, s.inbox ++ [reply], s.waiting⟩, .silent)
  | s, .notify msg =>
      if unsolicited msg then some ({ s with inbox := s.inbox ++ [msg] }, .silent) else none
  | s, .recv =>
      match s.waiting, s.inbox with
      | some w, d :: rest => some (receive s w d rest)
      | _, _ => none
  | s, .interrupted => s.waiting.map fun _ => (s, .silent)
  | s, .recvError => s.waiting.map fun _ => ({ s with waiting := none }, .failed (-1))
  | s, .timeout =>
      match s.waiting, s.inbox with
      | some _, [] => some ({ s with waiting := none }, .failed (-2))
      | _, _ => none

end AfcDut.ControlApp.WpaCtrl
