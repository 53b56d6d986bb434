import AfcDut.Eloop.Run

/-!
# Loopback traffic on the event loop

The control app as handlers of the event loop: the control socket, the loopback
server with the timeout that stops it, and the sender that registers itself
again for each packet (`utils.c`, `main.c`). An outcome says what the calls of
the system in a handler return. A handler runs to its end in one step. The
conversions of `rate` are left out, and with them the traffic of a fixed count,
which neither leaves a socket nor a timeout behind.
-/

namespace AfcDut.ControlApp.Loopback

open Eloop

/-! ## Handlers -/

inductive Reader where
  | controlReceiveMessage
  | loopbackServerReceiveMessage
  deriving DecidableEq, Repr

inductive Timer where
  | loopbackServerTimeout
  | sendContinuousLoopbackPacket
  deriving DecidableEq, Repr

/-- `handle_term` is the only handler of signals. -/
abbrev AppLoop := Loop Reader Timer Unit

abbrev AppOp := Op Reader Timer Unit

/-- `NULL` -/
def null : Ctx := 0

/-- `&loopback`, an address. -/
def infoPtr : Ctx := 4096

/-- `DATA_TYPE_UDP` and `DATA_TYPE_ICMP` -/
inductive PktType where
  | udp
  | icmp
  deriving DecidableEq, Repr

/-- `struct loopback_info`, but for what the packets hold. `rate` is the delay
between two packets in microseconds. -/
structure LoopbackInfo where
  sock : Int
  rate : Nat
  pktSent : Nat
  pktRcv : Nat
  pktType : PktType
  deriving DecidableEq, Repr

/-- The variables of `utils.c`, and the descriptors that are open. -/
structure Vars where
  openFds : List Int
  loopbackSocket : Int
  loopback : LoopbackInfo
  deriving DecidableEq, Repr

/-- `close` -/
def Vars.close (v : Vars) (fd : Int) : Vars :=
  { v with openFds := v.openFds.filter (· != fd) }

/-- `socket` -/
def Vars.open (v : Vars) (fd : Int) : Vars := { v with openFds := fd :: v.openFds }

/-- What a handler leaves: the variables, and its calls of the event loop. -/
abbrev Effect := Vars × List AppOp

/-! ## The server -/

/-- `loopback_server_start`: the descriptor of the socket, whether the address
is bound and read back, and whether the registrations get their memory. -/
structure ServerIo where
  sock : Option Int
  bound : Bool
  named : Bool
  memReader : Bool
  memTimeout : Bool
  now : Timeval

def loopbackServerStart (v : Vars) (timeout : Nat) (io : ServerIo) : Int × Effect :=
  match io.sock with
  | none => (-1, v, [])
  | some s =>
      let v := v.open s
      if !io.bound then (-1, v.close s, [])
      else if !io.named then (-1, v.close s, [])
      else
        let register : AppOp :=
          .registerReadSock io.memReader s .loopbackServerReceiveMessage null null
        -- the descriptor stays open when the registration fails
        if !io.memReader then (-1, v, [register])
        else
          (0, { v with loopbackSocket := s },
            [register, .registerTimeout io.memTimeout io.now timeout 0 .loopbackServerTimeout s
              null])

def loopbackServerStop (v : Vars) : Effect :=
  if v.loopbackSocket ≠ 0 then
    ({ v.close v.loopbackSocket with loopbackSocket := 0 },
      [.cancelTimeout .loopbackServerTimeout v.loopbackSocket null,
        .unregisterReadSock v.loopbackSocket])
  else (v, [])

def loopbackServerStatus (v : Vars) : Int := if v.loopbackSocket ≠ 0 then 1 else 0

def loopbackServerTimeout (v : Vars) (s : Ctx) : Effect :=
  ({ v.close s with loopbackSocket := 0 }, [.unregisterReadSock s])

/-- `LOOPBACK_TIMEOUT` -/
def loopbackTimeout : Nat := 180

/-! ## The sender -/

/-- The calls of `send_udp_data` and `send_icmp_data` with a packet count of -1. -/
structure SenderIo where
  sock : Option Int
  bound : Bool
  connected : Bool
  mem : Bool
  now : Timeval
  rate : Nat

def registerSender (mem : Bool) (now : Timeval) (usecs : Nat) : AppOp :=
  .registerTimeout mem now 0 usecs .sendContinuousLoopbackPacket infoPtr null

/-- `send_udp_data` with a packet count of -1 -/
def sendUdpData (v : Vars) (io : SenderIo) : Int × Effect :=
  match io.sock with
  | none => (-1, v, [])
  | some s =>
      let v := v.open s
      -- the descriptor stays open
      if !io.bound then (-1, v, [])
      else if !io.connected then (-1, v.close s, [])
      else
        (0, { v with loopback := ⟨s, io.rate, 0, 0, .udp⟩ }, [registerSender io.mem io.now 0])

/-- `send_icmp_data` with a packet count of -1 -/
def sendIcmpData (v : Vars) (io : SenderIo) : Int × Effect :=
  match io.sock with
  | none => (-1, v, [])
  | some s =>
      let v := v.open s
      if !io.bound then (-1, v, [])
      else
        (0, { v with loopback := ⟨s, io.rate, 0, 0, .icmp⟩ }, [registerSender io.mem io.now 0])

/-- One packet: whether it is sent, and whether the reply comes; `reply` says
that it is the echo from the target, which the UDP sender does not ask. -/
structure PacketIo where
  sent : Bool
  received : Bool
  reply : Bool
  mem : Bool
  now : Timeval

def sendOneLoopbackIcmpPacket (v : Vars) (io : PacketIo) : Effect :=
  let info := { v.loopback with pktSent := v.loopback.pktSent + 1 }
  let info :=
    if io.sent && io.received && io.reply then { info with pktRcv := info.pktRcv + 1 } else info
  ({ v with loopback := info }, [registerSender io.mem io.now info.rate])

def sendOneLoopbackUdpPacket (v : Vars) (io : PacketIo) : Effect :=
  let info := { v.loopback with pktSent := v.loopback.pktSent + 1 }
  if !(io.sent && io.received) then
    -- in case the tool does not send stop
    ({ v with loopback := info },
      if info.pktSent < 1000 then [registerSender io.mem io.now info.rate] else [])
  else
    ({ v with loopback := { info with pktRcv := info.pktRcv + 1 } },
      [registerSender io.mem io.now info.rate])

def sendContinuousLoopbackPacket (v : Vars) (io : PacketIo) : Effect :=
  match v.loopback.pktType with
  | .icmp => sendOneLoopbackIcmpPacket v io
  | .udp => sendOneLoopbackUdpPacket v io

/-- `stop_loopback_data`: the packets received, and `pkt_sent` where it is set. -/
def stopLoopbackData (v : Vars) : (Nat × Option Nat) × Effect :=
  if v.loopback.sock ≤ 0 then ((0, none), v, [])
  else
    ((v.loopback.pktRcv, some v.loopback.pktSent),
      { v.close v.loopback.sock with loopback := { v.loopback with sock := 0 } },
      [.cancelTimeout .sendContinuousLoopbackPacket infoPtr null])

/-! ## The app on the loop -/

/-- What the handler of an API on the control socket does. -/
inductive Api where
  | startServer (io : ServerIo)
  | stopServer
  | sendUdp (io : SenderIo)
  | sendIcmp (io : SenderIo)
  | stopData
  | other

structure Io where
  api : Api
  packet : PacketIo

structure App where
  loop : AppLoop
  vars : Vars

inductive AppOutput where
  | silent
  /-- `send` or `sendto` on a socket, and whether an echo was counted -/
  | packet (sock : Int) (echo : Bool)
  | stopped (received : Nat) (sent : Option Nat)
  deriving DecidableEq, Repr

def apiHandler (v : Vars) : Api → AppOutput × Effect
  | .startServer io => (.silent, (loopbackServerStart v loopbackTimeout io).2)
  | .stopServer =>
      (.silent, if loopbackServerStatus v ≠ 0 then loopbackServerStop v else (v, []))
  | .sendUdp io => (.silent, (sendUdpData v io).2)
  | .sendIcmp io => (.silent, (sendIcmpData v io).2)
  | .stopData =>
      let r := stopLoopbackData v
      (.stopped r.1.1 r.1.2, r.2)
  | .other => (.silent, v, [])

/-- The handler that a step of the loop calls. -/
def handler (v : Vars) (io : Io) : Output Reader Timer Unit → Option (AppOutput × Effect)
  | .timeout ⟨_, e, _, .loopbackServerTimeout, _⟩ _ => some (.silent, loopbackServerTimeout v e)
  | .timeout ⟨_, _, _, .sendContinuousLoopbackPacket, _⟩ _ =>
      let r := sendContinuousLoopbackPacket v io.packet
      some (.packet v.loopback.sock (r.1.loopback.pktRcv != v.loopback.pktRcv), r)
  | .reader ⟨_, _, _, .controlReceiveMessage, _⟩ => some (apiHandler v io.api)
  -- the server echoes
  | .reader ⟨_, _, _, .loopbackServerReceiveMessage, _⟩ => some (.silent, v, [])
  | .signal _ _ => some (.silent, v, [.terminate])
  | _ => none

/-- `socket` returns a descriptor that is not open. -/
def Api.fresh (v : Vars) : Api → Bool
  | .startServer io => io.sock.all fun s => decide (0 ≤ s ∧ s ∉ v.openFds)
  | .sendUdp io | .sendIcmp io => io.sock.all fun s => decide (0 ≤ s ∧ s ∉ v.openFds)
  | _ => true

/-- A step of the loop, and the handler it calls. -/
def App.advance (a : App) (e : Event Reader Timer Unit) (io : Io) : Option (App × AppOutput) :=
  if io.api.fresh a.vars then
    match Eloop.step a.loop e with
    | none => none
    | some (l, out) =>
        match handler a.vars io out with
        | none => some (⟨l, a.vars⟩, .silent)
        | some (o, v, ops) =>
            some (⟨Lts.final Eloop.step l (ops.map .op ++ [.ret]), v⟩, o)
  else none

/-- The calls and the returns of the handlers are in the steps that call them. -/
def step : Lts.StepFn App (Event Reader Timer Unit × Io) AppOutput
  | _, (.op _, _) => none
  | _, (.ret, _) => none
  | a, (e, io) => a.advance e io

/-- `SIGINT`, `SIGTERM` and the control socket are registered, and `main` enters
the loop. -/
def startUp (control : Int) : List (Event Reader Timer Unit) :=
  [.op (.registerSignal true EloopData.sigint () null),
    .op (.registerSignal true EloopData.sigterm () null),
    .op (.registerReadSock true control .controlReceiveMessage null null), .run true]

/-- The app in its loop, with the three standard descriptors open. -/
def App.init (control : Int) : App :=
  ⟨Lts.final Eloop.step Loop.init (startUp control), [control, 0, 1, 2], 0, ⟨0, 0, 0, 0, .udp⟩⟩

end AfcDut.ControlApp.Loopback
