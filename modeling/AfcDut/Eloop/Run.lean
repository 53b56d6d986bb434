import AfcDut.Eloop.State
import AfcDut.Lts.Trace

/-!
# The event loop as a transition system

`eloop_run` with a program counter. A handler, like the program outside the
loop, calls the functions of the event loop as it likes before it returns, and
a signal may come between any two steps.
-/

namespace AfcDut.Eloop

open EloopData

variable {ρ κ ς : Type}

/-- What `select` left for the pass: its result, and the sockets that are ready. -/
structure Pass where
  res : Int
  rfds : List Int
  deriving DecidableEq, Repr

inductive Pc where
  | outside
  /-- the test of the `while` loop, and what comes before `select` -/
  | top
  | select (watched : List Int)
  /-- `eloop_process_pending_signals`, statement by statement -/
  | signaled (p : Pass)
  | lower (p : Pass)
  | pending (p : Pass)
  | signals (p : Pass) (i : Nat)
  | consume (p : Pass) (i : Nat)
  | inSignal (p : Pass) (i : Nat)
  | timeouts (p : Pass)
  | inTimeout (p : Pass)
  | readers (p : Pass) (i : Nat)
  | inReader (p : Pass) (i : Nat)
  deriving DecidableEq, Repr

/-- Code outside the loop has control. -/
def Pc.calling : Pc → Bool
  | .outside | .inSignal _ _ | .inTimeout _ | .inReader _ _ => true
  | _ => false

structure Loop (ρ κ ς : Type) where
  data : EloopData ρ κ ς
  pc : Pc

/-- After `eloop_init`. -/
def Loop.init : Loop ρ κ ς := ⟨.init, .outside⟩

/-- A call of one of the functions of the event loop. -/
inductive Op (ρ κ ς : Type) where
  | registerReadSock (mem : Bool) (sock : Int) (handler : ρ) (eloopData userData : Ctx)
  | unregisterReadSock (sock : Int)
  | registerTimeout (mem : Bool) (now : Timeval) (secs usecs : Nat) (handler : κ)
      (eloopData userData : Ctx)
  | cancelTimeout (handler : κ) (eloopData userData : Ctx)
  | registerSignal (mem : Bool) (sig : Int) (handler : ς) (userData : Ctx)
  | terminate

def Op.apply [DecidableEq κ] (d : EloopData ρ κ ς) : Op ρ κ ς → EloopData ρ κ ς
  | .registerReadSock mem sock handler eloopData userData =>
      d.registerReadSock mem sock handler eloopData userData
  | .unregisterReadSock sock => d.unregisterReadSock sock
  | .registerTimeout mem now secs usecs handler eloopData userData =>
      d.registerTimeout mem now secs usecs handler eloopData userData
  | .cancelTimeout handler eloopData userData => d.cancelTimeout handler eloopData userData
  | .registerSignal mem sig handler userData => d.registerSignal mem sig handler userData
  | .terminate => d.setTerminate

/-- What the function returns, 0 for `void`. -/
def Op.result [DecidableEq κ] (d : EloopData ρ κ ς) : Op ρ κ ς → Int
  | .registerReadSock mem .. | .registerTimeout mem .. | .registerSignal mem .. =>
      if mem then 0 else -1
  | .cancelTimeout handler eloopData userData =>
      d.timeout.countP (matchesTimeout handler eloopData userData)
  | .unregisterReadSock _ | .terminate => 0

inductive Event (ρ κ ς : Type) where
  | op (o : Op ρ κ ς)
  /-- the call of `eloop_run` -/
  | run (mem : Bool)
  | tick
  /-- a step that reads the clock -/
  | clock (now : Timeval)
  /-- `select` returns -/
  | selected (res : Int) (eintr : Bool) (rfds : List Int)
  /-- the handler returns -/
  | ret
  /-- a signal is delivered -/
  | signal (sig : Int)

/-- What a step calls, or returns to a handler. -/
inductive Output (ρ κ ς : Type) where
  | silent
  | value (v : Int)
  | select (nfds : Int) (watched : List Int) (tv : Option Timeval)
  | timeout (t : EloopTimeout κ) (now : Timeval)
  | reader (r : EloopSock ρ)
  | signal (i : Nat) (g : EloopSignal ς)

/-- The time `select` may take. -/
def EloopData.waitTime (d : EloopData ρ κ ς) (now : Timeval) : Option Timeval :=
  d.timeout.head?.map fun t => if now.lt t.time then t.time.sub now else ⟨0, 0⟩

/-- After the timeouts: `if (res <= 0) continue;` -/
def Pass.readersOrTop (p : Pass) : Pc := if p.res ≤ 0 then .top else .readers p 0

namespace Loop

def goto (s : Loop ρ κ ς) (pc : Pc) : Loop ρ κ ς := { s with pc := pc }

/-- A step that neither reads the clock nor waits. -/
def tick (s : Loop ρ κ ς) : Option (Loop ρ κ ς × Output ρ κ ς) :=
  match s.pc with
  | .signaled p =>
      some (s.goto (if s.data.signaled = 0 then .timeouts p else .lower p), .silent)
  | .lower p => some (⟨{ s.data with signaled := 0 }, .pending p⟩, .silent)
  | .pending p => some (⟨{ s.data with pendingTerminate := false }, .signals p 0⟩, .silent)
  | .signals p i =>
      match s.data.signals[i]? with
      | none => some (s.goto (.timeouts p), .silent)
      | some g =>
          some (s.goto (if g.signaled ≠ 0 then .consume p i else .signals p (i + 1)), .silent)
  | .consume p i =>
      match s.data.signals[i]? with
      | none => none
      | some g =>
          -- the flag is lowered before the handler is called
          some (⟨{ s.data with signals := s.data.signals.set i { g with signaled := 0 } },
            .inSignal p i⟩, .signal i g)
  | .readers p i =>
      match s.data.readers[i]? with
      | none => some (s.goto .top, .silent)
      | some r =>
          if r.sock ∈ p.rfds then some (s.goto (.inReader p i), .reader r)
          else some (s.goto (.readers p (i + 1)), .silent)
  | _ => none

/-- The two steps that read the clock: up to `select`, and the check of the
first timeout. -/
def clock (s : Loop ρ κ ς) (now : Timeval) : Option (Loop ρ κ ς × Output ρ κ ς) :=
  match s.pc with
  | .top =>
      if s.data.terminate then some (s.goto .outside, .silent)
      else if s.data.timeout.isEmpty && s.data.readers.isEmpty then
        some (s.goto .outside, .silent)
      else
        let watched := s.data.readers.map (·.sock)
        some (s.goto (.select watched),
          .select (s.data.maxSock + 1) watched (s.data.waitTime now))
  | .timeouts p =>
      match s.data.timeout with
      | [] => some (s.goto p.readersOrTop, .silent)
      | t :: rest =>
          if now.lt t.time then some (s.goto p.readersOrTop, .silent)
          else some (⟨{ s.data with timeout := rest }, .inTimeout p⟩, .timeout t now)
  | _ => none

/-- `select` returns; the sockets it gives are among those it was given. -/
def selected (s : Loop ρ κ ς) (res : Int) (eintr : Bool) (rfds : List Int) :
    Option (Loop ρ κ ς × Output ρ κ ς) :=
  match s.pc with
  | .select watched =>
      -- an interrupted `select` is followed by a pass, any other failure ends the loop
      if res < 0 && !eintr then some (s.goto .outside, .silent)
      else if rfds ⊆ watched then some (s.goto (.signaled ⟨res, rfds⟩), .silent)
      else none
  | _ => none

/-- A handler returns. -/
def ret (s : Loop ρ κ ς) : Option (Loop ρ κ ς × Output ρ κ ς) :=
  match s.pc with
  | .inSignal p i => some (s.goto (.signals p (i + 1)), .silent)
  | .inTimeout p => some (s.goto p.readersOrTop, .silent)
  -- the index goes up, also when the handler has moved the sockets behind it
  | .inReader p i => some (s.goto (.readers p (i + 1)), .silent)
  | _ => none

end Loop

def step [DecidableEq κ] : Lts.StepFn (Loop ρ κ ς) (Event ρ κ ς) (Output ρ κ ς)
  | s, .op o =>
      if s.pc.calling then some ({ s with data := o.apply s.data }, .value (o.result s.data))
      else none
  | s, .run mem =>
      if s.pc = .outside then some (s.goto (if mem then .top else .outside), .silent) else none
  | s, .tick => s.tick
  | s, .clock now => s.clock now
  | s, .selected res eintr rfds => s.selected res eintr rfds
  | s, .ret => s.ret
  -- the handler is installed with the first registration of its signal
  | s, .signal sig =>
      if sig ∈ s.data.signals.map (·.sig) then
        some ({ s with data := s.data.handleSignal sig }, .silent)
      else none

abbrev LoopMove (ρ κ ς : Type) := Lts.Move (Loop ρ κ ς) (Event ρ κ ς) (Output ρ κ ς)

/-! ## What a step can do -/

/-- The steps that only move the program counter. -/
inductive Control (d : EloopData ρ κ ς) : Pc → Event ρ κ ς → Output ρ κ ς → Pc → Prop
  | run (mem : Bool) : Control d .outside (.run mem) .silent (if mem then .top else .outside)
  | leave (now : Timeval) : Control d .top (.clock now) .silent .outside
  | select (now : Timeval) :
      Control d .top (.clock now)
        (.select (d.maxSock + 1) (d.readers.map (·.sock)) (d.waitTime now))
        (.select (d.readers.map (·.sock)))
  | failed (watched : List Int) (res : Int) (eintr : Bool) (rfds : List Int) :
      Control d (.select watched) (.selected res eintr rfds) .silent .outside
  | selected (watched : List Int) (res : Int) (eintr : Bool) (rfds : List Int)
      (sub : rfds ⊆ watched) :
      Control d (.select watched) (.selected res eintr rfds) .silent (.signaled ⟨res, rfds⟩)
  | calm (p : Pass) (none : d.signaled = 0) : Control d (.signaled p) .tick .silent (.timeouts p)
  | alert (p : Pass) (some : d.signaled ≠ 0) : Control d (.signaled p) .tick .silent (.lower p)
  | signalsEnd (p : Pass) (i : Nat) (past : d.signals.length ≤ i) :
      Control d (.signals p i) .tick .silent (.timeouts p)
  | signalsNext (p : Pass) (i : Nat) (g : EloopSignal ς) (at_i : d.signals[i]? = some g)
      (down : g.signaled = 0) : Control d (.signals p i) .tick .silent (.signals p (i + 1))
  | signalsUp (p : Pass) (i : Nat) (g : EloopSignal ς) (at_i : d.signals[i]? = some g)
      (up : g.signaled ≠ 0) : Control d (.signals p i) .tick .silent (.consume p i)
  | early (p : Pass) (now : Timeval) (wait : ∀ t ∈ d.timeout.head?, now.lt t.time = true) :
      Control d (.timeouts p) (.clock now) .silent p.readersOrTop
  | readersEnd (p : Pass) (i : Nat) (past : d.readers.length ≤ i) :
      Control d (.readers p i) .tick .silent .top
  | readersNext (p : Pass) (i : Nat) (r : EloopSock ρ) (at_i : d.readers[i]? = some r)
      (idle : r.sock ∉ p.rfds) : Control d (.readers p i) .tick .silent (.readers p (i + 1))
  | reader (p : Pass) (i : Nat) (r : EloopSock ρ) (at_i : d.readers[i]? = some r)
      (ready : r.sock ∈ p.rfds) : Control d (.readers p i) .tick (.reader r) (.inReader p i)
  | retSignal (p : Pass) (i : Nat) :
      Control d (.inSignal p i) .ret .silent (.signals p (i + 1))
  | retTimeout (p : Pass) : Control d (.inTimeout p) .ret .silent p.readersOrTop
  | retReader (p : Pass) (i : Nat) :
      Control d (.inReader p i) .ret .silent (.readers p (i + 1))

/-- Every step: a call, a signal, one of the loop's own changes to its data, or
a step of control. -/
inductive Steps [DecidableEq κ] :
    Loop ρ κ ς → Event ρ κ ς → Output ρ κ ς → Loop ρ κ ς → Prop
  | op (d : EloopData ρ κ ς) (pc : Pc) (o : Op ρ κ ς) (calling : pc.calling = true) :
      Steps ⟨d, pc⟩ (.op o) (.value (o.result d)) ⟨o.apply d, pc⟩
  | signal (d : EloopData ρ κ ς) (pc : Pc) (sig : Int)
      (registered : sig ∈ d.signals.map (·.sig)) :
      Steps ⟨d, pc⟩ (.signal sig) .silent ⟨d.handleSignal sig, pc⟩
  | lower (d : EloopData ρ κ ς) (p : Pass) :
      Steps ⟨d, .lower p⟩ .tick .silent ⟨{ d with signaled := 0 }, .pending p⟩
  | pending (d : EloopData ρ κ ς) (p : Pass) :
      Steps ⟨d, .pending p⟩ .tick .silent ⟨{ d with pendingTerminate := false }, .signals p 0⟩
  | consume (d : EloopData ρ κ ς) (p : Pass) (i : Nat) (g : EloopSignal ς)
      (at_i : d.signals[i]? = some g) :
      Steps ⟨d, .consume p i⟩ .tick (.signal i g)
        ⟨{ d with signals := d.signals.set i { g with signaled := 0 } }, .inSignal p i⟩
  | fire (d : EloopData ρ κ ς) (p : Pass) (now : Timeval) (t : EloopTimeout κ)
      (rest : List (EloopTimeout κ)) (head : d.timeout = t :: rest)
      (due : now.lt t.time = false) :
      Steps ⟨d, .timeouts p⟩ (.clock now) (.timeout t now)
        ⟨{ d with timeout := rest }, .inTimeout p⟩
  | control (d : EloopData ρ κ ς) (pc pc' : Pc) (e : Event ρ κ ς) (o : Output ρ κ ς)
      (moves : Control d pc e o pc') : Steps ⟨d, pc⟩ e o ⟨d, pc'⟩

theorem steps_tick [DecidableEq κ] {s t : Loop ρ κ ς} {o : Output ρ κ ς}
    (h : s.tick = some (t, o)) : Steps s .tick o t := by
  obtain ⟨d, pc⟩ := s
  cases pc <;> unfold Loop.tick at h <;> simp only [reduceCtorEq, Option.some.injEq] at h
  case signaled p =>
    cases h
    split
    · exact .control _ _ _ _ _ (.calm p ‹_›)
    · exact .control _ _ _ _ _ (.alert p ‹_›)
  case lower p => cases h; exact .lower d p
  case pending p => cases h; exact .pending d p
  case signals p i =>
    split at h
    · rename_i hnone
      cases h
      exact .control _ _ _ _ _ (.signalsEnd p i (List.getElem?_eq_none_iff.mp hnone))
    · rename_i g hsome
      cases h
      split
      · exact .control _ _ _ _ _ (.signalsUp p i g hsome ‹_›)
      · exact .control _ _ _ _ _ (.signalsNext p i g hsome (not_not.mp ‹_›))
  case consume p i =>
    split at h
    · cases h
    · rename_i g hsome
      cases h
      exact .consume d p i g hsome
  case readers p i =>
    split at h
    · rename_i hnone
      cases h
      exact .control _ _ _ _ _ (.readersEnd p i (List.getElem?_eq_none_iff.mp hnone))
    · rename_i r hsome
      split at h
      · cases h
        exact .control _ _ _ _ _ (.reader p i r hsome ‹_›)
      · cases h
        exact .control _ _ _ _ _ (.readersNext p i r hsome ‹_›)

theorem steps_clock [DecidableEq κ] {s t : Loop ρ κ ς} {now : Timeval} {o : Output ρ κ ς}
    (h : s.clock now = some (t, o)) : Steps s (.clock now) o t := by
  obtain ⟨d, pc⟩ := s
  cases pc <;> unfold Loop.clock at h <;> simp only [reduceCtorEq] at h
  case top =>
    split at h
    · cases h; exact .control _ _ _ _ _ (.leave now)
    · split at h
      · cases h; exact .control _ _ _ _ _ (.leave now)
      · cases h; exact .control _ _ _ _ _ (.select now)
  case timeouts p =>
    split at h
    · rename_i hnil
      cases h
      exact .control _ _ _ _ _ (.early p now (by simp [hnil]))
    · rename_i t rest hcons
      split at h
      · cases h
        exact .control _ _ _ _ _ (.early p now (by simpa [hcons]))
      · rename_i hdue
        cases h
        exact .fire d p now t rest hcons (Bool.not_eq_true _ ▸ hdue)

/-- **What a step can do.** -/
theorem steps_of_step [DecidableEq κ] {s t : Loop ρ κ ς} {e : Event ρ κ ς}
    {o : Output ρ κ ς} (h : step s e = some (t, o)) : Steps s e o t := by
  cases e with
  | op op =>
      simp only [step] at h
      split at h
      · cases h; exact .op _ _ op ‹_›
      · cases h
  | run mem =>
      obtain ⟨d, pc⟩ := s
      simp only [step] at h
      split at h
      · rename_i hout
        cases hout
        cases h
        exact .control _ _ _ _ _ (.run mem)
      · cases h
  | tick => exact steps_tick h
  | clock now => exact steps_clock h
  | selected res eintr rfds =>
      obtain ⟨d, pc⟩ := s
      simp only [step] at h
      unfold Loop.selected at h
      cases pc <;> simp only [reduceCtorEq] at h
      split at h
      · cases h; exact .control _ _ _ _ _ (.failed _ res eintr rfds)
      · split at h
        · cases h; exact .control _ _ _ _ _ (.selected _ res eintr rfds ‹_›)
        · cases h
  | ret =>
      obtain ⟨d, pc⟩ := s
      simp only [step] at h
      unfold Loop.ret at h
      cases pc <;> simp only [reduceCtorEq, Option.some.injEq] at h
      · cases h; exact .control _ _ _ _ _ (.retSignal _ _)
      · cases h; exact .control _ _ _ _ _ (.retTimeout _)
      · cases h; exact .control _ _ _ _ _ (.retReader _ _)
  | signal sig =>
      simp only [step] at h
      split at h
      · cases h; exact .signal _ _ sig ‹_›
      · cases h

end AfcDut.Eloop
