import AfcDut.Data.TimerQueue
import Mathlib.Algebra.Order.Ring.Int
import Mathlib.Tactic.Linarith

/-!
# The data of the event loop

`eloop.c`: the sockets, timeouts and signals that are registered, and the
functions that register and remove them. `mem` says whether the allocation
succeeds. A handler is what the function pointer is, a context is a pointer.
Each socket and timeout carries the number of its registration, which stands
for its place in memory.
-/

namespace AfcDut.Eloop

open Data

/-! ## Time -/

structure Timeval where
  tvSec : Int
  tvUsec : Int
deriving DecidableEq, Repr

namespace Timeval

/-- What `timercmp` compares. -/
def key (t : Timeval) : Int ×ₗ Int := toLex (t.tvSec, t.tvUsec)

/-- `timercmp(a, b, <)` -/
def lt (a b : Timeval) : Bool :=
  if a.tvSec = b.tvSec then a.tvUsec < b.tvUsec else a.tvSec < b.tvSec

/-- `timersub(a, b, result)` -/
def sub (a b : Timeval) : Timeval :=
  if a.tvUsec - b.tvUsec < 0 then ⟨a.tvSec - b.tvSec - 1, a.tvUsec - b.tvUsec + 1000000⟩
  else ⟨a.tvSec - b.tvSec, a.tvUsec - b.tvUsec⟩

/-- `while (tv_usec >= 1000000)`, of at most as many rounds -/
def carryLoop : Nat → Timeval → Timeval
  | 0, t => t
  | n + 1, t =>
      if 1000000 ≤ t.tvUsec then carryLoop n ⟨t.tvSec + 1, t.tvUsec - 1000000⟩ else t

def carry (t : Timeval) : Timeval := carryLoop t.tvUsec.toNat t

/-- A time as `gettimeofday` returns it. -/
def Normal (t : Timeval) : Prop := 0 ≤ t.tvUsec ∧ t.tvUsec < 1000000

def micros (t : Timeval) : Int := t.tvSec * 1000000 + t.tvUsec

theorem lt_iff {a b : Timeval} : a.lt b = true ↔ a.key < b.key := by
  unfold lt key
  rw [Prod.Lex.toLex_lt_toLex]
  split
  · rename_i heq
    simp [heq]
  · rename_i hne
    simp [hne]

theorem not_lt_iff {a b : Timeval} : a.lt b = false ↔ b.key ≤ a.key := by
  rw [← not_lt, ← lt_iff, Bool.not_eq_true]

/-- Normal times compare as their numbers of microseconds. -/
theorem lt_iff_micros {a b : Timeval} (ha : a.Normal) (hb : b.Normal) :
    a.lt b = true ↔ a.micros < b.micros := by
  obtain ⟨ha0, ha1⟩ := ha
  obtain ⟨hb0, hb1⟩ := hb
  unfold lt micros
  split
  · rename_i heq
    simp [heq]
  · rename_i hne
    simp only [decide_eq_true_eq]
    omega

theorem sub_spec {a b : Timeval} (ha : a.Normal) (hb : b.Normal) :
    (a.sub b).Normal ∧ (a.sub b).micros = a.micros - b.micros := by
  obtain ⟨ha0, ha1⟩ := ha
  obtain ⟨hb0, hb1⟩ := hb
  unfold sub Normal micros
  split
  · simp only
    omega
  · simp only
    omega

/-- The loop ends before its rounds do, with the time unchanged and normal. -/
theorem carryLoop_spec {n : Nat} {t : Timeval} (h : 0 ≤ t.tvUsec) (hn : t.tvUsec ≤ n) :
    (carryLoop n t).Normal ∧ (carryLoop n t).micros = t.micros := by
  induction n generalizing t with
  | zero =>
      have hsmall : t.tvUsec < 1000000 := by omega
      exact ⟨⟨h, hsmall⟩, rfl⟩
  | succ n ih =>
      unfold carryLoop
      split
      · have hrest := @ih ⟨t.tvSec + 1, t.tvUsec - 1000000⟩ (by simp only; omega)
          (by simp only; omega)
        refine ⟨hrest.1, hrest.2.trans ?_⟩
        unfold micros
        simp only
        omega
      · exact ⟨⟨h, by omega⟩, rfl⟩

theorem carry_spec {t : Timeval} (h : 0 ≤ t.tvUsec) :
    t.carry.Normal ∧ t.carry.micros = t.micros :=
  carryLoop_spec h (by omega)

/-- Nor does it go back. -/
theorem key_le_carryLoop (n : Nat) (t : Timeval) : t.key ≤ (carryLoop n t).key := by
  induction n generalizing t with
  | zero => exact le_rfl
  | succ n ih =>
      unfold carryLoop
      split
      · refine le_trans ?_ (ih _)
        unfold key
        rw [Prod.Lex.toLex_le_toLex]
        exact .inl (by simp)
      · exact le_rfl

end Timeval

/-! ## Registrations -/

/-- A `void *`. -/
abbrev Ctx := Int

/-- `ELOOP_ALL_CTX` -/
def eloopAllCtx : Ctx := -1

variable {ρ κ ς : Type}

structure EloopSock (ρ : Type) where
  sock : Int
  eloopData : Ctx
  userData : Ctx
  handler : ρ
  seq : Nat

structure EloopTimeout (κ : Type) where
  time : Timeval
  eloopData : Ctx
  userData : Ctx
  handler : κ
  seq : Nat

structure EloopSignal (ς : Type) where
  sig : Int
  userData : Ctx
  handler : ς
  signaled : Int

structure EloopData (ρ κ ς : Type) where
  maxSock : Int
  readers : List (EloopSock ρ)
  timeout : List (EloopTimeout κ)
  signals : List (EloopSignal ς)
  signaled : Int
  pendingTerminate : Bool
  terminate : Bool
  registered : Nat

/-- `eloop_init` -/
def EloopData.init : EloopData ρ κ ς := ⟨0, [], [], [], 0, false, false, 0⟩

namespace EloopData

/-- `eloop_register_read_sock` -/
def registerReadSock (d : EloopData ρ κ ς) (mem : Bool) (sock : Int) (handler : ρ)
    (eloopData userData : Ctx) : EloopData ρ κ ς :=
  if mem then
    { d with
      readers := d.readers ++ [⟨sock, eloopData, userData, handler, d.registered⟩]
      maxSock := if sock > d.maxSock then sock else d.maxSock
      registered := d.registered + 1 }
  else d

/-- `eloop_unregister_read_sock` -/
def unregisterReadSock (d : EloopData ρ κ ς) (sock : Int) : EloopData ρ κ ς :=
  { d with readers := d.readers.eraseP fun r => r.sock == sock }

/-- When a timeout of `secs` and `usecs` is due. -/
def dueTime (now : Timeval) (secs usecs : Nat) : Timeval :=
  Timeval.carry ⟨now.tvSec + secs, now.tvUsec + usecs⟩

def dueKey (t : EloopTimeout κ) : Int ×ₗ Int := t.time.key

/-- The loop of `eloop_register_timeout` over the list, which goes on to the
first timeout that is later. -/
def insertTimeout (t : EloopTimeout κ) (l : List (EloopTimeout κ)) : List (EloopTimeout κ) :=
  l.orderedInsert (fun a b => a.time.lt b.time = true) t

/-- `eloop_register_timeout` -/
def registerTimeout (d : EloopData ρ κ ς) (mem : Bool) (now : Timeval) (secs usecs : Nat)
    (handler : κ) (eloopData userData : Ctx) : EloopData ρ κ ς :=
  if mem then
    { d with
      timeout := insertTimeout
        ⟨dueTime now secs usecs, eloopData, userData, handler, d.registered⟩ d.timeout
      registered := d.registered + 1 }
  else d

/-- What `eloop_cancel_timeout` removes. -/
def matchesTimeout [DecidableEq κ] (handler : κ) (eloopData userData : Ctx)
    (t : EloopTimeout κ) : Bool :=
  decide (t.handler = handler) && (t.eloopData == eloopData || eloopData == eloopAllCtx) &&
    (t.userData == userData || userData == eloopAllCtx)

/-- `eloop_cancel_timeout` -/
def cancelTimeout [DecidableEq κ] (d : EloopData ρ κ ς) (handler : κ)
    (eloopData userData : Ctx) : EloopData ρ κ ς :=
  { d with timeout := d.timeout.filter fun t => !matchesTimeout handler eloopData userData t }

/-- `eloop_register_signal` -/
def registerSignal (d : EloopData ρ κ ς) (mem : Bool) (sig : Int) (handler : ς)
    (userData : Ctx) : EloopData ρ κ ς :=
  if mem then { d with signals := d.signals ++ [⟨sig, userData, handler, 0⟩] } else d

/-- `eloop_terminate` -/
def setTerminate (d : EloopData ρ κ ς) : EloopData ρ κ ς := { d with terminate := true }

/-- Up with the flag of the first registration of a signal. -/
def raiseFlag (sig : Int) : List (EloopSignal ς) → List (EloopSignal ς)
  | [] => []
  | s :: rest =>
      if s.sig = sig then { s with signaled := s.signaled + 1 } :: rest
      else s :: raiseFlag sig rest

/-- `SIGINT` and `SIGTERM` -/
def sigint : Int := 2
def sigterm : Int := 15

/-- `eloop_handle_signal`. The alarm it sets is not kept. -/
def handleSignal (d : EloopData ρ κ ς) (sig : Int) : EloopData ρ κ ς :=
  { d with
    pendingTerminate := d.pendingTerminate || (sig == sigint || sig == sigterm)
    signaled := d.signaled + 1
    signals := raiseFlag sig d.signals }

end EloopData

/-! ## The list of timeouts -/

open EloopData TimerQueue

theorem insertTimeout_eq (t : EloopTimeout κ) (l : List (EloopTimeout κ)) :
    insertTimeout t l = enqueue dueKey t l := by
  induction l with
  | nil => rfl
  | cons u l ih =>
      have hiff : t.time.lt u.time = true ↔ dueKey t < dueKey u := Timeval.lt_iff
      unfold insertTimeout enqueue at ih ⊢
      rw [List.orderedInsert_cons, List.orderedInsert_cons, ih]
      simp only [hiff]

/-- A timeout is not due before the time it is registered at. -/
theorem key_le_dueTime (now : Timeval) (secs usecs : Nat) :
    now.key ≤ (dueTime now secs usecs).key := by
  refine le_trans ?_ (Timeval.key_le_carryLoop _ _)
  unfold Timeval.key
  rw [Prod.Lex.toLex_le_toLex]
  simp only
  omega

/-- It is due after exactly the delay. -/
theorem dueTime_spec {now : Timeval} (h : now.Normal) (secs usecs : Nat) :
    (dueTime now secs usecs).Normal ∧
      (dueTime now secs usecs).micros = now.micros + (secs * 1000000 + usecs) := by
  obtain ⟨h0, h1⟩ := h
  have hcarry := @Timeval.carry_spec ⟨now.tvSec + secs, now.tvUsec + usecs⟩ (by simp only; omega)
  refine ⟨hcarry.1, hcarry.2.trans ?_⟩
  unfold Timeval.micros
  simp only
  omega

end AfcDut.Eloop
