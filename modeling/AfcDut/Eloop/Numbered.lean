import AfcDut.Eloop.Run

/-!
# The lists of the event loop along a run

The pending timeouts are in the order they are due, those that are due at once
in the order they were registered, and the sockets are in the order they were
registered; `max_sock` is above all of them.
-/

namespace AfcDut.Eloop

open Data TimerQueue EloopData

variable {ρ κ ς : Type} [DecidableEq κ]

structure EloopData.Numbered (d : EloopData ρ κ ς) : Prop where
  timeouts : Ordered dueKey (·.seq) d.timeout
  timeoutOld : ∀ t ∈ d.timeout, t.seq < d.registered
  readers : d.readers.Pairwise (·.seq < ·.seq)
  readerOld : ∀ r ∈ d.readers, r.seq < d.registered
  maxSock : ∀ r ∈ d.readers, r.sock ≤ d.maxSock

omit [DecidableEq κ] in
theorem numbered_init : (EloopData.init : EloopData ρ κ ς).Numbered where
  timeouts := List.Pairwise.nil
  timeoutOld := fun _ ht => absurd ht List.not_mem_nil
  readers := List.Pairwise.nil
  readerOld := fun _ hr => absurd hr List.not_mem_nil
  maxSock := fun _ hr => absurd hr List.not_mem_nil

namespace EloopData.Numbered

variable {d : EloopData ρ κ ς}

omit [DecidableEq κ] in
theorem registerReadSock (h : d.Numbered) (mem : Bool) (sock : Int) (handler : ρ)
    (eloopData userData : Ctx) :
    (d.registerReadSock mem sock handler eloopData userData).Numbered := by
  unfold EloopData.registerReadSock
  split
  · have hmax : d.maxSock ≤ (if sock > d.maxSock then sock else d.maxSock) ∧
        sock ≤ (if sock > d.maxSock then sock else d.maxSock) := by
      split <;> omega
    constructor
    · exact h.timeouts
    · exact fun t ht => Nat.lt_succ_of_lt (h.timeoutOld t ht)
    · refine List.pairwise_append.mpr ⟨h.readers, List.pairwise_singleton _ _, ?_⟩
      intro r hr r' hr'
      rw [List.mem_singleton.mp hr']
      exact h.readerOld r hr
    · intro r hr
      rcases List.mem_append.mp hr with hr | hr
      · exact Nat.lt_succ_of_lt (h.readerOld r hr)
      · rw [List.mem_singleton.mp hr]
        exact Nat.lt_succ_self _
    · intro r hr
      rcases List.mem_append.mp hr with hr | hr
      · exact (h.maxSock r hr).trans hmax.1
      · rw [List.mem_singleton.mp hr]
        exact hmax.2
  · exact h

omit [DecidableEq κ] in
theorem unregisterReadSock (h : d.Numbered) (sock : Int) :
    (d.unregisterReadSock sock).Numbered where
  timeouts := h.timeouts
  timeoutOld := h.timeoutOld
  readers := h.readers.sublist List.eraseP_sublist
  readerOld := fun r hr => h.readerOld r (List.eraseP_sublist.subset hr)
  maxSock := fun r hr => h.maxSock r (List.eraseP_sublist.subset hr)

omit [DecidableEq κ] in
theorem registerTimeout (h : d.Numbered) (mem : Bool) (now : Timeval) (secs usecs : Nat)
    (handler : κ) (eloopData userData : Ctx) :
    (d.registerTimeout mem now secs usecs handler eloopData userData).Numbered := by
  unfold EloopData.registerTimeout
  split
  · constructor
    · simp only [insertTimeout_eq]
      exact h.timeouts.enqueue h.timeoutOld
    · intro t ht
      simp only [insertTimeout_eq, mem_enqueue] at ht
      rcases ht with rfl | ht
      · exact Nat.lt_succ_self _
      · exact Nat.lt_succ_of_lt (h.timeoutOld t ht)
    · exact h.readers
    · exact fun r hr => Nat.lt_succ_of_lt (h.readerOld r hr)
    · exact h.maxSock
  · exact h

theorem cancelTimeout (h : d.Numbered) (handler : κ) (eloopData userData : Ctx) :
    (d.cancelTimeout handler eloopData userData).Numbered where
  timeouts := h.timeouts.filter _
  timeoutOld := fun t ht => h.timeoutOld t (List.mem_of_mem_filter ht)
  readers := h.readers
  readerOld := h.readerOld
  maxSock := h.maxSock

omit [DecidableEq κ] in
theorem registerSignal (h : d.Numbered) (mem : Bool) (sig : Int) (handler : ς)
    (userData : Ctx) : (d.registerSignal mem sig handler userData).Numbered := by
  unfold EloopData.registerSignal
  split
  · exact ⟨h.timeouts, h.timeoutOld, h.readers, h.readerOld, h.maxSock⟩
  · exact h

theorem apply (h : d.Numbered) (o : Op ρ κ ς) : (o.apply d).Numbered := by
  cases o with
  | registerReadSock mem sock handler e u => exact h.registerReadSock mem sock handler e u
  | unregisterReadSock sock => exact h.unregisterReadSock sock
  | registerTimeout mem now secs usecs handler e u =>
      exact h.registerTimeout mem now secs usecs handler e u
  | cancelTimeout handler e u => exact h.cancelTimeout handler e u
  | registerSignal mem sig handler u => exact h.registerSignal mem sig handler u
  | terminate => exact ⟨h.timeouts, h.timeoutOld, h.readers, h.readerOld, h.maxSock⟩

omit [DecidableEq κ] in
theorem fire {t : EloopTimeout κ} {rest : List (EloopTimeout κ)} (h : d.Numbered)
    (head : d.timeout = t :: rest) : ({ d with timeout := rest } : EloopData ρ κ ς).Numbered where
  timeouts := Ordered.tail (head ▸ h.timeouts)
  timeoutOld := fun u hu => h.timeoutOld u (head ▸ List.mem_cons_of_mem _ hu)
  readers := h.readers
  readerOld := h.readerOld
  maxSock := h.maxSock

end EloopData.Numbered

theorem numbered_steps {s t : Loop ρ κ ς} {e : Event ρ κ ς} {o : Output ρ κ ς}
    (hs : Steps s e o t) (h : s.data.Numbered) : t.data.Numbered := by
  cases hs with
  | op d pc o calling => exact h.apply o
  | fire d p now t rest head due => exact h.fire head
  | signal | lower | pending | consume =>
      exact ⟨h.timeouts, h.timeoutOld, h.readers, h.readerOld, h.maxSock⟩
  | control => exact h

/-- The order of the lists holds at every move of a run. -/
theorem numbered_moves {es : List (Event ρ κ ς)} :
    ∀ m ∈ Lts.moves step Loop.init es,
      m.Of step ∧ m.before.data.Numbered ∧ m.after.data.Numbered :=
  Lts.moves_invariant (I := fun s => s.data.Numbered) (G := fun _ => True)
    (fun _ hm _ => numbered_steps (steps_of_step hm)) numbered_init fun _ _ => trivial

theorem numbered_reachable {s : Loop ρ κ ς} (h : Lts.Reachable step Loop.init s) :
    s.data.Numbered :=
  h.invariant (I := fun s => s.data.Numbered) numbered_init
    fun _ hm => numbered_steps (steps_of_step hm)

end AfcDut.Eloop
