import AfcDut.Eloop.Run

/-!
# Signals that come at any moment

A signal is delivered between any two steps of the loop, also while the loop is
clearing the flags of others. None is lost, and none is handled twice.
-/

namespace AfcDut.Eloop

open EloopData Lts

variable {ρ κ ς : Type} [DecidableEq κ]

/-- The step calls the handler of a registration. -/
def callsSignal (i : Nat) (m : LoopMove ρ κ ς) : Bool :=
  match m.output with
  | .signal j _ => j == i
  | _ => false

/-- The registration a signal is for, the first of its number. -/
def signalIndex (sig : Int) (l : List (EloopSignal ς)) : Option Nat :=
  l.findIdx? fun g => g.sig == sig

/-- The step delivers a signal for a registration. -/
def deliversSignal (i : Nat) (m : LoopMove ρ κ ς) : Bool :=
  match m.event with
  | .signal sig => signalIndex sig m.before.data.signals == some i
  | _ => false

/-- The step is the test `eloop.signaled == 0`. -/
def testsSignals (m : LoopMove ρ κ ς) : Bool :=
  match m.before.pc, m.event with
  | .signaled _, .tick => true
  | _, _ => false

/-- The loop is between its test and its look at a registration. -/
def Pc.scanning (i : Nat) : Pc → Bool
  | .lower _ | .pending _ => true
  | .signals _ j | .consume _ j => decide (j ≤ i)
  | .inSignal _ j => decide (j < i)
  | _ => false

/-! ## The flags -/

/-- How often a registration has been signalled since its handler was last called. -/
def flag (i : Nat) (d : EloopData ρ κ ς) : Int := (d.signals[i]?.map (·.signaled)).getD 0

/-- The counts of signals are counts. -/
structure EloopData.Counted (d : EloopData ρ κ ς) : Prop where
  signaled : 0 ≤ d.signaled
  flags : ∀ i, 0 ≤ flag i d

/-- A signal raises the flag of its registration and no other. -/
theorem getElem?_raiseFlag (sig : Int) (l : List (EloopSignal ς)) (i : Nat) :
    ((raiseFlag sig l)[i]?.map (·.signaled)).getD 0 =
      (l[i]?.map (·.signaled)).getD 0 + if signalIndex sig l = some i then 1 else 0 := by
  unfold signalIndex
  induction l generalizing i with
  | nil => simp [raiseFlag]
  | cons g l ih =>
      unfold raiseFlag
      by_cases hsig : g.sig = sig
      · have hfirst : (g :: l).findIdx? (fun g => g.sig == sig) = some 0 := by
          simp [List.findIdx?_cons, hsig]
        rw [if_pos hsig, hfirst]
        cases i with
        | zero => simp
        | succ i => simp
      · have hfirst : (g :: l).findIdx? (fun g => g.sig == sig) =
            (l.findIdx? fun g => g.sig == sig).map (· + 1) := by
          simp [List.findIdx?_cons, hsig]
        rw [if_neg hsig, hfirst]
        cases i with
        | zero => simp
        | succ i => simpa using ih i

omit [DecidableEq κ] in
theorem flag_handleSignal (i : Nat) (d : EloopData ρ κ ς) (sig : Int) :
    flag i (d.handleSignal sig) =
      flag i d + if signalIndex sig d.signals = some i then 1 else 0 :=
  getElem?_raiseFlag sig d.signals i

/-- No function of the loop touches a flag. -/
theorem flag_apply (i : Nat) (d : EloopData ρ κ ς) (o : Op ρ κ ς) :
    flag i (o.apply d) = flag i d := by
  cases o with
  | registerSignal mem sig handler userData =>
      cases mem with
      | false => rfl
      | true =>
          unfold flag
          simp only [Op.apply, registerSignal, if_true]
          rw [List.getElem?_append]
          split
          · rfl
          · rename_i hge
            rw [List.getElem?_eq_none (l := d.signals) (Nat.not_lt.mp hge), List.getElem?_singleton]
            split <;> rfl
  | registerReadSock mem sock handler eloopData userData => cases mem <;> rfl
  | registerTimeout mem now secs usecs handler eloopData userData => cases mem <;> rfl
  | unregisterReadSock | cancelTimeout | terminate => rfl

theorem signaled_apply (d : EloopData ρ κ ς) (o : Op ρ κ ς) :
    (o.apply d).signaled = d.signaled := by
  cases o with
  | registerSignal mem sig handler userData => cases mem <;> rfl
  | registerReadSock mem sock handler eloopData userData => cases mem <;> rfl
  | registerTimeout mem now secs usecs handler eloopData userData => cases mem <;> rfl
  | unregisterReadSock | cancelTimeout | terminate => rfl

omit [DecidableEq κ] in
/-- The loop lowers the flag of the handler it calls. -/
theorem flag_set {d : EloopData ρ κ ς} {i : Nat} {g : EloopSignal ς}
    (at_i : d.signals[i]? = some g) (j : Nat) :
    flag j ({ d with signals := d.signals.set i { g with signaled := 0 } } : EloopData ρ κ ς) =
      if i = j then 0 else flag j d := by
  have hlt := (List.getElem?_eq_some_iff.mp at_i).1
  unfold flag
  simp only
  rw [List.getElem?_set]
  split
  · rename_i heq
    subst heq
    simp
  · rfl

theorem counted_steps {s t : Loop ρ κ ς} {e : Event ρ κ ς} {o : Output ρ κ ς}
    (hs : Steps s e o t) (h : s.data.Counted) : t.data.Counted := by
  cases hs with
  | op d pc o calling =>
      exact ⟨(signaled_apply d o).symm ▸ h.signaled, fun i => by
        rw [flag_apply]
        exact h.flags i⟩
  | signal d pc sig registered =>
      refine ⟨Int.le_add_one h.signaled, fun i => ?_⟩
      have hflag := h.flags i
      simp only at hflag ⊢
      rw [flag_handleSignal]
      split <;> omega
  | lower d p => exact ⟨le_rfl, h.flags⟩
  | pending d p => exact ⟨h.signaled, h.flags⟩
  | consume d p i g at_i =>
      refine ⟨h.signaled, fun j => ?_⟩
      simp only
      rw [flag_set at_i]
      split
      · exact le_rfl
      · exact h.flags j
  | fire d p now t rest head due => exact ⟨h.signaled, h.flags⟩
  | control => exact h

theorem counted_reachable {s : Loop ρ κ ς} (h : Reachable step Loop.init s) : s.data.Counted :=
  h.invariant (I := fun s => s.data.Counted) ⟨le_rfl, fun _ => le_rfl⟩
    fun _ hm => counted_steps (steps_of_step hm)

/-! ## No signal is lost -/

/-- A signal that waits for its handler: its flag is up, and the loop will look. -/
def Owed (i : Nat) (s : Loop ρ κ ς) : Prop :=
  0 < flag i s.data ∧ (0 < s.data.signaled ∨ s.pc.scanning i = true)

/-- The loop is on its way to the handler. -/
def Coming (i : Nat) (s : Loop ρ κ ς) : Prop := 0 < flag i s.data ∧ s.pc.scanning i = true

/-- A registration whose flag is up is not passed by. -/
theorem coming_step {i : Nat} (m : LoopMove ρ κ ς) (h : m.Of step) (coming : Coming i m.before) :
    callsSignal i m = true ∨ Coming i m.after := by
  obtain ⟨s, e, o, t⟩ := m
  have hs : Steps s e o t := steps_of_step h
  obtain ⟨hflag, hscan⟩ := coming
  cases hs with
  | op d pc o calling => exact .inr ⟨by rwa [flag_apply], hscan⟩
  | signal d pc sig registered =>
      refine .inr ⟨?_, hscan⟩
      simp only at hflag ⊢
      rw [flag_handleSignal]
      split <;> omega
  | lower d p => exact .inr ⟨hflag, rfl⟩
  | pending d p => exact .inr ⟨hflag, by simp [Pc.scanning]⟩
  | consume d p j g at_j =>
      simp only [Pc.scanning, decide_eq_true_eq] at hscan
      -- the handler that is called is that of an earlier registration, or this one's
      rcases Nat.lt_or_eq_of_le hscan with hlt | rfl
      · refine .inr ⟨?_, by simpa [Pc.scanning] using hlt⟩
        simp only
        rw [flag_set at_j, if_neg (Nat.ne_of_lt hlt)]
        exact hflag
      · exact .inl (by simp [callsSignal])
  | fire => cases hscan
  | control d pc pc' e o moves =>
      cases moves with
      | signalsEnd p j past =>
          simp only [Pc.scanning, decide_eq_true_eq] at hscan
          -- past the last registration there is no flag to be up
          have hnone : d.signals[i]? = none := List.getElem?_eq_none (past.trans hscan)
          simp [flag, hnone] at hflag
      | signalsNext p j g at_j down =>
          simp only [Pc.scanning, decide_eq_true_eq] at hscan
          have hne : j ≠ i := by
            rintro rfl
            simp [flag, at_j, down] at hflag
          exact .inr ⟨hflag, by simp only [Pc.scanning, decide_eq_true_eq]; omega⟩
      | signalsUp p j g at_j up => exact .inr ⟨hflag, hscan⟩
      | retSignal p j => exact .inr ⟨hflag, hscan⟩
      | _ => cases hscan

theorem owed_step {i : Nat} (m : LoopMove ρ κ ς) (h : m.Of step)
    (counted : m.before.data.Counted) (owed : Owed i m.before) :
    callsSignal i m = true ∨
      Owed i m.after ∧ (testsSignals m = true → Coming i m.after) := by
  rcases owed with ⟨hflag, hup | hscan⟩
  · obtain ⟨s, e, o, t⟩ := m
    have hs : Steps s e o t := steps_of_step h
    cases hs with
    | op d pc o calling =>
        refine .inr ⟨⟨by rwa [flag_apply], .inl (by rwa [signaled_apply])⟩, fun htest => ?_⟩
        cases pc <;> cases htest
    | signal d pc sig registered =>
        refine .inr ⟨⟨?_, .inl (Int.lt_add_one_of_le counted.signaled)⟩, fun htest => ?_⟩
        · simp only at hflag ⊢
          rw [flag_handleSignal]
          split <;> omega
        · cases pc <;> cases htest
    | lower d p => exact .inr ⟨⟨hflag, .inr rfl⟩, nofun⟩
    | pending d p => exact .inr ⟨⟨hflag, .inl hup⟩, nofun⟩
    | consume d p j g at_j =>
        rcases eq_or_ne j i with rfl | hne
        · exact .inl (by simp [callsSignal])
        · refine .inr ⟨⟨?_, .inl hup⟩, nofun⟩
          simp only
          rw [flag_set at_j, if_neg hne]
          exact hflag
    | fire d p now t rest head due => exact .inr ⟨⟨hflag, .inl hup⟩, nofun⟩
    | control d pc pc' e o moves =>
        cases moves with
        -- the count is up, so the test finds it
        | calm p none => simp [none] at hup
        | alert p some => exact .inr ⟨⟨hflag, .inl hup⟩, fun _ => ⟨hflag, rfl⟩⟩
        | _ => exact .inr ⟨⟨hflag, .inl hup⟩, nofun⟩
  · refine (coming_step m h ⟨hflag, hscan⟩).imp id fun hcoming => ?_
    exact ⟨⟨hcoming.1, .inr hcoming.2⟩, fun _ => hcoming⟩

/-- On its way to the handler, the loop comes to it before it does anything else. -/
theorem coming_run {i : Nat} {s : Loop ρ κ ς} {es : List (Event ρ κ ς)} (coming : Coming i s)
    (through : (final step s es).pc.scanning i = false) :
    ∃ m ∈ moves step s es, callsSignal i m = true := by
  induction es generalizing s with
  | nil =>
      have hscan := coming.2
      rw [show final step s [] = s from rfl, hscan] at through
      cases through
  | cons e es ih =>
      cases hs : step s e with
      | none =>
          simp only [moves, final, hs] at through ⊢
          exact ih coming through
      | some r =>
          simp only [moves, final, hs] at through ⊢
          rcases coming_step ⟨s, e, r.2, r.1⟩ hs coming with hcall | hcoming
          · exact ⟨_, List.mem_cons_self, hcall⟩
          · obtain ⟨m, hm, hcall⟩ := ih hcoming through
            exact ⟨m, List.mem_cons_of_mem _ hm, hcall⟩

theorem owed_run {i : Nat} {s : Loop ρ κ ς} {es : List (Event ρ κ ς)}
    (counted : s.data.Counted) (owed : Owed i s)
    (tested : ∃ m ∈ moves step s es, testsSignals m = true)
    (through : (final step s es).pc.scanning i = false) :
    ∃ m ∈ moves step s es, callsSignal i m = true := by
  induction es generalizing s with
  | nil =>
      obtain ⟨m, hm, -⟩ := tested
      exact absurd hm List.not_mem_nil
  | cons e es ih =>
      cases hs : step s e with
      | none =>
          simp only [moves, final, hs] at tested through ⊢
          exact ih counted owed tested through
      | some r =>
          simp only [moves, final, hs] at tested through ⊢
          rcases owed_step ⟨s, e, r.2, r.1⟩ hs counted owed with hcall | ⟨howed, hcoming⟩
          · exact ⟨_, List.mem_cons_self, hcall⟩
          obtain ⟨m, hm, htest⟩ := tested
          -- with the test the loop is on its way, before it the signal is only owed
          have hrest : ∃ m ∈ moves step r.1 es, callsSignal i m = true := by
            rcases List.mem_cons.mp hm with rfl | hm
            · exact coming_run (hcoming htest) through
            · exact ih (counted_steps (steps_of_step hs) counted) howed ⟨m, hm, htest⟩ through
          obtain ⟨m', hm', hcall⟩ := hrest
          exact ⟨m', List.mem_cons_of_mem _ hm', hcall⟩

/-- **No signal is lost.** A signal that comes at any moment of a run has its
handler called once the loop has tested for signals after it and is through
with the look at its registration. -/
theorem signal_served {s : Loop ρ κ ς} (reached : Reachable step Loop.init s) {sig : Int}
    {i : Nat} (first : signalIndex sig s.data.signals = some i) {es : List (Event ρ κ ς)}
    (tested : ∃ m ∈ moves step { s with data := s.data.handleSignal sig } es,
      testsSignals m = true)
    (through : (final step { s with data := s.data.handleSignal sig } es).pc.scanning i = false) :
    ∃ m ∈ moves step { s with data := s.data.handleSignal sig } es, callsSignal i m = true := by
  have hcounted := counted_reachable reached
  have hflag : 0 < flag i (s.data.handleSignal sig) := by
    have hold := hcounted.flags i
    rw [flag_handleSignal, if_pos first]
    omega
  have hnew : (s.data.handleSignal sig).Counted := by
    refine ⟨Int.le_add_one hcounted.signaled, fun j => ?_⟩
    have hold := hcounted.flags j
    rw [flag_handleSignal]
    split <;> omega
  exact owed_run hnew ⟨hflag, .inl (Int.lt_add_one_of_le hcounted.signaled)⟩ tested through

/-- A signal for the second of two registrations, while the handler of the
first is running. -/
def nestedSignal : List (Event Nat Nat Nat) :=
  [.op (.registerSignal true 2 0 0), .op (.registerSignal true 15 1 0),
    .op (.registerReadSock true 4 0 0 0), .run true, .clock ⟨0, 0⟩, .signal 2,
    .selected (-1) true [], .tick, .tick, .tick, .tick, .tick]

theorem signal_served_nested :
    ∃ m ∈ moves step { final step Loop.init nestedSignal with
        data := (final step Loop.init nestedSignal).data.handleSignal 15 }
        [.ret, .tick, .tick, .ret, .tick, .clock ⟨0, 0⟩, .clock ⟨0, 0⟩, .selected 0 false [],
          .tick, .tick, .tick, .tick, .tick, .tick],
      callsSignal 1 m = true :=
  signal_served ⟨nestedSignal, rfl⟩ (i := 1) rfl (by decide) rfl

/-! ## None is handled twice -/

/-- The loop only lowers a flag that is up. -/
def Raised (s : Loop ρ κ ς) : Prop := ∀ p i, s.pc = .consume p i → 0 < flag i s.data

theorem raised_steps {s t : Loop ρ κ ς} {e : Event ρ κ ς} {o : Output ρ κ ς}
    (hs : Steps s e o t) (counted : s.data.Counted) (h : Raised s) : Raised t := by
  intro p i hpc
  cases hs with
  | op d pc o calling =>
      -- no handler runs between the look at a flag and its lowering
      simp only at hpc
      subst hpc
      cases calling
  | signal d pc sig registered =>
      have hold := h p i hpc
      simp only at hold ⊢
      rw [flag_handleSignal]
      split <;> omega
  | lower | pending | consume | fire => cases hpc
  | control d pc pc' e o moves =>
      cases moves with
      | run mem => cases mem <;> cases hpc
      | early p' now wait | retTimeout p' =>
          simp only [Pass.readersOrTop] at hpc
          split at hpc <;> cases hpc
      | signalsUp p' j g at_j up =>
          cases hpc
          have hnonneg := counted.flags i
          simp only [flag, at_j, Option.map_some, Option.getD_some] at hnonneg ⊢
          omega
      | _ => cases hpc

/-- A call of a handler uses up the flag that a signal raised. -/
theorem purse_step (i : Nat) (m : LoopMove ρ κ ς) (h : m.Of step)
    (inv : m.before.data.Counted ∧ Raised m.before) :
    (callsSignal i m).toNat + (if 0 < flag i m.after.data then 1 else 0) ≤
      (deliversSignal i m).toNat + if 0 < flag i m.before.data then 1 else 0 := by
  obtain ⟨s, e, o, t⟩ := m
  have hs : Steps s e o t := steps_of_step h
  cases hs with
  | op d pc o calling => simp [callsSignal, flag_apply]
  | signal d pc sig registered =>
      simp only [callsSignal, deliversSignal, flag_handleSignal]
      by_cases hfirst : signalIndex sig d.signals = some i
      · simp only [hfirst, if_true, beq_self_eq_true, Bool.toNat_true, Bool.toNat_false]
        split <;> omega
      · simp [hfirst]
  | lower | pending | fire => exact Nat.add_le_add_right (Nat.zero_le _) _
  | consume d p j g at_j =>
      simp only [flag_set at_j]
      rcases eq_or_ne j i with rfl | hne
      · have hup : 0 < flag j d := inv.2 p j rfl
        simp [callsSignal, hup]
      · simp only [callsSignal, beq_eq_false_iff_ne.mpr hne, if_neg hne]
        exact Nat.add_le_add_right (Nat.zero_le _) _
  | control d pc pc' e o moves => cases moves <;> simp [callsSignal]

/-- **A handler answers a signal.** Over any stretch of a run a handler is called
no more often than its signal is delivered, but once more where the stretch
begins with its flag up. -/
theorem signal_calls_le {s : Loop ρ κ ς} (reached : Reachable step Loop.init s) (i : Nat)
    (es : List (Event ρ κ ς)) :
    (moves step s es).countP (callsSignal i) ≤
      (moves step s es).countP (deliversSignal i) + if 0 < flag i s.data then 1 else 0 := by
  have hstep : ∀ m : LoopMove ρ κ ς, m.Of step → m.before.data.Counted ∧ Raised m.before →
      m.after.data.Counted ∧ Raised m.after := fun m hm hinv =>
    ⟨counted_steps (steps_of_step hm) hinv.1, raised_steps (steps_of_step hm) hinv.1 hinv.2⟩
  have hinit : s.data.Counted ∧ Raised s :=
    reached.invariant (I := fun s => s.data.Counted ∧ Raised s)
      ⟨⟨le_rfl, fun _ => le_rfl⟩, nofun⟩ hstep
  refine (Nat.le_add_right _ (if 0 < flag i (final step s es).data then 1 else 0)).trans ?_
  exact moves_countP_le (I := fun s => s.data.Counted ∧ Raised s) (G := fun _ => True)
    (fun s : Loop ρ κ ς => if 0 < flag i s.data then 1 else 0)
    (fun m hm _ => hstep m hm) (fun m hm _ => purse_step i m hm) hinit fun _ _ => trivial

theorem signal_calls_le_nested :
    (moves step (final step Loop.init nestedSignal) [.signal 2, .signal 15, .ret, .tick]).countP
        (callsSignal 0) ≤
      (moves step (final step Loop.init nestedSignal)
        [.signal 2, .signal 15, .ret, .tick]).countP (deliversSignal 0) +
        if 0 < flag 0 (final step Loop.init nestedSignal).data then 1 else 0 :=
  signal_calls_le ⟨nestedSignal, rfl⟩ 0 _

end AfcDut.Eloop
