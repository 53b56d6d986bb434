import AfcDut.Eloop.Numbered
import Mathlib.Data.List.Perm.Basic

/-!
# The timeouts over a run

Every timeout that is registered fires once, is cancelled or is pending. None
fires early, and each before those that are due later. Once the clock has
reached the time of a timeout, nothing that is registered later delays it.
-/

namespace AfcDut.Eloop

open Data TimerQueue EloopData Lts

variable {ρ κ ς : Type} [DecidableEq κ]

/-! ## What a step does to the timeouts -/

/-- The timeout a step registers. -/
def registeredBy (m : LoopMove ρ κ ς) : List (EloopTimeout κ) :=
  match m.event with
  | .op (.registerTimeout true now secs usecs handler eloopData userData) =>
      [⟨dueTime now secs usecs, eloopData, userData, handler, m.before.data.registered⟩]
  | _ => []

/-- The timeouts a step cancels. -/
def cancelledBy (m : LoopMove ρ κ ς) : List (EloopTimeout κ) :=
  match m.event with
  | .op (.cancelTimeout handler eloopData userData) =>
      m.before.data.timeout.filter (matchesTimeout handler eloopData userData)
  | _ => []

/-- The timeout whose handler a step calls. -/
def firedBy (m : LoopMove ρ κ ς) : List (EloopTimeout κ) :=
  match m.output with
  | .timeout t _ => [t]
  | _ => []

/-- The step is the check for a timeout that is due. -/
def checksTimeouts (m : LoopMove ρ κ ς) : Bool :=
  match m.before.pc, m.event with
  | .timeouts _, .clock _ => true
  | _, _ => false

/-- The time a step reads. -/
def Event.now? : Event ρ κ ς → Option Timeval
  | .clock now => some now
  | .op (.registerTimeout _ now ..) => some now
  | _ => none

/-- Control moves no timeout. -/
theorem Control.no_timeouts {d : EloopData ρ κ ς} {pc pc' : Pc} {e : Event ρ κ ς}
    {o : Output ρ κ ς} (h : Control d pc e o pc') :
    registeredBy ⟨⟨d, pc⟩, e, o, ⟨d, pc'⟩⟩ = [] ∧ cancelledBy ⟨⟨d, pc⟩, e, o, ⟨d, pc'⟩⟩ = [] ∧
      firedBy ⟨⟨d, pc⟩, e, o, ⟨d, pc'⟩⟩ = [] := by
  cases h <;> exact ⟨rfl, rfl, rfl⟩

/-- One step balances. -/
theorem timeouts_balance (m : LoopMove ρ κ ς) (h : m.Of step) :
    (m.before.data.timeout ++ registeredBy m).Perm
      ((firedBy m ++ cancelledBy m) ++ m.after.data.timeout) := by
  obtain ⟨s, e, o, t⟩ := m
  have hs : Steps s e o t := steps_of_step h
  cases hs with
  | op d pc o calling =>
      cases o with
      | registerTimeout mem now secs usecs handler eloopData userData =>
          cases mem with
          | false => simp [registeredBy, firedBy, cancelledBy, Op.apply, registerTimeout]
          | true =>
              -- wherever the timeout is put, it is one more
              simp only [registeredBy, firedBy, cancelledBy, Op.apply, registerTimeout, if_true,
                insertTimeout_eq, List.nil_append]
              exact List.perm_append_comm.trans (perm_enqueue _ _).symm
      | cancelTimeout handler eloopData userData =>
          simp only [registeredBy, firedBy, cancelledBy, Op.apply, cancelTimeout,
            List.append_nil, List.nil_append]
          exact (List.filter_append_perm _ _).symm
      | registerReadSock mem sock handler eloopData userData =>
          cases mem <;> simp [registeredBy, firedBy, cancelledBy, Op.apply, registerReadSock]
      | registerSignal mem sig handler userData =>
          cases mem <;> simp [registeredBy, firedBy, cancelledBy, Op.apply, registerSignal]
      | unregisterReadSock sock =>
          simp [registeredBy, firedBy, cancelledBy, Op.apply, unregisterReadSock]
      | terminate => simp [registeredBy, firedBy, cancelledBy, Op.apply, setTerminate]
  | fire d p now t rest head due => simp [registeredBy, firedBy, cancelledBy, head]
  | signal | lower | pending | consume =>
      simp [registeredBy, firedBy, cancelledBy, handleSignal]
  | control d pc pc' e o moves =>
      obtain ⟨hreg, hcancel, hfire⟩ := moves.no_timeouts
      rw [hreg, hcancel, hfire]
      simp

/-- The registrations are counted, and none is given a number twice. -/
theorem registered_step (m : LoopMove ρ κ ς) (h : m.Of step) :
    m.before.data.registered + (registeredBy m).length ≤ m.after.data.registered ∧
      ∀ t ∈ registeredBy m, t.seq = m.before.data.registered := by
  obtain ⟨s, e, o, t⟩ := m
  have hs : Steps s e o t := steps_of_step h
  cases hs with
  | op d pc o calling =>
      cases o with
      | registerTimeout mem now secs usecs handler eloopData userData =>
          cases mem <;> simp [registeredBy, Op.apply, registerTimeout]
      | registerReadSock mem sock handler eloopData userData =>
          cases mem <;> simp [registeredBy, Op.apply, registerReadSock]
      | registerSignal mem sig handler userData =>
          cases mem <;> simp [registeredBy, Op.apply, registerSignal]
      | cancelTimeout | unregisterReadSock | terminate =>
          simp [registeredBy, Op.apply, cancelTimeout, unregisterReadSock, setTerminate]
  | fire | signal | lower | pending | consume => simp [registeredBy, handleSignal]
  | control d pc pc' e o moves =>
      rw [moves.no_timeouts.1]
      simp

omit [DecidableEq κ] in
theorem registeredBy_length (m : LoopMove ρ κ ς) :
    (registeredBy m).length ≤ 1 := by
  unfold registeredBy
  split
  · exact le_rfl
  · exact Nat.zero_le _

/-- The numbers of the timeouts that a run registers go up. -/
theorem registered_sorted (s : Loop ρ κ ς) (es : List (Event ρ κ ς)) :
    (((moves step s es).flatMap registeredBy).map (·.seq)).Pairwise (· < ·) ∧
      ∀ n ∈ ((moves step s es).flatMap registeredBy).map (·.seq), s.data.registered ≤ n := by
  induction es generalizing s with
  | nil => simp [moves]
  | cons e es ih =>
      cases hs : step s e with
      | none => simpa only [moves, hs] using ih s
      | some r =>
          obtain ⟨hcount, hseq⟩ := registered_step ⟨s, e, r.2, r.1⟩ hs
          obtain ⟨hsorted, hle⟩ := ih r.1
          have hone := registeredBy_length ⟨s, e, r.2, r.1⟩
          simp only [moves, hs, List.flatMap_cons, List.map_append]
          simp only at hcount hseq
          -- a step registers one timeout at most, with the next number
          cases hreg : registeredBy ⟨s, e, r.2, r.1⟩ with
          | nil =>
              simp only [hreg, List.length_nil] at hcount
              exact ⟨by simpa using hsorted, fun n hn => by
                have := hle n (by simpa using hn)
                omega⟩
          | cons t ts =>
              simp only [hreg, List.length_cons] at hone hcount hseq
              have hts : ts = [] := List.length_eq_zero_iff.mp (by omega)
              subst hts
              have ht : t.seq = s.data.registered := hseq t List.mem_cons_self
              simp only [List.map_cons, List.map_nil, List.cons_append, List.nil_append,
                List.pairwise_cons, List.forall_mem_cons]
              refine ⟨⟨fun n hn => ?_, hsorted⟩, ht.ge, fun n hn => ?_⟩
              · have := hle n hn
                omega
              · have := hle n hn
                omega

/-! ## The accounts -/

/-- **No timeout is lost, and none fires twice.** Over a run, the timeouts that
were registered are those that fired, those that were cancelled and those that
are pending. -/
theorem timeouts_accounted (es : List (Event ρ κ ς)) :
    ((moves step Loop.init es).flatMap registeredBy).Perm
        ((moves step Loop.init es).flatMap firedBy ++
          (moves step Loop.init es).flatMap cancelledBy ++
          (final step Loop.init es).data.timeout) ∧
      (((moves step Loop.init es).flatMap registeredBy).map (·.seq)).Nodup := by
  constructor
  · have hbalance := moves_perm (fun s : Loop ρ κ ς => s.data.timeout) timeouts_balance
      Loop.init es
    exact hbalance.trans ((List.flatMap_append_perm _ _ _).symm.append_right _)
  · exact (registered_sorted Loop.init es).1.imp Nat.ne_of_lt

/-! ## The order -/

/-- **The timeouts fire in order.** None fires before it is due, and those that
are left are due later, or at the same time and were registered later. -/
theorem timeouts_fire_in_order {es : List (Event ρ κ ς)} {m : LoopMove ρ κ ς}
    (hm : m ∈ moves step Loop.init es) {t : EloopTimeout κ} {now : Timeval}
    (fires : m.output = .timeout t now) :
    t.time.key ≤ now.key ∧
      ∀ u ∈ m.after.data.timeout,
        t.time.key < u.time.key ∨ t.time.key = u.time.key ∧ t.seq < u.seq := by
  obtain ⟨hof, hbefore, -⟩ := numbered_moves m hm
  obtain ⟨s, e, o, s'⟩ := m
  have hs : Steps s e o s' := steps_of_step hof
  cases hs with
  | fire d p now' t' rest head due =>
      cases fires
      have hordered : Ordered dueKey (·.seq) (t :: rest) := head ▸ hbefore.timeouts
      exact ⟨Timeval.not_lt_iff.mp due, (List.pairwise_cons.mp hordered).1⟩
  | op | signal | lower | pending | consume => cases fires
  | control d pc pc' e o moves => cases moves <;> cases fires

/-- Two timeouts that are due at once, and the check that finds the first of them. -/
def twoTimeouts : List (Event Nat Nat Nat) :=
  [.op (.registerTimeout true ⟨0, 0⟩ 2 0 7 0 0),
    .op (.registerTimeout true ⟨0, 500000⟩ 0 1500000 8 0 0),
    .run true, .clock ⟨1, 0⟩, .selected 0 false [], .tick, .clock ⟨2, 5⟩]

theorem timeouts_fire_in_order_two :
    ∃ m ∈ moves step Loop.init twoTimeouts, ∃ t now, m.output = .timeout t now ∧
      t.time.key ≤ now.key ∧
        ∀ u ∈ m.after.data.timeout,
          t.time.key < u.time.key ∨ t.time.key = u.time.key ∧ t.seq < u.seq := by
  have hm : (moves step Loop.init twoTimeouts)[6]? = some _ := rfl
  exact ⟨_, List.mem_of_getElem? hm, _, _, rfl,
    timeouts_fire_in_order (List.mem_of_getElem? hm) rfl⟩

/-! ## The wait -/

omit [DecidableEq κ] in
/-- Where the check finds nothing due, the turn of what is due has come. -/
theorem turn_of_early {d : EloopData ρ κ ς} (h : d.Numbered) {b : EloopTimeout κ}
    {now : Timeval} (late : b.time.key ≤ now.key)
    (early : ∀ t ∈ d.timeout.head?, now.lt t.time = true) :
    turn dueKey (·.seq) b d.timeout = 0 := by
  rcases hl : d.timeout with _ | ⟨a, l⟩
  · rfl
  · by_contra hne
    have hnot := (hl ▸ h.timeouts : Ordered dueKey (·.seq) (a :: l)).not_before_head
      (Nat.pos_of_ne_zero hne)
    have hdue : dueKey a ≤ dueKey b := due_le_of_not_before hnot
    have hearly : now.key < a.time.key := Timeval.lt_iff.mp (early a (by simp [hl]))
    exact absurd (hearly.trans_le hdue) (not_lt.mpr late)

omit [DecidableEq κ] in
/-- What is registered once the clock has reached a timeout goes after it. -/
theorem turn_registerTimeout {d : EloopData ρ κ ς} {b : EloopTimeout κ} {now : Timeval}
    (late : b.time.key ≤ now.key) (old : b.seq < d.registered) (mem : Bool) (secs usecs : Nat)
    (handler : κ) (eloopData userData : Ctx) :
    turn dueKey (·.seq) b
        (d.registerTimeout mem now secs usecs handler eloopData userData).timeout =
      turn dueKey (·.seq) b d.timeout := by
  cases mem with
  | false => rfl
  | true =>
      have hdue : dueKey b ≤ dueKey (⟨dueTime now secs usecs, eloopData, userData, handler,
          d.registered⟩ : EloopTimeout κ) :=
        late.trans (key_le_dueTime now secs usecs)
      simp only [registerTimeout, if_true, insertTimeout_eq]
      exact turn_enqueue hdue old d.timeout

/-- What one step does to the turn of a timeout the clock has reached. -/
theorem turn_step {b : EloopTimeout κ} (m : LoopMove ρ κ ς) (h : m.Of step)
    (late : ∀ now ∈ m.event.now?, b.time.key ≤ now.key)
    (inv : m.before.data.Numbered ∧ b.seq < m.before.data.registered) :
    turn dueKey (·.seq) b m.after.data.timeout ≤
      turn dueKey (·.seq) b m.before.data.timeout - (checksTimeouts m).toNat := by
  obtain ⟨s, e, o, t⟩ := m
  have hs : Steps s e o t := steps_of_step h
  cases hs with
  | op d pc o calling =>
      have hcheck : ∀ v t, checksTimeouts (⟨⟨d, pc⟩, .op o, v, t⟩ : LoopMove ρ κ ς) = false := by
        intro v t
        cases pc <;> rfl
      rw [hcheck]
      cases o with
      | registerTimeout mem now secs usecs handler eloopData userData =>
          exact (turn_registerTimeout (late now rfl) inv.2 mem secs usecs handler eloopData
            userData).le
      | cancelTimeout handler eloopData userData => exact turn_filter_le _ _
      | registerReadSock mem sock handler eloopData userData =>
          cases mem <;> simp [Op.apply, registerReadSock]
      | registerSignal mem sig handler userData => cases mem <;> simp [Op.apply, registerSignal]
      | unregisterReadSock sock => simp [Op.apply, unregisterReadSock]
      | terminate => simp [Op.apply, setTerminate]
  | fire d p now t rest head due =>
      simp only [checksTimeouts, Bool.toNat_true, head]
      -- what fires is before `b` or `b` itself, unless `b` is gone
      rcases Nat.eq_zero_or_pos (turn dueKey (·.seq) b (t :: rest)) with hzero | hpos
      · have hle : turn dueKey (·.seq) b rest ≤ turn dueKey (·.seq) b (t :: rest) :=
          turn_le_cons t rest
        omega
      · have hnot := (head ▸ inv.1.timeouts : Ordered dueKey (·.seq) (t :: rest)).not_before_head
          hpos
        rw [turn_cons hnot]
        omega
  | signal d pc sig => cases pc <;> simp [checksTimeouts, handleSignal]
  | lower | pending | consume => simp [checksTimeouts]
  | control d pc pc' e o moves =>
      cases moves with
      | early p now wait =>
          have hzero := turn_of_early inv.1 (late now rfl) wait
          simp only at hzero ⊢
          omega
      | _ => simp [checksTimeouts]

/-- **A bounded wait.** Once the clock has reached the time of a timeout, it is
gone after as many checks for due timeouts as there are timeouts up to it, and
no timeout that is registered in the meantime overtakes it. -/
theorem timeout_gone_after {s : Loop ρ κ ς} (reached : Reachable step Loop.init s)
    {t : EloopTimeout κ} (pending : t ∈ s.data.timeout) {es : List (Event ρ κ ς)}
    (late : ∀ m ∈ moves step s es, ∀ now ∈ m.event.now?, t.time.key ≤ now.key)
    (checks : (s.data.timeout.countP fun u => decide (¬ Before dueKey (·.seq) t u)) ≤
      (moves step s es).countP checksTimeouts) :
    t ∈ (moves step s es).flatMap firedBy ∨ t ∈ (moves step s es).flatMap cancelledBy := by
  have hnumbered := numbered_reachable reached
  have hcount := moves_countdown
    (I := fun s : Loop ρ κ ς => s.data.Numbered ∧ t.seq < s.data.registered)
    (fun s : Loop ρ κ ς => turn dueKey (·.seq) t s.data.timeout)
    (fun m hm _ hinv => ⟨numbered_steps (steps_of_step hm) hinv.1,
      hinv.2.trans_le (Nat.le_of_add_right_le (registered_step m hm).1)⟩)
    turn_step ⟨hnumbered, hnumbered.timeoutOld t pending⟩ late
  -- a timeout that is pending has a turn above zero, and all turns have been used
  have hgone : t ∉ (final step s es).data.timeout := by
    intro hmem
    have hpos : 0 < turn dueKey (·.seq) t (final step s es).data.timeout := turn_pos hmem
    have hturn : turn dueKey (·.seq) t s.data.timeout ≤
        (moves step s es).countP checksTimeouts := by
      simpa [turn] using checks
    omega
  have hbalance := moves_perm (fun s : Loop ρ κ ς => s.data.timeout) timeouts_balance s es
  have hmem := hbalance.mem_iff.mp (List.mem_append_left _ pending)
  rcases List.mem_append.mp hmem with hmem | hmem
  · exact List.mem_append.mp ((List.flatMap_append_perm _ _ _).mem_iff.mpr hmem)
  · exact absurd hmem hgone

/-- The second of the two, from the moment the first has fired. -/
theorem timeout_gone_after_two :
    ∃ t : EloopTimeout Nat,
      t ∈ (moves step (final step Loop.init twoTimeouts)
        [.ret, .clock ⟨2, 9⟩, .selected 0 false [], .tick, .clock ⟨2, 9⟩]).flatMap firedBy ∨
      t ∈ (moves step (final step Loop.init twoTimeouts)
        [.ret, .clock ⟨2, 9⟩, .selected 0 false [], .tick, .clock ⟨2, 9⟩]).flatMap
          cancelledBy := by
  refine ⟨⟨⟨2, 0⟩, 0, 0, 8, 1⟩, timeout_gone_after ⟨twoTimeouts, rfl⟩ (List.mem_cons_self) ?_ ?_⟩
  · decide
  · decide

/-! ## The call of `select` -/

def EloopData.NormalTimes (d : EloopData ρ κ ς) : Prop := ∀ t ∈ d.timeout, t.time.Normal

/-- Where the clock reads normal times, the timeouts have them. -/
theorem normalTimes_step (m : LoopMove ρ κ ς) (h : m.Of step)
    (normal : ∀ now ∈ m.event.now?, now.Normal) (inv : m.before.data.NormalTimes) :
    m.after.data.NormalTimes := by
  intro t ht
  have hmem := (timeouts_balance m h).mem_iff.mpr (List.mem_append_right _ ht)
  rcases List.mem_append.mp hmem with hmem | hmem
  · exact inv t hmem
  · unfold registeredBy at hmem
    split at hmem
    · rename_i now secs usecs handler eloopData userData hevent
      have hnow : now.Normal := normal now (by rw [hevent]; rfl)
      rw [List.mem_singleton.mp hmem]
      exact (dueTime_spec hnow secs usecs).1
    · exact absurd hmem List.not_mem_nil

omit [DecidableEq κ] in
/-- The time for `select` is what is left to the first timeout. -/
theorem waitTime_spec {d : EloopData ρ κ ς} (h : d.Numbered) (normal : d.NormalTimes)
    {now : Timeval} (hnow : now.Normal) {v : Timeval} (wait : d.waitTime now = some v) :
    v.Normal ∧ ∃ t ∈ d.timeout, v.micros = max 0 (t.time.micros - now.micros) ∧
      ∀ u ∈ d.timeout, t.time.micros ≤ u.time.micros := by
  unfold EloopData.waitTime at wait
  rcases hl : d.timeout with _ | ⟨t, rest⟩
  · simp [hl] at wait
  · have hmem : t ∈ d.timeout := hl ▸ List.mem_cons_self
    have hfirst : ∀ u ∈ t :: rest, t.time.micros ≤ u.time.micros := by
      intro u hu
      have hle := (hl ▸ h.timeouts : Ordered dueKey (·.seq) (t :: rest)).due_head_le u hu
      by_contra hlt
      have := (Timeval.lt_iff_micros (normal u (hl ▸ hu)) (normal t hmem)).mpr (not_le.mp hlt)
      exact absurd (Timeval.lt_iff.mp this) (not_lt.mpr hle)
    simp only [hl, List.head?_cons, Option.map_some, Option.some.injEq] at wait
    split at wait
    · rename_i hearly
      obtain ⟨hnormal, hmicros⟩ := Timeval.sub_spec (normal t hmem) hnow
      have hlt := (Timeval.lt_iff_micros hnow (normal t hmem)).mp hearly
      subst wait
      exact ⟨hnormal, t, List.mem_cons_self, by omega, hfirst⟩
    · rename_i hdue
      have hle : t.time.micros ≤ now.micros := by
        by_contra hlt
        exact hdue ((Timeval.lt_iff_micros hnow (normal t hmem)).mpr (not_le.mp hlt))
      subst wait
      refine ⟨⟨le_rfl, by decide⟩, t, List.mem_cons_self, ?_, hfirst⟩
      have hzero : (⟨0, 0⟩ : Timeval).micros = 0 := by decide
      omega

/-- **`select` sleeps no longer than to the first timeout.** Whenever the loop
waits, it waits for every socket that is registered, and for exactly the time
that is left to the earliest timeout, for ever if there is none. -/
theorem select_covers {es : List (Event ρ κ ς)}
    (normal : ∀ m ∈ moves step Loop.init es, ∀ now ∈ m.event.now?, now.Normal)
    {m : LoopMove ρ κ ς} (hm : m ∈ moves step Loop.init es) {nfds : Int}
    {watched : List Int} {tv : Option Timeval} (selects : m.output = .select nfds watched tv) :
    (∀ r ∈ m.before.data.readers, r.sock ∈ watched ∧ r.sock < nfds) ∧
      (tv = none ↔ m.before.data.timeout = []) ∧
      ∃ now, m.event = .clock now ∧ ∀ v ∈ tv, v.Normal ∧
        ∃ t ∈ m.before.data.timeout, v.micros = max 0 (t.time.micros - now.micros) ∧
          ∀ u ∈ m.before.data.timeout, t.time.micros ≤ u.time.micros := by
  have hnormal := moves_invariant (I := fun s : Loop ρ κ ς => s.data.NormalTimes)
    normalTimes_step (fun t ht => absurd ht List.not_mem_nil) normal m hm
  have hnumbered := (numbered_moves m hm).2.1
  have hnow := normal m hm
  obtain ⟨s, e, o, s'⟩ := m
  have hs : Steps s e o s' := steps_of_step hnormal.1
  cases hs with
  | control d pc pc' e o moves =>
      cases moves with
      | select now =>
          cases selects
          refine ⟨fun r hr => ⟨List.mem_map_of_mem hr, ?_⟩, ?_, now, rfl, fun v hv => ?_⟩
          · exact Int.lt_add_one_of_le (hnumbered.maxSock r hr)
          · simp [EloopData.waitTime]
          · exact waitTime_spec hnumbered hnormal.2.1 (hnow now rfl) hv
      | _ => cases selects
  | op | signal | lower | pending | consume | fire => cases selects

/-- The two timeouts, and a socket that is waited for. -/
def socketAndTimeouts : List (Event Nat Nat Nat) :=
  .op (.registerReadSock true 4 0 0 0) :: twoTimeouts

theorem select_covers_socket :
    ∃ m ∈ moves step Loop.init socketAndTimeouts, ∃ nfds watched tv,
      m.output = .select nfds watched tv ∧ m.before.data.readers.map (·.sock) = [4] ∧
      (∀ r ∈ m.before.data.readers, r.sock ∈ watched ∧ r.sock < nfds) ∧
      (tv = none ↔ m.before.data.timeout = []) ∧
      ∃ now, m.event = .clock now ∧ ∀ v ∈ tv, v.Normal ∧
        ∃ t ∈ m.before.data.timeout, v.micros = max 0 (t.time.micros - now.micros) ∧
          ∀ u ∈ m.before.data.timeout, t.time.micros ≤ u.time.micros := by
  have hm : (moves step Loop.init socketAndTimeouts)[4]? = some _ := rfl
  refine ⟨_, List.mem_of_getElem? hm, _, _, _, rfl, rfl,
    select_covers ?_ (List.mem_of_getElem? hm) rfl⟩
  unfold Timeval.Normal
  decide

end AfcDut.Eloop
