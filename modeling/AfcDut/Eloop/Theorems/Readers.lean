import AfcDut.Data.Scan
import AfcDut.Eloop.Numbered

/-!
# One pass over the sockets

The loop goes over its sockets by index, and a handler that unregisters one
shifts the rest under it. In a pass every registration is called at most once,
in the order of registration, and every socket that was ready is called but for
at most one for each that was unregistered.
-/

namespace AfcDut.Eloop

open Data EloopData Lts

variable {ρ κ ς : Type} [DecidableEq κ]

/-- The registration whose handler a step calls. -/
def calledBy (m : LoopMove ρ κ ς) : List (EloopSock ρ) :=
  match m.output with
  | .reader r => [r]
  | _ => []

/-- The step unregisters a socket. -/
def unregisters (m : LoopMove ρ κ ς) : Bool :=
  match m.event with
  | .op (.unregisterReadSock sock) => m.before.data.readers.any fun r => r.sock == sock
  | _ => false

/-- How far a pass is: the sockets it has been to. -/
inductive At (p : Pass) : Pc → Nat → Prop
  | readers (i : Nat) : At p (.readers p i) i
  | inReader (i : Nat) : At p (.inReader p i) (i + 1)

/-- The sockets that were ready and have not been called. -/
def missed (p : Pass) (calls : List Nat) (r : EloopSock ρ) : Bool :=
  decide (r.sock ∈ p.rfds) && !decide (r.seq ∈ calls)

/-! ## A step of a pass -/

/-- What a step of a pass can do to the sockets and to the pass. -/
inductive PassStep (p : Pass) (k : Nat) (m : LoopMove ρ κ ς) : Prop
  | stay (still : At p m.after.pc k) (readers : m.after.data.readers = m.before.data.readers)
      (registered : m.before.data.registered ≤ m.after.data.registered)
      (none : calledBy m = [])
  | came (still : At p m.after.pc k) (r : EloopSock ρ)
      (readers : m.after.data.readers = m.before.data.readers ++ [r])
      (seq : r.seq = m.before.data.registered)
      (registered : m.after.data.registered = m.before.data.registered + 1)
      (none : calledBy m = [])
  | went (still : At p m.after.pc k) (q : EloopSock ρ → Bool)
      (readers : m.after.data.readers = m.before.data.readers.eraseP q)
      (registered : m.after.data.registered = m.before.data.registered)
      (none : calledBy m = []) (counted : m.before.data.readers.any q = unregisters m)
  | next (on : At p m.after.pc (k + 1)) (data : m.after.data = m.before.data)
      (r : EloopSock ρ) (at_k : m.before.data.readers[k]? = some r)
      (looks : r.sock ∉ p.rfds ∧ calledBy m = [] ∨ r.sock ∈ p.rfds ∧ calledBy m = [r])
  | done (top : m.after.pc = .top) (data : m.after.data = m.before.data)
      (past : m.before.data.readers.length ≤ k) (none : calledBy m = [])

theorem passStep_op {p : Pass} {k : Nat} {d : EloopData ρ κ ς} {pc : Pc} (hat : At p pc k)
    (o : Op ρ κ ς) :
    PassStep p k ⟨⟨d, pc⟩, .op o, .value (o.result d), ⟨o.apply d, pc⟩⟩ := by
  cases o with
  | registerReadSock mem sock handler eloopData userData =>
      cases mem with
      | false => exact .stay hat rfl le_rfl rfl
      | true => exact .came hat ⟨sock, eloopData, userData, handler, d.registered⟩ rfl rfl rfl rfl
  | unregisterReadSock sock => exact .went hat _ rfl rfl rfl rfl
  | registerTimeout mem now secs usecs handler eloopData userData =>
      cases mem with
      | false => exact .stay hat rfl le_rfl rfl
      | true => exact .stay hat rfl (Nat.le_succ _) rfl
  | registerSignal mem sig handler userData =>
      cases mem with
      | false => exact .stay hat rfl le_rfl rfl
      | true => exact .stay hat rfl le_rfl rfl
  | cancelTimeout | terminate => exact .stay hat rfl le_rfl rfl

theorem passStep_of {p : Pass} {k : Nat} {m : LoopMove ρ κ ς} (h : m.Of step)
    (hat : At p m.before.pc k) : PassStep p k m := by
  obtain ⟨s, e, o, t⟩ := m
  have hs : Steps s e o t := steps_of_step h
  cases hs with
  | op d pc o calling => exact passStep_op hat o
  | signal d pc sig registered => exact .stay hat rfl le_rfl rfl
  | lower | pending | consume | fire => cases hat
  | control d pc pc' e o moves =>
      cases moves with
      | readersEnd p' i past => cases hat; exact .done rfl rfl past rfl
      | readersNext p' i r at_i idle =>
          cases hat
          exact .next (.readers _) rfl r at_i (.inl ⟨idle, rfl⟩)
      | reader p' i r at_i ready =>
          cases hat
          exact .next (.inReader _) rfl r at_i (.inr ⟨ready, rfl⟩)
      | retReader p' i => cases hat; exact .stay (.readers _) rfl le_rfl rfl
      | _ => cases hat

/-! ## The invariant of a pass -/

/-- A pass that has called `calls` and seen `gone` sockets unregistered. -/
structure PassInv (p : Pass) (calls : List Nat) (gone : Nat) (s : Loop ρ κ ς) : Prop where
  sorted : calls.Pairwise (· < ·)
  old : ∀ n ∈ calls, n < s.data.registered
  numbered : s.data.Numbered
  place : (∃ k, At p s.pc k ∧ Scan.passed (missed p calls) k s.data.readers ≤ gone ∧
      ∀ r ∈ s.data.readers.drop k, ∀ n ∈ calls, n < r.seq) ∨
    s.pc = .top ∧ s.data.readers.countP (missed p calls) ≤ gone

theorem missed_append {p : Pass} {calls : List Nat} (n : Nat) (r : EloopSock ρ)
    (h : missed p (calls ++ [n]) r = true) : missed p calls r = true := by
  unfold missed at h ⊢
  simp only [Bool.and_eq_true, Bool.not_eq_true', decide_eq_false_iff_not, List.mem_append,
    not_or] at h ⊢
  exact ⟨h.1, h.2.1⟩

/-- One step of a pass. -/
theorem passInv_step {p : Pass} {calls : List Nat} {gone : Nat} {m : LoopMove ρ κ ς}
    (h : m.Of step) (inv : PassInv p calls gone m.before) (inside : m.before.pc ≠ .top) :
    PassInv p (calls ++ (calledBy m).map (·.seq)) (gone + (unregisters m).toNat) m.after ∧
      ∀ r ∈ calledBy m, r.sock ∈ p.rfds := by
  obtain ⟨hsorted, hold, hnumbered, ⟨k, hat, hpassed, hahead⟩ | ⟨htop, -⟩⟩ := inv
  case inr => exact absurd htop inside
  have hafter : m.after.data.Numbered := numbered_steps (steps_of_step h) hnumbered
  cases passStep_of h hat with
  | stay still readers registered none =>
      rw [none]
      refine ⟨⟨by simpa using hsorted, fun n hn => ?_, hafter, .inl ⟨k, still, ?_, ?_⟩⟩, by simp⟩
      · exact (hold n (by simpa using hn)).trans_le registered
      · rw [readers]
        simpa using hpassed.trans (Nat.le_add_right _ _)
      · simpa [readers] using hahead
  | came still r readers seq registered none =>
      rw [none]
      refine ⟨⟨by simpa using hsorted, fun n hn => ?_, hafter, .inl ⟨k, still, ?_, ?_⟩⟩, by simp⟩
      · rw [registered]
        exact Nat.lt_succ_of_lt (hold n (by simpa using hn))
      · rw [readers]
        have hle := Scan.passed_append_le (missed p calls) k m.before.data.readers r
        simpa using hle.trans (hpassed.trans (Nat.le_add_right _ _))
      · intro r' hr' n hn
        rw [readers] at hr'
        rcases Scan.mem_drop_append hr' with hr' | rfl
        · exact hahead r' hr' n (by simpa using hn)
        · rw [seq]
          exact hold n (by simpa using hn)
  | went still q readers registered none counted =>
      rw [none]
      refine ⟨⟨by simpa using hsorted, fun n hn => ?_, hafter, .inl ⟨k, still, ?_, ?_⟩⟩, by simp⟩
      · rw [registered]
        exact hold n (by simpa using hn)
      · rw [readers]
        cases hany : m.before.data.readers.any q with
        | false =>
            rw [List.eraseP_of_forall_not (by simpa using hany)]
            simpa using hpassed.trans (Nat.le_add_right _ _)
        | true =>
            -- the socket that moves to a place the pass has left is missed
            have hle := Scan.passed_eraseP_le (missed p calls) q k m.before.data.readers
            rw [← counted, hany]
            simpa using hle.trans (Nat.succ_le_succ hpassed)
      · intro r hr n hn
        rw [readers] at hr
        exact hahead r ((Scan.drop_eraseP_sublist q k _).subset hr) n (by simpa using hn)
  | next on data r at_k looks =>
      have hlt : k < m.before.data.readers.length := (List.getElem?_eq_some_iff.mp at_k).1
      have hdrop : m.before.data.readers.drop k = r :: m.before.data.readers.drop (k + 1) := by
        rw [← List.getElem_cons_drop hlt, (List.getElem?_eq_some_iff.mp at_k).2]
      rw [hdrop, List.forall_mem_cons] at hahead
      rcases looks with ⟨idle, hcalls⟩ | ⟨ready, hcalls⟩
      · rw [hcalls]
        refine ⟨⟨by simpa using hsorted, ?_, hafter, .inl ⟨k + 1, on, ?_, ?_⟩⟩, by simp⟩
        · simpa [data] using hold
        · rw [data, Scan.passed_succ at_k (by simp [missed, idle])]
          simpa using hpassed.trans (Nat.le_add_right _ _)
        · simpa [data] using hahead.2
      · rw [hcalls]
        have hnew : ∀ n ∈ calls ++ [r.seq], n < m.before.data.registered := by
          intro n hn
          rcases List.mem_append.mp hn with hn | hn
          · exact hold n hn
          · rw [List.mem_singleton.mp hn]
            exact hnumbered.readerOld r (List.mem_of_getElem? at_k)
        refine ⟨⟨?_, by simpa [data] using hnew, hafter, .inl ⟨k + 1, on, ?_, ?_⟩⟩, by simpa⟩
        · refine List.pairwise_append.mpr ⟨hsorted, List.pairwise_singleton _ _, ?_⟩
          intro n hn n' hn'
          rw [List.mem_singleton.mp hn']
          exact hahead.1 n hn
        · rw [data, Scan.passed_succ at_k (by simp [missed])]
          have hfewer : ∀ b : EloopSock ρ, missed p (calls ++ [r.seq]) b = true →
              missed p calls b = true := missed_append r.seq
          have hle := Scan.passed_le_passed hfewer k m.before.data.readers
          simpa using hle.trans (hpassed.trans (Nat.le_add_right _ _))
        -- what is still ahead was registered later than all that were called
        · intro r' hr' n hn
          rw [data] at hr'
          rcases List.mem_append.mp hn with hn | hn
          · exact hahead.2 r' hr' n hn
          · have hlater := (List.pairwise_cons.mp (hdrop ▸ hnumbered.readers.drop)).1 r' hr'
            rw [List.mem_singleton.mp hn]
            exact hlater
  | done top data past none =>
      rw [none]
      refine ⟨⟨by simpa using hsorted, ?_, hafter, .inr ⟨top, ?_⟩⟩, by simp⟩
      · simpa [data] using hold
      · rw [data]
        have hall := Scan.countP_le_passed (p := missed p calls) past
        simpa using hall.trans (hpassed.trans (Nat.le_add_right _ _))

/-- A run inside a pass. -/
theorem passInv_run {p : Pass} {calls : List Nat} {gone : Nat} {s : Loop ρ κ ς}
    {es : List (Event ρ κ ς)} (inv : PassInv p calls gone s)
    (inside : ∀ m ∈ moves step s es, m.before.pc ≠ .top) :
    PassInv p (calls ++ ((moves step s es).flatMap calledBy).map (·.seq))
        (gone + (moves step s es).countP unregisters) (final step s es) ∧
      ∀ r ∈ (moves step s es).flatMap calledBy, r.sock ∈ p.rfds := by
  induction es generalizing s calls gone with
  | nil => exact ⟨by simpa [moves, final] using inv, by simp [moves]⟩
  | cons e es ih =>
      cases hs : step s e with
      | none =>
          simp only [moves, final, hs] at inside ⊢
          exact ih inv inside
      | some r =>
          simp only [moves, final, hs, List.forall_mem_cons] at inside ⊢
          obtain ⟨hfirst, hready⟩ := passInv_step (m := ⟨s, e, r.2, r.1⟩) hs inv inside.1
          obtain ⟨hrest, hready'⟩ := ih hfirst inside.2
          have hcount : gone + (unregisters ⟨s, e, r.2, r.1⟩).toNat +
              (moves step r.1 es).countP unregisters =
              gone + (⟨s, e, r.2, r.1⟩ :: moves step r.1 es).countP unregisters := by
            rw [List.countP_cons]
            cases unregisters ⟨s, e, r.2, r.1⟩ with
            | false => simp
            | true => simp only [Bool.toNat_true, if_true]; omega
          rw [hcount, List.append_assoc, ← List.map_append, ← List.flatMap_cons] at hrest
          refine ⟨hrest, fun r' hr' => ?_⟩
          rw [List.flatMap_cons] at hr'
          rcases List.mem_append.mp hr' with hr' | hr'
          · exact hready r' hr'
          · exact hready' r' hr'

/-- **One pass over the sockets.** From the moment the pass begins, and whatever
the handlers register and unregister, each registration is called at most once,
in the order of registration and only for a socket that was ready. When the
pass ends, the sockets that were ready and are still registered have been
called, but for at most one for each that was unregistered. -/
theorem readers_served {s : Loop ρ κ ς} (reached : Reachable step Loop.init s) {p : Pass}
    (start : s.pc = .readers p 0) {es : List (Event ρ κ ς)}
    (inside : ∀ m ∈ moves step s es, m.before.pc ≠ .top) :
    (((moves step s es).flatMap calledBy).map (·.seq)).Pairwise (· < ·) ∧
      (∀ r ∈ (moves step s es).flatMap calledBy, r.sock ∈ p.rfds) ∧
      ((final step s es).pc = .top →
        ((final step s es).data.readers.countP fun r => decide (r.sock ∈ p.rfds) &&
            !decide (r.seq ∈ ((moves step s es).flatMap calledBy).map (·.seq))) ≤
          (moves step s es).countP unregisters) := by
  have hinit : PassInv p [] 0 s :=
    ⟨List.Pairwise.nil, fun n hn => absurd hn List.not_mem_nil, numbered_reachable reached,
      .inl ⟨0, start ▸ .readers 0, (Scan.passed_zero _ _).le,
        fun r _ n hn => absurd hn List.not_mem_nil⟩⟩
  obtain ⟨⟨hsorted, -, -, hplace⟩, hready⟩ := passInv_run hinit inside
  simp only [List.nil_append, Nat.zero_add] at hsorted hplace
  refine ⟨hsorted, hready, fun htop => ?_⟩
  rcases hplace with ⟨k, hat, -⟩ | ⟨-, hcount⟩
  · rw [htop] at hat
    cases hat
  · exact hcount

/-- Three sockets are ready, and the handler of the first unregisters itself. -/
def threeSockets : List (Event Nat Nat Nat) :=
  [.op (.registerReadSock true 4 0 0 0), .op (.registerReadSock true 5 0 0 0),
    .op (.registerReadSock true 6 0 0 0), .run true, .clock ⟨0, 0⟩,
    .selected 3 false [4, 5, 6], .tick, .clock ⟨0, 0⟩]

def threeSocketsPass : List (Event Nat Nat Nat) :=
  [.tick, .op (.unregisterReadSock 4), .ret, .tick, .ret, .tick]

theorem readers_served_three :
    let s := final step Loop.init threeSockets
    let calls := (moves step s threeSocketsPass).flatMap calledBy
    (calls.map (·.seq)).Pairwise (· < ·) ∧ (∀ r ∈ calls, r.sock ∈ [4, 5, 6]) ∧
      ((final step s threeSocketsPass).pc = .top →
        ((final step s threeSocketsPass).data.readers.countP fun r =>
            decide (r.sock ∈ [4, 5, 6]) && !decide (r.seq ∈ calls.map (·.seq))) ≤
          (moves step s threeSocketsPass).countP unregisters) :=
  readers_served (p := ⟨3, [4, 5, 6]⟩) ⟨threeSockets, rfl⟩ rfl (by decide)

end AfcDut.Eloop
