import LcdStuff.ServiceLoop
import LcdStuff.StepSystem

/-!
# The server is asked if it is alive

When the service thread finds no command in its queue it counts, and every 31st time it sends a
`noop` instead of reading its input. The counter goes back to zero only when the answer was read,
and between the two there is a loop of up to ten reads, with any callbacks in it, and any commands
of the queue before it.

`ServiceLoop.noops_of_reachable` says when this is, whatever the server and the modules do: the
`noop`s are sent at the 31st, the 62nd, the 93rd time that nothing is in the queue, and so on, and
none of them is left out.
-/

/-- `send_command_succ` is called for the `noop`. -/
def Reader.isNoop : Reader → Bool
  | .noop _ => true
  | _ => false

namespace LoopPc

variable {β : Type}

/-- The thread is in `send_command_succ` for the `noop`. -/
def inNoop : LoopPc β → Bool
  | .send reader | .receive reader | .lookup reader _ | .call reader _ => reader.isNoop
  | _ => false

/-- The `noop` is still to be sent. -/
def due : LoopPc β → ℕ
  | .send (.noop _) => 1
  | _ => 0

/-- The loop was left. -/
def ended : LoopPc β → Bool
  | .unrefQueue | .destroyClients | .freeMutex | .returned => true
  | _ => false

end LoopPc

/-- **What can happen** to the service thread. -/
inductive ServingAct (β : Type) where
  /-- It takes a step, with `g_exit` as it is then. -/
  | thread (gExit : Bool) (input : LoopInput)
  /-- Another thread changes the tables of the clients. -/
  | tables (svc : ServiceThread β)

/-- What is noted of a run. -/
structure NoopLog where
  /-- How often there was no command in the queue. -/
  idle : ℕ
  /-- For every `noop` that was handed to `sock_send_string`, how often that had been then. -/
  noops : List ℕ
  deriving DecidableEq, Repr

namespace ServiceLoop

variable {β : Type}

/-- A step of the service thread, or of another one. -/
def servingStep (s : ServiceLoop β) : ServingAct β → Option (ServiceLoop β)
  | .thread gExit input => s.step gExit input
  | .tables svc => some { s with svc := svc }

/-- What is noted of a step. -/
def noteNoop (s : ServiceLoop β) (act : ServingAct β) (log : NoopLog) : NoopLog :=
  match act with
  | .thread _ (.popped none) => { log with idle := log.idle + 1 }
  | .thread _ (.sent _) =>
    match s.pc with
    | .send (.noop _) => { log with noops := log.noops ++ [log.idle] }
    | _ => log
  | _ => log

/-- The service thread, with what is noted. -/
def servingSystem : StepSystem (ServiceLoop β × NoopLog) (ServingAct β) :=
  StepSystem.history ⟨init, servingStep⟩ noteNoop ⟨0, []⟩

/-- **What the counter is** between two steps. -/
structure Counted (s : ServiceLoop β) (log : NoopLog) : Prop where
  /-- The `noop`s so far. -/
  noops : log.noops = (List.range log.noops.length).map (fun k => 31 * (k + 1))
  /-- In the loop, what is left of the idle rounds behind the last of them. -/
  count : s.pc.ended = false → s.pc.inNoop = false →
    s.count ≤ 30 ∧ log.idle = 31 * log.noops.length + s.count
  /-- A `noop` belongs to the last of the idle rounds. -/
  inNoop : s.pc.inNoop = true →
    s.count = 31 ∧ log.idle = 31 * (log.noops.length + s.pc.due)
  /-- After the loop. -/
  ended : s.pc.ended = true → log.noops.length = log.idle / 31

/-- There are as many `noop`s as there are whole groups of 31 idle rounds. -/
theorem Counted.length_noops {s : ServiceLoop β} {log : NoopLog} (h : Counted s log) :
    log.noops.length + s.pc.due = log.idle / 31 := by
  have hdue : s.pc.inNoop = false → s.pc.due = 0 := by
    intro hnoop
    cases hpc : s.pc with
    | send reader =>
      rw [hpc] at hnoop
      cases reader with
      | noop loopcount => exact absurd hnoop.symm Bool.false_ne_true
      | command | input | net => rfl
    | _ => rfl
  cases hnoop : s.pc.inNoop with
  | true =>
    have hcount := (h.inNoop hnoop).2
    omega
  | false =>
    rw [hdue hnoop]
    cases hended : s.pc.ended with
    | true => exact h.ended hended
    | false =>
      have hcount := h.count hended hnoop
      omega

/-- A step that goes on inside of the loop, in or out of the `noop` as before. -/
theorem Counted.of_eq {s s' : ServiceLoop β} {log : NoopLog} (h : Counted s log)
    (hcount : s'.count = s.count) (hnoop : s'.pc.inNoop = s.pc.inNoop)
    (hdue : s'.pc.due = s.pc.due) (hended : s'.pc.ended = s.pc.ended) : Counted s' log := by
  refine ⟨h.noops, ?_, ?_, ?_⟩
  · rw [hcount, hnoop, hended]
    exact h.count
  · rw [hcount, hnoop, hdue]
    exact h.inNoop
  · rw [hended]
    exact h.ended

/-- The function that reads has returned. -/
theorem Counted.returns {s : ServiceLoop β} {log : NoopLog} (h : Counted s log)
    (hended : s.pc.ended = false) (hdue : s.pc.due = 0) {reader : Reader}
    (hnoop : s.pc.inNoop = reader.isNoop) (ok : Bool) : Counted (s.returns ok reader) log := by
  have hidle := h.length_noops
  rw [hdue] at hidle
  cases reader with
  | command loopcount =>
    exact ⟨h.noops, fun _ _ => h.count hended hnoop, fun hin => absurd hin Bool.false_ne_true,
      fun hend => absurd hend Bool.false_ne_true⟩
  | net =>
    exact ⟨h.noops, fun _ _ => h.count hended hnoop, fun hin => absurd hin Bool.false_ne_true,
      fun hend => absurd hend Bool.false_ne_true⟩
  | noop loopcount =>
    cases ok with
    | false =>
      exact ⟨h.noops, fun hend => absurd hend.symm Bool.false_ne_true,
        fun hin => absurd hin Bool.false_ne_true, fun _ => hidle⟩
    | true =>
      -- the only place where the counter goes back
      obtain ⟨-, hcount⟩ := h.inNoop hnoop
      rw [hdue, Nat.add_zero] at hcount
      exact ⟨h.noops, fun _ _ => ⟨Nat.zero_le _, hcount⟩,
        fun hin => absurd hin Bool.false_ne_true, fun hend => absurd hend Bool.false_ne_true⟩
  | input =>
    cases ok with
    | false =>
      exact ⟨h.noops, fun hend => absurd hend.symm Bool.false_ne_true,
        fun hin => absurd hin Bool.false_ne_true, fun _ => hidle⟩
    | true =>
      exact ⟨h.noops, fun _ _ => h.count hended hnoop,
        fun hin => absurd hin Bool.false_ne_true, fun hend => absurd hend Bool.false_ne_true⟩

/-- The function that reads goes on, or has polled ten times. -/
theorem Counted.continues {s : ServiceLoop β} {log : NoopLog} (h : Counted s log)
    (hended : s.pc.ended = false) (hdue : s.pc.due = 0) {reader : Reader}
    (hnoop : s.pc.inNoop = reader.isNoop) : Counted (s.continues reader) log := by
  cases reader with
  | command loopcount =>
    unfold ServiceLoop.continues
    dsimp only
    split
    · exact h.of_eq rfl hnoop.symm hdue.symm hended.symm
    · exact h.returns hended hdue hnoop true
  | noop loopcount =>
    unfold ServiceLoop.continues
    dsimp only
    split
    · exact h.of_eq rfl hnoop.symm hdue.symm hended.symm
    · exact h.returns hended hdue hnoop true
  | input => exact h.of_eq rfl hnoop.symm hdue.symm hended.symm
  | net => exact h.returns hended hdue hnoop true

/-- What was received. -/
theorem Counted.receives {s s' : ServiceLoop β} {log : NoopLog} (h : Counted s log)
    {reader : Reader} (hpc : s.pc = .receive reader) {received : Received}
    (hstep : s.receives reader received = some s') : Counted s' log := by
  have hended : s.pc.ended = false := by rw [hpc]; rfl
  have hdue : s.pc.due = 0 := by rw [hpc]; rfl
  have hnoop : s.pc.inNoop = reader.isNoop := by rw [hpc]; rfl
  cases received with
  | failed =>
    cases reader <;> cases hstep <;> exact h.returns hended hdue hnoop _
  | nothing =>
    cases reader <;> cases hstep <;>
      first | exact h.returns hended hdue hnoop _ | exact h.continues hended hdue hnoop
  | line string =>
    unfold ServiceLoop.receives at hstep
    dsimp only at hstep
    split at hstep
    · exact absurd hstep (by simp)
    · next response svc dispatch hdispatch =>
      obtain rfl := Option.some.inj hstep
      exact h.of_eq rfl hnoop.symm hdue.symm hended.symm
    · next response svc hdispatch =>
      obtain rfl := Option.some.inj hstep
      have htables : Counted { s with svc := svc } log := h.of_eq rfl rfl rfl rfl
      cases response with
      | callback => exact htables.continues hended hdue hnoop
      | success | failure | invalid | errMisc => exact htables.returns hended hdue hnoop _

/-- **A string was handed to `sock_send_string`**, which is noted of a `noop`. -/
theorem Counted.sent {s : ServiceLoop β} {log : NoopLog} (h : Counted s log) {reader : Reader}
    (hpc : s.pc = .send reader) (gExit ok : Bool) :
    Counted { s with pc := .receive reader } (noteNoop s (.thread gExit (.sent ok)) log) := by
  have hended : s.pc.ended = false := by rw [hpc]; rfl
  have hnoop : s.pc.inNoop = reader.isNoop := by rw [hpc]; rfl
  cases reader with
  | command loopcount | input | net =>
    have hlog : noteNoop s (.thread gExit (.sent ok)) log = log := by
      unfold noteNoop
      dsimp only
      rw [hpc]
    rw [hlog]
    exact h.of_eq rfl hnoop.symm (by rw [hpc]; rfl) hended.symm
  | noop loopcount =>
    have hlog : noteNoop s (.thread gExit (.sent ok)) log
        = { log with noops := log.noops ++ [log.idle] } := by
      unfold noteNoop
      dsimp only
      rw [hpc]
    obtain ⟨hcount, hidle⟩ := h.inNoop hnoop
    have hdue : s.pc.due = 1 := by rw [hpc]; rfl
    rw [hdue] at hidle
    rw [hlog]
    refine ⟨?_, fun _ hin => absurd hin.symm Bool.false_ne_true, fun _ => ⟨hcount, ?_⟩,
      fun hend => absurd hend Bool.false_ne_true⟩
    · show log.noops ++ [log.idle] = (List.range (log.noops ++ [log.idle]).length).map _
      rw [List.length_append, List.length_singleton, List.range_succ, List.map_append, ← h.noops,
        hidle]
      rfl
    · show log.idle = 31 * ((log.noops ++ [log.idle]).length + 0)
      rw [List.length_append]
      exact hidle

/-- **Every step keeps the count.** -/
theorem Counted.step {s s' : ServiceLoop β} {log : NoopLog} (h : Counted s log)
    {act : ServingAct β} (hstep : s.servingStep act = some s') :
    Counted s' (noteNoop s act log) := by
  cases act with
  | tables svc =>
    obtain rfl := Option.some.inj hstep
    exact h.of_eq rfl rfl rfl rfl
  | thread gExit input =>
    cases taken_of_step hstep with
    | test hpc =>
      have hidle := h.length_noops
      rw [hpc] at hidle
      cases gExit with
      | false => exact h.of_eq rfl (by rw [hpc]; rfl) (by rw [hpc]; rfl) (by rw [hpc]; rfl)
      | true =>
        exact ⟨h.noops, fun hend => absurd hend.symm Bool.false_ne_true,
          fun hin => absurd hin Bool.false_ne_true, fun _ => hidle⟩
    | lookup hpc => exact h.of_eq rfl (by rw [hpc]; rfl) (by rw [hpc]; rfl) (by rw [hpc]; rfl)
    | call hpc => exact h.continues (by rw [hpc]; rfl) (by rw [hpc]; rfl) (by rw [hpc]; rfl)
    | unrefQueue hpc | destroyClients hpc | freeMutex hpc =>
      exact h.of_eq rfl (by rw [hpc]; rfl) (by rw [hpc]; rfl) (by rw [hpc]; rfl)
    | popped hpc => exact h.of_eq rfl (by rw [hpc]; rfl) (by rw [hpc]; rfl) (by rw [hpc]; rfl)
    | idle hpc =>
      obtain ⟨hle, hidle⟩ := h.count (by rw [hpc]; rfl) (by rw [hpc]; rfl)
      by_cases hthirty : s.count = 30
      · rw [if_pos hthirty]
        refine ⟨h.noops, fun _ hin => absurd hin.symm Bool.false_ne_true, fun _ => ⟨?_, ?_⟩,
          fun hend => absurd hend Bool.false_ne_true⟩
        · show s.count + 1 = 31
          rw [hthirty]
        · show log.idle + 1 = 31 * (log.noops.length + 1)
          omega
      · rw [if_neg hthirty]
        refine ⟨h.noops, fun _ _ => ⟨?_, ?_⟩, fun hin => absurd hin Bool.false_ne_true,
          fun hend => absurd hend Bool.false_ne_true⟩
        · show s.count + 1 ≤ 30
          omega
        · show log.idle + 1 = 31 * log.noops.length + (s.count + 1)
          omega
    | sent hpc => exact h.sent hpc gExit true
    | @unsent reader hpc =>
      have hreturns : s.returns false reader
          = ServiceLoop.returns { s with pc := .receive reader } false reader := by
        cases reader <;> rfl
      rw [hreturns]
      exact (h.sent hpc gExit false).returns rfl rfl rfl false
    | received hpc hreceives => exact h.receives hpc hreceives
    | quiet hpc => exact h.of_eq rfl (by rw [hpc]; rfl) (by rw [hpc]; rfl) (by rw [hpc]; rfl)
    | packet hpc hdispatch =>
      exact h.of_eq rfl (by rw [hpc]; rfl) (by rw [hpc]; rfl) (by rw [hpc]; rfl)

/-- **The server is asked at every 31st idle round**, and at no other: in every run the `noop`s were
sent when nothing had been in the queue 31 times, 62 times, 93 times and so on, and where none is
about to be sent there are as many of them as there are whole groups of 31 such rounds. The counter
never passes 31. -/
theorem noops_of_reachable {s : ServiceLoop β} {log : NoopLog}
    (h : servingSystem.Reachable (s, log)) :
    log.noops = (List.range log.noops.length).map (fun k => 31 * (k + 1))
      ∧ log.noops.length + s.pc.due = log.idle / 31
      ∧ (s.pc.ended = false → s.count ≤ 31) := by
  have hcounted : Counted s log := by
    refine h.invariant (fun p => Counted p.1 p.2) ?_ (fun p act p' hp _ hstep => ?_)
    · exact ⟨rfl, fun _ _ => ⟨Nat.zero_le _, rfl⟩, fun hin => absurd hin Bool.false_ne_true,
        fun hend => absurd hend Bool.false_ne_true⟩
    · obtain ⟨t, ht, rfl⟩ := StepSystem.of_history_step hstep
      exact hp.step ht
  refine ⟨hcounted.noops, hcounted.length_noops, fun hended => ?_⟩
  · cases hnoop : s.pc.inNoop with
    | true => exact Nat.le_of_eq (hcounted.inNoop hnoop).1
    | false => exact Nat.le_succ_of_le (hcounted.count hended hnoop).1

/-- The queue is empty 32 times, and the server answers the `noop`. -/
theorem noops_of_reachable_one :
    ∃ (s : ServiceLoop Unit) (log : NoopLog), log.idle = 32 ∧ log.noops = [31]
      ∧ log.noops.length + s.pc.due = log.idle / 31 := by
  let round (answer : List LoopInput) : List (ServingAct Unit) :=
    ((LoopInput.go :: .popped none :: answer) ++ [LoopInput.packet none]).map (.thread false)
  let run := servingSystem.replayAny (init, ⟨0, []⟩)
    ((List.replicate 30 (round [.received .nothing])).flatten
      ++ round [.sent true, .received (.line "noop".toList)] ++ round [.received .nothing])
  have hrun : run.map (fun p => decide (p.2.idle = 32 ∧ p.2.noops = [31])) = some true := by
    decide +kernel
  obtain ⟨⟨s, log⟩, hs, hend⟩ := StepSystem.exists_reachableBy_of_replay hrun
  obtain ⟨hidle, hnoops⟩ := of_decide_eq_true hend
  exact ⟨s, log, hidle, hnoops, (noops_of_reachable hs).2.1⟩

end ServiceLoop
