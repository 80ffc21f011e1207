import LcdStuff.ServiceLoop
import LcdStuff.StepSystem

/-!
# Commands on their way to the server

The threads of the modules put commands into a queue, and the service thread
takes one after the other out of it and writes it to the socket of the server.
A `write` may take a part of what it is given or nothing at all, and then
`sock_send` goes on with the rest; what the server answers is read before the
next command is taken, and when there is no command the service thread writes a
`noop` of its own now and then.

The queue is kept as all that was ever pushed, and the number of what was taken
out of it, so that nothing has to be said of the queue but that it is first in,
first out. In every run, what was written at the end of a round of the loop is
made of whole commands, those of the queue in its order
(`Sending.whole_of_reachable`).
-/

/-- **What the service thread sends**: a command of the queue, with the thread that
has pushed it, or its own `noop`. -/
inductive Sent (ι : Type) where
  /-- A command of the queue. -/
  | queued (i : ι) (command : Str)
  /-- `noop\n` -/
  | noop
  deriving DecidableEq, Repr

namespace Sent

variable {ι : Type}

/-- The bytes of it. -/
def text : Sent ι → Str
  | queued _ command => command
  | noop => "noop\n".toList

/-- What comes from the queue, with the thread that has pushed it. -/
def command : Sent ι → Option (ι × Str)
  | queued i command => some (i, command)
  | noop => none

end Sent

/-- **The program as it sends**, with any threads that push commands. A thread is
that of a module, or the service thread within the callback of one. -/
structure Sending (ι β : Type) where
  /-- The service thread. -/
  loop : ServiceLoop β
  /-- The command with which a thread is in `service_thread_command`, behind the
  test of `g_exit`. -/
  calling : ι → Option Str
  /-- The commands that a thread has issued, in its order. -/
  issued : ι → List Str
  /-- What was pushed, in the order of the queue. -/
  pushed : List (ι × Str)
  /-- How many commands were taken out of the queue. -/
  taken : ℕ
  /-- What `sock_send` is sending: the string and `offset`. -/
  out : Option (Str × ℕ)
  /-- What was written to the socket. -/
  written : Str

/-- **What can happen next.** -/
inductive SendingAct (ι β : Type) where
  /-- A thread calls `service_thread_command`. -/
  | issue (i : ι) (command : Str)
  /-- `g_async_queue_push` -/
  | push (i : ι)
  /-- A module registers or unregisters: the tables are others. -/
  | tables (svc : ServiceThread β)
  /-- `g_async_queue_timed_pop` -/
  | pop
  /-- `write` takes a number of bytes. -/
  | write (count : ℕ)
  /-- `write` fails with `EAGAIN`. -/
  | again
  /-- `sock_send` returns. -/
  | sendReturns
  /-- The service thread takes another step. -/
  | loop (input : LoopInput)

namespace Sending

variable {ι β : Type} [DecidableEq ι]

/-- A command is taken out of the queue, or there is none; then the `noop` is sent
if it is time for it. -/
def pop (s : Sending ι β) : Option (Sending ι β) :=
  match s.pushed[s.taken]? with
  | some (_, command) => (s.loop.step false (.popped (some command))).map (fun loop =>
      { s with loop := loop, taken := s.taken + 1, out := some (command, 0) })
  | none => (s.loop.step false (.popped none)).map (fun loop =>
      { s with
        loop := loop
        out := match loop.pc with
          | .send _ => some ("noop\n".toList, 0)
          | _ => none })

/-- A `write` of `sock_send` that takes some of what is left, which is at most
`0x7ffff000` bytes. The offset is an `unsigned int`. -/
def write (s : Sending ι β) (count : ℕ) : Option (Sending ι β) :=
  match s.out with
  | none => none
  | some (string, offset) =>
    if offset ≠ string.length ∧ 0 < count ∧ count ≤ string.length - offset
        ∧ count ≤ 0x7ffff000 then
      some { s with
        written := s.written ++ (string.drop offset).take count
        out := some (string, (offset + count) % 2 ^ 32) }
    else none

/-- `sock_send` returns the offset as an `int`. -/
def sendReturns (s : Sending ι β) : Option (Sending ι β) :=
  match s.out with
  | none => none
  | some (string, offset) =>
    if offset = string.length then
      (s.loop.step false (.sent (decide (offset < 2 ^ 31)))).map (fun loop =>
        { s with loop := loop, out := none })
    else none

/-- **A step**, while `g_exit` is not set. -/
def step (s : Sending ι β) : SendingAct ι β → Option (Sending ι β)
  | .issue i command =>
    match s.calling i with
    | some _ => none
    | none => some { s with
        calling := Function.update s.calling i (some command)
        issued := Function.update s.issued i (s.issued i ++ [command]) }
  | .push i =>
    match s.calling i with
    | none => none
    | some command => some { s with
        calling := Function.update s.calling i none
        pushed := s.pushed ++ [(i, command)] }
  | .tables svc => some { s with loop := { s.loop with svc := svc } }
  | .pop => s.pop
  | .write count => s.write count
  | .again =>
    match s.out with
    | none => none
    | some (string, offset) => if offset ≠ string.length then some s else none
  | .sendReturns => s.sendReturns
  | .loop (.popped _) => none
  | .loop (.sent _) => none
  | .loop input => (s.loop.step false input).map (fun loop => { s with loop := loop })

/-- Nothing was issued yet. -/
def init : Sending ι β := ⟨.init, fun _ => none, fun _ => [], [], 0, none, []⟩

variable (ι β) in
/-- The program while `g_exit` is not set. -/
def system : StepSystem (Sending ι β) (SendingAct ι β) := ⟨init, step⟩

/-- The commands of a thread among those that were pushed. -/
def commandsOf (i : ι) (pushed : List (ι × Str)) : List Str :=
  (pushed.filter (fun p => decide (p.1 = i))).map Prod.snd

end Sending

/-! ## Where the service thread sends -/

/-- The service thread is in `sock_send`. -/
def LoopPc.sends {β : Type} : LoopPc β → Bool
  | .send _ => true
  | _ => false

namespace ServiceLoop

variable {β : Type}

/-- Only `sock_send` returns to where the service thread sends. -/
theorem sends_eq_false_of_step {gExit : Bool} {s s' : ServiceLoop β} {input : LoopInput}
    (h : s.step gExit input = some s') (hinput : ∀ ok, input ≠ .sent ok) :
    s.pc.sends = false := by
  cases taken_of_step h with
  | sent | unsent => exact absurd rfl (hinput _)
  | test hpc | lookup hpc | call hpc | unrefQueue hpc | destroyClients hpc | freeMutex hpc
  | popped hpc | idle hpc | received hpc | quiet hpc | packet hpc =>
    rw [hpc]
    rfl

end ServiceLoop

/-! ## What was written -/

namespace Sending

variable {ι β : Type}

/-- **What was written, and of what**: of whole commands, those of the queue in its
order, and within `sock_send` of a part of the last one. A string of 4 GiB or more
would never be sent to its end. -/
def Wrote (s : Sending ι β) : Prop :=
  match s.out with
  | none => ∃ sent : List (Sent ι), s.written = sent.flatMap Sent.text
      ∧ sent.filterMap Sent.command = s.pushed.take s.taken
  | some (string, offset) => offset < 2 ^ 32 ∧ ∃ (sent : List (Sent ι)) (last : Sent ι),
      last.text = string ∧ (sent ++ [last]).filterMap Sent.command = s.pushed.take s.taken
        ∧ (string.length < 2 ^ 32 → offset ≤ string.length
          ∧ s.written = sent.flatMap Sent.text ++ string.take offset)

variable [DecidableEq ι]

/-- **What holds of the program while it sends.** -/
structure Orderly (s : Sending ι β) : Prop where
  /-- The service thread has something to send only in `sock_send`. -/
  sends : s.loop.pc.sends = false → s.out = none
  /-- What a thread has issued it has pushed, but for what it is about to push. -/
  issued : ∀ i, s.issued i = commandsOf i s.pushed ++ (s.calling i).toList
  /-- Only what was pushed is taken. -/
  taken_le : s.taken ≤ s.pushed.length
  /-- What was written. -/
  wrote : s.Wrote

theorem commandsOf_append (i : ι) (pushed pushed' : List (ι × Str)) :
    commandsOf i (pushed ++ pushed') = commandsOf i pushed ++ commandsOf i pushed' := by
  unfold commandsOf
  rw [List.filter_append, List.map_append]

variable {s s' : Sending ι β}

/-- What is not pushed, sent or written does not matter. -/
theorem Orderly.of_loop (h : s.Orderly) {loop : ServiceLoop β}
    (hsends : loop.pc.sends = false → s.out = none) : Orderly { s with loop := loop } :=
  ⟨hsends, h.issued, h.taken_le, h.wrote⟩

/-- Where the service thread goes on and not from `sock_send`, all that was taken was
written. -/
theorem Orderly.wrote_of_step (h : s.Orderly) {input : LoopInput} {loop : ServiceLoop β}
    (hloop : s.loop.step false input = some loop) (hinput : ∀ ok, input ≠ .sent ok) :
    ∃ sent : List (Sent ι), s.written = sent.flatMap Sent.text
      ∧ sent.filterMap Sent.command = s.pushed.take s.taken := by
  have hwrote := h.wrote
  unfold Wrote at hwrote
  rw [h.sends (ServiceLoop.sends_eq_false_of_step hloop hinput)] at hwrote
  exact hwrote

/-- **The steps there are**, each with what it finds and what it leaves. -/
inductive Taken (s : Sending ι β) : SendingAct ι β → Sending ι β → Prop
  /-- A thread is about to push a command. -/
  | issue {i : ι} {command : Str} : s.calling i = none →
      Taken s (.issue i command) { s with
        calling := Function.update s.calling i (some command)
        issued := Function.update s.issued i (s.issued i ++ [command]) }
  /-- A thread has pushed its command. -/
  | push {i : ι} {command : Str} : s.calling i = some command →
      Taken s (.push i) { s with
        calling := Function.update s.calling i none
        pushed := s.pushed ++ [(i, command)] }
  /-- The tables are others. -/
  | tables {svc : ServiceThread β} :
      Taken s (.tables svc) { s with loop := { s.loop with svc := svc } }
  /-- A command is taken out of the queue. -/
  | popped {i : ι} {command : Str} {loop : ServiceLoop β} :
      s.pushed[s.taken]? = some (i, command) →
      s.loop.step false (.popped (some command)) = some loop →
      Taken s .pop { s with loop := loop, taken := s.taken + 1, out := some (command, 0) }
  /-- There is none, and it is time for a `noop`. -/
  | alive {reader : Reader} {loop : ServiceLoop β} :
      s.loop.step false (.popped none) = some loop → loop.pc = .send reader →
      Taken s .pop { s with loop := loop, out := some ("noop\n".toList, 0) }
  /-- There is none. -/
  | idle {loop : ServiceLoop β} : s.loop.step false (.popped none) = some loop →
      Taken s .pop { s with loop := loop, out := none }
  /-- A part of the string is written. -/
  | write {count : ℕ} {string : Str} {offset : ℕ} : s.out = some (string, offset) →
      count ≤ string.length - offset →
      Taken s (.write count) { s with
        written := s.written ++ (string.drop offset).take count
        out := some (string, (offset + count) % 2 ^ 32) }
  /-- Nothing is written. -/
  | again : Taken s .again s
  /-- The string is written to its end. -/
  | sendReturns {string : Str} {loop : ServiceLoop β} :
      s.out = some (string, string.length) →
      Taken s .sendReturns { s with loop := loop, out := none }
  /-- The service thread goes on elsewhere. -/
  | loop {input : LoopInput} {loop : ServiceLoop β} : (∀ ok, input ≠ .sent ok) →
      s.loop.step false input = some loop → Taken s (.loop input) { s with loop := loop }

/-- **The inversion of a step.** -/
theorem taken_of_step {a : SendingAct ι β} (h : s.step a = some s') : s.Taken a s' := by
  cases a with
  | issue i command =>
    unfold Sending.step at h
    dsimp only at h
    split at h
    · exact absurd h nofun
    · next hcalling => exact Option.some.inj h ▸ .issue hcalling
  | push i =>
    unfold Sending.step at h
    dsimp only at h
    split at h
    · exact absurd h nofun
    · next command hcalling => exact Option.some.inj h ▸ .push hcalling
  | tables svc => exact Option.some.inj h ▸ .tables
  | pop =>
    replace h : s.pop = some s' := h
    unfold Sending.pop at h
    split at h
    · next i command hhead =>
      obtain ⟨loop, hloop, rfl⟩ := Option.map_eq_some_iff.mp h
      exact .popped hhead hloop
    · obtain ⟨loop, hloop, rfl⟩ := Option.map_eq_some_iff.mp h
      split
      · next reader hpc => exact .alive hloop hpc
      · exact .idle hloop
  | write count =>
    replace h : s.write count = some s' := h
    unfold Sending.write at h
    split at h
    · exact absurd h nofun
    · next string offset hout =>
      split at h
      · next hcount => exact Option.some.inj h ▸ .write hout hcount.2.2.1
      · exact absurd h nofun
  | again =>
    unfold Sending.step at h
    dsimp only at h
    split at h
    · exact absurd h nofun
    · split at h
      · exact Option.some.inj h ▸ .again
      · exact absurd h nofun
  | sendReturns =>
    replace h : s.sendReturns = some s' := h
    unfold Sending.sendReturns at h
    split at h
    · exact absurd h nofun
    · next string offset hout =>
      split at h
      · next hend =>
        obtain ⟨loop, -, rfl⟩ := Option.map_eq_some_iff.mp h
        exact .sendReturns (hend ▸ hout)
      · exact absurd h nofun
  | loop input =>
    cases input with
    | popped | sent => exact absurd h nofun
    | go | received | packet =>
      obtain ⟨loop, hloop, rfl⟩ := Option.map_eq_some_iff.mp h
      exact .loop nofun hloop

/-- A thread that calls `service_thread_command` has issued the command. -/
theorem Orderly.issue (h : s.Orderly) {i : ι} (hcalling : s.calling i = none) (command : Str) :
    Orderly { s with
      calling := Function.update s.calling i (some command)
      issued := Function.update s.issued i (s.issued i ++ [command]) } := by
  refine ⟨h.sends, fun j => ?_, h.taken_le, h.wrote⟩
  show Function.update s.issued i _ j = _ ++ (Function.update s.calling i _ j).toList
  by_cases hj : j = i
  · subst hj
    rw [Function.update_self, Function.update_self, h.issued, hcalling, List.append_assoc]
    rfl
  · rw [Function.update_of_ne hj, Function.update_of_ne hj]
    exact h.issued j

/-- A thread that pushes what it was about to push. -/
theorem Orderly.push (h : s.Orderly) {i : ι} {command : Str}
    (hcalling : s.calling i = some command) :
    Orderly { s with
      calling := Function.update s.calling i none
      pushed := s.pushed ++ [(i, command)] } := by
  have htake : (s.pushed ++ [(i, command)]).take s.taken = s.pushed.take s.taken :=
    List.take_append_of_le_length h.taken_le
  refine ⟨h.sends, fun j => ?_, ?_, ?_⟩
  · show s.issued j = commandsOf j _ ++ (Function.update s.calling i none j).toList
    rw [commandsOf_append]
    by_cases hj : j = i
    · subst hj
      have hself : commandsOf j [(j, command)] = [command] := by
        simp [commandsOf]
      rw [Function.update_self, hself, h.issued, hcalling, Option.toList_none, List.append_nil]
      rfl
    · have hother : commandsOf j [(i, command)] = [] := by
        simp [commandsOf, Ne.symm hj]
      rw [Function.update_of_ne hj, hother, List.append_nil]
      exact h.issued j
  · show s.taken ≤ (s.pushed ++ [(i, command)]).length
    rw [List.length_append]
    exact Nat.le_add_right_of_le h.taken_le
  · have hwrote := h.wrote
    unfold Wrote at hwrote ⊢
    dsimp only
    rw [htake]
    exact hwrote

/-- **A command is taken out of the queue**, when all that was taken before was
written. -/
theorem Orderly.popped (h : s.Orderly) {i : ι} {command : Str} {loop : ServiceLoop β}
    (hhead : s.pushed[s.taken]? = some (i, command))
    (hloop : s.loop.step false (.popped (some command)) = some loop) :
    Orderly { s with loop := loop, taken := s.taken + 1, out := some (command, 0) } := by
  have hlt := (List.getElem?_eq_some_iff.mp hhead).1
  refine ⟨fun hsends => ?_, h.issued, hlt, ?_⟩
  · cases ServiceLoop.taken_of_step hloop
    exact absurd hsends nofun
  · obtain ⟨sent, hwritten, hsent⟩ := h.wrote_of_step hloop nofun
    refine ⟨by decide, sent, .queued i command, rfl, ?_, fun _ => ⟨Nat.zero_le _, ?_⟩⟩
    · rw [List.filterMap_append, hsent, List.take_add_one, hhead]
      rfl
    · rw [List.take_zero, List.append_nil]
      exact hwritten

/-- **The service thread's own `noop`** is no command of the queue. -/
theorem Orderly.alive (h : s.Orderly) {reader : Reader} {loop : ServiceLoop β}
    (hloop : s.loop.step false (.popped none) = some loop) (hpc : loop.pc = .send reader) :
    Orderly { s with loop := loop, out := some ("noop\n".toList, 0) } := by
  refine ⟨fun hsends => ?_, h.issued, h.taken_le, ?_⟩
  · have hsends : loop.pc.sends = false := hsends
    rw [hpc] at hsends
    exact absurd hsends nofun
  · obtain ⟨sent, hwritten, hsent⟩ := h.wrote_of_step hloop nofun
    refine ⟨by decide, sent, .noop, rfl, ?_, fun _ => ⟨Nat.zero_le _, ?_⟩⟩
    · rw [List.filterMap_append, hsent]
      exact List.append_nil _
    · rw [List.take_zero, List.append_nil]
      exact hwritten

/-- **A `write` goes on where the last one has ended.** -/
theorem Orderly.write (h : s.Orderly) {count : ℕ} {string : Str} {offset : ℕ}
    (hout : s.out = some (string, offset)) (hle : count ≤ string.length - offset) :
    Orderly { s with
      written := s.written ++ (string.drop offset).take count
      out := some (string, (offset + count) % 2 ^ 32) } := by
  refine ⟨fun hsends => ?_, h.issued, h.taken_le, ?_⟩
  · exact absurd ((h.sends hsends).symm.trans hout) nofun
  · have hwrote := h.wrote
    unfold Wrote at hwrote ⊢
    rw [hout] at hwrote
    obtain ⟨-, sent, last, hlast, hsent, hwritten⟩ := hwrote
    refine ⟨Nat.mod_lt _ (by decide), sent, last, hlast, hsent, fun hlen => ?_⟩
    obtain ⟨hoffset, hwritten⟩ := hwritten hlen
    rw [Nat.mod_eq_of_lt (by omega)]
    refine ⟨by omega, ?_⟩
    show s.written ++ _ = _
    rw [hwritten, List.append_assoc, ← List.take_add]

/-- **When `sock_send` returns, the command is whole.** -/
theorem Orderly.sendReturns (h : s.Orderly) {string : Str}
    (hout : s.out = some (string, string.length)) (loop : ServiceLoop β) :
    Orderly { s with loop := loop, out := none } := by
  refine ⟨fun _ => rfl, h.issued, h.taken_le, ?_⟩
  have hwrote := h.wrote
  unfold Wrote at hwrote ⊢
  rw [hout] at hwrote
  obtain ⟨hlt, sent, last, hlast, hsent, hwritten⟩ := hwrote
  obtain ⟨-, hwritten⟩ := hwritten hlt
  refine ⟨sent ++ [last], ?_, hsent⟩
  show s.written = _
  rw [hwritten, List.take_length, List.flatMap_append, List.flatMap_singleton, hlast]

/-- **Every step keeps the program orderly.** -/
theorem Orderly.step (h : s.Orderly) {a : SendingAct ι β} (hstep : s.step a = some s') :
    s'.Orderly := by
  cases taken_of_step hstep with
  | issue hcalling => exact h.issue hcalling _
  | push hcalling => exact h.push hcalling
  | tables => exact h.of_loop h.sends
  | popped hhead hloop => exact h.popped hhead hloop
  | alive hloop hpc => exact h.alive hloop hpc
  | idle hloop =>
    exact ⟨fun _ => rfl, h.issued, h.taken_le, h.wrote_of_step hloop nofun⟩
  | write hout hle => exact h.write hout hle
  | again => exact h
  | sendReturns hout => exact h.sendReturns hout _
  | loop hinput hloop =>
    exact h.of_loop (fun _ => h.sends (ServiceLoop.sends_eq_false_of_step hloop hinput))

theorem orderly_of_reachable (h : (system ι β).Reachable s) : s.Orderly := by
  refine h.invariant Orderly ?_ (fun s a s' hs _ hstep => hs.step hstep)
  exact ⟨fun _ => rfl, fun _ => rfl, Nat.le_refl 0, [], rfl, rfl⟩

/-- A step adds to the end of the queue or leaves it as it is. -/
theorem pushed_of_step {a : SendingAct ι β} (hstep : s.step a = some s') :
    s.pushed <+: s'.pushed := by
  cases taken_of_step hstep with
  | push => exact List.prefix_append _ _
  | issue | tables | popped | alive | idle | write | again | sendReturns | loop =>
    exact List.prefix_rfl

/-- **What was pushed is in front of all that is pushed later.** -/
theorem pushed_of_reachable {s₀ : Sending ι β} (h : ((system ι β).after s₀).Reachable s) :
    s₀.pushed <+: s.pushed :=
  h.invariant (fun s => s₀.pushed <+: s.pushed) List.prefix_rfl
    (fun _ _ _ hs _ hstep => hs.trans (pushed_of_step hstep))

/-- **Whole commands, once and in order**: at the end of every round of the service
thread's loop, what was written is made of whole commands and `noop`s, the commands
are those taken out of the queue in the order of the queue, and those of each thread
are the first that the thread has issued, in its order. What was pushed at any time
before is in front of what was issued after it, so that two threads that issue
commands of one module, one after the other, keep their order as well. -/
theorem whole_of_reachable {s₀ : Sending ι β} (h₀ : (system ι β).Reachable s₀)
    (h : ((system ι β).after s₀).Reachable s) (hround : s.loop.pc = .test) :
    (∃ sent : List (Sent ι), s.written = sent.flatMap Sent.text
      ∧ sent.filterMap Sent.command = s.pushed.take s.taken)
    ∧ (∀ i, commandsOf i (s.pushed.take s.taken) <+: s.issued i)
    ∧ s₀.pushed <+: s.pushed := by
  have horderly := orderly_of_reachable (h₀.trans h)
  have hnone : s.out = none := horderly.sends (by rw [hround]; rfl)
  have hwrote := horderly.wrote
  unfold Wrote at hwrote
  rw [hnone] at hwrote
  refine ⟨hwrote, fun i => ?_, pushed_of_reachable h⟩
  have hprefix : commandsOf i (s.pushed.take s.taken) <+: commandsOf i s.pushed :=
    ⟨commandsOf i (s.pushed.drop s.taken), by rw [← commandsOf_append, List.take_append_drop]⟩
  exact hprefix.trans ⟨(s.calling i).toList, (horderly.issued i).symm⟩

/-- Two threads issue a command each, the one that is pushed last was issued first,
and the first `write` takes a part of it. -/
theorem whole_of_reachable_partial :
    ∃ s₀ s : Sending Bool ℕ, s₀.pushed = [(true, ['b', '\n'])]
      ∧ s.written = ['b', '\n'] ∧ s.loop.pc = .test
      ∧ (∃ sent : List (Sent Bool), s.written = sent.flatMap Sent.text
        ∧ sent.filterMap Sent.command = s.pushed.take s.taken)
      ∧ (∀ i, commandsOf i (s.pushed.take s.taken) <+: s.issued i)
      ∧ s₀.pushed <+: s.pushed := by
  let run₀ := (system Bool ℕ).replayAny init
    [.issue false ['a', '\n'], .issue true ['b', '\n'], .push true]
  have hrun₀ : run₀.map Sending.pushed = some [(true, ['b', '\n'])] := by rfl
  let run := run₀.bind (fun s₀ => ((system Bool ℕ).after s₀).replayAny s₀
    [.push false, .loop .go, .pop, .write 1, .again, .write 1, .sendReturns,
      .loop (.received (.line "success".toList)), .loop (.packet none)])
  have hrun : run.map (fun s => (s.written, s.loop.pc)) = some (['b', '\n'], .test) := by rfl
  obtain ⟨s, hs, heq⟩ := Option.map_eq_some_iff.mp hrun
  obtain ⟨hwritten, hround⟩ := Prod.mk.inj heq
  obtain ⟨s₀, hs₀, hafter⟩ := Option.bind_eq_some_iff.mp hs
  rw [hs₀] at hrun₀
  exact ⟨s₀, s, Option.some.inj hrun₀, hwritten, hround,
    whole_of_reachable (StepSystem.reachableBy_of_replay .init hs₀)
      (StepSystem.reachableBy_of_replay .init hafter) hround⟩

end Sending
