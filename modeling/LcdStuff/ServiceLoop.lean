import LcdStuff.Service

/-!
# The loop of the service thread

`service_thread_run` takes a command from the queue and sends it, or, when
there is none, reads what the LCDproc server has sent; every 31st time there is
none it sends a `noop` instead, to see if the server is still there. Answers
are read at two places: `send_command_succ` polls ten times for the answer to
the command it has sent, and `check_for_input` reads as long as there is
something to read.

The thread is a step function here: where it is (`LoopPc`), and what the next
system call or library call answers (`LoopInput`). So it can run beside the
modules, and against a server. What the queue and the connection to the remote
interface hold is not kept: a command or a packet that arrives is an input.

The loop has three ends: `g_exit` is seen, the `noop` failed, or the input is
in error. Behind each of them the queue, the table of the clients and the mutex
are released.
-/

/-- Who is to go on when a callback has returned, or a line was read. -/
inductive Reader where
  /-- `send_command_succ` with a command of the queue, and its `loopcount`. -/
  | command (loopcount : Nat)
  /-- `send_command_succ` with the `noop`, and its `loopcount`. -/
  | noop (loopcount : Nat)
  /-- `check_for_input` -/
  | input
  /-- `check_for_net_input` -/
  | net
  deriving DecidableEq, Repr

/-- **Where the service thread is** in `service_thread_run`. -/
inductive LoopPc (β : Type) where
  /-- `while (!g_exit)` -/
  | test
  /-- `g_async_queue_timed_pop` -/
  | pop
  /-- `sock_send_string` -/
  | send (reader : Reader)
  /-- `sock_recv_string` -/
  | receive (reader : Reader)
  /-- A callback was selected, and its cookie is to be looked up. -/
  | lookup (reader : Reader) (dispatch : Dispatch)
  /-- A callback is to be called. -/
  | call (reader : Reader) (callback : Callback β)
  /-- The end of the loop's body, where the remote interface is served. -/
  | net
  /-- `g_async_queue_unref` -/
  | unrefQueue
  /-- `g_hash_table_destroy` -/
  | destroyClients
  /-- `g_mutex_free` -/
  | freeMutex
  /-- `service_thread_run` has returned. -/
  | returned
  deriving DecidableEq, Repr

/-- No callback is under way, and nothing was released yet. -/
def LoopPc.quiet {β : Type} : LoopPc β → Bool
  | .test | .pop | .send _ | .receive _ | .net | .unrefQueue => true
  | _ => false

/-- The callback that was selected and not called yet, with what it is called
with. -/
def LoopPc.pending {β : Type} : LoopPc β → Option (Client × Event)
  | .lookup _ dispatch => some (dispatch.client, dispatch.event)
  | .call _ callback => some (callback.client, callback.event)
  | _ => none

/-- Where no callback is under way there is none that was selected. -/
theorem LoopPc.pending_of_quiet {β : Type} {pc : LoopPc β} (h : pc.quiet = true) :
    pc.pending = none := by
  cases pc with
  | lookup | call => exact absurd h Bool.false_ne_true
  | _ => rfl

/-- What `sock_recv_string` returns. -/
inductive Received where
  /-- `0` -/
  | nothing
  /-- The length of a string, which is in the buffer. -/
  | line (string : Str)
  /-- A negative number. -/
  | failed
  deriving DecidableEq, Repr

/-- **What decides a step** beside what the program knows. -/
inductive LoopInput where
  /-- Nothing. -/
  | go
  /-- What was popped from the queue, if anything. -/
  | popped (command : Option Str)
  /-- `sock_send_string` has sent the string, or it has failed. -/
  | sent (ok : Bool)
  /-- What `sock_recv_string` has returned. -/
  | received (received : Received)
  /-- What was read from the remote interface, if anything. -/
  | packet (buffer : Option Str)
  deriving DecidableEq, Repr

/-- The service thread. -/
structure ServiceLoop (β : Type) where
  /-- `struct service_thread` -/
  svc : ServiceThread β
  /-- `count` -/
  count : Nat
  /-- Where it is. -/
  pc : LoopPc β

namespace ServiceLoop

variable {β : Type}

/-- The function that reads has returned, in the way that is fine or with an
error. What comes of an error depends on what was read for. -/
def returns (s : ServiceLoop β) (ok : Bool) : Reader → ServiceLoop β
  | .command _ => { s with pc := .net }
  | .noop _ => if ok then { s with count := 0, pc := .net } else { s with pc := .unrefQueue }
  | .input => if ok then { s with pc := .net } else { s with pc := .unrefQueue }
  | .net => { s with pc := .test }

/-- The function that reads goes on reading, if it does. -/
def continues (s : ServiceLoop β) : Reader → ServiceLoop β
  | .command loopcount =>
    if loopcount + 1 < 10 then { s with pc := .receive (.command (loopcount + 1)) }
    else s.returns true (.command loopcount)
  | .noop loopcount =>
    if loopcount + 1 < 10 then { s with pc := .receive (.noop (loopcount + 1)) }
    else s.returns true (.noop loopcount)
  | .input => { s with pc := .receive .input }
  | .net => s.returns true .net

/-- What `send_command_succ` and `check_for_input` make of a response. -/
def respond (s : ServiceLoop β) (reader : Reader) : ProcessResponse → ServiceLoop β
  | .success => s.returns true reader
  | .failure => s.returns false reader
  | .callback => s.continues reader
  | .invalid => s.returns false reader
  | .errMisc => s.returns false reader

/-- What `send_command_succ` and `check_for_input` make of what was received. A
line is looked at by `lcd_process_response`, from where a callback may be called
first. A `send_command_succ` that cannot receive returns what sending had
returned. -/
def receives (s : ServiceLoop β) (reader : Reader) : Received → Option (ServiceLoop β)
  | .failed =>
    match reader with
    | .input => s.returns false reader
    | _ => s.returns true reader
  | .nothing =>
    match reader with
    | .input => s.returns true reader
    | _ => s.continues reader
  | .line string =>
    match s.svc.lcdDispatch string with
    | .error _ => none
    | .ok (_, svc, some dispatch) => some { s with svc := svc, pc := .lookup reader dispatch }
    | .ok (response, svc, none) =>
      let s := { s with svc := svc }
      s.respond reader response

/-- **A step of the service thread**, with `g_exit` as it is. -/
def step (gExit : Bool) (s : ServiceLoop β) : LoopInput → Option (ServiceLoop β)
  | .go =>
    match s.pc with
    | .test => some { s with pc := if gExit then .unrefQueue else .pop }
    | .lookup reader dispatch => some { s with pc := .call reader (s.svc.invoke dispatch) }
    | .call reader _ => s.respond reader .callback
    | .unrefQueue => some { s with pc := .destroyClients }
    | .destroyClients => some { s with pc := .freeMutex }
    | .freeMutex => some { s with pc := .returned }
    | _ => none
  | .popped command =>
    match s.pc, command with
    | .pop, some _ => some { s with pc := .send (.command 0) }
    | .pop, none => some { s with
        count := s.count + 1
        pc := if s.count = 30 then .send (.noop 0) else .receive .input }
    | _, _ => none
  | .sent ok =>
    match s.pc, ok with
    | .send reader, true => some { s with pc := .receive reader }
    | .send reader, false => s.returns false reader
    | _, _ => none
  | .received received =>
    match s.pc with
    | .receive reader => s.receives reader received
    | _ => none
  | .packet buffer =>
    match s.pc, buffer with
    | .net, none => s.returns true .net
    | .net, some buffer =>
      match s.svc.netDispatch buffer with
      | none => s.returns true .net
      | some dispatch => some { s with pc := .lookup .net dispatch }
    | _, _ => none

/-- The service thread before its first step. -/
def init : ServiceLoop β := ⟨.init, 0, .test⟩

/-! ## What a step can do -/

/-- Whatever the reading function returns, it leaves the tables as they are. -/
theorem returns_frame (s : ServiceLoop β) (ok : Bool) (reader : Reader) :
    (s.returns ok reader).svc = s.svc ∧ (s.returns ok reader).pc.quiet = true := by
  cases reader <;> cases ok <;> exact ⟨rfl, rfl⟩

theorem continues_frame (s : ServiceLoop β) (reader : Reader) :
    (s.continues reader).svc = s.svc ∧ (s.continues reader).pc.quiet = true := by
  cases reader with
  | command loopcount =>
    rw [continues]
    split
    · exact ⟨rfl, rfl⟩
    · exact s.returns_frame _ _
  | noop loopcount =>
    rw [continues]
    split
    · exact ⟨rfl, rfl⟩
    · exact s.returns_frame _ _
  | input => exact ⟨rfl, rfl⟩
  | net => exact s.returns_frame _ _

theorem respond_frame (s : ServiceLoop β) (reader : Reader) (response : ProcessResponse) :
    (s.respond reader response).svc = s.svc
      ∧ (s.respond reader response).pc.quiet = true := by
  cases response with
  | callback => exact s.continues_frame reader
  | success | failure | invalid | errMisc => exact s.returns_frame _ reader

/-- **What was received** calls nothing, or it is a line that selects a
callback. -/
theorem of_receives {s s' : ServiceLoop β} {reader : Reader} {received : Received}
    (h : s.receives reader received = some s') :
    (s'.svc = s.svc ∧ s'.pc.quiet = true)
    ∨ ∃ string response svc dispatch, received = .line string
      ∧ s.svc.lcdDispatch string = .ok (response, svc, dispatch) ∧ s'.svc = svc
      ∧ match dispatch with
        | none => s'.pc.quiet = true
        | some dispatch => s'.pc = .lookup reader dispatch := by
  cases received with
  | failed =>
    refine .inl ?_
    cases reader <;> cases h <;> exact s.returns_frame _ _
  | nothing =>
    refine .inl ?_
    cases reader <;> cases h <;> first | exact s.returns_frame _ _ | exact s.continues_frame _
  | line string =>
    refine .inr ?_
    unfold receives at h
    dsimp only at h
    split at h
    · exact absurd h (by simp)
    · next response svc dispatch hdispatch =>
      cases h
      exact ⟨string, response, svc, some dispatch, rfl, hdispatch, rfl, rfl⟩
    · next response svc hdispatch =>
      cases h
      obtain ⟨hsvc, hquiet⟩ := respond_frame { s with svc := svc } reader response
      exact ⟨string, response, svc, none, rfl, hdispatch, hsvc, hquiet⟩

/-- **The steps of the service thread**, each with the place it is taken from. -/
inductive Taken (gExit : Bool) (s : ServiceLoop β) : LoopInput → ServiceLoop β → Prop
  /-- `g_exit` is tested. -/
  | test : s.pc = .test →
      Taken gExit s .go { s with pc := if gExit then .unrefQueue else .pop }
  /-- The cookie of a callback is looked up. -/
  | lookup {reader : Reader} {dispatch : Dispatch} : s.pc = .lookup reader dispatch →
      Taken gExit s .go { s with pc := .call reader (s.svc.invoke dispatch) }
  /-- A callback is called. -/
  | call {reader : Reader} {callback : Callback β} : s.pc = .call reader callback →
      Taken gExit s .go (s.continues reader)
  /-- The queue is released. -/
  | unrefQueue : s.pc = .unrefQueue → Taken gExit s .go { s with pc := .destroyClients }
  /-- The table is released. -/
  | destroyClients : s.pc = .destroyClients → Taken gExit s .go { s with pc := .freeMutex }
  /-- The mutex is released. -/
  | freeMutex : s.pc = .freeMutex → Taken gExit s .go { s with pc := .returned }
  /-- There is a command to be sent. -/
  | popped {command : Str} : s.pc = .pop →
      Taken gExit s (.popped (some command)) { s with pc := .send (.command 0) }
  /-- There is none. -/
  | idle : s.pc = .pop → Taken gExit s (.popped none) { s with
      count := s.count + 1
      pc := if s.count = 30 then .send (.noop 0) else .receive .input }
  /-- A command was sent. -/
  | sent {reader : Reader} : s.pc = .send reader →
      Taken gExit s (.sent true) { s with pc := .receive reader }
  /-- It could not be sent. -/
  | unsent {reader : Reader} : s.pc = .send reader →
      Taken gExit s (.sent false) (s.returns false reader)
  /-- Something was received, or nothing. -/
  | received {reader : Reader} {received : Received} {s' : ServiceLoop β} :
      s.pc = .receive reader → s.receives reader received = some s' →
      Taken gExit s (.received received) s'
  /-- There is no packet, or it is for nobody. -/
  | quiet {buffer : Option Str} : s.pc = .net →
      Taken gExit s (.packet buffer) { s with pc := .test }
  /-- A packet is for a client. -/
  | packet {buffer : Str} {dispatch : Dispatch} : s.pc = .net →
      s.svc.netDispatch buffer = some dispatch →
      Taken gExit s (.packet (some buffer)) { s with pc := .lookup .net dispatch }

/-- **The inversion of a step.** -/
theorem taken_of_step {gExit : Bool} {s s' : ServiceLoop β} {input : LoopInput}
    (h : s.step gExit input = some s') : Taken gExit s input s' := by
  unfold step at h
  cases input with
  | go =>
    dsimp only at h
    split at h
    · next hpc => exact Option.some.inj h ▸ .test hpc
    · next hpc => exact Option.some.inj h ▸ .lookup hpc
    · next hpc => exact Option.some.inj h ▸ .call hpc
    · next hpc => exact Option.some.inj h ▸ .unrefQueue hpc
    · next hpc => exact Option.some.inj h ▸ .destroyClients hpc
    · next hpc => exact Option.some.inj h ▸ .freeMutex hpc
    · exact absurd h (by simp)
  | popped command =>
    dsimp only at h
    split at h
    · next hpc => exact Option.some.inj h ▸ .popped hpc
    · next hpc => exact Option.some.inj h ▸ .idle hpc
    · exact absurd h (by simp)
  | sent ok =>
    dsimp only at h
    split at h
    · next hpc => exact Option.some.inj h ▸ .sent hpc
    · next hpc => exact Option.some.inj h ▸ .unsent hpc
    · exact absurd h (by simp)
  | received received =>
    dsimp only at h
    split at h
    · next hpc => exact .received hpc h
    · exact absurd h (by simp)
  | packet buffer =>
    dsimp only at h
    split at h
    · next hpc => exact Option.some.inj h ▸ .quiet hpc
    · next hpc =>
      split at h
      · exact Option.some.inj h ▸ .quiet hpc
      · next hdispatch => exact Option.some.inj h ▸ .packet hpc hdispatch
    · exact absurd h (by simp)

/-! ## The callback that is under way -/

/-- The callback that the input of a step selects. -/
def selects (s : ServiceLoop β) : LoopInput → Option Dispatch
  | .received (.line string) =>
    match s.svc.lcdDispatch string with
    | .ok (_, _, dispatch) => dispatch
    | .error _ => none
  | .packet (some buffer) => s.svc.netDispatch buffer
  | _ => none

/-- **What the service thread has under way is what it had, or what it has selected
now.** -/
theorem pending_of_step {gExit : Bool} {s s' : ServiceLoop β} {input : LoopInput}
    (h : s.step gExit input = some s') {p : Client × Event} (hp : p ∈ s'.pc.pending) :
    p ∈ s.pc.pending ∨ ∃ d ∈ s.selects input, p = (d.client, d.event) := by
  have hquiet : s'.pc.quiet = true → p ∈ s.pc.pending ∨ ∃ d ∈ s.selects input,
      p = (d.client, d.event) := fun hquiet => by
    rw [LoopPc.pending_of_quiet hquiet] at hp
    exact absurd hp (Option.not_mem_none p)
  cases taken_of_step h with
  | test => exact hquiet (by cases gExit <;> rfl)
  | lookup hpc =>
    rw [hpc]
    exact .inl hp
  | call => exact hquiet (s.continues_frame _).2
  | received hpc hreceives =>
    rcases of_receives hreceives with ⟨-, hq⟩ | ⟨string, response, svc, dispatch,
      rfl, hdispatch, -, hpc'⟩
    · exact hquiet hq
    · cases dispatch with
      | none => exact hquiet hpc'
      | some d =>
        dsimp only at hpc'
        rw [hpc'] at hp
        refine .inr ⟨d, ?_, (Option.some.inj hp).symm⟩
        unfold selects
        dsimp only
        rw [hdispatch]
        rfl
  | packet hpc hdispatch => exact .inr ⟨_, hdispatch, (Option.some.inj hp).symm⟩
  | unsent => exact hquiet (s.returns_frame _ _).2
  | idle =>
    refine hquiet ?_
    dsimp only
    split <;> rfl
  | unrefQueue | destroyClients | freeMutex | popped | sent | quiet =>
    exact absurd hp (Option.not_mem_none p)

/-- Where the service thread takes something in, nothing is under way. -/
theorem pending_eq_none_of_step {gExit : Bool} {s s' : ServiceLoop β} {input : LoopInput}
    (h : s.step gExit input = some s') (hinput : input ≠ .go) : s.pc.pending = none := by
  cases taken_of_step h with
  | test | lookup | call | unrefQueue | destroyClients | freeMutex => exact absurd rfl hinput
  | popped hpc | idle hpc | sent hpc | unsent hpc | received hpc | quiet hpc | packet hpc =>
    rw [hpc]
    rfl

end ServiceLoop
