import LcdStuff.ServiceLoop
import LcdStuff.StepSystem

/-!
# The service thread and the LCDproc server

The server answers every command that it is sent with one line, `success` or
`huh?` and a reason, in their order and whenever it likes, and it sends lines of
its own in between. The service thread reads them with `sock_recv_string`, a
line at a time, and has no means to tell which command a line answers: it is
the one that it waits for, if it waits for one, and nobody's otherwise.

So an answer that comes after `send_command_succ` has given up is read by
`check_for_input`, or taken for the answer to the next command. For a `success`
that makes no difference. A `huh?` does nothing when it is read for a command
of the queue, but it ends the loop when `check_for_input` reads it, or when it
is taken for the answer to a `noop`
(`Session.inLoop_of_reachableBy`).
-/

/-! ## `sock_recv_string` -/

/-- The loop of `sock_recv_string`, with room for so many more bytes: the string
that is read, and the bytes that are left. It waits when there are none. -/
def recvLoop : Nat → Str → Option (Str × Str)
  | _, [] => none
  | room, c :: wire =>
    if room = 1 ∨ c = '\x00' ∨ c = '\n' then some ([], wire)
    else (recvLoop (room - 1) wire).map (fun r => (c :: r.1, r.2))

/-- `sock_recv_string` on the bytes that have arrived. It returns `0` when there
are none, or for an empty line. -/
def sockRecvString (maxlen : Nat) (wire : Str) : Option (Received × Str) :=
  if wire = [] then some (.nothing, [])
  else (recvLoop maxlen wire).map
    (fun r => (if r.1 = [] then .nothing else .line r.1, r.2))

/-- `BUFSIZ - 1` -/
def recvMaxlen : Nat := 8191

/-- What is sent as a line holds neither a line feed nor a NUL. -/
def IsLine (line : Str) : Prop := ∀ c ∈ line, c ≠ '\x00' ∧ c ≠ '\n'

/-- **A line is read as it was sent**, if there is room for it. -/
theorem recvLoop_line {line rest : Str} (hline : IsLine line) {room : Nat}
    (hroom : line.length < room) :
    recvLoop room (line ++ '\n' :: rest) = some (line, rest) := by
  induction line generalizing room with
  | nil => rw [List.nil_append, recvLoop, if_pos (.inr (.inr rfl))]
  | cons c line ih =>
    obtain ⟨hnul, hfeed⟩ := hline c (List.mem_cons_self ..)
    rw [List.length_cons] at hroom
    rw [List.cons_append, recvLoop, if_neg (by
      rintro (h | h | h)
      · omega
      · exact hnul h
      · exact hfeed h)]
    rw [ih (fun d hd => hline d (List.mem_cons_of_mem c hd)) (by omega)]
    rfl

/-- What `sock_recv_string` makes of a line that fits into the buffer. -/
theorem sockRecvString_line {line rest : Str} (hline : IsLine line)
    (hlength : line.length < recvMaxlen) :
    sockRecvString recvMaxlen (line ++ '\n' :: rest)
      = some (if line = [] then .nothing else .line line, rest) := by
  unfold sockRecvString
  rw [if_neg (by simp), recvLoop_line hline hlength]
  rfl

/-! ## The server -/

/-- The answer to a command. -/
inductive Reply where
  /-- `success` -/
  | success
  /-- `huh?` and a reason -/
  | huh (reason : Str)
  deriving DecidableEq, Repr

/-- The line of an answer. -/
def Reply.line : Reply → Str
  | .success => "success".toList
  | .huh reason => "huh? ".toList ++ reason

/-- **A line that the server sends of its own**: an event, with the words that
it needs. -/
def EventLine (line : Str) : Prop :=
  let argv := getArgs line 10
  (argv[0]? = some "key".toList ∨ argv[0]? = some "listen".toList
      ∨ argv[0]? = some "ignore".toList) ∧ 2 ≤ argv.length
    ∨ argv[0]? = some "menuevent".toList ∧ 3 ≤ argv.length

/-- The service thread, and what is between it and the server. -/
structure Session (β : Type) where
  /-- The service thread. -/
  loop : ServiceLoop β
  /-- What the server has sent and was not read yet. -/
  wire : Str
  /-- How many commands the server has not answered yet. -/
  owed : Nat

/-- **What can happen next**, while the connection is up and `g_exit` is not
set. -/
inductive SessionAct (β : Type) where
  /-- The service thread goes on by itself. -/
  | go
  /-- The queue holds a command, or none. -/
  | pop (command : Option Str)
  /-- The service thread sends a command. -/
  | send
  /-- The service thread reads what the server has sent. -/
  | receive
  /-- The remote interface has a packet, or none. -/
  | packet (buffer : Option Str)
  /-- A module registers. -/
  | register (client : Client) (cookie : Option β)
  /-- A module unregisters. -/
  | unregister (name : Str)
  /-- The server answers a command. -/
  | answer (reply : Reply)
  /-- The server sends a line of its own. -/
  | event (line : Str)
  deriving DecidableEq, Repr

namespace Session

variable {β : Type}

/-- The server sends a line. -/
def sends (s : Session β) (line : Str) : Session β :=
  { s with wire := s.wire ++ line ++ ['\n'] }

instance (line : Str) : Decidable (IsLine line) :=
  List.decidableBAll (fun c => c ≠ '\x00' ∧ c ≠ '\n') line

instance (line : Str) : Decidable (EventLine line) :=
  inferInstanceAs (Decidable (_ ∨ _))

/-- **A step of the session.** The server answers no more than it was sent. -/
def step (s : Session β) : SessionAct β → Option (Session β)
  | .go => (s.loop.step false .go).map (fun loop => { s with loop := loop })
  | .pop command =>
    (s.loop.step false (.popped command)).map (fun loop => { s with loop := loop })
  | .send =>
    (s.loop.step false (.sent true)).map
      (fun loop => { s with loop := loop, owed := s.owed + 1 })
  | .receive =>
    match sockRecvString recvMaxlen s.wire with
    | none => none
    | some (received, wire) =>
      (s.loop.step false (.received received)).map
        (fun loop => { s with loop := loop, wire := wire })
  | .packet buffer =>
    (s.loop.step false (.packet buffer)).map (fun loop => { s with loop := loop })
  | .register client cookie => some { s with
      loop := { s.loop with svc := s.loop.svc.insertClient client cookie } }
  | .unregister name => some { s with
      loop := { s.loop with svc := s.loop.svc.removeClient name } }
  | .answer reply =>
    if 0 < s.owed ∧ IsLine reply.line then
      some { s.sends reply.line with owed := s.owed - 1 }
    else none
  | .event line => if EventLine line ∧ IsLine line then some (s.sends line) else none

end Session

/-- **The service thread with a server that keeps to the protocol.** The `client_set` that
`main_init` has sent is not answered yet. -/
def session (β : Type) : StepSystem (Session β) (SessionAct β) :=
  ⟨⟨.init, [], 1⟩, Session.step⟩

/-- The service thread is in its loop. -/
def LoopPc.inLoop {β : Type} : LoopPc β → Bool
  | .unrefQueue | .destroyClients | .freeMutex | .returned => false
  | _ => true

/-- Who is reading. -/
def LoopPc.reader {β : Type} : LoopPc β → Option Reader
  | .receive reader => some reader
  | _ => none

/-- An error does no harm when it is read for a command of the queue. -/
def Reader.forgiving : Reader → Bool
  | .command _ | .net => true
  | .noop _ | .input => false

/-- A line that is one of the server's. -/
def ServerLine (line : Str) : Prop :=
  line = "success".toList ∨ "huh?".toList <+: line ∨ EventLine line

theorem serverLine_reply (reply : Reply) : ServerLine reply.line := by
  cases reply with
  | success => exact .inl rfl
  | huh reason => exact .inr (.inl ⟨' ' :: reason, rfl⟩)

namespace ServiceThread

variable {β : Type} (svc : ServiceThread β)

/-- The first word of a `huh?` line calls nothing. -/
theorem notMem_eventWords_of_huh {line argv0 : Str} (hhuh : "huh?".toList <+: line)
    (hargv0 : (getArgs line 10)[0]? = some argv0) : argv0 ∉ eventWords := by
  obtain ⟨rest, rfl⟩ := hhuh
  obtain ⟨piece, args, hargs⟩ :=
    getArgs_append (w := "huh?".toList) (s := rest) rfl (by simp) 9
  rw [hargs] at hargv0
  obtain rfl := Option.some.inj hargv0
  simp [eventWords]

/-- An event is looked at without a fault, and it is what calls a callback. -/
theorem lcdDispatch_eventLine {line : Str} (h : EventLine line) :
    ∃ svc' dispatch, svc.lcdDispatch line = .ok (.callback, svc', dispatch) := by
  rcases h with ⟨hargv0, hlen⟩ | ⟨hargv0, hlen⟩
  · obtain ⟨arg, harg⟩ := (exists_readAt_one_iff (getArgs line 10)).mpr hlen
    rcases hargv0 with hargv0 | hargv0 | hargv0
    · exact ⟨_, _, (lcdDispatch_key svc hargv0).trans (by rw [harg]; rfl)⟩
    · exact ⟨_, _, (lcdDispatch_listen svc hargv0).trans (by rw [harg]; rfl)⟩
    · exact ⟨_, _, (lcdDispatch_ignore svc hargv0).trans (by rw [harg]; rfl)⟩
  · have hitem : (getArgs line 10)[2]? = some (getArgs line 10)[2] :=
      List.getElem?_eq_getElem (by omega)
    obtain ⟨dispatch, hdispatch⟩ := svc.exists_menueventHandler hitem
      (of_mem_getArgs (List.mem_of_getElem? hitem)).2
    exact ⟨_, _, (lcdDispatch_menuevent svc hargv0).trans (by rw [hdispatch]; rfl)⟩

/-- **A line of the server is looked at without a fault**, and it is fine unless
it is a `huh?`. -/
theorem lcdDispatch_serverLine {line : Str} (h : ServerLine line) :
    ∃ response svc' dispatch, svc.lcdDispatch line = .ok (response, svc', dispatch)
      ∧ (¬ "huh?".toList <+: line → response = .success ∨ response = .callback) := by
  rcases h with rfl | hhuh | hevent
  · exact ⟨.success, svc, none, rfl, fun _ => .inl rfl⟩
  · obtain ⟨response, -, heq⟩ := svc.lcdDispatch_reply
      (fun argv0 hargv0 => notMem_eventWords_of_huh hhuh hargv0)
    exact ⟨response, svc, none, heq, fun hnot => absurd hhuh hnot⟩
  · obtain ⟨svc', dispatch, heq⟩ := svc.lcdDispatch_eventLine hevent
    exact ⟨.callback, svc', dispatch, heq, fun _ => .inr rfl⟩

end ServiceThread

namespace ServiceLoop

variable {β : Type} {s s' : ServiceLoop β}

/-- Nothing leaves the loop when it is fine, and no error does that a command of
the queue has led to. -/
theorem inLoop_returns {ok : Bool} {reader : Reader}
    (h : ok = true ∨ reader.forgiving = true) : (s.returns ok reader).pc.inLoop = true := by
  cases reader <;> cases ok <;>
    first | rfl | exact absurd h (by rintro (h | h) <;> exact Bool.false_ne_true h)

theorem inLoop_continues (reader : Reader) : (s.continues reader).pc.inLoop = true := by
  cases reader with
  | command loopcount =>
    rw [continues]
    split
    · rfl
    · exact inLoop_returns (.inl rfl)
  | noop loopcount =>
    rw [continues]
    split
    · rfl
    · exact inLoop_returns (.inl rfl)
  | input => rfl
  | net => rfl

theorem inLoop_respond {reader : Reader} {response : ProcessResponse}
    (h : (response = .success ∨ response = .callback) ∨ reader.forgiving = true) :
    (s.respond reader response).pc.inLoop = true := by
  cases response with
  | success => exact inLoop_returns (.inl rfl)
  | callback => exact inLoop_continues reader
  | failure | invalid | errMisc =>
    exact inLoop_returns (.inr (h.resolve_left (by simp)))

/-- **What is received leaves the service thread in its loop**: nothing, or a
line of the server, unless that is a `huh?` where it is fatal. -/
theorem inLoop_receives {reader : Reader} {received : Received}
    (h : received = .nothing ∨ ∃ line, received = .line line ∧ ServerLine line
      ∧ (¬ "huh?".toList <+: line ∨ reader.forgiving = true)) :
    ∃ s', s.receives reader received = some s' ∧ s'.pc.inLoop = true := by
  rcases h with rfl | ⟨line, rfl, hline, hhuh⟩
  · cases reader with
    | input => exact ⟨_, rfl, inLoop_returns (.inl rfl)⟩
    | command | noop | net => exact ⟨_, rfl, inLoop_continues _⟩
  · obtain ⟨response, svc', dispatch, hdispatch, hfine⟩ := s.svc.lcdDispatch_serverLine hline
    rw [receives, hdispatch]
    cases dispatch with
    | some d => exact ⟨_, rfl, rfl⟩
    | none => exact ⟨_, rfl, inLoop_respond (hhuh.imp_left hfine)⟩

/-- **No other step leaves the loop**, as long as `g_exit` is not set and every
command can be sent. -/
theorem inLoop_step {input : LoopInput} (hs : s.pc.inLoop = true)
    (h : s.step false input = some s') (hsent : input ≠ .sent false)
    (hreceived : ∀ received, input ≠ .received received) : s'.pc.inLoop = true := by
  have hnot : ∀ {pc : LoopPc β}, s.pc = pc → pc.inLoop ≠ false := by
    rintro pc rfl hpc
    exact Bool.false_ne_true (hpc.symm.trans hs)
  cases taken_of_step h with
  | test hpc => rfl
  | lookup hpc => rfl
  | call hpc => exact inLoop_continues _
  | unrefQueue hpc => exact absurd rfl (hnot hpc)
  | destroyClients hpc => exact absurd rfl (hnot hpc)
  | freeMutex hpc => exact absurd rfl (hnot hpc)
  | popped hpc => rfl
  | idle hpc =>
    dsimp only
    split <;> rfl
  | sent hpc => rfl
  | unsent hpc => exact absurd rfl hsent
  | received hpc h => exact absurd rfl (hreceived _)
  | quiet hpc => rfl
  | packet hpc h => rfl

end ServiceLoop

namespace Session

variable {β : Type} {s s' : Session β}

/-- **No answer is read where it is fatal**: the lines of the server fit into
the buffer, and no `huh?` is read by `check_for_input` or while the answer to a
`noop` is waited for. -/
def Forgiven (s : Session β) : SessionAct β → Prop
  | .receive => ∀ reader ∈ s.loop.pc.reader, reader.forgiving = true
    ∨ ¬ "huh?".toList <+: s.wire
  | .answer reply => reply.line.length < recvMaxlen
  | .event line => line.length < recvMaxlen
  | _ => True

/-- What the server has sent and was not read is lines that can be read. -/
def Lines (wire : Str) : Prop :=
  ∃ lines : List Str, wire = lines.flatMap (fun line => line ++ ['\n'])
    ∧ ∀ line ∈ lines, ServerLine line ∧ IsLine line ∧ line.length < recvMaxlen

/-- One line more. -/
theorem Lines.append {wire line : Str} (hwire : Lines wire) (hserver : ServerLine line)
    (hline : IsLine line) (hlength : line.length < recvMaxlen) :
    Lines (wire ++ line ++ ['\n']) := by
  obtain ⟨lines, rfl, hlines⟩ := hwire
  refine ⟨lines ++ [line], by simp, fun l hl => ?_⟩
  rcases List.mem_append.mp hl with hl | hl
  · exact hlines l hl
  · obtain rfl := List.mem_singleton.mp hl
    exact ⟨hserver, hline, hlength⟩

/-- **What is read is nothing, or the first line.** -/
theorem Lines.recv {wire : Str} (hwire : Lines wire) :
    ∃ received rest, sockRecvString recvMaxlen wire = some (received, rest) ∧ Lines rest
      ∧ (received = .nothing ∨ ∃ line, received = .line line ∧ ServerLine line
        ∧ line <+: wire) := by
  obtain ⟨lines, rfl, hlines⟩ := hwire
  cases lines with
  | nil => exact ⟨.nothing, [], rfl, ⟨[], rfl, fun _ h => absurd h List.not_mem_nil⟩, .inl rfl⟩
  | cons line lines =>
    obtain ⟨hserver, hline, hlength⟩ := hlines line (List.mem_cons_self ..)
    have hwire : (line :: lines).flatMap (fun line => line ++ ['\n'])
        = line ++ '\n' :: lines.flatMap (fun line => line ++ ['\n']) := by simp
    rw [hwire]
    refine ⟨_, _, sockRecvString_line hline hlength,
      ⟨lines, rfl, fun l hl => hlines l (List.mem_cons_of_mem line hl)⟩, ?_⟩
    split
    · exact .inl rfl
    · exact .inr ⟨line, rfl, hserver, List.prefix_append _ _⟩

/-- **The invariant**: the service thread is in its loop, and what it will read
is lines of the server. -/
structure Orderly (s : Session β) : Prop where
  /-- The service thread. -/
  inLoop : s.loop.pc.inLoop = true
  /-- What the server has sent. -/
  wire : Lines s.wire

/-- **The service thread reads what the server has sent**, and stays in its
loop. -/
theorem Orderly.receive (hs : Orderly s) (hact : s.Forgiven .receive) {reader : Reader}
    (hpc : s.loop.pc = .receive reader) :
    ∃ s', s.step .receive = some s' ∧ Orderly s' := by
  obtain ⟨received, rest, hrecv, hrest, hline⟩ := hs.wire.recv
  have hfine : received = .nothing ∨ ∃ line, received = .line line ∧ ServerLine line
      ∧ (¬ "huh?".toList <+: line ∨ reader.forgiving = true) := by
    refine hline.imp_right (fun ⟨line, hreceived, hserver, hprefix⟩ =>
      ⟨line, hreceived, hserver, ?_⟩)
    rcases hact reader (by rw [hpc]; rfl) with h | h
    · exact .inr h
    · exact .inl (fun hhuh => h (hhuh.trans hprefix))
  obtain ⟨loop, hloop, hinLoop⟩ := s.loop.inLoop_receives hfine
  refine ⟨{ s with loop := loop, wire := rest }, ?_, hinLoop, hrest⟩
  rw [step, hrecv]
  dsimp only
  rw [ServiceLoop.step, hpc]
  dsimp only
  rw [hloop]
  rfl

/-- Only a thread that is reading reads. -/
theorem exists_reader_of_receive (h : s.step .receive = some s') :
    ∃ reader, s.loop.pc = .receive reader := by
  unfold step at h
  dsimp only at h
  split at h
  · exact absurd h (by simp)
  · obtain ⟨loop, hloop, -⟩ := Option.map_eq_some_iff.mp h
    cases ServiceLoop.taken_of_step hloop with
    | received hpc _ => exact ⟨_, hpc⟩

/-- **Every step keeps the invariant** under the condition. -/
theorem orderly_step (hs : Orderly s) {act : SessionAct β} (hact : s.Forgiven act)
    (h : s.step act = some s') : Orderly s' := by
  cases act with
  | go =>
    obtain ⟨loop, hloop, rfl⟩ := Option.map_eq_some_iff.mp h
    exact ⟨ServiceLoop.inLoop_step hs.inLoop hloop (by simp) (by simp), hs.wire⟩
  | pop command =>
    obtain ⟨loop, hloop, rfl⟩ := Option.map_eq_some_iff.mp h
    exact ⟨ServiceLoop.inLoop_step hs.inLoop hloop (by simp) (by simp), hs.wire⟩
  | send =>
    obtain ⟨loop, hloop, rfl⟩ := Option.map_eq_some_iff.mp h
    exact ⟨ServiceLoop.inLoop_step hs.inLoop hloop (by simp) (by simp), hs.wire⟩
  | receive =>
    obtain ⟨reader, hpc⟩ := exists_reader_of_receive h
    obtain ⟨s'', h', hs''⟩ := hs.receive hact hpc
    obtain rfl := Option.some.inj (h'.symm.trans h)
    exact hs''
  | packet buffer =>
    obtain ⟨loop, hloop, rfl⟩ := Option.map_eq_some_iff.mp h
    exact ⟨ServiceLoop.inLoop_step hs.inLoop hloop (by simp) (by simp), hs.wire⟩
  | register client cookie =>
    obtain rfl := Option.some.inj h
    exact ⟨hs.inLoop, hs.wire⟩
  | unregister name =>
    obtain rfl := Option.some.inj h
    exact ⟨hs.inLoop, hs.wire⟩
  | answer reply =>
    unfold step at h
    dsimp only at h
    split at h
    · next hreply =>
      obtain rfl := Option.some.inj h
      exact ⟨hs.inLoop, hs.wire.append (serverLine_reply reply) hreply.2 hact⟩
    · exact absurd h (by simp)
  | event line =>
    unfold step at h
    dsimp only at h
    split at h
    · next hline =>
      obtain rfl := Option.some.inj h
      exact ⟨hs.inLoop, hs.wire.append (.inr (.inr hline.1)) hline.2 hact⟩
    · exact absurd h (by simp)

instance (s : Session β) (act : SessionAct β) : Decidable (s.Forgiven act) :=
  match act with
  | .receive => inferInstanceAs (Decidable (∀ reader ∈ s.loop.pc.reader,
      reader.forgiving = true ∨ ¬ "huh?".toList <+: s.wire))
  | .answer reply => inferInstanceAs (Decidable (reply.line.length < recvMaxlen))
  | .event line => inferInstanceAs (Decidable (line.length < recvMaxlen))
  | .go | .pop _ | .send | .packet _ | .register _ _ | .unregister _ =>
    inferInstanceAs (Decidable True)

/-- **The service thread never leaves its loop**, whatever a server does that
keeps to the protocol and whatever is queued, in every run in which no `huh?` is
read where it is fatal and every line fits into the buffer. -/
theorem inLoop_of_reachableBy {β : Type} {s : Session β}
    (hs : (session β).ReachableBy Forgiven s) : s.loop.pc.inLoop = true :=
  (hs.invariant Orderly
    ⟨rfl, ⟨[], rfl, fun _ h => absurd h List.not_mem_nil⟩⟩
    (fun _ _ _ hI hact h => orderly_step hI hact h)).inLoop

/-- `client_set` is answered, and a command is rejected at once. -/
theorem inLoop_of_reachableBy_huh :
    ∃ s, (session ℕ).ReachableBy Forgiven s ∧ s.loop.pc = .net ∧ s.owed = 0 ∧ s.wire = []
      ∧ s.loop.pc.inLoop = true := by
  let run := (session ℕ).replay Forgiven (session ℕ).init
    [.go, .pop none, .answer .success, .receive, .packet none, .go,
      .pop (some "bad\n".toList), .send, .answer (.huh "what".toList), .receive]
  have hrun : run.map (fun s => decide (s.loop.pc = .net ∧ s.owed = 0 ∧ s.wire = []))
      = some true := by decide +kernel
  obtain ⟨s, hreach, hs⟩ := StepSystem.exists_reachableBy_of_replay hrun
  obtain ⟨hpc, howed, hwire⟩ := of_decide_eq_true hs
  exact ⟨s, hreach, hpc, howed, hwire, inLoop_of_reachableBy hreach⟩

/-- The same command is rejected when its answer is not waited for any more. -/
theorem not_forall_inLoop :
    ¬ ∀ s : Session ℕ, (session ℕ).Reachable s → s.loop.pc.inLoop = true := by
  intro h
  let run := (session ℕ).replayAny (session ℕ).init
    ([.go, .pop (some "bad\n".toList), .send] ++ List.replicate 10 .receive
      ++ [.packet none, .answer (.huh "what".toList), .go, .pop none, .receive])
  have hrun : run.map (fun s => s.loop.pc.inLoop) = some false := by decide +kernel
  obtain ⟨s, hs, hleft⟩ := StepSystem.exists_reachableBy_of_replay hrun
  exact Bool.false_ne_true (hleft.symm.trans (h s hs))

end Session
