import LcdStuff.Sockets
import LcdStuff.ServiceLoop
import LcdStuff.StepSystem

/-!
# The connections of the remote interface

At the end of each round `service_thread_run` serves the remote interface, which has one
connection at a time: when there is none it accepts one, and else it reads from it once.
`check_for_net_input` returns `errno` when the read has failed, `-1` at the end of the file,
and `0` for data, which it has dispatched. The caller closes the connection when the result
is negative and not `EAGAIN`. An `errno` never is negative, so the end of the file is all that
closes a connection, and one whose read has failed is read again in every round
(`not_served_of_reset`).

What it should do is told by what `accept` and `read` return (`Connection`); it does that in
every run in which no read fails but with `EAGAIN` (`NetServing.served_of_reachableBy`).
-/

/-- `EAGAIN` -/
def eagain : ℕ := 11

/-- How `read (current_socket, buffer, 1024)` ends. -/
inductive NetRead where
  /-- With some bytes. -/
  | data (bytes : Str)
  /-- `0`: the connection was closed. -/
  | eof
  /-- `-1`, with the `errno`. -/
  | error (errno : ℕ)
  deriving DecidableEq, Repr

/-- There are some bytes, and no more than there is room for. -/
def NetRead.Valid : NetRead → Prop
  | .data bytes => bytes ≠ [] ∧ bytes.length ≤ 1024
  | _ => True

instance (answer : NetRead) : Decidable answer.Valid :=
  match answer with
  | .data _ => inferInstanceAs (Decidable (_ ∧ _))
  | .eof | .error _ => inferInstanceAs (Decidable True)

/-- `check_for_net_input`: its result, and the string that is dispatched. -/
def NetRead.checkForNetInput : NetRead → Int × Option Str
  | .data bytes => (0, some (cString (overlay (fun _ => '\x00') bytes) 1025 0))
  | .eof => (-1, none)
  | .error errno => (errno, none)

/-- The service thread with its remote interface. -/
structure NetServing (β : Type) where
  /-- The thread. -/
  loop : ServiceLoop β
  /-- `listen_fd` -/
  listenFd : Int
  /-- `current_socket` -/
  currentSocket : Int
  /-- What was closed, in this order. -/
  closed : List Int

/-- **What can happen next.** -/
inductive NetAct (β : Type) where
  /-- The thread goes on, elsewhere than at the remote interface. -/
  | thread (gExit : Bool) (input : LoopInput)
  /-- The tables are another thread's. -/
  | tables (svc : ServiceThread β)
  /-- There is no remote interface. -/
  | pass
  /-- `accept` returns. -/
  | accepted (fd : Int)
  /-- `read` does. -/
  | read (answer : NetRead)

namespace NetServing

variable {β : Type}

/-- What the thread closes before it releases the queue. -/
def closes (s : NetServing β) : List Int :=
  match s.loop.pc with
  | .unrefQueue => (if 0 < s.currentSocket then [s.currentSocket] else [])
    ++ if 0 < s.listenFd then [s.listenFd] else []
  | _ => []

/-- `service_thread_run` at the end of a round, with what `check_for_net_input` has
returned. -/
def served (s : NetServing β) (ret : Int) : NetServing β :=
  if ret < 0 ∧ ret ≠ eagain then
    { s with currentSocket := 0, closed := s.closed ++ [s.currentSocket] }
  else s

/-- **A step**, and none where it cannot be taken. -/
def step (s : NetServing β) : NetAct β → Option (NetServing β)
  | .thread _ (.packet _) => none
  | .thread gExit input => (s.loop.step gExit input).map (fun loop =>
      { s with loop := loop, closed := s.closed ++ s.closes })
  | .tables svc => some { s with loop := { s.loop with svc := svc } }
  | .pass =>
    if 0 < s.listenFd then none
    else (s.loop.step false (.packet none)).map (fun loop => { s with loop := loop })
  | .accepted fd =>
    if 0 < s.listenFd ∧ s.currentSocket ≤ 0 then
      (s.loop.step false (.packet none)).map
        (fun loop => { s with loop := loop, currentSocket := fd })
    else none
  | .read answer =>
    if 0 < s.listenFd ∧ 0 < s.currentSocket ∧ answer.Valid then
      (s.loop.step false (.packet answer.checkForNetInput.2)).map
        (fun loop => NetServing.served { s with loop := loop } answer.checkForNetInput.1)
    else none

end NetServing

/-- **The service thread with its remote interface**, with what `socket` has returned for
`listen_fd`, or `0`. -/
def netServing (β : Type) (listenFd : Int) : StepSystem (NetServing β) (NetAct β) :=
  ⟨⟨.init, listenFd, 0, []⟩, NetServing.step⟩

/-! ## What becomes of a connection -/

/-- **What there should be of connections.** -/
structure Connection where
  /-- The one there is, or what is not positive. -/
  current : Int
  /-- What was closed. -/
  closed : List Int
  deriving DecidableEq

/-- A read after which a connection is kept: it would block, or it has given data. -/
def NetRead.Keeps : NetRead → Prop
  | .data _ => True
  | .eof => False
  | .error errno => errno = eagain

instance (answer : NetRead) : Decidable answer.Keeps :=
  match answer with
  | .data _ => inferInstanceAs (Decidable True)
  | .eof => inferInstanceAs (Decidable False)
  | .error _ => inferInstanceAs (Decidable (_ = _))

/-- What becomes of the connection, by what `accept` and `read` return. -/
def Connection.see {β : Type} (s : NetServing β) (a : NetAct β) (c : Connection) : Connection :=
  match a with
  | .accepted fd => { c with current := fd }
  | .read answer => if answer.Keeps then c else ⟨0, c.closed ++ [c.current]⟩
  | .thread _ _ => { c with closed := c.closed ++ s.closes }
  | .tables _ | .pass => c

/-- **The connection is served as it should be**: it is the one there should be, what was
closed is what should be, and at the end of a round the thread accepts a client when there is
none, and dispatches what there is to be read when there is one. -/
structure NetServing.Served {β : Type} (s : NetServing β) (c : Connection) : Prop where
  /-- The connection. -/
  current : s.currentSocket = c.current
  /-- What was closed. -/
  closed : s.closed = c.closed
  /-- A new client is accepted, whoever it is. -/
  accepts : s.loop.pc = .net → 0 < s.listenFd → c.current ≤ 0 →
    ∀ fd, ∃ s', s.step (.accepted fd) = some s' ∧ s'.currentSocket = fd
  /-- Data is dispatched. -/
  dispatches : s.loop.pc = .net → 0 < s.listenFd → 0 < c.current →
    ∀ bytes, (NetRead.data bytes).Valid → ∃ s', s.step (.read (.data bytes)) = some s' ∧
      s'.loop.pc =
        match s.loop.svc.netDispatch (cString (overlay (fun _ => '\x00') bytes) 1025 0) with
        | none => .test
        | some dispatch => .lookup .net dispatch

/-- No read fails but with `EAGAIN`. -/
def NetAct.Fine {β : Type} : NetAct β → Prop
  | .read (.error errno) => errno = eagain
  | _ => True

instance {β : Type} (a : NetAct β) : Decidable a.Fine :=
  match a with
  | .read (.error _) => inferInstanceAs (Decidable (_ = _))
  | .read (.data _) | .read .eof | .thread .. | .tables _ | .pass | .accepted _ =>
    inferInstanceAs (Decidable True)

namespace NetServing

variable {β : Type} {s s' : NetServing β} {c : Connection}

/-- Where the connection is the one there should be, it is served. -/
theorem served_of_eq (hcurrent : s.currentSocket = c.current) (hclosed : s.closed = c.closed) :
    s.Served c where
  current := hcurrent
  closed := hclosed
  accepts hpc hlisten hnone fd := by
    have hstep : s.step (.accepted fd)
        = some { s with loop := s.loop.returns true .net, currentSocket := fd } := by
      unfold step ServiceLoop.step
      dsimp only
      rw [if_pos ⟨hlisten, hcurrent ▸ hnone⟩, hpc]
      rfl
    exact ⟨_, hstep, rfl⟩
  dispatches hpc hlisten hsome bytes hvalid := by
    unfold step ServiceLoop.step
    dsimp only
    rw [if_pos ⟨hlisten, hcurrent ▸ hsome, hvalid⟩, hpc]
    dsimp only [NetRead.checkForNetInput]
    cases s.loop.svc.netDispatch (cString (overlay (fun _ => '\x00') bytes) 1025 0) with
    | none => exact ⟨_, rfl, rfl⟩
    | some dispatch => exact ⟨_, rfl, rfl⟩

/-- **What a read does to the connection** is what it should, unless it fails in another way
than with `EAGAIN`. -/
theorem served_checkForNetInput {answer : NetRead} (h : (NetAct.read (β := β) answer).Fine) :
    s.served answer.checkForNetInput.1
      = if answer.Keeps then s
        else { s with currentSocket := 0, closed := s.closed ++ [s.currentSocket] } := by
  unfold served
  cases answer with
  | data bytes =>
    rw [if_neg (fun h => Int.lt_irrefl 0 h.1), if_pos (by trivial)]
  | eof => rw [if_pos (by decide), if_neg (by exact id)]
  | error errno =>
    rw [if_neg (fun h => Int.not_lt.mpr (Int.natCast_nonneg errno) h.1), if_pos (by exact h)]

/-- **A step keeps what there should be.** -/
theorem eq_of_step {a : NetAct β} (hcurrent : s.currentSocket = c.current)
    (hclosed : s.closed = c.closed) (ha : a.Fine) (h : s.step a = some s') :
    s'.currentSocket = (c.see s a).current ∧ s'.closed = (c.see s a).closed := by
  cases a with
  | thread gExit input =>
    have hthread : ∃ loop, s' = { s with loop := loop, closed := s.closed ++ s.closes } := by
      cases input with
      | packet => exact nomatch h
      | go | popped | sent | received =>
        obtain ⟨loop, -, rfl⟩ := Option.map_eq_some_iff.mp h
        exact ⟨loop, rfl⟩
    obtain ⟨loop, rfl⟩ := hthread
    exact ⟨hcurrent, congrArg (· ++ s.closes) hclosed⟩
  | tables svc =>
    obtain rfl := Option.some.inj h
    exact ⟨hcurrent, hclosed⟩
  | pass =>
    rw [step] at h
    split at h
    · exact nomatch h
    · obtain ⟨loop, -, rfl⟩ := Option.map_eq_some_iff.mp h
      exact ⟨hcurrent, hclosed⟩
  | accepted fd =>
    rw [step] at h
    split at h
    · obtain ⟨loop, -, rfl⟩ := Option.map_eq_some_iff.mp h
      exact ⟨rfl, hclosed⟩
    · exact nomatch h
  | read answer =>
    rw [step] at h
    split at h
    · obtain ⟨loop, -, rfl⟩ := Option.map_eq_some_iff.mp h
      rw [served_checkForNetInput ha, Connection.see]
      split
      · exact ⟨hcurrent, hclosed⟩
      · exact ⟨rfl, by rw [← hcurrent, ← hclosed]⟩
    · exact nomatch h

/-- **The remote interface is served as it should be** in every run in which no read fails
but with `EAGAIN`. -/
theorem served_of_reachableBy {listenFd : Int} {s : NetServing β × Connection}
    (h : ((netServing β listenFd).history Connection.see ⟨0, []⟩).ReachableBy
      (fun _ a => a.Fine) s) : s.1.Served s.2 := by
  have hkept : s.1.currentSocket = s.2.current ∧ s.1.closed = s.2.closed := by
    refine h.invariant (fun s => s.1.currentSocket = s.2.current ∧ s.1.closed = s.2.closed)
      ⟨rfl, rfl⟩ (fun s a s' hs ha hstep => ?_)
    obtain ⟨t, ht, rfl⟩ := StepSystem.of_history_step hstep
    exact eq_of_step hs.1 hs.2 ha ht
  exact served_of_eq hkept.1 hkept.2

/-- The rounds of a thread that finds nothing in its queue and nothing of the server. -/
def round (a : NetAct Unit) : List (NetAct Unit) :=
  [.thread false .go, .thread false (.popped none), .thread false (.received .nothing), a]

/-- Two clients, one after the other: the first is waited for, sends something and goes. -/
theorem served_of_reachableBy_two :
    ∃ s : NetServing Unit × Connection,
      ((netServing Unit 4).history Connection.see ⟨0, []⟩).ReachableBy (fun _ a => a.Fine) s
      ∧ s.1.Served s.2 ∧ s.1.closed = [5] ∧ s.1.currentSocket = 6 := by
  let run := ((netServing Unit 4).history Connection.see ⟨0, []⟩).replay (fun _ a => a.Fine)
    ((netServing Unit 4).history Connection.see ⟨0, []⟩).init
    (round (.accepted 5) ++ round (.read (.error 11)) ++ round (.read (.data "x".toList))
      ++ round (.read .eof) ++ round (.accepted 6))
  have hrun : run.map (fun s => decide (s.1.closed = [5] ∧ s.1.currentSocket = 6))
      = some true := by
    decide +kernel
  obtain ⟨s, hs, hx⟩ := StepSystem.exists_reachableBy_of_replay hrun
  exact ⟨s, hs, served_of_reachableBy hs, of_decide_eq_true hx⟩

/-- **A connection that was reset is kept**, and read again instead of accepting a client. -/
theorem not_served_of_reset :
    ¬ ∀ s : NetServing Unit × Connection,
      ((netServing Unit 4).history Connection.see ⟨0, []⟩).Reachable s → s.1.Served s.2 := by
  intro h
  let run := ((netServing Unit 4).history Connection.see ⟨0, []⟩).replayAny
    ((netServing Unit 4).history Connection.see ⟨0, []⟩).init
    (round (.accepted 5) ++ round (.read (.error 104)))
  have hrun : run.map (fun s => decide (s.1.currentSocket = 5 ∧ s.2 = ⟨0, [5]⟩))
      = some true := by
    decide +kernel
  obtain ⟨s, hs, hx⟩ := StepSystem.exists_reachableBy_of_replay hrun
  obtain ⟨hfive, hzero⟩ := of_decide_eq_true hx
  have hcurrent := (h s hs).current
  rw [hfive, hzero] at hcurrent
  exact absurd hcurrent (by decide)

end NetServing
