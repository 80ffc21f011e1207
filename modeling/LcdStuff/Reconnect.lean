import LcdStuff.StepSystem
import Mathlib.Tactic.Common

/-!
# The connection to the player daemon

`mpd_run` knows of its connection by one flag, `error`: the connection-changed callback
sets it, `mpd_start_connection` clears it before it tries to connect, and so does the
dispatcher behind an attempt that has succeeded. While it is set the dispatcher sleeps, and
every so often it tries again.

An attempt that fails returns `false`, and of that the dispatcher only makes that it is to
wait for the next one: whether it goes on with its updates is up to the flag. `libmpd` may
report a failed connect by its return code alone, and then the flag is as clear as behind
an attempt that has succeeded (`Reconnecting.updates_of_reachableBy`).
-/

/-- The calls of a round that need the connection. -/
inductive MpdUpdate where
  /-- `mpd_status_queue_update` -/
  | queueUpdate
  /-- `mpd_status_check` -/
  | statusCheck
  /-- `mpd_update_status_time` -/
  | statusTime
  /-- `mpd_update_playlist_menu` -/
  | playlistMenu
  deriving DecidableEq, Repr

/-- **Where the dispatcher is** in `mpd_run`. -/
inductive ReconnectPc where
  /-- `while (!g_exit)` -/
  | loop
  /-- `error` is to be looked at. -/
  | testError
  /-- `retry_count` is to be looked at. -/
  | retry
  /-- In `mpd_start_connection`, before `error` is cleared. -/
  | clearError
  /-- Before `mpd_set_connection_timeout` returns. -/
  | setTimeout
  /-- `error` is to be looked at behind that. -/
  | testTimeout
  /-- In `mpd_connect`. -/
  | connect
  /-- It has returned `MPD_OK` or not, and `error` is to be looked at. -/
  | testConnected (ok : Bool)
  /-- `mpd_start_connection` has returned. -/
  | returned (ok : Bool)
  /-- `error` is to be looked at behind the attempt. -/
  | testAgain
  /-- In `g_usleep`, in the error state. -/
  | sleep
  /-- Before a call of the round. -/
  | update (update : MpdUpdate)
  /-- The loop was left. -/
  | finished
  deriving DecidableEq, Repr

/-- The dispatcher is in `mpd_start_connection`. -/
def ReconnectPc.starting : ReconnectPc → Bool
  | .clearError | .setTimeout | .testTimeout | .connect | .testConnected _ => true
  | _ => false

/-- What is seen of the dispatcher. -/
inductive ReconnectEvent where
  /-- `mpd_start_connection` has returned `true` or `false`. -/
  | started (ok : Bool)
  /-- One of the calls of a round. -/
  | update (update : MpdUpdate)
  deriving DecidableEq, Repr

/-- **The dispatcher**, behind its first connection. -/
structure Reconnecting where
  /-- `error` -/
  error : Bool
  /-- `retry_count` -/
  retryCount : Int
  /-- Where it is. -/
  pc : ReconnectPc
  /-- What it has done, the latest last. -/
  log : List ReconnectEvent
  deriving DecidableEq, Repr

/-- **What can happen next.** -/
inductive ReconnectAct where
  /-- The dispatcher takes a step. -/
  | go
  /-- It sees `g_exit`. -/
  | exit
  /-- `mpd_connect` returns `MPD_OK`, or an error. -/
  | connected (ok : Bool)
  /-- The time for the playlists has come, or not. -/
  | playlists (due : Bool)
  /-- `libmpd` calls the connection-changed callback, in whichever thread. -/
  | connectionChanged (connect : Bool)
  deriving DecidableEq, Repr

/-- `RETRY_INTERVAL` -/
def retryInterval : Int := 5

namespace Reconnecting

/-- `mpd_connection_changed_handler` -/
def connectionChanged (s : Reconnecting) (connect : Bool) : Reconnecting :=
  if connect then s else { s with error := true }

/-- `mpd_start_connection` returns. -/
def returns (s : Reconnecting) (ok : Bool) : Reconnecting :=
  { s with log := s.log ++ [.started ok], pc := .returned ok }

/-- **A step.** -/
def step (s : Reconnecting) : ReconnectAct → Option Reconnecting
  | .go =>
    match s.pc with
    | .loop => some { s with pc := .testError }
    | .testError =>
      some { s with pc := if s.error then .retry else .update .queueUpdate }
    | .retry => some { s with
        retryCount := s.retryCount - 1
        pc := if s.retryCount ≤ 0 then .clearError else .testAgain }
    | .clearError => some { s with error := false, pc := .setTimeout }
    | .setTimeout => some { s with pc := .testTimeout }
    | .testTimeout => some (if s.error then s.returns false else { s with pc := .connect })
    | .testConnected ok => some (s.returns (ok && !s.error))
    | .returned true => some { s with error := false, pc := .testAgain }
    | .returned false => some { s with retryCount := retryInterval, pc := .testAgain }
    | .testAgain => some { s with pc := if s.error then .sleep else .update .queueUpdate }
    | .sleep => some { s with pc := .loop }
    | .update .queueUpdate => some { s with
        log := s.log ++ [.update .queueUpdate], pc := .update .statusCheck }
    | .update .statusCheck => some { s with
        log := s.log ++ [.update .statusCheck], pc := .update .statusTime }
    | .update .statusTime => some { s with
        log := s.log ++ [.update .statusTime], pc := .update .playlistMenu }
    | _ => none
  | .exit => if s.pc = .loop then some { s with pc := .finished } else none
  | .connected ok => if s.pc = .connect then some { s with pc := .testConnected ok } else none
  | .playlists due =>
    if s.pc = .update .playlistMenu then some { s with
      log := s.log ++ (if due then [.update .playlistMenu] else [])
      pc := .loop }
    else none
  | .connectionChanged connect => some (s.connectionChanged connect)

/-- **The steps of the dispatcher**, each with the place it is taken from. -/
inductive Taken (s : Reconnecting) : Reconnecting → Prop
  /-- `g_exit` is not set. -/
  | loop : s.pc = .loop → Taken s { s with pc := .testError }
  /-- There is an error. -/
  | error : s.pc = .testError → s.error = true → Taken s { s with pc := .retry }
  /-- There is none. -/
  | noError : s.pc = .testError → s.error = false →
      Taken s { s with pc := .update .queueUpdate }
  /-- It is too early. -/
  | early : s.pc = .retry → 0 < s.retryCount →
      Taken s { s with retryCount := s.retryCount - 1, pc := .testAgain }
  /-- An attempt begins. -/
  | start : s.pc = .retry → s.retryCount ≤ 0 →
      Taken s { s with retryCount := s.retryCount - 1, pc := .clearError }
  /-- `error` is cleared. -/
  | clearError : s.pc = .clearError → Taken s { s with error := false, pc := .setTimeout }
  /-- `mpd_set_connection_timeout` has returned. -/
  | setTimeout : s.pc = .setTimeout → Taken s { s with pc := .testTimeout }
  /-- An error has come up. -/
  | timeoutFailed : s.pc = .testTimeout → s.error = true → Taken s (s.returns false)
  /-- None has. -/
  | timeoutSet : s.pc = .testTimeout → s.error = false → Taken s { s with pc := .connect }
  /-- `mpd_connect` has returned. -/
  | testConnected {ok : Bool} : s.pc = .testConnected ok →
      Taken s (s.returns (ok && !s.error))
  /-- The attempt has succeeded. -/
  | succeeded : s.pc = .returned true → Taken s { s with error := false, pc := .testAgain }
  /-- It has failed. -/
  | failed : s.pc = .returned false →
      Taken s { s with retryCount := retryInterval, pc := .testAgain }
  /-- There is an error still. -/
  | stillError : s.pc = .testAgain → s.error = true → Taken s { s with pc := .sleep }
  /-- There is none any more. -/
  | recovered : s.pc = .testAgain → s.error = false →
      Taken s { s with pc := .update .queueUpdate }
  /-- A second is over. -/
  | sleep : s.pc = .sleep → Taken s { s with pc := .loop }
  /-- A call of the round. -/
  | update {update next : MpdUpdate} : s.pc = .update update →
      Taken s { s with log := s.log ++ [.update update], pc := .update next }

/-- **The inversion of a step of the dispatcher.** -/
theorem taken_of_go {s s' : Reconnecting} (h : s.step .go = some s') : Taken s s' := by
  rw [step] at h
  split at h
  · next hpc => exact Option.some.inj h ▸ .loop hpc
  · next hpc =>
    by_cases herror : s.error = true
    · rw [if_pos herror] at h
      exact Option.some.inj h ▸ .error hpc herror
    · rw [if_neg herror] at h
      exact Option.some.inj h ▸ .noError hpc (Bool.eq_false_iff.mpr herror)
  · next hpc =>
    by_cases hretry : s.retryCount ≤ 0
    · rw [if_pos hretry] at h
      exact Option.some.inj h ▸ .start hpc hretry
    · rw [if_neg hretry] at h
      exact Option.some.inj h ▸ .early hpc (Int.not_le.mp hretry)
  · next hpc => exact Option.some.inj h ▸ .clearError hpc
  · next hpc => exact Option.some.inj h ▸ .setTimeout hpc
  · next hpc =>
    by_cases herror : s.error = true
    · rw [if_pos herror] at h
      exact Option.some.inj h ▸ .timeoutFailed hpc herror
    · rw [if_neg herror] at h
      exact Option.some.inj h ▸ .timeoutSet hpc (Bool.eq_false_iff.mpr herror)
  · next hpc => exact Option.some.inj h ▸ .testConnected hpc
  · next hpc => exact Option.some.inj h ▸ .succeeded hpc
  · next hpc => exact Option.some.inj h ▸ .failed hpc
  · next hpc =>
    by_cases herror : s.error = true
    · rw [if_pos herror] at h
      exact Option.some.inj h ▸ .stillError hpc herror
    · rw [if_neg herror] at h
      exact Option.some.inj h ▸ .recovered hpc (Bool.eq_false_iff.mpr herror)
  · next hpc => exact Option.some.inj h ▸ .sleep hpc
  · next hpc => exact Option.some.inj h ▸ .update hpc
  · next hpc => exact Option.some.inj h ▸ .update hpc
  · next hpc => exact Option.some.inj h ▸ .update hpc
  · exact nomatch h

end Reconnecting

/-- **The dispatcher of `mpd_run`** with `libmpd` free to report what it likes. -/
def reconnecting : StepSystem Reconnecting ReconnectAct :=
  ⟨⟨false, retryInterval, .loop, []⟩, Reconnecting.step⟩

/-- **The latest attempt has succeeded**; the first one has. -/
def connected (log : List ReconnectEvent) : Bool :=
  log.foldl (fun connected e =>
    match e with
    | .started ok => ok
    | .update _ => connected) true

/-- An update is made while the latest attempt has succeeded. -/
def ReconnectEvent.Supported (before : List ReconnectEvent) : ReconnectEvent → Prop
  | .started _ => True
  | .update _ => connected before = true

/-- What an event leaves of that. -/
theorem connected_append_started (log : List ReconnectEvent) (ok : Bool) :
    connected (log ++ [.started ok]) = ok := by
  unfold connected
  rw [List.foldl_append]
  rfl

theorem connected_append_update (log : List ReconnectEvent) (update : MpdUpdate) :
    connected (log ++ [.update update]) = connected log := by
  unfold connected
  rw [List.foldl_append]
  rfl

namespace Reconnecting

/-- **A failed connect is reported**: where `mpd_connect` has returned an error, the
connection-changed callback was called. -/
def Reported (s : Reconnecting) : ReconnectAct → Prop
  | .go => s.pc = .testConnected false → s.error = true
  | _ => True

instance (s : Reconnecting) (act : ReconnectAct) : Decidable (Reported s act) :=
  match act with
  | .go => inferInstanceAs (Decidable (s.pc = .testConnected false → s.error = true))
  | .exit | .connected _ | .playlists _ | .connectionChanged _ => isTrue trivial

/-- **The dispatcher waits for the next attempt**, behind one that has failed. -/
def Waiting (s : Reconnecting) : Prop :=
  connected s.log = false ∧ s.pc.starting = false ∧ s.pc ≠ .finished

/-- How many steps of the dispatcher there are in front of the one that begins the next
attempt, while it waits for it. -/
def untilRetry (s : Reconnecting) : ℕ :=
  match s.pc with
  | .returned _ => 30
  | .testAgain => 5 * s.retryCount.toNat + 4
  | .sleep => 5 * s.retryCount.toNat + 3
  | .loop => 5 * s.retryCount.toNat + 2
  | .testError => 5 * s.retryCount.toNat + 1
  | .retry => 5 * s.retryCount.toNat
  | _ => 0

/-- **The dispatcher tries again**: it can take a step, and one of its next 31 begins an
attempt, whatever else happens, as long as it does not see `g_exit`. -/
def TriesAgain (s : Reconnecting) : Prop :=
  (∃ t, s.step .go = some t) ∧
  ∀ acts s', reconnecting.replay (fun _ act => act ≠ .exit) s acts = some s' →
    31 ≤ acts.count .go →
    ∃ before after t, acts = before ++ after
      ∧ reconnecting.replay (fun _ act => act ≠ .exit) s before = some t
      ∧ t.pc = .clearError

/-- **The invariant.** -/
structure Consistent (s : Reconnecting) : Prop where
  /-- The updates were made while there was a connection. -/
  log : EachPrepared ReconnectEvent.Supported s.log
  /-- So are those of this round. -/
  updating : ∀ update, s.pc = .update update → connected s.log = true
  /-- What was returned is in the log. -/
  returned : ∀ ok, s.pc = .returned ok → connected s.log = ok
  /-- Behind an attempt that has failed the dispatcher is in the error state. -/
  failed : connected s.log = false → s.pc.starting = false → s.error = true
  /-- It does not wait any longer than that. -/
  retryCount : s.retryCount ≤ retryInterval

variable {s s' : Reconnecting}

/-- A place in which nothing was returned and no update comes. -/
theorem Consistent.move (hs : Consistent s) {pc : ReconnectPc} {error : Bool} {retryCount : Int}
    (hupdate : ∀ update, pc = .update update → connected s.log = true)
    (hreturned : ∀ ok, pc ≠ .returned ok)
    (hfailed : connected s.log = false → pc.starting = false → error = true)
    (hretry : retryCount ≤ retryInterval) :
    Consistent { s with error := error, retryCount := retryCount, pc := pc } :=
  { hs with
    updating := hupdate
    returned := fun ok h => absurd h (hreturned ok)
    failed := hfailed
    retryCount := hretry }

/-- `mpd_start_connection` fails in the error state. -/
theorem Consistent.returns (hs : Consistent s) {ok : Bool} (hfailed : ok = false → s.error = true) :
    Consistent (s.returns ok) where
  log := hs.log.append_singleton trivial
  updating := nofun
  returned := by
    rintro ok' h
    obtain rfl := ReconnectPc.returned.inj h
    exact connected_append_started s.log ok
  failed := fun h _ => hfailed ((connected_append_started s.log ok).symm.trans h)
  retryCount := hs.retryCount

/-- A call of the round is made, and another one comes, or the round is over. -/
theorem Consistent.update (hs : Consistent s) {update : MpdUpdate} (hpc : s.pc = .update update)
    {pc : ReconnectPc} (hreturned : ∀ ok, pc ≠ .returned ok) :
    Consistent { s with log := s.log ++ [.update update], pc := pc } := by
  have hconnected := hs.updating update hpc
  have hafter := (connected_append_update s.log update).trans hconnected
  exact { hs with
    log := hs.log.append_singleton hconnected
    updating := fun _ _ => hafter
    returned := fun ok h => absurd h (hreturned ok)
    failed := fun h => absurd (hafter.symm.trans h) (by decide) }

/-- **Every step of the dispatcher keeps the invariant** under the condition. -/
theorem consistent_go (hs : Consistent s) (hact : Reported s .go) (h : s.step .go = some s') :
    Consistent s' := by
  have herror : ∀ {pc : ReconnectPc}, s.pc = pc → pc.starting = false →
      connected s.log = false → s.error = true :=
    fun hpc hstarting h => hs.failed h (hpc ▸ hstarting)
  -- without an error there is a connection
  have hconnected : ∀ {pc : ReconnectPc}, s.pc = pc → pc.starting = false →
      s.error = false → connected s.log = true := by
    intro pc hpc hstarting hnone
    cases hlog : connected s.log with
    | true => rfl
    | false => exact nomatch hnone.symm.trans (herror hpc hstarting hlog)
  cases taken_of_go h with
  | loop hpc | error hpc | stillError hpc | sleep hpc =>
    exact hs.move nofun nofun (fun h _ => herror hpc rfl h) hs.retryCount
  | noError hpc hnone | recovered hpc hnone =>
    exact hs.move (fun _ _ => hconnected hpc rfl hnone) nofun (fun h _ => herror hpc rfl h)
      hs.retryCount
  | early hpc =>
    exact hs.move nofun nofun (fun h _ => herror hpc rfl h)
      (Int.le_trans (Int.sub_le_self _ (by decide)) hs.retryCount)
  | start =>
    exact hs.move nofun nofun (fun _ h => nomatch h)
      (Int.le_trans (Int.sub_le_self _ (by decide)) hs.retryCount)
  | clearError | setTimeout | timeoutSet =>
    exact hs.move nofun nofun (fun _ h => nomatch h) hs.retryCount
  | timeoutFailed hpc hfailed => exact hs.returns (fun _ => hfailed)
  | @testConnected ok hpc =>
    refine hs.returns (fun hfailed => ?_)
    cases ok with
    | true => simpa using hfailed
    | false => exact hact hpc
  | succeeded hpc =>
    have hlog := hs.returned true hpc
    exact hs.move nofun nofun (fun h => nomatch hlog.symm.trans h) hs.retryCount
  | failed hpc => exact hs.move nofun nofun (fun h _ => herror hpc rfl h) (Int.le_refl _)
  | update hpc => exact hs.update hpc nofun

/-- **Every step keeps the invariant** under the condition. -/
theorem consistent_step (hs : Consistent s) {act : ReconnectAct} (hact : Reported s act)
    (h : s.step act = some s') : Consistent s' := by
  cases act with
  | go => exact consistent_go hs hact h
  | exit =>
    rw [step] at h
    split at h
    · next hpc =>
      obtain rfl := Option.some.inj h
      exact hs.move nofun nofun (fun h _ => hs.failed h (hpc ▸ rfl)) hs.retryCount
    · exact nomatch h
  | connected ok =>
    rw [step] at h
    split at h
    · obtain rfl := Option.some.inj h
      exact hs.move nofun nofun (fun _ h => nomatch h) hs.retryCount
    · exact nomatch h
  | playlists due =>
    rw [step] at h
    split at h
    · next hpc =>
      obtain rfl := Option.some.inj h
      cases due with
      | true => exact hs.update hpc nofun
      | false =>
        simp only [Bool.false_eq_true, if_false, List.append_nil]
        exact hs.move nofun nofun (fun h _ => hs.failed h (hpc ▸ rfl)) hs.retryCount
    · exact nomatch h
  | connectionChanged connect =>
    obtain rfl := Option.some.inj h
    cases connect with
    | true => exact hs
    | false => exact { hs with failed := fun _ _ => rfl }

/-- **While it waits, a step of the dispatcher brings the next attempt nearer**, and there
is one. -/
theorem Waiting.go (hs : Consistent s) (hw : s.Waiting) : ∃ s', s.step .go = some s' ∧
    (s'.pc = .clearError ∨ s'.Waiting ∧ s'.untilRetry + 1 ≤ s.untilRetry) := by
  obtain ⟨hlog, hstarting, hfinished⟩ := hw
  have herror := hs.failed hlog hstarting
  have hretry := hs.retryCount
  obtain ⟨error, retryCount, pc, log⟩ := s
  obtain rfl : error = true := herror
  cases pc with
  | loop => exact ⟨_, rfl, .inr ⟨⟨hlog, rfl, nofun⟩, Nat.le_refl _⟩⟩
  | testError => exact ⟨_, rfl, .inr ⟨⟨hlog, rfl, nofun⟩, Nat.le_refl _⟩⟩
  | retry =>
    by_cases hover : retryCount ≤ 0
    · exact ⟨_, rfl, .inl (if_pos hover)⟩
    · refine ⟨⟨true, retryCount - 1, .testAgain, log⟩, ?_, .inr ⟨⟨hlog, rfl, nofun⟩, ?_⟩⟩
      · rw [step, if_neg hover]
      · show 5 * (retryCount - 1).toNat + 4 + 1 ≤ 5 * retryCount.toNat
        omega
  | returned ok =>
    obtain rfl : ok = false := (hs.returned ok rfl).symm.trans hlog
    exact ⟨_, rfl, .inr ⟨⟨hlog, rfl, nofun⟩, Nat.le_refl _⟩⟩
  | testAgain => exact ⟨_, rfl, .inr ⟨⟨hlog, rfl, nofun⟩, Nat.le_refl _⟩⟩
  | sleep => exact ⟨_, rfl, .inr ⟨⟨hlog, rfl, nofun⟩, Nat.le_refl _⟩⟩
  | update update => exact nomatch hlog.symm.trans (hs.updating update rfl)
  | finished => exact absurd rfl hfinished
  | clearError | setTimeout | testTimeout | connect | testConnected ok => exact nomatch hstarting

/-- **Nothing takes the dispatcher away from its next attempt** but `g_exit`. -/
theorem Waiting.step (hs : Consistent s) (hw : s.Waiting) {act : ReconnectAct}
    (hact : act ≠ .exit) (h : s.step act = some s') :
    s'.pc = .clearError ∨
      (Consistent s' ∧ s'.Waiting) ∧ s'.untilRetry + (act == .go).toNat ≤ s.untilRetry := by
  have hreported : Reported s act := by
    cases act with
    | go => exact fun hpc => absurd (hpc ▸ hw.2.1) (by decide)
    | exit | connected ok | playlists due | connectionChanged connect => exact trivial
  have hs' := consistent_step hs hreported h
  cases act with
  | go =>
    obtain ⟨t, ht, hgo⟩ := hw.go hs
    obtain rfl := Option.some.inj (ht.symm.trans h)
    exact hgo.imp_right (fun ⟨hw', hlower⟩ => ⟨⟨hs', hw'⟩, hlower⟩)
  | exit => exact absurd rfl hact
  | connected ok =>
    rw [Reconnecting.step] at h
    split at h
    · next hpc => exact absurd (hpc ▸ hw.2.1) (by decide)
    · exact nomatch h
  | playlists due =>
    rw [Reconnecting.step] at h
    split at h
    · next hpc => exact nomatch hw.1.symm.trans (hs.updating _ hpc)
    · exact nomatch h
  | connectionChanged connect =>
    obtain rfl := Option.some.inj h
    cases connect with
    | true => exact .inr ⟨⟨hs', hw⟩, Nat.le_refl _⟩
    | false => exact .inr ⟨⟨hs', hw⟩, Nat.le_refl _⟩

/-- While it waits, there are not more than 30 steps in front of the next attempt. -/
theorem Consistent.untilRetry_lt (hs : Consistent s) : s.untilRetry < 31 := by
  have hretry : s.retryCount ≤ 5 := hs.retryCount
  unfold untilRetry
  split <;> omega

/-- **The dispatcher that waits tries again.** -/
theorem Waiting.triesAgain (hs : Consistent s) (hw : s.Waiting) : s.TriesAgain := by
  obtain ⟨t, ht, -⟩ := hw.go hs
  refine ⟨⟨t, ht⟩, fun acts s' h hcount => ?_⟩
  have hstep : ∀ s act s', Consistent s ∧ s.Waiting → act ≠ .exit →
      reconnecting.step s act = some s' → s'.pc = .clearError ∨
        (Consistent s' ∧ s'.Waiting) ∧ s'.untilRetry + (act == .go).toNat ≤ s.untilRetry :=
    fun _ _ _ hI hact h => Waiting.step hI.1 hI.2 hact h
  exact StepSystem.passes_of_replay hstep ⟨hs, hw⟩ h
    (Nat.lt_of_lt_of_le hs.untilRetry_lt hcount)

/-- **The dispatcher updates only while the latest attempt has succeeded, and behind one
that has failed it is in the error state until it tries again**, in every run in which
`libmpd` reports each failed connect by the connection-changed callback. -/
theorem updates_of_reachableBy (hs : reconnecting.ReachableBy Reported s) :
    EachPrepared ReconnectEvent.Supported s.log
      ∧ (connected s.log = false → s.pc.starting = false → s.error = true)
      ∧ (s.Waiting → s.TriesAgain) := by
  have hinit : Consistent reconnecting.init :=
    ⟨.nil, nofun, nofun, nofun, Int.le_refl _⟩
  have hI := hs.invariant Consistent hinit (fun _ _ _ hI hact h => consistent_step hI hact h)
  exact ⟨hI.log, hI.failed, Waiting.triesAgain hI⟩

/-- An attempt fails, and the callback is called. -/
theorem updates_of_reachableBy_failed :
    ∃ s, reconnecting.ReachableBy Reported s ∧ s.log = [.started false] ∧ s.Waiting
      ∧ EachPrepared ReconnectEvent.Supported s.log
      ∧ (connected s.log = false → s.pc.starting = false → s.error = true)
      ∧ (s.Waiting → s.TriesAgain) := by
  let run := reconnecting.replay Reported reconnecting.init
    ([.connectionChanged false] ++ .replicate 31 .go
      ++ [.connectionChanged false, .connected false, .go])
  have hrun : run = some ⟨true, -1, .returned false, [.started false]⟩ := by decide +kernel
  have hs := StepSystem.reachableBy_of_replay .init hrun
  exact ⟨_, hs, rfl, ⟨rfl, rfl, nofun⟩, updates_of_reachableBy hs⟩

/-- An attempt fails, and the callback is not called. -/
theorem not_forall_updates :
    ¬ ∀ s, reconnecting.Reachable s → EachPrepared ReconnectEvent.Supported s.log
      ∧ (connected s.log = false → s.pc.starting = false → s.error = true)
      ∧ (s.Waiting → s.TriesAgain) := by
  intro h
  let run := reconnecting.replayAny reconnecting.init
    ([.connectionChanged false] ++ .replicate 31 .go ++ [.connected false, .go, .go, .go, .go])
  have hrun : run = some ⟨false, 5, .update .statusCheck,
      [.started false] ++ [.update .queueUpdate]⟩ := by decide +kernel
  have hlog := (h _ (StepSystem.reachableBy_of_replay .init hrun)).1
  have hconnected : connected [.started false] = true := hlog _ _ [] rfl
  exact absurd hconnected (by decide)

end Reconnecting
