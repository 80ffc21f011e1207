import LcdStuff.Modules
import LcdStuff.ServiceLoop
import LcdStuff.StepSystem

/-!
# The service thread and the modules

All threads of the program run together: the service thread, which calls the
callbacks of the modules and releases what it holds at its end, and the threads
of the modules, which register, queue commands and unregister. Any of them may
take the next step, and a signal may set `g_exit` at any time.

The cookie of a module is the address of a variable of its run function, so a
cookie *is* the module here. A callback must not be called with it any more
when the run function has returned (`Threads.gone`).

What has happened is kept in a log, each event with what was true when it
happened: whether the module was gone, whether what it used was released.
-/

namespace LcdModule

/-- The modules. -/
def all : List LcdModule := [.mplayer, .rss, .mail, .weather, .mpd]

theorem mem_all (m : LcdModule) : m ∈ all := by
  cases m <;> decide

/-- What can be decided of one module can be decided of all. -/
instance (p : LcdModule → Prop) [DecidablePred p] : Decidable (∀ m, p m) :=
  decidable_of_iff (∀ m ∈ all, p m)
    ⟨fun h m => h m (mem_all m), fun h m _ => h m⟩

/-- `MODULE_NAME` -/
def name : LcdModule → Str
  | .mplayer => "mplayer".toList
  | .rss => "rss".toList
  | .mail => "mail".toList
  | .weather => "weather".toList
  | .mpd => "mpd".toList

theorem client_name (bytes : LcdModule → Str) (m : LcdModule) :
    (m.client bytes).name = m.name := by
  cases m <;> rfl

theorem name_inj {m n : LcdModule} (h : m.name = n.name) : m = n := by
  cases m <;> cases n <;> first | rfl | exact absurd h (by decide)

end LcdModule

/-- What of `struct service_thread` is released at the end. -/
inductive Resource where
  /-- `command_queue` -/
  | queue
  /-- `clients` -/
  | clients
  /-- `mutex` -/
  | mutex
  deriving DecidableEq, Repr

/-- What an access uses. The number of clients is never released. -/
def Access.uses : Access → Resource → Bool
  | .insert _, .clients | .insert _, .mutex => true
  | .remove _, .clients | .remove _, .mutex => true
  | .push, .queue => true
  | _, _ => false

/-- What is released when the service thread is at a place. -/
def LoopPc.released {β : Type} : LoopPc β → Resource → Bool
  | .destroyClients, .queue => true
  | .freeMutex, .queue | .freeMutex, .clients => true
  | .returned, _ => true
  | _, _ => false

/-- What the service thread releases next. -/
def LoopPc.releases {β : Type} : LoopPc β → Option Resource
  | .unrefQueue => some .queue
  | .destroyClients => some .clients
  | .freeMutex => some .mutex
  | _ => none

/-- What a module has done about its registration. -/
inductive Phase where
  /-- It has not registered yet. -/
  | fresh
  /-- It has registered. -/
  | registered
  /-- It has registered, and then its init function has failed. -/
  | failed
  /-- It has unregistered. -/
  | unregistered
  deriving DecidableEq, Repr

/-- **What has happened.** -/
inductive ThreadsEvent where
  /-- A callback was called, of a module that was gone or not, with `g_exit` as
  it was. -/
  | callback (call : Callback LcdModule) (gone gExit : Bool)
  /-- A function of the service thread's interface has seen that `g_exit` is not
  set, when the queue was released or not. -/
  | pass (m : LcdModule) (late : Bool)
  /-- An access was made, to something that was released or not. -/
  | access (m : LcdModule) (a : Access) (late : Bool)
  deriving DecidableEq, Repr

/-- **The program while its threads run.** -/
structure Threads where
  /-- The service thread. -/
  loop : ServiceLoop LcdModule
  /-- `g_exit` -/
  gExit : Bool
  /-- What is left to do of each module's run function. -/
  left : LcdModule → List ModuleCode
  /-- What each module has done about its registration. -/
  phase : LcdModule → Phase
  /-- What `g_atomic_int_dec_and_test` has answered to each module. -/
  last : LcdModule → Bool
  /-- What has happened, the latest first. -/
  log : List ThreadsEvent

/-- **What can happen next.** -/
inductive ThreadsAct where
  /-- `SIGTERM` or `SIGINT` arrives. -/
  | signal
  /-- The service thread takes a step. -/
  | service (input : LoopInput)
  /-- A module's thread takes a step, in one of two ways where it is open. -/
  | module (m : LcdModule) (choice : Bool)
  deriving DecidableEq, Repr

namespace Threads

/-- The module has unregistered, or its run function has returned. -/
def gone (s : Threads) (m : LcdModule) : Bool :=
  decide (s.phase m = .unregistered) || (s.left m).isEmpty

/-- The client is the one of a module that is gone. -/
def clientGone (s : Threads) (client : Client) : Bool :=
  LcdModule.all.any (fun m => decide (m.name = client.name) && s.gone m)

/-- The access is to something that was released. -/
def late (s : Threads) (a : Access) : Bool :=
  [Resource.queue, .clients, .mutex].any (fun r => a.uses r && s.loop.pc.released r)

/-- A module makes an access. -/
def perform (s : Threads) (m : LcdModule) : Access → Threads
  | .insert client => { s with
      loop := { s.loop with svc := s.loop.svc.insertClient client (some m) }
      phase := Function.update s.phase m .registered }
  | .countUp => { s with loop := { s.loop with
      svc := { s.loop.svc with clientNumber := s.loop.svc.clientNumber + 1 } } }
  | .remove name => { s with
      loop := { s.loop with svc := s.loop.svc.removeClient name }
      phase := Function.update s.phase m .unregistered }
  | .countDown => { s with
      loop := { s.loop with
        svc := { s.loop.svc with clientNumber := s.loop.svc.clientNumber - 1 } }
      last := Function.update s.last m (decide (s.loop.svc.clientNumber - 1 = 0)) }
  | .exitIfLast => { s with gExit := s.gExit || s.last m }
  | .push => s
  | .initFailed => { s with phase := Function.update s.phase m .failed }

/-- A test of `g_exit` that lets a function of the interface go on. -/
def passes (s : Threads) (m : LcdModule) : List ThreadsEvent :=
  match s.left m, s.gExit with
  | .unless _ _ :: _, false => [.pass m (s.loop.pc.released .queue)]
  | _, _ => []

/-- A step of a module's thread. -/
def moduleStep (s : Threads) (m : LcdModule) (choice : Bool) : Option Threads :=
  match Code.step (fun _ => s.gExit) choice (s.left m) with
  | none => none
  | some (none, k) => some { s with
      left := Function.update s.left m k
      log := s.passes m ++ s.log }
  | some (some a, k) =>
    let s' := { s with left := Function.update s.left m k }
    some { s'.perform m a with log := .access m a (s.late a) :: s.log }

/-- The callback that the next step of the service thread calls. -/
def calls (s : Threads) : List ThreadsEvent :=
  match s.loop.pc with
  | .call _ call => [.callback call (s.clientGone call.client) s.gExit]
  | _ => []

/-- **A step of the program.** -/
def step (s : Threads) : ThreadsAct → Option Threads
  | .signal => some { s with gExit := true }
  | .service input =>
    match s.loop.step s.gExit input with
    | none => none
    | some loop => some { s with loop := loop, log := s.calls ++ s.log }
  | .module m choice => s.moduleStep m choice

/-- The program when `main` has created the threads. -/
def init (bytes : LcdModule → Str) : Threads :=
  ⟨.init, false, fun m => [m.run bytes], fun _ => .fresh, fun _ => false, []⟩

/-- **The program**, for what the memory of the clients reads as. -/
def system (bytes : LcdModule → Str) : StepSystem Threads ThreadsAct :=
  ⟨init bytes, step⟩

/-! ## What a step can do -/

variable {s s' : Threads}

/-- **The inversion of a step of a module**: it goes on in its code, or it makes
an access. -/
theorem of_moduleStep {m : LcdModule} {choice : Bool}
    (h : s.moduleStep m choice = some s') :
    (∃ k, Code.step (fun _ => s.gExit) choice (s.left m) = some (none, k)
      ∧ s' = { s with left := Function.update s.left m k, log := s.passes m ++ s.log })
    ∨ ∃ a k, Code.step (fun _ => s.gExit) choice (s.left m) = some (some a, k)
      ∧ s' = { Threads.perform { s with left := Function.update s.left m k } m a with
          log := .access m a (s.late a) :: s.log } := by
  unfold moduleStep at h
  split at h
  · exact absurd h (by simp)
  · next k hstep => exact .inl ⟨k, hstep, (Option.some.inj h).symm⟩
  · next a k hstep => exact .inr ⟨a, k, hstep, (Option.some.inj h).symm⟩

/-- The inversion of a step of the service thread. -/
theorem of_serviceStep {input : LoopInput} (h : s.step (.service input) = some s') :
    ∃ loop, s.loop.step s.gExit input = some loop
      ∧ s' = { s with loop := loop, log := s.calls ++ s.log } := by
  unfold step at h
  dsimp only at h
  split at h
  · exact absurd h (by simp)
  · next loop hloop => exact ⟨loop, hloop, (Option.some.inj h).symm⟩

/-- A module that has returned takes no step. -/
theorem left_ne_nil_of_step {eval : Test → Bool} {choice : Bool} {m : LcdModule}
    {r : Option Access × List ModuleCode} (h : Code.step eval choice (s.left m) = some r) :
    s.left m ≠ [] := by
  intro hnil
  rw [hnil] at h
  exact absurd h (by simp [Code.step])

/-- An access changes neither where the service thread is nor what is left to
do, and it does not reset `g_exit`. -/
theorem perform_frame (s : Threads) (m : LcdModule) (a : Access) :
    (s.perform m a).loop.pc = s.loop.pc ∧ (s.perform m a).left = s.left
      ∧ (s.gExit = true → (s.perform m a).gExit = true) := by
  cases a with
  | exitIfLast => exact ⟨rfl, rfl, fun h => by simp [perform, h]⟩
  | insert client => exact ⟨rfl, rfl, id⟩
  | countUp => exact ⟨rfl, rfl, id⟩
  | remove name => exact ⟨rfl, rfl, id⟩
  | countDown => exact ⟨rfl, rfl, id⟩
  | push => exact ⟨rfl, rfl, id⟩
  | initFailed => exact ⟨rfl, rfl, id⟩

end Threads
