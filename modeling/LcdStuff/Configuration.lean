import LcdStuff.Holders
import LcdStuff.StepSystem
import LcdStuff.Threads

/-!
# Who reads the configuration, and who frees it

The configuration file is kept in memory until every thread has read what it
needs. `s_refcount_conf` counts the threads that may still read it: it begins
at the number of modules that were compiled in plus one for the set-up of the
service thread, `conf_dec_count` lowers it, and the thread that brings it to
zero frees the file.

What a thread does with the file is given as code, as what it does with the
service thread is (`LcdModule.run`). The tests of this code are what the
configuration file and the world have in store for the program (`Setup`): which
groups there are, which modules can be initialised, and whether the music
player daemon answers. How often a thread reads where that depends on a number
in the file is left open.

No thread reads behind its own `conf_dec_count`, and none calls it twice, so
the file is freed once and not read any more then
(`Configuration.not_read_after_close`). Not every thread comes to its
`conf_dec_count`, though: a set-up without a `network` group, a disabled `mail`
module and every module that cannot be initialised but `mplayer` return without
it, and then the file stays (`Configuration.decremented_iff`).
-/

/-- Who uses the configuration. -/
inductive ConfUser where
  /-- The main thread, in `service_thread_init`. -/
  | main
  /-- The thread of a module. -/
  | module (m : LcdModule)
  deriving DecidableEq, Repr

/-- What a thread does with the configuration. -/
inductive ConfAccess where
  /-- One of the `key_file_*` functions that read. -/
  | read
  /-- `g_atomic_int_dec_and_test (&s_refcount_conf)` -/
  | decrement
  /-- `key_file_close`, if the counter has become zero. -/
  | closeIfZero
  /-- The dispatcher loop is entered. It touches nothing. -/
  | dispatch
  deriving DecidableEq, Repr

/-- **What the program finds** when it is started. -/
structure Setup where
  /-- There is a group `network`. -/
  network : Bool
  /-- There is a group for the module. -/
  group : LcdModule → Bool
  /-- The init function of the module returns `true`. -/
  initialised : LcdModule → Bool
  /-- `mpd_init_connection` and the first `mpd_start_connection` return
  `true`. -/
  connected : Bool

/-- What a thread tests. -/
inductive SetupTest where
  /-- `key_file_has_group ("network")` -/
  | network
  /-- `key_file_has_group (MODULE_NAME)` -/
  | group (m : LcdModule)
  /-- What the init function of the module has returned. -/
  | initialised (m : LcdModule)
  /-- What `mpd_init_connection` and `mpd_start_connection` have returned. -/
  | connected
  deriving DecidableEq, Repr

/-- How a test is answered. -/
def Setup.answer (setup : Setup) : SetupTest → Bool
  | .network => setup.network
  | .group m => setup.group m
  | .initialised m => setup.initialised m
  | .connected => setup.connected

/-- The code of a user of the configuration. -/
abbrev ConfCode := Code ConfAccess SetupTest

namespace ConfUser

open Code

/-! ## What each of them does -/

/-- `key_file_has_group`, `key_file_get_string` and the like -/
def keyFileGet : ConfCode := .act .read

/-- `conf_dec_count` -/
def confDecCount : ConfCode := chain [.act .decrement, .act .closeIfZero]

/-- `service_thread_init` -/
def serviceThreadInit : ConfCode :=
  chain [keyFileGet, .unless .network .ret, keyFileGet, confDecCount]

/-- `mplayer_init` reads the name, the keys and then the channels. -/
def mplayerInit : ConfCode :=
  chain [keyFileGet, keyFileGet, .many (.either .skip keyFileGet)]

/-- `mplayer_run` -/
def mplayerRun : ConfCode :=
  chain [keyFileGet, .unless (.group .mplayer) (chain [confDecCount, .ret]),
    mplayerInit, confDecCount, .unless (.initialised .mplayer) .ret, .act .dispatch]

/-- `rss_init` reads the interval, the number of feeds and then the feeds. -/
def rssInit : ConfCode :=
  chain [keyFileGet, keyFileGet, .many (chain [keyFileGet, keyFileGet, keyFileGet])]

/-- `rss_run` -/
def rssRun : ConfCode :=
  chain [keyFileGet, .unless (.group .rss) (chain [confDecCount, .ret]),
    rssInit, .unless (.initialised .rss) .ret, confDecCount, .act .dispatch]

/-- `mail_init` reads the name twice, the interval, the number of mailboxes and
then the mailboxes. -/
def mailInit : ConfCode :=
  chain [keyFileGet, keyFileGet, keyFileGet, keyFileGet,
    .many (chain (List.replicate 7 keyFileGet))]

/-- `mail_run`. Without its group it returns at once. -/
def mailRun : ConfCode :=
  chain [keyFileGet, .unless (.group .mail) .ret,
    mailInit, .unless (.initialised .mail) .ret, confDecCount, .act .dispatch]

/-- `weather_init`, which never returns `false`. -/
def weatherInit : ConfCode := chain (List.replicate 5 keyFileGet)

/-- `weather_run` -/
def weatherRun : ConfCode :=
  chain [keyFileGet, .unless (.group .weather) (chain [confDecCount, .ret]),
    weatherInit, confDecCount, .act .dispatch]

/-- `mpd_init_connection` -/
def mpdInitConnection : ConfCode := chain (List.replicate 4 keyFileGet)

/-- `mpd_run`. Its `mpd_init` reads the name and never returns `false`. -/
def mpdRun : ConfCode :=
  chain [keyFileGet, .unless (.group .mpd) (chain [confDecCount, .ret]),
    keyFileGet, mpdInitConnection, .unless .connected .ret, confDecCount, .act .dispatch]

/-- What a user of the configuration does with it. -/
def run : ConfUser → ConfCode
  | .main => serviceThreadInit
  | .module .mplayer => mplayerRun
  | .module .rss => rssRun
  | .module .mail => mailRun
  | .module .weather => weatherRun
  | .module .mpd => mpdRun

end ConfUser

/-- What has happened to the configuration. -/
inductive ConfEvent where
  /-- It was read, and it was freed before or not. -/
  | read (user : ConfUser) (closed : Bool)
  /-- `conf_dec_count` was called. -/
  | decrement (user : ConfUser)
  /-- `key_file_close` was called. -/
  | close (user : ConfUser)
  deriving DecidableEq, Repr

/-- **The configuration while the threads start.** -/
structure Configuration where
  /-- `s_refcount_conf` -/
  refcount : Int
  /-- What `g_atomic_int_dec_and_test` has answered. -/
  zero : ConfUser → Bool
  /-- What is left of each thread's code. -/
  left : ConfUser → List ConfCode
  /-- The modules that have entered their dispatcher loop. -/
  dispatching : ConfUser → Bool
  /-- What has happened, the latest first. -/
  log : List ConfEvent

/-- A thread takes a step, in one of two ways where it is open. -/
structure ConfAct where
  /-- Whose thread it is. -/
  user : ConfUser
  /-- The way. -/
  choice : Bool
  deriving DecidableEq, Repr

namespace Configuration

/-- The number of calls of `conf_dec_count`. -/
def decrements (s : Configuration) : ℕ :=
  s.log.countP (fun e => match e with | .decrement _ => true | _ => false)

/-- The number of calls of `key_file_close`. -/
def closes (s : Configuration) : ℕ :=
  s.log.countP (fun e => match e with | .close _ => true | _ => false)

/-- A thread makes an access. -/
def perform (s : Configuration) (user : ConfUser) : ConfAccess → Configuration
  | .read => { s with log := .read user (decide (0 < s.closes)) :: s.log }
  | .decrement => { s with
      refcount := s.refcount - 1
      zero := Function.update s.zero user (decide (s.refcount - 1 = 0))
      log := .decrement user :: s.log }
  | .closeIfZero => if s.zero user then { s with log := .close user :: s.log } else s
  | .dispatch => { s with dispatching := Function.update s.dispatching user true }

/-- **A step of a thread.** `main` creates the threads of the modules when
`service_thread_init` has returned. -/
def step (setup : Setup) (s : Configuration) (act : ConfAct) : Option Configuration :=
  if act.user ≠ .main ∧ s.left .main ≠ [] then none
  else
    match Code.step setup.answer act.choice (s.left act.user) with
    | none => none
    | some (none, k) => some { s with left := Function.update s.left act.user k }
    | some (some a, k) =>
      some (perform { s with left := Function.update s.left act.user k } act.user a)

/-- The threads that use the configuration, for the modules compiled in. -/
def users (compiled : Finset LcdModule) : Finset ConfUser :=
  insert .main (compiled.image .module)

/-- The configuration when `main` has loaded it. -/
def init (compiled : Finset LcdModule) : Configuration :=
  ⟨compiled.card + 1, fun _ => false,
    fun user => if user ∈ users compiled then [user.run] else [], fun _ => false, []⟩

/-- **The start of the program**, for the modules compiled in and what it
finds. -/
def system (compiled : Finset LcdModule) (setup : Setup) :
    StepSystem Configuration ConfAct :=
  ⟨init compiled, step setup⟩

/-- `service_thread_init` has returned, and every module has returned or is in
its dispatcher loop. -/
def Settled (s : Configuration) : Prop :=
  s.left .main = [] ∧ ∀ m, s.left (.module m) = [] ∨ s.dispatching (.module m) = true

instance (s : Configuration) : Decidable s.Settled := inferInstanceAs (Decidable (_ ∧ _))

end Configuration

/-! ## Each thread counts itself once -/

/-- What a thread has done about its count. -/
inductive Hold where
  /-- It may still read. -/
  | holding
  /-- It has lowered the counter and may have to free the file. -/
  | dropping
  /-- It is done with the configuration. -/
  | dropped
  deriving DecidableEq, Repr

/-- What an access does to a thread's hold on the configuration. The dispatcher
is entered by a thread that is done with it, and is to be. -/
def Hold.next (last : Hold) : ConfAccess → Hold → Option Hold
  | .read, .holding => some .holding
  | .decrement, .holding => some .dropping
  | .closeIfZero, .dropping => some .dropped
  | .dispatch, .dropped => if last = .dropped then some .dropped else none
  | _, _ => none

/-- **The inversion of an access.** -/
theorem Hold.of_next {last t u : Hold} {a : ConfAccess} (h : Hold.next last a t = some u) :
    match a with
    | .read => t = .holding ∧ u = .holding
    | .decrement => t = .holding ∧ u = .dropping
    | .closeIfZero => t = .dropping ∧ u = .dropped
    | .dispatch => t = .dropped ∧ u = .dropped ∧ last = .dropped := by
  cases a with
  | dispatch =>
    cases t with
    | dropped =>
      have h : (if last = .dropped then some Hold.dropped else none) = some u := h
      by_cases hlast : last = .dropped
      · rw [if_pos hlast] at h
        exact ⟨rfl, (Option.some.inj h).symm, hlast⟩
      · rw [if_neg hlast] at h
        exact absurd h (by simp)
    | holding | dropping => exact absurd h (by simp [Hold.next])
  | read | decrement | closeIfZero =>
    cases t <;>
      first
        | exact ⟨rfl, (Option.some.inj h).symm⟩
        | exact absurd h (by simp [Hold.next])

/-- **To read, to count down once and not to read again**, and to end as
`last`. -/
def Discipline.counting (answer : SetupTest → Bool) (last : Hold) :
    Discipline ConfAccess SetupTest Hold :=
  ⟨Hold.next last, fun c a => a == answer c, fun t => decide (t = last)⟩

/-- The thread comes to its `conf_dec_count`. -/
def Setup.drops (setup : Setup) : ConfUser → Bool
  | .main => setup.network
  | .module .mplayer => true
  | .module .rss => !setup.group .rss || setup.initialised .rss
  | .module .mail => setup.group .mail && setup.initialised .mail
  | .module .weather => true
  | .module .mpd => !setup.group .mpd || setup.connected

/-- **Every thread comes to its `conf_dec_count`**: there is a group `network`,
`mail` is enabled and can be initialised, and so can `rss` and `mpd` if they are
enabled. -/
def Setup.Releases (setup : Setup) (compiled : Finset LcdModule) : Prop :=
  setup.network = true
    ∧ (.mail ∈ compiled → setup.group .mail = true ∧ setup.initialised .mail = true)
    ∧ (.rss ∈ compiled → setup.group .rss = true → setup.initialised .rss = true)
    ∧ (.mpd ∈ compiled → setup.group .mpd = true → setup.connected = true)

/-- What is left of a thread's hold when it is settled. -/
def Setup.last (setup : Setup) (user : ConfUser) : Hold :=
  if setup.drops user then .dropped else .holding

namespace ConfUser

/-! The pieces of the code lead from one hold to the next. -/

section
variable {answer : SetupTest → Bool} {last : Hold} {post : Hold → Bool}

/-- A thread that may read still may when it has read. -/
theorem meets_keyFileGet :
    (Discipline.counting answer last).meets keyFileGet post .holding = post .holding := rfl

/-- A thread calls `conf_dec_count`. -/
theorem meets_confDecCount :
    (Discipline.counting answer last).meets confDecCount post .holding = post .dropped := rfl

/-- A loop that only reads. -/
theorem meets_many {p : ConfCode}
    (hp : ∀ post, (Discipline.counting answer last).meets p post .holding = post .holding) :
    (Discipline.counting answer last).meets (.many p) post .holding = post .holding := by
  rw [Discipline.meets, hp]
  exact Bool.and_true _

theorem meets_inits :
    (Discipline.counting answer last).meets mplayerInit post .holding = post .holding
      ∧ (Discipline.counting answer last).meets rssInit post .holding = post .holding
      ∧ (Discipline.counting answer last).meets mailInit post .holding = post .holding
      ∧ (Discipline.counting answer last).meets weatherInit post .holding = post .holding
      ∧ (Discipline.counting answer last).meets mpdInitConnection post .holding
        = post .holding :=
  ⟨meets_many (fun _ => Bool.and_self _), meets_many (fun _ => rfl),
    meets_many (fun _ => rfl), rfl, rfl⟩

/-- The dispatcher is entered. -/
theorem meets_dispatch :
    (Discipline.counting answer last).meets (.act .dispatch) post .dropped
      = (decide (last = .dropped) && post .dropped) := by
  show (if last = .dropped then some Hold.dropped else none).any post = _
  by_cases h : last = .dropped
  · rw [if_pos h, decide_eq_true h]
    rfl
  · rw [if_neg h, decide_eq_false h]
    rfl

/-- A test of what the program finds. -/
theorem meets_unless {c : SetupTest} {p : ConfCode} {t : Hold} :
    (Discipline.counting answer last).meets (.unless c p) post t
      = bif answer c then post t else (Discipline.counting answer last).meets p post t := by
  show ((!(true == answer c) || post t)
    && (!(false == answer c) || (Discipline.counting answer last).meets p post t)) = _
  cases answer c <;> simp

end

open Discipline

/-- **Every thread keeps to it**, on every way through its code. -/
theorem meets_run (setup : Setup) (user : ConfUser) :
    (counting setup.answer (setup.last user)).meetsAll [user.run] .holding = true := by
  show (counting _ _).meets user.run (fun t => decide (t = _)) .holding = true
  cases user with
  | main =>
    simp only [run, serviceThreadInit, meets_chain_cons, meets_chain_nil, meets_keyFileGet,
      meets_confDecCount, meets_unless, meets_ret, Setup.answer]
    cases h : setup.network <;> simp [counting, Setup.last, Setup.drops, h]
  | module m =>
    cases m with
    | mplayer =>
      simp only [run, mplayerRun, meets_chain_cons, meets_chain_nil, meets_keyFileGet,
        meets_confDecCount, meets_unless, meets_ret, meets_inits, meets_dispatch, Setup.answer]
      cases setup.group .mplayer <;> cases setup.initialised .mplayer <;> rfl
    | rss =>
      simp only [run, rssRun, meets_chain_cons, meets_chain_nil, meets_keyFileGet,
        meets_confDecCount, meets_unless, meets_ret, meets_inits, meets_dispatch, Setup.answer]
      cases h : setup.group .rss <;> cases h' : setup.initialised .rss <;>
        simp [counting, Setup.last, Setup.drops, h, h']
    | mail =>
      simp only [run, mailRun, meets_chain_cons, meets_chain_nil, meets_keyFileGet,
        meets_confDecCount, meets_unless, meets_ret, meets_inits, meets_dispatch, Setup.answer]
      cases h : setup.group .mail <;> cases h' : setup.initialised .mail <;>
        simp [counting, Setup.last, Setup.drops, h, h']
    | weather =>
      simp only [run, weatherRun, meets_chain_cons, meets_chain_nil, meets_keyFileGet,
        meets_confDecCount, meets_unless, meets_ret, meets_inits, meets_dispatch, Setup.answer]
      cases setup.group .weather <;> rfl
    | mpd =>
      simp only [run, mpdRun, meets_chain_cons, meets_chain_nil, meets_keyFileGet,
        meets_confDecCount, meets_unless, meets_ret, meets_inits, meets_dispatch, Setup.answer]
      cases h : setup.group .mpd <;> cases h' : setup.connected <;>
        simp [counting, Setup.last, Setup.drops, h, h']

end ConfUser

/-- The thread may still read. -/
def Hold.held (t : Hold) : Bool := decide (t = .holding)

namespace Configuration

variable {compiled : Finset LcdModule} {setup : Setup} {s s' : Configuration}
  {hold : ConfUser → Hold} {user : ConfUser}

/-! ## What the counter says -/

/-- **The invariant**: `s_refcount_conf` is the number of the threads that may
still read, and the file is freed by the one that has found it zero. -/
structure Counted (compiled : Finset LcdModule) (setup : Setup) (s : Configuration)
    (hold : ConfUser → Hold) : Prop where
  /-- The threads keep to the order. -/
  code : ∀ user ∈ users compiled,
    (Discipline.counting setup.answer (setup.last user)).meetsAll (s.left user) (hold user)
      = true
  /-- There are no other threads. -/
  only : ∀ user, user ∉ users compiled → s.left user = []
  /-- The counter. -/
  refcount : s.refcount = holders (users compiled) (fun user => (hold user).held)
  /-- Every call of `conf_dec_count` was one thread's. -/
  decrements : s.decrements + holders (users compiled) (fun user => (hold user).held)
    = (users compiled).card
  /-- A thread that has found the counter at zero is the only one. -/
  zero : ∀ user, s.zero user = true → (hold user).held = false ∧ s.refcount = 0
    ∧ ∀ other, s.zero other = true → other = user
  /-- Once it is at zero, a thread has found it there. -/
  found : s.refcount = 0 → ∃ user ∈ users compiled, s.zero user = true
  /-- That thread frees the file, once. -/
  closed : ∀ user, s.zero user = true → hold user = .dropped → s.closes = 1
  /-- No other does. -/
  opened : (∀ user, s.zero user = true → hold user ≠ .dropped) → s.closes = 0
  /-- A module enters its dispatcher as it will end. -/
  dispatching : ∀ user, s.dispatching user = true →
    hold user = .dropped ∧ setup.last user = .dropped
  /-- Nothing was read too late. -/
  read : ∀ user closed, .read user closed ∈ s.log → closed = false

/-- **The inversion of a step**: a thread goes on in its code, or it makes an
access. -/
theorem of_step {act : ConfAct} (h : s.step setup act = some s') :
    (∃ k, Code.step setup.answer act.choice (s.left act.user) = some (none, k)
      ∧ s' = { s with left := Function.update s.left act.user k })
    ∨ ∃ a k, Code.step setup.answer act.choice (s.left act.user) = some (some a, k)
      ∧ s' = perform { s with left := Function.update s.left act.user k } act.user a := by
  unfold step at h
  split at h
  · exact absurd h (by simp)
  · split at h
    · exact absurd h (by simp)
    · next k hstep => exact .inl ⟨k, hstep, (Option.some.inj h).symm⟩
    · next a k hstep => exact .inr ⟨a, k, hstep, (Option.some.inj h).symm⟩

/-- Only a thread that is there takes a step. -/
theorem Counted.mem_users (hs : Counted compiled setup s hold) {choice : Bool}
    {r : Option ConfAccess × List ConfCode}
    (h : Code.step setup.answer choice (s.left user) = some r) : user ∈ users compiled := by
  by_contra hnot
  rw [hs.only user hnot] at h
  exact absurd h (by simp [Code.step])

/-- What is left to do of one thread changes, and so may its hold. -/
theorem Counted.code_update (hs : Counted compiled setup s hold) {k : List ConfCode} {t : Hold}
    (hk : (Discipline.counting setup.answer (setup.last user)).meetsAll k t = true) :
    ∀ other ∈ users compiled,
      (Discipline.counting setup.answer (setup.last other)).meetsAll
        (Function.update s.left user k other) (Function.update hold user t other) = true := by
  intro other hother
  by_cases h : other = user
  · subst h
    rw [Function.update_self, Function.update_self]
    exact hk
  · rw [Function.update_of_ne h, Function.update_of_ne h]
    exact hs.code other hother

theorem Counted.only_update (hs : Counted compiled setup s hold) {k : List ConfCode}
    (huser : user ∈ users compiled) :
    ∀ other, other ∉ users compiled → Function.update s.left user k other = [] := by
  intro other hother
  have hne : other ≠ user := fun h => hother (h.symm ▸ huser)
  rw [Function.update_of_ne hne]
  exact hs.only other hother

/-- A thread goes on in its code. -/
theorem Counted.goesOn (hs : Counted compiled setup s hold) {k : List ConfCode}
    (huser : user ∈ users compiled)
    (hk : (Discipline.counting setup.answer (setup.last user)).meetsAll k (hold user) = true) :
    Counted compiled setup { s with left := Function.update s.left user k } hold := by
  have hcode := hs.code_update hk
  rw [Function.update_eq_self] at hcode
  exact { hs with code := hcode, only := hs.only_update huser }

/-- As long as a thread may read, no thread has found the counter at zero. -/
theorem Counted.zero_eq_false (hs : Counted compiled setup s hold)
    (huser : user ∈ users compiled) (hheld : (hold user).held = true) (other : ConfUser) :
    s.zero other = false := by
  refine Bool.eq_false_iff.mpr (fun hzero => ?_)
  have hnone := hs.refcount.symm.trans (hs.zero other hzero).2.1
  have hfree := holders_eq_zero_iff.mp (Int.ofNat_inj.mp hnone) user huser
  exact Bool.false_ne_true (hfree.symm.trans hheld)

/-- A thread that may read finds the file open. -/
theorem Counted.closes_eq_zero (hs : Counted compiled setup s hold)
    (huser : user ∈ users compiled) (hheld : (hold user).held = true) : s.closes = 0 :=
  hs.opened (fun other hzero =>
    absurd hzero (by rw [hs.zero_eq_false huser hheld other]; exact Bool.false_ne_true))

/-- The number of holders when one thread has dropped its hold. -/
theorem holders_update (huser : user ∈ users compiled) (hheld : (hold user).held = true) :
    holders (users compiled) (fun other => (Function.update hold user .dropping other).held) + 1
      = holders (users compiled) (fun other => (hold other).held) := by
  refine holders_lose huser hheld ?_ (fun other hne => ?_)
  · rw [Function.update_self]
    rfl
  · rw [Function.update_of_ne hne]

/-- A thread that goes on to be done with the configuration held it no more. -/
theorem held_update_dropped (hhold : hold user = .dropping) (other : ConfUser) :
    (Function.update hold user .dropped other).held = (hold other).held := by
  by_cases hne : other = user
  · subst hne
    rw [Function.update_self, hhold]
    rfl
  · rw [Function.update_of_ne hne]

/-- The hold of a thread that is in its dispatcher does not change. -/
theorem Counted.dispatching_update (hs : Counted compiled setup s hold)
    (hhold : hold user ≠ .dropped) (t : Hold) (other : ConfUser)
    (h : s.dispatching other = true) :
    Function.update hold user t other = .dropped ∧ setup.last other = .dropped := by
  have hne : other ≠ user := by
    rintro rfl
    exact hhold (hs.dispatching other h).1
  rw [Function.update_of_ne hne]
  exact hs.dispatching other h

/-- **A thread calls `conf_dec_count`**: it has not read late, and it alone finds
the counter at zero. -/
theorem Counted.decrement (hs : Counted compiled setup s hold) {k : List ConfCode}
    (huser : user ∈ users compiled) (hhold : hold user = .holding)
    (hk : (Discipline.counting setup.answer (setup.last user)).meetsAll k .dropping = true) :
    Counted compiled setup
      (perform { s with left := Function.update s.left user k } user .decrement)
      (Function.update hold user .dropping) := by
  have hheld : (hold user).held = true := by
    rw [hhold]
    rfl
  have hzero := hs.zero_eq_false huser hheld
  have hcount := holders_update huser hheld
  have hrefcount := hs.refcount
  have hself : ∀ other, Function.update s.zero user (decide (s.refcount - 1 = 0)) other = true →
      other = user := by
    intro other h
    by_contra hne
    rw [Function.update_of_ne hne, hzero other] at h
    exact Bool.false_ne_true h
  exact {
    code := hs.code_update hk
    only := hs.only_update huser
    refcount := by
      show s.refcount - 1 = _
      omega
    decrements := by
      have hsum := hs.decrements
      have hlog : List.countP (fun e => match e with | .decrement _ => true | _ => false)
          (.decrement user :: s.log) = s.decrements + 1 := List.countP_cons_of_pos rfl
      show List.countP _ (.decrement user :: s.log) + _ = _
      rw [hlog]
      omega
    zero := fun other h => by
      obtain rfl := hself other h
      have h0 : Function.update s.zero other (decide (s.refcount - 1 = 0)) other = true := h
      rw [Function.update_self] at h0
      refine ⟨?_, of_decide_eq_true h0, hself⟩
      rw [Function.update_self]
      rfl
    found := fun h => ⟨user, huser, (Function.update_self ..).trans (decide_eq_true h)⟩
    closed := fun other h hdropped => by
      obtain rfl := hself other h
      rw [Function.update_self] at hdropped
      exact absurd hdropped (by decide)
    opened := fun _ => hs.closes_eq_zero huser hheld
    dispatching := hs.dispatching_update (hhold ▸ nofun) .dropping
    read := fun other closed h =>
      hs.read other closed ((List.mem_cons.mp h).resolve_left (by simp)) }

/-- **A thread frees the file** if it has found the counter at zero, and it is
the first to do so. -/
theorem Counted.closeIfZero (hs : Counted compiled setup s hold) {k : List ConfCode}
    (huser : user ∈ users compiled) (hhold : hold user = .dropping)
    (hk : (Discipline.counting setup.answer (setup.last user)).meetsAll k .dropped = true) :
    Counted compiled setup
      (perform { s with left := Function.update s.left user k } user .closeIfZero)
      (Function.update hold user .dropped) := by
  have hholders : holders (users compiled)
      (fun other => (Function.update hold user .dropped other).held)
        = holders (users compiled) (fun other => (hold other).held) :=
    holders_congr (fun other _ => held_update_dropped hhold other)
  have hrefcount : s.refcount = holders (users compiled)
      (fun other => (Function.update hold user .dropped other).held) := by
    rw [hholders]
    exact hs.refcount
  have hdecrements : s.decrements + holders (users compiled)
      (fun other => (Function.update hold user .dropped other).held) = (users compiled).card := by
    rw [hholders]
    exact hs.decrements
  have hne : hold user ≠ .dropped := by
    rw [hhold]
    exact nofun
  have hdispatching := hs.dispatching_update hne .dropped
  have hzero : ∀ other, s.zero other = true →
      (Function.update hold user .dropped other).held = false ∧ s.refcount = 0
        ∧ ∀ another, s.zero another = true → another = other := by
    intro other h
    rw [held_update_dropped hhold]
    exact hs.zero other h
  by_cases huserZero : s.zero user = true
  · -- it is the only one that has found the counter at zero, and has not freed the file yet
    have hopened : s.closes = 0 := hs.opened (fun other h hdropped => by
      obtain rfl := (hs.zero user huserZero).2.2 other h
      exact absurd (hhold.symm.trans hdropped) (by decide))
    have hlog : List.countP (fun e => match e with | .close _ => true | _ => false)
        (.close user :: s.log) = s.closes + 1 := List.countP_cons_of_pos rfl
    have hperform : perform { s with left := Function.update s.left user k } user .closeIfZero
        = { s with left := Function.update s.left user k, log := .close user :: s.log } :=
      if_pos huserZero
    rw [hperform]
    exact {
      code := hs.code_update hk
      only := hs.only_update huser
      refcount := hrefcount
      decrements := hdecrements
      zero := hzero
      found := hs.found
      closed := fun other _ _ => by
        show List.countP _ (.close user :: s.log) = 1
        rw [hlog, hopened]
      opened := fun h => absurd (Function.update_self ..) (h user huserZero)
      dispatching := hdispatching
      read := fun other closed h =>
        hs.read other closed ((List.mem_cons.mp h).resolve_left (by simp)) }
  · have hperform : perform { s with left := Function.update s.left user k } user .closeIfZero
        = { s with left := Function.update s.left user k } := if_neg huserZero
    have hother : ∀ other, s.zero other = true →
        Function.update hold user .dropped other = hold other := by
      intro other h
      have hne : other ≠ user := by
        rintro rfl
        exact huserZero h
      exact Function.update_of_ne hne _ _
    -- whoever frees the file, it is another thread
    rw [hperform]
    exact {
      code := hs.code_update hk
      only := hs.only_update huser
      refcount := hrefcount
      decrements := hdecrements
      zero := hzero
      found := hs.found
      closed := fun other h hdropped =>
        hs.closed other h ((hother other h).symm.trans hdropped)
      opened := fun h => hs.opened (fun other hzero => by
        rw [← hother other hzero]
        exact h other hzero)
      dispatching := hdispatching
      read := hs.read }

/-- **Every step keeps the count.** -/
theorem counted_step (hs : ∃ hold, Counted compiled setup s hold) {act : ConfAct}
    (h : s.step setup act = some s') : ∃ hold, Counted compiled setup s' hold := by
  obtain ⟨hold, hs⟩ := hs
  have heval : ∀ t c, (Discipline.counting setup.answer t).possible c (setup.answer c) = true :=
    fun _ _ => beq_self_eq_true _
  rcases of_step h with ⟨k, hstep, rfl⟩ | ⟨a, k, hstep, rfl⟩
  · have huser := hs.mem_users hstep
    obtain ⟨t, ht, hk⟩ := Discipline.meets_of_step (heval _) (hs.code _ huser) hstep
    obtain rfl : hold act.user = t := Option.some.inj ht
    exact ⟨hold, hs.goesOn huser hk⟩
  · have huser := hs.mem_users hstep
    obtain ⟨t, ht, hk⟩ := Discipline.meets_of_step (heval _) (hs.code _ huser) hstep
    cases a with
    | read =>
      obtain ⟨hhold, rfl⟩ := Hold.of_next ht
      have hgoes := hs.goesOn huser (hhold ▸ hk)
      refine ⟨hold, { hgoes with read := fun other closed h => ?_ }⟩
      rcases List.mem_cons.mp h with h | h
      · obtain ⟨-, rfl⟩ := ConfEvent.read.inj h
        have hopen : s.closes = 0 := hs.closes_eq_zero huser (by rw [hhold]; rfl)
        refine decide_eq_false ?_
        show ¬ 0 < s.closes
        omega
      · exact hs.read other closed h
    | decrement =>
      obtain ⟨hhold, rfl⟩ := Hold.of_next ht
      exact ⟨_, hs.decrement huser hhold hk⟩
    | closeIfZero =>
      obtain ⟨hhold, rfl⟩ := Hold.of_next ht
      exact ⟨_, hs.closeIfZero huser hhold hk⟩
    | dispatch =>
      obtain ⟨hhold, rfl, hlast⟩ := Hold.of_next ht
      have hgoes := hs.goesOn huser (hhold ▸ hk)
      refine ⟨hold, { hgoes with dispatching := fun other h => ?_ }⟩
      by_cases hne : other = act.user
      · subst hne
        exact ⟨hhold, hlast⟩
      · have h : Function.update s.dispatching act.user true other = true := h
        rw [Function.update_of_ne hne] at h
        exact hs.dispatching other h

/-- There is one user more than modules. -/
theorem card_users (compiled : Finset LcdModule) :
    (users compiled).card = compiled.card + 1 := by
  have hinj : Function.Injective ConfUser.module := fun _ _ h => ConfUser.module.inj h
  have hmain : ConfUser.main ∉ compiled.image ConfUser.module := by
    intro h
    obtain ⟨m, -, hm⟩ := Finset.mem_image.mp h
    exact absurd hm (by simp)
  unfold users
  rw [Finset.card_insert_of_notMem hmain, Finset.card_image_of_injective _ hinj]

/-- The invariant holds when the configuration was loaded. -/
theorem counted_init (compiled : Finset LcdModule) (setup : Setup) :
    Counted compiled setup (init compiled) (fun _ => .holding) := by
  have hall : holders (users compiled) (fun _ => Hold.held .holding) = (users compiled).card :=
    congrArg Finset.card (Finset.filter_true_of_mem (fun _ _ => rfl))
  refine ⟨fun user huser => ?_, fun user huser => if_neg huser, ?_, ?_, ?_, ?_, ?_, ?_, ?_, ?_⟩
  · rw [show (init compiled).left user = [user.run] from if_pos huser]
    exact user.meets_run setup
  · rw [hall, card_users]
    rfl
  · exact (Nat.zero_add _).trans hall
  · intro user h
    exact absurd h Bool.false_ne_true
  · intro h
    have h : (compiled.card : Int) + 1 = 0 := h
    omega
  · intro user h
    exact absurd h Bool.false_ne_true
  · intro _
    rfl
  · intro user h
    exact absurd h Bool.false_ne_true
  · intro user closed h
    exact absurd h List.not_mem_nil

/-- Every state that a run reaches is counted. -/
theorem counted_of_reachable (hs : (system compiled setup).Reachable s) :
    ∃ hold, Counted compiled setup s hold :=
  hs.invariant (fun s => ∃ hold, Counted compiled setup s hold)
    ⟨_, counted_init compiled setup⟩ (fun _ _ _ hI _ h => counted_step hI h)

/-! ## What follows of it -/

/-- **The configuration is not read any more once it is freed, and it is freed
at most once.** -/
theorem not_read_after_close (hs : (system compiled setup).Reachable s) :
    (∀ user closed, .read user closed ∈ s.log → closed = false) ∧ s.closes ≤ 1 := by
  obtain ⟨hold, hs⟩ := counted_of_reachable hs
  refine ⟨hs.read, ?_⟩
  by_cases h : ∃ user, s.zero user = true ∧ hold user = .dropped
  · obtain ⟨user, hzero, hdropped⟩ := h
    exact (hs.closed user hzero hdropped).le
  · have hopened := hs.opened (fun user hzero hdropped => h ⟨user, hzero, hdropped⟩)
    omega

/-- The program with the `mplayer` module alone: both threads read, count down,
and the module's frees the file. -/
theorem not_read_after_close_mplayer :
    ∃ s, (system {.mplayer} ⟨true, fun _ => true, fun _ => true, true⟩).Reachable s
      ∧ .read (.module .mplayer) false ∈ s.log ∧ .close (.module .mplayer) ∈ s.log
      ∧ (∀ user closed, .read user closed ∈ s.log → closed = false) ∧ s.closes ≤ 1 := by
  let sys := system {.mplayer} ⟨true, fun _ => true, fun _ => true, true⟩
  let run := sys.replayAny sys.init
    (List.replicate 13 ⟨.main, false⟩ ++ List.replicate 23 ⟨.module .mplayer, false⟩)
  have hrun : run.map (fun s => decide (.read (.module .mplayer) false ∈ s.log
      ∧ .close (.module .mplayer) ∈ s.log)) = some true := by decide +kernel
  obtain ⟨s, hs, hlog⟩ := StepSystem.exists_reachableBy_of_replay hrun
  obtain ⟨hread, hclose⟩ := of_decide_eq_true hlog
  exact ⟨s, hs, hread, hclose, not_read_after_close hs⟩

/-- The threads that use the configuration. -/
theorem module_mem_users {m : LcdModule} : .module m ∈ users compiled ↔ m ∈ compiled := by
  unfold users
  rw [Finset.mem_insert, Finset.mem_image]
  constructor
  · rintro (h | ⟨n, hn, h⟩)
    · exact absurd h (by simp)
    · exact ConfUser.module.inj h ▸ hn
  · exact fun h => .inr ⟨m, h, rfl⟩

/-- Every thread comes to its `conf_dec_count`. -/
theorem releases_iff :
    setup.Releases compiled ↔ ∀ user ∈ users compiled, setup.drops user = true := by
  constructor
  · rintro ⟨hnetwork, hmail, hrss, hmpd⟩ user huser
    cases user with
    | main => exact hnetwork
    | module m =>
      have hm := module_mem_users.mp huser
      cases m with
      | mplayer | weather => rfl
      | mail => exact Bool.and_eq_true_iff.mpr (hmail hm)
      | rss =>
        show (!setup.group .rss || setup.initialised .rss) = true
        cases hgroup : setup.group .rss with
        | false => rfl
        | true => exact hrss hm hgroup
      | mpd =>
        show (!setup.group .mpd || setup.connected) = true
        cases hgroup : setup.group .mpd with
        | false => rfl
        | true => exact hmpd hm hgroup
  · intro h
    refine ⟨h .main (Finset.mem_insert_self ..), fun hm => ?_, fun hm hgroup => ?_,
      fun hm hgroup => ?_⟩
    · exact Bool.and_eq_true_iff.mp (h _ (module_mem_users.mpr hm))
    · have hdrops : (!setup.group .rss || setup.initialised .rss) = true :=
        h _ (module_mem_users.mpr hm)
      rw [hgroup] at hdrops
      exact hdrops
    · have hdrops : (!setup.group .mpd || setup.connected) = true :=
        h _ (module_mem_users.mpr hm)
      rw [hgroup] at hdrops
      exact hdrops

/-- A thread that is settled holds what it will hold at the end. -/
theorem Counted.hold_eq (hs : Counted compiled setup s hold) (hsettled : s.Settled)
    (huser : user ∈ users compiled) : hold user = setup.last user := by
  have hreturned : s.left user = [] → hold user = setup.last user := by
    intro hleft
    have hcode := hs.code user huser
    rw [hleft] at hcode
    exact of_decide_eq_true hcode
  cases user with
  | main => exact hreturned hsettled.1
  | module m =>
    rcases hsettled.2 m with hleft | hdispatching
    · exact hreturned hleft
    · obtain ⟨hhold, hlast⟩ := hs.dispatching _ hdispatching
      exact hhold.trans hlast.symm

/-- **When the configuration is released**: once the program has settled,
`conf_dec_count` was called by every thread, and the file is freed, exactly when
every thread comes to its `conf_dec_count`. -/
theorem decremented_iff (hs : (system compiled setup).Reachable s) (hsettled : s.Settled) :
    (s.decrements = compiled.card + 1 ∧ s.closes = 1) ↔ setup.Releases compiled := by
  obtain ⟨hold, hs⟩ := counted_of_reachable hs
  have hcard := card_users compiled
  have hdecrements := hs.decrements
  have hlast : ∀ user ∈ users compiled, (hold user).held = false ↔ setup.drops user = true := by
    intro user huser
    rw [hs.hold_eq hsettled huser]
    unfold Setup.last
    cases setup.drops user <;> simp [Hold.held]
  rw [releases_iff]
  constructor
  · rintro ⟨hall, -⟩ user huser
    have hnone := holders_eq_zero_iff.mp
      (show holders (users compiled) (fun user => (hold user).held) = 0 by omega)
    exact (hlast user huser).mp (hnone user huser)
  · intro hdrops
    have hnone : holders (users compiled) (fun user => (hold user).held) = 0 :=
      holders_eq_zero_iff.mpr (fun user huser => (hlast user huser).mpr (hdrops user huser))
    have hrefcount := hs.refcount
    obtain ⟨user, huser, hzero⟩ := hs.found (by omega)
    refine ⟨by omega, hs.closed user hzero ?_⟩
    rw [hs.hold_eq hsettled huser]
    exact if_pos (hdrops user huser)

/-- The program with the `mplayer` module alone, and a group `network`. -/
theorem decremented_iff_mplayer :
    ∃ s, (system {.mplayer} ⟨true, fun _ => true, fun _ => true, true⟩).Reachable s
      ∧ s.Settled ∧ s.decrements = 2 ∧ s.closes = 1 := by
  let sys := system {.mplayer} ⟨true, fun _ => true, fun _ => true, true⟩
  let run := sys.replayAny sys.init
    (List.replicate 13 ⟨.main, false⟩ ++ List.replicate 23 ⟨.module .mplayer, false⟩)
  have hrun : run.map (fun s => decide s.Settled) = some true := by decide +kernel
  obtain ⟨s, hs, hsettled⟩ := StepSystem.exists_reachableBy_of_replay hrun
  have hsettled := of_decide_eq_true hsettled
  have hreleases : (⟨true, fun _ => true, fun _ => true, true⟩ : Setup).Releases {.mplayer} :=
    ⟨rfl, fun _ => ⟨rfl, rfl⟩, fun _ _ => rfl, fun _ _ => rfl⟩
  exact ⟨s, hs, hsettled, (decremented_iff hs hsettled).mpr hreleases⟩

/-- Without a group `network` the set-up of the service thread returns before
its `conf_dec_count`. -/
theorem not_forall_decremented :
    ¬ ∀ (compiled : Finset LcdModule) (setup : Setup) (s : Configuration),
      (system compiled setup).Reachable s → s.Settled →
      s.decrements = compiled.card + 1 ∧ s.closes = 1 := by
  intro h
  let sys := system {.mplayer} ⟨false, fun _ => true, fun _ => true, true⟩
  let run := sys.replayAny sys.init
    (List.replicate 5 ⟨.main, false⟩ ++ List.replicate 23 ⟨.module .mplayer, false⟩)
  have hrun : run.map (fun s => decide (s.Settled ∧ s.decrements = 1)) = some true := by
    decide +kernel
  obtain ⟨s, hs, hsettled⟩ := StepSystem.exists_reachableBy_of_replay hrun
  obtain ⟨hsettled, hone⟩ := of_decide_eq_true hsettled
  have htwo : s.decrements = 2 := (h _ _ s hs hsettled).1
  omega

end Configuration
