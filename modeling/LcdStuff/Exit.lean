import Mathlib.Data.Fintype.Defs
import LcdStuff.Holders
import LcdStuff.Threads

/-!
# When the program ends by itself

`client_number` counts the modules that have registered and not unregistered,
and the one that brings it back to zero sets `g_exit`: when the last module has
nothing to do any more the program has, too.

The number is that of the modules that have registered *so far*. A module that
fails before another has come to its registration brings it to zero, and ends a
program that is still starting; and one whose init function fails in `rss_run`
or `mail_run` stays counted for ever. If neither happens then `g_exit` says what
it is meant to say (`Threads.exitsWithModules_of_reachableBy`).
-/

namespace LcdModule

instance : Fintype LcdModule := ⟨all.toFinset, fun m => List.mem_toFinset.mpr m.mem_all⟩

/-- What a run function does when its module is enabled. -/
def body (bytes : LcdModule → Str) (m : LcdModule) : ModuleCode :=
  match m.run bytes with
  | .seq _ p => p
  | p => p

theorem run_eq (bytes : LcdModule → Str) (m : LcdModule) :
    m.run bytes = .seq (.either .ret .skip) (m.body bytes) := by
  cases m <;> rfl

end LcdModule

/-- The module has ended: it has unregistered, or its init function has failed
without that. -/
def Phase.ended : Phase → Bool
  | .unregistered | .failed => true
  | .fresh | .registered => false

namespace Threads

/-- The access that the next step of a module's thread makes. -/
def performs (s : Threads) (m : LcdModule) (choice : Bool) : Option Access :=
  (Code.step (fun _ => s.gExit) choice (s.left m)).bind Prod.fst

/-- The module was counted by `service_thread_register_client`. -/
def counted (s : Threads) (m : LcdModule) : Bool :=
  s.log.any (fun e => match e with
    | .access n .countUp _ => decide (n = m)
    | _ => false)

/-- All enabled modules have ended, or all but this one. -/
def LastOf (enabled : LcdModule → Bool) (s : Threads) (m : LcdModule) : Prop :=
  ∀ n, enabled n = true → n ≠ m → (s.phase n).ended = true

/-- There is no signal, and `key_file_has_group` says which modules are
enabled. -/
def Configured (bytes : LcdModule → Str) (enabled : LcdModule → Bool) (s : Threads) :
    ThreadsAct → Prop
  | .signal => False
  | .service _ => True
  | .module m choice =>
    s.left m = [.either .ret .skip, m.body bytes] → choice = !enabled m

/-- Whether the access keeps the number of clients to what it is for: nobody
brings it to zero while an enabled module was not counted yet, and the last
module that ends finds that none has left its client behind, and does not
either. -/
def AccessCounts (enabled : LcdModule → Bool) (s : Threads) (m : LcdModule) : Access → Prop
  | .countDown => s.loop.svc.clientNumber = 1 → ∀ n, enabled n = true → s.counted n = true
  | .remove _ => LastOf enabled s m → ∀ n, enabled n = true → s.phase n ≠ .failed
  | .initFailed => ¬ LastOf enabled s m
  | .insert _ | .countUp | .exitIfLast | .push => True

/-- **The number of clients is that of the enabled modules that run.** -/
def CountsAll (enabled : LcdModule → Bool) (s : Threads) : ThreadsAct → Prop
  | .signal | .service _ => True
  | .module m choice => ∀ a ∈ s.performs m choice, AccessCounts enabled s m a

/-- **`g_exit` is set when every enabled module has ended**, and only then. -/
def ExitsWithModules (enabled : LcdModule → Bool) (s : Threads) : Prop :=
  (s.gExit = true → ∀ m, enabled m = true → (s.phase m).ended = true)
    ∧ ((∀ m, enabled m = true → s.left m = []) → s.gExit = true)

end Threads

/-! ## What a module has done about the number of clients -/

/-- How far a module has come with its registration and with the number of
clients. -/
inductive Stage where
  /-- It has not registered. -/
  | fresh
  /-- It is in the tables. -/
  | inserted
  /-- It is counted. -/
  | counted
  /-- It has left the tables. -/
  | removed
  /-- It is not counted any more. -/
  | uncounted
  /-- It has set `g_exit` or has not. -/
  | decided
  /-- Its init function has failed. -/
  | failed
  deriving DecidableEq, Repr

namespace Stage

/-- What an access does. -/
def next : Access → Stage → Option Stage
  | .insert _, .fresh => some .inserted
  | .countUp, .inserted => some .counted
  | .remove _, .counted => some .removed
  | .countDown, .removed => some .uncounted
  | .exitIfLast, .uncounted => some .decided
  | .initFailed, .counted => some .failed
  | .push, t => some t
  | _, _ => none

/-- What the module has done about its registration. -/
def phase : Stage → Phase
  | .fresh => .fresh
  | .inserted | .counted => .registered
  | .removed | .uncounted | .decided => .unregistered
  | .failed => .failed

/-- It is one of the clients that the number counts. -/
def counts : Stage → Bool
  | .counted | .removed | .failed => true
  | _ => false

/-- It was one of them. -/
def wasCounted : Stage → Bool
  | .fresh | .inserted => false
  | _ => true

/-- **The inversion of an access.** -/
theorem of_next {a : Access} {t u : Stage} (h : next a t = some u) :
    match a with
    | .insert _ => t = .fresh ∧ u = .inserted
    | .countUp => t = .inserted ∧ u = .counted
    | .remove _ => t = .counted ∧ u = .removed
    | .countDown => t = .removed ∧ u = .uncounted
    | .exitIfLast => t = .uncounted ∧ u = .decided
    | .initFailed => t = .counted ∧ u = .failed
    | .push => u = t := by
  cases a <;> cases t <;>
    first
      | exact ⟨rfl, (Option.some.inj h).symm⟩
      | exact (Option.some.inj h).symm
      | exact absurd h (by simp [next])

end Stage

/-- **To register and be counted, and to be counted no more before the end**, as
long as `g_exit` is not set. -/
def Discipline.census : Discipline Access Test Stage :=
  ⟨Stage.next, fun _ answer => !answer, fun t => decide (t = .decided ∨ t = .failed)⟩

/-- **To register once**, whether `g_exit` is set or not. -/
def Discipline.once : Discipline Access Test Phase :=
  ⟨fun a t => match a, t with
    | .insert _, .fresh => some .registered
    | .insert _, _ => none
    | .remove _, _ => some .unregistered
    | .initFailed, _ => some .failed
    | .countUp, t | .countDown, t | .exitIfLast, t | .push, t => some t,
  fun _ _ => true, fun _ => true⟩

namespace LcdModule

theorem meets_census (bytes : LcdModule → Str) (m : LcdModule) :
    Discipline.census.meetsAll [m.body bytes] .fresh = true := by
  cases m <;> rfl

theorem meets_once (bytes : LcdModule → Str) (m : LcdModule) :
    Discipline.once.meetsAll [m.run bytes] .fresh = true := by
  cases m <;> rfl

end LcdModule

/-- What is left of a module's code before it is known whether the module is
enabled. -/
def ModuleCode.atStart (bytes : LcdModule → Str) (m : LcdModule) (k : List ModuleCode) : Prop :=
  k = [m.run bytes] ∨ k = [.either .ret .skip, m.body bytes]

/-- **What is left of a module's code** goes on from its stage to its end, or to
nothing at all if the module is not enabled. -/
def ModuleCode.OnItsWay (bytes : LcdModule → Str) (enabled : LcdModule → Bool) (m : LcdModule)
    (k : List ModuleCode) (t : Stage) : Prop :=
  (atStart bytes m k ∧ t = .fresh)
    ∨ (enabled m = true ∧ Discipline.census.meetsAll k t = true)
    ∨ (enabled m = false ∧ (k = [.ret, m.body bytes] ∨ k = []) ∧ t = .fresh)

namespace ModuleCode

variable {bytes : LcdModule → Str} {enabled : LcdModule → Bool} {m : LcdModule}
  {k k' : List ModuleCode} {t : Stage}

/-- **A step stays on the way**, as long as `g_exit` is not set. -/
theorem OnItsWay.step {choice : Bool} {a : Option Access} (h : OnItsWay bytes enabled m k t)
    (hchoice : k = [.either .ret .skip, m.body bytes] → choice = !enabled m)
    (hstep : Code.step (fun _ => false) choice k = some (a, k')) :
    ∃ u, Discipline.census.after a t = some u ∧ OnItsWay bytes enabled m k' u := by
  rcases h with ⟨rfl | rfl, rfl⟩ | ⟨henabled, hk⟩ | ⟨henabled, rfl | rfl, rfl⟩
  · rw [m.run_eq] at hstep
    cases hstep
    exact ⟨.fresh, rfl, .inl ⟨.inr rfl, rfl⟩⟩
  · have hchoice := hchoice rfl
    cases hstep
    cases henabled : enabled m with
    | true =>
      rw [henabled] at hchoice
      rw [hchoice]
      exact ⟨.fresh, rfl, .inr (.inl ⟨henabled, m.meets_census bytes⟩)⟩
    | false =>
      rw [henabled] at hchoice
      rw [hchoice]
      exact ⟨.fresh, rfl, .inr (.inr ⟨henabled, .inl rfl, rfl⟩)⟩
  · obtain ⟨u, hu, hk'⟩ := Discipline.meets_of_step (fun _ => rfl) hk hstep
    exact ⟨u, hu, .inr (.inl ⟨henabled, hk'⟩)⟩
  · cases hstep
    exact ⟨.fresh, rfl, .inr (.inr ⟨henabled, .inr rfl, rfl⟩)⟩
  · exact absurd hstep (by simp [Code.step])

/-- A module that has returned was not enabled, or it is done. -/
theorem OnItsWay.of_nil (h : OnItsWay bytes enabled m [] t) :
    if enabled m then t = .decided ∨ t = .failed else t = .fresh := by
  rcases h with ⟨h | h, -⟩ | ⟨henabled, hk⟩ | ⟨henabled, -, ht⟩
  · exact absurd h (by simp)
  · exact absurd h (by simp)
  · rw [if_pos henabled]
    exact of_decide_eq_true hk
  · rw [if_neg (by rw [henabled]; exact Bool.false_ne_true)]
    exact ht

/-- A module that is not enabled does nothing. -/
theorem OnItsWay.fresh (h : OnItsWay bytes enabled m k t) (henabled : enabled m = false) :
    t = .fresh := by
  rcases h with ⟨-, ht⟩ | ⟨htrue, -⟩ | ⟨-, -, ht⟩
  · exact ht
  · exact absurd (henabled.symm.trans htrue) Bool.false_ne_true
  · exact ht

end ModuleCode

namespace Threads

/-- **The invariant**, as long as `g_exit` is not set: each module is at a stage
of its way, and the number of clients is that of the modules that count. -/
structure Census (bytes : LcdModule → Str) (enabled : LcdModule → Bool) (s : Threads)
    (stage : LcdModule → Stage) : Prop where
  /-- The modules are on their way. -/
  way : ∀ m, ModuleCode.OnItsWay bytes enabled m (s.left m) (stage m)
  /-- The stage says what a module has done about its registration. -/
  phase : ∀ m, s.phase m = (stage m).phase
  /-- It says which modules were counted, -/
  counted : ∀ m, s.counted m = (stage m).wasCounted
  /-- and which are now. -/
  number : s.loop.svc.clientNumber = holders Finset.univ (fun m => (stage m).counts)
  /-- The one that has brought the number to zero was the last. -/
  last : ∀ m, stage m = .uncounted → s.last m = true →
    ∀ n, enabled n = true → (s.phase n).ended = true
  /-- When the number is zero again, the one that has brought it there has yet to
  set `g_exit`. -/
  zero : s.loop.svc.clientNumber = 0 → (∃ m, (stage m).wasCounted = true) →
    ∃ m, stage m = .uncounted ∧ s.last m = true
  /-- When all have ended none has left its client behind. -/
  failed : (∀ n, enabled n = true → (s.phase n).ended = true) →
    ∀ n, enabled n = true → s.phase n ≠ .failed

variable {bytes : LcdModule → Str} {enabled : LcdModule → Bool} {s s' : Threads}
  {stage : LcdModule → Stage}

/-! ## A module that makes no access, and the service thread -/

/-- Nothing has changed but what is left of a module's code. -/
theorem Census.goesOn (hs : Census bytes enabled s stage) {m : LcdModule} {k : List ModuleCode}
    {log : List ThreadsEvent} (hk : ModuleCode.OnItsWay bytes enabled m k (stage m))
    (hlog : ∀ n, Threads.counted { s with log := log } n = s.counted n) :
    Census bytes enabled { s with left := Function.update s.left m k, log := log } stage :=
  { hs with
    way := fun n => by
      by_cases hn : n = m
      · subst hn
        show ModuleCode.OnItsWay bytes enabled n (Function.update s.left n k n) (stage n)
        rw [Function.update_self]
        exact hk
      · show ModuleCode.OnItsWay bytes enabled n (Function.update s.left m k n) (stage n)
        rw [Function.update_of_ne hn]
        exact hs.way n
    counted := fun n => (hlog n).trans (hs.counted n) }

/-- A test of `g_exit` counts nobody. -/
theorem counted_passes (s : Threads) (m n : LcdModule) :
    counted { s with log := s.passes m ++ s.log } n = s.counted n := by
  show List.any (s.passes m ++ s.log) _ = _
  rw [List.any_append]
  unfold passes
  split <;> rfl

/-- A callback counts nobody. -/
theorem counted_calls (s : Threads) (n : LcdModule) :
    counted { s with log := s.calls ++ s.log } n = s.counted n := by
  show List.any (s.calls ++ s.log) _ = _
  rw [List.any_append]
  unfold calls
  split <;> rfl

/-- The service thread leaves the number of clients alone. -/
theorem clientNumber_of_step {gExit : Bool} {loop loop' : ServiceLoop LcdModule}
    {input : LoopInput} (h : loop.step gExit input = some loop') :
    loop'.svc.clientNumber = loop.svc.clientNumber := by
  cases ServiceLoop.taken_of_step h with
  | test | lookup | unrefQueue | destroyClients | freeMutex | popped | idle | sent | quiet
  | packet => rfl
  | call => rw [(loop.continues_frame _).1]
  | unsent => rw [(loop.returns_frame _ _).1]
  | received _ hreceives =>
    rcases ServiceLoop.of_receives hreceives with
      ⟨hsvc, -⟩ | ⟨string, response, svc, dispatch, rfl, hdispatch, rfl, -⟩
    · rw [hsvc]
    · exact (loop.svc.handling_of_lcdDispatch hdispatch).clientNumber_eq

/-- **A step of the service thread** keeps the census. -/
theorem Census.service (hs : Census bytes enabled s stage) {input : LoopInput}
    {loop : ServiceLoop LcdModule} (h : s.loop.step s.gExit input = some loop) :
    Census bytes enabled { s with loop := loop, log := s.calls ++ s.log } stage := by
  have hnumber := clientNumber_of_step h
  exact { hs with
    counted := fun m => (counted_calls s m).trans (hs.counted m)
    number := hnumber.trans hs.number
    zero := fun hzero => hs.zero (hnumber.symm.trans hzero) }

/-! ## A module that makes an access -/

/-- A module has made an access. -/
def accessed (s : Threads) (m : LcdModule) (a : Access) (k : List ModuleCode) : Threads :=
  { Threads.perform { s with left := Function.update s.left m k } m a with
    log := .access m a (s.late a) :: s.log }

variable {m : LcdModule} {a : Access} {k : List ModuleCode} {u : Stage}

theorem Census.phase_accessed (hs : Census bytes enabled s stage)
    (hnext : Stage.next a (stage m) = some u) :
    (s.accessed m a k).phase = Function.update s.phase m u.phase := by
  have hm := hs.phase m
  cases a with
  | insert client =>
    obtain ⟨-, rfl⟩ := Stage.of_next hnext
    rfl
  | remove name =>
    obtain ⟨-, rfl⟩ := Stage.of_next hnext
    rfl
  | initFailed =>
    obtain ⟨-, rfl⟩ := Stage.of_next hnext
    rfl
  | countUp | countDown | exitIfLast =>
    obtain ⟨ht, rfl⟩ := Stage.of_next hnext
    rw [ht] at hm
    exact (Function.update_eq_self_iff.mpr hm.symm).symm
  | push =>
    obtain rfl : u = stage m := Stage.of_next hnext
    exact (Function.update_eq_self_iff.mpr hm.symm).symm

theorem Census.counted_accessed (hs : Census bytes enabled s stage)
    (hnext : Stage.next a (stage m) = some u) (n : LcdModule) :
    (s.accessed m a k).counted n = (Function.update stage m u n).wasCounted := by
  cases a with
  | countUp =>
    obtain ⟨-, rfl⟩ := Stage.of_next hnext
    show (decide (m = n) || s.counted n) = _
    by_cases hn : n = m
    · subst hn
      rw [decide_eq_true rfl, Function.update_self]
      rfl
    · rw [decide_eq_false (Ne.symm hn), Function.update_of_ne hn]
      exact hs.counted n
  | push =>
    obtain rfl : u = stage m := Stage.of_next hnext
    rw [Function.update_eq_self]
    exact hs.counted n
  | insert | remove | countDown | exitIfLast | initFailed =>
    obtain ⟨ht, rfl⟩ := Stage.of_next hnext
    refine (hs.counted n).trans ?_
    by_cases hn : n = m
    · subst hn
      rw [ht, Function.update_self]
      rfl
    · rw [Function.update_of_ne hn]

theorem Census.number_accessed (hs : Census bytes enabled s stage)
    (hnext : Stage.next a (stage m) = some u) :
    (s.accessed m a k).loop.svc.clientNumber
      = holders Finset.univ (fun n => (Function.update stage m u n).counts) := by
  have hothers : ∀ n, n ≠ m → (Function.update stage m u n).counts = (stage n).counts :=
    fun n hn => by rw [Function.update_of_ne hn]
  have hm : (Function.update stage m u m).counts = u.counts := by rw [Function.update_self]
  have hnumber := hs.number
  -- the other accesses leave what counts as it is
  have hsame : u.counts = (stage m).counts →
      holders Finset.univ (fun n => (Function.update stage m u n).counts)
        = holders Finset.univ (fun n => (stage n).counts) := by
    intro hu
    refine holders_congr (fun n _ => ?_)
    by_cases hn : n = m
    · subst hn
      exact hm.trans hu
    · exact hothers n hn
  cases a with
  | countUp =>
    obtain ⟨ht, rfl⟩ := Stage.of_next hnext
    have hgain : holders Finset.univ (fun n => (Function.update stage m .counted n).counts)
        = holders Finset.univ (fun n => (stage n).counts) + 1 :=
      holders_gain (Finset.mem_univ m) (by rw [ht]; rfl) hm hothers
    show s.loop.svc.clientNumber + 1 = _
    omega
  | countDown =>
    obtain ⟨ht, rfl⟩ := Stage.of_next hnext
    have hlose : holders Finset.univ (fun n => (Function.update stage m .uncounted n).counts) + 1
        = holders Finset.univ (fun n => (stage n).counts) :=
      holders_lose (Finset.mem_univ m) (by rw [ht]; rfl) hm hothers
    show s.loop.svc.clientNumber - 1 = _
    omega
  | push =>
    obtain rfl : u = stage m := Stage.of_next hnext
    rw [hsame rfl]
    exact hnumber
  | insert | remove | exitIfLast | initFailed =>
    obtain ⟨ht, rfl⟩ := Stage.of_next hnext
    rw [hsame (by rw [ht]; rfl)]
    exact hnumber

/-- A module that has ended stays so. -/
theorem ended_of_next {t : Stage} (hnext : Stage.next a t = some u)
    (h : t.phase.ended = true) : u.phase.ended = true := by
  cases a <;> cases t <;> first | exact absurd h Bool.false_ne_true | cases hnext <;> rfl

theorem Census.ended_accessed (hs : Census bytes enabled s stage)
    (hnext : Stage.next a (stage m) = some u) {n : LcdModule} (h : (s.phase n).ended = true) :
    ((s.accessed m a k).phase n).ended = true := by
  rw [hs.phase_accessed hnext]
  by_cases hn : n = m
  · subst hn
    rw [Function.update_self]
    rw [hs.phase] at h
    exact ended_of_next hnext h
  · rw [Function.update_of_ne hn]
    exact h

/-- A module that is counted no more, and was before, has unregistered. -/
theorem ended_of_uncounted {t : Stage} (hwas : t.wasCounted = true) (hcounts : t.counts = false) :
    t.phase.ended = true := by
  cases t with
  | fresh | inserted => exact absurd hwas Bool.false_ne_true
  | counted => exact absurd hcounts.symm Bool.false_ne_true
  | removed | uncounted | decided | failed => rfl

/-- Nobody else counts when an access has brought the number to zero. -/
theorem Census.counts_accessed (hs : Census bytes enabled s stage)
    (hnext : Stage.next a (stage m) = some u)
    (hzero : (s.accessed m a k).loop.svc.clientNumber = 0) (n : LcdModule) :
    (Function.update stage m u n).counts = false :=
  holders_eq_zero_iff.mp
    (Int.natCast_eq_zero.mp ((hs.number_accessed hnext).symm.trans hzero)) n (Finset.mem_univ n)

/-- **The one that brings the number to zero is the last**, if every enabled
module was counted. -/
theorem Census.last_accessed (hs : Census bytes enabled s stage)
    (hact : AccessCounts enabled s m a) (hnext : Stage.next a (stage m) = some u)
    {l : LcdModule} (hl : Function.update stage m u l = .uncounted)
    (hlast : (s.accessed m a k).last l = true) {n : LcdModule} (hn : enabled n = true) :
    ((s.accessed m a k).phase n).ended = true := by
  have hbefore : stage l = .uncounted → s.last l = true →
      ((s.accessed m a k).phase n).ended = true :=
    fun hstage h => hs.ended_accessed hnext (hs.last l hstage h n hn)
  by_cases hlm : l = m
  · subst hlm
    rw [Function.update_self] at hl
    subst hl
    cases a with
    | countDown =>
      obtain ⟨ht, -⟩ := Stage.of_next hnext
      have hlast : Function.update s.last l (decide (s.loop.svc.clientNumber - 1 = 0)) l = true :=
        hlast
      rw [Function.update_self] at hlast
      have hzero : s.loop.svc.clientNumber - 1 = 0 := of_decide_eq_true hlast
      have hwas : s.counted n = true := hact (by omega) n hn
      rw [hs.counted] at hwas
      by_cases hnl : n = l
      · subst hnl
        refine hs.ended_accessed hnext ?_
        rw [hs.phase, ht]
        rfl
      · have hcounts := hs.counts_accessed (k := k) hnext hzero n
        rw [Function.update_of_ne hnl] at hcounts
        refine hs.ended_accessed hnext ?_
        rw [hs.phase]
        exact ended_of_uncounted hwas hcounts
    | push => exact hbefore (Stage.of_next hnext).symm hlast
    | insert | countUp | remove | exitIfLast | initFailed =>
      exact absurd (Stage.of_next hnext).2 (by simp)
  · rw [Function.update_of_ne hlm] at hl
    refine hbefore hl ?_
    cases a with
    | countDown =>
      have hlast : Function.update s.last m (decide (s.loop.svc.clientNumber - 1 = 0)) l = true :=
        hlast
      rw [Function.update_of_ne hlm] at hlast
      exact hlast
    | insert | countUp | remove | exitIfLast | initFailed | push => exact hlast

/-- **The one that has brought the number to zero sets `g_exit`**, if that is not
what the access does. -/
theorem Census.zero_accessed (hs : Census bytes enabled s stage)
    (hnext : Stage.next a (stage m) = some u)
    (hgExit : (s.accessed m a k).gExit = false)
    (hzero : (s.accessed m a k).loop.svc.clientNumber = 0)
    (hwas : ∃ n, (Function.update stage m u n).wasCounted = true) :
    ∃ l, Function.update stage m u l = .uncounted ∧ (s.accessed m a k).last l = true := by
  have hcounts := hs.counts_accessed hnext hzero m
  rw [Function.update_self] at hcounts
  cases a with
  | insert client =>
    obtain ⟨ht, rfl⟩ := Stage.of_next hnext
    obtain ⟨n, hn⟩ := hwas
    have hnm : n ≠ m := by
      rintro rfl
      rw [Function.update_self] at hn
      exact absurd hn Bool.false_ne_true
    rw [Function.update_of_ne hnm] at hn
    obtain ⟨l, hl, hlast⟩ := hs.zero hzero ⟨n, hn⟩
    have hlm : l ≠ m := by
      rintro rfl
      exact absurd (ht.symm.trans hl) (by simp)
    exact ⟨l, (Function.update_of_ne hlm ..).trans hl, hlast⟩
  | countDown =>
    obtain ⟨-, rfl⟩ := Stage.of_next hnext
    refine ⟨m, Function.update_self .., ?_⟩
    show Function.update s.last m (decide (s.loop.svc.clientNumber - 1 = 0)) m = true
    rw [Function.update_self]
    exact decide_eq_true hzero
  | exitIfLast =>
    obtain ⟨ht, rfl⟩ := Stage.of_next hnext
    obtain ⟨l, hl, hlast⟩ := hs.zero hzero ⟨m, by rw [ht]; rfl⟩
    have hlm : l ≠ m := by
      rintro rfl
      have hgExit : (s.gExit || s.last l) = false := hgExit
      exact absurd ((Bool.or_eq_false_iff.mp hgExit).2.symm.trans hlast) Bool.false_ne_true
    exact ⟨l, (Function.update_of_ne hlm ..).trans hl, hlast⟩
  | push =>
    obtain rfl : u = stage m := Stage.of_next hnext
    rw [Function.update_eq_self] at hwas ⊢
    exact hs.zero hzero hwas
  | countUp | remove | initFailed =>
    -- the module itself still counts
    obtain ⟨-, rfl⟩ := Stage.of_next hnext
    exact absurd hcounts.symm Bool.false_ne_true

/-- When the last module has ended, none has left its client behind. -/
theorem Census.failed_accessed (hs : Census bytes enabled s stage)
    (hact : AccessCounts enabled s m a) (hnext : Stage.next a (stage m) = some u)
    (hk : ModuleCode.OnItsWay bytes enabled m k u)
    (hended : ∀ n, enabled n = true → ((s.accessed m a k).phase n).ended = true)
    {n : LcdModule} (hn : enabled n = true) : (s.accessed m a k).phase n ≠ .failed := by
  have hothers : ∀ n, n ≠ m → (s.accessed m a k).phase n = s.phase n := fun n hn => by
    rw [hs.phase_accessed hnext, Function.update_of_ne hn]
  have hthis : (s.accessed m a k).phase m = u.phase := by
    rw [hs.phase_accessed hnext, Function.update_self]
  have hlast : LastOf enabled s m := fun n hn hnm => hothers n hnm ▸ hended n hn
  cases a with
  | insert client =>
    -- it is enabled, and has not ended
    obtain ⟨-, rfl⟩ := Stage.of_next hnext
    have henabled : enabled m = true := by
      by_contra h
      exact absurd (hk.fresh (Bool.eq_false_iff.mpr h)) (by simp)
    have h := hended m henabled
    rw [hthis] at h
    exact absurd h Bool.false_ne_true
  | remove name =>
    obtain ⟨-, rfl⟩ := Stage.of_next hnext
    by_cases hnm : n = m
    · rw [hnm, hthis]
      simp [Stage.phase]
    · rw [hothers n hnm]
      exact hact hlast n hn
  | initFailed => exact absurd hlast hact
  | countUp | countDown | exitIfLast | push => exact hs.failed hended n hn

/-- **An access keeps the census**, as long as it does not set `g_exit`. -/
theorem Census.access (hs : Census bytes enabled s stage)
    (hact : AccessCounts enabled s m a) (hnext : Stage.next a (stage m) = some u)
    (hk : ModuleCode.OnItsWay bytes enabled m k u) (hgExit : (s.accessed m a k).gExit = false) :
    Census bytes enabled (s.accessed m a k) (Function.update stage m u) where
  way := fun n => by
    have hleft : (s.accessed m a k).left = Function.update s.left m k :=
      (perform_frame _ m a).2.1
    rw [hleft]
    by_cases hn : n = m
    · subst hn
      rw [Function.update_self, Function.update_self]
      exact hk
    · rw [Function.update_of_ne hn, Function.update_of_ne hn]
      exact hs.way n
  phase := fun n => by
    rw [hs.phase_accessed hnext]
    by_cases hn : n = m
    · subst hn
      rw [Function.update_self, Function.update_self]
    · rw [Function.update_of_ne hn, Function.update_of_ne hn]
      exact hs.phase n
  counted := hs.counted_accessed hnext
  number := hs.number_accessed hnext
  last := fun _ hl hlast _ hn => hs.last_accessed hact hnext hl hlast hn
  zero := hs.zero_accessed hnext hgExit
  failed := fun hended _ hn => hs.failed_accessed hact hnext hk hended hn

/-- **`g_exit` is set by the last module.** -/
theorem Census.exits (hs : Census bytes enabled s stage)
    (hnext : Stage.next a (stage m) = some u) (hbefore : s.gExit = false)
    (hgExit : (s.accessed m a k).gExit = true) {n : LcdModule} (hn : enabled n = true) :
    ((s.accessed m a k).phase n).ended = true := by
  cases a with
  | exitIfLast =>
    obtain ⟨ht, -⟩ := Stage.of_next hnext
    have hgExit : (s.gExit || s.last m) = true := hgExit
    rw [hbefore, Bool.false_or] at hgExit
    exact hs.ended_accessed hnext (hs.last m ht hgExit n hn)
  | insert | countUp | remove | countDown | initFailed | push =>
    exact absurd (hbefore.symm.trans hgExit) Bool.false_ne_true

/-! ## Every run -/

/-- **The invariant**: no module registers twice, what is known while `g_exit` is
not set, and what is known when it is. -/
structure Exiting (bytes : LcdModule → Str) (enabled : LcdModule → Bool) (s : Threads) :
    Prop where
  /-- The modules register once. -/
  once : ∀ m, Discipline.once.meetsAll (s.left m) (s.phase m) = true
  /-- The census. -/
  census : s.gExit = false → ∃ stage, Census bytes enabled s stage
  /-- The end. -/
  ended : s.gExit = true → ∀ m, enabled m = true → (s.phase m).ended = true

/-- What an access does to the registration, whatever `g_exit` is. -/
theorem phase_once {t : Phase} (h : Discipline.once.next a (s.phase m) = some t) :
    (s.accessed m a k).phase = Function.update s.phase m t
      ∧ ((s.phase m).ended = true → t.ended = true) := by
  cases a with
  | insert client =>
    cases hm : s.phase m with
    | fresh =>
      rw [hm] at h
      obtain rfl := Option.some.inj h
      exact ⟨rfl, fun hended => absurd hended Bool.false_ne_true⟩
    | registered | failed | unregistered =>
      rw [hm] at h
      exact absurd h (by simp [Discipline.once])
  | remove | initFailed =>
    obtain rfl := Option.some.inj h
    exact ⟨rfl, fun _ => rfl⟩
  | countUp | countDown | exitIfLast | push =>
    obtain rfl := Option.some.inj h
    exact ⟨(Function.update_eq_self m s.phase).symm, id⟩

/-- A module that has come as far as this registers once. -/
theorem once_update {left : LcdModule → List ModuleCode} {phase : LcdModule → Phase} {t : Phase}
    (hs : ∀ m, Discipline.once.meetsAll (left m) (phase m) = true)
    (hk : Discipline.once.meetsAll k t = true) (n : LcdModule) :
    Discipline.once.meetsAll (Function.update left m k n) (Function.update phase m t n)
      = true := by
  by_cases hn : n = m
  · subst hn
    rw [Function.update_self, Function.update_self]
    exact hk
  · rw [Function.update_of_ne hn, Function.update_of_ne hn]
    exact hs n

/-- **A step of a module.** -/
theorem exiting_moduleStep (hs : Exiting bytes enabled s) {choice : Bool}
    (hconfigured : Configured bytes enabled s (.module m choice))
    (hcounts : CountsAll enabled s (.module m choice)) (h : s.moduleStep m choice = some s') :
    Exiting bytes enabled s' := by
  have hway : ∀ {stage a k}, s.gExit = false → Census bytes enabled s stage →
      Code.step (fun _ => s.gExit) choice (s.left m) = some (a, k) →
      ∃ u, Discipline.census.after a (stage m) = some u
        ∧ ModuleCode.OnItsWay bytes enabled m k u := by
    intro stage a k hgExit hcensus hstep
    rw [hgExit] at hstep
    exact (hcensus.way m).step hconfigured hstep
  rcases of_moduleStep h with ⟨k, hstep, rfl⟩ | ⟨a, k, hstep, rfl⟩
  · refine ⟨fun n => ?_, fun hgExit => ?_, hs.ended⟩
    · obtain ⟨t, ht, hk⟩ := Discipline.meets_of_step (fun _ => rfl) (hs.once m) hstep
      obtain rfl : s.phase m = t := Option.some.inj ht
      have honce := once_update (m := m) hs.once hk n
      rw [Function.update_eq_self] at honce
      exact honce
    · obtain ⟨stage, hcensus⟩ := hs.census hgExit
      obtain ⟨u, hu, hk⟩ := hway hgExit hcensus hstep
      obtain rfl : stage m = u := Option.some.inj hu
      exact ⟨stage, hcensus.goesOn hk (s.counted_passes m)⟩
  · have hact : AccessCounts enabled s m a := hcounts a (by
      unfold performs
      rw [hstep]
      rfl)
    have hframe := perform_frame { s with left := Function.update s.left m k } m a
    obtain ⟨t, ht, hk⟩ := Discipline.meets_of_step (fun _ => rfl) (hs.once m) hstep
    obtain ⟨hphase, hended⟩ := phase_once (k := k) ht
    show Exiting bytes enabled (s.accessed m a k)
    refine ⟨fun n => ?_, fun hgExit => ?_, fun hgExit n hn => ?_⟩
    · rw [hphase, show (s.accessed m a k).left = _ from hframe.2.1]
      exact once_update hs.once hk n
    · have hbefore : s.gExit = false := by
        by_contra hne
        exact absurd (hgExit.symm.trans (hframe.2.2 (Bool.not_eq_false _ ▸ hne)))
          Bool.false_ne_true
      obtain ⟨stage, hcensus⟩ := hs.census hbefore
      obtain ⟨u, hu, hk⟩ := hway hbefore hcensus hstep
      exact ⟨_, hcensus.access hact hu hk hgExit⟩
    · cases hbefore : s.gExit with
      | false =>
        obtain ⟨stage, hcensus⟩ := hs.census hbefore
        obtain ⟨u, hu, -⟩ := hway hbefore hcensus hstep
        exact hcensus.exits hu hbefore hgExit hn
      | true =>
        rw [hphase]
        by_cases hnm : n = m
        · subst hnm
          rw [Function.update_self]
          exact hended (hs.ended hbefore n hn)
        · rw [Function.update_of_ne hnm]
          exact hs.ended hbefore n hn

/-- **Every step keeps the invariant.** -/
theorem exiting_step (hs : Exiting bytes enabled s) {act : ThreadsAct}
    (hact : Configured bytes enabled s act ∧ CountsAll enabled s act)
    (h : s.step act = some s') : Exiting bytes enabled s' := by
  cases act with
  | signal => exact absurd hact.1 id
  | service input =>
    obtain ⟨loop, hloop, rfl⟩ := of_serviceStep h
    refine ⟨hs.once, fun hgExit => ?_, hs.ended⟩
    obtain ⟨stage, hcensus⟩ := hs.census hgExit
    exact ⟨stage, hcensus.service hloop⟩
  | module m choice => exact exiting_moduleStep hs hact.1 hact.2 h

/-- The invariant holds when `main` has created the threads. -/
theorem exiting_init (bytes : LcdModule → Str) (enabled : LcdModule → Bool)
    (hsome : ∃ m, enabled m = true) : Exiting bytes enabled (init bytes) := by
  refine ⟨LcdModule.meets_once bytes, fun _ => ⟨fun _ => .fresh, ?_⟩,
    fun hgExit => absurd hgExit Bool.false_ne_true⟩
  obtain ⟨m, hm⟩ := hsome
  refine ⟨fun n => .inl ⟨.inl rfl, rfl⟩, fun _ => rfl, fun _ => rfl, ?_, fun _ h => ?_, ?_, ?_⟩
  · exact (Int.natCast_eq_zero.mpr (holders_eq_zero_iff.mpr (fun _ _ => rfl))).symm
  · exact absurd h (by simp)
  · rintro - ⟨n, hn⟩
    exact absurd hn Bool.false_ne_true
  · intro hended
    exact absurd (hended m hm) Bool.false_ne_true

instance (enabled : LcdModule → Bool) (s : Threads) (m : LcdModule) :
    Decidable (LastOf enabled s m) :=
  inferInstanceAs (Decidable (∀ n, enabled n = true → n ≠ m → (s.phase n).ended = true))

instance (bytes : LcdModule → Str) (enabled : LcdModule → Bool) (s : Threads)
    (act : ThreadsAct) : Decidable (Configured bytes enabled s act) :=
  match act with
  | .signal => inferInstanceAs (Decidable False)
  | .service _ => inferInstanceAs (Decidable True)
  | .module m choice => inferInstanceAs (Decidable
      (s.left m = [.either .ret .skip, m.body bytes] → choice = !enabled m))

instance (enabled : LcdModule → Bool) (s : Threads) (m : LcdModule) (a : Access) :
    Decidable (AccessCounts enabled s m a) :=
  match a with
  | .countDown => inferInstanceAs (Decidable
      (s.loop.svc.clientNumber = 1 → ∀ n, enabled n = true → s.counted n = true))
  | .remove _ => inferInstanceAs (Decidable
      (LastOf enabled s m → ∀ n, enabled n = true → s.phase n ≠ .failed))
  | .initFailed => inferInstanceAs (Decidable (¬ LastOf enabled s m))
  | .insert _ | .countUp | .exitIfLast | .push => inferInstanceAs (Decidable True)

instance (enabled : LcdModule → Bool) (s : Threads) (act : ThreadsAct) :
    Decidable (CountsAll enabled s act) :=
  match act with
  | .module m choice => inferInstanceAs (Decidable
      (∀ a ∈ s.performs m choice, AccessCounts enabled s m a))
  | .signal | .service _ => inferInstanceAs (Decidable True)

/-- **`g_exit` says that every enabled module has ended**, in every run without a
signal in which the number of clients is that of the enabled modules that run. -/
theorem exitsWithModules_of_reachableBy {bytes : LcdModule → Str} {enabled : LcdModule → Bool}
    {s : Threads} (hsome : ∃ m, enabled m = true)
    (hs : (system bytes).ReachableBy
      (fun s act => Configured bytes enabled s act ∧ CountsAll enabled s act) s) :
    ExitsWithModules enabled s := by
  have hs : Exiting bytes enabled s := hs.invariant (Exiting bytes enabled)
    (exiting_init bytes enabled hsome) (fun _ _ _ hI hP h => exiting_step hI hP h)
  refine ⟨hs.ended, fun hleft => ?_⟩
  by_contra hgExit
  obtain ⟨stage, hcensus⟩ := hs.census (Bool.eq_false_iff.mpr hgExit)
  have hdone : ∀ m, enabled m = true → stage m = .decided ∨ stage m = .failed := by
    intro m hm
    have hnil := hcensus.way m
    rw [hleft m hm] at hnil
    have hstage := hnil.of_nil
    rw [if_pos hm] at hstage
    exact hstage
  have hended : ∀ m, enabled m = true → (s.phase m).ended = true := by
    intro m hm
    rw [hcensus.phase]
    rcases hdone m hm with h | h <;> rw [h] <;> rfl
  have hdecided : ∀ m, enabled m = true → stage m = .decided := by
    intro m hm
    refine (hdone m hm).resolve_right (fun h => hcensus.failed hended m hm ?_)
    rw [hcensus.phase, h]
    rfl
  have hstage : ∀ m, (stage m).counts = false ∧ stage m ≠ .uncounted := by
    intro m
    cases hm : enabled m with
    | true =>
      rw [hdecided m hm]
      exact ⟨rfl, by simp⟩
    | false =>
      rw [(hcensus.way m).fresh hm]
      exact ⟨rfl, by simp⟩
  have hzero : s.loop.svc.clientNumber = 0 := hcensus.number.trans
    (Int.natCast_eq_zero.mpr (holders_eq_zero_iff.mpr (fun m _ => (hstage m).1)))
  obtain ⟨m, hm⟩ := hsome
  obtain ⟨l, hl, -⟩ := hcensus.zero hzero ⟨m, by rw [hdecided m hm]; rfl⟩
  exact (hstage l).2 hl

/-- `mplayer_init` and `mpd_start_connection` fail when both modules have
registered, and the program ends with the second of them. -/
theorem exitsWithModules_of_reachableBy_fail :
    ∃ s, (system fun _ => []).ReachableBy
        (fun s act => Configured (fun _ => []) (fun m => decide (m = .mplayer ∨ m = .mpd)) s act
          ∧ CountsAll (fun m => decide (m = .mplayer ∨ m = .mpd)) s act) s
      ∧ s.gExit = true ∧ s.left .mplayer = [] ∧ s.left .mpd = []
      ∧ ExitsWithModules (fun m => decide (m = .mplayer ∨ m = .mpd)) s := by
  let sys := system fun _ => []
  let run := sys.replay
    (fun s act => Configured (fun _ => []) (fun m => decide (m = .mplayer ∨ m = .mpd)) s act
      ∧ CountsAll (fun m => decide (m = .mplayer ∨ m = .mpd)) s act) sys.init
    (List.replicate 12 (.module .mplayer false) ++ List.replicate 39 (.module .mpd false)
      ++ [.module .mpd true] ++ List.replicate 14 (.module .mpd false)
      ++ List.replicate 24 (.module .mplayer false) ++ [.module .mplayer true]
      ++ List.replicate 12 (.module .mplayer false))
  have hrun : run.map (fun s => decide (s.gExit = true ∧ s.left .mplayer = []
      ∧ s.left .mpd = [])) = some true := by decide +kernel
  obtain ⟨s, hs, hend⟩ := StepSystem.exists_reachableBy_of_replay hrun
  obtain ⟨hgExit, hmplayer, hmpd⟩ := of_decide_eq_true hend
  exact ⟨s, hs, hgExit, hmplayer, hmpd,
    exitsWithModules_of_reachableBy ⟨.mpd, by decide⟩ hs⟩

/-- `mpd_start_connection` fails before `mplayer` has registered. -/
theorem not_forall_exitsWithModules :
    ¬ ∀ (bytes : LcdModule → Str) (enabled : LcdModule → Bool) (s : Threads),
      (∃ m, enabled m = true) → (system bytes).ReachableBy (Configured bytes enabled) s →
      ExitsWithModules enabled s := by
  intro h
  let sys := system fun _ => []
  let run := sys.replay (Configured (fun _ => []) (fun m => decide (m = .mplayer ∨ m = .mpd)))
    sys.init (List.replicate 39 (.module .mpd false) ++ [.module .mpd true]
      ++ List.replicate 14 (.module .mpd false))
  have hrun : run.map (fun s => decide (s.gExit = true ∧ s.phase .mplayer = .fresh))
      = some true := by decide +kernel
  obtain ⟨s, hs, hend⟩ := StepSystem.exists_reachableBy_of_replay hrun
  obtain ⟨hgExit, hfresh⟩ := of_decide_eq_true hend
  have hended := (h _ _ s ⟨.mplayer, by decide⟩ hs).1 hgExit .mplayer (by decide)
  rw [hfresh] at hended
  exact Bool.false_ne_true hended

end Threads
