import LcdStuff.Threads

/-!
# What the service thread releases

When `service_thread_run` has left its loop, it releases the queue, the table of
the clients and the mutex. The modules' threads may still run then, and all
that keeps them away is the test of `g_exit` at the beginning of the interface's
functions. So `g_exit` must be set by then, and no thread may be between its
test and what it does next.

Only one of the three ends of the loop has seen `g_exit`. Behind the two others
nothing sets it, and the next command of any module goes to a queue that does
not exist any more (`Threads.not_forall_unused_after_release`).
-/

/-- **Not to use a resource again** once `g_exit` is set. -/
def Discipline.idle (r : Resource) : Discipline Access Test Unit :=
  ⟨fun a _ => if a.uses r then none else some (), fun _ answer => answer, fun _ => true⟩

namespace Threads

/-- **No module uses the resource any more**: it has returned, or `g_exit` is
set and it is not between a test of `g_exit` and a use of the resource. -/
def Unused (s : Threads) (r : Resource) : Prop :=
  ∀ m, s.left m = [] ∨ s.gExit = true ∧ (Discipline.idle r).meetsAll (s.left m) () = true

/-- The service thread releases only what no module uses any more. -/
def ReleasesUnused (s : Threads) : ThreadsAct → Prop
  | .service _ => ∀ r ∈ s.loop.pc.releases, s.Unused r
  | _ => True

/-- **Nothing was used behind its release**: no test has let a function of the
interface go on, and no access was made. -/
def NothingLate (s : Threads) : Prop :=
  (∀ m late, .pass m late ∈ s.log → late = false)
    ∧ ∀ m a late, .access m a late ∈ s.log → late = false

/-- Nothing that was released is used, now or in the past. -/
structure NotUsed (s : Threads) : Prop where
  /-- No module will use it. -/
  unused : ∀ r, s.loop.pc.released r = true → s.Unused r
  /-- No test has let a module go on behind the release. -/
  pass : ∀ m late, .pass m late ∈ s.log → late = false
  /-- No module has used it. -/
  access : ∀ m a late, .access m a late ∈ s.log → late = false

end Threads

namespace ServiceLoop

variable {β : Type} {s s' : ServiceLoop β}

/-- Nothing is released while the thread is in its loop. -/
theorem released_of_quiet {pc : LoopPc β} (h : pc.quiet = true) (r : Resource) :
    pc.released r = false := by
  cases pc <;> first | rfl | exact absurd h Bool.false_ne_true

/-- **What a step releases** was released before, or is what it releases. -/
theorem released_of_step {gExit : Bool} {input : LoopInput}
    (h : s.step gExit input = some s') {r : Resource} (hr : s'.pc.released r = true) :
    s.pc.released r = true ∨ s.pc.releases = some r := by
  have hnot : ∀ {pc : LoopPc β}, pc.quiet = true → s'.pc ≠ pc := by
    intro pc hquiet hpc
    rw [hpc, released_of_quiet hquiet r] at hr
    exact Bool.false_ne_true hr
  cases taken_of_step h with
  | test hpc => cases gExit <;> exact absurd rfl (hnot rfl)
  | lookup hpc => exact absurd hr Bool.false_ne_true
  | call hpc => exact absurd rfl (hnot (s.continues_frame _).2)
  | unrefQueue hpc =>
    rw [hpc]
    cases r <;> first | exact .inr rfl | exact absurd hr Bool.false_ne_true
  | destroyClients hpc =>
    rw [hpc]
    cases r <;> first | exact .inr rfl | exact .inl rfl | exact absurd hr Bool.false_ne_true
  | freeMutex hpc =>
    rw [hpc]
    cases r <;> first | exact .inr rfl | exact .inl rfl
  | popped hpc => exact absurd rfl (hnot rfl)
  | idle hpc =>
    dsimp only at hnot
    split at hnot <;> exact absurd rfl (hnot rfl)
  | sent hpc => exact absurd rfl (hnot rfl)
  | unsent hpc => exact absurd rfl (hnot (s.returns_frame _ _).2)
  | received hpc h =>
    rcases of_receives h with ⟨-, hquiet⟩ | ⟨_, _, _, dispatch, -, -, -, hpc'⟩
    · exact absurd rfl (hnot hquiet)
    · cases dispatch with
      | none => exact absurd rfl (hnot hpc')
      | some dispatch =>
        rw [show s'.pc = .lookup _ dispatch from hpc'] at hr
        exact absurd hr Bool.false_ne_true
  | quiet hpc => exact absurd rfl (hnot rfl)
  | packet hpc h => exact absurd hr Bool.false_ne_true

end ServiceLoop

namespace Threads

variable {s s' : Threads}

/-- An access is late if something it uses is released. -/
theorem late_eq_true_iff {a : Access} :
    s.late a = true ↔ ∃ r, a.uses r = true ∧ s.loop.pc.released r = true := by
  unfold late
  rw [List.any_eq_true]
  constructor
  · rintro ⟨r, -, hr⟩
    exact ⟨r, Bool.and_eq_true_iff.mp hr⟩
  · rintro ⟨r, hr⟩
    exact ⟨r, by cases r <;> decide, Bool.and_eq_true_iff.mpr hr⟩

/-- **Once unused, always unused**: `g_exit` stays set, the other modules stay
where they are, and this one keeps from the resource. -/
theorem Unused.update {r : Resource} (hs : s.Unused r) {m : LcdModule}
    {k : List ModuleCode} {gExit : Bool} (hgExit : s.gExit = true → gExit = true)
    (hk : s.gExit = true → (Discipline.idle r).meetsAll k () = true)
    (hleft : s.left m ≠ []) {t : Threads} (htExit : t.gExit = gExit)
    (htLeft : t.left = Function.update s.left m k) : t.Unused r := by
  intro n
  rw [htExit, htLeft]
  by_cases hn : n = m
  · subst hn
    rw [Function.update_self]
    rcases hs n with h | ⟨h, -⟩
    · exact absurd h hleft
    · exact .inr ⟨hgExit h, hk h⟩
  · rw [Function.update_of_ne hn]
    exact (hs n).imp_right (fun h => ⟨hgExit h.1, h.2⟩)

/-- A test lets a module go on only while the queue is not released. -/
theorem late_of_passes (hs : NotUsed s) {m : LcdModule} (hleft : s.left m ≠ [])
    {n : LcdModule} {late : Bool} (h : .pass n late ∈ s.passes m) : late = false := by
  unfold passes at h
  split at h
  · next hgExit =>
    cases List.mem_singleton.mp h
    refine Bool.eq_false_iff.mpr (fun hreleased => ?_)
    rcases hs.unused _ hreleased m with hnil | ⟨hset, -⟩
    · exact hleft hnil
    · exact absurd hset (by rw [hgExit]; decide)
  · exact absurd h List.not_mem_nil

/-- **A step of a module keeps what was released unused.** -/
theorem notUsed_moduleStep (hs : NotUsed s) {m : LcdModule} {choice : Bool}
    (h : s.moduleStep m choice = some s') : NotUsed s' := by
  have hidle : ∀ {a k} {r : Resource}, s.left m ≠ [] → s.Unused r →
      Code.step (fun _ => s.gExit) choice (s.left m) = some (a, k) → s.gExit = true →
      ∃ u, (Discipline.idle r).after a () = some u
        ∧ (Discipline.idle r).meetsAll k u = true := by
    intro a k r hleft hr hstep hgExit
    rcases hr m with hnil | ⟨-, hmeets⟩
    · exact absurd hnil hleft
    · exact Discipline.meets_of_step (fun _ => hgExit) hmeets hstep
  rcases of_moduleStep h with ⟨k, hstep, rfl⟩ | ⟨a, k, hstep, rfl⟩
  · have hleft := left_ne_nil_of_step hstep
    refine ⟨fun r hr => ?_, fun n late hmem => ?_, fun n a late hmem => ?_⟩
    · refine (hs.unused r hr).update id (fun hgExit => ?_) hleft rfl rfl
      obtain ⟨u, -, hk⟩ := hidle hleft (hs.unused r hr) hstep hgExit
      exact hk
    · rcases List.mem_append.mp hmem with hmem | hmem
      · exact late_of_passes hs hleft hmem
      · exact hs.pass n late hmem
    · rcases List.mem_append.mp hmem with hmem | hmem
      · unfold passes at hmem
        split at hmem <;> simp at hmem
      · exact hs.access n a late hmem
  · have hleft := left_ne_nil_of_step hstep
    obtain ⟨hpc, hleft', hgExit'⟩ :=
      perform_frame { s with left := Function.update s.left m k } m a
    refine ⟨fun r hr => ?_, fun n late hmem => ?_, fun n b late hmem => ?_⟩
    · have hr : s.loop.pc.released r = true := hpc ▸ hr
      refine (hs.unused r hr).update hgExit' (fun hgExit => ?_) hleft rfl hleft'
      obtain ⟨u, -, hk⟩ := hidle hleft (hs.unused r hr) hstep hgExit
      exact hk
    · rcases List.mem_cons.mp hmem with hmem | hmem
      · exact absurd hmem (by simp)
      · exact hs.pass n late hmem
    · rcases List.mem_cons.mp hmem with hmem | hmem
      · obtain ⟨rfl, rfl, rfl⟩ := ThreadsEvent.access.inj hmem
        refine Bool.eq_false_iff.mpr (fun hlate => ?_)
        obtain ⟨r, huses, hr⟩ := late_eq_true_iff.mp hlate
        rcases hs.unused r hr n with hnil | ⟨hgExit, -⟩
        · exact hleft hnil
        · -- the discipline has no such access
          obtain ⟨u, hu, -⟩ := hidle hleft (hs.unused r hr) hstep hgExit
          have hu : (if b.uses r then none else some ()) = some u := hu
          rw [if_pos huses] at hu
          exact absurd hu (by simp)
      · exact hs.access n b late hmem

/-- **Every step keeps what was released unused**, under the condition. -/
theorem notUsed_step (hs : NotUsed s) {act : ThreadsAct} (hact : s.ReleasesUnused act)
    (h : s.step act = some s') : NotUsed s' := by
  cases act with
  | signal =>
    cases h
    exact ⟨fun r hr m => (hs.unused r hr m).imp_right (fun h => ⟨rfl, h.2⟩), hs.pass, hs.access⟩
  | service input =>
    obtain ⟨loop, hloop, rfl⟩ := of_serviceStep h
    have hcalls : ∀ {e}, e ∈ s.calls → ∃ call gone gExit, e = .callback call gone gExit := by
      intro e he
      unfold calls at he
      split at he
      · exact ⟨_, _, _, List.mem_singleton.mp he⟩
      · exact absurd he List.not_mem_nil
    refine ⟨fun r hr => ?_, fun n late hmem => ?_, fun n a late hmem => ?_⟩
    · rcases ServiceLoop.released_of_step hloop hr with hr | hr
      · exact hs.unused r hr
      · exact hact r hr
    · rcases List.mem_append.mp hmem with hmem | hmem
      · obtain ⟨_, _, _, he⟩ := hcalls hmem
        exact absurd he (by simp)
      · exact hs.pass n late hmem
    · rcases List.mem_append.mp hmem with hmem | hmem
      · obtain ⟨_, _, _, he⟩ := hcalls hmem
        exact absurd he (by simp)
      · exact hs.access n a late hmem
  | module m choice => exact notUsed_moduleStep hs h

instance (s : Threads) (act : ThreadsAct) : Decidable (s.ReleasesUnused act) :=
  match act with
  | .service _ => inferInstanceAs (Decidable (∀ r ∈ s.loop.pc.releases, ∀ m,
      s.left m = [] ∨ s.gExit = true ∧ (Discipline.idle r).meetsAll (s.left m) () = true))
  | .signal | .module _ _ => inferInstanceAs (Decidable True)

/-- Nothing is released when the threads are created. -/
theorem notUsed_init (bytes : LcdModule → Str) : NotUsed (init bytes) :=
  ⟨fun r hr => absurd hr (by cases r <;> exact Bool.false_ne_true),
    fun _ _ h => absurd h List.not_mem_nil, fun _ _ _ h => absurd h List.not_mem_nil⟩

/-- **Nothing that was released is used**, in every run in which the service
thread releases only what no module uses any more. -/
theorem unused_after_release {bytes : LcdModule → Str} {s : Threads}
    (hs : (system bytes).ReachableBy ReleasesUnused s) : s.NothingLate := by
  have h : NotUsed s := hs.invariant NotUsed (notUsed_init bytes)
    (fun _ _ _ hI hact hstep => notUsed_step hI hact hstep)
  exact ⟨h.pass, h.access⟩

/-- A signal ends the program while a module is in its dispatcher. -/
theorem unused_after_release_signal :
    ∃ s, (system fun _ => []).ReachableBy ReleasesUnused s
      ∧ s.loop.pc = .returned ∧ .access .rss .push false ∈ s.log ∧ s.NothingLate := by
  let sys := system fun _ => []
  let run := sys.replay ReleasesUnused sys.init
    (List.replicate 60 (.module .rss false) ++ [.signal]
      ++ List.replicate 4 (.service .go) ++ List.replicate 11 (.module .rss false))
  have hrun : run.map (fun s => decide (s.loop.pc = .returned
      ∧ .access .rss .push false ∈ s.log)) = some true := by decide +kernel
  obtain ⟨s, hs, hlog⟩ := StepSystem.exists_reachableBy_of_replay hrun
  obtain ⟨hpc, hmem⟩ := of_decide_eq_true hlog
  exact ⟨s, hs, hpc, hmem, unused_after_release hs⟩

/-- The connection to the server is lost while a module has not registered
yet. -/
theorem not_forall_unused_after_release :
    ¬ ∀ (bytes : LcdModule → Str) (s : Threads), (system bytes).Reachable s →
      s.NothingLate := by
  intro h
  let sys := system fun _ => []
  let run := sys.replayAny sys.init
    ([.service .go, .service (.popped none), .service (.received .failed), .service .go,
      .service .go, .service .go] ++ List.replicate 40 (.module .rss false))
  have hrun : run.map (fun s => decide (s.loop.pc = .returned
      ∧ .access .rss .push true ∈ s.log)) = some true := by decide +kernel
  obtain ⟨s, hs, hlog⟩ := StepSystem.exists_reachableBy_of_replay hrun
  exact absurd ((h _ s hs).2 _ _ _ (of_decide_eq_true hlog).2) (by decide)

end Threads
