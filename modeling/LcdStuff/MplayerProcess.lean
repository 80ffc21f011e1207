import LcdStuff.MplayerThreads

/-!
# One program at a time, and its screen

`current.pid` is what the two threads of the mplayer module go by: the service
thread starts a program only while it is not positive, and the dispatcher deals
with one only while it is. So they are never at it together
(`MplayerThreads.Apart`), and there is never more than one program that was
started and not reaped: it is the one that is being started, or the one whose
number `pid` is (`MplayerThreads.children_of_reachableBy`). That is so as long as
the pipes of a program can be opened; where they cannot, `mplayer_kill` sends its
signal to the number of the program before.

What is shown does not keep step. The number is reset before the screen is
hidden, so a program may be started in between, and then the screen that was
shown for it is hidden while it plays
(`MplayerThreads.priority_of_reachableBy`).
-/

namespace MplayerThreads

/-! ## The threads are apart -/

/-- **The threads are never at a program together.** -/
structure Apart (s : MplayerThreads) : Prop where
  /-- The dispatcher deals with a program only while one runs. -/
  busy : s.dispatcher.busy = true → 0 < s.current.pid
  /-- The service thread starts a program only while none runs. -/
  starting : s.service.starting = true → s.current.pid ≤ 0
  /-- The program being started has a number. -/
  newPid : ∀ pid, s.service.newPid = some pid → 0 < pid

variable {s s' : MplayerThreads} {channels : List Channel} {outcome : Outcome}

/-- A request leaves the program and the dispatcher as they are; it may begin a
start. -/
theorem carryOut_frame (channels : List Channel) (s : MplayerThreads)
    (request : Option MplayerRequest) :
    (carryOut channels s request).current.pid = s.current.pid
      ∧ (carryOut channels s request).children = s.children
      ∧ (carryOut channels s request).log = s.log
      ∧ (carryOut channels s request).dispatcher = s.dispatcher
      ∧ ((carryOut channels s request).service = s.service
        ∨ ∃ no, (carryOut channels s request).service = .testPid no) := by
  unfold carryOut
  split
  · exact ⟨rfl, rfl, rfl, rfl, .inl rfl⟩
  · next no =>
    split
    · exact ⟨rfl, rfl, rfl, rfl, .inl rfl⟩
    · exact ⟨rfl, rfl, rfl, rfl, .inr ⟨no, rfl⟩⟩
  · exact ⟨rfl, rfl, rfl, rfl, .inl rfl⟩
  · exact ⟨rfl, rfl, rfl, rfl, .inl rfl⟩
  · exact ⟨rfl, rfl, rfl, rfl, .inl rfl⟩

/-- `mplayer_kill` leaves the number of the program and the children alone. -/
theorem closeInput_frame (s : MplayerThreads) :
    s.closeInput.current.pid = s.current.pid ∧ s.closeInput.children = s.children
      ∧ s.closeInput.service = s.service ∧ s.closeInput.dispatcher = s.dispatcher := by
  unfold closeInput
  split <;> exact ⟨rfl, rfl, rfl, rfl⟩

theorem closeOutput_frame (s : MplayerThreads) :
    s.closeOutput.current.pid = s.current.pid ∧ s.closeOutput.children = s.children
      ∧ s.closeOutput.service = s.service ∧ s.closeOutput.dispatcher = s.dispatcher := by
  unfold closeOutput
  split <;> exact ⟨rfl, rfl, rfl, rfl⟩

/-- Where the program keeps its number and the dispatcher its place, it is only
asked where the service thread has come to. -/
theorem Apart.service (hs : Apart s) (hpid : s'.current.pid = s.current.pid)
    (hdispatcher : s'.dispatcher = s.dispatcher)
    (hstarting : s'.service.starting = true → s.current.pid ≤ 0)
    (hnewPid : ∀ pid, s'.service.newPid = some pid → 0 < pid) : Apart s' where
  busy := fun h => hpid ▸ hs.busy (hdispatcher ▸ h)
  starting := fun h => hpid ▸ hstarting h
  newPid := hnewPid

/-- Where it starts nothing, there is nothing to ask. -/
theorem Apart.service_of_not_starting (hs : Apart s) (hpid : s'.current.pid = s.current.pid)
    (hdispatcher : s'.dispatcher = s.dispatcher) (hstarting : s'.service.starting = false)
    (hnewPid : s'.service.newPid = none) : Apart s' :=
  hs.service hpid hdispatcher (fun h => absurd h (by rw [hstarting]; decide))
    (fun _ h => absurd h (by rw [hnewPid]; exact nofun))

/-- The dispatcher may go wherever it deals with no program that does not run. -/
theorem Apart.dispatcher (hs : Apart s) (hpid : s'.current.pid = s.current.pid)
    (hservice : s'.service = s.service)
    (hbusy : s'.dispatcher.busy = true → 0 < s.current.pid) : Apart s' where
  busy := fun h => hpid ▸ hbusy h
  starting := fun h => hpid ▸ hs.starting (hservice ▸ h)
  newPid := fun pid h => hs.newPid pid (hservice ▸ h)

theorem apart_carryOut (hs : Apart s) (request : Option MplayerRequest) :
    Apart (carryOut channels s request) := by
  obtain ⟨hpid, -, -, hdispatcher, hservice | ⟨no, hservice⟩⟩ :=
    carryOut_frame channels s request
  · exact hs.service hpid hdispatcher (fun h => hs.starting (hservice ▸ h))
      (fun pid h => hs.newPid pid (hservice ▸ h))
  · exact hs.service_of_not_starting hpid hdispatcher (by rw [hservice]; rfl)
      (by rw [hservice]; rfl)

/-- **The service thread keeps apart.** -/
theorem apart_serviceStep (hs : Apart s) (h : s.serviceStep channels outcome = some s') :
    Apart s' := by
  have hstopped : ∀ {pc}, s.service = pc → pc.starting = true → s.current.pid ≤ 0 :=
    fun hpc h => hs.starting (hpc ▸ h)
  have hnewPid : ∀ {pc pid}, s.service = pc → pc.newPid = some pid → 0 < pid :=
    fun hpc h => hs.newPid _ (hpc ▸ h)
  cases serviceTaken_of_step h with
  | @keyed request =>
    obtain ⟨hpid, -, -, hdispatcher, -⟩ := carryOut_frame channels s (some request)
    exact hs.service_of_not_starting hpid hdispatcher rfl rfl
  | running | spawnFailed | killSignal | setChannel =>
    exact hs.service_of_not_starting rfl rfl rfl rfl
  | stopped hpc hpid => exact hs.service rfl rfl (fun _ => hpid) nofun
  | spawned hpc hpid =>
    exact hs.service rfl rfl (fun _ => hstopped hpc rfl) (fun _ h => Option.some.inj h ▸ hpid)
  | openInput hpc | openOutput hpc | shown hpc | waitForPlayback hpc =>
    exact hs.service rfl rfl (fun _ => hstopped hpc rfl)
      (fun _ h => Option.some.inj h ▸ hnewPid hpc rfl)
  | openInputFailed hpc | openOutputFailed hpc | closeInput hpc =>
    exact hs.service rfl rfl (fun _ => hstopped hpc rfl) nofun
  | killCloseInput hpc =>
    obtain ⟨hpid, -, -, hdispatcher⟩ := s.closeInput_frame
    exact hs.service hpid hdispatcher (fun _ => hstopped hpc rfl) nofun
  | killCloseOutput hpc =>
    obtain ⟨hpid, -, -, hdispatcher⟩ := s.closeOutput_frame
    exact hs.service hpid hdispatcher (fun _ => hstopped hpc rfl) nofun
  | setPid hpc =>
    -- from here on the program runs
    exact ⟨fun _ => hnewPid hpc rfl, fun h => (Bool.false_ne_true h).elim, nofun⟩

/-- **The dispatcher keeps apart.** -/
theorem apart_dispatcherStep (hs : Apart s) (h : s.dispatcherStep outcome = some s') :
    Apart s' := by
  have hbusy : ∀ {pc}, s.dispatcher = pc → pc.busy = true → 0 < s.current.pid :=
    fun hpc h => hs.busy (hpc ▸ h)
  cases dispatcherTaken_of_step h with
  | stopped => exact hs
  | running hpc hpid => exact hs.dispatcher rfl rfl (fun _ => hpid)
  | notEnded | clearScreen | hide =>
    exact hs.dispatcher rfl rfl (fun h => (Bool.false_ne_true h).elim)
  | killCloseInput hpc =>
    obtain ⟨hpid, -, hservice, -⟩ := s.closeInput_frame
    exact hs.dispatcher hpid hservice (fun _ => hbusy hpc rfl)
  | killCloseOutput hpc =>
    obtain ⟨hpid, -, hservice, -⟩ := s.closeOutput_frame
    exact hs.dispatcher hpid hservice (fun _ => hbusy hpc rfl)
  | clearPid =>
    exact ⟨fun h => (Bool.false_ne_true h).elim, fun _ => Int.le_refl 0, hs.newPid⟩
  | stop hpc | noStop hpc | pause hpc | noPause hpc | paused hpc | playing hpc | killSignal hpc
  | clearStop hpc | playPause hpc | togglePaused hpc | clearPause hpc | noStreams hpc
  | streams hpc | askArtist hpc | askTitle hpc | showMetainfo hpc | ended hpc =>
    exact hs.dispatcher rfl rfl (fun _ => hbusy hpc rfl)

/-- **Every step keeps the threads apart.** -/
theorem apart_step (hs : Apart s) {act : MplayerAct} (h : step channels s act = some s') :
    Apart s' := by
  cases taken_of_step h with
  | unheard => exact hs
  | key => exact hs.service_of_not_starting rfl rfl rfl rfl
  | menu | net => exact apart_carryOut hs _
  | service hservice => exact apart_serviceStep hs hservice
  | dispatcher hdispatcher => exact apart_dispatcherStep hs hdispatcher
  | exit => exact { hs with }

theorem apart_init : Apart init where
  busy := fun h => (Bool.false_ne_true h).elim
  starting := fun h => (Bool.false_ne_true h).elim
  newPid := nofun

/-- The dispatcher, where it deals with a program, is alone with it. -/
theorem Apart.not_starting_of_busy (hs : Apart s) (h : s.dispatcher.busy = true) :
    s.service.starting = false :=
  Bool.eq_false_iff.mpr (fun hstarting => absurd (hs.busy h) (by
    have hpid := hs.starting hstarting
    omega))

/-- So is the service thread. -/
theorem Apart.not_busy_of_starting (hs : Apart s) (h : s.service.starting = true) :
    s.dispatcher.busy = false :=
  Bool.eq_false_iff.mpr (fun hbusy => absurd (hs.busy hbusy) (by
    have hpid := hs.starting h
    omega))

end MplayerThreads

/-- A program that has a number is being started. -/
theorem ServicePc.newPid_of_not_starting {pc : ServicePc} (h : pc.starting = false) :
    pc.newPid = none := by
  cases pc <;> first | rfl | exact nomatch h

/-- The service thread is in `mplayer_start_program`. -/
def ServicePc.inStartProgram : ServicePc → Bool
  | .idle | .keyed _ => false
  | _ => true

/-- The dispatcher is in `mplayer_check_child`. -/
def DispatcherPc.inCheckChild : DispatcherPc → Bool
  | .waitpid | .clearPid | .clearScreen | .hide => true
  | _ => false

/-- A pipe stream of the program is to be opened. -/
def ServicePc.opening : ServicePc → Bool
  | .openInput .. | .openOutput .. => true
  | _ => false

/-- A stream of the program could not be opened. -/
def ServicePc.failing : ServicePc → Bool
  | .closeInput | .kill _ => true
  | _ => false

namespace MplayerThreads

/-! ## One program at a time -/

/-- The pipe streams of a program are opened where it comes to it. -/
def OpensStreams (s : MplayerThreads) : MplayerAct → Prop
  | .service .failed => s.service.opening = false
  | _ => True

instance (s : MplayerThreads) (act : MplayerAct) : Decidable (OpensStreams s act) :=
  match act with
  | .service .failed => inferInstanceAs (Decidable (s.service.opening = false))
  | .service .done | .service (.spawned _) | .key _ | .menu _ | .net _ | .dispatcher _
  | .exit _ => isTrue trivial

/-- **The program that was started and not reaped**: the one that is being started,
or the one that `pid` is the number of, up to its reaping. -/
def child (s : MplayerThreads) : Option Int :=
  match s.service.newPid with
  | some pid => some pid
  | none =>
    if s.current.pid ≤ 0 ∨ s.dispatcher = .clearPid then none else some s.current.pid

/-- **The invariant**: there is that program and no other. -/
structure Single (s : MplayerThreads) : Prop extends Apart s where
  /-- The programs. -/
  children : s.children = s.child.toList
  /-- Every stream could be opened. -/
  opened : s.service.failing = false

variable {s s' : MplayerThreads} {channels : List Channel} {outcome : Outcome}

/-- There is none while none is started, none runs or it was reaped. -/
theorem child_eq_none (hnewPid : s.service.newPid = none)
    (h : s.current.pid ≤ 0 ∨ s.dispatcher = .clearPid) : s.child = none := by
  unfold child
  rw [hnewPid]
  exact if_pos h

/-- There is the one that runs and was not reaped. -/
theorem child_eq_some (hnewPid : s.service.newPid = none) (hpid : 0 < s.current.pid)
    (hclearPid : s.dispatcher ≠ .clearPid) : s.child = some s.current.pid := by
  unfold child
  rw [hnewPid]
  exact if_neg (by rintro (h | h) <;> [omega; exact hclearPid h])

/-- There is the one that is being started. -/
theorem child_of_newPid {pid : Int} (hnewPid : s.service.newPid = some pid) :
    s.child = some pid := by
  unfold child
  rw [hnewPid]

/-- What the program is told by. -/
theorem child_congr (hnewPid : s'.service.newPid = s.service.newPid)
    (hpid : s'.current.pid = s.current.pid)
    (hdispatcher : s'.dispatcher = .clearPid ↔ s.dispatcher = .clearPid) :
    s'.child = s.child := by
  unfold child
  rw [hnewPid, hpid]
  simp only [hdispatcher]

/-- Nothing changes as long as the program is the same. -/
theorem Single.same (hs : Single s) (hapart : Apart s') (hchildren : s'.children = s.children)
    (hnewPid : s'.service.newPid = s.service.newPid) (hpid : s'.current.pid = s.current.pid)
    (hdispatcher : s'.dispatcher = .clearPid ↔ s.dispatcher = .clearPid)
    (hopened : s'.service.failing = false) : Single s' :=
  { hapart with
    children := by rw [hchildren, hs.children, child_congr hnewPid hpid hdispatcher]
    opened := hopened }

theorem single_carryOut (hs : Single s) (hpc : s.service.newPid = none)
    (request : Option MplayerRequest) : Single (carryOut channels s request) := by
  have hapart : Apart (carryOut channels s request) := apart_carryOut hs.toApart request
  obtain ⟨hpid, hchildren, -, hdispatcher, hservice⟩ := carryOut_frame channels s request
  refine hs.same hapart hchildren ?_ hpid (by rw [hdispatcher]) ?_
  · rcases hservice with hservice | ⟨no, hservice⟩
    · rw [hservice]
    · rw [hservice, hpc]
      rfl
  · rcases hservice with hservice | ⟨no, hservice⟩
    · rw [hservice]
      exact hs.opened
    · rw [hservice]
      rfl

/-- **The service thread starts one program at a time.** -/
theorem single_serviceStep (hs : Single s) (hopens : OpensStreams s (.service outcome))
    (h : s.serviceStep channels outcome = some s') : Single s' := by
  have hapart := apart_serviceStep hs.toApart h
  have hfailing : ∀ {pc}, s.service = pc → pc.failing ≠ true :=
    fun hpc h => Bool.false_ne_true (hs.opened.symm.trans (hpc ▸ h))
  have hnewPid : ∀ {pc}, s.service = pc → s.service.newPid = pc.newPid := fun hpc => hpc ▸ rfl
  cases serviceTaken_of_step h with
  | @keyed request hpc =>
    obtain ⟨hpid, hchildren, -, hdispatcher, -⟩ := carryOut_frame channels s (some request)
    have hdispatcher : (carryOut channels s (some request)).dispatcher = .clearPid
        ↔ s.dispatcher = .clearPid := by rw [hdispatcher]
    exact hs.same hapart hchildren (hnewPid hpc).symm hpid hdispatcher rfl
  | running hpc | stopped hpc | spawnFailed hpc | openInput hpc | openOutput hpc | shown hpc
  | waitForPlayback hpc | setChannel hpc =>
    exact hs.same hapart rfl (hnewPid hpc).symm rfl Iff.rfl rfl
  | @spawned no pid hpc hpid =>
    have hstarting : s.service.starting = true := by rw [hpc]; rfl
    have hnone := child_eq_none (hnewPid hpc) (.inl (hs.starting hstarting))
    refine { hapart with children := ?_, opened := rfl }
    show pid :: s.children = [pid]
    rw [hs.children, hnone]
    rfl
  | openInputFailed hpc | openOutputFailed hpc =>
    have hopening : s.service.opening = false := hopens
    rw [hpc] at hopening
    exact nomatch hopening
  | closeInput hpc | killCloseInput hpc | killCloseOutput hpc | killSignal hpc =>
    exact absurd rfl (hfailing hpc)
  | @setPid no pid hpc =>
    -- the program that was being started is the one that runs
    have hstarting : s.service.starting = true := by rw [hpc]; rfl
    have hbusy := hs.toApart.not_busy_of_starting hstarting
    have hclearPid : s.dispatcher ≠ .clearPid := fun h => by
      rw [h] at hbusy
      exact nomatch hbusy
    have hafter : child { s with
        current := { s.current with pid := pid }
        service := .setChannel no } = some pid :=
      child_eq_some rfl (hs.newPid pid (hnewPid hpc)) hclearPid
    refine { hapart with children := ?_, opened := rfl }
    rw [hafter, ← child_of_newPid (hnewPid hpc)]
    exact hs.children

/-- **The dispatcher reaps the program that runs.** -/
theorem single_dispatcherStep (hs : Single s) (h : s.dispatcherStep outcome = some s') :
    Single s' := by
  have hapart := apart_dispatcherStep hs.toApart h
  have hnot : ∀ {pc pc' : DispatcherPc}, s.dispatcher = pc → pc ≠ .clearPid →
      pc' ≠ .clearPid → (pc' = .clearPid ↔ s.dispatcher = .clearPid) :=
    fun hpc hne hne' => ⟨fun h => absurd h hne', fun h => absurd (hpc.symm.trans h) hne⟩
  cases dispatcherTaken_of_step h with
  | stopped => exact hs
  | killCloseInput hpc =>
    obtain ⟨hpid, hchildren, hservice, -⟩ := s.closeInput_frame
    exact hs.same hapart hchildren (congrArg _ hservice) hpid (hnot hpc nofun nofun)
      ((congrArg _ hservice).trans hs.opened)
  | killCloseOutput hpc =>
    obtain ⟨hpid, hchildren, hservice, -⟩ := s.closeOutput_frame
    exact hs.same hapart hchildren (congrArg _ hservice) hpid (hnot hpc nofun nofun)
      ((congrArg _ hservice).trans hs.opened)
  | ended hpc =>
    have hbusy : s.dispatcher.busy = true := by rw [hpc]; rfl
    have hnewPid := ServicePc.newPid_of_not_starting (hs.toApart.not_starting_of_busy hbusy)
    have hbefore := child_eq_some hnewPid (hs.busy hbusy) (by rw [hpc]; exact nofun)
    have hafter : child { s with
        children := s.children.erase s.current.pid
        ended := s.ended.erase s.current.pid
        dispatcher := .clearPid } = none := child_eq_none hnewPid (.inr rfl)
    refine { hapart with children := ?_, opened := hs.opened }
    rw [hafter]
    show s.children.erase s.current.pid = []
    rw [hs.children, hbefore, Option.toList_some, List.erase_cons_head]
  | clearPid hpc =>
    have hbusy : s.dispatcher.busy = true := by rw [hpc]; rfl
    have hnewPid := ServicePc.newPid_of_not_starting (hs.toApart.not_starting_of_busy hbusy)
    have hbefore := child_eq_none hnewPid (.inr hpc)
    have hafter : child { s with
        current := { s.current with pid := 0 }
        killed := false
        dispatcher := .clearScreen } = none := child_eq_none hnewPid (.inl (Int.le_refl 0))
    refine { hapart with children := ?_, opened := hs.opened }
    rw [hafter, ← hbefore]
    exact hs.children
  | running hpc | stop hpc | noStop hpc | pause hpc | noPause hpc | paused hpc | playing hpc
  | killSignal hpc | clearStop hpc | playPause hpc | togglePaused hpc | clearPause hpc
  | noStreams hpc | streams hpc | askArtist hpc | askTitle hpc | showMetainfo hpc
  | notEnded hpc | clearScreen hpc | hide hpc =>
    exact hs.same hapart rfl rfl rfl (hnot hpc nofun nofun) hs.opened

/-- **Every step keeps the programs apart**, one at a time. -/
theorem single_step (hs : Single s) {act : MplayerAct} (hopens : OpensStreams s act)
    (h : step channels s act = some s') : Single s' := by
  have hidle : s.service = .idle → s.service.newPid = none := fun hpc => by
    rw [hpc]
    rfl
  cases taken_of_step h with
  | unheard => exact hs
  | key hpc => exact hs.same (apart_step hs.toApart h) rfl (hidle hpc).symm rfl Iff.rfl rfl
  | menu hpc | net hpc => exact single_carryOut hs (hidle hpc) _
  | service hservice => exact single_serviceStep hs hopens hservice
  | dispatcher hdispatcher => exact single_dispatcherStep hs hdispatcher
  | exit => exact { hs with }

/-- **Never more than one program**: at any time at most one was started and not
reaped, and where neither thread is in `mplayer_start_program` or
`mplayer_check_child`, `pid` is positive exactly when there is one, and then it is
its number. -/
theorem children_of_reachableBy {channels : List Channel} {s : MplayerThreads}
    (hs : (system channels).ReachableBy OpensStreams s) :
    s.children.length ≤ 1
      ∧ (s.service.inStartProgram = false → s.dispatcher.inCheckChild = false →
        (0 < s.current.pid ↔ s.children ≠ []) ∧ ∀ pid ∈ s.children, pid = s.current.pid) := by
  have hsingle : Single s := hs.invariant Single { apart_init with children := rfl, opened := rfl }
    (fun _ _ _ hI hopens h => single_step hI hopens h)
  rw [hsingle.children]
  refine ⟨by cases s.child <;> simp, fun hservice hdispatcher => ?_⟩
  have hnewPid : s.service.newPid = none := by
    cases hpc : s.service <;> first | rfl | (rw [hpc] at hservice; exact nomatch hservice)
  have hclearPid : s.dispatcher ≠ .clearPid := fun h => by
    rw [h] at hdispatcher
    exact nomatch hdispatcher
  rcases Int.lt_or_le 0 s.current.pid with hpid | hpid
  · rw [child_eq_some hnewPid hpid hclearPid]
    exact ⟨⟨fun _ => nofun, fun _ => hpid⟩, fun pid h => List.mem_singleton.mp h⟩
  · rw [child_eq_none hnewPid (.inl hpid)]
    exact ⟨⟨fun h => absurd h (by omega), fun h => absurd rfl h⟩, nofun⟩

/-- A program is started, ends and is reaped, and another one is started. -/
theorem children_of_reachableBy_twice :
    ∃ s, (system [⟨"radio".toList, "http://radio".toList, false⟩]).ReachableBy OpensStreams s
      ∧ s.current.pid = 43 ∧ s.children = [43] ∧ s.children.length ≤ 1
      ∧ (s.service.inStartProgram = false → s.dispatcher.inCheckChild = false →
        (0 < s.current.pid ↔ s.children ≠ []) ∧ ∀ pid ∈ s.children, pid = s.current.pid) := by
  let sys := system [⟨"radio".toList, "http://radio".toList, false⟩]
  let start (pid : Int) : List MplayerAct := [.net ["play".toList, "0".toList], .service .done,
    .service (.spawned pid), .service .done, .service .done, .service .done, .service .done,
    .service .done, .service .done]
  let run := sys.replay OpensStreams sys.init (start 42 ++ [.exit 42]
    ++ List.replicate 12 (.dispatcher .done) ++ start 43)
  have hrun : run.map (fun s => decide (s.current.pid = 43 ∧ s.children = [43]))
      = some true := by decide +kernel
  obtain ⟨s, hs, hstate⟩ := StepSystem.exists_reachableBy_of_replay hrun
  obtain ⟨hpid, hchildren⟩ := of_decide_eq_true hstate
  exact ⟨s, hs, hpid, hchildren, children_of_reachableBy hs⟩

/-! ## The screen of the program -/

end MplayerThreads

/-- The screen is to be shown next. -/
def ServicePc.showing : ServicePc → Bool
  | .show .. => true
  | _ => false

/-- The screen was shown, and `pid` is not set yet. -/
def ServicePc.shown : ServicePc → Bool
  | .waitForPlayback .. | .setPid .. => true
  | _ => false

/-- `pid` was reset, and the screen is not hidden yet. -/
def DispatcherPc.toHide : DispatcherPc → Bool
  | .clearScreen | .hide => true
  | _ => false

/-- **The last priority** that was queued for the screen; `mplayer_init` hides it
before there are any channels. -/
def lastPriority : List MplayerEvent → Str
  | [] => "hidden".toList
  | .priority priority :: _ => priority
  | _ :: log => lastPriority log

namespace MplayerThreads

/-- The screen of a program is not shown while that of the one before is yet to be
hidden. -/
def ShowsUnhidden (s : MplayerThreads) : MplayerAct → Prop
  | .service _ => s.service.showing = true → s.dispatcher.toHide = false
  | _ => True

instance (s : MplayerThreads) (act : MplayerAct) : Decidable (ShowsUnhidden s act) :=
  match act with
  | .service _ =>
    inferInstanceAs (Decidable (s.service.showing = true → s.dispatcher.toHide = false))
  | .key _ | .menu _ | .net _ | .dispatcher _ | .exit _ => isTrue trivial

/-- **The invariant**: what is shown is what runs, or is about to. -/
structure Shown (s : MplayerThreads) : Prop extends Apart s where
  /-- A program that is to be hidden runs no more, and none was shown since. -/
  toHide : s.dispatcher.toHide = true → s.current.pid ≤ 0 ∧ s.service.shown = false
  /-- One that runs, or is about to, is shown. -/
  info : s.service.shown = true ∨ 0 < s.current.pid → lastPriority s.log = "info".toList
  /-- Else nothing is, once it was hidden. -/
  hidden : s.service.shown = false → s.current.pid ≤ 0 → s.dispatcher.toHide = false →
    lastPriority s.log = "hidden".toList

variable {s s' : MplayerThreads} {channels : List Channel} {outcome : Outcome}

/-- A stream that is closed is not seen on the screen. -/
theorem lastPriority_closeInput (s : MplayerThreads) :
    lastPriority s.closeInput.log = lastPriority s.log := by
  unfold closeInput
  split <;> rfl

theorem lastPriority_closeOutput (s : MplayerThreads) :
    lastPriority s.closeOutput.log = lastPriority s.log := by
  unfold closeOutput
  split <;> rfl

/-- A program that is shown is being started. -/
theorem Apart.not_shown_of_busy (hs : Apart s) (h : s.dispatcher.busy = true) :
    s.service.shown = false := by
  have hstarting := hs.not_starting_of_busy h
  cases hpc : s.service <;> first | rfl | (rw [hpc] at hstarting; exact nomatch hstarting)

/-- Most steps change nothing of it. -/
theorem Shown.same (hs : Shown s) (hapart : Apart s') (hpid : s'.current.pid = s.current.pid)
    (hlog : lastPriority s'.log = lastPriority s.log)
    (hshown : s'.service.shown = s.service.shown)
    (htoHide : s'.dispatcher.toHide = s.dispatcher.toHide) : Shown s' :=
  { hapart with
    toHide := by
      rw [hpid, hshown, htoHide]
      exact hs.toHide
    info := by
      rw [hpid, hshown, hlog]
      exact hs.info
    hidden := by
      rw [hpid, hshown, htoHide, hlog]
      exact hs.hidden }

theorem shown_carryOut (hs : Shown s) (hpc : s.service.shown = false)
    (request : Option MplayerRequest) : Shown (carryOut channels s request) := by
  obtain ⟨hpid, -, hlog, hdispatcher, hservice⟩ := carryOut_frame channels s request
  refine hs.same (apart_carryOut hs.toApart request) hpid (congrArg _ hlog) ?_
    (congrArg _ hdispatcher)
  rcases hservice with hservice | ⟨no, hservice⟩
  · rw [hservice]
  · rw [hservice, hpc]
    rfl

/-- **The service thread shows what it starts.** -/
theorem shown_serviceStep (hs : Shown s) (hshows : ShowsUnhidden s (.service outcome))
    (h : s.serviceStep channels outcome = some s') : Shown s' := by
  have hapart := apart_serviceStep hs.toApart h
  have hshown : ∀ {pc}, s.service = pc → s.service.shown = pc.shown := fun hpc => hpc ▸ rfl
  cases serviceTaken_of_step h with
  | @keyed request hpc =>
    obtain ⟨hpid, -, hlog, hdispatcher, -⟩ := carryOut_frame channels s (some request)
    exact hs.same hapart hpid (congrArg _ hlog) (hshown hpc).symm (congrArg _ hdispatcher)
  | running hpc | stopped hpc | spawnFailed hpc | spawned hpc | openInput hpc
  | openInputFailed hpc | openOutput hpc | openOutputFailed hpc | closeInput hpc
  | killSignal hpc | waitForPlayback hpc | setChannel hpc =>
    exact hs.same hapart rfl rfl (hshown hpc).symm rfl
  | killCloseInput hpc =>
    obtain ⟨hpid, -, -, hdispatcher⟩ := s.closeInput_frame
    exact hs.same hapart hpid s.lastPriority_closeInput (hshown hpc).symm
      (congrArg _ hdispatcher)
  | killCloseOutput hpc =>
    obtain ⟨hpid, -, -, hdispatcher⟩ := s.closeOutput_frame
    exact hs.same hapart hpid s.lastPriority_closeOutput (hshown hpc).symm
      (congrArg _ hdispatcher)
  | shown hpc =>
    -- the one before is hidden by now
    have hnot : s.dispatcher.toHide = false := hshows (by rw [hpc]; rfl)
    exact { hapart with
      toHide := fun h => absurd (hnot.symm.trans h) Bool.false_ne_true
      info := fun _ => rfl
      hidden := fun h => nomatch h }
  | @setPid no pid hpc =>
    have hinfo := hs.info (.inl (hshown hpc))
    have hnewPid : s.service.newPid = some pid := by rw [hpc]; rfl
    have hpid := hs.newPid pid hnewPid
    exact { hapart with
      toHide := fun h => absurd ((hshown hpc).symm.trans (hs.toHide h).2) nofun
      info := fun _ => hinfo
      hidden := fun _ h => absurd hpid (Int.not_lt.mpr h) }

/-- **The dispatcher hides what has ended.** -/
theorem shown_dispatcherStep (hs : Shown s) (h : s.dispatcherStep outcome = some s') :
    Shown s' := by
  have hapart := apart_dispatcherStep hs.toApart h
  have htoHide : ∀ {pc}, s.dispatcher = pc → s.dispatcher.toHide = pc.toHide :=
    fun hpc => hpc ▸ rfl
  cases dispatcherTaken_of_step h with
  | stopped => exact hs
  | running hpc | stop hpc | noStop hpc | pause hpc | noPause hpc | paused hpc | playing hpc
  | killSignal hpc | clearStop hpc | playPause hpc | togglePaused hpc | clearPause hpc
  | noStreams hpc | streams hpc | askArtist hpc | askTitle hpc | showMetainfo hpc | ended hpc
  | notEnded hpc | clearScreen hpc =>
    exact hs.same hapart rfl rfl rfl (htoHide hpc).symm
  | killCloseInput hpc =>
    obtain ⟨hpid, -, hservice, -⟩ := s.closeInput_frame
    exact hs.same hapart hpid s.lastPriority_closeInput (congrArg _ hservice) (htoHide hpc).symm
  | killCloseOutput hpc =>
    obtain ⟨hpid, -, hservice, -⟩ := s.closeOutput_frame
    exact hs.same hapart hpid s.lastPriority_closeOutput (congrArg _ hservice)
      (htoHide hpc).symm
  | clearPid hpc =>
    have hshown := hs.toApart.not_shown_of_busy (by rw [hpc]; rfl)
    exact { hapart with
      toHide := fun _ => ⟨Int.le_refl 0, hshown⟩
      info := fun h => h.elim (fun h => absurd (hshown.symm.trans h) Bool.false_ne_true)
        (fun h => absurd h (Int.lt_irrefl 0))
      hidden := fun _ _ h => nomatch h }
  | hide hpc =>
    obtain ⟨hpid, hshown⟩ := hs.toHide (htoHide hpc)
    exact { hapart with
      toHide := fun h => nomatch h
      info := fun h => h.elim (fun h => absurd (hshown.symm.trans h) Bool.false_ne_true)
        (fun h => absurd h (Int.not_lt.mpr hpid))
      hidden := fun _ _ _ => rfl }

/-- **Every step keeps the screen up to date** under the condition. -/
theorem shown_step (hs : Shown s) {act : MplayerAct} (hshows : ShowsUnhidden s act)
    (h : step channels s act = some s') : Shown s' := by
  have hidle : s.service = .idle → s.service.shown = false := fun hpc => by
    rw [hpc]
    rfl
  cases taken_of_step h with
  | unheard => exact hs
  | key hpc => exact hs.same (apart_step hs.toApart h) rfl rfl (hidle hpc).symm rfl
  | menu hpc | net hpc => exact shown_carryOut hs (hidle hpc) _
  | service hservice => exact shown_serviceStep hs hshows hservice
  | dispatcher hdispatcher => exact shown_dispatcherStep hs hdispatcher
  | exit => exact { hs with }

theorem shown_init : Shown init :=
  { apart_init with
    toHide := fun h => nomatch h
    info := fun h => h.elim nofun (fun h => absurd h (by decide))
    hidden := fun _ _ _ => rfl }

/-- **The screen is shown while a program runs and hidden while none does**, where
neither thread is in `mplayer_start_program` or `mplayer_check_child`, in every run in
which no screen is shown between the reset of `pid` and the command that hides the
one before. -/
theorem priority_of_reachableBy {channels : List Channel} {s : MplayerThreads}
    (hs : (system channels).ReachableBy ShowsUnhidden s)
    (hservice : s.service.inStartProgram = false)
    (hdispatcher : s.dispatcher.inCheckChild = false) :
    lastPriority s.log = if 0 < s.current.pid then "info".toList else "hidden".toList := by
  have hshown : Shown s := hs.invariant Shown shown_init
    (fun _ _ _ hI hshows h => shown_step hI hshows h)
  split
  · next hpid => exact hshown.info (.inr hpid)
  · next hpid =>
    refine hshown.hidden ?_ (Int.not_lt.mp hpid) ?_
    · cases hpc : s.service <;> first | rfl | (rw [hpc] at hservice; exact nomatch hservice)
    · cases hpc : s.dispatcher <;>
        first | rfl | (rw [hpc] at hdispatcher; exact nomatch hdispatcher)

/-- A program is started, ends, is reaped and hidden, and another one is started. -/
theorem priority_of_reachableBy_twice :
    ∃ s, (system [⟨"radio".toList, "http://radio".toList, false⟩]).ReachableBy ShowsUnhidden s
      ∧ s.current.pid = 43
      ∧ lastPriority s.log = if 0 < s.current.pid then "info".toList else "hidden".toList := by
  let sys := system [⟨"radio".toList, "http://radio".toList, false⟩]
  let start (pid : Int) : List MplayerAct := [.net ["play".toList, "0".toList], .service .done,
    .service (.spawned pid), .service .done, .service .done, .service .done, .service .done,
    .service .done, .service .done]
  let run := sys.replay ShowsUnhidden sys.init (start 42 ++ [.exit 42]
    ++ List.replicate 12 (.dispatcher .done) ++ start 43)
  have hrun : run.map (fun s => decide (s.current.pid = 43
      ∧ s.service.inStartProgram = false ∧ s.dispatcher.inCheckChild = false))
      = some true := by decide +kernel
  obtain ⟨s, hs, hstate⟩ := StepSystem.exists_reachableBy_of_replay hrun
  obtain ⟨hpid, hservice, hdispatcher⟩ := of_decide_eq_true hstate
  exact ⟨s, hs, hpid, priority_of_reachableBy hs hservice hdispatcher⟩

/-- A program is started between the reset of the number of the one before and the
command that hides it. -/
theorem not_forall_priority :
    ¬ ∀ (channels : List Channel) (s : MplayerThreads), (system channels).Reachable s →
      s.service.inStartProgram = false → s.dispatcher.inCheckChild = false →
      lastPriority s.log = if 0 < s.current.pid then "info".toList else "hidden".toList := by
  intro h
  let sys := system [⟨"radio".toList, "http://radio".toList, false⟩]
  let start (pid : Int) : List MplayerAct := [.net ["play".toList, "0".toList], .service .done,
    .service (.spawned pid), .service .done, .service .done, .service .done, .service .done,
    .service .done, .service .done]
  let run := sys.replayAny sys.init (start 42 ++ [.exit 42]
    ++ List.replicate 10 (.dispatcher .done) ++ start 43 ++ List.replicate 2 (.dispatcher .done))
  have hrun : run.map (fun s => decide (s.current.pid = 43
      ∧ s.service.inStartProgram = false ∧ s.dispatcher.inCheckChild = false
      ∧ lastPriority s.log = "hidden".toList)) = some true := by decide +kernel
  obtain ⟨s, hs, hstate⟩ := StepSystem.exists_reachableBy_of_replay hrun
  obtain ⟨hpid, hservice, hdispatcher, hlog⟩ := of_decide_eq_true hstate
  have hshown := h _ s hs hservice hdispatcher
  rw [hlog, hpid] at hshown
  exact absurd hshown (by decide)

end MplayerThreads
