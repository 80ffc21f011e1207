import LcdStuff.MplayerProcess

/-!
# The streams of the program

`mplayer_start_program` opens two streams to the program that it has started, and only
`mplayer_kill` closes them. When a program was stopped they are closed before it is reaped
and the next start finds both of them `NULL`. A program that ends by itself is reaped as well,
but `mplayer_check_child` only resets `pid`: its streams stay open, and the next start
writes over them (`MplayerThreads.released_of_reachableBy`).

`mplayer_kill` also cleans up behind a start that has failed. There `pid` is not set yet, so
it does not signal the child but what is not positive
(`MplayerThreads.cleanedUp_iff_of_starting`).
-/

/-- The streams of the program that is being started may be open. -/
def ServicePc.holding : ServicePc → Bool
  | .openOutput .. | .closeInput | .kill .closeInput | .kill .closeOutput | .show ..
  | .waitForPlayback .. | .setPid .. => true
  | _ => false

/-- A place where streams may be open is one of a start. -/
theorem ServicePc.starting_of_holding {pc : ServicePc} (h : pc.holding = true) :
    pc.starting = true := by
  cases pc <;> first | rfl | exact nomatch h

/-- **The streams that are open** are those of the program. -/
structure Held (files : List File) (next : File) (input output : Option File) : Prop where
  /-- They were opened before. -/
  fresh : ∀ f ∈ files, f < next
  /-- Each was opened once. -/
  nodup : files.Nodup
  /-- They are the program's. -/
  held : ∀ f ∈ files, input = some f ∨ output = some f

namespace Held

variable {files : List File} {next f : File} {input output : Option File}

theorem nil : Held [] 0 none none := ⟨nofun, .nil, nofun⟩

/-- None is open when the program has none. -/
theorem eq_nil (h : Held files next none none) : files = [] := by
  refine List.eq_nil_iff_forall_not_mem.mpr (fun f hf => ?_)
  rcases h.held f hf with hinput | houtput
  · exact nomatch hinput
  · exact nomatch houtput

/-- A stream is opened. -/
theorem fdopen (h : Held files next input output) {input' output' : Option File}
    (hnew : input' = some next ∨ output' = some next)
    (hinput : ∀ f, input = some f → input' = some f)
    (houtput : ∀ f, output = some f → output' = some f) :
    Held (next :: files) (next + 1) input' output' where
  fresh g hg := by
    rcases List.mem_cons.mp hg with rfl | hg
    · exact Nat.lt_succ_self g
    · exact Nat.lt_succ_of_lt (h.fresh g hg)
  nodup := List.nodup_cons.mpr ⟨fun hmem => Nat.lt_irrefl next (h.fresh next hmem), h.nodup⟩
  held g hg := by
    rcases List.mem_cons.mp hg with rfl | hg
    · exact hnew
    · exact (h.held g hg).imp (hinput g) (houtput g)

/-- A stream is closed. -/
theorem fclose (h : Held files next input output) {input' output' : Option File}
    (hinput : ∀ g, g ≠ f → input = some g → input' = some g)
    (houtput : ∀ g, g ≠ f → output = some g → output' = some g) :
    Held (files.erase f) next input' output' where
  fresh g hg := h.fresh g (List.mem_of_mem_erase hg)
  nodup := h.nodup.erase f
  held g hg := by
    obtain ⟨hne, hg⟩ := h.nodup.mem_erase_iff.mp hg
    exact (h.held g hg).imp (hinput g hne) (houtput g hne)

end Held

namespace MplayerThreads

/-- **The invariant**: the streams that are open are those of the program, there is none
where none was opened yet, and none is left of a program that is killed. -/
structure Streams (s : MplayerThreads) : Prop extends Apart s where
  /-- The streams that are open. -/
  held : Held s.files s.nextFile s.current.inputStream s.current.outputStream
  /-- None is where none runs or is being opened. -/
  free : s.service.holding = false → s.current.pid ≤ 0 →
    s.current.inputStream = none ∧ s.current.outputStream = none
  /-- The output is opened behind the input. -/
  noOutput : ∀ no pid, s.service = .openOutput no pid → s.current.outputStream = none
  /-- It is closed behind it too. -/
  noInput : s.service = .kill .closeOutput → s.current.inputStream = none
  /-- Only a program that runs is killed. -/
  killed : s.killed = true → 0 < s.current.pid
  /-- What the dispatcher kills is killed. -/
  killing : ∀ pc, s.dispatcher = .kill pc → s.killed = true
  /-- A program that is killed has no input. -/
  closedInput : s.killed = true → s.dispatcher ≠ .kill .closeInput →
    s.current.inputStream = none
  /-- Nor has it an output. -/
  closedOutput : s.killed = true → s.dispatcher ≠ .kill .closeInput →
    s.dispatcher ≠ .kill .closeOutput → s.current.outputStream = none
  /-- A program that was reaped has neither. -/
  reaped : s.dispatcher = .clearPid →
    s.current.inputStream = none ∧ s.current.outputStream = none

/-- The step is not one in which a program is reaped that was not stopped. -/
def ReapsKilled (s : MplayerThreads) : MplayerAct → Prop
  | .dispatcher _ => s.dispatcher = .waitpid → s.current.pid ∈ s.ended → s.killed = true
  | _ => True

instance (s : MplayerThreads) (act : MplayerAct) : Decidable (ReapsKilled s act) :=
  match act with
  | .dispatcher _ =>
    inferInstanceAs (Decidable (s.dispatcher = .waitpid → s.current.pid ∈ s.ended →
      s.killed = true))
  | .key _ | .menu _ | .net _ | .service _ | .exit _ => isTrue trivial

variable {s s' : MplayerThreads} {channels : List Channel} {outcome : Outcome}

/-- **While a program is started** the dispatcher has nothing to do with its streams. -/
theorem Streams.starting_step (hs : Streams s) (hstarting : s.service.starting = true)
    (hapart : Apart s') (hkilled : s'.killed = s.killed)
    (hdispatcher : s'.dispatcher = s.dispatcher)
    (hheld : Held s'.files s'.nextFile s'.current.inputStream s'.current.outputStream)
    (hfree : s'.service.holding = false →
      s'.current.inputStream = none ∧ s'.current.outputStream = none)
    (hnoOutput : ∀ no pid, s'.service = .openOutput no pid → s'.current.outputStream = none)
    (hnoInput : s'.service = .kill .closeOutput → s'.current.inputStream = none) :
    Streams s' := by
  have hnot : s'.killed ≠ true := fun h => by
    have hpos := hs.killed (hkilled ▸ h)
    exact absurd (hs.starting hstarting) (Int.not_le.mpr hpos)
  have hidle : s.dispatcher.busy = false := hs.toApart.not_busy_of_starting hstarting
  exact { hapart with
    held := hheld
    free := fun h _ => hfree h
    noOutput := hnoOutput
    noInput := hnoInput
    killed := fun h => absurd h hnot
    killing := fun pc h => hkilled ▸ hs.killing pc (hdispatcher ▸ h)
    closedInput := fun h => absurd h hnot
    closedOutput := fun h => absurd h hnot
    reaped := fun h => by
      rw [← hdispatcher, h] at hidle
      exact nomatch hidle }

/-- The service thread in a place where it opens nothing, with the streams as they are. -/
theorem Streams.service (hs : Streams s) (hapart : Apart s')
    (hcurrent : s'.current.pid = s.current.pid
      ∧ s'.current.inputStream = s.current.inputStream
      ∧ s'.current.outputStream = s.current.outputStream)
    (hfiles : s'.files = s.files ∧ s'.nextFile = s.nextFile) (hkilled : s'.killed = s.killed)
    (hdispatcher : s'.dispatcher = s.dispatcher) (hholding : s.service.holding = false)
    (hplace : s'.service.holding = false) : Streams s' := by
  obtain ⟨hpid, hinput, houtput⟩ := hcurrent
  have hnone : s'.current.pid ≤ 0 →
      s'.current.inputStream = none ∧ s'.current.outputStream = none := fun h => by
    rw [hinput, houtput]
    exact hs.free hholding (hpid ▸ h)
  exact { hapart with
    held := by rw [hfiles.1, hfiles.2, hinput, houtput]; exact hs.held
    free := fun _ h => hnone h
    noOutput := fun no pid h => by
      rw [h] at hplace
      exact nomatch hplace
    noInput := fun h => by
      rw [h] at hplace
      exact nomatch hplace
    killed := fun h => hpid ▸ hs.killed (hkilled ▸ h)
    killing := fun pc h => hkilled ▸ hs.killing pc (hdispatcher ▸ h)
    closedInput := fun h hpc => hinput ▸ hs.closedInput (hkilled ▸ h) (hdispatcher ▸ hpc)
    closedOutput := fun h hpc hpc' =>
      houtput ▸ hs.closedOutput (hkilled ▸ h) (hdispatcher ▸ hpc) (hdispatcher ▸ hpc')
    reaped := fun h => by
      rw [hinput, houtput]
      exact hs.reaped (hdispatcher ▸ h) }

/-- A request leaves the streams alone. -/
theorem carryOut_streams (channels : List Channel) (s : MplayerThreads)
    (request : Option MplayerRequest) :
    (carryOut channels s request).current.inputStream = s.current.inputStream
      ∧ (carryOut channels s request).current.outputStream = s.current.outputStream
      ∧ (carryOut channels s request).files = s.files
      ∧ (carryOut channels s request).nextFile = s.nextFile
      ∧ (carryOut channels s request).killed = s.killed := by
  unfold carryOut
  split
  · exact ⟨rfl, rfl, rfl, rfl, rfl⟩
  · split
    · exact ⟨rfl, rfl, rfl, rfl, rfl⟩
    · exact ⟨rfl, rfl, rfl, rfl, rfl⟩
  · exact ⟨rfl, rfl, rfl, rfl, rfl⟩
  · exact ⟨rfl, rfl, rfl, rfl, rfl⟩
  · exact ⟨rfl, rfl, rfl, rfl, rfl⟩

theorem streams_carryOut (hs : Streams s) (hidle : s.service = .idle)
    (request : Option MplayerRequest) : Streams (carryOut channels s request) := by
  obtain ⟨hpid, -, -, hdispatcher, hservice⟩ := carryOut_frame channels s request
  obtain ⟨hinput, houtput, hfiles, hnext, hkilled⟩ := carryOut_streams channels s request
  refine hs.service (apart_carryOut hs.toApart request) ⟨hpid, hinput, houtput⟩
    ⟨hfiles, hnext⟩ hkilled hdispatcher (by rw [hidle]; rfl) ?_
  rcases hservice with hservice | ⟨no, hservice⟩
  · rw [hservice, hidle]
    rfl
  · rw [hservice]
    rfl

/-- The first part of `mplayer_kill` closes the input. -/
theorem held_closeInput
    (hheld : Held s.files s.nextFile s.current.inputStream s.current.outputStream) :
    Held s.closeInput.files s.closeInput.nextFile none s.current.outputStream
      ∧ s.closeInput.current.inputStream = none
      ∧ s.closeInput.current.outputStream = s.current.outputStream
      ∧ s.closeInput.killed = s.killed := by
  unfold closeInput
  split
  · next hinput =>
    rw [hinput] at hheld
    exact ⟨hheld, hinput, rfl, rfl⟩
  · next f hinput =>
    rw [hinput] at hheld
    refine ⟨hheld.fclose (fun g hne h => ?_) fun _ _ h => h, rfl, rfl, rfl⟩
    exact absurd (Option.some.inj h).symm hne

/-- The second part closes the output. -/
theorem held_closeOutput
    (hheld : Held s.files s.nextFile s.current.inputStream s.current.outputStream) :
    Held s.closeOutput.files s.closeOutput.nextFile s.current.inputStream none
      ∧ s.closeOutput.current.inputStream = s.current.inputStream
      ∧ s.closeOutput.current.outputStream = none
      ∧ s.closeOutput.killed = s.killed := by
  unfold closeOutput
  split
  · next houtput =>
    rw [houtput] at hheld
    exact ⟨hheld, rfl, houtput, rfl⟩
  · next f houtput =>
    rw [houtput] at hheld
    refine ⟨hheld.fclose (fun _ _ h => h) fun g hne h => ?_, rfl, rfl, rfl⟩
    exact absurd (Option.some.inj h).symm hne

/-- **The service thread keeps the invariant.** -/
theorem streams_serviceStep (hs : Streams s) (h : s.serviceStep channels outcome = some s') :
    Streams s' := by
  have hapart := apart_serviceStep hs.toApart h
  have hheld := hs.held
  cases serviceTaken_of_step h with
  | @keyed request hpc =>
    obtain ⟨hpid, -, -, hdispatcher, -⟩ := carryOut_frame channels s (some request)
    obtain ⟨hinput, houtput, hfiles, hnext, hkilled⟩ :=
      carryOut_streams channels s (some request)
    exact hs.service hapart ⟨hpid, hinput, houtput⟩ ⟨hfiles, hnext⟩ hkilled hdispatcher
      (by rw [hpc]; rfl) rfl
  | running hpc | stopped hpc | spawnFailed hpc | spawned hpc | setChannel hpc =>
    exact hs.service hapart ⟨rfl, rfl, rfl⟩ ⟨rfl, rfl⟩ rfl rfl (by rw [hpc]; rfl) rfl
  | openInput hpc =>
    -- both streams are `NULL` here, and so nothing is written over
    obtain ⟨hinput, houtput⟩ := hs.free (by rw [hpc]; rfl) (hs.starting (by rw [hpc]; rfl))
    rw [hinput] at hheld
    exact hs.starting_step (by rw [hpc]; rfl) hapart rfl rfl
      (hheld.fdopen (.inl rfl) nofun fun _ h => h) nofun (fun _ _ _ => houtput) nofun
  | openInputFailed hpc =>
    obtain ⟨hinput, -⟩ := hs.free (by rw [hpc]; rfl) (hs.starting (by rw [hpc]; rfl))
    rw [hinput] at hheld
    exact hs.starting_step (by rw [hpc]; rfl) hapart rfl rfl hheld nofun nofun nofun
  | openOutput hpc =>
    have houtput := hs.noOutput _ _ hpc
    rw [houtput] at hheld
    exact hs.starting_step (by rw [hpc]; rfl) hapart rfl rfl
      (hheld.fdopen (.inr rfl) (fun _ h => h) nofun) nofun nofun nofun
  | openOutputFailed hpc =>
    have houtput := hs.noOutput _ _ hpc
    rw [houtput] at hheld
    exact hs.starting_step (by rw [hpc]; rfl) hapart rfl rfl hheld nofun nofun nofun
  | closeInput hpc hinput =>
    exact hs.starting_step (by rw [hpc]; rfl) hapart rfl rfl
      (hheld.fclose (fun _ _ h => h) fun _ _ h => h) nofun nofun nofun
  | killCloseInput hpc =>
    obtain ⟨hheld', hinput, houtput, hkilled⟩ := held_closeInput hheld
    rw [← hinput, ← houtput] at hheld'
    exact hs.starting_step (by rw [hpc]; rfl) hapart hkilled s.closeInput_frame.2.2.2 hheld' nofun
      nofun (fun _ => hinput)
  | killCloseOutput hpc =>
    have hnone := hs.noInput hpc
    obtain ⟨hheld', hinput, houtput, hkilled⟩ := held_closeOutput hheld
    rw [← hinput, ← houtput] at hheld'
    exact hs.starting_step (by rw [hpc]; rfl) hapart hkilled s.closeOutput_frame.2.2.2 hheld'
      (fun _ => ⟨hinput.trans hnone, houtput⟩) nofun nofun
  | killSignal hpc =>
    exact hs.service hapart ⟨rfl, rfl, rfl⟩ ⟨rfl, rfl⟩ rfl rfl (by rw [hpc]; rfl) rfl
  | shown hpc | waitForPlayback hpc =>
    exact hs.starting_step (by rw [hpc]; rfl) hapart rfl rfl hheld nofun nofun nofun
  | @setPid no pid hpc =>
    -- from here on the program runs, and the streams are its own
    have hpid : 0 < pid := hs.newPid pid (by rw [hpc]; rfl)
    have hstopped := hs.starting (by rw [hpc]; rfl)
    have hidle := hs.toApart.not_busy_of_starting (by rw [hpc]; rfl)
    exact { hapart with
      held := hheld
      free := fun _ h => absurd h (Int.not_le.mpr hpid)
      noOutput := nofun
      noInput := nofun
      killed := fun h => absurd (hs.killed h) (Int.not_lt.mpr hstopped)
      killing := hs.killing
      closedInput := hs.closedInput
      closedOutput := hs.closedOutput
      reaped := hs.reaped }

/-- The dispatcher in another place, with the streams and the program as they are. -/
theorem Streams.dispatcher (hs : Streams s) (hapart : Apart s')
    (hcurrent : s'.current.pid = s.current.pid
      ∧ s'.current.inputStream = s.current.inputStream
      ∧ s'.current.outputStream = s.current.outputStream)
    (hfiles : s'.files = s.files ∧ s'.nextFile = s.nextFile) (hkilled : s'.killed = s.killed)
    (hservice : s'.service = s.service) (hpc : ∀ pc, s.dispatcher ≠ .kill pc)
    (hkill : ∀ pc, s'.dispatcher ≠ .kill pc)
    (hreaped : s'.dispatcher = .clearPid →
      s.current.inputStream = none ∧ s.current.outputStream = none) : Streams s' := by
  obtain ⟨hpid, hinput, houtput⟩ := hcurrent
  exact { hapart with
    held := by rw [hfiles.1, hfiles.2, hinput, houtput]; exact hs.held
    free := fun h h' => by
      rw [hinput, houtput]
      exact hs.free (hservice ▸ h) (hpid ▸ h')
    noOutput := fun no pid h => houtput ▸ hs.noOutput no pid (hservice ▸ h)
    noInput := fun h => hinput ▸ hs.noInput (hservice ▸ h)
    killed := fun h => hpid ▸ hs.killed (hkilled ▸ h)
    killing := fun pc h => absurd h (hkill pc)
    closedInput := fun h _ => hinput ▸ hs.closedInput (hkilled ▸ h) (hpc _)
    closedOutput := fun h _ _ => houtput ▸ hs.closedOutput (hkilled ▸ h) (hpc _) (hpc _)
    reaped := fun h => by
      rw [hinput, houtput]
      exact hreaped h }

/-- **While a program is killed** the service thread has nothing to do with its streams. -/
theorem Streams.killing_step (hs : Streams s) (hpos : 0 < s.current.pid) (hapart : Apart s')
    (hpid : s'.current.pid = s.current.pid) (hkilled : s'.killed = true)
    (hservice : s'.service = s.service)
    (hheld : Held s'.files s'.nextFile s'.current.inputStream s'.current.outputStream)
    (hinput : s'.dispatcher ≠ .kill .closeInput → s'.current.inputStream = none)
    (houtput : s'.dispatcher ≠ .kill .closeInput → s'.dispatcher ≠ .kill .closeOutput →
      s'.current.outputStream = none) (hreaped : s'.dispatcher ≠ .clearPid) : Streams s' := by
  have hstarting : s.service.starting ≠ true := fun h =>
    absurd (hs.starting h) (Int.not_le.mpr hpos)
  exact { hapart with
    held := hheld
    free := fun _ h => absurd (hpid ▸ h) (Int.not_le.mpr hpos)
    noOutput := fun no pid h => absurd (by rw [← hservice, h]; rfl) hstarting
    noInput := fun h => absurd (by rw [← hservice, h]; rfl) hstarting
    killed := fun _ => hpid ▸ hpos
    killing := fun _ _ => hkilled
    closedInput := fun _ h => hinput h
    closedOutput := fun _ h h' => houtput h h'
    reaped := fun h => absurd h hreaped }

/-- **The dispatcher keeps the invariant** when it reaps no program that was not stopped. -/
theorem streams_dispatcherStep (hs : Streams s)
    (hreaps : s.dispatcher = .waitpid → s.current.pid ∈ s.ended → s.killed = true)
    (h : s.dispatcherStep outcome = some s') : Streams s' := by
  have hapart := apart_dispatcherStep hs.toApart h
  -- most steps only move on
  have hmove : ∀ {pc}, s.dispatcher = pc → (∀ k, pc ≠ .kill k) → ∀ k, s.dispatcher ≠ .kill k :=
    fun hpc hne k h => hne k (hpc ▸ h)
  cases dispatcherTaken_of_step h with
  | stopped => exact hs
  | running hpc | noStop hpc | pause hpc | noPause hpc | paused hpc | playing hpc
  | noStreams hpc | streams hpc | askArtist hpc | askTitle hpc | showMetainfo hpc | playPause hpc
  | togglePaused hpc | clearPause hpc | notEnded hpc | clearScreen hpc | hide hpc
  | clearStop hpc =>
    exact hs.dispatcher hapart ⟨rfl, rfl, rfl⟩ ⟨rfl, rfl⟩ rfl rfl (hmove hpc nofun) nofun nofun
  | ended hpc hended =>
    have hkilled := hreaps hpc hended
    exact hs.dispatcher hapart ⟨rfl, rfl, rfl⟩ ⟨rfl, rfl⟩ rfl rfl (hmove hpc nofun) nofun
      (fun _ => ⟨hs.closedInput hkilled (hmove hpc nofun _),
        hs.closedOutput hkilled (hmove hpc nofun _) (hmove hpc nofun _)⟩)
  | stop hpc =>
    exact hs.killing_step (hs.busy (by rw [hpc]; rfl)) hapart rfl rfl rfl hs.held
      (fun h => absurd rfl h) (fun h => absurd rfl h) nofun
  | killCloseInput hpc =>
    have hkilled := hs.killing _ hpc
    obtain ⟨hheld, hinput, houtput, hkilled'⟩ := held_closeInput hs.held
    rw [← hinput, ← houtput] at hheld
    obtain ⟨hpid, -, hservice, -⟩ := s.closeInput_frame
    exact hs.killing_step (hs.killed hkilled) hapart hpid (hkilled'.trans hkilled) hservice hheld
      (fun _ => hinput) (fun _ h => absurd rfl h) nofun
  | killCloseOutput hpc =>
    have hkilled := hs.killing _ hpc
    have hnone := hs.closedInput hkilled (by rw [hpc]; exact nofun)
    obtain ⟨hheld, hinput, houtput, hkilled'⟩ := held_closeOutput hs.held
    rw [← hinput, ← houtput] at hheld
    obtain ⟨hpid, -, hservice, -⟩ := s.closeOutput_frame
    exact hs.killing_step (hs.killed hkilled) hapart hpid (hkilled'.trans hkilled) hservice hheld
      (fun _ => hinput.trans hnone) (fun _ _ => houtput) nofun
  | killSignal hpc =>
    have hkilled := hs.killing _ hpc
    have hinput := hs.closedInput hkilled (by rw [hpc]; exact nofun)
    have houtput := hs.closedOutput hkilled (by rw [hpc]; exact nofun) (by rw [hpc]; exact nofun)
    exact hs.killing_step (hs.killed hkilled) hapart rfl hkilled rfl hs.held (fun _ => hinput)
      (fun _ _ => houtput) nofun
  | clearPid hpc =>
    have hnone := hs.reaped hpc
    exact { hapart with
      held := hs.held
      free := fun _ _ => hnone
      noOutput := hs.noOutput
      noInput := hs.noInput
      killed := nofun
      killing := nofun
      closedInput := nofun
      closedOutput := nofun
      reaped := nofun }

/-- **Every step keeps the invariant** under the condition. -/
theorem streams_step (hs : Streams s) {act : MplayerAct} (hreaps : ReapsKilled s act)
    (h : step channels s act = some s') : Streams s' := by
  have hapart := apart_step hs.toApart h
  cases taken_of_step h with
  | unheard => exact hs
  | key hidle =>
    exact hs.service hapart ⟨rfl, rfl, rfl⟩ ⟨rfl, rfl⟩ rfl rfl (by rw [hidle]; rfl) rfl
  | menu hidle | net hidle => exact streams_carryOut hs hidle _
  | service hservice => exact streams_serviceStep hs hservice
  | dispatcher hdispatcher => exact streams_dispatcherStep hs hreaps hdispatcher
  | exit => exact { hs with }

theorem streams_init : Streams init :=
  { apart_init with
    held := .nil
    free := fun _ _ => ⟨rfl, rfl⟩
    noOutput := nofun
    noInput := nofun
    killed := nofun
    killing := nofun
    closedInput := nofun
    closedOutput := nofun
    reaped := nofun }

/-- **The streams are released**: while no program runs and none is started there are none,
and none is written over by the start of a program. -/
structure Released (s : MplayerThreads) : Prop where
  /-- There are none. -/
  none : s.current.pid = 0 → s.service.starting = false →
    s.current.inputStream = .none ∧ s.current.outputStream = .none ∧ s.files = []
  /-- There is none when the input is opened. -/
  input : ∀ no pid, s.service = .openInput no pid →
    s.current.inputStream = .none ∧ s.current.outputStream = .none ∧ s.files = []
  /-- There is no output when that is opened. -/
  output : ∀ no pid, s.service = .openOutput no pid → s.current.outputStream = .none

/-- Where none is to be open, none is. -/
theorem Streams.released_of_free (hs : Streams s) (hholding : s.service.holding = false)
    (hpid : s.current.pid ≤ 0) :
    s.current.inputStream = none ∧ s.current.outputStream = none ∧ s.files = [] := by
  obtain ⟨hinput, houtput⟩ := hs.free hholding hpid
  have hheld := hs.held
  rw [hinput, houtput] at hheld
  exact ⟨hinput, houtput, hheld.eq_nil⟩

/-- **The streams of every program are closed by the time it was reaped**, in every run in
which every program that is reaped was stopped. -/
theorem released_of_reachableBy {channels : List Channel} {s : MplayerThreads}
    (h : (system channels).ReachableBy ReapsKilled s) : s.Released := by
  have hs : Streams s := h.invariant Streams streams_init
    (fun _ _ _ hI hreaps hstep => streams_step hI hreaps hstep)
  constructor
  · intro hpid hstarting
    refine hs.released_of_free (Bool.eq_false_iff.mpr fun hholding => ?_) (Int.le_of_eq hpid)
    rw [ServicePc.starting_of_holding hholding] at hstarting
    exact nomatch hstarting
  · intro no pid hpc
    exact hs.released_of_free (by rw [hpc]; rfl) (hs.starting (by rw [hpc]; rfl))
  · exact hs.noOutput

/-- A channel is started. -/
def play (pid : Int) : List MplayerAct :=
  [.net ["play".toList, "0".toList], .service .done, .service (.spawned pid), .service .done,
    .service .done, .service .done, .service .done, .service .done, .service .done]

/-- A program is stopped, and another one is started. -/
theorem released_of_reachableBy_twice :
    ∃ s, (system [⟨"radio".toList, "http://radio".toList, false⟩]).ReachableBy ReapsKilled s
      ∧ s.current.pid = 43 ∧ s.files = [3, 2] ∧ s.Released := by
  let sys := system [⟨"radio".toList, "http://radio".toList, false⟩]
  let run := sys.replay ReapsKilled sys.init
    (play 42 ++ .net ["stop".toList] :: List.replicate 6 (.dispatcher .done) ++ .exit 42
      :: List.replicate 4 (.dispatcher .done) ++ play 43)
  have hrun : run.map (fun s => decide (s.current.pid = 43 ∧ s.files = [3, 2])) = some true := by
    decide +kernel
  obtain ⟨s, hs, hx⟩ := StepSystem.exists_reachableBy_of_replay hrun
  obtain ⟨hpid, hfiles⟩ := of_decide_eq_true hx
  exact ⟨s, hs, hpid, hfiles, released_of_reachableBy hs⟩

/-- **A program that ends by itself** leaves its streams open. -/
theorem not_released_of_exit :
    ¬ ∀ (channels : List Channel) (s : MplayerThreads), (system channels).Reachable s →
      s.Released := by
  intro h
  let sys := system [⟨"radio".toList, "http://radio".toList, false⟩]
  let run := sys.replayAny sys.init
    (play 42 ++ .exit 42 :: List.replicate 10 (.dispatcher .done))
  have hrun : run.map (fun s => decide (s.current.pid = 0 ∧ s.service = .idle ∧ s.files = [1, 0]))
      = some true := by
    decide +kernel
  obtain ⟨s, hs, hx⟩ := StepSystem.exists_reachableBy_of_replay hrun
  obtain ⟨hpid, hidle, hfiles⟩ := of_decide_eq_true hx
  have hnone := ((h _ s hs).none hpid (by rw [hidle]; rfl)).2.2
  rw [hfiles] at hnone
  exact nomatch hnone

/-! ## Behind a start that has failed -/

/-- The programs that a signal was sent to. -/
def kills (log : List MplayerEvent) : List Int :=
  log.filterMap (fun e => match e with
    | .kill pid => some pid
    | _ => none)

/-- How often a stream was closed. -/
def closes (f : File) (log : List MplayerEvent) : ℕ :=
  log.countP (fun e => match e with
    | .close g _ => g = f
    | _ => false)

/-- **A start that has failed is cleaned up**: the child was sent a signal and nobody else, each
stream that was opened was closed once, the program has no streams, and `pid` is what it was,
and not positive. -/
structure CleanedUp (pid : Int) (s₀ s : MplayerThreads) : Prop where
  /-- What was done. -/
  done : ∃ events, s.log = events ++ s₀.log ∧ kills events = [pid]
    ∧ ∀ f, s₀.nextFile ≤ f → f < s.nextFile → closes f events = 1
  /-- The streams. -/
  streams : s.current.inputStream = none ∧ s.current.outputStream = none
  /-- The number of the program. -/
  pid : s.current.pid = s₀.current.pid ∧ s.current.pid ≤ 0

/-- A stream of the program could not be opened so far. -/
def openFails (s : MplayerThreads) (act : MplayerAct) (failed : Bool) : Bool :=
  failed || (s.service.opening && act = .service .failed)

/-- **The rest of `mplayer_start_program`**, from a state on, with whatever else happens: it
is run as long as the service thread is in it. -/
def Starting (channels : List Channel) (s₀ : MplayerThreads) (s : MplayerThreads × Bool) : Prop :=
  (((system channels).after s₀).history openFails false).ReachableBy
    (fun s _ => s.1.service.inStartProgram = true) s

/-- The dispatcher leaves the service thread where it is. -/
theorem service_dispatcherStep (h : s.dispatcherStep outcome = some s') :
    s'.service = s.service := by
  cases dispatcherTaken_of_step h with
  | killCloseInput => exact s.closeInput_frame.2.2.1
  | killCloseOutput => exact s.closeOutput_frame.2.2.1
  | _ => rfl

/-- `mplayer_kill` adds to what was done. -/
theorem log_closeInput (s : MplayerThreads) : s.log <:+ s.closeInput.log := by
  unfold closeInput
  split
  · exact List.suffix_rfl
  · exact List.suffix_cons _ _

theorem log_closeOutput (s : MplayerThreads) : s.log <:+ s.closeOutput.log := by
  unfold closeOutput
  split
  · exact List.suffix_rfl
  · exact List.suffix_cons _ _

theorem log_carryOut (channels : List Channel) (s : MplayerThreads)
    (request : Option MplayerRequest) : s.log <:+ (carryOut channels s request).log :=
  (carryOut_frame channels s request).2.2.1.symm ▸ List.suffix_rfl

/-- **What was done stays done.** -/
theorem log_step {act : MplayerAct} (h : step channels s act = some s') : s.log <:+ s'.log := by
  cases taken_of_step h with
  | unheard | key | exit => exact List.suffix_rfl
  | menu | net => exact log_carryOut channels s _
  | service hservice =>
    cases serviceTaken_of_step hservice with
    | keyed => exact log_carryOut channels s _
    | running | stopped | spawnFailed | spawned | openInput | openInputFailed | openOutput
    | openOutputFailed | waitForPlayback | setPid | setChannel => exact List.suffix_rfl
    | closeInput | killSignal | shown => exact List.suffix_cons _ _
    | killCloseInput => exact s.log_closeInput
    | killCloseOutput => exact s.log_closeOutput
  | dispatcher hdispatcher =>
    cases dispatcherTaken_of_step hdispatcher with
    | killCloseInput => exact s.log_closeInput
    | killCloseOutput => exact s.log_closeOutput
    | killSignal | playPause | askArtist | askTitle | hide => exact List.suffix_cons _ _
    | _ => exact List.suffix_rfl

/-- A signal was sent to what is no program, since a state with so much done. -/
def SignalsOther (log₀ log : List MplayerEvent) : Prop :=
  ∃ events pid, log = events ++ log₀ ∧ pid ≤ 0 ∧ .kill pid ∈ events

theorem SignalsOther.mono {log₀ log log' : List MplayerEvent} (h : SignalsOther log₀ log)
    (hlog : log <:+ log') : SignalsOther log₀ log' := by
  obtain ⟨events, pid, rfl, hpid, hmem⟩ := h
  obtain ⟨more, rfl⟩ := hlog
  exact ⟨more ++ events, pid, (List.append_assoc ..).symm, hpid, List.mem_append_right _ hmem⟩

/-- **What a failed start comes to**: the service thread is in its clean-up, or has sent a
signal to what is no program. -/
structure Failing (log₀ : List MplayerEvent) (s : MplayerThreads) (failed : Bool) : Prop
    extends Apart s where
  /-- What was done before. -/
  log : log₀ <:+ s.log
  /-- What a failed start comes to. -/
  failing : failed = true → s.service.failing = true ∨ SignalsOther log₀ s.log

/-- The service thread in its clean-up stays there, or it sends its signal. -/
theorem failing_serviceStep {log₀ : List MplayerEvent} (hapart : Apart s) (hlog : log₀ <:+ s.log)
    (hfailing : s.service.failing = true) (h : s.serviceStep channels outcome = some s') :
    s'.service.failing = true ∨ SignalsOther log₀ s'.log := by
  cases serviceTaken_of_step h with
  | closeInput | killCloseInput | killCloseOutput => exact .inl rfl
  | killSignal hpc =>
    obtain ⟨events, hevents⟩ := hlog
    have hpid := hapart.starting (by rw [hpc]; rfl)
    refine .inr ⟨.kill s.current.pid :: events, s.current.pid, ?_, hpid, List.mem_cons_self ..⟩
    show .kill s.current.pid :: s.log = _
    rw [← hevents]
    rfl
  | keyed hpc | running hpc | stopped hpc | spawnFailed hpc | spawned hpc | openInput hpc
  | openInputFailed hpc | openOutput hpc | openOutputFailed hpc | shown hpc
  | waitForPlayback hpc | setPid hpc | setChannel hpc =>
    rw [hpc] at hfailing
    exact nomatch hfailing

/-- Where a stream cannot be opened the clean-up begins. -/
theorem failing_of_opening (hopening : s.service.opening = true)
    (h : s.serviceStep channels .failed = some s') : s'.service.failing = true := by
  cases serviceTaken_of_step h with
  | openInputFailed | openOutputFailed => rfl
  | spawnFailed hpc =>
    rw [hpc] at hopening
    exact nomatch hopening

/-- **Every step keeps that.** -/
theorem failing_step {log₀ : List MplayerEvent} {failed : Bool} (hs : Failing log₀ s failed)
    {act : MplayerAct} (h : step channels s act = some s') :
    Failing log₀ s' (openFails s act failed) := by
  refine { apart_step hs.toApart h with log := hs.log.trans (log_step h), failing := ?_ }
  intro hfailed
  rcases Bool.or_eq_true_iff.mp hfailed with hfailed | hnow
  · rcases hs.failing hfailed with hfailing | hsignals
    · -- a handler is called only when the service thread is in none
      have hbusy : s.service ≠ .idle := fun hidle => by
        rw [hidle] at hfailing
        exact nomatch hfailing
      cases taken_of_step h with
      | unheard => exact .inl hfailing
      | exit => exact .inl hfailing
      | key hidle | menu hidle | net hidle => exact absurd hidle hbusy
      | service hservice => exact failing_serviceStep hs.toApart hs.log hfailing hservice
      | dispatcher hdispatcher =>
        rw [service_dispatcherStep hdispatcher]
        exact .inl hfailing
    · exact .inr (hsignals.mono (log_step h))
  · obtain ⟨hopening, hact⟩ := Bool.and_eq_true_iff.mp hnow
    obtain rfl := of_decide_eq_true hact
    exact .inl (failing_of_opening hopening h)

/-- **No start that fails is cleaned up**, and one that does not needs no cleaning up. -/
theorem cleanedUp_iff_of_starting {channels : List Channel} {s₀ s : MplayerThreads} {no pid : Int}
    {failed : Bool} (hs₀ : (system channels).Reachable s₀) (hpc : s₀.service = .openInput no pid)
    (hs : Starting channels s₀ (s, failed)) (hidle : s.service = .idle) :
    (failed = true → CleanedUp pid s₀ s) ↔ failed = false := by
  have hapart : Apart s₀ := hs₀.invariant Apart apart_init (fun _ _ _ hI _ h => apart_step hI h)
  have hinit : Failing s₀.log s₀ false :=
    { hapart with log := List.suffix_rfl, failing := nofun }
  have hfailing : Failing s₀.log s failed := by
    refine hs.invariant (fun s => Failing s₀.log s.1 s.2) hinit (fun s act s' hI _ h => ?_)
    obtain ⟨t, ht, rfl⟩ := StepSystem.of_history_step h
    exact failing_step hI ht
  cases failed with
  | false => exact iff_of_true nofun rfl
  | true =>
    refine iff_of_false (fun hclean => ?_) nofun
    rcases hfailing.failing rfl with hfail | ⟨events, other, hevents, hother, hmem⟩
    · rw [hidle] at hfail
      exact nomatch hfail
    · obtain ⟨events', hevents', hkills, -⟩ := (hclean rfl).done
      obtain rfl := List.append_cancel_right (hevents.symm.trans hevents')
      have hkill : other ∈ kills events := List.mem_filterMap.mpr ⟨_, hmem, rfl⟩
      rw [hkills, List.mem_singleton] at hkill
      have hpid := hapart.newPid pid (by rw [hpc]; rfl)
      omega

/-- The service thread has started a program. -/
theorem exists_openInput :
    ∃ s₀, (system [⟨"radio".toList, "http://radio".toList, false⟩]).Reachable s₀
      ∧ s₀.service = .openInput 0 42 ∧ s₀ = { init with
        children := [42], service := .openInput 0 42 } := by
  let sys := system [⟨"radio".toList, "http://radio".toList, false⟩]
  have hrun : (sys.replayAny sys.init ((play 42).take 3)).map
      (fun s => decide (s = { init with children := [42], service := .openInput 0 42 }))
      = some true := by
    decide +kernel
  obtain ⟨s₀, hs₀, hx⟩ := StepSystem.exists_reachableBy_of_replay hrun
  have heq := of_decide_eq_true hx
  exact ⟨s₀, hs₀, by rw [heq], heq⟩

/-- The output of a program cannot be opened: its input is closed twice, and `kill (0, ..)` is
called. -/
theorem exists_starting_failed :
    ∃ s, Starting [⟨"radio".toList, "http://radio".toList, false⟩]
        { init with children := [42], service := .openInput 0 42 } (s, true)
      ∧ s.service = .idle
      ∧ s.log = [.kill 0, .close 0 false, .close 0 true] := by
  let sys := ((system [⟨"radio".toList, "http://radio".toList, false⟩]).after
    { init with children := [42], service := .openInput 0 42 }).history openFails false
  have hrun : (sys.replay (fun s _ => s.1.service.inStartProgram = true) sys.init
      (.service .done :: .service .failed :: List.replicate 4 (.service .done))).map
      (fun s => decide (s.2 = true ∧ s.1.service = .idle
        ∧ s.1.log = [.kill 0, .close 0 false, .close 0 true]))
      = some true := by
    decide +kernel
  obtain ⟨⟨s, failed⟩, hs, hx⟩ := StepSystem.exists_reachableBy_of_replay hrun
  obtain ⟨rfl, hidle, hlog⟩ := of_decide_eq_true hx
  exact ⟨s, hs, hidle, hlog⟩

/-- A start that fails at the output. -/
theorem cleanedUp_iff_of_starting_output :
    ∃ s₀ s, s₀.service = .openInput 0 42
      ∧ ((true = true → CleanedUp 42 s₀ s) ↔ true = false) := by
  obtain ⟨s₀, hs₀, hpc, rfl⟩ := exists_openInput
  obtain ⟨s, hs, hidle, -⟩ := exists_starting_failed
  exact ⟨_, s, hpc, cleanedUp_iff_of_starting hs₀ hpc hs hidle⟩

/-- **The child of a start that has failed is not signalled.** -/
theorem not_cleanedUp_of_failed :
    ¬ ∀ (channels : List Channel) (s₀ s : MplayerThreads) (no pid : Int),
      (system channels).Reachable s₀ → s₀.service = .openInput no pid →
      Starting channels s₀ (s, true) → s.service = .idle → CleanedUp pid s₀ s := by
  intro h
  obtain ⟨s₀, hs₀, hpc, rfl⟩ := exists_openInput
  obtain ⟨s, hs, hidle, hlog⟩ := exists_starting_failed
  obtain ⟨events, hevents, hkills, -⟩ := (h _ _ s 0 42 hs₀ hpc hs hidle).done
  rw [hlog] at hevents
  obtain rfl : _ = events := hevents.trans (List.append_nil events)
  exact absurd hkills (by decide)

end MplayerThreads
