import LcdStuff.MplayerThreads

/-!
# Requests that outlive their program

A stop and a request to pause are flags that the dispatcher takes back when it
has acted on them, and it acts only while a program runs. `paused` is never
taken back but by another request. So a flag that is raised while none runs, or
is still raised when the program is reaped, waits for the next program:
`mplayer_start_program` does not reset it. The handler of the keys looks at
`pid` before it raises a flag, and the handler of the remote commands does not.

What is told here needs a history: whether a flag was raised since the program
was started, and whether one was left over (`MplayerHistory`). As long as no
program is started with something left over, every flag that is found raised
belongs to the program (`MplayerThreads.found_since_of_reachableBy`).
-/

/-- The three flags of `struct program`. -/
inductive RequestFlag where
  /-- `stop_request` -/
  | stopRequest
  /-- `pause_play_request` -/
  | pausePlayRequest
  /-- `paused` -/
  | paused
  deriving DecidableEq, Repr

namespace RequestFlag

/-- The flags. -/
def all : List RequestFlag := [.stopRequest, .pausePlayRequest, .paused]

theorem mem_all (flag : RequestFlag) : flag ∈ all := by
  cases flag <;> decide

end RequestFlag

/-- The flag is raised. -/
def Program.raised (program : Program) : RequestFlag → Bool
  | .stopRequest => program.stopRequest
  | .pausePlayRequest => program.pausePlayRequest
  | .paused => program.paused

/-- **A flag that was found raised**, and whether it was raised since the start
of the program began. -/
inductive FlagFound where
  /-- It was found when `mplayer_start_program` had started the program. -/
  | started (flag : RequestFlag) (since : Bool)
  /-- The dispatcher has found it: it stops the program, pauses or resumes it, or
  does not show what is played. -/
  | taken (flag : RequestFlag) (since : Bool)
  deriving DecidableEq, Repr

/-- It was raised since. -/
def FlagFound.since : FlagFound → Bool
  | .started _ since | .taken _ since => since

/-- **What is told of a run.** -/
structure MplayerHistory where
  /-- The flags that were raised since the last start of a program began. -/
  since : RequestFlag → Bool
  /-- A request has come while no program ran, or a program was reaped with a
  flag raised. -/
  leftOver : Bool
  /-- The flags that were found raised, the latest first. -/
  found : List FlagFound

namespace MplayerHistory

/-- Nothing has happened. -/
def init : MplayerHistory := ⟨fun _ => false, false, []⟩

/-- A flag is raised by a request. -/
def raise (h : MplayerHistory) (s : MplayerThreads) (flag : RequestFlag) : MplayerHistory :=
  { h with
    since := Function.update h.since flag true
    leftOver := h.leftOver || decide (s.current.pid ≤ 0) }

/-- A request is carried out. -/
def request (h : MplayerHistory) (s : MplayerThreads) : Option MplayerRequest → MplayerHistory
  | some .stop => h.raise s .stopRequest
  | some .pausePlay => h.raise s .pausePlayRequest
  | some (.start _) | some .streams | none => h

/-- The dispatcher looks at a flag. -/
def take (h : MplayerHistory) (s : MplayerThreads) (flag : RequestFlag) : MplayerHistory :=
  if s.current.raised flag then { h with found := .taken flag (h.since flag) :: h.found } else h

/-- **What is noted of a step.** -/
def note (s : MplayerThreads) (act : MplayerAct) (h : MplayerHistory) : MplayerHistory :=
  match act with
  | .menu id => h.request s (LcdStuffMplayer.menuHandler id)
  | .net args => h.request s (LcdStuffMplayer.netHandler args)
  | .service _ =>
    match s.service with
    | .keyed request => h.request s (some request)
    | .testPid _ => if 0 < s.current.pid then h else { h with since := fun _ => false }
    | .setChannel _ => { h with
        found := (RequestFlag.all.filter s.current.raised).map
          (fun flag => .started flag (h.since flag)) ++ h.found }
    | _ => h
  | .dispatcher _ =>
    match s.dispatcher with
    | .testStop => h.take s .stopRequest
    | .testPause => h.take s .pausePlayRequest
    | .testPaused => h.take s .paused
    | .togglePaused => { h with since := Function.update h.since .paused true }
    | .clearPid => { h with leftOver := h.leftOver || RequestFlag.all.any s.current.raised }
    | _ => h
  | .key _ | .exit _ => h

end MplayerHistory

namespace MplayerThreads

/-- The mplayer module, with its history. -/
def historySystem (channels : List Channel) :
    StepSystem (MplayerThreads × MplayerHistory) MplayerAct :=
  (system channels).history MplayerHistory.note .init

/-- The history adds no run to the module and takes none away. -/
theorem reachable_iff_historySystem {channels : List Channel} {s : MplayerThreads} :
    (system channels).Reachable s ↔ ∃ h, (historySystem channels).Reachable (s, h) :=
  StepSystem.reachable_iff_history

/-- **No program is started with something left over.** -/
def StartsClean (s : MplayerThreads × MplayerHistory) : MplayerAct → Prop
  | .service _ => ∀ no, s.1.service = .testPid no → s.1.current.pid ≤ 0 → s.2.leftOver = false
  | _ => True

end MplayerThreads

/-! ## Where the flags can be raised -/

/-- The service thread is between the test of `pid` and the end of a start that
succeeds. -/
def ServicePc.startingProgram : ServicePc → Bool
  | .setChannel _ => true
  | pc => pc.starting

/-- The dispatcher has taken up a request to pause and not taken it back. -/
def DispatcherPc.pausing : DispatcherPc → Bool
  | .playPause | .togglePaused | .clearPause => true
  | _ => false

namespace MplayerThreads

/-- **The invariant**: the flags that are raised while a program runs were
raised since its start, and the others are left over; a program is started
with no flag at all. -/
structure Requested (s : MplayerThreads) (h : MplayerHistory) : Prop where
  /-- The dispatcher deals with a program only while one runs. -/
  busy : s.dispatcher.busy = true → 0 < s.current.pid
  /-- The service thread starts a program only while none runs. -/
  starting : s.service.starting = true → s.current.pid ≤ 0
  /-- The program being started has a number. -/
  newPid : ∀ pid, s.service.newPid = some pid → 0 < pid
  /-- The dispatcher takes back what it has taken up. -/
  pausing : s.dispatcher.pausing = true → s.current.pausePlayRequest = true
  /-- No flag is raised while a program is started. -/
  none : s.service.startingProgram = true → ∀ flag, s.current.raised flag = false
  /-- A program that runs has its own flags. -/
  since : 0 < s.current.pid → ∀ flag, s.current.raised flag = true → h.since flag = true
  /-- The others are left over. -/
  leftOver : s.current.pid ≤ 0 → ∀ flag, s.current.raised flag = true → h.leftOver = true
  /-- What was found was raised since. -/
  found : ∀ found ∈ h.found, found.since = true

variable {s s' : MplayerThreads} {h : MplayerHistory} {channels : List Channel}
  {outcome : Outcome}

/-- The service thread goes on, and leaves the program's number and flags as they
are. -/
theorem Requested.service (hs : Requested s h) {pc : ServicePc} {current : Program}
    {files : List File} {nextFile : File} {children : List Int} {log : List MplayerEvent}
    (hpid : current.pid = s.current.pid) (hraised : current.raised = s.current.raised)
    (hstarting : pc.starting = true → s.current.pid ≤ 0)
    (hnewPid : ∀ pid, pc.newPid = some pid → 0 < pid)
    (hnone : pc.startingProgram = true → ∀ flag, s.current.raised flag = false) :
    Requested { s with
      current := current, files := files, nextFile := nextFile, children := children, log := log
      service := pc } h where
  busy := fun hb => hpid ▸ hs.busy hb
  starting := fun hb => hpid ▸ hstarting hb
  newPid := hnewPid
  pausing := fun hb => (congrFun hraised .pausePlayRequest).trans (hs.pausing hb)
  none := fun hb flag => (congrFun hraised flag).trans (hnone hb flag)
  since := fun hp flag hf => hs.since (hpid ▸ hp) flag ((congrFun hraised flag).symm.trans hf)
  leftOver := fun hp flag hf =>
    hs.leftOver (hpid ▸ hp) flag ((congrFun hraised flag).symm.trans hf)
  found := hs.found

/-- A program that is being started is one that will run. -/
theorem startingProgram_of_starting {pc : ServicePc} (h : pc.starting = true) :
    pc.startingProgram = true := by
  cases pc <;> first | exact h | exact absurd h Bool.false_ne_true

/-- The service thread goes on starting the program, or gives up. -/
theorem Requested.goesOn (hs : Requested s h) {pc pc' : ServicePc} {current : Program}
    {files : List File} {nextFile : File} {children : List Int} {log : List MplayerEvent}
    (hpc : s.service = pc) (hstarting : pc.starting = true)
    (hpid : current.pid = s.current.pid) (hraised : current.raised = s.current.raised)
    (hnewPid : ∀ pid, pc'.newPid = some pid → 0 < pid) :
    Requested { s with
      current := current, files := files, nextFile := nextFile, children := children, log := log
      service := pc' } h :=
  hs.service hpid hraised (fun _ => hs.starting (hpc ▸ hstarting)) hnewPid
    (fun _ => hs.none (hpc ▸ startingProgram_of_starting hstarting))

/-- The service thread in a place where it starts nothing. -/
theorem Requested.idle (hs : Requested s h) {pc : ServicePc} (hpc : pc.startingProgram = false)
    (hnewPid : pc.newPid = Option.none) : Requested { s with service := pc } h := by
  have hoff : ∀ {p : Prop}, pc.startingProgram = true → p :=
    fun h => absurd (hpc.symm.trans h) Bool.false_ne_true
  exact hs.service rfl rfl (fun h => hoff (startingProgram_of_starting h))
    (fun _ h => absurd (hnewPid.symm.trans h) (by simp)) hoff

/-- **A request raises a flag**, while no program is being started. -/
theorem Requested.raise (hs : Requested s h) {flag : RequestFlag} {current : Program}
    (hpc : s.service.startingProgram = false) (hpid : current.pid = s.current.pid)
    (hraised : current.raised = Function.update s.current.raised flag true) :
    Requested { s with current := current } (h.raise s flag) := by
  have hbefore : ∀ {other}, other ≠ flag → current.raised other = s.current.raised other :=
    fun hother => by rw [hraised, Function.update_of_ne hother]
  refine ⟨fun hb => hpid ▸ hs.busy hb, fun hb => hpid ▸ hs.starting hb, hs.newPid, fun hb => ?_,
    fun hb => absurd (hpc.symm.trans hb) Bool.false_ne_true, fun hp other hf => ?_,
    fun hp other hf => ?_, hs.found⟩
  · show current.raised .pausePlayRequest = true
    by_cases hflag : .pausePlayRequest = flag
    · rw [hraised, hflag, Function.update_self]
    · exact (hbefore hflag).trans (hs.pausing hb)
  · show Function.update h.since flag true other = true
    by_cases hother : other = flag
    · rw [hother, Function.update_self]
    · rw [Function.update_of_ne hother]
      exact hs.since (hpid ▸ hp) other ((hbefore hother).symm.trans hf)
  · have hp : s.current.pid ≤ 0 := hpid ▸ hp
    show (h.leftOver || decide (s.current.pid ≤ 0)) = true
    rw [decide_eq_true hp, Bool.or_true]

/-- **A request is carried out.** -/
theorem Requested.carryOut (hs : Requested s h) (hpc : s.service.startingProgram = false)
    (request : Option MplayerRequest) :
    Requested (carryOut channels s request) (h.request s request) := by
  match request with
  | Option.none | some .streams => exact hs
  | some (.start no) =>
    unfold MplayerThreads.carryOut
    dsimp only
    split
    · exact hs
    · exact hs.idle rfl rfl
  | some .stop =>
    exact hs.raise hpc rfl (funext fun flag => by cases flag <;> rfl)
  | some .pausePlay =>
    exact hs.raise hpc rfl (funext fun flag => by cases flag <;> rfl)

/-- The program has got its number, and there is no flag. -/
theorem Requested.started (hs : Requested s h) {no pid : Int} (hpid : 0 < pid)
    (hnone : ∀ flag, s.current.raised flag = false) :
    Requested { s with
      current := { s.current with pid := pid }
      service := .setChannel no } h where
  busy := fun _ => hpid
  starting := fun hb => absurd hb Bool.false_ne_true
  newPid := fun _ hb => absurd hb (by simp [ServicePc.newPid])
  pausing := hs.pausing
  none := fun _ => hnone
  since := fun _ flag hf => absurd ((hnone flag).symm.trans hf) Bool.false_ne_true
  leftOver := fun _ flag hf => absurd ((hnone flag).symm.trans hf) Bool.false_ne_true
  found := hs.found

/-- What `mplayer_kill` does to the streams says nothing of the program. -/
theorem closeInput_eq (s : MplayerThreads) :
    s.closeInput = { s with
      current := { s.current with inputStream := Option.none }
      files := s.closeInput.files, log := s.closeInput.log } := by
  unfold closeInput
  split
  · next h => rw [← h]
  · rfl

theorem closeOutput_eq (s : MplayerThreads) :
    s.closeOutput = { s with
      current := { s.current with outputStream := Option.none }
      files := s.closeOutput.files, log := s.closeOutput.log } := by
  unfold closeOutput
  split
  · next h => rw [← h]
  · rfl

/-- **The service thread keeps the invariant**, when it starts a program with
nothing left over. -/
theorem requested_serviceStep (hs : Requested s h)
    (hclean : ∀ no, s.service = .testPid no → s.current.pid ≤ 0 → h.leftOver = false)
    (hstep : s.serviceStep channels outcome = some s') :
    Requested s' (MplayerHistory.note s (.service outcome) h) := by
  have hnewPid : ∀ {pc pid}, s.service = pc → pc.newPid = some pid → 0 < pid :=
    fun hpc h => hs.newPid _ (hpc ▸ h)
  have hnone : ∀ {pc}, s.service = pc → pc.startingProgram = true →
      ∀ flag, s.current.raised flag = false := fun hpc h => hs.none (hpc ▸ h)
  have hunnumbered : ∀ {p : Prop} {pid : Int}, none = some pid → p :=
    fun h => absurd h (Option.some_ne_none _).symm
  unfold MplayerHistory.note
  cases serviceTaken_of_step hstep with
  | keyed hpc =>
    rw [hpc]
    exact (hs.carryOut (by rw [hpc]; rfl) _).idle rfl rfl
  | running hpc hrunning =>
    rw [hpc]
    dsimp only
    rw [if_pos hrunning]
    exact hs.idle rfl rfl
  | @stopped no hpc hstopped =>
    -- a clean start is one that finds no flag
    have hraised : ∀ flag, s.current.raised flag = false := fun flag =>
      Bool.eq_false_iff.mpr (fun hf =>
        absurd ((hclean no hpc hstopped).symm.trans (hs.leftOver hstopped flag hf))
          Bool.false_ne_true)
    have hspawn : Requested { s with service := .spawn no } h :=
      hs.service rfl rfl (fun _ => hstopped) (fun _ hb => hunnumbered hb)
        (fun _ => hraised)
    rw [hpc]
    dsimp only
    rw [if_neg (Int.not_lt.mpr hstopped)]
    exact { hspawn with
      since := fun hp => absurd hp (by
        show ¬ 0 < s.current.pid
        omega) }
  | spawnFailed hpc =>
    rw [hpc]
    exact hs.idle rfl rfl
  | spawned hpc hpid =>
    rw [hpc]
    exact hs.goesOn hpc rfl rfl rfl (fun _ hb => Option.some.inj hb ▸ hpid)
  | openInput hpc | openOutput hpc | shown hpc | waitForPlayback hpc =>
    rw [hpc]
    exact hs.goesOn hpc rfl rfl rfl (fun _ hb => Option.some.inj hb ▸ hnewPid hpc rfl)
  | openInputFailed hpc | openOutputFailed hpc | closeInput hpc | killSignal hpc =>
    rw [hpc]
    exact hs.goesOn hpc rfl rfl rfl (fun _ hb => hunnumbered hb)
  | killCloseInput hpc =>
    rw [hpc, closeInput_eq]
    exact hs.goesOn hpc rfl rfl rfl (fun _ hb => hunnumbered hb)
  | killCloseOutput hpc =>
    rw [hpc, closeOutput_eq]
    exact hs.goesOn hpc rfl rfl rfl (fun _ hb => hunnumbered hb)
  | setPid hpc =>
    rw [hpc]
    exact hs.started (hnewPid hpc rfl) (hnone hpc rfl)
  | setChannel hpc =>
    -- no flag is found
    have hfound : RequestFlag.all.filter s.current.raised = [] :=
      List.filter_eq_nil_iff.mpr (fun flag _ => by
        rw [hnone hpc rfl flag]
        exact Bool.false_ne_true)
    rw [hpc]
    dsimp only
    rw [hfound]
    exact hs.service rfl rfl (fun hb => absurd hb Bool.false_ne_true)
      (fun _ hb => hunnumbered hb) (fun hb => absurd hb Bool.false_ne_true)

/-- **The dispatcher goes on**, and leaves the program's number and flags as they
are. -/
theorem Requested.dispatcher (hs : Requested s h) {pc : DispatcherPc} {current : Program}
    {files : List File} {children ended : List Int} {killed : Bool} {log : List MplayerEvent}
    (hpid : current.pid = s.current.pid) (hraised : current.raised = s.current.raised)
    (hbusy : pc.busy = true → 0 < s.current.pid)
    (hpausing : pc.pausing = true → s.current.pausePlayRequest = true) :
    Requested { s with
      current := current, files := files, children := children, ended := ended
      killed := killed, log := log, dispatcher := pc } h where
  busy := fun hb => hpid ▸ hbusy hb
  starting := fun hb => hpid ▸ hs.starting hb
  newPid := hs.newPid
  pausing := fun hb => (congrFun hraised .pausePlayRequest).trans (hpausing hb)
  none := fun hb flag => (congrFun hraised flag).trans (hs.none hb flag)
  since := fun hp flag hf => hs.since (hpid ▸ hp) flag ((congrFun hraised flag).symm.trans hf)
  leftOver := fun hp flag hf =>
    hs.leftOver (hpid ▸ hp) flag ((congrFun hraised flag).symm.trans hf)
  found := hs.found

/-- **The dispatcher looks at a flag** of a program that runs. -/
theorem Requested.take (hs : Requested s h) (hpid : 0 < s.current.pid) (flag : RequestFlag) :
    Requested s (h.take s flag) := by
  unfold MplayerHistory.take
  split
  · next hraised =>
    refine { hs with found := fun e he => ?_ }
    rcases List.mem_cons.mp he with rfl | he
    · exact hs.since hpid flag hraised
    · exact hs.found e he
  · exact hs

/-- The dispatcher takes a flag back. -/
theorem Requested.clear (hs : Requested s h) (flag : RequestFlag) {current : Program}
    {pc : DispatcherPc} (hpid : current.pid = s.current.pid) (hrunning : 0 < s.current.pid)
    (hraised : current.raised = Function.update s.current.raised flag false)
    (hpc : pc.pausing = false) :
    Requested { s with current := current, dispatcher := pc } h := by
  have hbefore : ∀ {other}, current.raised other = true → s.current.raised other = true := by
    intro other hf
    rw [hraised] at hf
    by_cases hother : other = flag
    · rw [hother, Function.update_self] at hf
      exact absurd hf Bool.false_ne_true
    · rw [Function.update_of_ne hother] at hf
      exact hf
  have hstopped : ∀ {p : Prop}, current.pid ≤ 0 → p := fun h => by omega
  refine ⟨fun _ => hpid ▸ hrunning, fun hb => hpid ▸ hs.starting hb, hs.newPid,
    fun hb => absurd (hpc.symm.trans hb) Bool.false_ne_true, fun hb other => ?_,
    fun _ other hf => hs.since hrunning other (hbefore hf), fun hp => hstopped hp, hs.found⟩
  exact Bool.eq_false_iff.mpr (fun hf =>
    absurd ((hs.none hb other).symm.trans (hbefore hf)) Bool.false_ne_true)

/-- **`paused` is changed** by a request that was taken up. -/
theorem Requested.toggle (hs : Requested s h) (hpc : s.dispatcher = .togglePaused) :
    Requested { s with
      current := { s.current with paused := !s.current.paused }
      dispatcher := .clearPause }
      { h with since := Function.update h.since .paused true } := by
  have hrunning : 0 < s.current.pid := hs.busy (by rw [hpc]; rfl)
  have hpausing : s.current.pausePlayRequest = true := hs.pausing (by rw [hpc]; rfl)
  refine ⟨fun _ => hrunning, hs.starting, hs.newPid, fun _ => hpausing, fun hb => ?_,
    fun _ flag hf => ?_, fun hp => ?_, hs.found⟩
  · -- there would be no request
    exact absurd ((hs.none hb .pausePlayRequest).symm.trans hpausing) Bool.false_ne_true
  · show Function.update h.since .paused true flag = true
    cases flag with
    | paused => exact Function.update_self ..
    | stopRequest => exact hs.since hrunning .stopRequest hf
    | pausePlayRequest => exact hs.since hrunning .pausePlayRequest hf
  · have hp : s.current.pid ≤ 0 := hp
    omega

/-- **The program was reaped**, and its flags are left over. -/
theorem Requested.reaped (hs : Requested s h) {files : List File} :
    Requested { s with
      current := { s.current with pid := 0 }
      files := files
      killed := false
      dispatcher := .clearScreen }
      { h with leftOver := h.leftOver || RequestFlag.all.any s.current.raised } := by
  refine ⟨fun hb => absurd hb Bool.false_ne_true, fun _ => Int.le_refl 0, hs.newPid,
    fun hb => absurd hb Bool.false_ne_true, hs.none, fun hp => absurd hp (Int.lt_irrefl 0),
    fun _ flag hf => ?_, hs.found⟩
  have hany : RequestFlag.all.any s.current.raised = true :=
    List.any_eq_true.mpr ⟨flag, flag.mem_all, hf⟩
  show (h.leftOver || RequestFlag.all.any s.current.raised) = true
  rw [hany, Bool.or_true]

/-- **The dispatcher keeps the invariant.** -/
theorem requested_dispatcherStep (hs : Requested s h)
    (hstep : s.dispatcherStep outcome = some s') :
    Requested s' (MplayerHistory.note s (.dispatcher outcome) h) := by
  have hpid : ∀ {pc}, s.dispatcher = pc → pc.busy = true → 0 < s.current.pid :=
    fun hpc h => hs.busy (hpc ▸ h)
  have hpausing : ∀ {pc}, s.dispatcher = pc → pc.pausing = true →
      s.current.pausePlayRequest = true := fun hpc h => hs.pausing (hpc ▸ h)
  have hoff : ∀ {p : Prop}, false = true → p := fun h => absurd h Bool.false_ne_true
  unfold MplayerHistory.note
  cases dispatcherTaken_of_step hstep with
  | stopped hpc =>
    rw [hpc]
    exact hs
  | running hpc hrunning =>
    rw [hpc]
    exact hs.dispatcher rfl rfl (fun _ => hrunning) hoff
  -- a flag that is looked at was taken, whatever it is
  | stop hpc | noStop hpc =>
    rw [hpc]
    exact (hs.take (hpid hpc rfl) .stopRequest).dispatcher rfl rfl (fun _ => hpid hpc rfl) hoff
  | pause hpc hpause =>
    rw [hpc]
    exact (hs.take (hpid hpc rfl) .pausePlayRequest).dispatcher rfl rfl (fun _ => hpid hpc rfl)
      (fun _ => hpause)
  | noPause hpc =>
    rw [hpc]
    exact (hs.take (hpid hpc rfl) .pausePlayRequest).dispatcher rfl rfl (fun _ => hpid hpc rfl) hoff
  | paused hpc | playing hpc =>
    rw [hpc]
    exact (hs.take (hpid hpc rfl) .paused).dispatcher rfl rfl (fun _ => hpid hpc rfl) hoff
  | killCloseInput hpc =>
    rw [hpc, closeInput_eq]
    exact hs.dispatcher rfl rfl (fun _ => hpid hpc rfl) hoff
  | killCloseOutput hpc =>
    rw [hpc, closeOutput_eq]
    exact hs.dispatcher rfl rfl (fun _ => hpid hpc rfl) hoff
  | clearStop hpc =>
    rw [hpc]
    exact hs.clear .stopRequest rfl (hpid hpc rfl) (funext fun flag => by cases flag <;> rfl) rfl
  | playPause hpc =>
    rw [hpc]
    exact hs.dispatcher rfl rfl (fun _ => hpid hpc rfl) (fun _ => hpausing hpc rfl)
  | togglePaused hpc =>
    rw [hpc]
    exact hs.toggle hpc
  | clearPause hpc =>
    rw [hpc]
    exact hs.clear .pausePlayRequest rfl (hpid hpc rfl)
      (funext fun flag => by cases flag <;> rfl) rfl
  | killSignal hpc | noStreams hpc | streams hpc | askArtist hpc | askTitle hpc | showMetainfo hpc
  | ended hpc =>
    rw [hpc]
    exact hs.dispatcher rfl rfl (fun _ => hpid hpc rfl) hoff
  | notEnded hpc | clearScreen hpc | hide hpc =>
    rw [hpc]
    exact hs.dispatcher rfl rfl hoff hoff
  | clearPid hpc =>
    rw [hpc]
    exact hs.reaped

/-- **Every step keeps the invariant** when no program is started with something
left over. -/
theorem requested_step (hs : Requested s h) {act : MplayerAct} (hclean : StartsClean (s, h) act)
    (hstep : step channels s act = some s') :
    Requested s' (MplayerHistory.note s act h) := by
  have hidle : s.service = .idle → s.service.startingProgram = false := fun hpc => by
    rw [hpc]
    rfl
  cases taken_of_step hstep with
  | unheard => exact hs
  | key => exact hs.idle rfl rfl
  | menu hpc | net hpc => exact hs.carryOut (hidle hpc) _
  | service hservice => exact requested_serviceStep hs hclean hservice
  | dispatcher hdispatcher => exact requested_dispatcherStep hs hdispatcher
  | exit => exact { hs with }

/-- The invariant holds once `mplayer_init` has returned. -/
theorem requested_init : Requested init .init where
  busy := fun h => absurd h Bool.false_ne_true
  starting := fun h => absurd h Bool.false_ne_true
  newPid := fun _ h => absurd h (by simp [init, ServicePc.newPid])
  pausing := fun h => absurd h Bool.false_ne_true
  none := fun h => absurd h Bool.false_ne_true
  since := fun h => absurd h (Int.lt_irrefl 0)
  leftOver := fun _ flag h => absurd h (by cases flag <;> decide)
  found := fun _ h => absurd h List.not_mem_nil

instance (s : MplayerThreads × MplayerHistory) (act : MplayerAct) : Decidable (StartsClean s act) :=
  match act with
  | .service _ =>
    match hpc : s.1.service with
    | .testPid no => decidable_of_iff (s.1.current.pid ≤ 0 → s.2.leftOver = false)
        ⟨fun h _ _ => h, fun h => h no hpc⟩
    | .idle | .keyed _ | .spawn _ | .openInput .. | .openOutput .. | .closeInput | .kill _
    | .show .. | .waitForPlayback .. | .setPid .. | .setChannel _ =>
      isTrue (fun _ h => absurd (hpc.symm.trans h) (by simp))
  | .key _ | .menu _ | .net _ | .dispatcher _ | .exit _ => isTrue trivial

/-- **No request outlives its program**: every flag that is found raised when a
program was started, or on which the dispatcher acts, was raised since the start
began, in every run in which no program is started with something left over. -/
theorem found_since_of_reachableBy {channels : List Channel}
    {s : MplayerThreads × MplayerHistory}
    (hs : (historySystem channels).ReachableBy StartsClean s) :
    ∀ found ∈ s.2.found, found.since = true := by
  have hI : Requested s.1 s.2 := hs.invariant (fun s => Requested s.1 s.2) requested_init
    (fun s a s' hI hclean hstep => by
      obtain ⟨t, ht, rfl⟩ := StepSystem.of_history_step hstep
      exact requested_step hI hclean ht)
  exact hI.found

/-- A program is started, paused and stopped. -/
theorem found_since_of_reachableBy_stop :
    ∃ s, (historySystem [⟨"radio".toList, "http://radio".toList, false⟩]).ReachableBy StartsClean s
      ∧ .taken .pausePlayRequest true ∈ s.2.found ∧ .taken .stopRequest true ∈ s.2.found
      ∧ ∀ found ∈ s.2.found, found.since = true := by
  let sys := historySystem [⟨"radio".toList, "http://radio".toList, false⟩]
  let start : List MplayerAct := [.net ["play".toList, "0".toList], .service .done,
    .service (.spawned 42), .service .done, .service .done, .service .done, .service .done,
    .service .done, .service .done]
  let run := sys.replay StartsClean sys.init (start ++ [.net ["pause_play".toList]]
    ++ List.replicate 7 (.dispatcher .done) ++ [.net ["stop".toList], .dispatcher .done,
      .dispatcher .done])
  have hrun : run.map (fun s => decide (.taken .pausePlayRequest true ∈ s.2.found
      ∧ .taken .stopRequest true ∈ s.2.found)) = some true := by decide +kernel
  obtain ⟨s, hs, hfound⟩ := StepSystem.exists_reachableBy_of_replay hrun
  obtain ⟨hpause, hstop⟩ := of_decide_eq_true hfound
  exact ⟨s, hs, hpause, hstop, found_since_of_reachableBy hs⟩

/-- A stop is received while no program runs, and then one is started: it is
stopped at once. -/
theorem not_forall_found_since :
    ¬ ∀ (channels : List Channel) (s : MplayerThreads × MplayerHistory),
      (historySystem channels).Reachable s → ∀ found ∈ s.2.found, found.since = true := by
  intro h
  let sys := historySystem [⟨"radio".toList, "http://radio".toList, false⟩]
  let start : List MplayerAct := [.net ["play".toList, "0".toList], .service .done,
    .service (.spawned 42), .service .done, .service .done, .service .done, .service .done,
    .service .done, .service .done]
  let run := sys.replayAny sys.init ([.net ["stop".toList]] ++ start
    ++ [.dispatcher .done, .dispatcher .done])
  have hrun : run.map (fun s => decide (.started .stopRequest false ∈ s.2.found
      ∧ .taken .stopRequest false ∈ s.2.found)) = some true := by decide +kernel
  obtain ⟨s, hs, hfound⟩ := StepSystem.exists_reachableBy_of_replay hrun
  exact absurd (h _ s hs _ (of_decide_eq_true hfound).1) (by decide)

end MplayerThreads
