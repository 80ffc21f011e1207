import LcdStuff.Service
import LcdStuff.StepSystem

/-!
# Serving the clients

The clients are registered, and then the service thread reads lines of the
server and packets of the remote interface in some order. Each of them may
call a callback. This module says which callback with which cookie is the
right one (`Served.Correct`) and proves that it is the one that is called, in
every run whose inputs the two ways of looking up agree on
(`Serving.correct_of_reachableBy`).

They do not agree on every input. The cookie for a menu event is looked up
under the address of the client instead of its name, and an `ignore` line goes
to the client that was listened to last, whichever screen it names.
`Input.Agrees` is what is left.
-/

/-- What the service thread reads from one of its sockets at a time. -/
inductive Input where
  /-- A line from the LCDproc server. -/
  | line (string : Str)
  /-- What one `read` of the remote interface returns. -/
  | packet (buffer : Str)
  deriving DecidableEq, Repr

namespace Input

/-- The name of the client that an input is about: the screen of a `listen` or
an `ignore` line, the first part of the item of a menu event, the first word
of a packet. -/
def named : Input → Option Str
  | .line string =>
    let argv := getArgs string 10
    if argv[0]? = some "menuevent".toList then
      argv[2]?.bind (fun item => (gStrsplit item "_".toList 2)[0]?)
    else argv[1]?
  | .packet buffer => (gStrsplit buffer " ".toList 0)[0]?

/-- The screen that is listened to after an input, if it was `latest`
before. -/
def listened (latest : Option Str) : Input → Option Str
  | .line string =>
    let argv := getArgs string 10
    if argv[0]? = some "listen".toList then argv[1]? else latest
  | .packet _ => latest

/-- **The input is one that name and lookup agree on**: an `ignore` line names
the current client, if that has a callback for it, and a menu event for a
client with a menu finds the same cookie under the client's address as under
its name. -/
def Agrees {β : Type} (svc : ServiceThread β) : Input → Prop
  | .line string =>
    let argv := getArgs string 10
    (argv[0]? = some "ignore".toList → ∀ client ∈ svc.current,
        client.ignoreCallback = true → argv[1]? = some client.name)
      ∧ (argv[0]? = some "menuevent".toList → ∀ item ∈ argv[2]?,
        ∀ name ∈ (gStrsplit item "_".toList 2)[0]?, ∀ client ∈ svc.clients name,
        client.menuCallback = true →
          svc.clientData client.bytes = svc.clientData client.name)
  | .packet _ => True

instance {β : Type} [DecidableEq β] (svc : ServiceThread β) (input : Input) :
    Decidable (input.Agrees svc) :=
  match input with
  | .line _ => inferInstanceAs (Decidable (_ ∧ _))
  | .packet _ => inferInstanceAs (Decidable True)

end Input

/-- A callback that was called, and what it was called for. -/
structure Served (β : Type) where
  /-- What was read. -/
  input : Input
  /-- The screen of the latest `listen` line. -/
  latest : Option Str
  /-- The callback. -/
  callback : Callback β
  deriving DecidableEq, Repr

/-- The service thread at work. -/
structure Serving (β : Type) where
  /-- The service thread. -/
  svc : ServiceThread β
  /-- The screen of the latest `listen` line. -/
  latest : Option Str
  /-- The callbacks called so far, the latest first. -/
  log : List (Served β)

/-- The clients registered one after the other, each with its cookie. -/
def ServiceThread.registerAll {β : Type} (clients : List (Client × Option β)) :
    ServiceThread β :=
  clients.foldl (fun svc c => svc.registerClient false c.1 c.2) .init

/-- **The callback is the right one**: it is set, it is the one of a client
registered under the name that the input is about – for a key, the name in the
latest `listen` line – and it gets the cookie this client was registered
with. -/
def Served.Correct {β : Type} (clients : List (Client × Option β)) (s : Served β) : Prop :=
  s.callback.client.handles s.callback.event = true
    ∧ (s.callback.client, s.callback.data) ∈ clients
    ∧ (match s.callback.event with
        | .key _ => s.latest
        | _ => s.input.named) = some s.callback.client.name

/-- **The service thread serving its clients**, an input at a time. An input
that takes `lcd_process_response` outside its tokens is no step. -/
def serving {β : Type} (clients : List (Client × Option β)) :
    StepSystem (Serving β) Input where
  init := ⟨.registerAll clients, none, []⟩
  step s input :=
    let latest := input.listened s.latest
    match input with
    | .line string =>
      match s.svc.lcdProcessResponse string with
      | .error _ => none
      | .ok (_, svc, callback) =>
        some ⟨svc, latest, callback.toList.map (Served.mk input latest) ++ s.log⟩
    | .packet buffer =>
      some { s with log :=
        (s.svc.checkForNetInput buffer).toList.map (Served.mk input latest) ++ s.log }

namespace Serving

variable {β : Type}

/-- The tables know every client they have under its own name, and with a
cookie it was registered with. -/
def Registered (clients : List (Client × Option β)) (svc : ServiceThread β) : Prop :=
  ∀ name client, svc.clients name = some client →
    client.name = name ∧ (client, svc.clientData name) ∈ clients

/-- Registering a client keeps the tables as they should be. -/
theorem registered_registerClient {clients : List (Client × Option β)}
    {svc : ServiceThread β} (h : Registered clients svc) {c : Client × Option β}
    (hc : c ∈ clients) : Registered clients (svc.registerClient false c.1 c.2) := by
  intro name client hclient
  have hclient : Function.update svc.clients c.1.name (some c.1) name = some client :=
    hclient
  show client.name = name
    ∧ (client, Function.update svc.clientData c.1.name c.2 name) ∈ clients
  by_cases hname : name = c.1.name
  · subst hname
    rw [Function.update_self] at hclient ⊢
    obtain rfl := Option.some.inj hclient
    exact ⟨rfl, hc⟩
  · rw [Function.update_of_ne hname] at hclient ⊢
    exact h name client hclient

/-- **After the registrations** the tables are as they should be. -/
theorem registered_registerAll (clients : List (Client × Option β)) :
    Registered clients (.registerAll clients) := by
  have hfold : ∀ (cs : List (Client × Option β)) (svc : ServiceThread β),
      Registered clients svc → (∀ c ∈ cs, c ∈ clients) →
      Registered clients (cs.foldl (fun svc c => svc.registerClient false c.1 c.2) svc) := by
    intro cs
    induction cs with
    | nil => exact fun svc h _ => h
    | cons c cs ih =>
      intro svc h hcs
      exact ih _ (registered_registerClient h (hcs c (List.mem_cons_self ..)))
        (fun c' hc' => hcs c' (List.mem_cons_of_mem c hc'))
  exact hfold clients .init (fun _ _ h => absurd h (by simp [ServiceThread.init]))
    (fun _ h => h)

/-- **The invariant of a run**: the tables are as they should be, the current
client is the one of the latest `listen` line, and every callback was the
right one. -/
structure Invariant (clients : List (Client × Option β)) (s : Serving β) : Prop where
  /-- The tables. -/
  registered : Registered clients s.svc
  /-- The current client. -/
  current : s.svc.current = s.latest.bind s.svc.clients
  /-- The callbacks. -/
  log : ∀ e ∈ s.log, e.Correct clients

variable {clients : List (Client × Option β)} {s : Serving β}

/-- **A dispatch is right** when the client is registered, the cookie is looked
up under its name or under a key that gives the same, and the input names
it. -/
theorem correct_of_dispatch {svc : ServiceThread β} (hs : Registered clients svc)
    {input : Input} {latest : Option Str} {d : Dispatch}
    (hhandles : d.client.handles d.event = true)
    (hclient : svc.clients d.client.name = some d.client)
    (hkey : svc.clientData d.dataKey = svc.clientData d.client.name)
    (hname : (match d.event with
      | .key _ => latest
      | _ => input.named) = some d.client.name) :
    (Served.mk input latest (svc.invoke d)).Correct clients := by
  refine ⟨hhandles, ?_, hname⟩
  show (d.client, svc.clientData d.dataKey) ∈ clients
  rw [hkey]
  exact (hs d.client.name d.client hclient).2

/-- The current client is registered, and listened to. -/
theorem Invariant.of_current (hs : Invariant clients s) {client : Client}
    (h : s.svc.current = some client) :
    s.latest = some client.name ∧ s.svc.clients client.name = some client := by
  rw [hs.current] at h
  obtain ⟨screen, hlatest, hclient⟩ := Option.bind_eq_some_iff.mp h
  obtain ⟨rfl, -⟩ := hs.registered _ _ hclient
  exact ⟨hlatest, hclient⟩

/-- Only a `listen` line changes what is listened to. -/
theorem listened_of_ne {string argv0 : Str} (latest : Option Str)
    (h : (getArgs string 10)[0]? = some argv0) (hne : argv0 ≠ "listen".toList) :
    (Input.line string).listened latest = latest := by
  show (if (getArgs string 10)[0]? = some "listen".toList then _ else _) = _
  rw [h, if_neg (fun e => hne (Option.some.inj e))]

/-- A line that is no menu event names its second word. -/
theorem named_of_ne {string argv0 : Str} (h : (getArgs string 10)[0]? = some argv0)
    (hne : argv0 ≠ "menuevent".toList) :
    (Input.line string).named = (getArgs string 10)[1]? := by
  show (if (getArgs string 10)[0]? = some "menuevent".toList then _ else _) = _
  rw [h, if_neg (fun e => hne (Option.some.inj e))]

/-- **What a line leads to**: it keeps the tables, the current client stays the
one that is listened to, and the callback is the right one. -/
theorem of_handling (hs : Invariant clients s) {string : Str}
    (hagrees : (Input.line string).Agrees s.svc) {response : ProcessResponse}
    {svc' : ServiceThread β} {dispatch : Option Dispatch}
    (h : s.svc.Handling (getArgs string 10) response svc' dispatch) :
    Registered clients svc'
      ∧ svc'.current = ((Input.line string).listened s.latest).bind svc'.clients
      ∧ ∀ d ∈ dispatch, (Served.mk (.line string) ((Input.line string).listened s.latest)
        (svc'.invoke d)).Correct clients := by
  cases h with
  | @key str hargv0 hargv1 =>
    rw [listened_of_ne s.latest hargv0 (by decide)]
    refine ⟨hs.registered, hs.current, fun d hd => ?_⟩
    obtain ⟨hcurrent, hcallback, hevent, hkey⟩ := s.svc.of_keyHandler hd
    obtain ⟨hlatest, hclient⟩ := hs.of_current hcurrent
    refine correct_of_dispatch hs.registered ?_ hclient (by rw [hkey]) ?_
    · rw [hevent]
      exact hcallback
    · rw [hevent]
      exact hlatest
  | @listen screen hargv0 hargv1 =>
    have hlatest : (Input.line string).listened s.latest = some screen := by
      show (if (getArgs string 10)[0]? = some "listen".toList then _ else _) = _
      rw [if_pos hargv0, hargv1]
    rw [hlatest]
    refine ⟨hs.registered, rfl, fun d hd => ?_⟩
    obtain ⟨hclient, hcallback, hevent, hkey⟩ := s.svc.of_listenHandler hd
    obtain ⟨hname, -⟩ := hs.registered _ _ hclient
    refine correct_of_dispatch hs.registered ?_ ?_ ?_ ?_
    · rw [hevent]
      exact hcallback
    · rw [hname]
      exact hclient
    · rw [hkey, hname]
    · rw [hevent, hname, ← hargv1]
      exact named_of_ne hargv0 (by decide)
  | @ignore screen hargv0 hargv1 =>
    rw [listened_of_ne s.latest hargv0 (by decide)]
    refine ⟨hs.registered, hs.current, fun d hd => ?_⟩
    obtain ⟨hcurrent, hcallback, hevent, hkey⟩ := s.svc.of_ignoreHandler hd
    obtain ⟨-, hclient⟩ := hs.of_current hcurrent
    refine correct_of_dispatch hs.registered ?_ hclient (by rw [hkey]) ?_
    · rw [hevent]
      exact hcallback
    · rw [hevent, ← hagrees.1 hargv0 _ hcurrent hcallback]
      exact named_of_ne hargv0 (by decide)
  | menuevent hargv0 hmenu =>
    rw [listened_of_ne s.latest hargv0 (by decide)]
    refine ⟨hs.registered, hs.current, fun d hd => ?_⟩
    obtain rfl : _ = some d := hd
    obtain ⟨event, item, name, rest, arg, -, hitem, hsplit, hclient, hcallback, -, hevent,
      hkey⟩ := s.svc.of_menueventHandler hmenu
    obtain ⟨rfl, -⟩ := hs.registered _ _ hclient
    have hname : (gStrsplit item "_".toList 2)[0]? = some d.client.name := by
      rw [hsplit]
      rfl
    refine correct_of_dispatch hs.registered ?_ hclient ?_ ?_
    · rw [hevent]
      exact hcallback
    · rw [hkey]
      exact hagrees.2 hargv0 item hitem _ hname _ hclient hcallback
    · rw [hevent]
      show (if (getArgs string 10)[0]? = some "menuevent".toList then _ else _) = _
      rw [if_pos hargv0, hitem]
      exact hname
  | reply hargv0 hresponse =>
    have hlatest : (Input.line string).listened s.latest = s.latest := by
      show (if (getArgs string 10)[0]? = some "listen".toList then _ else _) = _
      rw [if_neg (fun e => hargv0 _ e (by decide))]
    rw [hlatest]
    exact ⟨hs.registered, hs.current, fun d hd => absurd hd (by simp)⟩

/-- **A line is served right.** -/
theorem invariant_line (hs : Invariant clients s) {string : Str}
    (hagrees : (Input.line string).Agrees s.svc) {s' : Serving β}
    (h : (serving clients).step s (.line string) = some s') : Invariant clients s' := by
  have h : (match s.svc.lcdProcessResponse string with
    | .error _ => none
    | .ok (_, svc, callback) => some ⟨svc, _, _⟩) = some s' := h
  cases hresponse : s.svc.lcdProcessResponse string with
  | error e =>
    rw [hresponse] at h
    exact absurd h (by simp)
  | ok r =>
    obtain ⟨response, svc', call⟩ := r
    rw [hresponse] at h
    obtain rfl := Option.some.inj h
    obtain ⟨dispatch, hdispatch, rfl⟩ := s.svc.of_lcdProcessResponse hresponse
    obtain ⟨hregistered, hcurrent, hcorrect⟩ :=
      of_handling hs hagrees (s.svc.handling_of_lcdDispatch hdispatch)
    refine ⟨hregistered, hcurrent, fun e he => ?_⟩
    rcases List.mem_append.mp he with he | he
    · obtain ⟨c, hc, rfl⟩ := List.mem_map.mp he
      obtain ⟨d, hd, rfl⟩ := Option.map_eq_some_iff.mp (Option.mem_toList.mp hc)
      exact hcorrect d hd
    · exact hs.log e he

/-- **A packet is served right.** -/
theorem invariant_packet (hs : Invariant clients s) {buffer : Str} {s' : Serving β}
    (h : (serving clients).step s (.packet buffer) = some s') : Invariant clients s' := by
  obtain rfl := Option.some.inj h
  refine ⟨hs.registered, hs.current, fun e he => ?_⟩
  rcases List.mem_append.mp he with he | he
  · obtain ⟨c, hc, rfl⟩ := List.mem_map.mp he
    obtain ⟨d, hd, rfl⟩ := Option.map_eq_some_iff.mp (Option.mem_toList.mp hc)
    obtain ⟨name, args, hsplit, hclient, hcallback, hevent, hkey⟩ := s.svc.of_netDispatch hd
    obtain ⟨rfl, -⟩ := hs.registered _ _ hclient
    refine correct_of_dispatch hs.registered ?_ hclient (by rw [hkey]) ?_
    · rw [hevent]
      exact hcallback
    · rw [hevent]
      show (gStrsplit buffer " ".toList 0)[0]? = _
      rw [hsplit]
      rfl
  · exact hs.log e he

/-- **A key is passed on** to the client that is listened to. -/
theorem step_key (hs : Invariant clients s) {string key screen : Str} {client : Client}
    (hargv0 : (getArgs string 10)[0]? = some "key".toList)
    (hargv1 : (getArgs string 10)[1]? = some key) (hlatest : s.latest = some screen)
    (hclient : s.svc.clients screen = some client) (hcallback : client.keyCallback = true) :
    ∃ s', (serving clients).step s (.line string) = some s'
      ∧ s'.log = ⟨.line string, some screen,
        client, .key key, s.svc.clientData client.name⟩ :: s.log := by
  have hcurrent : s.svc.current = some client := by
    rw [hs.current, hlatest]
    exact hclient
  have hresponse : s.svc.lcdProcessResponse string
      = .ok (.callback, s.svc, some ⟨client, .key key, s.svc.clientData client.name⟩) := by
    unfold ServiceThread.lcdProcessResponse
    rw [ServiceThread.lcdDispatch_key s.svc hargv0,
      show readAt (getArgs string 10) 1 = .ok key from readAt_of_getElem? (i := 1) hargv1]
    dsimp only [bind, Except.bind, pure, Except.pure]
    rw [ServiceThread.keyHandler, hcurrent]
    dsimp only
    rw [if_pos hcallback]
    rfl
  have hlistened := listened_of_ne s.latest hargv0 (by decide)
  refine ⟨⟨s.svc, s.latest, Served.mk (.line string) s.latest _ :: s.log⟩, ?_, by
    rw [hlatest]⟩
  show (match s.svc.lcdProcessResponse string with
    | .error _ => none
    | .ok (_, svc, callback) =>
      some (Serving.mk svc ((Input.line string).listened s.latest) _)) = _
  rw [hresponse, hlistened]
  rfl

/-- The invariant holds once the clients are registered. -/
theorem invariant_init (clients : List (Client × Option β)) :
    Invariant clients (serving clients).init := by
  have hcurrent : ∀ (cs : List (Client × Option β)) (svc : ServiceThread β),
      (cs.foldl (fun svc c => svc.registerClient false c.1 c.2) svc).current
        = svc.current := by
    intro cs
    induction cs with
    | nil => exact fun _ => rfl
    | cons c cs ih => exact fun svc => ih _
  exact ⟨registered_registerAll clients, hcurrent clients .init,
    fun e he => absurd he (by simp [serving])⟩

/-- **Every callback is the right one**, whatever the clients are and whatever
they are sent, as long as name and lookup agree on each input. And a key is
passed on to the client of the latest `listen` line. -/
theorem correct_of_reachableBy {clients : List (Client × Option β)} {s : Serving β}
    (hs : (serving clients).ReachableBy (fun s input => input.Agrees s.svc) s) :
    (∀ e ∈ s.log, e.Correct clients)
      ∧ ∀ string key screen client, (getArgs string 10)[0]? = some "key".toList →
        (getArgs string 10)[1]? = some key → s.latest = some screen →
        s.svc.clients screen = some client → client.keyCallback = true →
        ∃ s', (serving clients).step s (.line string) = some s'
          ∧ s'.log = ⟨.line string, some screen,
            client, .key key, s.svc.clientData client.name⟩ :: s.log := by
  have hI : Invariant clients s := by
    refine hs.invariant _ (invariant_init clients) (fun s input s' hI hagrees hstep => ?_)
    cases input with
    | line string => exact invariant_line hI hagrees hstep
    | packet buffer => exact invariant_packet hI hstep
  exact ⟨hI.log, fun string key screen client => step_key hI⟩

/-- A key after a `listen` line goes to the client that is listened to. -/
theorem correct_of_reachableBy_key :
    ∃ s, (serving [(rssClient ['@'], some 1), (mpdClient ['A'], some 2)]).ReachableBy
        (fun s input => input.Agrees s.svc) s
      ∧ s.log.length = 1
      ∧ ∀ e ∈ s.log, e.Correct [(rssClient ['@'], some 1), (mpdClient ['A'], some 2)] := by
  let sys := serving [(rssClient ['@'], some 1), (mpdClient ['A'], some 2)]
  let run := sys.replay (fun s input => input.Agrees s.svc) sys.init
    [.line "listen mpd".toList, .line "key Up".toList]
  have hrun : run.map (fun s => s.log.length) = some 1 := by decide +kernel
  obtain ⟨s, hs, hlog⟩ := StepSystem.exists_reachableBy_of_replay hrun
  exact ⟨s, hs, hlog, (correct_of_reachableBy hs).1⟩

/-- A menu event for the only client finds no cookie. -/
theorem not_forall_correct :
    ¬ ∀ (clients : List (Client × Option ℕ)), (clients.map (fun c => c.1.name)).Nodup →
      ∀ s, (serving clients).Reachable s → ∀ e ∈ s.log, e.Correct clients := by
  intro h
  let sys := serving [(mpdClient ['@'], some 7)]
  let run := sys.replayAny sys.init [.line "menuevent select mpd_pl_1".toList]
  have hrun : run.map Serving.log = some [⟨.line "menuevent select mpd_pl_1".toList, none,
      ⟨mpdClient ['@'], .menu "select".toList (some "pl_1".toList) [], none⟩⟩] := by
    decide +kernel
  obtain ⟨s, hs, hlog⟩ := StepSystem.exists_reachableBy_of_replay hrun
  obtain ⟨-, hmem, -⟩ := h _ (by decide) s hs _ (hlog ▸ List.mem_singleton_self _)
  exact absurd hmem (by decide)

end Serving
