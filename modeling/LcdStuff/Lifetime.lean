import LcdStuff.Threads

/-!
# How long a module may be called

A callback gets the address of a variable of its module's run function. It must
be called only between the module's registration and the removal of its client,
or the end of the run function.

Two things keep a client within reach of the service thread. One is the table,
which a module leaves by unregistering. `mplayer_run` and `mpd_run` do so on
every way out, but `rss_run` and `mail_run` return at once when their init
function fails, with the client still in the table. The other is `current`,
which unregistering does not touch. And a menu event looks up the cookie under a
key that no cookie was stored under.

As long as `g_exit` is not set, these are the only ways to a callback that is
too late or has no cookie, except for an unregistration just between the choice
of a client and the call of its callback (`Threads.alive_of_reachableBy`).
-/

/-- The client is in the tables. -/
def Phase.inTables : Phase → Bool
  | .registered | .failed => true
  | .fresh | .unregistered => false

/-- What an access does to a module's registration: it registers its own
client, once, and unregisters under the same name. Only a client that is called
for nothing but keys and `ignore` lines may be left behind. -/
def Phase.next (client : Client) : Access → Phase → Option Phase
  | .insert c, .fresh => if c = client then some .registered else none
  | .remove name, .registered => if name = client.name then some .unregistered else none
  | .initFailed, .registered =>
    if client.menuCallback || client.netCallback then none else some .failed
  | .insert _, _ | .remove _, _ | .initFailed, _ => none
  | .countUp, t | .countDown, t | .exitIfLast, t | .push, t => some t

/-- **To register once, and to unregister before the end**, as long as `g_exit`
is not set. -/
def Discipline.registration (client : Client) : Discipline Access Test Phase :=
  ⟨Phase.next client, fun _ answer => !answer, fun t => decide (t ≠ .registered)⟩

namespace LcdModule

/-! ## The modules keep to it -/

variable {c : Client} {post : Phase → Bool} {t : Phase}

/-- A loop is not left. -/
theorem meets_until {p : ModuleCode} (hp : (Discipline.registration c).Ignores p) :
    (Discipline.registration c).meets (.until .gExit p) post t = true :=
  (hp (fun u => u == t) t).trans (beq_self_eq_true t)

/-- A module registers. -/
theorem meets_registerClient :
    (Discipline.registration c).meets (registerClient c) post .fresh = post .registered := by
  have hnext : Phase.next c (.insert c) .fresh = some .registered := if_pos rfl
  show (Phase.next c (.insert c) .fresh).any post = post .registered
  rw [hnext]
  rfl

/-- A module unregisters. -/
theorem meets_unregisterClient {name : Str} (h : name = c.name) :
    (Discipline.registration c).meets (unregisterClient name) post .registered
      = post .unregistered := by
  have hnext : Phase.next c (.remove name) .registered = some .unregistered := if_pos h
  show (Phase.next c (.remove name) .registered).any post = post .unregistered
  rw [hnext]
  rfl

/-- A module leaves its client behind. -/
theorem meets_initFailed (hmenu : c.menuCallback = false) (hnet : c.netCallback = false) :
    (Discipline.registration c).meets (.act .initFailed) post .registered = post .failed := by
  have hnext : Phase.next c .initFailed .registered = some .failed := by
    rw [Phase.next, hmenu, hnet]
    rfl
  show (Phase.next c .initFailed .registered).any post = post .failed
  rw [hnext]
  rfl

open Discipline

/-- Code that only queues commands is of no account. -/
theorem ignores_commands {p : ModuleCode} (hp : p.only (fun a => decide (a = .push)) = true) :
    (registration c).Ignores p :=
  ignores_of_only (fun a ha t => by rw [of_decide_eq_true ha]; rfl) (fun _ => .inr rfl) hp

/-- What the run functions do besides. -/
theorem meets_commands :
    (registration c).meets command post t = post t
      ∧ (registration c).meets screenCreate post t = post t
      ∧ (registration c).meets screenSetTitle post t = post t
      ∧ (registration c).meets screenSetName post t = post t
      ∧ (registration c).meets screenSetPriority post t = post t
      ∧ (registration c).meets screenDestroy post t = post t
      ∧ (registration c).meets mpdStateChangedHandler post t = post t
      ∧ (registration c).meets (.many (.either .skip (Code.chain [command, command]))) post t
        = post t := by
  refine ⟨?_, ?_, ?_, ?_, ?_, ?_, ?_, ?_⟩ <;> exact ignores_commands rfl post t

/-- **Every module keeps to the order**, on every way through its code. -/
theorem meets_run (bytes : LcdModule → Str) (m : LcdModule) :
    (Discipline.registration (m.client bytes)).meetsAll [m.run bytes] .fresh = true := by
  have hloop : ∀ {p : ModuleCode}, p.only (fun a => decide (a = .push)) = true → ∀ {post t},
      (registration (m.client bytes)).meets (.until .gExit p) post t = true :=
    fun hp => meets_until (ignores_commands hp)
  show (registration (m.client bytes)).meets (m.run bytes) (fun t => decide (t ≠ .registered))
    .fresh = true
  cases m with
  | mplayer =>
    simp only [run, mplayerRun, mplayerInit, meets_chain_cons, meets_chain_nil, meets_either,
      meets_ret, meets_skip, meets_registerClient, meets_commands]
    have hname : "mplayer".toList = (client bytes .mplayer).name := rfl
    rw [hloop rfl, meets_unregisterClient hname]
    rfl
  | rss =>
    simp only [run, rssRun, rssInit, meets_chain_cons, meets_either,
      meets_ret, meets_skip, meets_registerClient, meets_commands]
    rw [hloop rfl, meets_initFailed rfl rfl]
    rfl
  | mail =>
    simp only [run, mailRun, mailInit, meets_chain_cons, meets_either,
      meets_ret, meets_skip, meets_registerClient, meets_commands]
    rw [hloop rfl, meets_initFailed rfl rfl]
    rfl
  | weather =>
    simp only [run, weatherRun, weatherInit, meets_chain_cons, meets_chain_nil, meets_either,
      meets_ret, meets_skip, meets_registerClient, meets_commands]
    rw [hloop rfl]
    rfl
  | mpd =>
    simp only [run, mpdRun, mpdInit, meets_chain_cons, meets_chain_nil, meets_either,
      meets_ret, meets_skip, meets_registerClient, meets_commands]
    have hname : "mpd".toList = (client bytes .mpd).name := rfl
    rw [hloop rfl, meets_unregisterClient hname]
    rfl

end LcdModule

/-- The client whose callback is under way. -/
def LoopPc.underway {β : Type} : LoopPc β → Option Client
  | .lookup _ dispatch => some dispatch.client
  | .call _ callback => some callback.client
  | _ => none

theorem LoopPc.underway_of_quiet {β : Type} {pc : LoopPc β} (h : pc.quiet = true) :
    pc.underway = none := by
  cases pc <;> first | rfl | exact absurd h Bool.false_ne_true

namespace Threads

/-- **What the tables know** of the modules, as long as `g_exit` is not set. -/
structure Registry (bytes : LcdModule → Str) (s : Threads) : Prop where
  /-- The modules keep to the order. -/
  code : ∀ m, (Discipline.registration (m.client bytes)).meetsAll (s.left m) (s.phase m) = true
  /-- A client that is in the tables has its cookie there. -/
  inTables : ∀ m, (s.phase m).inTables = true →
    s.loop.svc.clients m.name = some (m.client bytes)
      ∧ s.loop.svc.clientData m.name = some m
  /-- No others are in the table. -/
  only : ∀ name client, s.loop.svc.clients name = some client →
    ∃ m : LcdModule, name = m.name ∧ client = m.client bytes ∧ (s.phase m).inTables = true
  /-- A client that was left behind is called only for keys and `ignore` lines. -/
  failed : ∀ m, s.phase m = .failed →
    (m.client bytes).menuCallback = false ∧ (m.client bytes).netCallback = false
  /-- The current client was registered once. -/
  current : ∀ client, s.loop.svc.current = some client →
    ∃ m : LcdModule, client = m.client bytes ∧ s.phase m ≠ .fresh

/-- **What is known of a callback that is under way**: its module is in the
tables and has not returned, and its cookie will be found, or was. -/
structure Underway (bytes : LcdModule → Str) (s : Threads) : Prop where
  /-- The module. -/
  client : ∀ client, s.loop.pc.underway = some client →
    ∃ m : LcdModule, client = m.client bytes ∧ (s.phase m).inTables = true ∧ s.left m ≠ []
  /-- The key under which the cookie is looked up. -/
  lookup : ∀ reader dispatch, s.loop.pc = .lookup reader dispatch →
    dispatch.dataKey = dispatch.client.name
  /-- The cookie. -/
  call : ∀ reader call, s.loop.pc = .call reader call → call.data ≠ none

/-- **The invariant**: as long as `g_exit` is not set, the tables are in order
and so is the callback that is under way; and every callback that was called
while it was not set was in time and had its cookie. -/
structure Alive (bytes : LcdModule → Str) (s : Threads) : Prop where
  /-- The tables. -/
  registry : s.gExit = false → Registry bytes s
  /-- The callback. -/
  underway : s.gExit = false → Underway bytes s
  /-- The callbacks that were called. -/
  log : ∀ call gone, .callback call gone false ∈ s.log → gone = false ∧ call.data ≠ none

/-- The module unregisters or returns when it takes the step. -/
def leaves (s : Threads) (m : LcdModule) (choice : Bool) : Bool :=
  match Code.step (fun _ => s.gExit) choice (s.left m) with
  | some (some (.remove _), _) => true
  | some (_, []) => true
  | _ => false

/-- The line calls nobody too late: no key and no `ignore` line is for a current
client whose module is gone, and no menu event is for a client with a menu,
unless the memory of the client spells its name. -/
def LineInTime (s : Threads) (string : Str) : Prop :=
  let argv := getArgs string 10
  (argv[0]? = some "key".toList → ∀ client ∈ s.loop.svc.current,
      client.keyCallback = true → s.clientGone client = false)
    ∧ (argv[0]? = some "ignore".toList → ∀ client ∈ s.loop.svc.current,
      client.ignoreCallback = true → s.clientGone client = false)
    ∧ (argv[0]? = some "menuevent".toList → ∀ item ∈ argv[2]?,
      ∀ name ∈ (gStrsplit item "_".toList 2)[0]?, ∀ client ∈ s.loop.svc.clients name,
      client.menuCallback = true → client.bytes = client.name)

/-- **The step calls nobody too late** as long as `g_exit` is not set: it takes
up no line that does, and no module goes while its callback is under way. -/
def InTime (s : Threads) (act : ThreadsAct) : Prop :=
  s.gExit = false → match act with
  | .service (.received (.line string)) => s.LineInTime string
  | .module m choice => s.leaves m choice = true →
    ∀ client ∈ s.loop.pc.underway, client.name ≠ m.name
  | .signal | .service _ => True

variable {bytes : LcdModule → Str} {s s' : Threads}

/-- A client is gone when its module is. -/
theorem clientGone_client (s : Threads) (m : LcdModule) :
    s.clientGone (m.client bytes) = s.gone m := by
  unfold clientGone
  rw [LcdModule.client_name]
  cases hgone : s.gone m with
  | true =>
    refine List.any_eq_true.mpr ⟨m, m.mem_all, ?_⟩
    rw [hgone, decide_eq_true rfl]
    rfl
  | false =>
    refine List.any_eq_false.mpr (fun n _ h => ?_)
    obtain ⟨hname, hn⟩ := Bool.and_eq_true_iff.mp h
    rw [LcdModule.name_inj (of_decide_eq_true hname), hgone] at hn
    exact Bool.false_ne_true hn

/-- A module that is not gone and has registered is in the tables. -/
theorem inTables_of_not_gone {m : LcdModule} (hgone : s.gone m = false)
    (hfresh : s.phase m ≠ .fresh) : (s.phase m).inTables = true ∧ s.left m ≠ [] := by
  obtain ⟨hphase, hleft⟩ := Bool.or_eq_false_iff.mp hgone
  refine ⟨?_, fun hnil => ?_⟩
  · have hunregistered := of_decide_eq_false hphase
    cases hp : s.phase m with
    | fresh => exact absurd hp hfresh
    | registered => rfl
    | failed => rfl
    | unregistered => exact absurd hp hunregistered
  · rw [hnil] at hleft
    exact absurd hleft (by decide)

/-- A module with a menu or for the remote interface that is in the tables has
not returned. -/
theorem Registry.left_ne_nil (hs : Registry bytes s) {m : LcdModule}
    (htables : (s.phase m).inTables = true)
    (hcallback : (m.client bytes).menuCallback = true ∨ (m.client bytes).netCallback = true) :
    s.left m ≠ [] := by
  intro hnil
  have hcode := hs.code m
  rw [hnil] at hcode
  have hphase : s.phase m ≠ .registered := of_decide_eq_true hcode
  cases hp : s.phase m with
  | fresh | unregistered =>
    rw [hp] at htables
    exact absurd htables Bool.false_ne_true
  | registered => exact hphase hp
  | failed =>
    obtain ⟨hmenu, hnet⟩ := hs.failed m hp
    rcases hcallback with h | h
    · exact absurd (hmenu.symm.trans h) Bool.false_ne_true
    · exact absurd (hnet.symm.trans h) Bool.false_ne_true

/-- What a dispatch may be that is taken up. -/
def Dispatchable (bytes : LcdModule → Str) (s : Threads) (d : Dispatch) : Prop :=
  d.dataKey = d.client.name
    ∧ ∃ m : LcdModule, d.client = m.client bytes ∧ (s.phase m).inTables = true ∧ s.left m ≠ []

/-- The current client may be called, if its module is not gone. -/
theorem Registry.dispatchable_current (hs : Registry bytes s) {d : Dispatch}
    (hcurrent : s.loop.svc.current = some d.client) (hgone : s.clientGone d.client = false)
    (hkey : d.dataKey = d.client.name) : Dispatchable bytes s d := by
  obtain ⟨m, hclient, hfresh⟩ := hs.current _ hcurrent
  rw [hclient, clientGone_client] at hgone
  exact ⟨hkey, m, hclient, inTables_of_not_gone hgone hfresh⟩

/-- A client in the table may be called, if it has a menu or is for the remote
interface. -/
theorem Registry.dispatchable_table (hs : Registry bytes s) {d : Dispatch} {name : Str}
    (htable : s.loop.svc.clients name = some d.client)
    (hcallback : d.client.menuCallback = true ∨ d.client.netCallback = true)
    (hkey : d.dataKey = d.client.name) : Dispatchable bytes s d := by
  obtain ⟨m, -, hclient, htables⟩ := hs.only _ _ htable
  rw [hclient] at hcallback
  exact ⟨hkey, m, hclient, htables, hs.left_ne_nil htables hcallback⟩

/-- **What a line leads to**: the tables stay as they are, the current client is
one of them, and a dispatch may be taken up. -/
theorem Registry.of_handling (hs : Registry bytes s) (hgExit : s.gExit = false)
    {string : Str} (hact : s.InTime (.service (.received (.line string))))
    {response : ProcessResponse} {svc : ServiceThread LcdModule} {dispatch : Option Dispatch}
    (h : s.loop.svc.Handling (getArgs string 10) response svc dispatch) :
    svc.clients = s.loop.svc.clients ∧ svc.clientData = s.loop.svc.clientData
      ∧ (∀ client, svc.current = some client →
        ∃ m : LcdModule, client = m.client bytes ∧ s.phase m ≠ .fresh)
      ∧ ∀ d ∈ dispatch, Dispatchable bytes s d := by
  obtain ⟨hkeys, hignores, hmenus⟩ := hact hgExit
  cases h with
  | key hargv0 hargv1 =>
    refine ⟨rfl, rfl, hs.current, fun d hd => ?_⟩
    obtain ⟨hcurrent, hcallback, -, hkey⟩ := s.loop.svc.of_keyHandler hd
    exact hs.dispatchable_current hcurrent (hkeys hargv0 _ hcurrent hcallback) hkey
  | listen hargv0 hargv1 =>
    refine ⟨rfl, rfl, fun client hclient => ?_, fun d hd => ?_⟩
    · obtain ⟨m, -, hm, htables⟩ := hs.only _ _ hclient
      refine ⟨m, hm, fun hfresh => ?_⟩
      rw [hfresh] at htables
      exact Bool.false_ne_true htables
    · -- no module has a callback for this
      obtain ⟨htable, hcallback, -⟩ := s.loop.svc.of_listenHandler hd
      obtain ⟨m, -, hm, -⟩ := hs.only _ _ htable
      rw [hm] at hcallback
      cases m <;> exact absurd hcallback Bool.false_ne_true
  | ignore hargv0 hargv1 =>
    refine ⟨rfl, rfl, hs.current, fun d hd => ?_⟩
    obtain ⟨hcurrent, hcallback, -, hkey⟩ := s.loop.svc.of_ignoreHandler hd
    exact hs.dispatchable_current hcurrent (hignores hargv0 _ hcurrent hcallback) hkey
  | menuevent hargv0 hmenu =>
    refine ⟨rfl, rfl, hs.current, fun d hd => ?_⟩
    obtain rfl : _ = some d := hd
    obtain ⟨event, item, name, rest, arg, -, hitem, hsplit, htable, hcallback, -, -, hkey⟩ :=
      s.loop.svc.of_menueventHandler hmenu
    have hname : (gStrsplit item "_".toList 2)[0]? = some name := by
      rw [hsplit]
      rfl
    refine hs.dispatchable_table htable (.inl hcallback) (hkey.trans ?_)
    exact hmenus hargv0 item hitem name hname _ htable hcallback
  | reply hargv0 hresponse =>
    exact ⟨rfl, rfl, hs.current, fun d hd => absurd hd (by simp)⟩

/-! ## The service thread -/

variable {loop : ServiceLoop LcdModule} {log : List ThreadsEvent}

/-- The service thread has left the tables as they were. -/
theorem Registry.of_svc (hs : Registry bytes s) (hclients : loop.svc.clients = s.loop.svc.clients)
    (hdata : loop.svc.clientData = s.loop.svc.clientData)
    (hcurrent : ∀ client, loop.svc.current = some client →
      ∃ m : LcdModule, client = m.client bytes ∧ s.phase m ≠ .fresh) :
    Registry bytes { s with loop := loop, log := log } :=
  { hs with
    inTables := fun m h => by
      obtain ⟨hclient, hcookie⟩ := hs.inTables m h
      exact ⟨(congrFun hclients _).trans hclient, (congrFun hdata _).trans hcookie⟩
    only := fun name client h => hs.only name client ((congrFun hclients _).symm.trans h)
    current := hcurrent }

/-- No callback is under way. -/
theorem underway_of_none (hnone : loop.pc.underway = none) :
    Underway bytes { s with loop := loop, log := log } where
  client := fun client h => absurd (hnone.symm.trans h) (by simp)
  lookup := fun reader dispatch h => by
    rw [show loop.pc = _ from h] at hnone
    exact absurd hnone (by simp [LoopPc.underway])
  call := fun reader callback h => by
    rw [show loop.pc = _ from h] at hnone
    exact absurd hnone (by simp [LoopPc.underway])

/-- A callback was selected. -/
theorem underway_of_dispatchable {reader : Reader} {d : Dispatch} (hd : Dispatchable bytes s d)
    (hpc : loop.pc = .lookup reader d) :
    Underway bytes { s with loop := loop, log := log } where
  client := fun client h => by
    have h : loop.pc.underway = some client := h
    rw [hpc] at h
    exact Option.some.inj h ▸ hd.2
  lookup := fun reader' d' h => by
    obtain ⟨rfl, rfl⟩ := LoopPc.lookup.inj (hpc.symm.trans h)
    exact hd.1
  call := fun reader' callback h => by
    have h : loop.pc = .call reader' callback := h
    rw [hpc] at h
    exact absurd h (by simp)

/-- The cookie is found. -/
theorem underway_of_lookup (hs : Registry bytes s) (hu : Underway bytes s) {reader : Reader}
    {d : Dispatch} (hpc : s.loop.pc = .lookup reader d) :
    Underway bytes { s with
      loop := { s.loop with pc := .call reader (s.loop.svc.invoke d) }, log := log } where
  client := fun client h => hu.client client (by rw [hpc]; exact h)
  lookup := fun reader' d' h => absurd h (by simp)
  call := fun reader' callback h => by
    obtain ⟨rfl, rfl⟩ := LoopPc.call.inj h
    obtain ⟨m, hclient, htables, -⟩ := hu.client d.client (by rw [hpc]; rfl)
    have hkey : d.dataKey = m.name := by
      rw [hu.lookup reader d hpc, hclient, LcdModule.client_name]
    show s.loop.svc.clientData d.dataKey ≠ none
    rw [hkey, (hs.inTables m htables).2]
    simp

/-- **A step of the service thread** keeps the tables in order and the callback
that is under way. -/
theorem Registry.service (hs : Registry bytes s) (hu : Underway bytes s)
    (hgExit : s.gExit = false) {input : LoopInput} (hact : s.InTime (.service input))
    (h : s.loop.step s.gExit input = some loop) :
    Registry bytes { s with loop := loop, log := log }
      ∧ Underway bytes { s with loop := loop, log := log } := by
  -- most steps leave the tables as they are, and call nothing
  have hidle : ∀ {loop : ServiceLoop LcdModule}, loop.svc = s.loop.svc →
      loop.pc.underway = none → Registry bytes { s with loop := loop, log := log }
        ∧ Underway bytes { s with loop := loop, log := log } := fun hsvc hpc =>
    ⟨hs.of_svc (by rw [hsvc]) (by rw [hsvc]) (by rw [hsvc]; exact hs.current),
      underway_of_none hpc⟩
  cases ServiceLoop.taken_of_step h with
  | test hpc =>
    rw [if_neg (by rw [hgExit]; exact Bool.false_ne_true)]
    exact hidle rfl rfl
  | lookup hpc => exact ⟨hs.of_svc rfl rfl hs.current, underway_of_lookup hs hu hpc⟩
  | call hpc =>
    obtain ⟨hsvc, hpc'⟩ := s.loop.continues_frame _
    exact hidle hsvc (LoopPc.underway_of_quiet hpc')
  | unrefQueue hpc => exact hidle rfl rfl
  | destroyClients hpc => exact hidle rfl rfl
  | freeMutex hpc => exact hidle rfl rfl
  | popped hpc => exact hidle rfl rfl
  | idle hpc => exact hidle rfl (by dsimp only; split <;> rfl)
  | sent hpc => exact hidle rfl rfl
  | unsent hpc =>
    obtain ⟨hsvc, hpc'⟩ := s.loop.returns_frame _ _
    exact hidle hsvc (LoopPc.underway_of_quiet hpc')
  | received hpc hreceives =>
    rcases ServiceLoop.of_receives hreceives with
      ⟨hsvc, hpc'⟩ | ⟨string, response, svc, dispatch, rfl, hdispatch, rfl, hpc'⟩
    · exact hidle hsvc (LoopPc.underway_of_quiet hpc')
    · obtain ⟨hclients, hdata, hcurrent, hdispatchable⟩ :=
        hs.of_handling hgExit hact (s.loop.svc.handling_of_lcdDispatch hdispatch)
      refine ⟨hs.of_svc hclients hdata hcurrent, ?_⟩
      cases dispatch with
      | none => exact underway_of_none (LoopPc.underway_of_quiet hpc')
      | some d => exact underway_of_dispatchable (hdispatchable d rfl) hpc'
  | quiet hpc => exact hidle rfl rfl
  | packet hpc hdispatch =>
    obtain ⟨name, args, -, htable, hcallback, -, hkey⟩ := s.loop.svc.of_netDispatch hdispatch
    exact ⟨hs.of_svc rfl rfl hs.current,
      underway_of_dispatchable (hs.dispatchable_table htable (.inr hcallback) hkey) rfl⟩

/-- A module that is in the tables and has not returned is not gone. -/
theorem gone_eq_false {m : LcdModule} (htables : (s.phase m).inTables = true)
    (hleft : s.left m ≠ []) : s.gone m = false := by
  refine Bool.or_eq_false_iff.mpr ⟨decide_eq_false (fun h => ?_), ?_⟩
  · rw [h] at htables
    exact Bool.false_ne_true htables
  · rw [List.isEmpty_eq_false_iff]
    exact hleft

/-- **The service thread calls nobody too late.** -/
theorem alive_serviceStep (hs : Alive bytes s) {input : LoopInput}
    (hact : s.InTime (.service input)) (h : s.step (.service input) = some s') :
    Alive bytes s' := by
  obtain ⟨loop, hloop, rfl⟩ := of_serviceStep h
  refine ⟨fun hgExit => ?_, fun hgExit => ?_, fun call gone hmem => ?_⟩
  · exact ((hs.registry hgExit).service (hs.underway hgExit) hgExit hact hloop).1
  · exact ((hs.registry hgExit).service (hs.underway hgExit) hgExit hact hloop).2
  · rcases List.mem_append.mp hmem with hmem | hmem
    · unfold calls at hmem
      split at hmem
      · next reader callback hpc =>
        obtain ⟨rfl, rfl, hgExit⟩ := ThreadsEvent.callback.inj (List.mem_singleton.mp hmem)
        have hu := hs.underway hgExit.symm
        obtain ⟨m, hclient, htables, hleft⟩ := hu.client call.client (by rw [hpc]; rfl)
        rw [hclient, clientGone_client]
        exact ⟨gone_eq_false htables hleft, hu.call reader call hpc⟩
      · exact absurd hmem List.not_mem_nil
    · exact hs.log call gone hmem

/-! ## The modules -/

/-- What a step of a module leads to, when it changes nothing in the tables. -/
theorem Registry.stays (hs : Registry bytes s) {m : LcdModule} {k : List ModuleCode}
    (hk : (Discipline.registration (m.client bytes)).meetsAll k (s.phase m) = true)
    (hleft : s'.left = Function.update s.left m k) (hphase : s'.phase = s.phase)
    (hclients : s'.loop.svc.clients = s.loop.svc.clients)
    (hdata : s'.loop.svc.clientData = s.loop.svc.clientData)
    (hcurrent : s'.loop.svc.current = s.loop.svc.current) : Registry bytes s' where
  code := fun n => by
    rw [hleft, hphase]
    by_cases hn : n = m
    · subst hn
      rw [Function.update_self]
      exact hk
    · rw [Function.update_of_ne hn]
      exact hs.code n
  inTables := by
    rw [hphase, hclients, hdata]
    exact hs.inTables
  only := by
    rw [hphase, hclients]
    exact hs.only
  failed := by
    rw [hphase]
    exact hs.failed
  current := by
    rw [hphase, hcurrent]
    exact hs.current

/-- **What a step of a module leads to** that registers, unregisters or leaves
its client behind. -/
theorem Registry.moves (hs : Registry bytes s) {m : LcdModule} {k : List ModuleCode}
    {u : Phase} (hk : (Discipline.registration (m.client bytes)).meetsAll k u = true)
    (hfresh : u ≠ .fresh)
    (hfailed : u = .failed →
      (m.client bytes).menuCallback = false ∧ (m.client bytes).netCallback = false)
    (hleft : s'.left = Function.update s.left m k)
    (hphase : s'.phase = Function.update s.phase m u)
    (hcurrent : s'.loop.svc.current = s.loop.svc.current)
    (hothers : ∀ name, name ≠ m.name →
      s'.loop.svc.clients name = s.loop.svc.clients name
        ∧ s'.loop.svc.clientData name = s.loop.svc.clientData name)
    (hthis : u.inTables = true → s'.loop.svc.clients m.name = some (m.client bytes)
      ∧ s'.loop.svc.clientData m.name = some m)
    (hout : u.inTables = false → s'.loop.svc.clients m.name = none) :
    Registry bytes s' := by
  have hname : ∀ {n : LcdModule}, n ≠ m → n.name ≠ m.name :=
    fun hn h => hn (LcdModule.name_inj h)
  refine ⟨fun n => ?_, fun n hn => ?_, fun name client h => ?_, fun n hn => ?_,
    fun client h => ?_⟩
  · rw [hleft, hphase]
    by_cases hn : n = m
    · subst hn
      rw [Function.update_self, Function.update_self]
      exact hk
    · rw [Function.update_of_ne hn, Function.update_of_ne hn]
      exact hs.code n
  · rw [hphase] at hn
    by_cases hnm : n = m
    · subst hnm
      rw [Function.update_self] at hn
      exact hthis hn
    · rw [Function.update_of_ne hnm] at hn
      rw [(hothers _ (hname hnm)).1, (hothers _ (hname hnm)).2]
      exact hs.inTables n hn
  · rw [hphase]
    by_cases hm : name = m.name
    · subst hm
      cases htables : u.inTables with
      | false => exact absurd ((hout htables).symm.trans h) (by simp)
      | true =>
        refine ⟨m, rfl, Option.some.inj (h.symm.trans (hthis htables).1), ?_⟩
        rw [Function.update_self]
        exact htables
    · rw [(hothers name hm).1] at h
      obtain ⟨n, rfl, hclient, htables⟩ := hs.only name client h
      refine ⟨n, rfl, hclient, ?_⟩
      rw [Function.update_of_ne (fun hn => hm (by rw [hn]))]
      exact htables
  · rw [hphase] at hn
    by_cases hnm : n = m
    · subst hnm
      rw [Function.update_self] at hn
      exact hfailed hn
    · rw [Function.update_of_ne hnm] at hn
      exact hs.failed n hn
  · rw [hcurrent] at h
    obtain ⟨n, hclient, hn⟩ := hs.current client h
    refine ⟨n, hclient, ?_⟩
    rw [hphase]
    by_cases hnm : n = m
    · subst hnm
      rw [Function.update_self]
      exact hfresh
    · rw [Function.update_of_ne hnm]
      exact hn

/-- A module registers its own client, and only once. -/
theorem next_insert {client c : Client} {t u : Phase}
    (h : Phase.next client (.insert c) t = some u) :
    t = .fresh ∧ c = client ∧ u = .registered := by
  cases t with
  | fresh =>
    rw [Phase.next] at h
    split at h
    · next hc => exact ⟨rfl, hc, (Option.some.inj h).symm⟩
    · exact absurd h (by simp)
  | registered | failed | unregistered => exact absurd h (by simp [Phase.next])

/-- A module unregisters what it has registered. -/
theorem next_remove {client : Client} {name : Str} {t u : Phase}
    (h : Phase.next client (.remove name) t = some u) :
    t = .registered ∧ name = client.name ∧ u = .unregistered := by
  cases t with
  | registered =>
    rw [Phase.next] at h
    split at h
    · next hname => exact ⟨rfl, hname, (Option.some.inj h).symm⟩
    · exact absurd h (by simp)
  | fresh | failed | unregistered => exact absurd h (by simp [Phase.next])

/-- A client that is left behind is called only for keys and `ignore` lines. -/
theorem next_initFailed {client : Client} {t u : Phase}
    (h : Phase.next client .initFailed t = some u) :
    t = .registered ∧ u = .failed ∧ client.menuCallback = false
      ∧ client.netCallback = false := by
  cases t with
  | registered =>
    rw [Phase.next] at h
    split at h
    · exact absurd h (by simp)
    · next hcallback =>
      obtain ⟨hmenu, hnet⟩ := Bool.or_eq_false_iff.mp (Bool.eq_false_iff.mpr hcallback)
      exact ⟨rfl, (Option.some.inj h).symm, hmenu, hnet⟩
  | fresh | failed | unregistered => exact absurd h (by simp [Phase.next])

/-- What an access does to the registration. -/
theorem phase_perform {m : LcdModule} {a : Access} {k : List ModuleCode} {u : Phase}
    (hnext : Phase.next (m.client bytes) a (s.phase m) = some u) :
    (Threads.perform { s with left := Function.update s.left m k } m a).phase
      = Function.update s.phase m u := by
  cases a with
  | insert c =>
    obtain ⟨-, -, rfl⟩ := next_insert hnext
    rfl
  | remove name =>
    obtain ⟨-, -, rfl⟩ := next_remove hnext
    rfl
  | initFailed =>
    obtain ⟨-, rfl, -⟩ := next_initFailed hnext
    rfl
  | countUp | countDown | exitIfLast | push =>
    obtain rfl := Option.some.inj hnext
    exact (Function.update_eq_self m s.phase).symm

/-- **An access keeps the tables in order.** -/
theorem Registry.access (hs : Registry bytes s) {m : LcdModule} {a : Access}
    {k : List ModuleCode} {u : Phase}
    (hnext : Phase.next (m.client bytes) a (s.phase m) = some u)
    (hk : (Discipline.registration (m.client bytes)).meetsAll k u = true) :
    Registry bytes { Threads.perform { s with left := Function.update s.left m k } m a with
      log := log } := by
  cases a with
  | insert c =>
    obtain ⟨-, rfl, rfl⟩ := next_insert hnext
    refine hs.moves hk (by simp) (by simp) rfl rfl rfl (fun name hname => ?_) (fun _ => ?_)
      (fun h => absurd h (by simp [Phase.inTables]))
    · rw [← LcdModule.client_name bytes m] at hname
      exact ⟨Function.update_of_ne hname _ _, Function.update_of_ne hname _ _⟩
    · rw [← LcdModule.client_name bytes m]
      exact ⟨Function.update_self _ _ _, Function.update_self _ _ _⟩
  | remove name =>
    obtain ⟨-, rfl, rfl⟩ := next_remove hnext
    refine hs.moves hk (by simp) (by simp) rfl rfl rfl (fun name hname => ?_)
      (fun h => absurd h (by simp [Phase.inTables])) (fun _ => ?_)
    · rw [← LcdModule.client_name bytes m] at hname
      exact ⟨Function.update_of_ne hname _ _, Function.update_of_ne hname _ _⟩
    · rw [← LcdModule.client_name bytes m]
      exact Function.update_self _ _ _
  | initFailed =>
    obtain ⟨hregistered, rfl, hcallbacks⟩ := next_initFailed hnext
    exact hs.moves hk (by simp) (fun _ => hcallbacks) rfl rfl rfl (fun _ _ => ⟨rfl, rfl⟩)
      (fun _ => hs.inTables m (by rw [hregistered]; rfl))
      (fun h => absurd h (by simp [Phase.inTables]))
  | countUp | countDown | exitIfLast | push =>
    obtain rfl := Option.some.inj hnext
    exact hs.stays hk rfl rfl rfl rfl rfl

/-- Only an unregistration takes a client out of the tables. -/
theorem inTables_of_next {client : Client} {a : Access} {t u : Phase}
    (h : Phase.next client a t = some u) (ht : t.inTables = true)
    (hremove : ∀ name, a ≠ .remove name) : u.inTables = true := by
  cases a with
  | insert c =>
    obtain ⟨-, -, rfl⟩ := next_insert h
    rfl
  | remove name => exact absurd rfl (hremove name)
  | initFailed =>
    obtain ⟨-, rfl, -⟩ := next_initFailed h
    rfl
  | countUp | countDown | exitIfLast | push =>
    obtain rfl := Option.some.inj h
    exact ht

/-- **A step of a module leaves the callback that is under way as it is**, when
it is the callback of another module, or this one does not go. -/
theorem Underway.moves (hs : Underway bytes s) {m : LcdModule}
    (hpc : s'.loop.pc = s.loop.pc) (hothers : ∀ n, n ≠ m → s'.phase n = s.phase n
      ∧ s'.left n = s.left n)
    (hthis : ∀ client ∈ s.loop.pc.underway, client.name = m.name →
      (s.phase m).inTables = true → (s'.phase m).inTables = true ∧ s'.left m ≠ []) :
    Underway bytes s' where
  client := fun client h => by
    rw [hpc] at h
    obtain ⟨n, hclient, htables, hleft⟩ := hs.client client h
    refine ⟨n, hclient, ?_⟩
    by_cases hn : n = m
    · subst hn
      exact hthis client h (by rw [hclient, LcdModule.client_name]) htables
    · rw [(hothers n hn).1, (hothers n hn).2]
      exact ⟨htables, hleft⟩
  lookup := fun reader dispatch h => hs.lookup reader dispatch (hpc ▸ h)
  call := fun reader callback h => hs.call reader callback (hpc ▸ h)

/-- **The modules keep the invariant.** -/
theorem alive_moduleStep (hs : Alive bytes s) {m : LcdModule} {choice : Bool}
    (hact : s.InTime (.module m choice)) (h : s.moduleStep m choice = some s') :
    Alive bytes s' := by
  have hstays : ∀ {client}, s.gExit = false → client ∈ s.loop.pc.underway →
      client.name = m.name → ¬ s.leaves m choice = true :=
    fun hgExit hclient hname hleaves => hact hgExit hleaves _ hclient hname
  rcases of_moduleStep h with ⟨k, hstep, rfl⟩ | ⟨a, k, hstep, rfl⟩
  · refine ⟨fun hgExit => ?_, fun hgExit => ?_, fun call gone hmem => ?_⟩
    · obtain ⟨u, hu, hk⟩ := Discipline.meets_of_step
        (fun _ => by rw [show s.gExit = false from hgExit]; rfl)
        ((hs.registry hgExit).code m) hstep
      obtain rfl := Option.some.inj hu
      exact (hs.registry hgExit).stays hk rfl rfl rfl rfl rfl
    · refine (hs.underway hgExit).moves rfl
        (fun n hn => ⟨rfl, Function.update_of_ne hn _ _⟩) (fun client hclient hname htables =>
          ⟨htables, fun hnil => hstays hgExit hclient hname ?_⟩)
      have hnil : Function.update s.left m k m = [] := hnil
      rw [Function.update_self] at hnil
      rw [leaves, hstep, hnil]
    · rcases List.mem_append.mp hmem with hmem | hmem
      · unfold passes at hmem
        split at hmem <;> simp at hmem
      · exact hs.log call gone hmem
  · obtain ⟨hpc, hleft, hexit⟩ :=
      perform_frame { s with left := Function.update s.left m k } m a
    have hgExit' : (Threads.perform { s with left := Function.update s.left m k } m a).gExit
        = false → s.gExit = false := by
      intro h
      refine Bool.eq_false_iff.mpr (fun hset => ?_)
      rw [hexit hset] at h
      exact Bool.false_ne_true h.symm
    have hnext : s.gExit = false → ∃ u, Phase.next (m.client bytes) a (s.phase m) = some u
        ∧ (Discipline.registration (m.client bytes)).meetsAll k u = true := fun hgExit =>
      Discipline.meets_of_step (fun _ => by rw [hgExit]; rfl)
        ((hs.registry hgExit).code m) hstep
    refine ⟨fun hgExit => ?_, fun hgExit => ?_, fun call gone hmem => ?_⟩
    · obtain ⟨u, hu, hk⟩ := hnext (hgExit' hgExit)
      exact (hs.registry (hgExit' hgExit)).access hu hk
    · have hgExit := hgExit' hgExit
      obtain ⟨u, hu, hk⟩ := hnext hgExit
      have hphase := phase_perform (k := k) hu
      refine (hs.underway hgExit).moves (m := m) hpc (fun n hn => ⟨?_, ?_⟩)
        (fun client hclient hname htables => ⟨?_, fun hnil => ?_⟩)
      · exact (congrFun hphase n).trans (Function.update_of_ne hn _ _)
      · exact (congrFun hleft n).trans (Function.update_of_ne hn _ _)
      · rw [show (Threads.perform { s with left := Function.update s.left m k } m a).phase m
          = u from (congrFun hphase m).trans (Function.update_self _ _ _)]
        refine inTables_of_next hu htables (fun name hremove => ?_)
        refine hstays hgExit hclient hname ?_
        rw [leaves, hstep, hremove]
      · have hnil : k = [] :=
          (Function.update_self m k s.left).symm.trans ((congrFun hleft m).symm.trans hnil)
        refine hstays hgExit hclient hname ?_
        rw [leaves, hstep, hnil]
        cases a <;> rfl
    · rcases List.mem_cons.mp hmem with hmem | hmem
      · exact absurd hmem (by simp)
      · exact hs.log call gone hmem

/-- The invariant holds when the threads are created. -/
theorem alive_init (bytes : LcdModule → Str) : Alive bytes (init bytes) where
  registry := fun _ => {
    code := LcdModule.meets_run bytes
    inTables := fun m h => absurd h Bool.false_ne_true
    only := fun name client h => absurd h (by simp [init, ServiceLoop.init, ServiceThread.init])
    failed := fun m h => absurd h (by simp [init])
    current := fun client h => absurd h (by simp [init, ServiceLoop.init, ServiceThread.init]) }
  underway := fun _ => underway_of_none (s := init bytes) rfl
  log := fun call gone h => absurd h (by simp [init])

instance (s : Threads) (string : Str) : Decidable (s.LineInTime string) :=
  inferInstanceAs (Decidable (_ ∧ _ ∧ _))

instance (s : Threads) (act : ThreadsAct) : Decidable (s.InTime act) :=
  match act with
  | .service (.received (.line string)) =>
    inferInstanceAs (Decidable (s.gExit = false → s.LineInTime string))
  | .module m choice =>
    inferInstanceAs (Decidable (s.gExit = false → s.leaves m choice = true →
      ∀ client ∈ s.loop.pc.underway, client.name ≠ m.name))
  | .signal | .service .go | .service (.popped _) | .service (.sent _)
  | .service (.received .nothing) | .service (.received .failed) | .service (.packet _) =>
    inferInstanceAs (Decidable (s.gExit = false → True))

/-- **Every callback is called in time and with its cookie**, while `g_exit` is
not set and no step chooses a client that is gone or goes. -/
theorem alive_of_reachableBy {bytes : LcdModule → Str} {s : Threads}
    (hs : (system bytes).ReachableBy InTime s) :
    ∀ call gone, .callback call gone false ∈ s.log → gone = false ∧ call.data ≠ none := by
  have hI : Alive bytes s := by
    refine hs.invariant _ (alive_init bytes) (fun s act s' hI hact hstep => ?_)
    cases act with
    | signal =>
      obtain rfl := Option.some.inj hstep
      exact ⟨fun h => absurd h (by simp), fun h => absurd h (by simp), hI.log⟩
    | service input => exact alive_serviceStep hI hact hstep
    | module m choice => exact alive_moduleStep hI hact hstep
  exact hI.log

/-- A key is passed on to a module that has registered. -/
theorem alive_of_reachableBy_key :
    ∃ s, (system fun _ => []).ReachableBy InTime s
      ∧ .callback ⟨rssClient [], .key "Up".toList, some .rss⟩ false false ∈ s.log
      ∧ ∀ call gone, .callback call gone false ∈ s.log → gone = false ∧ call.data ≠ none := by
  let sys := system fun _ => []
  let sends : List ThreadsAct := [.service .go,
    .service (.popped (some "screen_add rss \n".toList)), .service (.sent true)]
  let run := sys.replay InTime sys.init (List.replicate 40 (.module .rss false) ++ sends
    ++ [.service (.received (.line "listen rss".toList)),
      .service (.received (.line "key Up".toList)), .service .go, .service .go])
  have hrun : run.map (fun s => decide
      (.callback ⟨rssClient [], .key "Up".toList, some .rss⟩ false false ∈ s.log))
      = some true := by decide +kernel
  obtain ⟨s, hs, hlog⟩ := StepSystem.exists_reachableBy_of_replay hrun
  exact ⟨s, hs, of_decide_eq_true hlog, alive_of_reachableBy hs⟩

/-- The init function of a module fails, and a key is passed on to it. -/
theorem not_forall_alive :
    ¬ ∀ (bytes : LcdModule → Str) (s : Threads), (system bytes).Reachable s →
      ∀ call gone, .callback call gone false ∈ s.log → gone = false ∧ call.data ≠ none := by
  intro h
  let sys := system fun _ => []
  let fails : List ThreadsAct := List.replicate 29 (.module .rss false)
    ++ List.replicate 5 (.module .rss true)
  let sends : List ThreadsAct := [.service .go,
    .service (.popped (some "screen_add rss \n".toList)), .service (.sent true)]
  let run := sys.replayAny sys.init (fails ++ sends
    ++ [.service (.received (.line "listen rss".toList)),
      .service (.received (.line "key Up".toList)), .service .go, .service .go])
  have hrun : run.map (fun s => decide
      (.callback ⟨rssClient [], .key "Up".toList, some .rss⟩ true false ∈ s.log))
      = some true := by decide +kernel
  obtain ⟨s, hs, hlog⟩ := StepSystem.exists_reachableBy_of_replay hrun
  exact absurd (h _ s hs _ _ (of_decide_eq_true hlog)).1 (by decide)

end Threads
