import LcdStuff.CString

/-!
# The service thread as a dispatcher

The modules register as clients under a name, each with a cookie that its
callbacks get back. What arrives from the LCDproc server (`listen`, `ignore`,
`key` and `menuevent` lines) and from the remote interface (packets that begin
with a client's name) is handed to one of those callbacks by the service
thread.

A callback is called in three steps, and other threads run between them: the
client is selected, its cookie is looked up, and then the function is called.
A `Dispatch` is what is known after the first step. It keeps under which key
the cookie is looked up, because the five handlers do not all use the same
one: the menu handler passes the address of the client where the others pass
its name, so the table is searched for whatever string the bytes of the
structure happen to spell (`Client.bytes`).
-/

/-- `struct client`. Of the callbacks only matters which of them are set. -/
structure Client where
  /-- `name` -/
  name : Str
  /-- What the memory of the structure reads as, taken for a string. -/
  bytes : Str
  /-- `key_callback` is set. -/
  keyCallback : Bool
  /-- `listen_callback` is set. -/
  listenCallback : Bool
  /-- `ignore_callback` is set. -/
  ignoreCallback : Bool
  /-- `menu_callback` is set. -/
  menuCallback : Bool
  /-- `net_callback` is set. -/
  netCallback : Bool
  deriving DecidableEq, Repr

/-! The clients of the modules; the bytes of a structure differ from run to run. -/

/-- `mpd_client` of `mplayer.c` -/
def mplayerClient (bytes : Str) : Client :=
  ⟨"mplayer".toList, bytes, true, false, false, true, true⟩

/-- `rss_client` -/
def rssClient (bytes : Str) : Client :=
  ⟨"rss".toList, bytes, true, false, true, false, false⟩

/-- `mail_client` -/
def mailClient (bytes : Str) : Client :=
  ⟨"mail".toList, bytes, true, false, true, false, false⟩

/-- `weather_client` -/
def weatherClient (bytes : Str) : Client :=
  ⟨"weather".toList, bytes, false, false, false, false, false⟩

/-- `mpd_client` of `mpd.c` -/
def mpdClient (bytes : Str) : Client :=
  ⟨"mpd".toList, bytes, true, false, false, true, false⟩

/-- **What a callback is called with**, next to the cookie; a string that is
`NULL` is `none`. -/
inductive Event where
  /-- `key_callback (key, data)` -/
  | key (key : Str)
  /-- `listen_callback (data)` -/
  | listen
  /-- `ignore_callback (data)` -/
  | ignore
  /-- `menu_callback (event, id, arg, data)` -/
  | menu (event : Str) (id : Option Str) (arg : Str)
  /-- `net_callback (args, fd, data)` -/
  | net (args : List Str)
  deriving DecidableEq, Repr

/-- The client has a callback for the event. -/
def Client.handles (client : Client) : Event → Bool
  | .key _ => client.keyCallback
  | .listen => client.listenCallback
  | .ignore => client.ignoreCallback
  | .menu .. => client.menuCallback
  | .net _ => client.netCallback

/-- **Every string a callback gets is there and was taken from the line**, or
is the empty string. -/
def Event.FromLine (line : Str) : Event → Prop
  | .key str => str <:+: line
  | .listen => True
  | .ignore => True
  | .menu event id arg =>
    event <:+: line ∧ (∃ s, id = some s ∧ s <:+: line) ∧ (arg <:+: line ∨ arg = [])
  | .net args => ∀ arg ∈ args, arg <:+: line

/-- **A callback about to be called**: the client and the event are selected,
the cookie is still to be looked up. -/
structure Dispatch where
  /-- The client that was selected. -/
  client : Client
  /-- What its callback will be called with. -/
  event : Event
  /-- The key its cookie will be looked up under. -/
  dataKey : Str
  deriving DecidableEq, Repr

/-- **A callback that was called**, with a cookie of type `β`, or `NULL`. -/
structure Callback (β : Type) where
  /-- The client whose callback it is. -/
  client : Client
  /-- What it was called with. -/
  event : Event
  /-- The cookie it was called with. -/
  data : Option β
  deriving DecidableEq, Repr

/-- The tables of `struct service_thread`, by the strings that are their keys,
and its `current` client. -/
structure ServiceThread (β : Type) where
  /-- `clients` -/
  clients : Str → Option Client
  /-- `client_data`; a cookie that is `NULL` is found like none. -/
  clientData : Str → Option β
  /-- `current` -/
  current : Option Client
  /-- `client_number` -/
  clientNumber : Int

/-- `enum ProcessResponse` -/
inductive ProcessResponse where
  /-- `PR_SUCCESS` -/
  | success
  /-- `PR_FAILURE` -/
  | failure
  /-- `PR_CALLBACK` -/
  | callback
  /-- `PR_ERR_MISC` -/
  | errMisc
  /-- `PR_INVALID` -/
  | invalid
  deriving DecidableEq, Repr

namespace ServiceThread

variable {β : Type}

/-- What `service_thread_init` leaves: no client. -/
def init : ServiceThread β := ⟨fun _ => none, fun _ => none, none, 0⟩

/-- The insertions of `service_thread_register_client`, under the mutex. -/
def insertClient (svc : ServiceThread β) (client : Client) (cookie : Option β) :
    ServiceThread β :=
  { svc with
    clients := Function.update svc.clients client.name (some client)
    clientData := Function.update svc.clientData client.name cookie }

/-- The removals of `service_thread_unregister_client`, under the mutex. -/
def removeClient (svc : ServiceThread β) (name : Str) : ServiceThread β :=
  { svc with
    clients := Function.update svc.clients name none
    clientData := Function.update svc.clientData name none }

/-- `service_thread_register_client`, with `g_exit` as it is. -/
def registerClient (gExit : Bool) (svc : ServiceThread β) (client : Client)
    (cookie : Option β) : ServiceThread β :=
  if gExit then svc
  else { svc.insertClient client cookie with clientNumber := svc.clientNumber + 1 }

/-- `service_thread_unregister_client`, and what it leaves in `g_exit`. -/
def unregisterClient (gExit : Bool) (svc : ServiceThread β) (name : Str) :
    ServiceThread β × Bool :=
  if gExit then (svc, gExit)
  else ({ svc.removeClient name with clientNumber := svc.clientNumber - 1 },
    decide (svc.clientNumber - 1 = 0))

/-! ## From a line to a callback -/

/-- `key_handler` up to the lookup of the cookie. -/
def keyHandler (svc : ServiceThread β) (key : Str) : Option Dispatch :=
  match svc.current with
  | none => none
  | some client =>
    if client.keyCallback then some ⟨client, .key key, client.name⟩ else none

/-- `ignore_handler` up to the lookup of the cookie. The screen that the line
names is only reported. -/
def ignoreHandler (svc : ServiceThread β) (_screen : Str) : Option Dispatch :=
  match svc.current with
  | none => none
  | some client =>
    if client.ignoreCallback then some ⟨client, .ignore, client.name⟩ else none

/-- `listen_handler` up to the lookup of the cookie. -/
def listenHandler (svc : ServiceThread β) (screen : Str) :
    ServiceThread β × Option Dispatch :=
  let svc := { svc with current := svc.clients screen }
  (svc, match svc.current with
    | none => none
    | some client =>
      if client.listenCallback then some ⟨client, .listen, screen⟩ else none)

/-- `argc == 4 ? argv[3] : ""` -/
def menuArg (argv : List Str) : Except Fault Str :=
  if argv.length = 4 then readAt argv 3 else .ok []

/-- The part of `lcd_process_response` for `menuevent`, up to the lookup of the
cookie, which is under the address of the client. -/
def menueventHandler (svc : ServiceThread β) (argv : List Str) :
    Except Fault (Option Dispatch) := do
  let argv2 ← readAt argv 2
  let id := gStrsplit argv2 "_".toList 2
  let name ← readAt id 0
  match svc.clients name with
  | none => return none
  | some client =>
    if client.menuCallback then do
      let event ← readAt argv 1
      let arg ← menuArg argv
      return some ⟨client, .menu event id[1]? arg, client.bytes⟩
    else return none

/-- `lcd_process_response` up to the lookup of the cookie: its result, the
`current` client it leaves, and the callback that is to be called. -/
def lcdDispatch (svc : ServiceThread β) (string : Str) :
    Except Fault (ProcessResponse × ServiceThread β × Option Dispatch) :=
  let argv := getArgs string 10
  if argv.length < 1 then .ok (.errMisc, svc, none)
  else do
    let argv0 ← readAt argv 0
    if argv0 = "key".toList then do
      let key ← readAt argv 1
      return (.callback, svc, svc.keyHandler key)
    else if argv0 = "listen".toList then do
      let screen ← readAt argv 1
      return (.callback, svc.listenHandler screen)
    else if argv0 = "ignore".toList then do
      let screen ← readAt argv 1
      return (.callback, svc, svc.ignoreHandler screen)
    else if argv0 = "success".toList then return (.success, svc, none)
    else if argv0 = "noop".toList then return (.success, svc, none)
    else if argv0 = "huh?".toList then return (.failure, svc, none)
    else if argv0 = "menuevent".toList then do
      let dispatch ← svc.menueventHandler argv
      return (.callback, svc, dispatch)
    else return (.invalid, svc, none)

/-- The end of every handler: the cookie is looked up and the callback is
called. -/
def invoke (svc : ServiceThread β) (dispatch : Dispatch) : Callback β :=
  ⟨dispatch.client, dispatch.event, svc.clientData dispatch.dataKey⟩

/-- `lcd_process_response`: its result, the `current` client it leaves, and the
callback it has called. -/
def lcdProcessResponse (svc : ServiceThread β) (string : Str) :
    Except Fault (ProcessResponse × ServiceThread β × Option (Callback β)) := do
  let (response, svc', dispatch) ← svc.lcdDispatch string
  return (response, svc', dispatch.map svc'.invoke)

/-- `check_for_net_input` on what was read, up to the lookup of the cookie. -/
def netDispatch (svc : ServiceThread β) (buffer : Str) : Option Dispatch :=
  match gStrsplit buffer " ".toList 0 with
  | [] => none
  | name :: args =>
    match svc.clients name with
    | none => none
    | some client =>
      if client.netCallback then some ⟨client, .net args, client.name⟩ else none

/-- `check_for_net_input` on what was read: the callback it has called. -/
def checkForNetInput (svc : ServiceThread β) (buffer : Str) : Option (Callback β) :=
  (svc.netDispatch buffer).map svc.invoke

end ServiceThread

/-! ## What the dispatcher does with a line -/

namespace ServiceThread

variable {β : Type} (svc : ServiceThread β)

/-- A key goes to the current client, with the cookie of that client's name. -/
theorem of_keyHandler {key : Str} {d : Dispatch} (h : svc.keyHandler key = some d) :
    svc.current = some d.client ∧ d.client.keyCallback = true ∧ d.event = .key key
      ∧ d.dataKey = d.client.name := by
  unfold keyHandler at h
  split at h
  · exact absurd h (by simp)
  · next client hclient =>
    split at h
    · next hcallback =>
      obtain rfl := Option.some.inj h
      exact ⟨hclient, hcallback, rfl, rfl⟩
    · exact absurd h (by simp)

/-- `ignore` goes to the current client, whichever screen it names. -/
theorem of_ignoreHandler {screen : Str} {d : Dispatch}
    (h : svc.ignoreHandler screen = some d) :
    svc.current = some d.client ∧ d.client.ignoreCallback = true ∧ d.event = .ignore
      ∧ d.dataKey = d.client.name := by
  unfold ignoreHandler at h
  split at h
  · exact absurd h (by simp)
  · next client hclient =>
    split at h
    · next hcallback =>
      obtain rfl := Option.some.inj h
      exact ⟨hclient, hcallback, rfl, rfl⟩
    · exact absurd h (by simp)

/-- `listen` goes to the client of the screen, which becomes the current one. -/
theorem of_listenHandler {screen : Str} {d : Dispatch}
    (h : (svc.listenHandler screen).2 = some d) :
    svc.clients screen = some d.client ∧ d.client.listenCallback = true
      ∧ d.event = .listen ∧ d.dataKey = screen := by
  unfold listenHandler at h
  dsimp only at h
  split at h
  · exact absurd h (by simp)
  · next client hclient =>
    split at h
    · next hcallback =>
      obtain rfl := Option.some.inj h
      exact ⟨hclient, hcallback, rfl, rfl⟩
    · exact absurd h (by simp)

/-- A packet goes to the client of its first word, with the cookie of that
client's name. -/
theorem of_netDispatch {buffer : Str} {d : Dispatch} (h : svc.netDispatch buffer = some d) :
    ∃ name args, gStrsplit buffer " ".toList 0 = name :: args
      ∧ svc.clients name = some d.client ∧ d.client.netCallback = true
      ∧ d.event = .net args ∧ d.dataKey = d.client.name := by
  unfold netDispatch at h
  split at h
  · exact absurd h (by simp)
  · next name args hsplit =>
    split at h
    · exact absurd h (by simp)
    · next client hclient =>
      split at h
      · next hcallback =>
        obtain rfl := Option.some.inj h
        exact ⟨name, args, hsplit, hclient, hcallback, rfl, rfl⟩
      · exact absurd h (by simp)

/-- What `menuevent` does with an item whose id is split. -/
theorem menueventHandler_eq {argv : List Str} {item name : Str} {rest : List Str}
    (hitem : argv[2]? = some item) (hsplit : gStrsplit item "_".toList 2 = name :: rest) :
    svc.menueventHandler argv = (match svc.clients name with
      | none => .ok none
      | some client =>
        if client.menuCallback then do
          let event ← readAt argv 1
          let arg ← menuArg argv
          return some ⟨client, .menu event rest[0]? arg, client.bytes⟩
        else .ok none) := by
  unfold menueventHandler
  rw [show readAt argv 2 = .ok item from readAt_of_getElem? (i := 2) hitem]
  dsimp only [bind, Except.bind]
  rw [hsplit, show readAt (name :: rest) 0 = .ok name from readAt_of_getElem? (i := 0) rfl]
  rfl

/-- A menu event goes to the client whose name is in front of the first
underscore of the item's id, with a cookie looked up under that client's
address. -/
theorem of_menueventHandler {argv : List Str} {d : Dispatch}
    (h : svc.menueventHandler argv = .ok (some d)) :
    ∃ event item name rest arg, argv[1]? = some event ∧ argv[2]? = some item
      ∧ gStrsplit item "_".toList 2 = name :: rest ∧ svc.clients name = some d.client
      ∧ d.client.menuCallback = true ∧ (arg ∈ argv ∨ arg = [])
      ∧ d.event = .menu event rest[0]? arg ∧ d.dataKey = d.client.bytes := by
  have hread := h
  unfold menueventHandler at hread
  obtain ⟨item, hitem, hread⟩ := bind_eq_ok_iff.mp hread
  obtain ⟨_, hname, -⟩ := bind_eq_ok_iff.mp hread
  have hitem := getElem?_of_readAt (i := 2) hitem
  obtain ⟨name, rest, hsplit⟩ := List.exists_cons_of_ne_nil
    (List.ne_nil_of_mem (mem_of_readAt hname))
  rw [menueventHandler_eq svc hitem hsplit] at h
  cases hclient : svc.clients name with
  | none =>
    rw [hclient] at h
    exact absurd (Except.ok.inj h) (by simp)
  | some client =>
    rw [hclient] at h
    dsimp only at h
    split at h
    · next hcallback =>
      obtain ⟨event, hevent, h⟩ := bind_eq_ok_iff.mp h
      obtain ⟨arg, harg, h⟩ := bind_eq_ok_iff.mp h
      obtain rfl := Option.some.inj (Except.ok.inj h)
      refine ⟨event, item, name, rest, arg, getElem?_of_readAt hevent, hitem, hsplit,
        hclient, hcallback, ?_, rfl, rfl⟩
      unfold menuArg at harg
      split at harg
      · exact .inl (mem_of_readAt harg)
      · exact .inr (Except.ok.inj harg).symm
    · exact absurd (Except.ok.inj h) (by simp)

/-- The first words of the lines that call a callback. -/
def eventWords : List Str :=
  ["key".toList, "listen".toList, "ignore".toList, "menuevent".toList]

variable {string : Str}

/-- The first word of a line is there to be read. -/
theorem lcdDispatch_of_word {argv0 : Str} (h : (getArgs string 10)[0]? = some argv0) :
    ¬ (getArgs string 10).length < 1 ∧ readAt (getArgs string 10) 0 = .ok argv0 := by
  obtain ⟨hlt, _⟩ := List.getElem?_eq_some_iff.mp h
  exact ⟨by omega, readAt_of_getElem? h⟩

/-- A `key` line. -/
theorem lcdDispatch_key (h : (getArgs string 10)[0]? = some "key".toList) :
    svc.lcdDispatch string = (do
      let key ← readAt (getArgs string 10) 1
      return (.callback, svc, svc.keyHandler key)) := by
  obtain ⟨hlen, hread⟩ := lcdDispatch_of_word h
  unfold lcdDispatch
  dsimp only
  rw [if_neg hlen, hread]
  rfl

/-- A `listen` line. -/
theorem lcdDispatch_listen (h : (getArgs string 10)[0]? = some "listen".toList) :
    svc.lcdDispatch string = (do
      let screen ← readAt (getArgs string 10) 1
      return (.callback, svc.listenHandler screen)) := by
  obtain ⟨hlen, hread⟩ := lcdDispatch_of_word h
  unfold lcdDispatch
  dsimp only
  rw [if_neg hlen, hread]
  rfl

/-- An `ignore` line. -/
theorem lcdDispatch_ignore (h : (getArgs string 10)[0]? = some "ignore".toList) :
    svc.lcdDispatch string = (do
      let screen ← readAt (getArgs string 10) 1
      return (.callback, svc, svc.ignoreHandler screen)) := by
  obtain ⟨hlen, hread⟩ := lcdDispatch_of_word h
  unfold lcdDispatch
  dsimp only
  rw [if_neg hlen, hread]
  rfl

/-- A `menuevent` line. -/
theorem lcdDispatch_menuevent (h : (getArgs string 10)[0]? = some "menuevent".toList) :
    svc.lcdDispatch string = (do
      let dispatch ← svc.menueventHandler (getArgs string 10)
      return (.callback, svc, dispatch)) := by
  obtain ⟨hlen, hread⟩ := lcdDispatch_of_word h
  unfold lcdDispatch
  dsimp only
  rw [if_neg hlen, hread]
  rfl

/-- The words of the line for a selected item. -/
theorem getArgs_select {menu : Str} (hmenu : menu.all (· ∉ [' ', '\n']) = true) (no : Int) :
    getArgs ("menuevent select ".toList ++ (menu ++ '_' :: decimal no)) 10
      = ["menuevent".toList, "select".toList, menu ++ '_' :: decimal no] := by
  have hline : "menuevent select ".toList ++ (menu ++ '_' :: decimal no) = "menuevent".toList
      ++ ' ' :: ("select".toList ++ ' ' :: (menu ++ '_' :: decimal no)) := rfl
  have hno : (decimal no).all (· ∉ [' ', '\n']) = true := by
    refine List.all_eq_true.mpr (fun c hc => decide_eq_true (fun hblank => ?_))
    exact notMem_of_mem_decimal hc (List.mem_append_left ['_'] hblank)
  have hitem : (menu ++ '_' :: decimal no).all (· ∉ [' ', '\n']) = true := by
    rw [List.all_append, hmenu, List.all_cons, hno]
    rfl
  unfold getArgs
  rw [hline, strtok_append_cons (by decide) (by decide) (by decide),
    strtok_append_cons (by decide) (by decide) (by decide),
    strtok_word (List.append_ne_nil_of_right_ne_nil _ (List.cons_ne_nil _ _)) hitem]
  rfl

/-- **A selected item goes to the client whose name its own begins with**, without
that name. -/
theorem lcdDispatch_select (name menu : Str) (hname : name.all (· ∉ [' ', '\n', '_']) = true)
    (hmenu : menu.all (· ∉ [' ', '\n']) = true) (no : Int) :
    svc.lcdDispatch ("menuevent select ".toList ++ (name ++ '_' :: menu ++ '_' :: decimal no))
      = .ok (.callback, svc, (svc.clients name).bind (fun client =>
        if client.menuCallback then
          some ⟨client, .menu "select".toList (some (menu ++ '_' :: decimal no)) [], client.bytes⟩
        else none)) := by
  have hname : ∀ c ∈ name, c ∉ [' ', '\n', '_'] :=
    fun c hc => of_decide_eq_true (List.all_eq_true.mp hname c hc)
  have hwords : (name ++ '_' :: menu).all (· ∉ [' ', '\n']) = true := by
    rw [List.all_append, List.all_cons, hmenu, Bool.and_true]
    refine Bool.and_eq_true_iff.mpr ⟨List.all_eq_true.mpr (fun c hc => decide_eq_true ?_), rfl⟩
    exact fun hblank => hname c hc (List.mem_append_left ['_'] hblank)
  have hargs := getArgs_select hwords no
  have hsplit : gStrsplit (name ++ '_' :: menu ++ '_' :: decimal no) "_".toList 2
      = [name, menu ++ '_' :: decimal no] := by
    rw [List.append_assoc]
    exact gStrsplit_two_append (fun hmem => hname '_' hmem (by decide))
  have hitem : ["menuevent".toList, "select".toList, name ++ '_' :: menu ++ '_' :: decimal no][2]?
      = some (name ++ '_' :: menu ++ '_' :: decimal no) := rfl
  rw [svc.lcdDispatch_menuevent (by rw [hargs]; rfl), hargs, svc.menueventHandler_eq hitem hsplit]
  cases svc.clients name with
  | none => rfl
  | some client =>
    dsimp only [Option.bind_some]
    cases client.menuCallback <;> rfl

/-- Any other line calls nothing and leaves the current client. -/
theorem lcdDispatch_reply
    (h : ∀ argv0, (getArgs string 10)[0]? = some argv0 → argv0 ∉ eventWords) :
    ∃ response, response ≠ .callback ∧ svc.lcdDispatch string = .ok (response, svc, none) := by
  unfold lcdDispatch
  dsimp only
  by_cases hlen : (getArgs string 10).length < 1
  · rw [if_pos hlen]
    exact ⟨.errMisc, by decide, rfl⟩
  · have hargv0 : (getArgs string 10)[0]? = some (getArgs string 10)[0] :=
      List.getElem?_eq_getElem (by omega)
    have hnot := h _ hargv0
    simp only [eventWords, List.mem_cons, List.not_mem_nil, or_false, not_or] at hnot
    obtain ⟨hkey, hlisten, hignore, hmenuevent⟩ := hnot
    rw [if_neg hlen, (lcdDispatch_of_word hargv0).2]
    dsimp only [bind, Except.bind]
    rw [if_neg hkey, if_neg hlisten, if_neg hignore, if_neg hmenuevent]
    split
    · exact ⟨.success, by decide, rfl⟩
    split
    · exact ⟨.success, by decide, rfl⟩
    split
    · exact ⟨.failure, by decide, rfl⟩
    exact ⟨.invalid, by decide, rfl⟩

/-- **What a line does**: it is a key, a `listen`, an `ignore` or a menu event
for the handler of its first word, or it is a reply that calls nothing. -/
inductive Handling (argv : List Str) :
    ProcessResponse → ServiceThread β → Option Dispatch → Prop
  /-- `key` -/
  | key {key : Str} : argv[0]? = some "key".toList → argv[1]? = some key →
      Handling argv .callback svc (svc.keyHandler key)
  /-- `listen` -/
  | listen {screen : Str} : argv[0]? = some "listen".toList → argv[1]? = some screen →
      Handling argv .callback (svc.listenHandler screen).1 (svc.listenHandler screen).2
  /-- `ignore` -/
  | ignore {screen : Str} : argv[0]? = some "ignore".toList → argv[1]? = some screen →
      Handling argv .callback svc (svc.ignoreHandler screen)
  /-- `menuevent` -/
  | menuevent {dispatch : Option Dispatch} : argv[0]? = some "menuevent".toList →
      svc.menueventHandler argv = .ok dispatch → Handling argv .callback svc dispatch
  /-- `success`, `noop`, `huh?`, no word at all, or another one -/
  | reply {response : ProcessResponse} :
      (∀ argv0, argv[0]? = some argv0 → argv0 ∉ eventWords) → response ≠ .callback →
      Handling argv response svc none

/-- No line changes the number of clients. -/
theorem Handling.clientNumber_eq {argv : List Str} {response : ProcessResponse}
    {svc' : ServiceThread β} {dispatch : Option Dispatch}
    (h : svc.Handling argv response svc' dispatch) : svc'.clientNumber = svc.clientNumber := by
  cases h <;> rfl

/-- **The inversion of `lcd_process_response`.** -/
theorem handling_of_lcdDispatch {response : ProcessResponse} {svc' : ServiceThread β}
    {dispatch : Option Dispatch}
    (h : svc.lcdDispatch string = .ok (response, svc', dispatch)) :
    svc.Handling (getArgs string 10) response svc' dispatch := by
  by_cases hword : ∃ argv0, (getArgs string 10)[0]? = some argv0 ∧ argv0 ∈ eventWords
  · obtain ⟨argv0, hargv0, hmem⟩ := hword
    simp only [eventWords, List.mem_cons, List.not_mem_nil, or_false] at hmem
    rcases hmem with rfl | rfl | rfl | rfl
    · rw [lcdDispatch_key svc hargv0] at h
      obtain ⟨key, hread, h⟩ := bind_eq_ok_iff.mp h
      cases Except.ok.inj h
      exact .key hargv0 (getElem?_of_readAt hread)
    · rw [lcdDispatch_listen svc hargv0] at h
      obtain ⟨screen, hread, h⟩ := bind_eq_ok_iff.mp h
      cases Except.ok.inj h
      exact .listen hargv0 (getElem?_of_readAt hread)
    · rw [lcdDispatch_ignore svc hargv0] at h
      obtain ⟨screen, hread, h⟩ := bind_eq_ok_iff.mp h
      cases Except.ok.inj h
      exact .ignore hargv0 (getElem?_of_readAt hread)
    · rw [lcdDispatch_menuevent svc hargv0] at h
      obtain ⟨dispatch, hmenu, h⟩ := bind_eq_ok_iff.mp h
      cases Except.ok.inj h
      exact .menuevent hargv0 hmenu
  · have hreply : ∀ argv0, (getArgs string 10)[0]? = some argv0 → argv0 ∉ eventWords :=
      fun argv0 hargv0 hmem => hword ⟨argv0, hargv0, hmem⟩
    obtain ⟨response, hresponse, heq⟩ := lcdDispatch_reply svc hreply
    rw [heq] at h
    cases Except.ok.inj h
    exact .reply hreply hresponse

/-- A response is a dispatch whose callback is called at once. -/
theorem of_lcdProcessResponse {response : ProcessResponse} {svc' : ServiceThread β}
    {call : Option (Callback β)}
    (h : svc.lcdProcessResponse string = .ok (response, svc', call)) :
    ∃ dispatch, svc.lcdDispatch string = .ok (response, svc', dispatch)
      ∧ call = dispatch.map svc'.invoke := by
  obtain ⟨⟨response, svc', dispatch⟩, hdispatch, h⟩ := bind_eq_ok_iff.mp h
  cases Except.ok.inj h
  exact ⟨dispatch, hdispatch, rfl⟩

/-! ## Reading no more than the line -/

/-- **The line has the words its kind needs**: two for a key, a `listen` or an
`ignore`; three for a menu event, the third with an underscore in it unless it
names no client that has a menu. -/
def Complete (argv : List Str) : Prop :=
  (argv[0]? = some "key".toList ∨ argv[0]? = some "listen".toList
      ∨ argv[0]? = some "ignore".toList → 2 ≤ argv.length)
    ∧ (argv[0]? = some "menuevent".toList → ∃ item, argv[2]? = some item
      ∧ ('_' ∈ item ∨ ∀ client, svc.clients item = some client →
        client.menuCallback = false))

/-- The last argument of a menu event is always there. -/
theorem exists_menuArg (argv : List Str) : ∃ arg, menuArg argv = .ok arg := by
  unfold menuArg
  split
  · next hlen =>
    exact (readAt_isOk_iff argv 3).mpr ⟨by omega, by omega⟩
  · exact ⟨[], rfl⟩

/-- A menu event with three words is looked at without a fault. -/
theorem exists_menueventHandler {argv : List Str} {item : Str} (hitem : argv[2]? = some item)
    (hne : item ≠ []) : ∃ dispatch, svc.menueventHandler argv = .ok dispatch := by
  obtain ⟨name, rest, hsplit⟩ : ∃ name rest, gStrsplit item "_".toList 2 = name :: rest := by
    rcases gStrsplit_two (c := '_') hne with ⟨-, hsplit⟩ | ⟨a, b, -, hsplit⟩
    · exact ⟨item, [], hsplit⟩
    · exact ⟨a, [b], hsplit⟩
  rw [menueventHandler_eq svc hitem hsplit]
  cases svc.clients name with
  | none => exact ⟨none, rfl⟩
  | some client =>
    dsimp only
    split
    · have hlt : 2 < argv.length := (List.getElem?_eq_some_iff.mp hitem).1
      obtain ⟨event, hevent⟩ := (readAt_isOk_iff argv 1).mpr ⟨by omega, by omega⟩
      obtain ⟨arg, harg⟩ := exists_menuArg argv
      rw [hevent, harg]
      exact ⟨_, rfl⟩
    · exact ⟨none, rfl⟩

/-- **When a menu event is read**: with three words, of which the third has an
underscore or names no client that has a menu, it gives a callback with
strings of the line, or none. -/
theorem menueventHandler_fromLine_iff {line : Str} {argv : List Str}
    (hargv : ∀ arg ∈ argv, arg <:+: line ∧ arg ≠ []) :
    (∃ dispatch, svc.menueventHandler argv = .ok dispatch
        ∧ ∀ d ∈ dispatch, d.event.FromLine line)
      ↔ ∃ item, argv[2]? = some item
        ∧ ('_' ∈ item ∨ ∀ client, svc.clients item = some client →
          client.menuCallback = false) := by
  constructor
  · rintro ⟨dispatch, hmenu, hline⟩
    have hread := hmenu
    unfold menueventHandler at hread
    obtain ⟨item, hitem, -⟩ := bind_eq_ok_iff.mp hread
    have hitem := getElem?_of_readAt (i := 2) hitem
    refine ⟨item, hitem, ?_⟩
    obtain ⟨-, hne⟩ := hargv item (List.mem_of_getElem? hitem)
    rcases gStrsplit_two (c := '_') hne with ⟨-, hsplit⟩ | ⟨a, b, rfl, -⟩
    · -- the id has no second half, and the callback would get a `NULL` for it
      refine .inr (fun client hclient => ?_)
      by_contra hcallback
      rw [menueventHandler_eq svc hitem hsplit, hclient] at hmenu
      dsimp only at hmenu
      rw [if_pos (by simpa using hcallback)] at hmenu
      obtain ⟨event, -, hmenu⟩ := bind_eq_ok_iff.mp hmenu
      obtain ⟨arg, -, hmenu⟩ := bind_eq_ok_iff.mp hmenu
      obtain rfl := Except.ok.inj hmenu
      obtain ⟨-, ⟨s, hs, -⟩, -⟩ := hline _ rfl
      exact absurd hs (by simp)
    · exact .inl (by simp)
  · rintro ⟨item, hitem, hcase⟩
    obtain ⟨hpart, hne⟩ := hargv item (List.mem_of_getElem? hitem)
    obtain ⟨name, rest, hsplit, hrest⟩ : ∃ name rest,
        gStrsplit item "_".toList 2 = name :: rest
          ∧ ((∃ b, rest = [b] ∧ b <:+: line) ∨ '_' ∉ item ∧ name = item) := by
      rcases gStrsplit_two (c := '_') hne with ⟨hnot, hsplit⟩ | ⟨a, b, rfl, hsplit⟩
      · exact ⟨item, [], hsplit, .inr ⟨hnot, rfl⟩⟩
      · exact ⟨a, [b], hsplit, .inl ⟨b, rfl, List.IsInfix.trans
          (List.suffix_append _ b).isInfix hpart⟩⟩
    cases hclient : svc.clients name with
    | none =>
      refine ⟨none, ?_, fun _ hd => absurd hd (by simp)⟩
      rw [menueventHandler_eq svc hitem hsplit, hclient]
    | some client =>
      by_cases hcallback : client.menuCallback = true
      · obtain ⟨arg, harg⟩ := exists_menuArg argv
        have hlt : 2 < argv.length := (List.getElem?_eq_some_iff.mp hitem).1
        obtain ⟨event, hevent⟩ := (readAt_isOk_iff argv 1).mpr ⟨by omega, by omega⟩
        have heq : svc.menueventHandler argv
            = .ok (some ⟨client, .menu event rest[0]? arg, client.bytes⟩) := by
          rw [menueventHandler_eq svc hitem hsplit, hclient]
          dsimp only
          rw [if_pos hcallback, hevent, harg]
          rfl
        refine ⟨_, heq, fun d hd => ?_⟩
        obtain rfl := Option.some.inj hd
        refine ⟨(hargv event (mem_of_readAt hevent)).1, ?_, ?_⟩
        · rcases hrest with ⟨b, rfl, hb⟩ | ⟨hnot, rfl⟩
          · exact ⟨b, rfl, hb⟩
          · exact absurd hcallback (by simp [hcase.resolve_left hnot client hclient])
        · unfold menuArg at harg
          split at harg
          · exact .inl (hargv arg (mem_of_readAt harg)).1
          · exact .inr (Except.ok.inj harg).symm
      · refine ⟨none, ?_, fun _ hd => absurd hd (by simp)⟩
        rw [menueventHandler_eq svc hitem hsplit, hclient]
        dsimp only
        rw [if_neg hcallback]

/-- Another word is there to be read exactly when there are two. -/
theorem exists_readAt_one_iff (argv : List Str) :
    (∃ arg, readAt argv 1 = .ok arg) ↔ 2 ≤ argv.length := by
  rw [readAt_isOk_iff]
  omega

/-- Every dispatch of a key, a `listen` or an `ignore` stays within its line. -/
theorem exists_lcdDispatch_fromLine {argv0 arg : Str}
    (hargv0 : (getArgs string 10)[0]? = some argv0)
    (hword : argv0 = "key".toList ∨ argv0 = "listen".toList ∨ argv0 = "ignore".toList)
    (harg : readAt (getArgs string 10) 1 = .ok arg) :
    ∃ response svc' dispatch, svc.lcdDispatch string = .ok (response, svc', dispatch)
      ∧ ∀ d ∈ dispatch, d.event.FromLine string := by
  rcases hword with rfl | rfl | rfl
  · refine ⟨_, _, _, (lcdDispatch_key svc hargv0).trans (by rw [harg]; rfl), fun d hd => ?_⟩
    rw [(of_keyHandler svc hd).2.2.1]
    exact (of_mem_getArgs (mem_of_readAt harg)).1
  · refine ⟨_, _, _, (lcdDispatch_listen svc hargv0).trans (by rw [harg]; rfl),
      fun d hd => ?_⟩
    rw [(of_listenHandler svc hd).2.2.1]
    trivial
  · refine ⟨_, _, _, (lcdDispatch_ignore svc hargv0).trans (by rw [harg]; rfl),
      fun d hd => ?_⟩
    rw [(of_ignoreHandler svc hd).2.2.1]
    trivial

/-- **When `lcd_process_response` stays within its line**: exactly when the
line has the words its kind needs. Then every word it reads is one that
`get_args` has stored, and every string a callback gets was taken from the
line. -/
theorem lcdProcessResponse_fromLine_iff (string : Str) :
    (∃ response svc' call, svc.lcdProcessResponse string = .ok (response, svc', call)
        ∧ ∀ c ∈ call, c.event.FromLine string)
      ↔ svc.Complete (getArgs string 10) := by
  have hargv : ∀ arg ∈ getArgs string 10, arg <:+: string ∧ arg ≠ [] :=
    fun _ h => of_mem_getArgs h
  constructor
  · rintro ⟨response, svc', call, h, hcall⟩
    obtain ⟨dispatch, hdispatch, rfl⟩ := of_lcdProcessResponse svc h
    have hline : ∀ d ∈ dispatch, d.event.FromLine string :=
      fun d hd => hcall (svc'.invoke d) (Option.mem_map_of_mem _ hd)
    refine ⟨fun hword => (exists_readAt_one_iff _).mp ?_, fun hword => ?_⟩
    · rcases hword with hkey | hlisten | hignore
      · rw [lcdDispatch_key svc hkey] at hdispatch
        obtain ⟨key, hread, -⟩ := bind_eq_ok_iff.mp hdispatch
        exact ⟨key, hread⟩
      · rw [lcdDispatch_listen svc hlisten] at hdispatch
        obtain ⟨screen, hread, -⟩ := bind_eq_ok_iff.mp hdispatch
        exact ⟨screen, hread⟩
      · rw [lcdDispatch_ignore svc hignore] at hdispatch
        obtain ⟨screen, hread, -⟩ := bind_eq_ok_iff.mp hdispatch
        exact ⟨screen, hread⟩
    · rw [lcdDispatch_menuevent svc hword] at hdispatch
      obtain ⟨dispatch', hmenu, h⟩ := bind_eq_ok_iff.mp hdispatch
      cases Except.ok.inj h
      exact (menueventHandler_fromLine_iff svc hargv).mp ⟨dispatch, hmenu, hline⟩
  · rintro ⟨htwo, hmenu⟩
    have hdispatch : ∃ response svc' dispatch,
        svc.lcdDispatch string = .ok (response, svc', dispatch)
          ∧ ∀ d ∈ dispatch, d.event.FromLine string := by
      by_cases hword : ∃ argv0, (getArgs string 10)[0]? = some argv0 ∧ argv0 ∈ eventWords
      · obtain ⟨argv0, hargv0, hmem⟩ := hword
        simp only [eventWords, List.mem_cons, List.not_mem_nil, or_false] at hmem
        by_cases hmenuevent : argv0 = "menuevent".toList
        · subst hmenuevent
          obtain ⟨dispatch, hdispatch, hline⟩ :=
            (menueventHandler_fromLine_iff svc hargv).mpr (hmenu hargv0)
          exact ⟨_, _, _, (lcdDispatch_menuevent svc hargv0).trans
            (by rw [hdispatch]; rfl), hline⟩
        · have hothers : argv0 = "key".toList ∨ argv0 = "listen".toList
              ∨ argv0 = "ignore".toList := by
            simpa only [hmenuevent, or_false] using hmem
          obtain ⟨arg, harg⟩ := (exists_readAt_one_iff _).mpr (htwo (by
            rw [hargv0]
            simpa only [Option.some.injEq] using hothers))
          exact exists_lcdDispatch_fromLine svc hargv0 hothers harg
      · obtain ⟨response, -, heq⟩ := lcdDispatch_reply svc
          (fun argv0 hargv0 hmem => hword ⟨argv0, hargv0, hmem⟩)
        exact ⟨response, svc, none, heq, fun d hd => absurd hd (by simp)⟩
    obtain ⟨response, svc', dispatch, hdispatch, hline⟩ := hdispatch
    refine ⟨response, svc', dispatch.map svc'.invoke, ?_, fun c hc => ?_⟩
    · unfold lcdProcessResponse
      rw [hdispatch]
      rfl
    · obtain ⟨d, hd, rfl⟩ := Option.map_eq_some_iff.mp hc
      exact hline d hd

/-- A line of one word has the key handler take a word that is not there. -/
theorem not_forall_lcdProcessResponse_fromLine :
    ¬ ∀ (svc : ServiceThread ℕ) string, ∃ response svc' call,
      svc.lcdProcessResponse string = .ok (response, svc', call)
        ∧ ∀ c ∈ call, c.event.FromLine string := by
  intro h
  obtain ⟨response, svc', call, hok, -⟩ := h init "key".toList
  have hfault : (init : ServiceThread ℕ).lcdProcessResponse "key".toList
      = .error (.outOfBounds 1 1) := by rfl
  rw [hfault] at hok
  exact absurd hok (by simp)

end ServiceThread
