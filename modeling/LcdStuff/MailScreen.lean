import LcdStuff.Display
import LcdStuff.MailCounts
import LcdStuff.Navigation

/-!
# The mail, from the mailboxes to the display

The mail module checks its mailboxes every now and then, and in between its handlers go through the
e-mails that it has found. Both end in `show_screen`, and `mail_check` writes to the screen by
itself while it waits for a server. `LcdStuffMail.displays_of_reachable` says what a viewer sees
after all that, with the other modules at work: nothing is left of an earlier screen, the counts
are those of the last check, and the e-mail is the one that the events since then have moved to.
-/

/-- **What happens to the module**, once it is set up. -/
inductive MailEvent where
  /-- It is time for `mail_check` and `show_screen`; libetpan answers. -/
  | refresh (etpan : Libetpan)
  /-- A handler is called. -/
  | nav (event : NavEvent)

/-- A call that writes a text to the screen of the module. -/
def ScreenCall.WritesMail : ScreenCall → Prop
  | .setTitle _ => True
  | .showText line _ => line ≤ 2
  | _ => False

namespace LcdStuffMail

variable (mail : LcdStuffMail)

/-! ## The calls of the module -/

/-- The calls of `update_screen`. -/
def updateScreenCalls (title line1 line2 line3 : Option Str) : List ScreenCall :=
  (match title with
    | none => []
    | some [] => [.setTitle (some mail.titlePrefix)]
    | some title => [.setTitle (some (mail.titlePrefix ++ ": ".toList ++ title))])
    ++ [.showText 0 line1, .showText 1 line2, .showText 2 line3]

/-- The call of `update_screen` in `show_screen`. -/
def showScreenCalls : List ScreenCall :=
  mail.updateScreenCalls (some (mail.displayed.elim [] mail.emailTitle)) mail.line1
    (some ((mail.displayed.bind Email.from).getD []))
    (some ((mail.displayed.bind Email.subject).getD []))

/-- The calls of `update_screen` in `mail_check`. -/
def checkCalls : List ScreenCall :=
  mail.mailboxes.flatMap (fun box =>
    if isLocal box.type then []
    else mail.updateScreenCalls (some box.name) (some []) (some "  Receiving ...".toList)
      (some []))

/-- What an event leaves in the module. -/
def after : MailEvent → LcdStuffMail
  | .refresh etpan => (mail.refresh etpan).1
  | .nav event => (mail.handle event).1

/-- The commands that an event queues. -/
def commands : MailEvent → List Command
  | .refresh etpan => (mail.refresh etpan).2
  | .nav event => (mail.handle event).2

/-- The calls behind them. -/
def calls : MailEvent → List ScreenCall
  | .refresh etpan => mail.checkCalls ++ (mail.check etpan).1.showScreenCalls
  | .nav event => (mail.handle event).1.showScreenCalls

/-- What some events leave in the module. -/
def afterAll (events : List MailEvent) : LcdStuffMail := events.foldl after mail

/-- The calls of some events. -/
def allCalls (mail : LcdStuffMail) : List MailEvent → List ScreenCall
  | [] => []
  | event :: events => mail.calls event ++ (mail.after event).allCalls events

/-- The calls of `update_screen` queue its commands. -/
theorem commandsOf_updateScreenCalls (title line1 line2 line3 : Option Str) :
    Drawing.commandsOf mail.screen.lcd mail.screen.moduleName
        (mail.updateScreenCalls title line1 line2 line3)
      = mail.updateScreen title line1 line2 line3 := by
  have htexts : Drawing.commandsOf mail.screen.lcd mail.screen.moduleName
      [.showText 0 line1, .showText 1 line2, .showText 2 line3]
        = mail.screen.showText 0 line1 ++ (mail.screen.showText 1 line2
          ++ mail.screen.showText 2 line3) := by
    rw [Drawing.commandsOf, List.flatMap_cons, List.flatMap_cons, List.flatMap_singleton]
    rfl
  unfold updateScreen updateScreenCalls
  rw [List.append_assoc, List.append_assoc, ← htexts, Drawing.commandsOf, List.flatMap_append]
  refine congrArg (· ++ _) ?_
  rcases title with - | (- | ⟨c, title⟩)
  · rfl
  · exact List.flatMap_singleton ..
  · exact List.flatMap_singleton ..

/-- What is shown again is the same. -/
theorem showScreenCalls_showScreen : mail.showScreen.1.showScreenCalls = mail.showScreenCalls := by
  unfold showScreenCalls
  rw [displayed_showScreen]
  rfl

/-- What `mail_check` queues. -/
theorem commands_check (etpan : Libetpan) :
    (mail.check etpan).2.1 = mail.mailboxes.flatMap (fun box =>
      if isLocal box.type then []
      else mail.updateScreen (some box.name) (some []) (some "  Receiving ...".toList)
        (some [])) := by
  rw [← List.zipIdx_map_fst 0 mail.mailboxes, List.flatMap_map, List.flatMap_eq_foldl]
  refine (List.foldl_hom MailLoop.cmds (fun s p => ?_)).symm
  rfl

/-- **The calls of an event queue its commands.** -/
theorem commandsOf_calls (event : MailEvent) :
    Drawing.commandsOf mail.screen.lcd mail.screen.moduleName (mail.calls event)
      = mail.commands event := by
  have hshow : ∀ mail' : LcdStuffMail, Drawing.commandsOf mail'.screen.lcd
      mail'.screen.moduleName mail'.showScreenCalls = mail'.showScreen.2 :=
    fun mail' => commandsOf_updateScreenCalls mail' ..
  cases event with
  | refresh etpan =>
    have hcheck : Drawing.commandsOf mail.screen.lcd mail.screen.moduleName mail.checkCalls
        = (mail.check etpan).2.1 := by
      rw [commands_check, Drawing.commandsOf, checkCalls, List.flatMap_assoc]
      refine List.flatMap_congr (fun box _ => ?_)
      cases isLocal box.type with
      | true => rfl
      | false => exact commandsOf_updateScreenCalls mail ..
    show Drawing.commandsOf _ _ (_ ++ _) = (mail.check etpan).2.1
      ++ (mail.check etpan).1.showScreen.2
    rw [Drawing.commandsOf, List.flatMap_append]
    exact congrArg₂ (· ++ ·) hcheck (hshow (mail.check etpan).1)
  | nav event =>
    unfold calls commands
    dsimp only
    cases event with
    | key str =>
      unfold handle keyHandler
      dsimp only
      rw [showScreenCalls_showScreen]
      exact hshow (mail.atScreen (mail.currentScreen + if str = "Up".toList then 1 else -1))
    | ignore =>
      unfold handle ignoreHandler
      dsimp only
      rw [showScreenCalls_showScreen]
      exact hshow (mail.atScreen (mail.currentScreen + 1))

/-! ## What the module keeps -/

/-- The screen and the title are those that the module was set up with. -/
theorem screen_afterAll (events : List MailEvent) :
    (mail.afterAll events).screen = mail.screen
      ∧ (mail.afterAll events).titlePrefix = mail.titlePrefix := by
  unfold afterAll
  induction events generalizing mail with
  | nil => exact ⟨rfl, rfl⟩
  | cons event events ih =>
    have hafter : (mail.after event).screen = mail.screen
        ∧ (mail.after event).titlePrefix = mail.titlePrefix := by
      cases event with
      | refresh etpan => exact ⟨rfl, rfl⟩
      | nav event =>
        cases event with
        | key str => exact ⟨rfl, rfl⟩
        | ignore => exact ⟨rfl, rfl⟩
    obtain ⟨hscreen, htitle⟩ := ih (mail.after event)
    exact ⟨hscreen.trans hafter.1, htitle.trans hafter.2⟩

/-- The names of the mailboxes are those of a check. -/
theorem map_name_check (etpan : Libetpan) :
    (mail.check etpan).1.mailboxes.map Mailbox.name = mail.mailboxes.map Mailbox.name := by
  have hmap := congrArg (List.map Prod.fst) (boxes_check etpan mail)
  rw [List.map_map, List.map_map] at hmap
  have hnames : mail.mailboxes.zipIdx.map (Prod.fst ∘ fun p => (p.1.name, unseenAfter etpan p))
      = (mail.mailboxes.zipIdx.map Prod.fst).map Mailbox.name := by
    rw [List.map_map]
    rfl
  rw [hnames, List.zipIdx_map_fst] at hmap
  exact hmap

/-- So are they after any events. -/
theorem map_name_afterAll (events : List MailEvent) :
    (mail.afterAll events).mailboxes.map Mailbox.name = mail.mailboxes.map Mailbox.name := by
  unfold afterAll
  induction events generalizing mail with
  | nil => rfl
  | cons event events ih =>
    refine (ih (mail.after event)).trans ?_
    cases event with
    | refresh etpan => exact map_name_check mail etpan
    | nav event =>
      cases event with
      | key str => rfl
      | ignore => rfl

/-- The title of an e-mail depends on the names of the mailboxes only. -/
theorem emailTitle_congr {mail mail' : LcdStuffMail}
    (h : mail'.mailboxes.map Mailbox.name = mail.mailboxes.map Mailbox.name) (email : Email) :
    mail'.emailTitle email = mail.emailTitle email := by
  have hname : ∀ m : LcdStuffMail, m.mailboxes[email.box]?.elim [] Mailbox.name
      = ((m.mailboxes.map Mailbox.name)[email.box]?).getD [] := by
    intro m
    rw [List.getElem?_map]
    cases m.mailboxes[email.box]? with
    | none => rfl
    | some box => rfl
  unfold emailTitle
  rw [hname, hname, h]

/-- The handlers move the position and leave the rest as it is. -/
theorem afterAll_nav (events : List NavEvent) :
    mail.afterAll (events.map .nav) = mail.atScreen
      ((events.map NavEvent.delta).foldl (Carousel.move mail.email.length)
        mail.currentScreen) := by
  unfold afterAll
  induction events generalizing mail with
  | nil => rfl
  | cons event events ih =>
    rw [List.map_cons, List.foldl_cons, List.map_cons, List.foldl_cons, ih]
    have hafter : mail.after (.nav event)
        = mail.atScreen (Carousel.move mail.email.length mail.currentScreen event.delta) :=
      handle_eq mail event
    rw [hafter]
    rfl

/-- **The e-mail on display** after a check and some events of the handlers. -/
theorem displayed_afterAll (etpan : Libetpan) (events : List NavEvent) :
    ((mail.after (.refresh etpan)).afterAll (events.map .nav)).displayed
      = (listedEmails etpan mail.mailboxes)[(NavEvent.offset events
          % (listedEmails etpan mail.mailboxes).length).toNat]? := by
  have hemail : (mail.after (.refresh etpan)).email = listedEmails etpan mail.mailboxes :=
    check_email_eq etpan mail
  have hscreen : (mail.after (.refresh etpan)).currentScreen
      = Carousel.clamp (listedEmails etpan mail.mailboxes).length 0 := by
    rw [← check_email_eq etpan mail]
    rfl
  rw [afterAll_nav, hemail, hscreen]
  unfold displayed clampScreen atScreen
  dsimp only
  rw [hemail]
  exact NavEvent.itemAt_foldl_move _ events

/-! ## What the calls draw -/

/-- The title for an e-mail on display, or for none. -/
def shownTitle (email : Option Email) : Str :=
  mail.titlePrefix ++ email.elim [] (fun email => ": ".toList ++ mail.emailTitle email)

/-- The text on a line, below the counts those of the e-mail. -/
def shownLine (counts : Str) (email : Option Email) (line : Int) : Str :=
  if line = 0 then counts else (email.bind (Email.line · line)).getD []

/-- **What a viewer is to see** on a screen, with an e-mail on display or none. -/
structure Displays (counts : Str) (email : Option Email) (view : ScreenView) : Prop where
  /-- The title, if there is room for one. -/
  title : view.title = if mail.screen.lcd.noTitle then [] else mail.shownTitle email
  /-- The counts, the sender and the subject, and nothing else. -/
  line : ∀ line ∈ mail.screen.lineNumbers, view.lines line = shownLine counts email line

/-- What was never written is empty. -/
structure Unwritten (screen : Screen) (view : ScreenView) : Prop where
  /-- The title, if there is no room for one. -/
  title : screen.lcd.noTitle = true → view.title = []
  /-- The lines below those of the e-mail. -/
  line : ∀ line, 2 < line → view.lines line = []

/-- The four calls of `show_screen`, where there is a mailbox. -/
theorem showScreenCalls_eq {counts : Str} (h : mail.line1 = some counts) :
    mail.showScreenCalls = [.setTitle (some (mail.shownTitle mail.displayed)),
      .showText 0 (some (shownLine counts mail.displayed 0)),
      .showText 1 (some (shownLine counts mail.displayed 1)),
      .showText 2 (some (shownLine counts mail.displayed 2))] := by
  unfold showScreenCalls
  rw [h]
  cases mail.displayed with
  | none =>
    have htitle : mail.shownTitle none = mail.titlePrefix := List.append_nil _
    rw [htitle]
    rfl
  | some email =>
    have hne : mail.emailTitle email ≠ [] :=
      List.append_ne_nil_of_left_ne_nil (List.append_ne_nil_of_right_ne_nil _ (by decide)) _
    have htitle : mail.shownTitle (some email)
        = mail.titlePrefix ++ ": ".toList ++ mail.emailTitle email := (List.append_assoc ..).symm
    rw [htitle]
    show mail.updateScreenCalls (some (mail.emailTitle email)) _ _ _ = _
    cases hemail : mail.emailTitle email with
    | nil => exact absurd hemail hne
    | cons c title => rfl

/-- **`show_screen` shows all that a viewer is to see**, whatever it showed before. -/
theorem displays_showScreenCalls {counts : Str} (h : mail.line1 = some counts) {view : ScreenView}
    (hview : Unwritten mail.screen view) :
    ∃ view', mail.showScreenCalls.foldl (ScreenView.draw mail.screen) (some view) = some view'
      ∧ mail.Displays counts mail.displayed view' := by
  rw [showScreenCalls_eq mail h]
  refine ⟨_, rfl, ?_, fun line hline => ?_⟩
  · show (if mail.screen.lcd.noTitle then view.title else mail.shownTitle mail.displayed) = _
    split
    · next hno => exact hview.title hno
    · rfl
  · show (((ScreenView.setLine mail.screen _ 0 _).setLine mail.screen 1 _).setLine
      mail.screen 2 _).lines line = _
    rw [ScreenView.lines_setLine _ _ hline, ScreenView.lines_setLine _ _ hline,
      ScreenView.lines_setLine _ _ hline]
    by_cases htwo : line = 2
    · rw [if_pos htwo, htwo]
    · by_cases hone : line = 1
      · rw [if_neg htwo, if_pos hone, hone]
      · by_cases hzero : line = 0
        · rw [if_neg htwo, if_neg hone, if_pos hzero, hzero]
        · have hbelow : 2 < line := by
            have hnonneg := ((Screen.mem_lineNumbers _).mp hline).1
            omega
          have hempty : shownLine counts mail.displayed line = [] := by
            unfold shownLine Email.line
            rw [if_neg hzero]
            simp only [if_neg hone, if_neg htwo]
            cases mail.displayed with
            | none => rfl
            | some email => rfl
          rw [if_neg htwo, if_neg hone, if_neg hzero, hempty]
          exact hview.line line hbelow

/-- The calls of the module write to its screen, and never below the third line. -/
theorem writesMail_of_mem_calls {event : MailEvent} {call : ScreenCall}
    (h : call ∈ mail.calls event) : call.WritesMail := by
  have hupdate : ∀ (m : LcdStuffMail) (title line1 line2 line3 : Option Str),
      call ∈ m.updateScreenCalls title line1 line2 line3 → call.WritesMail := by
    intro m title line1 line2 line3 hmem
    rcases List.mem_append.mp hmem with hmem | hmem
    · rcases title with - | (- | ⟨c, title⟩)
      · exact absurd hmem List.not_mem_nil
      · obtain rfl := List.mem_singleton.mp hmem
        trivial
      · obtain rfl := List.mem_singleton.mp hmem
        trivial
    · simp only [List.mem_cons, List.not_mem_nil, or_false] at hmem
      rcases hmem with rfl | rfl | rfl
      · exact (by decide : (0 : Int) ≤ 2)
      · exact (by decide : (1 : Int) ≤ 2)
      · exact Int.le_refl 2
  cases event with
  | refresh etpan =>
    rcases List.mem_append.mp h with h | h
    · obtain ⟨box, -, h⟩ := List.mem_flatMap.mp h
      split at h
      · exact absurd h List.not_mem_nil
      · exact hupdate mail _ _ _ _ h
    · exact hupdate _ _ _ _ _ h
  | nav event => exact hupdate _ _ _ _ _ h

/-- What was never written stays so. -/
theorem unwritten_foldl_draw {screen : Screen} {calls : List ScreenCall}
    (h : ∀ call ∈ calls, call.WritesMail) {view : ScreenView} (hview : Unwritten screen view) :
    ∃ view', calls.foldl (ScreenView.draw screen) (some view) = some view'
      ∧ Unwritten screen view' := by
  induction calls generalizing view with
  | nil => exact ⟨view, rfl, hview⟩
  | cons call calls ih =>
    have hrest := fun c hc => h c (List.mem_cons_of_mem _ hc)
    have hcall := h call (List.mem_cons_self ..)
    cases call with
    | setTitle title =>
      refine ih hrest ⟨fun hno => ?_, hview.line⟩
      show (if screen.lcd.noTitle then view.title else _) = []
      rw [if_pos hno]
      exact hview.title hno
    | showText line text =>
      refine ih hrest ?_
      cases text with
      | none => exact hview
      | some text =>
        refine ⟨hview.title, fun other hother => ?_⟩
        show (if line ∈ screen.lineNumbers then Function.update view.lines line text
          else view.lines) other = []
        have hle : line ≤ 2 := hcall
        split
        · rw [Function.update_of_ne (by omega)]
          exact hview.line other hother
        · exact hview.line other hother
    | _ => exact absurd hcall id

/-! ## The display -/

/-- The last of some calls are those of `show_screen`, for what the module is then. -/
theorem allCalls_eq (events : List MailEvent) (h : events ≠ []) :
    ∃ calls, mail.allCalls events = calls ++ (mail.afterAll events).showScreenCalls
      ∧ ∀ call ∈ calls, call.WritesMail := by
  induction events generalizing mail with
  | nil => exact absurd rfl h
  | cons event events ih =>
    by_cases hnil : events = []
    · subst hnil
      show ∃ calls, mail.calls event ++ [] = calls ++ (mail.after event).showScreenCalls ∧ _
      cases event with
      | refresh etpan =>
        refine ⟨mail.checkCalls, ?_, fun call hcall => ?_⟩
        · rw [List.append_nil]
          exact congrArg (mail.checkCalls ++ ·) (showScreenCalls_showScreen _).symm
        · exact @writesMail_of_mem_calls mail (.refresh etpan) call (List.mem_append_left _ hcall)
      | nav event => exact ⟨[], List.append_nil _, fun call hcall => absurd hcall List.not_mem_nil⟩
    · obtain ⟨calls, heq, hcalls⟩ := ih (mail.after event) hnil
      refine ⟨mail.calls event ++ calls, ?_, fun call hcall => ?_⟩
      · rw [allCalls, heq, List.append_assoc]
        rfl
      · rcases List.mem_append.mp hcall with hcall | hcall
        · exact writesMail_of_mem_calls mail hcall
        · exact hcalls call hcall

/-- **The counts that a viewer is to see**: those that the last check leaves. -/
def countsAfter (before : List MailEvent) (etpan : Libetpan) : Str :=
  (mail.afterAll before).mailboxes.zipIdx.flatMap
    (fun p => counted p.1.name (unseenAfter etpan p).toInt)

/-- **The e-mail that a viewer is to see**: of those that the last check lists, the one that the
events since then have moved to. -/
def emailAfter (before : List MailEvent) (etpan : Libetpan) (events : List NavEvent) :
    Option Email :=
  let items := listedEmails etpan (mail.afterAll before).mailboxes
  items[(NavEvent.offset events % items.length).toNat]?

/-- What the calls of the module draw, behind a check. -/
theorem displays_allCalls (hboxes : mail.mailboxes ≠ []) (before : List MailEvent)
    (etpan : Libetpan) (events : List NavEvent) {view : ScreenView}
    (hview : Unwritten mail.screen view) :
    ∃ view', (mail.allCalls (before ++ .refresh etpan :: events.map .nav)).foldl
        (ScreenView.draw mail.screen) (some view) = some view'
      ∧ mail.Displays (mail.countsAfter before etpan) (mail.emailAfter before etpan events)
        view' := by
  have hne : before ++ .refresh etpan :: events.map .nav ≠ [] :=
    List.append_ne_nil_of_right_ne_nil _ (List.cons_ne_nil _ _)
  obtain ⟨calls, heq, hcalls⟩ := allCalls_eq mail _ hne
  obtain ⟨view₁, hview₁, hunwritten⟩ := unwritten_foldl_draw hcalls hview
  have hend : mail.afterAll (before ++ .refresh etpan :: events.map .nav)
      = ((mail.afterAll before).after (.refresh etpan)).afterAll (events.map .nav) :=
    List.foldl_append
  have hnames := map_name_afterAll mail (before ++ .refresh etpan :: events.map .nav)
  obtain ⟨hscreen, htitle⟩ := screen_afterAll mail (before ++ .refresh etpan :: events.map .nav)
  have hboxes' : (mail.afterAll before).mailboxes ≠ [] := by
    have hmap := map_name_afterAll mail before
    intro hnil
    rw [hnil, List.map_nil] at hmap
    exact hboxes (List.map_eq_nil_iff.mp hmap.symm)
  have hcounts : (mail.afterAll (before ++ .refresh etpan :: events.map .nav)).line1
      = some (mail.countsAfter before etpan) := by
    rw [hend, afterAll_nav]
    exact (line1_check etpan (mail.afterAll before)).trans (if_neg hboxes')
  have hemail := displayed_afterAll (mail.afterAll before) etpan events
  rw [← hend] at hemail
  rw [heq, List.foldl_append, hview₁]
  rw [← hscreen] at hunwritten ⊢
  obtain ⟨view', hfold, hdisplays⟩ := displays_showScreenCalls _ hcounts hunwritten
  refine ⟨view', hfold, ?_, fun line hline => ?_⟩
  · rw [hdisplays.title, hscreen, hemail]
    refine congrArg (ite _ []) ?_
    unfold shownTitle emailAfter
    rw [htitle]
    simp only [emailTitle_congr hnames]
  · rw [← hscreen] at hline
    rw [hdisplays.line line hline, hemail]
    rfl

/-- **What a viewer sees of the mail**, in every run of the modules that the server can read:
behind the last check there is nothing left of earlier screens. The counts are those that the check
leaves, and the sender and the subject are those of the e-mail that the keys and the ignored
screens since then have moved to. -/
theorem displays_of_reachable (server : ScreenServer) {ι : Type} [DecidableEq ι] {lcd : LcdStuff}
    {name : ι → Str} {i : ι} {s : Drawing ι} {calls : ι → List ScreenCall}
    (h : (Drawing.historySystem lcd name).Reachable (s, calls))
    (hname : ∀ j, j ≠ i → name j ≠ name i) (hlegible : Drawing.Legible name calls)
    (hexit : s.gExit = false) (hleft : s.left i = [])
    {mail : LcdStuffMail} (hscreen : mail.screen = ⟨lcd, name i⟩) (hboxes : mail.mailboxes ≠ [])
    {screenName : Str} {before : List MailEvent} {etpan : Libetpan} {events : List NavEvent}
    (hcalls : calls i = .create :: .setName screenName
      :: mail.allCalls (before ++ .refresh etpan :: events.map .nav)) :
    ∃ shown, server.screen (server.replay s.queue) (name i) = some shown
      ∧ shown.title = (if lcd.noTitle then none
        else some (mail.shownTitle (mail.emailAfter before etpan events)))
      ∧ ∀ line ∈ mail.screen.lineNumbers, shown.Reads line (line + 1 + mail.screen.titleLine)
        (shownLine (mail.countsAfter before etpan) (mail.emailAfter before etpan events)
          line) := by
  have hunwritten : Unwritten mail.screen ⟨[], fun _ => [], some screenName, none⟩ :=
    ⟨fun _ => rfl, fun _ _ => rfl⟩
  obtain ⟨view, hview, hdisplays⟩ :=
    displays_allCalls mail hboxes before etpan events hunwritten
  have hfold : (calls i).foldl (ScreenView.draw mail.screen) none = some view := by
    rw [hcalls]
    exact hview
  rw [hscreen] at hfold ⊢
  obtain ⟨shown, hshown, hshows⟩ :=
    Drawing.exists_shown server h hname hlegible hexit hleft hfold
  refine ⟨shown, hshown, ?_, fun line hline => ?_⟩
  · rw [hshows.title, hdisplays.title, hscreen]
    split <;> rfl
  · have hreads := hshows.line line hline
    rw [← hscreen] at hline
    rwa [hdisplays.line line hline] at hreads

/-- A check finds two e-mails, and the handlers move to the second one. -/
theorem displays_of_reachable_two :
    let mail : LcdStuffMail := ⟨[⟨[], [], [], "box".toList, "imap".toList, [], 0, 0, 0, false⟩], [],
      0, "Mail".toList, ⟨⟨⟨20, 4⟩, false⟩, "mail".toList⟩⟩
    let etpan : Libetpan := ⟨1, some, fun _ => ⟨true, true, true, some ⟨2, 0, 2⟩,
      some (["Ann", "Bob"].map (fun sender => ⟨some [.from [some sender.toList]], some 0⟩)), true⟩⟩
    ∃ (s : Drawing Bool) (shown : ShownScreen),
      ScreenServer.literal.screen (ScreenServer.literal.replay s.queue) "mail".toList = some shown
        ∧ shown.title = (if false then none
          else some (mail.shownTitle (mail.emailAfter [] etpan [.key "Up".toList])))
        ∧ ∀ line ∈ mail.screen.lineNumbers, shown.Reads line (line + 1 + mail.screen.titleLine)
          (shownLine (mail.countsAfter [] etpan) (mail.emailAfter [] etpan [.key "Up".toList])
            line) := by
  intro mail etpan
  let name : Bool → Str := fun i => if i then "mail".toList else "rss".toList
  let made : List ScreenCall := .setName "Mail".toList
    :: mail.allCalls ([] ++ .refresh etpan :: [NavEvent.key "Up".toList].map .nav)
  have hmade : ∀ call ∈ made, call.Made true := by decide +kernel
  have hlegible : Drawing.Legible name (Drawing.alone true (.create :: made)) :=
    Drawing.legible_alone (by decide) (by decide +kernel)
  obtain ⟨s, hs, hquiet⟩ :=
    Drawing.exists_reachable_alone ⟨⟨20, 4⟩, false⟩ name true hmade
  obtain ⟨shown, hshown⟩ := @displays_of_reachable .literal Bool _ ⟨⟨20, 4⟩, false⟩ name true s _
    hs (by decide) hlegible hquiet.exit hquiet.left mail rfl (List.cons_ne_nil _ _) _ [] etpan
    [.key "Up".toList] (Function.update_self ..)
  exact ⟨s, shown, hshown⟩

end LcdStuffMail
