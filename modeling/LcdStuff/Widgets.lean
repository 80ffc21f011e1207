import LcdStuff.Screen
import LcdStuff.StepSystem

/-!
# Widgets that were added are set

`screen_create` adds a screen and its widgets in one loop, and the texts are set
by other functions, which compute again how many lines there are and which rows
they are on. The calls of all modules end in one queue, a command at a time and
in any order, and each command is dropped if `g_exit` was seen.

Whatever the height of the display, in the queue no widget is set before it was
added (`Drawing.drawn_of_reachable`): the module has pushed the commands of
`screen_create` before any other, and what it sets later is among what it has
added. Where commands of a module are dropped, `g_exit` stays set and those
behind them are dropped as well.
-/

/-! ## The calls of a module -/

/-- **A call of a function of `screen.c`**, with what it gets beside the screen. The
functions that format their text first are `setTitle` and `showText`. -/
inductive ScreenCall where
  /-- `screen_create` -/
  | create
  /-- `screen_set_title`, `screen_set_title_format` -/
  | setTitle (title : Option Str)
  /-- `screen_set_name` -/
  | setName (name : Str)
  /-- `screen_set_priority` -/
  | setPriority (priority : Str)
  /-- `screen_show_text`, `screen_show_text_format` -/
  | showText (line : Int) (text : Option Str)
  /-- `screen_clear` -/
  | clear
  /-- `screen_destroy` -/
  | destroy
  deriving DecidableEq, Repr

namespace ScreenCall

/-- The commands of a call, for the screen of a module. -/
def commands (lcd : LcdStuff) (name : Str) : ScreenCall → List Command
  | create => (Screen.create lcd name).2
  | setTitle title => Screen.setTitle ⟨lcd, name⟩ title
  | setName newName => Screen.setName ⟨lcd, name⟩ newName
  | setPriority priority => Screen.setPriority ⟨lcd, name⟩ priority
  | showText line text => Screen.showText ⟨lcd, name⟩ line text
  | clear => Screen.clear ⟨lcd, name⟩
  | destroy => Screen.destroy ⟨lcd, name⟩

/-- A module makes the call: `screen_create` first, and no text for a line below
zero. -/
def Made (created : Bool) : ScreenCall → Prop
  | create => True
  | showText line _ => created = true ∧ 0 ≤ line
  | _ => created = true

instance (created : Bool) (call : ScreenCall) : Decidable (call.Made created) := by
  cases call <;> unfold Made <;> infer_instance

end ScreenCall

/-- **The modules as they draw**, with any modules. -/
structure Drawing (ι : Type) where
  /-- `g_exit` -/
  gExit : Bool
  /-- The module has called `screen_create`. -/
  created : ι → Bool
  /-- What is left of the commands of the call that the module is in. -/
  left : ι → List Command
  /-- The module has seen that `g_exit` is not set, for the first of them. -/
  passed : ι → Bool
  /-- What was pushed, in the order of the queue. -/
  queue : List Command

/-- **What can happen next.** -/
inductive DrawingAct (ι : Type) where
  /-- `g_exit` is set. -/
  | exit
  /-- A module calls a function of `screen.c`. -/
  | call (i : ι) (call : ScreenCall)
  /-- `service_thread_command` tests `g_exit`, -/
  | test (i : ι)
  /-- and pushes the command. -/
  | push (i : ι)
  deriving DecidableEq, Repr

namespace Drawing

variable {ι : Type} [DecidableEq ι]

/-- **A step**, for the display and the names of the modules. -/
def step (lcd : LcdStuff) (name : ι → Str) (s : Drawing ι) : DrawingAct ι → Option (Drawing ι)
  | .exit => some { s with gExit := true }
  | .call i call =>
    if s.left i = [] ∧ call.Made (s.created i) then
      some { s with
        created := Function.update s.created i true
        left := Function.update s.left i (call.commands lcd (name i)) }
    else none
  | .test i =>
    match s.left i, s.passed i with
    | _ :: rest, false =>
      some (if s.gExit then { s with left := Function.update s.left i rest }
        else { s with passed := Function.update s.passed i true })
    | _, _ => none
  | .push i =>
    match s.left i, s.passed i with
    | cmd :: rest, true => some { s with
        left := Function.update s.left i rest
        passed := Function.update s.passed i false
        queue := s.queue ++ [cmd] }
    | _, _ => none

/-- No module has drawn anything yet. -/
def init : Drawing ι := ⟨false, fun _ => false, fun _ => [], fun _ => false, []⟩

/-- The modules, for the display and their names. -/
def system (lcd : LcdStuff) (name : ι → Str) : StepSystem (Drawing ι) (DrawingAct ι) :=
  ⟨init, step lcd name⟩

end Drawing

/-- **A queue that draws well** on a display. -/
structure Drawn (lcd : LcdStuff) (queue : List Command) : Prop where
  /-- A title is set when its screen and its widget were added. -/
  title : ∀ before m text after, queue = before ++ .widgetSetTitle m text :: after →
    .screenAdd m ∈ before ∧ .widgetAddTitle m ∈ before
  /-- A line is set when its screen and its widget were added, -/
  line : ∀ before m line row text after,
    queue = before ++ .widgetSetLine m line row text :: after →
    .screenAdd m ∈ before ∧ .widgetAddLine m line ∈ before
  /-- on a row of the display, which is not that of the title if there is one. -/
  row : ∀ m line row text, .widgetSetLine m line row text ∈ queue →
    1 ≤ row ∧ row ≤ lcd.displaySize.height ∧ (.widgetAddTitle m ∈ queue → row ≠ 1)
  /-- Two lines of a screen are on two rows. -/
  rows : ∀ m line row text line' row' text', .widgetSetLine m line row text ∈ queue →
    .widgetSetLine m line' row' text' ∈ queue → line ≠ line' → row ≠ row'

/-! ## What prepares a command -/

/-- **A command is prepared** by those in front of it: what it sets was added, and
a line is one of the screen, on its row. -/
def Command.Prepared (lcd : LcdStuff) (before : List Command) : Command → Prop
  | .widgetAddTitle _ => lcd.noTitle = false
  | .widgetSetTitle m _ => .screenAdd m ∈ before ∧ .widgetAddTitle m ∈ before
  | .widgetSetLine m line row _ => (.screenAdd m ∈ before ∧ .widgetAddLine m line ∈ before)
      ∧ line ∈ Screen.lineNumbers ⟨lcd, m⟩ ∧ row = line + 1 + Screen.titleLine ⟨lcd, m⟩
  | _ => True

namespace Command

variable {lcd : LcdStuff}

/-- What is prepared stays so. -/
theorem Prepared.mono {before before' : List Command} (hsub : before ⊆ before') {cmd : Command}
    (h : cmd.Prepared lcd before) : cmd.Prepared lcd before' := by
  cases cmd with
  | widgetSetTitle => exact ⟨hsub h.1, hsub h.2⟩
  | widgetSetLine => exact ⟨⟨hsub h.1.1, hsub h.1.2⟩, h.2⟩
  | widgetAddTitle => exact h
  | _ => trivial

/-- **A queue in which each command is prepared draws well.** -/
theorem drawn_of_eachPrepared {queue : List Command} (h : EachPrepared (Prepared lcd) queue) :
    Drawn lcd queue := by
  have hline : ∀ {m line row text}, .widgetSetLine m line row text ∈ queue →
      line ∈ Screen.lineNumbers ⟨lcd, m⟩ ∧ row = line + 1 + Screen.titleLine ⟨lcd, m⟩ :=
    fun hmem => let ⟨_, hprepared⟩ := h.of_mem hmem; hprepared.2
  refine ⟨fun before m text after heq => h _ _ _ heq,
    fun before m line row text after heq => (h _ _ _ heq).1, ?_, ?_⟩
  · intro m line row text hmem
    obtain ⟨hline, rfl⟩ := hline hmem
    rw [Screen.mem_lineNumbers] at hline
    unfold Screen.calculateLines Screen.titleLine at *
    refine ⟨by split <;> omega, ?_, fun htitle => ?_⟩
    · cases hno : lcd.noTitle with
      | true =>
        simp only [hno, if_true] at hline ⊢
        omega
      | false =>
        simp only [hno, Bool.false_eq_true, if_false] at hline ⊢
        omega
    · obtain ⟨_, hno⟩ := h.of_mem htitle
      have hno : lcd.noTitle = false := hno
      simp only [hno, Bool.false_eq_true, if_false]
      omega
  · intro m line row text line' row' text' hmem hmem' hne
    have hrow := (hline hmem).2
    have hrow' := (hline hmem').2
    omega

end Command

namespace ScreenCall

variable {lcd : LcdStuff} {name : Str}

/-- What `screen_create` adds. -/
theorem mem_create (lcd : LcdStuff) (name : Str) :
    .screenAdd name ∈ create.commands lcd name
      ∧ (lcd.noTitle = false → .widgetAddTitle name ∈ create.commands lcd name)
      ∧ ∀ line ∈ Screen.lineNumbers ⟨lcd, name⟩, .widgetAddLine name line
        ∈ create.commands lcd name := by
  refine ⟨List.mem_append_left _ (List.mem_cons_self ..), fun hno => ?_, fun line hline => ?_⟩
  · refine List.mem_append_left _ (List.mem_cons_of_mem _ ?_)
    rw [if_neg (by rw [hno]; decide)]
    exact List.mem_singleton_self _
  · exact List.mem_append_right _ (List.mem_map_of_mem hline)

/-- A text that is shown on a line is prepared by `screen_create`. -/
theorem prepared_of_mem_showText {line : Int} (hline : 0 ≤ line) {text : Option Str}
    {cmd : Command} (hcmd : cmd ∈ Screen.showText ⟨lcd, name⟩ line text)
    {before : List Command} (hbefore : create.commands lcd name ⊆ before) :
    cmd.Prepared lcd before := by
  unfold Screen.showText at hcmd
  split at hcmd
  · exact absurd hcmd List.not_mem_nil
  · next hlt =>
    cases text with
    | none => exact absurd hcmd List.not_mem_nil
    | some text =>
      obtain rfl := List.mem_singleton.mp hcmd
      have hmem : line ∈ Screen.lineNumbers ⟨lcd, name⟩ :=
        (Screen.mem_lineNumbers _).mpr ⟨hline, by omega⟩
      obtain ⟨hscreen, -, hwidgets⟩ := mem_create lcd name
      exact ⟨⟨hbefore hscreen, hbefore (hwidgets line hmem)⟩, hmem, rfl⟩

/-- **Every command of a call is prepared** by `screen_create`. -/
theorem prepared_of_mem_commands {created : Bool} {call : ScreenCall} (hmade : call.Made created)
    {cmd : Command} (hcmd : cmd ∈ call.commands lcd name) {before : List Command}
    (hbefore : created = true → create.commands lcd name ⊆ before) : cmd.Prepared lcd before := by
  cases call with
  | create =>
    rcases List.mem_append.mp hcmd with hcmd | hcmd
    · rcases List.mem_cons.mp hcmd with rfl | hcmd
      · trivial
      · split at hcmd
        · exact absurd hcmd List.not_mem_nil
        · next hno =>
          obtain rfl := List.mem_singleton.mp hcmd
          exact Bool.eq_false_iff.mpr hno
    · obtain ⟨line, -, rfl⟩ := List.mem_map.mp hcmd
      trivial
  | setTitle title =>
    have hcmd : cmd ∈ Screen.setTitle ⟨lcd, name⟩ title := hcmd
    unfold Screen.setTitle at hcmd
    split at hcmd
    · exact absurd hcmd List.not_mem_nil
    · next hno =>
      cases title with
      | none => exact absurd hcmd List.not_mem_nil
      | some title =>
        obtain rfl := List.mem_singleton.mp hcmd
        obtain ⟨hscreen, htitle, -⟩ := mem_create lcd name
        exact ⟨hbefore hmade hscreen, hbefore hmade (htitle (Bool.eq_false_iff.mpr hno))⟩
  | showText line text => exact prepared_of_mem_showText hmade.2 hcmd (hbefore hmade.1)
  | clear =>
    obtain ⟨line, hline, hcmd⟩ := List.mem_flatMap.mp hcmd
    exact prepared_of_mem_showText ((Screen.mem_lineNumbers _).mp hline).1 hcmd (hbefore hmade)
  | setName | setPriority | destroy =>
    obtain rfl := List.mem_singleton.mp hcmd
    trivial

end ScreenCall

/-! ## The queue -/

namespace Drawing

variable {ι : Type} {lcd : LcdStuff} {name : ι → Str}

/-- **What a module is about to push is prepared**, and it has pushed what
`screen_create` adds before anything else. -/
structure Ahead (lcd : LcdStuff) (name : ι → Str) (s : Drawing ι) (i : ι) : Prop where
  /-- Each command of the call is prepared by the queue and those in front of it. -/
  prepared : ∀ before cmd after, s.left i = before ++ cmd :: after →
    cmd.Prepared lcd (s.queue ++ before)
  /-- The screen and its widgets were added, or they are about to be. -/
  created : s.created i = true →
    ScreenCall.create.commands lcd (name i) ⊆ s.queue ++ s.left i

/-- **What holds while the modules draw**: each command of the queue is prepared,
and a module is ahead unless it will never push anything again. -/
structure Announced (lcd : LcdStuff) (name : ι → Str) (s : Drawing ι) : Prop where
  /-- The queue is prepared. -/
  queue : EachPrepared (Command.Prepared lcd) s.queue
  /-- What is about to be pushed is, too. -/
  ahead : ∀ i, s.gExit = true ∧ s.passed i = false ∨ Ahead lcd name s i

variable {s s' : Drawing ι}

/-- A module whose own state has not changed stays ahead when the queue grows. -/
theorem Ahead.of_eq {i : ι} (h : Ahead lcd name s i) (hqueue : s.queue ⊆ s'.queue)
    (hleft : s'.left i = s.left i) (hcreated : s'.created i = s.created i) :
    Ahead lcd name s' i := by
  have happend : ∀ cmds, s.queue ++ cmds ⊆ s'.queue ++ cmds := fun cmds =>
    List.append_subset.mpr ⟨List.Subset.trans hqueue (List.subset_append_left ..),
      List.subset_append_right ..⟩
  constructor
  · intro before cmd after heq
    exact (h.prepared before cmd after (hleft ▸ heq)).mono (happend before)
  · rw [hleft, hcreated]
    exact fun hscreen => List.Subset.trans (h.created hscreen) (happend _)

variable [DecidableEq ι]

/-- **The steps there are**, each with what it finds and what it leaves. -/
inductive Taken (lcd : LcdStuff) (name : ι → Str) (s : Drawing ι) :
    DrawingAct ι → Drawing ι → Prop
  /-- `g_exit` is set. -/
  | exit : Taken lcd name s .exit { s with gExit := true }
  /-- A module calls a function of `screen.c`. -/
  | call {i : ι} {call : ScreenCall} : s.left i = [] → call.Made (s.created i) →
      Taken lcd name s (.call i call) { s with
        created := Function.update s.created i true
        left := Function.update s.left i (call.commands lcd (name i)) }
  /-- A command is dropped. -/
  | drop {i : ι} {cmd : Command} {rest : List Command} : s.left i = cmd :: rest →
      s.passed i = false → s.gExit = true →
      Taken lcd name s (.test i) { s with left := Function.update s.left i rest }
  /-- A command is about to be pushed. -/
  | pass {i : ι} : s.passed i = false → s.gExit = false →
      Taken lcd name s (.test i) { s with passed := Function.update s.passed i true }
  /-- A command is pushed. -/
  | push {i : ι} {cmd : Command} {rest : List Command} : s.left i = cmd :: rest →
      s.passed i = true →
      Taken lcd name s (.push i) { s with
        left := Function.update s.left i rest
        passed := Function.update s.passed i false
        queue := s.queue ++ [cmd] }

/-- There are no others. -/
theorem taken_of_step {act : DrawingAct ι} (h : s.step lcd name act = some s') :
    Taken lcd name s act s' := by
  cases act with
  | exit =>
    obtain rfl := Option.some.inj h
    exact .exit
  | call i call =>
    unfold step at h
    dsimp only at h
    split at h
    · next hcall => exact Option.some.inj h ▸ .call hcall.1 hcall.2
    · exact absurd h nofun
  | test i =>
    unfold step at h
    dsimp only at h
    split at h
    · next hleft hpassed =>
      obtain rfl := Option.some.inj h
      split
      · next hexit => exact .drop hleft hpassed hexit
      · next hexit => exact .pass hpassed (Bool.eq_false_iff.mpr hexit)
    · exact absurd h nofun
  | push i =>
    unfold step at h
    dsimp only at h
    split at h
    · next hleft hpassed => exact Option.some.inj h ▸ .push hleft hpassed
    · exact absurd h nofun

/-- What is left behind a command was left before. -/
theorem mem_left_of_mem_update {left : ι → List Command} {i j : ι} {cmd other : Command}
    {rest : List Command} (hleft : left i = cmd :: rest)
    (h : other ∈ Function.update left i rest j) : other ∈ left j := by
  by_cases hj : j = i
  · subst hj
    rw [Function.update_self] at h
    exact hleft ▸ List.mem_cons_of_mem _ h
  · rwa [Function.update_of_ne hj] at h

/-- A module calls a function of `screen.c`. -/
theorem Announced.call (h : Announced lcd name s) {i : ι} {call : ScreenCall}
    (hleft : s.left i = []) (hmade : call.Made (s.created i)) :
    Announced lcd name { s with
      created := Function.update s.created i true
      left := Function.update s.left i (call.commands lcd (name i)) } := by
  refine ⟨h.queue, fun j => ?_⟩
  by_cases hj : j = i
  · subst hj
    refine (h.ahead j).imp_right (fun hahead => ?_)
    have hscreen : s.created j = true → ScreenCall.create.commands lcd (name j) ⊆ s.queue := by
      have hcreated := hahead.created
      rwa [hleft, List.append_nil] at hcreated
    constructor
    · intro before cmd after heq
      have hmem : cmd ∈ call.commands lcd (name j) := by
        have heq : Function.update s.left j _ j = before ++ cmd :: after := heq
        rw [Function.update_self] at heq
        rw [heq]
        exact List.mem_append_right _ (List.mem_cons_self ..)
      exact ScreenCall.prepared_of_mem_commands hmade hmem
        (fun hcreated => List.Subset.trans (hscreen hcreated) (List.subset_append_left ..))
    · intro _
      show _ ⊆ s.queue ++ Function.update s.left j _ j
      rw [Function.update_self]
      cases call with
      | create => exact List.subset_append_right ..
      | showText => exact List.Subset.trans (hscreen hmade.1) (List.subset_append_left ..)
      | setTitle | setName | setPriority | clear | destroy =>
        exact List.Subset.trans (hscreen hmade) (List.subset_append_left ..)
  · exact (h.ahead j).imp_right (fun hahead =>
      hahead.of_eq (List.Subset.refl _) (Function.update_of_ne hj ..) (Function.update_of_ne hj ..))

/-- A module drops a command, and is not ahead any more. -/
theorem Announced.drop (h : Announced lcd name s) {i : ι} (rest : List Command)
    (hpassed : s.passed i = false) (hexit : s.gExit = true) :
    Announced lcd name { s with left := Function.update s.left i rest } := by
  refine ⟨h.queue, fun j => ?_⟩
  by_cases hj : j = i
  · subst hj
    exact .inl ⟨hexit, hpassed⟩
  · exact (h.ahead j).imp_right (fun hahead =>
      hahead.of_eq (List.Subset.refl _) (Function.update_of_ne hj ..) rfl)

omit [DecidableEq ι] in
/-- A module sees that `g_exit` is not set. -/
theorem Announced.pass (h : Announced lcd name s) (passed : ι → Bool) (hexit : s.gExit = false) :
    Announced lcd name { s with passed := passed } := by
  refine ⟨h.queue, fun j => .inr ?_⟩
  have hahead := (h.ahead j).resolve_left
    (fun hnot => Bool.false_ne_true (hexit.symm.trans hnot.1))
  exact hahead.of_eq (List.Subset.refl _) rfl rfl

/-- **A module pushes a command.** -/
theorem Announced.push (h : Announced lcd name s) {i : ι} {cmd : Command} {rest : List Command}
    (hleft : s.left i = cmd :: rest) (hpassed : s.passed i = true) :
    Announced lcd name { s with
      left := Function.update s.left i rest
      passed := Function.update s.passed i false
      queue := s.queue ++ [cmd] } := by
  have hahead := (h.ahead i).resolve_left (fun hnot => by
    rw [hpassed] at hnot
    exact absurd hnot.2 (by decide))
  have hcmd := hahead.prepared [] cmd rest hleft
  rw [List.append_nil] at hcmd
  refine ⟨h.queue.append_singleton hcmd, fun j => ?_⟩
  by_cases hj : j = i
  · subst hj
    refine .inr ⟨fun before other after heq => ?_, fun hcreated => ?_⟩
    · have heq : Function.update s.left j rest j = before ++ other :: after := heq
      rw [Function.update_self] at heq
      have hprepared := hahead.prepared (cmd :: before) other after (by
        rw [hleft, heq]
        rfl)
      show other.Prepared lcd (s.queue ++ [cmd] ++ before)
      rwa [List.append_assoc, List.singleton_append]
    · show _ ⊆ s.queue ++ [cmd] ++ Function.update s.left j rest j
      rw [Function.update_self, List.append_assoc, List.singleton_append, ← hleft]
      exact hahead.created hcreated
  · have hpassed : Function.update s.passed i false j = s.passed j := Function.update_of_ne hj ..
    refine (h.ahead j).imp (fun hnot => ⟨hnot.1, hpassed.trans hnot.2⟩) (fun hahead => ?_)
    exact hahead.of_eq (List.subset_append_left ..) (Function.update_of_ne hj ..) rfl

/-- **Every step keeps the queue prepared.** -/
theorem Announced.step (h : Announced lcd name s) {a : DrawingAct ι}
    (hstep : s.step lcd name a = some s') : Announced lcd name s' := by
  cases taken_of_step hstep with
  | exit =>
    refine ⟨h.queue, fun i => ?_⟩
    by_cases hpassed : s.passed i = false
    · exact .inl ⟨rfl, hpassed⟩
    · have hahead := (h.ahead i).resolve_left (fun hnot => hpassed hnot.2)
      exact .inr (hahead.of_eq (List.Subset.refl _) rfl rfl)
  | call hleft hmade => exact h.call hleft hmade
  | drop _ hpassed hexit => exact h.drop _ hpassed hexit
  | pass _ hexit => exact h.pass _ hexit
  | push hleft hpassed => exact h.push hleft hpassed

/-- **No widget is set that was not added**, on whatever display, by whatever
modules and in whatever order of their calls: in the queue the screen and the widget
come before each text, a line is on a row of the display which is not that of the
title, and two lines of a screen are on two rows. -/
theorem drawn_of_reachable (h : (system lcd name).Reachable s) : Drawn lcd s.queue := by
  have hannounced : Announced lcd name s := by
    refine h.invariant (Announced lcd name) ?_ (fun s a s' hs _ hstep => hs.step hstep)
    refine ⟨.nil, fun i => .inr ⟨fun before cmd after heq => ?_, fun hcreated => ?_⟩⟩
    · exact absurd heq.symm (List.append_ne_nil_of_right_ne_nil _ (List.cons_ne_nil _ _))
    · exact absurd hcreated Bool.false_ne_true
  exact Command.drawn_of_eachPrepared hannounced.queue

/-- Two modules draw on a display of four rows, and the second text of the first is
dropped when `g_exit` is set. -/
theorem drawn_of_reachable_two :
    ∃ s : Drawing Bool, s.queue.length = 11 ∧ s.gExit = true
      ∧ Drawn ⟨⟨20, 4⟩, false⟩ s.queue := by
  let name : Bool → Str := fun i => if i then "mail".toList else "rss".toList
  let run := (system ⟨⟨20, 4⟩, false⟩ name).replayAny init
    (.call true .create :: .call false .create
      :: (List.replicate 5 [.test true, .push true, .test false, .push false]).flatten
      ++ [.call true (.showText 2 (some [])), .call false (.setTitle (some [])), .test true,
        .exit, .push true, .test false])
  have hrun : run.map (fun s => decide (s.queue.length = 11 ∧ s.gExit = true)) = some true := by
    decide +kernel
  obtain ⟨s, hs, hend⟩ := StepSystem.exists_reachableBy_of_replay hrun
  obtain ⟨hlen, hexit⟩ := of_decide_eq_true hend
  exact ⟨s, hlen, hexit, drawn_of_reachable hs⟩

end Drawing
