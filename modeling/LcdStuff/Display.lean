import LcdStuff.LcdServer
import LcdStuff.StepSystem
import LcdStuff.Widgets
import Mathlib.Data.List.Induction

/-!
# What is on the display

The server keeps a screen for every module, and the commands that draw it arrive in one queue,
between those of the other modules. What a viewer sees of a module is to be what the module has
drawn, call by call, as if there were no other.

There are two readings of a call of `screen.c`. A server (`ScreenServer`) carries out its commands,
which name widgets and rows of the display; `ScreenView.draw` says what the call is for, in terms
of the lines of the screen. `Drawing.shows_of_reachable` says that they agree in every run in which
the server can read what is drawn: between two calls of a module its screen is as the calls have
drawn it, one after the other. If any module draws a text with a brace or a newline, nothing is
known of any screen.
-/

/-! ## What the calls are for -/

/-- **A screen as a module sees it**: a title, and a text for every line. -/
structure ScreenView where
  /-- The title; without room for one it stays empty. -/
  title : Str
  /-- The texts of the lines. -/
  lines : Int → Str
  /-- The name, if it was set. -/
  name : Option Str
  /-- The priority, if it was set. -/
  priority : Option Str

namespace ScreenView

/-- The lines with another text on one of them, if it is a line of the screen. -/
def setLine (screen : Screen) (view : ScreenView) (line : Int) (text : Str) : ScreenView :=
  { view with lines :=
      if line ∈ screen.lineNumbers then Function.update view.lines line text else view.lines }

/-- **What a call is for.** -/
def draw (screen : Screen) : Option ScreenView → ScreenCall → Option ScreenView
  | none, .create => some ⟨[], fun _ => [], none, none⟩
  | none, _ => none
  | some view, .create => some view
  | some view, .setTitle title =>
    some { view with title := if screen.lcd.noTitle then view.title else title.getD view.title }
  | some view, .setName name => some { view with name := some name }
  | some view, .setPriority priority => some { view with priority := some priority }
  | some view, .showText line text => some (text.elim view (view.setLine screen line))
  | some view, .clear =>
    some { view with
      lines := fun line => if line ∈ screen.lineNumbers then [] else view.lines line }
  | some _, .destroy => none

end ScreenView

/-- **The server shows what a module sees**: line by line the text is on the row of the line. -/
structure ShownScreen.Shows (screen : Screen) (s : ShownScreen) (view : ScreenView) : Prop where
  /-- The title, if there is room for one. -/
  title : s.title = if screen.lcd.noTitle then none else some view.title
  /-- The lines, on their rows. -/
  line : ∀ line ∈ screen.lineNumbers, s.Reads line (line + 1 + screen.titleLine) (view.lines line)
  /-- The name. -/
  name : s.name = view.name
  /-- The priority. -/
  priority : s.priority = view.priority

/-- The text of a line when one line was set. -/
theorem ScreenView.lines_setLine {screen : Screen} (view : ScreenView) (line : Int) {text : Str}
    {other : Int} (h : other ∈ screen.lineNumbers) :
    (view.setLine screen line text).lines other
      = if other = line then text else view.lines other := by
  show (if line ∈ screen.lineNumbers then Function.update view.lines line text
    else view.lines) other = _
  by_cases hline : line ∈ screen.lineNumbers
  · rw [if_pos hline]
    exact Function.update_apply ..
  · rw [if_neg hline, if_neg]
    rintro rfl
    exact hline h

namespace ScreenCall

variable {lcd : LcdStuff} {name : Str}

/-- What a call queues is for the screen of its module, and only `screen_create` adds one. -/
theorem of_mem_commands {call : ScreenCall} {cmd : Command} (h : cmd ∈ call.commands lcd name) :
    cmd.moduleName = some name ∧ (call = .create ∨ cmd.onScreen none = none) := by
  have hshow : ∀ (line : Int) (text : Option Str), cmd ∈ Screen.showText ⟨lcd, name⟩ line text →
      cmd.moduleName = some name ∧ cmd.onScreen none = none := by
    intro line text hmem
    unfold Screen.showText at hmem
    split at hmem
    · exact absurd hmem List.not_mem_nil
    · cases text with
      | none => exact absurd hmem List.not_mem_nil
      | some text =>
        obtain rfl := List.mem_singleton.mp hmem
        exact ⟨rfl, rfl⟩
  cases call with
  | create =>
    refine ⟨?_, .inl rfl⟩
    rcases List.mem_append.mp h with h | h
    · rcases List.mem_cons.mp h with rfl | h
      · rfl
      · split at h
        · exact absurd h List.not_mem_nil
        · obtain rfl := List.mem_singleton.mp h
          rfl
    · obtain ⟨line, -, rfl⟩ := List.mem_map.mp h
      rfl
  | setTitle title =>
    have h : cmd ∈ Screen.setTitle ⟨lcd, name⟩ title := h
    unfold Screen.setTitle at h
    split at h
    · exact absurd h List.not_mem_nil
    · cases title with
      | none => exact absurd h List.not_mem_nil
      | some title =>
        obtain rfl := List.mem_singleton.mp h
        exact ⟨rfl, .inr rfl⟩
  | showText line text => exact (hshow line text h).imp_right .inr
  | clear =>
    obtain ⟨line, -, h⟩ := List.mem_flatMap.mp h
    exact (hshow line _ h).imp_right .inr
  | setName | setPriority | destroy =>
    obtain rfl := List.mem_singleton.mp h
    exact ⟨rfl, .inr rfl⟩

/-- The texts and the words of a call can be read by the server. -/
def Readable : ScreenCall → Prop
  | setTitle title => ∀ t ∈ title, Clean t
  | setName name => IsArgWord name
  | setPriority priority => priority ∈ screenPriorities
  | showText _ text => ∀ t ∈ text, Clean t
  | create | clear | destroy => True

instance (call : ScreenCall) : Decidable call.Readable :=
  match call with
  | setTitle title => inferInstanceAs (Decidable (∀ t ∈ title, Clean t))
  | setName name => inferInstanceAs (Decidable (IsArgWord name))
  | setPriority priority => inferInstanceAs (Decidable (priority ∈ screenPriorities))
  | showText _ text => inferInstanceAs (Decidable (∀ t ∈ text, Clean t))
  | create | clear | destroy => isTrue trivial

/-- What is queued for a text. -/
theorem of_mem_showText {line : Int} {text : Option Str} {cmd : Command}
    (h : cmd ∈ Screen.showText ⟨lcd, name⟩ line text) :
    ∃ t ∈ text, cmd = .widgetSetLine name line (line + 1 + Screen.titleLine ⟨lcd, name⟩) t := by
  unfold Screen.showText at h
  split at h
  · exact absurd h List.not_mem_nil
  · cases text with
    | none => exact absurd h List.not_mem_nil
    | some text => exact ⟨text, rfl, List.mem_singleton.mp h⟩

/-- The row of a line is on the display. -/
theorem row_pos {line : Int} (h : 0 ≤ line) : 0 < line + 1 + Screen.titleLine ⟨lcd, name⟩ := by
  unfold Screen.titleLine
  split <;> omega

/-- **The commands of a call can be read** when its texts can. -/
theorem readable_of_mem_commands (hname : IsArgWord name) {created : Bool} {call : ScreenCall}
    (hmade : call.Made created) (hcall : call.Readable) {cmd : Command}
    (h : cmd ∈ call.commands lcd name) : cmd.Readable := by
  cases call with
  | create =>
    rcases List.mem_append.mp h with h | h
    · rcases List.mem_cons.mp h with rfl | h
      · exact hname
      · split at h
        · exact absurd h List.not_mem_nil
        · obtain rfl := List.mem_singleton.mp h
          exact hname
    · obtain ⟨line, -, rfl⟩ := List.mem_map.mp h
      exact hname
  | setTitle title =>
    have h : cmd ∈ Screen.setTitle ⟨lcd, name⟩ title := h
    unfold Screen.setTitle at h
    split at h
    · exact absurd h List.not_mem_nil
    · cases title with
      | none => exact absurd h List.not_mem_nil
      | some title =>
        obtain rfl := List.mem_singleton.mp h
        exact ⟨hname, hcall title rfl⟩
  | showText line text =>
    obtain ⟨t, ht, rfl⟩ := of_mem_showText h
    exact ⟨hname, row_pos hmade.2, hcall t ht⟩
  | clear =>
    obtain ⟨line, hline, h⟩ := List.mem_flatMap.mp h
    obtain ⟨t, ht, rfl⟩ := of_mem_showText h
    obtain rfl := Option.some.inj ht
    exact ⟨hname, row_pos ((Screen.mem_lineNumbers _).mp hline).1,
      fun c hc => absurd hc List.not_mem_nil⟩
  | setName newName =>
    obtain rfl := List.mem_singleton.mp h
    exact ⟨hname, hcall⟩
  | setPriority priority =>
    obtain rfl := List.mem_singleton.mp h
    exact ⟨hname, hcall⟩
  | destroy =>
    obtain rfl := List.mem_singleton.mp h
    exact hname

/-- The screen after the commands of a call. -/
def onScreen (lcd : LcdStuff) (name : Str) (call : ScreenCall) (s : Option ShownScreen) :
    Option ShownScreen :=
  (call.commands lcd name).foldl (fun s cmd => cmd.onScreen s) s

/-- Where there is no screen, nothing is drawn but one that is added. -/
theorem onScreen_none {call : ScreenCall} (h : call ≠ .create) :
    call.onScreen lcd name none = none := by
  have hnone : ∀ cmds : List Command, (∀ cmd ∈ cmds, cmd.onScreen none = none) →
      cmds.foldl (fun s cmd => cmd.onScreen s) none = none := by
    intro cmds hcmds
    induction cmds with
    | nil => rfl
    | cons cmd cmds ih =>
      rw [List.foldl_cons, hcmds cmd (List.mem_cons_self ..)]
      exact ih (fun cmd hmem => hcmds cmd (List.mem_cons_of_mem _ hmem))
  exact hnone _ (fun cmd hcmd => (of_mem_commands hcmd).2.resolve_left h)

/-- Widgets that are added are blank, and those that are there stay as they are. -/
theorem foldl_onScreen_widgetAddLine (ls : List Int) (s : ShownScreen) :
    (ls.map (Command.widgetAddLine name)).foldl (fun s cmd => cmd.onScreen s) (some s)
      = some { s with lines := fun l =>
          if l ∈ ls then some ((s.lines l).getD ⟨none, []⟩) else s.lines l } := by
  induction ls generalizing s with
  | nil => rfl
  | cons l ls ih =>
    rw [List.map_cons, List.foldl_cons]
    refine (ih _).trans (congrArg some ?_)
    congr 1
    funext k
    by_cases hk : k = l
    · subst hk
      rw [if_pos (List.mem_cons_self ..)]
      show (if k ∈ ls then some ((Function.update s.lines k _ k).getD _)
        else Function.update s.lines k _ k) = _
      rw [Function.update_self, Option.getD_some]
      split <;> rfl
    · show (if k ∈ ls then some ((Function.update s.lines l _ k).getD _)
        else Function.update s.lines l _ k) = _
      rw [Function.update_of_ne hk]
      exact if_congr (by rw [List.mem_cons, or_iff_right hk]) rfl rfl

/-- **`screen_create`** makes a screen with a widget for each line, and leaves those that are
there as they are. -/
theorem onScreen_create (s : Option ShownScreen) :
    ScreenCall.create.onScreen lcd name s = some { s.getD .blank with
      title := if lcd.noTitle then (s.getD .blank).title
        else some ((s.getD .blank).title.getD [])
      lines := fun l => if l ∈ Screen.lineNumbers ⟨lcd, name⟩ then
          some (((s.getD .blank).lines l).getD ⟨none, []⟩) else (s.getD .blank).lines l } := by
  have hadd : Command.onScreen (.screenAdd name) s = some (s.getD .blank) := by
    cases s with
    | none => rfl
    | some s => rfl
  show ((_ :: (if lcd.noTitle then [] else [Command.widgetAddTitle name]))
    ++ (Screen.lineNumbers ⟨lcd, name⟩).map (Command.widgetAddLine name)).foldl _ s = _
  rw [List.cons_append, List.foldl_cons, hadd, List.foldl_append]
  cases lcd.noTitle with
  | true => exact foldl_onScreen_widgetAddLine _ _
  | false => exact foldl_onScreen_widgetAddLine _ _

/-- **A text that is shown** is on the row of its line. -/
theorem shows_showText {s : ShownScreen} {view : ScreenView}
    (h : s.Shows ⟨lcd, name⟩ view) (line : Int) (text : Str) :
    ∃ s', (Screen.showText ⟨lcd, name⟩ line (some text)).foldl (fun s cmd => cmd.onScreen s)
        (some s) = some s' ∧ s'.Shows ⟨lcd, name⟩ (view.setLine ⟨lcd, name⟩ line text) := by
  rcases Int.lt_or_le line (Screen.calculateLines ⟨lcd, name⟩) with hlt | hle
  · rw [Screen.showText_of_lt _ hlt]
    refine ⟨_, rfl, h.title, fun other hother => ?_, h.name, h.priority⟩
    rw [ScreenView.lines_setLine _ _ hother]
    have hread := h.line other hother
    unfold ShownScreen.Reads at hread ⊢
    dsimp only
    by_cases heq : other = line
    · subst heq
      rw [if_pos rfl, Function.update_self]
      rcases hread with hread | ⟨hread, -⟩
      · rw [hread]
        exact .inl rfl
      · rw [hread]
        exact .inl rfl
    · rw [if_neg heq, Function.update_of_ne heq]
      exact hread
  · rw [Screen.showText_of_le _ hle]
    refine ⟨s, rfl, h.title, fun other hother => ?_, h.name, h.priority⟩
    rw [ScreenView.lines_setLine _ _ hother, if_neg]
    · exact h.line other hother
    · rintro rfl
      exact absurd ((Screen.mem_lineNumbers _).mp hother).2 (by omega)

/-- Lines that are emptied one after the other. -/
theorem shows_clear {s : ShownScreen} {view : ScreenView} (h : s.Shows ⟨lcd, name⟩ view)
    (ls : List Int) :
    ∃ s', (ls.flatMap (fun line => Screen.showText ⟨lcd, name⟩ line (some []))).foldl
        (fun s cmd => cmd.onScreen s) (some s) = some s'
      ∧ s'.Shows ⟨lcd, name⟩ { view with lines := fun line =>
          if line ∈ ls then [] else view.lines line } := by
  induction ls generalizing s view with
  | nil => exact ⟨s, rfl, h⟩
  | cons l ls ih =>
    obtain ⟨s₁, hfold₁, h₁⟩ := shows_showText h l []
    obtain ⟨s', hfold, h'⟩ := ih h₁
    refine ⟨s', ?_, h'.title, fun line hline => ?_, h'.name, h'.priority⟩
    · rw [List.flatMap_cons, List.foldl_append, hfold₁, hfold]
    · have hread := h'.line line hline
      have hlines : (if line ∈ ls then ([] : Str)
          else (view.setLine ⟨lcd, name⟩ l []).lines line)
          = if line ∈ l :: ls then [] else view.lines line := by
        rw [ScreenView.lines_setLine _ _ hline]
        by_cases hmem : line ∈ ls
        · rw [if_pos hmem, if_pos (List.mem_cons_of_mem _ hmem)]
        · rw [if_neg hmem]
          exact if_congr (by rw [List.mem_cons, or_iff_left hmem]) rfl rfl
      dsimp only at hread ⊢
      rw [← hlines]
      exact hread

/-- **A call does on the server what it is for.** -/
theorem shows_onScreen (call : ScreenCall) {s : Option ShownScreen} {view : Option ScreenView}
    (h : Option.Rel (ShownScreen.Shows ⟨lcd, name⟩) s view) :
    Option.Rel (ShownScreen.Shows ⟨lcd, name⟩) (call.onScreen lcd name s)
      (ScreenView.draw ⟨lcd, name⟩ view call) := by
  cases h with
  | none =>
    by_cases hcall : call = .create
    · subst hcall
      rw [onScreen_create]
      refine .some ⟨rfl, fun line hline => .inr ⟨if_pos hline, rfl⟩, rfl, rfl⟩
    · rw [onScreen_none hcall]
      cases call with
      | create => exact absurd rfl hcall
      | _ => exact .none
  | @some s view h =>
    cases call with
    | create =>
      rw [onScreen_create]
      refine .some ⟨?_, fun line hline => ?_, h.name, h.priority⟩
      · have htitle := h.title
        dsimp only [Option.getD_some]
        rw [htitle]
        cases lcd.noTitle with
        | true => rfl
        | false => rfl
      · have hread := h.line line hline
        unfold ShownScreen.Reads at hread ⊢
        dsimp only [Option.getD_some]
        rw [if_pos hline]
        rcases hread with hread | ⟨hread, hempty⟩
        · rw [hread]
          exact .inl rfl
        · rw [hread]
          exact .inr ⟨rfl, hempty⟩
    | setTitle title =>
      have htitle := h.title
      unfold onScreen commands Screen.setTitle ScreenView.draw
      dsimp only at htitle ⊢
      cases hno : lcd.noTitle with
      | true => exact .some h
      | false =>
        rw [hno, if_neg Bool.false_ne_true] at htitle
        cases title with
        | none => exact .some h
        | some title =>
          refine .some ⟨?_, h.line, h.name, h.priority⟩
          show s.title.map (fun _ => title) = if lcd.noTitle then none else some title
          rw [htitle, hno]
          rfl
    | setName newName => exact .some ⟨h.title, h.line, rfl, h.priority⟩
    | setPriority priority => exact .some ⟨h.title, h.line, h.name, rfl⟩
    | showText line text =>
      cases text with
      | none =>
        unfold onScreen commands
        dsimp only
        rw [Screen.showText_none]
        exact .some h
      | some text =>
        obtain ⟨s', hfold, hshows⟩ := shows_showText h line text
        exact (show onScreen lcd name (.showText line (some text)) (some s) = some s' from hfold)
          ▸ .some hshows
    | clear =>
      obtain ⟨s', hfold, hshows⟩ := shows_clear h (Screen.lineNumbers ⟨lcd, name⟩)
      exact (show onScreen lcd name .clear (some s) = some s' from hfold) ▸ .some hshows
    | destroy => exact .none

end ScreenCall

/-! ## Texts on a screen -/

/-- **Texts on a screen**: a title, and the lines in their order with nothing below them. -/
structure ScreenView.ShowsTexts (screen : Screen) (title : Str) (texts : List Str)
    (view : ScreenView) : Prop where
  /-- The title, if there is room for one. -/
  title : view.title = if screen.lcd.noTitle then [] else title
  /-- The lines. -/
  line : ∀ i : ℕ, (i : Int) ∈ screen.lineNumbers → view.lines i = texts.getD i []

namespace ScreenCall

/-- A call that writes texts to a screen. -/
def WritesText : ScreenCall → Prop
  | .setTitle _ | .clear | .showText _ _ => True
  | _ => False

/-- Texts that are written leave no title where there is no room for one. -/
theorem exists_draw_of_writesText {screen : Screen} {calls : List ScreenCall}
    (h : ∀ call ∈ calls, call.WritesText) {view : ScreenView}
    (hview : screen.lcd.noTitle = true → view.title = []) :
    ∃ view', calls.foldl (ScreenView.draw screen) (some view) = some view'
      ∧ (screen.lcd.noTitle = true → view'.title = []) := by
  induction calls generalizing view with
  | nil => exact ⟨view, rfl, hview⟩
  | cons call calls ih =>
    have hrest := fun c hc => h c (List.mem_cons_of_mem _ hc)
    have hcall := h call (List.mem_cons_self ..)
    cases call with
    | setTitle title =>
      refine ih hrest (fun hno => ?_)
      show (if screen.lcd.noTitle then view.title else _) = []
      rw [if_pos hno]
      exact hview hno
    | clear => exact ih hrest hview
    | showText line text =>
      cases text with
      | none => exact ih hrest hview
      | some text => exact ih hrest hview
    | _ => exact absurd hcall id

/-- A title, and texts that are shown line by line on a screen that was cleared. -/
def showTexts (title : Str) (texts : List Str) : List ScreenCall :=
  .setTitle (some title) :: .clear :: texts.zipIdx.map (fun p => .showText p.2 (some p.1))

/-- Texts that are shown from some line on. -/
theorem foldl_draw_showText (screen : Screen) (texts : List Str) (k : ℕ) (view : ScreenView) :
    ∃ lines, ((texts.zipIdx k).map (fun p : Str × ℕ => ScreenCall.showText p.2 (some p.1))).foldl
        (ScreenView.draw screen) (some view) = some { view with lines := lines }
      ∧ ∀ i : ℕ, (i : Int) ∈ screen.lineNumbers → lines i
        = if k ≤ i then texts.getD (i - k) (view.lines i) else view.lines i := by
  induction texts generalizing k view with
  | nil =>
    refine ⟨view.lines, rfl, fun i _ => ?_⟩
    split
    · rfl
    · rfl
  | cons text texts ih =>
    obtain ⟨lines, hfold, hlines⟩ := ih (k + 1) (view.setLine screen k text)
    refine ⟨lines, hfold, fun i hi => ?_⟩
    rw [hlines i hi, ScreenView.lines_setLine view k hi]
    rcases Nat.lt_trichotomy i k with hlt | rfl | hgt
    · rw [if_neg (by omega), if_neg (by omega), if_neg (by omega)]
    · rw [if_neg (by omega), if_pos rfl, if_pos (Nat.le_refl i), Nat.sub_self]
      rfl
    · have hsub : i - k = i - (k + 1) + 1 := by omega
      rw [if_pos (by omega), if_neg (by omega), if_pos (by omega), hsub]
      rfl

/-- **Texts are shown** whatever was on the screen. -/
theorem shows_showTexts (screen : Screen) (title : Str) (texts : List Str) {view : ScreenView}
    (hview : screen.lcd.noTitle = true → view.title = []) :
    ∃ view', (showTexts title texts).foldl (ScreenView.draw screen) (some view) = some view'
      ∧ view'.ShowsTexts screen title texts := by
  let cleared : ScreenView := { view with
    title := if screen.lcd.noTitle then view.title else title
    lines := fun line => if line ∈ screen.lineNumbers then [] else view.lines line }
  obtain ⟨lines, hfold, hlines⟩ := foldl_draw_showText screen texts 0 cleared
  refine ⟨{ cleared with lines := lines }, hfold, ?_, fun i hi => ?_⟩
  · show (if screen.lcd.noTitle then view.title else title) = _
    split
    · next hno => exact hview hno
    · rfl
  · have hempty : cleared.lines i = [] := if_pos hi
    show lines i = _
    rw [hlines i hi, if_pos (Nat.zero_le i), hempty, Nat.sub_zero]

end ScreenCall

/-! ## The runs of the modules -/

namespace Drawing

variable {ι : Type} [DecidableEq ι]

/-- What is noted of a step: the calls of each module, in their order. -/
def note (_ : Drawing ι) (act : DrawingAct ι) (calls : ι → List ScreenCall) :
    ι → List ScreenCall :=
  match act with
  | .call i call => Function.update calls i (calls i ++ [call])
  | _ => calls

/-- The modules with the calls that they have made. -/
def historySystem (lcd : LcdStuff) (name : ι → Str) :
    StepSystem (Drawing ι × (ι → List ScreenCall)) (DrawingAct ι) :=
  (system lcd name).history note (fun _ => [])

/-- The commands of some calls. -/
def commandsOf (lcd : LcdStuff) (name : Str) (calls : List ScreenCall) : List Command :=
  calls.flatMap (ScreenCall.commands lcd name)

/-- **What is in the queue of one module**: all that its calls queue but for what is left of the
last one, unless the module drops commands because `g_exit` is set. -/
structure Owned (lcd : LcdStuff) (name : ι → Str) (i : ι) (s : Drawing ι)
    (calls : ι → List ScreenCall) : Prop where
  /-- Every module pushes commands for its own screen. -/
  left : ∀ j, ∀ cmd ∈ s.left j, cmd.moduleName = some (name j)
  /-- The queue. -/
  queue : (s.gExit = true ∧ s.passed i = false
      ∧ Command.ofModule (name i) s.queue <+: commandsOf lcd (name i) (calls i))
    ∨ Command.ofModule (name i) s.queue ++ s.left i = commandsOf lcd (name i) (calls i)

variable {lcd : LcdStuff} {name : ι → Str} {i : ι} {s s' : Drawing ι}
  {calls : ι → List ScreenCall}

omit [DecidableEq ι] in
/-- In any case it is the first part of them. -/
theorem Owned.isPrefix (h : Owned lcd name i s calls) :
    Command.ofModule (name i) s.queue <+: commandsOf lcd (name i) (calls i) := by
  rcases h.queue with ⟨-, -, hprefix⟩ | heq
  · exact hprefix
  · exact ⟨s.left i, heq⟩

/-- A module makes a call. -/
theorem Owned.call (h : Owned lcd name i s calls) {j : ι} {call : ScreenCall}
    (hleft : s.left j = []) (created : ι → Bool) :
    Owned lcd name i { s with
      created := created
      left := Function.update s.left j (call.commands lcd (name j)) }
      (Function.update calls j (calls j ++ [call])) := by
  constructor
  · intro k cmd hcmd
    have hcmd : cmd ∈ Function.update s.left j (call.commands lcd (name j)) k := hcmd
    by_cases hk : k = j
    · subst hk
      rw [Function.update_self] at hcmd
      exact (ScreenCall.of_mem_commands hcmd).1
    · rw [Function.update_of_ne hk] at hcmd
      exact h.left k cmd hcmd
  · show _ ∧ _ ∧ Command.ofModule (name i) s.queue <+: _
      ∨ Command.ofModule (name i) s.queue ++ Function.update s.left j _ i = _
    by_cases hj : i = j
    · subst hj
      rw [Function.update_self, Function.update_self, commandsOf, List.flatMap_append,
        List.flatMap_singleton]
      refine h.queue.imp (fun hcut => ⟨hcut.1, hcut.2.1, ?_⟩) (fun heq => ?_)
      · exact hcut.2.2.trans (List.prefix_append ..)
      · rw [hleft, List.append_nil] at heq
        rw [heq]
        rfl
    · rw [Function.update_of_ne hj, Function.update_of_ne hj]
      exact h.queue

/-- A module drops a command. -/
theorem Owned.drop (h : Owned lcd name i s calls) {j : ι} {cmd : Command} {rest : List Command}
    (hleft : s.left j = cmd :: rest) (hpassed : s.passed j = false) (hexit : s.gExit = true) :
    Owned lcd name i { s with left := Function.update s.left j rest } calls := by
  refine ⟨fun k other hother => h.left k other (mem_left_of_mem_update hleft hother), ?_⟩
  by_cases hj : i = j
  · subst hj
    exact .inl ⟨hexit, hpassed, h.isPrefix⟩
  · refine h.queue.imp_right (fun heq => ?_)
    show _ ++ Function.update s.left j rest i = _
    rw [Function.update_of_ne hj]
    exact heq

/-- **A module pushes a command.** -/
theorem Owned.push (h : Owned lcd name i s calls) (hname : ∀ j, j ≠ i → name j ≠ name i) {j : ι}
    {cmd : Command} {rest : List Command} (hleft : s.left j = cmd :: rest)
    (hpassed : s.passed j = true) :
    Owned lcd name i { s with
      left := Function.update s.left j rest
      passed := Function.update s.passed j false
      queue := s.queue ++ [cmd] } calls := by
  have hcmd := h.left j cmd (hleft ▸ List.mem_cons_self ..)
  constructor
  · exact fun k other hother => h.left k other (mem_left_of_mem_update hleft hother)
  · show _ ∧ Function.update s.passed j false i = false
        ∧ Command.ofModule (name i) (s.queue ++ [cmd]) <+: _
      ∨ Command.ofModule (name i) (s.queue ++ [cmd]) ++ Function.update s.left j rest i = _
    by_cases hj : i = j
    · subst hj
      have heq := h.queue.resolve_left
        (fun hcut => Bool.false_ne_true (hcut.2.1.symm.trans hpassed))
      right
      rw [Function.update_self, Command.ofModule, List.filter_append,
        List.filter_singleton, decide_eq_true hcmd, ← heq, hleft, List.append_assoc]
      rfl
    · have hother : cmd.moduleName ≠ some (name i) := fun heq =>
        hname j (Ne.symm hj) (Option.some.inj (hcmd.symm.trans heq))
      rw [Function.update_of_ne hj, Function.update_of_ne hj, Command.ofModule,
        List.filter_append, List.filter_singleton, decide_eq_false hother]
      show _ ∧ _ ∧ Command.ofModule (name i) s.queue ++ [] <+: _
        ∨ Command.ofModule (name i) s.queue ++ [] ++ s.left i = _
      rw [List.append_nil]
      exact h.queue

/-- **Every step keeps it.** -/
theorem Owned.step (h : Owned lcd name i s calls) (hname : ∀ j, j ≠ i → name j ≠ name i)
    {act : DrawingAct ι} (hstep : s.step lcd name act = some s') :
    Owned lcd name i s' (note s act calls) := by
  cases taken_of_step hstep with
  | exit => exact ⟨h.left, h.queue.imp_left (fun hcut => ⟨rfl, hcut.2⟩)⟩
  | call hleft _ => exact h.call hleft _
  | drop hleft hpassed hexit => exact h.drop hleft hpassed hexit
  | pass _ hexit =>
    refine ⟨h.left, .inr (h.queue.resolve_left (fun hcut => ?_))⟩
    exact Bool.false_ne_true (hexit.symm.trans hcut.1)
  | push hleft hpassed => exact h.push hname hleft hpassed

/-- It holds in every run. -/
theorem owned_of_reachable (h : (historySystem lcd name).Reachable (s, calls))
    (hname : ∀ j, j ≠ i → name j ≠ name i) : Owned lcd name i s calls := by
  have hinit : Owned lcd name i init (fun _ => []) :=
    ⟨fun _ cmd hcmd => absurd hcmd List.not_mem_nil, .inr rfl⟩
  exact h.invariant (fun p => Owned lcd name i p.1 p.2) hinit (fun p act p' hp _ hstep => by
    obtain ⟨t, ht, rfl⟩ := StepSystem.of_history_step hstep
    exact hp.step hname ht)

/-- **No module disturbs another**: what is in the queue for the screen of a module is what its own
calls queue, in their order, up to some place. -/
theorem ofModule_isPrefix_of_reachable (h : (historySystem lcd name).Reachable (s, calls))
    (hname : ∀ j, j ≠ i → name j ≠ name i) :
    Command.ofModule (name i) s.queue <+: commandsOf lcd (name i) (calls i) :=
  (owned_of_reachable h hname).isPrefix

/-- The first part of them, when `g_exit` was set between two commands of a module. -/
theorem ofModule_isPrefix_of_reachable_two :
    ∃ (s : Drawing Bool) (calls : Bool → List ScreenCall), (calls true).length = 2
      ∧ s.gExit = true ∧ Command.ofModule "mail".toList s.queue
        <+: commandsOf ⟨⟨20, 4⟩, false⟩ "mail".toList (calls true) := by
  let name : Bool → Str := fun i => if i then "mail".toList else "rss".toList
  let run := (historySystem ⟨⟨20, 4⟩, false⟩ name).replayAny (init, fun _ => [])
    (.call true .create :: .call false .create
      :: (List.replicate 5 [.test true, .push true, .test false, .push false]).flatten
      ++ [.call true (.setTitle (some "Mail".toList)), .exit, .test true])
  have hrun : run.map (fun p => decide ((p.2 true).length = 2 ∧ p.1.gExit = true))
      = some true := by
    decide +kernel
  obtain ⟨⟨s, calls⟩, hs, hend⟩ := StepSystem.exists_reachableBy_of_replay hrun
  obtain ⟨hlen, hexit⟩ := of_decide_eq_true hend
  exact ⟨s, calls, hlen, hexit, @ofModule_isPrefix_of_reachable _ _ _ name true _ _ hs (by decide)⟩

/-- **What is queued comes from the calls**: each command that is in the queue or about to be
pushed is one of a call that was made. -/
structure FromCalls (lcd : LcdStuff) (name : ι → Str) (s : Drawing ι)
    (calls : ι → List ScreenCall) : Prop where
  /-- What is left of a call. -/
  left : ∀ j, ∀ cmd ∈ s.left j, ∃ call ∈ calls j, (∃ created, call.Made created)
    ∧ cmd ∈ call.commands lcd (name j)
  /-- The queue. -/
  queue : ∀ cmd ∈ s.queue, ∃ j, ∃ call ∈ calls j, (∃ created, call.Made created)
    ∧ cmd ∈ call.commands lcd (name j)

/-- A module makes a call. -/
theorem FromCalls.call (h : FromCalls lcd name s calls) {j : ι} {call : ScreenCall}
    (hmade : call.Made (s.created j)) (created : ι → Bool) :
    FromCalls lcd name { s with
      created := created
      left := Function.update s.left j (call.commands lcd (name j)) }
      (Function.update calls j (calls j ++ [call])) := by
  have hgrows : ∀ k, calls k ⊆ Function.update calls j (calls j ++ [call]) k := by
    intro k
    by_cases hk : k = j
    · subst hk
      rw [Function.update_self]
      exact List.subset_append_left ..
    · rw [Function.update_of_ne hk]
      exact List.Subset.refl _
  constructor
  · intro k cmd hcmd
    have hcmd : cmd ∈ Function.update s.left j (call.commands lcd (name j)) k := hcmd
    by_cases hk : k = j
    · subst hk
      rw [Function.update_self] at hcmd
      refine ⟨call, ?_, ⟨_, hmade⟩, hcmd⟩
      rw [Function.update_self]
      exact List.mem_append_right _ (List.mem_singleton_self call)
    · rw [Function.update_of_ne hk] at hcmd
      obtain ⟨other, hother, hcalled⟩ := h.left k cmd hcmd
      exact ⟨other, hgrows k hother, hcalled⟩
  · intro cmd hcmd
    obtain ⟨k, other, hother, hcalled⟩ := h.queue cmd hcmd
    exact ⟨k, other, hgrows k hother, hcalled⟩

/-- Every step keeps it. -/
theorem FromCalls.step (h : FromCalls lcd name s calls) {act : DrawingAct ι}
    (hstep : s.step lcd name act = some s') : FromCalls lcd name s' (note s act calls) := by
  cases taken_of_step hstep with
  | exit => exact ⟨h.left, h.queue⟩
  | call _ hmade => exact h.call hmade _
  | drop hleft _ _ =>
    exact ⟨fun k other hother => h.left k other (mem_left_of_mem_update hleft hother), h.queue⟩
  | pass _ _ => exact ⟨h.left, h.queue⟩
  | @push j cmd rest hleft _ =>
    refine ⟨fun k other hother => h.left k other (mem_left_of_mem_update hleft hother), ?_⟩
    refine List.forall_mem_append.mpr ⟨h.queue, List.forall_mem_singleton.mpr ?_⟩
    exact ⟨j, h.left j cmd (hleft ▸ List.mem_cons_self ..)⟩

/-- It holds in every run. -/
theorem fromCalls_of_reachable (h : (historySystem lcd name).Reachable (s, calls)) :
    FromCalls lcd name s calls := by
  have hinit : FromCalls lcd name init (fun _ => []) :=
    ⟨fun _ cmd hcmd => absurd hcmd List.not_mem_nil, fun cmd hcmd => absurd hcmd List.not_mem_nil⟩
  exact h.invariant (fun p => FromCalls lcd name p.1 p.2) hinit (fun p act p' hp _ hstep => by
    obtain ⟨t, ht, rfl⟩ := StepSystem.of_history_step hstep
    exact hp.step ht)

/-- **The server can read what the modules have drawn**: their names are words, and so far no
text of any of them had a character in it that means something to the server. -/
structure Legible (name : ι → Str) (calls : ι → List ScreenCall) : Prop where
  /-- The names. -/
  name : ∀ j, IsArgWord (name j)
  /-- The texts. -/
  call : ∀ j, ∀ call ∈ calls j, call.Readable

omit [DecidableEq ι] in
/-- Then it can read the whole queue. -/
theorem FromCalls.readable (h : FromCalls lcd name s calls) (hlegible : Legible name calls) :
    ∀ cmd ∈ s.queue, cmd.Readable := by
  intro cmd hcmd
  obtain ⟨j, call, hcall, ⟨created, hmade⟩, hmem⟩ := h.queue cmd hcmd
  exact ScreenCall.readable_of_mem_commands (hlegible.name j) hmade (hlegible.call j call hcall)
    hmem

/-- The screen after some calls. -/
theorem shows_foldl (m : Str) (calls : List ScreenCall) {s : Option ShownScreen}
    {view : Option ScreenView} (h : Option.Rel (ShownScreen.Shows ⟨lcd, m⟩) s view) :
    Option.Rel (ShownScreen.Shows ⟨lcd, m⟩)
      ((commandsOf lcd m calls).foldl (fun s cmd => cmd.onScreen s) s)
      (calls.foldl (ScreenView.draw ⟨lcd, m⟩) view) := by
  induction calls generalizing s view with
  | nil => exact h
  | cons call calls ih =>
    rw [commandsOf, List.flatMap_cons, List.foldl_append]
    exact ih (ScreenCall.shows_onScreen call h)

omit [DecidableEq ι] in
/-- The screen of a module between two of its calls, while `g_exit` is not set. -/
theorem Owned.shows (h : Owned lcd name i s calls) (hexit : s.gExit = false)
    (hleft : s.left i = []) (server : ScreenServer)
    (hreadable : ∀ cmd ∈ s.queue, cmd.Readable) :
    Option.Rel (ShownScreen.Shows ⟨lcd, name i⟩) (server.screen (server.replay s.queue) (name i))
      ((calls i).foldl (ScreenView.draw ⟨lcd, name i⟩) none) := by
  have hqueue := h.queue.resolve_left (fun hcut => Bool.false_ne_true (hexit.symm.trans hcut.1))
  rw [hleft, List.append_nil] at hqueue
  rw [server.screen_replay hreadable, hqueue]
  exact shows_foldl (name i) (calls i) .none

/-- **The display shows what a module has drawn**, whatever the other modules do, as long as the
server can read it all: between two of its calls its screen is as they have drawn it, one after
the other. -/
theorem shows_of_reachable (server : ScreenServer)
    (h : (historySystem lcd name).Reachable (s, calls)) (hname : ∀ j, j ≠ i → name j ≠ name i)
    (hlegible : Legible name calls) (hexit : s.gExit = false) (hleft : s.left i = []) :
    Option.Rel (ShownScreen.Shows ⟨lcd, name i⟩) (server.screen (server.replay s.queue) (name i))
      ((calls i).foldl (ScreenView.draw ⟨lcd, name i⟩) none) :=
  (owned_of_reachable h hname).shows hexit hleft server
    ((fromCalls_of_reachable h).readable hlegible)

/-- What is to be seen of it then. -/
theorem exists_shown (server : ScreenServer) (h : (historySystem lcd name).Reachable (s, calls))
    (hname : ∀ j, j ≠ i → name j ≠ name i) (hlegible : Legible name calls)
    (hexit : s.gExit = false) (hleft : s.left i = []) {view : ScreenView}
    (hfold : (calls i).foldl (ScreenView.draw ⟨lcd, name i⟩) none = some view) :
    ∃ shown, server.screen (server.replay s.queue) (name i) = some shown
      ∧ shown.Shows ⟨lcd, name i⟩ view := by
  have hshows := (owned_of_reachable h hname).shows hexit hleft server
    ((fromCalls_of_reachable h).readable hlegible)
  rw [hfold] at hshows
  generalize server.screen (server.replay s.queue) (name i) = shown at hshows
  cases hshows with
  | some hshows => exact ⟨_, rfl, hshows⟩

/-! ## A module that draws on its own -/

/-- The module is between two of its calls, and `g_exit` is not set. -/
structure Quiet (i : ι) (s : Drawing ι) : Prop where
  /-- `g_exit` -/
  exit : s.gExit = false
  /-- No command is left. -/
  left : s.left i = []
  /-- Nor is one about to be pushed. -/
  passed : s.passed i = false

/-- The commands of a call can be pushed one after the other. -/
theorem exists_reachable_push (h : (historySystem lcd name).Reachable (s, calls))
    (hexit : s.gExit = false) (hpassed : s.passed i = false) :
    ∃ s', (historySystem lcd name).Reachable (s', calls) ∧ Quiet i s'
      ∧ s'.created = s.created := by
  generalize hleft : s.left i = cmds
  induction cmds generalizing s with
  | nil => exact ⟨s, h, ⟨hexit, hleft, hpassed⟩, rfl⟩
  | cons cmd cmds ih =>
    have htest : (system lcd name).step s (.test i)
        = some { s with passed := Function.update s.passed i true } := by
      show Drawing.step lcd name s (.test i) = _
      unfold Drawing.step
      simp only [hleft, hpassed, hexit, Bool.false_eq_true, if_false]
    let tested : Drawing ι := { s with passed := Function.update s.passed i true }
    have hpush : (system lcd name).step tested (.push i) = some { tested with
        left := Function.update tested.left i cmds
        passed := Function.update tested.passed i false
        queue := tested.queue ++ [cmd] } := by
      show Drawing.step lcd name tested (.push i) = _
      have htested : tested.passed i = true := Function.update_self ..
      unfold Drawing.step
      simp only [htested]
      rw [show tested.left i = cmd :: cmds from hleft]
    have h₁ : (historySystem lcd name).Reachable (tested, calls) :=
      .step h trivial (Option.map_eq_some_iff.mpr ⟨_, htest, rfl⟩)
    have h₂ := StepSystem.ReachableBy.step h₁ trivial
      (Option.map_eq_some_iff.mpr ⟨_, hpush, rfl⟩ :
        (historySystem lcd name).step (tested, calls) (.push i) = some _)
    obtain ⟨s', h', hquiet, hcreated⟩ :=
      ih h₂ hexit (Function.update_self ..) (Function.update_self ..)
    exact ⟨s', h', hquiet, hcreated⟩

/-- The calls of one module, when no other makes any. -/
def alone (i : ι) (made : List ScreenCall) : ι → List ScreenCall :=
  Function.update (fun _ => []) i made

/-- It is legible if those calls are. -/
theorem legible_alone (hname : ∀ j, IsArgWord (name j)) {made : List ScreenCall}
    (hmade : ∀ call ∈ made, call.Readable) : Legible name (alone i made) := by
  refine ⟨hname, fun j call hcall => ?_⟩
  unfold alone at hcall
  by_cases hj : j = i
  · subst hj
    rw [Function.update_self] at hcall
    exact hmade call hcall
  · rw [Function.update_of_ne hj] at hcall
    exact absurd hcall List.not_mem_nil

/-- **Any calls can be made**, when the first of them creates the screen. -/
theorem exists_reachable_alone (lcd : LcdStuff) (name : ι → Str) (i : ι)
    {made : List ScreenCall} (hmade : ∀ call ∈ made, call.Made true) :
    ∃ s, (historySystem lcd name).Reachable (s, alone i (.create :: made)) ∧ Quiet i s := by
  -- one call more, and all its commands
  have hcall : ∀ {s : Drawing ι} {made : List ScreenCall} {call : ScreenCall},
      (historySystem lcd name).Reachable (s, alone i made) → Quiet i s →
      call.Made (s.created i) →
      ∃ s', (historySystem lcd name).Reachable (s', alone i (made ++ [call]))
        ∧ Quiet i s' ∧ s'.created i = true := by
    intro s made call h hquiet hcall
    have hstep : (system lcd name).step s (.call i call) = some { s with
        created := Function.update s.created i true
        left := Function.update s.left i (call.commands lcd (name i)) } :=
      if_pos ⟨hquiet.left, hcall⟩
    have h₁ := StepSystem.ReachableBy.step h trivial
      (Option.map_eq_some_iff.mpr ⟨_, hstep, rfl⟩ :
        (historySystem lcd name).step (s, alone i made) (.call i call) = some _)
    have hcalls : note s (.call i call) (alone i made) = alone i (made ++ [call]) := by
      show Function.update (alone i made) i (alone i made i ++ [call]) = _
      unfold alone
      rw [Function.update_idem, Function.update_self]
    rw [hcalls] at h₁
    obtain ⟨s', h', hquiet', hcreated⟩ := exists_reachable_push h₁ hquiet.exit hquiet.passed
    exact ⟨s', h', hquiet', hcreated ▸ Function.update_self ..⟩
  suffices hall : ∃ s, (historySystem lcd name).Reachable (s, alone i (.create :: made))
      ∧ Quiet i s ∧ s.created i = true by
    obtain ⟨s, h, hquiet, -⟩ := hall
    exact ⟨s, h, hquiet⟩
  induction made using List.reverseRecOn with
  | nil =>
    have hnone : alone i [] = fun _ : ι => ([] : List ScreenCall) := Function.update_eq_self i _
    have hinit : (historySystem lcd name).Reachable (init, alone i []) :=
      hnone ▸ StepSystem.ReachableBy.init
    exact hcall hinit ⟨rfl, rfl, rfl⟩ trivial
  | append_singleton made call ih =>
    obtain ⟨hfirst, hlast⟩ := List.forall_mem_append.mp hmade
    obtain ⟨s, h, hquiet, hcreated⟩ := ih hfirst
    exact hcall h hquiet (hcreated ▸ hlast call (List.mem_singleton_self call))

/-- Two modules that draw in turns, and what the first of them has drawn. -/
theorem shows_of_reachable_two :
    ∃ (s : Drawing Bool) (calls : Bool → List ScreenCall), (calls true).length = 3
      ∧ (calls false).length = 1
      ∧ Option.Rel (ShownScreen.Shows ⟨⟨⟨20, 4⟩, false⟩, "mail".toList⟩)
        (ScreenServer.literal.screen (ScreenServer.literal.replay s.queue) "mail".toList)
        ((calls true).foldl (ScreenView.draw ⟨⟨⟨20, 4⟩, false⟩, "mail".toList⟩) none) := by
  let name : Bool → Str := fun i => if i then "mail".toList else "rss".toList
  let run := (historySystem ⟨⟨20, 4⟩, false⟩ name).replayAny (init, fun _ => [])
    (.call true .create :: .call false .create
      :: (List.replicate 5 [.test true, .push true, .test false, .push false]).flatten
      ++ [.call true (.setTitle (some "Mail".toList)), .test true, .push true,
        .call true (.showText 1 (some "Alice".toList)), .test true, .push true])
  have hrun : run.map (fun p => decide ((p.2 true).length = 3 ∧ (p.2 false).length = 1
      ∧ p.1.gExit = false ∧ p.1.left true = [] ∧ ∀ j, ∀ call ∈ p.2 j, call.Readable))
      = some true := by
    decide +kernel
  obtain ⟨⟨s, calls⟩, hs, hend⟩ := StepSystem.exists_reachableBy_of_replay hrun
  obtain ⟨hmail, hrss, hexit, hleft, hcalls⟩ := of_decide_eq_true hend
  exact ⟨s, calls, hmail, hrss, @shows_of_reachable _ _ _ name true _ _ .literal hs (by decide)
    ⟨by decide, hcalls⟩ hexit hleft⟩

end Drawing
