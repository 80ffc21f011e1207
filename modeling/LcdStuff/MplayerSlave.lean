import LcdStuff.Metainfo
import LcdStuff.StepSystem

/-!
# The program and what it is asked

A program that runs in slave mode is told what to do through one pipe, and answers through
another one. In every round in which it is not paused, the dispatcher asks it for the artist,
reads up to the answer, asks for the title, and reads up to that answer. What the program
prints besides, the dispatcher skips, or leaves in the pipe until the next round.

Nothing in an answer tells which request it is for. But a request is only written when the
answer to the one before has been read, so no answer is ever left in the pipe: as long as the
program answers each request once, in lines that fit the buffer, every round shows what was
answered in that very round (`MplayerSession.shown_of_reachableBy`). The one round that fails is
that in which a pause is taken up although the streams are closed.
-/

/-! ## The output of the program -/

/-- `fgets (buffer, BUFSIZ, ..)` again and again, up to a string that is looked for, with what was
read of a line and with the room for the rest of it: the string, and what is left of the output;
`none` if the output ends before. -/
def fgetsUpTo (wanted : Str → Bool) : ℕ → Str → Str → Option (Str × Str)
  | _, line, [] =>
    let buffer := line.takeWhile (· ≠ '\x00')
    if line ≠ [] ∧ wanted buffer then some (buffer, []) else none
  | room, line, c :: output =>
    if c = '\n' ∨ room = 1 then
      let buffer := (line ++ [c]).takeWhile (· ≠ '\x00')
      if wanted buffer then some (buffer, output) else fgetsUpTo wanted (bufsiz - 1) [] output
    else fgetsUpTo wanted (room - 1) (line ++ [c]) output

/-- A line as a program prints it, which fits the buffer of `fgets`. -/
def IsOutputLine (line : Str) : Prop :=
  ∃ text, line = text ++ ['\n'] ∧ IsLine text ∧ text.length < bufsiz - 1

/-- **Lines that are not looked for**, each of which fits the buffer. -/
def LinesWithout (wanted : Str → Bool) (output : Str) : Prop :=
  ∃ lines : List Str, output = lines.flatten
    ∧ ∀ line ∈ lines, IsOutputLine line ∧ wanted line = false

section reading

variable {wanted : Str → Bool} {output line : Str}

/-- What is read of a line that fits. -/
theorem fgetsUpTo_text {text : Str} (htext : '\n' ∉ text) {room : ℕ} (hroom : text.length < room)
    (read : Str) :
    fgetsUpTo wanted room read (text ++ '\n' :: output)
      = if wanted ((read ++ (text ++ ['\n'])).takeWhile (· ≠ '\x00')) then
          some ((read ++ (text ++ ['\n'])).takeWhile (· ≠ '\x00'), output)
        else fgetsUpTo wanted (bufsiz - 1) [] output := by
  induction text generalizing room read with
  | nil => rw [List.nil_append, fgetsUpTo, if_pos (.inl rfl), List.nil_append]
  | cons c text ih =>
    obtain ⟨hc, hrest⟩ := List.ne_and_not_mem_of_not_mem_cons htext
    rw [List.length_cons] at hroom
    have hgoes : ¬ (c = '\n' ∨ room = 1) := by
      rintro (h | h)
      · exact hc h.symm
      · omega
    have hread : read ++ [c] ++ (text ++ ['\n']) = read ++ (c :: text ++ ['\n']) :=
      List.append_assoc ..
    rw [List.cons_append, fgetsUpTo, if_neg hgoes, ih hrest (by omega), hread]

/-- **A line that fits is read as it is.** -/
theorem fgetsUpTo_line (hline : IsOutputLine line) :
    fgetsUpTo wanted (bufsiz - 1) [] (line ++ output)
      = if wanted line then some (line, output) else fgetsUpTo wanted (bufsiz - 1) [] output := by
  obtain ⟨text, rfl, htext, hfits⟩ := hline
  have hnul : (text ++ ['\n']).takeWhile (· ≠ '\x00') = text ++ ['\n'] := by
    refine List.takeWhile_eq_self_iff.mpr (fun c hc => decide_eq_true ?_)
    rcases List.mem_append.mp hc with hc | hc
    · exact (htext c hc).1
    · rw [List.mem_singleton.mp hc]
      decide
  have hread := @fgetsUpTo_text wanted output text (fun hmem => (htext _ hmem).2 rfl) _ hfits []
  rw [List.nil_append, hnul] at hread
  rw [List.append_assoc]
  exact hread

/-- **Lines that are not looked for are skipped.** -/
theorem fgetsUpTo_append {skipped : Str} (h : LinesWithout wanted skipped) (output : Str) :
    fgetsUpTo wanted (bufsiz - 1) [] (skipped ++ output)
      = fgetsUpTo wanted (bufsiz - 1) [] output := by
  obtain ⟨lines, rfl, hlines⟩ := h
  induction lines with
  | nil => rfl
  | cons line lines ih =>
    obtain ⟨⟨hline, hskip⟩, hrest⟩ := List.forall_mem_cons.mp hlines
    rw [List.flatten_cons, List.append_assoc, fgetsUpTo_line hline, hskip]
    exact ih hrest

theorem LinesWithout.append {output' : Str} (h : LinesWithout wanted output)
    (h' : LinesWithout wanted output') : LinesWithout wanted (output ++ output') := by
  obtain ⟨lines, rfl, hlines⟩ := h
  obtain ⟨lines', rfl, hlines'⟩ := h'
  exact ⟨lines ++ lines', List.flatten_append.symm, List.forall_mem_append.mpr ⟨hlines, hlines'⟩⟩

/-- Of fewer strings that are looked for there are none either. -/
theorem LinesWithout.mono {wanted' : Str → Bool} (h : LinesWithout wanted output)
    (hfewer : ∀ line, wanted line = false → wanted' line = false) :
    LinesWithout wanted' output := by
  obtain ⟨lines, rfl, hlines⟩ := h
  exact ⟨lines, rfl, fun line hline => (hlines line hline).imp_right (hfewer line)⟩

end reading

namespace LcdStuffMplayer

/-- `mplayer_wait_for_playback`: what it leaves of the output. -/
def waitForPlayback (output : Str) : Str :=
  ((fgetsUpTo (startsWith · "Starting playback...".toList) (bufsiz - 1) [] output).map
    Prod.snd).getD []

/-- The loop that reads up to the answer that begins with `start`, and what it leaves of the
output. -/
def answerFrom (start output : Str) : Except Fault (Option Str × Str) :=
  match fgetsUpTo (startsWith · start) (bufsiz - 1) [] output with
  | none => .ok (none, [])
  | some (buffer, output) => do
    let text ← copyAnswer start buffer
    return (some text, output)

/-- What is found among the strings that `fgets` reads, from the middle of a line on. -/
theorem findAnswer_fgetsLines (start : Str) (room : ℕ) (line output : Str) :
    findAnswer start ((fgetsLines room line output).map (fun line => line.takeWhile (· ≠ '\x00')))
      = (fgetsUpTo (startsWith · start) room line output).elim (.ok (none, []))
        (fun r => (copyAnswer start r.1).map (fun text => (some text, fgetsStrings r.2))) := by
  induction output generalizing room line with
  | nil =>
    rw [fgetsLines, fgetsUpTo]
    by_cases hline : line = []
    · rw [if_pos hline, if_neg (fun hwanted => hwanted.1 hline)]
      rfl
    · rw [if_neg hline]
      by_cases hstarts : startsWith (line.takeWhile (· ≠ '\x00')) start = true
      · rw [if_pos ⟨hline, hstarts⟩]
        exact if_pos hstarts
      · rw [if_neg (fun hwanted => hstarts hwanted.2)]
        exact if_neg hstarts
  | cons c output ih =>
    rw [fgetsLines, fgetsUpTo]
    split
    · rw [List.map_cons, findAnswer]
      dsimp only
      split
      · rfl
      · exact ih _ _
    · exact ih _ _

/-- **The bytes are read as the strings are**, and as much is left of both. -/
theorem findAnswer_fgetsStrings (start output : Str) :
    findAnswer start (fgetsStrings output)
      = (answerFrom start output).map (fun r => (r.1, fgetsStrings r.2)) := by
  unfold fgetsStrings answerFrom
  rw [findAnswer_fgetsLines]
  cases fgetsUpTo (startsWith · start) (bufsiz - 1) [] output with
  | none => rfl
  | some r =>
    show Except.map _ (copyAnswer start r.1) = Except.map _ (copyAnswer start r.1 >>= _)
    cases copyAnswer start r.1 <;> rfl

/-- `mplayer_update_metainfo`, with what the program prints when it is asked for the artist and
for the title, and what was in the pipe before; and what it leaves there. Both requests can be
written. -/
def askMetainfo (mplayer : LcdStuffMplayer) (unread forArtist forTitle : Str) :
    Except Fault (List Command × Str) :=
  if mplayer.current.inputStream = none ∨ mplayer.current.outputStream = none then
    .ok ([], unread)
  else do
    let (artist, rest) ← answerFrom artistStart (unread ++ forArtist)
    let (title, rest) ← answerFrom titleStart (rest ++ forTitle)
    return (mplayer.showMetainfo artist title, rest)

/-! ## Answers -/

/-- A line that is taken for an answer. -/
def isAnswer (line : Str) : Bool :=
  startsWith line artistStart || startsWith line titleStart

/-- **Output that answers nothing.** -/
def Unasked (output : Str) : Prop := LinesWithout isAnswer output

/-- **What a program prints when it is asked**: the answer once, and lines that answer nothing. All
of them fit the buffer. -/
def Answers (start text output : Str) : Prop :=
  ∃ before after, output = before ++ (quoted start text ++ after)
    ∧ IsOutputLine (quoted start text) ∧ Unasked before ∧ Unasked after

variable {start text output : Str}

/-- What answers nothing answers none of the two requests. -/
theorem Unasked.without (h : Unasked output) (hstart : start = artistStart ∨ start = titleStart) :
    LinesWithout (startsWith · start) output := by
  refine h.mono (fun line hline => ?_)
  obtain ⟨hartist, htitle⟩ := Bool.or_eq_false_iff.mp hline
  rcases hstart with rfl | rfl
  · exact hartist
  · exact htitle

/-- **The answer is found**, behind whatever was left in the pipe. -/
theorem Answers.answerFrom (h : Answers start text output)
    (hstart : start = artistStart ∨ start = titleStart) {unread : Str} (hunread : Unasked unread) :
    ∃ rest, LcdStuffMplayer.answerFrom start (unread ++ output) = .ok (some text, rest)
      ∧ Unasked rest := by
  obtain ⟨before, after, rfl, hfits, hbefore, hafter⟩ := h
  refine ⟨after, ?_, hafter⟩
  have hstarts : startsWith (quoted start text) start = true :=
    List.isPrefixOf_iff_prefix.mpr (List.prefix_append _ _)
  unfold LcdStuffMplayer.answerFrom
  have hskip : Unasked (unread ++ before) := LinesWithout.append hunread hbefore
  rw [← List.append_assoc, fgetsUpTo_append (hskip.without hstart), fgetsUpTo_line hfits,
    if_pos hstarts]
  dsimp only
  rw [copyAnswer_quoted]
  rfl

/-- **A round that is answered** shows the answers, and leaves none in the pipe. -/
theorem askMetainfo_of_answers {mplayer : LcdStuffMplayer} {unread forArtist forTitle : Str}
    {artist title : Str} (hopen : ¬ (mplayer.current.inputStream = none
      ∨ mplayer.current.outputStream = none)) (hunread : Unasked unread)
    (hartist : Answers artistStart artist forArtist) (htitle : Answers titleStart title forTitle) :
    ∃ rest, mplayer.askMetainfo unread forArtist forTitle
        = .ok (mplayer.showMetainfo (some artist) (some title), rest) ∧ Unasked rest := by
  obtain ⟨rest, hfound, hrest⟩ := hartist.answerFrom (.inl rfl) hunread
  obtain ⟨rest', hfound', hrest'⟩ := htitle.answerFrom (.inr rfl) hrest
  refine ⟨rest', ?_, hrest'⟩
  unfold askMetainfo
  rw [if_neg hopen, hfound]
  show (LcdStuffMplayer.answerFrom titleStart (rest ++ forTitle) >>= _) = _
  rw [hfound']
  rfl

/-- What waits for the playback skips what the program prints while it starts. -/
theorem waitForPlayback_eq {begin line after : Str}
    (hbegin : LinesWithout (startsWith · "Starting playback...".toList) begin)
    (hline : IsOutputLine line)
    (hstarts : startsWith line "Starting playback...".toList = true) :
    waitForPlayback (begin ++ (line ++ after)) = after := by
  unfold waitForPlayback
  rw [fgetsUpTo_append hbegin, fgetsUpTo_line hline, if_pos hstarts]
  rfl

end LcdStuffMplayer

/-! ## A session -/

/-- **A program that runs**, as the module has it. -/
structure MplayerSession where
  /-- The module. -/
  mplayer : LcdStuffMplayer
  /-- What the program has printed and was not read. -/
  unread : Str
  /-- What was queued for the screen. -/
  sent : List Command
  deriving DecidableEq, Repr

/-- **What can happen next.** -/
inductive SlaveAct where
  /-- A handler asks for something. -/
  | request (request : MplayerRequest)
  /-- The program prints something. -/
  | prints (output : Str)
  /-- A round of the dispatcher. If it asks, the program prints this for the artist and for the
  title, and these are what it has to tell. -/
  | round (forArtist forTitle artist title : Str)
  deriving DecidableEq, Repr

namespace MplayerSession

open LcdStuffMplayer

/-- What a handler leaves while a program runs; another one is not started then. -/
def requested (current : Program) : MplayerRequest → Program
  | .stop => { current with stopRequest := true }
  | .pausePlay => { current with pausePlayRequest := true }
  | _ => current

/-- The round asks the program. -/
def asks (s : MplayerSession) : Bool :=
  !s.mplayer.current.stopRequest && !s.mplayer.current.pausePlayRequest
    && !s.mplayer.current.paused && s.mplayer.current.inputStream.isSome
    && s.mplayer.current.outputStream.isSome

/-- **A step**; `none` where memory is used that is not there. The program is not reaped in it. -/
def step (s : MplayerSession) : SlaveAct → Option MplayerSession
  | .request request => some { s with
      mplayer := { s.mplayer with current := requested s.mplayer.current request } }
  | .prints output => some { s with unread := s.unread ++ output }
  | .round forArtist forTitle _ _ =>
    let current := s.mplayer.current
    if current.stopRequest then
      -- `mplayer_kill`
      some { s with mplayer := { s.mplayer with current := { current with
        inputStream := none, outputStream := none, stopRequest := false } } }
    else if current.pausePlayRequest then
      -- `mplayer_play_pause` writes to the stream
      if current.inputStream = none then none
      else some { s with mplayer := { s.mplayer with current := { current with
        paused := !current.paused, pausePlayRequest := false } } }
    else if !current.paused then
      match s.mplayer.askMetainfo s.unread forArtist forTitle with
      | .ok (cmds, rest) => some { s with unread := rest, sent := s.sent ++ cmds }
      | .error _ => none
    else some s

/-- What is noted of a step: what the program has to tell when it is asked. -/
def note (s : MplayerSession) (act : SlaveAct) (told : List (Str × Str)) : List (Str × Str) :=
  match act with
  | .round _ _ artist title => if s.asks then told ++ [(artist, title)] else told
  | _ => told

/-- The session, from a state on. -/
def system (start : MplayerSession) : StepSystem (MplayerSession × List (Str × Str)) SlaveAct :=
  StepSystem.history ⟨start, step⟩ note []

/-- **The program answers each request once**, whenever it is asked, and prints whole lines. -/
def Conforms (s : MplayerSession × List (Str × Str)) : SlaveAct → Prop
  | .request _ => True
  | .prints output => Unasked output
  | .round forArtist forTitle artist title => s.1.asks = true →
    Answers artistStart artist forArtist ∧ Answers titleStart title forTitle

/-- **A round takes up a pause** although the streams are closed. -/
def PausesClosed (s : MplayerSession) : SlaveAct → Prop
  | .round .. => s.mplayer.current.stopRequest = false
    ∧ s.mplayer.current.pausePlayRequest = true ∧ s.mplayer.current.inputStream = none
  | _ => False

/-- **A session as it begins**, when the program has printed its first lines. -/
def playing (mplayer : LcdStuffMplayer) (output : Str) : MplayerSession :=
  ⟨mplayer, waitForPlayback output, []⟩

/-- **The invariant.** -/
structure InStep (mplayer : LcdStuffMplayer) (s : MplayerSession × List (Str × Str)) : Prop where
  /-- No answer is left. -/
  unread : Unasked s.1.unread
  /-- The channels -/
  channels : s.1.mplayer.channels = mplayer.channels
  /-- and the number of the one that is played. -/
  channelNumber : s.1.mplayer.current.channelNumber = mplayer.current.channelNumber
  /-- The screen. -/
  screen : s.1.mplayer.screen = mplayer.screen
  /-- What was shown. -/
  sent : s.1.sent = s.2.flatMap (fun told => mplayer.showMetainfo (some told.1) (some told.2))

variable {mplayer : LcdStuffMplayer} {s s' : MplayerSession × List (Str × Str)}

/-- What is shown depends on the channel and the screen. -/
theorem InStep.showMetainfo_eq (h : InStep mplayer s) (artist title : Option Str) :
    s.1.mplayer.showMetainfo artist title = mplayer.showMetainfo artist title := by
  unfold LcdStuffMplayer.showMetainfo LcdStuffMplayer.showName
  rw [h.channels, h.channelNumber, h.screen]

/-- A handler changes nothing but its flag. -/
theorem channelNumber_requested (current : Program) (request : MplayerRequest) :
    (requested current request).channelNumber = current.channelNumber := by
  cases request <;> rfl

/-- **When a round asks**: nothing was requested, and both streams are open. -/
theorem asks_iff {s : MplayerSession} : s.asks = true
    ↔ s.mplayer.current.stopRequest = false ∧ s.mplayer.current.pausePlayRequest = false
      ∧ s.mplayer.current.paused = false
      ∧ ¬ (s.mplayer.current.inputStream = none ∨ s.mplayer.current.outputStream = none) := by
  simp only [asks, Bool.and_eq_true, Bool.not_eq_true', Option.isSome_iff_ne_none, not_or,
    and_assoc]

/-- A round that asks does nothing else. -/
theorem step_of_asks {s : MplayerSession} {forArtist forTitle artist title : Str}
    {cmds : List Command} {rest : Str} (hasks : s.asks = true)
    (h : s.mplayer.askMetainfo s.unread forArtist forTitle = .ok (cmds, rest)) :
    s.step (.round forArtist forTitle artist title)
      = some { s with unread := rest, sent := s.sent ++ cmds } := by
  obtain ⟨hstop, hrequest, hpaused, -⟩ := asks_iff.mp hasks
  simp only [step, hstop, hrequest, hpaused, Bool.false_eq_true, if_false, Bool.not_false, if_true,
    h]

/-- **A round that does not ask** changes the program only, and no channel is started in it. -/
theorem step_of_not_asks {s : MplayerSession} {forArtist forTitle artist title : Str}
    (hasks : s.asks = false)
    (hopen : ¬ PausesClosed s (.round forArtist forTitle artist title)) :
    ∃ current, s.step (.round forArtist forTitle artist title)
        = some { s with mplayer := { s.mplayer with current := current } }
      ∧ current.channelNumber = s.mplayer.current.channelNumber := by
  have hasks : ¬ s.asks = true := Bool.not_eq_true _ ▸ hasks
  cases hstop : s.mplayer.current.stopRequest with
  | true =>
    simp only [step, hstop, if_true]
    exact ⟨_, rfl, rfl⟩
  | false =>
    cases hrequest : s.mplayer.current.pausePlayRequest with
    | true =>
      have hinput : s.mplayer.current.inputStream ≠ none :=
        fun hnone => hopen ⟨hstop, hrequest, hnone⟩
      simp only [step, hstop, hrequest, Bool.false_eq_true, if_false, if_true, if_neg hinput]
      exact ⟨_, rfl, rfl⟩
    | false =>
      refine ⟨s.mplayer.current, ?_, rfl⟩
      cases hpaused : s.mplayer.current.paused with
      | true => simp only [step, hstop, hrequest, hpaused, Bool.false_eq_true, if_false,
          Bool.not_true]
      | false =>
        -- the streams are closed, and nothing is asked
        have hclosed : s.mplayer.current.inputStream = none
            ∨ s.mplayer.current.outputStream = none := by
          by_contra hclosed
          exact hasks (asks_iff.mpr ⟨hstop, hrequest, hpaused, hclosed⟩)
        have hask : s.mplayer.askMetainfo s.unread forArtist forTitle = .ok ([], s.unread) :=
          if_pos hclosed
        simp only [step, hstop, hrequest, hpaused, Bool.false_eq_true, if_false, Bool.not_false,
          if_true, hask, List.append_nil]

/-- **A round** goes through, unless it takes up a pause with the streams closed, and keeps the
answers in step. -/
theorem InStep.round (h : InStep mplayer s) {forArtist forTitle artist title : Str}
    (hconforms : Conforms s (.round forArtist forTitle artist title))
    (hopen : ¬ PausesClosed s.1 (.round forArtist forTitle artist title)) :
    ∃ t, s.1.step (.round forArtist forTitle artist title) = some t
      ∧ InStep mplayer (t, note s.1 (.round forArtist forTitle artist title) s.2) := by
  have hshow := h.showMetainfo_eq
  unfold note
  cases hasks : s.1.asks with
  | true =>
    obtain ⟨-, -, -, hstreams⟩ := asks_iff.mp hasks
    obtain ⟨hartist, htitle⟩ := hconforms hasks
    obtain ⟨rest, hask, hrest⟩ := askMetainfo_of_answers hstreams h.unread hartist htitle
    refine ⟨_, step_of_asks hasks hask, hrest, h.channels, h.channelNumber, h.screen, ?_⟩
    show s.1.sent ++ s.1.mplayer.showMetainfo (some artist) (some title)
      = (s.2 ++ [(artist, title)]).flatMap _
    rw [List.flatMap_append, List.flatMap_singleton, h.sent, hshow]
  | false =>
    obtain ⟨current, hstep, hnumber⟩ := step_of_not_asks hasks hopen
    exact ⟨_, hstep, h.unread, h.channels, hnumber.trans h.channelNumber, h.screen, h.sent⟩

/-- A pause that is taken up with the streams closed is written to `NULL`. -/
theorem step_of_pausesClosed {s : MplayerSession} {act : SlaveAct} (h : PausesClosed s act) :
    s.step act = none := by
  cases act with
  | round forArtist forTitle artist title =>
    obtain ⟨hstop, hrequest, hnone⟩ := h
    simp only [step, hstop, hrequest, hnone, Bool.false_eq_true, if_false, if_true]
  | request | prints => exact h.elim

/-- **A step** goes through otherwise, and keeps the answers in step. -/
theorem InStep.step (h : InStep mplayer s) {act : SlaveAct} (hconforms : Conforms s act)
    (hopen : ¬ PausesClosed s.1 act) :
    ∃ t, s.1.step act = some t ∧ InStep mplayer (t, note s.1 act s.2) := by
  cases act with
  | request request =>
    refine ⟨_, rfl, h.unread, h.channels, ?_, h.screen, h.sent⟩
    exact (channelNumber_requested _ request).trans h.channelNumber
  | prints output =>
    exact ⟨_, rfl, LinesWithout.append h.unread hconforms, h.channels, h.channelNumber, h.screen,
      h.sent⟩
  | round forArtist forTitle artist title => exact h.round hconforms hopen

/-- **Every round shows what was answered in it**, in every session in which the program answers
each request once, in lines that fit the buffer, whatever it prints besides and whatever the
handlers ask for in between. A round only fails when it takes up a pause although the streams are
closed. -/
theorem shown_of_reachableBy {begin line after : Str}
    (hbegin : LinesWithout (startsWith · "Starting playback...".toList) begin)
    (hline : IsOutputLine line)
    (hstarts : startsWith line "Starting playback...".toList = true) (hafter : Unasked after)
    (hs : (system (playing mplayer (begin ++ (line ++ after)))).ReachableBy Conforms s) :
    s.1.sent = s.2.flatMap (fun told => mplayer.showMetainfo (some told.1) (some told.2))
      ∧ Unasked s.1.unread
      ∧ ∀ act, Conforms s act → (s.1.step act = none ↔ PausesClosed s.1 act) := by
  have hunread : Unasked (waitForPlayback (begin ++ (line ++ after))) := by
    rw [waitForPlayback_eq hbegin hline hstarts]
    exact hafter
  have hinStep : InStep mplayer s := hs.invariant (InStep mplayer)
    ⟨hunread, rfl, rfl, rfl, rfl⟩ (fun s act s' hs hconforms hstep => by
      obtain ⟨t, ht, rfl⟩ := StepSystem.of_history_step hstep
      have hopen : ¬ PausesClosed s.1 act := fun hclosed =>
        absurd ((step_of_pausesClosed hclosed).symm.trans ht) nofun
      obtain ⟨t', ht', hinStep⟩ := hs.step hconforms hopen
      obtain rfl := Option.some.inj (ht.symm.trans ht')
      exact hinStep)
  refine ⟨hinStep.sent, hinStep.unread, fun act hact => ⟨fun hnone => ?_, step_of_pausesClosed⟩⟩
  by_contra hopen
  obtain ⟨t, ht, -⟩ := hinStep.step hact hopen
  exact absurd (hnone.symm.trans ht) nofun

/-- A round that is answered behind a line that was not asked for, and a pause. -/
theorem shown_of_reachableBy_pause :
    let mplayer : LcdStuffMplayer := ⟨⟨7, some 0, some 1, false, false, false, 0⟩,
      [⟨"Radio".toList, [], false⟩], ⟨⟨⟨20, 4⟩, false⟩, "mplayer".toList⟩⟩
    ∃ s : MplayerSession × List (Str × Str), s.2 = [("Ann".toList, "Song".toList)]
      ∧ s.1.mplayer.current.paused = true
      ∧ s.1.sent = s.2.flatMap (fun told => mplayer.showMetainfo (some told.1) (some told.2))
      ∧ Unasked s.1.unread
      ∧ ∀ act, Conforms s act → (s.1.step act = none ↔ PausesClosed s.1 act) := by
  intro mplayer
  have hfits : ∀ text : Str, IsLine text ∧ text.length < bufsiz - 1 →
      IsOutputLine (text ++ ['\n']) := fun text h => ⟨text, rfl, h⟩
  have hlines : ∀ {wanted : Str → Bool} (text : Str), IsLine text ∧ text.length < bufsiz - 1 →
      wanted (text ++ ['\n']) = false → LinesWithout wanted (text ++ ['\n']) := by
    intro wanted text h hwanted
    refine ⟨[text ++ ['\n']], (List.append_nil _).symm, fun line hmem => ?_⟩
    obtain rfl := List.mem_singleton.mp hmem
    exact ⟨hfits text h, hwanted⟩
  have hnone : ∀ {wanted : Str → Bool}, LinesWithout wanted [] :=
    ⟨[], rfl, fun line hmem => absurd hmem List.not_mem_nil⟩
  have hartist : Answers artistStart "Ann".toList
      ("A: 1.0\n".toList ++ (quoted artistStart "Ann".toList ++ [])) :=
    ⟨_, [], rfl, hfits "ANS_META_ARTIST='Ann'".toList (by decide),
      hlines "A: 1.0".toList (by decide) (by decide), hnone⟩
  have htitle : Answers titleStart "Song".toList ([] ++ (quoted titleStart "Song".toList ++ [])) :=
    ⟨[], [], rfl, hfits "ANS_META_TITLE='Song'".toList (by decide),
      hnone, hnone⟩
  let round : SlaveAct := .round ("A: 1.0\n".toList ++ (quoted artistStart "Ann".toList ++ []))
    ([] ++ (quoted titleStart "Song".toList ++ [])) "Ann".toList "Song".toList
  have hround : ∀ s, Conforms s round := fun s _ => ⟨hartist, htitle⟩
  have hprints : (system (playing mplayer ("Playing Radio.\n".toList
      ++ ("Starting playback...\n".toList ++ [])))).ReachableBy Conforms _ :=
    @StepSystem.ReachableBy.step _ _ _ _ _ _ (.prints "ICY Info\n".toList) .init
      (hlines "ICY Info".toList (by decide) (by decide)) rfl
  have hasked := StepSystem.ReachableBy.step hprints (hround _) rfl
  have hrequested := StepSystem.ReachableBy.step hasked
    (show Conforms _ (.request .pausePlay) from trivial) rfl
  have hpaused := StepSystem.ReachableBy.step hrequested (hround _) rfl
  exact ⟨_, by decide +kernel, by decide +kernel, shown_of_reachableBy
    (hlines "Playing Radio.".toList (by decide) (by decide))
    (hfits "Starting playback...".toList (by decide)) (by decide) hnone
    hpaused⟩

end MplayerSession
