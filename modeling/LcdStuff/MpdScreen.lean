import LcdStuff.Display
import LcdStuff.MpdMemory
import Mathlib.Data.List.GetD

/-!
# What the daemon plays, on the display

While the player is playing, the MPD module shows the artist and the title in two lines and
the time in the third one; when it stops or pauses, the module clears the screen. It sends the
first two lines only when it takes the song for another one than before, and it does not look
at the case then.

`LcdStuffMpd.song_of_reachable` says what a viewer sees after any events of one connection, with
the other modules at work: the song of the last report up to its case, with the time of that
report, or nothing if the player has left `MPD_PLAYER_PLAY` since. Of a song that has a title the
artist stands in the line of the title and the title in that of the artist (`shownSong`).
-/

namespace LcdStuffMpd

variable (convert : Str → Option Str) (mpd : LcdStuffMpd)

/-! ## The calls of the module -/

/-- The calls of `mpd_update_status_time` -/
def updateCalls (current : Option MpdSong) (elapsed total : Int) (isRepeat isRandom : Bool) :
    List ScreenCall :=
  if mpd.currentState ≠ .play then []
  else
    let curSong := mpd.getCurrentSong convert current
    let line3 := .showText 2 (some (statusLine elapsed total isRepeat isRandom))
    if !songCompare curSong mpd.currentSong || !mpd.songDisplayed then
      [.showText 0 (some curSong.artist), .showText 1 (some curSong.title), line3]
    else [line3]

/-- The calls that an event makes. -/
def eventCalls : MpdEvent → List ScreenCall
  | .update current elapsed total isRepeat isRandom =>
    mpd.updateCalls convert current elapsed total isRepeat isRandom
  | .stateChanged state => if state = .play then [] else [.clear]
  | _ => []

/-- The calls of a run. -/
def runCalls (mpd : LcdStuffMpd) : List MpdEvent → List ScreenCall
  | [] => []
  | event :: events =>
    mpd.eventCalls convert event ++ runCalls (mpd.next convert event).1 events

/-- The commands of the playlist menu are for no screen. -/
theorem ofModule_updatePlaylistMenu (m : Str) (list : List Str) :
    Command.ofModule m (mpd.updatePlaylistMenu list).2 = [] := by
  have hmenu : ∀ cmd ∈ (mpd.updatePlaylistMenu list).2, cmd.moduleName = none := by
    have hlist : ∀ cmd ∈ playlistMenu list, cmd.moduleName = none := by
      intro cmd hcmd
      rcases List.mem_cons.mp hcmd with rfl | hcmd
      · rfl
      · rcases List.mem_cons.mp hcmd with rfl | hcmd
        · rfl
        · obtain ⟨i, _, rfl⟩ := List.mem_mapIdx.mp hcmd
          rfl
    intro cmd hcmd
    unfold updatePlaylistMenu at hcmd
    cases hcurrent : mpd.currentList with
    | none =>
      rw [hcurrent] at hcmd
      exact hlist cmd hcmd
    | some old =>
      rw [hcurrent] at hcmd
      dsimp only at hcmd
      split at hcmd
      · exact absurd hcmd List.not_mem_nil
      · rcases List.mem_cons.mp hcmd with rfl | hcmd
        · rfl
        · exact hlist cmd hcmd
  refine List.filter_eq_nil_iff.mpr (fun cmd hcmd => ?_)
  rw [hmenu cmd hcmd]
  simp

/-- **The calls queue the commands of the module for its screen**; the others are for the menu. -/
theorem commandsOf_eventCalls (event : MpdEvent) :
    Drawing.commandsOf mpd.screen.lcd mpd.screen.moduleName (mpd.eventCalls convert event)
      = Command.ofModule mpd.screen.moduleName (mpd.next convert event).2 := by
  have hown : ∀ calls, (mpd.next convert event).2
      = Drawing.commandsOf mpd.screen.lcd mpd.screen.moduleName calls →
      Drawing.commandsOf mpd.screen.lcd mpd.screen.moduleName calls
        = Command.ofModule mpd.screen.moduleName (mpd.next convert event).2 := by
    intro calls hcalls
    rw [hcalls]
    refine (List.filter_eq_self.mpr (fun cmd hcmd => ?_)).symm
    obtain ⟨call, -, hcmd⟩ := List.mem_flatMap.mp hcmd
    exact decide_eq_true (ScreenCall.of_mem_commands hcmd).1
  cases event with
  | start => exact hown [] rfl
  | update current elapsed total isRepeat isRandom =>
    refine hown _ ?_
    show (mpd.updateStatusTime convert current elapsed total isRepeat isRandom).2
      = Drawing.commandsOf _ _ (mpd.updateCalls convert current elapsed total isRepeat isRandom)
    unfold updateStatusTime updateCalls Drawing.commandsOf
    by_cases hplay : mpd.currentState ≠ .play
    · simp only [if_pos hplay]
      rfl
    · simp only [if_neg hplay]
      split
      · simp only [List.flatMap_cons, List.flatMap_nil, List.append_nil, List.append_assoc]
        rfl
      · simp only [List.flatMap_cons, List.flatMap_nil, List.append_nil]
        rfl
  | stateChanged state =>
    refine hown _ ?_
    show (if state = .play then [] else mpd.screen.clear)
      = Drawing.commandsOf _ _ (if state = .play then [] else [.clear])
    split
    · rfl
    · exact (List.append_nil _).symm
  | playlists data => exact (ofModule_updatePlaylistMenu mpd _ _).symm

/-! ## What is to be seen -/

/-- A report of the daemon: the song, if there is one, and what is to be in the third line. -/
abbrev Report := Option MpdSong × Str

/-- **What was reported**: the song and the time of the last report, unless the player has left
`MPD_PLAYER_PLAY` since. -/
def reported (old : Option Report) : MpdEvent → Option Report
  | .update current elapsed total isRepeat isRandom =>
    if mpd.currentState ≠ .play then old
    else some (current, statusLine elapsed total isRepeat isRandom)
  | .stateChanged state => if state = .play then old else none
  | _ => old

/-- What was reported in a run. -/
def reportedAfter (mpd : LcdStuffMpd) (old : Option Report) : List MpdEvent → Option Report
  | [] => old
  | event :: events => reportedAfter (mpd.next convert event).1 (mpd.reported old event) events

/-- **The lines to be seen**: those of the song of the report, up to their case, with the artist
and the title exchanged if there is a title, and the time; or nothing. -/
def ReportLines (report : Option Report) (texts : List Str) : Prop :=
  match report with
  | none => texts = []
  | some (current, status) => ∃ shown : Song,
    songCompare (shownSong convert current) (some shown) = true
      ∧ texts = [shown.artist, shown.title, status]

/-- **They are on the screen.** -/
def ShowsReport (report : Option Report) (view : ScreenView) : Prop :=
  ∃ texts, ReportLines convert report texts
    ∧ ∀ k : ℕ, (k : Int) ∈ mpd.screen.lineNumbers → view.lines k = texts.getD k []

/-- **The invariant**: the report is shown, and so is the song that is remembered. -/
structure OnScreen (report : Option Report) (view : ScreenView) : Prop where
  /-- The report. -/
  report : mpd.ShowsReport convert report view
  /-- The song. -/
  song : mpd.songDisplayed = true → ∀ song, mpd.currentSong = some song →
    ((0 : ℕ) : Int) ∈ mpd.screen.lineNumbers → view.lines (0 : ℕ) = song.artist
  /-- Its second line. -/
  title : mpd.songDisplayed = true → ∀ song, mpd.currentSong = some song →
    ((1 : ℕ) : Int) ∈ mpd.screen.lineNumbers → view.lines (1 : ℕ) = song.title

variable {mpd}

/-- There is nothing below the three lines. -/
theorem ShowsReport.below {report : Option Report} {view : ScreenView}
    (h : mpd.ShowsReport convert report view) {k : ℕ} (hk : (k : Int) ∈ mpd.screen.lineNumbers)
    (hthree : 3 ≤ k) : view.lines k = [] := by
  obtain ⟨texts, hreport, hlines⟩ := h
  rw [hlines k hk]
  cases report with
  | none => exact (show texts = [] from hreport) ▸ rfl
  | some report =>
    obtain ⟨shown, -, rfl⟩ := hreport
    exact List.getD_eq_default _ _ hthree

/-- **A report while the player is playing** is shown. -/
theorem OnScreen.update {report : Option Report} {view : ScreenView}
    (h : mpd.OnScreen convert report view) (current : Option MpdSong) (elapsed total : Int)
    (isRepeat isRandom : Bool) :
    let event := MpdEvent.update current elapsed total isRepeat isRandom
    ∃ view', (mpd.updateCalls convert current elapsed total isRepeat isRandom).foldl
        (ScreenView.draw mpd.screen) (some view) = some view' ∧ view'.title = view.title
      ∧ (mpd.updateStatusTime convert current elapsed total isRepeat isRandom).1.OnScreen convert
        (mpd.reported report event) view' := by
  intro event
  unfold updateCalls updateStatusTime
  by_cases hplay : mpd.currentState ≠ .play
  · have hreport : mpd.reported report event = report := if_pos hplay
    simp only [if_pos hplay, hreport]
    exact ⟨view, rfl, rfl, h⟩
  · let status := statusLine elapsed total isRepeat isRandom
    have hreport : mpd.reported report event = some (current, status) := if_neg hplay
    have hcurrent := getCurrentSong_of_play convert (not_not.mp hplay) current
    simp only [if_neg hplay, hreport, hcurrent, ← Bool.not_and]
    cases hsame : songCompare (shownSong convert current) mpd.currentSong
      && mpd.songDisplayed with
    | false =>
      let song := shownSong convert current
      let view' := ((view.setLine mpd.screen 0 song.artist).setLine mpd.screen 1
        song.title).setLine mpd.screen 2 status
      have hlines : ∀ k : ℕ, (k : Int) ∈ mpd.screen.lineNumbers →
          view'.lines k = [song.artist, song.title, status].getD k [] := by
        intro k hk
        rw [ScreenView.lines_setLine _ _ hk, ScreenView.lines_setLine _ _ hk,
          ScreenView.lines_setLine _ _ hk]
        rcases k with _ | _ | _ | k
        · rfl
        · rfl
        · rfl
        · rw [if_neg (by omega), if_neg (by omega), if_neg (by omega)]
          exact h.report.below convert hk (by omega)
      refine ⟨view', rfl, rfl,
        ⟨_, ⟨song, SongDisplay.songCompare_self song, rfl⟩, hlines⟩,
        fun _ song' hsong' hk => ?_, fun _ song' hsong' hk => ?_⟩
      · rw [hlines 0 hk, ← Option.some.inj hsong']
        rfl
      · rw [hlines 1 hk, ← Option.some.inj hsong']
        rfl
    | true =>
      obtain ⟨hcompare, hdisplayed⟩ := Bool.and_eq_true_iff.mp hsame
      -- the song that is remembered is the one that is shown
      obtain ⟨song, hsong⟩ : ∃ song, mpd.currentSong = some song := by
        cases hcurrent : mpd.currentSong with
        | none =>
          rw [hcurrent] at hcompare
          exact absurd hcompare Bool.false_ne_true
        | some song => exact ⟨song, rfl⟩
      rw [hsong] at hcompare
      have hlines : ∀ k : ℕ, (k : Int) ∈ mpd.screen.lineNumbers →
          (view.setLine mpd.screen 2 status).lines k
            = [song.artist, song.title, status].getD k [] := by
        intro k hk
        rw [ScreenView.lines_setLine _ _ hk]
        rcases k with _ | _ | _ | k
        · exact h.song hdisplayed song hsong hk
        · exact h.title hdisplayed song hsong hk
        · rfl
        · rw [if_neg (by omega)]
          exact h.report.below convert hk (by omega)
      exact ⟨view.setLine mpd.screen 2 status, rfl, rfl, ⟨_, ⟨song, hcompare, rfl⟩, hlines⟩,
        fun _ _ hnone => absurd hnone (by simp), fun _ _ hnone => absurd hnone (by simp)⟩

/-- **What an event shows**, within a connection. -/
theorem OnScreen.next {report : Option Report} {view : ScreenView}
    (h : mpd.OnScreen convert report view) {event : MpdEvent} (hstart : event ≠ .start) :
    ∃ view', (mpd.eventCalls convert event).foldl (ScreenView.draw mpd.screen) (some view)
        = some view' ∧ view'.title = view.title
      ∧ (mpd.next convert event).1.OnScreen convert (mpd.reported report event) view' := by
  cases event with
  | start => exact absurd rfl hstart
  | update current elapsed total isRepeat isRandom =>
    exact h.update convert current elapsed total isRepeat isRandom
  | stateChanged state =>
    by_cases hplay : state = .play
    · have hcalls : mpd.eventCalls convert (.stateChanged state) = [] := if_pos hplay
      have hreport : mpd.reported report (.stateChanged state) = report := if_pos hplay
      rw [hcalls, hreport]
      exact ⟨view, rfl, rfl, h.report, fun hfalse => absurd hfalse Bool.false_ne_true,
        fun hfalse => absurd hfalse Bool.false_ne_true⟩
    · have hcalls : mpd.eventCalls convert (.stateChanged state) = [.clear] := if_neg hplay
      have hreport : mpd.reported report (.stateChanged state) = none := if_neg hplay
      rw [hcalls, hreport]
      exact ⟨_, rfl, rfl, ⟨[], rfl, fun k hk => if_pos hk⟩,
        fun hfalse => absurd hfalse Bool.false_ne_true,
        fun hfalse => absurd hfalse Bool.false_ne_true⟩
  | playlists data => exact ⟨view, rfl, rfl, h.report, h.song, h.title⟩

/-- No event has another screen. -/
theorem screen_next (event : MpdEvent) : (mpd.next convert event).1.screen = mpd.screen := by
  cases event with
  | update current elapsed total isRepeat isRandom =>
    show (mpd.updateStatusTime convert current elapsed total isRepeat isRandom).1.screen = _
    unfold updateStatusTime
    split
    · rfl
    · dsimp only
      split <;> rfl
  | start | stateChanged | playlists => rfl

/-- **What a run shows**, by induction on its events. -/
theorem OnScreen.run {report : Option Report} {view : ScreenView}
    (h : mpd.OnScreen convert report view) {events : List MpdEvent} (hstart : .start ∉ events) :
    ∃ view', (mpd.runCalls convert events).foldl (ScreenView.draw mpd.screen) (some view)
        = some view' ∧ view'.title = view.title
      ∧ mpd.ShowsReport convert (mpd.reportedAfter convert report events) view' := by
  induction events generalizing mpd report view with
  | nil => exact ⟨view, rfl, rfl, h.report⟩
  | cons event events ih =>
    obtain ⟨hhead, htail⟩ := not_or.mp (fun hor => hstart (List.mem_cons.mpr hor))
    obtain ⟨view₁, hfold₁, htitle₁, h₁⟩ := h.next convert (Ne.symm hhead)
    obtain ⟨view', hfold, htitle, hshows⟩ := ih h₁ htail
    unfold ShowsReport at hshows ⊢
    rw [screen_next] at hfold hshows
    refine ⟨view', ?_, htitle.trans htitle₁, hshows⟩
    rw [runCalls, List.foldl_append, hfold₁, hfold]

end LcdStuffMpd
