import LcdStuff.Screen

/-!
# The MPD module

`mpd.c` shows the song that the music player daemon plays, offers its playlists
as a menu, and stops it after a time that the user chooses. What the daemon is
told is a list of `MpdCall`s; what it answers is a parameter of the function
that asks.

An item of the playlist menu is numbered from one, and the first item, number
zero, clears the playlist. `mpd_menu_handler` makes sure that the number is
below the number of playlists, but not that it is above zero
(`menuHandler_isOk_iff`).
-/

/-- `MPD_PLAYER_*` -/
inductive MpdPlayer where
  /-- `MPD_PLAYER_UNKNOWN` -/
  | unknown
  /-- `MPD_PLAYER_STOP` -/
  | stop
  /-- `MPD_PLAYER_PLAY` -/
  | play
  /-- `MPD_PLAYER_PAUSE` -/
  | pause
  deriving DecidableEq, Repr

/-- What the daemon is told. -/
inductive MpdCall where
  /-- `mpd_playlist_clear` -/
  | playlistClear
  /-- `mpd_playlist_queue_load` -/
  | playlistQueueLoad (list : Str)
  /-- `mpd_playlist_queue_commit` -/
  | playlistQueueCommit
  /-- `mpd_player_play` -/
  | playerPlay
  /-- `mpd_player_stop` -/
  | playerStop
  /-- `mpd_player_next` -/
  | playerNext
  /-- `mpd_player_pause` -/
  | playerPause
  deriving DecidableEq, Repr

/-- `struct song` -/
structure Song where
  /-- `title` -/
  title : Str
  /-- `artist` -/
  artist : Str
  deriving DecidableEq, Repr

/-- `mpd_Song`, as far as it is looked at; `NULL` is `none`. -/
structure MpdSong where
  /-- `title` -/
  title : Option Str
  /-- `artist` -/
  artist : Option Str
  deriving DecidableEq, Repr

/-- `struct lcd_stuff_mpd` without the connection. -/
structure LcdStuffMpd where
  /-- `current_state` -/
  currentState : MpdPlayer
  /-- `song_displayed` -/
  songDisplayed : Bool
  /-- `current_song` -/
  currentSong : Option Song
  /-- `stop_time`, an unsigned number of 32 bits -/
  stopTime : Int
  /-- `current_list` -/
  currentList : Option (List Str)
  /-- `screen` -/
  screen : Screen
  deriving DecidableEq, Repr

/-- `%2.2d` -/
def decimal2 (i : Int) : Str :=
  let digits := decimal i.natAbs
  (if i < 0 then ['-'] else []) ++ (if digits.length < 2 then '0' :: digits else digits)

namespace LcdStuffMpd

/-- `mpd_song_new`, with `g_convert_with_fallback` as it converts from UTF-8
to the encoding of the display. -/
def songNew (convert : Str → Option Str) (title artist : Str) : Song :=
  ⟨(convert title).getD "(Unknown)".toList, (convert artist).getD "(Unknown)".toList⟩

/-- `mpd_get_current_song`, with what `mpd_playlist_get_current_song` returns. -/
def getCurrentSong (convert : Str → Option Str) (mpd : LcdStuffMpd)
    (current : Option MpdSong) : Song :=
  match current with
  | none => songNew convert [] []
  | some current =>
    if mpd.currentState ≠ .play then songNew convert [] []
    else
      match current.title with
      | none => songNew convert "(unknown)".toList []
      | some title =>
        match gStrsplit title " - ".toList 2 with
        | [first, second] => songNew convert first second
        | _ => songNew convert (current.artist.getD []) title

/-- `mpd_song_compare`, for a song that is not `NULL` and one that may be. -/
def songCompare (a : Song) (b : Option Song) : Bool :=
  match b with
  | none => false
  | some b => gAsciiStrcaseEq a.title b.title && gAsciiStrcaseEq a.artist b.artist

/-- The third line of `mpd_update_status_time`. -/
def statusLine (elapsed total : Int) (isRepeat isRandom : Bool) : Str :=
  decimal (elapsed.tdiv 60) ++ ":".toList ++ decimal2 (elapsed.tmod 60) ++ "/".toList
    ++ decimal (total.tdiv 60) ++ ":".toList ++ decimal2 (total.tmod 60)
    ++ "     ".toList ++ (if isRepeat then "R" else "_").toList
    ++ (if isRandom then "S" else "_").toList

/-- `mpd_update_status_time`, with what the daemon says is being played: what
it leaves in the module, and the commands it queues. -/
def updateStatusTime (convert : Str → Option Str) (mpd : LcdStuffMpd)
    (current : Option MpdSong) (elapsed total : Int) (isRepeat isRandom : Bool) :
    LcdStuffMpd × List Command :=
  if mpd.currentState ≠ .play then (mpd, [])
  else
    let curSong := mpd.getCurrentSong convert current
    let line3 := mpd.screen.showText 2 (some (statusLine elapsed total isRepeat isRandom))
    if !songCompare curSong mpd.currentSong || !mpd.songDisplayed then
      ({ mpd with currentSong := some curSong, songDisplayed := true },
        mpd.screen.showText 0 (some curSong.artist)
          ++ mpd.screen.showText 1 (some curSong.title) ++ line3)
    else ({ mpd with currentSong := none }, line3)

/-- `mpd_playlists_equals` -/
def playlistsEquals (a b : List Str) : Bool :=
  a.length == b.length && (a.zip b).all (fun p => gAsciiStrcaseEq p.1 p.2)

/-- The commands that build the menu of the playlists. -/
def playlistMenu (list : List Str) : List Command :=
  .menuAddMenu "mpd_pl".toList "Playlists".toList
    :: .menuAddAction "mpd_pl".toList 0 "== Clear ==".toList
    :: list.mapIdx (fun i name => .menuAddAction "mpd_pl".toList (i + 1) name)

/-- `mpd_update_playlist_menu`, with what `mpd_get_playlists` returns: what it
leaves in the module, and the commands it queues. -/
def updatePlaylistMenu (mpd : LcdStuffMpd) (newList : List Str) :
    LcdStuffMpd × List Command :=
  ({ mpd with currentList := some newList },
    match mpd.currentList with
    | none => playlistMenu newList
    | some oldList =>
      if playlistsEquals oldList newList then []
      else .menuDelItem "mpd_pl".toList :: playlistMenu newList)

/-- `mpd_key_handler` -/
def keyHandler (mpd : LcdStuffMpd) (str : Str) : List MpdCall :=
  if gAsciiStrcaseEq str "Up".toList then
    if mpd.currentState = .play then [.playerNext] else [.playerStop]
  else
    if mpd.currentState = .play then [.playerPause] else [.playerPlay]

/-- `INT_MAX` -/
def intMax : Int := 2 ^ 31 - 1

/-- The part of `mpd_menu_handler` for an item of the playlist menu, whose
number is `no + 1`. -/
def loadPlaylist (mpd : LcdStuffMpd) (no : Int) : Except Fault (List MpdCall) :=
  if no = -1 then .ok [.playlistClear, .playlistQueueCommit]
  else
    match mpd.currentList with
    | none => .ok []
    | some list =>
      if no < list.length then do
        let name ← readAt list no
        return [.playlistQueueLoad name, .playlistQueueCommit]
          ++ (if mpd.currentState = .play then [] else [.playerPlay])
      else .ok []

/-- The part of `mpd_menu_handler` for the standby ring, at the time `now`. -/
def setStopTime (mpd : LcdStuffMpd) (now : Int) (arg : Str) : LcdStuffMpd :=
  let minutes := wrapInt (atoi arg * 15)
  { mpd with stopTime :=
      if minutes = 0 then intMax else (now + wrapInt (60 * minutes)) % 2 ^ 32 }

/-- `mpd_menu_handler` at the time `now`; the event is not looked at. -/
def menuHandler (mpd : LcdStuffMpd) (now : Int) (id arg : Str) :
    Except Fault (LcdStuffMpd × List MpdCall) :=
  if id = [] then .ok (mpd, [])
  else
    match gStrsplit id "_".toList 2 with
    | name :: rest =>
      match gAsciiStrcaseEq name "pl".toList, rest with
      | true, no :: _ => do
        let calls ← mpd.loadPlaylist (wrapInt (atoi no - 1))
        return (mpd, calls)
      | _, _ =>
        if gAsciiStrcaseEq name "standby".toList then .ok (mpd.setStopTime now arg, [])
        else .ok (mpd, [])
    | [] => .ok (mpd, [])

/-! ## Which playlist is loaded -/

/-- **When a playlist is looked up where there is one**: unless its number is
below that of the item that clears, and there is a list. -/
theorem loadPlaylist_isOk_iff (mpd : LcdStuffMpd) (no : Int) :
    (∃ calls, mpd.loadPlaylist no = .ok calls) ↔ -1 ≤ no ∨ mpd.currentList = none := by
  unfold loadPlaylist
  by_cases hclear : no = -1
  · rw [if_pos hclear]
    exact ⟨fun _ => .inl (by omega), fun _ => ⟨_, rfl⟩⟩
  · rw [if_neg hclear]
    cases mpd.currentList with
    | none => exact ⟨fun _ => .inr rfl, fun _ => ⟨[], rfl⟩⟩
    | some list =>
      dsimp only
      by_cases hlen : no < list.length
      · rw [if_pos hlen]
        constructor
        · rintro ⟨calls, hcalls⟩
          obtain ⟨name, hread, -⟩ := bind_eq_ok_iff.mp hcalls
          have hno := ((readAt_isOk_iff list no).mp ⟨name, hread⟩).1
          exact .inl (by omega)
        · intro h
          have hno : -1 ≤ no := h.resolve_right (by simp)
          obtain ⟨name, hread⟩ := (readAt_isOk_iff list no).mpr ⟨by omega, hlen⟩
          exact ⟨_, by
            rw [hread]
            rfl⟩
      · rw [if_neg hlen]
        exact ⟨fun _ => .inl (by omega), fun _ => ⟨[], rfl⟩⟩

/-- An item of the playlist menu loads the playlist whose number it is, counted
from one. -/
theorem menuHandler_eq (mpd : LcdStuffMpd) (now : Int) {id name no : Str} (arg : Str)
    (h : gStrsplit id "_".toList 2 = [name, no])
    (hname : gAsciiStrcaseEq name "pl".toList = true) :
    mpd.menuHandler now id arg = (do
      let calls ← mpd.loadPlaylist (wrapInt (atoi no - 1))
      return (mpd, calls)) := by
  have hne : id ≠ [] := by
    rintro rfl
    exact absurd h (by simp [gStrsplit])
  unfold menuHandler
  rw [if_neg hne, h]
  dsimp only
  rw [hname]

/-- Any other item is not looked up. -/
theorem menuHandler_isOk (mpd : LcdStuffMpd) (now : Int) {id : Str} (arg : Str)
    (h : ∀ name no, gStrsplit id "_".toList 2 = [name, no] →
      gAsciiStrcaseEq name "pl".toList = false) :
    ∃ r, mpd.menuHandler now id arg = .ok r := by
  have hstandby : ∀ name, ∃ r, (if gAsciiStrcaseEq name "standby".toList = true
      then .ok (mpd.setStopTime now arg, []) else .ok (mpd, []) :
        Except Fault (LcdStuffMpd × List MpdCall)) = .ok r := by
    intro name
    split
    · exact ⟨_, rfl⟩
    · exact ⟨_, rfl⟩
  unfold menuHandler
  by_cases hne : id = []
  · rw [if_pos hne]
    exact ⟨_, rfl⟩
  · rw [if_neg hne]
    rcases gStrsplit_two (c := '_') hne with ⟨-, hsplit⟩ | ⟨name, no, -, hsplit⟩
    · have hsplit : gStrsplit id "_".toList 2 = [id] := hsplit
      rw [hsplit]
      dsimp only
      cases gAsciiStrcaseEq id "pl".toList <;> exact hstandby id
    · have hsplit : gStrsplit id "_".toList 2 = [name, no] := hsplit
      rw [hsplit]
      dsimp only
      rw [h name no hsplit]
      exact hstandby name

/-- Any other item tells the daemon nothing. -/
theorem eq_nil_of_menuHandler {mpd mpd' : LcdStuffMpd} {now : Int} {id arg : Str}
    {calls : List MpdCall} (hr : mpd.menuHandler now id arg = .ok (mpd', calls))
    (h : ∀ name no, gStrsplit id "_".toList 2 = [name, no] →
      gAsciiStrcaseEq name "pl".toList = false) : calls = [] := by
  have hstandby : ∀ name, (if gAsciiStrcaseEq name "standby".toList = true
      then .ok (mpd.setStopTime now arg, []) else .ok (mpd, []) :
        Except Fault (LcdStuffMpd × List MpdCall)) = .ok (mpd', calls) → calls = [] := by
    intro name hname
    split at hname <;> exact (Prod.mk.inj (Except.ok.inj hname)).2.symm
  unfold menuHandler at hr
  by_cases hne : id = []
  · rw [if_pos hne] at hr
    exact (Prod.mk.inj (Except.ok.inj hr)).2.symm
  · rw [if_neg hne] at hr
    rcases gStrsplit_two (c := '_') hne with ⟨-, hsplit⟩ | ⟨name, no, -, hsplit⟩
    · have hsplit : gStrsplit id "_".toList 2 = [id] := hsplit
      rw [hsplit] at hr
      dsimp only at hr
      cases hpl : gAsciiStrcaseEq id "pl".toList <;> rw [hpl] at hr <;> exact hstandby id hr
    · have hsplit : gStrsplit id "_".toList 2 = [name, no] := hsplit
      rw [hsplit] at hr
      dsimp only at hr
      rw [h name no hsplit] at hr
      exact hstandby name hr

/-- **The playlist that is loaded** is the one that is looked up. -/
theorem mem_loadPlaylist_iff {mpd : LcdStuffMpd} {no : Int} {calls : List MpdCall}
    (h : mpd.loadPlaylist no = .ok calls) (name : Str) :
    .playlistQueueLoad name ∈ calls
      ↔ no ≠ -1 ∧ ∃ list, mpd.currentList = some list ∧ no < list.length
        ∧ readAt list no = .ok name := by
  unfold loadPlaylist at h
  by_cases hclear : no = -1
  · rw [if_pos hclear] at h
    obtain rfl := Except.ok.inj h
    exact ⟨fun hmem => by simp at hmem, fun hno => absurd hclear hno.1⟩
  rw [if_neg hclear] at h
  cases hlist : mpd.currentList with
  | none =>
    rw [hlist] at h
    obtain rfl := Except.ok.inj h
    exact ⟨fun hmem => absurd hmem List.not_mem_nil, fun ⟨_, _, hnone, _⟩ => absurd hnone nofun⟩
  | some list =>
    rw [hlist] at h
    dsimp only at h
    by_cases hno : no < list.length
    · rw [if_pos hno] at h
      obtain ⟨found, hread, hcalls⟩ := bind_eq_ok_iff.mp h
      obtain rfl := Except.ok.inj hcalls
      constructor
      · intro hmem
        have hname : name = found := by split at hmem <;> simpa using hmem
        exact ⟨hclear, list, rfl, hno, hname ▸ hread⟩
      · rintro ⟨-, list', hlist', -, hread'⟩
        obtain rfl := Option.some.inj hlist'
        obtain rfl := Except.ok.inj (hread.symm.trans hread')
        exact List.mem_append_left _ (List.mem_cons_self ..)
    · rw [if_neg hno] at h
      obtain rfl := Except.ok.inj h
      refine ⟨fun hmem => absurd hmem List.not_mem_nil, ?_⟩
      rintro ⟨-, list', hlist', hno', -⟩
      obtain rfl := Option.some.inj hlist'
      exact absurd hno' hno

/-- **When a menu item is looked up where there is a playlist.** -/
theorem menuHandler_isOk_iff (mpd : LcdStuffMpd) (now : Int) (id arg : Str) :
    (∃ r, mpd.menuHandler now id arg = .ok r)
      ↔ ∀ name no, gStrsplit id "_".toList 2 = [name, no] →
        gAsciiStrcaseEq name "pl".toList = true →
        0 ≤ atoi no ∨ atoi no = -2 ^ 31 ∨ mpd.currentList = none := by
  constructor
  · rintro ⟨r, hr⟩ name no hsplit hname
    rw [menuHandler_eq mpd now arg hsplit hname] at hr
    obtain ⟨calls, hcalls, -⟩ := bind_eq_ok_iff.mp hr
    rcases (mpd.loadPlaylist_isOk_iff _).mp ⟨calls, hcalls⟩ with hno | hlist
    · rw [le_wrapInt_atoi_sub_one_iff no (by decide) (by decide)] at hno
      exact hno.imp (fun h => by omega) .inl
    · exact .inr (.inr hlist)
  · intro h
    by_cases hload : ∃ name no, gStrsplit id "_".toList 2 = [name, no]
        ∧ gAsciiStrcaseEq name "pl".toList = true
    · obtain ⟨name, no, hsplit, hname⟩ := hload
      have hno : -1 ≤ wrapInt (atoi no - 1) ∨ mpd.currentList = none := by
        rw [le_wrapInt_atoi_sub_one_iff no (by decide) (by decide), or_assoc]
        exact (h name no hsplit hname).imp_left (fun h => by omega)
      obtain ⟨calls, hcalls⟩ := (mpd.loadPlaylist_isOk_iff _).mpr hno
      exact ⟨(mpd, calls), by
        rw [menuHandler_eq mpd now arg hsplit hname, hcalls]
        rfl⟩
    · refine mpd.menuHandler_isOk now arg (fun name no hsplit => ?_)
      exact Bool.eq_false_iff.mpr (fun hname => hload ⟨name, no, hsplit, hname⟩)

end LcdStuffMpd
