import LcdStuff.Heap
import LcdStuff.SongDisplay

/-!
# The memory of the MPD module

`mpd.c` allocates a `struct song` and its two strings whenever it asks the daemon for the
song that is played, and an array with a string for each playlist whenever it asks for
them. The module owns one of each, `current_song` and `current_list`, and what it replaces
it has to free.

The functions are written here once more, with pointers in place of the values, so that
what is freed too early or twice has no result. Every run has one, and it sends what the
run over the values sends (`MpdMemory.sends_of_run`).

But not everything is freed. When the song is the one that is remembered,
`mpd_update_status_time` deletes the remembered one and forgets it, and keeps no pointer to
the one that it has just allocated. So for each such call a song is lost
(`MpdMemory.live_exit`), which is every second one while a song is played
(`MpdMemory.live_exit_playedOn`).
-/

/-! ## The playlists of the daemon -/

/-- `g_path_get_basename` -/
def gPathGetBasename (path : Str) : Str :=
  if path = [] then ".".toList
  else
    match path.reverse.dropWhile (· = '/') with
    | [] => "/".toList
    | rest => (rest.takeWhile (· ≠ '/')).reverse

/-- `MpdData`, as far as it is looked at. -/
inductive MpdData where
  /-- `MPD_DATA_TYPE_PLAYLIST`, with its path -/
  | playlist (path : Str)
  /-- Any other type. -/
  | other
  deriving DecidableEq, Repr

namespace LcdStuffMpd

/-- `mpd_get_playlists`, with what `mpd_database_get_directory` returns. -/
def getPlaylists (data : List MpdData) : List Str :=
  data.filterMap (fun
    | .playlist path => some (gPathGetBasename path)
    | .other => none)

end LcdStuffMpd

/-- **What happens** to the module. -/
inductive MpdEvent where
  /-- `mpd_start_connection` is called. -/
  | start
  /-- `mpd_update_status_time` is called, and the daemon reports a song. -/
  | update (current : Option MpdSong) (elapsed total : Int) (isRepeat isRandom : Bool)
  /-- `mpd_state_changed_handler` is called, and the daemon reports a state. -/
  | stateChanged (state : MpdPlayer)
  /-- `mpd_update_playlist_menu` is called, and the daemon reports what it has. -/
  | playlists (data : List MpdData)
  deriving DecidableEq, Repr

namespace LcdStuffMpd

variable (convert : Str → Option Str)

/-- **An event**: what it leaves in the module, and the commands it queues. -/
def next (mpd : LcdStuffMpd) : MpdEvent → LcdStuffMpd × List Command
  | .start => ({ mpd with currentSong := some (songNew convert [] []) }, [])
  | .update current elapsed total isRepeat isRandom =>
    mpd.updateStatusTime convert current elapsed total isRepeat isRandom
  | .stateChanged state => mpd.stateChanged state
  | .playlists data => mpd.updatePlaylistMenu (getPlaylists data)

/-- The module as `mpd_run` begins. -/
def init (screen : Screen) : LcdStuffMpd := ⟨.unknown, false, none, 2 ^ 32 - 1, none, screen⟩

/-- One event after the other. -/
def run (mpd : LcdStuffMpd) : List MpdEvent → LcdStuffMpd × List Command
  | [] => (mpd, [])
  | event :: events =>
    let r := mpd.next convert event
    let r' := run r.1 events
    (r'.1, r.2 ++ r'.2)

/-- The song that is reported is the one that is remembered and displayed. -/
def finds (mpd : LcdStuffMpd) : MpdEvent → Bool
  | .update current .. =>
    decide (mpd.currentState = .play)
      && songCompare (mpd.getCurrentSong convert current) mpd.currentSong && mpd.songDisplayed
  | _ => false

/-- How often that is so in a run. -/
def lost (mpd : LcdStuffMpd) : List MpdEvent → ℕ
  | [] => 0
  | event :: events => (mpd.finds convert event).toNat + lost (mpd.next convert event).1 events

end LcdStuffMpd

/-! ## The functions over the memory -/

/-- **What is allocated.** -/
inductive MpdBlock where
  /-- A string. -/
  | string (s : Str)
  /-- A `struct song` with its `title` and its `artist` -/
  | song (title artist : Option ℕ)
  /-- A `GPtrArray` with its `pdata` -/
  | ptrArray (pdata : List ℕ)
  deriving DecidableEq, Repr

/-- `struct lcd_stuff_mpd`, as far as it is needed, with the memory it points to. -/
structure MpdMemory where
  /-- What is allocated. -/
  heap : Heap MpdBlock
  /-- `current_state` -/
  currentState : MpdPlayer
  /-- `song_displayed` -/
  songDisplayed : Bool
  /-- `current_song` -/
  currentSong : Option ℕ
  /-- `current_list` -/
  currentList : Option ℕ
  /-- `screen` -/
  screen : Screen

namespace MpdMemory

variable (convert : Str → Option Str)

/-- The string at an address. -/
def stringAt (h : Heap MpdBlock) (p : Option ℕ) : Option Str := do
  match ← h.read (← p) with
  | .string s => some s
  | _ => none

/-- The `title` and the `artist` of the song at an address. -/
def songAt (h : Heap MpdBlock) (p : ℕ) : Option (Option ℕ × Option ℕ) := do
  match ← h.read p with
  | .song title artist => some (title, artist)
  | _ => none

/-- The `pdata` of the array at an address. -/
def ptrArrayAt (h : Heap MpdBlock) (p : ℕ) : Option (List ℕ) := do
  match ← h.read p with
  | .ptrArray pdata => some pdata
  | _ => none

/-- `g_free` -/
def gFree (h : Heap MpdBlock) : Option ℕ → Option (Heap MpdBlock)
  | none => some h
  | some p => h.free p

/-- `mpd_song_set_title` -/
def songSetTitle (h : Heap MpdBlock) (song : ℕ) (title : Str) : Option (Heap MpdBlock) := do
  let (string, h) := h.malloc (.string ((convert title).getD "(Unknown)".toList))
  let (_, artist) ← songAt h song
  h.write song (.song (some string) artist)

/-- `mpd_song_set_artist` -/
def songSetArtist (h : Heap MpdBlock) (song : ℕ) (artist : Str) : Option (Heap MpdBlock) := do
  let (string, h) := h.malloc (.string ((convert artist).getD "(Unknown)".toList))
  let (title, _) ← songAt h song
  h.write song (.song title (some string))

/-- `mpd_song_new` -/
def songNew (h : Heap MpdBlock) (title artist : Str) : Option (ℕ × Heap MpdBlock) := do
  let (song, h) := h.malloc (.song none none)
  let h ← songSetTitle convert h song title
  let h ← songSetArtist convert h song artist
  some (song, h)

/-- `mpd_song_delete` -/
def songDelete (h : Heap MpdBlock) : Option ℕ → Option (Heap MpdBlock)
  | none => some h
  | some song => do
    let (title, _) ← songAt h song
    let h ← gFree h title
    let (_, artist) ← songAt h song
    let h ← gFree h artist
    h.free song

/-- `mpd_song_compare` -/
def songCompare (h : Heap MpdBlock) : Option ℕ → Option ℕ → Option Bool
  | some a, some b => do
    let (titleA, artistA) ← songAt h a
    let (titleB, artistB) ← songAt h b
    if gAsciiStrcaseEq (← stringAt h titleA) (← stringAt h titleB) then
      some (gAsciiStrcaseEq (← stringAt h artistA) (← stringAt h artistB))
    else some false
  | _, _ => some false

/-- `mpd_get_current_song`, with what `mpd_playlist_get_current_song` returns. The vector of
`g_strsplit` is freed on every way and left out. -/
def getCurrentSong (h : Heap MpdBlock) (currentState : MpdPlayer) (current : Option MpdSong) :
    Option (ℕ × Heap MpdBlock) :=
  match current with
  | none => songNew convert h [] []
  | some current =>
    if currentState ≠ .play then songNew convert h [] []
    else
      match current.title with
      | none => songNew convert h "(unknown)".toList []
      | some title =>
        match gStrsplit title " - ".toList 2 with
        | [first, second] => songNew convert h first second
        | _ => songNew convert h (current.artist.getD []) title

/-- `mpd_update_status_time`, with what the daemon says is being played. -/
def updateStatusTime (m : MpdMemory) (current : Option MpdSong) (elapsed total : Int)
    (isRepeat isRandom : Bool) : Option (MpdMemory × List Command) :=
  if m.currentState ≠ .play then some (m, [])
  else do
    let (curSong, h) ← getCurrentSong convert m.heap m.currentState current
    let same ← songCompare h (some curSong) m.currentSong
    let line3 := m.screen.showText 2
      (some (LcdStuffMpd.statusLine elapsed total isRepeat isRandom))
    if !same || !m.songDisplayed then
      let h ← songDelete h m.currentSong
      let (title, artist) ← songAt h curSong
      let line1 := m.screen.showText 0 (some (← stringAt h artist))
      let line2 := m.screen.showText 1 (some (← stringAt h title))
      some ({ m with heap := h, currentSong := some curSong, songDisplayed := true },
        line1 ++ line2 ++ line3)
    else
      let h ← songDelete h m.currentSong
      -- nothing points to `curSong` any more
      some ({ m with heap := h, currentSong := none }, line3)

/-- `g_ptr_array_add` of a new string. -/
def ptrArrayAdd (array : ℕ) (h : Heap MpdBlock) (s : Str) : Option (Heap MpdBlock) := do
  let (string, h) := h.malloc (.string s)
  let pdata ← ptrArrayAt h array
  h.write array (.ptrArray (pdata ++ [string]))

/-- `mpd_get_playlists`, with what `mpd_database_get_directory` returns. -/
def getPlaylists (h : Heap MpdBlock) (data : List MpdData) : Option (ℕ × Heap MpdBlock) := do
  let (array, h) := h.malloc (.ptrArray [])
  let h ← data.foldlM (fun h data =>
    match data with
    | .playlist path => ptrArrayAdd array h (gPathGetBasename path)
    | .other => some h) h
  some (array, h)

/-- `mpd_free_playlist` -/
def freePlaylist (h : Heap MpdBlock) (playlist : ℕ) : Option (Heap MpdBlock) := do
  let pdata ← ptrArrayAt h playlist
  let h ← pdata.foldlM Heap.free h
  h.free playlist

/-- The loop of `mpd_playlists_equals` -/
def namesEqual (h : Heap MpdBlock) : List ℕ → List ℕ → Option Bool
  | p :: ps, q :: qs => do
    if gAsciiStrcaseEq (← stringAt h (some p)) (← stringAt h (some q)) then namesEqual h ps qs
    else some false
  | _, _ => some true

/-- `mpd_playlists_equals` -/
def playlistsEquals (h : Heap MpdBlock) (a b : ℕ) : Option Bool := do
  let pdataA ← ptrArrayAt h a
  let pdataB ← ptrArrayAt h b
  if pdataA.length ≠ pdataB.length then some false else namesEqual h pdataA pdataB

/-- The commands that build the menu of the playlists. -/
def playlistMenu (h : Heap MpdBlock) (list : ℕ) : Option (List Command) := do
  let pdata ← ptrArrayAt h list
  let names ← pdata.mapM (fun p => stringAt h (some p))
  some (LcdStuffMpd.playlistMenu names)

/-- `mpd_free_playlist`, unless there is none. -/
def listDelete (h : Heap MpdBlock) : Option ℕ → Option (Heap MpdBlock)
  | none => some h
  | some list => freePlaylist h list

/-- `mpd_update_playlist_menu`, with what `mpd_database_get_directory` returns. -/
def updatePlaylistMenu (m : MpdMemory) (data : List MpdData) :
    Option (MpdMemory × List Command) := do
  let (newList, h) ← getPlaylists m.heap data
  let cmds ←
    match m.currentList with
    | none => playlistMenu h newList
    | some oldList => do
      if ← playlistsEquals h oldList newList then some []
      else (playlistMenu h newList).map (.menuDelItem "mpd_pl".toList :: ·)
  let h ← listDelete h m.currentList
  some ({ m with heap := h, currentList := some newList }, cmds)

/-- **An event.** -/
def next (m : MpdMemory) : MpdEvent → Option (MpdMemory × List Command)
  | .start => do
    let h ← songDelete m.heap m.currentSong
    let (song, h) ← songNew convert h [] []
    some ({ m with heap := h, currentSong := some song }, [])
  | .update current elapsed total isRepeat isRandom =>
    m.updateStatusTime convert current elapsed total isRepeat isRandom
  | .stateChanged state =>
    some ({ m with currentState := state, songDisplayed := false },
      if state = .play then [] else m.screen.clear)
  | .playlists data => m.updatePlaylistMenu data

/-- One event after the other. -/
def run (m : MpdMemory) : List MpdEvent → Option (MpdMemory × List Command)
  | [] => some (m, [])
  | event :: events => do
    let (m, cmds) ← m.next convert event
    let (m, cmds') ← run m events
    some (m, cmds ++ cmds')

/-- What `mpd_run` frees at its end. -/
def exit (m : MpdMemory) : Option (Heap MpdBlock) := do
  let h ← listDelete m.heap m.currentList
  songDelete h m.currentSong

/-- The module as `mpd_run` begins. -/
def init (screen : Screen) : MpdMemory := ⟨.empty, .unknown, false, none, none, screen⟩

/-! ## What the module owns -/

/-- **A song in the memory**: the pointer, the song and the cells it consists of. -/
inductive SongCells : Option ℕ → Option Song → List (Heap.Cell MpdBlock) → Prop
  /-- `NULL` -/
  | null : SongCells none none []
  /-- A `struct song` with its two strings. -/
  | song (p title artist : ℕ) (song : Song) :
    SongCells (some p) (some song) [⟨title, .string song.title⟩, ⟨artist, .string song.artist⟩,
      ⟨p, .song (some title) (some artist)⟩]

/-- The strings of an array. -/
def stringCells (items : List (ℕ × Str)) : List (Heap.Cell MpdBlock) :=
  items.map (fun item => ⟨item.1, .string item.2⟩)

/-- **A list of names in the memory**: the pointer, the names and the cells it consists of. -/
inductive ListCells : Option ℕ → Option (List Str) → List (Heap.Cell MpdBlock) → Prop
  /-- `NULL` -/
  | null : ListCells none none []
  /-- A `GPtrArray` with its strings. -/
  | list (p : ℕ) (items : List (ℕ × Str)) :
    ListCells (some p) (some (items.map Prod.snd))
      (stringCells items ++ [⟨p, .ptrArray (items.map Prod.fst)⟩])

variable (convert : Str → Option Str) {h : Heap MpdBlock} {cells : List (Heap.Cell MpdBlock)}

theorem stringAt_of_mem (hh : h.Holds cells) {p : ℕ} {s : Str} (hmem : ⟨p, .string s⟩ ∈ cells) :
    stringAt h (some p) = some s := by
  show (h.read p).bind _ = _
  rw [hh.read hmem]
  rfl

theorem songAt_of_mem (hh : h.Holds cells) {p : ℕ} {title artist : Option ℕ}
    (hmem : ⟨p, .song title artist⟩ ∈ cells) : songAt h p = some (title, artist) := by
  show (h.read p).bind _ = _
  rw [hh.read hmem]
  rfl

theorem ptrArrayAt_of_mem (hh : h.Holds cells) {p : ℕ} {pdata : List ℕ}
    (hmem : ⟨p, .ptrArray pdata⟩ ∈ cells) : ptrArrayAt h p = some pdata := by
  show (h.read p).bind _ = _
  rw [hh.read hmem]
  rfl

/-! ## Songs -/

theorem songSetTitle_eq {song : ℕ} {title artist : Option ℕ}
    (hh : h.Holds (⟨song, .song title artist⟩ :: cells)) (text : Str) :
    ∃ q h', songSetTitle convert h song text = some h'
      ∧ h'.Holds (⟨song, .song (some q) artist⟩
        :: ⟨q, .string ((convert text).getD "(Unknown)".toList)⟩ :: cells) := by
  obtain ⟨q, h₁, hmalloc, hh₁⟩ := hh.malloc (.string ((convert text).getD "(Unknown)".toList))
  obtain ⟨h', hwrite, hh'⟩ := (hh₁.perm (List.Perm.swap _ _ _)).write (.song (some q) artist)
  have hsong := songAt_of_mem hh₁ (List.mem_cons_of_mem _ List.mem_cons_self)
  refine ⟨q, h', ?_, hh'⟩
  simp only [songSetTitle, hmalloc, hsong, Option.bind_eq_bind, Option.bind_some]
  exact hwrite

theorem songSetArtist_eq {song : ℕ} {title artist : Option ℕ}
    (hh : h.Holds (⟨song, .song title artist⟩ :: cells)) (text : Str) :
    ∃ q h', songSetArtist convert h song text = some h'
      ∧ h'.Holds (⟨song, .song title (some q)⟩
        :: ⟨q, .string ((convert text).getD "(Unknown)".toList)⟩ :: cells) := by
  obtain ⟨q, h₁, hmalloc, hh₁⟩ := hh.malloc (.string ((convert text).getD "(Unknown)".toList))
  obtain ⟨h', hwrite, hh'⟩ := (hh₁.perm (List.Perm.swap _ _ _)).write (.song title (some q))
  have hsong := songAt_of_mem hh₁ (List.mem_cons_of_mem _ List.mem_cons_self)
  refine ⟨q, h', ?_, hh'⟩
  simp only [songSetArtist, hmalloc, hsong, Option.bind_eq_bind, Option.bind_some]
  exact hwrite

/-- **A song is allocated.** -/
theorem songNew_eq (hh : h.Holds cells) (title artist : Str) :
    ∃ p h' song, songNew convert h title artist = some (p, h')
      ∧ SongCells (some p) (some (LcdStuffMpd.songNew convert title artist)) song
      ∧ h'.Holds (song ++ cells) := by
  obtain ⟨p, h₁, hmalloc, hh₁⟩ := hh.malloc (.song none none)
  obtain ⟨t, h₂, htitle, hh₂⟩ := songSetTitle_eq convert hh₁ title
  obtain ⟨a, h₃, hartist, hh₃⟩ := songSetArtist_eq convert hh₂ artist
  refine ⟨p, h₃, _, ?_, .song p t a _, ?_⟩
  · simp only [songNew, hmalloc, htitle, hartist, Option.bind_eq_bind, Option.bind_some]
  · exact hh₃.perm ((List.reverse_perm [_, _, _]).append_right cells)

/-- **A song is deleted**, and so is none. -/
theorem songDelete_eq {p : Option ℕ} {s : Option Song} {song : List (Heap.Cell MpdBlock)}
    (hsong : SongCells p s song) (hh : h.Holds (song ++ cells)) :
    ∃ h', songDelete h p = some h' ∧ h'.Holds cells := by
  cases hsong with
  | null => exact ⟨h, rfl, hh⟩
  | song p title artist song =>
    have hread : songAt h p = some (some title, some artist) :=
      songAt_of_mem hh (by simp)
    obtain ⟨h₁, htitle, hh₁⟩ := hh.free
    have hread₁ : songAt h₁ p = some (some title, some artist) :=
      songAt_of_mem hh₁ (by simp)
    obtain ⟨h₂, hartist, hh₂⟩ := Heap.Holds.free hh₁
    obtain ⟨h₃, hfree, hh₃⟩ := Heap.Holds.free hh₂
    refine ⟨h₃, ?_, hh₃⟩
    simp only [songDelete, hread, gFree, htitle, hread₁, hartist, Option.bind_eq_bind,
      Option.bind_some]
    exact hfree

/-- The song at an address is read. -/
theorem SongCells.read {p : ℕ} {s : Song} {song : List (Heap.Cell MpdBlock)}
    (hsong : SongCells (some p) (some s) song) (hh : h.Holds cells) (hsub : song ⊆ cells) :
    ∃ title artist, songAt h p = some (title, artist) ∧ stringAt h title = some s.title
      ∧ stringAt h artist = some s.artist := by
  cases hsong with
  | song p title artist s =>
    refine ⟨some title, some artist, songAt_of_mem hh (hsub (by simp)),
      stringAt_of_mem hh (hsub (by simp)), stringAt_of_mem hh (hsub (by simp))⟩

/-- **Two songs are compared.** -/
theorem songCompare_eq {p : ℕ} {q : Option ℕ} {a : Song} {b : Option Song}
    {cellsA cellsB : List (Heap.Cell MpdBlock)} (ha : SongCells (some p) (some a) cellsA)
    (hb : SongCells q b cellsB) (hh : h.Holds cells) (hsubA : cellsA ⊆ cells)
    (hsubB : cellsB ⊆ cells) :
    songCompare h (some p) q = some (LcdStuffMpd.songCompare a b) := by
  obtain ⟨titleA, artistA, hsongA, htitleA, hartistA⟩ := ha.read hh hsubA
  cases hb with
  | null => rfl
  | song q t' a' b =>
    obtain ⟨titleB, artistB, hsongB, htitleB, hartistB⟩ :=
      SongCells.read (.song q t' a' b) hh hsubB
    simp only [songCompare, hsongA, hsongB, htitleA, htitleB, hartistA, hartistB,
      Option.bind_eq_bind, Option.bind_some, LcdStuffMpd.songCompare]
    cases gAsciiStrcaseEq a.title b.title <;> rfl

/-- The same texts are made a song of over the values and over the memory. -/
theorem exists_getCurrentSong (mpd : LcdStuffMpd)
    (current : Option MpdSong) :
    ∃ title artist, mpd.getCurrentSong convert current = LcdStuffMpd.songNew convert title artist
      ∧ ∀ h, getCurrentSong convert h mpd.currentState current
        = songNew convert h title artist := by
  unfold getCurrentSong LcdStuffMpd.getCurrentSong
  cases current with
  | none => exact ⟨_, _, rfl, fun _ => rfl⟩
  | some current =>
    dsimp only
    by_cases hplay : mpd.currentState ≠ .play
    · simp only [if_pos hplay]
      exact ⟨_, _, rfl, fun _ => rfl⟩
    · simp only [if_neg hplay]
      cases current.title with
      | none => exact ⟨_, _, rfl, fun _ => rfl⟩
      | some title =>
        dsimp only
        rcases gStrsplit title " - ".toList 2 with _ | ⟨first, _ | ⟨second, _ | ⟨third, rest⟩⟩⟩ <;>
          exact ⟨_, _, rfl, fun _ => rfl⟩

/-- **The song that the daemon reports is allocated.** -/
theorem getCurrentSong_eq (hh : h.Holds cells) (mpd : LcdStuffMpd) (current : Option MpdSong) :
    ∃ p h' song, getCurrentSong convert h mpd.currentState current = some (p, h')
      ∧ SongCells (some p) (some (mpd.getCurrentSong convert current)) song
      ∧ h'.Holds (song ++ cells) := by
  obtain ⟨title, artist, hvalue, hmemory⟩ := exists_getCurrentSong convert mpd current
  rw [hvalue, hmemory]
  exact songNew_eq convert hh title artist

/-! ## Lists of names -/

theorem mapM_stringAt {items : List (ℕ × Str)} (hh : h.Holds cells)
    (hsub : stringCells items ⊆ cells) :
    (items.map Prod.fst).mapM (fun p => stringAt h (some p)) = some (items.map Prod.snd) := by
  induction items with
  | nil => rfl
  | cons item items ih =>
    obtain ⟨hhead, htail⟩ := List.cons_subset.mp hsub
    rw [List.map_cons, List.mapM_cons, stringAt_of_mem hh hhead, ih htail]
    rfl

/-- **A list of names is freed.** -/
theorem freePlaylist_eq {p : ℕ} {names : List Str} {list : List (Heap.Cell MpdBlock)}
    (hlist : ListCells (some p) (some names) list) (hh : h.Holds (list ++ cells)) :
    ∃ h', freePlaylist h p = some h' ∧ h'.Holds cells := by
  cases hlist with
  | list p items =>
    have hread : ptrArrayAt h p = some (items.map Prod.fst) :=
      ptrArrayAt_of_mem hh (by simp)
    rw [List.append_assoc] at hh
    obtain ⟨h₁, hstrings, hh₁⟩ := hh.foldlM_free
    obtain ⟨h₂, hfree, hh₂⟩ := Heap.Holds.free hh₁
    have hfst : (stringCells items).map Sigma.fst = items.map Prod.fst := List.map_map
    rw [hfst] at hstrings
    refine ⟨h₂, ?_, hh₂⟩
    simp only [freePlaylist, hread, hstrings, Option.bind_eq_bind, Option.bind_some]
    exact hfree

/-- And so is none. -/
theorem listDelete_eq {p : Option ℕ} {names : Option (List Str)}
    {list : List (Heap.Cell MpdBlock)} (hlist : ListCells p names list)
    (hh : h.Holds (list ++ cells)) : ∃ h', listDelete h p = some h' ∧ h'.Holds cells := by
  cases hlist with
  | null => exact ⟨h, rfl, hh⟩
  | list p items => exact freePlaylist_eq (.list p items) hh

/-- **A string is added to an array.** -/
theorem ptrArrayAdd_eq {array : ℕ} {items : List (ℕ × Str)}
    (hh : h.Holds (⟨array, .ptrArray (items.map Prod.fst)⟩ :: (stringCells items ++ cells)))
    (s : Str) :
    ∃ q h', ptrArrayAdd array h s = some h'
      ∧ h'.Holds (⟨array, .ptrArray ((items ++ [(q, s)]).map Prod.fst)⟩
        :: (stringCells (items ++ [(q, s)]) ++ cells)) := by
  obtain ⟨q, h₁, hmalloc, hh₁⟩ := hh.malloc (.string s)
  have hread := ptrArrayAt_of_mem hh₁ (List.mem_cons_of_mem _ List.mem_cons_self)
  obtain ⟨h', hwrite, hh'⟩ := (hh₁.perm (List.Perm.swap _ _ _)).write
    (.ptrArray (items.map Prod.fst ++ [q]))
  refine ⟨q, h', ?_, ?_⟩
  · simp only [ptrArrayAdd, hmalloc, hread, Option.bind_eq_bind, Option.bind_some]
    exact hwrite
  · rw [List.map_append]
    refine hh'.perm (.cons _ ?_)
    have hcells : stringCells (items ++ [(q, s)]) ++ cells
        = stringCells items ++ (⟨q, .string s⟩ :: cells) := by
      rw [stringCells, List.map_append, List.append_assoc]
      rfl
    rw [hcells]
    exact List.perm_middle

/-- **The names of the playlists are allocated**: what one entry of the database adds. -/
theorem foldlM_playlist {array : ℕ} (data : List MpdData) {items : List (ℕ × Str)}
    (hh : h.Holds (⟨array, .ptrArray (items.map Prod.fst)⟩ :: (stringCells items ++ cells))) :
    ∃ h' items', data.foldlM (fun h data =>
        match data with
        | .playlist path => ptrArrayAdd array h (gPathGetBasename path)
        | .other => some h) h = some h'
      ∧ items'.map Prod.snd = items.map Prod.snd ++ LcdStuffMpd.getPlaylists data
      ∧ h'.Holds (⟨array, .ptrArray (items'.map Prod.fst)⟩ :: (stringCells items' ++ cells)) := by
  induction data generalizing h items with
  | nil => exact ⟨h, items, rfl, (List.append_nil _).symm, hh⟩
  | cons entry data ih =>
    cases entry with
    | playlist path =>
      obtain ⟨q, h₁, hadd, hh₁⟩ := ptrArrayAdd_eq hh (gPathGetBasename path)
      obtain ⟨h', items', hrest, hnames, hh'⟩ := ih hh₁
      refine ⟨h', items', ?_, ?_, hh'⟩
      · rw [List.foldlM_cons]
        dsimp only
        rw [hadd]
        exact hrest
      · rw [hnames, List.map_append, List.append_assoc]
        rfl
    | other =>
      obtain ⟨h', items', hrest, hnames, hh'⟩ := ih hh
      exact ⟨h', items', hrest, hnames, hh'⟩

/-- **The names of the playlists are allocated.** -/
theorem getPlaylists_eq (hh : h.Holds cells) (data : List MpdData) :
    ∃ p h' list, getPlaylists h data = some (p, h')
      ∧ ListCells (some p) (some (LcdStuffMpd.getPlaylists data)) list
      ∧ h'.Holds (list ++ cells) := by
  obtain ⟨p, h₁, hmalloc, hh₁⟩ := hh.malloc (.ptrArray [])
  obtain ⟨h', items, hfold, hnames, hh'⟩ := @foldlM_playlist _ _ p data [] hh₁
  refine ⟨p, h', stringCells items ++ [⟨p, .ptrArray (items.map Prod.fst)⟩], ?_, ?_, ?_⟩
  · simp only [getPlaylists, hmalloc, Option.bind_eq_bind]
    rw [hfold]
    rfl
  · have hcells := ListCells.list p items
    rw [hnames] at hcells
    exact hcells
  · rw [List.append_assoc]
    exact hh'.perm List.perm_middle

/-- The loop over two lists of names. -/
theorem namesEqual_eq (hh : h.Holds cells) {a b : List (ℕ × Str)} (ha : stringCells a ⊆ cells)
    (hb : stringCells b ⊆ cells) :
    namesEqual h (a.map Prod.fst) (b.map Prod.fst)
      = some (((a.map Prod.snd).zip (b.map Prod.snd)).all (fun p => gAsciiStrcaseEq p.1 p.2)) := by
  induction a generalizing b with
  | nil => rfl
  | cons x a ih =>
    cases b with
    | nil => rfl
    | cons y b =>
      obtain ⟨hx, ha⟩ := List.cons_subset.mp ha
      obtain ⟨hy, hb⟩ := List.cons_subset.mp hb
      simp only [List.map_cons, namesEqual, stringAt_of_mem hh hx, stringAt_of_mem hh hy,
        Option.bind_eq_bind, Option.bind_some, List.zip_cons_cons, List.all_cons, ih ha hb]
      cases gAsciiStrcaseEq x.2 y.2 <;> rfl

/-- **Two lists of names are compared.** -/
theorem playlistsEquals_eq {p q : ℕ} {a b : List Str} {cellsA cellsB : List (Heap.Cell MpdBlock)}
    (ha : ListCells (some p) (some a) cellsA) (hb : ListCells (some q) (some b) cellsB)
    (hh : h.Holds cells) (hsubA : cellsA ⊆ cells) (hsubB : cellsB ⊆ cells) :
    playlistsEquals h p q = some (LcdStuffMpd.playlistsEquals a b) := by
  cases ha with
  | list p a =>
    cases hb with
    | list q b =>
      obtain ⟨hstringsA, hA⟩ := List.append_subset.mp hsubA
      obtain ⟨hstringsB, hB⟩ := List.append_subset.mp hsubB
      have hreadA := ptrArrayAt_of_mem hh (hA List.mem_cons_self)
      have hreadB := ptrArrayAt_of_mem hh (hB List.mem_cons_self)
      simp only [playlistsEquals, hreadA, hreadB, Option.bind_eq_bind, Option.bind_some,
        LcdStuffMpd.playlistsEquals, List.length_map, namesEqual_eq hh hstringsA hstringsB]
      by_cases hlen : a.length = b.length
      · rw [if_neg (not_not.mpr hlen), beq_iff_eq.mpr hlen, Bool.true_and]
      · rw [if_pos hlen, beq_eq_false_iff_ne.mpr hlen, Bool.false_and]

/-- **The menu of a list of names.** -/
theorem playlistMenu_eq {p : ℕ} {names : List Str} {list : List (Heap.Cell MpdBlock)}
    (hlist : ListCells (some p) (some names) list) (hh : h.Holds cells) (hsub : list ⊆ cells) :
    playlistMenu h p = some (LcdStuffMpd.playlistMenu names) := by
  cases hlist with
  | list p items =>
    obtain ⟨hstrings, harray⟩ := List.append_subset.mp hsub
    have hread := ptrArrayAt_of_mem hh (harray List.mem_cons_self)
    simp only [playlistMenu, hread, mapM_stringAt hh hstrings, Option.bind_eq_bind,
      Option.bind_some]

/-! ## A run -/

/-- **The memory of a module**: it is what the values say, and besides there is what was lost,
three blocks for a song. -/
structure Represents (m : MpdMemory) (mpd : LcdStuffMpd) (lost : ℕ) : Prop where
  /-- `current_state` -/
  state : m.currentState = mpd.currentState
  /-- `song_displayed` -/
  displayed : m.songDisplayed = mpd.songDisplayed
  /-- `screen` -/
  screen : m.screen = mpd.screen
  /-- The memory. -/
  owned : ∃ song list garbage, SongCells m.currentSong mpd.currentSong song
    ∧ ListCells m.currentList mpd.currentList list ∧ garbage.length = 3 * lost
    ∧ m.heap.Holds (song ++ (list ++ garbage))

variable {m : MpdMemory} {mpd : LcdStuffMpd} {lost : ℕ}

/-- A song consists of three blocks. -/
theorem SongCells.length {p : ℕ} {s : Option Song} {song : List (Heap.Cell MpdBlock)}
    (hsong : SongCells (some p) s song) : song.length = 3 := by
  cases hsong
  rfl

/-- `mpd_start_connection` replaces the song. -/
theorem Represents.start (hm : m.Represents mpd lost) :
    ∃ m', m.next convert .start = some (m', [])
      ∧ m'.Represents (mpd.next convert .start).1 lost := by
  obtain ⟨song, list, garbage, hsong, hlist, hlost, hh⟩ := hm.owned
  obtain ⟨h₁, hdelete, hh₁⟩ := songDelete_eq hsong hh
  obtain ⟨p, h₂, song', hnew, hsong', hh₂⟩ := songNew_eq convert hh₁ [] []
  refine ⟨{ m with heap := h₂, currentSong := some p }, ?_, hm.state, hm.displayed, hm.screen,
    song', list, garbage, hsong', hlist, hlost, hh₂⟩
  simp only [next, hdelete, hnew, Option.bind_eq_bind, Option.bind_some]

/-- **`mpd_update_status_time`**: the song that was remembered is deleted, and the new one is
remembered or lost. -/
theorem Represents.updateStatusTime (hm : m.Represents mpd lost) (current : Option MpdSong)
    (elapsed total : Int) (isRepeat isRandom : Bool) :
    let event := MpdEvent.update current elapsed total isRepeat isRandom
    ∃ m', m.next convert event = some (m', (mpd.next convert event).2)
      ∧ m'.Represents (mpd.next convert event).1 (lost + (mpd.finds convert event).toNat) := by
  intro event
  show ∃ m', m.updateStatusTime convert current elapsed total isRepeat isRandom
      = some (m', (mpd.updateStatusTime convert current elapsed total isRepeat isRandom).2)
    ∧ m'.Represents (mpd.updateStatusTime convert current elapsed total isRepeat isRandom).1
      (lost + (decide (mpd.currentState = .play)
        && LcdStuffMpd.songCompare (mpd.getCurrentSong convert current) mpd.currentSong
        && mpd.songDisplayed).toNat)
  obtain ⟨heap, state, displayed, currentSong, currentList, screen⟩ := m
  obtain ⟨rfl, rfl, rfl, song, list, garbage, hsong, hlist, hlost, hh⟩ := hm
  unfold MpdMemory.updateStatusTime LcdStuffMpd.updateStatusTime
  by_cases hplay : mpd.currentState = .play
  · simp only [if_neg (not_not.mpr hplay), decide_eq_true hplay, Bool.true_and]
    obtain ⟨p, h₁, new, hget, hnew, hh₁⟩ := getCurrentSong_eq convert hh mpd current
    have hsub : song ⊆ new ++ (song ++ (list ++ garbage)) :=
      List.subset_append_of_subset_right _ (List.subset_append_left _ _)
    have hsame := songCompare_eq hnew hsong hh₁ (List.subset_append_left _ _) hsub
    obtain ⟨h₂, hdelete, hh₂⟩ := songDelete_eq hsong hh₁.swap
    simp only [hget, Option.bind_eq_bind, Option.bind_some, hsame, hdelete, ← Bool.not_and]
    cases hfound : LcdStuffMpd.songCompare (mpd.getCurrentSong convert current) mpd.currentSong
      && mpd.songDisplayed with
    | true =>
      refine ⟨_, rfl, rfl, rfl, rfl, [], list, new ++ garbage, .null, hlist, ?_, hh₂.swap⟩
      rw [List.length_append, hnew.length, hlost]
      show 3 + 3 * lost = 3 * (lost + 1)
      omega
    | false =>
      obtain ⟨title, artist, hread, htitle, hartist⟩ :=
        hnew.read hh₂ (List.subset_append_left _ _)
      simp only [Bool.not_false, if_true, hread, htitle, hartist, Option.bind_some]
      exact ⟨_, rfl, rfl, rfl, rfl, new, list, garbage, hnew, hlist, hlost, hh₂⟩
  · simp only [if_pos hplay, decide_eq_false hplay]
    exact ⟨_, rfl, rfl, rfl, rfl, song, list, garbage, hsong, hlist, hlost, hh⟩

/-- **`mpd_update_playlist_menu`** replaces the list. -/
theorem Represents.updatePlaylistMenu (hm : m.Represents mpd lost) (data : List MpdData) :
    ∃ m', m.next convert (.playlists data) = some (m', (mpd.next convert (.playlists data)).2)
      ∧ m'.Represents (mpd.next convert (.playlists data)).1 lost := by
  show ∃ m', m.updatePlaylistMenu data
      = some (m', (mpd.updatePlaylistMenu (LcdStuffMpd.getPlaylists data)).2)
    ∧ m'.Represents (mpd.updatePlaylistMenu (LcdStuffMpd.getPlaylists data)).1 lost
  obtain ⟨heap, state, displayed, pointer, currentList, screen⟩ := m
  obtain ⟨state, displayed, currentSong, stopTime, currentList, screen⟩ := mpd
  obtain ⟨rfl, rfl, rfl, song, list, garbage, hsong, hlist, hlost, hh⟩ := hm
  obtain ⟨p, h₁, new, hget, hnew, hh₁⟩ := getPlaylists_eq hh.swap data
  have hmenu := playlistMenu_eq hnew hh₁ (List.subset_append_left _ _)
  have hsub : list ⊆ new ++ (list ++ (song ++ garbage)) :=
    List.subset_append_of_subset_right _ (List.subset_append_left _ _)
  obtain ⟨h₂, hdelete, hh₂⟩ := listDelete_eq hlist hh₁.swap
  refine ⟨⟨h₂, state, displayed, pointer, some p, screen⟩, ?_, rfl, rfl, rfl, song, new,
    garbage, hsong, hnew, hlost, hh₂.swap⟩
  unfold MpdMemory.updatePlaylistMenu LcdStuffMpd.updatePlaylistMenu
  simp only [hget, Option.bind_eq_bind, Option.bind_some]
  cases hlist with
  | null => simp only [hmenu, hdelete, Option.bind_some]
  | list old items =>
    have hequal := playlistsEquals_eq (.list old items) hnew hh₁ hsub
      (List.subset_append_left _ _)
    simp only [hequal, Option.bind_some, hmenu, hdelete]
    cases LcdStuffMpd.playlistsEquals (items.map Prod.snd) (LcdStuffMpd.getPlaylists data) <;> rfl

/-- **What an event does** to the memory. -/
theorem Represents.next (hm : m.Represents mpd lost) (event : MpdEvent) :
    ∃ m', m.next convert event = some (m', (mpd.next convert event).2)
      ∧ m'.Represents (mpd.next convert event).1 (lost + (mpd.finds convert event).toNat) := by
  cases event with
  | start => exact hm.start convert
  | update current elapsed total isRepeat isRandom =>
    exact hm.updateStatusTime convert current elapsed total isRepeat isRandom
  | stateChanged state =>
    refine ⟨{ m with currentState := state, songDisplayed := false }, ?_, rfl, rfl, hm.screen,
      hm.owned⟩
    show some (_, if state = .play then [] else m.screen.clear) = _
    rw [hm.screen]
    rfl
  | playlists data => exact hm.updatePlaylistMenu convert data

/-- **What a run does** to the memory, by induction on the events. -/
theorem Represents.run (hm : m.Represents mpd lost) (events : List MpdEvent) :
    ∃ m', m.run convert events = some (m', (mpd.run convert events).2)
      ∧ m'.Represents (mpd.run convert events).1 (lost + mpd.lost convert events) := by
  induction events generalizing m mpd lost with
  | nil => exact ⟨m, rfl, hm⟩
  | cons event events ih =>
    obtain ⟨m₁, hnext, hm₁⟩ := hm.next convert event
    obtain ⟨m', hrun, hm'⟩ := ih hm₁
    refine ⟨m', ?_, ?_⟩
    · simp only [MpdMemory.run, hnext, hrun, Option.bind_eq_bind, Option.bind_some]
      rfl
    · rw [Nat.add_assoc] at hm'
      exact hm'

/-- **What is freed at the end** is what was not lost. -/
theorem Represents.exit (hm : m.Represents mpd lost) :
    m.exit.map Heap.live = some (3 * lost) := by
  obtain ⟨song, list, garbage, hsong, hlist, hlost, hh⟩ := hm.owned
  obtain ⟨h₁, hlistDelete, hh₁⟩ := listDelete_eq hlist hh.swap
  obtain ⟨h₂, hsongDelete, hh₂⟩ := songDelete_eq hsong hh₁
  simp only [MpdMemory.exit, hlistDelete, hsongDelete, Option.bind_eq_bind, Option.bind_some,
    Option.map_some, hh₂.live_eq, hlost]

/-- As `mpd_run` begins, nothing is allocated. -/
theorem represents_init (screen : Screen) :
    (init screen).Represents (LcdStuffMpd.init screen) 0 :=
  ⟨rfl, rfl, rfl, [], [], [], .null, .null, rfl, Heap.holds_empty⟩

/-- **No run reads or frees what it has freed**, and each sends what the run over the values
sends. -/
theorem sends_of_run (screen : Screen) (events : List MpdEvent) :
    ((init screen).run convert events).map Prod.snd
      = some ((LcdStuffMpd.init screen).run convert events).2 := by
  obtain ⟨m, hrun, -⟩ := (represents_init screen).run convert events
  rw [hrun]
  rfl

/-- What is still allocated at the end of a run. -/
theorem Represents.live_of_run (hm : m.Represents mpd 0) (events : List MpdEvent) :
    ((m.run convert events).bind (fun r => r.1.exit)).map Heap.live
      = some (3 * mpd.lost convert events) := by
  obtain ⟨m', hrun, hm'⟩ := hm.run convert events
  rw [hrun, Option.bind_some, hm'.exit, Nat.zero_add]

/-- **What is lost**: at the end of any run everything is freed but three blocks for each call
that has found the song that is remembered. -/
theorem live_exit (screen : Screen) (events : List MpdEvent) :
    (((init screen).run convert events).bind (fun r => r.1.exit)).map Heap.live
      = some (3 * (LcdStuffMpd.init screen).lost convert events) :=
  (represents_init screen).live_of_run convert events

/-! ## A song that is played on -/

/-- The calls while one song is played, with the elapsed and the total time and the modes that
the daemon reports each time. -/
def playedOn (current : Option MpdSong) (reports : List (Int × Int × Bool × Bool)) :
    List MpdEvent :=
  reports.map (fun r => .update current r.1 r.2.1 r.2.2.1 r.2.2.2)

/-- What a call leaves while the player is playing. -/
theorem updateStatusTime_fst {mpd : LcdStuffMpd} (hplay : mpd.currentState = .play)
    (current : Option MpdSong) (elapsed total : Int) (isRepeat isRandom : Bool) :
    (mpd.updateStatusTime convert current elapsed total isRepeat isRandom).1
      = if (LcdStuffMpd.songCompare (mpd.getCurrentSong convert current) mpd.currentSong
          && mpd.songDisplayed) = true then { mpd with currentSong := none }
        else { mpd with
          currentSong := some (mpd.getCurrentSong convert current), songDisplayed := true } := by
  simp only [LcdStuffMpd.updateStatusTime, if_neg (not_not.mpr hplay), ← Bool.not_and]
  cases LcdStuffMpd.songCompare (mpd.getCurrentSong convert current) mpd.currentSong
    && mpd.songDisplayed <;> rfl

/-- **Every second call finds the song**: the one that has found it forgets it. -/
theorem lost_playedOn (current : Option MpdSong) (reports : List (Int × Int × Bool × Bool))
    {mpd : LcdStuffMpd} (hplay : mpd.currentState = .play) :
    ((mpd.songDisplayed = true → mpd.currentSong = none) →
        mpd.lost convert (playedOn current reports) = reports.length / 2)
      ∧ (mpd.songDisplayed = true → mpd.currentSong = some (mpd.getCurrentSong convert current) →
        mpd.lost convert (playedOn current reports) = (reports.length + 1) / 2) := by
  induction reports generalizing mpd with
  | nil => exact ⟨fun _ => rfl, fun _ _ => rfl⟩
  | cons r reports ih =>
    have hlost : mpd.lost convert (playedOn current (r :: reports))
        = (LcdStuffMpd.songCompare (mpd.getCurrentSong convert current) mpd.currentSong
          && mpd.songDisplayed).toNat
          + (mpd.updateStatusTime convert current r.1 r.2.1 r.2.2.1 r.2.2.2).1.lost convert
            (playedOn current reports) := by
      show (decide _ && _ && _).toNat + _ = _
      rw [decide_eq_true hplay, Bool.true_and]
      rfl
    rw [hlost, updateStatusTime_fst convert hplay]
    constructor
    · intro hforgotten
      have hfound : (LcdStuffMpd.songCompare (mpd.getCurrentSong convert current) mpd.currentSong
          && mpd.songDisplayed) = false := by
        cases hdisplayed : mpd.songDisplayed with
        | true => rw [hforgotten hdisplayed]; rfl
        | false => exact Bool.and_false _
      rw [hfound]
      have hnext := (@ih { mpd with
        currentSong := some (mpd.getCurrentSong convert current), songDisplayed := true } hplay).2
        rfl rfl
      rw [if_neg Bool.false_ne_true, hnext, List.length_cons]
      exact Nat.zero_add _
    · intro hdisplayed hsong
      rw [hdisplayed, hsong, SongDisplay.songCompare_self, Bool.and_true, if_pos rfl]
      have hnext := (@ih { mpd with currentSong := none } hplay).1 (fun _ => rfl)
      rw [hdisplayed] at hnext
      rw [hnext, List.length_cons]
      show 1 + _ = _
      omega

/-- **A song that is played on is lost again and again**: in every second call. -/
theorem live_exit_playedOn (screen : Screen)
    (current : Option MpdSong) (reports : List (Int × Int × Bool × Bool)) :
    (((init screen).run convert (.start :: .stateChanged .play :: playedOn current reports)).bind
        (fun r => r.1.exit)).map Heap.live = some (3 * (reports.length / 2)) := by
  rw [(represents_init screen).live_of_run]
  have hlost := (@lost_playedOn convert current reports
    ⟨.play, false, some (LcdStuffMpd.songNew convert [] []), 2 ^ 32 - 1, none, screen⟩ rfl).1
    (fun h => absurd h Bool.false_ne_true)
  show some (3 * (0 + (0 + LcdStuffMpd.lost convert _ _))) = _
  rw [Nat.zero_add, Nat.zero_add]
  exact congrArg (fun n => some (3 * n)) hlost

end MpdMemory
