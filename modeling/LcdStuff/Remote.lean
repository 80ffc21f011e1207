import Mathlib.Data.List.Infix
import LcdStuff.Pieces
import LcdStuff.Mplayer
import LcdStuff.Service

/-!
# Remote commands in reads

The remote interface is a protocol of lines, but `check_for_net_input` takes
what one `read` returns for one command, and `mplayer_net_handler` looks at its
words, between the blanks. What TCP joins is looked at as far as the second or
third word goes, which may run on into the next line; and what it cuts is
looked at from the cut on.

So a command is carried out in a read that begins with it, or by accident: a
`play` without a number may find one in the line behind it, and an argument may
look like a command. The requests of a sequence of commands are the same for
every cut of their text into reads in which each command that asks for
something begins a read that decides what, and no other read asks for
anything; where another one does, they are the same if the reads that ask
happen to be in step with the commands (`RemoteCommand.requests_eq_iff`).
-/

/-- A word of the remote interface: a blank separates it from the next one, a
newline ends the line, and a NUL byte would end the string. -/
def IsWord (w : Str) : Prop := ∀ c ∈ w, c ∉ [' ', '\n', '\x00']

instance (w : Str) : Decidable (IsWord w) :=
  List.decidableBAll (fun c => c ∉ [' ', '\n', '\x00']) w

/-- **A command for the mplayer module**, `mplayer <command> [arg]`: any word, and
another one or none. -/
structure RemoteCommand where
  /-- `<command>` -/
  word : Str
  /-- `[arg]` -/
  arg : Option Str
  /-- The command is a word, -/
  isWord : IsWord word
  /-- and so is its argument. -/
  isArg : ∀ a ∈ arg, IsWord a

/-- The words that ask for something, and what they ask for. -/
def remoteKeywords : List (Str × MplayerRequest) :=
  [("streams".toList, .streams), ("stop".toList, .stop), ("pause_play".toList, .pausePlay)]

/-! ## What a read says -/

/-- The read begins with the name of the module, and then a word that begins so. -/
def Begins (keyword read : Str) : Prop :=
  ∃ word more, read.splitOn ' ' = "mplayer".toList :: word :: more ∧ keyword <+: word

/-- The read begins with the name of the module, a word that begins with `play`, and a
word whose value is that of a channel. -/
def Plays (no : Int) (read : Str) : Prop :=
  ∃ word number more, read.splitOn ' ' = "mplayer".toList :: word :: number :: more
    ∧ "play".toList <+: word ∧ atoi number = no

/-- **The read asks for something.** -/
def Asks (read : Str) : Prop :=
  (∃ keyword ∈ remoteKeywords, Begins keyword.1 read) ∨ ∃ no, Plays no read

namespace RemoteCommand

/-- The line of a command, as it is sent. -/
def line (command : RemoteCommand) : Str :=
  "mplayer ".toList ++ (command.word ++ (command.arg.elim [] (' ' :: ·) ++ ['\n']))

/-- The command asks for something: `play` does with an argument. -/
def Acts (command : RemoteCommand) : Prop :=
  (∃ keyword ∈ remoteKeywords, keyword.1 <+: command.word)
    ∨ ("play".toList <+: command.word ∧ command.arg ≠ none)

/-- **The read decides what the command asks for**: it goes on behind the name of
the module up to the end of the word that asks, or as far into a number as it
takes for the value of the argument. -/
def DecidedBy (command : RemoteCommand) (read : Str) : Prop :=
  (∃ keyword ∈ remoteKeywords, keyword.1 <+: command.word ∧ Begins keyword.1 read)
    ∨ ("play".toList <+: command.word ∧ ∃ arg ∈ command.arg, Plays (atoi arg) read)

/-- The text of a sequence of commands. -/
def text (commands : List RemoteCommand) : Str := (commands.map line).flatten

/-- **Every command that asks for something begins a read** that decides it. -/
def Framed (commands : List RemoteCommand) (reads : List Str) : Prop :=
  ∀ before command after, commands = before ++ command :: after → command.Acts →
    ∃ earlier read later, reads = earlier ++ read :: later ∧ earlier.flatten = text before
      ∧ command.DecidedBy read

/-- **A stray read** asks for something, and does not begin where a command does
that asks for something. -/
def Stray (commands : List RemoteCommand) (reads : List Str) : Prop :=
  ∃ earlier read later, reads = earlier ++ read :: later ∧ Asks read
    ∧ ∀ before command after, commands = before ++ command :: after →
      earlier.flatten = text before → ¬ command.Acts

/-- The reads that ask for something happen to decide the commands that do, one by one. -/
def InStep (commands : List RemoteCommand) (reads : List Str) : Prop :=
  Pieces.InStep Asks Acts (fun read command => command.DecidedBy read) reads commands

end RemoteCommand

/-- **A text as it is read**: each `read` returns at least one byte and at most
1024. -/
structure ReadAs (text : Str) (reads : List Str) : Prop where
  /-- The reads are the text. -/
  flatten : reads.flatten = text
  /-- No read is empty. -/
  ne_nil : ∀ read ∈ reads, read ≠ []
  /-- Every read fits into the buffer. -/
  fits : ∀ read ∈ reads, read.length ≤ 1024

/-- **What a read asks the mplayer module for**: `mplayer_net_handler` is called by
`check_for_net_input` if the read is for its client. -/
def ServiceThread.netRequest {β : Type} (svc : ServiceThread β) (bytes : Str) (read : Str) :
    Option MplayerRequest :=
  match svc.netDispatch read with
  | some ⟨client, .net args, _⟩ =>
    if client = mplayerClient bytes then LcdStuffMplayer.netHandler args else none
  | _ => none

/-! ## What the handler makes of words -/

/-- **A word that asks for something** does so where the handler looks for it, and
`play` does with a number behind it. -/
theorem netHandler_cons_eq_some_iff {arg : Str} {more : List Str} {request : MplayerRequest} :
    LcdStuffMplayer.netHandler (arg :: more) = some request
      ↔ (∃ w, (w, request) ∈ remoteKeywords ∧ w <+: arg)
        ∨ "play".toList <+: arg ∧ ∃ number rest, more = number :: rest
          ∧ request = .start (atoi number) := by
  have hstarts : ∀ w : Str, startsWith arg w = decide (w <+: arg) := by
    intro w
    rw [Bool.eq_iff_iff, decide_eq_true_iff]
    exact List.isPrefixOf_iff_prefix
  have hone : ∀ {w w' : Str}, w <+: arg → ¬ w <+: w' → ¬ w' <+: w → ¬ w' <+: arg :=
    fun h h₁ h₂ h' => (List.prefix_or_prefix_of_prefix h h').elim h₁ h₂
  by_cases hplay : "play".toList <+: arg
  · have hkeyword : ¬ ∃ w, (w, request) ∈ remoteKeywords ∧ w <+: arg := by
      rintro ⟨w, hmem, hpre⟩
      have hkeywords : ∀ keyword ∈ remoteKeywords, ¬ keyword.1 <+: "play".toList
          ∧ ¬ "play".toList <+: keyword.1 := by decide
      obtain ⟨h₁, h₂⟩ := hkeywords _ hmem
      exact hone hpre h₁ h₂ hplay
    rw [or_iff_right hkeyword, and_iff_right hplay]
    cases more with
    | nil =>
      have hnone : LcdStuffMplayer.netHandler [arg] = none := by
        unfold LcdStuffMplayer.netHandler
        simp only [hstarts, decide_eq_true hplay,
          decide_eq_false (hone hplay (by decide) (by decide) : ¬ "streams".toList <+: arg),
          decide_eq_false (hone hplay (by decide) (by decide) : ¬ "stop".toList <+: arg),
          decide_eq_false (hone hplay (by decide) (by decide) : ¬ "pause_play".toList <+: arg),
          Bool.false_eq_true, if_false]
      rw [hnone]
      exact ⟨fun h => absurd h nofun, fun ⟨_, _, h, _⟩ => absurd h (List.cons_ne_nil _ _).symm⟩
    | cons number rest =>
      rw [LcdStuffMplayer.netHandler_eq (List.isPrefixOf_iff_prefix.mpr hplay)]
      constructor
      · exact fun h => ⟨number, rest, rfl, (Option.some.inj h).symm⟩
      · rintro ⟨number', rest', heq, rfl⟩
        rw [(List.cons.inj heq).1]
  · rw [or_iff_left (fun h => hplay h.1)]
    have hhandler : LcdStuffMplayer.netHandler (arg :: more)
        = if "streams".toList <+: arg then some .streams
          else if "stop".toList <+: arg then some .stop
          else if "pause_play".toList <+: arg then some .pausePlay else none := by
      unfold LcdStuffMplayer.netHandler
      dsimp only
      simp only [hstarts, decide_eq_true_eq, decide_eq_false hplay]
    rw [hhandler]
    constructor
    · intro h
      split at h
      · next hpre => exact ⟨_, Option.some.inj h ▸ List.mem_cons_self .., hpre⟩
      · split at h
        · next hpre =>
          exact ⟨_, Option.some.inj h ▸ List.mem_cons_of_mem _ (List.mem_cons_self ..), hpre⟩
        · split at h
          · next hpre =>
            exact ⟨_, Option.some.inj h ▸ List.mem_cons_of_mem _
              (List.mem_cons_of_mem _ (List.mem_cons_self ..)), hpre⟩
          · exact absurd h nofun
    · rintro ⟨w, hmem, hpre⟩
      rcases List.mem_cons.mp hmem with heq | hmem
      · obtain ⟨rfl, rfl⟩ := Prod.mk.inj heq
        exact if_pos hpre
      rcases List.mem_cons.mp hmem with heq | hmem
      · obtain ⟨rfl, rfl⟩ := Prod.mk.inj heq
        rw [if_neg (hone hpre (by decide) (by decide)), if_pos hpre]
      · obtain ⟨rfl, rfl⟩ := Prod.mk.inj (List.mem_singleton.mp hmem)
        rw [if_neg (hone hpre (by decide) (by decide)), if_neg (hone hpre (by decide) (by decide)),
          if_pos hpre]

/-- What asks for the same is the same word. -/
theorem remoteKeywords_functional {w w' : Str} {request : MplayerRequest}
    (h : (w, request) ∈ remoteKeywords) (h' : (w', request) ∈ remoteKeywords) : w = w' := by
  have hall : ∀ keyword ∈ remoteKeywords, ∀ keyword' ∈ remoteKeywords,
      keyword.2 = keyword'.2 → keyword.1 = keyword'.1 := by decide
  exact hall _ h _ h' rfl

/-- No word asks for a channel. -/
theorem notMem_remoteKeywords_start (w : Str) (no : Int) : (w, .start no) ∉ remoteKeywords := by
  intro h
  rcases List.mem_cons.mp h with h | h
  · exact absurd (Prod.mk.inj h).2 nofun
  rcases List.mem_cons.mp h with h | h
  · exact absurd (Prod.mk.inj h).2 nofun
  · exact absurd (Prod.mk.inj (List.mem_singleton.mp h)).2 nofun

/-! ## What a read asks for -/

namespace ServiceThread

variable {β : Type} {svc : ServiceThread β} {bytes : Str}

/-- **The first word of a read** says whether it is for the handler, which gets the
others. -/
theorem netRequest_of_splitOn
    (hsvc : ∀ name, svc.clients name = some (mplayerClient bytes) ↔ name = "mplayer".toList)
    {read name : Str} {args : List Str} (h : read.splitOn ' ' = name :: args) :
    svc.netRequest bytes read
      = if name = "mplayer".toList then LcdStuffMplayer.netHandler args else none := by
  by_cases hread : read = []
  · subst hread
    obtain ⟨rfl, rfl⟩ := List.cons.inj h
    rfl
  · have hsplit : gStrsplit read " ".toList 0 = name :: args := by
      rw [show " ".toList = [' '] from rfl, gStrsplit_all hread, h]
    unfold netRequest netDispatch
    rw [hsplit]
    dsimp only
    by_cases hname : name = "mplayer".toList
    · rw [(hsvc name).mpr hname, if_pos hname]
      exact if_pos rfl
    · rw [if_neg hname]
      cases hclient : svc.clients name with
      | none => rfl
      | some client =>
        have hother : client ≠ mplayerClient bytes := fun heq =>
          hname ((hsvc name).mp (hclient.trans (congrArg some heq)))
        dsimp only
        by_cases hcallback : client.netCallback = true
        · rw [if_pos hcallback]
          exact if_neg hother
        · rw [if_neg hcallback]

/-- **What a read asks for.** -/
theorem netRequest_eq_some_iff
    (hsvc : ∀ name, svc.clients name = some (mplayerClient bytes) ↔ name = "mplayer".toList)
    {read : Str} {request : MplayerRequest} :
    svc.netRequest bytes read = some request
      ↔ (∃ w, (w, request) ∈ remoteKeywords ∧ Begins w read)
        ∨ ∃ no, request = .start no ∧ Plays no read := by
  obtain ⟨name, args, hsplit⟩ := List.exists_cons_of_ne_nil (List.splitOn_ne_nil ' ' read)
  rw [netRequest_of_splitOn hsvc hsplit]
  unfold Begins Plays
  rw [hsplit]
  by_cases hname : name = "mplayer".toList
  · rw [if_pos hname, hname]
    cases args with
    | nil =>
      refine iff_of_false nofun ?_
      rintro (⟨_, _, _, _, h, _⟩ | ⟨_, _, _, _, _, h, _⟩)
      · exact absurd (List.cons.inj h).2.symm (List.cons_ne_nil _ _)
      · exact absurd (List.cons.inj h).2.symm (List.cons_ne_nil _ _)
    | cons arg more =>
      rw [netHandler_cons_eq_some_iff]
      refine or_congr (exists_congr fun w => and_congr_right fun _ => ?_) ?_
      · constructor
        · exact fun h => ⟨arg, more, rfl, h⟩
        · rintro ⟨word, rest, heq, h⟩
          rw [(List.cons.inj (List.cons.inj heq).2).1]
          exact h
      · constructor
        · rintro ⟨hplay, number, rest, rfl, rfl⟩
          exact ⟨_, rfl, arg, number, rest, rfl, hplay, rfl⟩
        · rintro ⟨no, rfl, word, number, rest, heq, hplay, rfl⟩
          obtain ⟨rfl, hmore⟩ := List.cons.inj (List.cons.inj heq).2
          exact ⟨hplay, number, rest, hmore, rfl⟩
  · rw [if_neg hname]
    refine iff_of_false nofun ?_
    rintro (⟨_, _, _, _, h, _⟩ | ⟨_, _, _, _, _, h, _⟩)
    · exact hname (List.cons.inj h).1
    · exact hname (List.cons.inj h).1

/-- A read asks for something exactly when the handler is asked for something. -/
theorem asks_iff
    (hsvc : ∀ name, svc.clients name = some (mplayerClient bytes) ↔ name = "mplayer".toList)
    (read : Str) : Asks read ↔ svc.netRequest bytes read ≠ none := by
  rw [Option.ne_none_iff_exists']
  constructor
  · rintro (⟨⟨w, request⟩, hmem, hbegins⟩ | ⟨no, hplays⟩)
    · exact ⟨request, (netRequest_eq_some_iff hsvc).mpr (.inl ⟨w, hmem, hbegins⟩)⟩
    · exact ⟨.start no, (netRequest_eq_some_iff hsvc).mpr (.inr ⟨no, rfl, hplays⟩)⟩
  · rintro ⟨request, h⟩
    rcases (netRequest_eq_some_iff hsvc).mp h with ⟨w, hmem, hbegins⟩ | ⟨no, -, hplays⟩
    · exact .inl ⟨_, hmem, hbegins⟩
    · exact .inr ⟨no, hplays⟩

end ServiceThread

/-! ## What a line asks for -/

namespace RemoteCommand

/-- The words of a line; the last of them ends with the newline. -/
theorem splitOn_line (command : RemoteCommand) : command.line.splitOn ' '
    = "mplayer".toList
      :: command.arg.elim [command.word ++ ['\n']] (fun a => [command.word, a ++ ['\n']]) := by
  have hlast : ∀ {w : Str}, IsWord w → (w ++ ['\n']).splitOn ' ' = [w ++ ['\n']] := by
    intro w hw
    refine List.splitOn_eq_singleton (fun hmem => ?_)
    rcases List.mem_append.mp hmem with hmem | hmem
    · exact hw ' ' hmem (List.mem_cons_self ..)
    · exact absurd hmem (by decide)
  obtain ⟨word, arg, isWord, isArg⟩ := command
  show ("mplayer".toList ++ ' ' :: (word ++ (arg.elim [] (' ' :: ·) ++ ['\n']))).splitOn ' ' = _
  rw [splitOn_append_cons (by decide)]
  cases arg with
  | none =>
    show _ :: (word ++ ['\n']).splitOn ' ' = _
    rw [hlast isWord]
    rfl
  | some a =>
    show _ :: (word ++ ' ' :: (a ++ ['\n'])).splitOn ' ' = _
    rw [splitOn_append_cons (fun h => isWord ' ' h (List.mem_cons_self ..)), hlast (isArg a rfl)]
    rfl

/-- No line is empty. -/
theorem line_ne_nil (command : RemoteCommand) : command.line ≠ [] :=
  List.append_ne_nil_of_left_ne_nil (by decide) _

/-- The line begins with what its word begins with. -/
theorem begins_line_iff (command : RemoteCommand) {keyword : Str} (h : '\n' ∉ keyword) :
    Begins keyword command.line ↔ keyword <+: command.word := by
  have hnewline : keyword <+: command.word ++ ['\n'] ↔ keyword <+: command.word := by
    rw [List.prefix_concat_iff]
    refine or_iff_right (fun heq => h ?_)
    rw [heq]
    exact List.mem_append_right _ (List.mem_singleton_self _)
  unfold Begins
  rw [splitOn_line]
  cases command.arg with
  | none =>
    constructor
    · rintro ⟨word, more, heq, hpre⟩
      rw [← (List.cons.inj (List.cons.inj heq).2).1] at hpre
      exact hnewline.mp hpre
    · exact fun hpre => ⟨_, [], rfl, hnewline.mpr hpre⟩
  | some a =>
    constructor
    · rintro ⟨word, more, heq, hpre⟩
      rw [← (List.cons.inj (List.cons.inj heq).2).1] at hpre
      exact hpre
    · exact fun hpre => ⟨_, [a ++ ['\n']], rfl, hpre⟩

/-- The line plays what its argument says. -/
theorem plays_line_iff (command : RemoteCommand) {no : Int} :
    Plays no command.line
      ↔ "play".toList <+: command.word ∧ ∃ arg ∈ command.arg, atoi arg = no := by
  have hatoi : ∀ a : Str, atoi (a ++ ['\n']) = atoi a := fun a =>
    atoi_append_newline (t := []) (fun c h => absurd h (Option.not_mem_none c))
  unfold Plays
  rw [splitOn_line]
  cases command.arg with
  | none =>
    refine iff_of_false ?_ (fun h => ?_)
    · rintro ⟨word, number, more, heq, -⟩
      exact absurd (List.cons.inj (List.cons.inj heq).2).2.symm (List.cons_ne_nil _ _)
    · obtain ⟨-, arg, harg, -⟩ := h
      exact absurd harg (Option.not_mem_none _)
  | some a =>
    constructor
    · rintro ⟨word, number, more, heq, hplay, rfl⟩
      obtain ⟨rfl, hmore⟩ := List.cons.inj (List.cons.inj heq).2
      refine ⟨hplay, a, rfl, ?_⟩
      rw [← (List.cons.inj hmore).1, hatoi]
    · rintro ⟨hplay, arg, harg, rfl⟩
      obtain rfl := Option.some.inj harg
      exact ⟨command.word, a ++ ['\n'], [], rfl, hplay, hatoi a⟩

/-- No word that asks for something goes over a newline. -/
theorem newline_notMem_of_mem {keyword : Str × MplayerRequest} (h : keyword ∈ remoteKeywords) :
    '\n' ∉ keyword.1 :=
  (by decide : ∀ keyword ∈ remoteKeywords, '\n' ∉ keyword.1) keyword h

/-- A command asks for something exactly when its line does. -/
theorem asks_line_iff (command : RemoteCommand) : Asks command.line ↔ command.Acts := by
  refine or_congr (exists_congr fun keyword => and_congr_right fun hmem => ?_) ?_
  · exact command.begins_line_iff (newline_notMem_of_mem hmem)
  · simp only [plays_line_iff]
    constructor
    · rintro ⟨no, hplay, arg, harg, -⟩
      exact ⟨hplay, fun hnone => Option.not_mem_none arg (hnone ▸ harg)⟩
    · rintro ⟨hplay, harg⟩
      obtain ⟨arg, harg⟩ := Option.ne_none_iff_exists'.mp harg
      exact ⟨atoi arg, hplay, arg, harg, rfl⟩

section Requests

variable {β : Type} {svc : ServiceThread β} {bytes : Str}
variable (hsvc : ∀ name, svc.clients name = some (mplayerClient bytes) ↔ name = "mplayer".toList)
include hsvc

/-- **A read decides a command exactly when it asks for what the line of the command
asks for.** -/
theorem decidedBy_iff (command : RemoteCommand) (read : Str) :
    command.DecidedBy read ↔ svc.netRequest bytes read ≠ none
      ∧ svc.netRequest bytes read = svc.netRequest bytes command.line := by
  have hsome : ∀ {request}, svc.netRequest bytes read = some request →
      svc.netRequest bytes command.line = some request → svc.netRequest bytes read ≠ none
        ∧ svc.netRequest bytes read = svc.netRequest bytes command.line := by
    intro request hread hline
    rw [hread, hline]
    exact ⟨Option.some_ne_none request, rfl⟩
  constructor
  · rintro (⟨⟨w, request⟩, hmem, hpre, hbegins⟩ | ⟨hplay, arg, harg, hplays⟩)
    · have hline := (command.begins_line_iff (newline_notMem_of_mem hmem)).mpr hpre
      exact hsome ((ServiceThread.netRequest_eq_some_iff hsvc).mpr (.inl ⟨w, hmem, hbegins⟩))
        ((ServiceThread.netRequest_eq_some_iff hsvc).mpr (.inl ⟨w, hmem, hline⟩))
    · have hline := command.plays_line_iff.mpr ⟨hplay, arg, harg, rfl⟩
      exact hsome ((ServiceThread.netRequest_eq_some_iff hsvc).mpr (.inr ⟨_, rfl, hplays⟩))
        ((ServiceThread.netRequest_eq_some_iff hsvc).mpr (.inr ⟨_, rfl, hline⟩))
  · rintro ⟨hread, heq⟩
    obtain ⟨request, hread⟩ := Option.ne_none_iff_exists'.mp hread
    have hline := heq.symm.trans hread
    rcases (ServiceThread.netRequest_eq_some_iff hsvc).mp hread with
      ⟨w, hmem, hbegins⟩ | ⟨no, rfl, hplays⟩
    · rcases (ServiceThread.netRequest_eq_some_iff hsvc).mp hline with
        ⟨w', hmem', hbegins'⟩ | ⟨no, rfl, -⟩
      · obtain rfl := remoteKeywords_functional hmem hmem'
        exact .inl ⟨_, hmem,
          (command.begins_line_iff (newline_notMem_of_mem hmem)).mp hbegins', hbegins⟩
      · exact absurd hmem (notMem_remoteKeywords_start w no)
    · rcases (ServiceThread.netRequest_eq_some_iff hsvc).mp hline with
        ⟨w', hmem', -⟩ | ⟨no', hno, hplays'⟩
      · exact absurd hmem' (notMem_remoteKeywords_start w' no)
      · obtain ⟨hplay, arg, harg, rfl⟩ := command.plays_line_iff.mp hplays'
        obtain rfl := MplayerRequest.start.inj hno
        exact .inr ⟨hplay, arg, harg, hplays⟩

/-- **The requests are the same exactly when the reads are in step with the commands.** -/
theorem requests_eq_iff_inStep (commands : List RemoteCommand) (reads : List Str) :
    reads.filterMap (svc.netRequest bytes)
        = (commands.map line).filterMap (svc.netRequest bytes) ↔ InStep commands reads := by
  rw [List.filterMap_map]
  refine Pieces.filterMap_eq_filterMap_iff_inStep (ServiceThread.asks_iff hsvc) (fun command => ?_)
    (fun read command => decidedBy_iff hsvc command read)
  rw [← asks_line_iff, ServiceThread.asks_iff hsvc]

end Requests

/-! ## Where the lines begin -/

/-- No line is empty. -/
theorem ne_nil_of_mem_lines {commands : List RemoteCommand} :
    ∀ part ∈ commands.map line, part ≠ [] := by
  intro part hpart
  obtain ⟨command, -, rfl⟩ := List.mem_map.mp hpart
  exact command.line_ne_nil

/-- The line of a command is at the place behind the lines in front of it. -/
theorem pieceAt_lines_iff {commands : List RemoteCommand} {n : ℕ} {part : Str} :
    Pieces.pieceAt (commands.map line) n = some part
      ↔ ∃ before command after, commands = before ++ command :: after
        ∧ (text before).length = n ∧ command.line = part := by
  rw [Pieces.pieceAt_eq_some_iff ne_nil_of_mem_lines]
  constructor
  · rintro ⟨before, after, heq, rfl⟩
    obtain ⟨before, rest, rfl, rfl, hrest⟩ := List.map_eq_append_iff.mp heq
    obtain ⟨command, after, rfl, rfl, rfl⟩ := List.map_eq_cons_iff.mp hrest
    exact ⟨before, command, after, rfl, rfl, rfl⟩
  · rintro ⟨before, command, after, rfl, rfl, rfl⟩
    exact ⟨before.map line, after.map line, by rw [List.map_append, List.map_cons], rfl⟩

/-- Reads and lines that end at the same place are the same text. -/
theorem flatten_eq_text {earlier later : List Str} {before after : List RemoteCommand}
    (h : (earlier ++ later).flatten = text (before ++ after))
    (hlen : earlier.flatten.length = (text before).length) : earlier.flatten = text before := by
  rw [List.flatten_append, text, List.map_append, List.flatten_append] at h
  exact List.append_inj_left h hlen

/-- **Without a stray read** the requests are the same exactly when every command that asks
for something begins a read that decides it. -/
theorem requests_eq_iff_framed {β : Type} {svc : ServiceThread β} {bytes : Str}
    (hsvc : ∀ name, svc.clients name = some (mplayerClient bytes) ↔ name = "mplayer".toList)
    {commands : List RemoteCommand} {reads : List Str} (h : ReadAs (text commands) reads)
    (hstray : ¬ Stray commands reads) :
    reads.filterMap (svc.netRequest bytes)
        = (commands.map line).filterMap (svc.netRequest bytes) ↔ Framed commands reads := by
  have honly : ∀ n read, Pieces.pieceAt reads n = some read → svc.netRequest bytes read ≠ none →
      ∃ part, Pieces.pieceAt (commands.map line) n = some part
        ∧ svc.netRequest bytes part ≠ none := by
    intro n read hread hrequest
    obtain ⟨earlier, later, rfl, rfl⟩ := (Pieces.pieceAt_eq_some_iff h.ne_nil).mp hread
    by_contra hnone
    refine hstray ⟨earlier, read, later, rfl, (ServiceThread.asks_iff hsvc read).mpr hrequest, ?_⟩
    rintro before command after rfl hplace hacts
    refine hnone ⟨command.line, pieceAt_lines_iff.mpr ⟨before, command, after, rfl, ?_, rfl⟩, ?_⟩
    · rw [hplace]
    · exact (ServiceThread.asks_iff hsvc _).mp (command.asks_line_iff.mpr hacts)
  rw [Pieces.filterMap_eq_filterMap_iff_pieceAt h.flatten h.ne_nil ne_nil_of_mem_lines honly]
  constructor
  · -- the read at the place of a line that asks for something asks for the same
    rintro hsame before command after rfl hacts
    have hline := (ServiceThread.asks_iff hsvc _).mp (command.asks_line_iff.mpr hacts)
    obtain ⟨read, hread, heq⟩ := hsame _ _
      (pieceAt_lines_iff.mpr ⟨before, command, after, rfl, rfl, rfl⟩) hline
    obtain ⟨earlier, later, rfl, hlen⟩ := (Pieces.pieceAt_eq_some_iff h.ne_nil).mp hread
    exact ⟨earlier, read, later, rfl, flatten_eq_text h.flatten hlen,
      (decidedBy_iff hsvc command read).mpr ⟨heq ▸ hline, heq⟩⟩
  · -- the line at the place of a read that decides it asks for the same
    intro hframed n part hpart hrequest
    obtain ⟨before, command, after, rfl, rfl, rfl⟩ := pieceAt_lines_iff.mp hpart
    have hacts := command.asks_line_iff.mp ((ServiceThread.asks_iff hsvc _).mpr hrequest)
    obtain ⟨earlier, read, later, rfl, hplace, hdecided⟩ :=
      hframed before command after rfl hacts
    refine ⟨read, (Pieces.pieceAt_eq_some_iff h.ne_nil).mpr ⟨earlier, later, rfl, ?_⟩,
      ((decidedBy_iff hsvc command read).mp hdecided).2⟩
    rw [hplace]

/-- **When the requests do not depend on the cut**: whatever commands are sent and
however their text is cut into reads, the handler is asked for what it would be
asked for if every line was a read of its own, exactly when every command that
asks for something begins a read that decides it and no other read asks for
anything, or where one does, when the reads that ask for something happen to be
in step with the commands. -/
theorem requests_eq_iff {β : Type} (svc : ServiceThread β) (bytes : Str)
    (hsvc : ∀ name, svc.clients name = some (mplayerClient bytes) ↔ name = "mplayer".toList)
    (commands : List RemoteCommand) (reads : List Str) (h : ReadAs (text commands) reads) :
    reads.filterMap (svc.netRequest bytes)
        = (commands.map line).filterMap (svc.netRequest bytes)
      ↔ Framed commands reads ∧ ¬ Stray commands reads
        ∨ Stray commands reads ∧ InStep commands reads := by
  by_cases hstray : Stray commands reads
  · rw [requests_eq_iff_inStep hsvc, or_iff_right (fun hframed => hframed.2 hstray),
      and_iff_right hstray]
  · rw [requests_eq_iff_framed hsvc h hstray, or_iff_left (fun hstep => hstray hstep.1),
      and_iff_left hstray]

/-- The service thread of a program with the mplayer module alone. -/
def mplayerService : ServiceThread ℕ where
  clients name := if name = "mplayer".toList then some (mplayerClient []) else none
  clientData _ := none
  current := none
  clientNumber := 1

theorem mplayerService_clients (name : Str) :
    mplayerService.clients name = some (mplayerClient []) ↔ name = "mplayer".toList := by
  show (if name = "mplayer".toList then some (mplayerClient []) else none) = _ ↔ _
  split
  · next h => exact ⟨fun _ => h, fun _ => rfl⟩
  · next h => exact ⟨fun heq => absurd heq nofun, fun heq => absurd heq h⟩

/-- `stop` -/
def stopCommand : RemoteCommand := ⟨"stop".toList, none, by decide, by decide⟩

/-- `play 3` -/
def playCommand : RemoteCommand := ⟨"play".toList, some ['3'], by decide, by decide⟩

theorem requests_eq_iff_stop :
    ["mplayer stop".toList, ['\n']].filterMap (mplayerService.netRequest [])
        = ([stopCommand].map line).filterMap (mplayerService.netRequest [])
      ↔ Framed [stopCommand] ["mplayer stop".toList, ['\n']]
          ∧ ¬ Stray [stopCommand] ["mplayer stop".toList, ['\n']]
        ∨ Stray [stopCommand] ["mplayer stop".toList, ['\n']]
          ∧ InStep [stopCommand] ["mplayer stop".toList, ['\n']] :=
  requests_eq_iff mplayerService [] mplayerService_clients [stopCommand]
    ["mplayer stop".toList, ['\n']] ⟨by decide, by decide, by decide⟩

/-- Of two commands in one read only the first is carried out. -/
theorem not_forall_requests_eq :
    ¬ ∀ (svc : ServiceThread ℕ) (bytes : Str),
      (∀ name, svc.clients name = some (mplayerClient bytes) ↔ name = "mplayer".toList) →
      ∀ (commands : List RemoteCommand) (reads : List Str), ReadAs (text commands) reads →
        reads.filterMap (svc.netRequest bytes)
          = (commands.map line).filterMap (svc.netRequest bytes) := by
  intro h
  have heq := h mplayerService [] mplayerService_clients [stopCommand, playCommand]
    ["mplayer stop\nmplayer play 3\n".toList] ⟨by decide, by decide, by decide⟩
  exact absurd heq (by decide)

-- `play` without a number finds one in the next line of the read, and starts the first channel
example : ["mplayer play\nmplayer foo\n".toList].filterMap (mplayerService.netRequest [])
    = [.start 0] := by decide

end RemoteCommand
