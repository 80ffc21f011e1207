import LcdStuff.Channels
import Mathlib.Data.List.Infix

/-!
# The script that shows the channels

`mplayer_remote.py` asks for the channels with `mplayer streams` and prints them with their
numbers; with such a number, `mplayer play` starts the channel. The answer is a stream: one
line for each channel, and `__END__` behind them. The script takes what each `recv` returns
for whole lines, and does not keep what is behind the last newline of it.

So it prints the channels exactly when each `recv` but the last one returns up to the end of a
line (`RemoteScript.showLoop_eq_iff`). In all other cases it prints a name in two parts, or an
empty one, or waits for an `__END__` that it has already had.
-/

namespace RemoteScript

/-! ## The script -/

/-- `splitlines`, with what was read of a line; a newline right behind a carriage return belongs
to it. -/
def splitlinesFrom (behindReturn : Bool) (line : Str) : Str → List Str
  | [] => if line = [] then [] else [line]
  | c :: string =>
    if c = '\n' then
      if behindReturn then splitlinesFrom false [] string
      else line :: splitlinesFrom false [] string
    else if c = '\r' then line :: splitlinesFrom true [] string
    else splitlinesFrom false (line ++ [c]) string

/-- `splitlines` -/
def splitlines (string : Str) : List Str := splitlinesFrom false [] string

/-- The loop over the stations of a response: what it prints with their numbers, the next number,
and `quit`. -/
def printStations (i : ℕ) : List Str → List (Str × ℕ) × ℕ × Bool
  | [] => ([], i, false)
  | station :: stations =>
    if station = "__END__".toList then ([], i, true)
    else
      let r := printStations (i + 1) stations
      ((station, i) :: r.1, r.2)

/-- The loop over the responses: what it prints in all; `none` if it goes on waiting. -/
def showLoop (i : ℕ) : List Str → Option (List (Str × ℕ))
  | [] => none
  | response :: responses =>
    let r := printStations i (splitlines response)
    if r.2.2 then some r.1 else (showLoop r.2.1 responses).map (r.1 ++ ·)

/-! ## The answer -/

/-- **A name that the script can tell**: it is not empty, it is a line, and it is not the end. -/
structure IsStation (name : Str) : Prop where
  /-- It is not empty. -/
  ne_nil : name ≠ []
  /-- It has no newline, -/
  newline : '\n' ∉ name
  /-- and no carriage return. -/
  carriageReturn : '\r' ∉ name
  /-- It is not the end. -/
  ne_end : name ≠ "__END__".toList

/-- Some names as lines. -/
def lines (names : List Str) : Str := names.flatMap (· ++ ['\n'])

/-- The answer with some names. -/
def answer (names : List Str) : Str := lines names ++ "__END__".toList

/-- The names that fit the buffer are answered as they are. -/
theorem streamsReply_eq {channels : List Channel}
    (hlen : ∀ channel ∈ channels, channel.name.length < 1023) :
    streamsReply channels = answer (channels.map Channel.name) := by
  unfold streamsReply answer lines
  rw [List.flatMap_map]
  congr 1
  exact List.flatMap_congr fun channel hmem => streamLine_of_lt (hlen channel hmem)

/-! ## What is printed of it -/

variable {name : Str} {names : List Str}

/-- A line is split off, with what was read of it. -/
theorem splitlinesFrom_line (hnewline : '\n' ∉ name) (hreturn : '\r' ∉ name) (line string : Str) :
    splitlinesFrom false line (name ++ '\n' :: string)
      = (line ++ name) :: splitlinesFrom false [] string := by
  induction name generalizing line with
  | nil =>
    rw [List.nil_append, List.append_nil]
    rfl
  | cons c name ih =>
    obtain ⟨hc, hnewline⟩ := List.ne_and_not_mem_of_not_mem_cons hnewline
    obtain ⟨hc', hreturn⟩ := List.ne_and_not_mem_of_not_mem_cons hreturn
    rw [List.cons_append, splitlinesFrom, if_neg (Ne.symm hc), if_neg (Ne.symm hc'),
      ih hnewline hreturn, List.append_assoc]
    rfl

/-- What is behind the last newline is a line, unless it is empty. -/
theorem splitlinesFrom_end (hnewline : '\n' ∉ name) (hreturn : '\r' ∉ name) (line : Str) :
    splitlinesFrom false line name = if line ++ name = [] then [] else [line ++ name] := by
  induction name generalizing line with
  | nil =>
    rw [List.append_nil]
    rfl
  | cons c name ih =>
    obtain ⟨hc, hnewline⟩ := List.ne_and_not_mem_of_not_mem_cons hnewline
    obtain ⟨hc', hreturn⟩ := List.ne_and_not_mem_of_not_mem_cons hreturn
    rw [splitlinesFrom, if_neg (Ne.symm hc), if_neg (Ne.symm hc'), ih hnewline hreturn,
      List.append_assoc]
    rfl

/-- **The lines of a response** are its names, and what is behind the last newline. -/
theorem splitlines_lines (hnames : ∀ name ∈ names, IsStation name) {part : Str}
    (hnewline : '\n' ∉ part) (hreturn : '\r' ∉ part) :
    splitlines (lines names ++ part) = names ++ if part = [] then [] else [part] := by
  induction names with
  | nil => exact splitlinesFrom_end hnewline hreturn []
  | cons name names ih =>
    obtain ⟨hname, hrest⟩ := List.forall_mem_cons.mp hnames
    have hcons : lines (name :: names) ++ part = name ++ '\n' :: (lines names ++ part) := by
      rw [lines, List.flatMap_cons, List.append_assoc, List.append_assoc]
      rfl
    rw [hcons, splitlines, splitlinesFrom_line hname.newline hname.carriageReturn,
      List.nil_append, List.cons_append]
    exact congrArg (name :: ·) (ih hrest)

/-- The names of a response are printed one after the other. -/
theorem printStations_append (hnames : ∀ name ∈ names, IsStation name) (i : ℕ)
    (stations : List Str) :
    printStations i (names ++ stations)
      = (names.zipIdx i ++ (printStations (i + names.length) stations).1,
        (printStations (i + names.length) stations).2) := by
  induction names generalizing i with
  | nil => rfl
  | cons name names ih =>
    obtain ⟨hname, hrest⟩ := List.forall_mem_cons.mp hnames
    have hlength : i + (name :: names).length = i + 1 + names.length := by
      rw [List.length_cons]
      omega
    rw [List.cons_append, printStations, if_neg hname.ne_end, ih hrest, hlength]
    rfl

/-- An answer begins with the line of its first name. -/
theorem answer_cons (name : Str) (names : List Str) :
    answer (name :: names) = (name ++ ['\n']) ++ answer names := by
  unfold answer lines
  rw [List.flatMap_cons, List.append_assoc]

/-- **Where an answer is cut**: behind some of its lines, and a part of the next one. -/
theorem exists_cut (hnames : ∀ name ∈ names, IsStation name) {response rest : Str}
    (h : response ++ rest = answer names) :
    ∃ done todo part, names = done ++ todo ∧ response = lines done ++ part
      ∧ '\n' ∉ part ∧ part ++ rest = answer todo := by
  induction names generalizing response with
  | nil =>
    refine ⟨[], [], response, rfl, rfl, fun hmem => ?_, h⟩
    have hmem := List.mem_append_left rest hmem
    rw [h] at hmem
    exact absurd hmem (by decide)
  | cons name names ih =>
    obtain ⟨hname, hnames⟩ := List.forall_mem_cons.mp hnames
    have hresponse : response <+: answer (name :: names) := ⟨rest, h⟩
    have hline : name ++ ['\n'] <+: answer (name :: names) := ⟨_, (answer_cons name names).symm⟩
    rcases Nat.lt_or_ge name.length response.length with hlt | hge
    · obtain ⟨more, rfl⟩ := List.prefix_of_prefix_length_le hline hresponse
        (by rw [List.length_append, List.length_singleton]; omega)
      rw [answer_cons, List.append_assoc] at h
      obtain ⟨done, todo, part, rfl, rfl, hnewline, hrest⟩ := ih hnames (List.append_cancel_left h)
      refine ⟨name :: done, todo, part, rfl, ?_, hnewline, hrest⟩
      unfold lines
      rw [List.flatMap_cons, List.append_assoc (name ++ ['\n'])]
    · have hpart := List.prefix_of_prefix_length_le hresponse
        ((List.prefix_append name ['\n']).trans hline) hge
      exact ⟨[], name :: names, response, rfl, rfl,
        fun hmem => hname.newline (hpart.subset hmem), h⟩

/-- An answer has no carriage return. -/
theorem carriageReturn_notMem (hnames : ∀ name ∈ names, IsStation name) :
    '\r' ∉ answer names := by
  intro hmem
  rcases List.mem_append.mp hmem with hmem | hmem
  · obtain ⟨name, hname, hmem⟩ := List.mem_flatMap.mp hmem
    rcases List.mem_append.mp hmem with hmem | hmem
    · exact (hnames name hname).carriageReturn hmem
    · exact absurd hmem (by decide)
  · exact absurd hmem (by decide)

/-- A cut response ends at a newline exactly when nothing is left of a line. -/
theorem getLast?_eq_newline_iff {done : List Str} {part : Str} (hnewline : '\n' ∉ part)
    (hne : lines done ++ part ≠ []) :
    (lines done ++ part).getLast? = some '\n' ↔ part = [] := by
  rcases List.eq_nil_or_concat part with rfl | ⟨part, c, rfl⟩
  · rw [List.append_nil] at hne ⊢
    refine iff_of_true ?_ rfl
    rcases List.eq_nil_or_concat done with rfl | ⟨done, name, rfl⟩
    · exact absurd rfl hne
    · unfold lines
      rw [List.concat_eq_append, List.flatMap_append, List.flatMap_singleton,
        ← List.append_assoc, List.getLast?_append]
      rfl
  · rw [List.concat_eq_append] at hnewline ⊢
    rw [← List.append_assoc, List.getLast?_append]
    refine iff_of_false (fun hlast => ?_) (by simp)
    obtain rfl := Option.some.inj (hlast : some c = some '\n')
    exact hnewline (List.mem_append_right _ (List.mem_singleton_self _))

/-- A response that begins with a newline has an empty station printed. -/
theorem showLoop_newline {i : ℕ} {response : Str} {responses : List Str}
    {printed : List (Str × ℕ)} (h : showLoop i (('\n' :: response) :: responses) = some printed) :
    ∃ printed', printed = ([], i) :: printed' := by
  have hprint : (printStations i (splitlines ('\n' :: response))).1
      = ([], i) :: (printStations (i + 1) (splitlines response)).1 := rfl
  rw [showLoop] at h
  split at h
  · rw [← Option.some.inj h]
    exact ⟨_, hprint⟩
  · obtain ⟨printed', -, rfl⟩ := Option.map_eq_some_iff.mp h
    rw [hprint]
    exact ⟨_, rfl⟩

/-- **The script prints the channels exactly when it reads up to the end of a line** each time but
the last one. -/
theorem showLoop_eq_iff_of_names (hnames : ∀ name ∈ names, IsStation name) {responses : List Str}
    (hresponses : ∀ response ∈ responses, response ≠ []) (h : responses.flatten = answer names)
    (i : ℕ) :
    showLoop i responses = some (names.zipIdx i)
      ↔ ∀ response ∈ responses.dropLast, response.getLast? = some '\n' := by
  induction responses generalizing names i with
  | nil => exact absurd (congrArg List.length h) (by unfold answer; simp)
  | cons response responses ih =>
    obtain ⟨hne, hrest⟩ := List.forall_mem_cons.mp hresponses
    rw [List.flatten_cons] at h
    obtain ⟨done, todo, part, rfl, rfl, hnewline, hpart⟩ := exists_cut hnames h
    obtain ⟨hdone, htodo⟩ := List.forall_mem_append.mp hnames
    have hreturn : '\r' ∉ part := fun hmem =>
      carriageReturn_notMem htodo (hpart ▸ List.mem_append_left _ hmem)
    have hprint := printStations_append hdone i (if part = [] then [] else [part])
    rw [← splitlines_lines hdone hnewline hreturn] at hprint
    cases responses with
    | nil =>
      -- the last response has the end
      rw [List.flatten_nil, List.append_nil] at hpart
      have htodo : todo = [] := by
        cases todo with
        | nil => rfl
        | cons name todo =>
          rw [hpart, answer_cons] at hnewline
          exact absurd (by simp) hnewline
      subst htodo
      obtain rfl : part = "__END__".toList := hpart
      rw [showLoop, hprint, List.append_nil]
      exact iff_of_true (congrArg some (List.append_nil _))
        (fun _ hmem => absurd hmem List.not_mem_nil)
    | cons next responses =>
      obtain ⟨hnext, -⟩ := List.forall_mem_cons.mp hrest
      rw [List.dropLast_cons_cons, List.forall_mem_cons, getLast?_eq_newline_iff hnewline hne,
        List.zipIdx_append]
      by_cases hempty : part = []
      · subst hempty
        have hwhole : printStations i (splitlines (lines done ++ []))
            = (done.zipIdx i, i + done.length, false) :=
          hprint.trans (Prod.ext (List.append_nil _) rfl)
        rw [showLoop, hwhole, and_iff_right rfl, ← ih htodo hrest hpart (i + done.length)]
        show (showLoop (i + done.length) (next :: responses)).map (done.zipIdx i ++ ·) = _ ↔ _
        cases showLoop (i + done.length) (next :: responses) with
        | none => exact iff_of_false (by simp) (by simp)
        | some printed =>
          rw [Option.map_some, Option.some_inj, Option.some_inj, List.append_cancel_left_eq]
      · refine iff_of_false (fun hshow => ?_) (fun hand => hempty hand.1)
        rw [if_neg hempty] at hprint
        rw [showLoop, hprint] at hshow
        by_cases hend : part = "__END__".toList
        · -- the end is there, but it is not the end of the answer
          subst hend
          have hnone : done.zipIdx i ++ [] = done.zipIdx i ++ todo.zipIdx (i + done.length) :=
            Option.some.inj hshow
          have htodo : todo = [] :=
            List.zipIdx_eq_nil_iff.mp (List.append_cancel_left hnone).symm
          subst htodo
          have hnothing : (next :: responses).flatten = [] :=
            List.append_cancel_left (hpart.trans (List.append_nil _).symm)
          exact hnext (List.append_eq_nil_iff.mp hnothing).1
        · -- the part is printed, and then what is left of its line
          have hpart' : printStations (i + done.length) [part]
              = ([(part, i + done.length)], i + done.length + 1, false) := if_neg hend
          rw [hpart'] at hshow
          obtain ⟨printed, hprinted, heq⟩ := Option.map_eq_some_iff.mp hshow
          have hall : [(part, i + done.length)] ++ printed = todo.zipIdx (i + done.length) := by
            rw [List.append_assoc] at heq
            exact List.append_cancel_left heq
          cases todo with
          | nil => exact absurd hall (by simp)
          | cons name todo =>
            obtain ⟨hname, hrestEq⟩ := List.cons.inj hall
            obtain ⟨rfl, -⟩ := Prod.mk.inj hname
            rw [answer_cons, List.append_assoc] at hpart
            have hnewline' := List.append_cancel_left hpart
            cases next with
            | nil => exact hnext rfl
            | cons c next =>
              obtain ⟨rfl, -⟩ := List.cons.inj hnewline'
              obtain ⟨printed', hempty'⟩ := showLoop_newline hprinted
              rw [hempty'] at hrestEq
              cases todo with
              | nil => exact absurd hrestEq (by simp)
              | cons other todo =>
                obtain ⟨hother, -⟩ := List.cons.inj hrestEq
                obtain ⟨hnil, -⟩ := Prod.mk.inj hother
                exact (htodo other (by simp)).ne_nil hnil.symm

/-! ## What the numbers are good for -/

variable {channels : List Channel} {responses : List Str}

/-- The names are those of the channels. -/
theorem isStation_of_mem (hnames : ∀ channel ∈ channels, IsStation channel.name) :
    ∀ name ∈ channels.map Channel.name, IsStation name := by
  intro name hmem
  obtain ⟨channel, hchannel, rfl⟩ := List.mem_map.mp hmem
  exact hnames channel hchannel

/-- **The script prints the channels**, each with its number, **exactly when it reads up to the end
of a line** each time but the last one. -/
theorem showLoop_eq_iff (hnames : ∀ channel ∈ channels, IsStation channel.name)
    (hlen : ∀ channel ∈ channels, channel.name.length < 1023)
    (hresponses : ∀ response ∈ responses, response ≠ [])
    (h : responses.flatten = streamsReply channels) :
    showLoop 0 responses = some ((channels.map Channel.name).zipIdx)
      ↔ ∀ response ∈ responses.dropLast, response.getLast? = some '\n' := by
  rw [streamsReply_eq hlen] at h
  exact showLoop_eq_iff_of_names (isStation_of_mem hnames) hresponses h 0

/-- Two channels, read up to the end of the first line. -/
theorem showLoop_eq_iff_two :
    showLoop 0 ["Jazz\n".toList, "News\n__END__".toList]
        = some (["Jazz".toList, "News".toList].zipIdx)
      ↔ ∀ response ∈ ["Jazz\n".toList, "News\n__END__".toList].dropLast,
        response.getLast? = some '\n' :=
  have hstation : ∀ channel ∈ [(⟨"Jazz".toList, [], false⟩ : Channel),
      ⟨"News".toList, [], false⟩], IsStation channel.name := by
    intro channel hmem
    rcases List.mem_pair.mp hmem with rfl | rfl
    · exact ⟨by decide, by decide, by decide, by decide⟩
    · exact ⟨by decide, by decide, by decide, by decide⟩
  showLoop_eq_iff hstation (by decide) (by decide) (by decide)

/-- **Every number that is printed plays the channel that it stands in front of**, if the script
reads up to the ends of lines. -/
theorem station_plays (hnames : ∀ channel ∈ channels, IsStation channel.name)
    (hlen : ∀ channel ∈ channels, channel.name.length < 1023) (hcount : channels.length < 2 ^ 31)
    (hresponses : ∀ response ∈ responses, response ≠ [])
    (h : responses.flatten = streamsReply channels)
    (hends : ∀ response ∈ responses.dropLast, response.getLast? = some '\n') :
    ∃ printed, showLoop 0 responses = some printed ∧ printed.length = channels.length
      ∧ ∀ name no, (name, no) ∈ printed → PlayStarts no
        ∧ ∃ channel, channel.name = name ∧ ∀ mplayer : LcdStuffMplayer,
          mplayer.channels = channels → mplayer.current.pid ≤ 0 →
          mplayer.startProgram no = .ok (some (LcdStuffMplayer.programArgs channel)) := by
  rw [streamsReply_eq hlen] at h
  refine ⟨_, (showLoop_eq_iff_of_names (isStation_of_mem hnames) hresponses h 0).mpr hends, ?_,
    fun name no hmem => ?_⟩
  · rw [List.length_zipIdx, List.length_map]
  · have hget := List.mk_mem_zipIdx_iff_getElem?.mp hmem
    rw [List.getElem?_map] at hget
    obtain ⟨channel, hchannel, rfl⟩ := Option.map_eq_some_iff.mp hget
    have hno := (List.getElem?_eq_some_iff.mp hchannel).1
    refine ⟨playStarts (by omega), channel, rfl, fun mplayer hchannels hpid => ?_⟩
    rw [← hchannels] at hchannel
    exact LcdStuffMplayer.startProgram_of_getElem? hchannel hpid

/-- Two channels that are read at once. -/
theorem station_plays_two :
    ∃ printed, showLoop 0 ["Jazz\nNews\n__END__".toList] = some printed ∧ printed.length = 2
      ∧ ∀ name no, (name, no) ∈ printed → PlayStarts no
        ∧ ∃ channel, channel.name = name ∧ ∀ mplayer : LcdStuffMplayer,
          mplayer.channels = [⟨"Jazz".toList, [], false⟩, ⟨"News".toList, [], false⟩] →
          mplayer.current.pid ≤ 0 →
          mplayer.startProgram no = .ok (some (LcdStuffMplayer.programArgs channel)) :=
  have hstation : ∀ channel ∈ [(⟨"Jazz".toList, [], false⟩ : Channel),
      ⟨"News".toList, [], false⟩], IsStation channel.name := by
    intro channel hmem
    rcases List.mem_pair.mp hmem with rfl | rfl
    · exact ⟨by decide, by decide, by decide, by decide⟩
    · exact ⟨by decide, by decide, by decide, by decide⟩
  station_plays hstation (by decide) (by decide) (by decide) (by decide) (by decide)

end RemoteScript
