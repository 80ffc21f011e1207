import LcdStuff.Mplayer
import LcdStuff.Receiving
import Mathlib.Data.List.TakeWhile

/-!
# What the program answers

`mplayer_update_metainfo` asks the program for the artist and the title, and reads its output
with `fgets` up to a line that begins with `ANS_META_ARTIST=`, and then up to one that begins
with `ANS_META_TITLE=`. It skips one character behind that, the quotation mark, and cuts off
the last two, the other quotation mark and the newline, without looking whether they are
there. A string with less than three characters behind its beginning is read behind its
terminating NUL, or written in front of its copy (`updateMetainfoWithin_iff`).

`LcdStuffMplayer.updateMetainfo` has an argument for what lies behind the NUL. Here that is out
of bounds, and what stays within them is the same with any such argument
(`updateMetainfo_of_within`).
-/

/-- The output of the program as `fgets (buffer, BUFSIZ, ..)` reads it, with what was read of
a line and with the room for the rest of it. -/
def fgetsLines : ℕ → Str → Str → List Str
  | _, line, [] => if line = [] then [] else [line]
  | room, line, c :: output =>
    if c = '\n' ∨ room = 1 then (line ++ [c]) :: fgetsLines (bufsiz - 1) [] output
    else fgetsLines (room - 1) (line ++ [c]) output

/-- The strings that are in the buffer then. -/
def fgetsStrings (output : Str) : List Str :=
  (fgetsLines (bufsiz - 1) [] output).map (fun line => line.takeWhile (· ≠ '\x00'))

namespace LcdStuffMplayer

/-- `"ANS_META_ARTIST="` -/
def artistStart : Str := "ANS_META_ARTIST=".toList

/-- `"ANS_META_TITLE="` -/
def titleStart : Str := "ANS_META_TITLE=".toList

/-- What is copied out of a line that begins with `start`, within the bounds of the line and
of its copy. -/
def copyAnswer (start buffer : Str) : Except Fault Str :=
  if start.length + 1 ≤ buffer.length then
    let text := buffer.drop (start.length + 1)
    if 2 ≤ text.length then .ok (text.take (text.length - 2))
    else .error (.outOfBounds ((text.length : Int) - 2) text.length)
  else .error (.outOfBounds (start.length + 1) buffer.length)

/-- The loop that reads up to the answer that begins with `start`, within these bounds. -/
def findAnswer (start : Str) : List Str → Except Fault (Option Str × List Str)
  | [] => .ok (none, [])
  | buffer :: output =>
    if startsWith buffer start then do
      let text ← copyAnswer start buffer
      return (some text, output)
    else findAnswer start output

/-- The artist and the title, if `fprintf` could write to the input of the program. -/
def findAnswers (written : Bool) (output : List Str) : Except Fault (Option Str × Option Str) :=
  if written then do
    let (artist, output) ← findAnswer artistStart output
    let (title, _) ← findAnswer titleStart output
    return (artist, title)
  else .ok (none, none)

/-- `mplayer_update_metainfo`, within these bounds. -/
def updateMetainfoWithin (mplayer : LcdStuffMplayer) (written : Bool) (output : List Str) :
    Except Fault (List Command) :=
  if mplayer.current.inputStream = none ∨ mplayer.current.outputStream = none then .ok []
  else do
    let (artist, title) ← findAnswers written output
    return mplayer.showMetainfo artist title

/-! ## An answer -/

/-- The line that answers, if one does. -/
def answerLine (start : Str) (output : List Str) : Option Str :=
  output.find? (startsWith · start)

/-- What is left behind it. -/
def behindAnswer (start : Str) (output : List Str) : List Str :=
  (output.dropWhile (fun line => !startsWith line start)).tail

/-- A line that answers with a text. -/
def quoted (start text : Str) : Str := start ++ '\'' :: (text ++ ['\'', '\n'])

section answer

variable {start buffer text stale : Str}

/-- **An answer is copied within its bounds** when three characters are behind its beginning. -/
theorem copyAnswer_isOk_iff :
    (∃ text, copyAnswer start buffer = .ok text) ↔ start.length + 3 ≤ buffer.length := by
  unfold copyAnswer
  split
  · next hlong =>
    dsimp only
    rw [List.length_drop]
    split
    · next htwo => exact iff_of_true ⟨_, rfl⟩ (by omega)
    · next htwo => exact iff_of_false (fun ⟨_, h⟩ => nomatch h) (by omega)
  · next hlong => exact iff_of_false (fun ⟨_, h⟩ => nomatch h) (by omega)

/-- **The text of an answer is what was between the quotation marks.** -/
theorem copyAnswer_quoted : copyAnswer start (quoted start text) = .ok text := by
  have hlength : (quoted start text).length = start.length + (text.length + 3) := by
    rw [quoted, List.length_append, List.length_cons, List.length_append]
    rfl
  have hdrop : (quoted start text).drop (start.length + 1) = text ++ ['\'', '\n'] := by
    rw [quoted, List.drop_length_add_append]
    rfl
  have htext : (text ++ ['\'', '\n']).length = text.length + 2 := List.length_append ..
  unfold copyAnswer
  dsimp only
  rw [if_pos (by omega), hdrop, if_pos (by omega), htext, Nat.add_sub_cancel, List.take_left]

/-- What is copied within the bounds does not depend on what lies behind them. -/
theorem answerText_of_copyAnswer (h : copyAnswer start buffer = .ok text) :
    answerText start stale buffer = .ok text := by
  unfold copyAnswer at h
  split at h
  · next hlong =>
    unfold answerText
    dsimp only at h ⊢
    rw [if_pos (Nat.lt_of_succ_le hlong)]
    split at h
    · next htwo =>
      rw [if_neg (Nat.not_lt.mpr htwo)]
      exact h
    · exact nomatch h
  · exact nomatch h

theorem readAnswer_of_findAnswer {output : List Str} {r : Option Str × List Str}
    (h : findAnswer start output = .ok r) : readAnswer start stale output = .ok r := by
  induction output with
  | nil => exact h
  | cons line output ih =>
    rw [findAnswer] at h
    rw [readAnswer]
    split at h
    · next hstarts =>
      rw [if_pos hstarts]
      obtain ⟨text, htext, h⟩ := bind_eq_ok_iff.mp h
      exact bind_eq_ok_iff.mpr ⟨text, answerText_of_copyAnswer htext, h⟩
    · next hstarts =>
      rw [if_neg hstarts]
      exact ih h

/-- **What is read up to an answer.** -/
theorem findAnswer_eq (start : Str) (output : List Str) :
    findAnswer start output = match answerLine start output with
      | none => .ok (none, [])
      | some line => do
        let text ← copyAnswer start line
        return (some text, behindAnswer start output) := by
  induction output with
  | nil => rfl
  | cons line output ih =>
    rw [findAnswer, answerLine, behindAnswer]
    by_cases hstarts : startsWith line start = true
    · have hfind : (line :: output).find? (startsWith · start) = some line :=
        List.find?_cons_of_pos hstarts
      have hdrop : (line :: output).dropWhile (fun line => !startsWith line start)
          = line :: output :=
        List.dropWhile_cons_of_neg (by rw [hstarts]; exact nofun)
      rw [if_pos hstarts, hfind, hdrop]
      rfl
    · have hfind : (line :: output).find? (startsWith · start)
          = output.find? (startsWith · start) :=
        List.find?_cons_of_neg hstarts
      have hdrop : (line :: output).dropWhile (fun line => !startsWith line start)
          = output.dropWhile (fun line => !startsWith line start) :=
        List.dropWhile_cons_of_pos (by rw [Bool.eq_false_iff.mpr hstarts]; rfl)
      rw [if_neg hstarts, hfind, hdrop]
      exact ih

end answer

/-- **Within the bounds nothing depends on what lies behind them.** -/
theorem updateMetainfo_of_within {mplayer : LcdStuffMplayer} {written : Bool}
    {output : List Str} {cmds : List Command}
    (h : mplayer.updateMetainfoWithin written output = .ok cmds) (stale : Str → Str) :
    mplayer.updateMetainfo written stale output = .ok cmds := by
  have hanswers : ∀ r, findAnswers written output = .ok r →
      metaAnswers written stale output = .ok r := by
    intro r hr
    cases written with
    | false => exact hr
    | true =>
      obtain ⟨⟨artist, rest⟩, hartist, hr⟩ := bind_eq_ok_iff.mp hr
      obtain ⟨⟨title, rest'⟩, htitle, hr⟩ := bind_eq_ok_iff.mp hr
      exact bind_eq_ok_iff.mpr ⟨(artist, rest), readAnswer_of_findAnswer hartist,
        bind_eq_ok_iff.mpr ⟨(title, rest'), readAnswer_of_findAnswer htitle, hr⟩⟩
  unfold updateMetainfoWithin at h
  unfold updateMetainfo
  split at h
  · next hnull =>
    rw [if_pos hnull]
    exact h
  · next hnull =>
    rw [if_neg hnull]
    obtain ⟨r, hr, h⟩ := bind_eq_ok_iff.mp h
    exact bind_eq_ok_iff.mpr ⟨r, hanswers r hr, h⟩

/-! ## What is displayed -/

/-- **The answers are shown as they were given**, where they were given in quotation marks. -/
def ShowsAnswers (output : List Str) (artist title : Option Str) : Prop :=
  (∀ text, answerLine artistStart output = some (quoted artistStart text) → artist = some text)
  ∧ ∀ text, answerLine titleStart (behindAnswer artistStart output)
    = some (quoted titleStart text) → title = some text

/-- An answer has three characters behind its beginning. -/
def AnswerFits (start : Str) (output : List Str) : Prop :=
  ∀ line, answerLine start output = some line → start.length + 3 ≤ line.length

/-- **When an answer is found within the bounds**, and then it is the text. -/
theorem findAnswer_isOk_iff (start : Str) (output : List Str) :
    (∃ text rest, findAnswer start output = .ok (text, rest)) ↔ AnswerFits start output := by
  rw [findAnswer_eq]
  unfold AnswerFits
  cases answerLine start output with
  | none => exact iff_of_true ⟨_, _, rfl⟩ nofun
  | some line =>
    constructor
    · rintro ⟨text, rest, h⟩ line' hline
      obtain rfl := Option.some.inj hline
      obtain ⟨copy, hcopy, -⟩ := bind_eq_ok_iff.mp h
      exact copyAnswer_isOk_iff.mp ⟨copy, hcopy⟩
    · intro h
      obtain ⟨copy, hcopy⟩ := copyAnswer_isOk_iff.mpr (h line rfl)
      exact ⟨some copy, behindAnswer start output, bind_eq_ok_iff.mpr ⟨copy, hcopy, rfl⟩⟩

/-- Where nothing answers, nothing is left. -/
theorem behindAnswer_of_none {start : Str} {output : List Str}
    (h : answerLine start output = none) :
    behindAnswer start output = [] := by
  have hnone : ∀ line ∈ output, ¬ startsWith line start = true := List.find?_eq_none.mp h
  have hdrop : output.dropWhile (fun line => !startsWith line start) = [] :=
    List.dropWhile_eq_nil_iff.mpr fun line hline => by
      rw [Bool.eq_false_iff.mpr (hnone line hline)]
      rfl
  rw [behindAnswer, hdrop]
  rfl

/-- **What was found** is the text of the answer, and what is left lies behind it. -/
theorem of_findAnswer {start : Str} {output rest : List Str} {text : Option Str}
    (h : findAnswer start output = .ok (text, rest)) :
    rest = behindAnswer start output
      ∧ ∀ t, answerLine start output = some (quoted start t) → text = some t := by
  rw [findAnswer_eq] at h
  cases hline : answerLine start output with
  | none =>
    rw [hline] at h
    obtain ⟨-, rfl⟩ := Prod.mk.inj (Except.ok.inj h)
    exact ⟨(behindAnswer_of_none hline).symm, nofun⟩
  | some line =>
    rw [hline] at h
    obtain ⟨copy, hcopy, h⟩ := bind_eq_ok_iff.mp h
    obtain ⟨rfl, rfl⟩ := Prod.mk.inj (Except.ok.inj h)
    refine ⟨rfl, fun t ht => ?_⟩
    rw [Option.some.inj ht, copyAnswer_quoted] at hcopy
    exact congrArg some (Except.ok.inj hcopy).symm

/-- **`mplayer_update_metainfo` does as it should**: it stays within the bounds of the line and
of the copies, and shows the answers as they were given. -/
def MetainfoShown (mplayer : LcdStuffMplayer) (written : Bool) (output : Str) : Prop :=
  ∃ cmds, mplayer.updateMetainfoWithin written (fgetsStrings output) = .ok cmds
    ∧ (mplayer.current.inputStream ≠ none → mplayer.current.outputStream ≠ none →
      written = true → ∃ artist title, cmds = mplayer.showMetainfo artist title
        ∧ ShowsAnswers (fgetsStrings output) artist title)

/-- **When it does**: it asks for nothing, or each of the two answers has three characters
behind its beginning, if there is one. -/
theorem metainfoShown_iff (mplayer : LcdStuffMplayer) (written : Bool) (output : Str) :
    mplayer.MetainfoShown written output
      ↔ mplayer.current.inputStream = none ∨ mplayer.current.outputStream = none
        ∨ written = false ∨ (AnswerFits artistStart (fgetsStrings output)
          ∧ AnswerFits titleStart (behindAnswer artistStart (fgetsStrings output))) := by
  unfold MetainfoShown updateMetainfoWithin
  rw [← or_assoc]
  by_cases hnull : mplayer.current.inputStream = none ∨ mplayer.current.outputStream = none
  · rw [if_pos hnull]
    refine iff_of_true ⟨[], rfl, fun hinput houtput => ?_⟩ (.inl hnull)
    exact (hnull.elim hinput houtput).elim
  rw [if_neg hnull, or_iff_right hnull]
  cases written with
  | false => exact iff_of_true ⟨_, rfl, fun _ _ h => nomatch h⟩ (.inl rfl)
  | true =>
    rw [or_iff_right (fun h : true = false => nomatch h)]
    constructor
    · rintro ⟨cmds, hcmds, -⟩
      obtain ⟨_, hanswers, -⟩ := bind_eq_ok_iff.mp hcmds
      obtain ⟨⟨artist, rest⟩, hartist, hanswers⟩ := bind_eq_ok_iff.mp hanswers
      obtain ⟨⟨title, rest'⟩, htitle, -⟩ := bind_eq_ok_iff.mp hanswers
      obtain ⟨rfl, -⟩ := of_findAnswer hartist
      exact ⟨(findAnswer_isOk_iff _ _).mp ⟨_, _, hartist⟩,
        (findAnswer_isOk_iff _ _).mp ⟨_, _, htitle⟩⟩
    · rintro ⟨hfits, hfits'⟩
      obtain ⟨artist, rest, hartist⟩ := (findAnswer_isOk_iff _ _).mpr hfits
      obtain ⟨rfl, hartistText⟩ := of_findAnswer hartist
      obtain ⟨title, rest', htitle⟩ := (findAnswer_isOk_iff _ _).mpr hfits'
      obtain ⟨-, htitleText⟩ := of_findAnswer htitle
      refine ⟨mplayer.showMetainfo artist title, ?_, fun _ _ _ =>
        ⟨artist, title, rfl, hartistText, htitleText⟩⟩
      refine bind_eq_ok_iff.mpr ⟨(artist, title), ?_, rfl⟩
      exact bind_eq_ok_iff.mpr ⟨_, hartist, bind_eq_ok_iff.mpr ⟨_, htitle, rfl⟩⟩

/-- **A line that fits the buffer is read as it is.** -/
theorem fgetsLines_line {line output read : Str} {room : ℕ} (hline : '\n' ∉ line)
    (hroom : line.length < room) :
    fgetsLines room read (line ++ '\n' :: output)
      = (read ++ (line ++ ['\n'])) :: fgetsLines (bufsiz - 1) [] output := by
  induction line generalizing room read with
  | nil => rw [List.nil_append, fgetsLines, if_pos (.inl rfl), List.nil_append]
  | cons c line ih =>
    obtain ⟨hc, hrest⟩ := List.ne_and_not_mem_of_not_mem_cons hline
    rw [List.length_cons] at hroom
    rw [List.cons_append, fgetsLines, if_neg (by
      rintro (h | h)
      · exact hc h.symm
      · omega), ih hrest (by omega), List.append_assoc]
    rfl

/-- An answer that fits the buffer is read as it is. -/
theorem fgetsStrings_quoted {start text : Str} (hstart : IsLine start) (htext : IsLine text)
    (hfits : start.length + text.length + 3 < bufsiz) (output : Str) :
    fgetsStrings (quoted start text ++ output) = quoted start text :: fgetsStrings output := by
  have hline : IsLine (start ++ '\'' :: (text ++ ['\''])) := by
    intro c hc
    simp only [List.mem_append, List.mem_cons, List.not_mem_nil, or_false] at hc
    rcases hc with hc | rfl | hc | rfl
    · exact hstart c hc
    · decide
    · exact htext c hc
    · decide
  have hsplit : ∀ rest, quoted start text ++ rest
      = (start ++ '\'' :: (text ++ ['\''])) ++ '\n' :: rest := by
    intro rest
    simp only [quoted, List.append_assoc, List.cons_append, List.nil_append]
  have hquoted : (start ++ '\'' :: (text ++ ['\''])) ++ ['\n'] = quoted start text :=
    (hsplit []).symm.trans (List.append_nil _)
  have hlength : (start ++ '\'' :: (text ++ ['\''])).length < bufsiz - 1 := by
    rw [List.length_append, List.length_cons, List.length_append, List.length_singleton]
    omega
  have hnul : (quoted start text).takeWhile (· ≠ '\x00') = quoted start text := by
    refine List.takeWhile_eq_self_iff.mpr (fun c hc => decide_eq_true ?_)
    rw [← hquoted] at hc
    rcases List.mem_append.mp hc with hc | hc
    · exact (hline c hc).1
    · rw [List.mem_singleton.mp hc]
      decide
  rw [fgetsStrings, hsplit, fgetsLines_line (fun h => (hline _ h).2 rfl) hlength,
    List.nil_append, hquoted, List.map_cons, hnul]
  rfl

/-- An answer is found where it is the next line. -/
theorem findAnswer_quoted (start text : Str) (output : List Str) :
    findAnswer start (quoted start text :: output) = .ok (some text, output) := by
  have hstarts : startsWith (quoted start text) start = true :=
    List.isPrefixOf_iff_prefix.mpr (List.prefix_append _ _)
  rw [findAnswer, if_pos hstarts, copyAnswer_quoted]
  rfl

/-- **An artist and a title that fit the buffer are shown**, whatever the program prints
behind them. -/
theorem updateMetainfoWithin_quoted {mplayer : LcdStuffMplayer} {artist title : Str}
    (hinput : mplayer.current.inputStream ≠ none) (houtput : mplayer.current.outputStream ≠ none)
    (hartist : IsLine artist) (htitle : IsLine title) (hartistFits : artist.length + 19 < bufsiz)
    (htitleFits : title.length + 18 < bufsiz) (output : Str) :
    mplayer.updateMetainfoWithin true
        (fgetsStrings (quoted artistStart artist ++ (quoted titleStart title ++ output)))
      = .ok (mplayer.showMetainfo (some artist) (some title)) := by
  have hartistStart : artistStart.length = 16 := rfl
  have htitleStart : titleStart.length = 15 := rfl
  have hisLine : IsLine artistStart ∧ IsLine titleStart := by
    constructor <;> decide
  rw [fgetsStrings_quoted hisLine.1 hartist (by omega),
    fgetsStrings_quoted hisLine.2 htitle (by omega), updateMetainfoWithin,
    if_neg (fun h => h.elim hinput houtput), findAnswers, if_pos rfl]
  refine bind_eq_ok_iff.mpr ⟨(some artist, some title), ?_, rfl⟩
  refine bind_eq_ok_iff.mpr ⟨_, findAnswer_quoted _ _ _, ?_⟩
  exact bind_eq_ok_iff.mpr ⟨_, findAnswer_quoted _ _ _, rfl⟩

/-- **An answer that is empty and has no quotation marks** has its copy written in front of its
beginning. -/
theorem not_metainfoShown_of_empty :
    ¬ ∀ (mplayer : LcdStuffMplayer) (written : Bool) (output : Str),
      mplayer.MetainfoShown written output := by
  intro h
  let mplayer : LcdStuffMplayer := ⟨⟨42, some 0, some 1, false, false, false, 0⟩, [],
    ⟨⟨⟨20, 4⟩, false⟩, "mplayer".toList⟩⟩
  obtain ⟨cmds, hcmds, -⟩ := h mplayer true "ANS_META_ARTIST=\n".toList
  have hfault : (mplayer.updateMetainfoWithin true (fgetsStrings "ANS_META_ARTIST=\n".toList))
      = .error (.outOfBounds (-2) 0) := by
    decide +kernel
  rw [hfault] at hcmds
  exact nomatch hcmds

end LcdStuffMplayer
