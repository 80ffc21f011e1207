import LcdStuff.Handshake
import LcdStuff.Sockets

/-!
# What the size of the display is taken from

`communicationInit` is what `communication_init` makes of its buffer. What is in the buffer
is another matter: the result of `send_command` is not looked at, so when the `hello` could
not be sent, or the read has failed, the words are taken from whatever the buffer held
before, and when the connection was closed in the middle of a line, from what was read
together with it. With a whole line it is the number of words that matters: eight are enough
to go on, and the tenth is read (`fromGreeting_iff`).
-/

/-- **`communication_init`** on what `sock_connect` has returned and what the socket
answers; `buffer` is what its own holds at first. -/
def communicationInitFrom (fuel : ℕ) (writes : ℕ → WriteAnswer) (reads : ℕ → ReadAnswer)
    (socket : Int) (buffer : ℕ → Char) : Option (Except Fault (Option Size)) :=
  if socket ≤ 0 then some (.ok none)
  else
    (sendCommand fuel writes reads "hello\n".toList (some buffer)).bind (fun r =>
      match communicationInit socket
          (cString ((r.2.2.map SockInput.dest).getD buffer) bufsiz 0) with
      | .error fault => some (.error fault)
      | .ok none => some (.ok none)
      | .ok (some size) =>
        (sendCommand fuel (fun k => writes (r.2.1 + k)) reads
          "client_set -name lcd-stuff\n".toList none).map (fun _ => .ok (some size)))

/-- **The size of the display comes from the greeting**: where the result is not `false`, a
line was received, and the size is what its eighth and tenth words say. -/
def FromGreeting (reads : ℕ → ReadAnswer) (sent : Int) (buffer : ℕ → Char)
    (r : Except Fault (Option Size)) : Prop :=
  r ≠ .ok none → 0 ≤ sent ∧ ∃ line width height, Answers reads 0 buffer [] line .line
    ∧ (getArgs line 10)[7]? = some width ∧ (getArgs line 10)[9]? = some height
    ∧ r = .ok (some ⟨min (atoi width) (maxLineLen - 1), min (atoi height) maxDisplayHeight⟩)

section greeting

variable {fuel k calls : ℕ} {writes : ℕ → WriteAnswer} {reads : ℕ → ReadAnswer}
  {socket sent : Int} {buffer : ℕ → Char} {text : Str} {r : Except Fault (Option Size)}

/-- Too few words are refused. -/
theorem communicationInit_eq_none_iff (hsocket : 0 < socket) :
    communicationInit socket text = .ok none ↔ (getArgs text 10).length < 8 := by
  unfold communicationInit
  rw [if_neg (Int.not_le.mpr hsocket)]
  dsimp only
  constructor
  · intro h
    by_contra hlength
    rw [if_neg hlength] at h
    obtain ⟨width, -, h⟩ := bind_eq_ok_iff.mp h
    obtain ⟨height, -, h⟩ := bind_eq_ok_iff.mp h
    exact nomatch Except.ok.inj h
  · exact fun hlength => if_pos hlength

/-- Ten words are enough. -/
theorem communicationInit_of_words (hsocket : 0 < socket) (hwords : 10 ≤ (getArgs text 10).length) :
    ∃ width height, (getArgs text 10)[7]? = some width ∧ (getArgs text 10)[9]? = some height
      ∧ communicationInit socket text
        = .ok (some ⟨min (atoi width) (maxLineLen - 1), min (atoi height) maxDisplayHeight⟩) := by
  have hwidth : (getArgs text 10)[7]? = some (getArgs text 10)[7] :=
    List.getElem?_eq_getElem (by omega)
  have hheight : (getArgs text 10)[9]? = some (getArgs text 10)[9] :=
    List.getElem?_eq_getElem (by omega)
  refine ⟨_, _, hwidth, hheight, ?_⟩
  unfold communicationInit
  rw [if_neg (Int.not_le.mpr hsocket)]
  dsimp only
  rw [if_neg (by omega), show readAt _ 7 = _ from readAt_of_getElem? (i := 7) hwidth,
    show readAt _ 9 = _ from readAt_of_getElem? (i := 9) hheight]
  rfl

/-- **What `communication_init` returns** is what it makes of its buffer. -/
theorem communicationInitFrom_eq (hsocket : 0 < socket)
    (h : communicationInitFrom fuel writes reads socket buffer = some r) :
    ∃ ret calls input, sendCommand fuel writes reads "hello\n".toList (some buffer)
        = some (ret, calls, input)
      ∧ r = communicationInit socket
          (cString ((input.map SockInput.dest).getD buffer) bufsiz 0) := by
  unfold communicationInitFrom at h
  rw [if_neg (Int.not_le.mpr hsocket)] at h
  obtain ⟨⟨ret, calls, input⟩, hsend, h⟩ := Option.bind_eq_some_iff.mp h
  refine ⟨ret, calls, input, hsend, ?_⟩
  dsimp only at h
  split at h
  · next hinit => exact (Option.some.inj h).symm.trans hinit.symm
  · next hinit => exact (Option.some.inj h).symm.trans hinit.symm
  · next hinit =>
    obtain ⟨_, -, rfl⟩ := Option.map_eq_some_iff.mp h
    exact hinit.symm

/-- What the buffer holds then: what it held before when nothing could be sent, and else what
has answered. -/
theorem text_of_sendCommand {command : Str} {ret : Int} {input : Option SockInput} {n : ℕ}
    (hsent : sockSendString k writes command = some (sent, calls))
    (h : sendCommand fuel writes reads command (some buffer) = some (ret, n, input)) :
    (sent < 0 ∧ (input.map SockInput.dest).getD buffer = buffer)
      ∨ (0 ≤ sent ∧ ∃ e, Answers reads 0 buffer []
        (cString ((input.map SockInput.dest).getD buffer) bufsiz 0) e) := by
  obtain ⟨⟨sent', n'⟩, hsent', h⟩ := Option.bind_eq_some_iff.mp h
  obtain ⟨rfl, rfl⟩ := Prod.mk.inj (Loop.run_unique hsent' hsent)
  obtain ⟨⟨ret', input'⟩, hreply, hr⟩ := Option.map_eq_some_iff.mp h
  obtain ⟨rfl, hrest⟩ := Prod.mk.inj hr
  obtain ⟨rfl, rfl⟩ := Prod.mk.inj hrest
  rcases Int.lt_or_le sent' 0 with hneg | hnonneg
  · rw [sendCommandReply, if_pos hneg] at hreply
    obtain ⟨-, rfl⟩ := Prod.mk.inj (Option.some.inj hreply)
    exact .inl ⟨hneg, rfl⟩
  · obtain ⟨s, e, rfl, -, hanswers, -⟩ := answers_of_sendCommandReply hnonneg hreply
    exact .inr ⟨hnonneg, e, hanswers⟩

/-- **When the size comes from the greeting**, if `communication_init` returns: there is no
connection; the `hello` could not be sent and the buffer has less than eight words; or it
was, and what answers has less than eight words or is a line of ten. -/
theorem fromGreeting_iff
    (hsent : sockSendString k writes "hello\n".toList = some (sent, calls))
    (h : communicationInitFrom fuel writes reads socket buffer = some r) :
    FromGreeting reads sent buffer r ↔ socket ≤ 0
      ∨ (sent < 0 ∧ (getArgs (cString buffer bufsiz 0) 10).length < 8)
      ∨ (0 ≤ sent ∧ ∃ text e, Answers reads 0 buffer [] text e ∧
        ((getArgs text 10).length < 8 ∨ e = .line ∧ 10 ≤ (getArgs text 10).length)) := by
  rcases Int.lt_or_le 0 socket with hsocket | hsocket
  · rw [or_iff_right (Int.not_le.mpr hsocket)]
    obtain ⟨ret, n, input, hsend, rfl⟩ := communicationInitFrom_eq hsocket h
    rcases text_of_sendCommand hsent hsend with ⟨hneg, hbuffer⟩ | ⟨hnonneg, e, hanswers⟩
    · rw [hbuffer, or_iff_left (fun h => Int.not_lt.mpr h.1 hneg), and_iff_right hneg,
        ← communicationInit_eq_none_iff hsocket]
      constructor
      · intro hgreeting
        by_contra hne
        exact Int.not_lt.mpr (hgreeting hne).1 hneg
      · exact fun hnone hne => absurd hnone hne
    · rw [or_iff_right (fun h => Int.not_lt.mpr hnonneg h.1), and_iff_right hnonneg]
      constructor
      · intro hgreeting
        refine ⟨_, e, hanswers, ?_⟩
        by_cases hnone : communicationInit socket
            (cString ((input.map SockInput.dest).getD buffer) bufsiz 0) = .ok none
        · exact .inl ((communicationInit_eq_none_iff hsocket).mp hnone)
        · obtain ⟨-, line, _, height, hline, -, hheight, -⟩ := hgreeting hnone
          obtain ⟨rfl, rfl⟩ := hanswers.unique hline
          exact .inr ⟨rfl, (List.getElem?_eq_some_iff.mp hheight).1⟩
      · rintro ⟨text, e', htext, hwords⟩ hne
        obtain ⟨rfl, rfl⟩ := hanswers.unique htext
        rcases hwords with hfew | ⟨rfl, hten⟩
        · exact absurd ((communicationInit_eq_none_iff hsocket).mpr hfew) hne
        · obtain ⟨width, height, hwidth, hheight, hinit⟩ := communicationInit_of_words hsocket hten
          exact ⟨hnonneg, _, width, height, hanswers, hwidth, hheight, hinit⟩
  · unfold communicationInitFrom at h
    rw [if_pos hsocket] at h
    obtain rfl := Option.some.inj h
    exact iff_of_true (fun hne => absurd rfl hne) (.inl hsocket)

/-- The server sends so much, and then nothing. -/
def answering (text : Str) (i : ℕ) : ReadAnswer := text[i]?.elim .again .byte

/-- A greeting of ten words. -/
theorem fromGreeting_of_words :
    ∃ r, communicationInitFrom 60 (fun _ => .taken 40)
        (answering "connect LCDproc 0.5 protocol 0.3 lcd wid 20 hgt 4\n".toList) 3
        (fun _ => '\x00') = some r
      ∧ (FromGreeting (answering "connect LCDproc 0.5 protocol 0.3 lcd wid 20 hgt 4\n".toList) 6
          (fun _ => '\x00') r ↔ (3 : Int) ≤ 0
        ∨ ((6 : Int) < 0 ∧ (getArgs (cString (fun _ => '\x00') bufsiz 0) 10).length < 8)
        ∨ ((0 : Int) ≤ 6 ∧ ∃ text e, Answers (answering
            "connect LCDproc 0.5 protocol 0.3 lcd wid 20 hgt 4\n".toList) 0 (fun _ => '\x00') []
            text e ∧
          ((getArgs text 10).length < 8 ∨ e = .line ∧ 10 ≤ (getArgs text 10).length))) := by
  have hsent : sockSendString 8 (fun _ => .taken 40) "hello\n".toList = some (6, 1) := by
    decide +kernel
  have hreturns : (communicationInitFrom 60 (fun _ => .taken 40)
      (answering "connect LCDproc 0.5 protocol 0.3 lcd wid 20 hgt 4\n".toList) 3
      (fun _ => '\x00')).isSome = true := by
    decide +kernel
  obtain ⟨r, hr⟩ := Option.isSome_iff_exists.mp hreturns
  exact ⟨r, hr, fromGreeting_iff hsent hr⟩

/-- **A greeting of eight words** has the height read from an entry that was never stored. -/
theorem not_fromGreeting_of_eight :
    ¬ ∀ (fuel : ℕ) (reads : ℕ → ReadAnswer) (buffer : ℕ → Char) (r : Except Fault (Option Size)),
      communicationInitFrom fuel (fun _ => .taken 40) reads 3 buffer = some r →
      FromGreeting reads 6 buffer r := by
  intro h
  let reads := answering "connect LCDproc 0.5 protocol 0.3 lcd wid 20\n".toList
  have hresult : ((communicationInitFrom 60 (fun _ => .taken 40) reads 3 (fun _ => '\x00')).map
      (fun r => r matches .error _)) = some true := by
    decide +kernel
  obtain ⟨r, hr, herror⟩ := Option.map_eq_some_iff.mp hresult
  cases r with
  | ok => exact nomatch herror
  | error fault =>
    obtain ⟨-, _, _, _, -, -, -, hok⟩ := h 60 reads _ _ hr nofun
    exact nomatch hok

end greeting
