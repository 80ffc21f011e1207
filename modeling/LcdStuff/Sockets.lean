import LcdStuff.Loop
import LcdStuff.Receiving

/-!
# A socket call by call

`sock_send` and `sock_recv_string` are loops around `write` and `read`, and what the socket
is to them is what it answers from call to call: two sequences, which may hold would-block,
end of file and errors anywhere. A sequence does not end, so a function that waits for ever
is one that no fuel sees returning.

`sock_recv_string` returns `0` when there is nothing to read, for an empty line and at the
end of the file, and the `send_command` of the handshake calls it again for all three of
them. What comes of that is one walk over the answers (`Answers`), on which the calls
are not told apart any more (`exists_sendCommandReply_iff`). It does not end where the server
closes the connection before it has sent anything (`exists_sendCommand_iff_answer`).
-/

/-- How `write` ends. -/
inductive WriteAnswer where
  /-- It has taken so many bytes, or all there are. -/
  | taken (bytes : ℕ)
  /-- `EAGAIN` -/
  | again
  /-- Another error. -/
  | error
  deriving DecidableEq, Repr

/-- How `read (fd, ptr, 1)` ends, with what it has read. -/
inductive ReadAnswer where
  /-- A byte. -/
  | byte (c : Char)
  /-- `EAGAIN` -/
  | again
  /-- `0`: the connection was closed. -/
  | eof
  /-- Another error. -/
  | error
  deriving DecidableEq, Repr

/-! ## `sock_send` -/

/-- A round of `sock_send`, with `offset`, an `unsigned int`, and the number of calls so far. It
returns the result and that number. A call of `write` takes at most `0x7ffff000` bytes. -/
def sockSendBody (writes : ℕ → WriteAnswer) (size : ℕ) (s : ℕ × ℕ) :
    Option ((ℕ × ℕ) ⊕ (Int × ℕ)) :=
  if s.1 = size then some (.inr (wrapInt s.1, s.2))
  else
    match writes s.2 with
    | .error => some (.inr (-1, s.2 + 1))
    | .again => some (.inl (s.1, s.2 + 1))
    | .taken bytes =>
      let sent := min (min bytes 0x7ffff000) (size - s.1)
      if sent = 0 then some (.inr (wrapInt s.1, s.2 + 1))
      else some (.inl ((s.1 + sent) % 2 ^ 32, s.2 + 1))

/-- `sock_send_string` -/
def sockSendString (fuel : ℕ) (writes : ℕ → WriteAnswer) (string : Str) : Option (Int × ℕ) :=
  Loop.run (sockSendBody writes string.length) fuel (0, 0)

/-! ## `sock_recv_string` -/

/-- **What was read of a socket**: how many calls of `read` were made, and what is in the
buffer. -/
structure SockInput where
  /-- The calls of `read` so far. -/
  calls : ℕ
  /-- What `dest` points to. -/
  dest : ℕ → Char

/-- `sock_recv_string` with the byte that was read, and with `recvBytes` in front of it. -/
def sockRecvByte (maxlen : ℕ) (s : SockInput) (recvBytes : ℕ) (c : Char) :
    (SockInput × ℕ) ⊕ (Int × SockInput) :=
  let dest := Function.update s.dest recvBytes c
  if recvBytes + 1 = maxlen ∨ c = '\x00' ∨ c = '\n' then
    let dest := Function.update dest recvBytes '\x00'
    if recvBytes + 1 = 1 ∧ dest 0 = '\x00' then .inr (0, { s with dest := dest })
    else
      let dest :=
        if recvBytes + 1 < maxlen - 1 then Function.update dest (recvBytes + 1) '\x00' else dest
      .inr (recvBytes + 1, { s with dest := dest })
  else .inl ({ s with dest := dest }, recvBytes + 1)

/-- A round of `sock_recv_string`, with `recvBytes`. -/
def sockRecvBody (reads : ℕ → ReadAnswer) (maxlen : ℕ) (s : SockInput × ℕ) :
    Option ((SockInput × ℕ) ⊕ (Int × SockInput)) :=
  let next := { s.1 with calls := s.1.calls + 1 }
  match reads s.1.calls with
  | .again => some (if s.2 ≠ 0 then .inl (next, s.2) else .inr (0, next))
  | .error => some (.inr (-1, next))
  | .eof => some (.inr (s.2, next))
  | .byte c => some (sockRecvByte maxlen next s.2 c)

/-- **`sock_recv_string`**, from a call of `read` on. -/
def sockRecvFrom (fuel : ℕ) (reads : ℕ → ReadAnswer) (maxlen : ℕ) (s : SockInput) :
    Option (Int × SockInput) :=
  Loop.run (sockRecvBody reads maxlen) fuel (s, 0)

/-- **A byte is read as `Receiving` has it**, whose `read` is one of these calls. -/
theorem Receiving.recvByte_eq {β : Type} (s : Receiving β) (c : Char) :
    s.recvByte c = match sockRecvByte recvMaxlen ⟨s.read.length + 1, s.buffer⟩ s.recvBytes c with
      | .inl (input, recvBytes) => some { s with
          read := s.read ++ [c], buffer := input.dest, recvBytes := recvBytes }
      | .inr (numBytes, input) =>
        Receiving.returns { s with read := s.read ++ [c], buffer := input.dest }
          (if numBytes = 0 then .nothing else .line (cString input.dest bufsiz 0)) := by
  unfold recvByte sockRecvByte
  dsimp only
  split
  · split
    · rfl
    · have hne : ((s.recvBytes : Int) + 1) ≠ 0 := by omega
      dsimp only
      rw [if_neg hne]
  · rfl

/-! ## `send_command` -/

/-- A round of `send_command`, which wants a result, with what `sock_send_string` has
returned. -/
def sendCommandBody (fuel : ℕ) (reads : ℕ → ReadAnswer) (sent : Int) (s : SockInput) :
    Option (SockInput ⊕ (Int × SockInput)) :=
  (sockRecvFrom fuel reads recvMaxlen s).map (fun r =>
    if r.1 < 0 then .inr (sent, r.2) else if r.1 = 0 then .inl r.2 else .inr r)

/-- `send_command` behind `sock_send_string`, with what that has returned. -/
def sendCommandReply (fuel : ℕ) (reads : ℕ → ReadAnswer) (sent : Int) :
    Option (ℕ → Char) → Option (Int × Option SockInput)
  | none => some (if sent < 0 then sent else 0, none)
  | some result =>
    if sent < 0 then some (sent, some ⟨0, result⟩)
    else (Loop.run (sendCommandBody fuel reads sent) fuel ⟨0, result⟩).map
      (fun r => (r.1, some r.2))

/-- **`send_command`** of `main.c`: its result, the calls of `write`, and what was read. The
`result` is that of the handshake, of `BUFSIZ` bytes, or it is `NULL`. -/
def sendCommand (fuel : ℕ) (writes : ℕ → WriteAnswer) (reads : ℕ → ReadAnswer) (command : Str)
    (result : Option (ℕ → Char)) : Option (Int × ℕ × Option SockInput) :=
  (sockSendString fuel writes command).bind (fun w =>
    (sendCommandReply fuel reads w.1 result).map (fun r => (r.1, w.2, r.2)))

/-! ## What answers a command -/

/-- A line ends at a line feed or a NUL. -/
def EndsLine (c : Char) : Prop := c = '\x00' ∨ c = '\n'

instance (c : Char) : Decidable (EndsLine c) := inferInstanceAs (Decidable (_ ∨ _))

/-- A buffer with a text written to its beginning. -/
def overlay (dest : ℕ → Char) (text : Str) : ℕ → Char := fun i => text[i]?.getD (dest i)

/-- How a wait for an answer ends. -/
inductive AnswerEnd where
  /-- A line was read, or as much of it as there is room for. -/
  | line
  /-- The connection was closed in mid-line. -/
  | cut
  /-- There was an error. -/
  | failed
  deriving DecidableEq, Repr

/-- **What answers a command**, from a call of `read` on, with what was read of a line
before: the string that is then in the buffer. -/
inductive Answers (reads : ℕ → ReadAnswer) :
    ℕ → (ℕ → Char) → Str → Str → AnswerEnd → Prop
  /-- There is nothing to read. -/
  | idle {i : ℕ} {dest : ℕ → Char} {text : Str} {e : AnswerEnd} :
      reads i = .again ∨ reads i = .eof → Answers reads (i + 1) dest [] text e →
      Answers reads i dest [] text e
  /-- A line is empty. -/
  | blank {i : ℕ} {dest : ℕ → Char} {text : Str} {e : AnswerEnd} {c : Char} :
      reads i = .byte c → EndsLine c →
      Answers reads (i + 1) (Function.update dest 0 '\x00') [] text e →
      Answers reads i dest [] text e
  /-- The rest of a line is not there yet. -/
  | wait {i : ℕ} {dest : ℕ → Char} {done text : Str} {e : AnswerEnd} :
      done ≠ [] → reads i = .again → Answers reads (i + 1) dest done text e →
      Answers reads i dest done text e
  /-- The next byte of a line is. -/
  | byte {i : ℕ} {dest : ℕ → Char} {done text : Str} {e : AnswerEnd} {c : Char} :
      reads i = .byte c → ¬ EndsLine c → done.length + 1 ≠ recvMaxlen →
      Answers reads (i + 1) dest (done ++ [c]) text e → Answers reads i dest done text e
  /-- The line ends. -/
  | line {i : ℕ} {dest : ℕ → Char} {done : Str} {c : Char} :
      done ≠ [] → reads i = .byte c → EndsLine c → Answers reads i dest done done .line
  /-- There is no more room for it. -/
  | full {i : ℕ} {dest : ℕ → Char} {done : Str} {c : Char} :
      reads i = .byte c → ¬ EndsLine c → done.length + 1 = recvMaxlen →
      Answers reads i dest done done .line
  /-- The connection is closed in the middle of it. -/
  | cut {i : ℕ} {dest : ℕ → Char} {done : Str} :
      done ≠ [] → reads i = .eof →
      Answers reads i dest done (cString (overlay dest done) bufsiz 0) .cut
  /-- There is an error. -/
  | failed {i : ℕ} {dest : ℕ → Char} {done : Str} :
      reads i = .error → Answers reads i dest done (cString (overlay dest done) bufsiz 0) .failed

section overlay

variable {dest : ℕ → Char} {done : Str}

/-- The text is what was written. -/
theorem holds_overlay (dest : ℕ → Char) (done : Str) : Holds (overlay dest done) 0 done := by
  intro j c hc
  rw [Nat.zero_add, overlay, hc, Option.getD_some]

/-- The next byte goes behind the text. -/
theorem update_overlay (c : Char) :
    Function.update (overlay dest done) done.length c = overlay dest (done ++ [c]) := by
  funext i
  unfold overlay
  rcases Nat.lt_trichotomy i done.length with hi | rfl | hi
  · rw [Function.update_of_ne (Nat.ne_of_lt hi), List.getElem?_append_left hi]
  · rw [Function.update_self, List.getElem?_concat_length, Option.getD_some]
  · have hlength : (done ++ [c]).length ≤ i := by
      rw [List.length_append, List.length_singleton]
      exact hi
    rw [Function.update_of_ne (Nat.ne_of_gt hi), List.getElem?_eq_none (Nat.le_of_lt hi),
      List.getElem?_eq_none hlength]

end overlay

/-- **The answer is determined** by what is read. -/
theorem Answers.unique {reads : ℕ → ReadAnswer} {i : ℕ} {dest : ℕ → Char}
    {done text text' : Str} {e e' : AnswerEnd} (h : Answers reads i dest done text e)
    (h' : Answers reads i dest done text' e') : text = text' ∧ e = e' := by
  induction h with
  | idle hread _ ih =>
    rcases hread with hread | hread <;> cases h' <;> simp_all
  | blank hread hc _ ih => cases h' <;> simp_all
  | wait hdone hread _ ih => cases h' <;> simp_all
  | byte hread hc hroom _ ih => cases h' <;> simp_all
  | line hdone hread hc => cases h' <;> simp_all
  | full hread hc hroom => cases h' <;> simp_all
  | cut hdone hread => cases h' <;> simp_all
  | failed hread => cases h' <;> simp_all

/-! ## A round of `sock_recv_string` -/

section round

variable {reads : ℕ → ReadAnswer} {i : ℕ} {dest : ℕ → Char} {done : Str}

/-- A byte in mid-line. -/
theorem sockRecvByte_of_not_endsLine {c : Char} (hc : ¬ EndsLine c)
    (hroom : done.length + 1 ≠ recvMaxlen) :
    sockRecvByte recvMaxlen ⟨i, overlay dest done⟩ done.length c
      = .inl (⟨i, overlay dest (done ++ [c])⟩, (done ++ [c]).length) := by
  unfold sockRecvByte
  dsimp only
  rw [if_neg (by
    rintro (h | h)
    · exact hroom h
    · exact hc h), update_overlay, List.length_append]
  rfl

/-- An empty line. -/
theorem sockRecvByte_blank {c : Char} (hc : EndsLine c) :
    sockRecvByte recvMaxlen ⟨i, dest⟩ 0 c = .inr (0, ⟨i, Function.update dest 0 '\x00'⟩) := by
  unfold sockRecvByte
  dsimp only
  rw [if_pos (.inr hc), if_pos ⟨rfl, Function.update_self ..⟩, Function.update_idem]

/-- The end of a line, or of the room for it. -/
theorem sockRecvByte_line {c : Char} (hdone : done ≠ [])
    (hend : EndsLine c ∨ done.length + 1 = recvMaxlen) (hline : IsLine done)
    (hlength : done.length < recvMaxlen) :
    ∃ s, sockRecvByte recvMaxlen ⟨i, overlay dest done⟩ done.length c
        = .inr ((done.length : Int) + 1, s)
      ∧ s.calls = i ∧ cString s.dest bufsiz 0 = done := by
  have hpos : ¬ (done.length + 1 = 1) := by
    have hne := List.length_pos_of_ne_nil hdone
    omega
  have hnul : '\x00' ∉ done := fun hmem => (hline _ hmem).1 rfl
  unfold sockRecvByte
  dsimp only
  rw [if_pos (hend.elim .inr .inl), if_neg (fun h => hpos h.1)]
  refine ⟨_, rfl, rfl, ?_⟩
  exact cString_line (holds_overlay dest done) hnul (Nat.lt_succ_of_lt hlength) c _

/-! A round by what is read. -/

theorem sockRecvBody_idle (hread : reads i = .again ∨ reads i = .eof) :
    sockRecvBody reads recvMaxlen (⟨i, dest⟩, 0) = some (.inr (0, ⟨i + 1, dest⟩)) := by
  unfold sockRecvBody
  dsimp only
  rcases hread with hread | hread
  · rw [hread]
    rfl
  · rw [hread]
    rfl

theorem sockRecvBody_blank {c : Char} (hread : reads i = .byte c) (hc : EndsLine c) :
    sockRecvBody reads recvMaxlen (⟨i, dest⟩, 0)
      = some (.inr (0, ⟨i + 1, Function.update dest 0 '\x00'⟩)) := by
  unfold sockRecvBody
  dsimp only
  rw [hread]
  exact congrArg some (sockRecvByte_blank hc)

theorem sockRecvBody_wait (hdone : done ≠ []) (hread : reads i = .again) :
    sockRecvBody reads recvMaxlen (⟨i, overlay dest done⟩, done.length)
      = some (.inl (⟨i + 1, overlay dest done⟩, done.length)) := by
  have hne : done.length ≠ 0 := fun h => hdone (List.eq_nil_of_length_eq_zero h)
  unfold sockRecvBody
  dsimp only
  rw [hread]
  exact congrArg some (if_pos hne)

theorem sockRecvBody_byte {c : Char} (hread : reads i = .byte c) (hc : ¬ EndsLine c)
    (hroom : done.length + 1 ≠ recvMaxlen) :
    sockRecvBody reads recvMaxlen (⟨i, overlay dest done⟩, done.length)
      = some (.inl (⟨i + 1, overlay dest (done ++ [c])⟩, (done ++ [c]).length)) := by
  unfold sockRecvBody
  dsimp only
  rw [hread]
  exact congrArg some (sockRecvByte_of_not_endsLine hc hroom)

theorem sockRecvBody_line {c : Char} (hdone : done ≠ []) (hread : reads i = .byte c)
    (hend : EndsLine c ∨ done.length + 1 = recvMaxlen) (hline : IsLine done)
    (hlength : done.length < recvMaxlen) :
    ∃ s, sockRecvBody reads recvMaxlen (⟨i, overlay dest done⟩, done.length)
        = some (.inr ((done.length : Int) + 1, s))
      ∧ s.calls = i + 1 ∧ cString s.dest bufsiz 0 = done := by
  obtain ⟨s, hbyte, hs⟩ : ∃ s, sockRecvByte recvMaxlen ⟨i + 1, overlay dest done⟩ done.length c
      = .inr ((done.length : Int) + 1, s) ∧ s.calls = i + 1 ∧ cString s.dest bufsiz 0 = done :=
    sockRecvByte_line hdone hend hline hlength
  refine ⟨s, ?_, hs⟩
  unfold sockRecvBody
  dsimp only
  rw [hread]
  exact congrArg some hbyte

theorem sockRecvBody_eof (hread : reads i = .eof) :
    sockRecvBody reads recvMaxlen (⟨i, overlay dest done⟩, done.length)
      = some (.inr (done.length, ⟨i + 1, overlay dest done⟩)) := by
  unfold sockRecvBody
  dsimp only
  rw [hread]

theorem sockRecvBody_failed (hread : reads i = .error) :
    sockRecvBody reads recvMaxlen (⟨i, overlay dest done⟩, done.length)
      = some (.inr (-1, ⟨i + 1, overlay dest done⟩)) := by
  unfold sockRecvBody
  dsimp only
  rw [hread]

/-- **What a round does** in a line of which something or nothing was read. -/
inductive RecvTaken (reads : ℕ → ReadAnswer) (i : ℕ) (dest : ℕ → Char) (done : Str) :
    (SockInput × ℕ) ⊕ (Int × SockInput) → Prop
  /-- There is nothing to read. -/
  | idle : done = [] → reads i = .again ∨ reads i = .eof →
      RecvTaken reads i dest done (.inr (0, ⟨i + 1, dest⟩))
  /-- The line is empty. -/
  | blank {c : Char} : done = [] → reads i = .byte c → EndsLine c →
      RecvTaken reads i dest done (.inr (0, ⟨i + 1, Function.update dest 0 '\x00'⟩))
  /-- The rest is not there yet. -/
  | wait : done ≠ [] → reads i = .again →
      RecvTaken reads i dest done (.inl (⟨i + 1, overlay dest done⟩, done.length))
  /-- The next byte is. -/
  | byte {c : Char} : reads i = .byte c → ¬ EndsLine c → done.length + 1 ≠ recvMaxlen →
      RecvTaken reads i dest done
        (.inl (⟨i + 1, overlay dest (done ++ [c])⟩, (done ++ [c]).length))
  /-- The line ends, or there is no more room for it. -/
  | line {c : Char} {s : SockInput} : done ≠ [] → reads i = .byte c →
      EndsLine c ∨ done.length + 1 = recvMaxlen → s.calls = i + 1 →
      cString s.dest bufsiz 0 = done →
      RecvTaken reads i dest done (.inr ((done.length : Int) + 1, s))
  /-- The connection is closed in the middle of it. -/
  | cut : done ≠ [] → reads i = .eof →
      RecvTaken reads i dest done (.inr (done.length, ⟨i + 1, overlay dest done⟩))
  /-- There is an error. -/
  | failed : reads i = .error →
      RecvTaken reads i dest done (.inr (-1, ⟨i + 1, overlay dest done⟩))

/-- **The inversion of a round.** -/
theorem recvTaken_of_round (hline : IsLine done) (hlength : done.length < recvMaxlen)
    {r : (SockInput × ℕ) ⊕ (Int × SockInput)}
    (h : sockRecvBody reads recvMaxlen (⟨i, overlay dest done⟩, done.length) = some r) :
    RecvTaken reads i dest done r := by
  have hround : ∀ {r'}, sockRecvBody reads recvMaxlen (⟨i, overlay dest done⟩, done.length)
      = some r' → RecvTaken reads i dest done r' → RecvTaken reads i dest done r :=
    fun hr' htaken => Option.some.inj (hr'.symm.trans h) ▸ htaken
  cases hread : reads i with
  | again =>
    by_cases hdone : done = []
    · subst hdone
      exact hround (sockRecvBody_idle (.inl hread)) (.idle rfl (.inl hread))
    · exact hround (sockRecvBody_wait hdone hread) (.wait hdone hread)
  | eof =>
    by_cases hdone : done = []
    · subst hdone
      exact hround (sockRecvBody_idle (.inr hread)) (.idle rfl (.inr hread))
    · exact hround (sockRecvBody_eof hread) (.cut hdone hread)
  | error => exact hround (sockRecvBody_failed hread) (.failed hread)
  | byte c =>
    by_cases hend : EndsLine c ∨ done.length + 1 = recvMaxlen
    · by_cases hdone : done = []
      · subst hdone
        have hc : EndsLine c := hend.resolve_right (by decide)
        exact hround (sockRecvBody_blank hread hc) (.blank rfl hread hc)
      · obtain ⟨s, hs, hcalls, hstring⟩ :
            ∃ s, sockRecvBody reads recvMaxlen (⟨i, overlay dest done⟩, done.length)
              = some (.inr ((done.length : Int) + 1, s))
            ∧ s.calls = i + 1 ∧ cString s.dest bufsiz 0 = done :=
          sockRecvBody_line hdone hread hend hline hlength
        exact hround hs (.line hdone hread hend hcalls hstring)
    · rw [not_or] at hend
      exact hround (sockRecvBody_byte hread hend.1 hend.2) (.byte hread hend.1 hend.2)

/-- A line that is not full yet has room for a byte. -/
theorem isLine_append {c : Char} (hline : IsLine done) (hlength : done.length < recvMaxlen)
    (hc : ¬ EndsLine c) (hroom : done.length + 1 ≠ recvMaxlen) :
    IsLine (done ++ [c]) ∧ (done ++ [c]).length < recvMaxlen := by
  constructor
  · intro d hd
    rcases List.mem_append.mp hd with hd | hd
    · exact hline d hd
    · rw [List.mem_singleton.mp hd]
      exact not_or.mp hc
  · rw [List.length_append]
    exact Nat.lt_of_le_of_ne hlength hroom

end round

/-! ## What `send_command` leaves -/

section wait

variable {reads : ℕ → ReadAnswer}

/-- A round of `sock_recv_string`, whatever the fuel. -/
abbrev RecvRound (reads : ℕ → ReadAnswer) (s : SockInput × ℕ)
    (r : (SockInput × ℕ) ⊕ (Int × SockInput)) : Prop :=
  ∃ _ : ℕ, sockRecvBody reads recvMaxlen s = some r

/-- **What `sock_recv_string` returns** is what answers, or it is `0` and there was
nothing of a line. -/
theorem answers_of_recv {s : SockInput × ℕ} {r : Int × SockInput}
    (h : Loop.Ends (RecvRound reads) s r) {i : ℕ} {dest : ℕ → Char} {done : Str}
    (hs : s = (⟨i, overlay dest done⟩, done.length)) (hline : IsLine done)
    (hlength : done.length < recvMaxlen) :
    (done = [] ∧ r.1 = 0 ∧ RecvTaken reads i dest [] (.inr r)) ∨ (r.1 ≠ 0 ∧ ∃ e,
      Answers reads i dest done (cString r.2.dest bufsiz 0) e ∧ (r.1 < 0 ↔ e = .failed)) := by
  induction h generalizing i done with
  | leave hround =>
    subst hs
    obtain ⟨_, hbody⟩ := hround
    cases recvTaken_of_round hline hlength hbody with
    | idle hdone hread => exact .inl ⟨hdone, rfl, .idle rfl hread⟩
    | blank hdone hread hc => exact .inl ⟨hdone, rfl, .blank rfl hread hc⟩
    | line hdone hread hend _ hstring =>
      refine .inr ⟨by dsimp only; omega, .line, ?_, ?_⟩
      · rw [hstring]
        rcases Classical.em (EndsLine _) with hc | hc
        · exact .line hdone hread hc
        · exact .full hread hc (hend.resolve_left hc)
      · exact ⟨fun h => absurd h (by dsimp only; omega), nofun⟩
    | cut hdone hread =>
      have hpos := List.length_pos_of_ne_nil hdone
      refine .inr ⟨by dsimp only; omega, .cut, .cut hdone hread, ?_⟩
      exact ⟨fun h => absurd h (by dsimp only; omega), nofun⟩
    | failed hread =>
      exact .inr ⟨by dsimp only; omega, .failed, .failed hread,
        iff_of_true (by dsimp only; omega) rfl⟩
  | again hround _ ih =>
    subst hs
    obtain ⟨_, hbody⟩ := hround
    cases recvTaken_of_round hline hlength hbody with
    | wait hdone hread =>
      rcases ih rfl hline hlength with ⟨hnil, -⟩ | ⟨hne, e, hanswers, he⟩
      · exact absurd hnil hdone
      · exact .inr ⟨hne, e, .wait hdone hread hanswers, he⟩
    | byte hread hc hroom =>
      obtain ⟨hline', hlength'⟩ := isLine_append hline hlength hc hroom
      rcases ih rfl hline' hlength' with ⟨hnil, -⟩ | ⟨hne, e, hanswers, he⟩
      · exact absurd hnil (List.append_ne_nil_of_right_ne_nil _ (List.cons_ne_nil _ _))
      · exact .inr ⟨hne, e, .byte hread hc hroom hanswers, he⟩

/-- That is a whole call when nothing of a line was read before. -/
theorem answers_of_call {s : SockInput} {r : Int × SockInput}
    (h : Loop.Ends (RecvRound reads) (s, 0) r) :
    (r.1 = 0 ∧ RecvTaken reads s.calls s.dest [] (.inr r)) ∨ (r.1 ≠ 0 ∧ ∃ e,
      Answers reads s.calls s.dest [] (cString r.2.dest bufsiz 0) e ∧ (r.1 < 0 ↔ e = .failed)) := by
  have hempty : ((s, 0) : SockInput × ℕ)
    = (⟨s.calls, overlay s.dest []⟩, List.length ([] : Str)) := rfl
  have hlength : List.length ([] : Str) < recvMaxlen := by decide
  exact (answers_of_recv h hempty nofun hlength).imp_left And.right

/-- A round of `send_command`, whatever the fuel. -/
abbrev SendRound (reads : ℕ → ReadAnswer) (sent : Int) (s : SockInput)
    (r : SockInput ⊕ (Int × SockInput)) : Prop :=
  ∃ n, sendCommandBody n reads sent s = some r

/-- A call of `sock_recv_string`, whatever the fuel. -/
theorem exists_sockRecvFrom_iff {s : SockInput} {r : Int × SockInput} :
    (∃ n, sockRecvFrom n reads recvMaxlen s = some r)
      ↔ Loop.Ends (RecvRound reads) (s, 0) r := by
  have hmono : ∀ n m : ℕ, n ≤ m → ∀ s r, sockRecvBody reads recvMaxlen s = some r →
      sockRecvBody reads recvMaxlen s = some r := fun _ _ _ _ _ h => h
  exact Loop.exists_run_iff_ends hmono

/-- More fuel does not change what a round of `send_command` does. -/
theorem sendCommandBody_mono {sent : Int} (n m : ℕ) (hnm : n ≤ m) (s : SockInput)
    (r : SockInput ⊕ (Int × SockInput)) (h : sendCommandBody n reads sent s = some r) :
    sendCommandBody m reads sent s = some r := by
  obtain ⟨q, hq, rfl⟩ := Option.map_eq_some_iff.mp h
  exact Option.map_eq_some_iff.mpr ⟨q, Loop.run_mono (fun _ _ e => e) hnm hq, rfl⟩

/-- What a round of `send_command` makes of a call of `sock_recv_string`. -/
theorem sendRound_iff {sent : Int} {s : SockInput} {r : SockInput ⊕ (Int × SockInput)} :
    SendRound reads sent s r ↔ ∃ q, Loop.Ends (RecvRound reads) (s, 0) q ∧
      (if q.1 < 0 then .inr (sent, q.2) else if q.1 = 0 then .inl q.2 else .inr q) = r := by
  constructor
  · rintro ⟨n, h⟩
    obtain ⟨q, hq, hr⟩ := Option.map_eq_some_iff.mp h
    exact ⟨q, exists_sockRecvFrom_iff.mp ⟨n, hq⟩, hr⟩
  · rintro ⟨q, hq, hr⟩
    obtain ⟨n, hn⟩ := exists_sockRecvFrom_iff.mpr hq
    exact ⟨n, Option.map_eq_some_iff.mpr ⟨q, hn, hr⟩⟩

/-- **What `send_command` leaves in its buffer is what answers**; it returns what
`sock_send_string` has returned where there was an error. -/
theorem answers_of_ends {sent : Int} {s : SockInput} {r : Int × SockInput}
    (h : Loop.Ends (SendRound reads sent) s r) :
    ∃ e, Answers reads s.calls s.dest [] (cString r.2.dest bufsiz 0) e
      ∧ (e = .failed ∧ r.1 = sent ∨ e ≠ .failed ∧ 0 < r.1) := by
  induction h with
  | @leave s b hround =>
    obtain ⟨q, hq, hr⟩ := sendRound_iff.mp hround
    rcases answers_of_call hq with ⟨hzero, -⟩ | ⟨hne, e, hanswers, he⟩
    · rw [if_neg (by omega), if_pos hzero] at hr
      exact nomatch hr
    · by_cases hneg : q.1 < 0
      · rw [if_pos hneg] at hr
        obtain rfl := Sum.inr.inj hr
        exact ⟨e, hanswers, .inl ⟨he.mp hneg, rfl⟩⟩
      · rw [if_neg hneg, if_neg hne] at hr
        obtain rfl := Sum.inr.inj hr
        exact ⟨e, hanswers, .inr ⟨fun h => hneg (he.mpr h), by omega⟩⟩
  | @again s s' b hround _ ih =>
    obtain ⟨q, hq, hr⟩ := sendRound_iff.mp hround
    obtain ⟨e, hanswers, he⟩ := ih
    refine ⟨e, ?_, he⟩
    rcases answers_of_call hq with ⟨hzero, htaken⟩ | ⟨hne, -⟩
    · rw [if_neg (by omega), if_pos hzero] at hr
      obtain rfl := Sum.inl.inj hr
      obtain ⟨numBytes, input⟩ := q
      cases htaken with
      | idle _ hread => exact .idle hread hanswers
      | blank _ hread hc => exact .blank hread hc hanswers
      | line hnil | cut hnil => exact absurd rfl hnil
      | failed =>
        have hfailed : (-1 : Int) = 0 := hzero
        exact absurd hfailed (by decide)
    · rw [if_neg hne] at hr
      split at hr <;> exact nomatch hr

/-- A call of `sock_recv_string` that has read something returns. -/
theorem sendRound_of_recv {sent : Int} {s : SockInput} {q : Int × SockInput}
    (hq : Loop.Ends (RecvRound reads) (s, 0) q) (hne : q.1 ≠ 0) :
    ∃ r, Loop.Ends (SendRound reads sent) s r := by
  by_cases hneg : q.1 < 0
  · exact ⟨_, .leave (sendRound_iff.mpr ⟨q, hq, if_pos hneg⟩)⟩
  · exact ⟨_, .leave (sendRound_iff.mpr ⟨q, hq, (if_neg hneg).trans (if_neg hne)⟩)⟩

/-- One that has not has `send_command` call it again. -/
theorem sendRound_again {sent : Int} {s s' : SockInput}
    (hq : Loop.Ends (RecvRound reads) (s, 0) (0, s')) {r : Int × SockInput}
    (hr : Loop.Ends (SendRound reads sent) s' r) : Loop.Ends (SendRound reads sent) s r :=
  .again (sendRound_iff.mpr ⟨_, hq, (if_neg (Int.lt_irrefl 0)).trans (if_pos rfl)⟩) hr

/-- **Where something answers, the calls return**: `sock_recv_string` when a line has
begun, and `send_command` when none has. -/
theorem ends_of_answers (sent : Int) {i : ℕ} {dest : ℕ → Char} {done text : Str} {e : AnswerEnd}
    (h : Answers reads i dest done text e) (hline : IsLine done)
    (hlength : done.length < recvMaxlen) :
    (done ≠ [] → ∃ q : Int × SockInput, q.1 ≠ 0 ∧
      Loop.Ends (RecvRound reads) (⟨i, overlay dest done⟩, done.length) q)
    ∧ (done = [] → ∃ r, Loop.Ends (SendRound reads sent) ⟨i, dest⟩ r) := by
  -- a call that returns with something of a line ends `send_command` too
  have hreturns : ∀ {i dest done} {q : Int × SockInput}, q.1 ≠ 0 →
      Loop.Ends (RecvRound reads) (⟨i, overlay dest done⟩, done.length) q →
      (done ≠ [] → ∃ q : Int × SockInput, q.1 ≠ 0 ∧
        Loop.Ends (RecvRound reads) (⟨i, overlay dest done⟩, done.length) q)
      ∧ (done = [] → ∃ r, Loop.Ends (SendRound reads sent) ⟨i, dest⟩ r) := by
    intro i dest done q hne hq
    refine ⟨fun _ => ⟨q, hne, hq⟩, ?_⟩
    rintro rfl
    exact sendRound_of_recv hq hne
  induction h with
  | idle hread _ ih =>
    refine ⟨fun h => absurd rfl h, fun _ => ?_⟩
    obtain ⟨r, hr⟩ := (ih hline hlength).2 rfl
    exact ⟨r, sendRound_again (.leave ⟨0, sockRecvBody_idle hread⟩) hr⟩
  | blank hread hc _ ih =>
    refine ⟨fun h => absurd rfl h, fun _ => ?_⟩
    obtain ⟨r, hr⟩ := (ih hline hlength).2 rfl
    exact ⟨r, sendRound_again (.leave ⟨0, sockRecvBody_blank hread hc⟩) hr⟩
  | wait hdone hread _ ih =>
    obtain ⟨q, hne, hq⟩ := (ih hline hlength).1 hdone
    exact hreturns hne (.again ⟨0, sockRecvBody_wait hdone hread⟩ hq)
  | byte hread hc hroom _ ih =>
    obtain ⟨hline', hlength'⟩ := isLine_append hline hlength hc hroom
    obtain ⟨q, hne, hq⟩ := (ih hline' hlength').1
      (List.append_ne_nil_of_right_ne_nil _ (List.cons_ne_nil _ _))
    exact hreturns hne (.again ⟨0, sockRecvBody_byte hread hc hroom⟩ hq)
  | line hdone hread hc =>
    obtain ⟨s, hs, -⟩ := sockRecvBody_line hdone hread (.inl hc) hline hlength
    exact hreturns (by dsimp only; omega) (.leave ⟨0, hs⟩)
  | @full i dest done c hread hc hroom =>
    have hdone : done ≠ [] := by
      rintro rfl
      exact absurd hroom (by decide)
    obtain ⟨s, hs, -⟩ := sockRecvBody_line hdone hread (.inr hroom) hline hlength
    exact hreturns (by dsimp only; omega) (.leave ⟨0, hs⟩)
  | cut hdone hread =>
    have hpos := List.length_pos_of_ne_nil hdone
    exact hreturns (by dsimp only; omega) (.leave ⟨0, sockRecvBody_eof hread⟩)
  | failed hread =>
    exact hreturns (by dsimp only; omega) (.leave ⟨0, sockRecvBody_failed hread⟩)

/-- `send_command` when the command was sent. -/
theorem sendCommandReply_eq {sent : Int} (hsent : ¬ sent < 0) (fuel : ℕ) (dest : ℕ → Char) :
    sendCommandReply fuel reads sent (some dest)
      = (Loop.run (sendCommandBody fuel reads sent) fuel ⟨0, dest⟩).map
        (fun r => (r.1, some r.2)) := by
  rw [sendCommandReply, if_neg hsent]

/-- **`send_command` returns** when nothing was sent, or when something answers. -/
theorem exists_sendCommandReply_iff (sent : Int) (dest : ℕ → Char) :
    (∃ fuel r, sendCommandReply fuel reads sent (some dest) = some r)
      ↔ sent < 0 ∨ ∃ text e, Answers reads 0 dest [] text e := by
  by_cases hsent : sent < 0
  · refine iff_of_true ⟨0, (sent, some ⟨0, dest⟩), ?_⟩ (.inl hsent)
    rw [sendCommandReply, if_pos hsent]
  · have hends : (∃ fuel r, sendCommandReply fuel reads sent (some dest) = some r)
        ↔ ∃ r, Loop.Ends (SendRound reads sent) ⟨0, dest⟩ r := by
      constructor
      · rintro ⟨fuel, r, h⟩
        rw [sendCommandReply_eq hsent] at h
        obtain ⟨q, hq, -⟩ := Option.map_eq_some_iff.mp h
        exact ⟨q, (Loop.exists_run_iff_ends sendCommandBody_mono).mp ⟨fuel, hq⟩⟩
      · rintro ⟨q, hq⟩
        obtain ⟨fuel, h⟩ := (Loop.exists_run_iff_ends sendCommandBody_mono).mpr hq
        refine ⟨fuel, (q.1, some q.2), ?_⟩
        rw [sendCommandReply_eq hsent]
        exact Option.map_eq_some_iff.mpr ⟨q, h, rfl⟩
    rw [hends, or_iff_right hsent]
    constructor
    · rintro ⟨r, hr⟩
      obtain ⟨e, hanswers, -⟩ := answers_of_ends hr
      exact ⟨_, e, hanswers⟩
    · rintro ⟨text, e, hanswers⟩
      exact (ends_of_answers sent hanswers nofun (by decide)).2 rfl

/-- More fuel does not change what comes behind `sock_send_string`. -/
theorem sendCommandReply_mono {sent : Int} {result : Option (ℕ → Char)} {n m : ℕ} (hnm : n ≤ m)
    {r : Int × Option SockInput} (h : sendCommandReply n reads sent result = some r) :
    sendCommandReply m reads sent result = some r := by
  cases result with
  | none => exact h
  | some dest =>
    by_cases hsent : sent < 0
    · rw [sendCommandReply, if_pos hsent] at h ⊢
      exact h
    · rw [sendCommandReply_eq hsent] at h ⊢
      obtain ⟨q, hq, hr⟩ := Option.map_eq_some_iff.mp h
      exact Option.map_eq_some_iff.mpr
        ⟨q, Loop.run_mono (sendCommandBody_mono n m hnm) hnm hq, hr⟩

/-- **`send_command` returns when it does so behind `sock_send_string`**, once that has. -/
theorem exists_sendCommand_iff {k calls : ℕ} {writes : ℕ → WriteAnswer} {command : Str}
    {sent : Int} (hsent : sockSendString k writes command = some (sent, calls))
    {result : Option (ℕ → Char)} :
    (∃ fuel r, sendCommand fuel writes reads command result = some r)
      ↔ ∃ fuel r, sendCommandReply fuel reads sent result = some r := by
  constructor
  · rintro ⟨fuel, r, h⟩
    obtain ⟨w, hw, h⟩ := Option.bind_eq_some_iff.mp h
    obtain ⟨q, hq, -⟩ := Option.map_eq_some_iff.mp h
    obtain rfl := Loop.run_unique hw hsent
    exact ⟨fuel, q, hq⟩
  · rintro ⟨fuel, r, h⟩
    have hmax := Loop.run_mono (fun _ _ e => e) (Nat.le_max_left k fuel) hsent
    refine ⟨max k fuel, (r.1, calls, r.2),
      Option.bind_eq_some_iff.mpr ⟨(sent, calls), hmax, ?_⟩⟩
    exact Option.map_eq_some_iff.mpr
      ⟨r, sendCommandReply_mono (Nat.le_max_right k fuel) h, rfl⟩

/-- **What it has in its buffer is what answers.** -/
theorem answers_of_sendCommandReply {sent ret : Int} {dest : ℕ → Char} {fuel : ℕ}
    {input : Option SockInput} (hsent : 0 ≤ sent)
    (h : sendCommandReply fuel reads sent (some dest) = some (ret, input)) :
    ∃ s e, input = some s ∧ Loop.Ends (SendRound reads sent) ⟨0, dest⟩ (ret, s)
      ∧ Answers reads 0 dest [] (cString s.dest bufsiz 0) e
      ∧ (e = .failed ∧ ret = sent ∨ e ≠ .failed ∧ 0 < ret) := by
  rw [sendCommandReply_eq (Int.not_lt.mpr hsent)] at h
  obtain ⟨q, hq, hr⟩ := Option.map_eq_some_iff.mp h
  obtain ⟨rfl, rfl⟩ := Prod.mk.inj hr
  have hends := (Loop.exists_run_iff_ends sendCommandBody_mono).mp ⟨fuel, hq⟩
  obtain ⟨e, hanswers, he⟩ := answers_of_ends hends
  exact ⟨q.2, e, rfl, hends, hanswers, he⟩

end wait

/-! ## When the wait ends -/

/-- The answer begins no line. -/
def ReadAnswer.Idle : ReadAnswer → Prop
  | .again | .eof => True
  | .error => False
  | .byte c => EndsLine c

/-- The answer ends a line that has begun. -/
def ReadAnswer.Stops : ReadAnswer → Prop
  | .again => False
  | .eof | .error => True
  | .byte c => EndsLine c

/-- The answer is a byte. -/
def ReadAnswer.isByte : ReadAnswer → Bool
  | .byte _ => true
  | _ => false

/-- How many bytes are read from one call to another. -/
def bytesRead (reads : ℕ → ReadAnswer) (i j : ℕ) : ℕ :=
  (List.range' i (j - i)).countP (fun k => (reads k).isByte)

/-- **A line that has begun ends**: something stops it, or there is no more room. -/
def LineEnds (reads : ℕ → ReadAnswer) (room i : ℕ) : Prop :=
  ∃ m, i ≤ m ∧ ((reads m).Stops ∨ room ≤ bytesRead reads i (m + 1))

section ends

variable {reads : ℕ → ReadAnswer} {i : ℕ} {dest : ℕ → Char} {done : Str}

theorem one_lt_recvMaxlen : 1 < recvMaxlen := by
  decide

theorem bytesRead_self : bytesRead reads i i = 0 := by
  rw [bytesRead, Nat.sub_self]
  rfl

theorem bytesRead_succ {m : ℕ} (h : i ≤ m) :
    bytesRead reads i (m + 1) = bytesRead reads (i + 1) (m + 1) + (reads i).isByte.toNat := by
  unfold bytesRead
  have hlength : m + 1 - i = m + 1 - (i + 1) + 1 := by omega
  rw [hlength, List.range'_succ, List.countP_cons]
  cases (reads i).isByte <;> rfl

/-- A line that answers ends. -/
theorem lineEnds_of_answers {text : Str} {e : AnswerEnd} (h : Answers reads i dest done text e)
    (hdone : done ≠ []) (hlength : done.length < recvMaxlen) :
    LineEnds reads (recvMaxlen - done.length) i := by
  induction h with
  | idle | blank => exact absurd rfl hdone
  | wait hdone hread _ ih =>
    obtain ⟨m, him, hm⟩ := ih hdone hlength
    refine ⟨m, Nat.le_of_succ_le him, hm.imp_right (fun h => ?_)⟩
    rw [bytesRead_succ (Nat.le_of_succ_le him)]
    exact Nat.le_add_right_of_le h
  | @byte i dest done text e c hread hc hroom _ ih =>
    have hlength' : (done ++ [c]).length = done.length + 1 := List.length_append ..
    obtain ⟨m, him, hm⟩ := ih (List.append_ne_nil_of_right_ne_nil _ (List.cons_ne_nil _ _))
      (by omega)
    refine ⟨m, Nat.le_of_succ_le him, hm.imp_right (fun h => ?_)⟩
    rw [bytesRead_succ (Nat.le_of_succ_le him), hread]
    show _ ≤ _ + 1
    omega
  | line hdone hread hc => exact ⟨_, Nat.le_refl _, .inl (hread ▸ hc)⟩
  | full hread hc hroom =>
    refine ⟨_, Nat.le_refl _, .inr ?_⟩
    rw [bytesRead_succ (Nat.le_refl _), hread]
    show _ ≤ _ + 1
    omega
  | cut hdone hread | failed hread => exact ⟨_, Nat.le_refl _, .inl (hread ▸ trivial)⟩

/-- A line that ends answers. -/
theorem exists_answers_of_lineEnds (hdone : done ≠ []) (hlength : done.length < recvMaxlen)
    (h : LineEnds reads (recvMaxlen - done.length) i) :
    ∃ text e, Answers reads i dest done text e := by
  have hpos : 0 < recvMaxlen - done.length := Nat.sub_pos_of_lt hlength
  obtain ⟨m, him, hm⟩ := h
  obtain ⟨d, rfl⟩ := Nat.exists_eq_add_of_le him
  -- the calls up to the one that ends the line, each of which goes on or ends it sooner
  induction d generalizing i done with
  | zero =>
    rw [Nat.add_zero] at hm
    cases hread : reads i with
    | again =>
      have hroom := hm.resolve_left (fun h => by rw [hread] at h; exact h)
      rw [bytesRead_succ (Nat.le_refl i), bytesRead_self, hread] at hroom
      exact absurd hroom (Nat.not_le.mpr hpos)
    | eof => exact ⟨_, _, .cut hdone hread⟩
    | error => exact ⟨_, _, .failed hread⟩
    | byte c =>
      by_cases hc : EndsLine c
      · exact ⟨_, _, .line hdone hread hc⟩
      · have hroom := hm.resolve_left (fun h => by rw [hread] at h; exact hc h)
        rw [bytesRead_succ (Nat.le_refl i), bytesRead_self, hread] at hroom
        have hone : recvMaxlen - done.length ≤ 1 := hroom
        exact ⟨_, _, .full hread hc (by omega)⟩
  | succ d ih =>
    have hnext : i + (d + 1) = i + 1 + d := by omega
    rw [bytesRead_succ (Nat.le_add_right i (d + 1)), hnext] at hm
    cases hread : reads i with
    | again =>
      rw [hread] at hm
      obtain ⟨text, e, h⟩ := ih hdone hlength hpos (Nat.le_add_right _ _) hm
      exact ⟨text, e, .wait hdone hread h⟩
    | eof => exact ⟨_, _, .cut hdone hread⟩
    | error => exact ⟨_, _, .failed hread⟩
    | byte c =>
      by_cases hc : EndsLine c
      · exact ⟨_, _, .line hdone hread hc⟩
      · by_cases hroom : done.length + 1 = recvMaxlen
        · exact ⟨_, _, .full hread hc hroom⟩
        · have hlength' : (done ++ [c]).length = done.length + 1 := List.length_append ..
          rw [hread] at hm
          have hm' : (reads (i + 1 + d)).Stops
              ∨ recvMaxlen - (done ++ [c]).length ≤ bytesRead reads (i + 1) (i + 1 + d + 1) := by
            refine hm.imp_right (fun h => ?_)
            have hone : recvMaxlen - done.length
              ≤ bytesRead reads (i + 1) (i + 1 + d + 1) + 1 := h
            omega
          obtain ⟨text, e, h⟩ := ih (List.append_ne_nil_of_right_ne_nil _ (List.cons_ne_nil _ _))
            (by omega) (by omega) (Nat.le_add_right _ _) hm'
          exact ⟨text, e, .byte hread hc hroom h⟩

/-- The answer is the first byte of a line. -/
def ReadAnswer.Begins : ReadAnswer → Prop
  | .byte c => ¬ EndsLine c
  | _ => False

/-- **A wait is over** behind calls that begin no line: there is an error, or a line begins and
ends. -/
def WaitEnds (reads : ℕ → ReadAnswer) (i n : ℕ) : Prop :=
  i ≤ n ∧ (∀ k, i ≤ k → k < n → (reads k).Idle) ∧
    (reads n = .error ∨ (reads n).Begins ∧ LineEnds reads (recvMaxlen - 1) (n + 1))

/-- A call that begins no line comes in front. -/
theorem WaitEnds.idle {n : ℕ} (h : WaitEnds reads (i + 1) n) (hi : (reads i).Idle) :
    WaitEnds reads i n := by
  obtain ⟨hin, hidle, hn⟩ := h
  refine ⟨Nat.le_of_succ_le hin, fun k hik hkn => ?_, hn⟩
  rcases Nat.eq_or_lt_of_le hik with rfl | hik
  · exact hi
  · exact hidle k hik hkn

/-- A wait that is over at once. -/
theorem WaitEnds.self (h : reads i = .error ∨ (reads i).Begins
    ∧ LineEnds reads (recvMaxlen - 1) (i + 1)) : WaitEnds reads i i :=
  ⟨Nat.le_refl i, fun _ hik hki => absurd hki (Nat.not_lt.mpr hik), h⟩

/-- A wait that something answers is over. -/
theorem exists_waitEnds_of_answers {text : Str} {e : AnswerEnd}
    (h : Answers reads i dest [] text e) : ∃ n, WaitEnds reads i n := by
  -- the induction is on the idle calls; behind the first byte of a line it is `LineEnds`
  generalize hnil : ([] : Str) = done at h
  induction h with
  | idle hread _ ih =>
    obtain ⟨n, hn⟩ := ih hnil
    exact ⟨n, hn.idle (by rcases hread with hread | hread <;> exact hread ▸ trivial)⟩
  | blank hread hc _ ih =>
    obtain ⟨n, hn⟩ := ih rfl
    exact ⟨n, hn.idle (hread ▸ hc)⟩
  | wait hdone | line hdone | cut hdone => exact absurd hnil.symm hdone
  | @byte i dest done text e c hread hc _ h ih =>
    subst hnil
    have hends := lineEnds_of_answers h (List.cons_ne_nil c []) one_lt_recvMaxlen
    exact ⟨i, .self (.inr ⟨hread ▸ hc, hends⟩)⟩
  | full _ _ hroom =>
    subst hnil
    exact absurd hroom (by decide)
  | @failed i dest done hread => exact ⟨i, .self (.inl hread)⟩

/-- What answers where a wait is over. -/
theorem exists_answers_of_waitEnds {n : ℕ} (h : WaitEnds reads i n) :
    ∃ text e, Answers reads i dest [] text e := by
  obtain ⟨hin, hidle, hn⟩ := h
  obtain ⟨d, rfl⟩ := Nat.exists_eq_add_of_le hin
  induction d generalizing i dest with
  | zero =>
    rcases hn with hread | ⟨hbegins, hends⟩
    · exact ⟨_, _, .failed hread⟩
    · cases hread : reads i with
      | again | eof | error =>
        rw [Nat.add_zero, hread] at hbegins
        exact absurd hbegins id
      | byte c =>
        rw [Nat.add_zero, hread] at hbegins
        obtain ⟨text, e, h⟩ : ∃ text e, Answers reads (i + 1) dest [c] text e :=
          exists_answers_of_lineEnds (List.cons_ne_nil c []) one_lt_recvMaxlen hends
        exact ⟨text, e, .byte hread hbegins (Nat.ne_of_lt one_lt_recvMaxlen) h⟩
  | succ d ih =>
    have hnext : i + (d + 1) = i + 1 + d := by omega
    rw [hnext] at hn hidle
    have hih : ∀ dest, ∃ text e, Answers reads (i + 1) dest [] text e := fun dest =>
      ih (Nat.le_add_right _ _) (fun k hk => hidle k (Nat.le_of_succ_le hk)) hn
    have hi := hidle i (Nat.le_refl i) (by omega)
    cases hread : reads i with
    | again =>
      obtain ⟨text, e, h⟩ := hih dest
      exact ⟨text, e, .idle (.inl hread) h⟩
    | eof =>
      obtain ⟨text, e, h⟩ := hih dest
      exact ⟨text, e, .idle (.inr hread) h⟩
    | error =>
      rw [hread] at hi
      exact absurd hi id
    | byte c =>
      obtain ⟨text, e, h⟩ := hih (Function.update dest 0 '\x00')
      rw [hread] at hi
      exact ⟨text, e, .blank hread hi h⟩

/-- **A line is answered, or an error**, once all calls that begin no line are over. -/
theorem exists_answers_iff :
    (∃ text e, Answers reads i dest [] text e) ↔ ∃ n, WaitEnds reads i n :=
  ⟨fun ⟨_, _, h⟩ => exists_waitEnds_of_answers h, fun ⟨_, h⟩ => exists_answers_of_waitEnds h⟩

/-- **When the calls return**, if the command could be written or could not: after the
answers that begin no line there is an error, or a line begins and ends. -/
theorem exists_sendCommand_iff_answer {k : ℕ} {writes : ℕ → WriteAnswer} {command : Str}
    {sent : Int} {calls : ℕ} (hsent : sockSendString k writes command = some (sent, calls))
    (reads : ℕ → ReadAnswer) (dest : ℕ → Char) :
    (∃ fuel r, sendCommand fuel writes reads command (some dest) = some r)
      ↔ sent < 0 ∨ ∃ n, (∀ k < n, (reads k).Idle) ∧
        (reads n = .error ∨ (reads n).Begins ∧ LineEnds reads (recvMaxlen - 1) (n + 1)) := by
  rw [exists_sendCommand_iff hsent, exists_sendCommandReply_iff, exists_answers_iff]
  refine or_congr_right (exists_congr fun n => ⟨?_, ?_⟩)
  · rintro ⟨-, hidle, hn⟩
    exact ⟨fun k => hidle k (Nat.zero_le k), hn⟩
  · rintro ⟨hidle, hn⟩
    exact ⟨Nat.zero_le n, fun k _ => hidle k, hn⟩

/-- An empty line, and then one that ends with the connection. -/
theorem exists_sendCommand_of_lines :
    let reads : ℕ → ReadAnswer
      | 0 => .byte '\n'
      | 1 => .byte 'c'
      | _ => .eof
    sockSendString 8 (fun _ => .taken 4) "hello\n".toList = some (6, 2)
      ∧ ∃ fuel r, sendCommand fuel (fun _ => .taken 4) reads "hello\n".toList
        (some fun _ => '\x00') = some r := by
  intro reads
  have hsent : sockSendString 8 (fun _ => .taken 4) "hello\n".toList = some (6, 2) := by
    decide +kernel
  refine ⟨hsent, (exists_sendCommand_iff_answer hsent reads _).mpr (.inr ⟨1, ?_, .inr ⟨?_, ?_⟩⟩)⟩
  · intro k hk
    obtain rfl := Nat.lt_one_iff.mp hk
    exact .inr rfl
  · show ¬ EndsLine 'c'
    decide
  · exact ⟨2, Nat.le_refl 2, .inl trivial⟩

/-- **A server that closes the connection before it has sent anything is waited for**, for
ever. -/
theorem not_sendCommand_of_eof :
    ¬ ∀ (reads : ℕ → ReadAnswer) (dest : ℕ → Char),
      ((∃ n, (reads n).Begins ∧ LineEnds reads (recvMaxlen - 1) (n + 1))
        ∨ (∃ n, reads n = .error) ∨ (∃ n, ∀ k, n ≤ k → reads k = .eof)) →
      ∃ fuel r, sendCommand fuel (fun _ => .taken 6) reads "hello\n".toList (some dest)
        = some r := by
  intro h
  have hsent : sockSendString 8 (fun _ => .taken 6) "hello\n".toList = some (6, 1) := by
    decide +kernel
  have hreturns := h (fun _ => .eof) (fun _ => '\x00') (.inr (.inr ⟨0, fun _ _ => rfl⟩))
  rw [exists_sendCommand_iff hsent, exists_sendCommandReply_iff, exists_answers_iff]
    at hreturns
  rcases hreturns with hneg | ⟨n, -, -, hread | ⟨hbegins, -⟩⟩
  · exact absurd hneg (by decide)
  · exact nomatch hread
  · exact hbegins

end ends
