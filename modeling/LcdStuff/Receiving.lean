import LcdStuff.LineBreaks
import LcdStuff.Server

/-!
# Lines out of a stream of bytes

`sock_recv_string` reads a byte at a time into a buffer of its caller, up to a line
feed. In mid-line it waits for the next byte, so how the stream is cut into packets makes
no difference, and neither does it which of `send_command_succ` and `check_for_input`
reads a line. What they hand to `lcd_process_response` is the lines of the stream that are
not empty (`Receiving.passed_of_reachableBy`). Where a whole line has arrived, that is what
`sockRecvString` makes of it at once (`Receiving.exists_read_line`).

There are two exceptions. A line that does not fit is handed on in parts, and the byte
that would have been the last of a part is overwritten by its terminator. And when the
connection is closed in mid-line, what was read of it is handed on without a terminator:
the string goes on with whatever the buffer held before.
-/

/-- `BUFSIZ` -/
def bufsiz : ℕ := 8192

/-- **The string in a buffer** from a place on, with so much room to the end of the
array. -/
def cString (buffer : ℕ → Char) : ℕ → ℕ → Str
  | 0, _ => []
  | room + 1, i => if buffer i = '\x00' then [] else buffer i :: cString buffer room (i + 1)

/-- How `read (fd, ptr, 1)` ends. -/
inductive ReadResult where
  /-- With a byte. -/
  | byte
  /-- `EAGAIN` -/
  | again
  /-- `0`: the connection was closed. -/
  | eof
  /-- Another error. -/
  | error
  deriving DecidableEq, Repr

/-- **The service thread at its connection to the server.** -/
structure Receiving (β : Type) where
  /-- The service thread. -/
  loop : ServiceLoop β
  /-- What `dest` points to. -/
  buffer : ℕ → Char
  /-- `recvBytes`, and `0` outside of `sock_recv_string` -/
  recvBytes : ℕ
  /-- What the server has sent. -/
  sent : Str
  /-- What was read of it. -/
  read : Str
  /-- The server has closed the connection. -/
  closed : Bool
  /-- The strings that `lcd_process_response` was called with. -/
  passed : List Str

/-- **What can happen next.** -/
inductive ReceivingAct (β : Type) where
  /-- The service thread reads. -/
  | read (result : ReadResult)
  /-- It does something else. -/
  | go (gExit : Bool) (input : LoopInput)
  /-- Something else is written where the buffer is: another function has used that part
  of the stack, or `get_args` has cut up the line. -/
  | overwrite (buffer : ℕ → Char)
  /-- A module registers. -/
  | register (client : Client) (cookie : Option β)
  /-- A module unregisters. -/
  | unregister (name : Str)
  /-- The server sends something. -/
  | send (bytes : Str)
  /-- It closes the connection. -/
  | close

/-- The string that `lcd_process_response` is called with. -/
def Received.string : Received → List Str
  | .line string => [string]
  | .nothing | .failed => []

namespace Receiving

variable {β : Type}

/-- `sock_recv_string` returns. -/
def returns (s : Receiving β) (received : Received) : Option (Receiving β) :=
  (s.loop.step false (.received received)).map (fun loop =>
    { s with loop := loop, recvBytes := 0, passed := s.passed ++ received.string })

/-- A byte was read. -/
def recvByte (s : Receiving β) (c : Char) : Option (Receiving β) :=
  let buffer := Function.update s.buffer s.recvBytes c
  let recvBytes := s.recvBytes + 1
  let s := { s with read := s.read ++ [c] }
  if recvBytes = recvMaxlen ∨ c = '\x00' ∨ c = '\n' then
    let buffer := Function.update buffer s.recvBytes '\x00'
    if recvBytes = 1 ∧ buffer 0 = '\x00' then returns { s with buffer := buffer } .nothing
    else
      let buffer :=
        if recvBytes < recvMaxlen - 1 then Function.update buffer recvBytes '\x00' else buffer
      returns { s with buffer := buffer } (.line (cString buffer bufsiz 0))
  else some { s with buffer := buffer, recvBytes := recvBytes }

/-- **A step**: in the loop of `sock_recv_string`, or anywhere else. -/
def step (s : Receiving β) : ReceivingAct β → Option (Receiving β)
  | .read result =>
    match s.loop.pc, result with
    | .receive _, .byte => s.sent[s.read.length]?.bind s.recvByte
    | .receive _, .again => if s.recvBytes ≠ 0 then some s else s.returns .nothing
    | .receive _, .eof =>
      if s.closed ∧ s.read.length = s.sent.length then
        s.returns (if s.recvBytes = 0 then .nothing else .line (cString s.buffer bufsiz 0))
      else none
    | .receive _, .error => s.returns .failed
    | _, _ => none
  | .go gExit input =>
    match input with
    | .received _ => none
    | _ => (s.loop.step gExit input).map (fun loop => { s with loop := loop })
  | .overwrite buffer => if s.recvBytes = 0 then some { s with buffer := buffer } else none
  | .register client cookie => some { s with
      loop := { s.loop with svc := s.loop.svc.insertClient client cookie } }
  | .unregister name => some { s with
      loop := { s.loop with svc := s.loop.svc.removeClient name } }
  | .send bytes =>
    if s.closed = false ∧ '\x00' ∉ bytes then some { s with sent := s.sent ++ bytes } else none
  | .close => some { s with closed := true }

end Receiving

/-- **The service thread and a server** that sends what it likes, but for NULs. -/
def receiving (β : Type) : StepSystem (Receiving β) (ReceivingAct β) :=
  ⟨⟨.init, fun _ => '\x00', 0, [], [], false, []⟩, Receiving.step⟩

/-! ## The buffer -/

/-- The buffer holds a text from a place on. -/
def Holds (buffer : ℕ → Char) (i : ℕ) (text : Str) : Prop :=
  ∀ j c, text[j]? = some c → buffer (i + j) = c

/-- **A text with a terminator behind it is a string.** -/
theorem cString_eq {buffer : ℕ → Char} {text : Str} {room i : ℕ} (hnul : '\x00' ∉ text)
    (hroom : text.length < room) (htext : Holds buffer i text)
    (hend : buffer (i + text.length) = '\x00') : cString buffer room i = text := by
  induction text generalizing room i with
  | nil =>
    obtain ⟨room, rfl⟩ := Nat.exists_eq_succ_of_ne_zero (Nat.ne_of_gt hroom)
    exact if_pos hend
  | cons c text ih =>
    obtain ⟨room, rfl⟩ := Nat.exists_eq_succ_of_ne_zero (Nat.ne_of_gt (Nat.zero_lt_of_lt hroom))
    rw [List.mem_cons, not_or] at hnul
    have hc : buffer i = c := htext 0 c rfl
    rw [cString, hc, if_neg (Ne.symm hnul.1)]
    refine congrArg (c :: ·) (ih hnul.2 (Nat.lt_of_succ_lt_succ hroom) (fun j d hd => ?_) ?_)
    · rw [Nat.add_assoc, Nat.add_comm 1 j]
      exact htext (j + 1) d hd
    · rw [Nat.add_assoc, Nat.add_comm 1]
      exact hend

/-- What is written behind a text does not change it. -/
theorem Holds.update {buffer : ℕ → Char} {text : Str} (h : Holds buffer 0 text) {k : ℕ}
    (hk : text.length ≤ k) (c : Char) : Holds (Function.update buffer k c) 0 text := by
  intro j d hd
  have hj := (List.getElem?_eq_some_iff.mp hd).1
  rw [Function.update_of_ne (by omega)]
  exact h j d hd

/-- What is written right behind it makes it longer. -/
theorem Holds.append {buffer : ℕ → Char} {text : Str} (h : Holds buffer 0 text) (c : Char) :
    Holds (Function.update buffer text.length c) 0 (text ++ [c]) := by
  intro j d hd
  rcases Nat.lt_or_ge j text.length with hj | hj
  · rw [List.getElem?_append_left hj] at hd
    exact h.update (Nat.le_refl _) c j d hd
  · rw [List.getElem?_append_right hj] at hd
    obtain ⟨hlt, rfl⟩ := List.getElem?_eq_some_iff.mp hd
    have hj : j = text.length := by
      rw [List.length_singleton] at hlt
      omega
    subst hj
    rw [Nat.zero_add, Function.update_self, List.getElem_singleton]

/-- **A line is terminated** where its line feed was, and once more behind that. -/
theorem cString_line {buffer : ℕ → Char} {line : Str} (hbuffer : Holds buffer 0 line)
    (hnul : '\x00' ∉ line) (hlength : line.length < bufsiz) (c : Char) (p : Prop) [Decidable p] :
    cString (if p then
        Function.update (Function.update (Function.update buffer line.length c) line.length
          '\x00') (line.length + 1) '\x00'
      else Function.update (Function.update buffer line.length c) line.length '\x00')
      bufsiz 0 = line := by
  have hline := (hbuffer.update (Nat.le_refl _) c).update (Nat.le_refl _) '\x00'
  split
  · refine cString_eq hnul hlength (hline.update (Nat.le_succ _) '\x00') ?_
    rw [Nat.zero_add, Function.update_of_ne (Nat.ne_of_lt (Nat.lt_succ_self _)),
      Function.update_self]
  · refine cString_eq hnul hlength hline ?_
    rw [Nat.zero_add, Function.update_self]

/-- The next byte of a stream goes with those in front of it. -/
theorem prefix_of_getElem? {read sent : Str} {c : Char} (hread : read <+: sent)
    (hc : sent[read.length]? = some c) : read ++ [c] <+: sent := by
  obtain ⟨rest, rfl⟩ := hread
  rw [List.getElem?_append_right (Nat.le_refl _), Nat.sub_self] at hc
  cases rest with
  | nil => exact nomatch hc
  | cons d rest =>
    obtain rfl := Option.some.inj hc
    exact ⟨rest, by rw [List.append_assoc, List.singleton_append]⟩

namespace Receiving

variable {β : Type} {s s' : Receiving β}

/-! ## The lines -/

/-- **The server sends lines that fit**, it does not close the connection in mid-line,
and no other error comes up there. -/
def SendsLines (s : Receiving β) : ReceivingAct β → Prop
  | .send bytes => ∀ line ∈ (s.sent ++ bytes).splitOn '\n', line.length < recvMaxlen
  | .close => (s.sent.splitOn '\n').getLast? = some []
  | .read .error => s.recvBytes = 0
  | _ => True

/-- **What was read**: full lines, which were passed on unless they are empty, and the
beginning of one, which is in the buffer. -/
def ReadSoFar (s : Receiving β) : Prop :=
  ∃ full last, s.read.splitOn '\n' = full ++ [last] ∧ s.passed = full.filter (· ≠ [])
    ∧ s.recvBytes = last.length ∧ Holds s.buffer 0 last

/-- **The invariant.** -/
structure Linewise (s : Receiving β) : Prop where
  /-- What was read was sent. -/
  read : s.read <+: s.sent
  /-- No NUL was. -/
  nul : '\x00' ∉ s.sent
  /-- The lines fit. -/
  short : ∀ line ∈ s.sent.splitOn '\n', line.length < recvMaxlen
  /-- The connection is closed behind a line. -/
  closed : s.closed = true → (s.sent.splitOn '\n').getLast? = some []
  /-- What was read. -/
  soFar : ReadSoFar s

/-- What the thread does with its tables is of no account. -/
theorem Linewise.loop (hs : Linewise s) (loop : ServiceLoop β) :
    Linewise { s with loop := loop } := { hs with }

/-- In front of a line nothing is in the buffer that would matter. -/
theorem ReadSoFar.last_eq_nil (h : ReadSoFar s) (hrecv : s.recvBytes = 0) :
    ∃ full, s.read.splitOn '\n' = full ++ [[]] ∧ s.passed = full.filter (· ≠ []) := by
  obtain ⟨full, last, hread, hpassed, hlast, -⟩ := h
  obtain rfl := List.eq_nil_of_length_eq_zero (hlast.symm.trans hrecv)
  exact ⟨full, hread, hpassed⟩

/-- **A function that returns at the end of a line** passes on what it has read. -/
theorem Linewise.returns (hs : Linewise s) {read : Str} {buffer : ℕ → Char}
    {full : List Str} {received : Received} (hread : read <+: s.sent)
    (hfull : read.splitOn '\n' = full ++ [[]])
    (hpassed : s.passed ++ received.string = full.filter (· ≠ []))
    (h : Receiving.returns { s with read := read, buffer := buffer } received = some s') :
    Linewise s' := by
  obtain ⟨loop, -, rfl⟩ := Option.map_eq_some_iff.mp h
  exact { hs with read := hread, soFar := ⟨full, [], hfull, hpassed, rfl, nofun⟩ }

/-- One that returns nothing leaves it as it is. -/
theorem Linewise.returns_nothing (hs : Linewise s) (hrecv : s.recvBytes = 0)
    {received : Received} (hreceived : received.string = [])
    (h : s.returns received = some s') : Linewise s' := by
  obtain ⟨full, hfull, hpassed⟩ := hs.soFar.last_eq_nil hrecv
  refine hs.returns hs.read hfull ?_ h
  rw [hreceived, List.append_nil, hpassed]

/-- What was read of a line fits. -/
theorem Linewise.length_lt (hs : Linewise s) {read : Str} (hread : read <+: s.sent)
    {full : List Str} {last : Str} (hsplit : read.splitOn '\n' = full ++ [last]) :
    last.length < recvMaxlen := by
  obtain ⟨rest, hsent⟩ := hread
  obtain ⟨piece, hpiece, hprefix⟩ := LineBreaks.exists_mem_splitOn_append hsplit rest
  rw [hsent] at hpiece
  exact Nat.lt_of_le_of_lt hprefix.length_le (hs.short piece hpiece)

/-- **A byte is read**: it ends its line, or makes what was read of it longer. -/
theorem linewise_recvByte (hs : Linewise s) {c : Char} (hc : s.read ++ [c] <+: s.sent)
    (h : s.recvByte c = some s') : Linewise s' := by
  obtain ⟨full, last, hread, hpassed, hrecv, hbuffer⟩ := hs.soFar
  have hnul : '\x00' ∉ s.read ++ [c] := fun hmem => hs.nul (hc.subset hmem)
  unfold recvByte at h
  dsimp only at h
  rw [hrecv] at h
  by_cases hfeed : c = '\n'
  · subst hfeed
    have hfull := LineBreaks.splitOn_append_self hread
    rw [if_pos (.inr (.inr rfl))] at h
    split at h
    · next hempty =>
      obtain rfl : last = [] := List.eq_nil_of_length_eq_zero (by omega)
      refine hs.returns hc hfull ?_ h
      rw [hpassed, List.filter_append]
      rfl
    · next hline =>
      have hne : last ≠ [] := by
        rintro rfl
        exact hline ⟨rfl, Function.update_self ..⟩
      have hlast : last ∈ s.read.splitOn '\n' := by
        rw [hread]
        exact List.mem_append_right _ (List.mem_singleton_self _)
      have hlastNul : '\x00' ∉ last := fun hmem =>
        hnul (List.mem_append_left _ ((infix_of_mem_splitOn hlast).subset hmem))
      have hlength : last.length < bufsiz := Nat.lt_succ_of_lt (hs.length_lt hs.read hread)
      refine hs.returns hc hfull ?_ h
      have hkept : [last].filter (· ≠ []) = [last] :=
        List.filter_cons_of_pos (decide_eq_true hne)
      rw [cString_line hbuffer hlastNul hlength, hpassed, List.filter_append, hkept]
      rfl
  · have hsplit := LineBreaks.splitOn_append_of_ne hread hfeed
    have hlength := hs.length_lt hc hsplit
    rw [List.length_append, List.length_singleton] at hlength
    have hne : c ≠ '\x00' := fun he =>
      hnul (List.mem_append_right _ (List.mem_singleton.mpr he.symm))
    rw [if_neg (by
      rintro (hfull | hfull | hfull)
      · omega
      · exact hne hfull
      · exact hfeed hfull)] at h
    obtain rfl := Option.some.inj h
    exact { hs with
      read := hc
      soFar := ⟨full, last ++ [c], hsplit, hpassed, by rw [List.length_append]; rfl,
        hbuffer.append c⟩ }

/-- **Every step keeps the lines whole** under the condition. -/
theorem linewise_step (hs : Linewise s) {act : ReceivingAct β} (hact : SendsLines s act)
    (h : s.step act = some s') : Linewise s' := by
  cases act with
  | read result =>
    unfold step at h
    dsimp only at h
    split at h
    · obtain ⟨c, hc, hbyte⟩ := Option.bind_eq_some_iff.mp h
      exact linewise_recvByte hs (prefix_of_getElem? hs.read hc) hbyte
    · split at h
      · exact Option.some.inj h ▸ hs
      · next hrecv => exact hs.returns_nothing (not_not.mp hrecv) rfl h
    · split at h
      · next hend =>
        -- the last byte that was sent has ended a line
        obtain ⟨full, last, hread, -, hrecv, -⟩ := hs.soFar
        have hclosed := hs.closed hend.1
        rw [← hs.read.eq_of_length hend.2, hread, List.getLast?_concat] at hclosed
        have hzero : s.recvBytes = 0 := by
          rw [hrecv, Option.some.inj hclosed]
          rfl
        rw [if_pos hzero] at h
        exact hs.returns_nothing hzero rfl h
      · exact nomatch h
    · exact hs.returns_nothing hact rfl h
    · exact nomatch h
  | go gExit input =>
    unfold step at h
    dsimp only at h
    split at h
    · exact nomatch h
    · obtain ⟨loop, -, rfl⟩ := Option.map_eq_some_iff.mp h
      exact hs.loop loop
  | overwrite buffer =>
    unfold step at h
    dsimp only at h
    split at h
    · next hrecv =>
      obtain rfl := Option.some.inj h
      obtain ⟨full, hfull, hpassed⟩ := hs.soFar.last_eq_nil hrecv
      exact { hs with soFar := ⟨full, [], hfull, hpassed, hrecv, nofun⟩ }
    · exact nomatch h
  | register client cookie => exact Option.some.inj h ▸ hs.loop _
  | unregister name => exact Option.some.inj h ▸ hs.loop _
  | send bytes =>
    unfold step at h
    dsimp only at h
    split at h
    · next hbytes =>
      obtain rfl := Option.some.inj h
      exact { hs with
        read := hs.read.trans (List.prefix_append ..)
        nul := by
          rw [List.mem_append, not_or]
          exact ⟨hs.nul, hbytes.2⟩
        short := hact
        closed := fun hclosed => nomatch hbytes.1.symm.trans hclosed }
    · exact nomatch h
  | close =>
    obtain rfl := Option.some.inj h
    exact { hs with closed := fun _ => hact }

theorem linewise_init : Linewise (receiving β).init where
  read := List.prefix_rfl
  nul := List.not_mem_nil
  short := fun _ h => List.mem_singleton.mp h ▸ Nat.zero_lt_succ _
  closed := nofun
  soFar := ⟨[], [], rfl, rfl, rfl, nofun⟩

/-- **What is passed on is the lines that were read**, in their order, each whole, the
empty ones left out, in every run in which the server sends lines that fit and does not
close the connection in mid-line. -/
theorem passed_of_reachableBy {β : Type} {s : Receiving β}
    (hs : (receiving β).ReachableBy SendsLines s) :
    s.read <+: s.sent ∧ s.passed = (textLines s.read).filter (· ≠ []) := by
  have hlinewise : Linewise s := hs.invariant Linewise linewise_init
    (fun _ _ _ hI hact h => linewise_step hI hact h)
  obtain ⟨full, last, hread, hpassed, -⟩ := hlinewise.soFar
  refine ⟨hlinewise.read, ?_⟩
  rw [textLines, hread, List.dropLast_concat]
  exact hpassed

instance (s : Receiving β) (act : ReceivingAct β) : Decidable (SendsLines s act) :=
  match act with
  | .send bytes =>
    inferInstanceAs (Decidable (∀ line ∈ (s.sent ++ bytes).splitOn '\n',
      line.length < recvMaxlen))
  | .close => inferInstanceAs (Decidable ((s.sent.splitOn '\n').getLast? = some []))
  | .read .error => inferInstanceAs (Decidable (s.recvBytes = 0))
  | .read .byte | .read .again | .read .eof | .go .. | .overwrite _ | .register ..
  | .unregister _ => isTrue trivial

/-- An answer arrives in two parts, and an empty line behind it. -/
theorem passed_of_reachableBy_parts :
    ∃ s, (receiving ℕ).ReachableBy SendsLines s ∧ s.read = "success\n\n".toList
      ∧ s.passed = ["success".toList]
      ∧ s.read <+: s.sent ∧ s.passed = (textLines s.read).filter (· ≠ []) := by
  let run := (receiving ℕ).replay SendsLines (receiving ℕ).init
    ([.go false .go, .go false (.popped (some "noop\n".toList)), .go false (.sent true),
      .read .again, .send "succ".toList] ++ List.replicate 4 (.read .byte)
      ++ [.read .again, .send "ess\n\n".toList, .close] ++ List.replicate 4 (.read .byte)
      ++ [.go false (.packet none), .go false .go, .go false (.popped none), .read .byte])
  have hrun : run.map (fun s => decide (s.read = "success\n\n".toList
      ∧ s.passed = ["success".toList])) = some true := by decide +kernel
  obtain ⟨s, hs, hstate⟩ := StepSystem.exists_reachableBy_of_replay hrun
  obtain ⟨hread, hpassed⟩ := of_decide_eq_true hstate
  exact ⟨s, hs, hread, hpassed, passed_of_reachableBy hs⟩

/-- The connection is closed in mid-line, and what the buffer held before is passed on
with what was read. -/
theorem not_forall_passed :
    ¬ ∀ s : Receiving ℕ, (receiving ℕ).Reachable s →
      s.passed = (textLines s.read).filter (· ≠ []) := by
  intro h
  let run := (receiving ℕ).replayAny (receiving ℕ).init
    [.go false .go, .go false (.popped none),
      .overwrite (fun i => if i < 5 then 'x' else '\x00'), .send "huh".toList, .close,
      .read .byte, .read .byte, .read .byte, .read .eof]
  have hrun : run.map (fun s => decide (s.read = "huh".toList
      ∧ s.passed = ["huhxx".toList])) = some true := by decide +kernel
  obtain ⟨s, hs, hstate⟩ := StepSystem.exists_reachableBy_of_replay hrun
  obtain ⟨hread, hpassed⟩ := of_decide_eq_true hstate
  have hlines := h s hs
  rw [hread, hpassed] at hlines
  exact absurd hlines (by decide)

/-! ## A line that has arrived -/

/-- The bytes of a line are read one after the other. -/
theorem exists_read_bytes {reader : Reader} {done text rest : Str}
    (hpc : s.loop.pc = .receive reader) (hsent : s.sent = s.read ++ (text ++ rest))
    (htext : IsLine text) (hrecv : s.recvBytes = done.length) (hbuffer : Holds s.buffer 0 done)
    (hlength : done.length + text.length < recvMaxlen) :
    ∃ buffer, Holds buffer 0 (done ++ text) ∧ ((receiving β).after s).Reachable { s with
      read := s.read ++ text
      buffer := buffer
      recvBytes := (done ++ text).length } := by
  induction text generalizing s done with
  | nil =>
    rw [List.append_nil, List.append_nil]
    refine ⟨s.buffer, hbuffer, ?_⟩
    rw [← hrecv]
    exact .init
  | cons c text ih =>
    obtain ⟨hnul, hfeed⟩ := htext c (List.mem_cons_self ..)
    rw [List.length_cons] at hlength
    have hc : s.sent[s.read.length]? = some c := by
      rw [hsent, List.getElem?_append_right (Nat.le_refl _), Nat.sub_self]
      rfl
    let t : Receiving β := { s with
      read := s.read ++ [c]
      buffer := Function.update s.buffer done.length c
      recvBytes := done.length + 1 }
    have hbyte : ((receiving β).after s).step s (.read .byte) = some t := by
      show s.step (.read .byte) = some t
      unfold step
      dsimp only
      rw [hpc]
      dsimp only
      rw [hc, Option.bind_some, recvByte]
      dsimp only
      rw [hrecv, if_neg (by
        rintro (h | h | h)
        · omega
        · exact hnul h
        · exact hfeed h)]
    have hdone : (done ++ [c]).length = done.length + 1 := List.length_append ..
    have ht : t.sent = t.read ++ (text ++ rest) := by
      show s.sent = s.read ++ [c] ++ (text ++ rest)
      rw [hsent, List.append_assoc]
      rfl
    obtain ⟨buffer, hholds, hreach⟩ := ih (s := t) hpc ht
      (fun d hd => htext d (List.mem_cons_of_mem c hd)) hdone.symm (hbuffer.append c)
      (by rw [hdone]; omega)
    have hread : s.read ++ c :: text = t.read ++ text := by
      show s.read ++ c :: text = s.read ++ [c] ++ text
      rw [List.append_assoc]
      rfl
    rw [List.append_assoc] at hholds hreach
    rw [hread]
    exact ⟨buffer, hholds, StepSystem.Reachable.trans (.step .init trivial hbyte) hreach⟩

/-- **A line that has arrived is read as a whole**: byte by byte the service thread
comes to what `sockRecvString` leads to at once. -/
theorem exists_read_line {reader : Reader} {line rest wire : Str} {received : Received}
    {loop : ServiceLoop β} (hpc : s.loop.pc = .receive reader) (hrecv : s.recvBytes = 0)
    (hsent : s.sent = s.read ++ (line ++ '\n' :: rest)) (hline : IsLine line)
    (hlength : line.length < recvMaxlen)
    (hwhole : sockRecvString recvMaxlen (line ++ '\n' :: rest) = some (received, wire))
    (hloop : s.loop.step false (.received received) = some loop) :
    ∃ s', ((receiving β).after s).Reachable s' ∧ s'.loop = loop ∧ s'.recvBytes = 0
      ∧ s'.sent = s'.read ++ wire ∧ s'.passed = s.passed ++ received.string := by
  rw [sockRecvString_line hline hlength] at hwhole
  obtain ⟨rfl, rfl⟩ := Prod.mk.inj (Option.some.inj hwhole)
  obtain ⟨buffer, hholds, hreach⟩ := @exists_read_bytes β s reader [] line ('\n' :: rest) hpc
    hsent hline hrecv nofun (by rw [List.length_nil]; omega)
  rw [List.nil_append] at hholds hreach
  have hfeed : s.sent[(s.read ++ line).length]? = some '\n' := by
    rw [hsent, ← List.append_assoc, List.getElem?_append_right (Nat.le_refl _), Nat.sub_self]
    rfl
  have hnul : '\x00' ∉ line := fun h => (hline _ h).1 rfl
  let t : Receiving β := { s with
    read := s.read ++ line, buffer := buffer, recvBytes := line.length }
  have hlast : ∃ s', ((receiving β).after s).step t (.read .byte) = some s' ∧ s'.loop = loop
      ∧ s'.recvBytes = 0 ∧ s'.read = t.read ++ ['\n'] ∧ s'.sent = t.sent
      ∧ s'.passed = t.passed ++ (if line = [] then Received.nothing else .line line).string := by
    show ∃ s', t.step (.read .byte) = some s' ∧ _
    unfold step
    dsimp only [t]
    rw [hpc]
    dsimp only
    rw [hfeed, Option.bind_some, recvByte]
    dsimp only
    rw [if_pos (.inr (.inr rfl)), cString_line hholds hnul (Nat.lt_succ_of_lt hlength)]
    cases line with
    | nil =>
      rw [if_pos rfl] at hloop
      rw [if_pos ⟨rfl, Function.update_self ..⟩, returns, hloop]
      exact ⟨_, rfl, rfl, rfl, rfl, rfl, rfl⟩
    | cons c line =>
      rw [if_neg (List.cons_ne_nil c line)] at hloop
      rw [if_neg (fun h => nomatch h.1), returns, hloop]
      exact ⟨_, rfl, rfl, rfl, rfl, rfl, rfl⟩
  obtain ⟨s', hstep, hloop', hrecv', hread', hsent', hpassed'⟩ := hlast
  refine ⟨s', .step hreach trivial hstep, hloop', hrecv', ?_, hpassed'⟩
  rw [hsent', hread']
  show s.sent = s.read ++ line ++ ['\n'] ++ rest
  rw [hsent, List.append_assoc, List.append_assoc]
  rfl

end Receiving
