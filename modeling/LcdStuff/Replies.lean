import LcdStuff.Sockets
import LcdStuff.ServiceLoop
import Mathlib.Logic.Relation

/-!
# The reply to a command

`send_command_succ` of the service thread sends a command and polls ten times for its reply,
with `lcd_process_response` looking at each line. What it returns tells the loop of the
service thread whether the server is still there. `err`, what sending has returned, is also
what it returns where it could not receive; it is not negative then, and the same holds for
`send_command` of the handshake (`neg_iff_not_readFails`).

`ServiceLoop` has the same polls as steps of the thread, with what was received as an input
of each step. Here that comes from the socket, and the steps are those of the function
(`polls_of_sendCommandSucc`).
-/

/-- A call of `write` fails, of the first ones. -/
def WriteFails (writes : ℕ → WriteAnswer) (calls : ℕ) : Prop := ∃ k < calls, writes k = .error

/-- A call of `read` fails, of the first ones. -/
def ReadFails (reads : ℕ → ReadAnswer) (calls : ℕ) : Prop := ∃ k < calls, reads k = .error

/-- What `send_command_succ` returns for a response, unless it goes on. -/
def ProcessResponse.result : ProcessResponse → Option Int
  | .success => some 0
  | .failure => some (-1)
  | .callback => none
  | .invalid => some (-1)
  | .errMisc => some (-1)

/-- The reply is a rejection, or no valid line. -/
def ProcessResponse.Rejects (response : ProcessResponse) : Prop :=
  response ≠ .success ∧ response ≠ .callback

/-- **`send_command_succ` on its way**, with what `lcd_process_response` has returned. -/
structure Polled (β : Type) where
  /-- `loopcount` -/
  loopcount : ℕ
  /-- The calls of `read`, and `buffer`. -/
  input : SockInput
  /-- The tables. -/
  svc : ServiceThread β
  /-- The responses so far. -/
  responses : List ProcessResponse

section send_command_succ

variable {β : Type}

/-- The next round, before which the callback and the other threads do to the tables what
they do. -/
def Polled.next (others : ℕ → ServiceThread β → ServiceThread β) (s : Polled β) : Polled β :=
  { s with loopcount := s.loopcount + 1, svc := others s.loopcount s.svc }

/-- What `send_command_succ` does with what `sock_recv_string` has returned. -/
def sendCommandSuccReceived (others : ℕ → ServiceThread β → ServiceThread β) (err : Int)
    (s : Polled β) (r : Int × SockInput) : Polled β ⊕ Except Fault (Int × Polled β) :=
  let s := { s with input := r.2 }
  if r.1 < 0 then .inr (.ok (err, s))
  else if 0 < r.1 then
    match s.svc.lcdProcessResponse (cString r.2.dest bufsiz 0) with
    | .error fault => .inr (.error fault)
    | .ok (response, svc, _) =>
      let s := { s with svc := svc, responses := s.responses ++ [response] }
      match response.result with
      | some result => .inr (.ok (result, s))
      | none => .inl (s.next others)
  else .inl (s.next others)

/-- A round of `send_command_succ`, with what `sock_send_string` has returned. -/
def sendCommandSuccBody (fuel : ℕ) (reads : ℕ → ReadAnswer)
    (others : ℕ → ServiceThread β → ServiceThread β) (err : Int) (s : Polled β) :
    Option (Polled β ⊕ Except Fault (Int × Polled β)) :=
  if s.loopcount < 10 then
    (sockRecvFrom fuel reads recvMaxlen s.input).map (sendCommandSuccReceived others err s)
  else some (.inr (.ok (0, s)))

/-- **`send_command_succ`**: its result, the calls of `write`, and what it has polled. -/
def sendCommandSucc (fuel : ℕ) (writes : ℕ → WriteAnswer) (reads : ℕ → ReadAnswer)
    (others : ℕ → ServiceThread β → ServiceThread β) (svc : ServiceThread β)
    (buffer : ℕ → Char) (command : Str) : Option (Except Fault (Int × ℕ × Polled β)) :=
  (sockSendString fuel writes command).bind (fun w =>
    if w.1 < 0 then some (.ok (w.1, w.2, ⟨0, ⟨0, buffer⟩, svc, []⟩))
    else
      (Loop.run (sendCommandSuccBody fuel reads others w.1) fuel ⟨0, ⟨0, buffer⟩, svc, []⟩).map
        (fun r => r.map (fun q => (q.1, w.2, q.2))))

end send_command_succ

/-! ## What fails -/

section fails

variable {writes : ℕ → WriteAnswer} {reads : ℕ → ReadAnswer} {n : ℕ}

theorem not_readFails_zero : ¬ ReadFails reads 0 := fun ⟨_, hk, _⟩ => Nat.not_lt_zero _ hk

theorem readFails_succ : ReadFails reads (n + 1) ↔ ReadFails reads n ∨ reads n = .error := by
  constructor
  · rintro ⟨k, hk, hread⟩
    rcases Nat.lt_succ_iff_lt_or_eq.mp hk with hk | rfl
    · exact .inl ⟨k, hk, hread⟩
    · exact .inr hread
  · rintro (⟨k, hk, hread⟩ | hread)
    · exact ⟨k, Nat.lt_succ_of_lt hk, hread⟩
    · exact ⟨n, Nat.lt_succ_self n, hread⟩

theorem not_writeFails_zero : ¬ WriteFails writes 0 := fun ⟨_, hk, _⟩ => Nat.not_lt_zero _ hk

theorem writeFails_succ : WriteFails writes (n + 1) ↔ WriteFails writes n ∨ writes n = .error := by
  constructor
  · rintro ⟨k, hk, hwrite⟩
    rcases Nat.lt_succ_iff_lt_or_eq.mp hk with hk | rfl
    · exact .inl ⟨k, hk, hwrite⟩
    · exact .inr hwrite
  · rintro (⟨k, hk, hwrite⟩ | hwrite)
    · exact ⟨k, Nat.lt_succ_of_lt hk, hwrite⟩
    · exact ⟨n, Nat.lt_succ_self n, hwrite⟩

/-- **`sock_send` returns `-1` for a call of `write` that fails.** -/
theorem sockSendString_neg {fuel calls : ℕ} {string : Str} {ret : Int}
    (h : sockSendString fuel writes string = some (ret, calls)) (hfails : WriteFails writes calls) :
    ret < 0 := by
  have hpost := Loop.run_invariant (fun s : ℕ × ℕ => ¬ WriteFails writes s.2)
    (fun r => WriteFails writes r.2 → r.1 < 0) ?_ ?_ not_writeFails_zero h
  · exact hpost hfails
  · intro s s' hs hround
    unfold sockSendBody at hround
    split at hround
    · exact nomatch hround
    cases hwrite : writes s.2 with
    | error =>
      rw [hwrite] at hround
      exact nomatch hround
    | again =>
      rw [hwrite] at hround
      obtain rfl := Sum.inl.inj (Option.some.inj hround)
      rw [writeFails_succ, hwrite]
      exact not_or.mpr ⟨hs, nofun⟩
    | taken bytes =>
      rw [hwrite] at hround
      dsimp only at hround
      split at hround
      · exact nomatch hround
      obtain rfl := Sum.inl.inj (Option.some.inj hround)
      rw [writeFails_succ, hwrite]
      exact not_or.mpr ⟨hs, nofun⟩
  · intro s r hs hround hfails
    unfold sockSendBody at hround
    split at hround
    · obtain rfl := Sum.inr.inj (Option.some.inj hround)
      exact absurd hfails hs
    cases hwrite : writes s.2 with
    | error =>
      rw [hwrite] at hround
      obtain rfl := Sum.inr.inj (Option.some.inj hround)
      exact Int.negSucc_lt_zero 0
    | again =>
      rw [hwrite] at hround
      exact nomatch hround
    | taken bytes =>
      rw [hwrite] at hround
      dsimp only at hround
      split at hround
      · obtain rfl := Sum.inr.inj (Option.some.inj hround)
        rw [writeFails_succ, hwrite] at hfails
        exact absurd hfails (not_or.mpr ⟨hs, nofun⟩)
      · exact nomatch hround

/-- A byte that was read is no failure. -/
theorem sockRecvByte_calls (maxlen : ℕ) (s : SockInput) (recvBytes : ℕ) (c : Char) :
    (sockRecvByte maxlen s recvBytes c).elim (fun t => t.1.calls = s.calls)
      (fun r => r.2.calls = s.calls ∧ 0 ≤ r.1) := by
  unfold sockRecvByte
  dsimp only
  split
  · split
    · exact ⟨rfl, Int.le_refl 0⟩
    · exact ⟨rfl, Int.le_add_one (Int.natCast_nonneg recvBytes)⟩
  · rfl

/-- **A round of `sock_recv_string`** fails with its call of `read`. -/
theorem sockRecvBody_calls {maxlen : ℕ} {s : SockInput × ℕ}
    {r : (SockInput × ℕ) ⊕ (Int × SockInput)} (h : sockRecvBody reads maxlen s = some r) :
    r.elim (fun t => t.1.calls = s.1.calls + 1 ∧ reads s.1.calls ≠ .error)
      (fun q => q.2.calls = s.1.calls + 1 ∧ (q.1 < 0 ↔ reads s.1.calls = .error)) := by
  unfold sockRecvBody at h
  dsimp only at h
  cases hread : reads s.1.calls with
  | again =>
    rw [hread] at h
    obtain rfl := Option.some.inj h
    split
    · exact ⟨rfl, nofun⟩
    · exact ⟨rfl, iff_of_false (Int.lt_irrefl 0) nofun⟩
  | error =>
    rw [hread] at h
    obtain rfl := Option.some.inj h
    exact ⟨rfl, iff_of_true (Int.negSucc_lt_zero 0) rfl⟩
  | eof =>
    rw [hread] at h
    obtain rfl := Option.some.inj h
    exact ⟨rfl, iff_of_false (Int.not_lt.mpr (Int.natCast_nonneg s.2)) nofun⟩
  | byte c =>
    rw [hread] at h
    obtain rfl := Option.some.inj h
    have hbyte := sockRecvByte_calls maxlen { s.1 with calls := s.1.calls + 1 } s.2 c
    cases hround : sockRecvByte maxlen { s.1 with calls := s.1.calls + 1 } s.2 c with
    | inl t =>
      rw [hround] at hbyte
      exact ⟨hbyte, nofun⟩
    | inr q =>
      rw [hround] at hbyte
      exact ⟨hbyte.1, iff_of_false (Int.not_lt.mpr hbyte.2) nofun⟩

/-- **`sock_recv_string` returns a negative number for a call of `read` that fails**, and for
no other. -/
theorem sockRecvFrom_neg_iff {fuel maxlen : ℕ} {s : SockInput} {r : Int × SockInput}
    (h : sockRecvFrom fuel reads maxlen s = some r) (hs : ¬ ReadFails reads s.calls) :
    r.1 < 0 ↔ ReadFails reads r.2.calls := by
  refine Loop.run_invariant (fun t : SockInput × ℕ => ¬ ReadFails reads t.1.calls)
    (fun r => r.1 < 0 ↔ ReadFails reads r.2.calls) ?_ ?_ hs h
  · intro t t' ht hround
    obtain ⟨hcalls, hread⟩ := sockRecvBody_calls hround
    rw [hcalls, readFails_succ]
    exact not_or.mpr ⟨ht, hread⟩
  · intro t r ht hround
    obtain ⟨hcalls, hread⟩ := sockRecvBody_calls hround
    rw [hcalls, readFails_succ, hread]
    exact (or_iff_right ht).symm

end fails

/-! ## The sign of the result -/

section sign

variable {β : Type} {fuel : ℕ} {writes : ℕ → WriteAnswer} {reads : ℕ → ReadAnswer}
  {others : ℕ → ServiceThread β → ServiceThread β} {err : Int} {s : Polled β}

/-- **What a round of `send_command_succ` does.** -/
inductive PollTaken (fuel : ℕ) (reads : ℕ → ReadAnswer)
    (others : ℕ → ServiceThread β → ServiceThread β) (err : Int) (s : Polled β) :
    Polled β ⊕ Except Fault (Int × Polled β) → Prop
  /-- There were ten. -/
  | exhausted : ¬ s.loopcount < 10 → PollTaken fuel reads others err s (.inr (.ok (0, s)))
  /-- Nothing could be received. -/
  | failed {ret : Int} {input : SockInput} : s.loopcount < 10 →
      sockRecvFrom fuel reads recvMaxlen s.input = some (ret, input) → ret < 0 →
      PollTaken fuel reads others err s (.inr (.ok (err, { s with input := input })))
  /-- Nothing was. -/
  | silent {input : SockInput} : s.loopcount < 10 →
      sockRecvFrom fuel reads recvMaxlen s.input = some (0, input) →
      PollTaken fuel reads others err s (.inl (Polled.next others { s with input := input }))
  /-- A line is not to be looked at. -/
  | fault {ret : Int} {input : SockInput} {fault : Fault} : s.loopcount < 10 →
      sockRecvFrom fuel reads recvMaxlen s.input = some (ret, input) → 0 < ret →
      s.svc.lcdProcessResponse (cString input.dest bufsiz 0) = .error fault →
      PollTaken fuel reads others err s (.inr (.error fault))
  /-- A line is the reply. -/
  | reply {ret result : Int} {input : SockInput} {response : ProcessResponse}
      {svc : ServiceThread β} {call : Option (Callback β)} : s.loopcount < 10 →
      sockRecvFrom fuel reads recvMaxlen s.input = some (ret, input) → 0 < ret →
      s.svc.lcdProcessResponse (cString input.dest bufsiz 0) = .ok (response, svc, call) →
      response.result = some result →
      PollTaken fuel reads others err s (.inr (.ok (result, { s with
        input := input, svc := svc, responses := s.responses ++ [response] })))
  /-- A line has called a callback. -/
  | callback {ret : Int} {input : SockInput} {svc : ServiceThread β}
      {call : Option (Callback β)} : s.loopcount < 10 →
      sockRecvFrom fuel reads recvMaxlen s.input = some (ret, input) → 0 < ret →
      s.svc.lcdProcessResponse (cString input.dest bufsiz 0) = .ok (.callback, svc, call) →
      PollTaken fuel reads others err s (.inl (Polled.next others { s with
        input := input, svc := svc, responses := s.responses ++ [.callback] }))

/-- **The inversion of a round.** -/
theorem pollTaken_of_round {r : Polled β ⊕ Except Fault (Int × Polled β)}
    (h : sendCommandSuccBody fuel reads others err s = some r) :
    PollTaken fuel reads others err s r := by
  unfold sendCommandSuccBody at h
  split at h
  · next hcount =>
    obtain ⟨⟨ret, input⟩, hrecv, rfl⟩ := Option.map_eq_some_iff.mp h
    unfold sendCommandSuccReceived
    dsimp only
    by_cases hneg : ret < 0
    · rw [if_pos hneg]
      exact .failed hcount hrecv hneg
    rw [if_neg hneg]
    by_cases hpos : 0 < ret
    · rw [if_pos hpos]
      cases hresponse : s.svc.lcdProcessResponse (cString input.dest bufsiz 0) with
      | error fault => exact .fault hcount hrecv hpos hresponse
      | ok answer =>
        obtain ⟨response, svc, call⟩ := answer
        cases response with
        | callback => exact .callback hcount hrecv hpos hresponse
        | success | failure | invalid | errMisc =>
          exact .reply hcount hrecv hpos hresponse rfl
    · rw [if_neg hpos]
      obtain rfl : ret = 0 := by omega
      exact .silent hcount hrecv
  · next hcount =>
    obtain rfl := Option.some.inj h
    exact .exhausted hcount

/-- The sign of a reply. -/
theorem ProcessResponse.result_neg_iff {response : ProcessResponse} {result : Int}
    (h : response.result = some result) : result < 0 ↔ response.Rejects := by
  cases response with
  | callback => exact nomatch h
  | success =>
    obtain rfl := Option.some.inj h
    exact iff_of_false (Int.lt_irrefl 0) (fun h => h.1 rfl)
  | failure | invalid | errMisc =>
    obtain rfl := Option.some.inj h
    exact iff_of_true (Int.negSucc_lt_zero 0) ⟨nofun, nofun⟩

/-- No call of `read` has failed, and no line was a reply yet. -/
structure Polled.Waits (reads : ℕ → ReadAnswer) (s : Polled β) : Prop where
  /-- Nothing has failed. -/
  reads : ¬ ReadFails reads s.input.calls
  /-- Nothing was rejected. -/
  responses : ∀ response ∈ s.responses, response = .callback

/-- **The result of `send_command_succ`** behind `sock_send_string`: it is what that has
returned where a call of `read` fails; else it is negative for a line that rejects. -/
def Polled.Returned (reads : ℕ → ReadAnswer) (err : Int) :
    Except Fault (Int × Polled β) → Prop
  | .error _ => True
  | .ok (ret, s) => (ReadFails reads s.input.calls → ret = err) ∧
      (¬ ReadFails reads s.input.calls →
        (ret < 0 ↔ ∃ response ∈ s.responses, response.Rejects))

/-- Where nothing has failed the callbacks are not told from rejections. -/
theorem Polled.Waits.not_rejects (hs : s.Waits reads) :
    ¬ ∃ response ∈ s.responses, response.Rejects := by
  rintro ⟨response, hmem, -, hcallback⟩
  exact hcallback (hs.responses response hmem)

/-- What a round that goes on keeps. -/
theorem Polled.Waits.of_round {s' : Polled β} (hs : s.Waits reads)
    (h : sendCommandSuccBody fuel reads others err s = some (.inl s')) : s'.Waits reads := by
  cases pollTaken_of_round h with
  | silent _ hrecv =>
    have hneg := sockRecvFrom_neg_iff hrecv hs.reads
    exact ⟨mt hneg.mpr (Int.lt_irrefl 0), hs.responses⟩
  | callback _ hrecv hpos =>
    have hneg := sockRecvFrom_neg_iff hrecv hs.reads
    refine ⟨mt hneg.mpr (Int.lt_asymm hpos), fun response hmem => ?_⟩
    rcases List.mem_append.mp hmem with hmem | hmem
    · exact hs.responses response hmem
    · exact List.mem_singleton.mp hmem

/-- What one that does not returns. -/
theorem Polled.Waits.returned {r : Except Fault (Int × Polled β)} (hs : s.Waits reads)
    (h : sendCommandSuccBody fuel reads others err s = some (.inr r)) :
    Polled.Returned reads err r := by
  cases pollTaken_of_round h with
  | exhausted =>
    exact ⟨fun hfails => absurd hfails hs.reads,
      fun _ => iff_of_false (Int.lt_irrefl 0) hs.not_rejects⟩
  | failed _ hrecv hneg =>
    have hfails := (sockRecvFrom_neg_iff hrecv hs.reads).mp hneg
    exact ⟨fun _ => rfl, fun hnot => absurd hfails hnot⟩
  | fault => trivial
  | reply _ hrecv hpos _ hresult =>
    have hnot := mt (sockRecvFrom_neg_iff hrecv hs.reads).mpr (Int.lt_asymm hpos)
    refine ⟨fun hfails => absurd hfails hnot, fun _ => ?_⟩
    rw [ProcessResponse.result_neg_iff hresult]
    constructor
    · exact fun hrejects => ⟨_, List.mem_append_right _ (List.mem_singleton_self _), hrejects⟩
    · rintro ⟨response, hmem, hrejects⟩
      rcases List.mem_append.mp hmem with hmem | hmem
      · exact absurd ⟨response, hmem, hrejects⟩ hs.not_rejects
      · exact List.mem_singleton.mp hmem ▸ hrejects

/-- **A failure**: the command could not be sent, a call of `read` fails before a reply, or
the reply rejects the command. -/
def Polled.Fails (writes : ℕ → WriteAnswer) (reads : ℕ → ReadAnswer) (calls : ℕ)
    (s : Polled β) : Prop :=
  WriteFails writes calls ∨ ReadFails reads s.input.calls
    ∨ ∃ response ∈ s.responses, response.Rejects

/-- **The two ways in which `send_command_succ` returns**: the command could not be sent, or the
loop over the replies is left. -/
theorem of_sendCommandSucc {svc : ServiceThread β} {buffer : ℕ → Char} {command : Str}
    {ret : Int} {calls : ℕ}
    (h : sendCommandSucc fuel writes reads others svc buffer command
      = some (.ok (ret, calls, s))) :
    ∃ err, sockSendString fuel writes command = some (err, calls) ∧
      (err < 0 ∧ ret = err ∧ s = ⟨0, ⟨0, buffer⟩, svc, []⟩
        ∨ ¬ err < 0 ∧ Loop.run (sendCommandSuccBody fuel reads others err) fuel
          ⟨0, ⟨0, buffer⟩, svc, []⟩ = some (.ok (ret, s))) := by
  obtain ⟨⟨err, n⟩, hsent, h⟩ := Option.bind_eq_some_iff.mp h
  dsimp only at h
  split at h
  · next herr =>
    obtain ⟨rfl, hrest⟩ := Prod.mk.inj (Except.ok.inj (Option.some.inj h))
    obtain ⟨rfl, rfl⟩ := Prod.mk.inj hrest
    exact ⟨_, hsent, .inl ⟨herr, rfl, rfl⟩⟩
  · next herr =>
    obtain ⟨r, hrun, hr⟩ := Option.map_eq_some_iff.mp h
    cases r with
    | error => exact nomatch hr
    | ok q =>
      obtain ⟨rfl, hrest⟩ := Prod.mk.inj (Except.ok.inj hr)
      obtain ⟨rfl, rfl⟩ := Prod.mk.inj hrest
      exact ⟨err, hsent, .inr ⟨herr, hrun⟩⟩

/-- **What `send_command_succ` returns** is negative for every failure as long as no call of
`read` is one. -/
theorem sendCommandSucc_fails_iff {svc : ServiceThread β} {buffer : ℕ → Char} {command : Str}
    {ret : Int} {calls : ℕ}
    (h : sendCommandSucc fuel writes reads others svc buffer command
      = some (.ok (ret, calls, s))) :
    (s.Fails writes reads calls → ret < 0) ↔ ¬ ReadFails reads s.input.calls := by
  obtain ⟨err, hsent, ⟨herr, rfl, rfl⟩ | ⟨herr, hrun⟩⟩ := of_sendCommandSucc h
  · exact iff_of_true (fun _ => herr) not_readFails_zero
  · have hstart : Polled.Waits reads ⟨0, ⟨0, buffer⟩, svc, []⟩ :=
      ⟨not_readFails_zero, nofun⟩
    obtain ⟨hfailed, hfine⟩ : Polled.Returned reads err (.ok (ret, s)) :=
      Loop.run_invariant (Polled.Waits reads) (Polled.Returned reads err)
        (fun _ _ hs hround => hs.of_round hround) (fun _ _ hs hround => hs.returned hround)
        hstart hrun
    constructor
    · intro hret hfails
      have hneg := hret (.inr (.inl hfails))
      rw [hfailed hfails] at hneg
      exact herr hneg
    · rintro hnot (hwrite | hfails | hrejects)
      · exact absurd (sockSendString_neg hsent hwrite) herr
      · exact absurd hfails hnot
      · exact (hfine hnot).mpr hrejects

/-- A round of `send_command` that goes on has read nothing that failed. -/
theorem sendCommandBody_again {sent : Int} {t t' : SockInput}
    (h : sendCommandBody fuel reads sent t = some (.inl t')) (ht : ¬ ReadFails reads t.calls) :
    ¬ ReadFails reads t'.calls := by
  obtain ⟨q, hrecv, hq⟩ := Option.map_eq_some_iff.mp h
  have hneg := sockRecvFrom_neg_iff hrecv ht
  by_cases hlt : q.1 < 0
  · rw [if_pos hlt] at hq
    exact nomatch hq
  · rw [if_neg hlt] at hq
    split at hq
    · obtain rfl := Sum.inl.inj hq
      exact mt hneg.mpr hlt
    · exact nomatch hq

/-- One that returns gives what `sock_send_string` has returned, if it has. -/
theorem sendCommandBody_returned {sent : Int} {t : SockInput} {r : Int × SockInput}
    (h : sendCommandBody fuel reads sent t = some (.inr r)) (ht : ¬ ReadFails reads t.calls) :
    ReadFails reads r.2.calls → r.1 = sent := by
  obtain ⟨q, hrecv, hq⟩ := Option.map_eq_some_iff.mp h
  have hneg := sockRecvFrom_neg_iff hrecv ht
  by_cases hlt : q.1 < 0
  · rw [if_pos hlt] at hq
    obtain rfl := Sum.inr.inj hq
    exact fun _ => rfl
  · rw [if_neg hlt] at hq
    split at hq
    · exact nomatch hq
    · obtain rfl := Sum.inr.inj hq
      exact fun hfails => absurd (hneg.mpr hfails) hlt

/-- **What `send_command` returns** is negative for every failure as long as no call of
`read` is one. -/
theorem sendCommand_fails_iff {command : Str} {result : Option (ℕ → Char)} {ret : Int}
    {calls : ℕ} {input : Option SockInput}
    (h : sendCommand fuel writes reads command result = some (ret, calls, input)) :
    (WriteFails writes calls ∨ (∃ t ∈ input, ReadFails reads t.calls) → ret < 0)
      ↔ ¬ ∃ t ∈ input, ReadFails reads t.calls := by
  obtain ⟨⟨sent, n⟩, hsent, h⟩ := Option.bind_eq_some_iff.mp h
  obtain ⟨⟨ret', input'⟩, hreply, hr⟩ := Option.map_eq_some_iff.mp h
  obtain ⟨rfl, hrest⟩ := Prod.mk.inj hr
  obtain ⟨rfl, rfl⟩ := Prod.mk.inj hrest
  have hunread : ¬ ∃ t ∈ (none : Option SockInput), ReadFails reads t.calls := by
    rintro ⟨t, ht, -⟩
    exact absurd ht (Option.not_mem_none t)
  dsimp only at hreply ⊢
  by_cases hneg : sent < 0
  · -- nothing is read when the command could not be sent
    cases result with
    | none =>
      rw [sendCommandReply, if_pos hneg] at hreply
      obtain ⟨rfl, rfl⟩ := Prod.mk.inj (Option.some.inj hreply)
      exact iff_of_true (fun _ => hneg) hunread
    | some dest =>
      rw [sendCommandReply, if_pos hneg] at hreply
      obtain ⟨rfl, rfl⟩ := Prod.mk.inj (Option.some.inj hreply)
      refine iff_of_true (fun _ => hneg) ?_
      rintro ⟨t, ht, hfails⟩
      obtain rfl := Option.some.inj ht
      exact not_readFails_zero hfails
  · have hwrite : ¬ WriteFails writes n := fun hfails => hneg (sockSendString_neg hsent hfails)
    cases result with
    | none =>
      rw [sendCommandReply, if_neg hneg] at hreply
      obtain ⟨rfl, rfl⟩ := Prod.mk.inj (Option.some.inj hreply)
      exact iff_of_true
        (fun h => h.elim (fun h => absurd h hwrite) (fun h => absurd h hunread)) hunread
    | some dest =>
      rw [sendCommandReply_eq hneg] at hreply
      obtain ⟨q, hrun, hq⟩ := Option.map_eq_some_iff.mp hreply
      obtain ⟨rfl, rfl⟩ := Prod.mk.inj hq
      have hfailed : ReadFails reads q.2.calls → q.1 = sent :=
        Loop.run_invariant (fun t : SockInput => ¬ ReadFails reads t.calls)
          (fun r => ReadFails reads r.2.calls → r.1 = sent)
          (fun _ _ ht hround => sendCommandBody_again hround ht)
          (fun _ _ ht hround => sendCommandBody_returned hround ht) not_readFails_zero hrun
      constructor
      · rintro hret ⟨t, ht, hfails⟩
        obtain rfl := Option.some.inj ht
        have hlt := hret (.inr ⟨q.2, rfl, hfails⟩)
        rw [hfailed hfails] at hlt
        exact hneg hlt
      · rintro hnot (hfails | hfails)
        · exact absurd hfails hwrite
        · exact absurd hfails hnot

end sign

/-! ## The `noop` of the service thread -/

section noop

variable {β : Type} {fuel : ℕ} {writes : ℕ → WriteAnswer} {reads : ℕ → ReadAnswer}
  {others : ℕ → ServiceThread β → ServiceThread β}

/-- What `sock_recv_string` has returned, with what is then in the buffer. -/
def Received.of (r : Int × SockInput) : Received :=
  if r.1 < 0 then .failed else if r.1 = 0 then .nothing else .line (cString r.2.dest bufsiz 0)

/-- **A step of the service thread with its `noop`**, on what the socket answers; other
threads have the tables in between. -/
inductive Polls (writes : ℕ → WriteAnswer) (reads : ℕ → ReadAnswer) :
    ServiceLoop β × SockInput → ServiceLoop β × SockInput → Prop
  /-- The `noop` is sent. -/
  | sent {loop loop' : ServiceLoop β} {input : SockInput} {k calls : ℕ} {ret : Int} :
      sockSendString k writes "noop\n".toList = some (ret, calls) →
      loop.step false (.sent (decide (0 ≤ ret))) = some loop' →
      Polls writes reads (loop, input) (loop', input)
  /-- Something is received, or nothing. -/
  | received {loop loop' : ServiceLoop β} {input : SockInput} {k : ℕ} {r : Int × SockInput} :
      sockRecvFrom k reads recvMaxlen input = some r →
      loop.step false (.received (.of r)) = some loop' →
      Polls writes reads (loop, input) (loop', r.2)
  /-- A callback is called. -/
  | callback {loop loop' : ServiceLoop β} {input : SockInput} : loop.pc.pending.isSome = true →
      loop.step false .go = some loop' → Polls writes reads (loop, input) (loop', input)
  /-- The tables are another thread's. -/
  | tables {loop : ServiceLoop β} {input : SockInput} (svc : ServiceThread β) :
      Polls writes reads (loop, input) ({ loop with svc := svc }, input)

/-- The steps of the service thread with its `noop`. -/
abbrev PollsTo (writes : ℕ → WriteAnswer) (reads : ℕ → ReadAnswer) :
    ServiceLoop β × SockInput → ServiceLoop β × SockInput → Prop :=
  Relation.ReflTransGen (Polls writes reads)

/-- Where the service thread is when `send_command_succ` is about to go around. -/
def Polled.At (s : Polled β) (loop : ServiceLoop β) : Prop :=
  loop.svc = s.svc
    ∧ loop.pc = if s.loopcount < 10 then .receive (.noop s.loopcount) else .net

/-- A round that goes on is one of the service thread. -/
theorem ServiceLoop.continues_noop (loop : ServiceLoop β) (loopcount : ℕ) :
    (loop.continues (.noop loopcount)).svc = loop.svc
      ∧ (loop.continues (.noop loopcount)).pc
        = if loopcount + 1 < 10 then .receive (.noop (loopcount + 1)) else .net := by
  unfold ServiceLoop.continues
  dsimp only
  split
  · exact ⟨rfl, rfl⟩
  · exact ⟨rfl, rfl⟩

/-- **A callback is called, and polling goes on.** -/
theorem pollsTo_of_lookup {loop : ServiceLoop β} {loopcount : ℕ} {d : Dispatch}
    {input : SockInput} (hpc : loop.pc = .lookup (.noop loopcount) d) :
    ∃ loop' : ServiceLoop β, PollsTo writes reads (loop, input) (loop', input)
      ∧ loop'.svc = loop.svc
      ∧ loop'.pc = if loopcount + 1 < 10 then .receive (.noop (loopcount + 1)) else .net := by
  have hlookup : Polls writes reads (loop, input)
      ({ loop with pc := .call (.noop loopcount) (loop.svc.invoke d) }, input) := by
    refine .callback ?_ ?_
    · rw [hpc]
      rfl
    · rw [ServiceLoop.step, hpc]
  have hcall : Polls writes reads
      ({ loop with pc := .call (.noop loopcount) (loop.svc.invoke d) }, input)
      (ServiceLoop.continues { loop with pc := .call (.noop loopcount) (loop.svc.invoke d) }
        (.noop loopcount), input) := .callback rfl rfl
  obtain ⟨hsvc, hpc'⟩ := ServiceLoop.continues_noop
    { loop with pc := .call (.noop loopcount) (loop.svc.invoke d) } loopcount
  exact ⟨_, .tail (.tail .refl hlookup) hcall, hsvc, hpc'⟩

/-- What is received in a round. -/
theorem polls_of_receives {loop loop' : ServiceLoop β} {loopcount k : ℕ} {input : SockInput}
    {r : Int × SockInput} (hpc : loop.pc = .receive (.noop loopcount))
    (hrecv : sockRecvFrom k reads recvMaxlen input = some r)
    (h : loop.receives (.noop loopcount) (.of r) = some loop') :
    Polls writes reads (loop, input) (loop', r.2) := by
  refine .received hrecv ?_
  rw [ServiceLoop.step, hpc]
  exact h

/-- What is there to be received when a string is. -/
theorem Received.of_pos {ret : Int} {input : SockInput} (hpos : 0 < ret) :
    Received.of (ret, input) = .line (cString input.dest bufsiz 0) := by
  rw [Received.of, if_neg (Int.lt_asymm hpos), if_neg (Int.ne_of_gt hpos)]

/-- **A round of `send_command_succ` that goes on is one of the service thread.** -/
theorem Polled.At.of_round {err : Int} {s s' : Polled β} {loop : ServiceLoop β}
    (hs : s.At loop) (h : sendCommandSuccBody fuel reads others err s = some (.inl s')) :
    ∃ loop', PollsTo writes reads (loop, s.input) (loop', s'.input) ∧ s'.At loop' := by
  obtain ⟨hsvc, hpc⟩ := hs
  -- what the other threads do to the tables comes last
  have hnext : ∀ {t : Polled β} {loop' : ServiceLoop β},
      PollsTo writes reads (loop, s.input) (loop', t.input) →
      (loop'.pc = if t.loopcount + 1 < 10 then .receive (.noop (t.loopcount + 1)) else .net) →
      ∃ loop'', PollsTo writes reads (loop, s.input) (loop'', (t.next others).input)
        ∧ (t.next others).At loop'' := fun hto hpc' =>
    ⟨_, .tail hto (.tables _), rfl, hpc'⟩
  cases pollTaken_of_round h with
  | @silent input hcount hrecv =>
    rw [if_pos hcount] at hpc
    obtain ⟨-, hpc'⟩ := loop.continues_noop s.loopcount
    have hreceives : loop.receives (.noop s.loopcount) (.of (0, input))
      = some (loop.continues (.noop s.loopcount)) := rfl
    have hto : PollsTo writes reads (loop, s.input) (loop.continues (.noop s.loopcount), input) :=
      .single (polls_of_receives hpc hrecv hreceives)
    exact hnext (t := { s with input := input }) hto hpc'
  | @callback ret input svc call hcount hrecv hpos hresponse =>
    rw [if_pos hcount] at hpc
    rw [← hsvc] at hresponse
    obtain ⟨dispatch, hdispatch, -⟩ := loop.svc.of_lcdProcessResponse hresponse
    have hto : ∃ loop' : ServiceLoop β, PollsTo writes reads (loop, s.input) (loop', input)
        ∧ loop'.pc = if s.loopcount + 1 < 10 then .receive (.noop (s.loopcount + 1)) else .net := by
      cases dispatch with
      | none =>
        have hreceives : loop.receives (.noop s.loopcount) (.of (ret, input))
            = some (ServiceLoop.continues { loop with svc := svc } (.noop s.loopcount)) := by
          rw [Received.of_pos hpos, ServiceLoop.receives, hdispatch]
          rfl
        obtain ⟨-, hpc'⟩ := ServiceLoop.continues_noop { loop with svc := svc } s.loopcount
        exact ⟨_, .single (polls_of_receives hpc hrecv hreceives), hpc'⟩
      | some d =>
        have hreceives : loop.receives (.noop s.loopcount) (.of (ret, input))
            = some { loop with svc := svc, pc := .lookup (.noop s.loopcount) d } := by
          rw [Received.of_pos hpos, ServiceLoop.receives, hdispatch]
        let found : ServiceLoop β := { loop with svc := svc, pc := .lookup (.noop s.loopcount) d }
        have hlookup : found.pc = .lookup (.noop s.loopcount) d := rfl
        obtain ⟨loop', hto, -, hpc'⟩ := pollsTo_of_lookup hlookup
        exact ⟨loop', .head (polls_of_receives hpc hrecv hreceives) hto, hpc'⟩
    obtain ⟨loop', hto, hpc'⟩ := hto
    exact hnext (t := { s with
      input := input, svc := svc, responses := s.responses ++ [.callback] }) hto hpc'

/-- A reply calls nothing. -/
theorem dispatch_eq_none_of_result {svc svc' : ServiceThread β} {string : Str} {result : Int}
    {response : ProcessResponse} {dispatch : Option Dispatch}
    (h : svc.lcdDispatch string = .ok (response, svc', dispatch))
    (hresult : response.result = some result) : dispatch = none := by
  cases svc.handling_of_lcdDispatch h with
  | key | listen | ignore | menuevent => exact nomatch hresult
  | reply => rfl

/-- **One that returns leaves the loop of the service thread with a negative result**, and
only then. -/
theorem Polled.At.returns {err ret : Int} {s s' : Polled β} {loop : ServiceLoop β}
    (hs : s.At loop) (herr : ¬ err < 0)
    (h : sendCommandSuccBody fuel reads others err s = some (.inr (.ok (ret, s')))) :
    ∃ loop', PollsTo writes reads (loop, s.input) (loop', s'.input)
      ∧ loop'.pc = if ret < 0 then .unrefQueue else .net := by
  obtain ⟨hsvc, hpc⟩ := hs
  cases pollTaken_of_round h with
  | exhausted hcount =>
    rw [if_neg hcount] at hpc
    exact ⟨loop, .refl, hpc⟩
  | @failed ret input hcount hrecv hneg =>
    rw [if_pos hcount] at hpc
    rw [if_neg herr]
    have hreceives : loop.receives (.noop s.loopcount) (.of (ret, input))
        = some (loop.returns true (.noop s.loopcount)) := by
      rw [Received.of, if_pos hneg]
      rfl
    exact ⟨_, .single (polls_of_receives hpc hrecv hreceives), rfl⟩
  | @reply ret result input response svc call hcount hrecv hpos hresponse hresult =>
    rw [if_pos hcount] at hpc
    rw [← hsvc] at hresponse
    obtain ⟨dispatch, hdispatch, -⟩ := loop.svc.of_lcdProcessResponse hresponse
    obtain rfl := dispatch_eq_none_of_result hdispatch hresult
    have hreceives : loop.receives (.noop s.loopcount) (.of (ret, input))
        = some (ServiceLoop.respond { loop with svc := svc } (.noop s.loopcount) response) := by
      rw [Received.of_pos hpos, ServiceLoop.receives, hdispatch]
    refine ⟨_, .single (polls_of_receives hpc hrecv hreceives), ?_⟩
    cases response with
    | callback => exact absurd hresult.symm (Option.some_ne_none _)
    | success | failure | invalid | errMisc =>
      obtain rfl := Option.some.inj hresult
      rfl

/-- **The `noop` of the service thread is `send_command_succ`**: the thread leaves its loop
when the result is negative, and goes on when it is not. -/
theorem polls_of_sendCommandSucc {loop : ServiceLoop β} (hpc : loop.pc = .send (.noop 0))
    {buffer : ℕ → Char} {ret : Int} {calls : ℕ} {s : Polled β}
    (h : sendCommandSucc fuel writes reads others loop.svc buffer "noop\n".toList
      = some (.ok (ret, calls, s))) :
    ∃ loop', PollsTo writes reads (loop, ⟨0, buffer⟩) (loop', s.input)
      ∧ loop'.pc = if ret < 0 then .unrefQueue else .net := by
  obtain ⟨err, hsent, ⟨herr, rfl, rfl⟩ | ⟨herr, hrun⟩⟩ := of_sendCommandSucc h
  · have hstep : loop.step false (.sent (decide (0 ≤ ret)))
        = some (loop.returns false (.noop 0)) := by
      unfold ServiceLoop.step
      rw [decide_eq_false (Int.not_le.mpr herr), hpc]
    exact ⟨_, .single (.sent hsent hstep), (if_pos herr).symm⟩
  · have hstep : loop.step false (.sent (decide (0 ≤ err)))
        = some { loop with pc := .receive (.noop 0) } := by
      unfold ServiceLoop.step
      rw [decide_eq_true (Int.not_lt.mp herr), hpc]
    -- the rounds so far are steps of the service thread, which is where the next begins
    have hpost := Loop.run_invariant
      (fun t : Polled β => ∃ loop', PollsTo writes reads (loop, ⟨0, buffer⟩) (loop', t.input)
        ∧ t.At loop')
      (fun r => ∀ ret t, r = .ok (ret, t) → ∃ loop',
        PollsTo writes reads (loop, ⟨0, buffer⟩) (loop', t.input)
          ∧ loop'.pc = if ret < 0 then .unrefQueue else .net)
      ?_ ?_ ⟨_, .single (.sent hsent hstep), rfl, rfl⟩ hrun
    · exact hpost ret s rfl
    · rintro t t' ⟨loop', hto, ht⟩ hround
      obtain ⟨loop'', hto', ht'⟩ := ht.of_round hround
      exact ⟨loop'', hto.trans hto', ht'⟩
    · rintro t r ⟨loop', hto, ht⟩ hround ret t' rfl
      obtain ⟨loop'', hto', hpc'⟩ := ht.returns herr hround
      exact ⟨loop'', hto.trans hto', hpc'⟩

end noop

/-- **A failure gives a negative result, and a failed `noop` ends the service thread, exactly
when no call of `read` is what fails.** -/
theorem neg_iff_not_readFails {β : Type} (fuel : ℕ) (writes : ℕ → WriteAnswer)
    (reads : ℕ → ReadAnswer) (others : ℕ → ServiceThread β → ServiceThread β)
    (buffer : ℕ → Char) :
    (∀ svc command ret calls (s : Polled β),
      sendCommandSucc fuel writes reads others svc buffer command = some (.ok (ret, calls, s)) →
      ((s.Fails writes reads calls → ret < 0) ↔ ¬ ReadFails reads s.input.calls))
    ∧ (∀ (loop : ServiceLoop β) ret calls s, loop.pc = .send (.noop 0) →
      sendCommandSucc fuel writes reads others loop.svc buffer "noop\n".toList
        = some (.ok (ret, calls, s)) →
      ∃ loop', PollsTo writes reads (loop, ⟨0, buffer⟩) (loop', s.input)
        ∧ (loop'.pc = .unrefQueue ∨ loop'.pc = .net)
        ∧ ((s.Fails writes reads calls → loop'.pc = .unrefQueue)
          ↔ ¬ ReadFails reads s.input.calls))
    ∧ (∀ command result ret calls input,
      sendCommand fuel writes reads command result = some (ret, calls, input) →
      ((WriteFails writes calls ∨ (∃ t ∈ input, ReadFails reads t.calls) → ret < 0)
        ↔ ¬ ∃ t ∈ input, ReadFails reads t.calls)) := by
  refine ⟨fun _ _ _ _ _ h => sendCommandSucc_fails_iff h, ?_,
    fun _ _ _ _ _ h => sendCommand_fails_iff h⟩
  intro loop ret calls s hpc h
  obtain ⟨loop', hto, hpc'⟩ := polls_of_sendCommandSucc hpc h
  rw [← sendCommandSucc_fails_iff h]
  by_cases hneg : ret < 0
  · rw [if_pos hneg] at hpc'
    exact ⟨loop', hto, .inl hpc', iff_of_true (fun _ => hpc') (fun _ => hneg)⟩
  · rw [if_neg hneg] at hpc'
    refine ⟨loop', hto, .inr hpc', imp_congr_right fun _ => iff_of_false ?_ hneg⟩
    rw [hpc']
    exact nofun

/-- **A `noop` whose reply cannot be read does not fail**: `5` bytes were sent. -/
theorem not_neg_of_error :
    ¬ ∀ (fuel : ℕ) (writes : ℕ → WriteAnswer) (reads : ℕ → ReadAnswer)
      (svc : ServiceThread Unit) (buffer : ℕ → Char) (command : Str) (ret : Int) (calls : ℕ)
      (s : Polled Unit),
      sendCommandSucc fuel writes reads (fun _ => id) svc buffer command
        = some (.ok (ret, calls, s)) → s.Fails writes reads calls → ret < 0 := by
  intro h
  have hsent : sockSendString 2 (fun _ => .taken 5) "noop\n".toList = some (5, 1) := by
    decide +kernel
  have hfive : ¬ (5 : Int) < 0 := by decide
  have hresult : sendCommandSucc 2 (fun _ => .taken 5) (fun _ => .error) (fun _ => id)
      (.init : ServiceThread Unit) (fun _ => '\x00') "noop\n".toList
      = some (.ok (5, 1, ⟨0, ⟨1, fun _ => '\x00'⟩, .init, []⟩)) := by
    unfold sendCommandSucc
    rw [hsent, Option.bind_some, if_neg hfive]
    rfl
  exact hfive (h _ _ _ _ _ _ _ _ _ hresult (.inr (.inl ⟨0, Nat.one_pos, rfl⟩)))
