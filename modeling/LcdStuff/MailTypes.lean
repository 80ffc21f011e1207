import LcdStuff.MailCounts

/-!
# The types of mailboxes

The type of a mailbox is a word of the configuration, and it is looked at in three places.
`get_driver` looks for it in a table and does not look at the case, `is_local` and the end of a
round of `mail_check` do; so they agree on the types that are spelled as in the table
(`placesAgree_iff`).

`get_driver` has a value for a word that is not in the table, but `init_storage` has no branch for
that value. It says that all is well, and the round goes on with a storage that was not initialised
(`initialisedFirst_iff`).
-/

/-! ## What libetpan is asked for a mailbox -/

namespace MailRound

variable {etpan : Libetpan} {mb : ℕ}

/-- The calls of a round, each with whether the round goes on behind it. -/
def steps (answers : MailboxAnswers) (box : Mailbox) : List (List EtpanCall × Bool) :=
  [initStorage box (getDriver box.type) answers.init,
    ([.folderNew box.mailboxName], answers.folderNew), ([.folderConnect], answers.connect),
    ([.folderStatus], answers.status.isSome), ([], !box.hidden),
    ([.getMessagesList], answers.messagesList.isSome),
    ([.getEnvelopesList], answers.envelopesList)]

/-- The calls as far as the first behind which the round does not go on. -/
def callsOf : List (List EtpanCall × Bool) → List EtpanCall
  | [] => []
  | (calls, ok) :: steps => calls ++ if ok then callsOf steps else []

/-- What was asked when a round has come to `end_loop`, behind a call. -/
theorem calls_reached_call_bind (r : MailRound) (calls : List EtpanCall) (ok : Bool)
    (f : MailRound → Except MailRound MailRound) {steps : List (List EtpanCall × Bool)}
    (h : (reached (f { r with calls := r.calls ++ calls })).calls
      = r.calls ++ calls ++ callsOf steps) :
    (reached (r.call calls ok >>= f)).calls = r.calls ++ callsOf ((calls, ok) :: steps) := by
  rw [reached_call_bind, callsOf, ← List.append_assoc]
  cases ok with
  | false => exact (List.append_nil _).symm
  | true => exact h

/-- The status is stored in the mailbox, and nowhere else. -/
theorem exists_setStatus (r : MailRound) (status : Option MailboxStatus) :
    ∃ box, r.setStatus status = { r with box := box } ∧ box.hidden = r.box.hidden := by
  cases status with
  | none => exact ⟨r.box, rfl, rfl⟩
  | some status => exact ⟨_, rfl, rfl⟩

/-- **What was asked** when a round has come to `end_loop`. -/
theorem calls_check (r : MailRound) :
    (reached (r.check etpan mb)).calls
      = r.calls ++ callsOf (steps (etpan.answers mb) r.box) := by
  unfold check steps
  refine calls_reached_call_bind _ _ _ _ ?_
  refine calls_reached_call_bind _ _ _ _ ?_
  refine calls_reached_call_bind _ _ _ _ ?_
  refine calls_reached_call_bind _ _ _ _ ?_
  obtain ⟨box, hbox, hhidden⟩ := exists_setStatus _ (etpan.answers mb).status
  rw [hbox, ← hhidden]
  refine calls_reached_call_bind _ _ _ _ ?_
  refine calls_reached_call_bind _ _ _ _ ?_
  refine calls_reached_call_bind _ _ _ _ ?_
  exact (List.append_nil _).symm

/-- Whether there is a folder when a round has come to `end_loop`. -/
theorem folder_check (r : MailRound) :
    (reached (r.check etpan mb)).folder =
      if (initStorage r.box (getDriver r.box.type) (etpan.answers mb).init).2 = true
          ∧ (etpan.answers mb).folderNew = true then true else r.folder := by
  have hend : ∀ r : MailRound,
      (reached (pure (r.checkMessages etpan mb ((etpan.answers mb).messagesList.getD [])))).folder
        = r.folder := fun _ => rfl
  unfold check
  simp only [apply_reached_call_bind MailRound.folder (fun _ _ => rfl), setStatus_eq, hend,
    ite_self, ← ite_and]

/-- Whether there are messages when a round has come to `end_loop`. -/
theorem messages_check (r : MailRound) :
    (reached (r.check etpan mb)).messages =
      if (initStorage r.box (getDriver r.box.type) (etpan.answers mb).init).2 = true
          ∧ (etpan.answers mb).folderNew = true ∧ (etpan.answers mb).connect = true
          ∧ (etpan.answers mb).status.isSome = true ∧ (!r.box.hidden) = true
          ∧ (etpan.answers mb).messagesList.isSome = true then true
      else r.messages := by
  have hend : ∀ r : MailRound,
      (reached (pure (r.checkMessages etpan mb
        ((etpan.answers mb).messagesList.getD [])))).messages = r.messages := fun _ => rfl
  unfold check
  simp only [apply_reached_call_bind MailRound.messages (fun _ _ => rfl), setStatus_eq, hend,
    ite_self, ← ite_and]

/-- The calls of `end_loop`. -/
def endCalls (answers : MailboxAnswers) (box : Mailbox) : List EtpanCall :=
  (if box.type = "maildir".toList then [.freeSession] else [])
    ++ (if (initStorage box (getDriver box.type) answers.init).2 = true
        ∧ answers.folderNew = true ∧ answers.connect = true ∧ answers.status.isSome = true
        ∧ (!box.hidden) = true ∧ answers.messagesList.isSome = true then [.messageListFree] else [])
    ++ (if (initStorage box (getDriver box.type) answers.init).2 = true
        ∧ answers.folderNew = true then [.folderFree] else [])
    ++ [.storageFree]

/-- **What is asked in a whole round**, which begins without a folder and without messages. -/
theorem calls_run {r : MailRound} (hfolder : r.folder = false) (hmessages : r.messages = false) :
    (r.run etpan mb).calls = r.calls ++ callsOf (steps (etpan.answers mb) r.box)
      ++ endCalls (etpan.answers mb) r.box := by
  have htype : (reached (r.check etpan mb)).box.type = r.box.type := by
    have hbox : (reached (r.check etpan mb)).box
        = (r.setStatus ((etpan.answers mb).reported r.box)).box := box_run r
    rw [hbox]
    simp only [setStatus_eq]
  have hflag : ∀ (p : Prop) [Decidable p] (calls : List EtpanCall),
      (if (if p then true else false) = true then calls else []) = if p then calls else [] := by
    intro p _ calls
    split <;> rfl
  show (reached (r.check etpan mb)).calls ++ _ ++ _ ++ _ ++ _ = _
  rw [calls_check, folder_check, messages_check, htype, hfolder, hmessages, hflag, hflag]
  unfold endCalls
  simp only [List.append_assoc]

end MailRound

namespace LcdStuffMail

/-- **What `mail_check` asks for one mailbox.** -/
def askedFor (etpan : Libetpan) (p : Mailbox × ℕ) : List EtpanCall :=
  (MailRound.run etpan p.2 ⟨p.1, false, false, [], []⟩).calls

/-- **What `mail_check` asks**, mailbox by mailbox. -/
theorem calls_check (etpan : Libetpan) (mail : LcdStuffMail) :
    (mail.check etpan).2.2 = mail.mailboxes.zipIdx.flatMap (askedFor etpan) := by
  rw [List.flatMap_eq_foldl]
  refine (List.foldl_hom MailLoop.calls (fun s p => ?_)).symm
  unfold checkMailbox askedFor
  dsimp only
  rw [MailRound.calls_run rfl rfl, MailRound.calls_run rfl rfl]
  cases isLocal p.1.type with
  | false => rfl
  | true => rfl

end LcdStuffMail

/-! ## The table of the types -/

/-- The entries of the table are in the order of the constants. -/
theorem getDriver_entry : ∀ entry ∈ storageTab, getDriver entry.2 = entry.1.id := by decide

/-- The constants are no negative numbers. -/
theorem MailDriver.id_nonneg (driver : MailDriver) : 0 ≤ driver.id := by
  cases driver <;> decide

/-- **The driver of a type** is that of an entry of the table with its name, whatever the case; a
type that is not in the table has none. -/
theorem getDriver_cases (type : Str) : getDriver type = -1 ∨ ∃ entry ∈ storageTab,
    getDriver type = entry.1.id ∧ gAsciiStrcaseEq type entry.2 = true := by
  have hid : ∀ i (hi : i < storageTab.length), storageTab[i].1.id = i := by decide
  unfold getDriver
  split
  · next i hi =>
    obtain ⟨hlt, heq, -⟩ := List.findIdx?_eq_some_iff_getElem.mp hi
    exact .inr ⟨_, List.getElem_mem hlt, (hid i hlt).symm, heq⟩
  · exact .inl rfl

/-- There is one entry for each of the drivers. -/
theorem getDriver_eq_id_iff {type : Str} {entry : MailDriver × Str} (h : entry ∈ storageTab) :
    getDriver type = entry.1.id ↔ gAsciiStrcaseEq type entry.2 = true := by
  constructor
  · intro hdriver
    have hinj : ∀ e ∈ storageTab, ∀ e' ∈ storageTab, e.1.id = e'.1.id → e = e' := by decide
    rcases getDriver_cases type with hnone | ⟨other, hother, hid, heq⟩
    · have hnonneg := entry.1.id_nonneg
      omega
    · rwa [hinj entry h other hother (hdriver.symm.trans hid)]
  · intro heq
    have hsame : ∀ e : MailDriver × Str,
        gAsciiStrcaseEq type e.2 = gAsciiStrcaseEq entry.2 e.2 := by
      intro e
      unfold gAsciiStrcaseEq
      rw [beq_iff_eq.mp heq]
    have hdriver : getDriver type = getDriver entry.2 := by
      unfold getDriver
      rw [funext hsame]
    rw [hdriver, getDriver_entry entry h]

/-- The names of the types of the mailboxes on the disk. -/
def localTypes : List Str := ["mbox".toList, "mh".toList, "maildir".toList]

/-- `is_local` looks at the case. -/
theorem isLocal_iff {type : Str} : isLocal type = true ↔ type ∈ localTypes := by
  unfold isLocal localTypes
  simp only [Bool.or_eq_true, beq_iff_eq, List.mem_cons, List.not_mem_nil, or_false]
  constructor
  · rintro ((hmh | hmaildir) | hmbox)
    · exact .inr (.inl hmh)
    · exact .inr (.inr hmaildir)
    · exact .inl hmbox
  · rintro (hmbox | hmh | hmaildir)
    · exact .inr hmbox
    · exact .inl (.inl hmh)
    · exact .inl (.inr hmaildir)

/-- `get_driver` does not. -/
theorem getDriver_mem_iff {type : Str} :
    getDriver type ∈ [MailDriver.mbox.id, MailDriver.mh.id, MailDriver.maildir.id]
      ↔ ∃ name ∈ localTypes, gAsciiStrcaseEq type name = true := by
  have hmbox : (MailDriver.mbox, "mbox".toList) ∈ storageTab := by decide
  have hmh : (MailDriver.mh, "mh".toList) ∈ storageTab := by decide
  have hmaildir : (MailDriver.maildir, "maildir".toList) ∈ storageTab := by decide
  unfold localTypes
  simp only [List.mem_cons, List.not_mem_nil, or_false, getDriver_eq_id_iff hmbox,
    getDriver_eq_id_iff hmh, getDriver_eq_id_iff hmaildir, exists_eq_or_imp, exists_eq_left]

/-! ## What is done for a type -/

/-- The call is the one that initialises a storage for a driver. -/
def EtpanCall.Initialises (driver : Int) : EtpanCall → Prop
  | .mailstorageInit d _ _ _ => d.id = driver
  | .mailstorageInitLocal d _ => d.id = driver
  | _ => False

/-- The call is one that needs a storage. -/
def EtpanCall.UsesStorage (call : EtpanCall) : Prop :=
  (∃ path, call = .folderNew path) ∨ call = .folderConnect

/-- **`init_storage` for a driver** calls the function that initialises a storage for it. -/
theorem exists_initStorage (box : Mailbox) (driver : MailDriver) (init : Bool) :
    ∃ call : EtpanCall, initStorage box driver.id init = ([call], init)
      ∧ call.Initialises driver.id := by
  cases driver with
  | pop3 => exact ⟨_, rfl, rfl⟩
  | imap => exact ⟨_, rfl, rfl⟩
  | nntp => exact ⟨_, rfl, rfl⟩
  | mbox => exact ⟨_, rfl, rfl⟩
  | mh => exact ⟨_, rfl, rfl⟩
  | maildir => exact ⟨_, rfl, rfl⟩

/-- A function that initialises a storage is nothing else. -/
theorem EtpanCall.Initialises.ne {driver : Int} {call : EtpanCall} (h : call.Initialises driver) :
    call ≠ .freeSession ∧ ¬ call.UsesStorage := by
  constructor
  · rintro rfl
    exact h
  · rintro (⟨path, rfl⟩ | rfl)
    · exact h
    · exact h

namespace MailRound

/-- A call of a round is one of a step. -/
theorem exists_of_mem_callsOf {steps : List (List EtpanCall × Bool)} {call : EtpanCall}
    (h : call ∈ callsOf steps) : ∃ step ∈ steps, call ∈ step.1 := by
  induction steps with
  | nil => exact nomatch h
  | cons step steps ih =>
    rcases List.mem_append.mp h with hfirst | hrest
    · exact ⟨step, List.mem_cons_self .., hfirst⟩
    · split at hrest
      · obtain ⟨other, hother, hcall⟩ := ih hrest
        exact ⟨other, List.mem_cons_of_mem _ hother, hcall⟩
      · exact nomatch hrest

/-- No session is freed before `end_loop`. -/
theorem freeSession_notMem_callsOf (answers : MailboxAnswers) (box : Mailbox) :
    .freeSession ∉ callsOf (steps answers box) := by
  intro h
  obtain ⟨step, hstep, hcall⟩ := exists_of_mem_callsOf h
  have hinit : .freeSession ∉ (initStorage box (getDriver box.type) answers.init).1 := by
    rcases getDriver_cases box.type with hdriver | ⟨entry, -, hdriver, -⟩
    · rw [hdriver]
      exact List.not_mem_nil
    · obtain ⟨call, hinit, hinitialises⟩ := exists_initStorage box entry.1 answers.init
      rw [hdriver, hinit, List.mem_singleton]
      exact hinitialises.ne.1.symm
  unfold steps at hstep
  simp only [List.mem_cons, List.not_mem_nil, or_false] at hstep
  rcases hstep with rfl | rfl | rfl | rfl | rfl | rfl | rfl
  · exact hinit hcall
  all_goals exact absurd hcall (by simp)

/-- What `end_loop` calls frees something. -/
theorem endCalls_subset (answers : MailboxAnswers) (box : Mailbox) :
    endCalls answers box ⊆ [.freeSession, .messageListFree, .folderFree, .storageFree] := by
  intro call h
  unfold endCalls at h
  simp only [List.mem_append, List.mem_ite_nil_right, List.mem_singleton] at h
  rcases h with ((⟨-, rfl⟩ | ⟨-, rfl⟩) | ⟨-, rfl⟩) | rfl
  all_goals simp

/-- No storage is used in `end_loop`. -/
theorem not_usesStorage_of_mem_endCalls {answers : MailboxAnswers} {box : Mailbox}
    {call : EtpanCall} (h : call ∈ endCalls answers box) : ¬ call.UsesStorage := by
  have hmem := endCalls_subset answers box h
  simp only [List.mem_cons, List.not_mem_nil, or_false] at hmem
  rintro (⟨path, rfl⟩ | rfl)
  · simp at hmem
  · simp at hmem

/-- The session is freed in `end_loop` for the one type. -/
theorem freeSession_mem_endCalls_iff {answers : MailboxAnswers} {box : Mailbox} :
    .freeSession ∈ endCalls answers box ↔ box.type = "maildir".toList := by
  unfold endCalls
  simp only [List.mem_append, List.mem_ite_nil_right, List.mem_singleton]
  constructor
  · rintro (((⟨htype, -⟩ | ⟨-, h⟩) | ⟨-, h⟩) | h)
    · exact htype
    all_goals exact nomatch h
  · exact fun htype => .inl (.inl (.inl ⟨htype, trivial⟩))

end MailRound

/-- What is asked for a mailbox, as far as `end_loop` and there. -/
theorem LcdStuffMail.askedFor_eq (etpan : Libetpan) (p : Mailbox × ℕ) :
    LcdStuffMail.askedFor etpan p
      = MailRound.callsOf (MailRound.steps (etpan.answers p.2) p.1)
        ++ MailRound.endCalls (etpan.answers p.2) p.1 :=
  MailRound.calls_run rfl rfl

/-! ## The places that look at a type -/

/-- **The places that look at a type agree on it.** -/
structure PlacesAgree (type : Str) : Prop where
  /-- `is_local` and `get_driver` -/
  isLocal_iff : isLocal type = true ↔
    getDriver type ∈ [MailDriver.mbox.id, MailDriver.mh.id, MailDriver.maildir.id]
  /-- The end of a round of `mail_check` and `get_driver` -/
  freeSession_iff : ∀ (etpan : Libetpan) (p : Mailbox × ℕ), p.1.type = type →
    (.freeSession ∈ LcdStuffMail.askedFor etpan p ↔ getDriver type = MailDriver.maildir.id)

/-- **They agree** exactly on the types that are spelled as in the table, if they are local
ones. -/
theorem placesAgree_iff (type : Str) :
    PlacesAgree type ↔
      ∀ name ∈ localTypes, gAsciiStrcaseEq type name = true → type = name := by
  have hself : ∀ name ∈ localTypes, gAsciiStrcaseEq name name = true := by decide
  constructor
  · intro h name hname heq
    have hlocal := h.isLocal_iff.mpr (getDriver_mem_iff.mpr ⟨name, hname, heq⟩)
    have hspelled : ∀ a ∈ localTypes, ∀ b ∈ localTypes, gAsciiStrcaseEq a b = true → a = b := by
      decide
    exact hspelled type (isLocal_iff.mp hlocal) name hname heq
  · refine fun h => ⟨?_, fun etpan p htype => ?_⟩
    · rw [isLocal_iff, getDriver_mem_iff]
      constructor
      · exact fun hmem => ⟨type, hmem, hself type hmem⟩
      · rintro ⟨name, hname, heq⟩
        exact h name hname heq ▸ hname
    · have hmem : "maildir".toList ∈ localTypes := by decide
      have hentry : (MailDriver.maildir, "maildir".toList) ∈ storageTab := by decide
      rw [LcdStuffMail.askedFor_eq, List.mem_append,
        or_iff_right (MailRound.freeSession_notMem_callsOf _ _),
        MailRound.freeSession_mem_endCalls_iff, htype, getDriver_eq_id_iff hentry]
      constructor
      · rintro rfl
        exact hself _ hmem
      · exact h _ hmem

/-- **A maildir with a capital letter** is initialised as a maildir, but is no local mailbox. -/
theorem not_placesAgree_of_capital : ¬ ∀ type, PlacesAgree type := by
  intro h
  have hlocal := (h "Maildir".toList).isLocal_iff
  exact absurd (hlocal.mpr (by decide)) (by decide)

/-! ## Storages that are not initialised -/

/-- **A storage is used for a mailbox only behind a call that has initialised it** for the type. -/
def InitialisedFirst (etpan : Libetpan) (p : Mailbox × ℕ) : Prop :=
  EachPrepared
    (fun before call => call.UsesStorage → (etpan.answers p.2).init = true
      ∧ ∃ init ∈ before, init.Initialises (getDriver p.1.type))
    (LcdStuffMail.askedFor etpan p)

/-- **A type is handled**: a mailbox of it has a storage that is initialised, and if the type has
no driver, `init_storage` says so and the mailbox is left out. -/
structure Handled (type : Str) : Prop where
  /-- A storage that is used. -/
  initialised : ∀ (etpan : Libetpan) (p : Mailbox × ℕ), p.1.type = type → InitialisedFirst etpan p
  /-- A type without a driver. -/
  unknown : getDriver type = -1 → ∀ (etpan : Libetpan) (p : Mailbox × ℕ), p.1.type = type →
    (initStorage p.1 (getDriver type) (etpan.answers p.2).init).2 = false
      ∧ ∀ call ∈ LcdStuffMail.askedFor etpan p, ¬ call.UsesStorage

/-- **A mailbox whose type has a driver** is initialised first. -/
theorem initialisedFirst_of_driver {etpan : Libetpan} {p : Mailbox × ℕ} {driver : MailDriver}
    (h : getDriver p.1.type = driver.id) : InitialisedFirst etpan p := by
  obtain ⟨init, hinit, hinitialises⟩ := exists_initStorage p.1 driver (etpan.answers p.2).init
  rintro before call after hcalls huses
  have hasked : LcdStuffMail.askedFor etpan p = init ::
      ((if (etpan.answers p.2).init = true then
        MailRound.callsOf (MailRound.steps (etpan.answers p.2) p.1).tail else [])
        ++ MailRound.endCalls (etpan.answers p.2) p.1) := by
    rw [LcdStuffMail.askedFor_eq, MailRound.steps, h, hinit]
    rfl
  rw [hasked] at hcalls
  cases before with
  | nil =>
    obtain rfl := (List.cons.inj hcalls).1
    exact absurd huses hinitialises.ne.2
  | cons first before =>
    obtain ⟨rfl, hrest⟩ := List.cons.inj hcalls
    refine ⟨?_, init, List.mem_cons_self .., h ▸ hinitialises⟩
    -- a storage that was not initialised is only freed
    by_contra hfails
    rw [if_neg hfails, List.nil_append] at hrest
    have hend : call ∈ MailRound.endCalls (etpan.answers p.2) p.1 :=
      hrest ▸ List.mem_append_right _ (List.mem_cons_self ..)
    exact MailRound.not_usesStorage_of_mem_endCalls hend huses

/-- **The types that are handled** are those of the table, in any case. -/
theorem handled_iff (type : Str) :
    Handled type ↔ ∃ entry ∈ storageTab, gAsciiStrcaseEq type entry.2 = true := by
  constructor
  · intro h
    rcases getDriver_cases type with hnone | ⟨entry, hentry, -, heq⟩
    · let etpan : Libetpan := ⟨0, fun _ => none, fun _ => ⟨true, true, true, none, none, true⟩⟩
      let box : Mailbox := ⟨[], [], [], [], type, [], 0, 0, 0, false⟩
      have herror := (h.unknown hnone etpan (box, 0) rfl).1
      rw [hnone] at herror
      exact nomatch herror
    · exact ⟨entry, hentry, heq⟩
  · rintro ⟨entry, hentry, heq⟩
    have hdriver := (getDriver_eq_id_iff hentry).mpr heq
    refine ⟨fun etpan p htype => initialisedFirst_of_driver (htype ▸ hdriver), fun hnone => ?_⟩
    have hnonneg := entry.1.id_nonneg
    omega

/-- **A type that is not in the table** is no error: a folder is asked for in a storage that
nothing has initialised. -/
theorem not_handled_of_exchange : ¬ ∀ type, Handled type := by
  intro h
  let etpan : Libetpan := ⟨0, fun _ => none, fun _ => ⟨true, true, true, none, none, true⟩⟩
  let box : Mailbox := ⟨[], [], [], [], "exchange".toList, [], 0, 0, 0, false⟩
  have hcalls : LcdStuffMail.askedFor etpan (box, 0)
      = [] ++ .folderNew [] :: [.folderConnect, .folderStatus, .folderFree, .storageFree] := by
    decide +kernel
  obtain ⟨-, init, hinit, -⟩ := (h "exchange".toList).initialised etpan (box, 0) rfl [] _ _ hcalls
    (.inl ⟨[], rfl⟩)
  exact nomatch hinit
