import LcdStuff.Screen

/-!
# The mail module

`mail_check` goes through the mailboxes, and through the messages of each of them that is not
hidden, and lists the ones that were not seen. Whatever goes wrong with a mailbox ends that
mailbox, and whatever goes wrong with a message skips the message: the others are listed as if
nothing had happened, and the numbers of the messages of a mailbox have no gaps
(`LcdStuffMail.email_check`).

What is asked of libetpan is a list of `EtpanCall`s; what libetpan answers is a parameter,
`Libetpan`, with an answer to every call that can be made in one check.
-/

/-! ## `maillib.c` -/

/-- `POP3_STORAGE` and the other constants of `maillib.h` -/
inductive MailDriver where
  /-- `POP3_STORAGE` -/
  | pop3
  /-- `IMAP_STORAGE` -/
  | imap
  /-- `NNTP_STORAGE` -/
  | nntp
  /-- `MBOX_STORAGE` -/
  | mbox
  /-- `MH_STORAGE` -/
  | mh
  /-- `MAILDIR_STORAGE` -/
  | maildir
  deriving DecidableEq, Repr

/-- The value of the constant. -/
def MailDriver.id : MailDriver → Int
  | .pop3 => 0
  | .imap => 1
  | .nntp => 2
  | .mbox => 3
  | .mh => 4
  | .maildir => 5

/-- `storage_tab` -/
def storageTab : List (MailDriver × Str) :=
  [(.pop3, "pop3".toList), (.imap, "imap".toList), (.nntp, "nntp".toList),
    (.mbox, "mbox".toList), (.mh, "mh".toList), (.maildir, "maildir".toList)]

/-- `get_driver`: the index of the entry in the table. -/
def getDriver (name : Str) : Int :=
  match storageTab.findIdx? (fun entry => gAsciiStrcaseEq name entry.2) with
  | some i => i
  | none => -1

/-- `is_local` -/
def isLocal (driver : Str) : Bool :=
  driver == "mh".toList || driver == "maildir".toList || driver == "mbox".toList

/-- `struct mailbox` -/
structure Mailbox where
  /-- `server` -/
  server : Str
  /-- `username` -/
  username : Str
  /-- `password` -/
  password : Str
  /-- `name` -/
  name : Str
  /-- `type` -/
  type : Str
  /-- `mailbox_name` -/
  mailboxName : Str
  /-- `messages_seen` -/
  messagesSeen : BitVec 32
  /-- `messages_unseen` -/
  messagesUnseen : BitVec 32
  /-- `messages_total` -/
  messagesTotal : BitVec 32
  /-- `hidden` -/
  hidden : Bool
  deriving DecidableEq, Repr

/-- What libetpan is asked for a mailbox. -/
inductive EtpanCall where
  /-- `pop3_mailstorage_init`, `imap_mailstorage_init` or `nntp_mailstorage_init` -/
  | mailstorageInit (driver : MailDriver) (server user password : Str)
  /-- `mbox_mailstorage_init`, `mh_mailstorage_init` or `maildir_mailstorage_init` -/
  | mailstorageInitLocal (driver : MailDriver) (path : Str)
  /-- `mailfolder_new` -/
  | folderNew (path : Str)
  /-- `mailfolder_connect` -/
  | folderConnect
  /-- `mailfolder_status` -/
  | folderStatus
  /-- `mailfolder_get_messages_list` -/
  | getMessagesList
  /-- `mailfolder_get_envelopes_list` -/
  | getEnvelopesList
  /-- The session of the storage is freed, so that it is not looked at any more. -/
  | freeSession
  /-- `mailmessage_list_free` -/
  | messageListFree
  /-- `mailfolder_disconnect` and `mailfolder_free` -/
  | folderFree
  /-- `mailstorage_free` -/
  | storageFree
  deriving DecidableEq, Repr

/-- `init_storage`, with whether the function that it calls succeeds: what it calls, and whether
it returns `MAIL_NO_ERROR`. -/
def initStorage (box : Mailbox) (driver : Int) (init : Bool) : List EtpanCall × Bool :=
  if driver = MailDriver.pop3.id then
    ([.mailstorageInit .pop3 box.server box.username box.password], init)
  else if driver = MailDriver.imap.id then
    ([.mailstorageInit .imap box.server box.username box.password], init)
  else if driver = MailDriver.nntp.id then
    ([.mailstorageInit .nntp box.server box.username box.password], init)
  else if driver = MailDriver.mbox.id then ([.mailstorageInitLocal .mbox box.mailboxName], init)
  else if driver = MailDriver.mh.id then ([.mailstorageInitLocal .mh box.mailboxName], init)
  else if driver = MailDriver.maildir.id then
    ([.mailstorageInitLocal .maildir box.mailboxName], init)
  else ([], true)

/-- `struct mailimf_field`, as far as it is looked at; `NULL` is `none`. -/
inductive MailimfField where
  /-- `MAILIMF_FIELD_FROM`, with the `mb_display_name` of each of its mailboxes -/
  | «from» (displayNames : List (Option Str))
  /-- `MAILIMF_FIELD_SUBJECT`, with its `sbj_value` -/
  | subject (value : Option Str)
  /-- Any other. -/
  | other
  deriving DecidableEq, Repr

/-- What libetpan answers for a message, `none` where it fails. -/
structure MessageAnswers where
  /-- `mailmessage_fetch_envelope` -/
  envelope : Option (List MailimfField)
  /-- `mailmessage_get_flags`, with the `fl_flags` -/
  flags : Option (BitVec 32)
  deriving DecidableEq, Repr

/-- What `mailfolder_status` counts. -/
structure MailboxStatus where
  /-- The messages. -/
  total : BitVec 32
  /-- Those that were seen. -/
  seen : BitVec 32
  /-- Those that were not. -/
  unseen : BitVec 32
  deriving DecidableEq, Repr

/-- What libetpan answers for a mailbox, `none` or `false` where it fails. -/
structure MailboxAnswers where
  /-- The function that initialises the storage. -/
  init : Bool
  /-- `mailfolder_new` -/
  folderNew : Bool
  /-- `mailfolder_connect` -/
  connect : Bool
  /-- `mailfolder_status` -/
  status : Option MailboxStatus
  /-- `mailfolder_get_messages_list` -/
  messagesList : Option (List MessageAnswers)
  /-- `mailfolder_get_envelopes_list` -/
  envelopesList : Bool
  deriving DecidableEq, Repr

/-- **What libetpan does.** -/
structure Libetpan where
  /-- `MAIL_FLAG_SEEN` -/
  flagSeen : BitVec 32
  /-- `mailmime_encoded_phrase_parse`, `none` where it does not give a text. -/
  encodedPhraseParse : Str → Option Str
  /-- The answers for each mailbox, by its place among the mailboxes. -/
  answers : ℕ → MailboxAnswers

namespace Libetpan

variable (etpan : Libetpan)

/-- `mail_decode` -/
def mailDecode : Option Str → Str
  | none => []
  | some string => (etpan.encodedPhraseParse string).getD []

/-- `display_from` -/
def displayFrom : List (Option Str) → Str
  | [] => []
  | displayName :: _ => etpan.mailDecode displayName

/-- `display_subject` -/
def displaySubject (value : Option Str) : Str := etpan.mailDecode value

end Libetpan

/-! ## `mail.c` -/

/-- `s_valid_chars`, as `string_canon_init` leaves it. -/
def validChars : List Char :=
  ((List.range 256).map Char.ofNat).filter
    (fun c => decide (' ' ≤ c) && c != '{' && c != '}' && c != '\\')

/-- `string_canon` -/
def stringCanon (string : Str) : Str :=
  string.map (fun c => if c ∈ validChars then c else '?')

/-- `struct email`; the mailbox is given by its place, and a text that was not set is `none`. -/
structure Email where
  /-- `box` -/
  box : ℕ
  /-- `message_number_in_box`; no mailbox has more messages than an `int` can count. -/
  messageNumberInBox : ℕ
  /-- `subject` -/
  subject : Option Str
  /-- `from` -/
  «from» : Option Str
  deriving DecidableEq, Repr

/-- `struct lcd_stuff_mail`; its `lcd` is the one of its screen, and no mailbox is `NULL`. -/
structure LcdStuffMail where
  /-- `mailboxes` -/
  mailboxes : List Mailbox
  /-- `email` -/
  email : List Email
  /-- `current_screen` -/
  currentScreen : Int
  /-- `title_prefix` -/
  titlePrefix : Str
  /-- `screen` -/
  screen : Screen
  deriving DecidableEq, Repr

/-- What a round of the loop over the mailboxes has done so far. -/
structure MailRound where
  /-- `box` -/
  box : Mailbox
  /-- `folder` is not `NULL`. -/
  folder : Bool
  /-- `messages` is not `NULL`. -/
  messages : Bool
  /-- `mail->email` -/
  email : List Email
  /-- What libetpan was asked. -/
  calls : List EtpanCall
  deriving DecidableEq, Repr

namespace MailRound

variable (etpan : Libetpan) (mb : ℕ) (r : MailRound)

/-- Calls behind which the round goes to `end_loop` when they fail. -/
def call (calls : List EtpanCall) (ok : Bool) : Except MailRound MailRound :=
  if ok then .ok { r with calls := r.calls ++ calls }
  else .error { r with calls := r.calls ++ calls }

/-- `mailfolder_status` writes what it counts to the mailbox. -/
def setStatus (status : Option MailboxStatus) : MailRound :=
  match status with
  | none => r
  | some status =>
    { r with box := { r.box with
        messagesTotal := status.total, messagesSeen := status.seen,
        messagesUnseen := status.unseen } }

/-- A round of the loop over the header of a message. -/
def readField (email : Email) : MailimfField → Email
  | .from displayNames =>
    { email with «from» := some (stringCanon (etpan.displayFrom displayNames)) }
  | .subject value => { email with subject := some (stringCanon (etpan.displaySubject value)) }
  | .other => email

/-- The email for a header, with the value of `message_number`. -/
def newEmail (hdr : List MailimfField) (messageNumber : ℕ) : Email :=
  { hdr.foldl (readField etpan) ⟨0, 0, none, none⟩ with
    box := mb
    messageNumberInBox := messageNumber }

/-- **A round of the loop over the messages**: the list and `message_number` behind it. -/
def checkMessage (s : List Email × ℕ) (message : MessageAnswers) : List Email × ℕ :=
  match message.envelope with
  | none => s
  | some hdr =>
    if message.flags.any (fun flags => flags &&& etpan.flagSeen ≠ 0#32) then s
    else (s.1 ++ [newEmail etpan mb hdr s.2], s.2 + 1)

/-- The loop over the messages. -/
def checkMessages (messages : List MessageAnswers) : MailRound :=
  { r with email := (messages.foldl (checkMessage etpan mb) (r.email, 1)).1 }

/-- **A round as far as `end_loop`**, which it goes to with an error where it does so early. -/
def check : Except MailRound MailRound := do
  let answers := etpan.answers mb
  let init := initStorage r.box (getDriver r.box.type) answers.init
  let r ← r.call init.1 init.2
  let r ← r.call [.folderNew r.box.mailboxName] answers.folderNew
  let r ← { r with folder := true }.call [.folderConnect] answers.connect
  let r ← r.call [.folderStatus] answers.status.isSome
  let r := r.setStatus answers.status
  -- no message is fetched from a hidden mailbox
  let r ← r.call [] !r.box.hidden
  let r ← r.call [.getMessagesList] answers.messagesList.isSome
  let r ← { r with messages := true }.call [.getEnvelopesList] answers.envelopesList
  return r.checkMessages etpan mb (answers.messagesList.getD [])

/-- `end_loop` -/
def endLoop : MailRound :=
  { r with calls := r.calls
      ++ (if r.box.type = "maildir".toList then [.freeSession] else [])
      ++ (if r.messages then [.messageListFree] else [])
      ++ (if r.folder then [.folderFree] else []) ++ [.storageFree] }

/-- What a round has done when it comes to `end_loop`, early or not. -/
def reached : Except MailRound MailRound → MailRound
  | .ok r => r
  | .error r => r

/-- A whole round. -/
def run : MailRound := (reached (r.check etpan mb)).endLoop

end MailRound

/-- What the loop over the mailboxes has done so far. -/
structure MailLoop where
  /-- The mailboxes, as they are behind their rounds. -/
  boxes : List Mailbox
  /-- `mail->email` -/
  email : List Email
  /-- The commands that were queued. -/
  cmds : List Command
  /-- What libetpan was asked. -/
  calls : List EtpanCall
  deriving DecidableEq, Repr

namespace LcdStuffMail

variable (etpan : Libetpan) (mail : LcdStuffMail)

/-- `update_screen` -/
def updateScreen (title line1 line2 line3 : Option Str) : List Command :=
  (match title with
    | none => []
    | some [] => mail.screen.setTitle (some mail.titlePrefix)
    | some title => mail.screen.setTitle (some (mail.titlePrefix ++ ": ".toList ++ title)))
    ++ mail.screen.showText 0 line1 ++ mail.screen.showText 1 line2 ++ mail.screen.showText 2 line3

/-- `free_emails` -/
def freeEmails : LcdStuffMail := { mail with email := [] }

/-- **A round of the loop over the mailboxes**, for the one at a place. -/
def checkMailbox (s : MailLoop) (p : Mailbox × ℕ) : MailLoop :=
  let (box, mb) := p
  let cmds := if isLocal box.type then []
    else mail.updateScreen (some box.name) (some []) (some "  Receiving ...".toList) (some [])
  let box := if isLocal box.type then box
    else { box with messagesSeen := 0, messagesTotal := 0, messagesUnseen := 0 }
  let r := MailRound.run etpan mb ⟨box, false, false, s.email, []⟩
  ⟨s.boxes ++ [r.box], r.email, s.cmds ++ cmds, s.calls ++ r.calls⟩

/-- `mail_check`: what it leaves in the module, the commands it queues, and what libetpan is
asked. -/
def check : LcdStuffMail × List Command × List EtpanCall :=
  let mail := freeEmails { mail with currentScreen := 0 }
  let s := mail.mailboxes.zipIdx.foldl (checkMailbox etpan mail) ⟨[], mail.email, [], []⟩
  ({ mail with mailboxes := s.boxes, email := s.email }, s.cmds, s.calls)

end LcdStuffMail

/-! ## What is listed -/

/-- **A message is listed** when its envelope could be fetched and it is not flagged seen. A query
for the flags that fails counts as not seen. -/
def MessageAnswers.isListed (etpan : Libetpan) (message : MessageAnswers) : Bool :=
  message.envelope.isSome && !message.flags.any (fun flags => flags &&& etpan.flagSeen ≠ 0#32)

/-- **A mailbox is listed** when it is not hidden and every step as far as its messages
succeeds. -/
def MailboxAnswers.isListed (answers : MailboxAnswers) (box : Mailbox) : Bool :=
  !box.hidden && (initStorage box (getDriver box.type) answers.init).2 && answers.folderNew
    && answers.connect && answers.status.isSome && answers.messagesList.isSome
    && answers.envelopesList

/-- **The emails of a mailbox**: its messages that are listed, numbered from one, each with the
subject and the sender of its header. -/
def MailboxAnswers.emails (answers : MailboxAnswers) (etpan : Libetpan) (mb : ℕ) : List Email :=
  ((answers.messagesList.getD []).filter (MessageAnswers.isListed etpan)).mapIdx
    (fun i message =>
      let header :=
        (message.envelope.getD []).foldl (MailRound.readField etpan) ⟨0, 0, none, none⟩
      ⟨mb, i + 1, header.subject, header.from⟩)

/-- The steps of a mailbox that is listed, in their order. -/
theorem MailboxAnswers.isListed_iff (answers : MailboxAnswers) (box : Mailbox) :
    answers.isListed box = true ↔ (initStorage box (getDriver box.type) answers.init).2 = true
      ∧ answers.folderNew = true ∧ answers.connect = true ∧ answers.status.isSome = true
      ∧ (!box.hidden) = true ∧ answers.messagesList.isSome = true
      ∧ answers.envelopesList = true := by
  unfold isListed
  simp only [Bool.and_eq_true]
  constructor
  · rintro ⟨⟨⟨⟨⟨⟨hhidden, hinit⟩, hfolder⟩, hconnect⟩, hstatus⟩, hmessages⟩, henvelopes⟩
    exact ⟨hinit, hfolder, hconnect, hstatus, hhidden, hmessages, henvelopes⟩
  · rintro ⟨hinit, hfolder, hconnect, hstatus, hhidden, hmessages, henvelopes⟩
    exact ⟨⟨⟨⟨⟨⟨hhidden, hinit⟩, hfolder⟩, hconnect⟩, hstatus⟩, hmessages⟩, henvelopes⟩

namespace MailRound

variable {etpan : Libetpan} {mb : ℕ}

/-- A round of the loop over the messages appends the message, if it is listed, and counts it. -/
theorem checkMessage_eq (emails : List Email) (n : ℕ) (message : MessageAnswers) :
    checkMessage etpan mb (emails, n) message =
      if message.isListed etpan then
        (emails ++ [newEmail etpan mb (message.envelope.getD []) n], n + 1)
      else (emails, n) := by
  unfold checkMessage MessageAnswers.isListed
  cases message.envelope with
  | none => rfl
  | some hdr =>
    dsimp only
    cases message.flags.any (fun flags => flags &&& etpan.flagSeen ≠ 0#32) with
    | false => rfl
    | true => rfl

/-- **The loop over the messages** appends those that are listed, with their numbers. -/
theorem foldl_checkMessage (messages : List MessageAnswers) (emails : List Email) (n : ℕ) :
    (messages.foldl (checkMessage etpan mb) (emails, n)).1 = emails
      ++ (messages.filter (MessageAnswers.isListed etpan)).mapIdx
        (fun i message => newEmail etpan mb (message.envelope.getD []) (i + n)) := by
  induction messages generalizing emails n with
  | nil => exact (List.append_nil emails).symm
  | cons message messages ih =>
    rw [List.foldl_cons, checkMessage_eq]
    by_cases hlisted : message.isListed etpan = true
    · rw [if_pos hlisted, ih, List.filter_cons_of_pos hlisted, List.mapIdx_cons, List.append_assoc]
      have hnext : ∀ i, i + 1 + n = i + (n + 1) := fun i => Nat.add_right_comm i 1 n
      simp only [Nat.zero_add, hnext]
      rfl
    · rw [if_neg hlisted, ih, List.filter_cons_of_neg hlisted]

/-- **A call, and how the round goes on** if it succeeds. -/
theorem reached_call_bind (r : MailRound) (calls : List EtpanCall) (ok : Bool)
    (f : MailRound → Except MailRound MailRound) :
    reached (r.call calls ok >>= f) =
      if ok = true then reached (f { r with calls := r.calls ++ calls })
      else { r with calls := r.calls ++ calls } := by
  cases ok with
  | false => rfl
  | true => rfl

/-- **What a call leaves as it is**, when a round has come to `end_loop` behind one. -/
theorem apply_reached_call_bind {β : Type} (g : MailRound → β)
    (hg : ∀ (r : MailRound) (calls : List EtpanCall), g { r with calls := calls } = g r)
    (r : MailRound) (calls : List EtpanCall) (ok : Bool)
    (f : MailRound → Except MailRound MailRound) :
    g (reached (r.call calls ok >>= f)) =
      if ok = true then g (reached (f { r with calls := r.calls ++ calls })) else g r := by
  rw [reached_call_bind, apply_ite g]
  exact if_congr Iff.rfl rfl (hg r _)

/-- The status leaves all but the counts as it is. -/
theorem setStatus_eq (r : MailRound) (status : Option MailboxStatus) :
    (r.setStatus status).email = r.email ∧ (r.setStatus status).folder = r.folder
      ∧ (r.setStatus status).messages = r.messages
      ∧ (r.setStatus status).box.hidden = r.box.hidden
      ∧ (r.setStatus status).box.type = r.box.type := by
  cases status with
  | none => exact ⟨rfl, rfl, rfl, rfl, rfl⟩
  | some status => exact ⟨rfl, rfl, rfl, rfl, rfl⟩

/-- The loop over the messages appends the emails of the mailbox. -/
theorem email_checkMessages (r : MailRound) :
    (r.checkMessages etpan mb ((etpan.answers mb).messagesList.getD [])).email
      = r.email ++ (etpan.answers mb).emails etpan mb :=
  foldl_checkMessage _ r.email 1

/-- **A round appends the emails of its mailbox**, if that is listed, and else it leaves the list
as it is. -/
theorem email_run (r : MailRound) :
    (r.run etpan mb).email = r.email
      ++ if (etpan.answers mb).isListed r.box then (etpan.answers mb).emails etpan mb else [] := by
  show (reached (r.check etpan mb)).email = _
  unfold check
  -- early or late, the round comes to `end_loop`
  simp only [apply_reached_call_bind MailRound.email (fun _ _ => rfl), setStatus_eq, ← ite_and]
  by_cases hlisted : (etpan.answers mb).isListed r.box = true
  · rw [if_pos hlisted, if_pos ((MailboxAnswers.isListed_iff _ _).mp hlisted)]
    exact email_checkMessages _
  · rw [if_neg hlisted, if_neg (mt (MailboxAnswers.isListed_iff _ _).mpr hlisted),
      List.append_nil]

end MailRound

namespace LcdStuffMail

variable (etpan : Libetpan)

/-- A round of the loop over the mailboxes appends the emails of the mailbox. -/
theorem email_checkMailbox (mail : LcdStuffMail) (s : MailLoop) (p : Mailbox × ℕ) :
    (mail.checkMailbox etpan s p).email = s.email
      ++ if (etpan.answers p.2).isListed p.1 then (etpan.answers p.2).emails etpan p.2 else [] := by
  unfold checkMailbox
  dsimp only
  rw [MailRound.email_run]
  cases isLocal p.1.type with
  | false => rfl
  | true => rfl

/-- The emails of the mailboxes that are listed, mailbox by mailbox. -/
def listedEmails (boxes : List Mailbox) : List Email :=
  boxes.zipIdx.flatMap (fun p =>
    if (etpan.answers p.2).isListed p.1 then (etpan.answers p.2).emails etpan p.2 else [])

/-- The loop over the mailboxes lists them. -/
theorem check_email_eq (mail : LcdStuffMail) :
    (mail.check etpan).1.email = listedEmails etpan mail.mailboxes := by
  unfold listedEmails
  rw [List.flatMap_eq_foldl]
  exact (List.foldl_hom MailLoop.email
    (fun s p => (email_checkMailbox etpan _ s p).symm)).symm

/-- **The emails after a check** are those of the mailboxes that are listed, mailbox by
mailbox, whatever the list was before. -/
theorem email_check (mail : LcdStuffMail) :
    (mail.check etpan).1.email = mail.mailboxes.zipIdx.flatMap (fun p =>
      if (etpan.answers p.2).isListed p.1 then (etpan.answers p.2).emails etpan p.2 else []) := by
  exact check_email_eq etpan mail

end LcdStuffMail
