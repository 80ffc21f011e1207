import LcdStuff.Heap
import LcdStuff.MailScreen

/-!
# The memory of the mail module

`mail_init` allocates a `struct mailbox` with six strings for each mailbox, and `mail_check` a
`struct email` with its sender and its subject for each message that it lists. The e-mails are
freed when it is time for the next check, and everything when the program ends; `show_screen`
builds its texts piece by piece and frees every piece.

The functions are written here once more, with pointers in place of the values, so that what is
freed too early or twice has no result. What the module owns is a list of cells for each mailbox
and each e-mail, and there is one rule for each function: `show_screen` leaves the cells of the
others alone and nothing behind (`MailMemory.showScreen_eq`). The nodes of the lists are those of
GLib and left out.
-/

/-- A mailbox of which nothing was counted yet. -/
def Mailbox.fresh (box : Mailbox) : Mailbox :=
  { box with messagesSeen := 0, messagesUnseen := 0, messagesTotal := 0 }

/-- The module behind `mail_init`. -/
def LcdStuffMail.init (titlePrefix : Str) (boxes : List Mailbox) (screen : Screen) :
    LcdStuffMail :=
  ⟨boxes.map Mailbox.fresh, [], 0, titlePrefix, screen⟩

/-! ## The functions over the memory -/

/-- `struct mailbox`, with the addresses of its strings -/
structure MailboxBlock where
  /-- `server` -/
  server : Option ℕ
  /-- `username` -/
  username : Option ℕ
  /-- `password` -/
  password : Option ℕ
  /-- `name` -/
  name : Option ℕ
  /-- `type` -/
  type : Option ℕ
  /-- `mailbox_name` -/
  mailboxName : Option ℕ
  /-- `messages_seen` -/
  messagesSeen : BitVec 32
  /-- `messages_unseen` -/
  messagesUnseen : BitVec 32
  /-- `messages_total` -/
  messagesTotal : BitVec 32
  /-- `hidden` -/
  hidden : Bool
  deriving DecidableEq, Repr

/-- `struct email`, with the addresses of its mailbox and of its strings -/
structure EmailBlock where
  /-- `box` -/
  box : Option ℕ
  /-- `message_number_in_box` -/
  messageNumberInBox : ℕ
  /-- `subject` -/
  subject : Option ℕ
  /-- `from` -/
  «from» : Option ℕ
  deriving DecidableEq, Repr

/-- **What is allocated.** -/
inductive MailBlock where
  /-- A string. -/
  | string (s : Str)
  /-- A `struct mailbox`. -/
  | mailbox (box : MailboxBlock)
  /-- A `struct email`. -/
  | email (email : EmailBlock)
  deriving DecidableEq, Repr

/-- `struct lcd_stuff_mail`, with the memory it points to. -/
structure MailMemory where
  /-- What is allocated. -/
  heap : Heap MailBlock
  /-- `mailboxes` -/
  mailboxes : List ℕ
  /-- `email` -/
  email : List ℕ
  /-- `current_screen` -/
  currentScreen : Int
  /-- `title_prefix` -/
  titlePrefix : Option ℕ
  /-- `screen` -/
  screen : Screen

namespace MailMemory

/-- The string at an address. -/
def stringAt (h : Heap MailBlock) (p : Option ℕ) : Option Str := do
  match ← h.read (← p) with
  | .string s => some s
  | _ => none

/-- The mailbox at an address. -/
def mailboxAt (h : Heap MailBlock) (p : ℕ) : Option MailboxBlock := do
  match ← h.read p with
  | .mailbox box => some box
  | _ => none

/-- The e-mail at an address. -/
def emailAt (h : Heap MailBlock) (p : ℕ) : Option EmailBlock := do
  match ← h.read p with
  | .email email => some email
  | _ => none

/-- `g_free` -/
def gFree (h : Heap MailBlock) : Option ℕ → Option (Heap MailBlock)
  | none => some h
  | some p => h.free p

/-! ### `mail_init` -/

/-- A string is allocated and stored in a mailbox. -/
def setString (box : ℕ) (h : Heap MailBlock) (field : ℕ → MailboxBlock → MailboxBlock)
    (text : Str) : Option (Heap MailBlock) := do
  let (string, h) := h.malloc (.string text)
  let b ← mailboxAt h box
  h.write box (.mailbox (field string b))

/-- A round of the loop of `mail_init`, for what the file says of the mailbox. -/
def initMailbox (h : Heap MailBlock) (box : Mailbox) : Option (ℕ × Heap MailBlock) := do
  let (cur, h) := h.malloc (.mailbox ⟨none, none, none, none, none, none, 0, 0, 0, false⟩)
  let h ← setString cur h (fun p b => { b with server := some p }) box.server
  let h ← setString cur h (fun p b => { b with username := some p }) box.username
  let h ← setString cur h (fun p b => { b with type := some p }) box.type
  let h ← setString cur h (fun p b => { b with password := some p }) box.password
  let h ← setString cur h (fun p b => { b with mailboxName := some p }) box.mailboxName
  let b ← mailboxAt h cur
  let h ← h.write cur (.mailbox { b with hidden := box.hidden })
  let h ← setString cur h (fun p b => { b with name := some p }) box.name
  some (cur, h)

/-- The loop of `mail_init`. -/
def initMailboxes (h : Heap MailBlock) (boxes : List Mailbox) :
    Option (List ℕ × Heap MailBlock) :=
  boxes.foldlM (fun s box => do
    let (cur, h) ← initMailbox s.2 box
    some (s.1 ++ [cur], h)) ([], h)

/-- **`mail_init`**, for what the file says. -/
def init (titlePrefix : Str) (boxes : List Mailbox) (screen : Screen) : Option MailMemory := do
  let (title, h) := Heap.empty.malloc (.string titlePrefix)
  let (mailboxes, h) ← initMailboxes h boxes
  some ⟨h, mailboxes, [], 0, some title, screen⟩

/-! ### `show_screen` -/

/-- `update_screen` -/
def updateScreen (m : MailMemory) (h : Heap MailBlock) (title line1 line2 line3 : Option Str) :
    Option (List Command) := do
  let titlePrefix ← stringAt h m.titlePrefix
  some (LcdStuffMail.updateScreen ⟨[], [], 0, titlePrefix, m.screen⟩ title line1 line2 line3)

/-- `line1_old`: the line so far, or an empty string. -/
def line1Old (h : Heap MailBlock) : Option ℕ → ℕ × Heap MailBlock
  | some line1 => (line1, h)
  | none => h.malloc (.string [])

/-- A round of the loop of `show_screen` over the mailboxes. -/
def line1Body (s : Heap MailBlock × Option ℕ) (box : ℕ) :
    Option (Heap MailBlock × Option ℕ) := do
  let (old, h) := line1Old s.1 s.2
  let b ← mailboxAt h box
  let text := (← stringAt h (some old))
    ++ LcdStuffMail.counted (← stringAt h b.name) b.messagesUnseen.toInt
  let (line1, h) := h.malloc (.string text)
  let h ← h.free old
  some (h, some line1)

/-- What `%s %d` prints for an e-mail. -/
def emailTitle (h : Heap MailBlock) (email : EmailBlock) : Option Str := do
  let b ← mailboxAt h (← email.box)
  some ((← stringAt h b.name) ++ " ".toList ++ decimal email.messageNumberInBox)

/-- The string at an address, or an empty one for `NULL`. -/
def textAt (h : Heap MailBlock) : Option ℕ → Option Str
  | none => some []
  | some p => stringAt h (some p)

/-- The string at an address, or `NULL`. -/
def lineAt (h : Heap MailBlock) : Option ℕ → Option (Option Str)
  | none => some none
  | some p => (stringAt h (some p)).map some

/-- The title that `show_screen` allocates, and the two lines of the e-mail. -/
def showEmail (h : Heap MailBlock) :
    Option ℕ → Option (ℕ × Heap MailBlock × Option ℕ × Option ℕ)
  | none =>
    let (title, h) := h.malloc (.string [])
    some (title, h, none, none)
  | some p => do
    let email ← emailAt h p
    let text ← emailTitle h email
    let (title, h) := h.malloc (.string text)
    some (title, h, email.from, email.subject)

/-- **`show_screen`** -/
def showScreen (m : MailMemory) : Option (MailMemory × List Command) := do
  let (h, line1) ← m.mailboxes.foldlM line1Body (m.heap, none)
  let pos := Carousel.clamp m.email.length m.currentScreen
  let (title, h, line2, line3) ← showEmail h (Carousel.itemAt pos m.email 0)
  let cmds ← m.updateScreen h (some (← stringAt h (some title))) (← lineAt h line1)
    (some (← textAt h line2)) (some (← textAt h line3))
  let h ← h.free title
  let h ← gFree h line1
  some ({ m with heap := h, currentScreen := pos }, cmds)

/-! ### `mail_check` -/

/-- A round of the loop of `free_emails`. -/
def freeEmail (h : Heap MailBlock) (p : ℕ) : Option (Heap MailBlock) := do
  let email ← emailAt h p
  let h ← gFree h email.from
  let email ← emailAt h p
  let h ← gFree h email.subject
  h.free p

/-- `free_emails` -/
def freeEmails (m : MailMemory) : Option MailMemory := do
  let h ← m.email.foldlM freeEmail m.heap
  some { m with heap := h, email := [] }

/-- A text of a header is allocated and stored in an e-mail, and `string_canon` goes over it. -/
def setText (email : ℕ) (h : Heap MailBlock) (field : ℕ → EmailBlock → EmailBlock) (text : Str) :
    Option (Heap MailBlock) := do
  let (string, h) := h.malloc (.string text)
  let e ← emailAt h email
  let h ← h.write email (.email (field string e))
  h.write string (.string (stringCanon (← stringAt h (some string))))

variable (etpan : Libetpan)

/-- A round of the loop over the header of a message. -/
def readField (email : ℕ) (h : Heap MailBlock) : MailimfField → Option (Heap MailBlock)
  | .from displayNames =>
    setText email h (fun p e => { e with «from» := some p }) (etpan.displayFrom displayNames)
  | .subject value =>
    setText email h (fun p e => { e with subject := some p }) (etpan.displaySubject value)
  | .other => some h

/-- The e-mail for a header, with the value of `message_number`. -/
def newEmail (box : ℕ) (h : Heap MailBlock) (hdr : List MailimfField) (messageNumber : ℕ) :
    Option (ℕ × Heap MailBlock) := do
  let (email, h) := h.malloc (.email ⟨none, 0, none, none⟩)
  let h ← hdr.foldlM (readField etpan email) h
  let e ← emailAt h email
  let h ← h.write email (.email { e with box := some box, messageNumberInBox := messageNumber })
  some (email, h)

/-- A round of the loop over the messages: the memory, the list and `message_number`. -/
def checkMessage (box : ℕ) (s : Heap MailBlock × List ℕ × ℕ) (message : MessageAnswers) :
    Option (Heap MailBlock × List ℕ × ℕ) :=
  match message.envelope with
  | none => some s
  | some hdr =>
    if message.flags.any (fun flags => flags &&& etpan.flagSeen ≠ 0#32) then some s
    else do
      let (email, h) ← newEmail etpan box s.1 hdr s.2.2
      some (h, s.2.1 ++ [email], s.2.2 + 1)

/-- The mailbox at an address, with its strings. -/
def readMailbox (h : Heap MailBlock) (p : ℕ) : Option Mailbox := do
  let b ← mailboxAt h p
  some
    { server := ← stringAt h b.server
      username := ← stringAt h b.username
      password := ← stringAt h b.password
      name := ← stringAt h b.name
      type := ← stringAt h b.type
      mailboxName := ← stringAt h b.mailboxName
      messagesSeen := b.messagesSeen
      messagesUnseen := b.messagesUnseen
      messagesTotal := b.messagesTotal
      hidden := b.hidden }

/-- A round of the loop over the mailboxes from `init_storage` as far as `end_loop`, for the
mailbox at an address. -/
def fetch (p : ℕ) (answers : MailboxAnswers) (h : Heap MailBlock) (box : Mailbox)
    (email : List ℕ) : Option (Heap MailBlock × List ℕ) :=
  if ¬ ((initStorage box (getDriver box.type) answers.init).2 = true ∧ answers.folderNew = true
      ∧ answers.connect = true) then some (h, email)
  else
    match answers.status with
    | none => some (h, email)
    | some status => do
      let b ← mailboxAt h p
      let h ← h.write p (.mailbox { b with
        messagesTotal := status.total, messagesSeen := status.seen,
        messagesUnseen := status.unseen })
      if b.hidden then some (h, email)
      else
        match answers.messagesList with
        | none => some (h, email)
        | some messages =>
          if answers.envelopesList = false then some (h, email)
          else do
            let s ← messages.foldlM (checkMessage etpan p) (h, email, 1)
            some (s.1, s.2.1)

/-- **A round of the loop over the mailboxes**, for the one at an address and a place. -/
def checkMailbox (m : MailMemory) (s : Heap MailBlock × List ℕ × List Command) (p : ℕ × ℕ) :
    Option (Heap MailBlock × List ℕ × List Command) := do
  let b ← mailboxAt s.1 p.1
  let (h, cmds) ←
    if isLocal (← stringAt s.1 b.type) then some (s.1, [])
    else do
      let cmds ← m.updateScreen s.1 (some (← stringAt s.1 b.name)) (some [])
        (some "  Receiving ...".toList) (some [])
      let h ← s.1.write p.1 (.mailbox { b with
        messagesSeen := 0, messagesTotal := 0, messagesUnseen := 0 })
      some (h, cmds)
  let box ← readMailbox h p.1
  let (h, email) ← fetch etpan p.1 (etpan.answers p.2) h box s.2.1
  -- the type is looked at once more
  let _ ← stringAt h (← mailboxAt h p.1).type
  some (h, email, s.2.2 ++ cmds)

/-- **`mail_check`** -/
def check (m : MailMemory) : Option (MailMemory × List Command) := do
  let m ← freeEmails { m with currentScreen := 0 }
  let s ← m.mailboxes.zipIdx.foldlM (checkMailbox etpan m) (m.heap, m.email, [])
  some ({ m with heap := s.1, email := s.2.1 }, s.2.2)

/-! ### A run -/

/-- **An event.** -/
def next (m : MailMemory) : MailEvent → Option (MailMemory × List Command)
  | .refresh etpan => do
    let (m, cmds) ← m.check etpan
    let (m, cmds') ← m.showScreen
    some (m, cmds ++ cmds')
  | .nav event => { m with currentScreen := m.currentScreen + event.delta }.showScreen

/-- One event after the other. -/
def run (m : MailMemory) : List MailEvent → Option (MailMemory × List Command)
  | [] => some (m, [])
  | event :: events => do
    let (m, cmds) ← m.next event
    let (m, cmds') ← run m events
    some (m, cmds ++ cmds')

/-- `mail_check` when it has freed some e-mails, and not yet the others. -/
def inFreeEmails (m : MailMemory) (k : ℕ) : Option MailMemory := do
  let h ← (m.email.take k).foldlM freeEmail m.heap
  some { m with heap := h, currentScreen := 0 }

/-- What `mail_run` frees of a mailbox. -/
def freeMailbox (h : Heap MailBlock) (p : ℕ) : Option (Heap MailBlock) := do
  let h ← gFree h (← mailboxAt h p).server
  let h ← gFree h (← mailboxAt h p).username
  let h ← gFree h (← mailboxAt h p).mailboxName
  let h ← gFree h (← mailboxAt h p).password
  let h ← gFree h (← mailboxAt h p).name
  let h ← gFree h (← mailboxAt h p).type
  h.free p

/-- What `mail_run` frees at its end. -/
def exit (m : MailMemory) : Option (Heap MailBlock) := do
  let m ← m.freeEmails
  let h ← m.mailboxes.foldlM freeMailbox m.heap
  gFree h m.titlePrefix

/-! ## What the module owns -/

/-- **A mailbox in the memory**: its strings, and the `struct mailbox`. -/
inductive MailboxCells : ℕ → Mailbox → List (Heap.Cell MailBlock) → Prop
  /-- A `struct mailbox` with its strings, as they are freed. -/
  | mailbox (p server username mailboxName password name type : ℕ) (box : Mailbox) :
    MailboxCells p box [⟨server, .string box.server⟩, ⟨username, .string box.username⟩,
      ⟨mailboxName, .string box.mailboxName⟩, ⟨password, .string box.password⟩,
      ⟨name, .string box.name⟩, ⟨type, .string box.type⟩,
      ⟨p, .mailbox ⟨some server, some username, some password, some name, some type,
        some mailboxName, box.messagesSeen, box.messagesUnseen, box.messagesTotal,
        box.hidden⟩⟩]

/-- A text in the memory, or `NULL`. -/
inductive TextCells : Option ℕ → Option Str → List (Heap.Cell MailBlock) → Prop
  /-- `NULL` -/
  | null : TextCells none none []
  /-- A string. -/
  | text (p : ℕ) (s : Str) : TextCells (some p) (some s) [⟨p, .string s⟩]

/-- **An e-mail in the memory**: its texts, and the `struct email`, which points to one of the
mailboxes. -/
inductive EmailCells (mailboxes : List ℕ) : ℕ → Email → List (Heap.Cell MailBlock) → Prop
  /-- A `struct email` with its texts, as they are freed. -/
  | email {p box : ℕ} {sender subject : Option ℕ} {a b : List (Heap.Cell MailBlock)}
    {email : Email} (hbox : mailboxes[email.box]? = some box)
    (hsender : TextCells sender email.from a) (hsubject : TextCells subject email.subject b) :
    EmailCells mailboxes p email
      (a ++ (b ++ [⟨p, .email ⟨some box, email.messageNumberInBox, subject, sender⟩⟩]))

variable {h : Heap MailBlock} {cells : List (Heap.Cell MailBlock)}

theorem stringAt_of_mem (hh : h.Holds cells) {p : ℕ} {s : Str} (hmem : ⟨p, .string s⟩ ∈ cells) :
    stringAt h (some p) = some s := by
  show (h.read p).bind _ = _
  rw [hh.read hmem]
  rfl

theorem mailboxAt_of_mem (hh : h.Holds cells) {p : ℕ} {b : MailboxBlock}
    (hmem : ⟨p, .mailbox b⟩ ∈ cells) : mailboxAt h p = some b := by
  show (h.read p).bind _ = _
  rw [hh.read hmem]
  rfl

theorem emailAt_of_mem (hh : h.Holds cells) {p : ℕ} {e : EmailBlock}
    (hmem : ⟨p, .email e⟩ ∈ cells) : emailAt h p = some e := by
  show (h.read p).bind _ = _
  rw [hh.read hmem]
  rfl

/-! ## The mailboxes -/

theorem setString_eq {box : ℕ} {b : MailboxBlock} (hh : h.Holds (⟨box, .mailbox b⟩ :: cells))
    (field : ℕ → MailboxBlock → MailboxBlock) (text : Str) :
    ∃ q h', setString box h field text = some h'
      ∧ h'.Holds (⟨box, .mailbox (field q b)⟩ :: ⟨q, .string text⟩ :: cells) := by
  obtain ⟨q, h₁, hmalloc, hh₁⟩ := hh.malloc (.string text)
  obtain ⟨h', hwrite, hh'⟩ :=
    (hh₁.perm (List.Perm.swap _ _ _)).write (.mailbox (field q b))
  have hread := mailboxAt_of_mem hh₁ (List.mem_cons_of_mem _ List.mem_cons_self)
  refine ⟨q, h', ?_, hh'⟩
  simp only [setString, hmalloc, hread, Option.bind_eq_bind, Option.bind_some]
  exact hwrite

/-- The order in which the cells of a mailbox are freed, and that in which they were allocated. -/
theorem perm_seven {α : Type} (a b c d e f g : α) :
    [g, f, c, d, b, e, a].Perm [a, b, c, d, e, f, g] :=
  List.Perm.map (fun i => [a, b, c, d, e, f, g].getD i a)
    (show [6, 5, 2, 3, 1, 4, 0].Perm [0, 1, 2, 3, 4, 5, 6] by decide)

/-- **A mailbox is allocated.** -/
theorem initMailbox_eq (hh : h.Holds cells) (box : Mailbox) :
    ∃ p h' a, initMailbox h box = some (p, h') ∧ MailboxCells p box.fresh a
      ∧ h'.Holds (a ++ cells) := by
  obtain ⟨p, h₁, hmalloc, hh₁⟩ :=
    hh.malloc (.mailbox ⟨none, none, none, none, none, none, 0, 0, 0, false⟩)
  obtain ⟨server, h₂, hserver, hh₂⟩ :=
    setString_eq hh₁ (fun p b => { b with server := some p }) box.server
  obtain ⟨username, h₃, husername, hh₃⟩ :=
    setString_eq hh₂ (fun p b => { b with username := some p }) box.username
  obtain ⟨type, h₄, htype, hh₄⟩ :=
    setString_eq hh₃ (fun p b => { b with type := some p }) box.type
  obtain ⟨password, h₅, hpassword, hh₅⟩ :=
    setString_eq hh₄ (fun p b => { b with password := some p }) box.password
  obtain ⟨mailboxName, h₆, hmailboxName, hh₆⟩ :=
    setString_eq hh₅ (fun p b => { b with mailboxName := some p }) box.mailboxName
  have hread := mailboxAt_of_mem hh₆ List.mem_cons_self
  obtain ⟨h₇, hhidden, hh₇⟩ := hh₆.write (.mailbox ⟨some server, some username, some password,
    none, some type, some mailboxName, 0, 0, 0, box.hidden⟩)
  obtain ⟨name, h₈, hname, hh₈⟩ :=
    setString_eq hh₇ (fun p b => { b with name := some p }) box.name
  refine ⟨p, h₈, _, ?_, .mailbox p server username mailboxName password name type _, ?_⟩
  · simp only [initMailbox, hmalloc, hserver, husername, htype, hpassword, hmailboxName, hread,
      hhidden, hname, Option.bind_eq_bind, Option.bind_some]
  · exact hh₈.perm ((perm_seven _ _ _ _ _ _ _).append_right cells)

/-- **The mailboxes are allocated**, behind those that are there. -/
theorem initMailboxes_eq (boxes : List Mailbox) (hh : h.Holds cells) :
    ∃ ps h' a, initMailboxes h boxes = some (ps, h')
      ∧ Heap.Each MailboxCells ps (boxes.map Mailbox.fresh) a ∧ h'.Holds (a ++ cells) := by
  have hloop : ∀ (boxes : List Mailbox) (ps : List ℕ) (h : Heap MailBlock)
      (cells : List (Heap.Cell MailBlock)), h.Holds cells →
      ∃ ps' h' a, boxes.foldlM (fun s box => do
          let (cur, h) ← initMailbox s.2 box
          some (s.1 ++ [cur], h)) (ps, h) = some (ps ++ ps', h')
        ∧ Heap.Each MailboxCells ps' (boxes.map Mailbox.fresh) a ∧ h'.Holds (a ++ cells) := by
    intro boxes
    induction boxes with
    | nil =>
      intro ps h cells hh
      exact ⟨[], h, [], by rw [List.append_nil]; rfl, .nil, hh⟩
    | cons box boxes ih =>
      intro ps h cells hh
      obtain ⟨p, h₁, a, hbox, hcells, hh₁⟩ := initMailbox_eq hh box
      obtain ⟨ps', h', a', hrest, heach, hh'⟩ := ih (ps ++ [p]) h₁ (a ++ cells) hh₁
      refine ⟨p :: ps', h', a ++ a', ?_, .cons hcells heach, ?_⟩
      · rw [List.foldlM_cons, hbox]
        refine Eq.trans hrest ?_
        rw [List.append_assoc]
        rfl
      · rw [List.append_assoc]
        exact hh'.swap
  exact hloop boxes [] h cells hh

/-- **A mailbox is freed.** -/
theorem freeMailbox_eq {p : ℕ} {box : Mailbox} {a : List (Heap.Cell MailBlock)}
    (hbox : MailboxCells p box a) (hh : h.Holds (a ++ cells)) :
    ∃ h', freeMailbox h p = some h' ∧ h'.Holds cells := by
  cases hbox with
  | mailbox server username mailboxName password name type box =>
    have hread : ∀ {h : Heap MailBlock} (front : List (Heap.Cell MailBlock)) {b : MailboxBlock},
        h.Holds (front ++ ⟨p, .mailbox b⟩ :: cells) → mailboxAt h p = some b :=
      fun front _ hh => mailboxAt_of_mem hh (List.mem_append_right _ List.mem_cons_self)
    obtain ⟨h₁, hfree₁, hh₁⟩ := hh.free
    obtain ⟨h₂, hfree₂, hh₂⟩ := Heap.Holds.free hh₁
    obtain ⟨h₃, hfree₃, hh₃⟩ := Heap.Holds.free hh₂
    obtain ⟨h₄, hfree₄, hh₄⟩ := Heap.Holds.free hh₃
    obtain ⟨h₅, hfree₅, hh₅⟩ := Heap.Holds.free hh₄
    obtain ⟨h₆, hfree₆, hh₆⟩ := Heap.Holds.free hh₅
    obtain ⟨h₇, hfree₇, hh₇⟩ := Heap.Holds.free hh₆
    refine ⟨h₇, ?_, hh₇⟩
    simp only [freeMailbox, gFree, hread [_, _, _, _, _, _] hh, hfree₁,
      hread [_, _, _, _, _] hh₁, hfree₂, hread [_, _, _, _] hh₂, hfree₃, hread [_, _, _] hh₃,
      hfree₄, hread [_, _] hh₄, hfree₅, hread [_] hh₅, hfree₆, hfree₇, Option.bind_eq_bind,
      Option.bind_some]

/-- **What is read of a mailbox** is the mailbox. -/
theorem MailboxCells.read {p : ℕ} {box : Mailbox} {a : List (Heap.Cell MailBlock)}
    (hbox : MailboxCells p box a) (hh : h.Holds cells) (hsub : a ⊆ cells) :
    ∃ b, mailboxAt h p = some b ∧ stringAt h b.name = some box.name
      ∧ stringAt h b.type = some box.type ∧ b.messagesUnseen = box.messagesUnseen
      ∧ b.hidden = box.hidden ∧ readMailbox h p = some box := by
  cases hbox with
  | mailbox server username mailboxName password name type box =>
    simp only [List.cons_subset] at hsub
    obtain ⟨hserver, husername, hmailboxName, hpassword, hname, htype, hmailbox, -⟩ := hsub
    have hread := mailboxAt_of_mem hh hmailbox
    refine ⟨_, hread, stringAt_of_mem hh hname, stringAt_of_mem hh htype, rfl, rfl, ?_⟩
    simp only [readMailbox, hread, stringAt_of_mem hh hserver, stringAt_of_mem hh husername,
      stringAt_of_mem hh hmailboxName, stringAt_of_mem hh hpassword, stringAt_of_mem hh hname,
      stringAt_of_mem hh htype, Option.bind_eq_bind, Option.bind_some]

/-- **The counts of a mailbox are written.** -/
theorem MailboxCells.write {p : ℕ} {box : Mailbox} {a : List (Heap.Cell MailBlock)}
    (hbox : MailboxCells p box a) (hh : h.Holds (a ++ cells)) (seen unseen total : BitVec 32) :
    ∃ b h' a', mailboxAt h p = some b
      ∧ h.write p (.mailbox { b with
        messagesSeen := seen, messagesUnseen := unseen, messagesTotal := total }) = some h'
      ∧ MailboxCells p { box with
        messagesSeen := seen, messagesUnseen := unseen, messagesTotal := total } a'
      ∧ h'.Holds (a' ++ cells) := by
  cases hbox with
  | mailbox server username mailboxName password name type box =>
    have hmailbox := mailboxAt_of_mem hh (by simp : (⟨p, .mailbox ⟨some server, some username,
      some password, some name, some type, some mailboxName, box.messagesSeen,
      box.messagesUnseen, box.messagesTotal, box.hidden⟩⟩ : Heap.Cell MailBlock) ∈ _)
    obtain ⟨h', hwrite, hh'⟩ :=
      (hh.perm (@List.perm_middle _ _ [_, _, _, _, _, _] cells).symm).write
        (.mailbox ⟨some server, some username, some password, some name, some type,
          some mailboxName, seen, unseen, total, box.hidden⟩)
    exact ⟨_, h', _, hmailbox, hwrite, .mailbox p server username mailboxName password name type _,
      hh'.perm (@List.perm_middle _ _ [_, _, _, _, _, _] cells)⟩

/-! ## What is shown -/

/-- A text that is there, or `NULL`, is freed. -/
theorem gFree_eq {p : Option ℕ} {s : Option Str} {a : List (Heap.Cell MailBlock)}
    (ha : TextCells p s a) (hh : h.Holds (a ++ cells)) :
    ∃ h', gFree h p = some h' ∧ h'.Holds cells := by
  cases ha with
  | null => exact ⟨h, rfl, hh⟩
  | text p s => exact hh.free

/-- A text is read, or nothing for `NULL`. -/
theorem TextCells.lineAt {p : Option ℕ} {s : Option Str} {a : List (Heap.Cell MailBlock)}
    (ha : TextCells p s a) (hh : h.Holds cells) (hsub : a ⊆ cells) :
    MailMemory.lineAt h p = some s := by
  cases ha with
  | null => rfl
  | text p s =>
    rw [MailMemory.lineAt, stringAt_of_mem hh (hsub List.mem_cons_self)]
    rfl

/-- A text is read, or an empty one for `NULL`. -/
theorem TextCells.textAt {p : Option ℕ} {s : Option Str} {a : List (Heap.Cell MailBlock)}
    (ha : TextCells p s a) (hh : h.Holds cells) (hsub : a ⊆ cells) :
    MailMemory.textAt h p = some (s.getD []) := by
  cases ha with
  | null => rfl
  | text p s => exact stringAt_of_mem hh (hsub List.mem_cons_self)

/-- **A piece of the first line is allocated**, and what was built before it is freed. -/
theorem line1Body_eq {p : ℕ} {box : Mailbox} {a c : List (Heap.Cell MailBlock)}
    {line1 : Option ℕ} {text : Option Str} (hbox : MailboxCells p box a) (hsub : a ⊆ cells)
    (hline : TextCells line1 text c) (hh : h.Holds (c ++ cells)) :
    ∃ h' line1' c', line1Body (h, line1) p = some (h', line1')
      ∧ TextCells line1' (LcdStuffMail.line1Body text box) c' ∧ h'.Holds (c' ++ cells) := by
  -- in either way there is a string to go on from
  obtain ⟨old, h₁, hold, hh₁⟩ : ∃ old h₁, line1Old h line1 = (old, h₁)
      ∧ h₁.Holds (⟨old, .string (text.getD [])⟩ :: cells) := by
    cases hline with
    | null => exact hh.malloc (.string [])
    | text p s => exact ⟨p, h, rfl, hh⟩
  obtain ⟨b, hread, hname, -, hunseen, -, -⟩ :=
    hbox.read hh₁ (List.subset_cons_of_subset _ hsub)
  have htext := stringAt_of_mem hh₁ List.mem_cons_self
  obtain ⟨new, h₂, hmalloc, hh₂⟩ := hh₁.malloc (.string (text.getD []
    ++ LcdStuffMail.counted box.name box.messagesUnseen.toInt))
  obtain ⟨h₃, hfree, hh₃⟩ := (hh₂.perm (List.Perm.swap _ _ _)).free
  refine ⟨h₃, some new, _, ?_, .text new _, hh₃⟩
  simp only [line1Body, hold, hread, hname, hunseen, htext, hmalloc, hfree, Option.bind_eq_bind,
    Option.bind_some]

/-- **The first line is built** of the mailboxes. -/
theorem foldlM_line1Body_eq {ps : List ℕ} {boxes : List Mailbox}
    {a c : List (Heap.Cell MailBlock)} {line1 : Option ℕ} {text : Option Str}
    (hboxes : Heap.Each MailboxCells ps boxes a) (hsub : a ⊆ cells)
    (hline : TextCells line1 text c) (hh : h.Holds (c ++ cells)) :
    ∃ h' line1' c', ps.foldlM line1Body (h, line1) = some (h', line1')
      ∧ TextCells line1' (boxes.foldl LcdStuffMail.line1Body text) c'
      ∧ h'.Holds (c' ++ cells) := by
  induction hboxes generalizing h line1 text c with
  | nil => exact ⟨h, line1, c, rfl, hline, hh⟩
  | cons head _ ih =>
    obtain ⟨hhead, htail⟩ := List.append_subset.mp hsub
    obtain ⟨h₁, line₁, c₁, hbody, hline₁, hh₁⟩ := line1Body_eq head hhead hline hh
    obtain ⟨h', line1', c', hrest, hline', hh'⟩ := ih htail hline₁ hh₁
    refine ⟨h', line1', c', ?_, hline', hh'⟩
    rw [List.foldlM_cons, hbody]
    exact hrest

/-- **What is read of an e-mail** is the e-mail. -/
theorem EmailCells.read {mailboxes : List ℕ} {p : ℕ} {email : Email}
    {a : List (Heap.Cell MailBlock)} (hemail : EmailCells mailboxes p email a)
    (hh : h.Holds cells) (hsub : a ⊆ cells) :
    ∃ e box c d, emailAt h p = some e ∧ e.box = some box
      ∧ mailboxes[email.box]? = some box ∧ e.messageNumberInBox = email.messageNumberInBox
      ∧ TextCells e.from email.from c ∧ TextCells e.subject email.subject d
      ∧ c ⊆ cells ∧ d ⊆ cells := by
  cases hemail with
  | email hbox hsender hsubject =>
    obtain ⟨hc, hrest⟩ := List.append_subset.mp hsub
    obtain ⟨hd, hcell⟩ := List.append_subset.mp hrest
    exact ⟨_, _, _, _, emailAt_of_mem hh (hcell List.mem_cons_self), rfl, hbox, rfl, hsender,
      hsubject, hc, hd⟩

/-- **The e-mail on display is in the memory**, if there is one. -/
def Displayed (mail : LcdStuffMail) (mailboxes email : List ℕ)
    (cells : List (Heap.Cell MailBlock)) : Prop :=
  Option.Rel (fun p x => ∃ b, EmailCells mailboxes p x b ∧ b ⊆ cells)
    (Carousel.itemAt mail.clampScreen email 0) mail.displayed

/-- So it is among more cells. -/
theorem Displayed.mono {mail : LcdStuffMail} {ps es : List ℕ}
    {cells' : List (Heap.Cell MailBlock)} (h : Displayed mail ps es cells)
    (hsub : cells ⊆ cells') : Displayed mail ps es cells' := by
  unfold Displayed at h ⊢
  generalize Carousel.itemAt mail.clampScreen es 0 = place at h ⊢
  generalize mail.displayed = shown at h ⊢
  cases h with
  | none => exact .none
  | some hR =>
    obtain ⟨b, hR, hb⟩ := hR
    exact .some ⟨b, hR, List.Subset.trans hb hsub⟩

/-- **The title and the lines of the e-mail on display.** -/
theorem showEmail_eq {mail : LcdStuffMail} {ps es : List ℕ} {a : List (Heap.Cell MailBlock)}
    (hboxes : Heap.Each MailboxCells ps mail.mailboxes a) (hsub : a ⊆ cells)
    (hitem : Displayed mail ps es cells) (hh : h.Holds cells) :
    ∃ title h' line2 line3 c d,
      showEmail h (Carousel.itemAt mail.clampScreen es 0) = some (title, h', line2, line3)
      ∧ h'.Holds (⟨title, .string (mail.displayed.elim [] mail.emailTitle)⟩ :: cells)
      ∧ TextCells line2 (mail.displayed.bind Email.from) c
      ∧ TextCells line3 (mail.displayed.bind Email.subject) d ∧ c ⊆ cells ∧ d ⊆ cells := by
  unfold Displayed at hitem
  generalize Carousel.itemAt mail.clampScreen es 0 = place at hitem ⊢
  generalize mail.displayed = shown at hitem ⊢
  cases hitem with
  | none =>
    obtain ⟨t, h₁, hmalloc, hh₁⟩ := hh.malloc (.string [])
    refine ⟨t, h₁, none, none, [], [], ?_, hh₁, .null, .null, List.nil_subset _,
      List.nil_subset _⟩
    rw [showEmail, hmalloc]
  | @some p email hR =>
    obtain ⟨e, hR, hsubE⟩ := hR
    obtain ⟨block, q, c, d, hread, hq, hbox, hnumber, hsender, hsubject, hc, hd⟩ :=
      hR.read hh hsubE
    -- the mailbox of the e-mail is at the place that the e-mail says
    have hlt : email.box < mail.mailboxes.length := by
      rw [← hboxes.length_eq]
      exact (List.getElem?_eq_some_iff.mp hbox).1
    obtain ⟨q', a', hq', hcells, hsub'⟩ := hboxes.getElem? (List.getElem?_eq_getElem hlt)
    obtain rfl : q = q' := Option.some.inj (hbox.symm.trans hq')
    obtain ⟨b', hmailbox, hname, -, -, -, -⟩ := hcells.read hh (List.Subset.trans hsub' hsub)
    obtain ⟨t, h₁, hmalloc, hh₁⟩ := hh.malloc (.string (mail.emailTitle email))
    have htitle : mail.emailTitle email = mail.mailboxes[email.box].name ++ " ".toList
        ++ decimal email.messageNumberInBox := by
      unfold LcdStuffMail.emailTitle
      rw [List.getElem?_eq_getElem hlt]
      rfl
    refine ⟨t, h₁, block.from, block.subject, c, d, ?_, hh₁, hsender, hsubject, hc, hd⟩
    simp only [showEmail, emailTitle, hread, hq, hmailbox, hname, hnumber, Option.bind_eq_bind,
      Option.bind_some, ← htitle, hmalloc]

/-- `update_screen` reads the title. -/
theorem updateScreen_eq {m : MailMemory} {mail : LcdStuffMail} {p : ℕ}
    (htitle : m.titlePrefix = some p) (hscreen : m.screen = mail.screen) (hh : h.Holds cells)
    (hmem : ⟨p, .string mail.titlePrefix⟩ ∈ cells) (title line1 line2 line3 : Option Str) :
    m.updateScreen h title line1 line2 line3
      = some (mail.updateScreen title line1 line2 line3) := by
  have hread := stringAt_of_mem hh hmem
  simp only [updateScreen, htitle, hread, hscreen, Option.bind_eq_bind, Option.bind_some]
  rfl

/-- **`show_screen`** frees what it has allocated. -/
theorem showScreen_eq {m : MailMemory} {mail : LcdStuffMail} {title : ℕ}
    {a : List (Heap.Cell MailBlock)} (htitle : m.titlePrefix = some title)
    (hscreen : m.screen = mail.screen)
    (hpos : Carousel.clamp m.email.length m.currentScreen = mail.clampScreen)
    (hboxes : Heap.Each MailboxCells m.mailboxes mail.mailboxes a)
    (hitem : Displayed mail m.mailboxes m.email cells) (hh : m.heap.Holds cells)
    (hmem : ⟨title, .string mail.titlePrefix⟩ ∈ cells) (hsub : a ⊆ cells) :
    ∃ h', m.showScreen = some ({ m with heap := h', currentScreen := mail.clampScreen },
        mail.showScreen.2) ∧ h'.Holds cells := by
  obtain ⟨h₁, line1, c₁, hline1, hcells1, hh₁⟩ :=
    foldlM_line1Body_eq (c := []) hboxes hsub .null hh
  have hitem₁ : Displayed mail m.mailboxes m.email (c₁ ++ cells) :=
    hitem.mono (List.subset_append_right c₁ cells)
  obtain ⟨t, h₂, line2, line3, c₂, c₃, hemail, hh₂, hcells2, hcells3, hsub2, hsub3⟩ :=
    showEmail_eq hboxes (List.subset_append_of_subset_right c₁ hsub) hitem₁ hh₁
  have hcmds := updateScreen_eq htitle hscreen hh₂
    (List.mem_cons_of_mem _ (List.mem_append_right _ hmem))
  obtain ⟨h₃, hfree, hh₃⟩ := hh₂.free
  obtain ⟨h₄, hfree1, hh₄⟩ := gFree_eq hcells1 hh₃
  refine ⟨h₄, ?_, hh₄⟩
  simp only [MailMemory.showScreen, hline1, hpos, hemail, stringAt_of_mem hh₂ List.mem_cons_self,
    hcells1.lineAt hh₂ (List.subset_cons_of_subset _ (List.subset_append_left _ _)),
    hcells2.textAt hh₂ (List.subset_cons_of_subset _ hsub2),
    hcells3.textAt hh₂ (List.subset_cons_of_subset _ hsub3), hcmds, hfree, hfree1,
    Option.bind_eq_bind, Option.bind_some]
  rfl

end MailMemory
