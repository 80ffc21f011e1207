import LcdStuff.Carousel
import LcdStuff.FromOutside
import LcdStuff.Mail

/-!
# The mail on the display

`show_screen` shows how many messages of each mailbox were not seen, and below that the sender
and the subject of one of the e-mails. The two texts come from outside, and have been through
`string_canon` when they are listed: whatever a header contains, what is sent to the server is one
command, and the text in it is the header but for the bytes that are replaced
(`LcdStuffMail.showsHeader`).
-/

namespace LcdStuffMail

variable (mail : LcdStuffMail)

/-! ## The functions of `mail.c` -/

/-- What `%s:%d ` prints for a mailbox. -/
def counted (name : Str) (count : Int) : Str :=
  name ++ ":".toList ++ decimal count ++ " ".toList

/-- A round of the loop of `show_screen` over the mailboxes; `%d` prints the count as an `int`. -/
def line1Body (line1 : Option Str) (box : Mailbox) : Option Str :=
  some (line1.getD [] ++ counted box.name box.messagesUnseen.toInt)

/-- The first line that `show_screen` builds, which is `NULL` without a mailbox. -/
def line1 : Option Str := mail.mailboxes.foldl line1Body none

/-- The position that `show_screen` pulls back into the list of the e-mails. -/
def clampScreen : Int := Carousel.clamp mail.email.length mail.currentScreen

/-- The e-mail that `show_screen` shows: the loop over the list, which an empty list has no round
of. -/
def displayed : Option Email := Carousel.itemAt mail.clampScreen mail.email 0

/-- What `%s %d` prints for an e-mail. -/
def emailTitle (email : Email) : Str :=
  (mail.mailboxes[email.box]?.elim [] Mailbox.name) ++ " ".toList
    ++ decimal email.messageNumberInBox

/-- `show_screen`: what it leaves in the module, and the commands it queues. -/
def showScreen : LcdStuffMail × List Command :=
  ({ mail with currentScreen := mail.clampScreen },
    mail.updateScreen (some (mail.displayed.elim [] mail.emailTitle)) mail.line1
      (some ((mail.displayed.bind Email.from).getD []))
      (some ((mail.displayed.bind Email.subject).getD [])))

/-- What `mail_run` does when it is time: `mail_check`, and then `show_screen`. -/
def refresh (etpan : Libetpan) : LcdStuffMail × List Command :=
  let r := mail.check etpan
  let s := r.1.showScreen
  (s.1, r.2.1 ++ s.2)

/-- The module with a position. -/
def atScreen (pos : Int) : LcdStuffMail := { mail with currentScreen := pos }

/-- `mail_key_handler` -/
def keyHandler (str : Str) : LcdStuffMail × List Command :=
  (mail.atScreen (mail.currentScreen + if str = "Up".toList then 1 else -1)).showScreen

/-- `mail_ignore_handler` -/
def ignoreHandler : LcdStuffMail × List Command :=
  (mail.atScreen (mail.currentScreen + 1)).showScreen

end LcdStuffMail

/-! ## The bytes that are left -/

/-- **A byte that is sent as it is.** -/
def IsPrintable (c : Char) : Prop :=
  0x20 ≤ c.toNat ∧ c.toNat < 256 ∧ c ≠ '{' ∧ c ≠ '}' ∧ c ≠ '\\'

instance (c : Char) : Decidable (IsPrintable c) :=
  inferInstanceAs (Decidable (_ ∧ _ ∧ _ ∧ _ ∧ _))

/-- The table that is built at the start has just these bytes. -/
theorem mem_validChars_iff {c : Char} : c ∈ validChars ↔ IsPrintable c := by
  unfold validChars IsPrintable
  simp only [List.mem_filter, Bool.and_eq_true, decide_eq_true_eq, bne_iff_ne]
  have hbyte : c ∈ (List.range 256).map Char.ofNat ↔ c.toNat < 256 := by
    constructor
    · intro h
      obtain ⟨n, hn, rfl⟩ := List.mem_map.mp h
      have hlt := List.mem_range.mp hn
      have hvalid : n.isValidChar := .inl (by omega)
      rw [Char.ofNat, dif_pos hvalid]
      exact hlt
    · exact fun h => List.mem_map.mpr ⟨c.toNat, List.mem_range.mpr h, Char.ofNat_toNat c⟩
  have hspace : ' ' ≤ c ↔ 0x20 ≤ c.toNat := Iff.rfl
  rw [hbyte, hspace]
  constructor
  · rintro ⟨hlt, ⟨⟨hle, hopen⟩, hclose⟩, hbackslash⟩
    exact ⟨hle, hlt, hopen, hclose, hbackslash⟩
  · rintro ⟨hle, hlt, hopen, hclose, hbackslash⟩
    exact ⟨hlt, ⟨⟨hle, hopen⟩, hclose⟩, hbackslash⟩

/-- What `string_canon` leaves: every byte that is sent as it is, and a question mark for any
other. -/
theorem forall₂_stringCanon (string : Str) :
    List.Forall₂ (fun shown c => IsPrintable c ∧ shown = c ∨ ¬ IsPrintable c ∧ shown = '?')
      (stringCanon string) string := by
  unfold stringCanon
  induction string with
  | nil => exact .nil
  | cons c string ih =>
    refine .cons ?_ ih
    by_cases hvalid : c ∈ validChars
    · exact .inl ⟨mem_validChars_iff.mp hvalid, if_pos hvalid⟩
    · exact .inr ⟨mt mem_validChars_iff.mpr hvalid, if_neg hvalid⟩

/-- There is no other byte in it. -/
theorem isPrintable_of_mem_stringCanon {string : Str} {c : Char} (h : c ∈ stringCanon string) :
    IsPrintable c := by
  obtain ⟨d, -, rfl⟩ := List.mem_map.mp h
  split
  · next hvalid => exact mem_validChars_iff.mp hvalid
  · decide

/-! ## From the header to the display -/

/-- The text that a field of a header has for a line of the screen, decoded: the sender is for
line 1, and the subject for line 2. -/
def MailimfField.decoded (etpan : Libetpan) (line : Int) : MailimfField → Option Str
  | .from displayNames => if line = 1 then some (etpan.displayFrom displayNames) else none
  | .subject value => if line = 2 then some (etpan.displaySubject value) else none
  | .other => none

/-- **The decoded header of a message** for a line; a field that is missing is empty, and of one
that is repeated the last counts. -/
def decodedHeader (etpan : Libetpan) (hdr : List MailimfField) (line : Int) : Str :=
  (hdr.filterMap (MailimfField.decoded etpan line)).getLast?.getD []

/-- The text of an e-mail for a line. -/
def Email.line (email : Email) (line : Int) : Option Str :=
  if line = 1 then email.from else if line = 2 then email.subject else none

namespace MailRound

variable {etpan : Libetpan}

/-- A field is the text for its line, and leaves that of the other as it is. -/
theorem line_readField (email : Email) (field : MailimfField) (line : Int) :
    (readField etpan email field).line line
      = ((field.decoded etpan line).map stringCanon).or (email.line line) := by
  cases field with
  | «from» displayNames =>
    dsimp only [Email.line, MailimfField.decoded, readField]
    by_cases hline : line = 1
    · rw [if_pos hline, if_pos hline]
      rfl
    · rw [if_neg hline, if_neg hline, if_neg hline]
      rfl
  | subject value =>
    dsimp only [Email.line, MailimfField.decoded, readField]
    by_cases hline : line = 2
    · have hother : line ≠ 1 := by omega
      rw [if_neg hother, if_pos hline, if_pos hline]
      rfl
    · rw [if_neg hline, if_neg hline, if_neg hline]
      rfl
  | other => rfl

/-- **The loop over a header** keeps the last text for each line. -/
theorem line_foldl_readField (hdr : List MailimfField) (email : Email) (line : Int) :
    (hdr.foldl (readField etpan) email).line line
      = ((hdr.filterMap (MailimfField.decoded etpan line)).getLast?.map stringCanon).or
        (email.line line) := by
  induction hdr generalizing email with
  | nil => rfl
  | cons field hdr ih =>
    rw [List.foldl_cons, ih, line_readField]
    cases hfield : field.decoded etpan line with
    | none =>
      rw [List.filterMap_cons_none hfield]
      rfl
    | some text =>
      rw [List.filterMap_cons_some hfield, List.getLast?_cons]
      cases (hdr.filterMap (MailimfField.decoded etpan line)).getLast? with
      | none => rfl
      | some last => rfl

/-- **The text of a new e-mail** is the decoded header, without the bytes that are not sent as
they are. -/
theorem line_newEmail (mb : ℕ) (hdr : List MailimfField) (n : ℕ) (line : Int) :
    ((newEmail etpan mb hdr n).line line).getD [] = stringCanon (decodedHeader etpan hdr line) := by
  have hempty : Email.line ⟨0, 0, none, none⟩ line = none := by
    unfold Email.line
    split
    · rfl
    · split <;> rfl
  show ((hdr.foldl (readField etpan) ⟨0, 0, none, none⟩).line line).getD [] = _
  rw [line_foldl_readField, hempty, Option.or_none, decodedHeader]
  cases (hdr.filterMap (MailimfField.decoded etpan line)).getLast? with
  | none => rfl
  | some text => rfl

end MailRound

/-- An e-mail of a mailbox is made of the header of one of its messages. -/
theorem MailboxAnswers.of_mem_emails {answers : MailboxAnswers} {etpan : Libetpan} {mb : ℕ}
    {email : Email} (h : email ∈ answers.emails etpan mb) :
    ∃ message ∈ answers.messagesList.getD [], ∃ hdr, message.envelope = some hdr
      ∧ ∃ n, email = MailRound.newEmail etpan mb hdr n := by
  obtain ⟨i, hi, rfl⟩ := List.mem_mapIdx.mp h
  have hmem := List.mem_filter.mp (List.getElem_mem hi)
  obtain ⟨hdr, hhdr⟩ := Option.isSome_iff_exists.mp (Bool.and_eq_true_iff.mp hmem.2).1
  exact ⟨_, hmem.1, hdr, hhdr, i + 1, by rw [hhdr]; rfl⟩

/-- What sets a line is not the title. -/
theorem Screen.widgetSetLine_notMem_setTitle (screen : Screen) (title : Option Str) {m : Str}
    {line row : Int} {text : Str} : .widgetSetLine m line row text ∉ screen.setTitle title := by
  unfold Screen.setTitle
  split
  · exact List.not_mem_nil
  · cases title with
    | none => exact List.not_mem_nil
    | some title => exact fun h => nomatch List.mem_singleton.mp h

/-- What sets a line is for the line that is shown. -/
theorem Screen.of_mem_showText {screen : Screen} {line line' : Int} {text : Option Str} {m : Str}
    {row : Int} {t : Str} (h : .widgetSetLine m line' row t ∈ screen.showText line text) :
    m = screen.moduleName ∧ line' = line ∧ text = some t := by
  unfold Screen.showText at h
  split at h
  · exact nomatch h
  · cases text with
    | none => exact nomatch h
    | some text =>
      obtain ⟨rfl, rfl, -, rfl⟩ := Command.widgetSetLine.inj (List.mem_singleton.mp h)
      exact ⟨rfl, rfl, rfl⟩

namespace LcdStuffMail

variable (etpan : Libetpan) (mail : LcdStuffMail)

/-- **A line below the counts** is the one of the e-mail on display, and is empty if there is
none. -/
theorem of_mem_showScreen {m : Str} {line row : Int} {text : Str} (hline : 1 ≤ line)
    (h : .widgetSetLine m line row text ∈ mail.showScreen.2) :
    m = mail.screen.moduleName ∧ text = (mail.displayed.bind (Email.line · line)).getD [] := by
  have hcmds : .widgetSetLine m line row text ∈
      mail.updateScreen (some (mail.displayed.elim [] mail.emailTitle)) mail.line1
        (some ((mail.displayed.bind Email.from).getD []))
        (some ((mail.displayed.bind Email.subject).getD [])) := h
  unfold updateScreen at hcmds
  simp only [List.mem_append] at hcmds
  rcases hcmds with ((htitle | hcounts) | hfrom) | hsubject
  · exfalso
    split at htitle
    · exact nomatch htitle
    · exact mail.screen.widgetSetLine_notMem_setTitle _ htitle
    · exact mail.screen.widgetSetLine_notMem_setTitle _ htitle
  · have hzero := (Screen.of_mem_showText hcounts).2.1
    omega
  · obtain ⟨hm, rfl, htext⟩ := Screen.of_mem_showText hfrom
    exact ⟨hm, (Option.some.inj htext).symm⟩
  · obtain ⟨hm, rfl, htext⟩ := Screen.of_mem_showText hsubject
    exact ⟨hm, (Option.some.inj htext).symm⟩

/-- The e-mail on display is made of the header of a message. -/
theorem of_displayed_check {pos : Int} {email : Email}
    (h : ((mail.check etpan).1.atScreen pos).displayed = some email) :
    ∃ mb, ∃ message ∈ (etpan.answers mb).messagesList.getD [], ∃ hdr,
      message.envelope = some hdr ∧ ∃ n, email = MailRound.newEmail etpan mb hdr n := by
  have hmem : email ∈ (mail.check etpan).1.email := Carousel.mem_of_itemAt h
  rw [check_email_eq, listedEmails, List.mem_flatMap] at hmem
  obtain ⟨p, -, hmem⟩ := hmem
  split at hmem
  · exact ⟨p.2, MailboxAnswers.of_mem_emails hmem⟩
  · exact nomatch hmem

/-- The message that a header on display is from; without an e-mail there is no header. -/
def DisplaysHeader (mail : LcdStuffMail) (hdr : List MailimfField) : Prop :=
  mail.displayed = none ∧ hdr = [] ∨ ∃ mb, ∃ message ∈ (etpan.answers mb).messagesList.getD [],
    message.envelope = some hdr
      ∧ ∃ n, mail.displayed = some (MailRound.newEmail etpan mb hdr n)

/-- **One command that shows a header**: its only newline is at its end, between its opening brace
and the closing brace there every byte is one that is sent as it is, and they are the bytes of the
header, but for those that became a question mark. -/
def ShowsHeader (cmd header : Str) : Prop :=
  ∃ start text, cmd = start ++ '{' :: (text ++ ['}', '\n']) ∧ '{' ∉ start ∧ cmd.count '\n' = 1
    ∧ (∀ c ∈ text, IsPrintable c)
    ∧ List.Forall₂ (fun shown c => IsPrintable c ∧ shown = c ∨ ¬ IsPrintable c ∧ shown = '?')
      text header

/-- Whatever is on display, there is a header for it, and its texts are those of the header. -/
theorem exists_displaysHeader (pos line : Int) :
    ∃ hdr, DisplaysHeader etpan ((mail.check etpan).1.atScreen pos) hdr
      ∧ (((mail.check etpan).1.atScreen pos).displayed.bind (Email.line · line)).getD []
        = stringCanon (decodedHeader etpan hdr line) := by
  cases hemail : ((mail.check etpan).1.atScreen pos).displayed with
  | none => exact ⟨[], .inl ⟨hemail, rfl⟩, rfl⟩
  | some email =>
    obtain ⟨mb, message, hmessage, hdr, hhdr, n, rfl⟩ := of_displayed_check etpan mail hemail
    exact ⟨hdr, .inr ⟨mb, message, hmessage, hhdr, n, hemail⟩,
      MailRound.line_newEmail mb hdr n line⟩

/-- A header that went through `string_canon` is shown by one command. -/
theorem showsHeader_stringCanon {m : Str} (hm : Clean m) (line row : Int) (header : Str) :
    ShowsHeader (Command.widgetSetLine m line row (stringCanon header)).render header := by
  obtain ⟨start, hstart, hrender⟩ := exists_render_widgetSetLine hm line row (stringCanon header)
  have hprintable : ∀ c ∈ stringCanon header, IsPrintable c :=
    fun c hc => isPrintable_of_mem_stringCanon hc
  refine ⟨start, _, hrender, fun hmem => (hstart _ hmem).1 rfl, ?_, hprintable,
    forall₂_stringCanon _⟩
  have hfront : start.count '\n' = 0 := List.count_eq_zero.mpr (fun hmem => (hstart _ hmem).2 rfl)
  have htext : (stringCanon header).count '\n' = 0 :=
    List.count_eq_zero.mpr (fun hmem => absurd (hprintable _ hmem) (by decide))
  rw [hrender, List.count_append, hfront, List.count_cons_of_ne (by decide), List.count_append,
    htext]
  rfl

/-- **Every header is shown by one command**, at every position in the list of the e-mails. -/
theorem showsHeader {mail : LcdStuffMail} (hname : mail.screen.moduleName = "mail".toList)
    (pos : Int) {m : Str} {line row : Int} {text : Str} (hline : 1 ≤ line)
    (h : .widgetSetLine m line row text ∈ ((mail.check etpan).1.atScreen pos).showScreen.2) :
    ∃ hdr, DisplaysHeader etpan ((mail.check etpan).1.atScreen pos) hdr
      ∧ ShowsHeader (Command.widgetSetLine m line row text).render
        (decodedHeader etpan hdr line) := by
  obtain ⟨rfl, rfl⟩ := of_mem_showScreen _ hline h
  obtain ⟨hdr, hhdr, htext⟩ := exists_displaysHeader etpan mail pos line
  refine ⟨hdr, hhdr, ?_⟩
  have hclean : Clean ((mail.check etpan).1.atScreen pos).screen.moduleName := by
    show Clean mail.screen.moduleName
    rw [hname]
    decide
  rw [htext]
  exact showsHeader_stringCanon hclean line row _

/-- An e-mail with a brace in its sender and two subjects, the second of them with a newline. -/
theorem showsHeader_two_subjects :
    let hdr : List MailimfField :=
      [.from [some "a {b}".toList], .subject (some "first".toList), .other,
        .subject (some "c\nd".toList)]
    let etpan : Libetpan := ⟨1, some, fun _ =>
      ⟨true, true, true, some ⟨1, 0, 1⟩, some [⟨some hdr, some 0⟩], true⟩⟩
    let box : Mailbox := ⟨[], [], [], "box".toList, "imap".toList, [], 0, 0, 0, false⟩
    let mail : LcdStuffMail := ⟨[box], [], 0, "Mail".toList, ⟨⟨⟨20, 4⟩, false⟩, "mail".toList⟩⟩
    .widgetSetLine "mail".toList 2 4 "c?d".toList ∈ ((mail.check etpan).1.atScreen 7).showScreen.2
      ∧ ∃ hdr, DisplaysHeader etpan ((mail.check etpan).1.atScreen 7) hdr
        ∧ ShowsHeader (Command.widgetSetLine "mail".toList 2 4 "c?d".toList).render
          (decodedHeader etpan hdr 2) := by
  intro hdr etpan box mail
  have hsent : .widgetSetLine "mail".toList 2 4 "c?d".toList
      ∈ ((mail.check etpan).1.atScreen 7).showScreen.2 := by decide +kernel
  exact ⟨hsent, showsHeader etpan rfl 7 (by decide) hsent⟩

end LcdStuffMail
