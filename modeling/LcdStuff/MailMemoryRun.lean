import LcdStuff.MailMemory

/-!
# What the mail module frees

One event after the other, the memory of the mail module is what the values say. Every run has a
result, so nothing is used that was freed, and it sends what the run over the values sends
(`MailMemory.sends_of_events`).

The header of a message may have more than one sender or subject, though. The last one is shown,
and nothing points to the others any more, which are still there when the program ends
(`MailMemory.live_at_exit`).

The handlers are called by the service thread, and nothing keeps it from a call in the middle of a
check. While the e-mails are freed the list of them is still there, and a handler that shows one
that was freed reads it (`MailMemory.isSome_next_inFreeEmails_iff`).
-/

/-! ## What is lost -/

/-- The field is a sender. -/
def MailimfField.isFrom : MailimfField → Bool
  | .from _ => true
  | _ => false

/-- The field is a subject. -/
def MailimfField.isSubject : MailimfField → Bool
  | .subject _ => true
  | _ => false

/-- How many of the senders and of the subjects of a header are not shown. -/
def lostFields (hdr : List MailimfField) : ℕ :=
  (hdr.countP MailimfField.isFrom - 1) + (hdr.countP MailimfField.isSubject - 1)

/-- Those of the messages of a mailbox. -/
def MailboxAnswers.lost (answers : MailboxAnswers) (etpan : Libetpan) (box : Mailbox) : ℕ :=
  if answers.isListed box then
    (((answers.messagesList.getD []).filter (MessageAnswers.isListed etpan)).map
      (fun message => lostFields (message.envelope.getD []))).sum
  else 0

namespace LcdStuffMail

/-- What a check loses. -/
def lostCheck (mail : LcdStuffMail) (etpan : Libetpan) : ℕ :=
  (mail.mailboxes.zipIdx.map (fun p => (etpan.answers p.2).lost etpan p.1)).sum

/-- What an event loses. -/
def lostIn (mail : LcdStuffMail) : MailEvent → ℕ
  | .refresh etpan => mail.lostCheck etpan
  | .nav _ => 0

/-- What some events lose. -/
def lost (mail : LcdStuffMail) : List MailEvent → ℕ
  | [] => 0
  | event :: events => mail.lostIn event + (mail.after event).lost events

/-- The commands of some events. -/
def allCommands (mail : LcdStuffMail) : List MailEvent → List Command
  | [] => []
  | event :: events => mail.commands event ++ (mail.after event).allCommands events

end LcdStuffMail

/-- **No message that is listed has two senders**, nor two subjects, in some events. -/
def LcdStuffMail.NoneDoubled (mail : LcdStuffMail) (events : List MailEvent) : Prop :=
  ∀ before etpan after, events = before ++ .refresh etpan :: after →
    ∀ p ∈ (mail.afterAll before).mailboxes.zipIdx, (etpan.answers p.2).isListed p.1 = true →
      ∀ message ∈ (etpan.answers p.2).messagesList.getD [], message.isListed etpan = true →
        (message.envelope.getD []).countP MailimfField.isFrom ≤ 1
          ∧ (message.envelope.getD []).countP MailimfField.isSubject ≤ 1

namespace LcdStuffMail

/-- A check loses nothing if no message that is listed has two texts of a kind. -/
theorem lostCheck_eq_zero_iff (mail : LcdStuffMail) (etpan : Libetpan) :
    mail.lostCheck etpan = 0 ↔
      ∀ p ∈ mail.mailboxes.zipIdx, (etpan.answers p.2).isListed p.1 = true →
        ∀ message ∈ (etpan.answers p.2).messagesList.getD [], message.isListed etpan = true →
          (message.envelope.getD []).countP MailimfField.isFrom ≤ 1
            ∧ (message.envelope.getD []).countP MailimfField.isSubject ≤ 1 := by
  unfold lostCheck MailboxAnswers.lost lostFields
  simp only [List.sum_eq_zero_iff_forall_eq_nat, List.forall_mem_map, ite_eq_right_iff,
    List.mem_filter, and_imp, Nat.add_eq_zero_iff, Nat.sub_eq_zero_iff_le]

/-- **Nothing is lost** exactly if no message has two texts of a kind. -/
theorem lost_eq_zero_iff (mail : LcdStuffMail) (events : List MailEvent) :
    mail.lost events = 0 ↔ mail.NoneDoubled events := by
  induction events generalizing mail with
  | nil =>
    refine iff_of_true rfl (fun before etpan after hevents => ?_)
    exact absurd hevents.symm (List.append_ne_nil_of_right_ne_nil _ (List.cons_ne_nil _ _))
  | cons event events ih =>
    rw [lost, Nat.add_eq_zero_iff, ih]
    constructor
    · rintro ⟨hhead, htail⟩ before etpan after hevents
      cases before with
      | nil =>
        obtain ⟨rfl, -⟩ := List.cons.inj hevents
        exact (lostCheck_eq_zero_iff mail etpan).mp hhead
      | cons first before =>
        obtain ⟨rfl, hrest⟩ := List.cons.inj hevents
        exact htail before etpan after hrest
    · intro h
      refine ⟨?_, fun before etpan after hevents => ?_⟩
      · cases event with
        | refresh etpan => exact (lostCheck_eq_zero_iff mail etpan).mpr (h [] etpan events rfl)
        | nav event => rfl
      · exact h (event :: before) etpan after (congrArg (event :: ·) hevents)

end LcdStuffMail

namespace MailMemory

variable {h : Heap MailBlock} {cells : List (Heap.Cell MailBlock)}

/-! ## What is checked -/

/-- **An e-mail is freed.** -/
theorem freeEmail_eq {mailboxes : List ℕ} {p : ℕ} {email : Email} {a : List (Heap.Cell MailBlock)}
    (hemail : EmailCells mailboxes p email a) (hh : h.Holds (a ++ cells)) :
    ∃ h', freeEmail h p = some h' ∧ h'.Holds cells := by
  cases hemail with
  | @email box sender subject a b _ _ hsender hsubject =>
    rw [List.append_assoc, List.append_assoc] at hh
    have hread : ∀ {h : Heap MailBlock} (front : List (Heap.Cell MailBlock)) {e : EmailBlock},
        h.Holds (front ++ ⟨p, .email e⟩ :: cells) → emailAt h p = some e :=
      fun front _ hh => emailAt_of_mem hh (List.mem_append_right _ List.mem_cons_self)
    obtain ⟨h₁, hfree₁, hh₁⟩ := gFree_eq hsender hh
    obtain ⟨h₂, hfree₂, hh₂⟩ := gFree_eq hsubject hh₁
    obtain ⟨h₃, hfree₃, hh₃⟩ := hh₂.free
    refine ⟨h₃, ?_, hh₃⟩
    rw [← List.append_assoc] at hh
    simp only [freeEmail, hread (a ++ b) hh, hfree₁, hread b hh₁, hfree₂, hfree₃,
      Option.bind_eq_bind, Option.bind_some]

/-- A text is stored in an e-mail, in its canonical form. -/
theorem setText_eq {p : ℕ} {e : EmailBlock} (hh : h.Holds (⟨p, .email e⟩ :: cells))
    (field : ℕ → EmailBlock → EmailBlock) (text : Str) :
    ∃ q h', setText p h field text = some h'
      ∧ h'.Holds (⟨p, .email (field q e)⟩ :: ⟨q, .string (stringCanon text)⟩ :: cells) := by
  obtain ⟨q, h₁, hmalloc, hh₁⟩ := hh.malloc (.string text)
  obtain ⟨h₂, hwrite₂, hh₂⟩ := (hh₁.perm (List.Perm.swap _ _ _)).write (.email (field q e))
  obtain ⟨h₃, hwrite₃, hh₃⟩ :=
    (hh₂.perm (List.Perm.swap _ _ _)).write (.string (stringCanon text))
  have hread := emailAt_of_mem hh₁ (List.mem_cons_of_mem _ List.mem_cons_self)
  have htext := stringAt_of_mem hh₂ (List.mem_cons_of_mem _ List.mem_cons_self)
  refine ⟨q, h₃, ?_, hh₃.perm (List.Perm.swap _ _ _)⟩
  simp only [setText, hmalloc, hread, hwrite₂, htext, hwrite₃, Option.bind_eq_bind,
    Option.bind_some]

variable (etpan : Libetpan) {ps : List ℕ} {mb : ℕ}

/-- A text takes a cell, if it is there. -/
theorem TextCells.length_eq {p : Option ℕ} {s : Option Str} {a : List (Heap.Cell MailBlock)}
    (ha : TextCells p s a) : a.length = if s.isSome then 1 else 0 := by
  cases ha with
  | null => rfl
  | text p s => rfl

/-- **A field of a header is read**: if there was a text already, nothing points to it any more. -/
theorem readField_eq {p : ℕ} {sender subject : Option ℕ} {email : Email}
    {a b : List (Heap.Cell MailBlock)} (hsender : TextCells sender email.from a)
    (hsubject : TextCells subject email.subject b)
    (hh : h.Holds (⟨p, .email ⟨none, 0, subject, sender⟩⟩ :: (a ++ (b ++ cells))))
    (field : MailimfField) :
    ∃ h' sender' subject' a' b' g, readField etpan p h field = some h'
      ∧ TextCells sender' (MailRound.readField etpan email field).from a'
      ∧ TextCells subject' (MailRound.readField etpan email field).subject b'
      ∧ a'.length + b'.length + g.length = a.length + b.length
        + (if field.isFrom then 1 else 0) + (if field.isSubject then 1 else 0)
      ∧ h'.Holds (⟨p, .email ⟨none, 0, subject', sender'⟩⟩ :: (a' ++ (b' ++ (g ++ cells)))) := by
  cases field with
  | «from» displayNames =>
    obtain ⟨q, h', hset, hh'⟩ := setText_eq hh (fun p e => { e with «from» := some p })
      (etpan.displayFrom displayNames)
    refine ⟨h', some q, subject, _, b, a, hset, .text q _, hsubject, ?_,
      hh'.perm (((List.perm_append_comm_assoc b a cells).cons _).cons _)⟩
    show 1 + b.length + a.length = a.length + b.length + 1 + 0
    omega
  | subject value =>
    obtain ⟨q, h', hset, hh'⟩ := setText_eq hh (fun p e => { e with subject := some p })
      (etpan.displaySubject value)
    refine ⟨h', sender, some q, a, _, b, hset, hsender, .text q _, ?_,
      hh'.perm (List.perm_middle.cons _)⟩
    show a.length + 1 + b.length = a.length + b.length + 0 + 1
    omega
  | other => exact ⟨h, sender, subject, a, b, [], rfl, hsender, hsubject, rfl, hh⟩

/-- **A header is read.** -/
theorem foldlM_readField_eq {p : ℕ} {sender subject : Option ℕ} {email : Email}
    {a b : List (Heap.Cell MailBlock)} (hdr : List MailimfField)
    (hsender : TextCells sender email.from a) (hsubject : TextCells subject email.subject b)
    (hh : h.Holds (⟨p, .email ⟨none, 0, subject, sender⟩⟩ :: (a ++ (b ++ cells)))) :
    ∃ h' sender' subject' a' b' g, hdr.foldlM (readField etpan p) h = some h'
      ∧ TextCells sender' (hdr.foldl (MailRound.readField etpan) email).from a'
      ∧ TextCells subject' (hdr.foldl (MailRound.readField etpan) email).subject b'
      ∧ a'.length + b'.length + g.length = a.length + b.length
        + hdr.countP MailimfField.isFrom + hdr.countP MailimfField.isSubject
      ∧ h'.Holds (⟨p, .email ⟨none, 0, subject', sender'⟩⟩ :: (a' ++ (b' ++ (g ++ cells)))) := by
  induction hdr generalizing h sender subject email a b cells with
  | nil => exact ⟨h, sender, subject, a, b, [], rfl, hsender, hsubject, rfl, hh⟩
  | cons field hdr ih =>
    obtain ⟨h₁, sender₁, subject₁, a₁, b₁, g₁, hfield, hsender₁, hsubject₁, hlength₁, hh₁⟩ :=
      readField_eq etpan hsender hsubject hh field
    obtain ⟨h', sender', subject', a', b', g, hrest, hsender', hsubject', hlength, hh'⟩ :=
      ih hsender₁ hsubject₁ hh₁
    refine ⟨h', sender', subject', a', b', g ++ g₁, ?_, hsender', hsubject', ?_, ?_⟩
    · rw [List.foldlM_cons, hfield]
      exact hrest
    · rw [List.length_append, List.countP_cons, List.countP_cons]
      omega
    · rw [List.append_assoc]
      exact hh'

/-- The texts of a header are there, if it has some. -/
theorem texts_foldl_readField (hdr : List MailimfField) (email : Email) :
    (hdr.foldl (MailRound.readField etpan) email).from.isSome
        = (email.from.isSome || hdr.any MailimfField.isFrom)
      ∧ (hdr.foldl (MailRound.readField etpan) email).subject.isSome
        = (email.subject.isSome || hdr.any MailimfField.isSubject) := by
  have hfield : ∀ (email : Email) field, (MailRound.readField etpan email field).from.isSome
        = (email.from.isSome || field.isFrom)
      ∧ (MailRound.readField etpan email field).subject.isSome
        = (email.subject.isSome || field.isSubject) := by
    intro email field
    cases field with
    | «from» displayNames => exact ⟨(Bool.or_true _).symm, (Bool.or_false _).symm⟩
    | subject value => exact ⟨(Bool.or_false _).symm, (Bool.or_true _).symm⟩
    | other => exact ⟨(Bool.or_false _).symm, (Bool.or_false _).symm⟩
  induction hdr generalizing email with
  | nil => exact ⟨(Bool.or_false _).symm, (Bool.or_false _).symm⟩
  | cons field hdr ih =>
    obtain ⟨hfrom, hsubject⟩ := ih (MailRound.readField etpan email field)
    rw [(hfield email field).1, Bool.or_assoc] at hfrom
    rw [(hfield email field).2, Bool.or_assoc] at hsubject
    exact ⟨hfrom, hsubject⟩

/-- **An e-mail is allocated for a header**, and with it what is lost. -/
theorem newEmail_eq {box : ℕ} (hbox : ps[mb]? = some box) (hh : h.Holds cells)
    (hdr : List MailimfField) (n : ℕ) :
    ∃ p h' a g, newEmail etpan box h hdr n = some (p, h')
      ∧ EmailCells ps p (MailRound.newEmail etpan mb hdr n) a ∧ g.length = lostFields hdr
      ∧ h'.Holds (a ++ (g ++ cells)) := by
  obtain ⟨p, h₁, hmalloc, hh₁⟩ := hh.malloc (.email ⟨none, 0, none, none⟩)
  obtain ⟨h₂, sender, subject, a, b, g, hread, hsender, hsubject, hlength, hh₂⟩ :=
    @foldlM_readField_eq _ _ etpan p none none ⟨0, 0, none, none⟩ [] [] hdr .null .null hh₁
  obtain ⟨h₃, hwrite, hh₃⟩ := hh₂.write (.email ⟨some box, n, subject, sender⟩)
  refine ⟨p, h₃, _, g, ?_, .email hbox hsender hsubject, ?_, ?_⟩
  · simp only [newEmail, hmalloc, hread, emailAt_of_mem hh₂ List.mem_cons_self, hwrite,
      Option.bind_eq_bind, Option.bind_some]
  · -- of each kind the last text is kept
    have hkept : ∀ kind : MailimfField → Bool,
        (if hdr.any kind then 1 else 0) + (hdr.countP kind - 1) = hdr.countP kind := by
      intro kind
      by_cases hany : hdr.any kind = true
      · have hpos := List.countP_pos_iff.mpr (List.any_eq_true.mp hany)
        rw [if_pos hany]
        omega
      · have hzero : hdr.countP kind = 0 := List.countP_eq_zero.mpr
          (fun field hfield hkind => hany (List.any_eq_true.mpr ⟨field, hfield, hkind⟩))
        rw [if_neg hany, hzero]
    obtain ⟨hfrom, hsubj⟩ := texts_foldl_readField etpan hdr ⟨0, 0, none, none⟩
    rw [hsender.length_eq, hsubject.length_eq, hfrom, hsubj] at hlength
    have hfrom' := hkept MailimfField.isFrom
    have hsubject' := hkept MailimfField.isSubject
    simp only [Option.isSome_none, Bool.false_or, List.length_nil] at hlength
    unfold lostFields
    omega
  · rw [List.append_assoc, List.append_assoc]
    exact hh₃.perm ((List.perm_middle.append_left a).trans List.perm_middle)

/-- A message that is not listed is skipped. -/
theorem checkMessage_eq (box : ℕ) (es : List ℕ) (n : ℕ) (message : MessageAnswers) :
    checkMessage etpan box (h, es, n) message =
      if message.isListed etpan then
        (newEmail etpan box h (message.envelope.getD []) n).bind
          (fun r => some (r.2, es ++ [r.1], n + 1))
      else some (h, es, n) := by
  unfold checkMessage MessageAnswers.isListed
  cases message.envelope with
  | none => rfl
  | some hdr =>
    dsimp only
    cases message.flags.any (fun flags => flags &&& etpan.flagSeen ≠ 0#32) with
    | false => rfl
    | true => rfl

/-- **The messages of a mailbox are listed**, behind those that are there. -/
theorem foldlM_checkMessage_eq {box : ℕ} (hbox : ps[mb]? = some box)
    (messages : List MessageAnswers) {es : List ℕ} {emails : List Email}
    {b : List (Heap.Cell MailBlock)} (hemails : Heap.Each (EmailCells ps) es emails b)
    (hh : h.Holds (b ++ cells)) (n : ℕ) :
    ∃ h' es' n' b' g, messages.foldlM (checkMessage etpan box) (h, es, n) = some (h', es', n')
      ∧ Heap.Each (EmailCells ps) es'
        (messages.foldl (MailRound.checkMessage etpan mb) (emails, n)).1 b'
      ∧ g.length = ((messages.filter (MessageAnswers.isListed etpan)).map
        (fun message => lostFields (message.envelope.getD []))).sum
      ∧ h'.Holds (b' ++ (g ++ cells)) := by
  induction messages generalizing h es emails b n cells with
  | nil => exact ⟨h, es, n, b, [], rfl, hemails, rfl, hh⟩
  | cons message messages ih =>
    rw [List.foldl_cons, MailRound.checkMessage_eq, List.foldlM_cons, checkMessage_eq etpan]
    by_cases hlisted : message.isListed etpan = true
    · obtain ⟨p, h₁, a, g₁, hnew, hemail, hlength₁, hh₁⟩ :=
        newEmail_eq etpan hbox hh (message.envelope.getD []) n
      rw [← List.append_assoc a] at hh₁
      have hh₁ := hh₁.swap
      rw [List.append_assoc a, ← List.append_assoc b] at hh₁
      obtain ⟨h', es', n', b', g, hrest, heach, hlength, hh'⟩ :=
        ih (hemails.concat hemail) hh₁ (n + 1)
      refine ⟨h', es', n', b', g ++ g₁, ?_, ?_, ?_, ?_⟩
      · rw [if_pos hlisted, hnew]
        exact hrest
      · rw [if_pos hlisted]
        exact heach
      · rw [List.filter_cons_of_pos hlisted, List.map_cons, List.sum_cons, List.length_append,
          hlength, hlength₁, Nat.add_comm]
      · rw [List.append_assoc]
        exact hh'
    · obtain ⟨h', es', n', b', g, hrest, heach, hlength, hh'⟩ := ih hemails hh n
      refine ⟨h', es', n', b', g, ?_, ?_, ?_, hh'⟩
      · rw [if_neg hlisted]
        exact hrest
      · rw [if_neg hlisted]
        exact heach
      · rw [List.filter_cons_of_neg hlisted]
        exact hlength

/-- **What a round leaves** for the mailbox at an address and a place: the mailbox and the list are
what the values say, and besides there is what was lost. -/
structure Fetched (etpan : Libetpan) (ps : List ℕ) (mb p : ℕ) (box : Mailbox)
    (emails : List Email) (cells : List (Heap.Cell MailBlock)) (h' : Heap MailBlock)
    (es' : List ℕ) : Prop where
  /-- The memory. -/
  owned : ∃ a b g,
    MailboxCells p (MailRound.run etpan mb ⟨box, false, false, emails, []⟩).box a
    ∧ Heap.Each (EmailCells ps) es' (MailRound.run etpan mb ⟨box, false, false, emails, []⟩).email b
    ∧ g.length = (etpan.answers mb).lost etpan box ∧ h'.Holds (a ++ (b ++ (g ++ cells)))

/-- Where a round ends early, no message is listed. -/
theorem fetched_of_not_isListed {p : ℕ} {box : Mailbox} {es : List ℕ} {emails : List Email}
    {a b : List (Heap.Cell MailBlock)}
    (hlisted : ¬ (etpan.answers mb).isListed box = true)
    (hbox : MailboxCells p (MailRound.setStatus ⟨box, false, false, emails, []⟩
      ((etpan.answers mb).reported box)).box a)
    (hemails : Heap.Each (EmailCells ps) es emails b) (hh : h.Holds (a ++ (b ++ cells))) :
    Fetched etpan ps mb p box emails cells h es := by
  refine ⟨a, b, [], ?_, ?_, ?_, hh⟩
  · rw [MailRound.box_run]
    exact hbox
  · rw [MailRound.email_run, if_neg hlisted, List.append_nil]
    exact hemails
  · rw [MailboxAnswers.lost, if_neg hlisted]
    rfl

/-- **A mailbox is asked for its messages.** -/
theorem fetch_eq {p : ℕ} {box : Mailbox} (hp : ps[mb]? = some p) {es : List ℕ}
    {emails : List Email} {a b : List (Heap.Cell MailBlock)} (hbox : MailboxCells p box a)
    (hemails : Heap.Each (EmailCells ps) es emails b) (hh : h.Holds (a ++ (b ++ cells))) :
    ∃ h' es', fetch etpan p (etpan.answers mb) h box es = some (h', es')
      ∧ Fetched etpan ps mb p box emails cells h' es' := by
  have hiff := MailboxAnswers.isListed_iff (etpan.answers mb) box
  unfold fetch
  by_cases hconnect : (initStorage box (getDriver box.type) (etpan.answers mb).init).2 = true
      ∧ (etpan.answers mb).folderNew = true ∧ (etpan.answers mb).connect = true
  · rw [if_neg (not_not_intro hconnect)]
    have hreported : (etpan.answers mb).reported box = (etpan.answers mb).status :=
      if_pos hconnect
    cases hstatus : (etpan.answers mb).status with
    | none =>
      refine ⟨h, es, rfl, fetched_of_not_isListed etpan ?_ ?_ hemails hh⟩
      · rw [hiff, hstatus]
        exact fun hall => Bool.false_ne_true hall.2.2.2.1
      · rw [hreported, hstatus]
        exact hbox
    | some status =>
      obtain ⟨block, hread, -, -, -, hhidden, -⟩ :=
        hbox.read hh (List.subset_append_left _ _)
      obtain ⟨block', h₁, a₁, hread', hwrite, hbox₁, hh₁⟩ :=
        hbox.write hh status.seen status.unseen status.total
      obtain rfl : block = block' := Option.some.inj (hread.symm.trans hread')
      have hbox₁ : MailboxCells p (MailRound.setStatus ⟨box, false, false, emails, []⟩
          ((etpan.answers mb).reported box)).box a₁ := by
        rw [hreported, hstatus]
        exact hbox₁
      simp only [hread, hwrite, Option.bind_eq_bind, Option.bind_some]
      rw [hhidden]
      cases hhid : box.hidden with
      | true =>
        refine ⟨h₁, es, rfl, fetched_of_not_isListed etpan ?_ hbox₁ hemails hh₁⟩
        rw [hiff, hhid]
        exact fun hall => Bool.false_ne_true hall.2.2.2.2.1
      | false =>
        cases hmessages : (etpan.answers mb).messagesList with
        | none =>
          refine ⟨h₁, es, rfl, fetched_of_not_isListed etpan ?_ hbox₁ hemails hh₁⟩
          rw [hiff, hmessages]
          exact fun hall => Bool.false_ne_true hall.2.2.2.2.2.1
        | some messages =>
          cases henvelopes : (etpan.answers mb).envelopesList with
          | false =>
            refine ⟨h₁, es, rfl, fetched_of_not_isListed etpan ?_ hbox₁ hemails hh₁⟩
            rw [hiff, henvelopes]
            exact fun hall => Bool.false_ne_true hall.2.2.2.2.2.2
          | true =>
            have hlisted : (etpan.answers mb).isListed box = true := by
              rw [hiff, hstatus, hhid, hmessages]
              exact ⟨hconnect.1, hconnect.2.1, hconnect.2.2, rfl, rfl, rfl, henvelopes⟩
            obtain ⟨h', es', n, b', g, hloop, heach, hlength, hh'⟩ :=
              foldlM_checkMessage_eq etpan hp messages hemails hh₁.swap 1
            refine ⟨h', es', ?_, a₁, b', g, ?_, ?_, ?_, ?_⟩
            · simp only [Bool.true_eq_false, Bool.false_eq_true, if_false, hloop,
                Option.bind_some]
            · rw [MailRound.box_run]
              exact hbox₁
            · rw [MailRound.email_run, if_pos hlisted, MailboxAnswers.emails, hmessages]
              rw [MailRound.foldl_checkMessage] at heach
              exact heach
            · rw [MailboxAnswers.lost, if_pos hlisted, hmessages]
              exact hlength
            · rw [← List.append_assoc b'] at hh' ⊢
              exact hh'.swap
  · rw [if_pos hconnect]
    refine ⟨h, es, rfl, fetched_of_not_isListed etpan ?_ ?_ hemails hh⟩
    · rw [hiff]
      exact fun hall => hconnect ⟨hall.1, hall.2.1, hall.2.2.1⟩
    · rw [MailboxAnswers.reported, if_neg hconnect]
      exact hbox

/-! ## A run -/

/-- **The memory of a module**: it is what the values say, and besides there is what was lost. -/
structure Represents (m : MailMemory) (mail : LcdStuffMail) (lost : ℕ) : Prop where
  /-- `current_screen` -/
  currentScreen : m.currentScreen = mail.currentScreen
  /-- `screen` -/
  screen : m.screen = mail.screen
  /-- The memory. -/
  owned : ∃ title a b garbage, m.titlePrefix = some title
    ∧ Heap.Each MailboxCells m.mailboxes mail.mailboxes a
    ∧ Heap.Each (EmailCells m.mailboxes) m.email mail.email b ∧ garbage.length = lost
    ∧ m.heap.Holds (⟨title, .string mail.titlePrefix⟩ :: (a ++ (b ++ garbage)))

variable {m : MailMemory} {mail : LcdStuffMail} {lost : ℕ}

/-- **A round of the loop over the mailboxes.** -/
theorem checkMailbox_eq {title p : ℕ} {box : Mailbox} {s : MailLoop} {es : List ℕ}
    {a b : List (Heap.Cell MailBlock)} (htitle : m.titlePrefix = some title)
    (hscreen : m.screen = mail.screen) (hp : ps[mb]? = some p) (hbox : MailboxCells p box a)
    (hemails : Heap.Each (EmailCells ps) es s.email b) (hh : h.Holds (a ++ (b ++ cells)))
    (hmem : ⟨title, .string mail.titlePrefix⟩ ∈ cells) :
    ∃ h' es' box' a' b' g, checkMailbox etpan m (h, es, s.cmds) (p, mb)
        = some (h', es', (mail.checkMailbox etpan s (box, mb)).cmds)
      ∧ (mail.checkMailbox etpan s (box, mb)).boxes = s.boxes ++ [box']
      ∧ MailboxCells p box' a'
      ∧ Heap.Each (EmailCells ps) es' (mail.checkMailbox etpan s (box, mb)).email b'
      ∧ g.length = (etpan.answers mb).lost etpan box
      ∧ h'.Holds (a' ++ (b' ++ (g ++ cells))) := by
  obtain ⟨block, hread, hname, htype, -, -, hall⟩ := hbox.read hh (List.subset_append_left _ _)
  cases hlocal : isLocal box.type with
  | true =>
    have hvalue : mail.checkMailbox etpan s (box, mb)
        = let r := MailRound.run etpan mb ⟨box, false, false, s.email, []⟩
          ⟨s.boxes ++ [r.box], r.email, s.cmds ++ [], s.calls ++ r.calls⟩ := by
      unfold LcdStuffMail.checkMailbox
      simp only [hlocal, if_true]
    rw [hvalue]
    obtain ⟨h', es', hfetch, a', b', g, hbox', hemails', hlength, hh'⟩ :=
      fetch_eq etpan hp hbox hemails hh
    obtain ⟨block', hread', -, htype', -, -, -⟩ := hbox'.read hh' (List.subset_append_left _ _)
    refine ⟨h', es', _, a', b', g, ?_, rfl, hbox', hemails', hlength, hh'⟩
    simp only [checkMailbox, hread, htype, hlocal, if_true, hall, hfetch, hread', htype',
      Option.bind_eq_bind, Option.bind_some]
  | false =>
    have hvalue : mail.checkMailbox etpan s (box, mb)
        = let r := MailRound.run etpan mb ⟨{ box with
            messagesSeen := 0, messagesUnseen := 0, messagesTotal := 0 }, false, false, s.email, []⟩
          ⟨s.boxes ++ [r.box], r.email, s.cmds ++ mail.updateScreen (some box.name) (some [])
            (some "  Receiving ...".toList) (some []), s.calls ++ r.calls⟩ := by
      unfold LcdStuffMail.checkMailbox
      simp only [hlocal, Bool.false_eq_true, if_false]
    rw [hvalue]
    have hcmds := updateScreen_eq htitle hscreen hh
      (List.mem_append_right _ (List.mem_append_right _ hmem)) (some box.name) (some [])
      (some "  Receiving ...".toList) (some [])
    obtain ⟨block', h₁, a₁, hread', hwrite, hbox₁, hh₁⟩ := hbox.write hh 0 0 0
    obtain rfl : block = block' := Option.some.inj (hread.symm.trans hread')
    obtain ⟨-, -, -, -, -, -, hall₁⟩ := hbox₁.read hh₁ (List.subset_append_left _ _)
    obtain ⟨h', es', hfetch, a', b', g, hbox', hemails', hlength, hh'⟩ :=
      fetch_eq etpan hp hbox₁ hemails hh₁
    obtain ⟨block', hread', -, htype', -, -, -⟩ := hbox'.read hh' (List.subset_append_left _ _)
    refine ⟨h', es', _, a', b', g, ?_, rfl, hbox', hemails', hlength, hh'⟩
    simp only [checkMailbox, hread, htype, hlocal, hname, hcmds, hwrite, hall₁, hfetch, hread',
      htype', Bool.false_eq_true, if_false, Option.bind_eq_bind, Option.bind_some]

/-- **The loop over the mailboxes**, behind some of them. -/
theorem foldlM_checkMailbox_eq {title : ℕ} {todo : List ℕ} {boxes : List Mailbox}
    {a : List (Heap.Cell MailBlock)} (htitle : m.titlePrefix = some title)
    (hscreen : m.screen = mail.screen) (htodo : Heap.Each MailboxCells todo boxes a)
    {done es : List ℕ} {s : MailLoop} {b c : List (Heap.Cell MailBlock)}
    (hps : ps = done ++ todo) (hdone : Heap.Each MailboxCells done s.boxes c)
    (hemails : Heap.Each (EmailCells ps) es s.email b)
    (hh : h.Holds (a ++ (b ++ (c ++ cells))))
    (hmem : ⟨title, .string mail.titlePrefix⟩ ∈ cells) :
    ∃ h' es' s' a' b' g, s' = (boxes.zipIdx done.length).foldl (mail.checkMailbox etpan) s
      ∧ (todo.zipIdx done.length).foldlM (checkMailbox etpan m) (h, es, s.cmds)
        = some (h', es', s'.cmds)
      ∧ Heap.Each MailboxCells ps s'.boxes a' ∧ Heap.Each (EmailCells ps) es' s'.email b'
      ∧ g.length = ((boxes.zipIdx done.length).map
        (fun p => (etpan.answers p.2).lost etpan p.1)).sum
      ∧ h'.Holds (a' ++ (b' ++ (g ++ cells))) := by
  induction htodo generalizing done es s b c h cells with
  | nil =>
    rw [List.append_nil] at hps
    rw [hps] at hemails ⊢
    have hh : h.Holds (b ++ (c ++ cells)) := hh
    exact ⟨h, es, s, c, b, [], rfl, rfl, hdone, hemails, rfl, hh.swap⟩
  | @cons p box a todo boxes rest hhead htail ih =>
    have hp : ps[done.length]? = some p := by
      rw [hps, List.getElem?_append_right (Nat.le_refl _), Nat.sub_self]
      rfl
    have hh₁ : h.Holds (a ++ (b ++ (rest ++ (c ++ cells)))) := by
      rw [List.append_assoc] at hh
      exact hh.perm ((List.perm_append_comm_assoc b rest _).append_left a)
    obtain ⟨h₂, es₂, box₂, a₂, b₂, g₂, hround, hboxes, hbox₂, hemails₂, hlength₂, hh₂⟩ :=
      checkMailbox_eq etpan htitle hscreen hp hhead hemails hh₁
        (List.mem_append_right _ (List.mem_append_right _ hmem))
    have hdone₂ := hdone.concat hbox₂
    rw [← hboxes] at hdone₂
    have hh₂ : h₂.Holds (rest ++ (b₂ ++ ((c ++ a₂) ++ (g₂ ++ cells)))) :=
      hh₂.perm (List.perm_iff_count.mpr (fun cell => by
        simp only [List.count_append]
        omega))
    obtain ⟨h', es', s', a', b', g, hvalue, hrest, hall, hemails', hlength, hh'⟩ :=
      ih (hps.trans (List.append_cons _ _ _)) hdone₂ hemails₂ hh₂ (List.mem_append_right _ hmem)
    rw [List.length_append] at hrest hlength hvalue
    refine ⟨h', es', s', a', b', g ++ g₂, hvalue, ?_, hall, hemails', ?_, ?_⟩
    · rw [List.zipIdx_cons, List.foldlM_cons, hround]
      exact hrest
    · rw [List.zipIdx_cons, List.map_cons, List.sum_cons, List.length_append, hlength₂, hlength,
        Nat.add_comm]
      rfl
    · rw [List.append_assoc]
      exact hh'

/-- **The e-mails are freed.** -/
theorem Represents.freeEmails (hm : m.Represents mail lost) :
    ∃ m', m.freeEmails = some m' ∧ m'.Represents mail.freeEmails lost
      ∧ m'.mailboxes = m.mailboxes := by
  obtain ⟨title, a, b, garbage, htitle, hboxes, hemails, hlost, hh⟩ := hm.owned
  have hh : m.heap.Holds (b ++ (⟨title, .string mail.titlePrefix⟩ :: (a ++ garbage))) :=
    hh.perm (List.perm_middle.trans ((List.perm_append_comm_assoc b a garbage).cons _))
  obtain ⟨h', hfree, hh'⟩ := hemails.foldlM_free freeEmail_eq hh
  refine ⟨{ m with heap := h', email := [] }, ?_, ⟨hm.currentScreen, hm.screen, title, a, [],
    garbage, htitle, hboxes, .nil, hlost, hh'⟩, rfl⟩
  simp only [MailMemory.freeEmails, hfree, Option.bind_eq_bind, Option.bind_some]

/-- **`mail_check`** -/
theorem Represents.check (hm : m.Represents mail lost) (etpan : Libetpan) :
    ∃ m', m.check etpan = some (m', (mail.check etpan).2.1)
      ∧ m'.Represents (mail.check etpan).1 (lost + mail.lostCheck etpan) := by
  have hstart : { m with currentScreen := 0 }.Represents { mail with currentScreen := 0 } lost :=
    ⟨rfl, hm.screen, hm.owned⟩
  obtain ⟨m₁, hfree, hm₁, -⟩ := hstart.freeEmails
  obtain ⟨title, a, b, garbage, htitle, hboxes, hemails, hlost, hh⟩ := hm₁.owned
  have hnone : Heap.Each MailboxCells [] (MailLoop.mk [] [] [] []).boxes [] := .nil
  have hemails : Heap.Each (EmailCells m₁.mailboxes) m₁.email (MailLoop.mk [] [] [] []).email b :=
    hemails
  have hh : m₁.heap.Holds (a ++ (b ++ ([] ++ (⟨title, .string mail.titlePrefix⟩ :: garbage)))) :=
    hh.perm ((List.perm_middle.append_left a).trans List.perm_middle)
  obtain ⟨h', es', s', a', b', g, rfl, hloop, hboxes', hemails', hlength, hh'⟩ :=
    foldlM_checkMailbox_eq etpan htitle hm₁.screen hboxes (List.nil_append _).symm hnone hemails hh
      List.mem_cons_self
  refine ⟨{ m₁ with heap := h', email := es' }, ?_, hm₁.currentScreen, hm₁.screen, title, a', b',
    g ++ garbage, htitle, hboxes', hemails', ?_, ?_⟩
  · have hloop : m₁.mailboxes.zipIdx.foldlM (checkMailbox etpan m₁) (m₁.heap, m₁.email, [])
        = some (h', es', (mail.check etpan).2.1) := hloop
    simp only [MailMemory.check, hfree, hloop, Option.bind_eq_bind, Option.bind_some]
  · rw [List.length_append, hlength, hlost, Nat.add_comm]
    rfl
  · show h'.Holds (⟨title, .string mail.titlePrefix⟩ :: (a' ++ (b' ++ (g ++ garbage))))
    exact hh'.perm (List.perm_iff_count.mpr (fun cell => by
      simp only [List.count_cons, List.count_append]
      omega))

/-- **`show_screen`** -/
theorem Represents.showScreen (hm : m.Represents mail lost) :
    ∃ m', m.showScreen = some (m', mail.showScreen.2) ∧ m'.Represents mail.showScreen.1 lost := by
  obtain ⟨title, a, b, garbage, htitle, hboxes, hemails, hlost, hh⟩ := hm.owned
  have hpos : Carousel.clamp m.email.length m.currentScreen = mail.clampScreen := by
    rw [hemails.length_eq, hm.currentScreen]
    rfl
  have hitem : Displayed mail m.mailboxes m.email
      (⟨title, .string mail.titlePrefix⟩ :: (a ++ (b ++ garbage))) :=
    Displayed.mono (Carousel.itemAt_rel hemails.forall₂ mail.clampScreen 0)
      (List.subset_cons_of_subset _
        (List.subset_append_of_subset_right _ (List.subset_append_left _ _)))
  obtain ⟨h', hshow, hh'⟩ := showScreen_eq htitle hm.screen hpos hboxes hitem hh
    List.mem_cons_self (List.subset_cons_of_subset _ (List.subset_append_left _ _))
  exact ⟨_, hshow, rfl, hm.screen, title, a, b, garbage, htitle, hboxes, hemails, hlost, hh'⟩

/-- **What an event leaves**, and its commands. -/
theorem Represents.next (hm : m.Represents mail lost) (event : MailEvent) :
    ∃ m', m.next event = some (m', mail.commands event)
      ∧ m'.Represents (mail.after event) (lost + mail.lostIn event) := by
  cases event with
  | refresh etpan =>
    obtain ⟨m₁, hcheck, hm₁⟩ := hm.check etpan
    obtain ⟨m', hshow, hm'⟩ := hm₁.showScreen
    refine ⟨m', ?_, hm'⟩
    simp only [MailMemory.next, hcheck, hshow, Option.bind_eq_bind, Option.bind_some]
    rfl
  | nav event =>
    have hmoved : { m with currentScreen := m.currentScreen + event.delta }.Represents
        (mail.atScreen (mail.currentScreen + event.delta)) lost :=
      ⟨congrArg (· + event.delta) hm.currentScreen, hm.screen, hm.owned⟩
    obtain ⟨m', hshow, hm'⟩ := hmoved.showScreen
    cases event with
    | key str => exact ⟨m', hshow, hm'⟩
    | ignore => exact ⟨m', hshow, hm'⟩

/-- **What a run leaves**, and its commands. -/
theorem Represents.run (hm : m.Represents mail lost) (events : List MailEvent) :
    ∃ m', m.run events = some (m', mail.allCommands events)
      ∧ m'.Represents (mail.afterAll events) (lost + mail.lost events) := by
  induction events generalizing m mail lost with
  | nil => exact ⟨m, rfl, hm⟩
  | cons event events ih =>
    obtain ⟨m₁, hnext, hm₁⟩ := hm.next event
    obtain ⟨m', hrest, hm'⟩ := ih hm₁
    refine ⟨m', ?_, ?_⟩
    · simp only [MailMemory.run, hnext, hrest, Option.bind_eq_bind, Option.bind_some]
      rfl
    · rw [Nat.add_assoc] at hm'
      exact hm'

/-- **What is left when the program ends.** -/
theorem Represents.exit (hm : m.Represents mail lost) :
    ∃ h, m.exit = some h ∧ h.live = lost := by
  obtain ⟨m₁, hfree, hm₁, -⟩ := hm.freeEmails
  obtain ⟨title, a, b, garbage, htitle, hboxes, hemails, hlost, hh⟩ := hm₁.owned
  rw [hemails.eq_nil] at hh
  obtain ⟨h₁, hfree₁, hh₁⟩ := hboxes.foldlM_free freeMailbox_eq (hh.perm List.perm_middle)
  obtain ⟨h₂, hfree₂, hh₂⟩ := hh₁.free
  refine ⟨h₂, ?_, hh₂.live_eq.trans hlost⟩
  simp only [MailMemory.exit, hfree, hfree₁, htitle, gFree, hfree₂, Option.bind_eq_bind,
    Option.bind_some]

/-- **`mail_init`** -/
theorem exists_init (titlePrefix : Str) (boxes : List Mailbox) (screen : Screen) :
    ∃ m, init titlePrefix boxes screen = some m
      ∧ m.Represents (LcdStuffMail.init titlePrefix boxes screen) 0 := by
  obtain ⟨title, h₁, hmalloc, hh₁⟩ := Heap.holds_empty.malloc (MailBlock.string titlePrefix)
  obtain ⟨ps, h₂, a, hinit, hboxes, hh₂⟩ := initMailboxes_eq boxes hh₁
  refine ⟨⟨h₂, ps, [], 0, some title, screen⟩, ?_, rfl, rfl, title, a, [], [], rfl, hboxes, .nil,
    rfl, hh₂.perm List.perm_middle.symm⟩
  simp only [init, hmalloc, hinit, Option.bind_eq_bind, Option.bind_some]

/-- **Nothing is read or freed that is not there any more**, and nothing twice, in any run of the
module; and it sends what the values say. -/
theorem sends_of_events (titlePrefix : Str) (boxes : List Mailbox) (screen : Screen)
    (events : List MailEvent) :
    ∃ m m', init titlePrefix boxes screen = some m
      ∧ m.run events
        = some (m', (LcdStuffMail.init titlePrefix boxes screen).allCommands events) := by
  obtain ⟨m, hinit, hm⟩ := exists_init titlePrefix boxes screen
  obtain ⟨m', hrun, -⟩ := hm.run events
  exact ⟨m, m', hinit, hrun⟩

/-- **What is left when the program ends** is what nothing pointed to any more: of a message with
more than one sender, all but the last, and so of the subjects. If there is no such message, nothing
is left. -/
theorem live_at_exit (titlePrefix : Str) (boxes : List Mailbox) (screen : Screen)
    (events : List MailEvent) :
    ∃ m m' cmds h, init titlePrefix boxes screen = some m ∧ m.run events = some (m', cmds)
      ∧ m'.exit = some h ∧ h.live = (LcdStuffMail.init titlePrefix boxes screen).lost events
      ∧ (h.live = 0 ↔ (LcdStuffMail.init titlePrefix boxes screen).NoneDoubled events) := by
  obtain ⟨m, hinit, hm⟩ := exists_init titlePrefix boxes screen
  obtain ⟨m', hrun, hm'⟩ := hm.run events
  obtain ⟨h, hexit, hlive⟩ := hm'.exit
  rw [Nat.zero_add] at hlive
  refine ⟨m, m', _, h, hinit, hrun, hexit, hlive, ?_⟩
  rw [hlive]
  exact LcdStuffMail.lost_eq_zero_iff _ _

/-! ## A handler during a check -/

variable {h h' : Heap MailBlock} {p q : ℕ}

/-- What was freed stays so when a string is freed. -/
theorem freed_gFree {s : Option ℕ} (hp : h.Freed p) (hfree : gFree h s = some h') :
    h'.Freed p := by
  cases s with
  | none =>
    obtain rfl := Option.some.inj hfree
    exact hp
  | some q => exact hp.free hfree

/-- **An e-mail is freed**, and what was freed stays so. -/
theorem freed_freeEmail (hfree : freeEmail h q = some h') :
    h'.Freed q ∧ ∀ p, h.Freed p → h'.Freed p := by
  unfold freeEmail at hfree
  simp only [Option.bind_eq_bind, Option.bind_eq_some_iff] at hfree
  obtain ⟨email, -, h₁, hfrom, email', -, h₂, hsubject, hstruct⟩ := hfree
  exact ⟨Heap.Freed.of_free hstruct,
    fun p hp => (freed_gFree (freed_gFree hp hfrom) hsubject).free hstruct⟩

/-- **The e-mails are freed**, and what was freed stays so. -/
theorem freed_foldlM_freeEmail {ps : List ℕ} (hfree : ps.foldlM freeEmail h = some h') :
    (∀ p ∈ ps, h'.Freed p) ∧ ∀ p, h.Freed p → h'.Freed p := by
  induction ps generalizing h with
  | nil =>
    obtain rfl := Option.some.inj hfree
    exact ⟨fun p hp => absurd hp List.not_mem_nil, fun p => id⟩
  | cons p ps ih =>
    rw [List.foldlM_cons] at hfree
    obtain ⟨h₁, hfirst, hrest⟩ := Option.bind_eq_some_iff.mp hfree
    obtain ⟨hfreed, hkept⟩ := freed_freeEmail hfirst
    obtain ⟨hfreed', hkept'⟩ := ih hrest
    exact ⟨List.forall_mem_cons.mpr ⟨hkept' p hfreed, hfreed'⟩, fun q hq => hkept' q (hkept q hq)⟩

/-- What was freed stays so when the first line is built. -/
theorem freed_foldlM_line1Body {ps : List ℕ} {line1 line1' : Option ℕ}
    (hline : ps.foldlM line1Body (h, line1) = some (h', line1')) (hp : h.Freed p) :
    h'.Freed p := by
  induction ps generalizing h line1 with
  | nil =>
    obtain ⟨rfl, -⟩ := Prod.mk.inj (Option.some.inj hline)
    exact hp
  | cons box ps ih =>
    rw [List.foldlM_cons] at hline
    obtain ⟨⟨h₁, line₁⟩, hbody, hrest⟩ := Option.bind_eq_some_iff.mp hline
    refine ih hrest ?_
    have hold : (line1Old h line1).2.Freed p := by
      cases line1 with
      | none => exact hp.malloc _
      | some line1 => exact hp
    unfold line1Body at hbody
    simp only [Option.bind_eq_bind, Option.bind_eq_some_iff] at hbody
    obtain ⟨b, -, old, -, name, -, h₂, hfree, heq⟩ := hbody
    obtain ⟨rfl, -⟩ := Prod.mk.inj (Option.some.inj heq)
    exact (hold.malloc _).free hfree

/-- **An e-mail that was freed is not shown**: `show_screen` reads it. -/
theorem showScreen_eq_none {m : MailMemory}
    (hitem : Carousel.itemAt (Carousel.clamp m.email.length m.currentScreen) m.email 0 = some p)
    (hp : m.heap.Freed p) : m.showScreen = none := by
  unfold showScreen
  cases hline : m.mailboxes.foldlM line1Body (m.heap, none) with
  | none => rfl
  | some r =>
    have hread : emailAt r.1 p = none := by
      show (r.1.read p).bind _ = none
      rw [(freed_foldlM_line1Body hline hp).read]
      rfl
    simp only [hitem, showEmail, hread, Option.bind_eq_bind, Option.bind_some, Option.bind_none]

/-- **A handler that is called while the e-mails are freed** is fine exactly if it does not show one
that was freed. -/
theorem Represents.inFreeEmails {m : MailMemory} {mail : LcdStuffMail} {lost : ℕ}
    (hm : m.Represents mail lost) (k : ℕ) (event : NavEvent) :
    ∃ m₁, m.inFreeEmails k = some m₁ ∧ ((m₁.next (.nav event)).isSome = true ↔
      mail.email = []
        ∨ min k mail.email.length ≤ Carousel.clamp mail.email.length event.delta) := by
  obtain ⟨title, a, b, garbage, htitle, hboxes, hemails, -, hh⟩ := hm.owned
  obtain ⟨b₁, b₂, rfl, htake, hdrop⟩ := hemails.take_drop k
  have hh : m.heap.Holds (b₁ ++ (⟨title, .string mail.titlePrefix⟩ :: (a ++ (b₂ ++ garbage)))) := by
    refine hh.perm (List.perm_iff_count.mpr (fun cell => ?_))
    simp only [List.count_cons, List.count_append]
    omega
  obtain ⟨h₁, hfree, hh₁⟩ := htake.foldlM_free freeEmail_eq hh
  refine ⟨{ m with heap := h₁, currentScreen := 0 }, ?_, ?_⟩
  · simp only [MailMemory.inFreeEmails, hfree, Option.bind_eq_bind, Option.bind_some]
  have hlength := hemails.length_eq
  have hpos : Carousel.clamp m.email.length (0 + event.delta)
      = (mail.atScreen event.delta).clampScreen := by
    rw [hlength, Int.zero_add]
    rfl
  -- as long as the e-mail is in the memory, the handler has a result
  have hshown : Displayed (mail.atScreen event.delta) m.mailboxes m.email
      (⟨title, .string mail.titlePrefix⟩ :: (a ++ (b₂ ++ garbage))) →
      (MailMemory.next { m with heap := h₁, currentScreen := 0 } (.nav event)).isSome = true := by
    intro hitem
    have hscreen : m.screen = (mail.atScreen event.delta).screen := hm.screen
    obtain ⟨h', hshow, -⟩ := showScreen_eq
      (m := { m with heap := h₁, currentScreen := 0 + event.delta }) htitle hscreen hpos hboxes
      hitem hh₁ List.mem_cons_self (List.subset_cons_of_subset _ (List.subset_append_left _ _))
    exact Option.isSome_iff_exists.mpr ⟨_, hshow⟩
  by_cases hnil : mail.email = []
  · refine iff_of_true (hshown ?_) (.inl hnil)
    rw [hnil] at hemails
    cases hp : m.email with
    | nil =>
      show Option.Rel _ none (Carousel.itemAt _ mail.email 0)
      rw [hnil]
      exact .none
    | cons p es => exact absurd (hp ▸ hemails.length_eq) (Nat.succ_ne_zero _)
  · obtain ⟨hnonneg, hlt⟩ := Carousel.clamp_mem
      (Int.natCast_pos.mpr (List.length_pos_iff.mpr hnil)) event.delta
    have hclamp : (mail.atScreen event.delta).clampScreen
        = Carousel.clamp mail.email.length event.delta := rfl
    generalize Carousel.clamp mail.email.length event.delta = pos at hnonneg hlt hclamp ⊢
    have hplace : pos.toNat < mail.email.length := by omega
    by_cases hkept : min k mail.email.length ≤ pos
    · refine iff_of_true (hshown ?_) (.inr hkept)
      have hindex : k + (pos.toNat - k) = pos.toNat := by omega
      have hvalue : (mail.email.drop k)[pos.toNat - k]? = some mail.email[pos.toNat] := by
        rw [List.getElem?_drop, hindex, List.getElem?_eq_getElem hplace]
      obtain ⟨p, e, hp, hR, hsub⟩ := hdrop.getElem? hvalue
      rw [List.getElem?_drop, hindex] at hp
      show Option.Rel _ (Carousel.itemAt _ m.email 0) (Carousel.itemAt _ mail.email 0)
      rw [hclamp, Carousel.itemAt_zero _ hnonneg, Carousel.itemAt_zero _ hnonneg, hp,
        List.getElem?_eq_getElem hplace]
      exact .some ⟨e, hR, List.subset_cons_of_subset _
        (List.subset_append_of_subset_right _ (List.subset_append_of_subset_left _ hsub))⟩
    · refine iff_of_false ?_ (not_or_intro hnil hkept)
      have hlt' : pos.toNat < m.email.length := by omega
      have hmem : m.email[pos.toNat] ∈ m.email.take k :=
        List.mem_take_iff_getElem.mpr ⟨pos.toNat, by omega, rfl⟩
      have hnone := showScreen_eq_none
        (m := { m with heap := h₁, currentScreen := 0 + event.delta }) (p := m.email[pos.toNat])
        (by
          show Carousel.itemAt (Carousel.clamp m.email.length (0 + event.delta)) m.email 0 = _
          rw [hpos, hclamp, Carousel.itemAt_zero _ hnonneg]
          exact List.getElem?_eq_getElem hlt')
        ((freed_foldlM_freeEmail hfree).1 _ hmem)
      show ¬ (MailMemory.showScreen _).isSome = true
      rw [hnone]
      exact Bool.false_ne_true

/-- **A key or an ignored screen during a check**: the module has a result when it is called while
some of the e-mails are freed and the list is still there, exactly if the one that is shown is none
of them. -/
theorem isSome_next_inFreeEmails_iff (titlePrefix : Str) (boxes : List Mailbox) (screen : Screen)
    (events : List MailEvent) (k : ℕ) (event : NavEvent) :
    ∃ m m' cmds m₁, init titlePrefix boxes screen = some m ∧ m.run events = some (m', cmds)
      ∧ m'.inFreeEmails k = some m₁
      ∧ ((m₁.next (.nav event)).isSome = true ↔
        ((LcdStuffMail.init titlePrefix boxes screen).afterAll events).email = []
          ∨ min k ((LcdStuffMail.init titlePrefix boxes screen).afterAll events).email.length
            ≤ Carousel.clamp
              ((LcdStuffMail.init titlePrefix boxes screen).afterAll events).email.length
              event.delta) := by
  obtain ⟨m, hinit, hm⟩ := exists_init titlePrefix boxes screen
  obtain ⟨m', hrun, hm'⟩ := hm.run events
  obtain ⟨m₁, hfree, hiff⟩ := hm'.inFreeEmails k event
  exact ⟨m, m', _, m₁, hinit, hrun, hfree, hiff⟩

end MailMemory
