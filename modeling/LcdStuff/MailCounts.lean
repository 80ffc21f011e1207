import LcdStuff.MailDisplay
import LcdStuff.SongDisplay

/-!
# The counts on the display

The first line of the mail screen says for every mailbox how many of its messages were not seen.
The counts are not taken from the list of the e-mails: `mailfolder_status` writes them to the
mailbox, where they stay until the next run. In front of it they are reset, but only if the mailbox
is not a local one, and so a local mailbox that cannot be read any more is shown with the count of
an earlier run (`LcdStuffMail.showsReported_iff`).
-/

/-- **What `mailfolder_status` reports in a run**, if the run comes to it and it succeeds. -/
def MailboxAnswers.reported (answers : MailboxAnswers) (box : Mailbox) : Option MailboxStatus :=
  if (initStorage box (getDriver box.type) answers.init).2 = true ∧ answers.folderNew = true
      ∧ answers.connect = true then answers.status
  else none

namespace MailRound

variable {etpan : Libetpan} {mb : ℕ}

/-- What is counted is stored in the mailbox, whatever else the round has done. -/
theorem box_setStatus {r s : MailRound} (h : s.box = r.box) (status : Option MailboxStatus) :
    (if status.isSome = true then (s.setStatus status).box else r.box)
      = (r.setStatus status).box := by
  cases status with
  | none => rfl
  | some status =>
    show (s.setStatus (some status)).box = _
    unfold setStatus
    rw [h]

/-- **A round stores what is reported**, and else it leaves the mailbox as it is. -/
theorem box_run (r : MailRound) :
    (r.run etpan mb).box = (r.setStatus ((etpan.answers mb).reported r.box)).box := by
  have hend : ∀ s : MailRound,
      (reached (pure (s.checkMessages etpan mb ((etpan.answers mb).messagesList.getD [])))).box
        = s.box := fun _ => rfl
  show (reached (r.check etpan mb)).box = _
  unfold check MailboxAnswers.reported
  -- behind the status nothing is stored any more
  simp only [apply_reached_call_bind MailRound.box (fun _ _ => rfl), hend, ite_self]
  rw [box_setStatus (r := r) ?_]
  · simp only [← ite_and]
    rw [apply_ite r.setStatus, apply_ite MailRound.box]
    rfl
  · rfl

end MailRound

namespace LcdStuffMail

variable (etpan : Libetpan) (mail : LcdStuffMail)

/-- **The count that a run leaves** in a mailbox. -/
def unseenAfter (p : Mailbox × ℕ) : BitVec 32 :=
  match (etpan.answers p.2).reported p.1 with
  | some status => status.unseen
  | none => if isLocal p.1.type then p.1.messagesUnseen else 0

/-- A round of the loop over the mailboxes keeps the name, and leaves that count. -/
theorem boxes_checkMailbox (s : MailLoop) (p : Mailbox × ℕ) :
    (mail.checkMailbox etpan s p).boxes.map (fun box => (box.name, box.messagesUnseen))
      = s.boxes.map (fun box => (box.name, box.messagesUnseen))
        ++ [(p.1.name, unseenAfter etpan p)] := by
  have hround : ∀ (r : MailRound) (status : Option MailboxStatus),
      ((r.setStatus status).box.name, (r.setStatus status).box.messagesUnseen)
        = (r.box.name, status.elim r.box.messagesUnseen MailboxStatus.unseen) := by
    intro r status
    cases status with
    | none => rfl
    | some status => rfl
  unfold checkMailbox unseenAfter
  rw [List.map_append, List.map_singleton, MailRound.box_run, hround]
  cases isLocal p.1.type with
  | false =>
    show _ ++ [(p.1.name, ((etpan.answers p.2).reported p.1).elim 0 MailboxStatus.unseen)] = _
    cases (etpan.answers p.2).reported p.1 with
    | none => rfl
    | some status => rfl
  | true =>
    show _ ++ [(p.1.name,
      ((etpan.answers p.2).reported p.1).elim p.1.messagesUnseen MailboxStatus.unseen)] = _
    cases (etpan.answers p.2).reported p.1 with
    | none => rfl
    | some status => rfl

/-- **The names and the counts after a run.** -/
theorem boxes_check :
    (mail.check etpan).1.mailboxes.map (fun box => (box.name, box.messagesUnseen))
      = mail.mailboxes.zipIdx.map (fun p => (p.1.name, unseenAfter etpan p)) := by
  rw [List.map_eq_flatMap (l := mail.mailboxes.zipIdx), List.flatMap_eq_foldl]
  refine (List.foldl_hom
    (fun s : MailLoop => s.boxes.map (fun box => (box.name, box.messagesUnseen)))
    (fun s p => ?_)).symm
  exact (boxes_checkMailbox etpan _ s p).symm

/-- What `show_screen` builds of the mailboxes, behind what it has. -/
theorem foldl_line1Body (boxes : List Mailbox) (line1 : Option Str) :
    boxes.foldl line1Body line1 = if boxes = [] then line1
      else some (line1.getD []
        ++ boxes.flatMap (fun box => counted box.name box.messagesUnseen.toInt)) := by
  induction boxes generalizing line1 with
  | nil => rfl
  | cons box boxes ih =>
    rw [List.foldl_cons, ih, if_neg (List.cons_ne_nil _ _), List.flatMap_cons, ← List.append_assoc]
    split
    · next hnil =>
      rw [hnil, List.flatMap_nil, List.append_nil]
      rfl
    · rfl

/-- **The first line after a run.** -/
theorem line1_check :
    (mail.check etpan).1.line1 = if mail.mailboxes = [] then none
      else some (mail.mailboxes.zipIdx.flatMap
        (fun p => counted p.1.name (unseenAfter etpan p).toInt)) := by
  have hboxes := boxes_check etpan mail
  have hcounts : (mail.check etpan).1.mailboxes.flatMap
      (fun box => counted box.name box.messagesUnseen.toInt)
        = mail.mailboxes.zipIdx.flatMap
          (fun p => counted p.1.name (unseenAfter etpan p).toInt) := by
    have hmap := congrArg
      (List.flatMap (fun q : Str × BitVec 32 => counted q.1 q.2.toInt)) hboxes
    rwa [List.flatMap_map, List.flatMap_map] at hmap
  have hnil : (mail.check etpan).1.mailboxes = [] ↔ mail.mailboxes = [] := by
    have hlength := congrArg List.length hboxes
    rw [List.length_map, List.length_map, List.length_zipIdx] at hlength
    rw [← List.length_eq_zero_iff, hlength, List.length_eq_zero_iff]
  unfold line1
  rw [foldl_line1Body, hcounts]
  exact if_congr hnil rfl rfl

/-- The first line that `update_screen` sends. -/
theorem sentTo_updateScreen (h : 0 < mail.screen.calculateLines) (title line1 : Option Str)
    (line2 line3 : Str) :
    mail.screen.sentTo 0 (mail.updateScreen title line1 (some line2) (some line3))
      = line1.toList := by
  have hnone : ∀ cmds, (∀ m line row text, .widgetSetLine m line row text ∉ cmds) →
      mail.screen.sentTo 0 cmds = [] := by
    intro cmds hcmds
    refine List.filterMap_eq_nil_iff.mpr (fun cmd hcmd => ?_)
    cases cmd with
    | widgetSetLine m line row text => exact absurd hcmd (hcmds m line row text)
    | _ => rfl
  unfold updateScreen
  rw [Screen.sentTo_append, Screen.sentTo_append, Screen.sentTo_append,
    Screen.sentTo_showText_of_ne _ (by decide), Screen.sentTo_showText_of_ne _ (by decide),
    List.append_nil, List.append_nil, hnone, List.nil_append]
  · cases line1 with
    | none =>
      rw [Screen.showText_none]
      rfl
    | some line1 => exact Screen.sentTo_showText_self _ h line1
  · intro m line row text hmem
    split at hmem
    · exact nomatch hmem
    · exact mail.screen.widgetSetLine_notMem_setTitle _ hmem
    · exact mail.screen.widgetSetLine_notMem_setTitle _ hmem

/-! ## Counts of earlier runs -/

/-- The number of the messages of a mailbox that were not seen, as it is reported in a run, and
zero if it is not. -/
def reportedCount (p : Mailbox × ℕ) : ℕ :=
  ((etpan.answers p.2).reported p.1).elim 0 (fun status => status.unseen.toNat)

/-- **After a run the first line shows what is reported in it.** -/
def ShowsReported : Prop :=
  (mail.screen.sentTo 0 (mail.refresh etpan).2).getLast? = if mail.mailboxes = [] then none
    else some (mail.mailboxes.zipIdx.flatMap
      (fun p => counted p.1.name (reportedCount etpan p)))

instance : Decidable (mail.ShowsReported etpan) := inferInstanceAs (Decidable (_ = _))

/-- **No count is left over**: a count that is reported is an `int`, and if none is reported for a
local mailbox, there is none from an earlier run. -/
def NoneLeftOver : Prop :=
  ∀ p ∈ mail.mailboxes.zipIdx,
    (∀ status ∈ (etpan.answers p.2).reported p.1, status.unseen.toNat < 2 ^ 31)
      ∧ ((etpan.answers p.2).reported p.1 = none → isLocal p.1.type = true →
        p.1.messagesUnseen = 0)

instance : Decidable (mail.NoneLeftOver etpan) :=
  inferInstanceAs (Decidable (∀ p ∈ mail.mailboxes.zipIdx,
    (∀ status ∈ (etpan.answers p.2).reported p.1, status.unseen.toNat < 2 ^ 31)
      ∧ ((etpan.answers p.2).reported p.1 = none → isLocal p.1.type = true →
        p.1.messagesUnseen = 0)))

/-- The count that is shown for one mailbox. -/
theorem unseenAfter_eq_iff (p : Mailbox × ℕ) :
    (unseenAfter etpan p).toInt = (reportedCount etpan p : ℕ) ↔
      (∀ status ∈ (etpan.answers p.2).reported p.1, status.unseen.toNat < 2 ^ 31)
        ∧ ((etpan.answers p.2).reported p.1 = none → isLocal p.1.type = true →
          p.1.messagesUnseen = 0) := by
  have hzero : ∀ count : BitVec 32, count.toInt = (0 : ℕ) ↔ count = 0 :=
    fun count => BitVec.toInt_inj (y := 0)
  unfold unseenAfter reportedCount
  cases (etpan.answers p.2).reported p.1 with
  | none =>
    dsimp only [Option.elim]
    rw [and_iff_right nofun, imp_iff_right rfl]
    cases isLocal p.1.type with
    | false => exact iff_of_true rfl nofun
    | true =>
      rw [if_pos rfl, hzero, imp_iff_right rfl]
  | some status =>
    dsimp only [Option.elim]
    rw [and_iff_left nofun, BitVec.toInt_eq_toNat_cond]
    constructor
    · intro h status' hstatus
      obtain rfl := Option.some.inj hstatus
      split at h
      · omega
      · omega
    · intro h
      have hlt := h status rfl
      rw [if_pos (by omega)]

/-- A line of counts is read in one way. -/
theorem flatMap_counted_inj {α : Type} (l : List α) (name : α → Str) (a b : α → Int) :
    l.flatMap (fun p => counted (name p) (a p)) = l.flatMap (fun p => counted (name p) (b p))
      ↔ ∀ p ∈ l, a p = b p := by
  constructor
  · intro h
    induction l with
    | nil => exact fun p hp => nomatch hp
    | cons q l ih =>
      have hspace : ∀ i : Int, ' ' ∉ decimal i :=
        fun i hi => notMem_of_mem_decimal hi (List.mem_cons_self ..)
      have hcounted : ∀ (n : Str) (i : Int) (rest : Str),
          counted n i ++ rest = n ++ ":".toList ++ (decimal i ++ ' ' :: rest) := by
        intro n i rest
        unfold counted
        rw [List.append_assoc, List.append_assoc]
        rfl
      rw [List.flatMap_cons, List.flatMap_cons, hcounted, hcounted,
        List.append_cancel_left_eq] at h
      obtain ⟨hcount, hrest⟩ := append_cons_inj (hspace _) (hspace _) h
      exact List.forall_mem_cons.mpr ⟨decimal_injective hcount, ih hrest⟩
  · intro h
    exact List.flatMap_congr (fun p hp => by rw [h p hp])

/-- The last thing that is sent to the first line is the counts. -/
theorem getLast?_sentTo_refresh (h : 0 < mail.screen.calculateLines) :
    (mail.screen.sentTo 0 (mail.refresh etpan).2).getLast? = (mail.check etpan).1.line1 := by
  have hshow : mail.screen.sentTo 0 (mail.check etpan).1.showScreen.2
      = (mail.check etpan).1.line1.toList :=
    sentTo_updateScreen (mail.check etpan).1 h _ _ _ _
  show (mail.screen.sentTo 0 ((mail.check etpan).2.1 ++ _)).getLast? = _
  rw [Screen.sentTo_append, hshow, List.getLast?_append, line1_check]
  split
  · next hnil =>
    have hcmds : (mail.check etpan).2.1 = [] := by
      unfold check freeEmails
      rw [hnil]
      rfl
    rw [hcmds]
    rfl
  · rfl

/-- **A run shows what is reported**, exactly if no count is left over. -/
theorem showsReported_iff_noneLeftOver (h : 0 < mail.screen.calculateLines) :
    mail.ShowsReported etpan ↔ mail.NoneLeftOver etpan := by
  unfold ShowsReported NoneLeftOver
  rw [getLast?_sentTo_refresh etpan mail h, line1_check]
  by_cases hnil : mail.mailboxes = []
  · rw [if_pos hnil, if_pos hnil, hnil]
    exact iff_of_true rfl (fun p hp => nomatch hp)
  · rw [if_neg hnil, if_neg hnil, Option.some.injEq, flatMap_counted_inj]
    exact forall₂_congr (fun p _ => unseenAfter_eq_iff etpan p)

/-- One run after the other. -/
def runs (etpans : List Libetpan) : LcdStuffMail :=
  etpans.foldl (fun mail etpan => (mail.refresh etpan).1) mail

/-- No run touches the screen of the module. -/
theorem screen_runs (etpans : List Libetpan) : (mail.runs etpans).screen = mail.screen := by
  induction etpans generalizing mail with
  | nil => rfl
  | cons etpan etpans ih => exact ih (mail.refresh etpan).1

/-- **Every run shows what is reported in it**, exactly if no run finds a count that is left
over. -/
theorem showsReported_iff {mail : LcdStuffMail} {socket : Int} {greeting : Str}
    (h : mainInit socket greeting = .ok (some mail.screen.lcd)) (etpans : List Libetpan) :
    EachPrepared (fun before => (mail.runs before).ShowsReported) etpans
      ↔ EachPrepared (fun before => (mail.runs before).NoneLeftOver) etpans := by
  have hlines : 0 < mail.screen.calculateLines := by
    have hheight := (mainInit_bounds h).1
    have hrow := mail.screen.height_sub_one_le
    omega
  refine forall₄_congr (fun before etpan _ _ => showsReported_iff_noneLeftOver etpan _ ?_)
  rwa [screen_runs]

/-- Two runs over a mailbox that is not local, of which the second cannot connect. -/
theorem showsReported_of_two_runs :
    let answers : Bool → MailboxAnswers := fun connect =>
      ⟨true, true, connect, some ⟨4, 1, 3⟩, none, true⟩
    let etpan : Bool → Libetpan := fun connect => ⟨1, some, fun _ => answers connect⟩
    let box : Mailbox := ⟨[], [], [], "box".toList, "imap".toList, [], 0, 0, 0, false⟩
    let mail : LcdStuffMail := ⟨[box], [], 0, "Mail".toList, ⟨⟨⟨20, 4⟩, false⟩, "mail".toList⟩⟩
    EachPrepared (fun before => (mail.runs before).ShowsReported) [etpan true, etpan false] := by
  intro answers etpan box mail
  have hinit : mainInit 3 "connect LCDproc 0.5 protocol 0.3 lcd wid 20 hgt 4".toList
      = .ok (some mail.screen.lcd) := by decide +kernel
  refine (showsReported_iff hinit _).mpr ?_
  exact (EachPrepared.nil.append_singleton (by decide +kernel)).append_singleton
    (by decide +kernel)

/-- **A maildir that cannot be connected to any more** is shown with the count of the run
before. -/
theorem not_showsReported_of_maildir :
    ¬ ∀ (mail : LcdStuffMail) (socket : Int) (greeting : Str) (etpans : List Libetpan),
      mainInit socket greeting = .ok (some mail.screen.lcd) →
      EachPrepared (fun before => (mail.runs before).ShowsReported) etpans := by
  intro h
  let etpan (connect : Bool) : Libetpan :=
    ⟨1, some, fun _ => ⟨true, true, connect, some ⟨4, 1, 3⟩, none, true⟩⟩
  let box : Mailbox := ⟨[], [], [], "box".toList, "maildir".toList, [], 0, 0, 0, false⟩
  let mail : LcdStuffMail := ⟨[box], [], 0, "Mail".toList, ⟨⟨⟨20, 4⟩, false⟩, "mail".toList⟩⟩
  have hshown := h mail 3 "connect LCDproc 0.5 protocol 0.3 lcd wid 20 hgt 4".toList
    [etpan true, etpan false] (by decide +kernel) [etpan true] (etpan false) [] rfl
  exact absurd hshown (by decide +kernel)

end LcdStuffMail
