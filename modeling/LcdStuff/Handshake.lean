import LcdStuff.Screen
import LcdStuff.Wrap

/-!
# The handshake with the LCDproc server

The server answers `hello` with a line of the form

    connect LCDproc 0.5 protocol 0.3 lcd wid 20 hgt 4 cellwid 5 cellhgt 8

and `communication_init` takes the size of the display from its eighth and
tenth words. It makes sure of eight words only, so a greeting of eight or nine
of them has it read an entry of `argv` that was never stored: there
`communicationInit` is a `Fault`.

The words are cut down to what the program has room for, and `main` refuses a
display of less than two rows. The width has no lower bound, and that decides
whether a headline can be wrapped at all
(`exists_stringbufferWrap_iff_of_mainInit`): into lines of no characters it
never is.
-/

/-- `MAX_LINE_LEN` -/
def maxLineLen : Int := 80

/-- `MAX_DISPLAY_HEIGHT` -/
def maxDisplayHeight : Int := 15

/-- `communication_init`, on what `sock_connect` returned and on what `buffer`
holds once `hello` was answered: the size of the display, or `none` for
`false`. -/
def communicationInit (socket : Int) (buffer : Str) : Except Fault (Option Size) :=
  if socket ≤ 0 then .ok none
  else
    let argv := getArgs buffer 10
    if argv.length < 8 then .ok none
    else do
      let width ← readAt argv 7
      let height ← readAt argv 9
      return some ⟨min (atoi width) (maxLineLen - 1), min (atoi height) maxDisplayHeight⟩

/-- The check of `main` that the display is supported, and what it decides
about the title. -/
def checkDisplay (size : Size) : Option LcdStuff :=
  if size.height < 2 then none else some ⟨size, decide (size.height ≤ 3)⟩

/-- What `main` has of the display when it starts the threads, or `none` where
it returns before. -/
def mainInit (socket : Int) (buffer : Str) : Except Fault (Option LcdStuff) :=
  (communicationInit socket buffer).map (fun size => size.bind checkDisplay)

/-! ## What the handshake guarantees -/

/-- **An accepted greeting names the size**, in its eighth and tenth words. -/
theorem communicationInit_eq_ok {socket : Int} {buffer : Str} {size : Size}
    (h : communicationInit socket buffer = .ok (some size)) :
    ∃ width height, (getArgs buffer 10)[7]? = some width
      ∧ (getArgs buffer 10)[9]? = some height
      ∧ size = ⟨min (atoi width) (maxLineLen - 1), min (atoi height) maxDisplayHeight⟩ := by
  unfold communicationInit at h
  split at h
  · exact absurd h (by simp)
  · dsimp only at h
    split at h
    · exact absurd h (by simp)
    · obtain ⟨width, hwidth, h⟩ := bind_eq_ok_iff.mp h
      obtain ⟨height, hheight, h⟩ := bind_eq_ok_iff.mp h
      exact ⟨width, height, getElem?_of_readAt hwidth, getElem?_of_readAt hheight,
        (Option.some.inj (Except.ok.inj h)).symm⟩

/-- What `main` starts with is the size of the greeting. -/
theorem mainInit_eq_ok {socket : Int} {buffer : Str} {lcd : LcdStuff}
    (h : mainInit socket buffer = .ok (some lcd)) :
    communicationInit socket buffer = .ok (some lcd.displaySize)
      ∧ 2 ≤ lcd.displaySize.height
      ∧ lcd.noTitle = decide (lcd.displaySize.height ≤ 3) := by
  unfold mainInit at h
  cases hinit : communicationInit socket buffer with
  | error e =>
    rw [hinit] at h
    exact absurd h (by simp [Except.map])
  | ok size =>
    rw [hinit] at h
    obtain ⟨size, rfl, hcheck⟩ := Option.bind_eq_some_iff.mp (Except.ok.inj h)
    unfold checkDisplay at hcheck
    split at hcheck
    · exact absurd hcheck (by simp)
    · next hheight =>
      obtain rfl := Option.some.inj hcheck
      exact ⟨rfl, by
        show 2 ≤ size.height
        omega, rfl⟩

/-- **The displays that the modules run on**: two to fifteen rows, at most 79
characters wide, and with a title when there are more than three rows. -/
theorem mainInit_bounds {socket : Int} {buffer : Str} {lcd : LcdStuff}
    (h : mainInit socket buffer = .ok (some lcd)) :
    2 ≤ lcd.displaySize.height ∧ lcd.displaySize.height ≤ 15
      ∧ lcd.displaySize.width ≤ 79
      ∧ lcd.noTitle = decide (lcd.displaySize.height ≤ 3) := by
  obtain ⟨hinit, hheight, htitle⟩ := mainInit_eq_ok h
  obtain ⟨width, height, _, _, hsize⟩ := communicationInit_eq_ok hinit
  refine ⟨hheight, ?_, ?_, htitle⟩
  · rw [hsize]
    exact Int.min_le_right _ _
  · rw [hsize]
    exact Int.min_le_right _ _

/-! ## Wrapping on the display of the greeting -/

/-- **When a headline is wrapped** on the display that a greeting has
announced: always, unless the word for the width is zero or no number. Then
only the empty headline is, and one of spaces whose length is a positive
`int`. -/
theorem exists_stringbufferWrap_iff_of_mainInit {socket : Int} {greeting : Str}
    {lcd : LcdStuff} (h : mainInit socket greeting = .ok (some lcd)) (headline : Str) :
    (∃ fuel t, stringbufferWrap fuel headline lcd.displaySize.width
        (lcd.displaySize.height - 1) = some t)
      ↔ (∀ width, (getArgs greeting 10)[7]? = some width → atoi width ≠ 0)
        ∨ headline = []
        ∨ (0 < wrapInt headline.length ∧ ∀ c ∈ headline, c = ' ') := by
  obtain ⟨hinit, hheight, _⟩ := mainInit_eq_ok h
  obtain ⟨width, _, hwidth, _, hsize⟩ := communicationInit_eq_ok hinit
  obtain ⟨n, hn⟩ := Int.eq_ofNat_of_zero_le (show 0 ≤ lcd.displaySize.height - 1 by omega)
  have hzero : lcd.displaySize.width ≠ 0
      ↔ ∀ w, (getArgs greeting 10)[7]? = some w → atoi w ≠ 0 := by
    rw [hwidth, hsize]
    show min (atoi width) (80 - 1) ≠ 0 ↔ _
    constructor
    · rintro hne w hw
      obtain rfl := Option.some.inj hw
      omega
    · intro hall
      have hne := hall width rfl
      omega
  rw [hn, exists_stringbufferWrap_iff headline _ (show 1 ≤ n by omega), hzero]

/-- A display of twenty columns. -/
theorem exists_stringbufferWrap_of_twenty_columns :
    ∃ fuel t, stringbufferWrap fuel "news of the day".toList 20 3 = some t :=
  (exists_stringbufferWrap_iff_of_mainInit
    (show mainInit 3 "connect LCDproc 0.5 protocol 0.3 lcd wid 20 hgt 4".toList
      = .ok (some ⟨⟨20, 4⟩, false⟩) by decide +kernel) _).mpr
    (.inl (by decide +kernel))

/-- **A greeting without a width is accepted, and no headline is wrapped on
it.** -/
theorem not_forall_exists_stringbufferWrap :
    ¬ ∀ socket greeting lcd headline, mainInit socket greeting = .ok (some lcd) →
      ∃ fuel t, stringbufferWrap fuel headline lcd.displaySize.width
        (lcd.displaySize.height - 1) = some t := by
  intro h
  have hwrap := h 3 "connect LCDproc 0.5 protocol 0.3 lcd wid 0 hgt 4".toList
    ⟨⟨0, 4⟩, false⟩ "a".toList (by decide +kernel)
  rcases (exists_stringbufferWrap_iff "a".toList 0 (show 1 ≤ 3 by omega)).mp hwrap
    with h | h | ⟨_, h⟩
  · exact h rfl
  · exact absurd h (by decide)
  · exact absurd (h 'a' (by decide)) (by decide)
