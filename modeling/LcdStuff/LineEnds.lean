import LcdStuff.Wrap
import Mathlib.Data.Nat.Find

/-!
# Where the lines end

What `LineBreaks.Wrapped` says of a wrapped text leaves open where its lines end. Both
functions of `util.c` decide that from the text behind `remainder` alone, so each is a
`LineBreaks.Cutter`, and the loop goes through the texts that the cutter leaves
(`WrapsBy.of_visits`, `WrapsBy.exists_visits`).

`stringbuffer_wrap_spaces` means to break as late as it can. Its scan looks for the next
space or hyphen *behind* the break it is at, and a break at a hyphen is already one
character behind it; so of hyphens in a row it sees every other one (`scannedBreak`).
Where the last of them that fits is one it does not see, the line is a character
shorter than it could be (`breaksAt_lateCut_iff`).

Both erase one space behind a break, and where there were more the next line begins
with one (`notBlank_stringbufferWrap_iff`).
-/

/-! ## The scan -/

/-- How many hyphens in a row end in front of a position, the first character not
counted. -/
def hyphensBefore (rest : Str) : ℕ → ℕ
  | 0 => 0
  | k + 1 => if 1 ≤ k ∧ rest[k]? = some '-' then hyphensBefore rest k + 1 else 0

/-- **The breaks that the scan comes to**: at a space, and behind every other hyphen of
those in a row. -/
def Scanned (rest : Str) (k : ℕ) : Prop :=
  rest[k]? = some ' ' ∨ hyphensBefore rest k % 2 = 1

instance (rest : Str) : DecidablePred (Scanned rest) := fun k =>
  inferInstanceAs (Decidable (rest[k]? = some ' ' ∨ hyphensBefore rest k % 2 = 1))

/-- **The last of them that fits**, and the beginning of the text where none does. -/
def scannedBreak (L : ℕ) (rest : Str) : ℕ := Nat.findGreatest (Scanned rest) L

/-- `strchr2` finds the first of the two characters. -/
theorem strchr2_eq (s : Str) (a b : Char) :
    strchr2 s a b = s.findIdx? (fun c => c == a || c == b) := by
  unfold strchr2
  induction s with
  | nil => rfl
  | cons c s ih =>
    rw [List.findIdx?_cons, List.findIdx?_cons, List.findIdx?_cons, ← ih]
    cases c == a <;> cases c == b <;>
      cases s.findIdx? (· == a) <;> cases s.findIdx? (· == b) <;> simp

/-- Where it finds neither there is neither. -/
theorem ne_of_strchr2_eq_none {rest : Str} {k : ℕ}
    (h : strchr2 (rest.drop (k + 1)) ' ' '-' = none) {j : ℕ} (hj : k < j) :
    rest[j]? ≠ some ' ' ∧ rest[j]? ≠ some '-' := by
  obtain ⟨d, rfl⟩ := Nat.exists_eq_add_of_le hj
  rw [strchr2_eq, List.findIdx?_eq_none_iff] at h
  rw [← Nat.add_one, ← List.getElem?_drop]
  constructor
  · exact fun hc => nomatch h _ (List.mem_of_getElem? hc)
  · exact fun hc => nomatch h _ (List.mem_of_getElem? hc)

/-- It finds one of them, and passes over neither on the way. -/
theorem of_strchr2_eq_some {rest : Str} {k t : ℕ}
    (h : strchr2 (rest.drop (k + 1)) ' ' '-' = some t) :
    (rest[k + 1 + t]? = some ' ' ∨ rest[k + 1 + t]? = some '-')
      ∧ ∀ j, k < j → j < k + 1 + t → rest[j]? ≠ some ' ' ∧ rest[j]? ≠ some '-' := by
  have hchar := getElem?_of_strchr2 h
  rw [List.getElem?_drop] at hchar
  refine ⟨hchar, fun j hj hjt => ?_⟩
  obtain ⟨d, rfl⟩ := Nat.exists_eq_add_of_le hj
  rw [strchr2_eq, List.findIdx?_eq_some_iff_getElem] at h
  obtain ⟨hlt, -, hbefore⟩ := h
  have hd : d < t := by omega
  have hne := hbefore d hd
  rw [← Nat.add_one, ← List.getElem?_drop, List.getElem?_eq_getElem (Nat.lt_trans hd hlt)]
  exact ⟨fun hc => hne (by rw [Option.some.inj hc]; rfl),
    fun hc => hne (by rw [Option.some.inj hc]; rfl)⟩

/-- Behind a break of the scan the number of hyphens is even, up to the next one. -/
theorem even_hyphensBefore {rest : Str} {k i : ℕ} (hk : k = 0 ∨ Scanned rest k) (hki : k < i)
    (hbetween : ∀ j, k < j → j < i → rest[j]? ≠ some '-') : hyphensBefore rest i % 2 = 0 := by
  obtain ⟨i, rfl⟩ := Nat.exists_eq_succ_of_ne_zero (Nat.ne_zero_of_lt hki)
  rw [hyphensBefore]
  split
  · next hyphen =>
    -- the hyphen is the one that the break is in front of
    obtain rfl : i = k := by
      by_contra hne
      exact hbetween i (by omega) (Nat.lt_succ_self i) hyphen.2
    rcases hk with rfl | hspace | hodd
    · exact absurd hyphen.1 (by decide)
    · exact absurd (hspace.symm.trans hyphen.2) (by decide)
    · omega
  · rfl

/-- Between the breaks of the scan there is none. -/
theorem not_scanned {rest : Str} {k i : ℕ} (hk : k = 0 ∨ Scanned rest k) (hki : k < i)
    (hbetween : ∀ j, k < j → j < i → rest[j]? ≠ some '-') (hi : rest[i]? ≠ some ' ') :
    ¬ Scanned rest i := by
  have heven := even_hyphensBefore hk hki hbetween
  rintro (hspace | hodd)
  · exact hi hspace
  · omega

/-- The break that the scan goes on to, as `wrapScanBody` computes it. -/
def scanNext (str : Str) (new : ℕ) : Option ℕ :=
  ((strchr2 (str.drop (new + 1)) ' ' '-').map (· + (new + 1))).map
    (fun k => if str[k]? = some '-' then k + 1 else k)

/-- **The scan goes on to the next of its breaks.** -/
theorem scanNext_at (done : Str) {rest : Str} {k : ℕ} (hk : k = 0 ∨ Scanned rest k) :
    (scanNext (done ++ rest) (done.length + k) = none ∧ ∀ i, k < i → ¬ Scanned rest i)
      ∨ ∃ m, scanNext (done ++ rest) (done.length + k) = some (done.length + m) ∧ k < m
        ∧ Scanned rest m ∧ ∀ i, k < i → i < m → ¬ Scanned rest i := by
  have hdrop : (done ++ rest).drop (done.length + k + 1) = rest.drop (k + 1) := by
    rw [Nat.add_assoc, List.drop_length_add_append]
  unfold scanNext
  rw [hdrop]
  cases h : strchr2 (rest.drop (k + 1)) ' ' '-' with
  | none =>
    refine .inl ⟨rfl, fun i hi => ?_⟩
    exact not_scanned hk hi (fun j hj _ => (ne_of_strchr2_eq_none h hj).2)
      (ne_of_strchr2_eq_none h hi).1
  | some t =>
    obtain ⟨hchar, hbefore⟩ := of_strchr2_eq_some h
    have hstr : (done ++ rest)[t + (done.length + k + 1)]? = rest[k + 1 + t]? := by
      rw [List.getElem?_append_right (by omega)]
      congr 1
      omega
    have hnone : ∀ i, k < i → i < k + 1 + t → ¬ Scanned rest i := fun i hi hit =>
      not_scanned hk hi (fun j hj hji => (hbefore j hj (by omega)).2) (hbefore i hi hit).1
    simp only [Option.map_some, hstr]
    by_cases hyphen : rest[k + 1 + t]? = some '-'
    · -- the number of hyphens in front of this one is even
      have heven := even_hyphensBefore hk (show k < k + 1 + t by omega)
        (fun j hj hjt => (hbefore j hj hjt).2)
      have hodd : hyphensBefore rest (k + 1 + t + 1) % 2 = 1 := by
        rw [hyphensBefore, if_pos ⟨by omega, hyphen⟩]
        omega
      rw [if_pos hyphen]
      refine .inr ⟨k + 1 + t + 1, congrArg some (by omega), by omega, .inr hodd, ?_⟩
      intro i hi him
      rcases Nat.lt_or_eq_of_le (Nat.le_of_lt_succ him) with hit | rfl
      · exact hnone i hi hit
      · refine not_scanned hk hi (fun j hj hjt => (hbefore j hj hjt).2) ?_
        rw [hyphen]
        decide
    · rw [if_neg hyphen]
      exact .inr ⟨k + 1 + t, congrArg some (by omega), by omega,
        .inl (hchar.resolve_right hyphen), hnone⟩

/-- **What the scan has seen**: `old` is a break of the scan that fits, `new` the next
one. -/
def Seen (L : ℕ) (done rest : Str) (p : Option ℕ × ℕ) : Prop :=
  ∃ k ≤ L, p.2 = done.length + k ∧ (k = 0 ∨ Scanned rest k)
    ∧ ((p.1 = none ∧ ∀ i, k < i → ¬ Scanned rest i)
      ∨ ∃ m, p.1 = some (done.length + m) ∧ (m = 0 ∨ Scanned rest m) ∧ k ≤ m
        ∧ ∀ i, k < i → i < m → ¬ Scanned rest i)

/-- **The scan stops at the last break that fits.** -/
theorem wrapScan_eq {L : ℕ} {done rest : Str} {fuel old : ℕ}
    (h : Loop.run (wrapScanBody (done ++ rest) done.length L) fuel
      (some done.length, done.length) = some old) :
    old = done.length + scannedBreak L rest := by
  have hlast : ∀ {k}, k ≤ L → (k = 0 ∨ Scanned rest k) →
      (∀ i, k < i → i ≤ L → ¬ Scanned rest i) → scannedBreak L rest = k := by
    intro k hk hscanned hnone
    refine Nat.findGreatest_eq_iff.mpr ⟨hk, fun hne => ?_, fun i hi hiL => hnone i hi hiL⟩
    exact hscanned.resolve_left hne
  refine Loop.run_invariant (Seen L done rest) (fun old => old = done.length + scannedBreak L rest)
    ?_ ?_ ?_ h
  · rintro ⟨new, old⟩ p' ⟨k, hk, hold, hscanned, ⟨hnew, hnone⟩ | ⟨m, hnew, hm, hkm, hnone⟩⟩ hbody
    · obtain rfl : new = none := hnew
      exact absurd (Option.some.inj hbody) Sum.inr_ne_inl
    · obtain rfl : new = some (done.length + m) := hnew
      rw [wrapScanBody] at hbody
      split at hbody
      · next hfits =>
        obtain rfl := Sum.inl.inj (Option.some.inj hbody)
        refine ⟨m, by omega, rfl, hm, ?_⟩
        rcases scanNext_at done hm with ⟨hnext, hnone'⟩ | ⟨m', hnext, hlt, hm', hnone'⟩
        · exact .inl ⟨hnext, hnone'⟩
        · exact .inr ⟨m', hnext, .inr hm', Nat.le_of_lt hlt, hnone'⟩
      · exact absurd (Option.some.inj hbody) Sum.inr_ne_inl
  · rintro ⟨new, old⟩ b ⟨k, hk, hold, hscanned, ⟨hnew, hnone⟩ | ⟨m, hnew, hm, hkm, hnone⟩⟩ hbody
    · obtain rfl : new = none := hnew
      obtain rfl := Sum.inr.inj (Option.some.inj hbody)
      rw [hlast hk hscanned (fun i hi _ => hnone i hi)]
      exact hold
    · obtain rfl : new = some (done.length + m) := hnew
      rw [wrapScanBody] at hbody
      split at hbody
      · exact absurd (Option.some.inj hbody) Sum.inl_ne_inr
      · next hfits =>
        obtain rfl := Sum.inr.inj (Option.some.inj hbody)
        rw [hlast hk hscanned (fun i hi hiL => hnone i hi (by omega))]
        exact hold
  · exact ⟨0, Nat.zero_le L, rfl, .inl rfl,
      .inr ⟨0, rfl, .inl rfl, Nat.le_refl 0, fun i _ hi => absurd hi (Nat.not_lt_zero i)⟩⟩

/-! ## The cutters -/

/-- How many spaces are erased at a position: one, if there is one. -/
def spaceAt (rest : Str) (k : ℕ) : ℕ := if rest[k]? = some ' ' then 1 else 0

/-- The space is erased. -/
theorem dropSpace_drop (rest : Str) (k : ℕ) :
    dropSpace (rest.drop k) = rest.drop (k + spaceAt rest k) := by
  unfold dropSpace spaceAt
  rw [List.getElem?_drop, Nat.add_zero]
  split
  · rw [List.tail_drop]
  · rfl

/-- **The cutter of `stringbuffer_wrap_simple`.** -/
def fixedCutter {L : ℕ} (hL : 1 ≤ L) : LineBreaks.Cutter Char L where
  cut _ := L
  next rest := L + spaceAt rest L
  pos _ _ := hL
  le _ := Nat.le_refl L
  cut_le_next _ := Nat.le_add_right ..

/-- Where the next line begins behind a break, or behind a full line if there is no
break: a newline takes the place of a space, and one more is erased. -/
def behindBreak (L : ℕ) (rest : Str) (k : ℕ) : ℕ :=
  if k = 0 then L
  else if rest[k - 1]? = some '-' then k + spaceAt rest k
  else k + 1 + spaceAt rest (k + 1)

/-- **The cutter that ends a line at a break**, or after `L` characters where there is
none. -/
def breakCutter {L : ℕ} (hL : 1 ≤ L) (brk : Str → ℕ) (hbrk : ∀ rest, brk rest ≤ L) :
    LineBreaks.Cutter Char L where
  cut rest := if brk rest = 0 then L else brk rest
  next rest := behindBreak L rest (brk rest)
  pos rest _ := by
    split
    · exact hL
    · next h => exact Nat.pos_of_ne_zero h
  le rest := by
    split
    · exact Nat.le_refl L
    · exact hbrk rest
  cut_le_next rest := by
    unfold behindBreak
    split
    · exact Nat.le_refl L
    · split <;> omega

/-- **The cutter of `stringbuffer_wrap_spaces`.** -/
def scanCutter {L : ℕ} (hL : 1 ≤ L) : LineBreaks.Cutter Char L :=
  breakCutter hL (scannedBreak L) (fun _ => Nat.findGreatest_le L)

/-- **A break cuts the line off**, whichever it is. -/
theorem wrapSpacesCut_at {L k : ℕ} (done : Str) {rest : Str} (n : ℕ) (hk : k ≤ L)
    (hrest : L < rest.length) :
    wrapSpacesCut L (WrapState.at done rest n) (done.length + k)
      = WrapState.at (done ++ rest.take (if k = 0 then L else k) ++ ['\n'])
          (rest.drop (behindBreak L rest k)) (n + 1) := by
  unfold behindBreak
  split
  · next h =>
    subst h
    exact wrapSpacesCut_word n (Nat.le_of_lt hrest)
  · next h =>
    have hpos := Nat.pos_of_ne_zero h
    split
    · next hyphen =>
      rw [wrapSpacesCut_hyphen n hpos (by omega) hyphen, dropSpace_drop]
    · next hyphen =>
      rw [wrapSpacesCut_space n hpos hyphen (by omega), dropSpace_drop]

/-! ## The rounds -/

/-- **A loop wraps by a cutter**: a text that fits leaves it, and of one that does not
a round cuts a line off. `J` is what the rounds keep, and no text is longer than
`bound`. -/
structure WrapsBy {L : ℕ} (c : LineBreaks.Cutter Char L) (J : WrapState → Prop) (bound : ℕ)
    (body : WrapState → Option (WrapState ⊕ Str)) : Prop where
  /-- The loop is left. -/
  fits : ∀ done rest n, rest.length ≤ L →
    body (WrapState.at done rest n) = some (.inr (done ++ rest))
  /-- A line is cut off. -/
  cuts : ∀ done rest n, J (WrapState.at done rest n) → L < rest.length → rest.length ≤ bound →
    body (WrapState.at done rest n) = some (.inl (WrapState.at
      (done ++ rest.take (c.cut rest) ++ ['\n']) (c.rest rest) (n + 1)))
  /-- What is kept. -/
  keeps : ∀ done rest n, J (WrapState.at done rest n) → L < rest.length →
    J (WrapState.at (done ++ rest.take (c.cut rest) ++ ['\n']) (c.rest rest) (n + 1))

/-- `stringbuffer_wrap_simple` wraps by its cutter. -/
theorem wrapsBy_simple {L : ℕ} (hL : 1 ≤ L) (bound : ℕ) :
    WrapsBy (fixedCutter hL) (fun s => s.remainder = (L + 1) * s.curLine) bound
      (wrapSimpleBody L) where
  fits done rest n h := by
    rw [wrapSimpleBody, if_neg (not_exceeds_at h)]
    rfl
  cuts done rest n hJ h _ := by
    have hdone : done.length = (L + 1) * n := hJ
    rw [wrapSimpleBody_at hdone h, dropSpace_drop]
    rfl
  keeps done rest n hJ h := by
    have hdone : done.length = (L + 1) * n := hJ
    show (done ++ rest.take L ++ ['\n']).length = (L + 1) * (n + 1)
    rw [length_done_take (Nat.le_of_lt h), Nat.mul_succ, hdone, Nat.add_assoc]

/-- `stringbuffer_wrap_spaces` wraps by its cutter. -/
theorem wrapsBy_spaces {L : ℕ} (hL : 1 ≤ L) {bound fuel : ℕ} (hfuel : bound + 1 < fuel) :
    WrapsBy (scanCutter hL) (fun _ => True) bound (wrapSpacesBody fuel L) where
  fits done rest n h := by
    rw [wrapSpacesBody, if_neg (not_exceeds_at h)]
    rfl
  cuts done rest n _ h hbound := by
    obtain ⟨old, hold⟩ := exists_wrapScan L done rest (show rest.length + 1 < fuel by omega)
    obtain rfl := wrapScan_eq hold
    have hcut := wrapSpacesCut_at done n (Nat.findGreatest_le (P := Scanned rest) L) h
    rw [wrapSpacesBody, if_pos ((WrapState.exceeds_at_iff ..).mpr ⟨by omega, by omega⟩)]
    refine (congrArg (Option.map _) hold).trans ?_
    exact congrArg (fun s : WrapState => some (Sum.inl s)) hcut
  keeps _ _ _ _ _ := trivial

section rounds

variable {L : ℕ} {c : LineBreaks.Cutter Char L} {J : WrapState → Prop}
  {body : WrapState → Option (WrapState ⊕ Str)} {buffer : Str}

/-- **Where the loop is**: `done` is wrapped, and `rest` is one of the texts that the
cutter leaves. -/
def WrappedSoFar (c : LineBreaks.Cutter Char L) (J : WrapState → Prop) (buffer : Str)
    (s : WrapState) : Prop :=
  ∃ done rest n, s = WrapState.at done rest n ∧ J s ∧ c.Remaining buffer rest
    ∧ c.wrap '\n' buffer = done ++ c.wrap '\n' rest

/-- A round goes on to the next text. -/
theorem WrapsBy.round (h : WrapsBy c J buffer.length body) {s s' : WrapState}
    (hs : WrappedSoFar c J buffer s) (hbody : body s = some (.inl s')) :
    WrappedSoFar c J buffer s' := by
  obtain ⟨done, rest, n, rfl, hJ, hrest, hwrap⟩ := hs
  by_cases hfit : rest.length ≤ L
  · rw [h.fits done rest n hfit] at hbody
    exact nomatch hbody
  · have hlt := Nat.lt_of_not_le hfit
    rw [h.cuts done rest n hJ hlt hrest.length_le] at hbody
    obtain rfl := Sum.inl.inj (Option.some.inj hbody)
    exact ⟨_, _, _, rfl, h.keeps done rest n hJ hlt, .rest hrest hlt,
      hwrap.trans (c.append_wrap_of_lt '\n' done hlt)⟩

/-- **What the loop goes through.** -/
theorem WrapsBy.of_visits (h : WrapsBy c J buffer.length body)
    (hJ : J (WrapState.at [] buffer 0)) {s : WrapState}
    (hs : Loop.Visits body (WrapState.at [] buffer 0) s) : WrappedSoFar c J buffer s :=
  hs.invariant (WrappedSoFar c J buffer) ⟨[], buffer, 0, rfl, hJ, .whole, rfl⟩
    (fun _ _ hs hbody => h.round hs hbody)

/-- **It goes through all that the cutter leaves.** -/
theorem WrapsBy.exists_visits (h : WrapsBy c J buffer.length body)
    (hJ : J (WrapState.at [] buffer 0)) {rest : Str} (hrest : c.Remaining buffer rest) :
    ∃ done n, Loop.Visits body (WrapState.at [] buffer 0) (WrapState.at done rest n)
      ∧ J (WrapState.at done rest n) ∧ c.wrap '\n' buffer = done ++ c.wrap '\n' rest := by
  induction hrest with
  | whole => exact ⟨[], 0, .entry, hJ, rfl⟩
  | rest hr hlt ih =>
    obtain ⟨done, n, hvisits, hJ, hwrap⟩ := ih
    exact ⟨_, _, .round hvisits (h.cuts done _ n hJ hlt hr.length_le),
      h.keeps done _ n hJ hlt, hwrap.trans (c.append_wrap_of_lt '\n' done hlt)⟩

/-- **What the loop returns.** -/
theorem WrapsBy.eq_of_run (h : WrapsBy c J buffer.length body)
    (hJ : J (WrapState.at [] buffer 0)) {fuel : ℕ} {t : Str}
    (ht : Loop.run body fuel (WrapState.at [] buffer 0) = some t) : t = c.wrap '\n' buffer := by
  refine Loop.run_invariant (WrappedSoFar c J buffer) (fun t => t = c.wrap '\n' buffer)
    (fun _ _ hs hbody => h.round hs hbody) ?_ ⟨[], buffer, 0, rfl, hJ, .whole, rfl⟩ ht
  rintro s t ⟨done, rest, n, rfl, hJ, hrest, hwrap⟩ hbody
  by_cases hfit : rest.length ≤ L
  · rw [h.fits done rest n hfit] at hbody
    rw [hwrap, c.wrap_of_le '\n' hfit]
    exact (Sum.inr.inj (Option.some.inj hbody)).symm
  · rw [h.cuts done rest n hJ (Nat.lt_of_not_le hfit) hrest.length_le] at hbody
    exact nomatch hbody

end rounds

/-! ## As late as possible -/

/-- **The last break that fits**: the last position that is at a space, or behind a
hyphen that is not the first character, and `0` where there is none. -/
def lastBreak (L : ℕ) (rest : Str) : ℕ :=
  Nat.findGreatest (fun p => 1 ≤ p ∧ (rest[p]? = some ' ' ∨ 2 ≤ p ∧ rest[p - 1]? = some '-')) L

/-- **Where a line ends that is broken as late as possible**: at the last break that
fits, or else after `L` characters. -/
def lateCut (L : ℕ) (rest : Str) : ℕ := if lastBreak L rest = 0 then L else lastBreak L rest

/-- The cutter that breaks as late as possible. -/
def lateCutter {L : ℕ} (hL : 1 ≤ L) : LineBreaks.Cutter Char L :=
  breakCutter hL (lastBreak L) (fun _ => Nat.findGreatest_le L)

/-- A round ends the line after `p` characters. -/
def BreaksAt (body : WrapState → Option (WrapState ⊕ Str)) (s : WrapState) (p : ℕ) : Prop :=
  ∃ s', body s = some (.inl s') ∧ s'.remainder = s.remainder + p + 1
    ∧ s'.str.take s'.remainder = s.str.take (s.remainder + p) ++ ['\n']

/-- It ends the line where its cutter does. -/
theorem WrapsBy.breaksAt_iff {L : ℕ} {c : LineBreaks.Cutter Char L} {J : WrapState → Prop}
    {bound : ℕ} {body : WrapState → Option (WrapState ⊕ Str)} (h : WrapsBy c J bound body)
    {done rest : Str} {n p : ℕ} (hJ : J (WrapState.at done rest n)) (hlt : L < rest.length)
    (hbound : rest.length ≤ bound) :
    BreaksAt body (WrapState.at done rest n) p ↔ c.cut rest = p := by
  have hbody := h.cuts done rest n hJ hlt hbound
  have hcut : c.cut rest ≤ rest.length := Nat.le_trans (c.le rest) (Nat.le_of_lt hlt)
  constructor
  · rintro ⟨s', hbody', hremainder, -⟩
    rw [hbody] at hbody'
    obtain rfl := Sum.inl.inj (Option.some.inj hbody')
    rw [WrapState.remainder_at, length_done_take hcut, WrapState.remainder_at] at hremainder
    omega
  · rintro rfl
    refine ⟨_, hbody, length_done_take hcut, ?_⟩
    rw [WrapState.str_at, WrapState.remainder_at, List.take_left, WrapState.str_at,
      WrapState.remainder_at, List.take_length_add_append]

/-- What the scan comes to is a break. -/
theorem scannedBreak_le_lastBreak (L : ℕ) (rest : Str) :
    scannedBreak L rest ≤ lastBreak L rest := by
  rcases Nat.eq_zero_or_pos (scannedBreak L rest) with h | h
  · exact h ▸ Nat.zero_le _
  · have hscanned : Scanned rest (scannedBreak L rest) :=
      Nat.findGreatest_of_ne_zero rfl (Nat.ne_of_gt h)
    refine Nat.le_findGreatest (Nat.findGreatest_le L) ⟨h, ?_⟩
    rcases hscanned with hspace | hodd
    · exact .inl hspace
    · obtain ⟨k, hk⟩ := Nat.exists_eq_succ_of_ne_zero (Nat.ne_of_gt h)
      rw [hk, hyphensBefore] at hodd
      rw [hk]
      split at hodd
      · next hyphen => exact .inr ⟨Nat.succ_le_succ hyphen.1, hyphen.2⟩
      · exact absurd hodd (by decide)

/-- Where there is a break that fits, the scan comes to one: to a space, or to the last
hyphen or the one in front of it. -/
theorem lastBreak_eq_zero {L : ℕ} {rest : Str} (h : scannedBreak L rest = 0) :
    lastBreak L rest = 0 := by
  rw [scannedBreak, Nat.findGreatest_eq_zero_iff] at h
  rw [lastBreak, Nat.findGreatest_eq_zero_iff]
  rintro p hp hpL ⟨-, hspace | ⟨h2, hyphen⟩⟩
  · exact h hp hpL (.inl hspace)
  · obtain ⟨k, rfl⟩ := Nat.exists_eq_add_of_le' h2
    have hbefore : hyphensBefore rest (k + 2) = hyphensBefore rest (k + 1) + 1 := by
      rw [hyphensBefore, if_pos ⟨Nat.succ_pos k, hyphen⟩]
    have hnone : ¬ Scanned rest (k + 2) := h hp hpL
    have hnone' : ¬ Scanned rest (k + 1) := h (Nat.succ_pos k) (by omega)
    rw [Scanned, not_or] at hnone hnone'
    omega

/-- **The scan finds the last break that fits** when that is at a space or behind an odd
number of hyphens in a row. -/
theorem cut_scanCutter_eq_iff {L : ℕ} (hL : 1 ≤ L) (rest : Str) :
    (scanCutter hL).cut rest = lateCut L rest
      ↔ lastBreak L rest = 0 ∨ Scanned rest (lastBreak L rest) := by
  have hle := scannedBreak_le_lastBreak L rest
  show (if scannedBreak L rest = 0 then L else scannedBreak L rest) = lateCut L rest ↔ _
  rw [lateCut]
  constructor
  · intro h
    by_cases hzero : scannedBreak L rest = 0
    · exact .inl (lastBreak_eq_zero hzero)
    · rw [if_neg hzero, if_neg (by omega)] at h
      exact .inr (h ▸ Nat.findGreatest_of_ne_zero rfl hzero)
  · rintro (hzero | hscanned)
    · rw [if_pos hzero, if_pos (by omega)]
    · have hge : lastBreak L rest ≤ scannedBreak L rest :=
        Nat.le_findGreatest (Nat.findGreatest_le L) hscanned
      rw [Nat.le_antisymm hle hge]

/-- **`stringbuffer_wrap_spaces` breaks as late as possible** exactly where the text,
wrapped that way, has no line that ends behind an even number of hyphens in a row and
not at a space. -/
theorem breaksAt_lateCut_iff {L : ℕ} (hL : 1 ≤ L) (buffer : Str) {fuel : ℕ}
    (hfuel : buffer.length + 1 < fuel) :
    (∀ s, Loop.Visits (wrapSpacesBody fuel L) ⟨buffer, 0, 0⟩ s → s.exceeds L →
      BreaksAt (wrapSpacesBody fuel L) s (lateCut L (s.str.drop s.remainder)))
    ↔ ∀ rest, (lateCutter hL).Remaining buffer rest → L < rest.length →
        lastBreak L rest = 0 ∨ Scanned rest (lastBreak L rest) := by
  have hwraps := wrapsBy_spaces hL hfuel
  rw [← LineBreaks.Cutter.forall_remaining_congr (c := scanCutter hL) (fun rest _ h => ?_)]
  · constructor
    · intro h rest hrest hlt
      obtain ⟨done, n, hvisits, -, -⟩ := hwraps.exists_visits trivial hrest
      have hbreaks := h _ hvisits ((WrapState.exceeds_at_iff ..).mpr ⟨by omega, by omega⟩)
      rw [WrapState.str_at, WrapState.remainder_at, List.drop_left] at hbreaks
      exact (cut_scanCutter_eq_iff hL rest).mp
        ((hwraps.breaksAt_iff trivial hlt hrest.length_le).mp hbreaks)
    · rintro h s hvisits hexceeds
      obtain ⟨done, rest, n, rfl, -, hrest, -⟩ := hwraps.of_visits trivial hvisits
      obtain ⟨-, hlt⟩ := (WrapState.exceeds_at_iff ..).mp hexceeds
      rw [Int.ofNat_lt] at hlt
      rw [WrapState.str_at, WrapState.remainder_at, List.drop_left]
      exact (hwraps.breaksAt_iff trivial hlt hrest.length_le).mpr
        ((cut_scanCutter_eq_iff hL rest).mpr (h rest hrest hlt))
  · -- the break decides where the next line begins
    have hle := scannedBreak_le_lastBreak L rest
    have heq : scannedBreak L rest = lastBreak L rest := by
      rcases h with h | h
      · omega
      · exact Nat.le_antisymm hle (Nat.le_findGreatest (Nat.findGreatest_le L) h)
    show rest.drop (behindBreak L rest (scannedBreak L rest)) = _
    rw [heq]
    rfl

theorem breaksAt_lateCut_iff_three :
    (∀ s, Loop.Visits (wrapSpacesBody 12 (3 : ℕ)) ⟨"a-b cd--e".toList, 0, 0⟩ s →
      s.exceeds (3 : ℕ) →
      BreaksAt (wrapSpacesBody 12 (3 : ℕ)) s (lateCut 3 (s.str.drop s.remainder)))
    ↔ ∀ rest, (lateCutter (show 1 ≤ 3 by decide)).Remaining "a-b cd--e".toList rest →
        3 < rest.length → lastBreak 3 rest = 0 ∨ Scanned rest (lastBreak 3 rest) :=
  breaksAt_lateCut_iff (by decide) _ (by decide)

/-- Of two hyphens at the end of a line the second one is not seen. -/
theorem not_forall_breaksAt_lateCut :
    ¬ ∀ (L : ℕ) (buffer : Str) (fuel : ℕ), 1 ≤ L → buffer.length + 1 < fuel →
      ∀ s, Loop.Visits (wrapSpacesBody fuel L) ⟨buffer, 0, 0⟩ s → s.exceeds L →
        BreaksAt (wrapSpacesBody fuel L) s (lateCut L (s.str.drop s.remainder)) := by
  intro h
  obtain ⟨s, hbody, hremainder, -⟩ :=
    h 3 "a--bcd".toList 8 (by decide) (by decide) _ .entry (by decide)
  have hcut : lateCut 3 "a--bcd".toList = 3 := by decide
  have hround : (wrapSpacesBody 8 (3 : ℕ) ⟨"a--bcd".toList, 0, 0⟩).bind
      (fun r => r.getLeft?.map WrapState.remainder) = some 3 := by decide +kernel
  rw [hbody] at hround
  have hthree : s.remainder = 3 := Option.some.inj hround
  rw [hthree] at hremainder
  exact absurd (hremainder.trans (congrArg (0 + · + 1) hcut)) (by decide)

/-! ## Blanks at the front of a line -/

/-- The loop whose string `stringbuffer_wrap` returns. -/
def wrapBody (fuel : ℕ) (buffer : Str) (length maxlines : Int) :
    WrapState → Option (WrapState ⊕ Str) :=
  if wrapInt (length * maxlines) < wrapInt buffer.length then wrapSimpleBody length
  else
    match stringbufferWrapSpaces fuel buffer length with
    | none => wrapSpacesBody fuel length
    | some wrapped =>
      if stringbufferGetLines wrapped ≤ maxlines then wrapSpacesBody fuel length
      else wrapSimpleBody length

/-- It is returned. -/
theorem stringbufferWrap_eq_run (fuel : ℕ) (buffer : Str) (length maxlines : Int) :
    stringbufferWrap fuel buffer length maxlines
      = Loop.run (wrapBody fuel buffer length maxlines) fuel ⟨buffer, 0, 0⟩ := by
  unfold stringbufferWrap wrapBody
  split
  · rfl
  · cases h : stringbufferWrapSpaces fuel buffer length with
    | none => exact h.symm
    | some wrapped =>
      rw [Option.bind_some]
      dsimp only
      split
      · exact h.symm
      · rfl

/-- **The lines get a fixed width**: the text would not fit even then, or it has too many
lines when it is wrapped at breaks. -/
def FixedWidth {L : ℕ} (hL : 1 ≤ L) (maxlines : Int) (buffer : Str) : Prop :=
  wrapInt (L * maxlines) < wrapInt buffer.length
    ∨ maxlines < (LineBreaks.lines '\n' ((scanCutter hL).wrap '\n' buffer)).length

/-- Two spaces at a break, of which one is erased behind a hyphen; elsewhere the first one
becomes the newline, and it takes a third one. -/
def BlanksAt (rest : Str) (k : ℕ) : Prop :=
  0 < k ∧ rest[k]? = some ' ' ∧ rest[k + 1]? = some ' '
    ∧ (rest[k - 1]? = some '-' ∨ rest[k + 2]? = some ' ')

/-- A space is left where there were two. -/
theorem getElem?_spaceAt (rest : Str) (k : ℕ) :
    rest[k + spaceAt rest k]? = some ' ' ↔ rest[k]? = some ' ' ∧ rest[k + 1]? = some ' ' := by
  unfold spaceAt
  split
  · next h => exact (and_iff_right h).symm
  · next h => exact ⟨fun h' => absurd h' h, fun h' => absurd h'.1 h⟩

/-- **A blank behind a full line.** -/
theorem head?_rest_fixedCutter {L : ℕ} (hL : 1 ≤ L) (rest : Str) :
    ((fixedCutter hL).rest rest).head? = some ' '
      ↔ rest[L]? = some ' ' ∧ rest[L + 1]? = some ' ' := by
  rw [← getElem?_spaceAt, LineBreaks.Cutter.rest, List.head?_drop]
  rfl

/-- **A blank behind a break.** -/
theorem head?_rest_scanCutter {L : ℕ} (hL : 1 ≤ L) (rest : Str) :
    ((scanCutter hL).rest rest).head? = some ' ' ↔ BlanksAt rest (scannedBreak L rest) := by
  have hrest : (scanCutter hL).next rest = behindBreak L rest (scannedBreak L rest) := rfl
  rw [LineBreaks.Cutter.rest, List.head?_drop, hrest, behindBreak, BlanksAt]
  split
  · next hzero =>
    -- a space behind `L` characters would be a break
    rw [hzero]
    refine ⟨fun hspace => ?_, fun h => absurd h.1 (Nat.lt_irrefl 0)⟩
    exact absurd (.inl hspace) (Nat.findGreatest_eq_zero_iff.mp hzero hL (Nat.le_refl L))
  · next hne =>
    have hpos := Nat.pos_of_ne_zero hne
    split
    · next hyphen =>
      rw [getElem?_spaceAt]
      exact ⟨fun h => ⟨hpos, h.1, h.2, .inl hyphen⟩, fun h => ⟨h.2.1, h.2.2.1⟩⟩
    · next hyphen =>
      have hspace : rest[scannedBreak L rest]? = some ' ' := by
        have hscanned : Scanned rest (scannedBreak L rest) :=
          Nat.findGreatest_of_ne_zero rfl hne
        refine hscanned.resolve_right ?_
        obtain ⟨k, hk⟩ := Nat.exists_eq_succ_of_ne_zero hne
        rw [hk] at hyphen ⊢
        rw [hyphensBefore, if_neg (fun h => hyphen h.2)]
        decide
      rw [getElem?_spaceAt]
      exact ⟨fun h => ⟨hpos, hspace, h.1, .inr h.2⟩,
        fun h => ⟨h.2.2.1, h.2.2.2.resolve_left hyphen⟩⟩

/-- **No line begins with a blank** that the cutter does not leave there. -/
theorem WrapsBy.notBlank_iff {L : ℕ} {c : LineBreaks.Cutter Char L} {J : WrapState → Prop}
    {buffer : Str} {body : WrapState → Option (WrapState ⊕ Str)}
    (h : WrapsBy c J buffer.length body) (hJ : J (WrapState.at [] buffer 0)) :
    (∀ s s', Loop.Visits body ⟨buffer, 0, 0⟩ s → body s = some (.inl s') →
      (c.wrap '\n' buffer)[s'.remainder]? ≠ some ' ')
    ↔ ∀ rest, c.Remaining buffer rest → L < rest.length → (c.rest rest).head? ≠ some ' ' := by
  -- what is behind `remainder` begins with what it begins with when it is wrapped
  have hhead : ∀ {done rest : Str}, c.wrap '\n' buffer = done ++ c.wrap '\n' rest →
      L < rest.length →
      (c.wrap '\n' buffer)[(done ++ rest.take (c.cut rest) ++ ['\n']).length]?
        = (c.rest rest).head? := by
    intro done rest hwrap hlt
    rw [hwrap, c.append_wrap_of_lt '\n' done hlt, List.getElem?_append_right (Nat.le_refl _),
      Nat.sub_self, ← List.head?_eq_getElem?, c.head?_wrap]
  constructor
  · intro hblank rest hrest hlt
    obtain ⟨done, n, hvisits, hJ', hwrap⟩ := h.exists_visits hJ hrest
    rw [← hhead hwrap hlt]
    exact hblank _ _ hvisits (h.cuts done rest n hJ' hlt hrest.length_le)
  · intro hblank s s' hvisits hbody
    obtain ⟨done, rest, n, rfl, hJ', hrest, hwrap⟩ := h.of_visits hJ hvisits
    by_cases hfit : rest.length ≤ L
    · rw [h.fits done rest n hfit] at hbody
      exact nomatch hbody
    · have hlt := Nat.lt_of_not_le hfit
      rw [h.cuts done rest n hJ' hlt hrest.length_le] at hbody
      obtain rfl := Sum.inl.inj (Option.some.inj hbody)
      rw [WrapState.remainder_at, hhead hwrap hlt]
      exact hblank rest hrest hlt

/-- **`stringbuffer_wrap` starts no line with a space** exactly where the text does not
go on with two spaces behind a full line, or, when it is wrapped at breaks, with two
behind a hyphen and with three elsewhere. -/
theorem notBlank_stringbufferWrap_iff {L : ℕ} (hL : 1 ≤ L) (maxlines : Int) (buffer : Str)
    {fuel : ℕ} (hfuel : buffer.length + 1 < fuel) :
    ∃ t, stringbufferWrap fuel buffer L maxlines = some t
      ∧ ((∀ s s', Loop.Visits (wrapBody fuel buffer L maxlines) ⟨buffer, 0, 0⟩ s →
            wrapBody fuel buffer L maxlines s = some (.inl s') → t[s'.remainder]? ≠ some ' ')
        ↔ (FixedWidth hL maxlines buffer →
            ∀ rest, (fixedCutter hL).Remaining buffer rest → L < rest.length →
              ¬ (rest[L]? = some ' ' ∧ rest[L + 1]? = some ' '))
          ∧ (¬ FixedWidth hL maxlines buffer →
            ∀ rest, (scanCutter hL).Remaining buffer rest → L < rest.length →
              ¬ BlanksAt rest (scannedBreak L rest))) := by
  obtain ⟨t, ht, -⟩ := exists_stringbufferWrap_variant hL maxlines hfuel
  obtain ⟨wrapped, hspaces, -⟩ := exists_stringbufferWrapSpaces hL hfuel
  have hsimple := wrapsBy_simple hL buffer.length
  have hbreaks := wrapsBy_spaces hL hfuel
  obtain rfl := hbreaks.eq_of_run trivial hspaces
  refine ⟨t, ht, ?_⟩
  rw [stringbufferWrap_eq_run] at ht
  by_cases hfixed : FixedWidth hL maxlines buffer
  · have hbody : wrapBody fuel buffer L maxlines = wrapSimpleBody L := by
      unfold wrapBody
      rw [hspaces]
      dsimp only
      rw [stringbufferGetLines_eq]
      rcases hfixed with hlong | hlines
      · rw [if_pos hlong]
      · rw [if_neg (Int.not_le.mpr hlines), ite_self]
    rw [hbody] at ht ⊢
    obtain rfl := hsimple.eq_of_run (Nat.mul_zero _).symm ht
    rw [hsimple.notBlank_iff (Nat.mul_zero _).symm]
    simp only [ne_eq, head?_rest_fixedCutter]
    exact ⟨fun h => ⟨fun _ => h, fun hnot => absurd hfixed hnot⟩, fun h => h.1 hfixed⟩
  · have hbody : wrapBody fuel buffer L maxlines = wrapSpacesBody fuel L := by
      rw [FixedWidth, not_or] at hfixed
      unfold wrapBody
      rw [if_neg hfixed.1, hspaces]
      dsimp only
      rw [stringbufferGetLines_eq, if_pos (Int.not_lt.mp hfixed.2)]
    rw [hbody] at ht ⊢
    obtain rfl := hbreaks.eq_of_run trivial ht
    rw [hbreaks.notBlank_iff trivial]
    simp only [ne_eq, head?_rest_scanCutter]
    exact ⟨fun h => ⟨fun h' => absurd h' hfixed, fun _ => h⟩, fun h => h.2 hfixed⟩

theorem notBlank_stringbufferWrap_iff_three :
    ∃ t, stringbufferWrap 12 "a-b  c\nde".toList (3 : ℕ) 4 = some t
      ∧ ((∀ s s', Loop.Visits (wrapBody 12 "a-b  c\nde".toList (3 : ℕ) 4)
              ⟨"a-b  c\nde".toList, 0, 0⟩ s →
            wrapBody 12 "a-b  c\nde".toList (3 : ℕ) 4 s = some (.inl s') →
            t[s'.remainder]? ≠ some ' ')
        ↔ (FixedWidth (show 1 ≤ 3 by decide) 4 "a-b  c\nde".toList →
            ∀ rest, (fixedCutter (show 1 ≤ 3 by decide)).Remaining "a-b  c\nde".toList rest →
              3 < rest.length → ¬ (rest[3]? = some ' ' ∧ rest[3 + 1]? = some ' '))
          ∧ (¬ FixedWidth (show 1 ≤ 3 by decide) 4 "a-b  c\nde".toList →
            ∀ rest, (scanCutter (show 1 ≤ 3 by decide)).Remaining "a-b  c\nde".toList rest →
              3 < rest.length → ¬ BlanksAt rest (scannedBreak 3 rest))) :=
  notBlank_stringbufferWrap_iff (by decide) 4 _ (by decide)

/-- Of three spaces at the end of a line the third one leads the next line. -/
theorem not_forall_notBlank_stringbufferWrap :
    ¬ ∀ (L : ℕ) (maxlines : Int) (buffer t : Str) (fuel : ℕ), 1 ≤ L → 1 ≤ maxlines →
      stringbufferWrap fuel buffer L maxlines = some t →
      ∀ s s', Loop.Visits (wrapBody fuel buffer L maxlines) ⟨buffer, 0, 0⟩ s →
        wrapBody fuel buffer L maxlines s = some (.inl s') → t[s'.remainder]? ≠ some ' ' := by
  intro h
  have hround : (wrapBody 9 "ab   cd".toList (2 : ℕ) 4 ⟨"ab   cd".toList, 0, 0⟩).bind
      (fun r => r.getLeft?.map WrapState.remainder) = some 3 := by decide +kernel
  obtain ⟨r, hbody, hleft⟩ := Option.bind_eq_some_iff.mp hround
  obtain ⟨s, hs, hremainder⟩ := Option.map_eq_some_iff.mp hleft
  obtain rfl := Sum.getLeft?_eq_some_iff.mp hs
  have hspace := h 2 4 "ab   cd".toList "ab\n c\nd".toList 9 (by decide) (by decide)
    (by decide +kernel) _ s .entry hbody
  rw [hremainder] at hspace
  exact hspace (by decide)
