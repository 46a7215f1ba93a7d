import DhcpLeasing.Proofs.Text.Digits
import DhcpLeasing.Proofs.Text.Trimming
import DhcpLeasing.Proofs.Time.Calendar
import DhcpLeasing.Time.Rfc3339

/-!
# Times survive being written

A time that there can be is read from its text as it was: `ofText?_toText`. Only such times are ever
read: `Valid.of_ofText?`.
-/

namespace DhcpLeasing.Timestamp

open Text

variable {most width n : ℕ} {cs ds rest : List Char} {t : Timestamp}

/-! ## Numbers -/

lemma isBlank_of_isDigit {c : Char} (h : c.isDigit) : isBlank c = false := by
  have hrange : 48 ≤ c.toNat ∧ c.toNat ≤ 57 := Char.isDigit_iff_toNat.1 h
  exact isBlank_of_visible (by omega) (by omega)

lemma takeDigits_append (hds : ∀ c ∈ ds, c.isDigit) (hmost : ds.length ≤ most)
    (hrest : ds.length = most ∨ EndsDigits rest) :
    takeDigits most (ds ++ rest) = (ds, rest) := by
  have htake : ((ds ++ rest).takeWhile Char.isDigit).take most = ds := by
    rcases hrest with hlength | hrest
    · rw [List.takeWhile_append_of_pos hds, ← hlength, List.take_left]
    · rw [takeWhile_isDigit_append hds hrest, List.take_of_length_le hmost]
  simp only [takeDigits, htake, List.drop_left]

lemma dropWhile_isBlank_of_digits (hds : ∀ c ∈ ds, c.isDigit) (hne : ds ≠ []) (rest : List Char) :
    (ds ++ rest).dropWhile isBlank = ds ++ rest := by
  obtain ⟨c, cs, rfl⟩ := List.exists_cons_of_ne_nil hne
  have hc : ¬ isBlank c = true := by
    rw [isBlank_of_isDigit (hds c (by simp))]
    decide
  rw [List.cons_append, List.dropWhile_cons_of_neg hc]

/-- A number padded to all the digits that are looked for is read, whatever follows. -/
lemma readNumber_decimalPadded (hwidth : 0 < width) (h : n < 10 ^ width) (rest : List Char) :
    readNumber width (decimalPadded width n ++ rest) = some (n, rest) := by
  have hds : ∀ c ∈ decimalPadded width n, c.isDigit := fun _ => isDigit_of_mem_decimalPadded
  have hlength := length_decimalPadded hwidth h
  have hne := decimalPadded_ne_nil width n
  rw [readNumber, dropWhile_isBlank_of_digits hds hne,
    takeDigits_append hds hlength.le (.inl hlength)]
  split
  · next heq => exact absurd (Prod.mk.inj heq).1 hne
  · next heq =>
    obtain ⟨rfl, rfl⟩ := Prod.mk.inj heq
    rw [ofDecimal_decimalPadded]

lemma readSigned_decimalPadded (sign : ℤ) (width n : ℕ) (hrest : EndsDigits rest) :
    readSigned sign (decimalPadded width n ++ rest) = some (sign * n, rest) := by
  have hds : ∀ c ∈ decimalPadded width n, c.isDigit := fun _ => isDigit_of_mem_decimalPadded
  rw [readSigned, takeDigits_append hds (by simp) (.inr hrest)]
  split
  · next heq => exact absurd (Prod.mk.inj heq).1 (decimalPadded_ne_nil width n)
  · next heq =>
    obtain ⟨rfl, rfl⟩ := Prod.mk.inj heq
    rw [ofDecimal_decimalPadded]

lemma readMark_cons {mark : Char} (h : isBlank mark = false) (rest : List Char) :
    readMark mark (mark :: rest) = some rest := by
  have hmark : ¬ isBlank mark = true := by simp [h]
  rw [readMark, List.dropWhile_cons_of_neg hmark]
  exact if_pos rfl

/-! ## Years and fractions -/

/-- A year is read up to what ends it. -/
lemma readYear_renderYear (year : ℤ) (hrest : EndsDigits rest) :
    readYear (renderYear year ++ rest) = some (year, rest) := by
  unfold renderYear
  split
  · next hfour =>
    have hds : ∀ c ∈ decimalPadded 4 year.toNat, c.isDigit :=
      fun _ => isDigit_of_mem_decimalPadded
    have hne := decimalPadded_ne_nil 4 year.toNat
    rw [readYear, dropWhile_isBlank_of_digits hds hne]
    split
    · next heq => exact absurd heq (ne_of_digits hds hne (by decide) _ _)
    · next heq => exact absurd heq (ne_of_digits hds hne (by decide) _ _)
    · rw [readNumber_decimalPadded (by decide) (by omega), Option.map_some]
      show some ((year.toNat : ℤ), rest) = some (year, rest)
      rw [Int.toNat_of_nonneg hfour.1]
  · split
    · next hneg =>
      have hread : readYear ('-' :: decimalPadded 4 year.natAbs ++ rest) =
          readSigned (-1) (decimalPadded 4 year.natAbs ++ rest) := rfl
      rw [hread, readSigned_decimalPadded (-1) 4 year.natAbs hrest]
      congr 2
      omega
    · next hpos =>
      have hread : readYear ('+' :: decimalPadded 4 year.natAbs ++ rest) =
          readSigned 1 (decimalPadded 4 year.natAbs ++ rest) := rfl
      rw [hread, readSigned_decimalPadded 1 4 year.natAbs hrest]
      congr 2
      omega

lemma ofDecimal_append_zeros (ds : List Char) (k : ℕ) :
    ofDecimal (ds ++ List.replicate k '0') = 10 ^ k * ofDecimal ds := by
  rw [ofDecimal, Nat.ofDigitChars_append, Nat.ofDigitChars_replicate_zero, ofDecimal]

/-- Digits after the point count from the left. -/
lemma readFraction_point {k : ℕ} (hwidth : 0 < width) (hk : width + k = 9) (h : n < 10 ^ width)
    (hrest : EndsDigits rest) :
    readFraction ('.' :: decimalPadded width n ++ rest) = some (10 ^ k * n, rest) := by
  have hds : ∀ c ∈ decimalPadded width n, c.isDigit := fun _ => isDigit_of_mem_decimalPadded
  have hlength := length_decimalPadded hwidth h
  have hne := decimalPadded_ne_nil width n
  rw [List.cons_append, readFraction, takeDigits_append hds (by omega) (.inr hrest)]
  split
  · next heq => exact absurd (Prod.mk.inj heq).1 hne
  · next heq =>
    obtain ⟨rfl, rfl⟩ := Prod.mk.inj heq
    rw [hlength, ofDecimal_append_zeros, ofDecimal_decimalPadded, hrest.dropWhile, ← hk,
      Nat.add_sub_cancel_left]

lemma readFraction_renderFraction (h : n < Duration.second) (hrest : EndsDigits rest)
    (hdot : rest.head? ≠ some '.') :
    readFraction (renderFraction n ++ rest) = some (n, rest) := by
  have hsecond : Duration.second = 1000000000 := rfl
  unfold renderFraction
  split
  · next hzero =>
    subst hzero
    rw [List.nil_append, readFraction]
    intro tail heq
    exact hdot (by rw [heq]; rfl)
  · split
    · rw [readFraction_point (k := 6) (by decide) rfl (by omega) hrest]
      congr 2
      omega
    · split
      · rw [readFraction_point (k := 3) (by decide) rfl (by omega) hrest]
        congr 2
        omega
      · rw [readFraction_point (k := 0) (by decide) rfl (by omega) hrest]
        congr 2
        omega

/-! ## Times -/

/-- What it means that there is such a time: its year is in the calendar, and it is in a leap second
only at the end of a minute. -/
structure Valid (t : Timestamp) : Prop where
  year : inCalendar t.date.year
  nanos : t.nanos < Duration.second ∨ (t.nanos < 2 * Duration.second ∧ t.seconds % 60 = 59)

/-- The second of the minute as it is written. -/
def writtenSecond (t : Timestamp) : ℕ :=
  t.secondOfDay % 60 + if Duration.second ≤ t.nanos then 1 else 0

lemma render_eq (t : Timestamp) : t.render =
    renderYear t.date.year ++ ('-' :: (decimalPadded 2 t.date.month ++
      ('-' :: (decimalPadded 2 t.date.day ++ ('T' :: (decimalPadded 2 (t.secondOfDay / 3600) ++
        (':' :: (decimalPadded 2 (t.secondOfDay / 60 % 60) ++
          (':' :: (decimalPadded 2 t.writtenSecond ++
            (renderFraction (t.nanos % Duration.second) ++ ['Z']))))))))))) := by
  simp only [render, renderDate, renderClock, writtenSecond, List.append_assoc, List.cons_append]

lemma secondOfDay_lt (t : Timestamp) : t.secondOfDay < 86400 := by
  unfold secondOfDay
  omega

/-- A text is read part by part. -/
lemma read_of_parts {cs₁ cs₂ cs₃ cs₄ cs₅ cs₆ cs₇ cs₈ cs₉ cs₁₀ : List Char} {year : ℤ}
    {month day hour minute second nanos : ℕ} (hyear : readYear cs = some (year, cs₁))
    (hdash : readMark '-' cs₁ = some cs₂) (hmonth : readNumber 2 cs₂ = some (month, cs₃))
    (hdash' : readMark '-' cs₃ = some cs₄) (hday : readNumber 2 cs₄ = some (day, 'T' :: cs₅))
    (hhour : readNumber 2 cs₅ = some (hour, cs₆)) (hcolon : readMark ':' cs₆ = some cs₇)
    (hminute : readNumber 2 cs₇ = some (minute, cs₈)) (hcolon' : readMark ':' cs₈ = some cs₉)
    (hsecond : readNumber 2 cs₉ = some (second, cs₁₀))
    (hfraction : readFraction cs₁₀ = some (nanos, ['Z'])) :
    read cs = ofFields? ⟨year, month, day⟩ hour minute second nanos 0 := by
  have hoffset : readOffset (['Z'].dropWhile isBlank) = some (0, []) := rfl
  unfold read
  dsimp only [Option.bind_eq_bind]
  rw [hyear, Option.bind_some, hdash, Option.bind_some, hmonth, Option.bind_some, hdash',
    Option.bind_some, hday, Option.bind_some]
  dsimp only
  rw [if_pos (.inl rfl), Option.bind_some, hhour, Option.bind_some, hcolon, Option.bind_some,
    hminute, Option.bind_some, hcolon', Option.bind_some, hsecond, Option.bind_some, hfraction,
    Option.bind_some, hoffset, Option.bind_some]
  rfl

/-- The time that fields make up, when there are such a date and such a time of day. -/
lemma ofFields?_eq {date : Date} {hour minute second nanos : ℕ} {offset : ℤ}
    (hyear : inCalendar date.year) (hdate : date.isValid)
    (hclock : hour < 24 ∧ minute < 60 ∧ second ≤ 60 ∧ offset.natAbs < 86400)
    (ht : ⟨date.toDays * 86400 + (hour * 3600 + minute * 60 + min second 59 : ℕ) - offset,
      if second = 60 then Duration.second + nanos else nanos⟩ = t)
    (hcalendar : inCalendar t.date.year) :
    ofFields? date hour minute second nanos offset = some t := by
  subst ht
  obtain ⟨hhour, hminute, hsecond, hoffset⟩ := hclock
  simp only [ofFields?, hyear, hdate, hhour, hminute, hsecond, hoffset, hcalendar, Bool.and_self,
    decide_true, guard, if_true]
  rfl

lemma writtenSecond_eq (h : t.Valid) :
    (t.writtenSecond = 60 ∧ t.secondOfDay % 60 = 59 ∧
        t.nanos = Duration.second + t.nanos % Duration.second) ∨
      (t.writtenSecond = t.secondOfDay % 60 ∧ t.nanos = t.nanos % Duration.second) := by
  have hsecond : Duration.second = 1000000000 := rfl
  have hnanos := h.nanos
  have hday : t.secondOfDay % 60 = (t.seconds % 60).toNat := by
    unfold secondOfDay
    omega
  unfold writtenSecond
  rw [hsecond] at *
  split
  · refine .inl ?_
    omega
  · refine .inr ?_
    omega

/-- The date and the time of day make up the time. -/
lemma ofFields?_date (h : t.Valid) :
    ofFields? t.date (t.secondOfDay / 3600) (t.secondOfDay / 60 % 60) t.writtenSecond
      (t.nanos % Duration.second) 0 = some t := by
  have hday := t.secondOfDay_lt
  have hsecond := writtenSecond_eq h
  have hdays : t.date.toDays = t.seconds / 86400 := Date.toDays_ofDays _
  have hseconds : (t.secondOfDay : ℤ) = t.seconds % 86400 := by
    unfold secondOfDay
    omega
  refine ofFields?_eq h.year (Date.isValid_ofDays _) ⟨by omega, by omega, by omega, by decide⟩ ?_
    h.year
  obtain ⟨seconds, nanos⟩ := t
  simp only [Timestamp.mk.injEq]
  simp only at *
  refine ⟨?_, ?_⟩
  · rw [hdays]
    omega
  · split <;> omega

/-- **A time is read from its text as it was.** -/
theorem ofText?_toText (h : t.Valid) : ofText? t.toText = some t := by
  have hvalid : t.date.isValid := Date.isValid_ofDays _
  simp only [Date.isValid, Bool.and_eq_true, decide_eq_true_eq] at hvalid
  have hlength := Date.monthLength_le t.date.year (t.date.month - 1)
  have hday := t.secondOfDay_lt
  have hsecond := writtenSecond_eq h
  have hdash : ∀ rest, EndsDigits ('-' :: rest) := by simp [EndsDigits]
  rw [ofText?, toText, String.toList_ofList, render_eq,
    read_of_parts (readYear_renderYear _ (hdash _)) (readMark_cons (by decide) _)
      (readNumber_decimalPadded (by decide) (by omega) _) (readMark_cons (by decide) _)
      (readNumber_decimalPadded (by decide) (by omega) _)
      (readNumber_decimalPadded (by decide) (by omega) _) (readMark_cons (by decide) _)
      (readNumber_decimalPadded (by decide) (by omega) _) (readMark_cons (by decide) _)
      (readNumber_decimalPadded (by decide) (by omega) _)
      (readFraction_renderFraction (Nat.mod_lt _ (by decide)) (by simp [EndsDigits]) (by simp))]
  exact ofFields?_date h

/-! ## What is read -/

lemma takeDigits_eq {most : ℕ} {digits : List Char} (h : takeDigits most cs = (digits, rest)) :
    (∀ c ∈ digits, c.isDigit) ∧ digits.length ≤ most := by
  obtain ⟨rfl, -⟩ := Prod.mk.inj h
  refine ⟨?_, List.length_take_le _ _⟩
  intro c hc
  exact List.all_eq_true.1 List.all_takeWhile c (List.mem_of_mem_take hc)

/-- A fraction is less than a second. -/
lemma readFraction_lt (h : readFraction cs = some (n, rest)) : n < Duration.second := by
  unfold readFraction at h
  split at h
  · next tail =>
    split at h
    · cases h
    · next digits left _ heq =>
      obtain ⟨rfl, -⟩ := Prod.mk.inj (Option.some.inj h)
      obtain ⟨hdigits, hlength⟩ := takeDigits_eq heq
      have hall : ∀ c ∈ digits ++ List.replicate (9 - digits.length) '0', c.isDigit := by
        intro c hc
        rcases List.mem_append.1 hc with hc | hc
        · exact hdigits c hc
        · rw [List.eq_of_mem_replicate hc]
          rfl
      have hlt := ofDecimal_lt hall
      rwa [List.length_append, List.length_replicate, Nat.add_sub_cancel' hlength] at hlt
  · obtain ⟨rfl, -⟩ := Prod.mk.inj (Option.some.inj h)
    decide

/-- Offsets are in minutes. -/
lemma readHoursMinutes_mod {offset : ℤ} (h : readHoursMinutes cs = some (offset, rest)) :
    offset % 60 = 0 := by
  unfold readHoursMinutes at h
  dsimp only [Option.bind_eq_bind] at h
  obtain ⟨hours, -, h⟩ := Option.bind_eq_some_iff.1 h
  obtain ⟨minutes, -, h⟩ := Option.bind_eq_some_iff.1 h
  obtain ⟨-, -, h⟩ := Option.bind_eq_some_iff.1 h
  obtain ⟨rfl, -⟩ := Prod.mk.inj (Option.some.inj h)
  omega

lemma readOffset_mod {offset : ℤ} (h : readOffset cs = some (offset, rest)) : offset % 60 = 0 := by
  have hnegative : ∀ {tail}, (readHoursMinutes tail).map (fun r => (-r.1, r.2)) =
      some (offset, rest) → offset % 60 = 0 := by
    intro tail hmap
    obtain ⟨⟨n, left⟩, hread, heq⟩ := Option.map_eq_some_iff.1 hmap
    obtain ⟨rfl, -⟩ := Prod.mk.inj heq
    have hmod := readHoursMinutes_mod hread
    omega
  unfold readOffset at h
  split at h
  · obtain ⟨rfl, -⟩ := Prod.mk.inj (Option.some.inj h)
    rfl
  · obtain ⟨rfl, -⟩ := Prod.mk.inj (Option.some.inj h)
    rfl
  · exact readHoursMinutes_mod h
  · exact hnegative h
  · exact hnegative h
  · split at h
    · obtain ⟨rfl, -⟩ := Prod.mk.inj (Option.some.inj h)
      rfl
    · cases h
  · cases h

lemma Valid.of_ofFields? {date : Date} {hour minute second : ℕ} {offset : ℤ}
    (h : ofFields? date hour minute second n offset = some t) (hnanos : n < Duration.second)
    (hoffset : offset % 60 = 0) : t.Valid := by
  unfold ofFields? at h
  dsimp only [Option.bind_eq_bind] at h
  obtain ⟨-, -, h⟩ := Option.bind_eq_some_iff.1 h
  obtain ⟨-, -, h⟩ := Option.bind_eq_some_iff.1 h
  obtain ⟨_, hyear, h⟩ := Option.bind_eq_some_iff.1 h
  obtain rfl := Option.some.inj h
  have hsecond : Duration.second = 1000000000 := rfl
  refine ⟨by simpa [guard] using hyear, ?_⟩
  simp only
  split
  · next hleap =>
    subst hleap
    refine .inr ⟨by omega, ?_⟩
    push_cast
    omega
  · exact .inl hnanos

/-- What has been read from a text is a time. -/
theorem Valid.of_ofText? {s : String} (h : ofText? s = some t) : t.Valid := by
  unfold ofText? read at h
  dsimp only [Option.bind_eq_bind] at h
  obtain ⟨year, -, h⟩ := Option.bind_eq_some_iff.1 h
  obtain ⟨cs₂, -, h⟩ := Option.bind_eq_some_iff.1 h
  obtain ⟨month, -, h⟩ := Option.bind_eq_some_iff.1 h
  obtain ⟨cs₄, -, h⟩ := Option.bind_eq_some_iff.1 h
  obtain ⟨day, -, h⟩ := Option.bind_eq_some_iff.1 h
  -- the clock is read after any of the three marks
  have hclock : ∃ rest, ((readNumber 2 rest).bind fun hour => (readMark ':' hour.2).bind fun cs =>
      (readNumber 2 cs).bind fun minute => (readMark ':' minute.2).bind fun cs =>
      (readNumber 2 cs).bind fun second => (readFraction second.2).bind fun fraction =>
      (readOffset (fraction.2.dropWhile isBlank)).bind fun offset =>
      (guard ((offset.2.dropWhile isBlank).isEmpty = true) : Option Unit).bind fun _ =>
        ofFields? ⟨year.1, month.1, day.1⟩ hour.1 minute.1 second.1 fraction.1 offset.1) =
          some t := by
    split at h
    · split at h
      · exact ⟨_, h⟩
      · cases h
    · cases h
  obtain ⟨rest, h⟩ := hclock
  obtain ⟨hour, -, h⟩ := Option.bind_eq_some_iff.1 h
  obtain ⟨cs₅, -, h⟩ := Option.bind_eq_some_iff.1 h
  obtain ⟨minute, -, h⟩ := Option.bind_eq_some_iff.1 h
  obtain ⟨cs₆, -, h⟩ := Option.bind_eq_some_iff.1 h
  obtain ⟨second, -, h⟩ := Option.bind_eq_some_iff.1 h
  obtain ⟨fraction, hfraction, h⟩ := Option.bind_eq_some_iff.1 h
  obtain ⟨offset, hoffset, h⟩ := Option.bind_eq_some_iff.1 h
  obtain ⟨-, -, h⟩ := Option.bind_eq_some_iff.1 h
  exact .of_ofFields? h (readFraction_lt hfraction) (readOffset_mod hoffset)

/-- The times that there are are those that some text stands for. -/
theorem valid_iff : t.Valid ↔ ∃ s, ofText? s = some t := by
  constructor
  · intro h
    exact ⟨t.toText, ofText?_toText h⟩
  · rintro ⟨s, hs⟩
    exact .of_ofText? hs

/-! ## What is computed -/

/-- The first second of the calendar. -/
def firstSecond : ℤ :=
  Date.daysBeforeYear Date.firstYear * 86400

lemma firstSecond_nonpos : firstSecond ≤ 0 := by decide

lemma inCalendar_of_seconds (hfirst : firstSecond ≤ t.seconds)
    (hlast : t.seconds ≤ latest.seconds) : inCalendar t.date.year := by
  have hlatest : latest.seconds = 8210266876799 := by decide
  have hend : Date.daysBeforeYear (Date.lastYear + 1) = 95026237 := by decide
  unfold firstSecond at hfirst
  have hbegin : Date.daysBeforeYear Date.firstYear ≤ t.seconds / 86400 := by omega
  have hlimit : t.seconds / 86400 < Date.daysBeforeYear (Date.lastYear + 1) := by omega
  simp only [inCalendar, Bool.and_eq_true, decide_eq_true_eq]
  exact Date.yearOfDay_mem hbegin hlimit

/-- What begins within the calendar is over at some time. -/
theorem valid_expiryAfter {now : Timestamp} (hfirst : firstSecond ≤ now.seconds) (d : Duration) :
    (now.expiryAfter d).Valid := by
  have hlatest : latest.Valid := by
    refine ⟨inCalendar_of_seconds (by decide) (by decide), .inl (by decide)⟩
  have hadd : ∀ d : Duration, ((now.add? d).getD latest).Valid := by
    intro d
    unfold add?
    simp only
    split
    · next hle =>
      rw [le_def] at hle
      simp only at hle
      refine ⟨inCalendar_of_seconds ?_ ?_, .inl (Nat.mod_lt _ (by decide))⟩
      · simp only [Option.getD_some, Duration.second]
        omega
      · simp only [Option.getD_some]
        omega
    · exact hlatest
  exact hadd _

lemma seconds_ofMillis_nonneg (n : ℕ) : 0 ≤ (ofMillis n).seconds := by
  simp only [ofMillis]
  omega

end DhcpLeasing.Timestamp
