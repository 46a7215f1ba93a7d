import DhcpLeasing.Proofs.LeaseTable.Reaping
import DhcpLeasing.Proofs.Time.Rfc3339

/-!
# How long leases last

A lease that begins or is renewed now expires when its duration is over, or at the last point in
time if that comes first. There are two ways to get past the last point: the duration may be too
long to be a difference of times, and the sum may be beyond the calendar. Both end there, so an
expiry is one sum cut off at one end, `Timestamp.OnClock.expiryAfter_eq`, and grows with the current
time and with the duration. What is left of a lease is the difference to its expiry in whole
seconds, `Timestamp.secondsLeft_eq`.
-/

namespace DhcpLeasing

namespace Timestamp

variable {now now' t : Timestamp} {d d' : Duration}

/-! ## Times of a clock -/

/-- A time that a clock can show: one of the calendar that is not in a leap second. -/
structure OnClock (t : Timestamp) : Prop where
  first : firstSecond ≤ t.seconds
  last : t ≤ latest
  nanos : t.nanos < Duration.second

/-- The point in time, outside leap seconds, that is so many nanoseconds after
1970-01-01T00:00:00Z. -/
def ofInstant (n : ℤ) : Timestamp :=
  ⟨n / Duration.second, (n % Duration.second).toNat⟩

lemma ofInstant_instant (h : t.nanos < Duration.second) : ofInstant t.instant = t := by
  obtain ⟨seconds, nanos⟩ := t
  simp only [ofInstant, instant, Timestamp.mk.injEq]
  simp only [Duration.second] at h ⊢
  omega

lemma nanos_latest_lt : latest.nanos < Duration.second := by
  decide

/-! ## Expiries -/

lemma nanos_expiryAfter_lt (now : Timestamp) (d : Duration) :
    (now.expiryAfter d).nanos < Duration.second := by
  rw [expiryAfter, add?]
  split
  · exact Nat.mod_lt _ (by decide)
  · exact nanos_latest_lt

/-- From every time of the calendar the longest difference of times leads past the last point: it is
longer than the calendar. -/
lemma OnClock.far (h : now.OnClock) :
    latest.instant ≤ now.instant + Duration.longest.nanos := by
  have hfirst := h.first
  have hbegin : firstSecond = -8334601228800 := by decide
  rw [instant, instant, seconds_latest]
  simp only [latest, Duration.longest, Duration.ofMillis, Duration.milli, Duration.second]
  omega

lemma OnClock.instant_expiryAfter (h : now.OnClock) (d : Duration) :
    (now.expiryAfter d).instant = min (now.instant + d.nanos) latest.instant :=
  instant_expiryAfter_of_far h.far d

/-- An expiry is the current time and the duration, or the last point in time. -/
lemma OnClock.expiryAfter_eq (h : now.OnClock) (d : Duration) :
    now.expiryAfter d = ofInstant (min (now.instant + d.nanos) latest.instant) := by
  rw [← h.instant_expiryAfter, ofInstant_instant (nanos_expiryAfter_lt now d)]

/-- Nothing is over before it begins. -/
lemma OnClock.le_expiryAfter (h : now.OnClock) (d : Duration) : now ≤ now.expiryAfter d := by
  have hlast := (le_iff_instant_le h.nanos nanos_latest_lt).1 h.last
  rw [le_iff_instant_le h.nanos (nanos_expiryAfter_lt now d), h.instant_expiryAfter]
  omega

/-- What begins later or lasts longer is not over earlier. -/
lemma OnClock.expiryAfter_mono (h : now.OnClock) (h' : now'.OnClock) (hnow : now ≤ now')
    (hd : d.nanos ≤ d'.nanos) : now.expiryAfter d ≤ now'.expiryAfter d' := by
  rw [le_iff_instant_le h.nanos h'.nanos] at hnow
  rw [le_iff_instant_le (nanos_expiryAfter_lt now d) (nanos_expiryAfter_lt now' d'),
    h.instant_expiryAfter, h'.instant_expiryAfter]
  omega

/-! ## Seconds left -/

/-- Outside leap seconds the difference of two times is that of their numbers. -/
lemma nanosFrom_eq (now : Timestamp) (ht : t.nanos < Duration.second) :
    nanosFrom now t = t.instant - now.instant := by
  have hleap : ¬ (t.secondOfDay < now.secondOfDay ∧ Duration.second ≤ t.nanos) := by omega
  rw [nanosFrom, if_neg hleap, instant, instant, sub_mul]
  omega

/-- The seconds that are left are the whole ones of the difference, rounded towards zero. -/
lemma secondsLeft_eq (now : Timestamp) (ht : t.nanos < Duration.second) :
    (secondsLeft now t : ℤ) = max 0 ((t.instant - now.instant).tdiv Duration.second) := by
  rw [secondsLeft, nanosFrom_eq now ht, Int.toNat_eq_max, max_comm]
  -- the two roundings differ below zero only
  rcases le_total 0 (t.instant - now.instant) with hleft | hover
  · rw [Int.tdiv_eq_ediv_of_nonneg hleft]
  · have hfloor : (t.instant - now.instant) / Duration.second ≤ 0 := by
      simp only [Duration.second]
      omega
    have htrunc : (t.instant - now.instant).tdiv Duration.second ≤ 0 :=
      (Int.tdiv_le_tdiv (by decide) hover).trans_eq (Int.zero_tdiv _)
    rw [max_eq_left hfloor, max_eq_left htrunc]

/-- Nothing is left of what is over. -/
lemma secondsLeft_of_le (hnow : now.nanos < Duration.second) (ht : t.nanos < Duration.second)
    (h : t ≤ now) : secondsLeft now t = 0 := by
  rw [le_iff_instant_le ht hnow] at h
  rw [secondsLeft, nanosFrom_eq now ht]
  simp only [Duration.second]
  omega

/-- As time goes by, no more is left. -/
lemma secondsLeft_anti (hnow : now.nanos < Duration.second) (hnow' : now'.nanos < Duration.second)
    (ht : t.nanos < Duration.second) (h : now ≤ now') : secondsLeft now' t ≤ secondsLeft now t := by
  rw [le_iff_instant_le hnow hnow'] at h
  rw [secondsLeft, secondsLeft, nanosFrom_eq now ht, nanosFrom_eq now' ht]
  simp only [Duration.second]
  omega

end Timestamp

namespace Lease

variable {now now' time expiry : Timestamp} {d d' : Duration} {l : Lease}

/-! ## Leases -/

/-- A dynamic lease that begins now, or is renewed now, for a duration. -/
inductive Begins (now : Timestamp) (d : Duration) : Lease → Prop
  | created (ip : IpAddr) (client : HwAddr) (hostname : String) :
      Begins now d (.dynamic now ip client hostname d)
  | renewed {l : Lease} (h : l.isStatic = false) : Begins now d (l.renew now d)

lemma Begins.dynamic (h : l.Begins now d) : l.isStatic = false := by
  cases h with
  | created ip client hostname => rfl
  | renewed h => rwa [renew, if_neg (by simp [h])]

lemma Begins.expiresAt_eq (h : l.Begins now d) : l.expiresAt = some (now.expiryAfter d) := by
  cases h with
  | created ip client hostname => rfl
  | renewed h => rw [renew, if_neg (by simp [h])]

/-- What a table renews begins anew, and the table has it. -/
lemma Begins.of_renew {t t' : LeaseTable} {client : HwAddr} {ip : IpAddr}
    (h : t.renew now client ip d = (.ok l, t')) : l.Begins now d ∧ t'.lookup ip = some l := by
  rcases t.renew_cases now client ip d with ⟨e, heq⟩ | ⟨held, -, -, hdynamic, heq⟩
  · rw [heq] at h
    cases h
  · rw [heq, Prod.mk.injEq, Except.ok.injEq] at h
    obtain ⟨rfl, rfl⟩ := h
    refine ⟨.renewed hdynamic, ?_⟩
    rw [LeaseTable.lookup, SortedMap.get?_insert, if_pos rfl]

lemma isExpiredAt_iff_le (hdynamic : l.isStatic = false) (hexpiry : l.expiresAt = some expiry) :
    l.isExpiredAt time ↔ expiry ≤ time := by
  simp [isExpiredAt, hdynamic, hexpiry]

lemma remainingSeconds_eq (hexpiry : l.expiresAt = some expiry) (now : Timestamp) :
    l.remainingSeconds now = some (now.secondsLeft expiry) := by
  rw [remainingSeconds, hexpiry, Option.map_some]

/-- **Expiries are exact as far as there are times.** Whenever a dynamic lease begins or is renewed,
in a table or by itself, it expires its duration later, or at the last point in time if that comes
first, but never before it begins; it has expired from then on, and not before. So it does not
expire earlier for beginning later or for lasting longer. What is left of a dynamic lease are the
whole seconds to its expiry, none if it has expired, and they get no more as time goes by. -/
theorem expiry_saturates :
    (∀ {now : Timestamp} {d : Duration}, now.OnClock →
      (∀ {l : Lease}, l.Begins now d → l.isStatic = false ∧ ∃ expiry, l.expiresAt = some expiry ∧
        expiry = .ofInstant (min (now.instant + d.nanos) Timestamp.latest.instant) ∧
        now ≤ expiry ∧ ∀ time, l.isExpiredAt time ↔ expiry ≤ time) ∧
      ∀ {t t' : LeaseTable} {client ip l}, t.renew now client ip d = (.ok l, t') →
        l.Begins now d ∧ t'.lookup ip = some l) ∧
    (∀ {now now' : Timestamp} {d d' : Duration} {l l' : Lease}, now.OnClock → now'.OnClock →
      now ≤ now' → d.nanos ≤ d'.nanos → l.Begins now d → l'.Begins now' d' →
        ∃ expiry expiry', l.expiresAt = some expiry ∧ l'.expiresAt = some expiry' ∧
          expiry ≤ expiry') ∧
    ∀ {now : Timestamp} {l : Lease} {expiry : Timestamp}, now.OnClock → l.isStatic = false →
      l.expiresAt = some expiry → expiry.nanos < Duration.second →
        (∃ left, l.remainingSeconds now = some left ∧
          (left : ℤ) = max 0 ((expiry.instant - now.instant).tdiv Duration.second)) ∧
        (l.isExpiredAt now → l.remainingSeconds now = some 0) ∧
        ∀ {later : Timestamp}, later.OnClock → now ≤ later → ∃ left left',
          l.remainingSeconds now = some left ∧ l.remainingSeconds later = some left' ∧
            left' ≤ left := by
  refine ⟨?_, ?_, ?_⟩
  · intro now d hnow
    refine ⟨?_, Begins.of_renew⟩
    intro l hl
    exact ⟨hl.dynamic, _, hl.expiresAt_eq, hnow.expiryAfter_eq d, hnow.le_expiryAfter d,
      fun time => isExpiredAt_iff_le hl.dynamic hl.expiresAt_eq⟩
  · intro now now' d d' l l' hnow hnow' hle hd hl hl'
    exact ⟨_, _, hl.expiresAt_eq, hl'.expiresAt_eq, hnow.expiryAfter_mono hnow' hle hd⟩
  · intro now l expiry hnow hdynamic hexpiry hnanos
    have hleft := remainingSeconds_eq hexpiry
    refine ⟨⟨_, hleft now, Timestamp.secondsLeft_eq now hnanos⟩, ?_, ?_⟩
    · intro hexpired
      have hle := (isExpiredAt_iff_le hdynamic hexpiry).1 hexpired
      rw [hleft, Timestamp.secondsLeft_of_le hnow.nanos hnanos hle]
    · intro later hlater hle
      exact ⟨_, _, hleft now, hleft later,
        Timestamp.secondsLeft_anti hnow.nanos hlater.nanos hnanos hle⟩

/-- A lease that begins in 1970 for more than the longest difference of times lasts up to the last
point in time, no less than one for a minute. Of that one 58 whole seconds are left when 58 and a
half are, and none after the minute. -/
theorem exists_expiry_saturates :
    let now : Timestamp := .ofMillis 0
    let later : Timestamp := .ofMillis 1500
    let last : Timestamp := .ofMillis 60000
    let l (d : Duration) : Lease := .dynamic now (.v4 (.ofBytes 10 0 0 10)) ⟨[2, 0, 0, 0, 0, 1]⟩ "" d
    (now.OnClock ∧ later.OnClock ∧ last.OnClock) ∧
      (l (.ofMillis 9223372036854775808)).expiresAt = some .latest ∧
      (∃ expiry, (l (.ofSeconds 60)).expiresAt = some expiry ∧ expiry ≤ .latest) ∧
      (l (.ofSeconds 60)).remainingSeconds later = some 58 ∧
      (l (.ofSeconds 60)).remainingSeconds last = some 0 := by
  intro now later last l
  have hnow : now.OnClock := ⟨by decide, by decide, by decide⟩
  have hlater : later.OnClock := ⟨by decide, by decide, by decide⟩
  have hlast : last.OnClock := ⟨by decide, by decide, by decide⟩
  obtain ⟨hexact, hmono, hleft⟩ := expiry_saturates
  have hbegins : ∀ d, (l d).Begins now d := fun d => .created _ _ _
  have hlongest : (l (.ofMillis 9223372036854775808)).expiresAt = some .latest := by
    obtain ⟨-, expiry, hl, hexpiry, -⟩ := (hexact hnow).1 (hbegins (.ofMillis 9223372036854775808))
    have hpast : Timestamp.latest.instant ≤
        now.instant + (Duration.ofMillis 9223372036854775808).nanos := by decide +kernel
    rw [hl, hexpiry, min_eq_right hpast, Timestamp.ofInstant_instant Timestamp.nanos_latest_lt]
  refine ⟨⟨hnow, hlater, hlast⟩, hlongest, ?_, ?_, ?_⟩
  · obtain ⟨expiry, expiry', hl, hl', hle⟩ := hmono hnow hnow (by decide) (by decide +kernel)
      (hbegins (.ofSeconds 60)) (hbegins (.ofMillis 9223372036854775808))
    obtain rfl := Option.some.inj (hlongest.symm.trans hl')
    exact ⟨expiry, hl, hle⟩
  · obtain ⟨left, hcount, heq⟩ :=
      (hleft hlater (rfl : (l (.ofSeconds 60)).isStatic = false) rfl (by decide +kernel)).1
    have hseconds : (left : ℤ) = 58 := heq.trans (by decide +kernel)
    rw [hcount]
    congr 1
    omega
  · exact (hleft hlast (rfl : (l (.ofSeconds 60)).isStatic = false) rfl (by decide +kernel)).2.1
      (by decide +kernel)

end Lease

end DhcpLeasing
