import DhcpLeasing.Time.Timestamp
import Mathlib

/-!
# Points in time as numbers

Points in time are in linear order. One outside leap seconds is a number of nanoseconds,
`Timestamp.instant`. Seen like this, an expiry is a sum that stops at the last point in time:
`instant_expiryAfter`.
-/

namespace DhcpLeasing.Timestamp

/-- Any two points in time can be compared, and of both one is the later. -/
instance : LinearOrder Timestamp where
  le_refl a := le_def.2 (by omega)
  le_trans a b c hab hbc := by
    rw [le_def] at hab hbc ⊢
    omega
  le_antisymm a b hab hba := by
    rw [le_def] at hab hba
    have hseconds : a.seconds = b.seconds := by omega
    have hnanos : a.nanos = b.nanos := by omega
    cases a
    cases b
    simp_all
  le_total a b := by
    rw [le_def, le_def]
    omega
  toDecidableLE := inferInstance

/-- The nanoseconds since 1970-01-01T00:00:00Z. -/
def instant (t : Timestamp) : ℤ :=
  t.seconds * Duration.second + t.nanos

variable {now t : Timestamp}

lemma seconds_latest : latest.seconds = 8210266876799 := by decide

/-- Outside leap seconds the order of points in time is that of their numbers. -/
lemma le_iff_instant_le (hnow : now.nanos < Duration.second) (ht : t.nanos < Duration.second) :
    now ≤ t ↔ now.instant ≤ t.instant := by
  rw [le_def, instant, instant]
  simp only [Duration.second] at hnow ht ⊢
  omega

/-- The nanoseconds that are carried over into seconds count the same as before. -/
lemma instant_add (t : Timestamp) (d : Duration) :
    instant ⟨t.seconds + ((t.nanos + d.nanos) / Duration.second : ℕ),
      (t.nanos + d.nanos) % Duration.second⟩ = t.instant + d.nanos := by
  simp only [instant, Duration.second]
  omega

lemma instant_add? (t : Timestamp) (d : Duration) :
    ((t.add? d).getD latest).instant = min (t.instant + d.nanos) latest.instant := by
  have hsum : (t.nanos + d.nanos) % Duration.second < Duration.second :=
    Nat.mod_lt _ (by decide)
  have hlatest : latest.nanos < Duration.second := by decide
  rw [add?, ← instant_add t d]
  split
  · next hle =>
    rw [le_iff_instant_le hsum hlatest] at hle
    rw [Option.getD_some, min_eq_left hle]
  · next hlt =>
    rw [le_iff_instant_le hsum hlatest, not_le] at hlt
    rw [Option.getD_none, min_eq_right hlt.le]

/-- What lasts for `d` is over `d` later, or at the last point in time if that comes first, as long
as the longest difference of times leads past the last point. -/
lemma instant_expiryAfter_of_far (hfar : latest.instant ≤ now.instant + Duration.longest.nanos)
    (d : Duration) :
    (now.expiryAfter d).instant = min (now.instant + d.nanos) latest.instant := by
  rw [expiryAfter, Duration.asDifference?]
  split
  · exact instant_add? now d
  · next hlong =>
    have hfar' : latest.instant ≤ now.instant + d.nanos := by omega
    rw [Option.getD_none, instant_add?, min_eq_right hfar, min_eq_right hfar']

/-- From 1970 on the longest difference of times does lead past the last point. -/
theorem instant_expiryAfter (hpast : 0 ≤ now.seconds) (d : Duration) :
    (now.expiryAfter d).instant = min (now.instant + d.nanos) latest.instant := by
  apply instant_expiryAfter_of_far
  rw [instant, instant, seconds_latest]
  simp only [latest, Duration.longest, Duration.ofMillis, Duration.milli, Duration.second]
  omega

end DhcpLeasing.Timestamp
