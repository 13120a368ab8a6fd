import Remittance.Time.Civil

/-!
# Years of four digits

The count of days goes by cycles of 400 years that begin in March, so a year of the calendar ends in
the year of the cycle after it. Main statement: `exists_iso_iff`, which seconds have a date that is
written with four digits of a year.
-/

set_option autoImplicit false

namespace Remittance

namespace Date

section Cycle

variable {day : Nat}

/-- A cycle has 400 years. -/
theorem yearOfCycle_le (hday : day < cycleDays) : yearOfCycle day ≤ 399 := by
  unfold cycleDays at hday
  unfold yearOfCycle
  omega

/-- The first year of a cycle has 365 days. -/
theorem yearOfCycle_pos_iff (hday : day < cycleDays) : 1 ≤ yearOfCycle day ↔ 365 ≤ day := by
  unfold cycleDays at hday
  unfold yearOfCycle
  omega

/-- The last year of a cycle goes to its end. -/
theorem yearOfCycle_last_iff (hday : day < cycleDays) :
    yearOfCycle day = 399 ↔ daysBefore 399 ≤ day := by
  have hbefore : daysBefore 399 = 145731 := rfl
  unfold cycleDays at hday
  rw [hbefore]
  unfold yearOfCycle
  omega

/-- One in January and February, which belong to the next year of the calendar. -/
def turn (day : Nat) : Int :=
  let index := (5 * (day - daysBefore (yearOfCycle day)) + 2) / 153
  if (if index < 10 then index + 3 else index - 9) ≤ 2 then 1 else 0

/-- The turn of the year adds one at most. -/
theorem turn_bounds (day : Nat) : 0 ≤ turn day ∧ turn day ≤ 1 := by
  unfold turn
  dsimp only
  split <;> omega

/-- The year turns 306 days after its first day in March. -/
theorem turn_pos_iff (hday : day - daysBefore (yearOfCycle day) ≤ 365) :
    1 ≤ turn day ↔ 306 ≤ day - daysBefore (yearOfCycle day) := by
  unfold turn
  dsimp only
  split <;> split at * <;> omega

/-- The calendar begins with the turn of its first year, 306 days into a cycle. -/
theorem turn_pos_iff_of_first (hday : day < cycleDays) (hfirst : yearOfCycle day = 0) :
    1 ≤ turn day ↔ 306 ≤ day := by
  have hpos := yearOfCycle_pos_iff hday
  have hturn := @turn_pos_iff day
  have hbefore : daysBefore 0 = 0 := rfl
  rw [hfirst, hbefore] at hturn
  omega

/-- The last year of a cycle turns 60 days before its end. -/
theorem turn_pos_iff_of_last (hday : day < cycleDays) (hlast : yearOfCycle day = 399) :
    1 ≤ turn day ↔ 146037 ≤ day := by
  have hturn := @turn_pos_iff day
  have hbefore : daysBefore 399 = 145731 := rfl
  unfold cycleDays at hday
  rw [hlast, hbefore] at hturn
  omega

/-- The year of a day, by its cycle and its place in the cycle. -/
theorem year_ofDays (cycle : Int) (hday : day < cycleDays) :
    (ofDays (cycle * cycleDays + day - epochDays)).year =
      yearOfCycle day + cycle * 400 + turn day := by
  have hcycle : (cycle * cycleDays + day - epochDays + epochDays).fdiv cycleDays = cycle := by
    unfold cycleDays at *
    rw [Int.fdiv_eq_ediv_of_nonneg _ (by omega)]
    omega
  have hrest :
      (cycle * cycleDays + day - epochDays + epochDays - cycle * cycleDays).toNat = day := by
    omega
  unfold ofDays turn
  simp only [hcycle, hrest]

end Cycle

/-- The first day of the year 1 and the last day of the year 9999, counted from 1970 on. -/
theorem year_mem_iff (days : Int) : 1 ≤ (ofDays days).year ∧ (ofDays days).year ≤ 9999 ↔
    -719162 ≤ days ∧ days ≤ 2932896 := by
  obtain ⟨cycle, day, hday, rfl⟩ : ∃ (cycle : Int) (day : Nat), day < cycleDays ∧
      days = cycle * cycleDays + day - epochDays := by
    refine ⟨(days + epochDays) / cycleDays, ((days + epochDays) % cycleDays).toNat, ?_, ?_⟩
    all_goals
      unfold cycleDays epochDays
      omega
  rw [year_ofDays cycle hday]
  have hturn := turn_bounds day
  have hle := yearOfCycle_le hday
  have hpos := yearOfCycle_pos_iff hday
  have hlast := yearOfCycle_last_iff hday
  have hturnFirst := turn_pos_iff_of_first hday
  have hturnLast := turn_pos_iff_of_last hday
  have hbefore : daysBefore 399 = 145731 := rfl
  unfold cycleDays at hday
  unfold cycleDays epochDays
  omega

end Date

namespace Moment

/-- A moment lies in the years 1 to 9999. -/
def IsDated (m : Moment) : Prop := -62135596800 ≤ m.seconds ∧ m.seconds < 253402300800

/-- The moments that a date can hold are those of the years 1 to 9999. -/
theorem isDated_iff (m : Moment) : m.IsDated ↔ 1 ≤ m.date.year ∧ m.date.year ≤ 9999 := by
  have hday : m.seconds.fdiv daySeconds = m.seconds / 86400 :=
    Int.fdiv_eq_ediv_of_nonneg _ (by decide)
  rw [date, Date.year_mem_iff, hday, IsDated]
  omega

/-- A moment is written exactly if a date can hold it. -/
theorem exists_iso_iff (m : Moment) : (∃ text, m.iso? = .ok text) ↔ m.IsDated := by
  rw [isDated_iff, iso?]
  dsimp only
  split
  · next hyear => exact iff_of_true ⟨_, rfl⟩ hyear
  · next hyear => exact iff_of_false nofun hyear

end Moment

end Remittance
