import Fabula.Proofs.Number.Remainder
import Fabula.Proofs.Rules.Record
import Fabula.State.Clock
/-!
# Hours that a clock shows

A clock that is advanced counts whole days and shows what remains of its hours after them. Hours may
be floats, and then the remainder is rounded: a total that lies below midnight by less than floats
can tell apart from a whole day is shown as the hour 24. Main statements:

* `Clock.advance_shows`: what a clock shows after one step;
* `Clock.hours_shown`: what it shows after any number of steps.
-/

namespace Fabula
open Binary64

namespace Number

theorem value_collapse (n : Number) : n.collapse.value = n.value := by
  cases n with
  | int n => rfl
  | float x =>
    unfold collapse
    simp only
    split
    · next whole => exact (value_of_whole? whole).symm
    · rfl

theorem add_float {m sum : Number} {x : Float} (added : m.add (.float x) = .ok sum) :
    ∃ y, sum = .float (y + x) := by
  have computes : m.add (.float x) = m.toFloat >>= fun y => pure (.float (y + x)) := by
    cases m <;> rfl
  rw [computes] at added
  cases counted : m.toFloat with
  | ok y =>
    rw [counted] at added
    cases added
    exact ⟨y, rfl⟩
  | error fault =>
    rw [counted] at added
    cases added

theorem truncate_nan {x : Float} (none : parts x = .nan) (whole : Int) :
    truncate (.float x) ≠ .ok whole := by
  simp [truncate, truncate?, none]

end Number

theorem Value.sum_nan {a : Value} {x : Float} (none : parts x = .nan) :
    Returns (fun sum => ∃ y, sum = .float y ∧ parts y = .nan) (a.sum (.number (.float x))) := by
  simp only [sum, returns_bind]
  rintro ⟨m, n⟩ read
  unfold operands at read
  split at read
  · next m' n' first second =>
    cases read
    cases second
    intro sum added
    obtain ⟨y, rfl⟩ := Number.add_float (lift_eq_ok.mp added)
    exact ⟨_, rfl, parts_add_nan y none⟩
  · cases read

namespace Clock
variable {clock next : Clock} {hours : Value}

theorem advance_inv (clock : Clock) (hours : Value) : Returns (fun next =>
    ∃ total sum day, clock.hour.sum hours = .ok total ∧
      clock.day.sum (.number (total.divMod hoursPerDay).1) = .ok sum ∧ sum.truncate = .ok day ∧
      next = ⟨.int day, .number (total.divMod hoursPerDay).2.collapse⟩) (clock.advance hours) := by
  simp only [advance, returns_bind, returns_pure, lift_eq_ok]
  intro total summed sum added day cut
  exact ⟨total, sum, day, summed, added, cut, rfl⟩

def Shows (clock : Clock) (day : Int) (hour : Rat) : Prop :=
  ∃ n : Number, clock = ⟨.int day, .number n⟩ ∧ n.value = .finite hour

/-- Whether advancing a clock comes to a float that lies a sliver below zero. -/
def Slips (clock : Clock) (hours : Value) : Prop :=
  ∃ (x : Float) (total : Rat), clock.hour.sum hours = .ok (.float x) ∧
    Binary64.value x = .finite total ∧ Sliver total

theorem not_slips_of_int {n : Int} (summed : clock.hour.sum hours = .ok (.int n)) :
    ¬ clock.Slips hours := by
  rintro ⟨x, total, other, -⟩
  cases summed.symm.trans other

theorem slips_iff {x : Float} {total : Rat} (summed : clock.hour.sum hours = .ok (.float x))
    (finite : Binary64.value x = .finite total) : clock.Slips hours ↔ Sliver total := by
  constructor
  · rintro ⟨x', total', summed', finite', sliver⟩
    cases summed.symm.trans summed'
    cases finite.symm.trans finite'
    exact sliver
  · exact fun sliver => ⟨x, total, summed, finite, sliver⟩

theorem advance_shows (advances : clock.advance hours = .ok next) : ∃ day hour,
    next.Shows day hour ∧ 0 ≤ hour ∧ hour ≤ 24 ∧ (hour = 24 ↔ clock.Slips hours) := by
  obtain ⟨total, sum, day, summed, added, cut, rfl⟩ := advance_inv clock hours next advances
  have shows (hour : Rat) (shown : (total.divMod hoursPerDay).2.value = .finite hour) :
      Shows ⟨.int day, .number (total.divMod hoursPerDay).2.collapse⟩ day hour :=
    ⟨_, rfl, by rw [Number.value_collapse, shown]⟩
  cases total with
  | int n =>
    have least := Int.fmod_nonneg_of_pos n (b := hoursPerDay) (by decide)
    have most := Int.fmod_lt_of_pos n (b := hoursPerDay) (by decide)
    have below : ((n.fmod hoursPerDay : Int) : Rat) < 24 := by exact_mod_cast most
    refine ⟨day, _, shows (n.fmod hoursPerDay : Int) rfl, by exact_mod_cast least, below.le, ?_⟩
    exact iff_of_false below.ne (not_slips_of_int summed)
  | float x =>
    by_cases finite : ∃ q, Binary64.value x = .finite q
    · obtain ⟨q, finite⟩ := finite
      obtain ⟨hour, shown, least, most, full⟩ := value_divMod finite
      exact ⟨day, hour, shows hour shown, least, most,
        full.trans (slips_iff summed finite).symm⟩
    · -- The days are no number then, and have no whole part.
      have days := divMod_fst_nan hoursPerDay (not_exists.mp finite)
      obtain ⟨y, rfl, none⟩ := Value.sum_nan days sum added
      exact absurd cut (Number.truncate_nan none day)

/-- From a clock that shows an hour of the day on, advancing shows only hours of the day. The hour
24 is shown after a step that comes to a sliver below zero, and after no other. -/
theorem hours_shown {clock last : Clock} {hours : List Value} {day : Int} {hour : Rat}
    (shows : clock.Shows day hour) (least : 0 ≤ hour) (below : hour < 24)
    (advances : hours.foldlM advance clock = .ok last) : ∃ (day : Int) (hour : Rat),
      last.Shows day hour ∧ 0 ≤ hour ∧ hour ≤ 24 ∧
        (hour = 24 ↔ ∃ earlier step before, hours = earlier ++ [step] ∧
          earlier.foldlM advance clock = .ok before ∧ before.Slips step) := by
  rcases List.eq_nil_or_concat hours with rfl | ⟨earlier, step, rfl⟩
  · cases advances
    refine ⟨day, hour, shows, least, below.le, ?_⟩
    simp [below.ne]
  · rw [List.concat_eq_append, List.foldlM_append] at advances
    cases passes : earlier.foldlM advance clock with
    | error failure =>
      rw [passes] at advances
      cases advances
    | ok before =>
      rw [passes] at advances
      change before.advance step >>= pure = .ok last at advances
      rw [bind_pure] at advances
      obtain ⟨day, hour, shows, least, most, full⟩ := advance_shows advances
      refine ⟨day, hour, shows, least, most, full.trans ⟨fun slips => ?_, ?_⟩⟩
      · exact ⟨earlier, step, before, List.concat_eq_append, passes, slips⟩
      · rintro ⟨earlier', step', before', split, passes', slips⟩
        rw [List.concat_eq_append] at split
        obtain ⟨rfl, last⟩ := List.append_inj' split rfl
        obtain rfl := List.cons.inj last |>.1
        cases passes.symm.trans passes'
        exact slips

theorem ok_of_ints {result : Except Failure Clock} {day hour : Int}
    (read : (result.toOption.map fun clock => (clock.day.int?, clock.hour.int?)) =
      some (some day, some hour)) : result = .ok ⟨.int day, .int hour⟩ := by
  match result with
  | .ok ⟨.number (.int _), .number (.int _)⟩ =>
    cases read
    rfl

def overnight : List Value :=
  [.int 30, .float (-6.000000000000001)]

theorem hours_shown_overnight : Clock.start.Shows 1 0 ∧
    overnight.foldlM advance .start = .ok ⟨.int 1, .int 24⟩ ∧
    ∃ earlier step before, overnight = earlier ++ [step] ∧
      earlier.foldlM advance .start = .ok before ∧ before.Slips step := by
  have begins : Clock.start.Shows 1 0 := ⟨.int 0, rfl, rfl⟩
  have advances : overnight.foldlM advance .start = .ok ⟨.int 1, .int 24⟩ :=
    ok_of_ints (by decide +kernel)
  obtain ⟨day, hour, ⟨n, ends, shown⟩, -, -, full⟩ :=
    hours_shown begins le_rfl (by decide) advances
  cases ends
  exact ⟨begins, advances, full.mp (Extended.finite.inj shown).symm⟩

/-- An hour of nearly nothing before midnight is shown as the hour 24 of the day before. -/
theorem advance_sliver :
    Effect.compile none "ADVANCE time -1e-20".toList =
        .ok (.advanceTime (.float (-1e-20))) ∧
      (Number.float (-1e-20)).Finite ∧ Clock.start.Shows 1 0 ∧
      ∃ next, Clock.start.advance (.float (-1e-20)) = .ok next ∧ next.Shows 0 24 ∧
        next.text.toOption = some "Day 0, 24:00" := by
  have finite : (-1e-20 : Float).isFinite := by decide +kernel
  exact ⟨rfl, finite, ⟨.int 0, rfl, rfl⟩, _, ok_of_ints (by decide +kernel), ⟨.int 24, rfl, rfl⟩,
    by decide +kernel⟩

end Clock
end Fabula
