import Fabula.Number.Basic
import Mathlib.Algebra.Order.Ring.Unbundled.Rat
import Mathlib.Order.WithBot
/-!
# The order of numbers

Numbers are compared by their exact places on the line that has both its ends, whatever their kinds.
Only a float that is no number has no place there: it is neither below nor above nor equal to
anything. So the order of all others is linear, and it is that of their places. Main statements:

* `lt_eq`, `le_eq`, `same_eq`: what comparing two numbers answers;
* `trichotomy`: exactly one of three comparisons holds;
* `unplaced`: what is no number passes no comparison.
-/

namespace Fabula

abbrev Line : Type :=
  WithBot (WithTop Rat)

namespace Binary64.Extended

/-- The place of a point on the line; what is no point is left at the lower end. -/
def place : Extended → Line
  | .nan | .negativeInfinity => ⊥
  | .finite value => ((value : WithTop Rat) : Line)
  | .positiveInfinity => ⊤

variable {a b : Extended}

theorem lt_eq (left : a ≠ .nan) (right : b ≠ .nan) : a.lt b = decide (a.place < b.place) := by
  cases a <;> cases b <;> simp_all [Extended.lt, place, lt_top_iff_ne_top]

theorem same_eq (left : a ≠ .nan) : a.same b = decide (a = b) := by
  rw [Bool.eq_iff_iff]
  simp [same, left]

theorem place_injective (left : a ≠ .nan) (right : b ≠ .nan) : a.place = b.place ↔ a = b := by
  cases a <;> cases b <;> simp_all [place]

end Binary64.Extended

namespace Number

def place (n : Number) : Line :=
  n.value.place

def Placed (n : Number) : Prop :=
  n.value ≠ .nan

instance (n : Number) : Decidable n.Placed :=
  inferInstanceAs (Decidable (n.value ≠ .nan))

variable {a b : Number}

theorem lt_eq (left : a.Placed) (right : b.Placed) : a.lt b = decide (a.place < b.place) :=
  Binary64.Extended.lt_eq left right

theorem lt_iff (left : a.Placed) (right : b.Placed) : a.lt b ↔ a.place < b.place := by
  rw [lt_eq left right, decide_eq_true_iff]

theorem same_eq (left : a.Placed) (right : b.Placed) : a.same b = decide (a.place = b.place) := by
  simp only [same, place, Binary64.Extended.same_eq left,
    Binary64.Extended.place_injective left right]

theorem le_eq (left : a.Placed) (right : b.Placed) : a.le b = decide (a.place ≤ b.place) := by
  simp only [le, lt_eq left right, same_eq left right, le_iff_lt_or_eq, Bool.decide_or]

theorem trichotomy (left : a.Placed) (right : b.Placed) :
    (a.lt b, b.lt a, a.same b) = (true, false, false) ∨
      (a.lt b, b.lt a, a.same b) = (false, true, false) ∨
      (a.lt b, b.lt a, a.same b) = (false, false, true) := by
  rw [lt_eq left right, lt_eq right left, same_eq left right]
  rcases lt_trichotomy a.place b.place with below | equal | above
  · exact .inl (by simp [below, below.not_gt, below.ne])
  · exact .inr (.inr (by simp [equal]))
  · exact .inr (.inl (by simp [above, above.not_gt, above.ne']))

theorem placed_of_lt (less : a.lt b) : a.Placed ∧ b.Placed := by
  unfold lt at less
  unfold Placed
  cases left : a.value <;> cases right : b.value <;> simp_all [Binary64.Extended.lt]

theorem unplaced (none : ¬ a.Placed) (b : Number) :
    a.lt b = false ∧ b.lt a = false ∧ a.le b = false ∧ b.le a = false := by
  have none : a.value = .nan := not_not.mp none
  simp only [le, lt, same, none]
  cases b.value <;> simp [Binary64.Extended.lt, Binary64.Extended.same]

end Number
end Fabula
