/-!
Doubles in the order of their values. Finite doubles are always in some order, and the order seen
from the other side is the reverse.
-/

namespace FeatureFlags.Double
open Float.Model

private theorem magnitudes_swap (exponent exponent' : Int) (mantissa mantissa' : Nat) :
    (compare exponent' exponent).then (compare mantissa' mantissa) =
      ((compare exponent exponent').then (compare mantissa mantissa')).swap := by
  rw [Ordering.swap_then, ← Std.OrientedOrd.eq_swap, ← Std.OrientedOrd.eq_swap]

private theorem compare_swap (x y : UnpackedFloat) :
    y.compare x = (x.compare y).map Ordering.swap := by
  cases x with
  | notANumber => cases y <;> rfl
  | zero _ =>
      cases y with
      | notANumber | zero _ => rfl
      | infinity sign | finite sign => cases sign <;> rfl
  | infinity sign =>
      cases y with
      | notANumber | zero _ => cases sign <;> rfl
      | infinity sign' | finite sign' => cases sign <;> cases sign' <;> rfl
  | finite sign mantissa exponent =>
      cases y with
      | notANumber | zero _ => cases sign <;> rfl
      | infinity sign' => cases sign <;> cases sign' <;> rfl
      | finite sign' mantissa' exponent' =>
          have swapped := magnitudes_swap exponent exponent' mantissa mantissa'
          -- Magnitudes count between equal signs only, and below zero the other way round.
          cases sign <;> cases sign' <;>
            first | rfl | exact congrArg some swapped |
              exact congrArg (fun order => some order.swap) swapped

private theorem exists_compare {x y : UnpackedFloat} (finite : x.isFinite = true)
    (finite' : y.isFinite = true) : ∃ order, x.compare y = some order := by
  cases x with
  | notANumber | infinity _ => cases finite
  | zero _ =>
      cases y with
      | notANumber | infinity _ => cases finite'
      | zero _ => exact ⟨_, rfl⟩
      | finite sign => cases sign <;> exact ⟨_, rfl⟩
  | finite sign =>
      cases y with
      | notANumber | infinity _ => cases finite'
      | zero _ => cases sign <;> exact ⟨_, rfl⟩
      | finite sign' => cases sign <;> cases sign' <;> exact ⟨_, rfl⟩

/-- The order of two doubles. There is none if one of them is undefined. -/
def order? (x y : Float) : Option Ordering := x.toModel.unpack.compare y.toModel.unpack

theorem order?_swap (x y : Float) : order? y x = (order? x y).map Ordering.swap :=
  compare_swap x.toModel.unpack y.toModel.unpack

theorem exists_order? {x y : Float} (finite : x.isFinite = true) (finite' : y.isFinite = true) :
    ∃ order, order? x y = some order :=
  exists_compare finite finite'

theorem lt_iff {x y : Float} : x < y ↔ order? x y = some .lt := by
  change decide (x.toModel < y.toModel) = true ↔ _
  rw [decide_eq_true_iff]
  exact beq_iff_eq (α := Option Ordering)

theorem beq_iff {x y : Float} : (x == y) = true ↔ order? x y = some .eq :=
  beq_iff_eq (α := Option Ordering)

end FeatureFlags.Double
