import Mathlib.Algebra.Order.Ring.Int
import Mathlib.Algebra.Order.Group.Abs

/-!
# Neighbourhoods in wrapping 32-bit arithmetic

A loop over the offsets from `-radius` to `radius` visits the numbers
`centre + offset`, computed in 32 bits. `Reaches` says that a number is visited,
`Near` that it really lies within the radius. Near numbers are always visited;
the converse needs that the neighbourhood does not cross the end of the range.
-/

namespace Library.Wrapping

set_option autoImplicit false

def Near (radius : Int) (centre value : Int32) : Prop := |centre.toInt - value.toInt| ≤ radius

def Reaches (radius : Int) (centre value : Int32) : Prop :=
  ∃ offset : Int32, -radius ≤ offset.toInt ∧ offset.toInt ≤ radius ∧ value = centre + offset

/-- The whole neighbourhood of `centre` stays in the range. -/
def Fits (radius : Int) (centre : Int32) : Prop :=
  -2147483648 ≤ centre.toInt - radius ∧ centre.toInt + radius ≤ 2147483647

instance (radius : Int) (centre value : Int32) : Decidable (Near radius centre value) :=
  inferInstanceAs (Decidable (_ ≤ _))

theorem near_iff {radius : Int} {centre value : Int32} :
    Near radius centre value ↔
      centre.toInt - radius ≤ value.toInt ∧ value.toInt ≤ centre.toInt + radius := by
  rw [Near, abs_le]
  omega

theorem near_comm {radius : Int} {first second : Int32} :
    Near radius first second ↔ Near radius second first := by
  rw [near_iff, near_iff]
  omega

theorem add_sub_self (centre value : Int32) : centre + (value - centre) = value := by
  have lower := value.le_toInt
  have upper := value.toInt_lt
  rw [← Int32.toInt_inj, Int32.toInt_add, Int32.toInt_sub]
  simp only [Int.bmod_def] at *
  omega

theorem reaches_of_near {radius : Int} {centre value : Int32} (bound : radius ≤ 2147483647)
    (near : Near radius centre value) : Reaches radius centre value := by
  have between := near_iff.mp near
  have difference : (value - centre).toInt = value.toInt - centre.toInt := by
    rw [Int32.toInt_sub, Int.bmod_eq_of_le] <;> omega
  refine ⟨value - centre, ?_, ?_, (add_sub_self centre value).symm⟩
  · rw [difference]
    omega
  · rw [difference]
    omega

theorem near_of_reaches {radius : Int} {centre value : Int32} (fits : Fits radius centre)
    (reaches : Reaches radius centre value) : Near radius centre value := by
  obtain ⟨offset, lower, upper, rfl⟩ := reaches
  have bounds := fits
  simp only [Fits] at bounds
  have sum : (centre + offset).toInt = centre.toInt + offset.toInt := by
    rw [Int32.toInt_add, Int.bmod_eq_of_le] <;> omega
  rw [near_iff, sum]
  omega

/-- There is one offset that can lead from one number to another. -/
theorem reaches_iff {radius : Int} {centre value : Int32} :
    Reaches radius centre value ↔
      -radius ≤ (value - centre).toInt ∧ (value - centre).toInt ≤ radius := by
  constructor
  · rintro ⟨offset, lower, upper, rfl⟩
    have only : centre + offset - centre = offset := by
      rw [Int32.add_comm, Int32.add_sub_cancel]
    rw [only]
    exact ⟨lower, upper⟩
  · rintro ⟨lower, upper⟩
    exact ⟨value - centre, lower, upper, (add_sub_self centre value).symm⟩

instance (radius : Int) (centre value : Int32) : Decidable (Reaches radius centre value) :=
  decidable_of_iff _ reaches_iff.symm

theorem reaches_comm {radius : Int} {first second : Int32} (bound : radius ≤ 2147483647) :
    Reaches radius first second ↔ Reaches radius second first := by
  have back : ∀ {centre value : Int32}, Reaches radius centre value → Reaches radius value centre := by
    intro centre value reaches
    rcases reaches with ⟨offset, lower, upper, rfl⟩
    have opposite : (-offset).toInt = -offset.toInt := by
      rw [Int32.toInt_neg, Int.bmod_eq_of_le] <;> omega
    refine ⟨-offset, ?_, ?_, ?_⟩
    · rw [opposite]
      omega
    · rw [opposite]
      omega
    · rw [Int32.add_assoc, Int32.add_right_neg, Int32.add_zero]
  exact ⟨back, back⟩

/-- What is visited but does not lie within the radius lies more than half the
range away, so that no larger radius takes it in. -/
theorem near_iff_of_reaches {radius : Int} {centre value : Int32} (bound : radius ≤ 2147483647)
    (reaches : Reaches radius centre value) :
    Near radius centre value ↔ Near 2147483647 centre value := by
  rcases reaches with ⟨offset, lower, upper, rfl⟩
  have low := centre.le_toInt
  have high := centre.toInt_lt
  rw [near_iff, near_iff, Int32.toInt_add]
  simp only [Int.bmod_def] at *
  omega

theorem reaches_self {radius : Int} (nonneg : 0 ≤ radius) (value : Int32) :
    Reaches radius value value := by
  refine ⟨0, ?_, ?_, ?_⟩
  · rw [Int32.toInt_zero]
    omega
  · rw [Int32.toInt_zero]
    exact nonneg
  · rw [Int32.add_zero]

end Library.Wrapping
