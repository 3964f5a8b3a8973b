import DungeonPortfolio.Broadcasts
import DungeonPortfolio.Grammar
import DungeonPortfolio.Library.Cells
import DungeonPortfolio.Library.SignedArithmetic
import DungeonPortfolio.OwnCalls
import DungeonPortfolio.WireFormat
import Mathlib.Data.Rat.Floor

/-!
# Positions and sectors

`floor_div` as an expression in 32-bit arithmetic: exactly which positions it
takes to their cell of the grid without an overflow on the way. Where it does,
the distance of two positions on the map decides who watches whom.
-/

namespace DungeonPortfolio.Positions

open DungeonPortfolio.Text DungeonPortfolio.Protocol DungeonPortfolio.World
open DungeonPortfolio.WorldIndex DungeonPortfolio.WorldViews DungeonPortfolio.Broadcasts
open DungeonPortfolio.Decimals DungeonPortfolio.Grammar DungeonPortfolio.OwnCalls
open DungeonPortfolio.WireFormat
open Library.Cells Library.SignedArithmetic Library.Execution Library.Words Library.Wrapping

set_option autoImplicit false

/-- The expression `floor_div` returns, operation by operation. -/
def floorDivExpr (value divisor : Int32) : Expr 32 :=
  if value ≥ 0 then .div (.number value.toBitVec) (.number divisor.toBitVec)
  else .neg (.div (.sub (.add (.neg (.number value.toBitVec)) (.number divisor.toBitVec))
    (.number 1)) (.number divisor.toBitVec))

theorem floor_quotient_eval (value divisor : Int32) :
    (floorQuotient value divisor).toBitVec = (floorDivExpr value divisor).eval := by
  unfold floorQuotient floorDivExpr
  split
  · rfl
  · rfl

theorem in_range_iff {value : Int} :
    InRange 32 value ↔ -2147483648 ≤ value ∧ value ≤ 2147483647 := by
  rw [InRange]
  omega

variable {value divisor : Int32}

/-- The value is at least one divisor above `-2147483647`. -/
def AboveLowest (value divisor : Int32) : Prop := divisor.toInt - 2147483647 ≤ value.toInt

instance (value divisor : Int32) : Decidable (AboveLowest value divisor) :=
  inferInstanceAs (Decidable (_ ≤ _))

theorem results_of_nonneg (nonneg : value ≥ 0) :
    (floorDivExpr value divisor).results = [value.toInt.tdiv divisor.toInt] := by
  rw [floorDivExpr, if_pos nonneg]
  rfl

theorem results_of_neg (negative : ¬value ≥ 0) :
    (floorDivExpr value divisor).results =
      [-value.toInt, -value.toInt + divisor.toInt, -value.toInt + divisor.toInt - 1,
        (-value.toInt + divisor.toInt - 1).tdiv divisor.toInt,
        -(-value.toInt + divisor.toInt - 1).tdiv divisor.toInt] := by
  rw [floorDivExpr, if_neg negative]
  rfl

theorem nonneg_iff : value ≥ 0 ↔ 0 ≤ value.toInt := by
  rw [ge_iff_le, Int32.le_iff_toInt_le, Int32.toInt_zero]

theorem positive_iff : 0 < divisor ↔ 0 < divisor.toInt := by
  rw [Int32.lt_iff_toInt_lt, Int32.toInt_zero]

theorem quotient_bounds {dividend size : Int} (nonneg : 0 ≤ dividend) (positive : 0 < size) :
    dividend.tdiv size = dividend / size ∧ 0 ≤ dividend / size ∧ dividend / size ≤ dividend :=
  ⟨Int.tdiv_eq_ediv_of_nonneg nonneg, Int.ediv_nonneg nonneg positive.le,
    Int.ediv_le_self size nonneg⟩

theorem safe_iff (positive : 0 < divisor) :
    (floorDivExpr value divisor).Safe ↔ AboveLowest value divisor := by
  have lower := value.le_toInt
  have upper := value.toInt_lt
  have size := positive_iff.mp positive
  have largest := divisor.toInt_lt
  rw [Expr.Safe, AboveLowest]
  by_cases nonneg : value ≥ 0
  · have sign := nonneg_iff.mp nonneg
    rcases quotient_bounds sign size with ⟨same, low, high⟩
    simp only [results_of_nonneg nonneg, List.forall_mem_singleton, in_range_iff, same]
    omega
  · have sign : value.toInt < 0 := not_le.mp fun above => nonneg (nonneg_iff.mpr above)
    rcases quotient_bounds (show 0 ≤ -value.toInt + divisor.toInt - 1 by omega) size with
      ⟨same, low, high⟩
    simp only [results_of_neg nonneg, List.forall_mem_cons, List.not_mem_nil, false_implies,
      implies_true, and_true, in_range_iff, same]
    omega

/-- Rounding the opposite up and taking the opposite again is rounding down. -/
theorem cell_of_neg {dividend size : Int} (positive : 0 < size) :
    cell (size : ℚ) dividend = -((-dividend + size - 1) / size) := by
  have below := Int.ediv_mul_le (-dividend + size - 1) positive.ne'
  have above := Int.lt_ediv_add_one_mul_self (-dividend + size - 1) positive
  rw [cell_eq_iff (by exact_mod_cast positive)]
  constructor
  · have bound : -((-dividend + size - 1) / size) * size ≤ dividend := by linarith
    exact_mod_cast bound
  · have bound : dividend < (-((-dividend + size - 1) / size) + 1) * size := by linarith
    exact_mod_cast bound

theorem cell_eq_ediv {dividend size : Int} (positive : 0 < size) :
    cell (size : ℚ) dividend = dividend / size := by
  rw [cell_eq_iff (by exact_mod_cast positive)]
  constructor
  · exact_mod_cast Int.ediv_mul_le dividend positive.ne'
  · exact_mod_cast Int.lt_ediv_add_one_mul_self dividend positive

theorem exact_is_cell (positive : 0 < divisor) :
    (floorDivExpr value divisor).exact = cell (divisor.toInt : ℚ) value.toInt := by
  have size := positive_iff.mp positive
  by_cases nonneg : value ≥ 0
  · rw [cell_eq_ediv size, floorDivExpr, if_pos nonneg]
    exact Int.tdiv_eq_ediv_of_nonneg (nonneg_iff.mp nonneg)
  · have sign : value.toInt < 0 := not_le.mp fun above => nonneg (nonneg_iff.mpr above)
    have rounded : 0 ≤ -value.toInt + divisor.toInt - 1 := by omega
    rw [cell_of_neg size, floorDivExpr, if_neg nonneg]
    exact congrArg (- ·) (Int.tdiv_eq_ediv_of_nonneg rounded)

/-- `floor_div` returns the floor of the quotient, and no result on the way
leaves the range of `int`. -/
structure FloorExact (value divisor : Int32) : Prop where
  inRange : ∀ result ∈ (floorDivExpr value divisor).results,
    -2147483648 ≤ result ∧ result ≤ 2147483647
  floor : ∃ quotient, floorDiv value divisor = .ok quotient ∧
    quotient.toInt = ⌊(value.toInt : ℚ) / divisor.toInt⌋

theorem floor_quotient_exact (positive : 0 < divisor) (above : AboveLowest value divisor) :
    (floorQuotient value divisor).toInt = cell (divisor.toInt : ℚ) value.toInt := by
  have computed := eval_of_safe ((safe_iff positive).mpr above)
  rw [← floor_quotient_eval] at computed
  exact computed.trans (exact_is_cell positive)

theorem floor_exact_iff (positive : 0 < divisor) :
    FloorExact value divisor ↔ AboveLowest value divisor := by
  constructor
  · intro exact
    rw [← safe_iff positive]
    intro result listed
    exact in_range_iff.mpr (exact.inRange result listed)
  · intro above
    constructor
    · intro result listed
      exact in_range_iff.mp ((safe_iff positive).mpr above result listed)
    · have accepted : ¬divisor ≤ 0 := Int32.not_le.mpr positive
      refine ⟨floorQuotient value divisor, ?_, floor_quotient_exact positive above⟩
      rw [floorDiv, if_neg accepted]

/-- The sector of a position is its cell of the grid, in both axes. -/
def Placed (world : SectorWorld) (x y : Int32) : Prop :=
  (world.sectorFor x y).x.toInt = ⌊(x.toInt : ℚ) / world.sectorSize.toInt⌋ ∧
    (world.sectorFor x y).y.toInt = ⌊(y.toInt : ℚ) / world.sectorSize.toInt⌋

/-- `sector_for` computes the sector of the position without an overflow. -/
structure SectorExact (world : SectorWorld) (x y : Int32) : Prop where
  inRange : ∀ result ∈ (floorDivExpr x world.sectorSize).results ++
    (floorDivExpr y world.sectorSize).results, -2147483648 ≤ result ∧ result ≤ 2147483647
  placed : Placed world x y

variable {world : SectorWorld} {x y : Int32}

theorem placed_above (xAbove : AboveLowest x world.sectorSize)
    (yAbove : AboveLowest y world.sectorSize) : Placed world x y :=
  ⟨floor_quotient_exact world.sectorSizePositive xAbove,
    floor_quotient_exact world.sectorSizePositive yAbove⟩

theorem sector_exact_iff :
    SectorExact world x y ↔
      AboveLowest x world.sectorSize ∧ AboveLowest y world.sectorSize := by
  have xSafe : (floorDivExpr x world.sectorSize).Safe ↔ AboveLowest x world.sectorSize :=
    safe_iff world.sectorSizePositive
  have ySafe : (floorDivExpr y world.sectorSize).Safe ↔ AboveLowest y world.sectorSize :=
    safe_iff world.sectorSizePositive
  constructor
  · intro exact
    rcases List.forall_mem_append.mp exact.inRange with ⟨xRange, yRange⟩
    constructor
    · exact xSafe.mp fun result listed => in_range_iff.mpr (xRange result listed)
    · exact ySafe.mp fun result listed => in_range_iff.mpr (yRange result listed)
  · rintro ⟨xAbove, yAbove⟩
    refine ⟨List.forall_mem_append.mpr ⟨?_, ?_⟩, placed_above xAbove yAbove⟩
    · exact fun result listed => in_range_iff.mp (xSafe.mpr xAbove result listed)
    · exact fun result listed => in_range_iff.mp (ySafe.mpr yAbove result listed)

def moveRequest (x y : Int32) : Request := ⟨.move, ascii "MOVE", [printInt x, printInt y]⟩

theorem print_int_is_signed_decimal (value : Int32) : IsSignedDecimal (printInt value) := by
  rcases print_nat_digits value.toInt.natAbs with ⟨some, digits⟩
  rw [printInt]
  split
  · exact ⟨true, _, rfl, some, digits⟩
  · exact ⟨false, _, rfl, some, digits⟩

/-- Every position can be sent. -/
theorem parse_move_request (x y : Int32) :
    parseLine (printRequest (moveRequest x y)) = .ok (moveRequest x y) := by
  rw [parse_line_iff]
  refine ⟨ascii "MOVE", [printInt x, printInt y],
    ⟨ascii "MOVE", .move, [.signed, .signed], "usage: MOVE <x> <y>",
      "x and y must be signed integers"⟩, ?_, by decide, by decide, ?_, rfl⟩
  · have name : IsToken (ascii "MOVE") := by decide
    apply words_intercalate (by decide)
    simp only [moveRequest, List.forall_mem_cons]
    exact ⟨name, int_token x, int_token y, nofun⟩
  · exact .cons (print_int_is_signed_decimal x) (.cons (print_int_is_signed_decimal y) .nil)

/-- `sector_for` is right for exactly the positions at least one sector size above
`-2147483647` in both axes, and a client can send any position. -/
theorem sectors_exact_above_lowest (positive : 0 < divisor) (world : SectorWorld) (x y : Int32) :
    (FloorExact value divisor ↔ AboveLowest value divisor) ∧
    (SectorExact world x y ↔
      AboveLowest x world.sectorSize ∧ AboveLowest y world.sectorSize) ∧
    parseLine (printRequest (moveRequest x y)) = .ok (moveRequest x y) ∧
    stoi (printInt x) = .ok x ∧ stoi (printInt y) = .ok y :=
  ⟨floor_exact_iff positive, sector_exact_iff, parse_move_request x y, stoi_print_int x,
    stoi_print_int y⟩

/-- A client moves to the lowest `x` there is and stands at the other end of the map. -/
theorem lowest_position_wraps :
    parseLine (ascii "MOVE -2147483648 0") =
      .ok ⟨.move, ascii "MOVE", [ascii "-2147483648", ascii "0"]⟩ ∧
    stoi (ascii "-2147483648") = .ok (-2147483648) ∧
    SectorWorld.default.sectorFor (-2147483648) 0 = ⟨21474835, 0⟩ ∧
    ⌊((-2147483648 : Int32).toInt : ℚ) / SectorWorld.default.sectorSize.toInt⌋ = -21474837 ∧
    ¬FloorExact (-2147483648) 100 ∧ ¬SectorExact SectorWorld.default (-2147483648) 0 := by
  have floor : cell (((100 : Int32).toInt : Int) : ℚ) ((-2147483648 : Int32).toInt : Int) =
      -21474837 := cell_eq_ediv (by decide)
  refine ⟨by decide, by decide, by decide, floor, ?_, ?_⟩
  · rw [floor_exact_iff (by decide)]
    decide
  · rw [sector_exact_iff]
    decide

theorem sectors_exact_above_lowest_edge :
    FloorExact (-2147483547) 100 ∧ ¬FloorExact (-2147483548) 100 ∧
      SectorExact SectorWorld.default (-2147483547) 2147483647 := by
  have positive : (0 : Int32) < 100 := by decide
  have edge : FloorExact (-2147483547) 100 ↔ AboveLowest (-2147483547) 100 :=
    (sectors_exact_above_lowest positive .default 0 0).1
  have beyond : FloorExact (-2147483548) 100 ↔ AboveLowest (-2147483548) 100 :=
    (sectors_exact_above_lowest positive .default 0 0).1
  have sector : SectorExact SectorWorld.default (-2147483547) 2147483647 ↔
      AboveLowest (-2147483547) 100 ∧ AboveLowest 2147483647 100 :=
    (@sectors_exact_above_lowest 0 100 positive .default (-2147483547) 2147483647).2.1
  exact ⟨edge.mpr (by decide), fun exact => absurd (beyond.mp exact) (by decide),
    sector.mpr (by decide)⟩

section

variable {size radius first second : Int}

theorem axis_near (positive : 0 < size) (near : |first - second| ≤ radius * size) :
    |⌊(first : ℚ) / size⌋ - ⌊(second : ℚ) / size⌋| ≤ radius := by
  apply cells_near (by exact_mod_cast positive)
  exact_mod_cast near

theorem axis_far (positive : 0 < size) (far : (radius + 1) * size ≤ |first - second|) :
    radius < |⌊(first : ℚ) / size⌋ - ⌊(second : ℚ) / size⌋| := by
  apply cells_far (by exact_mod_cast positive)
  exact_mod_cast far

end

section

variable {player watcher : PlayerState}

def NearBy (reach : Int) (player watcher : PlayerState) : Prop :=
  |player.x.toInt - watcher.x.toInt| ≤ reach ∧ |player.y.toInt - watcher.y.toInt| ≤ reach

def FarOff (reach : Int) (player watcher : PlayerState) : Prop :=
  reach ≤ |player.x.toInt - watcher.x.toInt| ∨ reach ≤ |player.y.toInt - watcher.y.toInt|

instance (reach : Int) (player watcher : PlayerState) : Decidable (NearBy reach player watcher) :=
  inferInstanceAs (Decidable (_ ∧ _))

instance (reach : Int) (player watcher : PlayerState) : Decidable (FarOff reach player watcher) :=
  inferInstanceAs (Decidable (_ ∨ _))

theorem near_by_comm {reach : Int} : NearBy reach player watcher ↔ NearBy reach watcher player := by
  rw [NearBy, NearBy, abs_sub_comm player.x.toInt, abs_sub_comm player.y.toInt]

theorem far_off_comm {reach : Int} : FarOff reach player watcher ↔ FarOff reach watcher player := by
  rw [FarOff, FarOff, abs_sub_comm player.x.toInt, abs_sub_comm player.y.toInt]

theorem sees_near_by (here : Placed world player.x player.y)
    (there : Placed world watcher.x watcher.y)
    (near : NearBy (world.viewRadius.toInt * world.sectorSize.toInt) player watcher) :
    Sees world.viewRadius (world.sectorFor player.x player.y)
      (world.sectorFor watcher.x watcher.y) := by
  have size := positive_iff.mp world.sectorSizePositive
  constructor
  · rw [Near, here.1, there.1]
    exact axis_near size near.1
  · rw [Near, here.2, there.2]
    exact axis_near size near.2

theorem not_sees_far_off (here : Placed world player.x player.y)
    (there : Placed world watcher.x watcher.y)
    (far : FarOff ((world.viewRadius.toInt + 1) * world.sectorSize.toInt) player watcher) :
    ¬Sees world.viewRadius (world.sectorFor player.x player.y)
      (world.sectorFor watcher.x watcher.y) := by
  have size := positive_iff.mp world.sectorSizePositive
  rintro ⟨columns, rows⟩
  rw [Near, here.1, there.1] at columns
  rw [Near, here.2, there.2] at rows
  rcases far with apart | apart
  · exact absurd columns (not_le.mpr (axis_far size apart))
  · exact absurd rows (not_le.mpr (axis_far size apart))

theorem watches_iff_sees (indexed : Indexed world) {p q : SessionRef}
    (present : world.players p = some player) (watching : world.players q = some watcher)
    (roomy : Roomy world player.sector) :
    q ∈ world.watchersAround player.sector ↔
      Sees world.viewRadius (world.sectorFor player.x player.y)
        (world.sectorFor watcher.x watcher.y) := by
  rw [watchers_in_view indexed roomy, InView]
  simp only [watching, Option.some.injEq, exists_eq_left']
  rw [← (indexed.own p player present).2, ← (indexed.own q watcher watching).2]

end

theorem visibility_follows_distance {sectorSize viewRadius : Int32} {initial world : SectorWorld}
    (made : SectorWorld.make sectorSize viewRadius = .ok initial)
    (reachable : Reachable worldStep initial world) {p q : SessionRef}
    {player watcher : PlayerState} (present : world.players p = some player)
    (watching : world.players q = some watcher) (here : Placed world player.x player.y)
    (there : Placed world watcher.x watcher.y) (roomy : Roomy world player.sector)
    (wide : Roomy world watcher.sector) :
    (NearBy (viewRadius.toInt * sectorSize.toInt) player watcher →
      q ∈ world.watchersAround player.sector ∧ p ∈ world.watchersAround watcher.sector) ∧
    (FarOff ((viewRadius.toInt + 1) * sectorSize.toInt) player watcher →
      q ∉ world.watchersAround player.sector ∧ p ∉ world.watchersAround watcher.sector) := by
  have indexed := indexed_of_made made reachable
  rcases make_empty made with ⟨_, _, size, radius⟩
  rcases reachable with ⟨labels, ran⟩
  rcases run_sizes ran with ⟨sameSize, sameRadius⟩
  rw [← size, ← radius, ← sameSize, ← sameRadius,
    watches_iff_sees indexed present watching roomy, watches_iff_sees indexed watching present wide]
  constructor
  · intro near
    exact ⟨sees_near_by here there near, sees_near_by there here (near_by_comm.mp near)⟩
  · intro far
    exact ⟨not_sees_far_off here there far, not_sees_far_off there here (far_off_comm.mp far)⟩

/-- Two players on both sides of the origin, and one at two sector sizes. -/
def acrossOrigin : List (SectorWorld.CallOrder × WorldCall) :=
  [(fun _ => .ascending, .enter ⟨5, 1⟩ (ascii "a") (ascii "main") (-1) (-100)),
    (fun _ => .ascending, .enter ⟨6, 2⟩ (ascii "b") (ascii "main") 99 0),
    (fun _ => .ascending, .enter ⟨7, 3⟩ (ascii "c") (ascii "main") (-201) (-100))]

def spread : SectorWorld :=
  acrossOrigin.foldl (fun world label => (world.call label.1 label.2).1) .default

theorem visibility_follows_distance_across_origin :
    (⟨6, 2⟩ ∈ spread.watchersAround ⟨-1, -1⟩ ∧ ⟨5, 1⟩ ∈ spread.watchersAround ⟨0, 0⟩) ∧
    (⟨7, 3⟩ ∉ spread.watchersAround ⟨-1, -1⟩ ∧ ⟨5, 1⟩ ∉ spread.watchersAround ⟨-3, -1⟩) := by
  have made : SectorWorld.make 100 1 = .ok SectorWorld.default := by rfl
  have reachable : Reachable worldStep SectorWorld.default spread := ⟨acrossOrigin, rfl⟩
  have first : spread.players ⟨5, 1⟩ =
      some ⟨⟨5, 1⟩, ascii "a", ascii "main", -1, -100, ⟨-1, -1⟩⟩ := rfl
  have second : spread.players ⟨6, 2⟩ =
      some ⟨⟨6, 2⟩, ascii "b", ascii "main", 99, 0, ⟨0, 0⟩⟩ := rfl
  have third : spread.players ⟨7, 3⟩ =
      some ⟨⟨7, 3⟩, ascii "c", ascii "main", -201, -100, ⟨-3, -1⟩⟩ := rfl
  have size : spread.sectorSize = 100 := rfl
  have placed : ∀ x y : Int32, AboveLowest x 100 → AboveLowest y 100 → Placed spread x y := by
    intro x y
    rw [← size]
    exact placed_above
  have here := placed (-1) (-100) (by decide) (by decide)
  constructor
  · have distance := visibility_follows_distance made reachable first second here
      (placed 99 0 (by decide) (by decide)) (by decide) (by decide)
    exact distance.1 (by decide)
  · have distance := visibility_follows_distance made reachable first third here
      (placed (-201) (-100) (by decide) (by decide)) (by decide) (by decide)
    exact distance.2 (by decide)

end DungeonPortfolio.Positions
