import DungeonPortfolio.Library.Execution
import DungeonPortfolio.World

/-!
# The sector index

`players_` says where every player is and `sectors_` lists the players of every
cell. `Indexed` is the agreement of the two maps and of the sector cached in
each player. `erase_from_sector` and `insert_into_sector` are described by what
they do to the members of a cell, so that `enter`, `move` and `leave` are short
case analyses over the cells they touch.
-/

namespace DungeonPortfolio.WorldIndex

open DungeonPortfolio.Text DungeonPortfolio.World
open Library.Execution Library.HashSet

set_option autoImplicit false

def members (world : SectorWorld) (sector : SectorCoord) : Finset SessionRef :=
  (world.sectors sector).getD ∅

structure Indexed (world : SectorWorld) : Prop where
  own : ∀ ref player, world.players ref = some player →
    player.ref = ref ∧ player.sector = world.sectorFor player.x player.y
  listed : ∀ ref sector, ref ∈ members world sector ↔
    ∃ player, world.players ref = some player ∧ player.sector = sector
  occupied : ∀ sector refs, world.sectors sector = some refs → refs ≠ ∅

theorem mem_members {world : SectorWorld} {ref : SessionRef} {sector : SectorCoord} :
    ref ∈ members world sector ↔ ∃ refs, world.sectors sector = some refs ∧ ref ∈ refs := by
  unfold members
  cases lookup : world.sectors sector with
  | none => simp
  | some refs => simp

@[simp] theorem sector_for_config (world other : SectorWorld) (x y : Int32)
    (size : other.sectorSize = world.sectorSize) : other.sectorFor x y = world.sectorFor x y := by
  simp only [SectorWorld.sectorFor, size]

@[simp] theorem set_player_players (world : SectorWorld) (ref : SessionRef)
    (player : Option PlayerState) :
    (world.setPlayer ref player).players = Function.update world.players ref player := rfl

@[simp] theorem set_player_size (world : SectorWorld) (ref : SessionRef)
    (player : Option PlayerState) :
    (world.setPlayer ref player).sectorSize = world.sectorSize := rfl

@[simp] theorem set_player_radius (world : SectorWorld) (ref : SessionRef)
    (player : Option PlayerState) :
    (world.setPlayer ref player).viewRadius = world.viewRadius := rfl

@[simp] theorem set_player_members (world : SectorWorld) (ref : SessionRef)
    (player : Option PlayerState) (sector : SectorCoord) :
    members (world.setPlayer ref player) sector = members world sector := rfl

@[simp] theorem insert_players (world : SectorWorld) (player : PlayerState) :
    (world.insertIntoSector player).players = world.players := rfl

@[simp] theorem insert_size (world : SectorWorld) (player : PlayerState) :
    (world.insertIntoSector player).sectorSize = world.sectorSize := rfl

@[simp] theorem insert_radius (world : SectorWorld) (player : PlayerState) :
    (world.insertIntoSector player).viewRadius = world.viewRadius := rfl

@[simp] theorem erase_players (world : SectorWorld) (ref : SessionRef) (sector : SectorCoord) :
    (world.eraseFromSector ref sector).players = world.players := by
  unfold SectorWorld.eraseFromSector
  split <;> rfl

@[simp] theorem erase_size (world : SectorWorld) (ref : SessionRef) (sector : SectorCoord) :
    (world.eraseFromSector ref sector).sectorSize = world.sectorSize := by
  unfold SectorWorld.eraseFromSector
  split <;> rfl

@[simp] theorem erase_radius (world : SectorWorld) (ref : SessionRef) (sector : SectorCoord) :
    (world.eraseFromSector ref sector).viewRadius = world.viewRadius := by
  unfold SectorWorld.eraseFromSector
  split <;> rfl

theorem insert_members (world : SectorWorld) (player : PlayerState) (sector : SectorCoord) :
    members (world.insertIntoSector player) sector =
      if sector = player.sector then insert player.ref (members world sector)
      else members world sector := by
  simp only [members, SectorWorld.insertIntoSector, Function.update_apply]
  split
  · rename_i same
    rw [same]
    rfl
  · rfl

theorem erase_members (world : SectorWorld) (ref : SessionRef) (sector other : SectorCoord) :
    members (world.eraseFromSector ref sector) other =
      if other = sector then (members world other).erase ref else members world other := by
  cases lookup : world.sectors sector with
  | none =>
      have unchanged : world.eraseFromSector ref sector = world := by
        simp only [SectorWorld.eraseFromSector, lookup]
      rw [unchanged]
      by_cases same : other = sector
      · have unlisted : members world other = ∅ := by
          rw [same, members, lookup]
          rfl
        rw [if_pos same, unlisted, Finset.erase_empty]
      · rw [if_neg same]
  | some refs =>
      simp only [members, SectorWorld.eraseFromSector, lookup, Function.update_apply]
      by_cases same : other = sector
      · rw [if_pos same, if_pos same, same, lookup, Option.getD_some]
        by_cases vacated : refs.erase ref = ∅
        · rw [if_pos vacated, vacated]
          rfl
        · rw [if_neg vacated]
          rfl
      · rw [if_neg same, if_neg same]

theorem insert_occupied {world : SectorWorld} (player : PlayerState)
    (occupied : ∀ sector refs, world.sectors sector = some refs → refs ≠ ∅) :
    ∀ sector refs, (world.insertIntoSector player).sectors sector = some refs → refs ≠ ∅ := by
  intro sector refs lookup
  simp only [SectorWorld.insertIntoSector, Function.update_apply] at lookup
  split at lookup
  · rw [← Option.some.inj lookup]
    exact Finset.insert_ne_empty _ _
  · exact occupied sector refs lookup

theorem erase_occupied {world : SectorWorld} (ref : SessionRef) (cell : SectorCoord)
    (occupied : ∀ sector refs, world.sectors sector = some refs → refs ≠ ∅) :
    ∀ sector refs, (world.eraseFromSector ref cell).sectors sector = some refs → refs ≠ ∅ := by
  intro sector refs lookup
  unfold SectorWorld.eraseFromSector at lookup
  split at lookup
  · exact occupied sector refs lookup
  · simp only [Function.update_apply] at lookup
    split_ifs at lookup with same vacated
    · rw [← Option.some.inj lookup]
      exact vacated
    · exact occupied sector refs lookup

theorem indexed_of_empty {world : SectorWorld} (noPlayers : world.players = fun _ => none)
    (noSectors : world.sectors = fun _ => none) : Indexed world where
  own ref player lookup := by simp [noPlayers] at lookup
  listed ref sector := by simp [members, noSectors, noPlayers]
  occupied sector refs lookup := by simp [noSectors] at lookup

theorem indexed_remove {world : SectorWorld} (indexed : Indexed world) {ref : SessionRef}
    {player : PlayerState} (present : world.players ref = some player) :
    Indexed ((world.eraseFromSector ref player.sector).setPlayer ref none) := by
  constructor
  · intro other state lookup
    simp only [set_player_players, erase_players, Function.update_apply] at lookup
    split at lookup
    · cases lookup
    · have kept := indexed.own other state lookup
      simpa [SectorWorld.sectorFor] using kept
  · intro other sector
    rw [set_player_members, erase_members]
    simp only [set_player_players, erase_players, Function.update_apply]
    by_cases self : other = ref
    · subst other
      have elsewhere := indexed.listed ref sector
      simp only [present, Option.some.injEq, exists_eq_left'] at elsewhere
      rw [if_pos rfl]
      by_cases here : sector = player.sector
      · simp [here]
      · simp [here, elsewhere, Ne.symm here]
    · have kept := indexed.listed other sector
      split <;> simp_all
  · exact erase_occupied ref player.sector indexed.occupied

theorem indexed_add {world : SectorWorld} (indexed : Indexed world) (player : PlayerState)
    (absent : world.players player.ref = none)
    (placed : player.sector = world.sectorFor player.x player.y) :
    Indexed ((world.setPlayer player.ref (some player)).insertIntoSector player) := by
  constructor
  · intro other state lookup
    simp only [insert_players, set_player_players, Function.update_apply] at lookup
    split at lookup
    · rename_i self
      obtain rfl := Option.some.inj lookup
      exact ⟨self.symm, by simpa [SectorWorld.sectorFor] using placed⟩
    · have kept := indexed.own other state lookup
      simpa [SectorWorld.sectorFor] using kept
  · intro other sector
    rw [insert_members, set_player_members]
    simp only [insert_players, set_player_players, Function.update_apply]
    have kept := indexed.listed other sector
    by_cases self : other = player.ref
    · subst other
      simp only [absent, reduceCtorEq, false_and, exists_false, iff_false] at kept
      simp only [if_pos, Option.some.injEq, exists_eq_left']
      by_cases here : sector = player.sector
      · simp [here]
      · simp [here, kept, Ne.symm here]
    · split <;> simp_all
  · exact insert_occupied player indexed.occupied

theorem indexed_replace {world : SectorWorld} (indexed : Indexed world) {ref : SessionRef}
    {old player : PlayerState} (present : world.players ref = some old) (own : player.ref = ref)
    (sameSector : player.sector = old.sector)
    (placed : player.sector = world.sectorFor player.x player.y) :
    Indexed (world.setPlayer ref (some player)) := by
  constructor
  · intro other state lookup
    simp only [set_player_players, Function.update_apply] at lookup
    split at lookup
    · rename_i self
      obtain rfl := Option.some.inj lookup
      exact ⟨own.trans self.symm, by simpa [SectorWorld.sectorFor] using placed⟩
    · have kept := indexed.own other state lookup
      simpa [SectorWorld.sectorFor] using kept
  · intro other sector
    rw [set_player_members]
    simp only [set_player_players, Function.update_apply]
    have kept := indexed.listed other sector
    by_cases self : other = ref
    · subst other
      rw [present] at kept
      simp_all
    · simp_all
  · exact indexed.occupied

theorem leave_absent {world : SectorWorld} {ref : SessionRef} (order : SectorWorld.CallOrder)
    (snapshot : PlayerSnapshot) (absent : world.players ref = none) :
    world.leave order ref snapshot = (world, [], snapshot) := by
  simp only [SectorWorld.leave, absent]

theorem leave_present {world : SectorWorld} {ref : SessionRef} {player : PlayerState}
    (order : SectorWorld.CallOrder) (snapshot : PlayerSnapshot)
    (present : world.players ref = some player) :
    world.leave order ref snapshot =
      ((world.eraseFromSector ref player.sector).setPlayer ref none,
        (((order 0).list (world.watchersAround player.sector)).filter fun receiver =>
          receiver ≠ ref).map fun receiver =>
            (⟨receiver, .evtDespawn player (ascii "leave")⟩ : WorldEvent),
        ⟨player.account, player.character, player.x, player.y⟩) := by
  simp only [SectorWorld.leave, present]

theorem leave_players (world : SectorWorld) (order : SectorWorld.CallOrder) (ref : SessionRef)
    (snapshot : PlayerSnapshot) :
    (world.leave order ref snapshot).1.players = Function.update world.players ref none := by
  cases lookup : world.players ref with
  | none =>
      rw [leave_absent order snapshot lookup, ← lookup]
      exact (Function.update_eq_self ref world.players).symm
  | some player =>
      rw [leave_present order snapshot lookup, set_player_players, erase_players]

@[simp] theorem leave_size (world : SectorWorld) (order : SectorWorld.CallOrder)
    (ref : SessionRef) (snapshot : PlayerSnapshot) :
    (world.leave order ref snapshot).1.sectorSize = world.sectorSize := by
  unfold SectorWorld.leave
  split
  · rfl
  · exact erase_size _ _ _

@[simp] theorem leave_radius (world : SectorWorld) (order : SectorWorld.CallOrder)
    (ref : SessionRef) (snapshot : PlayerSnapshot) :
    (world.leave order ref snapshot).1.viewRadius = world.viewRadius := by
  unfold SectorWorld.leave
  split
  · rfl
  · exact erase_radius _ _ _

theorem indexed_leave {world : SectorWorld} (indexed : Indexed world)
    (order : SectorWorld.CallOrder) (ref : SessionRef) (snapshot : PlayerSnapshot) :
    Indexed (world.leave order ref snapshot).1 := by
  cases lookup : world.players ref with
  | none =>
      rw [leave_absent order snapshot lookup]
      exact indexed
  | some player =>
      rw [leave_present order snapshot lookup]
      exact indexed_remove indexed lookup

def newcomer (world : SectorWorld) (ref : SessionRef) (account character : Bytes)
    (x y : Int32) : PlayerState :=
  ⟨ref, account, character, x, y, world.sectorFor x y⟩

theorem enter_world (world : SectorWorld) (order : SectorWorld.CallOrder) (ref : SessionRef)
    (account character : Bytes) (x y : Int32) :
    (world.enter order ref account character x y).1 =
      (((world.leave order ref PlayerSnapshot.empty).1.setPlayer ref
        (some (newcomer world ref account character x y))).insertIntoSector
          (newcomer world ref account character x y)) := by
  have sameSector := sector_for_config world (world.leave order ref PlayerSnapshot.empty).1 x y
    (leave_size world order ref PlayerSnapshot.empty)
  simp only [SectorWorld.enter, newcomer, sameSector]

theorem enter_players (world : SectorWorld) (order : SectorWorld.CallOrder) (ref : SessionRef)
    (account character : Bytes) (x y : Int32) :
    (world.enter order ref account character x y).1.players =
      Function.update world.players ref (some (newcomer world ref account character x y)) := by
  rw [enter_world, insert_players, set_player_players, leave_players, Function.update_idem]

theorem indexed_enter {world : SectorWorld} (indexed : Indexed world)
    (order : SectorWorld.CallOrder) (ref : SessionRef) (account character : Bytes)
    (x y : Int32) : Indexed (world.enter order ref account character x y).1 := by
  rw [enter_world]
  have left := indexed_leave indexed order ref PlayerSnapshot.empty
  have absent : (world.leave order ref PlayerSnapshot.empty).1.players ref = none := by
    rw [leave_players, Function.update_self]
  apply indexed_add left (newcomer world ref account character x y) absent
  exact (sector_for_config _ _ x y (leave_size world order ref PlayerSnapshot.empty)).symm

def relocated (world : SectorWorld) (old : PlayerState) (x y : Int32) : PlayerState :=
  { old with x := x, y := y, sector := world.sectorFor x y }

theorem move_absent {world : SectorWorld} {ref : SessionRef} (order : SectorWorld.CallOrder)
    (x y : Int32) (absent : world.players ref = none) :
    world.move order ref x y = (world, [⟨ref, .errNotInWorld⟩]) := by
  simp only [SectorWorld.move, absent]

theorem move_same_sector {world : SectorWorld} {ref : SessionRef} {old : PlayerState}
    (order : SectorWorld.CallOrder) (x y : Int32) (present : world.players ref = some old)
    (same : old.sector = world.sectorFor x y) :
    (world.move order ref x y).1 = world.setPlayer ref (some (relocated world old x y)) := by
  simp only [SectorWorld.move, present, same, if_true, relocated]

theorem move_other_sector {world : SectorWorld} {ref : SessionRef} {old : PlayerState}
    (order : SectorWorld.CallOrder) (x y : Int32) (present : world.players ref = some old)
    (different : old.sector ≠ world.sectorFor x y) :
    (world.move order ref x y).1 =
      ((world.eraseFromSector ref old.sector).setPlayer ref
        (some (relocated world old x y))).insertIntoSector (relocated world old x y) := by
  simp only [SectorWorld.move, present, different, if_false, relocated]

theorem move_players {world : SectorWorld} {ref : SessionRef} {old : PlayerState}
    (order : SectorWorld.CallOrder) (x y : Int32) (present : world.players ref = some old) :
    (world.move order ref x y).1.players =
      Function.update world.players ref (some (relocated world old x y)) := by
  by_cases same : old.sector = world.sectorFor x y
  · rw [move_same_sector order x y present same, set_player_players]
  · rw [move_other_sector order x y present same, insert_players, set_player_players,
      erase_players]

/-- A move to another cell is the removal of the old player followed by the
insertion of the new one: the source skips the erasure from the map. -/
theorem move_other_sector_steps {world : SectorWorld} {ref : SessionRef} {old : PlayerState}
    (order : SectorWorld.CallOrder) (x y : Int32) (present : world.players ref = some old)
    (different : old.sector ≠ world.sectorFor x y) :
    (world.move order ref x y).1 =
      (((world.eraseFromSector ref old.sector).setPlayer ref none).setPlayer ref
        (some (relocated world old x y))).insertIntoSector (relocated world old x y) := by
  rw [move_other_sector order x y present different]
  simp only [SectorWorld.setPlayer, Function.update_idem]

theorem indexed_move {world : SectorWorld} (indexed : Indexed world)
    (order : SectorWorld.CallOrder) (ref : SessionRef) (x y : Int32) :
    Indexed (world.move order ref x y).1 := by
  cases lookup : world.players ref with
  | none =>
      rw [move_absent order x y lookup]
      exact indexed
  | some old =>
      have own := indexed.own ref old lookup
      by_cases same : old.sector = world.sectorFor x y
      · rw [move_same_sector order x y lookup same]
        exact indexed_replace indexed lookup own.1 same.symm rfl
      · rw [move_other_sector_steps order x y lookup same]
        have removed := indexed_remove indexed lookup
        have absent : ((world.eraseFromSector ref old.sector).setPlayer ref none).players
            (relocated world old x y).ref = none := by
          rw [set_player_players, show (relocated world old x y).ref = ref from own.1,
            Function.update_self]
        have added := indexed_add removed (relocated world old x y) absent
          (sector_for_config world _ x y (by simp)).symm
        rw [show (relocated world old x y).ref = ref from own.1] at added
        exact added

theorem indexed_call {world : SectorWorld} (indexed : Indexed world)
    (order : SectorWorld.CallOrder) (call : WorldCall) : Indexed (world.call order call).1 := by
  cases call with
  | enter ref account character x y => exact indexed_enter indexed order ref account character x y
  | move ref x y => exact indexed_move indexed order ref x y
  | attack ref skill target => exact indexed
  | leave ref => exact indexed_leave indexed order ref PlayerSnapshot.empty

/-- One call with the iteration orders its sets happen to have. -/
def worldStep (world : SectorWorld) (label : SectorWorld.CallOrder × WorldCall) :
    Option SectorWorld :=
  some (world.call label.1 label.2).1

theorem make_empty {sectorSize viewRadius : Int32} {world : SectorWorld}
    (made : SectorWorld.make sectorSize viewRadius = .ok world) :
    world.players = (fun _ => none) ∧ world.sectors = (fun _ => none) ∧
      world.sectorSize = sectorSize ∧ world.viewRadius = viewRadius := by
  unfold SectorWorld.make at made
  split_ifs at made
  obtain rfl := Except.ok.inj made
  exact ⟨rfl, rfl, rfl, rfl⟩

theorem indexed_of_reachable {world reached : SectorWorld} (indexed : Indexed world)
    (reachable : Reachable worldStep world reached) : Indexed reached := by
  apply reachable.invariant indexed
  intro source label next before taken
  obtain rfl := Option.some.inj taken
  exact indexed_call before label.1 label.2

theorem sector_index_exact {sectorSize viewRadius : Int32} {initial world : SectorWorld}
    (made : SectorWorld.make sectorSize viewRadius = .ok initial)
    (reachable : Reachable worldStep initial world) :
    (∀ ref player, world.players ref = some player →
      player.ref = ref ∧ player.sector = world.sectorFor player.x player.y) ∧
    (∀ ref sector, (∃ refs, world.sectors sector = some refs ∧ ref ∈ refs) ↔
      ∃ player, world.players ref = some player ∧ player.sector = sector) ∧
    (∀ ref player, world.players ref = some player →
      ∃! sector, ∃ refs, world.sectors sector = some refs ∧ ref ∈ refs) ∧
    (∀ ref, world.players ref = none →
      ∀ sector refs, world.sectors sector = some refs → ref ∉ refs) ∧
    (∀ sector refs, world.sectors sector = some refs → refs ≠ ∅) := by
  have empty := make_empty made
  have indexed := indexed_of_reachable (indexed_of_empty empty.1 empty.2.1) reachable
  have listed : ∀ ref sector, (∃ refs, world.sectors sector = some refs ∧ ref ∈ refs) ↔
      ∃ player, world.players ref = some player ∧ player.sector = sector := by
    intro ref sector
    rw [← mem_members]
    exact indexed.listed ref sector
  refine ⟨indexed.own, listed, ?_, ?_, indexed.occupied⟩
  · intro ref player present
    refine ⟨player.sector, (listed ref player.sector).mpr ⟨player, present, rfl⟩, ?_⟩
    intro other containing
    obtain ⟨same, present', here⟩ := (listed ref other).mp containing
    rw [present] at present'
    rw [← here, Option.some.inj present']
  · intro ref absent sector refs lookup member
    obtain ⟨player, present, _⟩ := (listed ref sector).mp ⟨refs, lookup, member⟩
    rw [absent] at present
    cases present

/-- A player that enters, walks across the origin and attacks is listed once. -/
theorem sector_index_exact_across_origin :
    ∃! sector, ∃ refs,
      ((SectorWorld.default.enter (fun _ => .ascending) ⟨5, 1⟩ (ascii "a") (ascii "c") 30 40).1.move
        (fun _ => .ascending) ⟨5, 1⟩ (-1) 250).1.sectors sector = some refs ∧ ⟨5, 1⟩ ∈ refs :=
  have reachable : Reachable worldStep SectorWorld.default _ :=
    ⟨[(fun _ => .ascending, .enter ⟨5, 1⟩ (ascii "a") (ascii "c") 30 40),
      (fun _ => .ascending, .move ⟨5, 1⟩ (-1) 250)], rfl⟩
  have made : SectorWorld.make 100 1 = .ok SectorWorld.default := by rfl
  (sector_index_exact made reachable).2.2.1 _ _ rfl

end DungeonPortfolio.WorldIndex
