import DungeonPortfolio.Library.Mailbox
import DungeonPortfolio.WorldViews

/-!
# The world as the sum of its sessions

A call changes the state of one player, and how it does depends on that player
alone; the sector sets follow from the players. So the calls of the other
sessions, and the order in which they fall between those of one session, do not
matter to it.
-/

namespace DungeonPortfolio.OwnCalls

open DungeonPortfolio.Text DungeonPortfolio.World DungeonPortfolio.WorldIndex
open DungeonPortfolio.WorldViews
open Library.Execution Library.HashSet Library.Mailbox

set_option autoImplicit false

def caller : WorldCall → SessionRef
  | .enter ref _ _ _ _ => ref
  | .move ref _ _ => ref
  | .attack ref _ _ => ref
  | .leave ref => ref

/-- What a call makes of the caller's own player, in a world with the sizes of `world`. -/
def become (world : SectorWorld) (player : Option PlayerState) : WorldCall → Option PlayerState
  | .enter ref account character x y => some (newcomer world ref account character x y)
  | .move _ x y => player.map fun old => relocated world old x y
  | .attack _ _ _ => player
  | .leave _ => none

theorem call_players (world : SectorWorld) (order : SectorWorld.CallOrder) (call : WorldCall) :
    (world.call order call).1.players = observe caller (become world) world.players call := by
  cases call with
  | enter ref account character x y => exact enter_players world order ref account character x y
  | move ref x y =>
      change (world.move order ref x y).1.players = _
      cases lookup : world.players ref with
      | none =>
          rw [move_absent order x y lookup, observe, caller, become, lookup, Option.map_none,
            ← lookup, Function.update_eq_self]
      | some old =>
          rw [move_players order x y lookup, observe, caller, become, lookup, Option.map_some]
  | attack ref skill target =>
      rw [observe, caller, become, Function.update_eq_self]
      rfl
  | leave ref => exact leave_players world order ref PlayerSnapshot.empty

theorem become_sizes {world other : SectorWorld} (size : other.sectorSize = world.sectorSize) :
    become other = become world := by
  have sector := sector_for_config world other
  funext player call
  cases call with
  | enter ref account character x y => simp only [become, newcomer, sector x y size]
  | move ref x y => simp only [become, relocated, sector x y size]
  | attack ref skill target => rfl
  | leave ref => rfl

theorem enter_size (world : SectorWorld) (order : SectorWorld.CallOrder) (ref : SessionRef)
    (account character : Bytes) (x y : Int32) :
    (world.enter order ref account character x y).1.sectorSize = world.sectorSize := by
  rw [enter_world, insert_size, set_player_size, leave_size]

theorem move_size (world : SectorWorld) (order : SectorWorld.CallOrder) (ref : SessionRef)
    (x y : Int32) : (world.move order ref x y).1.sectorSize = world.sectorSize := by
  cases lookup : world.players ref with
  | none => rw [move_absent order x y lookup]
  | some old =>
      by_cases same : old.sector = world.sectorFor x y
      · rw [move_same_sector order x y lookup same, set_player_size]
      · rw [move_other_sector order x y lookup same, insert_size, set_player_size, erase_size]

theorem call_sizes (world : SectorWorld) (order : SectorWorld.CallOrder) (call : WorldCall) :
    (world.call order call).1.sectorSize = world.sectorSize ∧
      (world.call order call).1.viewRadius = world.viewRadius := by
  cases call with
  | enter ref account character x y => exact ⟨enter_size .., enter_radius ..⟩
  | move ref x y => exact ⟨move_size .., move_radius ..⟩
  | attack ref skill target => exact ⟨rfl, rfl⟩
  | leave ref => exact ⟨leave_size .., leave_radius ..⟩

/-- A set is kept for a sector exactly if it has members. -/
theorem sectors_of_members {world : SectorWorld} (indexed : Indexed world) (sector : SectorCoord) :
    world.sectors sector =
      if members world sector = ∅ then none else some (members world sector) := by
  cases lookup : world.sectors sector with
  | none =>
      rw [if_pos]
      rw [members, lookup]
      rfl
  | some refs =>
      have same : members world sector = refs := by
        rw [members, lookup]
        rfl
      rw [same, if_neg (indexed.occupied sector refs lookup)]

theorem sectors_of_players {first second : SectorWorld} (indexed : Indexed first)
    (also : Indexed second) (players : first.players = second.players) :
    first.sectors = second.sectors := by
  funext sector
  have same : members first sector = members second sector := by
    ext ref
    rw [indexed.listed, also.listed, players]
  rw [sectors_of_members indexed, sectors_of_members also, same]

theorem world_of_players {first second : SectorWorld} (indexed : Indexed first)
    (also : Indexed second) (players : first.players = second.players)
    (size : first.sectorSize = second.sectorSize)
    (radius : first.viewRadius = second.viewRadius) : first = second := by
  have sectors := sectors_of_players indexed also players
  cases first
  cases second
  congr 1

/-- The calls one session makes, without the orders its sets are visited in. -/
def ownCalls (ref : SessionRef) (labels : List (SectorWorld.CallOrder × WorldCall)) :
    List WorldCall :=
  (labels.map Prod.snd).filter fun call => decide (caller call = ref)

def SizedLike (start world : SectorWorld) : Prop :=
  world.sectorSize = start.sectorSize ∧ world.viewRadius = start.viewRadius

theorem run_sizes {start final : SectorWorld}
    {labels : List (SectorWorld.CallOrder × WorldCall)}
    (ran : run worldStep start labels = some final) : SizedLike start final := by
  have initial : SizedLike start start := ⟨rfl, rfl⟩
  refine invariant_of_run initial ?_ ran
  intro source label next before taken
  obtain rfl := Option.some.inj taken
  have kept := call_sizes source label.1 label.2
  exact ⟨kept.1.trans before.1, kept.2.trans before.2⟩

theorem run_players {start final : SectorWorld}
    {labels : List (SectorWorld.CallOrder × WorldCall)}
    (ran : run worldStep start labels = some final) :
    final.players = observeAll caller (become start) start.players (labels.map Prod.snd) := by
  induction labels generalizing start with
  | nil =>
      obtain rfl : start = final := Option.some.inj ran
      rfl
  | cons label rest ih =>
      have later := ih ran
      rw [become_sizes (call_sizes start label.1 label.2).1, call_players] at later
      exact later

theorem run_player {start final : SectorWorld}
    {labels : List (SectorWorld.CallOrder × WorldCall)}
    (ran : run worldStep start labels = some final) (ref : SessionRef) :
    final.players ref = (ownCalls ref labels).foldl (become start) (start.players ref) := by
  rw [run_players ran, observe_all_apply]
  rfl

/-- The calls of the others are the same without one session's. -/
theorem own_calls_without {ref other : SessionRef} (different : other ≠ ref)
    (labels : List (SectorWorld.CallOrder × WorldCall)) :
    ownCalls other (labels.filter fun label => decide (caller label.2 ≠ ref)) =
      ownCalls other labels := by
  rw [ownCalls, ownCalls, List.filter_map, List.filter_map, List.filter_filter]
  congr 1
  apply List.filter_congr
  intro label _
  by_cases own : caller label.2 = other
  · simp [own, different]
  · simp [own]

theorem own_calls_removed (ref : SessionRef)
    (labels : List (SectorWorld.CallOrder × WorldCall)) :
    ownCalls ref (labels.filter fun label => decide (caller label.2 ≠ ref)) = [] := by
  rw [ownCalls, List.filter_eq_nil_iff]
  intro call listed
  rcases List.mem_map.mp listed with ⟨label, member, rfl⟩
  simpa using (List.mem_filter.mp member).2

def visit (ref : SessionRef) (account character : Bytes) (x y : Int32)
    (walk : List (Int32 × Int32)) : List WorldCall :=
  .enter ref account character x y :: walk.map (fun place => .move ref place.1 place.2) ++
    [.leave ref]

theorem visit_leaves_nothing (world : SectorWorld) (ref : SessionRef) (account character : Bytes)
    (x y : Int32) (walk : List (Int32 × Int32)) (player : Option PlayerState) :
    (visit ref account character x y walk).foldl (become world) player = none := by
  rw [visit, List.foldl_append]
  rfl

theorem world_depends_on_own_calls {sectorSize viewRadius : Int32} {initial : SectorWorld}
    (made : SectorWorld.make sectorSize viewRadius = .ok initial) :
    (∀ first second left right, run worldStep initial first = some left →
      run worldStep initial second = some right →
        (∀ ref, ownCalls ref first = ownCalls ref second) →
          left.players = right.players ∧ left.sectors = right.sectors) ∧
    (∀ first second left right ref, run worldStep initial first = some left →
      run worldStep initial second = some right → ownCalls ref first = ownCalls ref second →
        left.players ref = right.players ref) ∧
    ∀ world, Reachable worldStep initial world → ∀ ref, world.players ref = none →
      ∀ labels account character x y walk,
        ownCalls ref labels = visit ref account character x y walk →
          ∀ final without, run worldStep world labels = some final →
            run worldStep world (labels.filter fun label => decide (caller label.2 ≠ ref)) =
              some without → final = without := by
  have empty := make_empty made
  have indexed := indexed_of_empty empty.1 empty.2.1
  have own : ∀ first second left right ref, run worldStep initial first = some left →
      run worldStep initial second = some right → ownCalls ref first = ownCalls ref second →
        left.players ref = right.players ref := by
    intro first second left right ref ran also same
    rw [run_player ran, run_player also, same]
  refine ⟨?_, own, ?_⟩
  · intro first second left right ran also same
    have players : left.players = right.players := by
      funext ref
      exact own first second left right ref ran also (same ref)
    exact ⟨players, sectors_of_players (indexed_of_reachable indexed ⟨first, ran⟩)
      (indexed_of_reachable indexed ⟨second, also⟩) players⟩
  · intro world reachable ref absent labels account character x y walk visited final without ran
      also
    have before := indexed_of_reachable indexed reachable
    have players : final.players = without.players := by
      funext other
      rw [run_player ran, run_player also]
      by_cases self : other = ref
      · rw [self, own_calls_removed, visited, visit_leaves_nothing, absent]
        rfl
      · rw [own_calls_without self]
    have sizes := run_sizes ran
    have others := run_sizes also
    exact world_of_players (indexed_of_reachable before ⟨labels, ran⟩)
      (indexed_of_reachable before ⟨_, also⟩) players (sizes.1.trans others.1.symm)
      (sizes.2.trans others.2.symm)

/-- A visitor comes and goes around the entry of another session. -/
def overlapping : List (SectorWorld.CallOrder × WorldCall) :=
  [(fun _ => .ascending, .enter ⟨6, 2⟩ (ascii "b") (ascii "alt") 0 0),
    (fun _ => .ascending, .enter ⟨5, 1⟩ (ascii "a") (ascii "main") 10 10),
    (fun _ => .ascending, .move ⟨6, 2⟩ 20 20),
    (fun _ => .ascending, .leave ⟨6, 2⟩)]

def inTurn : List (SectorWorld.CallOrder × WorldCall) :=
  [(fun _ => .ascending, .enter ⟨6, 2⟩ (ascii "b") (ascii "alt") 0 0),
    (fun _ => .ascending, .move ⟨6, 2⟩ 20 20),
    (fun _ => .ascending, .leave ⟨6, 2⟩),
    (fun _ => .ascending, .enter ⟨5, 1⟩ (ascii "a") (ascii "main") 10 10)]

def worldAfter (labels : List (SectorWorld.CallOrder × WorldCall)) : SectorWorld :=
  labels.foldl (fun world label => (world.call label.1 label.2).1) .default

theorem world_depends_on_own_calls_overlapping :
    (worldAfter overlapping).players = (worldAfter inTurn).players ∧
    (worldAfter overlapping).players ⟨6, 2⟩ = (worldAfter inTurn).players ⟨6, 2⟩ ∧
    worldAfter overlapping =
      worldAfter [(fun _ => .ascending, .enter ⟨5, 1⟩ (ascii "a") (ascii "main") 10 10)] := by
  have made : SectorWorld.make 100 1 = .ok SectorWorld.default := by rfl
  have depends := world_depends_on_own_calls made
  have same : ∀ ref, ownCalls ref overlapping = ownCalls ref inTurn := by
    intro ref
    by_cases five : (⟨5, 1⟩ : SessionRef) = ref
    · subst ref
      rfl
    · by_cases six : (⟨6, 2⟩ : SessionRef) = ref
      · subst ref
        rfl
      · simp [ownCalls, overlapping, inTurn, caller, five, six]
  refine ⟨(depends.1 overlapping inTurn _ _ rfl rfl same).1,
    depends.2.1 overlapping inTurn _ _ ⟨6, 2⟩ rfl rfl (same ⟨6, 2⟩), ?_⟩
  exact depends.2.2 _ (reachable_refl worldStep _) ⟨6, 2⟩ rfl overlapping (ascii "b") (ascii "alt")
    0 0 [(20, 20)] rfl _ _ rfl rfl

end DungeonPortfolio.OwnCalls
