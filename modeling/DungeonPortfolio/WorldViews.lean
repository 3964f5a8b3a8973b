import DungeonPortfolio.Library.Mailbox
import DungeonPortfolio.Library.Wrapping
import DungeonPortfolio.WorldIndex

/-!
# Client views of the world

A client that keeps the set of players it has been told of, from the lines sent
to it alone. `Mirrors` says that this set is what the session should see. The
module computes what every call does to every view and from it the exact calls
after which the views still mirror the world.
-/

namespace DungeonPortfolio.WorldViews

open DungeonPortfolio.Text DungeonPortfolio.World DungeonPortfolio.WorldIndex
open Library.Execution Library.HashSet Library.Mailbox Library.Wrapping

set_option autoImplicit false

/-- Both axes within `view_radius_`. -/
def Sees (radius : Int32) (centre sector : SectorCoord) : Prop :=
  Near radius.toInt centre.x sector.x ∧ Near radius.toInt centre.y sector.y

/-- The loops of `watchers_around` visit `sector`. -/
def Visits (radius : Int32) (centre sector : SectorCoord) : Prop :=
  Reaches radius.toInt centre.x sector.x ∧ Reaches radius.toInt centre.y sector.y

instance (radius : Int32) (centre sector : SectorCoord) : Decidable (Sees radius centre sector) :=
  inferInstanceAs (Decidable (_ ∧ _))

theorem view_radius_nonneg (world : SectorWorld) : 0 ≤ world.viewRadius.toInt := by
  have nonneg := Int32.le_iff_toInt_le.mp world.viewRadiusNonneg
  rwa [Int32.toInt_zero] at nonneg

theorem visits_of_sees {radius : Int32} {centre sector : SectorCoord}
    (sees : Sees radius centre sector) : Visits radius centre sector := by
  have bound : radius.toInt ≤ 2147483647 := by
    have upper := radius.toInt_lt
    omega
  exact ⟨reaches_of_near bound sees.1, reaches_of_near bound sees.2⟩

theorem visits_self (world : SectorWorld) (centre : SectorCoord) :
    Visits world.viewRadius centre centre :=
  ⟨reaches_self (view_radius_nonneg world) _, reaches_self (view_radius_nonneg world) _⟩

theorem sees_comm {radius : Int32} {first second : SectorCoord} :
    Sees radius first second ↔ Sees radius second first :=
  and_congr near_comm near_comm

theorem mem_offsets (world : SectorWorld) (offset : Int32) :
    offset ∈ world.offsets ↔
      -world.viewRadius.toInt ≤ offset.toInt ∧ offset.toInt ≤ world.viewRadius.toInt := by
  have nonneg := view_radius_nonneg world
  have bound := world.viewRadius.toInt_lt
  simp only [SectorWorld.offsets, List.mem_map, List.mem_range]
  constructor
  · intro listed
    rcases listed with ⟨step, inside, same⟩
    have value : offset.toInt = (step : Int) - world.viewRadius.toInt := by
      rw [← same, Int32.toInt_ofInt_of_le] <;> omega
    omega
  · intro inside
    refine ⟨(offset.toInt + world.viewRadius.toInt).toNat, by omega, ?_⟩
    have restored : (((offset.toInt + world.viewRadius.toInt).toNat : Nat) : Int) -
        world.viewRadius.toInt = offset.toInt := by omega
    rw [restored, Int32.ofInt_toInt]

theorem mem_watchers (world : SectorWorld) (centre : SectorCoord) (ref : SessionRef) :
    ref ∈ world.watchersAround centre ↔
      ∃ sector, Visits world.viewRadius centre sector ∧ ref ∈ members world sector := by
  have row : ∀ (found : Finset SessionRef) (dy : Int32),
      ref ∈ world.offsets.foldl (fun watchers dx =>
        collect world.sectors watchers ⟨centre.x + dx, centre.y + dy⟩) found ↔
      ref ∈ found ∨ ∃ dx ∈ world.offsets, ref ∈ members world ⟨centre.x + dx, centre.y + dy⟩ := by
    intro found dy
    apply mem_foldl_of_grow
    intro found dx
    rw [mem_collect, mem_members]
  rw [SectorWorld.watchersAround, mem_foldl_of_grow _ ref _ row]
  simp only [Finset.notMem_empty, false_or]
  constructor
  · intro listed
    rcases listed with ⟨dy, dyListed, dx, dxListed, member⟩
    have dyBounds := (mem_offsets world dy).mp dyListed
    have dxBounds := (mem_offsets world dx).mp dxListed
    exact ⟨_, ⟨⟨dx, dxBounds.1, dxBounds.2, rfl⟩, ⟨dy, dyBounds.1, dyBounds.2, rfl⟩⟩, member⟩
  · intro visited
    rcases visited with ⟨sector, ⟨⟨dx, dxLower, dxUpper, sameX⟩, ⟨dy, dyLower, dyUpper, sameY⟩⟩,
      member⟩
    have sameSector : sector = ⟨centre.x + dx, centre.y + dy⟩ := by
      rw [← sameX, ← sameY]
    rw [sameSector] at member
    exact ⟨dy, (mem_offsets world dy).mpr ⟨dyLower, dyUpper⟩, dx,
      (mem_offsets world dx).mpr ⟨dxLower, dxUpper⟩, member⟩

/-- In an indexed world the watchers are the players whose sector is visited. -/
theorem mem_watchers_iff {world : SectorWorld} (indexed : Indexed world) (centre : SectorCoord)
    (ref : SessionRef) :
    ref ∈ world.watchersAround centre ↔
      ∃ player, world.players ref = some player ∧ Visits world.viewRadius centre player.sector := by
  rw [mem_watchers]
  constructor
  · intro listed
    rcases listed with ⟨sector, visits, member⟩
    obtain ⟨player, present, here⟩ := (indexed.listed ref sector).mp member
    rw [← here] at visits
    exact ⟨player, present, visits⟩
  · intro seen
    rcases seen with ⟨player, present, visits⟩
    exact ⟨player.sector, visits, (indexed.listed ref player.sector).mpr ⟨player, present, rfl⟩⟩

abbrev Views := SessionRef → Finset SessionRef

/-- The set a client keeps: cleared by its own `WORLD ENTERED`, extended by
`EVT ENTER` and `EVT SNAPSHOT`, reduced by `EVT DESPAWN`. -/
def known (view : Finset SessionRef) (event : WorldEvent) : Finset SessionRef :=
  match event.line with
  | .worldEntered _ => ∅
  | .evtEnter player => insert player.ref view
  | .evtSnapshot player => insert player.ref view
  | .evtDespawn player _ => view.erase player.ref
  | _ => view

def told (views : Views) (events : List WorldEvent) : Views :=
  observeAll WorldEvent.receiver known views events

theorem filter_addressed (order : IterationOrder SessionRef) (items : Finset SessionRef)
    (line : SessionRef → Option WorldLine) (who : SessionRef) :
    ((order.list items).filterMap fun receiver =>
        (line receiver).map fun text => (⟨receiver, text⟩ : WorldEvent)).filter
          (fun event => decide (event.receiver = who)) =
      if who ∈ items then ((line who).map fun text => (⟨who, text⟩ : WorldEvent)).toList else [] := by
  have pointwise : ∀ receiver : SessionRef,
      Option.filter (fun event => decide (event.receiver = who))
          ((line receiver).map fun text => (⟨receiver, text⟩ : WorldEvent)) =
        if decide (receiver = who) = true then
          (line receiver).map fun text => (⟨receiver, text⟩ : WorldEvent) else none := by
    intro receiver
    cases line receiver with
    | none => simp
    | some text => by_cases same : receiver = who <;> simp [same]
  rw [List.filter_filterMap, funext pointwise, ← List.filterMap_filter, order.filter_list]
  by_cases member : who ∈ items
  · rw [if_pos member, if_pos member]
    cases choice : line who with
    | none => simp [choice]
    | some text => simp [choice]
  · rw [if_neg member, if_neg member]
    rfl

theorem told_addressed (views : Views) (order : IterationOrder SessionRef)
    (items : Finset SessionRef) (line : SessionRef → Option WorldLine) (who : SessionRef) :
    told views ((order.list items).filterMap fun receiver =>
        (line receiver).map fun text => (⟨receiver, text⟩ : WorldEvent)) who =
      if who ∈ items then
        match line who with
        | none => views who
        | some text => known (views who) ⟨who, text⟩
      else views who := by
  rw [told, observe_all_apply, filter_addressed]
  by_cases member : who ∈ items
  · rw [if_pos member, if_pos member]
    cases line who with
    | none => rfl
    | some text => rfl
  · rw [if_neg member, if_neg member]
    rfl

theorem leave_events_addressed (order : IterationOrder SessionRef) (items : Finset SessionRef)
    (player : PlayerState) (ref : SessionRef) :
    ((order.list items).filter fun receiver => receiver ≠ ref).map
        (fun receiver => (⟨receiver, .evtDespawn player (ascii "leave")⟩ : WorldEvent)) =
      (order.list items).filterMap fun receiver =>
        (if receiver = ref then none else some (.evtDespawn player (ascii "leave"))).map
          fun text => (⟨receiver, text⟩ : WorldEvent) := by
  rw [← List.filterMap_eq_map, List.filterMap_filter]
  congr 1
  funext receiver
  by_cases same : receiver = ref <;> simp [same]

theorem leave_view (world : SectorWorld) (views : Views) (order : SectorWorld.CallOrder)
    (ref : SessionRef) (player : PlayerState) (present : world.players ref = some player)
    (own : player.ref = ref) (who : SessionRef) (other : who ≠ ref) :
    told views (world.leave order ref PlayerSnapshot.empty).2.1 who =
      if who ∈ world.watchersAround player.sector then (views who).erase ref else views who := by
  rw [leave_present order PlayerSnapshot.empty present, leave_events_addressed, told_addressed]
  simp only [if_neg other, known, own]

/-- The view of another session after `leave`, whether or not the player was there. -/
theorem leave_forgets {world : SectorWorld} (indexed : Indexed world) (views : Views)
    (order : SectorWorld.CallOrder) (ref who : SessionRef) (other : who ≠ ref)
    (seen : SessionRef) :
    seen ∈ told views (world.leave order ref PlayerSnapshot.empty).2.1 who ↔
      seen ∈ views who ∧ ¬(seen = ref ∧ ∃ player watcher, world.players ref = some player ∧
        world.players who = some watcher ∧ Visits world.viewRadius player.sector watcher.sector) := by
  cases lookup : world.players ref with
  | none =>
      rw [leave_absent order PlayerSnapshot.empty lookup]
      simp [told, observeAll]
  | some player =>
      rw [leave_view world views order ref player lookup (indexed.own ref player lookup).1 who
        other]
      have watching := mem_watchers_iff indexed player.sector who
      by_cases member : who ∈ world.watchersAround player.sector
      · rw [if_pos member, Finset.mem_erase]
        obtain ⟨watcher, present, visits⟩ := watching.mp member
        simp [present, visits, and_comm]
      · rw [if_neg member]
        have unseen : ¬∃ watcher, world.players who = some watcher ∧
            Visits world.viewRadius player.sector watcher.sector := fun seen => member (watching.mpr seen)
        simp [unseen]

theorem enter_announcements (order : IterationOrder SessionRef) (items : Finset SessionRef)
    (player : PlayerState) (ref : SessionRef) :
    (order.list items).map (fun receiver =>
        (⟨receiver, if receiver = ref then .worldEntered player else .evtEnter player⟩ :
          WorldEvent)) =
      (order.list items).filterMap fun receiver =>
        (some (if receiver = ref then WorldLine.worldEntered player else .evtEnter player)).map
          fun text => (⟨receiver, text⟩ : WorldEvent) := by
  rw [← List.filterMap_eq_map]
  rfl

def snapshotPlayers (order : IterationOrder SessionRef) (items : Finset SessionRef)
    (ref : SessionRef) (players : SessionRef → Option PlayerState) : List PlayerState :=
  ((order.list items).filter fun receiver => receiver ≠ ref).filterMap players

theorem enter_snapshots (order : IterationOrder SessionRef) (items : Finset SessionRef)
    (ref : SessionRef) (players : SessionRef → Option PlayerState) :
    (((order.list items).filter fun receiver => receiver ≠ ref).filterMap fun receiver =>
        (players receiver).map fun other => (⟨ref, .evtSnapshot other⟩ : WorldEvent)) =
      (snapshotPlayers order items ref players).map
        fun other => (⟨ref, .evtSnapshot other⟩ : WorldEvent) := by
  rw [snapshotPlayers, List.map_filterMap]

theorem mem_snapshot_players {order : IterationOrder SessionRef} {items : Finset SessionRef}
    {ref : SessionRef} {players : SessionRef → Option PlayerState} {player : PlayerState} :
    player ∈ snapshotPlayers order items ref players ↔
      ∃ other, other ∈ items ∧ other ≠ ref ∧ players other = some player := by
  simp only [snapshotPlayers, List.mem_filterMap, List.mem_filter, order.mem_list,
    decide_eq_true_eq, ne_eq, and_assoc]

theorem told_snapshots_other (views : Views) (ref who : SessionRef) (other : who ≠ ref)
    (players : List PlayerState) :
    told views (players.map fun player => (⟨ref, .evtSnapshot player⟩ : WorldEvent)) who =
      views who := by
  have unaddressed : (players.map fun player => (⟨ref, .evtSnapshot player⟩ : WorldEvent)).filter
      (fun event => decide (event.receiver = who)) = [] := by
    rw [List.filter_eq_nil_iff]
    intro event member
    obtain ⟨player, _, rfl⟩ := List.mem_map.mp member
    simpa using Ne.symm other
  rw [told, observe_all_apply, unaddressed]
  rfl

theorem told_snapshots_self (views : Views) (ref : SessionRef) (players : List PlayerState)
    (seen : SessionRef) :
    seen ∈ told views (players.map fun player => (⟨ref, .evtSnapshot player⟩ : WorldEvent)) ref ↔
      seen ∈ views ref ∨ ∃ player ∈ players, player.ref = seen := by
  have addressed : (players.map fun player => (⟨ref, .evtSnapshot player⟩ : WorldEvent)).filter
      (fun event => decide (event.receiver = ref)) =
        players.map fun player => (⟨ref, .evtSnapshot player⟩ : WorldEvent) := by
    rw [List.filter_eq_self]
    intro event member
    obtain ⟨player, _, rfl⟩ := List.mem_map.mp member
    simp
  rw [told, observe_all_apply, addressed, List.foldl_map]
  apply mem_foldl_of_grow
  intro found player
  rw [known, Finset.mem_insert, or_comm, eq_comm]

theorem enter_events (world : SectorWorld) (order : SectorWorld.CallOrder) (ref : SessionRef)
    (account character : Bytes) (x y : Int32) :
    (world.enter order ref account character x y).2 =
      (world.leave order ref PlayerSnapshot.empty).2.1 ++
        ((order 1).list ((world.enter order ref account character x y).1.watchersAround
          (world.sectorFor x y))).map (fun receiver =>
            (⟨receiver, if receiver = ref
              then .worldEntered (newcomer world ref account character x y)
              else .evtEnter (newcomer world ref account character x y)⟩ : WorldEvent)) ++
        (((order 1).list ((world.enter order ref account character x y).1.watchersAround
          (world.sectorFor x y))).filter fun receiver => receiver ≠ ref).filterMap
            fun receiver => ((world.enter order ref account character x y).1.players receiver).map
              fun other => (⟨ref, .evtSnapshot other⟩ : WorldEvent) := by
  have sameSector := sector_for_config world (world.leave order ref PlayerSnapshot.empty).1 x y
    (leave_size world order ref PlayerSnapshot.empty)
  simp only [SectorWorld.enter, newcomer, sameSector]

@[simp] theorem enter_radius (world : SectorWorld) (order : SectorWorld.CallOrder)
    (ref : SessionRef) (account character : Bytes) (x y : Int32) :
    (world.enter order ref account character x y).1.viewRadius = world.viewRadius := by
  rw [enter_world, insert_radius, set_player_radius, leave_radius]

theorem enter_watchers {world : SectorWorld} (indexed : Indexed world)
    (order : SectorWorld.CallOrder) (ref : SessionRef) (account character : Bytes)
    (x y : Int32) (who : SessionRef) (other : who ≠ ref) :
    who ∈ (world.enter order ref account character x y).1.watchersAround (world.sectorFor x y) ↔
      ∃ watcher, world.players who = some watcher ∧
        Visits world.viewRadius (world.sectorFor x y) watcher.sector := by
  rw [mem_watchers_iff (indexed_enter indexed order ref account character x y), enter_players,
    Function.update_of_ne other, enter_radius]

theorem enter_watches_self {world : SectorWorld} (indexed : Indexed world)
    (order : SectorWorld.CallOrder) (ref : SessionRef) (account character : Bytes)
    (x y : Int32) :
    ref ∈ (world.enter order ref account character x y).1.watchersAround
      (world.sectorFor x y) := by
  rw [mem_watchers_iff (indexed_enter indexed order ref account character x y), enter_players,
    Function.update_self, enter_radius]
  exact ⟨_, rfl, visits_self world _⟩

theorem enter_view_other {world : SectorWorld} (indexed : Indexed world) (views : Views)
    (order : SectorWorld.CallOrder) (ref : SessionRef) (account character : Bytes)
    (x y : Int32) (who : SessionRef) (other : who ≠ ref) (seen : SessionRef) :
    seen ∈ told views (world.enter order ref account character x y).2 who ↔
      (seen ∈ views who ∧ ¬(seen = ref ∧ ∃ player watcher, world.players ref = some player ∧
        world.players who = some watcher ∧
        Visits world.viewRadius player.sector watcher.sector)) ∨
      (seen = ref ∧ ∃ watcher, world.players who = some watcher ∧
        Visits world.viewRadius (world.sectorFor x y) watcher.sector) := by
  have forgets := leave_forgets indexed views order ref who other seen
  have watching := enter_watchers indexed order ref account character x y who other
  rw [enter_events, told, observe_all_append, observe_all_append, enter_snapshots]
  change seen ∈ told (told (told views _) _) _ who ↔ _
  rw [told_snapshots_other _ ref who other, enter_announcements, told_addressed]
  rw [← forgets, ← watching]
  by_cases member : who ∈ (world.enter order ref account character x y).1.watchersAround
      (world.sectorFor x y)
  · rw [if_pos member]
    simp only [if_neg other, known, newcomer, Finset.mem_insert, member, and_true, or_comm]
  · rw [if_neg member]
    simp only [member, and_false, or_false]

theorem enter_view_self {world : SectorWorld} (indexed : Indexed world) (views : Views)
    (order : SectorWorld.CallOrder) (ref : SessionRef) (account character : Bytes)
    (x y : Int32) (seen : SessionRef) :
    seen ∈ told views (world.enter order ref account character x y).2 ref ↔
      seen ≠ ref ∧ ∃ watcher, world.players seen = some watcher ∧
        Visits world.viewRadius (world.sectorFor x y) watcher.sector := by
  have after := indexed_enter indexed order ref account character x y
  rw [enter_events, told, observe_all_append, observe_all_append, enter_snapshots]
  change seen ∈ told (told (told views _) _) _ ref ↔ _
  rw [told_snapshots_self, enter_announcements, told_addressed,
    if_pos (enter_watches_self indexed order ref account character x y)]
  simp only [if_true, known, Finset.notMem_empty, false_or, mem_snapshot_players]
  constructor
  · intro snapshot
    rcases snapshot with ⟨player, ⟨other, watching, different, present⟩, same⟩
    have own := (after.own other player present).1
    have sameRef : other = seen := own.symm.trans same
    rw [sameRef] at watching different
    exact ⟨different,
      (enter_watchers indexed order ref account character x y seen different).mp watching⟩
  · intro visible
    rcases visible with ⟨different, watcher, present, visits⟩
    have listed := (enter_watchers indexed order ref account character x y seen different).mpr
      ⟨watcher, present, visits⟩
    have kept : (world.enter order ref account character x y).1.players seen = some watcher := by
      rw [enter_players, Function.update_of_ne different, present]
    exact ⟨watcher, ⟨seen, listed, different, kept⟩, (indexed.own seen watcher present).1⟩

@[simp] theorem move_radius (world : SectorWorld) (order : SectorWorld.CallOrder)
    (ref : SessionRef) (x y : Int32) :
    (world.move order ref x y).1.viewRadius = world.viewRadius := by
  cases lookup : world.players ref with
  | none => rw [move_absent order x y lookup]
  | some old =>
      by_cases same : old.sector = world.sectorFor x y
      · rw [move_same_sector order x y lookup same, set_player_radius]
      · rw [move_other_sector order x y lookup same, insert_radius, set_player_radius,
          erase_radius]

theorem move_events {world : SectorWorld} {ref : SessionRef} {old : PlayerState}
    (order : SectorWorld.CallOrder) (x y : Int32) (present : world.players ref = some old) :
    (world.move order ref x y).2 =
      ((order 0).list (world.watchersAround old.sector ∪
        (world.move order ref x y).1.watchersAround (world.sectorFor x y))).filterMap
          fun receiver => (SectorWorld.moveLine (relocated world old x y) ref
            (world.watchersAround old.sector)
            ((world.move order ref x y).1.watchersAround (world.sectorFor x y)) receiver).map
              fun line => (⟨receiver, line⟩ : WorldEvent) := by
  simp only [SectorWorld.move, present, relocated]

theorem move_watchers {world : SectorWorld} (indexed : Indexed world) {ref : SessionRef}
    {old : PlayerState} (order : SectorWorld.CallOrder) (x y : Int32)
    (present : world.players ref = some old) (who : SessionRef) (other : who ≠ ref) :
    who ∈ (world.move order ref x y).1.watchersAround (world.sectorFor x y) ↔
      ∃ watcher, world.players who = some watcher ∧
        Visits world.viewRadius (world.sectorFor x y) watcher.sector := by
  rw [mem_watchers_iff (indexed_move indexed order ref x y), move_players order x y present,
    Function.update_of_ne other, move_radius]

theorem move_view_self {world : SectorWorld} (views : Views) {ref : SessionRef}
    {old : PlayerState} (order : SectorWorld.CallOrder) (x y : Int32)
    (present : world.players ref = some old) :
    told views (world.move order ref x y).2 ref = views ref := by
  rw [move_events order x y present, told_addressed]
  simp only [SectorWorld.moveLine, if_true, known, ite_self]

/-- What a move tells another player: it enters the view when it comes into the
visited cells and leaves it when it goes out of them. -/
theorem move_view_other {world : SectorWorld} (indexed : Indexed world) (views : Views)
    {ref : SessionRef} {old : PlayerState} (order : SectorWorld.CallOrder) (x y : Int32)
    (present : world.players ref = some old) {who : SessionRef} {watcher : PlayerState}
    (other : who ≠ ref) (watching : world.players who = some watcher) (seen : SessionRef) :
    seen ∈ told views (world.move order ref x y).2 who ↔
      (seen ≠ ref ∧ seen ∈ views who) ∨
      (seen = ref ∧
        ((Visits world.viewRadius (world.sectorFor x y) watcher.sector ∧
          (ref ∈ views who ∨ ¬Visits world.viewRadius old.sector watcher.sector)) ∨
        (¬Visits world.viewRadius (world.sectorFor x y) watcher.sector ∧
          ref ∈ views who ∧ ¬Visits world.viewRadius old.sector watcher.sector))) := by
  have own := (indexed.own ref old present).1
  have was : who ∈ world.watchersAround old.sector ↔
      Visits world.viewRadius old.sector watcher.sector := by
    rw [mem_watchers_iff indexed, watching]
    simp
  have willBe : who ∈ (world.move order ref x y).1.watchersAround (world.sectorFor x y) ↔
      Visits world.viewRadius (world.sectorFor x y) watcher.sector := by
    rw [move_watchers indexed order x y present who other, watching]
    simp
  rw [move_events order x y present, told_addressed, ← was, ← willBe]
  by_cases wasVisible : who ∈ world.watchersAround old.sector <;>
    by_cases isVisible : who ∈ (world.move order ref x y).1.watchersAround (world.sectorFor x y) <;>
    by_cases self : seen = ref <;>
    simp [SectorWorld.moveLine, other, known, relocated, own, wasVisible, isVisible, self]

/-- Every in-world session knows exactly the others it should see. -/
def Mirrors (world : SectorWorld) (views : Views) : Prop :=
  ∀ ref player, world.players ref = some player → ∀ seen, seen ∈ views ref ↔
    seen ≠ ref ∧ ∃ other, world.players seen = some other ∧
      Sees world.viewRadius player.sector other.sector

/-- The calls that keep the views right. An `enter` must not visit, across the end
of the 32-bit range, a player that is out of sight; a `move` must also leave the
set of players in sight of the mover as it is. -/
def KeepsViews (world : SectorWorld) : WorldCall → Prop
  | .enter ref _ _ x y => ∀ who other, who ≠ ref → world.players who = some other →
      Visits world.viewRadius (world.sectorFor x y) other.sector →
        Sees world.viewRadius (world.sectorFor x y) other.sector
  | .move ref x y => ∀ old, world.players ref = some old →
      ∀ who other, who ≠ ref → world.players who = some other →
        (Sees world.viewRadius old.sector other.sector ↔
          Sees world.viewRadius (world.sectorFor x y) other.sector) ∧
        (Visits world.viewRadius (world.sectorFor x y) other.sector →
          Visits world.viewRadius old.sector other.sector)
  | .attack _ _ _ => True
  | .leave _ => True

theorem mirrors_leave {world : SectorWorld} {views : Views} (indexed : Indexed world)
    (mirrors : Mirrors world views) (order : SectorWorld.CallOrder) (ref : SessionRef) :
    Mirrors (world.leave order ref PlayerSnapshot.empty).1
      (told views (world.leave order ref PlayerSnapshot.empty).2.1) := by
  intro who watcher present seen
  rw [leave_players] at present
  have other : who ≠ ref := by
    intro same
    rw [same, Function.update_self] at present
    cases present
  rw [Function.update_of_ne other] at present
  rw [leave_forgets indexed views order ref who other seen, mirrors who watcher present seen,
    leave_players, leave_radius]
  by_cases self : seen = ref
  · subst seen
    rw [Function.update_self]
    simp only [reduceCtorEq, false_and, exists_false, and_false, true_and, iff_false, not_and,
      not_not]
    intro visible
    obtain ⟨_, player, lookup, sees⟩ := visible
    exact ⟨player, watcher, lookup, present, visits_of_sees (sees_comm.mp sees)⟩
  · rw [Function.update_of_ne self]
    simp [self]

theorem mirrors_enter_iff {world : SectorWorld} {views : Views} (indexed : Indexed world)
    (mirrors : Mirrors world views) (order : SectorWorld.CallOrder) (ref : SessionRef)
    (account character : Bytes) (x y : Int32) :
    Mirrors (world.enter order ref account character x y).1
        (told views (world.enter order ref account character x y).2) ↔
      KeepsViews world (.enter ref account character x y) := by
  constructor
  · intro after who other different present visits
    have own := after ref (newcomer world ref account character x y)
      (by rw [enter_players, Function.update_self]) who
    rw [enter_view_self indexed, enter_players, Function.update_of_ne different,
      enter_radius] at own
    obtain ⟨_, seen, lookup, sees⟩ := own.mp ⟨different, other, present, visits⟩
    rw [present] at lookup
    rw [Option.some.inj lookup]
    exact sees
  · intro keeps who player present seen
    rw [enter_players] at present ⊢
    rw [enter_radius]
    by_cases self : who = ref
    · subst who
      rw [Function.update_self] at present
      rw [enter_view_self indexed, ← Option.some.inj present]
      apply and_congr_right
      intro different
      rw [Function.update_of_ne different]
      constructor
      · intro visible
        obtain ⟨watcher, lookup, visits⟩ := visible
        exact ⟨watcher, lookup, keeps seen watcher different lookup visits⟩
      · intro visible
        obtain ⟨watcher, lookup, sees⟩ := visible
        exact ⟨watcher, lookup, visits_of_sees sees⟩
    · rw [Function.update_of_ne self] at present
      rw [enter_view_other indexed views order ref account character x y who self seen,
        mirrors who player present seen]
      by_cases actor : seen = ref
      · subst seen
        rw [Function.update_self]
        have forgotten : (∃ old, world.players ref = some old ∧
            Sees world.viewRadius player.sector old.sector) → ∃ old watcher,
              world.players ref = some old ∧ world.players who = some watcher ∧
                Visits world.viewRadius old.sector watcher.sector := by
          intro visible
          obtain ⟨old, lookup, sees⟩ := visible
          exact ⟨old, player, lookup, present, visits_of_sees (sees_comm.mp sees)⟩
        constructor
        · intro told
          rcases told with before | entered
          · exact absurd ⟨rfl, forgotten before.1.2⟩ before.2
          · obtain ⟨_, watcher, lookup, visits⟩ := entered
            rw [present] at lookup
            obtain rfl := Option.some.inj lookup
            have sees := keeps who player self present visits
            exact ⟨Ne.symm self, _, rfl, sees_comm.mp sees⟩
        · intro visible
          obtain ⟨_, other, same, sees⟩ := visible
          obtain rfl := Option.some.inj same
          exact Or.inr ⟨rfl, player, present, visits_of_sees (sees_comm.mp sees)⟩
      · rw [Function.update_of_ne actor]
        simp [actor]

theorem mirrors_move_iff {world : SectorWorld} {views : Views} (indexed : Indexed world)
    (mirrors : Mirrors world views) (order : SectorWorld.CallOrder) (ref : SessionRef)
    (x y : Int32) :
    Mirrors (world.move order ref x y).1 (told views (world.move order ref x y).2) ↔
      KeepsViews world (.move ref x y) := by
  cases lookup : world.players ref with
  | none =>
      rw [move_absent order x y lookup]
      have unaffected : told views [⟨ref, .errNotInWorld⟩] = views := by
        simp [told, observeAll, observe, known]
      rw [unaffected]
      apply iff_of_true mirrors
      intro old present
      rw [lookup] at present
      cases present
  | some old =>
      have moverSees : ∀ seen, seen ∈ views ref ↔ _ := mirrors ref old lookup
      constructor
      · intro after old' present who other different watching
        obtain rfl : old = old' := Option.some.inj (lookup.symm.trans present)
        -- The mover's own view did not change, so what it should see did not either.
        have own := after ref (relocated world old x y)
          (by rw [move_players order x y lookup, Function.update_self]) who
        rw [move_view_self views order x y lookup, moverSees, move_players order x y lookup,
          Function.update_of_ne different, move_radius, watching] at own
        simp only [ne_eq, different, not_false_eq_true, Option.some.injEq, exists_eq_left',
          true_and, relocated] at own
        refine ⟨own, ?_⟩
        intro visits
        by_contra hidden
        have theirs := after who other
          (by rw [move_players order x y lookup, Function.update_of_ne different, watching]) ref
        rw [move_view_other indexed views order x y lookup different watching,
          move_players order x y lookup, Function.update_self, move_radius] at theirs
        obtain ⟨_, seen, same, sees⟩ := theirs.mp
          (Or.inr ⟨rfl, Or.inl ⟨visits, Or.inr hidden⟩⟩)
        rw [← Option.some.inj same] at sees
        exact hidden (visits_of_sees (own.mpr (sees_comm.mp sees)))
      · intro keeps who player present seen
        have steady := keeps old lookup
        rw [move_players order x y lookup] at present ⊢
        rw [move_radius]
        by_cases self : who = ref
        · subst who
          rw [Function.update_self] at present
          rw [move_view_self views order x y lookup, moverSees, ← Option.some.inj present]
          apply and_congr_right
          intro different
          rw [Function.update_of_ne different]
          apply exists_congr
          intro other
          apply and_congr_right
          intro watching
          exact (steady seen other different watching).1
        · rw [Function.update_of_ne self] at present
          obtain ⟨sameSight, noSurprise⟩ := steady who player self present
          rw [move_view_other indexed views order x y lookup self present,
            mirrors who player present, mirrors who player present]
          by_cases actor : seen = ref
          · subst seen
            have back : Sees world.viewRadius player.sector old.sector ↔
                Sees world.viewRadius player.sector (world.sectorFor x y) := by
              rw [sees_comm, sameSight, sees_comm]
            have visited : Sees world.viewRadius player.sector old.sector →
                Visits world.viewRadius (world.sectorFor x y) player.sector := fun sees =>
              visits_of_sees (sameSight.mp (sees_comm.mp sees))
            rw [Function.update_self, lookup]
            simp only [ne_eq, Ne.symm self, not_false_eq_true, Option.some.injEq, exists_eq_left',
              true_and, relocated, ← back, not_true_eq_false, false_and, false_or]
            constructor
            · intro told
              rcases told with entered | kept
              · rcases entered.2 with sees | hidden
                · exact sees
                · exact absurd (noSurprise entered.1) hidden
              · exact kept.2.1
            · intro sees
              exact Or.inl ⟨visited sees, Or.inl sees⟩
          · rw [Function.update_of_ne actor]
            simp [actor]

theorem attack_views {world : SectorWorld} (views : Views) (order : SectorWorld.CallOrder)
    (ref : SessionRef) (skill target : Bytes) :
    told views (world.attack order ref skill target) = views := by
  have silent : ∀ event ∈ world.attack order ref skill target, ∀ view, known view event = view := by
    intro event member view
    unfold SectorWorld.attack at member
    split at member
    · obtain rfl := List.mem_singleton.mp member
      rfl
    · obtain ⟨receiver, _, rfl⟩ := List.mem_map.mp member
      by_cases self : receiver = ref <;> simp [known, self]
  generalize world.attack order ref skill target = events at silent
  induction events with
  | nil => rfl
  | cons event events ih =>
      have head : observe WorldEvent.receiver known views event = views := by
        rw [observe, silent event List.mem_cons_self, Function.update_eq_self]
      rw [told, observeAll, List.foldl_cons, head]
      exact ih fun later member => silent later (List.mem_cons_of_mem _ member)

/-- Out of a state in which all views mirror the world, a call keeps them so
exactly when it is one of `KeepsViews`. -/
theorem mirrors_call_iff {world : SectorWorld} {views : Views} (indexed : Indexed world)
    (mirrors : Mirrors world views) (order : SectorWorld.CallOrder) (call : WorldCall) :
    Mirrors (world.call order call).1 (told views (world.call order call).2) ↔
      KeepsViews world call := by
  cases call with
  | enter ref account character x y =>
      exact mirrors_enter_iff indexed mirrors order ref account character x y
  | move ref x y => exact mirrors_move_iff indexed mirrors order ref x y
  | attack ref skill target =>
      apply iff_of_true _ trivial
      change Mirrors world (told views (world.attack order ref skill target))
      rw [attack_views]
      exact mirrors
  | leave ref => exact iff_of_true (mirrors_leave indexed mirrors order ref) trivial

theorem found_after_enter {world : SectorWorld} {order : SectorWorld.CallOrder}
    {ref who : SessionRef} {account character : Bytes} {x y : Int32} {other : PlayerState}
    (present : (world.enter order ref account character x y).1.players who = some other) :
    who = ref ∧ other = newcomer world ref account character x y ∨
      world.players who = some other := by
  rw [enter_players] at present
  by_cases self : who = ref
  · rw [self, Function.update_self] at present
    exact Or.inl ⟨self, (Option.some.inj present).symm⟩
  · rw [Function.update_of_ne self] at present
    exact Or.inr present

structure Observed where
  world : SectorWorld
  views : Views

def Observed.Faithful (state : Observed) : Prop := Mirrors state.world state.views

def observedStep (state : Observed) (label : SectorWorld.CallOrder × WorldCall) :
    Option Observed :=
  some ⟨(state.world.call label.1 label.2).1, told state.views (state.world.call label.1 label.2).2⟩

theorem observed_indexed {world : SectorWorld} (indexed : Indexed world) {views : Views}
    {state : Observed} (reachable : Reachable observedStep ⟨world, views⟩ state) :
    Indexed state.world := by
  apply reachable.invariant indexed
  intro source label next before taken
  obtain rfl := Option.some.inj taken
  exact indexed_call before label.1 label.2

/-- Over any run from the empty world the views mirror the world after every call
exactly when every call of the run is one that keeps them. -/
theorem views_mirror_exactly {sectorSize viewRadius : Int32} {initial : SectorWorld}
    (made : SectorWorld.make sectorSize viewRadius = .ok initial)
    (calls : List (SectorWorld.CallOrder × WorldCall)) :
    EveryStep observedStep (fun _ _ target => target.Faithful)
        ⟨initial, fun _ => ∅⟩ calls ↔
      EveryStep observedStep (fun source label _ => KeepsViews source.world label.2)
        ⟨initial, fun _ => ∅⟩ calls := by
  have empty := make_empty made
  have indexed := indexed_of_empty empty.1 empty.2.1
  have start : Observed.Faithful ⟨initial, fun _ => ∅⟩ := by
    intro ref player present
    rw [empty.1] at present
    cases present
  apply every_step_exact start
  intro source label target reached mirrors taken
  obtain rfl := Option.some.inj taken
  exact mirrors_call_iff (observed_indexed indexed reached) mirrors label.1 label.2

/-- A world in which one player waits at the origin. -/
def awaited : SectorWorld :=
  (SectorWorld.default.enter (fun _ => .ascending) ⟨5, 1⟩ (ascii "a") (ascii "waiter") 0 0).1

/-- A second player enters in view of the first and steps into its sector. -/
def standTogether : List (SectorWorld.CallOrder × WorldCall) :=
  [(fun _ => .ascending, .enter ⟨5, 1⟩ (ascii "a") (ascii "waiter") 0 0),
    (fun _ => .ascending, .enter ⟨6, 2⟩ (ascii "b") (ascii "walker") 110 0),
    (fun _ => .ascending, .move ⟨6, 2⟩ 90 0)]

theorem awaited_player {who : SessionRef} {other : PlayerState}
    (present : awaited.players who = some other) :
    other = newcomer SectorWorld.default ⟨5, 1⟩ (ascii "a") (ascii "waiter") 0 0 := by
  rcases found_after_enter present with ⟨_, same⟩ | nobody
  · exact same
  · cases nobody

theorem stand_together_keeps_views :
    EveryStep observedStep (fun source label _ => KeepsViews source.world label.2)
      ⟨SectorWorld.default, fun _ => ∅⟩ standTogether := by
  have second : KeepsViews awaited (.enter ⟨6, 2⟩ (ascii "b") (ascii "walker") 110 0) := by
    intro who other _ present _
    obtain rfl := awaited_player present
    decide
  have third : KeepsViews (awaited.enter (fun _ => .ascending) ⟨6, 2⟩ (ascii "b") (ascii "walker")
      110 0).1 (.move ⟨6, 2⟩ 90 0) := by
    intro old own who other different present
    obtain rfl := Option.some.inj own
    rcases found_after_enter present with ⟨self, _⟩ | earlier
    · exact absurd self different
    · obtain rfl := awaited_player earlier
      exact ⟨by decide, fun _ => visits_of_sees (by decide)⟩
  intro before label after source target split earlier _
  rcases before with _ | ⟨_, _ | ⟨_, _ | ⟨_, rest⟩⟩⟩
  · obtain ⟨rfl, _⟩ := List.cons.inj split
    obtain rfl := Option.some.inj earlier
    intro who other _ present
    cases present
  · obtain ⟨rfl, tail⟩ := List.cons.inj split
    obtain ⟨rfl, _⟩ := List.cons.inj tail
    obtain rfl := Option.some.inj earlier
    exact second
  · obtain ⟨rfl, tail⟩ := List.cons.inj split
    obtain ⟨rfl, last⟩ := List.cons.inj tail
    obtain ⟨rfl, _⟩ := List.cons.inj last
    obtain rfl := Option.some.inj earlier
    exact third
  · have lengths := congrArg List.length split
    simp [standTogether] at lengths

theorem views_mirror_exactly_together :
    EveryStep observedStep (fun _ _ target => target.Faithful)
        ⟨SectorWorld.default, fun _ => ∅⟩ standTogether ∧
      (run observedStep ⟨SectorWorld.default, fun _ => ∅⟩ standTogether).map
          (fun state => (state.views ⟨5, 1⟩, state.views ⟨6, 2⟩)) =
        some ({⟨6, 2⟩}, {⟨5, 1⟩}) := by
  have made : SectorWorld.make 100 1 = .ok SectorWorld.default := by rfl
  constructor
  · exact (views_mirror_exactly made standTogether).mpr stand_together_keeps_views
  · rfl

/-- One player waits at the origin, another walks up to it. -/
def walkUp : List (SectorWorld.CallOrder × WorldCall) :=
  [(fun _ => .ascending, .enter ⟨5, 1⟩ (ascii "a") (ascii "waiter") 0 0),
    (fun _ => .ascending, .enter ⟨6, 2⟩ (ascii "b") (ascii "walker") 1000 1000),
    (fun _ => .ascending, .move ⟨6, 2⟩ 10 10)]

/-- The walker comes to stand next to the waiter and is not told of it. -/
theorem walker_is_not_told_of_waiter :
    ¬EveryStep observedStep (fun _ _ target => target.Faithful)
      ⟨SectorWorld.default, fun _ => ∅⟩ walkUp := by
  intro every
  have mirrors := every (walkUp.take 2) (fun _ => .ascending, .move ⟨6, 2⟩ 10 10) [] _ _ rfl rfl rfl
  have should := (mirrors ⟨6, 2⟩ _ rfl ⟨5, 1⟩).mpr ⟨by decide, _, rfl, by decide⟩
  exact absurd should (by decide)

end DungeonPortfolio.WorldViews
