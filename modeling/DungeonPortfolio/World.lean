import DungeonPortfolio.Library.HashSet
import DungeonPortfolio.Text
import Mathlib.Data.Prod.Lex
import Mathlib.Order.Lattice.Nat

/-!
# The sector world

`SectorWorld` of `src/world.cpp`. The two hash maps are functions to `Option`:
the code looks keys up, inserts and erases, and never iterates over them. The
hash sets are finite sets, iterated in an arbitrary order that every call takes
as a parameter. `int` is `Int32`; where C++ leaves signed overflow undefined the
arithmetic wraps, which is one of the outcomes that a compiler may choose.
-/

namespace DungeonPortfolio.World

open DungeonPortfolio.Text
open Library.HashSet

set_option autoImplicit false

structure SessionRef where
  fd : Int
  generation : Nat
  deriving DecidableEq, Repr

/-- One order of session references, for runs on concrete inputs. -/
instance : LinearOrder SessionRef :=
  LinearOrder.lift' (fun ref => toLex (ref.fd, ref.generation)) (by
    rintro ⟨fd, generation⟩ ⟨otherFd, otherGeneration⟩ same
    have parts := toLex.injective same
    simp only [Prod.mk.injEq] at parts
    rw [parts.1, parts.2])

structure SectorCoord where
  x : Int32
  y : Int32
  deriving DecidableEq, Repr

structure PlayerState where
  ref : SessionRef
  account : Bytes
  character : Bytes
  x : Int32
  y : Int32
  sector : SectorCoord
  deriving DecidableEq, Repr

structure PlayerSnapshot where
  account : Bytes
  character : Bytes
  x : Int32
  y : Int32
  deriving DecidableEq, Repr

def PlayerSnapshot.empty : PlayerSnapshot := ⟨[], [], 0, 0⟩

/-- The lines the world sends, each with the player it is about. -/
inductive WorldLine where
  | worldEntered (player : PlayerState)
  | evtEnter (player : PlayerState)
  | evtSnapshot (player : PlayerState)
  | worldMoved (player : PlayerState)
  | evtMove (player : PlayerState)
  | evtDespawn (player : PlayerState) (reason : Bytes)
  | worldAttack (skill target : Bytes)
  | evtAttack (player : PlayerState) (skill target : Bytes)
  | errNotInWorld
  deriving DecidableEq, Repr

structure WorldEvent where
  receiver : SessionRef
  line : WorldLine
  deriving DecidableEq, Repr

def sectorString (sector : SectorCoord) : Bytes :=
  printInt sector.x ++ ascii "," ++ printInt sector.y

def positionText (player : PlayerState) : Bytes :=
  ascii " x=" ++ printInt player.x ++ ascii " y=" ++ printInt player.y ++ ascii " sector=" ++
    sectorString player.sector

def WorldLine.text : WorldLine → Bytes
  | .worldEntered player => ascii "WORLD ENTERED " ++ player.character ++ positionText player
  | .evtEnter player => ascii "EVT ENTER " ++ player.character ++ ascii " account=" ++
      player.account ++ positionText player
  | .evtSnapshot player => ascii "EVT SNAPSHOT " ++ player.character ++ ascii " account=" ++
      player.account ++ positionText player
  | .worldMoved player => ascii "WORLD MOVED " ++ player.character ++ positionText player
  | .evtMove player => ascii "EVT MOVE " ++ player.character ++ positionText player
  | .evtDespawn player reason => ascii "EVT DESPAWN " ++ player.character ++ ascii " reason=" ++
      reason ++ ascii " sector=" ++ sectorString player.sector
  | .worldAttack skill target => ascii "WORLD ATTACK skill=" ++ skill ++ ascii " target=" ++ target
  | .evtAttack player skill target => ascii "EVT ATTACK attacker=" ++ player.character ++
      ascii " skill=" ++ skill ++ ascii " target=" ++ target ++ ascii " x=" ++ printInt player.x ++
      ascii " y=" ++ printInt player.y
  | .errNotInWorld => ascii "ERR not in world; use ENTER first"

/-- `floor_div` past its check of the divisor. -/
def floorQuotient (value divisor : Int32) : Int32 :=
  if value ≥ 0 then value / divisor else -((-value + divisor - 1) / divisor)

def floorDiv (value divisor : Int32) : Except StdException Int32 :=
  if divisor ≤ 0 then .error (.runtimeError (ascii "sector size must be positive"))
  else .ok (floorQuotient value divisor)

/-- The two checks of the constructor are carried by the type. -/
structure SectorWorld where
  sectorSize : Int32
  viewRadius : Int32
  sectorSizePositive : 0 < sectorSize
  viewRadiusNonneg : 0 ≤ viewRadius
  players : SessionRef → Option PlayerState
  sectors : SectorCoord → Option (Finset SessionRef)

namespace SectorWorld

def make (sectorSize viewRadius : Int32) : Except StdException SectorWorld :=
  if sizePositive : 0 < sectorSize then
    if radiusNonneg : 0 ≤ viewRadius then
      .ok { sectorSize, viewRadius
            sectorSizePositive := sizePositive
            viewRadiusNonneg := radiusNonneg
            players := fun _ => none
            sectors := fun _ => none }
    else .error (.runtimeError (ascii "view radius must be non-negative"))
  else .error (.runtimeError (ascii "sector size must be positive"))

/-- The default arguments of the constructor: sector size 100, view radius 1. -/
def default : SectorWorld where
  sectorSize := 100
  viewRadius := 1
  sectorSizePositive := by decide
  viewRadiusNonneg := by decide
  players := fun _ => none
  sectors := fun _ => none

/-- A world never throws here: its sectors have a positive size. -/
theorem floor_div_of_world (world : SectorWorld) (value : Int32) :
    floorDiv value world.sectorSize = .ok (floorQuotient value world.sectorSize) := by
  have positive : ¬ world.sectorSize ≤ 0 := Int32.not_le.mpr world.sectorSizePositive
  rw [floorDiv, if_neg positive]

def sectorFor (world : SectorWorld) (x y : Int32) : SectorCoord :=
  ⟨floorQuotient x world.sectorSize, floorQuotient y world.sectorSize⟩

/-- The values of a loop counter that runs from `-view_radius_` to `view_radius_`.
At the largest `int` the increment overflows and the loop does not end; runs on
such a world are more than the code has. -/
def offsets (world : SectorWorld) : List Int32 :=
  (List.range (2 * world.viewRadius.toInt.toNat + 1)).map fun (step : Nat) =>
    Int32.ofInt ((step : Int) - world.viewRadius.toInt)

def watchersAround (world : SectorWorld) (sector : SectorCoord) : Finset SessionRef :=
  world.offsets.foldl (fun watchers dy =>
    world.offsets.foldl (fun watchers dx =>
      collect world.sectors watchers ⟨sector.x + dx, sector.y + dy⟩) watchers) ∅

def insertIntoSector (world : SectorWorld) (player : PlayerState) : SectorWorld :=
  { world with
    sectors := Function.update world.sectors player.sector
      (some (insert player.ref ((world.sectors player.sector).getD ∅))) }

def eraseFromSector (world : SectorWorld) (ref : SessionRef) (sector : SectorCoord) :
    SectorWorld :=
  match world.sectors sector with
  | none => world
  | some refs =>
      let rest := refs.erase ref
      { world with
        sectors := Function.update world.sectors sector (if rest = ∅ then none else some rest) }

def setPlayer (world : SectorWorld) (ref : SessionRef) (player : Option PlayerState) :
    SectorWorld :=
  { world with players := Function.update world.players ref player }

/-- The iteration orders of the sets one call builds, in the order it builds them. -/
abbrev CallOrder := Nat → IterationOrder SessionRef

/-- `leave`; the snapshot is written only when the player is found. -/
def leave (world : SectorWorld) (order : CallOrder) (ref : SessionRef)
    (snapshotOut : PlayerSnapshot) : SectorWorld × List WorldEvent × PlayerSnapshot :=
  match world.players ref with
  | none => (world, [], snapshotOut)
  | some player =>
      let watchers := world.watchersAround player.sector
      let left := (world.eraseFromSector ref player.sector).setPlayer ref none
      let events := (((order 0).list watchers).filter fun receiver => receiver ≠ ref).map
        fun receiver => (⟨receiver, .evtDespawn player (ascii "leave")⟩ : WorldEvent)
      (left, events, ⟨player.account, player.character, player.x, player.y⟩)

def enter (world : SectorWorld) (order : CallOrder) (ref : SessionRef)
    (account character : Bytes) (x y : Int32) : SectorWorld × List WorldEvent :=
  let (left, departure, _) := world.leave order ref PlayerSnapshot.empty
  let player : PlayerState := ⟨ref, account, character, x, y, left.sectorFor x y⟩
  let entered := (left.setPlayer ref (some player)).insertIntoSector player
  let watchers := (order 1).list (entered.watchersAround player.sector)
  let announcements := watchers.map fun receiver =>
    (⟨receiver, if receiver = ref then .worldEntered player else .evtEnter player⟩ : WorldEvent)
  let snapshots := (watchers.filter fun receiver => receiver ≠ ref).filterMap fun receiver =>
    (entered.players receiver).map fun other => (⟨ref, .evtSnapshot other⟩ : WorldEvent)
  (entered, departure ++ announcements ++ snapshots)

def moveLine (player : PlayerState) (ref : SessionRef)
    (oldWatchers newWatchers : Finset SessionRef) (receiver : SessionRef) : Option WorldLine :=
  if receiver = ref then some (.worldMoved player)
  else
    let wasVisible := decide (receiver ∈ oldWatchers)
    let isVisible := decide (receiver ∈ newWatchers)
    if wasVisible && isVisible then some (.evtMove player)
    else if !wasVisible && isVisible then some (.evtEnter player)
    else if wasVisible && !isVisible then some (.evtDespawn player (ascii "sector_out"))
    else none

def move (world : SectorWorld) (order : CallOrder) (ref : SessionRef) (x y : Int32) :
    SectorWorld × List WorldEvent :=
  match world.players ref with
  | none => (world, [⟨ref, .errNotInWorld⟩])
  | some old =>
      let oldSector := old.sector
      let oldWatchers := world.watchersAround oldSector
      let newSector := world.sectorFor x y
      let erased := if oldSector = newSector then world else world.eraseFromSector ref oldSector
      let player : PlayerState := { old with x := x, y := y, sector := newSector }
      let updated := erased.setPlayer ref (some player)
      let moved := if oldSector = newSector then updated else updated.insertIntoSector player
      let newWatchers := moved.watchersAround newSector
      let recipients := (order 0).list (oldWatchers ∪ newWatchers)
      (moved, recipients.filterMap fun receiver =>
        (moveLine player ref oldWatchers newWatchers receiver).map fun line =>
          (⟨receiver, line⟩ : WorldEvent))

def attack (world : SectorWorld) (order : CallOrder) (ref : SessionRef) (skill target : Bytes) :
    List WorldEvent :=
  match world.players ref with
  | none => [⟨ref, .errNotInWorld⟩]
  | some player =>
      ((order 0).list (world.watchersAround player.sector)).map fun receiver =>
        ⟨receiver, if receiver = ref then .worldAttack skill target
          else .evtAttack player skill target⟩

end SectorWorld

inductive WorldCall where
  | enter (ref : SessionRef) (account character : Bytes) (x y : Int32)
  | move (ref : SessionRef) (x y : Int32)
  | attack (ref : SessionRef) (skill target : Bytes)
  | leave (ref : SessionRef)
  deriving DecidableEq, Repr

def SectorWorld.call (world : SectorWorld) (order : SectorWorld.CallOrder) :
    WorldCall → SectorWorld × List WorldEvent
  | .enter ref account character x y => world.enter order ref account character x y
  | .move ref x y => world.move order ref x y
  | .attack ref skill target => (world, world.attack order ref skill target)
  | .leave ref =>
      let (left, events, _) := world.leave order ref PlayerSnapshot.empty
      (left, events)

end DungeonPortfolio.World
