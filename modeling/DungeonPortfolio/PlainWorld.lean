import DungeonPortfolio.Broadcasts
import DungeonPortfolio.OwnCalls
import DungeonPortfolio.ServerSteps

/-!
# The world without its index

What the world is for: sessions have players on a map, and each is told what becomes of
the players in view of its own. Nothing here keeps sectors, and no order is chosen but
that of the lines to one session. The world of the server, with its sets of sectors
and its passes over them, does the same at every call of every run.
-/

namespace DungeonPortfolio.PlainWorld

open DungeonPortfolio.Text DungeonPortfolio.World DungeonPortfolio.WorldIndex
open DungeonPortfolio.WorldViews DungeonPortfolio.WatcherLines DungeonPortfolio.Broadcasts
open DungeonPortfolio.OwnCalls DungeonPortfolio.ServerActs DungeonPortfolio.ServerSteps
open DungeonPortfolio.Server (ServerConfig System)
open Library.Execution Library.Mailbox

set_option autoImplicit false

abbrev Players : Type := SessionRef → Option PlayerState

def sectorAt (x y : Int32) : SectorCoord := ⟨floorQuotient x 100, floorQuotient y 100⟩

def entrant (ref : SessionRef) (account character : Bytes) (x y : Int32) : PlayerState :=
  ⟨ref, account, character, x, y, sectorAt x y⟩

def walked (old : PlayerState) (x y : Int32) : PlayerState :=
  { old with x := x, y := y, sector := sectorAt x y }

/-- Another session with a player in one of the nine sectors around this one. -/
def Watches (players : Players) (ref : SessionRef) (sector : SectorCoord) (who : SessionRef) :
    Prop :=
  who ≠ ref ∧ ∃ watcher, players who = some watcher ∧ Sees 1 sector watcher.sector

instance (players : Players) (ref : SessionRef) (sector : SectorCoord) (who : SessionRef) :
    Decidable (Watches players ref sector who) :=
  inferInstanceAs (Decidable (_ ∧ ∃ watcher ∈ players who, _))

def becomes (player : Option PlayerState) : WorldCall → Option PlayerState
  | .enter ref account character x y => some (entrant ref account character x y)
  | .move _ x y => player.map fun old => walked old x y
  | .attack _ _ _ => player
  | .leave _ => none

def after (players : Players) (call : WorldCall) : Players :=
  Function.update players (caller call) (becomes (players (caller call)) call)

/-- What `who` is told when the player of `ref` goes. -/
def farewell (players : Players) (ref who : SessionRef) : List WorldLine :=
  match players ref with
  | none => []
  | some old =>
      if Watches players ref old.sector who then [.evtDespawn old (ascii "leave")] else []

def Told (players : Players) (who : SessionRef) (lines : List WorldLine) : WorldCall → Prop
  | .enter ref account character x y =>
      let player := entrant ref account character x y
      if who = ref then
        ∃ snapshots, lines = .worldEntered player :: snapshots ∧ snapshots.Nodup ∧
          ∀ line, line ∈ snapshots ↔ ∃ other seen, Watches players ref player.sector other ∧
            players other = some seen ∧ line = .evtSnapshot seen
      else lines = farewell players ref who ++
        if Watches players ref player.sector who then [.evtEnter player] else []
  | .move ref x y =>
      match players ref with
      | none => lines = if who = ref then [.errNotInWorld] else []
      | some old =>
          lines = if who = ref then [.worldMoved (walked old x y)]
            else moveNews (walked old x y) (Watches players ref old.sector who)
              (Watches players ref (sectorAt x y) who)
  | .attack ref skill target =>
      match players ref with
      | none => lines = if who = ref then [.errNotInWorld] else []
      | some player =>
          lines = if who = ref then [.worldAttack skill target]
            else if Watches players ref player.sector who then [.evtAttack player skill target]
            else []
  | .leave ref => lines = farewell players ref who

/-- A world with the sizes of the server's and an exact index. -/
structure Ordinary (world : SectorWorld) : Prop where
  indexed : Indexed world
  size : world.sectorSize = 100
  radius : world.viewRadius = 1

section

variable {world : SectorWorld}

theorem sector_at (ordinary : Ordinary world) (x y : Int32) :
    world.sectorFor x y = sectorAt x y := by
  rw [SectorWorld.sectorFor, ordinary.size, sectorAt]

theorem hears_iff_watches (ordinary : Ordinary world) (ref : SessionRef) (sector : SectorCoord)
    (who : SessionRef) : Hears world ref sector who ↔ Watches world.players ref sector who := by
  rw [Hears, InView, ordinary.radius, Watches]

/-- Every player stands in a sector whose surroundings fit in 32 bits. -/
theorem ordinary_roomy (ordinary : Ordinary world) (ref : SessionRef) (player : PlayerState)
    (present : world.players ref = some player) : Roomy world player.sector := by
  rw [(ordinary.indexed.own ref player present).2]
  exact roomy_of_server_sizes ordinary.size ordinary.radius player.x player.y

theorem roomy_at (ordinary : Ordinary world) (x y : Int32) : Roomy world (sectorAt x y) := by
  rw [← sector_at ordinary]
  exact roomy_of_server_sizes ordinary.size ordinary.radius x y

theorem watchers_watch (ordinary : Ordinary world) {ref who : SessionRef} {player : PlayerState}
    (present : world.players ref = some player) (other : who ≠ ref) :
    who ∈ world.watchersAround player.sector ↔ Watches world.players ref player.sector who := by
  rw [watchers_hear ordinary.indexed (ordinary_roomy ordinary ref player present) other,
    hears_iff_watches ordinary]

theorem newcomer_is_entrant (ordinary : Ordinary world) (ref : SessionRef)
    (account character : Bytes) (x y : Int32) :
    newcomer world ref account character x y = entrant ref account character x y := by
  rw [newcomer, entrant, sector_at ordinary]

theorem relocated_is_walked (ordinary : Ordinary world) (old : PlayerState) (x y : Int32) :
    relocated world old x y = walked old x y := by
  rw [relocated, walked, sector_at ordinary]

theorem call_after (ordinary : Ordinary world) (order : SectorWorld.CallOrder) (call : WorldCall) :
    (world.call order call).1.players = after world.players call := by
  rw [call_players, observe, after]
  congr 1
  cases call with
  | enter ref account character x y =>
      exact congrArg some (newcomer_is_entrant ordinary ref account character x y)
  | move ref x y =>
      rw [become, becomes]
      congr 1
      funext old
      exact relocated_is_walked ordinary old x y
  | attack | leave => rfl

theorem leave_told (ordinary : Ordinary world) (order : SectorWorld.CallOrder)
    (ref who : SessionRef) :
    sentTo who (world.leave order ref PlayerSnapshot.empty).2.1 =
      farewell world.players ref who := by
  rw [farewell]
  cases lookup : world.players ref with
  | none =>
      rw [leave_absent order PlayerSnapshot.empty lookup]
      rfl
  | some old =>
      dsimp only
      by_cases self : who = ref
      · have silent : ¬Watches world.players ref old.sector who := fun watches => watches.1 self
        rw [if_neg silent, self, leave_sends_self]
      · rw [leave_sends order lookup self]
        simp only [watchers_watch ordinary lookup self]

theorem refused_told (ref who : SessionRef) :
    sentTo who [⟨ref, .errNotInWorld⟩] = if who = ref then [WorldLine.errNotInWorld] else [] := by
  by_cases self : who = ref
  · rw [if_pos self, self]
    simp [sentTo]
  · rw [if_neg self]
    exact sent_elsewhere fun event listed => by
      rw [List.mem_singleton.mp listed]
      exact Ne.symm self

theorem move_told (ordinary : Ordinary world) (order : SectorWorld.CallOrder)
    (ref who : SessionRef) (x y : Int32) :
    Told world.players who (sentTo who (world.move order ref x y).2) (.move ref x y) := by
  rw [Told]
  cases lookup : world.players ref with
  | none =>
      rw [move_absent order x y lookup]
      exact refused_told ref who
  | some old =>
      dsimp only
      have place := sector_at ordinary x y
      by_cases self : who = ref
      · rw [if_pos self, self, move_sends_self ordinary.indexed order lookup,
          relocated_is_walked ordinary]
      · have roomy : Roomy world (world.sectorFor x y) := by
          rw [place]
          exact roomy_at ordinary x y
        have now := move_hears ordinary.indexed order lookup roomy self
        rw [hears_iff_watches ordinary, place] at now
        rw [if_neg self, move_sends order lookup x y self, place]
        simp only [moveNews, watchers_watch ordinary lookup self, now, relocated_is_walked ordinary]

theorem attack_told (ordinary : Ordinary world) (order : SectorWorld.CallOrder)
    (ref who : SessionRef) (skill target : Bytes) :
    Told world.players who (sentTo who (world.attack order ref skill target))
      (.attack ref skill target) := by
  rw [Told]
  cases lookup : world.players ref with
  | none =>
      rw [SectorWorld.attack, lookup]
      exact refused_told ref who
  | some player =>
      dsimp only
      rw [attack_sends order skill target lookup]
      by_cases self : who = ref
      · rw [if_pos self, if_pos self, self, if_pos (watches_itself ordinary.indexed lookup)]
      · simp only [if_neg self, watchers_watch ordinary lookup self]

theorem enter_told (ordinary : Ordinary world) (order : SectorWorld.CallOrder)
    (ref who : SessionRef) (account character : Bytes) (x y : Int32) :
    Told world.players who (sentTo who (world.enter order ref account character x y).2)
      (.enter ref account character x y) := by
  have wasRoomy := ordinary_roomy ordinary ref
  have roomy : Roomy world (world.sectorFor x y) := by
    rw [sector_at ordinary]
    exact roomy_at ordinary x y
  have player := newcomer_is_entrant ordinary ref account character x y
  rw [Told]
  by_cases self : who = ref
  · rcases enter_passes ordinary.indexed order ref account character x y wasRoomy roomy with
      ⟨departures, announcements, snapshots, events, passes, _, entered, seen⟩
    rw [player] at passes
    rw [if_pos self, self, events]
    refine ⟨snapshots.map WorldEvent.line, passes.sent_newcomer entered, ?_, ?_⟩
    · apply seen.map_on
      intro first one second other same
      have here := ((passes.snapshots first).mp one).1
      have there := ((passes.snapshots second).mp other).1
      cases first
      cases second
      simp_all
    · intro line
      rw [List.mem_map]
      constructor
      · rintro ⟨event, listed, rfl⟩
        rcases (passes.snapshots event).mp listed with ⟨_, other, watcher, hears, present, text⟩
        exact ⟨other, watcher, (hears_iff_watches ordinary _ _ _).mp hears, present, text⟩
      · rintro ⟨other, watcher, watches, present, rfl⟩
        exact ⟨⟨ref, .evtSnapshot watcher⟩, (passes.snapshots _).mpr ⟨rfl, other, watcher,
          (hears_iff_watches ordinary _ _ _).mpr watches, present, rfl⟩, rfl⟩
  · rw [if_neg self, enter_told_other ordinary.indexed order self account character x y wasRoomy
      roomy, enterNews, player, farewell]
    simp only [hears_iff_watches ordinary]
    rfl

end

theorem ordinary_call {world : SectorWorld} (ordinary : Ordinary world)
    (order : SectorWorld.CallOrder) (call : WorldCall) : Ordinary (world.call order call).1 := by
  rcases call_sizes world order call with ⟨size, radius⟩
  exact ⟨indexed_call ordinary.indexed order call, size.trans ordinary.size,
    radius.trans ordinary.radius⟩

theorem told_call {world : SectorWorld} (ordinary : Ordinary world)
    (order : SectorWorld.CallOrder) (call : WorldCall) (who : SessionRef) :
    Told world.players who (sentTo who (world.call order call).2) call := by
  cases call with
  | enter ref account character x y => exact enter_told ordinary order ref who account character x y
  | move ref x y => exact move_told ordinary order ref who x y
  | attack ref skill target => exact attack_told ordinary order ref who skill target
  | leave ref => exact leave_told ordinary order ref who

theorem ordinary_run {world : SectorWorld} {labels : List (SectorWorld.CallOrder × WorldCall)}
    (ran : run worldStep SectorWorld.default labels = some world) :
    Ordinary world ∧ world.players = (labels.map Prod.snd).foldl after fun _ => none := by
  induction labels using List.reverseRecOn generalizing world with
  | nil =>
      cases ran
      have made : SectorWorld.make 100 1 = .ok SectorWorld.default := by rfl
      exact ⟨⟨indexed_of_made made (reachable_refl worldStep _), rfl, rfl⟩, rfl⟩
  | append_singleton labels label ih =>
      rcases (run_snoc_eq_some _).mp ran with ⟨source, earlier, taken⟩
      obtain rfl := Option.some.inj taken
      rcases ih earlier with ⟨ordinary, players⟩
      refine ⟨ordinary_call ordinary label.1 label.2, ?_⟩
      rw [call_after ordinary, players, List.map_append, List.foldl_append]
      rfl

/-- Every call, in whatever order its sets are visited, tells what the plain world tells. -/
def TellsPlainly (world : SectorWorld) : Prop :=
  ∀ order call who, Told world.players who (sentTo who (world.call order call).2) call

theorem world_reachable {config : ServerConfig} {poolSize : Nat} {system : System}
    (reached : Reachable System.step (System.start config poolSize) system) :
    Reachable worldStep SectorWorld.default system.world := by
  refine @kept_by_run (fun system => Reachable worldStep SectorWorld.default system.world) _ _
    (reachable_refl worldStep _) ?_ ?_ ?_ _ reached
  · intro source next _ before act
    have pushed : ∀ (other : System) ref session line, other.world = source.world →
        Reachable worldStep SectorWorld.default (pushLine other ref session line).world := by
      intro other ref session line same
      rw [push_line_world, same]
      exact before
    cases act with
    | worldCalled order call => exact @Reachable.next _ _ _ _ _ _ (order, call) before rfl
    | answered | requested | completed => exact pushed _ _ _ _ rfl
    | _ => exact before
  · intro ref source next _ before sent
    cases sent with
    | progressed cqe rest _ session payload position completed token alive =>
        rw [(progress_frame { source with completed := rest } session payload cqe.result.toNat
          (generation_of_live alive) (live_eq_some.mp alive).2).1]
        exact before
  · intro source label next _ before taken
    cases taken with
    | _ => exact before

/-- The world with its index is the plain world: in every run of calls the players are
those that the plain world has after the same calls, and in every state of a world and of
a server a call tells every session what the plain world tells it. -/
theorem world_is_plain :
    (∀ labels world, run worldStep SectorWorld.default labels = some world →
      world.players = ((labels.map Prod.snd).foldl after fun _ => none) ∧ TellsPlainly world) ∧
    ∀ config poolSize system, Reachable System.step (System.start config poolSize) system →
      TellsPlainly system.world := by
  have plainly : ∀ labels world, run worldStep SectorWorld.default labels = some world →
      world.players = ((labels.map Prod.snd).foldl after fun _ => none) ∧ TellsPlainly world := by
    intro labels world ran
    rcases ordinary_run ran with ⟨ordinary, players⟩
    exact ⟨players, told_call ordinary⟩
  refine ⟨plainly, ?_⟩
  intro config poolSize system reached
  rcases world_reachable reached with ⟨labels, ran⟩
  exact (plainly labels system.world ran).2

/-- A fourth player enters the gathering, next to the second one. -/
theorem world_is_plain_gathered :
    TellsPlainly gathered ∧ Told gathered.players ⟨6, 2⟩
      [.evtEnter ⟨⟨8, 4⟩, ascii "d", ascii "main", 0, 0, ⟨0, 0⟩⟩]
        (.enter ⟨8, 4⟩ (ascii "d") (ascii "main") 0 0) := by
  have tells : TellsPlainly gathered := (world_is_plain.1 gathering gathered rfl).2
  refine ⟨tells, ?_⟩
  have told := tells (fun _ => .ascending) (.enter ⟨8, 4⟩ (ascii "d") (ascii "main") 0 0) ⟨6, 2⟩
  exact told

end DungeonPortfolio.PlainWorld
