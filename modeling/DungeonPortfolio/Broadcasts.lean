import DungeonPortfolio.WatcherLines

/-!
# Who is sent what

Exactly which lines a call sends to whom. `Hears` is the audience of a call as a
player would define it: the other players whose sector is within the radius in
both axes. The loops of the source compute it as long as the neighbouring sector
indices fit in 32 bits, which `Roomy` says of one sector.
-/

namespace DungeonPortfolio.Broadcasts

open DungeonPortfolio.Text DungeonPortfolio.World DungeonPortfolio.WorldIndex
open DungeonPortfolio.WorldViews DungeonPortfolio.WatcherLines
open Library.Execution Library.HashSet Library.Wrapping

set_option autoImplicit false

/-- The indices of the sectors around this one fit in 32 bits. -/
def Roomy (world : SectorWorld) (sector : SectorCoord) : Prop :=
  Fits world.viewRadius.toInt sector.x ∧ Fits world.viewRadius.toInt sector.y

instance (world : SectorWorld) (sector : SectorCoord) : Decidable (Roomy world sector) :=
  inferInstanceAs (Decidable ((_ ∧ _) ∧ _ ∧ _))

/-- The players within the radius of a sector. -/
def InView (world : SectorWorld) (sector : SectorCoord) (who : SessionRef) : Prop :=
  ∃ watcher, world.players who = some watcher ∧ Sees world.viewRadius sector watcher.sector

def Hears (world : SectorWorld) (ref : SessionRef) (sector : SectorCoord) (who : SessionRef) :
    Prop :=
  who ≠ ref ∧ InView world sector who

instance (world : SectorWorld) (sector : SectorCoord) (who : SessionRef) :
    Decidable (InView world sector who) :=
  inferInstanceAs (Decidable (∃ watcher ∈ world.players who, _))

instance (world : SectorWorld) (ref : SessionRef) (sector : SectorCoord) (who : SessionRef) :
    Decidable (Hears world ref sector who) := inferInstanceAs (Decidable (_ ∧ _))

theorem visits_iff_sees {world : SectorWorld} {sector other : SectorCoord}
    (roomy : Roomy world sector) :
    Visits world.viewRadius sector other ↔ Sees world.viewRadius sector other := by
  constructor
  · intro visits
    exact ⟨near_of_reaches roomy.1 visits.1, near_of_reaches roomy.2 visits.2⟩
  · exact visits_of_sees

theorem watchers_in_view {world : SectorWorld} (indexed : Indexed world) {sector : SectorCoord}
    (roomy : Roomy world sector) (who : SessionRef) :
    who ∈ world.watchersAround sector ↔ InView world sector who := by
  rw [mem_watchers_iff indexed]
  apply exists_congr
  intro watcher
  rw [visits_iff_sees roomy]

theorem watchers_hear {world : SectorWorld} (indexed : Indexed world) {sector : SectorCoord}
    (roomy : Roomy world sector) {ref who : SessionRef} (other : who ≠ ref) :
    who ∈ world.watchersAround sector ↔ Hears world ref sector who := by
  rw [watchers_in_view indexed roomy, Hears]
  simp [other]

theorem indexed_of_made {sectorSize viewRadius : Int32} {initial world : SectorWorld}
    (made : SectorWorld.make sectorSize viewRadius = .ok initial)
    (reachable : Reachable worldStep initial world) : Indexed world := by
  have empty := make_empty made
  exact indexed_of_reachable (indexed_of_empty empty.1 empty.2.1) reachable

theorem fits_of_server_size (value : Int32) : Fits 1 (floorQuotient value 100) := by
  have within : ∀ value : Int32,
      -21474837 < (value / 100).toInt ∧ (value / 100).toInt < 21474837 := by
    intro value
    have lower := value.le_toInt
    have upper := value.toInt_lt
    have divided : (value / 100).toInt = value.toInt.tdiv 100 :=
      Int32.toInt_div_of_ne_right value 100 (by decide)
    rw [divided]
    rcases Int.le_total 0 value.toInt with nonneg | nonpos
    · rw [Int.tdiv_eq_ediv_of_nonneg nonneg]
      omega
    · have opposite : value.toInt.tdiv 100 = -(-value.toInt / 100) := by
        rw [← Int.tdiv_eq_ediv_of_nonneg (by omega), Int.neg_tdiv, Int.neg_neg]
      rw [opposite]
      omega
  rw [Fits, floorQuotient]
  by_cases nonneg : value ≥ 0
  · rw [if_pos nonneg]
    have bounds := within value
    omega
  · rw [if_neg nonneg]
    have bounds := within (-value + 100 - 1)
    have opposite : (-((-value + 100 - 1) / 100)).toInt =
        -((-value + 100 - 1) / 100).toInt := by
      rw [Int32.toInt_neg, Int.bmod_eq_of_le] <;> omega
    rw [opposite]
    omega

/-- With the sizes of the server every sector is roomy. -/
theorem roomy_of_server_sizes {world : SectorWorld} (size : world.sectorSize = 100)
    (radius : world.viewRadius = 1) (x y : Int32) : Roomy world (world.sectorFor x y) := by
  have one : world.viewRadius.toInt = 1 := by
    rw [radius]
    rfl
  rw [Roomy, one, SectorWorld.sectorFor, size]
  exact ⟨fits_of_server_size x, fits_of_server_size y⟩

section

variable {world : SectorWorld} {ref : SessionRef} {player : PlayerState}

theorem attack_events (order : SectorWorld.CallOrder) (skill target : Bytes)
    (present : world.players ref = some player) :
    world.attack order ref skill target =
      ((order 0).list (world.watchersAround player.sector)).filterMap fun receiver =>
        (some (if receiver = ref then WorldLine.worldAttack skill target
          else .evtAttack player skill target)).map fun text =>
            (⟨receiver, text⟩ : WorldEvent) := by
  simp only [SectorWorld.attack, present]
  rw [← List.filterMap_eq_map]
  rfl

theorem attack_sends (order : SectorWorld.CallOrder) (skill target : Bytes)
    (present : world.players ref = some player) (who : SessionRef) :
    sentTo who (world.attack order ref skill target) =
      if who ∈ world.watchersAround player.sector
        then [if who = ref then .worldAttack skill target else .evtAttack player skill target]
        else [] := by
  rw [attack_events order skill target present, sent_addressed]
  rfl

theorem watches_itself (indexed : Indexed world) (present : world.players ref = some player) :
    ref ∈ world.watchersAround player.sector := by
  rw [mem_watchers_iff indexed]
  exact ⟨player, present, visits_self world player.sector⟩

theorem attack_told_back (indexed : Indexed world) {who : SessionRef} {watcher : PlayerState}
    (present : world.players ref = some player) (watching : world.players who = some watcher)
    (order later : SectorWorld.CallOrder) (skill target spell victim : Bytes) :
    sentTo who (world.attack order ref skill target) ≠ [] ↔
      sentTo ref (world.attack later who spell victim) ≠ [] := by
  rw [attack_sends order skill target present, attack_sends later spell victim watching]
  have there : who ∈ world.watchersAround player.sector ↔
      ref ∈ world.watchersAround watcher.sector := by
    rw [mem_watchers_iff indexed, mem_watchers_iff indexed, watching, present]
    simp [visits_comm]
  by_cases reached : who ∈ world.watchersAround player.sector
  · rw [if_pos reached, if_pos (there.mp reached)]
    simp
  · rw [if_neg reached, if_neg (fun back => reached (there.mpr back))]

end

theorem interest_sets_exact {sectorSize viewRadius : Int32} {initial world : SectorWorld}
    (made : SectorWorld.make sectorSize viewRadius = .ok initial)
    (reachable : Reachable worldStep initial world) :
    (∀ sector, Roomy world sector → ∀ who, who ∈ world.watchersAround sector ↔
      ∃ player, world.players who = some player ∧ Sees world.viewRadius sector player.sector) ∧
    (∀ order attacker player skill target, world.players attacker = some player →
      Roomy world player.sector →
        (world.call order (.attack attacker skill target)).1 = world ∧
        ∀ who, sentTo who (world.call order (.attack attacker skill target)).2 =
          if who = attacker then [.worldAttack skill target]
          else if Hears world attacker player.sector who then [.evtAttack player skill target]
          else []) ∧
    ∀ p q player watcher, world.players p = some player → world.players q = some watcher →
      ∀ order later skill target spell victim,
        (sentTo p (world.call order (.attack q skill target)).2 ≠ [] ↔
          sentTo q (world.call later (.attack p spell victim)).2 ≠ []) := by
  have indexed := indexed_of_made made reachable
  refine ⟨fun sector roomy who => watchers_in_view indexed roomy who, ?_, ?_⟩
  · intro order attacker player skill target present roomy
    refine ⟨rfl, ?_⟩
    intro who
    rw [SectorWorld.call, attack_sends order skill target present]
    by_cases self : who = attacker
    · rw [self, if_pos (watches_itself indexed present), if_pos rfl, if_pos rfl]
    · rw [if_neg self, if_neg self]
      have audience := watchers_hear indexed roomy self
      by_cases hears : Hears world attacker player.sector who
      · rw [if_pos (audience.mpr hears), if_pos hears]
      · rw [if_neg (fun member => hears (audience.mp member)), if_neg hears]
  · intro p q player watcher present watching order later skill target spell victim
    exact attack_told_back indexed watching present order later skill target spell victim

def gathering : List (SectorWorld.CallOrder × WorldCall) :=
  [(fun _ => .ascending, .enter ⟨5, 1⟩ (ascii "a") (ascii "main") 0 0),
    (fun _ => .ascending, .enter ⟨6, 2⟩ (ascii "b") (ascii "main") (-10) 10),
    (fun _ => .ascending, .enter ⟨7, 3⟩ (ascii "c") (ascii "main") 0 900)]

def gathered : SectorWorld :=
  gathering.foldl (fun world label => (world.call label.1 label.2).1) .default

theorem gathered_reachable : Reachable worldStep SectorWorld.default gathered := ⟨gathering, rfl⟩

theorem interest_sets_exact_gathered :
    (sentTo ⟨6, 2⟩ (gathered.call (fun _ => .ascending)
        (.attack ⟨5, 1⟩ (ascii "slash") (ascii "mob"))).2 =
      [.evtAttack ⟨⟨5, 1⟩, ascii "a", ascii "main", 0, 0, ⟨0, 0⟩⟩ (ascii "slash") (ascii "mob")]) ∧
    ⟨7, 3⟩ ∉ gathered.watchersAround ⟨0, 0⟩ := by
  have made : SectorWorld.make 100 1 = .ok SectorWorld.default := by rfl
  have exact := interest_sets_exact made gathered_reachable
  constructor
  · have told := (exact.2.1 (fun _ => .ascending) ⟨5, 1⟩ _ (ascii "slash") (ascii "mob") rfl
      (by decide)).2 ⟨6, 2⟩
    rw [told, if_neg (by decide), if_pos (by decide)]
    rfl
  · rw [exact.1 ⟨0, 0⟩ (by decide)]
    rintro ⟨player, present, sees⟩
    obtain rfl := Option.some.inj present
    exact absurd sees (by decide)

section

variable {world : SectorWorld} {ref : SessionRef} {old : PlayerState}

theorem move_sends_self (indexed : Indexed world) (order : SectorWorld.CallOrder)
    (present : world.players ref = some old) (x y : Int32) :
    sentTo ref (world.move order ref x y).2 = [.worldMoved (relocated world old x y)] := by
  rw [move_events order x y present, sent_addressed, if_pos]
  · simp [SectorWorld.moveLine]
  · rw [Finset.mem_union]
    exact Or.inl (watches_itself indexed present)

/-- The audience of the new sector, which the source takes after the move. -/
theorem move_hears (indexed : Indexed world) (order : SectorWorld.CallOrder)
    (present : world.players ref = some old) {x y : Int32}
    (roomy : Roomy world (world.sectorFor x y)) {who : SessionRef} (other : who ≠ ref) :
    who ∈ (world.move order ref x y).1.watchersAround (world.sectorFor x y) ↔
      Hears world ref (world.sectorFor x y) who := by
  rw [move_watchers indexed order x y present who other, Hears, InView]
  simp [other, visits_iff_sees roomy]

end

/-- The line about a move for a player that was or was not in the audience of the
old sector and is or is not in that of the new one. -/
def moveNews (player : PlayerState) (was now : Prop) [Decidable was] [Decidable now] :
    List WorldLine :=
  if was then if now then [.evtMove player] else [.evtDespawn player (ascii "sector_out")]
  else if now then [.evtEnter player] else []

theorem moves_told_exactly {sectorSize viewRadius : Int32} {initial world : SectorWorld}
    (made : SectorWorld.make sectorSize viewRadius = .ok initial)
    (reachable : Reachable worldStep initial world) (order : SectorWorld.CallOrder)
    (ref : SessionRef) (x y : Int32) :
    (∀ old, world.players ref = some old → Roomy world old.sector →
      Roomy world (world.sectorFor x y) →
        sentTo ref (world.move order ref x y).2 = [.worldMoved (relocated world old x y)] ∧
        (∀ who, who ≠ ref → sentTo who (world.move order ref x y).2 =
          moveNews (relocated world old x y) (Hears world ref old.sector who)
            (Hears world ref (world.sectorFor x y) who)) ∧
        (world.move order ref x y).1.players ref = some (relocated world old x y) ∧
        ∀ who, who ≠ ref → (world.move order ref x y).1.players who = world.players who) ∧
    (world.players ref = none → world.move order ref x y = (world, [⟨ref, .errNotInWorld⟩])) := by
  have indexed := indexed_of_made made reachable
  refine ⟨?_, move_absent order x y⟩
  intro old present wasRoomy roomy
  have players := move_players order x y present
  refine ⟨move_sends_self indexed order present x y, ?_, ?_, ?_⟩
  · intro who other
    have before := watchers_hear indexed wasRoomy other
    have after := move_hears indexed order present roomy other
    rw [move_sends order present x y other, moveNews]
    simp only [before, after]
  · rw [players, Function.update_self]
  · intro who other
    rw [players, Function.update_of_ne other]

/-- The first player walks from its neighbour to the distant player; one that has
not entered cannot walk. -/
theorem moves_told_exactly_gathered :
    (sentTo ⟨6, 2⟩ (gathered.move (fun _ => .ascending) ⟨5, 1⟩ 0 890).2 =
      [.evtDespawn ⟨⟨5, 1⟩, ascii "a", ascii "main", 0, 890, ⟨0, 8⟩⟩ (ascii "sector_out")] ∧
    sentTo ⟨7, 3⟩ (gathered.move (fun _ => .ascending) ⟨5, 1⟩ 0 890).2 =
      [.evtEnter ⟨⟨5, 1⟩, ascii "a", ascii "main", 0, 890, ⟨0, 8⟩⟩]) ∧
    gathered.move (fun _ => .ascending) ⟨8, 4⟩ 0 0 = (gathered, [⟨⟨8, 4⟩, .errNotInWorld⟩]) := by
  have made : SectorWorld.make 100 1 = .ok SectorWorld.default := by rfl
  have exact := moves_told_exactly made gathered_reachable (fun _ => .ascending)
  have moved := (exact ⟨5, 1⟩ 0 890).1 _ rfl (roomy_of_server_sizes rfl rfl 0 0)
    (roomy_of_server_sizes rfl rfl 0 890)
  refine ⟨⟨?_, ?_⟩, (exact ⟨8, 4⟩ 0 0).2 rfl⟩
  · rw [moved.2.1 ⟨6, 2⟩ (by decide), moveNews, if_pos (by decide), if_neg (by decide)]
    rfl
  · rw [moved.2.1 ⟨7, 3⟩ (by decide), moveNews, if_neg (by decide), if_pos (by decide)]
    rfl

/-- The three passes of `enter` over the audiences of the old and the new sector.
`player` is the newcomer and `world` the world before. -/
structure Passes (world : SectorWorld) (player : PlayerState)
    (departures announcements snapshots : List WorldEvent) : Prop where
  departures : ∀ event, event ∈ departures ↔ ∃ old, world.players player.ref = some old ∧
    Hears world player.ref old.sector event.receiver ∧ event.line = .evtDespawn old (ascii "leave")
  announcements : ∀ event, event ∈ announcements ↔ event = ⟨player.ref, .worldEntered player⟩ ∨
    Hears world player.ref player.sector event.receiver ∧ event.line = .evtEnter player
  snapshots : ∀ event, event ∈ snapshots ↔ event.receiver = player.ref ∧
    ∃ who other, Hears world player.ref player.sector who ∧ world.players who = some other ∧
      event.line = .evtSnapshot other

def wire (event : WorldEvent) : SessionRef × Bytes := (event.receiver, event.line.text)

section

variable {world : SectorWorld} {ref : SessionRef}

theorem leave_departures (indexed : Indexed world) (order : SectorWorld.CallOrder)
    (roomy : ∀ old, world.players ref = some old → Roomy world old.sector) (event : WorldEvent) :
    event ∈ (world.leave order ref PlayerSnapshot.empty).2.1 ↔
      ∃ old, world.players ref = some old ∧ Hears world ref old.sector event.receiver ∧
        event.line = .evtDespawn old (ascii "leave") := by
  rcases event with ⟨receiver, line⟩
  cases lookup : world.players ref with
  | none =>
      rw [leave_absent order PlayerSnapshot.empty lookup]
      simp
  | some old =>
      have audience := watchers_in_view indexed (roomy old lookup)
      rw [leave_present order PlayerSnapshot.empty lookup]
      simp only [List.mem_map, List.mem_filter, IterationOrder.mem_list, decide_eq_true_eq,
        audience, Option.some.injEq, exists_eq_left', Hears, WorldEvent.mk.injEq]
      constructor
      · rintro ⟨who, ⟨inView, other⟩, rfl, rfl⟩
        exact ⟨⟨other, inView⟩, rfl⟩
      · rintro ⟨⟨other, inView⟩, same⟩
        exact ⟨receiver, ⟨inView, other⟩, rfl, same.symm⟩

theorem leave_receivers_nodup (order : SectorWorld.CallOrder) :
    ((world.leave order ref PlayerSnapshot.empty).2.1.map WorldEvent.receiver).Nodup := by
  cases lookup : world.players ref with
  | none =>
      rw [leave_absent order PlayerSnapshot.empty lookup]
      exact List.nodup_nil
  | some old =>
      rw [leave_present order PlayerSnapshot.empty lookup, List.map_map]
      exact (List.Nodup.filter _ ((order 0).nodup _)).map fun _ _ same => same

variable {order : SectorWorld.CallOrder} {account character : Bytes} {x y : Int32}

theorem enter_hears (indexed : Indexed world) (roomy : Roomy world (world.sectorFor x y))
    {who : SessionRef} (other : who ≠ ref) :
    who ∈ (world.enter order ref account character x y).1.watchersAround (world.sectorFor x y) ↔
      Hears world ref (world.sectorFor x y) who := by
  rw [enter_watchers indexed order ref account character x y who other, Hears, InView]
  simp [other, visits_iff_sees roomy]

theorem mem_announcements (indexed : Indexed world) (roomy : Roomy world (world.sectorFor x y))
    (event : WorldEvent) :
    event ∈ ((order 1).list ((world.enter order ref account character x y).1.watchersAround
        (world.sectorFor x y))).map (fun receiver =>
          (⟨receiver, if receiver = ref
            then .worldEntered (newcomer world ref account character x y)
            else .evtEnter (newcomer world ref account character x y)⟩ : WorldEvent)) ↔
      event = ⟨ref, .worldEntered (newcomer world ref account character x y)⟩ ∨
        Hears world ref (world.sectorFor x y) event.receiver ∧
          event.line = .evtEnter (newcomer world ref account character x y) := by
  rcases event with ⟨receiver, line⟩
  simp only [List.mem_map, IterationOrder.mem_list, WorldEvent.mk.injEq]
  constructor
  · rintro ⟨who, watching, rfl, rfl⟩
    by_cases self : who = ref
    · exact Or.inl ⟨self, by rw [if_pos self]⟩
    · exact Or.inr ⟨(enter_hears indexed roomy self).mp watching, by rw [if_neg self]⟩
  · rintro (⟨rfl, rfl⟩ | ⟨hears, rfl⟩)
    · exact ⟨receiver, enter_watches_self indexed order receiver account character x y, rfl,
        if_pos rfl⟩
    · exact ⟨receiver, (enter_hears indexed roomy hears.1).mpr hears, rfl, if_neg hears.1⟩

theorem mem_snapshots (indexed : Indexed world) (roomy : Roomy world (world.sectorFor x y))
    (event : WorldEvent) :
    event ∈ (((order 1).list ((world.enter order ref account character x y).1.watchersAround
        (world.sectorFor x y))).filter fun receiver => receiver ≠ ref).filterMap
          (fun receiver => ((world.enter order ref account character x y).1.players receiver).map
            fun other => (⟨ref, .evtSnapshot other⟩ : WorldEvent)) ↔
      event.receiver = ref ∧ ∃ who other, Hears world ref (world.sectorFor x y) who ∧
        world.players who = some other ∧ event.line = .evtSnapshot other := by
  rcases event with ⟨receiver, line⟩
  simp only [List.mem_filterMap, List.mem_filter, IterationOrder.mem_list, decide_eq_true_eq,
    Option.map_eq_some_iff, WorldEvent.mk.injEq]
  constructor
  · rintro ⟨who, ⟨watching, different⟩, other, present, rfl, rfl⟩
    rw [enter_players, Function.update_of_ne different] at present
    exact ⟨rfl, who, other, (enter_hears indexed roomy different).mp watching, present, rfl⟩
  · rintro ⟨rfl, who, other, hears, present, rfl⟩
    refine ⟨who, ⟨(enter_hears indexed roomy hears.1).mpr hears, hears.1⟩, other, ?_, rfl, rfl⟩
    rw [enter_players, Function.update_of_ne hears.1, present]

/-- No two players are snapshotted alike: a player carries its ref. -/
theorem snapshots_nodup (indexed : Indexed world) :
    ((((order 1).list ((world.enter order ref account character x y).1.watchersAround
        (world.sectorFor x y))).filter fun receiver => receiver ≠ ref).filterMap
          (fun receiver => ((world.enter order ref account character x y).1.players receiver).map
            fun other => (⟨ref, .evtSnapshot other⟩ : WorldEvent))).Nodup := by
  have after := indexed_enter indexed order ref account character x y
  apply List.Nodup.filterMap _ (((order 1).nodup _).filter _)
  intro first second event here there
  rcases Option.map_eq_some_iff.mp here with ⟨player, present, rfl⟩
  rcases Option.map_eq_some_iff.mp there with ⟨other, lookup, same⟩
  obtain rfl : other = player := by simpa using same
  rw [← (after.own first other present).1, ← (after.own second other lookup).1]

end

/-- The events of `enter` are the three passes, and no pass repeats itself. -/
theorem enter_passes {world : SectorWorld} (indexed : Indexed world)
    (order : SectorWorld.CallOrder) (ref : SessionRef) (account character : Bytes) (x y : Int32)
    (wasRoomy : ∀ old, world.players ref = some old → Roomy world old.sector)
    (roomy : Roomy world (world.sectorFor x y)) :
    ∃ departures announcements snapshots,
      (world.enter order ref account character x y).2 =
        departures ++ announcements ++ snapshots ∧
      Passes world (newcomer world ref account character x y) departures announcements snapshots ∧
      (departures.map WorldEvent.receiver).Nodup ∧
      (announcements.map WorldEvent.receiver).Nodup ∧ snapshots.Nodup := by
  refine ⟨_, _, _, enter_events world order ref account character x y,
    ⟨leave_departures indexed order wasRoomy, mem_announcements indexed roomy,
      mem_snapshots indexed roomy⟩, leave_receivers_nodup order, ?_, snapshots_nodup indexed⟩
  rw [List.map_map]
  exact ((order 1).nodup _).map fun _ _ same => same

theorem wire_nodup {events : List WorldEvent}
    (receivers : (events.map WorldEvent.receiver).Nodup) : (events.map wire).Nodup := by
  apply List.Nodup.of_map Prod.fst
  rw [List.map_map]
  exact receivers

theorem wire_differs {first second : WorldEvent} (tags : tag first.line ≠ tag second.line) :
    wire first ≠ wire second := by
  intro same
  have texts : first.line.text = second.line.text := congrArg Prod.snd same
  apply tags
  rw [← take_tag, ← take_tag, texts]

theorem sent_once {events : List WorldEvent} (receivers : (events.map WorldEvent.receiver).Nodup)
    {event : WorldEvent} (listed : event ∈ events) :
    sentTo event.receiver events = [event.line] := by
  induction events with
  | nil => cases listed
  | cons first rest ih =>
      rcases List.nodup_cons.mp receivers with ⟨fresh, later⟩
      rw [← List.singleton_append, sent_append]
      rcases List.mem_cons.mp listed with here | there
      · have silent : sentTo event.receiver rest = [] := by
          apply sent_elsewhere
          intro other member same
          apply fresh
          rw [← here, ← same]
          exact List.mem_map_of_mem member
        rw [silent, here]
        simp [sentTo]
      · have other : first.receiver ≠ event.receiver := by
          intro same
          apply fresh
          rw [same]
          exact List.mem_map_of_mem there
        rw [ih later there]
        simp [sentTo, other]

section

variable {world : SectorWorld} {player : PlayerState}
variable {departures announcements snapshots : List WorldEvent}

theorem Passes.departure_tag
    (passes : Passes world player departures announcements snapshots) {event : WorldEvent}
    (left : event ∈ departures) : tag event.line = ascii "EVT DES" := by
  rcases (passes.departures event).mp left with ⟨old, _, _, line⟩
  rw [line, tag]

theorem Passes.announcement_tag
    (passes : Passes world player departures announcements snapshots) {event : WorldEvent}
    (entered : event ∈ announcements) :
    tag event.line = ascii "WORLD E" ∨ tag event.line = ascii "EVT ENT" := by
  rcases (passes.announcements event).mp entered with rfl | ⟨_, line⟩
  · exact Or.inl rfl
  · rw [line]
    exact Or.inr rfl

theorem Passes.snapshot_tag
    (passes : Passes world player departures announcements snapshots) {event : WorldEvent}
    (seen : event ∈ snapshots) : tag event.line = ascii "EVT SNA" := by
  rcases (passes.snapshots event).mp seen with ⟨_, who, other, _, _, line⟩
  rw [line, tag]

theorem Passes.wire_announcement
    (passes : Passes world player departures announcements snapshots)
    {departure announcement : WorldEvent} (left : departure ∈ departures)
    (entered : announcement ∈ announcements) : wire departure ≠ wire announcement := by
  apply wire_differs
  rw [passes.departure_tag left]
  rcases passes.announcement_tag entered with kind | kind
  · rw [kind]
    decide
  · rw [kind]
    decide

theorem Passes.wire_snapshot
    (passes : Passes world player departures announcements snapshots)
    {event snapshot : WorldEvent} (earlier : event ∈ departures ++ announcements)
    (seen : snapshot ∈ snapshots) : wire event ≠ wire snapshot := by
  apply wire_differs
  rw [passes.snapshot_tag seen]
  rcases List.mem_append.mp earlier with left | entered
  · rw [passes.departure_tag left]
    decide
  · rcases passes.announcement_tag entered with kind | kind
    · rw [kind]
      decide
    · rw [kind]
      decide

theorem Passes.wire_early
    (passes : Passes world player departures announcements snapshots)
    (left : (departures.map WorldEvent.receiver).Nodup)
    (entered : (announcements.map WorldEvent.receiver).Nodup) :
    ((departures ++ announcements).map wire).Nodup := by
  rw [List.map_append, List.nodup_append']
  refine ⟨wire_nodup left, wire_nodup entered, ?_⟩
  intro said first second
  rcases List.mem_map.mp first with ⟨departure, here, rfl⟩
  rcases List.mem_map.mp second with ⟨announcement, there, same⟩
  exact passes.wire_announcement here there same.symm

theorem Passes.nodup (passes : Passes world player departures announcements snapshots)
    (left : (departures.map WorldEvent.receiver).Nodup)
    (entered : (announcements.map WorldEvent.receiver).Nodup) (seen : snapshots.Nodup) :
    (departures ++ announcements ++ snapshots).Nodup := by
  rw [List.nodup_append']
  refine ⟨(passes.wire_early left entered).of_map, seen, ?_⟩
  intro event earlier later
  exact passes.wire_snapshot earlier later rfl

/-- The newcomer is told of its own entry before it is told of the others. -/
theorem Passes.sent_newcomer (passes : Passes world player departures announcements snapshots)
    (entered : (announcements.map WorldEvent.receiver).Nodup) :
    sentTo player.ref (departures ++ announcements ++ snapshots) =
      .worldEntered player :: snapshots.map WorldEvent.line := by
  have silent : sentTo player.ref departures = [] := by
    apply sent_elsewhere
    intro event listed
    rcases (passes.departures event).mp listed with ⟨old, _, hears, _⟩
    exact hears.1
  have own : sentTo player.ref announcements = [.worldEntered player] :=
    sent_once entered ((passes.announcements ⟨player.ref, .worldEntered player⟩).mpr (Or.inl rfl))
  have all : sentTo player.ref snapshots = snapshots.map WorldEvent.line := by
    rw [sentTo, List.filter_eq_self.mpr]
    intro event listed
    rw [decide_eq_true_eq]
    exact ((passes.snapshots event).mp listed).1
  rw [sent_append, sent_append, silent, own, all]
  rfl

end

/-- What the call tells a player other than the newcomer, in this order. -/
def enterNews (world : SectorWorld) (player : PlayerState) (who : SessionRef) : List WorldLine :=
  (match world.players player.ref with
    | none => []
    | some old =>
        if Hears world player.ref old.sector who then [.evtDespawn old (ascii "leave")] else []) ++
    if Hears world player.ref player.sector who then [.evtEnter player] else []

theorem enter_told_other {world : SectorWorld} (indexed : Indexed world)
    (order : SectorWorld.CallOrder) {ref who : SessionRef} (other : who ≠ ref)
    (account character : Bytes) (x y : Int32)
    (wasRoomy : ∀ old, world.players ref = some old → Roomy world old.sector)
    (roomy : Roomy world (world.sectorFor x y)) :
    sentTo who (world.enter order ref account character x y).2 =
      enterNews world (newcomer world ref account character x y) who := by
  have now : who ∈ (world.enter order ref account character x y).1.watchersAround
      (world.sectorFor x y) ↔ Hears world ref (world.sectorFor x y) who :=
    enter_hears indexed roomy other
  rw [enter_sends order account character x y other, enterNews]
  simp only [now, newcomer]
  congr 1
  cases lookup : world.players ref with
  | none =>
      rw [leave_absent order PlayerSnapshot.empty lookup]
      rfl
  | some old =>
      have was := watchers_hear indexed (wasRoomy old lookup) other
      rw [leave_sends order lookup other]
      by_cases hears : Hears world ref old.sector who
      · rw [if_pos (was.mpr hears)]
        exact (if_pos hears).symm
      · rw [if_neg (fun member => hears (was.mp member))]
        exact (if_neg hears).symm

/-- The events of `enter` in their order, and the players after it. Only two
snapshots can read the same. -/
theorem enter_told_exactly {sectorSize viewRadius : Int32} {initial world : SectorWorld}
    (made : SectorWorld.make sectorSize viewRadius = .ok initial)
    (reachable : Reachable worldStep initial world) (order : SectorWorld.CallOrder)
    (ref : SessionRef) (account character : Bytes) (x y : Int32)
    (wasRoomy : ∀ old, world.players ref = some old → Roomy world old.sector)
    (roomy : Roomy world (world.sectorFor x y)) :
    (∃ departures announcements snapshots,
      (world.enter order ref account character x y).2 =
        departures ++ announcements ++ snapshots ∧
      Passes world (newcomer world ref account character x y) departures announcements snapshots ∧
      (departures ++ announcements ++ snapshots).Nodup ∧
      ((departures ++ announcements).map wire).Nodup ∧
      (∀ event ∈ departures ++ announcements, ∀ snapshot ∈ snapshots,
        wire event ≠ wire snapshot) ∧
      sentTo ref (world.enter order ref account character x y).2 =
        .worldEntered (newcomer world ref account character x y) ::
          snapshots.map WorldEvent.line ∧
      ∀ snapshot ∈ snapshots, ∃ other, snapshot.line = .evtSnapshot other ∧ other.ref ≠ ref) ∧
    (∀ who, who ≠ ref → sentTo who (world.enter order ref account character x y).2 =
      enterNews world (newcomer world ref account character x y) who) ∧
    (world.enter order ref account character x y).1.players ref =
      some ⟨ref, account, character, x, y, world.sectorFor x y⟩ ∧
    (∀ who player, (world.enter order ref account character x y).1.players who = some player →
      player.ref = ref → who = ref) ∧
    ∀ who, who ≠ ref →
      (world.enter order ref account character x y).1.players who = world.players who := by
  have indexed := indexed_of_made made reachable
  have after := indexed_enter indexed order ref account character x y
  have players := enter_players world order ref account character x y
  rcases enter_passes indexed order ref account character x y wasRoomy roomy with
    ⟨departures, announcements, snapshots, events, passes, left, entered, seen⟩
  refine ⟨⟨departures, announcements, snapshots, events, passes, passes.nodup left entered seen,
    passes.wire_early left entered, fun event earlier snapshot later =>
      passes.wire_snapshot earlier later, ?_, ?_⟩, ?_, ?_, ?_, ?_⟩
  · rw [events]
    exact passes.sent_newcomer entered
  · intro snapshot listed
    rcases (passes.snapshots snapshot).mp listed with ⟨_, who, other, hears, present, line⟩
    refine ⟨other, line, ?_⟩
    rw [(indexed.own who other present).1]
    exact hears.1
  · intro who other
    exact enter_told_other indexed order other account character x y wasRoomy roomy
  · rw [players, Function.update_self]
    rfl
  · intro who player present own
    rw [← (after.own who player present).1, own]
  · intro who other
    rw [players, Function.update_of_ne other]

/-- The first player of the gathering enters again, next to the distant one. -/
theorem enter_told_exactly_again :
    sentTo ⟨6, 2⟩ (gathered.enter (fun _ => .ascending) ⟨5, 1⟩ (ascii "a") (ascii "alt") 0 890).2 =
      [.evtDespawn ⟨⟨5, 1⟩, ascii "a", ascii "main", 0, 0, ⟨0, 0⟩⟩ (ascii "leave")] ∧
    sentTo ⟨7, 3⟩ (gathered.enter (fun _ => .ascending) ⟨5, 1⟩ (ascii "a") (ascii "alt") 0 890).2 =
      [.evtEnter ⟨⟨5, 1⟩, ascii "a", ascii "alt", 0, 890, ⟨0, 8⟩⟩] := by
  have made : SectorWorld.make 100 1 = .ok SectorWorld.default := by rfl
  have wasRoomy : ∀ old, gathered.players ⟨5, 1⟩ = some old → Roomy gathered old.sector := by
    intro old present
    rw [((indexed_of_made made gathered_reachable).own _ old present).2]
    exact roomy_of_server_sizes rfl rfl old.x old.y
  have exact := enter_told_exactly made gathered_reachable (fun _ => .ascending) ⟨5, 1⟩
    (ascii "a") (ascii "alt") 0 890 wasRoomy (roomy_of_server_sizes rfl rfl 0 890)
  constructor
  · rw [exact.2.1 ⟨6, 2⟩ (by decide)]
    rfl
  · rw [exact.2.1 ⟨7, 3⟩ (by decide)]
    rfl

/-- Two sessions play one character at one place. -/
def twins : List (SectorWorld.CallOrder × WorldCall) :=
  [(fun _ => .ascending, .enter ⟨5, 1⟩ (ascii "a") (ascii "main") 0 0),
    (fun _ => .ascending, .enter ⟨6, 2⟩ (ascii "a") (ascii "main") 0 0)]

def twinned : SectorWorld :=
  twins.foldl (fun world label => (world.call label.1 label.2).1) .default

/-- Whoever enters next to them is sent the same snapshot twice. -/
theorem twins_repeat_a_snapshot :
    Reachable worldStep SectorWorld.default twinned ∧
    ¬((twinned.enter (fun _ => .ascending) ⟨7, 3⟩ (ascii "b") (ascii "alt") 50 50).2.map
      wire).Nodup := by
  refine ⟨⟨twins, rfl⟩, ?_⟩
  decide

end DungeonPortfolio.Broadcasts
