import DungeonPortfolio.Decimals
import DungeonPortfolio.Library.Printing
import DungeonPortfolio.Library.Roster
import DungeonPortfolio.WorldViews

/-!
# What a stationary watcher can tell from its lines

`EVT ENTER` and `EVT SNAPSHOT` name a player by character and account, `EVT MOVE`
and `EVT DESPAWN` by the character alone. The client below keeps the list of
players around its session from the text of the lines. The list is right as long
as every line that names only a character is about a name whose bearers, among
the players around, are all alike.
-/

namespace DungeonPortfolio.WatcherLines

open DungeonPortfolio.Decimals DungeonPortfolio.Text DungeonPortfolio.World
open DungeonPortfolio.WorldIndex DungeonPortfolio.WorldViews
open Library.Execution Library.HashSet Library.Printing Library.Roster Library.Wrapping

set_option autoImplicit false

/-- What a line says about who is around. -/
inductive Reading where
  | entered (sector : SectorCoord)
  | appears (account character : Bytes) (sector : SectorCoord)
  | moves (character : Bytes) (sector : SectorCoord)
  | disappears (character : Bytes)
  | nothing
  deriving DecidableEq, Repr

def reading : WorldLine → Reading
  | .worldEntered player => .entered player.sector
  | .evtEnter player => .appears player.account player.character player.sector
  | .evtSnapshot player => .appears player.account player.character player.sector
  | .evtMove player => .moves player.character player.sector
  | .evtDespawn player _ => .disappears player.character
  | .worldMoved _ => .nothing
  | .worldAttack _ _ => .nothing
  | .evtAttack _ _ _ => .nothing
  | .errNotInWorld => .nothing

def subject : WorldLine → Option PlayerState
  | .worldEntered player => some player
  | .evtEnter player => some player
  | .evtSnapshot player => some player
  | .worldMoved player => some player
  | .evtMove player => some player
  | .evtDespawn player _ => some player
  | .worldAttack _ _ => none
  | .evtAttack player _ _ => some player
  | .errNotInWorld => none

structure Named (player : PlayerState) : Prop where
  account : space ∉ player.account
  character : space ∉ player.character

def Plain (line : WorldLine) : Prop := ∀ player, subject line = some player → Named player

/-- Enough of the beginning of a line to tell its kind. -/
def tag : WorldLine → Bytes
  | .worldEntered _ => ascii "WORLD E"
  | .evtEnter _ => ascii "EVT ENT"
  | .evtSnapshot _ => ascii "EVT SNA"
  | .worldMoved _ => ascii "WORLD M"
  | .evtMove _ => ascii "EVT MOV"
  | .evtDespawn _ _ => ascii "EVT DES"
  | .worldAttack _ _ => ascii "WORLD A"
  | .evtAttack _ _ _ => ascii "EVT ATT"
  | .errNotInWorld => ascii "ERR not"

theorem take_tag (line : WorldLine) : line.text.take 7 = tag line := by
  cases line <;> rfl

theorem int_no_space (value : Int32) : space ∉ printInt value :=
  not_in_int value (by decide) (by decide)

theorem sector_of_text {first second : SectorCoord}
    (same : sectorString first = sectorString second) : first = second := by
  have whole : ∀ sector : SectorCoord,
      sectorString sector = printInt sector.x ++ comma :: printInt sector.y := by
    intro sector
    rw [sectorString, List.append_assoc]
    rfl
  rw [whole, whole] at same
  rcases cut_first (not_in_int _ (by decide) (by decide)) (not_in_int _ (by decide) (by decide)) same
    with ⟨sameX, sameY⟩
  cases first
  cases second
  congr 1
  · exact print_int_injective sameX
  · exact print_int_injective sameY

theorem word_cut {first second rest more : Bytes} (clean : space ∉ first) (also : space ∉ second)
    {front : Bytes} (same : first ++ space :: front ++ rest = second ++ space :: front ++ more) :
    first = second ∧ rest = more := by
  rw [List.append_assoc, List.append_assoc, List.cons_append, List.cons_append] at same
  rcases cut_first clean also same with ⟨words, tails⟩
  exact ⟨words, List.append_cancel_left tails⟩

theorem sector_of_position {first second : PlayerState}
    (same : positionText first = positionText second) : first.sector = second.sector := by
  have whole : ∀ player : PlayerState, positionText player = ascii " x=" ++
      (printInt player.x ++ space :: ascii "y=" ++
        (printInt player.y ++ space :: ascii "sector=" ++ sectorString player.sector)) := by
    intro player
    simp only [positionText, List.append_assoc]
    rfl
  rw [whole, whole] at same
  have afterX := (word_cut (int_no_space _) (int_no_space _) (List.append_cancel_left same)).2
  have afterY := (word_cut (int_no_space _) (int_no_space _) afterX).2
  exact sector_of_text afterY

theorem name_and_tail {first second front rest more : Bytes} (clean : space ∉ first)
    (also : space ∉ second)
    (same : front ++ first ++ space :: rest = front ++ second ++ space :: more) :
    first = second ∧ rest = more := by
  rw [List.append_assoc, List.append_assoc] at same
  exact cut_first clean also (List.append_cancel_left same)

theorem position_starts (player : PlayerState) :
    ∃ rest, positionText player = space :: rest := by
  refine ⟨(positionText player).tail, ?_⟩
  simp only [positionText, List.append_assoc]
  rfl

theorem character_and_sector {first second : PlayerState} {front : Bytes} (named : Named first)
    (also : Named second)
    (same : front ++ first.character ++ positionText first =
      front ++ second.character ++ positionText second) :
    first.character = second.character ∧ first.sector = second.sector := by
  rcases position_starts first with ⟨rest, starts⟩
  rcases position_starts second with ⟨more, begins⟩
  rw [starts, begins] at same
  rcases name_and_tail named.character also.character same with ⟨characters, tails⟩
  refine ⟨characters, sector_of_position ?_⟩
  rw [starts, begins, tails]

theorem names_and_sector {first second : PlayerState} {front : Bytes} (named : Named first)
    (also : Named second)
    (same : front ++ first.character ++ ascii " account=" ++ first.account ++ positionText first =
      front ++ second.character ++ ascii " account=" ++ second.account ++ positionText second) :
    first.account = second.account ∧ first.character = second.character ∧
      first.sector = second.sector := by
  rcases position_starts first with ⟨rest, starts⟩
  rcases position_starts second with ⟨more, begins⟩
  have whole : ∀ character account tail : Bytes,
      front ++ character ++ ascii " account=" ++ account ++ tail =
        front ++ character ++ space :: (ascii "account=" ++ account ++ tail) := by
    intro character account tail
    simp only [List.append_assoc]
    rfl
  rw [whole, whole] at same
  rcases name_and_tail named.character also.character same with ⟨characters, tails⟩
  rw [starts, begins] at tails
  rcases name_and_tail named.account also.account tails with ⟨accounts, positions⟩
  refine ⟨accounts, characters, sector_of_position ?_⟩
  rw [starts, begins, positions]

/-- The text of a line says what the client reads in it. -/
theorem reading_of_text {first second : WorldLine} (plain : Plain first) (also : Plain second)
    (same : first.text = second.text) : reading first = reading second := by
  have tags : tag first = tag second := by
    rw [← take_tag, ← take_tag, same]
  cases first <;> cases second <;> first | rfl | exact absurd tags (by simp only [tag]; decide) | skip
  · rename_i player other
    exact congrArg Reading.entered
      (character_and_sector (plain player rfl) (also other rfl) same).2
  · rename_i player other
    rcases names_and_sector (plain player rfl) (also other rfl) same with
      ⟨accounts, characters, sectors⟩
    rw [reading, reading, accounts, characters, sectors]
  · rename_i player other
    rcases names_and_sector (plain player rfl) (also other rfl) same with
      ⟨accounts, characters, sectors⟩
    rw [reading, reading, accounts, characters, sectors]
  · rename_i player other
    rcases character_and_sector (plain player rfl) (also other rfl) same with
      ⟨characters, sectors⟩
    rw [reading, reading, characters, sectors]
  · rename_i player reason other because
    have whole : ∀ character reason tail : Bytes,
        ascii "EVT DESPAWN " ++ character ++ ascii " reason=" ++ reason ++ ascii " sector=" ++ tail =
          ascii "EVT DESPAWN " ++ character ++
            space :: (ascii "reason=" ++ reason ++ ascii " sector=" ++ tail) := by
      intro character reason tail
      simp only [List.append_assoc]
      rfl
    rw [WorldLine.text, WorldLine.text, whole, whole] at same
    rw [reading, reading,
      (name_and_tail (plain player rfl).character (also other rfl).character same).1]

structure Sighting where
  account : Bytes
  character : Bytes
  near : Bool
  deriving DecidableEq, Repr

/-- Whether a sector that `watchers_around` visits is within the radius. The
answer is the same for every radius, so the client need not know it. -/
def near (centre sector : SectorCoord) : Bool := decide (Sees Int32.maxValue centre sector)

def sight (centre : SectorCoord) (player : PlayerState) : Sighting :=
  ⟨player.account, player.character, near centre player.sector⟩

structure Client where
  centre : SectorCoord
  around : List Sighting
  deriving DecidableEq, Repr

def Client.start : Client := ⟨⟨0, 0⟩, []⟩

def Client.read (client : Client) : Reading → Client
  | .entered sector => ⟨sector, []⟩
  | .appears account character sector => { client with
      around := ⟨account, character, near client.centre sector⟩ :: client.around }
  | .moves character sector => { client with
      around := amend Sighting.character character
        (fun sighting => { sighting with near := near client.centre sector }) client.around }
  | .disappears character => { client with
      around := drop Sighting.character character client.around }
  | .nothing => client

def Client.readAll (client : Client) (lines : List WorldLine) : Client :=
  (lines.map reading).foldl Client.read client

theorem read_all_append (client : Client) (first second : List WorldLine) :
    client.readAll (first ++ second) = (client.readAll first).readAll second := by
  rw [Client.readAll, List.map_append, List.foldl_append]
  rfl

def sentTo (who : SessionRef) (events : List WorldEvent) : List WorldLine :=
  (events.filter fun event => decide (event.receiver = who)).map WorldEvent.line

theorem sent_append (who : SessionRef) (first second : List WorldEvent) :
    sentTo who (first ++ second) = sentTo who first ++ sentTo who second := by
  rw [sentTo, List.filter_append, List.map_append]
  rfl

theorem sent_addressed (order : IterationOrder SessionRef) (items : Finset SessionRef)
    (line : SessionRef → Option WorldLine) (who : SessionRef) :
    sentTo who ((order.list items).filterMap fun receiver =>
        (line receiver).map fun text => (⟨receiver, text⟩ : WorldEvent)) =
      if who ∈ items then (line who).toList else [] := by
  rw [sentTo, filter_addressed]
  by_cases member : who ∈ items
  · rw [if_pos member, if_pos member]
    cases line who <;> rfl
  · rw [if_neg member, if_neg member]
    rfl

theorem sent_elsewhere {who : SessionRef} {events : List WorldEvent}
    (elsewhere : ∀ event ∈ events, event.receiver ≠ who) : sentTo who events = [] := by
  have unaddressed : events.filter (fun event => decide (event.receiver = who)) = [] := by
    rw [List.filter_eq_nil_iff]
    intro event listed
    simpa using elsewhere event listed
  rw [sentTo, unaddressed]
  rfl

theorem visits_comm {world : SectorWorld} {first second : SectorCoord} :
    Visits world.viewRadius first second ↔ Visits world.viewRadius second first := by
  have bound : world.viewRadius.toInt ≤ 2147483647 := by
    have upper := world.viewRadius.toInt_lt
    omega
  exact and_congr (reaches_comm bound) (reaches_comm bound)

theorem near_iff_sees {world : SectorWorld} {centre sector : SectorCoord}
    (visits : Visits world.viewRadius centre sector) :
    near centre sector = true ↔ Sees world.viewRadius centre sector := by
  have bound : world.viewRadius.toInt ≤ 2147483647 := by
    have upper := world.viewRadius.toInt_lt
    omega
  rw [near, decide_eq_true_iff]
  exact and_congr (near_iff_of_reaches bound visits.1).symm (near_iff_of_reaches bound visits.2).symm

/-- The other players in the cells visited from the watcher's. -/
def around (world : SectorWorld) (who : SessionRef) (watcher : PlayerState) : Finset SessionRef :=
  (world.watchersAround watcher.sector).erase who

theorem mem_around {world : SectorWorld} (indexed : Indexed world) {who ref : SessionRef}
    {watcher : PlayerState} :
    ref ∈ around world who watcher ↔ ref ≠ who ∧ ∃ player, world.players ref = some player ∧
      Visits world.viewRadius watcher.sector player.sector := by
  rw [around, Finset.mem_erase, mem_watchers_iff indexed]

def sighting (world : SectorWorld) (centre : SectorCoord) (ref : SessionRef) : Sighting :=
  ((world.players ref).map (sight centre)).getD ⟨[], [], false⟩

theorem sighting_present {world : SectorWorld} {ref : SessionRef} {player : PlayerState}
    (present : world.players ref = some player) (centre : SectorCoord) :
    sighting world centre ref = sight centre player := by
  rw [sighting, present]
  rfl

/-- The client lists the players around its session. -/
structure Keeps (world : SectorWorld) (who : SessionRef) (watcher : PlayerState)
    (client : Client) : Prop where
  centre : client.centre = watcher.sector
  lists : Lists client.around (around world who watcher) (sighting world watcher.sector)

section

variable {world next : SectorWorld} {who ref : SessionRef} {watcher : PlayerState}

theorem around_forget (indexed : Indexed world) (after : Indexed next)
    (radius : next.viewRadius = world.viewRadius)
    (players : next.players = Function.update world.players ref none) (who : SessionRef)
    (watcher : PlayerState) :
    around next who watcher = (around world who watcher).erase ref := by
  ext other
  rw [mem_around after, Finset.mem_erase, mem_around indexed, players, radius]
  by_cases self : other = ref
  · rw [self, Function.update_self]
    simp
  · rw [Function.update_of_ne self]
    simp [self]

theorem mem_around_place (indexed : Indexed world) (after : Indexed next)
    (radius : next.viewRadius = world.viewRadius) {player : PlayerState}
    (players : next.players = Function.update world.players ref (some player))
    (different : ref ≠ who) (other : SessionRef) :
    other ∈ around next who watcher ↔
      (other = ref ∧ Visits world.viewRadius watcher.sector player.sector) ∨
        (other ≠ ref ∧ other ∈ around world who watcher) := by
  rw [mem_around after, mem_around indexed, players, radius]
  by_cases self : other = ref
  · rw [self, Function.update_self]
    simp [different]
  · rw [Function.update_of_ne self]
    simp [self]

theorem around_reached (indexed : Indexed world) (after : Indexed next)
    (radius : next.viewRadius = world.viewRadius) {player : PlayerState}
    (players : next.players = Function.update world.players ref (some player))
    (different : ref ≠ who)
    (visits : Visits world.viewRadius watcher.sector player.sector) :
    around next who watcher = insert ref ((around world who watcher).erase ref) := by
  ext other
  rw [mem_around_place indexed after radius players different, Finset.mem_insert, Finset.mem_erase]
  simp [visits]

theorem around_unreached (indexed : Indexed world) (after : Indexed next)
    (radius : next.viewRadius = world.viewRadius) {player : PlayerState}
    (players : next.players = Function.update world.players ref (some player))
    (different : ref ≠ who)
    (hidden : ¬Visits world.viewRadius watcher.sector player.sector) :
    around next who watcher = (around world who watcher).erase ref := by
  ext other
  rw [mem_around_place indexed after radius players different, Finset.mem_erase]
  simp [hidden]

theorem sighting_other {change : Option PlayerState}
    (players : next.players = Function.update world.players ref change) (centre : SectorCoord)
    (other : SessionRef) (elsewhere : other ≠ ref) :
    sighting world centre other = sighting next centre other := by
  rw [sighting, sighting, players, Function.update_of_ne elsewhere]

variable {client : Client}

theorem keeps_gone (keeps : Keeps world who watcher client) (absent : ref ∉ around world who watcher)
    (gone : around next who watcher = (around world who watcher).erase ref)
    (others : ∀ other, other ≠ ref →
      sighting world watcher.sector other = sighting next watcher.sector other) :
    Keeps next who watcher client := by
  refine ⟨keeps.centre, ?_⟩
  rw [gone, Finset.erase_eq_of_notMem absent]
  apply lists_congr keeps.lists
  intro other inside
  apply others
  intro self
  rw [self] at inside
  exact absent inside

theorem keeps_disappears (keeps : Keeps world who watcher client)
    (present : ref ∈ around world who watcher)
    (identified : Identified Sighting.character (around world who watcher)
      (sighting world watcher.sector) ref)
    (gone : around next who watcher = (around world who watcher).erase ref)
    (others : ∀ other, other ≠ ref →
      sighting world watcher.sector other = sighting next watcher.sector other) :
    Keeps next who watcher
      (client.read (.disappears (sighting world watcher.sector ref).character)) := by
  refine ⟨keeps.centre, ?_⟩
  rw [gone]
  apply lists_congr (lists_drop keeps.lists present identified)
  intro other inside
  exact others other (Finset.ne_of_mem_erase inside)

theorem keeps_appears (keeps : Keeps world who watcher client)
    (absent : ref ∉ around world who watcher) {player : PlayerState}
    (came : around next who watcher = insert ref ((around world who watcher).erase ref))
    (there : sighting next watcher.sector ref = sight watcher.sector player)
    (others : ∀ other, other ≠ ref →
      sighting world watcher.sector other = sighting next watcher.sector other) :
    Keeps next who watcher
      (client.read (.appears player.account player.character player.sector)) := by
  refine ⟨keeps.centre, ?_⟩
  have kept : Lists client.around (around world who watcher) (sighting next watcher.sector) := by
    apply lists_congr keeps.lists
    intro other inside
    apply others
    intro self
    rw [self] at inside
    exact absent inside
  have added := lists_insert kept absent
  rw [there] at added
  rw [came, Finset.erase_eq_of_notMem absent, Client.read, keeps.centre]
  exact added

theorem keeps_moves (keeps : Keeps world who watcher client)
    (present : ref ∈ around world who watcher) {sector : SectorCoord}
    (same : around next who watcher = around world who watcher)
    (there : sighting next watcher.sector ref =
      { sighting world watcher.sector ref with near := near watcher.sector sector })
    (others : ∀ other, other ≠ ref →
      sighting world watcher.sector other = sighting next watcher.sector other)
    (told : Identified Sighting.character (around world who watcher)
        (sighting world watcher.sector) ref ∨
      ∀ other ∈ around world who watcher, (sighting world watcher.sector other).character =
        (sighting world watcher.sector ref).character →
          (sighting world watcher.sector other).near = near watcher.sector sector) :
    Keeps next who watcher
      (client.read (.moves (sighting world watcher.sector ref).character sector)) := by
  refine ⟨keeps.centre, ?_⟩
  rw [same, Client.read, keeps.centre]
  rcases told with identified | idle
  · apply lists_amend keeps.lists present identified there
    intro other _ elsewhere
    exact (others other elsewhere).symm
  · have kept := lists_amend_idle Sighting.character keeps.lists present
      (fun sighting => { sighting with near := near watcher.sector sector }) (by
        intro other inside namesake
        rw [← idle other inside namesake])
    apply lists_congr kept
    intro other inside
    by_cases self : other = ref
    · rw [self, there, ← idle ref present rfl]
    · exact others other self

end

/-- Among the players around the watcher the namesakes of `ref` look alike: they
have its account and are within the radius if it is. -/
def Known (who : SessionRef) (world : SectorWorld) (ref : SessionRef) : Prop :=
  ∀ watcher, world.players who = some watcher → ref ∈ around world who watcher →
    Identified Sighting.character (around world who watcher) (sighting world watcher.sector) ref

/-- A move within reach that leaves `ref` within the radius, or out of it, where
all its namesakes are too. -/
def Unremarkable (who : SessionRef) (world : SectorWorld) (ref : SessionRef)
    (sector : SectorCoord) : Prop :=
  ∀ watcher, world.players who = some watcher → Visits world.viewRadius watcher.sector sector ∧
    ∀ other ∈ around world who watcher, (sighting world watcher.sector other).character =
      (sighting world watcher.sector ref).character →
        (sighting world watcher.sector other).near = near watcher.sector sector

/-- The call sends the watcher no line whose name leaves open whom it is about. -/
def TellsWho (who : SessionRef) (world : SectorWorld) : WorldCall → Prop
  | .enter ref _ _ _ _ => Known who world ref
  | .move ref x y => Known who world ref ∨ Unremarkable who world ref (world.sectorFor x y)
  | .attack _ _ _ => True
  | .leave ref => Known who world ref

instance (radius : Int32) (centre sector : SectorCoord) :
    Decidable (Visits radius centre sector) := inferInstanceAs (Decidable (_ ∧ _))

instance (who : SessionRef) (world : SectorWorld) (ref : SessionRef) :
    Decidable (Known who world ref) :=
  inferInstanceAs (Decidable (∀ watcher ∈ world.players who, _ → _))

instance (who : SessionRef) (world : SectorWorld) (ref : SessionRef) (sector : SectorCoord) :
    Decidable (Unremarkable who world ref sector) :=
  inferInstanceAs (Decidable (∀ watcher ∈ world.players who, _ ∧ ∀ other ∈ _, _ → _))

instance (who : SessionRef) (world : SectorWorld) (call : WorldCall) :
    Decidable (TellsWho who world call) := by
  cases call <;> unfold TellsWho <;> infer_instance

section

variable {world : SectorWorld} {who ref : SessionRef} {watcher : PlayerState} {client : Client}

theorem watches_iff (indexed : Indexed world) {player : PlayerState}
    (present : world.players ref = some player) (watching : world.players who = some watcher)
    (other : ref ≠ who) :
    who ∈ world.watchersAround player.sector ↔ ref ∈ around world who watcher := by
  rw [mem_watchers_iff indexed, mem_around indexed, watching, present]
  simp [other, visits_comm]

theorem leave_sends (order : SectorWorld.CallOrder) {player : PlayerState}
    (present : world.players ref = some player) (other : who ≠ ref) :
    sentTo who (world.leave order ref PlayerSnapshot.empty).2.1 =
      if who ∈ world.watchersAround player.sector
        then [.evtDespawn player (ascii "leave")] else [] := by
  rw [leave_present order PlayerSnapshot.empty present, leave_events_addressed, sent_addressed,
    if_neg other]
  rfl

theorem leave_sends_self (world : SectorWorld) (order : SectorWorld.CallOrder) (ref : SessionRef) :
    sentTo ref (world.leave order ref PlayerSnapshot.empty).2.1 = [] := by
  cases lookup : world.players ref with
  | none =>
      rw [leave_absent order PlayerSnapshot.empty lookup]
      rfl
  | some player =>
      rw [leave_present order PlayerSnapshot.empty lookup]
      apply sent_elsewhere
      intro event listed
      rcases List.mem_map.mp listed with ⟨receiver, kept, rfl⟩
      simpa using (List.mem_filter.mp kept).2

theorem keeps_leave (indexed : Indexed world) (keeps : Keeps world who watcher client)
    (watching : world.players who = some watcher) (known : Known who world ref)
    (order : SectorWorld.CallOrder) (other : ref ≠ who) :
    Keeps (world.leave order ref PlayerSnapshot.empty).1 who watcher
      (client.readAll (sentTo who (world.leave order ref PlayerSnapshot.empty).2.1)) := by
  have after := indexed_leave indexed order ref PlayerSnapshot.empty
  have players := leave_players world order ref PlayerSnapshot.empty
  have gone := around_forget indexed after (leave_radius world order ref _) players who watcher
  cases lookup : world.players ref with
  | none =>
      rw [leave_absent order PlayerSnapshot.empty lookup]
      exact keeps
  | some player =>
      have sees := watches_iff indexed lookup watching other
      rw [leave_sends order lookup (Ne.symm other)]
      by_cases reached : ref ∈ around world who watcher
      · rw [if_pos (sees.mpr reached)]
        have told := keeps_disappears keeps reached (known watcher watching reached) gone
          (sighting_other players watcher.sector)
        rw [sighting_present lookup] at told
        exact told
      · rw [if_neg (fun member => reached (sees.mp member))]
        exact keeps_gone keeps reached gone (sighting_other players watcher.sector)

theorem around_left (indexed : Indexed world) (order : SectorWorld.CallOrder)
    (ref who : SessionRef) (watcher : PlayerState) :
    ref ∉ around (world.leave order ref PlayerSnapshot.empty).1 who watcher := by
  rw [mem_around (indexed_leave indexed order ref PlayerSnapshot.empty), leave_players,
    Function.update_self]
  rintro ⟨_, player, present, _⟩
  cases present

theorem sent_snapshots_other (players : List PlayerState) (other : who ≠ ref) :
    sentTo who (players.map fun player => (⟨ref, .evtSnapshot player⟩ : WorldEvent)) = [] := by
  apply sent_elsewhere
  intro event listed
  rcases List.mem_map.mp listed with ⟨player, _, rfl⟩
  exact Ne.symm other

theorem enter_sends (order : SectorWorld.CallOrder) (account character : Bytes) (x y : Int32)
    (other : who ≠ ref) :
    sentTo who (world.enter order ref account character x y).2 =
      sentTo who (world.leave order ref PlayerSnapshot.empty).2.1 ++
        if who ∈ (world.enter order ref account character x y).1.watchersAround
            (world.sectorFor x y)
          then [.evtEnter (newcomer world ref account character x y)] else [] := by
  rw [enter_events, sent_append, sent_append, enter_announcements, sent_addressed, if_neg other,
    enter_snapshots, sent_snapshots_other _ other, List.append_nil]
  rfl

/-- An `enter` is a `leave` followed by the arrival. -/
theorem keeps_enter (indexed : Indexed world) (keeps : Keeps world who watcher client)
    (watching : world.players who = some watcher) (known : Known who world ref)
    (order : SectorWorld.CallOrder) (account character : Bytes) (x y : Int32)
    (other : ref ≠ who) :
    Keeps (world.enter order ref account character x y).1 who watcher
      (client.readAll (sentTo who (world.enter order ref account character x y).2)) := by
  have left := indexed_leave indexed order ref PlayerSnapshot.empty
  have after := indexed_enter indexed order ref account character x y
  have departed := keeps_leave indexed keeps watching known order other
  have players : (world.enter order ref account character x y).1.players =
      Function.update (world.leave order ref PlayerSnapshot.empty).1.players ref
        (some (newcomer world ref account character x y)) := by
    rw [enter_players, leave_players, Function.update_idem]
  have radius : (world.enter order ref account character x y).1.viewRadius =
      (world.leave order ref PlayerSnapshot.empty).1.viewRadius := by
    rw [enter_radius, leave_radius]
  have absent := around_left indexed order ref who watcher
  have sees := enter_watchers indexed order ref account character x y who (Ne.symm other)
  rw [watching] at sees
  simp only [Option.some.injEq, exists_eq_left'] at sees
  have others := sighting_other players watcher.sector
  rw [enter_sends order account character x y (Ne.symm other), read_all_append]
  by_cases reached : who ∈ (world.enter order ref account character x y).1.watchersAround
      (world.sectorFor x y)
  · rw [if_pos reached]
    have visits := visits_comm.mp (sees.mp reached)
    rw [← leave_radius world order ref PlayerSnapshot.empty] at visits
    apply keeps_appears departed absent (around_reached left after radius players other visits) _
      others
    apply sighting_present
    rw [enter_players, Function.update_self]
  · rw [if_neg reached]
    have hidden : ¬Visits (world.leave order ref PlayerSnapshot.empty).1.viewRadius watcher.sector
        (world.sectorFor x y) := by
      rw [leave_radius, visits_comm]
      exact fun visits => reached (sees.mpr visits)
    exact keeps_gone departed absent (around_unreached left after radius players other hidden)
      others

theorem move_sends (order : SectorWorld.CallOrder) {old : PlayerState}
    (present : world.players ref = some old) (x y : Int32) (other : who ≠ ref) :
    sentTo who (world.move order ref x y).2 =
      if who ∈ world.watchersAround old.sector
        then if who ∈ (world.move order ref x y).1.watchersAround (world.sectorFor x y)
          then [.evtMove (relocated world old x y)]
          else [.evtDespawn (relocated world old x y) (ascii "sector_out")]
        else if who ∈ (world.move order ref x y).1.watchersAround (world.sectorFor x y)
          then [.evtEnter (relocated world old x y)] else [] := by
  rw [move_events order x y present, sent_addressed]
  by_cases before : who ∈ world.watchersAround old.sector <;>
    by_cases now : who ∈ (world.move order ref x y).1.watchersAround (world.sectorFor x y) <;>
    simp [SectorWorld.moveLine, other, before, now]

theorem keeps_move (indexed : Indexed world) (keeps : Keeps world who watcher client)
    (watching : world.players who = some watcher) (order : SectorWorld.CallOrder) (x y : Int32)
    (tells : Known who world ref ∨ Unremarkable who world ref (world.sectorFor x y))
    (other : ref ≠ who) :
    Keeps (world.move order ref x y).1 who watcher
      (client.readAll (sentTo who (world.move order ref x y).2)) := by
  have after := indexed_move indexed order ref x y
  cases lookup : world.players ref with
  | none =>
      rw [move_absent order x y lookup, sent_elsewhere]
      · exact keeps
      · intro event listed
        obtain rfl := List.mem_singleton.mp listed
        exact other
  | some old =>
      have players := move_players order x y lookup
      have radius := move_radius world order ref x y
      have saw := watches_iff indexed lookup watching other
      have sees := move_watchers indexed order x y lookup who (Ne.symm other)
      rw [watching] at sees
      simp only [Option.some.injEq, exists_eq_left'] at sees
      rw [visits_comm] at sees
      have others := sighting_other players watcher.sector
      have there : sighting (world.move order ref x y).1 watcher.sector ref =
          sight watcher.sector (relocated world old x y) := by
        apply sighting_present
        rw [players, Function.update_self]
      have was := sighting_present lookup watcher.sector
      rw [move_sends order lookup x y (Ne.symm other)]
      by_cases now : who ∈ (world.move order ref x y).1.watchersAround (world.sectorFor x y)
      · have came := around_reached indexed after radius players other (sees.mp now)
        by_cases before : ref ∈ around world who watcher
        · rw [if_pos (saw.mpr before), if_pos now]
          rw [Finset.insert_erase before] at came
          have moved := keeps_moves keeps before came (by rw [there, was]; rfl) others
            (tells.imp (fun known => known watcher watching before)
              fun idle => (idle watcher watching).2)
          rw [was] at moved
          exact moved
        · rw [if_neg (fun member => before (saw.mp member)), if_pos now]
          exact keeps_appears keeps before came there others
      · have gone := around_unreached indexed after radius players other
          fun visits => now (sees.mpr visits)
        by_cases before : ref ∈ around world who watcher
        · rw [if_pos (saw.mpr before), if_neg now]
          have known : Known who world ref := by
            rcases tells with known | idle
            · exact known
            · exact absurd (sees.mpr (idle watcher watching).1) now
          have told := keeps_disappears keeps before (known watcher watching before) gone others
          rw [was] at told
          exact told
        · rw [if_neg (fun member => before (saw.mp member)), if_neg now]
          exact keeps_gone keeps before gone others

/-- Who is not in the world hears nothing of the calls of others. -/
theorem outside_silent (indexed : Indexed world) (outside : world.players who = none)
    (order : SectorWorld.CallOrder) (other : ref ≠ who) :
    sentTo who (world.leave order ref PlayerSnapshot.empty).2.1 = [] ∧
      (∀ account character x y,
        sentTo who (world.enter order ref account character x y).2 = []) ∧
      ∀ x y, sentTo who (world.move order ref x y).2 = [] := by
  have unwatching : ∀ sector, who ∉ world.watchersAround sector := by
    intro sector member
    rcases (mem_watchers_iff indexed sector who).mp member with ⟨watcher, present, _⟩
    rw [outside] at present
    cases present
  have departed : sentTo who (world.leave order ref PlayerSnapshot.empty).2.1 = [] := by
    cases lookup : world.players ref with
    | none =>
        rw [leave_absent order PlayerSnapshot.empty lookup]
        rfl
    | some player => rw [leave_sends order lookup (Ne.symm other), if_neg (unwatching _)]
  refine ⟨departed, ?_, ?_⟩
  · intro account character x y
    rw [enter_sends order account character x y (Ne.symm other), departed, List.nil_append]
    apply if_neg
    rw [enter_watchers indexed order ref account character x y who (Ne.symm other), outside]
    simp
  · intro x y
    cases lookup : world.players ref with
    | none =>
        rw [move_absent order x y lookup]
        apply sent_elsewhere
        intro event listed
        obtain rfl := List.mem_singleton.mp listed
        exact other
    | some old =>
        rw [move_sends order lookup x y (Ne.symm other), if_neg (unwatching _)]
        apply if_neg
        rw [move_watchers indexed order x y lookup who (Ne.symm other), outside]
        simp

end

theorem read_all_silent {lines : List WorldLine} (silent : ∀ line ∈ lines, reading line = .nothing)
    (client : Client) : client.readAll lines = client := by
  induction lines generalizing client with
  | nil => rfl
  | cons line rest ih =>
      have here := silent line List.mem_cons_self
      have later := ih (fun other listed => silent other (List.mem_cons_of_mem line listed)) client
      rw [Client.readAll, List.map_cons, List.foldl_cons, here]
      exact later

theorem attack_silent (world : SectorWorld) (order : SectorWorld.CallOrder) (ref who : SessionRef)
    (skill target : Bytes) :
    ∀ line ∈ sentTo who (world.attack order ref skill target), reading line = .nothing := by
  intro line listed
  rcases List.mem_map.mp listed with ⟨event, sent, rfl⟩
  replace sent := (List.mem_filter.mp sent).1
  unfold SectorWorld.attack at sent
  split at sent
  · obtain rfl := List.mem_singleton.mp sent
    rfl
  · rcases List.mem_map.mp sent with ⟨receiver, _, rfl⟩
    by_cases self : receiver = ref <;> simp [reading, self]

theorem read_snapshots {world : SectorWorld} (client : Client) {refs : List SessionRef}
    (present : ∀ ref ∈ refs, ∃ player, world.players ref = some player) :
    client.readAll (refs.filterMap fun ref => (world.players ref).map WorldLine.evtSnapshot) =
      ⟨client.centre,
        (refs.map (sighting world client.centre)).reverse ++ client.around⟩ := by
  induction refs generalizing client with
  | nil => rfl
  | cons ref rest ih =>
      obtain ⟨player, lookup⟩ := present ref List.mem_cons_self
      have later := ih (client.read (reading (.evtSnapshot player)))
        fun other listed => present other (List.mem_cons_of_mem ref listed)
      rw [List.filterMap_cons_some (by rw [lookup]; rfl)]
      rw [List.map_cons, List.reverse_cons, List.append_assoc, List.singleton_append,
        sighting_present lookup]
      exact later

theorem enter_sends_self {world : SectorWorld} (indexed : Indexed world)
    (order : SectorWorld.CallOrder) {who : SessionRef} (account character : Bytes) (x y : Int32) :
    sentTo who (world.enter order who account character x y).2 =
      .worldEntered (newcomer world who account character x y) ::
        (((order 1).list ((world.enter order who account character x y).1.watchersAround
          (world.sectorFor x y))).filter fun receiver => receiver ≠ who).filterMap fun ref =>
            ((world.enter order who account character x y).1.players ref).map
              WorldLine.evtSnapshot := by
  have snapshots : ∀ players : List PlayerState,
      sentTo who (players.map fun player => (⟨who, .evtSnapshot player⟩ : WorldEvent)) =
        players.map WorldLine.evtSnapshot := by
    intro players
    rw [sentTo, List.filter_eq_self.mpr (by simp), List.map_map]
    rfl
  rw [enter_events, sent_append, sent_append, leave_sends_self, enter_announcements, sent_addressed,
    if_pos (enter_watches_self indexed order who account character x y), enter_snapshots,
    snapshots, if_pos rfl, snapshotPlayers, List.map_filterMap]
  rfl

theorem keeps_own_entry {world : SectorWorld} (indexed : Indexed world)
    (order : SectorWorld.CallOrder) {who : SessionRef} (account character : Bytes) (x y : Int32)
    (client : Client) :
    Keeps (world.enter order who account character x y).1 who
      (newcomer world who account character x y)
      (client.readAll (sentTo who (world.enter order who account character x y).2)) := by
  have after := indexed_enter indexed order who account character x y
  have listed : ∀ ref, ref ∈ ((order 1).list
      ((world.enter order who account character x y).1.watchersAround (world.sectorFor x y))).filter
        (fun receiver => receiver ≠ who) ↔
      ref ∈ around (world.enter order who account character x y).1 who
        (newcomer world who account character x y) := by
    intro ref
    rw [List.mem_filter, (order 1).mem_list, around, Finset.mem_erase, and_comm]
    simp [newcomer]
  have present : ∀ ref ∈ ((order 1).list
      ((world.enter order who account character x y).1.watchersAround (world.sectorFor x y))).filter
        (fun receiver => receiver ≠ who),
      ∃ player, (world.enter order who account character x y).1.players ref = some player := by
    intro ref member
    rcases ((mem_around after).mp ((listed ref).mp member)).2 with ⟨player, lookup, _⟩
    exact ⟨player, lookup⟩
  rw [enter_sends_self indexed order account character x y]
  have heard := read_snapshots (client.read (.entered (world.sectorFor x y))) present
  refine (congrArg (Keeps _ who _) heard).mpr ?_
  refine ⟨rfl, ?_⟩
  rw [Client.read, List.append_nil]
  exact lists_of_nodup (((order 1).nodup _).filter _) listed _

/-- The world and all events it has produced. -/
structure Logged where
  world : SectorWorld
  sent : List WorldEvent

def loggedStep (state : Logged) (label : SectorWorld.CallOrder × WorldCall) : Option Logged :=
  some ⟨(state.world.call label.1 label.2).1,
    state.sent ++ (state.world.call label.1 label.2).2⟩

theorem logged_indexed {start state : Logged} (indexed : Indexed start.world)
    (reachable : Reachable loggedStep start state) : Indexed state.world := by
  apply reachable.invariant indexed
  intro source label next before taken
  obtain rfl := Option.some.inj taken
  exact indexed_call before label.1 label.2

/-- What a client of `who` that starts with nothing has made of its lines. -/
def listen (who : SessionRef) (sent : List WorldEvent) : Client :=
  Client.start.readAll (sentTo who sent)

theorem listen_append (who : SessionRef) (sent events : List WorldEvent) :
    listen who (sent ++ events) = (listen who sent).readAll (sentTo who events) := by
  rw [listen, sent_append, read_all_append]
  rfl

def enters (who : SessionRef) : WorldCall → Bool
  | .enter ref _ _ _ _ => decide (ref = who)
  | _ => false

/-- Before its only entry the watcher hears nothing, as long as it is in the world
its client is right. -/
structure Follows (who : SessionRef) (entries : Nat) (state : Logged) : Prop where
  indexed : Indexed state.world
  outside : state.world.players who = none → entries = 0 → listen who state.sent = Client.start
  inside : ∀ watcher, state.world.players who = some watcher →
    0 < entries ∧ Keeps state.world who watcher (listen who state.sent)

theorem Follows.fresh {who : SessionRef} {entries : Nat} {state : Logged}
    (follows : Follows who entries state) (none : entries = 0) :
    state.world.players who = .none := by
  cases lookup : state.world.players who with
  | none => rfl
  | some watcher =>
      have positive := (follows.inside watcher lookup).1
      omega

theorem follows_step {who : SessionRef} {entries : Nat} {state next : Logged}
    {label : SectorWorld.CallOrder × WorldCall} (follows : Follows who entries state)
    (taken : loggedStep state label = some next)
    (once : enters who label.2 = true → entries = 0) (still : ∀ x y, label.2 ≠ .move who x y)
    (tells : TellsWho who state.world label.2) :
    Follows who (entries + if enters who label.2 then 1 else 0) next := by
  obtain rfl := Option.some.inj taken
  rcases label with ⟨order, call⟩
  have indexed := follows.indexed
  refine ⟨indexed_call indexed order call, ?_, ?_⟩
  · intro outside unentered
    have before : entries = 0 := by omega
    have fresh := follows.fresh before
    have heard := follows.outside fresh before
    rw [listen_append, heard]
    cases call with
    | enter ref account character x y =>
        by_cases self : ref = who
        · simp [enters, self] at unentered
        · rw [SectorWorld.call, (outside_silent indexed fresh order self).2.1]
          rfl
    | move ref x y =>
        have self : ref ≠ who := fun same => still x y (by rw [same])
        rw [SectorWorld.call, (outside_silent indexed fresh order self).2.2]
        rfl
    | attack ref skill target =>
        exact read_all_silent (attack_silent state.world order ref who skill target) _
    | leave ref =>
        by_cases self : ref = who
        · rw [self, SectorWorld.call, leave_absent order PlayerSnapshot.empty fresh]
          rfl
        · rw [SectorWorld.call, (outside_silent indexed fresh order self).1]
          rfl
  · intro watcher inside
    rw [listen_append]
    cases call with
    | enter ref account character x y =>
        rw [SectorWorld.call, enter_players] at inside
        by_cases self : ref = who
        · subst ref
          rw [Function.update_self] at inside
          rw [← Option.some.inj inside, enters, decide_eq_true rfl, if_pos rfl]
          exact ⟨Nat.succ_pos _, keeps_own_entry indexed order account character x y _⟩
        · rw [Function.update_of_ne (Ne.symm self)] at inside
          rcases follows.inside watcher inside with ⟨entered, keeps⟩
          exact ⟨by omega, keeps_enter indexed keeps inside tells order account character x y self⟩
    | move ref x y =>
        have self : ref ≠ who := fun same => still x y (by rw [same])
        have before : state.world.players who = some watcher := by
          rw [SectorWorld.call] at inside
          cases lookup : state.world.players ref with
          | none => rwa [move_absent order x y lookup] at inside
          | some old =>
              rwa [move_players order x y lookup, Function.update_of_ne (Ne.symm self)] at inside
        rcases follows.inside watcher before with ⟨entered, keeps⟩
        exact ⟨by omega, keeps_move indexed keeps before order x y tells self⟩
    | attack ref skill target =>
        rcases follows.inside watcher inside with ⟨entered, keeps⟩
        refine ⟨by omega, ?_⟩
        rw [SectorWorld.call,
          read_all_silent (attack_silent state.world order ref who skill target)]
        exact keeps
    | leave ref =>
        rw [SectorWorld.call, leave_players] at inside
        by_cases self : ref = who
        · rw [self, Function.update_self] at inside
          cases inside
        · rw [Function.update_of_ne (Ne.symm self)] at inside
          rcases follows.inside watcher inside with ⟨entered, keeps⟩
          exact ⟨by omega, keeps_leave indexed keeps inside tells order self⟩

theorem follows_run {who : SessionRef} {start state : Logged}
    {calls : List (SectorWorld.CallOrder × WorldCall)} (initial : Follows who 0 start)
    (once : calls.countP (fun label => enters who label.2) ≤ 1)
    (still : ∀ label ∈ calls, ∀ x y, label.2 ≠ .move who x y)
    (tells : EveryStep loggedStep (fun source label _ => TellsWho who source.world label.2)
      start calls)
    (ran : run loggedStep start calls = some state) :
    Follows who (calls.countP fun label => enters who label.2) state := by
  induction calls using List.reverseRecOn generalizing state with
  | nil =>
      obtain rfl : start = state := Option.some.inj ran
      exact initial
  | append_singleton calls label ih =>
      obtain ⟨source, earlier, taken⟩ := (run_snoc_eq_some loggedStep).mp ran
      obtain ⟨before, last⟩ := every_step_snoc.mp tells
      rw [List.countP_append, List.countP_singleton] at once ⊢
      have follows := ih (by omega)
        (fun other listed => still other (List.mem_append_left _ listed)) before earlier
      apply follows_step follows taken _ (still label (by simp)) (last source state earlier taken)
      intro entering
      rw [if_pos entering] at once
      omega

def extras : WorldLine → List Bytes
  | .evtDespawn _ reason => [reason]
  | .worldAttack skill target => [skill, target]
  | .evtAttack _ skill target => [skill, target]
  | _ => []

/-- The names in a line and its other words are of a kind. -/
structure Worded (names : Bytes → Bytes → Prop) (word : Bytes → Prop) (line : WorldLine) :
    Prop where
  about : ∀ player, subject line = some player → names player.account player.character
  extras : ∀ text ∈ extras line, word text

def CallWorded (names : Bytes → Bytes → Prop) (word : Bytes → Prop) : WorldCall → Prop
  | .enter _ account character _ _ => names account character
  | .attack _ skill target => word skill ∧ word target
  | _ => True

section

variable {names : Bytes → Bytes → Prop} {word : Bytes → Prop} {world : SectorWorld}

theorem worded_of_subject {line : WorldLine} {player : PlayerState}
    (named : names player.account player.character) (about : subject line = some player)
    (others : ∀ text ∈ extras line, word text) : Worded names word line := by
  refine ⟨?_, others⟩
  intro other same
  rw [about] at same
  rw [← Option.some.inj same]
  exact named

theorem worded_leave
    (named : ∀ ref player, world.players ref = some player → names player.account player.character)
    (leaving : word (ascii "leave")) (order : SectorWorld.CallOrder) (ref : SessionRef) :
    (∀ other player, (world.leave order ref PlayerSnapshot.empty).1.players other = some player →
      names player.account player.character) ∧
    ∀ event ∈ (world.leave order ref PlayerSnapshot.empty).2.1, Worded names word event.line := by
  constructor
  · intro other player present
    rw [leave_players, Function.update_apply] at present
    split_ifs at present
    exact named other player present
  · intro event listed
    cases lookup : world.players ref with
    | none =>
        rw [leave_absent order PlayerSnapshot.empty lookup] at listed
        cases listed
    | some player =>
        rw [leave_present order PlayerSnapshot.empty lookup] at listed
        rcases List.mem_map.mp listed with ⟨receiver, _, rfl⟩
        exact worded_of_subject (named ref player lookup) rfl (by simpa [extras] using leaving)

theorem worded_enter
    (named : ∀ ref player, world.players ref = some player → names player.account player.character)
    (leaving : word (ascii "leave")) (order : SectorWorld.CallOrder) (ref : SessionRef)
    {account character : Bytes} (arrival : names account character) (x y : Int32) :
    (∀ other player, (world.enter order ref account character x y).1.players other = some player →
      names player.account player.character) ∧
    ∀ event ∈ (world.enter order ref account character x y).2, Worded names word event.line := by
  have players : ∀ other player,
      (world.enter order ref account character x y).1.players other = some player →
        names player.account player.character := by
    intro other player present
    rw [enter_players, Function.update_apply] at present
    split_ifs at present
    · rw [← Option.some.inj present]
      exact arrival
    · exact named other player present
  refine ⟨players, ?_⟩
  intro event listed
  rw [enter_events, List.mem_append, List.mem_append] at listed
  rcases listed with (departed | announced) | snapshot
  · exact (worded_leave named leaving order ref).2 event departed
  · rcases List.mem_map.mp announced with ⟨receiver, _, rfl⟩
    have about : ∀ line : WorldLine, line = .worldEntered (newcomer world ref account character x y) ∨
        line = .evtEnter (newcomer world ref account character x y) → Worded names word line := by
      rintro line (rfl | rfl)
      · exact worded_of_subject arrival rfl nofun
      · exact worded_of_subject arrival rfl nofun
    by_cases self : receiver = ref
    · exact about _ (Or.inl (if_pos self))
    · exact about _ (Or.inr (if_neg self))
  · rcases List.mem_filterMap.mp snapshot with ⟨receiver, _, seen⟩
    rcases Option.map_eq_some_iff.mp seen with ⟨other, present, rfl⟩
    exact worded_of_subject (players receiver other present) rfl (by simp [extras])

theorem worded_move
    (named : ∀ ref player, world.players ref = some player → names player.account player.character)
    (going : word (ascii "sector_out")) (order : SectorWorld.CallOrder) (ref : SessionRef)
    (x y : Int32) :
    (∀ other player, (world.move order ref x y).1.players other = some player →
      names player.account player.character) ∧
    ∀ event ∈ (world.move order ref x y).2, Worded names word event.line := by
  cases lookup : world.players ref with
  | none =>
      rw [move_absent order x y lookup]
      refine ⟨named, ?_⟩
      intro event listed
      obtain rfl := List.mem_singleton.mp listed
      exact ⟨nofun, nofun⟩
  | some old =>
      have moved := named ref old lookup
      constructor
      · intro other player present
        rw [move_players order x y lookup, Function.update_apply] at present
        split_ifs at present
        · rw [← Option.some.inj present]
          exact moved
        · exact named other player present
      · intro event listed
        rw [move_events order x y lookup] at listed
        rcases List.mem_filterMap.mp listed with ⟨receiver, _, said⟩
        rcases Option.map_eq_some_iff.mp said with ⟨line, chosen, rfl⟩
        have about : subject line = some (relocated world old x y) ∧
            ∀ text ∈ extras line, word text := by
          simp only [SectorWorld.moveLine] at chosen
          split_ifs at chosen
          all_goals
            rw [← Option.some.inj chosen]
            simp [subject, extras, going]
        have kept : names (relocated world old x y).account (relocated world old x y).character :=
          moved
        exact worded_of_subject kept about.1 about.2

theorem worded_attack
    (named : ∀ ref player, world.players ref = some player → names player.account player.character)
    (order : SectorWorld.CallOrder) (ref : SessionRef) {skill target : Bytes}
    (words : word skill ∧ word target) :
    ∀ event ∈ world.attack order ref skill target, Worded names word event.line := by
  intro event listed
  unfold SectorWorld.attack at listed
  split at listed
  · obtain rfl := List.mem_singleton.mp listed
    exact ⟨nofun, nofun⟩
  · rename_i player present
    rcases List.mem_map.mp listed with ⟨receiver, _, rfl⟩
    by_cases self : receiver = ref
    · simp only [if_pos self]
      exact ⟨nofun, by simpa [extras] using words⟩
    · simp only [if_neg self]
      exact worded_of_subject (named ref player present) rfl (by simpa [extras] using words)

theorem worded_call
    (named : ∀ ref player, world.players ref = some player → names player.account player.character)
    (leaving : word (ascii "leave")) (going : word (ascii "sector_out"))
    (order : SectorWorld.CallOrder) {call : WorldCall} (worded : CallWorded names word call) :
    (∀ ref player, (world.call order call).1.players ref = some player →
      names player.account player.character) ∧
    ∀ event ∈ (world.call order call).2, Worded names word event.line := by
  cases call with
  | enter ref account character x y => exact worded_enter named leaving order ref worded x y
  | move ref x y => exact worded_move named going order ref x y
  | leave ref => exact worded_leave named leaving order ref
  | attack ref skill target => exact ⟨named, worded_attack named order ref worded⟩

end

def PlainCall : WorldCall → Prop
  | .enter _ account character _ _ => space ∉ account ∧ space ∉ character
  | _ => True

instance (call : WorldCall) : Decidable (PlainCall call) := by
  cases call <;> unfold PlainCall <;> infer_instance

/-- No name in the world or in a line has a space in it. -/
structure PlainNames (state : Logged) : Prop where
  players : ∀ ref player, state.world.players ref = some player → Named player
  lines : ∀ event ∈ state.sent, Plain event.line

theorem plain_step {state next : Logged} {label : SectorWorld.CallOrder × WorldCall}
    (plain : PlainNames state) (call : PlainCall label.2)
    (taken : loggedStep state label = some next) : PlainNames next := by
  obtain rfl := Option.some.inj taken
  rcases label with ⟨order, label⟩
  have worded : CallWorded (fun account character => space ∉ account ∧ space ∉ character)
      (fun _ => True) label := by
    cases label with
    | attack ref skill target => exact ⟨trivial, trivial⟩
    | enter ref account character x y => exact call
    | _ => trivial
  have named : ∀ ref player, state.world.players ref = some player →
      space ∉ player.account ∧ space ∉ player.character := fun ref player present =>
    ⟨(plain.players ref player present).account, (plain.players ref player present).character⟩
  rcases worded_call named trivial trivial order worded with ⟨players, lines⟩
  refine ⟨?_, ?_⟩
  · intro ref player present
    have both := players ref player present
    exact ⟨both.1, both.2⟩
  · intro event listed
    rcases List.mem_append.mp listed with earlier | sent
    · exact plain.lines event earlier
    · intro player about
      have both := (lines event sent).about player about
      exact ⟨both.1, both.2⟩

/-- A run of the world after which a session that entered once and never moved is
in the world. -/
structure WatcherRun where
  who : SessionRef
  sectorSize : Int32
  viewRadius : Int32
  initial : SectorWorld
  made : SectorWorld.make sectorSize viewRadius = .ok initial
  calls : List (SectorWorld.CallOrder × WorldCall)
  final : Logged
  ran : run loggedStep ⟨initial, []⟩ calls = some final
  enteredOnce : calls.countP (fun label => enters who label.2) = 1
  neverMoved : ∀ label ∈ calls, ∀ x y, label.2 ≠ .move who x y
  watcher : PlayerState
  inWorld : final.world.players who = some watcher

namespace WatcherRun

def lines (watch : WatcherRun) : List Bytes :=
  (sentTo watch.who watch.final.sent).map WorldLine.text

def visible (watch : WatcherRun) : Set (Bytes × Bytes) :=
  { names | ∃ ref player, ref ≠ watch.who ∧ watch.final.world.players ref = some player ∧
    Sees watch.final.world.viewRadius watch.watcher.sector player.sector ∧
    (player.account, player.character) = names }

def Plain (watch : WatcherRun) : Prop := ∀ label ∈ watch.calls, PlainCall label.2

instance (watch : WatcherRun) : Decidable watch.Plain :=
  inferInstanceAs (Decidable (∀ label ∈ watch.calls, _))

/-- No line left open whom it was about. -/
def Tells (watch : WatcherRun) : Prop :=
  EveryStep loggedStep (fun source label _ => TellsWho watch.who source.world label.2)
    ⟨watch.initial, []⟩ watch.calls

theorem indexed (watch : WatcherRun) : Indexed watch.final.world := by
  have empty := make_empty watch.made
  exact logged_indexed (indexed_of_empty empty.1 empty.2.1) ⟨watch.calls, watch.ran⟩

theorem keeps (watch : WatcherRun) (tells : watch.Tells) :
    Keeps watch.final.world watch.who watch.watcher (listen watch.who watch.final.sent) := by
  have empty := make_empty watch.made
  have initial : Follows watch.who 0 ⟨watch.initial, []⟩ := by
    refine ⟨indexed_of_empty empty.1 empty.2.1, fun _ _ => rfl, ?_⟩
    intro watcher present
    rw [empty.1] at present
    cases present
  have follows := follows_run initial (le_of_eq watch.enteredOnce) watch.neverMoved tells watch.ran
  exact (follows.inside watch.watcher watch.inWorld).2

/-- The visible players are those the client lists as near. -/
theorem visible_iff (watch : WatcherRun) (tells : watch.Tells) (account character : Bytes) :
    (account, character) ∈ watch.visible ↔
      ⟨account, character, true⟩ ∈ (listen watch.who watch.final.sent).around := by
  have indexed := watch.indexed
  rw [mem_iff_of_lists (watch.keeps tells).lists]
  constructor
  · rintro ⟨ref, player, other, present, sees, names⟩
    have visits := visits_of_sees sees
    refine ⟨ref, (mem_around indexed).mpr ⟨other, player, present, visits⟩, ?_⟩
    rw [sighting_present present, sight, (near_iff_sees visits).mpr sees]
    rw [(Prod.mk.inj names).1, (Prod.mk.inj names).2]
  · rintro ⟨ref, listed, same⟩
    rcases (mem_around indexed).mp listed with ⟨other, player, present, visits⟩
    rw [sighting_present present, sight] at same
    rcases Sighting.mk.inj same with ⟨accounts, characters, close⟩
    exact ⟨ref, player, other, present, (near_iff_sees visits).mp close,
      Prod.ext accounts characters⟩

theorem plain_lines (watch : WatcherRun) (plain : watch.Plain) :
    ∀ line ∈ sentTo watch.who watch.final.sent, WatcherLines.Plain line := by
  have empty := make_empty watch.made
  have initial : PlainNames ⟨watch.initial, []⟩ := by
    refine ⟨?_, by nofun⟩
    intro ref player present
    rw [empty.1] at present
    cases present
  have met : EveryStep loggedStep (fun _ label _ => PlainCall label.2) ⟨watch.initial, []⟩
      watch.calls := by
    refine every_step_of_labels ?_
    exact plain
  have names : PlainNames watch.final :=
    guarded_invariant initial (fun _ _ _ => plain_step) met watch.ran
  intro line listed
  rcases List.mem_map.mp listed with ⟨event, sent, rfl⟩
  exact names.lines event (List.mem_filter.mp sent).1

end WatcherRun

theorem readings_of_texts {first second : List WorldLine} (plain : ∀ line ∈ first, Plain line)
    (also : ∀ line ∈ second, Plain line)
    (same : first.map WorldLine.text = second.map WorldLine.text) :
    first.map reading = second.map reading := by
  induction first generalizing second with
  | nil =>
      rw [List.map_nil] at same
      rw [List.map_eq_nil_iff.mp same.symm]
  | cons line rest ih =>
      cases second with
      | nil => cases same
      | cons other others =>
          rcases List.cons.inj same with ⟨here, later⟩
          rw [List.map_cons, List.map_cons,
            reading_of_text (plain line List.mem_cons_self) (also other List.mem_cons_self) here,
            ih (fun each listed => plain each (List.mem_cons_of_mem line listed))
              (fun each listed => also each (List.mem_cons_of_mem other listed)) later]

theorem lines_tell_who_is_around {first second : WatcherRun} (plain : first.Plain)
    (also : second.Plain) (tells : first.Tells) (too : second.Tells)
    (same : first.lines = second.lines) : first.visible = second.visible := by
  have read := readings_of_texts (first.plain_lines plain) (second.plain_lines also) same
  have clients : listen first.who first.final.sent = listen second.who second.final.sent := by
    rw [listen, listen, Client.readAll, Client.readAll, read]
  ext ⟨account, character⟩
  rw [first.visible_iff tells, second.visible_iff too, clients]

/-- A watcher enters at the origin of a world of the default sizes. -/
def waiter : SectorWorld.CallOrder × WorldCall :=
  (fun _ => .ascending, .enter ⟨5, 1⟩ (ascii "w") (ascii "waiter") 0 0)

def arrival (fd : Int) (account character : Bytes) (x : Int32) :
    SectorWorld.CallOrder × WorldCall :=
  (fun _ => .ascending, .enter ⟨fd, 2⟩ account character x 0)

def departure (fd : Int) : SectorWorld.CallOrder × WorldCall :=
  (fun _ => .ascending, .leave ⟨fd, 2⟩)

def waiting (calls : List (SectorWorld.CallOrder × WorldCall))
    (others : (waiter :: calls).countP (fun label => enters ⟨5, 1⟩ label.2) = 1)
    (still : ∀ label ∈ waiter :: calls, ∀ x y, label.2 ≠ .move ⟨5, 1⟩ x y) (final : Logged)
    (ran : run loggedStep ⟨.default, []⟩ (waiter :: calls) = some final) (watcher : PlayerState)
    (inWorld : final.world.players ⟨5, 1⟩ = some watcher) : WatcherRun where
  who := ⟨5, 1⟩
  sectorSize := 100
  viewRadius := 1
  initial := .default
  made := rfl
  calls := waiter :: calls
  final := final
  ran := ran
  enteredOnce := others
  neverMoved := still
  watcher := watcher
  inWorld := inWorld

def neighbour : WatcherRun :=
  waiting [arrival 6 (ascii "a") (ascii "main") 10] (by decide) (by simp [waiter, arrival]) _ rfl _
    rfl

/-- A second `main` is out of reach. -/
def farNamesake : WatcherRun :=
  waiting [arrival 7 (ascii "b") (ascii "main") 1000, arrival 6 (ascii "a") (ascii "main") 10]
    (by decide) (by simp [waiter, arrival]) _ rfl _ rfl

theorem lines_tell_who_is_around_neighbour :
    neighbour.lines = farNamesake.lines ∧ neighbour.visible = farNamesake.visible := by
  have lines : neighbour.lines = farNamesake.lines := by decide
  exact ⟨lines, lines_tell_who_is_around (by decide) (by decide)
    (every_step_of_meets (by decide)) (every_step_of_meets (by decide)) lines⟩

/-- Of two neighbours of one name the first or the second leaves. -/
def firstLeaves : WatcherRun :=
  waiting [arrival 6 (ascii "a") (ascii "main") 10, arrival 7 (ascii "b") (ascii "main") 10,
    departure 6] (by decide) (by simp [waiter, arrival, departure]) _ rfl _ rfl

def secondLeaves : WatcherRun :=
  waiting [arrival 6 (ascii "a") (ascii "main") 10, arrival 7 (ascii "b") (ascii "main") 10,
    departure 7] (by decide) (by simp [waiter, arrival, departure]) _ rfl _ rfl

/-- One line, cut in two ways. -/
def longCharacter : WatcherRun :=
  waiting [arrival 6 (ascii "b") (ascii "main account=a") 10] (by decide)
    (by simp [waiter, arrival]) _ rfl _ rfl

def longAccount : WatcherRun :=
  waiting [arrival 6 (ascii "a account=b") (ascii "main") 10] (by decide)
    (by simp [waiter, arrival]) _ rfl _ rfl

theorem same_lines_other_players :
    (firstLeaves.Plain ∧ secondLeaves.Plain ∧ firstLeaves.lines = secondLeaves.lines ∧
      firstLeaves.visible ≠ secondLeaves.visible) ∧
    longCharacter.Tells ∧ longAccount.Tells ∧ longCharacter.lines = longAccount.lines ∧
      longCharacter.visible ≠ longAccount.visible := by
  have characterTells : longCharacter.Tells := every_step_of_meets (by decide)
  have accountTells : longAccount.Tells := every_step_of_meets (by decide)
  refine ⟨⟨by decide, by decide, by decide, ?_⟩, characterTells, accountTells, by decide, ?_⟩
  · intro same
    have left : (ascii "a", ascii "main") ∈ secondLeaves.visible :=
      ⟨⟨6, 2⟩, _, by decide, rfl, by decide, rfl⟩
    rw [← same] at left
    rcases left with ⟨ref, player, other, present, sees, names⟩
    have reached := (mem_around firstLeaves.indexed).mpr
      ⟨other, player, present, visits_of_sees sees⟩
    have remains : around firstLeaves.final.world firstLeaves.who firstLeaves.watcher =
        {⟨7, 2⟩} := by decide
    rw [remains, Finset.mem_singleton] at reached
    have account : (firstLeaves.final.world.players ref).map PlayerState.account =
        some (ascii "b") := by
      rw [reached]
      rfl
    rw [present, Option.map_some, (Prod.mk.inj names).1] at account
    exact absurd account (by decide)
  · intro same
    have listed := longCharacter.visible_iff characterTells (ascii "b") (ascii "main account=a")
    rw [same, longAccount.visible_iff accountTells] at listed
    exact absurd listed (by decide)

end DungeonPortfolio.WatcherLines
