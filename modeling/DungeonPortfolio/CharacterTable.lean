import DungeonPortfolio.Decimals
import DungeonPortfolio.Replaying
import DungeonPortfolio.Server

/-!
# The character table is a map

A SAVE writes level and gold of a character, a SAVE_POSITION its coordinates, and
whichever comes first inserts the row. The table is what replaying the successful
jobs gives: each half of a row has its own last writer, and a half that nobody
has written has the default of the job that inserted the row.
-/

namespace DungeonPortfolio.CharacterTable

open DungeonPortfolio.Text DungeonPortfolio.World DungeonPortfolio.Dispatcher
open DungeonPortfolio.Server DungeonPortfolio.Schema DungeonPortfolio.Statements
open DungeonPortfolio.Connection DungeonPortfolio.Commands DungeonPortfolio.Atomicity
open DungeonPortfolio.Executions DungeonPortfolio.ReadBack DungeonPortfolio.Replaying
open DungeonPortfolio.Decimals
open Library.Upsert Library.Replay

set_option autoImplicit false

/-- The level and gold that an entry writes for a character. -/
def savedBy (mysql : Mysql) (account name : Bytes) (entry : DbJob × DbCompletion) :
    Option (Nat × Nat) :=
  match entry.2.ok, commandOf entry.1 with
  | true, .ok (.save owner character level gold) =>
      if mysql.same owner account && mysql.same character name then some (level, gold) else none
  | _, _ => none

def placedBy (mysql : Mysql) (account name : Bytes) (entry : DbJob × DbCompletion) :
    Option (Int32 × Int32) :=
  match entry.2.ok, commandOf entry.1 with
  | true, .ok (.savePosition owner character x y) =>
      if mysql.same owner account && mysql.same character name then some (x, y) else none
  | _, _ => none

abbrev Halves : Type := (Nat × Nat) × (Int32 × Int32)

def halvesOf (row : CharacterRow) : Halves := ((row.level, row.gold), (row.x, row.y))

/-- A character is there when either half has been written. -/
def combined : Option (Nat × Nat) → Option (Int32 × Int32) → Option Halves
  | none, none => none
  | saved, placed => some (saved.getD (1, 0), placed.getD (0, 0))

/-- The character as the history has left it. -/
def replayed (mysql : Mysql) (entries : Entries) (account name : Bytes) : Option Halves :=
  combined (last (savedBy mysql account name) entries) (last (placedBy mysql account name) entries)

theorem combined_saved (saved : Nat × Nat) (placed : Option (Int32 × Int32)) :
    combined (some saved) placed = some (saved, placed.getD (0, 0)) := by
  cases placed <;> rfl

theorem combined_placed (saved : Option (Nat × Nat)) (placed : Int32 × Int32) :
    combined saved (some placed) = some (saved.getD (1, 0), placed) := by
  cases saved <;> rfl

variable {mysql : Mysql} {entries : Entries} {tables before after : Tables} {job : DbJob}
  {completion : DbCompletion}

theorem halves_after_save (mysql : Mysql) (tables : Tables) (ownerId playerId : Nat) (character name : Bytes)
    (level gold : Nat) :
    ((tables.apply mysql (.character ownerId character level gold)).character mysql playerId
        name).map halvesOf =
      if ownerId = playerId ∧ mysql.same character name = true then
        some ((level, gold),
          (((tables.character mysql playerId name).map halvesOf).map Prod.snd).getD (0, 0))
      else (tables.character mysql playerId name).map halvesOf := by
  by_cases key : ownerId = playerId ∧ mysql.same character name = true
  · rw [if_pos key]
    rcases key with ⟨rfl, same⟩
    simp only [Tables.character]
    rw [← is_character_congr same ownerId]
    have found := character_written mysql tables ownerId character level gold
    rw [Tables.character] at found
    rw [found, Tables.character]
    cases tables.characters.find? (isCharacter mysql ownerId character) <;> rfl
  · rw [if_neg key]
    exact congrArg (Option.map halvesOf)
      (character_elsewhere key tables _ _ ⟨rfl, rfl⟩ fun _ => rfl)

theorem halves_after_position (mysql : Mysql) (tables : Tables) (ownerId playerId : Nat) (character name : Bytes)
    (x y : Int32) :
    ((tables.apply mysql (.position ownerId character x y)).character mysql playerId
        name).map halvesOf =
      if ownerId = playerId ∧ mysql.same character name = true then
        some ((((tables.character mysql playerId name).map halvesOf).map Prod.fst).getD (1, 0),
          (x, y))
      else (tables.character mysql playerId name).map halvesOf := by
  by_cases key : ownerId = playerId ∧ mysql.same character name = true
  · rw [if_pos key]
    rcases key with ⟨rfl, same⟩
    simp only [Tables.character]
    rw [← is_character_congr same ownerId]
    have found := position_written mysql tables ownerId character x y
    rw [Tables.character] at found
    rw [found, Tables.character]
    cases tables.characters.find? (isCharacter mysql ownerId character) <;> rfl
  · rw [if_neg key]
    exact congrArg (Option.map halvesOf)
      (character_elsewhere key tables _ _ ⟨rfl, rfl⟩ fun _ => rfl)

def halvesUnder (mysql : Mysql) (tables : Tables) (playerId : Nat) (name : Bytes) : Option Halves :=
  (tables.character mysql playerId name).map halvesOf

theorem combined_none_iff {saved : Option (Nat × Nat)} {placed : Option (Int32 × Int32)} :
    combined saved placed = none ↔ saved = none ∧ placed = none := by
  cases saved <;> cases placed <;> simp [combined]

theorem combined_fst (saved : Option (Nat × Nat)) (placed : Option (Int32 × Int32)) :
    ((combined saved placed).map Prod.fst).getD (1, 0) = saved.getD (1, 0) := by
  cases saved <;> cases placed <;> rfl

theorem combined_snd (saved : Option (Nat × Nat)) (placed : Option (Int32 × Int32)) :
    ((combined saved placed).map Prod.snd).getD (0, 0) = placed.getD (0, 0) := by
  cases saved <;> cases placed <;> rfl

theorem replayed_skip {entry : DbJob × DbCompletion} {account name : Bytes}
    (saves : savedBy mysql account name entry = none)
    (places : placedBy mysql account name entry = none) :
    replayed mysql (entries ++ [entry]) account name = replayed mysql entries account name := by
  rw [replayed, replayed, last_skip saves, last_skip places]

theorem saved_by_failed {account name : Bytes} (failed : completion.ok = false) :
    savedBy mysql account name (job, completion) = none := by
  simp only [savedBy, failed]

theorem placed_by_failed {account name : Bytes} (failed : completion.ok = false) :
    placedBy mysql account name (job, completion) = none := by
  simp only [placedBy, failed]

def CharactersReplay (mysql : Mysql) (entries : Entries) (tables : Tables) : Prop :=
  Replays mysql (halvesUnder mysql) (fun _ => none) (replayed mysql entries) tables

theorem replays_unwritten (replays : CharactersReplay mysql entries before)
    (players : after.players = before.players) (characters : after.characters = before.characters)
    (skips : ∀ account name, savedBy mysql account name (job, completion) = none ∧
      placedBy mysql account name (job, completion) = none) :
    CharactersReplay mysql (entries ++ [(job, completion)]) after := by
  apply replays_same replays players
  · intro id
    funext name
    rw [halvesUnder, Tables.character, characters]
    rfl
  · intro account
    funext name
    exact replayed_skip (skips account name).1 (skips account name).2

theorem no_characters_yet (sound : Sound mysql tables) (provenance : Provenance entries tables) :
    halvesUnder mysql tables tables.nextPlayerId = fun _ => none := by
  funext name
  have absent : tables.character mysql tables.nextPlayerId name = none := by
    apply List.find?_eq_none.mpr
    intro character stored passes
    rcases provenance.owned character stored with ⟨owner, member, same⟩
    have bound := sound.ids owner member
    have key := (is_character_iff.mp passes).1
    omega
  rw [halvesUnder, absent]
  rfl

theorem replays_save (replays : CharactersReplay mysql entries before) (sound : Sound mysql before)
    {owner character : Bytes} {level gold : Nat} {ownerRow : PlayerRow}
    (found : before.player mysql owner = some ownerRow)
    (saves : ∀ account name, savedBy mysql account name (job, completion) =
      if mysql.same owner account && mysql.same character name then some (level, gold) else none)
    (places : ∀ account name, placedBy mysql account name (job, completion) = none) :
    CharactersReplay mysql (entries ++ [(job, completion)])
      (before.apply mysql (.character ownerRow.id character level gold)) := by
  refine replays_write replays sound found (by rfl) ?_ ?_ ?_
  · intro account mine known
    funext name
    have old : (before.character mysql ownerRow.id name).map halvesOf =
        replayed mysql entries account name := congrFun known name
    have written := saves account name
    rw [mine, Bool.true_and] at written
    rw [halvesUnder, halves_after_save, old]
    cases named : mysql.same character name with
    | true =>
        rw [named, if_pos rfl] at written
        rw [if_pos ⟨rfl, rfl⟩, replayed, replayed, last_written written,
          last_skip (places account name), combined_saved, combined_snd]
    | false =>
        rw [named, if_neg Bool.false_ne_true] at written
        rw [if_neg (fun both => Bool.false_ne_true both.2),
          replayed_skip written (places account name)]
  · intro id apart
    funext name
    rw [halvesUnder, halves_after_save, if_neg fun both => apart both.1.symm]
    rfl
  · intro account other
    funext name
    apply replayed_skip _ (places account name)
    rw [saves, other, Bool.false_and, if_neg Bool.false_ne_true]

theorem replays_position (replays : CharactersReplay mysql entries before)
    (sound : Sound mysql before) {owner character : Bytes} {x y : Int32} {ownerRow : PlayerRow}
    (found : before.player mysql owner = some ownerRow)
    (saves : ∀ account name, savedBy mysql account name (job, completion) = none)
    (places : ∀ account name, placedBy mysql account name (job, completion) =
      if mysql.same owner account && mysql.same character name then some (x, y) else none) :
    CharactersReplay mysql (entries ++ [(job, completion)])
      (before.apply mysql (.position ownerRow.id character x y)) := by
  refine replays_write replays sound found (by rfl) ?_ ?_ ?_
  · intro account mine known
    funext name
    have old : (before.character mysql ownerRow.id name).map halvesOf =
        replayed mysql entries account name := congrFun known name
    have written := places account name
    rw [mine, Bool.true_and] at written
    rw [halvesUnder, halves_after_position, old]
    cases named : mysql.same character name with
    | true =>
        rw [named, if_pos rfl] at written
        rw [if_pos ⟨rfl, rfl⟩, replayed, replayed, last_written written,
          last_skip (saves account name), combined_placed, combined_fst]
    | false =>
        rw [named, if_neg Bool.false_ne_true] at written
        rw [if_neg (fun both => Bool.false_ne_true both.2),
          replayed_skip (saves account name) written]
  · intro id apart
    funext name
    rw [halvesUnder, halves_after_position, if_neg fun both => apart both.1.symm]
    rfl
  · intro account other
    funext name
    apply replayed_skip (saves account name)
    rw [places, other, Bool.false_and, if_neg Bool.false_ne_true]

theorem characters_replay_history {faulty : Bool}
    (history : History mysql faulty Tables.empty entries tables) :
    CharactersReplay mysql entries tables := by
  induction history with
  | start =>
      constructor
      · intro account row there
        cases there
      · intro account absent
        rfl
  | next earlier executes ih =>
      have sound := sound_history (sound_empty mysql) earlier
      rcases executes_all_or_nothing sound executes with ⟨failed, same⟩ | ⟨line, rfl, outcome⟩
      · apply replays_unwritten ih same.1 same.2.1
        intro account name
        exact ⟨saved_by_failed failed, placed_by_failed failed⟩
      · rcases atomically_ok outcome with ⟨command, converted, ⟨written, writes, rfl⟩ | ⟨reads, rfl⟩⟩
        · cases command with
          | register account displayName =>
              rcases writes with ⟨_, other, _⟩ | ⟨_, _, rfl⟩
              · cases other
              · apply replays_register ih (fun _ => rfl)
                  (no_characters_yet sound (provenance_history earlier))
                intro account
                funext name
                apply replayed_skip
                · simp only [savedBy, converted, completed, completionOf]
                · simp only [placedBy, converted, completed, completionOf]
          | login account | load account | loadInventory account => cases writes
          | save account character level gold =>
              rcases writes with ⟨row, there, _, _, rfl⟩
              apply replays_save ih sound there
              · intro account name
                simp only [savedBy, converted, completed, completionOf]
              · intro account name
                simp only [placedBy, converted, completed, completionOf]
          | savePosition account character x y =>
              rcases writes with ⟨row, there, _, _, rfl⟩
              apply replays_position ih sound there
              · intro account name
                simp only [savedBy, converted, completed, completionOf]
              · intro account name
                simp only [placedBy, converted, completed, completionOf]
          | saveItem account slot itemId count =>
              rcases writes with ⟨row, _, _, rfl⟩
              apply replays_unwritten ih
              · split_ifs <;> rfl
              · split_ifs <;> rfl
              · intro account name
                simp only [savedBy, placedBy, converted, completed, completionOf, and_self]
        · apply replays_unwritten ih rfl rfl
          intro account name
          cases command with
          | login account | load account | loadInventory account =>
              simp only [savedBy, placedBy, converted, completed, completionOf, and_self]
          | register | save | savePosition | saveItem => cases reads

def accountOf : Command → Bytes
  | .register account _ | .login account | .save account _ _ _ | .savePosition account _ _ _
  | .load account | .saveItem account _ _ _ | .loadInventory account => account

theorem characters_of_elsewhere {test : CharacterRow → Bool} {change : CharacterRow → CharacterRow}
    {fresh : CharacterRow} {playerId otherId : Nat} (apart : playerId ≠ otherId)
    (tables : Tables) (key : fresh.playerId = playerId)
    (keeps : ∀ row, test row = true → row.playerId = playerId ∧ (change row).playerId = playerId) :
    (upsert test change fresh tables.characters).filter (fun row => row.playerId == otherId) =
      tables.charactersOf otherId := by
  have differs : ∀ id, id = playerId → (id == otherId) = false := by
    intro id same
    rw [same]
    exact beq_false_of_ne apart
  apply filter_upsert_other
  · exact differs _ key
  · intro row passes
    exact ⟨differs _ (keeps row passes).1, differs _ (keeps row passes).2⟩

theorem write_elsewhere {command : Command} {line : Except StdException Bytes} {written : Write}
    (sound : Sound mysql before) (writes : command.Writes mysql before line written)
    {other : Bytes} {row : PlayerRow} (there : before.player mysql other = some row)
    (apart : mysql.same (accountOf command) other = false) :
    (before.apply mysql written).player mysql other = some row ∧
      (before.apply mysql written).charactersOf row.id = before.charactersOf row.id := by
  have owned : ∀ {account : Bytes} {ownerRow : PlayerRow},
      before.player mysql account = some ownerRow → mysql.same account other = false →
      ownerRow.id ≠ row.id := by
    intro account ownerRow found different same
    rw [(same_owner_iff sound found there).mp same] at different
    cases different
  cases command with
  | register account displayName =>
      rcases writes with ⟨_, _, rfl⟩ | ⟨_, _, rfl⟩
      · exact ⟨there, rfl⟩
      · refine ⟨?_, rfl⟩
        simp only [Tables.player, Tables.apply, List.find?_append] at there ⊢
        rw [there, Option.some_or]
  | login account | load account | loadInventory account => cases writes
  | save account character level gold =>
      rcases writes with ⟨ownerRow, found, _, _, rfl⟩
      refine ⟨there, ?_⟩
      apply characters_of_elsewhere (owned found apart)
      · rfl
      · intro stored passes
        exact ⟨(is_character_iff.mp passes).1, (is_character_iff.mp passes).1⟩
  | savePosition account character x y =>
      rcases writes with ⟨ownerRow, found, _, _, rfl⟩
      refine ⟨there, ?_⟩
      apply characters_of_elsewhere (owned found apart)
      · rfl
      · intro stored passes
        exact ⟨(is_character_iff.mp passes).1, (is_character_iff.mp passes).1⟩
  | saveItem account slot itemId count =>
      rcases writes with ⟨ownerRow, _, _, rfl⟩
      split_ifs
      · exact ⟨there, rfl⟩
      · exact ⟨there, rfl⟩

variable {faulty : Bool} {order : RowOrder}

theorem others_kept (sound : Sound mysql before)
    (executes : Executes mysql faulty order before job completion after) {command : Command}
    (converted : commandOf job = .ok command) {other : Bytes} {row : PlayerRow}
    (there : before.player mysql other = some row)
    (apart : mysql.same (accountOf command) other = false) :
    after.player mysql other = some row ∧ after.charactersOf row.id = before.charactersOf row.id := by
  rcases executes_all_or_nothing sound executes with ⟨_, same⟩ | ⟨line, rfl, outcome⟩
  · rw [Tables.player, same.1, Tables.charactersOf, same.2.1]
    exact ⟨there, rfl⟩
  · rcases atomically_ok outcome with ⟨command', converted', did⟩
    cases converted.symm.trans converted'
    rcases did with ⟨written, writes, rfl⟩ | ⟨_, rfl⟩
    · exact write_elsewhere sound writes there apart
    · exact ⟨there, rfl⟩

theorem unregistered_nothing (sound : Sound mysql before)
    (executes : Executes mysql faulty order before job completion after) {account line : Bytes}
    {refusal : Option StdException} {change : Nat → Write}
    (meant : atomically mysql order before job =
      saving mysql before account refusal line change)
    (absent : before.player mysql account = none) : completion.ok = false ∧ after = before := by
  rw [saving_unknown absent] at meant
  rcases (executes_cases sound executes).2 with
    ⟨line, outcome, _⟩ | ⟨error, outcome, rfl⟩ | ⟨_, rfl, error, rfl⟩
  · cases meant.symm.trans outcome
  · exact ⟨rfl, (congrArg Prod.snd (meant.symm.trans outcome)).symm⟩
  · exact ⟨rfl, rfl⟩

theorem position_keeps_saved (sound : Sound mysql before)
    (executes : Executes mysql faulty order before job completion after)
    {account character : Bytes} {x y : Int32}
    (converted : commandOf job = .ok (.savePosition account character x y)) {playerId : Nat}
    {name : Bytes} {row : CharacterRow} (there : before.character mysql playerId name = some row) :
    ∃ now, after.character mysql playerId name = some now ∧
      now.level = row.level ∧ now.gold = row.gold := by
  rcases executes_all_or_nothing sound executes with ⟨_, same⟩ | ⟨line, rfl, outcome⟩
  · rw [Tables.character, same.2.1]
    exact ⟨row, there, rfl, rfl⟩
  · rw [atomically_save_position mysql converted, saving_ok_iff] at outcome
    rcases outcome with ⟨ownerRow, _, _, _, rfl⟩
    have halves := halves_after_position mysql before ownerRow.id playerId character
      name x y
    rw [there] at halves
    have kept : ∃ placed, ((before.apply mysql (.position ownerRow.id character x y)).character
        mysql playerId name).map halvesOf = some ((row.level, row.gold), placed) := by
      rw [halves]
      split_ifs
      · exact ⟨_, rfl⟩
      · exact ⟨_, rfl⟩
    rcases kept with ⟨placed, kept⟩
    rcases Option.map_eq_some_iff.mp kept with ⟨now, found, same⟩
    have saved := congrArg Prod.fst same
    exact ⟨now, found, congrArg Prod.fst saved, congrArg Prod.snd saved⟩

theorem save_keeps_placed (sound : Sound mysql before)
    (executes : Executes mysql faulty order before job completion after)
    {account character : Bytes} {level gold : Nat}
    (converted : commandOf job = .ok (.save account character level gold)) {playerId : Nat}
    {name : Bytes} {row : CharacterRow} (there : before.character mysql playerId name = some row) :
    ∃ now, after.character mysql playerId name = some now ∧ now.x = row.x ∧ now.y = row.y := by
  rcases executes_all_or_nothing sound executes with ⟨_, same⟩ | ⟨line, rfl, outcome⟩
  · rw [Tables.character, same.2.1]
    exact ⟨row, there, rfl, rfl⟩
  · rw [atomically_save mysql converted, saving_ok_iff] at outcome
    rcases outcome with ⟨ownerRow, _, _, _, rfl⟩
    have halves := halves_after_save mysql before ownerRow.id playerId character
      name level gold
    rw [there] at halves
    have kept : ∃ saved, ((before.apply mysql (.character ownerRow.id character level
        gold)).character mysql playerId name).map halvesOf = some (saved, (row.x, row.y)) := by
      rw [halves]
      split_ifs
      · exact ⟨_, rfl⟩
      · exact ⟨_, rfl⟩
    rcases kept with ⟨saved, kept⟩
    rcases Option.map_eq_some_iff.mp kept with ⟨now, found, same⟩
    have placed := congrArg Prod.snd same
    exact ⟨now, found, congrArg Prod.fst placed, congrArg Prod.snd placed⟩

def SameMap (mysql : Mysql) (first second : Tables) : Prop :=
  first.players = second.players ∧ ∀ playerId name,
    (first.character mysql playerId name).map halvesOf =
      (second.character mysql playerId name).map halvesOf

theorem writes_commute (tables : Tables) (saverId placerId : Nat) (saved placed : Bytes)
    (level gold : Nat) (x y : Int32) :
    SameMap mysql
      ((tables.apply mysql (.character saverId saved level gold)).apply mysql
        (.position placerId placed x y))
      ((tables.apply mysql (.position placerId placed x y)).apply mysql
        (.character saverId saved level gold)) := by
  refine ⟨rfl, ?_⟩
  intro playerId name
  rw [halves_after_position, halves_after_save, halves_after_save, halves_after_position]
  by_cases saves : saverId = playerId ∧ mysql.same saved name = true
  · by_cases places : placerId = playerId ∧ mysql.same placed name = true
    · simp only [if_pos saves, if_pos places, Option.map_some, Option.getD_some]
    · simp only [if_pos saves, if_neg places]
  · by_cases places : placerId = playerId ∧ mysql.same placed name = true
    · simp only [if_neg saves, if_pos places]
    · simp only [if_neg saves, if_neg places]

theorem saving_same_players {tables other : Tables} {account line : Bytes}
    {refusal : Option StdException} {change : Nat → Write} (players : other.players = tables.players) :
    (saving mysql other account refusal line change).1 =
      (saving mysql tables account refusal line change).1 := by
  have same : other.player mysql account = tables.player mysql account := by
    rw [Tables.player, players, Tables.player]
  simp only [saving, same]
  cases tables.player mysql account with
  | none => rfl
  | some row => cases refusal <;> rfl

/-- Whether a save writes, and for which player, is decided by the players. -/
theorem saving_by_players (mysql : Mysql) (tables : Tables) (account line : Bytes)
    (refusal : Option StdException) (change : Nat → Write) :
    (∀ other : Tables, other.players = tables.players →
        (saving mysql other account refusal line change).2 = other) ∨
      ∃ id, ∀ other : Tables, other.players = tables.players →
        (saving mysql other account refusal line change).2 = other.apply mysql (change id) := by
  have same : ∀ other : Tables, other.players = tables.players →
      other.player mysql account = tables.player mysql account := by
    intro other players
    rw [Tables.player, players, Tables.player]
  cases there : tables.player mysql account with
  | none =>
      left
      intro other players
      rw [saving_unknown ((same other players).trans there)]
  | some row =>
      cases refusal with
      | some error =>
          left
          intro other players
          rw [saving_refused ((same other players).trans there)]
      | none =>
          right
          refine ⟨row.id, ?_⟩
          intro other players
          rw [saving_granted ((same other players).trans there)]

theorem saving_players (mysql : Mysql) (tables : Tables) (account line : Bytes)
    (refusal : Option StdException) (change : Nat → Write)
    (keeps : ∀ id, (tables.apply mysql (change id)).players = tables.players) :
    (saving mysql tables account refusal line change).2.players = tables.players := by
  rcases saving_by_players mysql tables account line refusal change with none | ⟨id, some⟩
  · rw [none tables rfl]
  · rw [some tables rfl]
    exact keeps id

/-- A SAVE and a SAVE_POSITION in either order answer the same and leave the
same map. -/
theorem save_position_commute (sound : Sound mysql before) {saver placer : DbJob}
    {account owner saved placed : Bytes} {level gold : Nat} {x y : Int32}
    (saves : commandOf saver = .ok (.save account saved level gold))
    (places : commandOf placer = .ok (.savePosition owner placed x y))
    {first second first' second' : DbCompletion} {middle last middle' last' : Tables}
    {one two three four : RowOrder}
    (save : Executes mysql false one before saver first middle)
    (position : Executes mysql false two middle placer second last)
    (position' : Executes mysql false three before placer second' middle')
    (save' : Executes mysql false four middle' saver first' last') :
    first' = first ∧ second' = second ∧ SameMap mysql last last' := by
  have saverMeans := fun (order : RowOrder) (tables : Tables) =>
    atomically_save mysql saves order tables
  have placerMeans := fun (order : RowOrder) (tables : Tables) =>
    atomically_save_position mysql places order tables
  rcases executes_only sound save with ⟨rfl, rfl⟩
  rcases executes_only sound position' with ⟨rfl, rfl⟩
  rcases executes_only (executes_cases sound save).1 position with ⟨rfl, rfl⟩
  rcases executes_only (executes_cases sound position').1 save' with ⟨rfl, rfl⟩
  simp only [executedAlone, saverMeans, placerMeans]
  have afterSave := saving_players mysql before account (saveLine account saved level gold)
    (refusalOf mysql saved)
    (fun id => .character id saved level gold) (fun _ => rfl)
  have afterPosition := saving_players mysql before owner (savePositionLine owner placed x y)
    (refusalOf mysql placed)
    (fun id => .position id placed x y) (fun _ => rfl)
  refine ⟨?_, ?_, ?_⟩
  · rw [saving_same_players afterPosition]
  · rw [saving_same_players afterSave]
  · rcases saving_by_players mysql before account (saveLine account saved level gold)
      (refusalOf mysql saved) (fun id => .character id saved level gold) with
      refusedSave | ⟨saverId, grantedSave⟩
    · rw [refusedSave before rfl, refusedSave _ afterPosition]
      exact ⟨rfl, fun _ _ => rfl⟩
    · rw [grantedSave before rfl] at afterSave ⊢
      rw [grantedSave _ afterPosition]
      rcases saving_by_players mysql before owner (savePositionLine owner placed x y)
        (refusalOf mysql placed) (fun id => .position id placed x y) with
        refusedPosition | ⟨placerId, grantedPosition⟩
      · rw [refusedPosition before rfl, refusedPosition _ afterSave]
        exact ⟨rfl, fun _ _ => rfl⟩
      · rw [grantedPosition before rfl, grantedPosition _ afterSave]
        exact writes_commute before saverId placerId saved placed level gold x y

def Names (mysql : Mysql) (account name : Bytes) (entry : DbJob × DbCompletion) : Prop :=
  (∃ saved, savedBy mysql account name entry = some saved) ∨
    ∃ placed, placedBy mysql account name entry = some placed

/-- The characters of every account are those that jobs have named, once each,
with the values last written. -/
structure FaithfulMap (mysql : Mysql) (entries : Entries) (tables : Tables) : Prop where
  once : Unique (alikeCharacters mysql) tables.characters
  owned : ∀ character ∈ tables.characters, ∃ row ∈ tables.players, row.id = character.playerId
  exactly : ∀ account row name, tables.player mysql account = some row →
    ((∃ character, tables.character mysql row.id name = some character) ↔
      ∃ entry ∈ entries, Names mysql account name entry)
  values : ∀ account row name character, tables.player mysql account = some row →
    tables.character mysql row.id name = some character →
    (character.level, character.gold) = (last (savedBy mysql account name) entries).getD (1, 0) ∧
    (character.x, character.y) = (last (placedBy mysql account name) entries).getD (0, 0)
  unknown : ∀ account name, tables.player mysql account = none →
    ∀ entry ∈ entries, ¬ Names mysql account name entry

/-- What a SAVE or SAVE_POSITION executed next may change. -/
structure Independent (mysql : Mysql) (tables : Tables) : Prop where
  commute : ∀ {saver placer account owner saved placed level gold x y first second first' second'
      middle last middle' last'} {one two three four : RowOrder},
    commandOf saver = .ok (.save account saved level gold) →
    commandOf placer = .ok (.savePosition owner placed x y) →
    Executes mysql false one tables saver first middle →
    Executes mysql false two middle placer second last →
    Executes mysql false three tables placer second' middle' →
    Executes mysql false four middle' saver first' last' →
    first' = first ∧ second' = second ∧ SameMap mysql last last'
  autosave : ∀ {faulty order job completion after account character x y playerId name row},
    Executes mysql faulty order tables job completion after →
    commandOf job = .ok (.savePosition account character x y) →
    tables.character mysql playerId name = some row →
    ∃ now, after.character mysql playerId name = some now ∧
      now.level = row.level ∧ now.gold = row.gold
  save : ∀ {faulty order job completion after account character level gold playerId name row},
    Executes mysql faulty order tables job completion after →
    commandOf job = .ok (.save account character level gold) →
    tables.character mysql playerId name = some row →
    ∃ now, after.character mysql playerId name = some now ∧ now.x = row.x ∧ now.y = row.y
  others : ∀ {faulty order job completion after command other row},
    Executes mysql faulty order tables job completion after → commandOf job = .ok command →
    tables.player mysql other = some row → mysql.same (accountOf command) other = false →
    after.player mysql other = some row ∧ after.charactersOf row.id = tables.charactersOf row.id
  unregistered : ∀ {faulty order job completion after account character},
    Executes mysql faulty order tables job completion after →
    (∃ level gold, commandOf job = .ok (.save account character level gold)) ∨
      (∃ x y, commandOf job = .ok (.savePosition account character x y)) →
    tables.player mysql account = none → completion.ok = false ∧ after = tables

theorem combined_values {saved : Option (Nat × Nat)} {placed : Option (Int32 × Int32)}
    {halves : Halves} (there : combined saved placed = some halves) :
    halves = (saved.getD (1, 0), placed.getD (0, 0)) := by
  cases saved <;> cases placed <;> cases there <;> rfl

theorem not_named_iff {account name : Bytes} :
    replayed mysql entries account name = none ↔
      ∀ entry ∈ entries, ¬ Names mysql account name entry := by
  rw [replayed, combined_none_iff, last_eq_none_iff, last_eq_none_iff]
  constructor
  · rintro ⟨unsaved, unplaced⟩ entry member (⟨saved, written⟩ | ⟨placed, written⟩)
    · cases (unsaved entry member).symm.trans written
    · cases (unplaced entry member).symm.trans written
  · intro unnamed
    constructor
    · intro entry member
      rw [Option.eq_none_iff_forall_not_mem]
      intro saved written
      exact unnamed entry member (Or.inl ⟨saved, written⟩)
    · intro entry member
      rw [Option.eq_none_iff_forall_not_mem]
      intro placed written
      exact unnamed entry member (Or.inr ⟨placed, written⟩)

theorem faithful_of_replays (replays : CharactersReplay mysql entries tables) (sound : Sound mysql tables)
    (provenance : Provenance entries tables) : FaithfulMap mysql entries tables := by
  refine ⟨sound.characters, provenance.owned, ?_, ?_, ?_⟩
  · intro account row name there
    have known : (tables.character mysql row.id name).map halvesOf =
        replayed mysql entries account name := congrFun (replays.known account row there) name
    have absent : tables.character mysql row.id name = none ↔
        ∀ entry ∈ entries, ¬ Names mysql account name entry := by
      rw [← not_named_iff, ← known, Option.map_eq_none_iff]
    rw [← Option.ne_none_iff_exists', Ne, absent]
    push Not
    rfl
  · intro account row name character there found
    have known : (tables.character mysql row.id name).map halvesOf =
        replayed mysql entries account name := congrFun (replays.known account row there) name
    rw [found] at known
    have halves := combined_values known.symm
    exact ⟨congrArg Prod.fst halves, congrArg Prod.snd halves⟩
  · intro account name absent
    exact not_named_iff.mp (congrFun (replays.unknown account absent) name)

theorem independent_of_sound (sound : Sound mysql tables) : Independent mysql tables where
  commute saves places save position position' save' :=
    save_position_commute sound saves places save position position' save'
  autosave executes converted there := position_keeps_saved sound executes converted there
  save executes converted there := save_keeps_placed sound executes converted there
  others executes converted there apart := others_kept sound executes converted there apart
  unregistered := by
    rintro faulty order job completion after account character executes
      (⟨level, gold, converted⟩ | ⟨x, y, converted⟩) absent
    · exact unregistered_nothing sound executes (atomically_save mysql converted order tables) absent
    · exact unregistered_nothing sound executes
        (atomically_save_position mysql converted order tables) absent

theorem position_job_converts (requestId : Nat) (ref : World.SessionRef) (account character : Bytes)
    (x y : Int32) : commandOf (System.positionJob requestId ref account character x y) =
      .ok (.savePosition account character x y) := by
  have first := stoi_print_int x
  have second := stoi_print_int y
  simp only [commandOf, System.positionJob, at?, List.getElem?_cons_zero, List.getElem?_cons_succ]
  simp only [bind, Except.bind, pure, Except.pure, first, second]

/-- The character table is a map with independent halves. -/
theorem character_table_faithful {faulty : Bool}
    (history : History mysql faulty Tables.empty entries tables) :
    FaithfulMap mysql entries tables ∧ Independent mysql tables ∧
      ∀ requestId ref account character x y,
        commandOf (System.positionJob requestId ref account character x y) =
          .ok (.savePosition account character x y) := by
  have sound := sound_history (sound_empty mysql) history
  refine ⟨?_, independent_of_sound sound, position_job_converts⟩
  exact faithful_of_replays (characters_replay_history history) sound (provenance_history history)

/-- One character saved, autosaved and saved again, and a second one autosaved. -/
def savedAndAutosaved : List DbJob :=
  [registerJob (ascii "ada") (ascii "Ada"),
    saveJob (ascii "ada") (ascii "main") (ascii "5") (ascii "70"),
    System.positionJob 2 ⟨5, 1⟩ (ascii "ada") (ascii "main") 3 (-4),
    System.positionJob 3 ⟨5, 1⟩ (ascii "ada") (ascii "alt") 1 2,
    saveJob (ascii "ada") (ascii "main") (ascii "6") (ascii "80")]

theorem character_table_faithful_autosaved :
    (executedInTurn Mysql.binary .asStored Tables.empty savedAndAutosaved).2 =
        ⟨[⟨1, ascii "ada", ascii "Ada"⟩],
          [⟨1, ascii "main", 6, 80, 3, -4⟩, ⟨1, ascii "alt", 1, 0, 1, 2⟩], [], 2⟩ ∧
      FaithfulMap Mysql.binary
        (executedInTurn Mysql.binary .asStored Tables.empty savedAndAutosaved).1
        (executedInTurn Mysql.binary .asStored Tables.empty savedAndAutosaved).2 := by
  have history := history_of_jobs (sound_empty Mysql.binary) .asStored savedAndAutosaved
  exact ⟨by decide +kernel, (character_table_faithful history).1⟩

end DungeonPortfolio.CharacterTable
