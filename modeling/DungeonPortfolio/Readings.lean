import DungeonPortfolio.CharacterTable
import DungeonPortfolio.EndToEnd
import DungeonPortfolio.Inventory

/-!
# What clients read

A LOAD or a LOAD_INVENTORY that succeeds tells what the jobs before it, in the order
that explains all answers, have written. Since real time is kept in that order, a
client that has been answered and then loads finds what it has saved, or what
somebody has saved after it.
-/

namespace DungeonPortfolio.Readings

open DungeonPortfolio.Text DungeonPortfolio.Schema DungeonPortfolio.Statements
open DungeonPortfolio.Connection DungeonPortfolio.Commands DungeonPortfolio.Executions
open DungeonPortfolio.ReadBack DungeonPortfolio.Replaying DungeonPortfolio.CharacterTable
open DungeonPortfolio.Inventory DungeonPortfolio.Linearized DungeonPortfolio.Program
open DungeonPortfolio.EndToEnd
open DungeonPortfolio.Dispatcher (DbJob DbCompletion)
open DungeonPortfolio.Server (ServerConfig)
open Library.Execution Library.Linearization Library.Replay Library.Upsert

set_option autoImplicit false

/-- The characters that the successful jobs have left to an account, each once. -/
structure Roll (mysql : Mysql) (entries : Entries) (account : Bytes)
    (characters : List Character) : Prop where
  once : ∀ first ∈ characters, ∀ second ∈ characters,
    mysql.same first.name second.name = true → first = second
  exactly : ∀ name, (∃ character ∈ characters, mysql.same character.name name = true) ↔
    ∃ entry ∈ entries, Names mysql account name entry
  values : ∀ character ∈ characters,
    (character.level, character.gold) =
      (last (savedBy mysql account character.name) entries).getD (1, 0) ∧
    (character.x, character.y) =
      (last (placedBy mysql account character.name) entries).getD (0, 0)

section

variable {mysql : Mysql} {tables : Tables} {entries : Entries} {account : Bytes} {row : PlayerRow}

theorem mem_characters_listed {order : RowOrder} {playerId : Nat} {character : Character} :
    character ∈ charactersListed order tables playerId ↔
      ∃ stored ∈ tables.characters, stored.playerId = playerId ∧ characterOf stored = character := by
  rw [charactersListed, (order.perm _).mem_iff, List.mem_map]
  simp only [Tables.charactersOf, List.mem_filter, beq_iff_eq, and_assoc]

theorem character_found (unique : Unique (alikeCharacters mysql) tables.characters)
    {stored : CharacterRow} (listed : stored ∈ tables.characters) {name : Bytes}
    (named : mysql.same stored.name name = true) :
    tables.character mysql stored.playerId name = some stored := by
  apply find_of_mem unique ?_ listed
  · rw [isCharacter, named, beq_self_eq_true, Bool.and_self]
  · intro first second one other
    rw [isCharacter, Bool.and_eq_true, beq_iff_eq] at one other
    rw [alikeCharacters, one.1, other.1, beq_self_eq_true, Bool.true_and]
    exact same_of_both one.2 other.2

theorem roll_listed (faithful : FaithfulMap mysql entries tables)
    (there : tables.player mysql account = some row) (order : RowOrder) :
    Roll mysql entries account (charactersListed order tables row.id) := by
  constructor
  · intro first one second other same
    rcases mem_characters_listed.mp one with ⟨stored, listed, owner, rfl⟩
    rcases mem_characters_listed.mp other with ⟨again, listedToo, ownerToo, rfl⟩
    have found := character_found faithful.once listed same
    have foundToo := character_found faithful.once listedToo (mysql.same_refl again.name)
    rw [owner] at found
    rw [ownerToo] at foundToo
    rw [Option.some.inj (found.symm.trans foundToo)]
  · intro name
    rw [← faithful.exactly account row name there]
    constructor
    · rintro ⟨character, listed, named⟩
      rcases mem_characters_listed.mp listed with ⟨stored, there, owner, rfl⟩
      have found := character_found faithful.once there named
      rw [owner] at found
      exact ⟨stored, found⟩
    · rintro ⟨stored, found⟩
      have passes := List.find?_some found
      rw [isCharacter, Bool.and_eq_true, beq_iff_eq] at passes
      exact ⟨characterOf stored, mem_characters_listed.mpr
        ⟨stored, List.mem_of_find?_eq_some found, passes.1, rfl⟩, passes.2⟩
  · intro character listed
    rcases mem_characters_listed.mp listed with ⟨stored, present, owner, rfl⟩
    have found := character_found faithful.once present (mysql.same_refl stored.name)
    rw [owner] at found
    exact faithful.values account row stored.name stored there found

variable {job : DbJob} {completion : DbCompletion} {after : Tables} {faulty : Bool}
  {order : RowOrder}

theorem load_needs_account {command : Command} (converted : commandOf job = .ok command)
    (reads : command = .load account ∨ command = .loadInventory account)
    (absent : tables.player mysql account = none) :
    atomically mysql order tables job =
      (.error (.runtimeError (unknownAccount account)), tables) := by
  unfold atomically
  rw [converted]
  rcases reads with rfl | rfl
  · simp only [Command.outcome, forOwner, absent]
    rfl
  · simp only [Command.outcome, forOwner, absent]
    rfl

theorem load_tells (history : History mysql faulty Tables.empty entries tables)
    (executes : Executes mysql faulty order tables job completion after)
    (load : commandOf job = .ok (.load account)) (ok : completion.ok = true) :
    ∃ characters, Roll mysql entries account characters ∧
      completion = completed job (loadLine account (characters.map characterText)) := by
  have sound := sound_history (sound_empty mysql) history
  have faithful := faithful_of_replays (characters_replay_history history) sound
    (provenance_history history)
  rcases executes_all_or_nothing sound executes with ⟨failed, _⟩ | ⟨line, told, outcome⟩
  · cases failed.symm.trans ok
  · cases there : tables.player mysql account with
    | none =>
        rw [load_needs_account load (Or.inl rfl) there] at outcome
        cases outcome
    | some row =>
        rw [load_outcome order load there] at outcome
        split_ifs at outcome
        · cases outcome
        · cases outcome
          exact ⟨_, roll_listed faithful there order, told⟩

theorem load_inventory_tells (history : History mysql faulty Tables.empty entries tables)
    (executes : Executes mysql faulty order tables job completion after)
    (load : commandOf job = .ok (.loadInventory account)) (ok : completion.ok = true) :
    ∃ line, Tells line (inventoryOf mysql entries account) ∧ completion = completed job line := by
  have sound := sound_history (sound_empty mysql) history
  rcases executes_all_or_nothing sound executes with ⟨failed, _⟩ | ⟨line, told, outcome⟩
  · cases failed.symm.trans ok
  · cases there : tables.player mysql account with
    | none =>
        rw [load_needs_account load (Or.inr rfl) there] at outcome
        cases outcome
    | some row =>
        rw [load_inventory_outcome order load there] at outcome
        cases outcome
        have replay := items_replay_history history
        refine ⟨_, ?_, told⟩
        rw [← replay.1.known account row there]
        exact tells_listed sound replay.2 account row.id

end

/-- What loads tell, by the jobs that act before them, and what becomes of a save. -/
structure LoadsTell (mysql : Mysql) (turns : List Turn) : Prop where
  characters : ∀ front load back account, turns = front ++ load :: back →
    commandOf load.job = .ok (.load account) → load.completion.ok = true →
      ∃ characters, Roll mysql (front.map Turn.entry) account characters ∧
        load.completion = completed load.job (loadLine account (characters.map characterText))
  inventory : ∀ front load back account, turns = front ++ load :: back →
    commandOf load.job = .ok (.loadInventory account) → load.completion.ok = true →
      ∃ line, Tells line (inventoryOf mysql (front.map Turn.entry) account) ∧
        load.completion = completed load.job line
  saved : ∀ save ∈ turns, ∀ load ∈ turns, ∀ account name level gold asked,
    Precedes (turns.map Turn.ticket) save.ticket load.ticket →
    commandOf save.job = .ok (.save account name level gold) → save.completion.ok = true →
    commandOf load.job = .ok (.load asked) → load.completion.ok = true →
    mysql.same account asked = true →
      ∃ characters : List Character, load.completion =
          completed load.job (loadLine asked (characters.map characterText)) ∧
        ∃ shown ∈ characters, mysql.same shown.name name = true ∧
          ∃ writer ∈ turns, (writer = save ∨
              Precedes (turns.map Turn.ticket) save.ticket writer.ticket) ∧
            savedBy mysql asked shown.name writer.entry = some (shown.level, shown.gold)

section

variable {mysql : Mysql} {turns : List Turn} {ending : Tables}

theorem turn_at {front back : List Turn} {turn : Turn}
    (history : History mysql false Tables.empty (turns.map Turn.entry) ending)
    (parts : turns = front ++ turn :: back) : ∃ before order after,
      History mysql false Tables.empty (front.map Turn.entry) before ∧
        Executes mysql false order before turn.job turn.completion after := by
  have entries : turns.map Turn.entry = front.map Turn.entry ++
      (turn.job, turn.completion) :: back.map Turn.entry := by
    rw [parts, List.map_append]
    rfl
  rw [entries] at history
  rcases history_at history with ⟨before, order, after, ahead, executes, _⟩
  exact ⟨before, order, after, ahead, executes⟩

theorem saved_by_save {save : Turn} {account name asked shown : Bytes} {level gold : Nat}
    (command : commandOf save.job = .ok (.save account name level gold))
    (ok : save.completion.ok = true) (owner : mysql.same account asked = true)
    (named : mysql.same name shown = true) :
    savedBy mysql asked shown save.entry = some (level, gold) := by
  simp only [savedBy, Turn.entry, ok, command, owner, named, Bool.and_self, if_true]

theorem loads_tell_of_history (distinct : (turns.map Turn.ticket).Nodup)
    (history : History mysql false Tables.empty (turns.map Turn.entry) ending) :
    LoadsTell mysql turns := by
  constructor
  · intro front load back account parts command ok
    rcases turn_at history parts with ⟨before, order, after, ahead, executes⟩
    exact load_tells ahead executes command ok
  · intro front load back account parts command ok
    rcases turn_at history parts with ⟨before, order, after, ahead, executes⟩
    exact load_inventory_tells ahead executes command ok
  · intro save saves load loads account name level gold asked precedes written done command ok owner
    rcases precedes.split distinct saves loads with ⟨front, middle, back, parts⟩
    have split : turns = (front ++ save :: middle) ++ load :: back := by
      rw [parts, List.append_assoc]
      rfl
    rcases turn_at history split with ⟨before, order, after, ahead, executes⟩
    rcases load_tells ahead executes command ok with ⟨characters, roll, told⟩
    have own : Names mysql asked name save.entry :=
      Or.inl ⟨_, saved_by_save written done owner (mysql.same_refl name)⟩
    have listed : save.entry ∈ (front ++ save :: middle).map Turn.entry :=
      List.mem_map_of_mem (List.mem_append_right _ List.mem_cons_self)
    rcases (roll.exactly name).mpr ⟨_, listed, own⟩ with ⟨shown, present, named⟩
    refine ⟨characters, told, shown, present, named, ?_⟩
    have wrote := saved_by_save written done owner (mysql.same_symm _ _ named)
    -- The last writer before the load is the save or acts behind it.
    rw [List.map_append, List.map_cons] at roll
    rcases last_since wrote (front.map Turn.entry) (middle.map Turn.entry) with
      ⟨entry, since, value, writes, final⟩
    have values := (roll.values shown present).1
    rw [final, Option.getD_some] at values
    rw [← values] at writes
    rw [← List.map_cons] at since
    rcases List.mem_map.mp since with ⟨writer, behind, rfl⟩
    refine ⟨writer, ?_, ?_, writes⟩
    · rw [split]
      exact List.mem_append_left _ (List.mem_append_right _ behind)
    · rcases List.mem_cons.mp behind with rfl | later
      · exact Or.inl rfl
      · right
        refine ⟨(front ++ [save]).map Turn.ticket, (middle ++ load :: back).map Turn.ticket, ?_,
          ?_, ?_⟩
        · rw [parts, ← List.map_append, List.append_assoc]
          rfl
        · exact List.mem_map_of_mem (List.mem_append_right _ (List.mem_singleton_self save))
        · exact List.mem_map_of_mem (List.mem_append_left _ later)

end

/-- In the order that explains the answers, loads tell what has been saved. -/
theorem loads_tell_saves {mysql : Mysql} {config : ServerConfig} {poolSize : Nat}
    {process : Process} {labels : List Program.Label}
    (healthy : ∀ label ∈ labels, WorkersAre Linearized.Healthy label)
    (ran : run (Program.step mysql) (Program.start config poolSize Tables.empty) labels =
      some process) :
    ∃ turns, Explained mysql Tables.empty process turns ∧ LoadsTell mysql turns := by
  rcases process_sequential (sound_empty mysql) healthy ran with
    ⟨moves, turns, followed, sequential⟩
  exact ⟨turns, explained_of_sequential (standing_run ran) (backed_run ran) followed sequential,
    loads_tell_of_history sequential.distinct sequential.history⟩

/-- The only worker executes a job of so many statements. -/
def executesJob (statements : Nat) : List Program.Label :=
  .worker 0 .pop :: List.replicate statements (.worker 0 (.execute (.goes .asStored))) ++
    [.worker 0 .push, .worker 0 .signal]

/-- A client registers, saves a character and an item, goes to a place and loads. -/
def savesThenLoads : List Program.Label :=
  [.ring .tick, .ring (.accept 0 5), .ring .tick, .ring .tick, .ring .tick, .ring .tick, .ring .tick,
    .ring (.recv 2 (ascii "REGISTER ada Ada\nSAVE ada mage 5 70\nSAVE_ITEM ada 3 9 2\n" ++
      ascii "ENTER ada mage 7 -8\nLOAD ada\nLOAD_INVENTORY ada\n"))] ++
    List.replicate 7 (.ring .tick) ++
    [.worker 0 .pop, .worker 0 (.connect (.ok ())), .worker 0 (.execute (.goes .asStored)),
      .worker 0 .push, .worker 0 .signal] ++
    executesJob 4 ++ executesJob 4 ++ executesJob 4 ++ executesJob 2 ++ executesJob 2

theorem loads_tell_saves_both :
    ∃ process, run (Program.step Mysql.binary) (Program.start .default 1 Tables.empty)
        savesThenLoads = some process ∧
      (process.pool.pushed.map fun entry => entry.2.2.line).drop 3 =
        [ascii "OK SAVE_POSITION account=ada character=mage x=7 y=-8",
          ascii "OK LOAD account=ada character_count=1 characters=mage:5:70:7:-8",
          ascii "OK LOAD_INVENTORY account=ada item_count=1 items=3:9:2"] ∧
      ∃ turns, Explained Mysql.binary Tables.empty process turns ∧
        LoadsTell Mysql.binary turns := by
  have ends : (run (Program.step Mysql.binary) (Program.start .default 1 Tables.empty)
      savesThenLoads).any (fun process =>
        decide ((process.pool.pushed.map fun entry => entry.2.2.line).drop 3 =
          [ascii "OK SAVE_POSITION account=ada character=mage x=7 y=-8",
            ascii "OK LOAD account=ada character_count=1 characters=mage:5:70:7:-8",
            ascii "OK LOAD_INVENTORY account=ada item_count=1 items=3:9:2"])) = true := by
    decide +kernel
  rcases Option.any_eq_true _ _ |>.mp ends with ⟨process, ran, told⟩
  exact ⟨process, ran, of_decide_eq_true told, loads_tell_saves (by decide) ran⟩

end DungeonPortfolio.Readings
