import DungeonPortfolio.Decimals
import DungeonPortfolio.Executions
import DungeonPortfolio.Server

/-!
# The numbers that are stored

The path of the numbers of a SAVE or SAVE_ITEM line: `is_unsigned_number`,
`std::stoul` and `std::stoull`, the cast to `unsigned int` and the branch on the
cast count. The cast keeps the value modulo 2^32, so the line is stored as it
reads exactly when the numbers that are cast have 32 bits, or nothing is stored.
-/

namespace DungeonPortfolio.StoredNumbers

open DungeonPortfolio.Text DungeonPortfolio.Protocol DungeonPortfolio.World
open DungeonPortfolio.Dispatcher DungeonPortfolio.Server DungeonPortfolio.Schema
open DungeonPortfolio.Connection DungeonPortfolio.Commands DungeonPortfolio.Executions
open DungeonPortfolio.Statements DungeonPortfolio.Decimals DungeonPortfolio.Atomicity

set_option autoImplicit false

def requestJob (ref : SessionRef) (requestId : Nat) (operation : DbOperation)
    (request : Request) : DbJob :=
  ⟨ref, requestId, operation, request.commandName, request.args, true⟩

theorem handle_database_command_job (system : System) (ref : SessionRef) (request : Request)
    {operation : DbOperation} (kind : operationFor request.type = .ok operation) :
    system.handleDatabaseCommand ref request =
      .ok (((system.countPending ref.fd).queueResponse ref
        (.pending (counterValue system.nextRequestId) request.commandName)).submitJob
          (requestJob ref (counterValue system.nextRequestId) operation request)) := by
  unfold System.handleDatabaseCommand
  rw [kind]
  rfl

/-- The rows that the line asks for, on the decimal values of its arguments. -/
def Asked (mysql : Mysql) (before : Tables) (request : Request) (after : Tables) : Prop :=
  match request.type, request.args with
  | .saveCharacter, [account, character, level, gold] =>
      ∃ row, before.player mysql account = some row ∧ after = before.apply mysql
        (.character row.id character (decimalValue level) (decimalValue gold))
  | .saveInventoryItem, [account, slot, itemId, count] =>
      ∃ row, before.player mysql account = some row ∧ after = before.apply mysql
        (if decimalValue count = 0 then .clear row.id (decimalValue slot)
        else .item row.id (decimalValue slot) (decimalValue itemId) (decimalValue count))
  | _, _ => False

/-- However the job is executed, it fails and changes nothing or it is done and has
written what the line says. -/
def StoresNumbers (mysql : Mysql) (before : Tables) (request : Request) (job : DbJob) : Prop :=
  ∀ order completion after, Executes mysql true order before job completion after →
    (completion.ok = false ∧ SameRows before after) ∨
      (completion.ok = true ∧ Asked mysql before request after)

/-- The numbers that are cast have 32 bits, or the job fails, or it clears a slot
that is empty already. -/
def NumbersFit (mysql : Mysql) (before : Tables) (request : Request) : Prop :=
  match request.type, request.args with
  | .saveCharacter, [account, character, level, gold] =>
      before.player mysql account = none ∨ mysql.fits character = false ∨
        2 ^ 64 ≤ decimalValue level ∨ 2 ^ 64 ≤ decimalValue gold ∨ decimalValue level < 2 ^ 32
  | .saveInventoryItem, [account, slot, itemId, count] =>
      before.player mysql account = none ∨ 2 ^ 64 ≤ decimalValue slot ∨
        2 ^ 64 ≤ decimalValue itemId ∨ 2 ^ 64 ≤ decimalValue count ∨
        (decimalValue slot < 2 ^ 32 ∧ decimalValue count < 2 ^ 32) ∨
        (decimalValue count = 0 ∧ ∀ row, before.player mysql account = some row →
          before.item row.id (decimalValue slot % 2 ^ 32) = none)
  | _, _ => True

variable {mysql : Mysql} {before : Tables} {job : DbJob}

theorem command_of_save (client : SessionRef) (requestId : Nat) (commandName account character level
    gold : Bytes) (notify : Bool) :
    commandOf ⟨client, requestId, .saveCharacter, commandName, [account, character, level, gold],
        notify⟩ =
      (stoul level >>= fun level => stoull gold >>= fun gold =>
        .ok (.save account character (toUInt32 level) gold)) := rfl

theorem command_of_save_item (client : SessionRef) (requestId : Nat) (commandName account slot
    itemId count : Bytes) (notify : Bool) :
    commandOf ⟨client, requestId, .saveInventoryItem, commandName, [account, slot, itemId, count],
        notify⟩ =
      (stoul slot >>= fun slot => stoull itemId >>= fun itemId => stoul count >>= fun count =>
        .ok (.saveItem account (toUInt32 slot) itemId (toUInt32 count))) := rfl

/-- The property in terms of the command in one step. -/
theorem stores_numbers_iff (sound : Sound mysql before) {request : Request} :
    StoresNumbers mysql before request job ↔
      ∀ order line after, atomically mysql order before job = (.ok line, after) →
        Asked mysql before request after := by
  constructor
  · intro stores order line after outcome
    have executes : Executes mysql true order before job (completed job line) after := by
      apply Executes.may_fail
      apply (executes_iff sound).mpr
      rw [executedAlone, outcome]
      rfl
    rcases stores order _ after executes with ⟨failed, _⟩ | ⟨_, asked⟩
    · cases failed
    · exact asked
  · intro asked order completion after executes
    rcases executes_all_or_nothing sound executes with failed | ⟨line, rfl, outcome⟩
    · exact Or.inl failed
    · exact Or.inr ⟨rfl, asked order line after outcome⟩

theorem save_fails_on_long {client : SessionRef} {requestId : Nat}
    {commandName account character level gold : Bytes} {notify : Bool} (levelDigits : IsDigits level)
    (goldDigits : IsDigits gold)
    (long : 2 ^ 64 ≤ decimalValue level ∨ 2 ^ 64 ≤ decimalValue gold) :
    ∃ error, commandOf ⟨client, requestId, .saveCharacter, commandName,
      [account, character, level, gold], notify⟩ = .error error := by
  rw [command_of_save]
  by_cases first : 2 ^ 64 ≤ decimalValue level
  · rcases stoul_of_long_digits levelDigits first with ⟨error, bad⟩
    exact ⟨error, by rw [bad]; rfl⟩
  · rcases stoull_of_long_digits goldDigits (long.resolve_left first) with ⟨error, bad⟩
    exact ⟨error, by rw [stoul_of_digits levelDigits (Nat.not_le.mp first), bad]; rfl⟩

theorem character_level_injective {tables : Tables} {playerId level other gold : Nat} {name : Bytes}
    (same : tables.apply mysql (.character playerId name level gold) =
      tables.apply mysql (.character playerId name other gold)) : level = other := by
  have found := character_written mysql tables playerId name level gold
  rw [same, character_written] at found
  cases there : tables.character mysql playerId name with
  | none =>
      rw [there] at found
      simpa using found.symm
  | some row =>
      rw [there] at found
      simpa using found.symm

theorem save_stores_iff {client : SessionRef} {requestId : Nat}
    {commandName account character level gold : Bytes} {notify : Bool} (levelDigits : IsDigits level)
    (goldDigits : IsDigits gold) :
    (∀ order line after, atomically mysql order before ⟨client, requestId, .saveCharacter,
        commandName, [account, character, level, gold], notify⟩ = (.ok line, after) →
      ∃ row, before.player mysql account = some row ∧ after = before.apply mysql
        (.character row.id character (decimalValue level) (decimalValue gold))) ↔
    (before.player mysql account = none ∨ mysql.fits character = false ∨
      2 ^ 64 ≤ decimalValue level ∨ 2 ^ 64 ≤ decimalValue gold ∨ decimalValue level < 2 ^ 32) := by
  by_cases long : 2 ^ 64 ≤ decimalValue level ∨ 2 ^ 64 ≤ decimalValue gold
  · rcases save_fails_on_long levelDigits goldDigits long with ⟨error, bad⟩
    constructor
    · intro _
      rcases long with level | gold
      · exact Or.inr (Or.inr (Or.inl level))
      · exact Or.inr (Or.inr (Or.inr (Or.inl gold)))
    · intro _ order line after outcome
      unfold atomically at outcome
      rw [bad] at outcome
      cases outcome
  · have short : decimalValue level < 2 ^ 64 ∧ decimalValue gold < 2 ^ 64 := by omega
    have converted : commandOf ⟨client, requestId, .saveCharacter, commandName,
        [account, character, level, gold], notify⟩ =
        .ok (.save account character (toUInt32 (decimalValue level)) (decimalValue gold)) := by
      rw [command_of_save, stoul_of_digits levelDigits short.1, stoull_of_digits goldDigits short.2]
      rfl
    constructor
    · intro stores
      cases there : before.player mysql account with
      | none => exact Or.inl rfl
      | some row =>
          cases fits : mysql.fits character with
          | false => exact Or.inr (Or.inl rfl)
          | true =>
              have unrefused : refusalOf mysql character = none := by
                rw [refusalOf, fits]
                rfl
              have outcome := atomically_save mysql converted .asStored before
              rw [unrefused, saving_granted there] at outcome
              rcases stores _ _ _ outcome with ⟨other, same, written⟩
              cases there.symm.trans same
              have cast := character_level_injective written
              have small := to_uint32_lt (decimalValue level)
              rw [cast] at small
              exact Or.inr (Or.inr (Or.inr (Or.inr small)))
    · intro fits order line after outcome
      rw [atomically_save mysql converted, saving_ok_iff] at outcome
      rcases outcome with ⟨row, there, granted, _, rfl⟩
      refine ⟨row, there, ?_⟩
      have taken : mysql.fits character = true := by
        by_contra unfit
        simp [refusalOf, unfit] at granted
      have small : decimalValue level < 2 ^ 32 := by
        rcases fits with absent | unfit | rest
        · cases there.symm.trans absent
        · cases taken.symm.trans unfit
        · omega
      rw [toUInt32, Nat.mod_eq_of_lt small]

theorem item_fails_on_long {client : SessionRef} {requestId : Nat}
    {commandName account slot itemId count : Bytes} {notify : Bool} (slotDigits : IsDigits slot)
    (itemDigits : IsDigits itemId) (countDigits : IsDigits count)
    (long : 2 ^ 64 ≤ decimalValue slot ∨ 2 ^ 64 ≤ decimalValue itemId ∨
      2 ^ 64 ≤ decimalValue count) :
    ∃ error, commandOf ⟨client, requestId, .saveInventoryItem, commandName,
      [account, slot, itemId, count], notify⟩ = .error error := by
  rw [command_of_save_item]
  by_cases first : 2 ^ 64 ≤ decimalValue slot
  · rcases stoul_of_long_digits slotDigits first with ⟨error, bad⟩
    exact ⟨error, by rw [bad]; rfl⟩
  · have slotRead := stoul_of_digits slotDigits (Nat.not_le.mp first)
    by_cases second : 2 ^ 64 ≤ decimalValue itemId
    · rcases stoull_of_long_digits itemDigits second with ⟨error, bad⟩
      exact ⟨error, by rw [slotRead, bad]; rfl⟩
    · have itemRead := stoull_of_digits itemDigits (Nat.not_le.mp second)
      have third := (long.resolve_left first).resolve_left second
      rcases stoul_of_long_digits countDigits third with ⟨error, bad⟩
      exact ⟨error, by rw [slotRead, itemRead, bad]; rfl⟩

/-- What the cast values write and what the line asks for are the same exactly when
both numbers have 32 bits or there is nothing to clear. -/
theorem cast_item_iff (mysql : Mysql) {tables : Tables} (typed : ColumnTypes tables)
    (playerId slot itemId count : Nat) (item64 : itemId < 2 ^ 64) :
    tables.apply mysql (if toUInt32 count = 0 then .clear playerId (toUInt32 slot)
        else .item playerId (toUInt32 slot) itemId (toUInt32 count)) =
      tables.apply mysql (if count = 0 then .clear playerId slot
        else .item playerId slot itemId count) ↔
    (slot < 2 ^ 32 ∧ count < 2 ^ 32) ∨
      (count = 0 ∧ tables.item playerId (slot % 2 ^ 32) = none) := by
  constructor
  · intro same
    by_cases zero : count = 0
    · rw [if_pos zero] at same
      have cast : toUInt32 count = 0 := by rw [zero]; rfl
      rw [if_pos cast] at same
      by_cases small : slot < 2 ^ 32
      · exact Or.inl ⟨small, by omega⟩
      · right
        refine ⟨zero, ?_⟩
        have apart : ¬ (playerId = playerId ∧ slot = slot % 2 ^ 32) := by omega
        rw [← clear_elsewhere mysql apart tables, ← same]
        exact item_cleared mysql tables playerId (toUInt32 slot)
    · rw [if_neg zero] at same
      left
      have after : ColumnTypes (tables.apply mysql (.item playerId slot itemId count)) := by
        rw [← same]
        apply typed_apply typed
        split_ifs
        · trivial
        · exact ⟨to_uint32_lt slot, item64, to_uint32_lt count⟩
      have found := List.mem_of_find?_eq_some
        (item_written mysql tables playerId slot itemId count)
      exact ⟨after.slots _ found, after.stackCounts _ found⟩
  · rintro (⟨slot32, count32⟩ | ⟨zero, empty⟩)
    · rw [toUInt32, toUInt32, Nat.mod_eq_of_lt slot32, Nat.mod_eq_of_lt count32]
    · have cast : toUInt32 count = 0 := by rw [zero]; rfl
      rw [if_pos cast, if_pos zero]
      have unused : tables.item playerId slot = none := by
        by_cases small : slot < 2 ^ 32
        · rw [Nat.mod_eq_of_lt small] at empty
          exact empty
        · apply List.find?_eq_none.mpr
          intro row member passes
          have bound := typed.slots row member
          have same := (is_item_iff.mp passes).2
          omega
      exact (clear_absent empty).trans (clear_absent unused).symm

theorem item_stores_iff {client : SessionRef} {requestId : Nat}
    {commandName account slot itemId count : Bytes} {notify : Bool} (typed : ColumnTypes before)
    (slotDigits : IsDigits slot) (itemDigits : IsDigits itemId) (countDigits : IsDigits count) :
    (∀ order line after, atomically mysql order before ⟨client, requestId, .saveInventoryItem,
        commandName, [account, slot, itemId, count], notify⟩ = (.ok line, after) →
      ∃ row, before.player mysql account = some row ∧ after = before.apply mysql
        (if decimalValue count = 0 then .clear row.id (decimalValue slot)
        else .item row.id (decimalValue slot) (decimalValue itemId) (decimalValue count))) ↔
    (before.player mysql account = none ∨ 2 ^ 64 ≤ decimalValue slot ∨
      2 ^ 64 ≤ decimalValue itemId ∨ 2 ^ 64 ≤ decimalValue count ∨
      (decimalValue slot < 2 ^ 32 ∧ decimalValue count < 2 ^ 32) ∨
      (decimalValue count = 0 ∧ ∀ row, before.player mysql account = some row →
        before.item row.id (decimalValue slot % 2 ^ 32) = none)) := by
  by_cases long : 2 ^ 64 ≤ decimalValue slot ∨ 2 ^ 64 ≤ decimalValue itemId ∨
      2 ^ 64 ≤ decimalValue count
  · rcases item_fails_on_long slotDigits itemDigits countDigits long with ⟨error, bad⟩
    constructor
    · intro _
      tauto
    · intro _ order line after outcome
      unfold atomically at outcome
      rw [bad] at outcome
      cases outcome
  · have short : decimalValue slot < 2 ^ 64 ∧ decimalValue itemId < 2 ^ 64 ∧
        decimalValue count < 2 ^ 64 := by omega
    have converted : commandOf ⟨client, requestId, .saveInventoryItem, commandName,
        [account, slot, itemId, count], notify⟩ =
        .ok (.saveItem account (toUInt32 (decimalValue slot)) (decimalValue itemId)
          (toUInt32 (decimalValue count))) := by
      rw [command_of_save_item, stoul_of_digits slotDigits short.1,
        stoull_of_digits itemDigits short.2.1, stoul_of_digits countDigits short.2.2]
      rfl
    cases there : before.player mysql account with
    | none =>
        constructor
        · intro _
          exact Or.inl rfl
        · intro _ order line after outcome
          rw [atomically_save_item mysql converted, saving_unknown there] at outcome
          cases outcome
    | some row =>
        have cast := cast_item_iff mysql typed row.id (decimalValue slot)
          (decimalValue itemId) (decimalValue count) short.2.1
        constructor
        · intro stores
          have outcome := atomically_save_item mysql converted .asStored before
          rw [saving_granted there] at outcome
          rcases stores _ _ _ outcome with ⟨other, same, written⟩
          cases same
          rcases cast.mp written with small | ⟨zero, empty⟩
          · tauto
          · refine Or.inr (Or.inr (Or.inr (Or.inr (Or.inr ⟨zero, ?_⟩))))
            intro owner same
            cases same
            exact empty
        · intro fits order line after outcome
          rw [atomically_save_item mysql converted, saving_granted there] at outcome
          cases outcome
          refine ⟨row, rfl, cast.mpr ?_⟩
          rcases fits with absent | one | two | three | small | ⟨zero, empty⟩
          · cases absent
          · omega
          · omega
          · omega
          · exact Or.inl small
          · exact Or.inr ⟨zero, empty row rfl⟩

/-- A SAVE or SAVE_ITEM line is stored as it reads, or fails, exactly when the
numbers it has cast fit. -/
theorem numbers_stored_iff_fit {line : Bytes} {request : Request} {operation : DbOperation}
    (parsed : parseLine line = .ok request)
    (numeric : request.type = .saveCharacter ∨ request.type = .saveInventoryItem)
    (kind : operationFor request.type = .ok operation) (sound : Sound mysql before)
    (typed : ColumnTypes before) (ref : SessionRef) (requestId : Nat) :
    StoresNumbers mysql before request (requestJob ref requestId operation request) ↔
      NumbersFit mysql before request := by
  rw [stores_numbers_iff sound]
  have accepted := (parse_line_accepted parsed).1
  rcases request with ⟨type, commandName, args⟩
  rcases numeric with rfl | rfl
  · rcases accepted with ⟨account, character, level, gold, rfl, levelDigits, goldDigits⟩
    cases kind
    exact save_stores_iff (is_digits_of_unsigned levelDigits) (is_digits_of_unsigned goldDigits)
  · rcases accepted with ⟨account, slot, itemId, count, rfl, slotDigits, itemDigits, countDigits⟩
    cases kind
    exact item_stores_iff typed (is_digits_of_unsigned slotDigits)
      (is_digits_of_unsigned itemDigits) (is_digits_of_unsigned countDigits)

def oneSlot : Tables := ⟨[⟨1, ascii "a", ascii "n"⟩], [], [⟨1, 0, 7, 3⟩], 2⟩

theorem sound_one_slot : Sound Mysql.binary oneSlot where
  accounts := List.pairwise_singleton _ _
  ids := by decide
  players := by decide
  characters := List.Pairwise.nil
  items := List.pairwise_singleton _ _

theorem typed_one_slot : ColumnTypes oneSlot := by
  constructor <;> decide

def saveItemRequest (count : Bytes) : Request :=
  ⟨.saveInventoryItem, ascii "SAVE_ITEM", [ascii "a", ascii "0", ascii "7", count]⟩

theorem numbers_stored_iff_fit_five :
    parseLine (ascii "save_item a 0 7 5") = .ok (saveItemRequest (ascii "5")) ∧
      StoresNumbers Mysql.binary oneSlot (saveItemRequest (ascii "5"))
        (requestJob ⟨5, 1⟩ 1 .saveInventoryItem (saveItemRequest (ascii "5"))) := by
  have parsed : parseLine (ascii "save_item a 0 7 5") = .ok (saveItemRequest (ascii "5")) := by
    decide
  have fits : NumbersFit Mysql.binary oneSlot (saveItemRequest (ascii "5")) := by
    refine Or.inr (Or.inr (Or.inr (Or.inr (Or.inl ?_))))
    decide
  exact ⟨parsed, (numbers_stored_iff_fit parsed (Or.inr rfl) rfl sound_one_slot typed_one_slot
    ⟨5, 1⟩ 1).mpr fits⟩

/-- 2^32 of item 7 empty the slot, and the job is done. -/
theorem wrapped_count_clears_slot :
    parseLine (ascii "SAVE_ITEM a 0 7 4294967296") = .ok (saveItemRequest (ascii "4294967296")) ∧
      (∃ completion after, Executes Mysql.binary true .asStored oneSlot
        (requestJob ⟨5, 1⟩ 1 .saveInventoryItem (saveItemRequest (ascii "4294967296")))
        completion after ∧ completion.ok = true ∧ oneSlot.item 1 0 = some ⟨1, 0, 7, 3⟩ ∧
        after.item 1 0 = none) ∧
      ¬ StoresNumbers Mysql.binary oneSlot (saveItemRequest (ascii "4294967296"))
        (requestJob ⟨5, 1⟩ 1 .saveInventoryItem (saveItemRequest (ascii "4294967296"))) := by
  have parsed : parseLine (ascii "SAVE_ITEM a 0 7 4294967296") =
      .ok (saveItemRequest (ascii "4294967296")) := by
    decide
  have outcome : atomically Mysql.binary .asStored oneSlot
      (requestJob ⟨5, 1⟩ 1 .saveInventoryItem (saveItemRequest (ascii "4294967296"))) =
      (.ok (saveItemLine (ascii "a") 0 7 0),
        ⟨[⟨1, ascii "a", ascii "n"⟩], [], [], 2⟩) := by
    rfl
  have executes := Executes.may_fail ((executes_iff sound_one_slot).mpr
    (show executedAlone Mysql.binary .asStored oneSlot
      (requestJob ⟨5, 1⟩ 1 .saveInventoryItem (saveItemRequest (ascii "4294967296"))) = _ by
        rw [executedAlone, outcome]))
  refine ⟨parsed, ⟨_, _, executes, rfl, rfl, rfl⟩, ?_⟩
  intro stores
  rcases (stores_numbers_iff sound_one_slot).mp stores _ _ _ outcome with ⟨row, there, written⟩
  have items := congrArg Tables.inventoryItems written
  cases there
  exact absurd items (by decide)

end DungeonPortfolio.StoredNumbers
