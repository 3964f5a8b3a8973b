import DungeonPortfolio.Decimals
import DungeonPortfolio.Library.Framing
import DungeonPortfolio.Replaying
import Mathlib.Data.Set.Card

/-!
# The inventory line is decodable

Replaying the successful SAVE_ITEM jobs of an account gives a map from slots to
items. LOAD_INVENTORY prints it in slot order, and since numbers are printed
without separators the map is read back from the line, whatever the account name
contains.
-/

namespace DungeonPortfolio.Inventory

open DungeonPortfolio.Text DungeonPortfolio.World DungeonPortfolio.Dispatcher
open DungeonPortfolio.Schema DungeonPortfolio.Statements DungeonPortfolio.Connection
open DungeonPortfolio.Commands DungeonPortfolio.Atomicity DungeonPortfolio.Executions
open DungeonPortfolio.ReadBack DungeonPortfolio.Replaying DungeonPortfolio.Decimals
open Library.Upsert Library.Replay Library.Framing

set_option autoImplicit false

def decodeItem (text : Bytes) : Item :=
  match text.splitOn colon with
  | [slot, itemId, count] => ⟨decimalValue slot, decimalValue itemId, decimalValue count⟩
  | _ => ⟨0, 0, 0⟩

/-- The number of items and the items that a LOAD_INVENTORY line announces. What
follows the last equals sign is the list of items, or the number when there are
none. -/
def decodeInventory (line : Bytes) : Nat × List Item :=
  match (line.splitOn equalsSign).reverse with
  | last :: before :: _ =>
      if colon ∈ last then
        (decimalValue (before.takeWhile isDigit), (last.splitOn comma).map decodeItem)
      else (decimalValue last, [])
  | _ => (0, [])

theorem decode_item_text (item : Item) : decodeItem (itemText item) = item := by
  have flat : itemText item = printNat item.slot ++ colon :: (printNat item.itemId ++
      colon :: printNat item.stackCount) := by
    simp only [itemText, List.append_assoc]
    rfl
  rw [decodeItem, flat,
    List.splitOn_append_cons_self_of_not_mem (not_in_number item.slot rfl),
    List.splitOn_append_cons_self_of_not_mem (not_in_number item.itemId rfl),
    List.splitOn_eq_singleton (not_in_number item.stackCount rfl)]
  simp only [decimal_value_print_nat]

theorem not_in_item_text (item : Item) {byte : UInt8} (other : isDigit byte = false)
    (separates : byte ≠ colon) : byte ∉ itemText item := by
  simp only [itemText, List.mem_append, not_or]
  have ascii_colon : ascii ":" = [colon] := rfl
  rw [ascii_colon, List.mem_singleton]
  exact ⟨⟨⟨⟨not_in_number _ other, separates⟩, not_in_number _ other⟩, separates⟩,
    not_in_number _ other⟩

theorem colon_in_item_text (item : Item) : colon ∈ itemText item := by
  simp only [itemText, List.mem_append]
  exact Or.inl (Or.inr (List.mem_singleton.mpr rfl))

/-- Where no item is listed the number is the last field. -/
theorem decode_empty (before : Bytes) :
    decodeInventory (before ++ equalsSign :: printNat 0) = (0, []) := by
  have fields : (before ++ equalsSign :: printNat 0).splitOn equalsSign =
      before.splitOn equalsSign ++ [printNat 0] := by
    rw [List.splitOn_append_cons_self, List.splitOn_eq_singleton (not_in_number 0 rfl)]
  rw [decodeInventory, fields, List.reverse_append]
  rcases shape : (before.splitOn equalsSign).reverse with _ | ⟨field, earlier⟩
  · cases List.splitOn_ne_nil _ _ (List.reverse_eq_nil_iff.mp shape)
  · simp only [List.reverse_singleton, List.singleton_append]
    rw [if_neg (not_in_number 0 rfl), decimal_value_print_nat]

/-- The list of items is the last field, the number begins the one before. -/
theorem decode_listed (before : Bytes) {items : List Item} (listed : items ≠ []) :
    decodeInventory (before ++ equalsSign :: (printNat items.length ++ ascii " items" ++
      equalsSign :: commaJoined (items.map itemText))) = (items.length, items) := by
  have noComma : ∀ text ∈ items.map itemText, comma ∉ text := by
    intro text member
    rcases List.mem_map.mp member with ⟨item, _, rfl⟩
    exact not_in_item_text item rfl (by decide)
  have noEquals : equalsSign ∉ commaJoined (items.map itemText) := by
    intro member
    rcases mem_intercalate member with between | ⟨text, listed, inside⟩
    · cases List.mem_singleton.mp between
    · rcases List.mem_map.mp listed with ⟨item, _, rfl⟩
      exact not_in_item_text item rfl (by decide) inside
  have hasColon : colon ∈ commaJoined (items.map itemText) := by
    rcases List.exists_mem_of_ne_nil items listed with ⟨item, there⟩
    exact subset_intercalate (List.mem_map_of_mem there) (colon_in_item_text item)
  have noEqualsBefore : equalsSign ∉ printNat items.length ++ ascii " items" := by
    rw [List.mem_append, not_or]
    exact ⟨not_in_number _ rfl, by decide⟩
  have number : (printNat items.length ++ ascii " items").takeWhile isDigit =
      printNat items.length := by
    rw [List.takeWhile_append_of_pos (print_nat_digits items.length).2]
    exact List.append_nil _
  have split : (commaJoined (items.map itemText)).splitOn comma = items.map itemText :=
    List.splitOn_intercalate comma noComma (by simpa using listed)
  rw [decodeInventory, List.splitOn_append_cons_self,
    List.splitOn_append_cons_self_of_not_mem noEqualsBefore, List.splitOn_eq_singleton noEquals,
    List.reverse_append]
  simp only [List.reverse_cons, List.reverse_nil, List.nil_append, List.cons_append]
  rw [if_pos hasColon, number, split, decimal_value_print_nat, List.map_map]
  have decoded : decodeItem ∘ itemText = id := by
    funext item
    exact decode_item_text item
  rw [decoded, List.map_id]

theorem decode_load_inventory_line (account : Bytes) (items : List Item) :
    decodeInventory (loadInventoryLine account (items.map itemText)) = (items.length, items) := by
  by_cases listed : items = []
  · rw [listed]
    have flat : loadInventoryLine account [] = ascii "OK LOAD_INVENTORY account=" ++ account ++
        ascii " item_count" ++ equalsSign :: printNat 0 := by
      simp only [loadInventoryLine, List.append_assoc]
      rfl
    rw [List.map_nil, flat]
    exact decode_empty _
  · have flat : loadInventoryLine account (items.map itemText) =
        ascii "OK LOAD_INVENTORY account=" ++ account ++ ascii " item_count" ++ equalsSign ::
          (printNat items.length ++ ascii " items" ++
            equalsSign :: commaJoined (items.map itemText)) := by
      have some : (items.map itemText).isEmpty = false := by simpa using listed
      simp only [loadInventoryLine, some, Bool.false_eq_true, if_false, List.length_map,
        List.append_assoc]
      rfl
    rw [flat]
    exact decode_listed _ listed

/-- What an entry leaves in a slot, if it is about the slot. -/
def slotBy (mysql : Mysql) (account : Bytes) (slot : Nat) (entry : DbJob × DbCompletion) :
    Option (Option (Nat × Nat)) :=
  match entry.2.ok, commandOf entry.1 with
  | true, .ok (.saveItem owner used itemId count) =>
      if mysql.same owner account && used == slot then
        some (if count = 0 then none else some (itemId, count))
      else none
  | _, _ => none

/-- The inventory as the history has left it. -/
def inventoryOf (mysql : Mysql) (entries : Entries) (account : Bytes) (slot : Nat) :
    Option (Nat × Nat) :=
  (last (slotBy mysql account slot) entries).join

def stackOf (row : ItemRow) : Nat × Nat := (row.itemId, row.stackCount)

def stacksUnder (tables : Tables) (playerId slot : Nat) : Option (Nat × Nat) :=
  (tables.item playerId slot).map stackOf

variable {mysql : Mysql} {entries : Entries} {tables before after : Tables} {job : DbJob}
  {completion : DbCompletion}

theorem stacks_after_item (mysql : Mysql) (tables : Tables) (ownerId playerId used slot itemId
    count : Nat) :
    stacksUnder (tables.apply mysql (.item ownerId used itemId count)) playerId slot =
      if ownerId = playerId ∧ used = slot then some (itemId, count)
      else stacksUnder tables playerId slot := by
  by_cases key : ownerId = playerId ∧ used = slot
  · rw [if_pos key, stacksUnder]
    rcases key with ⟨rfl, rfl⟩
    rw [item_written]
    rfl
  · rw [if_neg key, stacksUnder, item_elsewhere mysql key]
    rfl

theorem stacks_after_clear (mysql : Mysql) (tables : Tables) (ownerId playerId used slot : Nat) :
    stacksUnder (tables.apply mysql (.clear ownerId used)) playerId slot =
      if ownerId = playerId ∧ used = slot then none else stacksUnder tables playerId slot := by
  by_cases key : ownerId = playerId ∧ used = slot
  · rw [if_pos key, stacksUnder]
    rcases key with ⟨rfl, rfl⟩
    rw [item_cleared]
    rfl
  · rw [if_neg key, stacksUnder, clear_elsewhere mysql key]
    rfl

theorem stacks_after_save (mysql : Mysql) (tables : Tables) (ownerId playerId used slot itemId
    count : Nat) :
    stacksUnder (tables.apply mysql (if count = 0 then .clear ownerId used
        else .item ownerId used itemId count)) playerId slot =
      if ownerId = playerId ∧ used = slot then (if count = 0 then none else some (itemId, count))
      else stacksUnder tables playerId slot := by
  by_cases zero : count = 0
  · rw [if_pos zero, if_pos zero]
    exact stacks_after_clear mysql tables ownerId playerId used slot
  · rw [if_neg zero, if_neg zero]
    exact stacks_after_item mysql tables ownerId playerId used slot itemId count

def ItemsReplay (mysql : Mysql) (entries : Entries) (tables : Tables) : Prop :=
  Replays mysql stacksUnder (fun _ => none) (inventoryOf mysql entries) tables

structure ItemRows (tables : Tables) : Prop where
  owned : ∀ item ∈ tables.inventoryItems, ∃ row ∈ tables.players, row.id = item.playerId
  positive : ∀ item ∈ tables.inventoryItems, item.stackCount ≠ 0

theorem inventory_skip {entry : DbJob × DbCompletion} {account : Bytes} {slot : Nat}
    (skips : slotBy mysql account slot entry = none) :
    inventoryOf mysql (entries ++ [entry]) account slot = inventoryOf mysql entries account slot := by
  rw [inventoryOf, last_skip skips, inventoryOf]

theorem inventory_written {entry : DbJob × DbCompletion} {account : Bytes} {slot : Nat}
    {stack : Option (Nat × Nat)} (written : slotBy mysql account slot entry = some stack) :
    inventoryOf mysql (entries ++ [entry]) account slot = stack := by
  rw [inventoryOf, last_written written, Option.join_some]

theorem items_unwritten (replays : ItemsReplay mysql entries before)
    (players : after.players = before.players) (items : after.inventoryItems = before.inventoryItems)
    (skips : ∀ account slot, slotBy mysql account slot (job, completion) = none) :
    ItemsReplay mysql (entries ++ [(job, completion)]) after := by
  apply replays_same replays players
  · intro id
    funext slot
    rw [stacksUnder, Tables.item, items]
    rfl
  · intro account
    funext slot
    exact inventory_skip (skips account slot)

theorem no_items_yet (sound : Sound mysql tables) (rows : ItemRows tables) :
    stacksUnder tables tables.nextPlayerId = fun _ => none := by
  funext slot
  have absent : tables.item tables.nextPlayerId slot = none := by
    apply List.find?_eq_none.mpr
    intro item stored passes
    rcases rows.owned item stored with ⟨owner, member, same⟩
    have bound := sound.ids owner member
    have key := (is_item_iff.mp passes).1
    omega
  rw [stacksUnder, absent]
  rfl

theorem replays_save_item (replays : ItemsReplay mysql entries before) (sound : Sound mysql before)
    {owner : Bytes} {used itemId count : Nat} {ownerRow : PlayerRow}
    (found : before.player mysql owner = some ownerRow)
    (writes : ∀ account slot, slotBy mysql account slot (job, completion) =
      if mysql.same owner account && used == slot then
        some (if count = 0 then none else some (itemId, count)) else none) :
    ItemsReplay mysql (entries ++ [(job, completion)])
      (before.apply mysql (if count = 0 then .clear ownerRow.id used
        else .item ownerRow.id used itemId count)) := by
  refine replays_write replays sound found (by split_ifs <;> rfl) ?_ ?_ ?_
  · intro account mine known
    funext slot
    have written := writes account slot
    rw [mine, Bool.true_and] at written
    rw [stacks_after_save]
    by_cases here : used = slot
    · rw [if_pos (beq_iff_eq.mpr here)] at written
      rw [if_pos ⟨rfl, here⟩, inventory_written written]
    · rw [if_neg (fun same => here (beq_iff_eq.mp same))] at written
      rw [if_neg (fun both => here both.2), inventory_skip written]
      exact congrFun known slot
  · intro id apart
    funext slot
    rw [stacks_after_save, if_neg fun both => apart both.1.symm]
  · intro account other
    funext slot
    apply inventory_skip
    rw [writes, other, Bool.false_and, if_neg Bool.false_ne_true]

theorem rows_after_save {ownerRow : PlayerRow} {owner : Bytes} {used itemId count : Nat}
    (rows : ItemRows before) (found : before.player mysql owner = some ownerRow) :
    ItemRows (before.apply mysql (if count = 0 then .clear ownerRow.id used
      else .item ownerRow.id used itemId count)) := by
  by_cases zero : count = 0
  · rw [if_pos zero]
    constructor
    · intro item stored
      exact rows.owned item (List.mem_filter.mp stored).1
    · intro item stored
      exact rows.positive item (List.mem_filter.mp stored).1
  · rw [if_neg zero]
    constructor
    · exact upsert_all (fun item : ItemRow => ∃ row ∈ before.players, row.id = item.playerId) rows.owned
        ⟨ownerRow, List.mem_of_find?_eq_some found, rfl⟩ (fun _ old => old)
    · exact upsert_all (fun item : ItemRow => item.stackCount ≠ 0) rows.positive zero (fun _ _ => zero)

theorem items_replay_history {faulty : Bool}
    (history : History mysql faulty Tables.empty entries tables) :
    ItemsReplay mysql entries tables ∧ ItemRows tables := by
  induction history with
  | start =>
      refine ⟨⟨?_, fun _ _ => rfl⟩, ?_, ?_⟩
      · intro account row there
        cases there
      · intro item stored
        cases stored
      · intro item stored
        cases stored
  | next earlier executes ih =>
      rcases ih with ⟨replays, rows⟩
      have sound := sound_history (sound_empty mysql) earlier
      rcases executes_all_or_nothing sound executes with ⟨failed, same⟩ | ⟨line, rfl, outcome⟩
      · constructor
        · apply items_unwritten replays same.1 same.2.2
          intro account slot
          simp only [slotBy, failed]
        · constructor
          · rw [same.1, same.2.2]
            exact rows.owned
          · rw [same.2.2]
            exact rows.positive
      · rcases atomically_ok outcome with ⟨command, converted, ⟨written, writes, rfl⟩ | ⟨reads, rfl⟩⟩
        · cases command with
          | register account displayName =>
              rcases writes with ⟨_, other, _⟩ | ⟨_, _, rfl⟩
              · cases other
              · constructor
                · apply replays_register replays (fun _ => rfl) (no_items_yet sound rows)
                  intro account
                  funext slot
                  apply inventory_skip
                  simp only [slotBy, converted, completed, completionOf]
                · refine ⟨?_, rows.positive⟩
                  intro item stored
                  rcases rows.owned item stored with ⟨owner, member, same⟩
                  exact ⟨owner, List.mem_append_left _ member, same⟩
          | login account | load account | loadInventory account => cases writes
          | save account character level gold =>
              rcases writes with ⟨row, there, _, _, rfl⟩
              refine ⟨?_, rows.owned, rows.positive⟩
              refine items_unwritten replays (by rfl) (by rfl) ?_
              intro account slot
              simp only [slotBy, converted, completed, completionOf]
          | savePosition account character x y =>
              rcases writes with ⟨row, there, _, _, rfl⟩
              refine ⟨?_, rows.owned, rows.positive⟩
              refine items_unwritten replays (by rfl) (by rfl) ?_
              intro account slot
              simp only [slotBy, converted, completed, completionOf]
          | saveItem account slot itemId count =>
              rcases writes with ⟨row, there, _, rfl⟩
              refine ⟨?_, rows_after_save rows there⟩
              apply replays_save_item replays sound there
              intro account slot
              simp only [slotBy, converted, completed, completionOf]
        · refine ⟨?_, rows⟩
          apply items_unwritten replays rfl rfl
          intro account slot
          cases command with
          | login account | load account | loadInventory account =>
              simp only [slotBy, converted, completed, completionOf]
          | register | save | savePosition | saveItem => cases reads

theorem mem_items_listed (sound : Sound mysql tables) {playerId : Nat} {item : Item} :
    item ∈ itemsListed tables playerId ↔
      stacksUnder tables playerId item.slot = some (item.itemId, item.stackCount) := by
  rw [itemsListed, List.mem_insertionSort]
  constructor
  · intro listed
    rcases List.mem_map.mp listed with ⟨row, stored, rfl⟩
    rcases List.mem_filter.mp stored with ⟨member, owned⟩
    have passes : isItem playerId row.slot row = true :=
      is_item_iff.mpr ⟨beq_iff_eq.mp owned, rfl⟩
    have found : tables.item playerId row.slot = some row := by
      refine find_of_mem sound.items ?_ member passes
      intro first second one other
      rcases is_item_iff.mp one with ⟨owner, slot⟩
      rcases is_item_iff.mp other with ⟨owner', slot'⟩
      simp [alikeItems, owner, slot, owner', slot']
    rw [stacksUnder]
    exact congrArg (Option.map stackOf) found
  · intro held
    rcases Option.map_eq_some_iff.mp held with ⟨row, found, same⟩
    rcases is_item_iff.mp (List.find?_some found) with ⟨owner, slot⟩
    apply List.mem_map.mpr
    refine ⟨row, List.mem_filter.mpr ⟨List.mem_of_find?_eq_some found, beq_iff_eq.mpr owner⟩, ?_⟩
    have itemId := congrArg Prod.fst same
    have stackCount := congrArg Prod.snd same
    simp only [stackOf] at itemId stackCount
    rw [itemOf, slot, itemId, stackCount]

theorem slots_differ (sound : Sound mysql tables) (playerId : Nat) :
    (itemsListed tables playerId).Pairwise fun first second => first.slot ≠ second.slot := by
  have stored : (tables.itemsOf playerId).Pairwise fun first second => first.slot ≠ second.slot := by
    apply List.Pairwise.imp_of_mem _ (List.Pairwise.filter _ sound.items)
    intro first second here there apart same
    have owner := beq_iff_eq.mp (List.mem_filter.mp here).2
    have owner' := beq_iff_eq.mp (List.mem_filter.mp there).2
    simp [alikeItems, owner, owner', same] at apart
  have listed : ((tables.itemsOf playerId).map itemOf).Pairwise
      fun first second => first.slot ≠ second.slot := List.pairwise_map.mpr stored
  exact (List.Perm.pairwise_iff Ne.symm (List.perm_insertionSort _ _)).mpr listed

theorem slots_increase (sound : Sound mysql tables) (playerId : Nat) :
    (itemsListed tables playerId).Pairwise fun first second => first.slot < second.slot := by
  have total : Std.Total fun first second : Item => first.slot ≤ second.slot :=
    ⟨fun first second => Nat.le_total first.slot second.slot⟩
  have transitive : IsTrans Item fun first second => first.slot ≤ second.slot :=
    ⟨fun _ _ _ one other => Nat.le_trans one other⟩
  have sorted : (itemsListed tables playerId).Pairwise fun first second =>
      first.slot ≤ second.slot := List.pairwise_insertionSort _ _
  apply List.Pairwise.imp _ (sorted.and (slots_differ sound playerId))
  intro first second both
  exact Nat.lt_of_le_of_ne both.1 both.2

theorem load_inventory_outcome {account : Bytes} {row : PlayerRow} (order : RowOrder)
    (converted : commandOf job = .ok (.loadInventory account))
    (there : tables.player mysql account = some row) :
    atomically mysql order tables job =
      (.ok (loadInventoryLine account ((itemsListed tables row.id).map itemText)), tables) := by
  unfold atomically
  rw [converted]
  simp only [Command.outcome, forOwner, there]
  rfl

/-- A line that tells the inventory `held`: each occupied slot once, in order, and
how many there are. -/
structure Tells (line : Bytes) (held : Nat → Option (Nat × Nat)) : Prop where
  items : ∀ slot itemId count, ⟨slot, itemId, count⟩ ∈ (decodeInventory line).2 ↔
    held slot = some (itemId, count)
  increasing : (decodeInventory line).2.Pairwise fun first second => first.slot < second.slot
  number : (decodeInventory line).1 = (decodeInventory line).2.length
  occupied : (decodeInventory line).1 = {slot | (held slot).isSome = true}.ncard
  positive : ∀ item ∈ (decodeInventory line).2, item.stackCount ≠ 0

theorem Tells.unique {line : Bytes} {held other : Nat → Option (Nat × Nat)} (first : Tells line held)
    (second : Tells line other) : held = other := by
  funext slot
  apply Option.ext
  rintro ⟨itemId, count⟩
  exact (first.items slot itemId count).symm.trans (second.items slot itemId count)

theorem tells_listed (sound : Sound mysql tables) (rows : ItemRows tables) (account : Bytes)
    (playerId : Nat) :
    Tells (loadInventoryLine account ((itemsListed tables playerId).map itemText))
      (stacksUnder tables playerId) := by
  have increasing := slots_increase sound playerId
  constructor
  all_goals rw [decode_load_inventory_line]
  · intro slot itemId count
    exact mem_items_listed sound
  · exact increasing
  · have slots : {slot | (stacksUnder tables playerId slot).isSome = true} =
        ((itemsListed tables playerId).map Item.slot).toFinset := by
      ext slot
      rw [Set.mem_ofPred_eq, Option.isSome_iff_exists, Finset.mem_coe, List.mem_toFinset,
        List.mem_map]
      constructor
      · rintro ⟨⟨itemId, count⟩, held⟩
        exact ⟨⟨slot, itemId, count⟩, (mem_items_listed sound).mpr held, rfl⟩
      · rintro ⟨item, listed, rfl⟩
        exact ⟨_, (mem_items_listed sound).mp listed⟩
    have distinct : ((itemsListed tables playerId).map Item.slot).Nodup := by
      apply List.pairwise_map.mpr
      exact slots_differ sound playerId
    rw [slots, Set.ncard_coe_finset, List.toFinset_card_of_nodup distinct, List.length_map]
  · intro item listed
    rw [itemsListed, List.mem_insertionSort] at listed
    rcases List.mem_map.mp listed with ⟨row, stored, rfl⟩
    exact rows.positive row (List.mem_filter.mp stored).1

/-- LOAD_INVENTORY of a registered account answers with a line that tells the
inventory that the account's successful jobs have left, and inventories that
differ have lines that differ. -/
theorem inventory_round_trip {faulty : Bool}
    (history : History mysql faulty Tables.empty entries tables) {account : Bytes} {row : PlayerRow}
    (there : tables.player mysql account = some row)
    (converted : commandOf job = .ok (.loadInventory account)) :
    ∃ line, Tells line (inventoryOf mysql entries account) ∧
      (∀ order, Executes mysql false order tables job (completed job line) tables) ∧
      (∀ faulty order completion after, Executes mysql faulty order tables job completion after →
        completion.ok = true → completion = completed job line ∧ after = tables) ∧
      ∀ {faulty' entries' tables' row'}, History mysql faulty' Tables.empty entries' tables' →
        tables'.player mysql account = some row' → ∀ order completion,
        Executes mysql false order tables' job completion tables' → completion.line = line →
        inventoryOf mysql entries' account = inventoryOf mysql entries account := by
  have tells : ∀ {faulty' entries' tables' row'},
      History mysql faulty' Tables.empty entries' tables' →
      tables'.player mysql account = some row' →
      Tells (loadInventoryLine account ((itemsListed tables' row'.id).map itemText))
        (inventoryOf mysql entries' account) := by
    intro faulty' entries' tables' row' history' there'
    have replay := items_replay_history history'
    rw [← replay.1.known account row' there']
    exact tells_listed (sound_history (sound_empty mysql) history') replay.2 account row'.id
  have sound := sound_history (sound_empty mysql) history
  refine ⟨_, tells history there, ?_, ?_, ?_⟩
  · intro order
    exact executes_outcome sound (load_inventory_outcome order converted there)
  · intro faulty order completion after executes done
    rcases executes_all_or_nothing sound executes with ⟨failed, _⟩ | ⟨line, rfl, outcome⟩
    · rw [failed] at done
      cases done
    · rw [load_inventory_outcome order converted there] at outcome
      cases outcome
      exact ⟨rfl, rfl⟩
  · intro faulty' entries' tables' row' history' there' order completion executes same
    have sound' := sound_history (sound_empty mysql) history'
    have only := (executes_only sound' executes).1
    rw [executedAlone, load_inventory_outcome order converted there'] at only
    have line : completion.line =
        loadInventoryLine account ((itemsListed tables' row'.id).map itemText) := by
      rw [only]
      rfl
    have told := tells history' there'
    rw [← line, same] at told
    exact told.unique (tells history there)

def saveItemJob (slot itemId count : Bytes) : DbJob :=
  ⟨⟨5, 1⟩, 2, .saveInventoryItem, ascii "SAVE_ITEM", [ascii "a=1", slot, itemId, count], true⟩

def loadInventoryJob : DbJob :=
  ⟨⟨5, 1⟩, 3, .loadInventory, ascii "LOAD_INVENTORY", [ascii "a=1"], true⟩

/-- An account with an equals sign in its name: two slots, one of them written twice,
and a third one that is filled and cleared. -/
def filledAndCleared : List DbJob :=
  [registerJob (ascii "a=1") (ascii "Ann"),
    saveItemJob (ascii "3") (ascii "70") (ascii "5"), saveItemJob (ascii "1") (ascii "8") (ascii "2"),
    saveItemJob (ascii "2") (ascii "9") (ascii "1"), saveItemJob (ascii "3") (ascii "71") (ascii "6"),
    saveItemJob (ascii "2") (ascii "9") (ascii "0")]

theorem inventory_round_trip_two :
    ∃ line, Tells line (inventoryOf Mysql.binary
        (executedInTurn Mysql.binary .asStored Tables.empty filledAndCleared).1 (ascii "a=1")) ∧
      line = ascii "OK LOAD_INVENTORY account=a=1 item_count=2 items=1:8:2,3:71:6" := by
  have history := history_of_jobs (sound_empty Mysql.binary) .asStored filledAndCleared
  have sound := sound_history (sound_empty Mysql.binary) history
  have tables : (executedInTurn Mysql.binary .asStored Tables.empty filledAndCleared).2 =
      ⟨[⟨1, ascii "a=1", ascii "Ann"⟩], [], [⟨1, 3, 71, 6⟩, ⟨1, 1, 8, 2⟩], 2⟩ := by
    decide +kernel
  rw [tables] at history sound
  have converted : commandOf loadInventoryJob = .ok (.loadInventory (ascii "a=1")) := rfl
  have there : (⟨[⟨1, ascii "a=1", ascii "Ann"⟩], [], [⟨1, 3, 71, 6⟩, ⟨1, 1, 8, 2⟩], 2⟩ :
      Tables).player Mysql.binary (ascii "a=1") = some ⟨1, ascii "a=1", ascii "Ann"⟩ := rfl
  rcases inventory_round_trip history there converted with ⟨line, tells, executes, _⟩
  refine ⟨line, tells, ?_⟩
  have only := congrArg DbCompletion.line (executes_only sound (executes .asStored)).1
  exact only.trans (by decide +kernel)

end DungeonPortfolio.Inventory
