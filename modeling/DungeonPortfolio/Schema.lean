import DungeonPortfolio.Library.Upsert
import DungeonPortfolio.Text

/-!
# The tables

`db/schema.sql` without the timestamps and without the ids of character and item
rows: no answer of the program shows them, only the order of the rows of a LOAD
depends on them, and that order is left open. The strings of the server (which
names its collation identifies, what a VARCHAR(64) takes, the texts of its
errors) are a parameter.
-/

namespace DungeonPortfolio.Schema

open DungeonPortfolio.Text
open Library.Upsert

set_option autoImplicit false

/-- What the program relies on of the strings of MySQL. -/
structure Mysql where
  /-- Equality under the collation of the columns. -/
  same : Bytes → Bytes → Bool
  /-- What a VARCHAR(64) column takes. -/
  fits : Bytes → Bool
  tooLong : Bytes → Bytes
  duplicateEntry : Bytes → Bytes
  noReferencedRow : Nat → Bytes
  same_refl : ∀ name, same name name = true
  same_symm : ∀ first second, same first second = true → same second first = true
  same_trans : ∀ first second third, same first second = true → same second third = true →
    same first third = true

/-- Bytes of a UTF-8 string that start a code point. -/
def codePoints (text : Bytes) : Nat := text.countP fun byte => !(128 ≤ byte && byte < 192)

/-- A server whose collation tells all strings apart. -/
def Mysql.binary : Mysql where
  same first second := decide (first = second)
  fits text := decide (codePoints text ≤ 64)
  tooLong _ := ascii "Data too long for column"
  duplicateEntry _ := ascii "Duplicate entry"
  noReferencedRow _ := ascii "Cannot add or update a child row"
  same_refl := fun _ => decide_eq_true rfl
  same_symm := fun _ _ same => decide_eq_true (of_decide_eq_true same).symm
  same_trans := fun _ _ _ one other =>
    decide_eq_true ((of_decide_eq_true one).trans (of_decide_eq_true other))

structure PlayerRow where
  id : Nat
  account : Bytes
  displayName : Bytes
  deriving DecidableEq, Repr

structure CharacterRow where
  playerId : Nat
  name : Bytes
  level : Nat
  gold : Nat
  x : Int32
  y : Int32
  deriving DecidableEq, Repr

structure ItemRow where
  playerId : Nat
  slot : Nat
  itemId : Nat
  stackCount : Nat
  deriving DecidableEq, Repr

/-- `nextPlayerId` is the AUTO_INCREMENT counter of `players`. -/
structure Tables where
  players : List PlayerRow
  characters : List CharacterRow
  inventoryItems : List ItemRow
  nextPlayerId : Nat
  deriving DecidableEq, Repr

def Tables.empty : Tables := ⟨[], [], [], 1⟩

section

variable (mysql : Mysql)

def isAccount (account : Bytes) (row : PlayerRow) : Bool := mysql.same row.account account

def isCharacter (playerId : Nat) (name : Bytes) (row : CharacterRow) : Bool :=
  row.playerId == playerId && mysql.same row.name name

def isItem (playerId slot : Nat) (row : ItemRow) : Bool :=
  row.playerId == playerId && row.slot == slot

/-- What a statement changes once its transaction is committed. -/
inductive Write where
  | player (account displayName : Bytes)
  /-- An id that an INSERT has taken although it was refused. -/
  | spentId
  | character (playerId : Nat) (name : Bytes) (level gold : Nat)
  | position (playerId : Nat) (name : Bytes) (x y : Int32)
  | item (playerId slot itemId count : Nat)
  | clear (playerId slot : Nat)
  deriving DecidableEq, Repr

def Tables.apply (tables : Tables) : Write → Tables
  | .player account displayName => { tables with
      players := tables.players ++ [⟨tables.nextPlayerId, account, displayName⟩]
      nextPlayerId := tables.nextPlayerId + 1 }
  | .spentId => { tables with nextPlayerId := tables.nextPlayerId + 1 }
  | .character playerId name level gold => { tables with
      characters := upsert (isCharacter mysql playerId name)
        (fun row => { row with level, gold }) ⟨playerId, name, level, gold, 0, 0⟩
        tables.characters }
  | .position playerId name x y => { tables with
      characters := upsert (isCharacter mysql playerId name)
        (fun row => { row with x, y }) ⟨playerId, name, 1, 0, x, y⟩ tables.characters }
  | .item playerId slot itemId count => { tables with
      inventoryItems := upsert (isItem playerId slot)
        (fun row => { row with itemId, stackCount := count }) ⟨playerId, slot, itemId, count⟩
        tables.inventoryItems }
  | .clear playerId slot => { tables with
      inventoryItems := tables.inventoryItems.filter fun row => !isItem playerId slot row }

def Tables.applyAll (tables : Tables) (writes : List Write) : Tables :=
  writes.foldl (Tables.apply mysql) tables

def Tables.player (tables : Tables) (account : Bytes) : Option PlayerRow :=
  tables.players.find? (isAccount mysql account)

def Tables.character (tables : Tables) (playerId : Nat) (name : Bytes) : Option CharacterRow :=
  tables.characters.find? (isCharacter mysql playerId name)

def Tables.item (tables : Tables) (playerId slot : Nat) : Option ItemRow :=
  tables.inventoryItems.find? (isItem playerId slot)

def Tables.charactersOf (tables : Tables) (playerId : Nat) : List CharacterRow :=
  tables.characters.filter fun row => row.playerId == playerId

def Tables.itemsOf (tables : Tables) (playerId : Nat) : List ItemRow :=
  tables.inventoryItems.filter fun row => row.playerId == playerId

end

variable {mysql : Mysql}

@[simp] theorem apply_all_nil (tables : Tables) : tables.applyAll mysql [] = tables := rfl

@[simp] theorem apply_all_one (tables : Tables) (write : Write) :
    tables.applyAll mysql [write] = tables.apply mysql write := rfl

theorem same_of_both {first second name : Bytes} (one : mysql.same first name = true)
    (other : mysql.same second name = true) : mysql.same first second = true :=
  mysql.same_trans _ _ _ one (mysql.same_symm _ _ other)

theorem same_congr {first second : Bytes} (same : mysql.same first second = true) (name : Bytes) :
    mysql.same name first = mysql.same name second := by
  rw [Bool.eq_iff_iff]
  constructor
  · intro one
    exact mysql.same_trans _ _ _ one same
  · intro one
    exact mysql.same_trans _ _ _ one (mysql.same_symm _ _ same)

def alikePlayers (mysql : Mysql) (first second : PlayerRow) : Bool :=
  mysql.same first.account second.account

def alikeCharacters (mysql : Mysql) (first second : CharacterRow) : Bool :=
  first.playerId == second.playerId && mysql.same first.name second.name

def alikeItems (first second : ItemRow) : Bool :=
  first.playerId == second.playerId && first.slot == second.slot

/-- The primary and unique keys of the schema hold and ids are below the counter. -/
structure Sound (mysql : Mysql) (tables : Tables) : Prop where
  accounts : Unique (alikePlayers mysql) tables.players
  ids : ∀ row ∈ tables.players, row.id < tables.nextPlayerId
  players : (tables.players.map PlayerRow.id).Nodup
  characters : Unique (alikeCharacters mysql) tables.characters
  items : Unique alikeItems tables.inventoryItems

theorem sound_empty (mysql : Mysql) : Sound mysql Tables.empty where
  accounts := List.Pairwise.nil
  ids := by
    intro row member
    cases member
  players := List.nodup_nil
  characters := List.Pairwise.nil
  items := List.Pairwise.nil

theorem is_character_iff {playerId : Nat} {name : Bytes} {row : CharacterRow} :
    isCharacter mysql playerId name row = true ↔
      row.playerId = playerId ∧ mysql.same row.name name = true := by
  simp [isCharacter]

theorem is_item_iff {playerId slot : Nat} {row : ItemRow} :
    isItem playerId slot row = true ↔ row.playerId = playerId ∧ row.slot = slot := by
  simp [isItem]

theorem unique_characters {tables : Tables} (sound : Sound mysql tables) {playerId : Nat}
    {name : Bytes} {change : CharacterRow → CharacterRow} {fresh : CharacterRow}
    (key : fresh.playerId = playerId ∧ fresh.name = name)
    (keeps : ∀ row, (change row).playerId = row.playerId ∧ (change row).name = row.name) :
    Unique (alikeCharacters mysql)
      (upsert (isCharacter mysql playerId name) change fresh tables.characters) := by
  apply unique_upsert sound.characters
  · intro row other _
    simp only [alikeCharacters, (keeps row).1, (keeps row).2, and_self]
  · intro row apart
    rw [alikeCharacters, key.1, key.2]
    exact apart

theorem unique_items {tables : Tables} (sound : Sound mysql tables) {playerId slot : Nat}
    {change : ItemRow → ItemRow} {fresh : ItemRow}
    (key : fresh.playerId = playerId ∧ fresh.slot = slot)
    (keeps : ∀ row, (change row).playerId = row.playerId ∧ (change row).slot = row.slot) :
    Unique alikeItems (upsert (isItem playerId slot) change fresh tables.inventoryItems) := by
  apply unique_upsert sound.items
  · intro row other _
    simp only [alikeItems, (keeps row).1, (keeps row).2, and_self]
  · intro row apart
    rw [alikeItems, key.1, key.2]
    exact apart

/-- The numeric columns hold values of their types. -/
structure ColumnTypes (tables : Tables) : Prop where
  levels : ∀ row ∈ tables.characters, row.level < 2 ^ 32
  golds : ∀ row ∈ tables.characters, row.gold < 2 ^ 64
  slots : ∀ row ∈ tables.inventoryItems, row.slot < 2 ^ 32
  itemIds : ∀ row ∈ tables.inventoryItems, row.itemId < 2 ^ 64
  stackCounts : ∀ row ∈ tables.inventoryItems, row.stackCount < 2 ^ 32

def Write.InRange : Write → Prop
  | .character _ _ level gold => level < 2 ^ 32 ∧ gold < 2 ^ 64
  | .item _ slot itemId count => slot < 2 ^ 32 ∧ itemId < 2 ^ 64 ∧ count < 2 ^ 32
  | _ => True

theorem typed_apply {tables : Tables} (typed : ColumnTypes tables) {write : Write}
    (range : write.InRange) : ColumnTypes (tables.apply mysql write) := by
  cases write with
  | player account displayName | spentId =>
      exact ⟨typed.levels, typed.golds, typed.slots, typed.itemIds, typed.stackCounts⟩
  | character playerId name level gold =>
      exact ⟨upsert_all _ typed.levels range.1 (fun _ _ => range.1),
        upsert_all _ typed.golds range.2 (fun _ _ => range.2), typed.slots, typed.itemIds,
        typed.stackCounts⟩
  | position playerId name x y =>
      have one : 1 < 2 ^ 32 := by omega
      have zero : 0 < 2 ^ 64 := by omega
      exact ⟨upsert_all _ typed.levels one (fun _ old => old),
        upsert_all _ typed.golds zero (fun _ old => old), typed.slots, typed.itemIds,
        typed.stackCounts⟩
  | item playerId slot itemId count =>
      exact ⟨typed.levels, typed.golds, upsert_all _ typed.slots range.1 (fun _ old => old),
        upsert_all _ typed.itemIds range.2.1 (fun _ _ => range.2.1),
        upsert_all _ typed.stackCounts range.2.2 (fun _ _ => range.2.2)⟩
  | clear playerId slot =>
      refine ⟨typed.levels, typed.golds, ?_, ?_, ?_⟩
      · intro row member
        exact typed.slots row (List.mem_filter.mp member).1
      · intro row member
        exact typed.itemIds row (List.mem_filter.mp member).1
      · intro row member
        exact typed.stackCounts row (List.mem_filter.mp member).1

/-- A write that the server lets through: an INSERT of a player needs a new account. -/
def Allowed (mysql : Mysql) (tables : Tables) : Write → Prop
  | .player account _ => tables.player mysql account = none
  | _ => True

theorem sound_apply {tables : Tables} (sound : Sound mysql tables) {write : Write}
    (allowed : Allowed mysql tables write) : Sound mysql (tables.apply mysql write) := by
  cases write with
  | player account displayName =>
      constructor
      · apply unique_append sound.accounts
        intro row member
        exact Bool.eq_false_iff.mpr (List.find?_eq_none.mp allowed row member)
      · intro row member
        have bound : row.id < tables.nextPlayerId + 1 := by
          rcases List.mem_append.mp member with old | new
          · exact Nat.lt_succ_of_lt (sound.ids row old)
          · rw [List.mem_singleton.mp new]
            exact Nat.lt_succ_self _
        exact bound
      · simp only [Tables.apply, List.map_append, List.map_singleton]
        apply List.nodup_append.mpr
        refine ⟨sound.players, List.pairwise_singleton _ _, ?_⟩
        intro id member last final
        rcases List.mem_map.mp member with ⟨row, listed, rfl⟩
        rw [List.mem_singleton.mp final]
        have bound := sound.ids row listed
        omega
      · exact sound.characters
      · exact sound.items
  | spentId =>
      refine ⟨sound.accounts, ?_, sound.players, sound.characters, sound.items⟩
      intro row member
      exact Nat.lt_succ_of_lt (sound.ids row member)
  | character playerId name level gold =>
      exact ⟨sound.accounts, sound.ids, sound.players,
        unique_characters sound ⟨rfl, rfl⟩ (fun _ => ⟨rfl, rfl⟩), sound.items⟩
  | position playerId name x y =>
      exact ⟨sound.accounts, sound.ids, sound.players,
        unique_characters sound ⟨rfl, rfl⟩ (fun _ => ⟨rfl, rfl⟩), sound.items⟩
  | item playerId slot itemId count =>
      exact ⟨sound.accounts, sound.ids, sound.players, sound.characters,
        unique_items sound ⟨rfl, rfl⟩ (fun _ => ⟨rfl, rfl⟩)⟩
  | clear playerId slot =>
      exact ⟨sound.accounts, sound.ids, sound.players, sound.characters,
        List.Pairwise.filter _ sound.items⟩

theorem is_character_congr {name other : Bytes} (same : mysql.same name other = true)
    (playerId : Nat) : isCharacter mysql playerId name = isCharacter mysql playerId other := by
  funext row
  rw [isCharacter, isCharacter, same_congr same]

theorem is_character_self (playerId : Nat) (name : Bytes) {row : CharacterRow}
    (id : row.playerId = playerId) (named : row.name = name) :
    isCharacter mysql playerId name row = true :=
  is_character_iff.mpr ⟨id, by rw [named]; exact mysql.same_refl name⟩

theorem character_written (mysql : Mysql) (tables : Tables) (playerId : Nat) (name : Bytes)
    (level gold : Nat) :
    (tables.apply mysql (.character playerId name level gold)).character mysql playerId name =
      some (((tables.character mysql playerId name).map fun row => { row with level, gold }).getD
        ⟨playerId, name, level, gold, 0, 0⟩) := by
  apply find_upsert_same
  · exact is_character_self playerId name rfl rfl
  · intro row passes
    exact passes

theorem position_written (mysql : Mysql) (tables : Tables) (playerId : Nat) (name : Bytes)
    (x y : Int32) :
    (tables.apply mysql (.position playerId name x y)).character mysql playerId name =
      some (((tables.character mysql playerId name).map fun row => { row with x, y }).getD
        ⟨playerId, name, 1, 0, x, y⟩) := by
  apply find_upsert_same
  · exact is_character_self playerId name rfl rfl
  · intro row passes
    exact passes

theorem other_character {playerId otherId : Nat} {name other : Bytes}
    (apart : ¬ (playerId = otherId ∧ mysql.same name other = true)) {row : CharacterRow}
    (passes : isCharacter mysql playerId name row = true) :
    isCharacter mysql otherId other row = false := by
  rw [Bool.eq_false_iff]
  intro both
  rcases is_character_iff.mp passes with ⟨rfl, named⟩
  rcases is_character_iff.mp both with ⟨rfl, also⟩
  exact apart ⟨rfl, mysql.same_trans _ _ _ (mysql.same_symm _ _ named) also⟩

theorem character_elsewhere {playerId otherId : Nat} {name other : Bytes}
    (apart : ¬ (playerId = otherId ∧ mysql.same name other = true)) (tables : Tables)
    (change : CharacterRow → CharacterRow) (fresh : CharacterRow)
    (key : fresh.playerId = playerId ∧ fresh.name = name)
    (keeps : ∀ row, isCharacter mysql playerId name (change row) =
      isCharacter mysql playerId name row) :
    (upsert (isCharacter mysql playerId name) change fresh tables.characters).find?
      (isCharacter mysql otherId other) = tables.character mysql otherId other := by
  apply find_upsert_other
  · exact other_character apart (is_character_self playerId name key.1 key.2)
  · intro row passes
    exact ⟨other_character apart passes, other_character apart ((keeps row).trans passes)⟩

theorem item_written (mysql : Mysql) (tables : Tables) (playerId slot itemId count : Nat) :
    (tables.apply mysql (.item playerId slot itemId count)).item playerId slot =
      some ⟨playerId, slot, itemId, count⟩ := by
  have found : (tables.apply mysql (.item playerId slot itemId count)).item playerId slot =
      some (((tables.item playerId slot).map fun row =>
        { row with itemId, stackCount := count }).getD ⟨playerId, slot, itemId, count⟩) := by
    apply find_upsert_same
    · exact is_item_iff.mpr ⟨rfl, rfl⟩
    · intro row passes
      exact passes
  rw [found]
  cases there : tables.item playerId slot with
  | none => rfl
  | some row =>
      rcases is_item_iff.mp (List.find?_some there) with ⟨rfl, rfl⟩
      rfl

theorem item_cleared (mysql : Mysql) (tables : Tables) (playerId slot : Nat) :
    (tables.apply mysql (.clear playerId slot)).item playerId slot = none := by
  apply List.find?_eq_none.mpr
  intro row member
  have kept := (List.mem_filter.mp member).2
  simpa using kept

theorem clear_absent {tables : Tables} {playerId slot : Nat}
    (absent : tables.item playerId slot = none) :
    tables.apply mysql (.clear playerId slot) = tables := by
  have kept : tables.inventoryItems.filter (fun row => !isItem playerId slot row) =
      tables.inventoryItems := by
    apply List.filter_eq_self.mpr
    intro row member
    have fails := List.find?_eq_none.mp absent row member
    simpa using fails
  simp only [Tables.apply, kept]

theorem other_item {playerId otherId slot other : Nat}
    (apart : ¬ (playerId = otherId ∧ slot = other)) {row : ItemRow}
    (passes : isItem playerId slot row = true) : isItem otherId other row = false := by
  rw [Bool.eq_false_iff]
  intro both
  rcases is_item_iff.mp passes with ⟨rfl, rfl⟩
  exact apart (is_item_iff.mp both)

theorem item_elsewhere (mysql : Mysql) {playerId otherId slot other : Nat}
    (apart : ¬ (playerId = otherId ∧ slot = other)) (tables : Tables) (itemId count : Nat) :
    (tables.apply mysql (.item playerId slot itemId count)).item otherId other =
      tables.item otherId other := by
  apply find_upsert_other
  · exact other_item apart (is_item_iff.mpr ⟨rfl, rfl⟩)
  · intro row passes
    exact ⟨other_item apart passes, other_item apart passes⟩

theorem clear_elsewhere (mysql : Mysql) {playerId otherId slot other : Nat}
    (apart : ¬ (playerId = otherId ∧ slot = other)) (tables : Tables) :
    (tables.apply mysql (.clear playerId slot)).item otherId other = tables.item otherId other := by
  simp only [Tables.item, Tables.apply, List.find?_filter]
  congr 1
  funext row
  cases test : isItem otherId other row with
  | false => simp
  | true =>
      have swapped : ¬ (otherId = playerId ∧ other = slot) := by
        rintro ⟨rfl, rfl⟩
        exact apart ⟨rfl, rfl⟩
      simp [other_item swapped test]

end DungeonPortfolio.Schema
