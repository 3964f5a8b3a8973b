import DungeonPortfolio.Library.Replay
import DungeonPortfolio.ReadBack

/-!
# Rows of an account as a replay

What the rows of an account hold is kept equal to what a replay of the history
gives: a job of the account changes both, a job of another account neither, and a
new account starts with nothing.
-/

namespace DungeonPortfolio.Replaying

open DungeonPortfolio.Text DungeonPortfolio.Schema DungeonPortfolio.ReadBack

set_option autoImplicit false

variable {mysql : Mysql} {before after : Tables}

theorem same_owner_iff {tables : Tables} (sound : Sound mysql tables) {account other : Bytes}
    {row last : PlayerRow} (there : tables.player mysql account = some row)
    (also : tables.player mysql other = some last) :
    row.id = last.id ↔ mysql.same account other = true := by
  have named : isAccount mysql account row = true := List.find?_some there
  have otherNamed : isAccount mysql other last = true := List.find?_some also
  constructor
  · intro same
    have equal : row = last := List.inj_on_of_nodup_map sound.players
      (List.mem_of_find?_eq_some there) (List.mem_of_find?_eq_some also) same
    rw [← equal] at otherNamed
    exact mysql.same_trans _ _ _ (mysql.same_symm _ _ named) otherNamed
  · intro same
    have again := player_found sound (List.mem_of_find?_eq_some there)
      (mysql.same_trans _ _ _ named same)
    rw [Option.some.inj (again.symm.trans also)]

theorem same_registered {tables : Tables} (sound : Sound mysql tables) {account other : Bytes}
    {row : PlayerRow} (there : tables.player mysql account = some row)
    (same : mysql.same account other = true) : tables.player mysql other = some row := by
  have named : isAccount mysql account row = true := List.find?_some there
  exact player_found sound (List.mem_of_find?_eq_some there) (mysql.same_trans _ _ _ named same)

/-- The rows under the id of each account hold what the replay says. -/
structure Replays {Value : Type} (mysql : Mysql) (held : Tables → Nat → Value) (nothing : Value)
    (replay : Bytes → Value) (tables : Tables) : Prop where
  known : ∀ account row, tables.player mysql account = some row → held tables row.id = replay account
  unknown : ∀ account, tables.player mysql account = none → replay account = nothing

variable {Value : Type} {held : Tables → Nat → Value} {nothing : Value} {replay later : Bytes → Value}

theorem replays_same (replays : Replays mysql held nothing replay before)
    (players : after.players = before.players) (rows : ∀ id, held after id = held before id)
    (skips : ∀ account, later account = replay account) :
    Replays mysql held nothing later after := by
  have same : ∀ account, after.player mysql account = before.player mysql account := by
    intro account
    rw [Tables.player, players, Tables.player]
  constructor
  · intro account row there
    rw [rows, skips]
    exact replays.known account row ((same account).symm.trans there)
  · intro account absent
    rw [skips]
    exact replays.unknown account ((same account).symm.trans absent)

theorem player_registered (tables : Tables) (account displayName asked : Bytes) :
    (tables.apply mysql (.player account displayName)).player mysql asked =
      (tables.player mysql asked).or (if mysql.same account asked
        then some ⟨tables.nextPlayerId, account, displayName⟩ else none) := by
  simp only [Tables.player, Tables.apply, List.find?_append, List.find?_cons, List.find?_nil,
    isAccount]
  cases mysql.same account asked <;> rfl

/-- A new account, under an id that no row has yet. -/
theorem replays_register (replays : Replays mysql held nothing replay before)
    {account displayName : Bytes}
    (rows : ∀ id, held (before.apply mysql (.player account displayName)) id = held before id)
    (fresh : held before before.nextPlayerId = nothing)
    (skips : ∀ account, later account = replay account) :
    Replays mysql held nothing later (before.apply mysql (.player account displayName)) := by
  constructor
  · intro asked row there
    rw [rows, skips]
    rw [player_registered] at there
    cases old : before.player mysql asked with
    | some found =>
        rw [old, Option.some_or] at there
        cases there
        exact replays.known asked row old
    | none =>
        rw [old, Option.none_or] at there
        split_ifs at there
        cases there
        rw [replays.unknown asked old]
        exact fresh
  · intro asked absent
    rw [skips]
    rw [player_registered] at absent
    exact replays.unknown asked (Option.or_eq_none_iff.mp absent).1

theorem replays_write (replays : Replays mysql held nothing replay before)
    (sound : Sound mysql before) {owner : Bytes} {ownerRow : PlayerRow}
    (found : before.player mysql owner = some ownerRow) (players : after.players = before.players)
    (here : ∀ account, mysql.same owner account = true → held before ownerRow.id = replay account →
      held after ownerRow.id = later account)
    (elsewhere : ∀ id, id ≠ ownerRow.id → held after id = held before id)
    (others : ∀ account, mysql.same owner account = false → later account = replay account) :
    Replays mysql held nothing later after := by
  have same : ∀ account, after.player mysql account = before.player mysql account := by
    intro account
    rw [Tables.player, players, Tables.player]
  constructor
  · intro account row there
    rw [same] at there
    have known := replays.known account row there
    have owners := same_owner_iff sound found there
    cases mine : mysql.same owner account with
    | true =>
        rw [← owners.mpr mine] at known ⊢
        exact here account mine known
    | false =>
        have apart : row.id ≠ ownerRow.id := by
          intro equal
          rw [owners.mp equal.symm] at mine
          cases mine
        rw [elsewhere row.id apart, others account mine]
        exact known
  · intro account absent
    rw [same] at absent
    cases mine : mysql.same owner account with
    | true => cases absent.symm.trans (same_registered sound found mine)
    | false =>
        rw [others account mine]
        exact replays.unknown account absent

end DungeonPortfolio.Replaying
