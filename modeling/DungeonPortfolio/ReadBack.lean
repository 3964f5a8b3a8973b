import DungeonPortfolio.Executions

/-!
# Reading back what was stored

VARCHAR(64) takes up to 256 bytes of UTF-8, the buffers that `login_player` and
`load_characters` fetch names into have 128. Every row of the tables comes from
a job that succeeded, and it can be read back exactly when its name fits the
buffer.
-/

namespace DungeonPortfolio.ReadBack

open DungeonPortfolio.Text DungeonPortfolio.Dispatcher DungeonPortfolio.Schema
open DungeonPortfolio.Statements DungeonPortfolio.Connection DungeonPortfolio.Commands
open DungeonPortfolio.Executions DungeonPortfolio.Atomicity
open Library.Upsert

set_option autoImplicit false

abbrev Entries : Type := List (DbJob × DbCompletion)

def Registered (entries : Entries) (account displayName : Bytes) : Prop :=
  ∃ job completion, (job, completion) ∈ entries ∧ completion.ok = true ∧
    commandOf job = .ok (.register account displayName)

def Named (entries : Entries) (name : Bytes) : Prop :=
  ∃ job completion account, (job, completion) ∈ entries ∧ completion.ok = true ∧
    ((∃ level gold, commandOf job = .ok (.save account name level gold)) ∨
      ∃ x y, commandOf job = .ok (.savePosition account name x y))

theorem registered_later {entries : Entries} {account displayName : Bytes}
    (registered : Registered entries account displayName) (entry : DbJob × DbCompletion) :
    Registered (entries ++ [entry]) account displayName := by
  rcases registered with ⟨job, completion, member, done, converted⟩
  exact ⟨job, completion, List.mem_append_left _ member, done, converted⟩

theorem named_later {entries : Entries} {name : Bytes} (named : Named entries name)
    (entry : DbJob × DbCompletion) : Named (entries ++ [entry]) name := by
  rcases named with ⟨job, completion, account, member, done, converted⟩
  exact ⟨job, completion, account, List.mem_append_left _ member, done, converted⟩

theorem registered_split {entries : Entries} {account displayName : Bytes} {job : DbJob}
    {completion : DbCompletion}
    (registered : Registered (entries ++ [(job, completion)]) account displayName) :
    Registered entries account displayName ∨
      (completion.ok = true ∧ commandOf job = .ok (.register account displayName)) := by
  rcases registered with ⟨other, answer, member, done, converted⟩
  rcases List.mem_append.mp member with before | last
  · exact Or.inl ⟨other, answer, before, done, converted⟩
  · cases List.mem_singleton.mp last
    exact Or.inr ⟨done, converted⟩

/-- Where the rows come from. -/
structure Provenance (entries : Entries) (tables : Tables) : Prop where
  registered : ∀ row ∈ tables.players, Registered entries row.account row.displayName
  kept : ∀ account displayName, Registered entries account displayName →
    ∃ row ∈ tables.players, row.account = account ∧ row.displayName = displayName
  owned : ∀ character ∈ tables.characters, ∃ row ∈ tables.players, row.id = character.playerId
  named : ∀ character ∈ tables.characters, Named entries character.name

variable {mysql : Mysql} {entries : Entries} {before after : Tables} {job : DbJob}
  {completion : DbCompletion}

theorem provenance_same (provenance : Provenance entries before)
    (players : after.players = before.players) (characters : after.characters = before.characters)
    (other : ∀ account displayName, completion.ok = true →
      commandOf job ≠ .ok (.register account displayName)) :
    Provenance (entries ++ [(job, completion)]) after := by
  constructor
  · rw [players]
    intro row member
    exact registered_later (provenance.registered row member) _
  · intro account displayName registered
    rw [players]
    rcases registered_split registered with earlier | ⟨done, converted⟩
    · exact provenance.kept account displayName earlier
    · exact absurd converted (other account displayName done)
  · rw [players, characters]
    exact provenance.owned
  · rw [characters]
    intro character member
    exact named_later (provenance.named character member) _

theorem provenance_upsert (provenance : Provenance entries before) {row : PlayerRow}
    (there : row ∈ before.players) {test : CharacterRow → Bool}
    {change : CharacterRow → CharacterRow} {fresh : CharacterRow}
    (players : after.players = before.players)
    (characters : after.characters = upsert test change fresh before.characters)
    (other : ∀ account displayName, commandOf job ≠ .ok (.register account displayName))
    (owner : fresh.playerId = row.id)
    (named : Named (entries ++ [(job, completion)]) fresh.name)
    (keeps : ∀ character, (change character).playerId = character.playerId ∧
      (change character).name = character.name) :
    Provenance (entries ++ [(job, completion)]) after := by
  constructor
  · rw [players]
    intro row member
    exact registered_later (provenance.registered row member) _
  · intro account displayName registered
    rw [players]
    rcases registered_split registered with earlier | ⟨_, converted⟩
    · exact provenance.kept account displayName earlier
    · exact absurd converted (other account displayName)
  · rw [players, characters]
    apply upsert_all _ provenance.owned
    · exact ⟨row, there, owner.symm⟩
    · intro character owned
      rw [(keeps character).1]
      exact owned
  · rw [characters]
    apply upsert_all fun character : CharacterRow => Named (entries ++ [(job, completion)]) character.name
    · intro character member
      exact named_later (provenance.named character member) _
    · exact named
    · intro character old
      rw [(keeps character).2]
      exact old

theorem provenance_done (provenance : Provenance entries before) {order : RowOrder} {line : Bytes}
    (outcome : atomically mysql order before job = (.ok line, after)) :
    Provenance (entries ++ [(job, completed job line)]) after := by
  rcases atomically_ok outcome with ⟨command, converted, ⟨written, writes, rfl⟩ | ⟨reads, rfl⟩⟩
  · have here : (job, completed job line) ∈ entries ++ [(job, completed job line)] := by simp
    cases command with
    | register account displayName =>
        rcases writes with ⟨_, other, _⟩ | ⟨_, _, rfl⟩
        · cases other
        · constructor
          · intro row member
            rcases List.mem_append.mp member with old | new
            · exact registered_later (provenance.registered row old) _
            · rw [List.mem_singleton.mp new]
              exact ⟨job, _, here, rfl, converted⟩
          · intro other name registered
            rcases registered_split registered with earlier | ⟨_, again⟩
            · rcases provenance.kept other name earlier with ⟨row, member, same⟩
              exact ⟨row, List.mem_append_left _ member, same⟩
            · cases converted.symm.trans again
              exact ⟨_, List.mem_append_right _ List.mem_cons_self, rfl, rfl⟩
          · intro character member
            rcases provenance.owned character member with ⟨row, there, same⟩
            exact ⟨row, List.mem_append_left _ there, same⟩
          · intro character member
            exact named_later (provenance.named character member) _
    | login account | load account | loadInventory account => cases writes
    | save account character level gold =>
        rcases writes with ⟨row, there, _, _, rfl⟩
        refine provenance_upsert provenance (List.mem_of_find?_eq_some there) rfl rfl ?_ rfl
          ⟨job, _, account, here, rfl, Or.inl ⟨level, gold, converted⟩⟩ (fun _ => ⟨rfl, rfl⟩)
        intro other name same
        cases converted.symm.trans same
    | savePosition account character x y =>
        rcases writes with ⟨row, there, _, _, rfl⟩
        refine provenance_upsert provenance (List.mem_of_find?_eq_some there) rfl rfl ?_ rfl
          ⟨job, _, account, here, rfl, Or.inr ⟨x, y, converted⟩⟩ (fun _ => ⟨rfl, rfl⟩)
        intro other name same
        cases converted.symm.trans same
    | saveItem account slot itemId count =>
        rcases writes with ⟨row, _, _, rfl⟩
        have other : ∀ account displayName, (completed job line).ok = true →
            commandOf job ≠ .ok (.register account displayName) := by
          intro other name _ same
          cases converted.symm.trans same
        by_cases zero : count = 0
        · rw [if_pos zero]
          exact provenance_same provenance rfl rfl other
        · rw [if_neg zero]
          exact provenance_same provenance rfl rfl other
  · apply provenance_same provenance rfl rfl
    intro account displayName _ same
    cases converted.symm.trans same
    cases reads

theorem provenance_history {faulty : Bool} {tables : Tables}
    (history : History mysql faulty Tables.empty entries tables) : Provenance entries tables := by
  induction history with
  | start =>
      constructor
      · intro row member
        cases member
      · rintro account displayName ⟨job, completion, member, _⟩
        cases member
      · intro character member
        cases member
      · intro character member
        cases member
  | next earlier executes ih =>
      have sound := sound_history (sound_empty mysql) earlier
      rcases executes_all_or_nothing sound executes with ⟨failed, same⟩ | ⟨line, rfl, outcome⟩
      · apply provenance_same ih same.1 same.2.1
        intro account displayName done
        rw [failed] at done
        cases done
      · exact provenance_done ih outcome

/-- LOGIN as the account answers with the name, whatever spelling of the account
the collation accepts; LOAD lists all its characters. -/
def ReadsBack (mysql : Mysql) (entries : Entries) (tables : Tables) : Prop :=
  ∀ account displayName asked, Registered entries account displayName →
    mysql.same account asked = true →
    (∀ order job, commandOf job = .ok (.login asked) →
      ∃ id after, Executes mysql false order tables job
        (completed job (loginLine id asked displayName)) after) ∧
    (∀ order job, commandOf job = .ok (.load asked) →
      ∃ (row : PlayerRow) (listed : List Character) (after : Tables),
        tables.player mysql asked = some row ∧
        listed.Perm ((tables.charactersOf row.id).map characterOf) ∧
        Executes mysql false order tables job
          (completed job (loadLine asked (listed.map characterText))) after)

/-- Every stored name fits the buffer it is fetched into. -/
def NamesFit (tables : Tables) : Prop :=
  (∀ row ∈ tables.players, row.displayName.length ≤ nameBuffer) ∧
    ∀ character ∈ tables.characters, character.name.length ≤ nameBuffer

theorem login_outcome {tables : Tables} {account : Bytes} {row : PlayerRow} (order : RowOrder)
    (converted : commandOf job = .ok (.login account))
    (there : tables.player mysql account = some row) :
    atomically mysql order tables job =
      if nameBuffer < row.displayName.length then
        (.error (.runtimeError (ascii "invalid player row for account: " ++ account)), tables)
      else (.ok (loginLine row.id account row.displayName), tables) := by
  unfold atomically
  rw [converted]
  simp only [Command.outcome, forOwner, there]
  split_ifs <;> rfl

theorem load_outcome {tables : Tables} {account : Bytes} {row : PlayerRow} (order : RowOrder)
    (converted : commandOf job = .ok (.load account))
    (there : tables.player mysql account = some row) :
    atomically mysql order tables job =
      if (charactersListed order tables row.id).any
          fun character => decide (nameBuffer < character.name.length) then
        (.error (.runtimeError (ascii "invalid character row for account: " ++ account)), tables)
      else (.ok (loadLine account ((charactersListed order tables row.id).map characterText)),
        tables) := by
  unfold atomically
  rw [converted]
  simp only [Command.outcome, forOwner, there]
  split_ifs <;> rfl

/-- Some listed name is too long exactly when some stored one is. -/
theorem any_listed_long (order : RowOrder) (tables : Tables) (playerId : Nat) :
    ((charactersListed order tables playerId).any
        fun character => decide (nameBuffer < character.name.length)) = true ↔
      ∃ character ∈ tables.charactersOf playerId, nameBuffer < character.name.length := by
  rw [List.any_eq_true]
  have perm := order.perm ((tables.charactersOf playerId).map characterOf)
  constructor
  · rintro ⟨listed, member, long⟩
    rcases List.mem_map.mp (perm.mem_iff.mp member) with ⟨character, stored, rfl⟩
    exact ⟨character, stored, of_decide_eq_true long⟩
  · rintro ⟨character, stored, long⟩
    have member : characterOf character ∈ (tables.charactersOf playerId).map characterOf :=
      List.mem_map_of_mem stored
    exact ⟨characterOf character, perm.mem_iff.mpr member, decide_eq_true long⟩

theorem executes_outcome {tables after : Tables} {order : RowOrder} {line : Bytes}
    (sound : Sound mysql tables) (outcome : atomically mysql order tables job = (.ok line, after)) :
    Executes mysql false order tables job (completed job line) after := by
  apply (executes_iff sound).mpr
  rw [executedAlone, outcome]
  rfl

theorem never_ok {tables after : Tables} {order : RowOrder} {error : StdException} {line : Bytes}
    (sound : Sound mysql tables) (outcome : (atomically mysql order tables job).1 = .error error) :
    ¬ Executes mysql false order tables job (completed job line) after := by
  intro executes
  have same := (executes_only sound executes).1
  rw [executedAlone] at same
  simp only [outcome] at same
  have claimed : true = false := congrArg DbCompletion.ok same
  cases claimed

theorem player_found {tables : Tables} {row : PlayerRow} {asked : Bytes}
    (sound : Sound mysql tables) (member : row ∈ tables.players)
    (same : mysql.same row.account asked = true) : tables.player mysql asked = some row := by
  apply find_of_mem sound.accounts ?_ member same
  intro first second one other
  exact same_of_both one other

theorem reads_back_of_fit {tables : Tables} (sound : Sound mysql tables)
    (provenance : Provenance entries tables) (fit : NamesFit tables) :
    ReadsBack mysql entries tables := by
  intro account displayName asked registered same
  rcases provenance.kept account displayName registered with ⟨row, member, rfl, rfl⟩
  have there := player_found sound member same
  constructor
  · intro order job converted
    have outcome := login_outcome order converted there
    rw [if_neg (Nat.not_lt.mpr (fit.1 row member))] at outcome
    exact ⟨row.id, tables, executes_outcome sound outcome⟩
  · intro order job converted
    have outcome := load_outcome order converted there
    have short : ¬ ((charactersListed order tables row.id).any
        fun character => decide (nameBuffer < character.name.length)) = true := by
      rw [any_listed_long]
      rintro ⟨character, stored, long⟩
      have bound := fit.2 character (List.mem_filter.mp stored).1
      omega
    rw [if_neg short] at outcome
    exact ⟨row, charactersListed order tables row.id, tables, there, order.perm _,
      executes_outcome sound outcome⟩

def loginJob (account : Bytes) : DbJob :=
  ⟨⟨0, 0⟩, 1, .loginPlayer, ascii "LOGIN", [account], true⟩

def loadJob (account : Bytes) : DbJob :=
  ⟨⟨0, 0⟩, 1, .loadCharacters, ascii "LOAD", [account], true⟩

theorem fit_of_reads_back {tables : Tables} (sound : Sound mysql tables)
    (provenance : Provenance entries tables) (reads : ReadsBack mysql entries tables) :
    NamesFit tables := by
  constructor
  · intro row member
    by_contra long
    have there := player_found sound member (mysql.same_refl row.account)
    have login := (reads _ _ _ (provenance.registered row member) (mysql.same_refl _)).1
    have converted : commandOf (loginJob row.account) = .ok (.login row.account) := rfl
    rcases login .asStored (loginJob row.account) converted with ⟨id, after, executes⟩
    have outcome := login_outcome .asStored converted there
    rw [if_pos (Nat.not_le.mp long)] at outcome
    exact never_ok sound (congrArg Prod.fst outcome) executes
  · intro character stored
    by_contra long
    rcases provenance.owned character stored with ⟨row, member, owner⟩
    have there := player_found sound member (mysql.same_refl row.account)
    have load := (reads _ _ _ (provenance.registered row member) (mysql.same_refl _)).2
    have converted : commandOf (loadJob row.account) = .ok (.load row.account) := rfl
    rcases load .asStored (loadJob row.account) converted with ⟨_, listed, after, _, _, executes⟩
    have outcome := load_outcome .asStored converted there
    have tooLong : ((charactersListed .asStored tables row.id).any
        fun character => decide (nameBuffer < character.name.length)) = true := by
      rw [any_listed_long]
      refine ⟨character, List.mem_filter.mpr ⟨stored, ?_⟩, Nat.not_le.mp long⟩
      exact beq_iff_eq.mpr owner.symm
    rw [if_pos tooLong] at outcome
    exact never_ok sound (congrArg Prod.fst outcome) executes

def ShortNames (job : DbJob) : Prop :=
  (∀ account displayName, commandOf job = .ok (.register account displayName) →
    displayName.length ≤ nameBuffer) ∧
  (∀ account name level gold, commandOf job = .ok (.save account name level gold) →
    name.length ≤ nameBuffer) ∧
  ∀ account name x y, commandOf job = .ok (.savePosition account name x y) →
    name.length ≤ nameBuffer

theorem fit_of_short {tables : Tables} (provenance : Provenance entries tables)
    (short : ∀ entry ∈ entries, ShortNames entry.1) : NamesFit tables := by
  constructor
  · intro row member
    rcases provenance.registered row member with ⟨job, completion, listed, _, converted⟩
    exact (short _ listed).1 _ _ converted
  · intro character stored
    rcases provenance.named character stored with ⟨job, completion, account, listed, _,
      ⟨level, gold, converted⟩ | ⟨x, y, converted⟩⟩
    · exact (short _ listed).2.1 _ _ _ _ converted
    · exact (short _ listed).2.2 _ _ _ _ converted

/-- What has been stored can be read back exactly when every stored name has at
most 128 bytes, as after jobs that only store such names. -/
theorem reads_back_iff_names_fit {faulty : Bool} {tables : Tables}
    (history : History mysql faulty Tables.empty entries tables) :
    (ReadsBack mysql entries tables ↔ NamesFit tables) ∧
      ((∀ entry ∈ entries, ShortNames entry.1) → ReadsBack mysql entries tables) := by
  have sound := sound_history (sound_empty mysql) history
  have provenance := provenance_history history
  refine ⟨⟨fit_of_reads_back sound provenance, reads_back_of_fit sound provenance⟩, ?_⟩
  intro short
  exact reads_back_of_fit sound provenance (fit_of_short provenance short)

def registerJob (account displayName : Bytes) : DbJob :=
  ⟨⟨5, 1⟩, 1, .registerPlayer, ascii "REGISTER", [account, displayName], true⟩

theorem registered_history {account displayName : Bytes}
    (fits : Mysql.binary.fits account = true ∧ Mysql.binary.fits displayName = true) :
    History Mysql.binary true Tables.empty
      [(registerJob account displayName,
        completed (registerJob account displayName) (registerLine account displayName))]
      ⟨[⟨1, account, displayName⟩], [], [], 2⟩ := by
  have outcome : atomically Mysql.binary .asStored Tables.empty (registerJob account displayName) =
      (.ok (registerLine account displayName), ⟨[⟨1, account, displayName⟩], [], [], 2⟩) := by
    have converted : commandOf (registerJob account displayName) =
        .ok (.register account displayName) := rfl
    unfold atomically
    rw [converted]
    simp only [Command.outcome, fits.1, fits.2, Bool.not_true, Bool.false_eq_true, if_false]
    rfl
  exact History.next (History.start _) (executes_outcome (sound_empty _) outcome).may_fail

def saveJob (account character level gold : Bytes) : DbJob :=
  ⟨⟨5, 1⟩, 2, .saveCharacter, ascii "SAVE", [account, character, level, gold], true⟩

/-- An account with a saved character and one that has only been in the world. -/
def savedAndPlaced : List DbJob :=
  [registerJob (ascii "a") (ascii "Ann"), saveJob (ascii "a") (ascii "main") (ascii "5") (ascii "70"),
    ⟨⟨5, 1⟩, 3, .savePosition, ascii "SAVE_POSITION",
      [ascii "a", ascii "alt", ascii "3", ascii "-4"], false⟩]

theorem reads_back_iff_names_fit_two :
    (executedInTurn Mysql.binary .asStored Tables.empty savedAndPlaced).2 =
        ⟨[⟨1, ascii "a", ascii "Ann"⟩],
          [⟨1, ascii "main", 5, 70, 0, 0⟩, ⟨1, ascii "alt", 1, 0, 3, -4⟩], [], 2⟩ ∧
      ReadsBack Mysql.binary (executedInTurn Mysql.binary .asStored Tables.empty savedAndPlaced).1
        (executedInTurn Mysql.binary .asStored Tables.empty savedAndPlaced).2 := by
  have tables : (executedInTurn Mysql.binary .asStored Tables.empty savedAndPlaced).2 =
      ⟨[⟨1, ascii "a", ascii "Ann"⟩],
        [⟨1, ascii "main", 5, 70, 0, 0⟩, ⟨1, ascii "alt", 1, 0, 3, -4⟩], [], 2⟩ := by
    decide +kernel
  have history := history_of_jobs (sound_empty Mysql.binary) .asStored savedAndPlaced
  refine ⟨tables, (reads_back_iff_names_fit history).1.mpr ?_⟩
  rw [tables]
  constructor <;> decide

/-- 33 code points of four bytes each. -/
def wideName : Bytes := (List.replicate 33 [0xF0, 0x9F, 0x98, 0x80]).flatten

theorem wide_name_length : wideName.length = 132 := by
  simp [wideName]

/-- A display name of 132 bytes is taken and can never be read. -/
theorem wide_name_locks_account :
    codePoints wideName = 33 ∧
      ∃ entries tables, History Mysql.binary true Tables.empty entries tables ∧
        entries = [(registerJob (ascii "a") wideName,
          completed (registerJob (ascii "a") wideName) (registerLine (ascii "a") wideName))] ∧
        (∀ order completion after, Executes Mysql.binary false order tables (loginJob (ascii "a"))
          completion after → completion.ok = false ∧
            completion.line = ascii "ERR LOGIN invalid player row for account: a") ∧
        ¬ ReadsBack Mysql.binary entries tables := by
  have history : History Mysql.binary true Tables.empty
      [(registerJob (ascii "a") wideName,
        completed (registerJob (ascii "a") wideName) (registerLine (ascii "a") wideName))]
      ⟨[⟨1, ascii "a", wideName⟩], [], [], 2⟩ := registered_history (by decide)
  have sound := sound_history (sound_empty _) history
  refine ⟨by decide, _, _, history, rfl, ?_, ?_⟩
  · intro order completion after executes
    have long : nameBuffer < wideName.length := by
      rw [wide_name_length]
      decide
    have converted : commandOf (loginJob (ascii "a")) = .ok (.login (ascii "a")) := rfl
    have there : (⟨[⟨1, ascii "a", wideName⟩], [], [], 2⟩ : Tables).player Mysql.binary (ascii "a") =
        some ⟨1, ascii "a", wideName⟩ := rfl
    have outcome := login_outcome order converted there
    rw [if_pos long] at outcome
    rw [(executes_only sound executes).1, executedAlone, outcome]
    exact ⟨rfl, by decide⟩
  · intro reads
    have fit := (fit_of_reads_back sound (provenance_history history) reads).1 _ List.mem_cons_self
    rw [wide_name_length] at fit
    exact absurd fit (by decide)

end DungeonPortfolio.ReadBack
