import DungeonPortfolio.Linearized

/-!
# Who holds which row

A job locks one player row at most, inside its transaction and before it writes,
and what it still needs after that is the row it has. So whoever holds a row can
go on, and jobs that wait for rows wait for a job that does not wait.
-/

namespace DungeonPortfolio.Locks

open DungeonPortfolio.Text DungeonPortfolio.Dispatcher DungeonPortfolio.Schema
open DungeonPortfolio.Statements DungeonPortfolio.Connection DungeonPortfolio.Workers
open DungeonPortfolio.ExactlyOnce
open Library Library.Execution

set_option autoImplicit false

/-- What a script knows of its transaction: none is open, or one that has locked
this row. -/
inductive Grip where
  | closed
  | locking (row : Option Nat)
  deriving DecidableEq

def Fits : Statement → Grip → Prop
  | .begin, grip => grip = .closed
  | .commit, grip => grip ≠ .closed
  | .rollback, _ => True
  | .selectPlayerIdForUpdate _, grip => grip = .locking none
  | .upsertCharacter playerId _ _ _, grip => grip = .locking (some playerId)
  | .upsertPosition playerId _ _ _, grip => grip = .locking (some playerId)
  | .upsertItem playerId _ _ _, grip => grip = .locking (some playerId)
  | .deleteItem _ _, grip => grip ≠ .closed
  | .insertPlayer _ _, grip => grip = .closed
  | .selectPlayer _, grip => grip = .closed
  | .touchLogin _, grip => grip = .closed
  | .selectPlayerId _, grip => grip = .closed
  | .selectCharacters _, grip => grip = .closed
  | .selectItems _, grip => grip = .closed

def Answer.isFetched {Row : Type} : Answer Row → Bool
  | .fetched _ _ => true
  | .failed _ _ | .duplicate _ => false

def Answer.rows {Row : Type} : Answer Row → List Row
  | .fetched rows _ => rows
  | .failed _ _ | .duplicate _ => []

/-- The grip after a statement. A SELECT that fails late may have locked a row
that the script is not told. -/
def Grips : (statement : Statement) → Answer statement.Row → Grip → Grip → Prop
  | .begin, answer, before, after => after = if Answer.isFetched answer then .locking none else before
  | .commit, answer, before, after => after = if Answer.isFetched answer then .closed else before
  | .rollback, _, _, after => after = .closed
  | .selectPlayerIdForUpdate _, answer, _, after =>
      ∃ row, after = .locking row ∧ ∀ id ∈ Answer.rows answer, row = some id
  | .upsertCharacter _ _ _ _, _, before, after => after = before
  | .upsertPosition _ _ _ _, _, before, after => after = before
  | .upsertItem _ _ _ _, _, before, after => after = before
  | .deleteItem _ _, _, before, after => after = before
  | .insertPlayer _ _, _, before, after => after = before
  | .selectPlayer _, _, before, after => after = before
  | .touchLogin _, _, before, after => after = before
  | .selectPlayerId _, _, before, after => after = before
  | .selectCharacters _, _, before, after => after = before
  | .selectItems _, _, before, after => after = before

/-- The statement stands where it may, and the script goes on whatever it answers. -/
def orders (statement : Statement) (next : Answer statement.Row → Grip → Prop) (now : Grip) : Prop :=
  Fits statement now ∧ ∀ answer later, Grips statement answer now later → next answer later

/-- The transaction is over when the script is. -/
def Released {Value : Type} (_ : Except StdException Value) (now : Grip) : Prop := now = .closed

theorem orders_monotone : Script.Monotone orders := by
  intro statement next wider now weaker holds
  exact ⟨holds.1, fun answer later grips => weaker answer later (holds.2 answer later grips)⟩

section

variable {Value Result : Type} {now : Grip}

theorem holds_executed (statement : Statement)
    (post : Except StdException (List statement.Row × Option Bytes) → Grip → Prop) :
    (executed statement).Holds orders post now =
      orders statement (fun answer later => post (Atomicity.verdict statement answer) later) now := by
  change orders statement _ now = _
  congr 1
  funext answer later
  cases answer <;> rfl

theorem holds_exec (statement : Statement) {post : Except StdException Unit → Grip → Prop}
    (fits : Fits statement now)
    (goes : ∀ answer later, Grips statement answer now later →
      post ((Atomicity.verdict statement answer).map fun _ => ()) later) :
    (exec statement).Holds orders post now := by
  unfold exec
  rw [Script.holds_bind, holds_executed]
  refine ⟨fits, fun answer later grips => ?_⟩
  have next := goes answer later grips
  cases answer <;> exact next

theorem holds_execute_prepared (statement : Statement) {post : Except StdException Unit → Grip → Prop}
    (fits : Fits statement now)
    (goes : ∀ answer later, Grips statement answer now later →
      post ((Atomicity.verdict statement answer).map fun _ => ()) later) :
    (executePrepared statement).Holds orders post now := holds_exec statement fits goes

theorem holds_convert {Converted : Type} {result : Except StdException Converted}
    {next : Converted → JobScript Value}
    (good : ∀ value, (next value).Holds orders Released .closed) :
    (convert result >>= next).Holds orders Released .closed := by
  cases result with
  | ok value => exact good value
  | error error => exact rfl

def Outside (statement : Statement) : Prop :=
  Fits statement .closed ∧ ∀ answer later, Grips statement answer .closed later → later = .closed

theorem holds_outside (statement : Statement)
    {next : List statement.Row × Option Bytes → JobScript Value} (outside : Outside statement)
    (good : ∀ rows, (next rows).Holds orders Released .closed) :
    (executed statement >>= next).Holds orders Released .closed := by
  rw [Script.holds_bind, holds_executed]
  refine ⟨outside.1, fun answer later grips => ?_⟩
  rw [outside.2 answer later grips]
  cases answer with
  | failed stage text => exact rfl
  | duplicate text => exact rfl
  | fetched rows broken => exact good (rows, broken)

theorem holds_fetch_one {Row : Type} {account : Bytes} {fetched : List Row × Option Bytes}
    {next : Row → JobScript Value} (good : ∀ row, (next row).Holds orders Released .closed) :
    (fetchOne account fetched >>= next).Holds orders Released .closed := by
  rcases fetched with ⟨_ | ⟨row, rest⟩, _ | text⟩
  · exact rfl
  · exact rfl
  · exact good row
  · exact good row

theorem holds_known {account : Bytes} {next : JobScript Value}
    (good : next.Holds orders Released .closed) :
    (selectPlayerId account >>= fun _ => next).Holds orders Released .closed := by
  unfold selectPlayerId
  rw [Script.bind_assoc]
  apply holds_outside (.selectPlayerId account) ⟨rfl, fun _ _ grips => grips⟩
  intro rows
  exact holds_fetch_one fun _ => good

theorem holds_computed {Computed : Type} {script : JobScript Computed}
    {next : Computed → JobScript Value} (silent : script.Within 0)
    (good : ∀ value, (next value).Holds orders Released .closed) :
    (script >>= next).Holds orders Released .closed := by
  rw [Script.holds_bind]
  apply Script.holds_silent silent
  intro result
  cases result with
  | ok value => exact good value
  | error error => exact rfl

def Inside {Value : Type} (_ : Except StdException Value) (now : Grip) : Prop := now ≠ .closed

theorem holds_rolled_back (fault : StdException) :
    (rollbackNoexcept >>= fun _ => .throws fault : JobScript Value).Holds orders Released now := by
  refine ⟨trivial, fun answer later grips => ?_⟩
  exact grips

theorem holds_transaction {body : JobScript Value}
    (inside : body.Holds orders Inside (.locking none)) :
    (transaction body).Holds orders Released .closed := by
  unfold transaction
  rw [Script.holds_bind]
  refine holds_exec .begin rfl ?_
  intro answer later grips
  cases answer with
  | failed stage text => exact grips
  | duplicate text => exact grips
  | fetched rows broken =>
      obtain rfl : later = .locking none := grips
      change (Script.rescue _ _).Holds orders Released _
      rw [Script.holds_rescue, Script.holds_bind]
      refine Script.holds_mono orders_monotone ?_ inside
      intro result still open_
      cases result with
      | error fault => exact holds_rolled_back fault
      | ok value =>
          change (exec .commit >>= fun _ => _ : JobScript Value).Holds orders _ still
          rw [Script.holds_bind]
          refine holds_exec .commit open_ ?_
          intro committed after grips
          cases committed with
          | failed stage text => exact holds_rolled_back _
          | duplicate text => exact holds_rolled_back _
          | fetched rows broken => exact grips

theorem holds_save {account : Bytes} {change : Nat → JobScript Unit}
    (writes : ∀ row, (change row).Holds orders Inside (.locking (some row))) :
    (selectPlayerIdForUpdate account >>= change).Holds orders Inside (.locking none) := by
  unfold selectPlayerIdForUpdate
  rw [Script.bind_assoc, Script.holds_bind, holds_executed]
  refine ⟨rfl, fun answer later grips => ?_⟩
  rcases grips with ⟨row, rfl, told⟩
  cases answer with
  | failed stage text => exact nofun
  | duplicate text => exact nofun
  | fetched rows broken =>
      cases rows with
      | nil => cases broken <;> exact nofun
      | cons first rest =>
          obtain rfl := told first List.mem_cons_self
          exact writes first

theorem holds_write {statement : Statement} {row : Nat} (fits : Fits statement (.locking (some row)))
    (kept : ∀ answer later, Grips statement answer (.locking (some row)) later →
      later = .locking (some row)) :
    (executePrepared statement).Holds orders Inside (.locking (some row)) := by
  apply holds_execute_prepared statement fits
  intro answer later grips
  rw [kept answer later grips]
  exact nofun

theorem holds_after {script : JobScript Value} {next : Value → JobScript Result}
    (first : script.Holds orders Released .closed)
    (good : ∀ value, (next value).Holds orders Released .closed) :
    (script >>= next).Holds orders Released .closed := by
  rw [Script.holds_bind]
  refine Script.holds_mono orders_monotone ?_ first
  rintro result _ rfl
  cases result with
  | ok value => exact good value
  | error error => exact rfl

end

theorem fetch_characters_silent (account : Bytes) (rows : List Character) (broken : Option Bytes) :
    (fetchCharacters account rows broken).Within 0 := by
  induction rows with
  | nil => cases broken <;> trivial
  | cons row rest ih =>
      unfold fetchCharacters
      split_ifs
      · trivial
      · exact Script.within_bind ih fun later => Script.within_done _ 0

theorem fetch_items_silent (rows : List Item) (broken : Option Bytes) :
    (fetchItems rows broken).Within 0 := by
  induction rows with
  | nil => cases broken <;> trivial
  | cons row rest ih => exact Script.within_bind ih fun later => Script.within_done _ 0

theorem holds_saving {account : Bytes} {change : Nat → JobScript Unit} {completion : DbCompletion}
    (writes : ∀ row, (change row).Holds orders Inside (.locking (some row))) :
    (transaction (selectPlayerIdForUpdate account >>= change) >>= fun _ => pure completion :
      JobScript DbCompletion).Holds orders Released .closed :=
  holds_after (holds_transaction (holds_save writes)) fun _ => rfl

theorem job_in_order (job : DbJob) : (executeJob job).Holds orders Released .closed := by
  unfold executeJob
  cases job.operation with
  | registerPlayer =>
      apply holds_convert
      intro account
      apply holds_convert
      intro displayName
      refine ⟨rfl, ?_⟩
      rintro answer later rfl
      cases answer <;> exact rfl
  | loginPlayer =>
      apply holds_convert
      intro account
      apply holds_outside (.selectPlayer account) ⟨rfl, fun _ _ grips => grips⟩
      intro rows
      apply holds_fetch_one
      rintro ⟨id, displayName⟩
      simp only
      split_ifs
      · exact rfl
      · apply holds_after
        · refine holds_execute_prepared (.touchLogin id) rfl ?_
          intro answer later grips
          exact grips
        · exact fun _ => rfl
  | saveCharacter =>
      apply holds_convert
      intro account
      apply holds_convert
      intro character
      apply holds_convert
      intro level
      apply holds_convert
      intro gold
      exact holds_saving fun row => holds_write rfl fun _ _ grips => grips
  | savePosition =>
      apply holds_convert
      intro account
      apply holds_convert
      intro character
      apply holds_convert
      intro x
      apply holds_convert
      intro y
      exact holds_saving fun row => holds_write rfl fun _ _ grips => grips
  | saveInventoryItem =>
      apply holds_convert
      intro account
      apply holds_convert
      intro slot
      apply holds_convert
      intro itemId
      apply holds_convert
      intro count
      refine holds_saving fun row => ?_
      split_ifs
      · exact holds_write nofun fun _ _ grips => grips
      · exact holds_write rfl fun _ _ grips => grips
  | loadCharacters =>
      apply holds_convert
      intro account
      apply holds_known
      apply holds_outside (.selectCharacters account) ⟨rfl, fun _ _ grips => grips⟩
      rintro ⟨rows, broken⟩
      exact holds_computed (fetch_characters_silent account rows broken) fun _ => rfl
  | loadInventory =>
      apply holds_convert
      intro account
      apply holds_known
      apply holds_outside (.selectItems account) ⟨rfl, fun _ _ grips => grips⟩
      rintro ⟨rows, broken⟩
      exact holds_computed (fetch_items_silent rows broken) fun _ => rfl

structure Gripped (store : Store) (index : Nat) (connection : Option Link) (grip : Grip) : Prop where
  rows : ∀ row, (index, row) ∈ store.locks → grip = .locking (some row)
  closed : grip = .closed → ∀ link, connection = some link → link.transaction = none

def Exclusive (store : Store) : Prop :=
  ∀ first second row, (first, row) ∈ store.locks → (second, row) ∈ store.locks → first = second

/-- What a statement of one connection does to the locks. -/
structure Regrips (store after : Store) (index : Nat) (link : Link) (grip : Grip) : Prop where
  gripped : Gripped after index (some link) grip
  exclusive : Exclusive after
  others : ∀ other row, other ≠ index → (other, row) ∈ after.locks → (other, row) ∈ store.locks

variable {mysql : Mysql} {store after : Store} {index : Nat} {link link' : Link} {grip : Grip}

theorem exclusive_release (exclusive : Exclusive store) : Exclusive (store.release index) := by
  intro first second row one other
  exact exclusive first second row (List.mem_filter.mp one).1 (List.mem_filter.mp other).1

/-- After the end of its transaction a connection holds nothing. -/
theorem regrips_release {locks : Store} (exclusive : Exclusive store)
    (released : locks.locks = (store.release index).locks)
    (closed : grip = .closed → link.transaction = none) : Regrips store locks index link grip := by
  constructor
  · constructor
    · intro row listed
      rw [released] at listed
      have apart := (List.mem_filter.mp listed).2
      simp at apart
    · rintro outside other same
      obtain rfl := Option.some.inj same
      exact closed outside
  · intro first second row one other
    rw [released] at one other
    exact exclusive_release exclusive first second row one other
  · intro other row _ listed
    rw [released] at listed
    exact (List.mem_filter.mp listed).1

theorem regrips_same (exclusive : Exclusive store) (gripped : Gripped store index (some link) grip)
    (locks : after.locks = store.locks) (closed : grip = .closed → link'.transaction = none) :
    Regrips store after index link' grip := by
  constructor
  · constructor
    · intro row listed
      rw [locks] at listed
      exact gripped.rows row listed
    · rintro outside other same
      obtain rfl := Option.some.inj same
      exact closed outside
  · intro first second row one other
    rw [locks] at one other
    exact exclusive first second row one other
  · intro other row _ listed
    rw [locks] at listed
    exact listed

theorem regrips_lock {row : Nat} (exclusive : Exclusive store)
    (gripped : Gripped store index (some link) (.locking none))
    (free : store.lockedByOther index row = false) :
    Regrips store (store.lock index row link) index link (.locking (some row)) := by
  have mine : ∀ other, (index, other) ∉ store.locks := by
    intro other listed
    cases gripped.rows other listed
  have theirs : ∀ other, (other, row) ∉ store.locks := by
    intro other listed
    have apart := List.any_eq_false.mp free (other, row) listed
    have same : other = index := by simpa using apart
    exact mine row (same ▸ listed)
  have locked : ∀ lock, lock ∈ (store.lock index row link).locks →
      lock ∈ store.locks ∨ lock = (index, row) := by
    intro lock listed
    unfold Store.lock at listed
    split_ifs at listed
    · rcases List.mem_append.mp listed with earlier | now
      · exact Or.inl earlier
      · exact Or.inr (List.mem_singleton.mp now)
    · exact Or.inl listed
  constructor
  · constructor
    · intro other listed
      rcases locked _ listed with earlier | now
      · exact absurd earlier (mine other)
      · cases now
        rfl
    · exact nofun
  · intro first second other one two
    rcases locked _ one with earlier | now
    · rcases locked _ two with before | last
      · exact exclusive first second other earlier before
      · cases last
        exact absurd earlier (theirs first)
    · cases now
      rcases locked _ two with before | last
      · exact absurd before (theirs second)
      · cases last
        rfl
  · intro other held apart listed
    rcases locked _ listed with earlier | now
    · exact earlier
    · cases now
      exact absurd rfl apart

theorem locks_write (store : Store) (link : Link) (change : Write) :
    (write mysql store link change).1.locks = store.locks := by
  unfold write
  split <;> rfl

theorem closed_write (closed : link.transaction = none) (store : Store) (change : Write) :
    (write mysql store link change).2.transaction = none := by
  unfold write
  rw [closed]
  exact closed

theorem regrips_write_row {playerId : Nat} {name : Option Bytes} {change : Write}
    {answer : Answer Empty} (exclusive : Exclusive store)
    (gripped : Gripped store index (some link) grip) (open_ : grip ≠ .closed)
    (done : writeRow mysql index store link playerId name change = some (answer, (after, link'))) :
    Regrips store after index link' grip := by
  have outside : grip = .closed → link'.transaction = none := fun closed => absurd closed open_
  unfold writeRow at done
  split_ifs at done
  · cases done
    exact regrips_same exclusive gripped rfl outside
  · obtain ⟨rfl, same⟩ := Prod.mk.inj (Option.some.inj done)
    have locks : after.locks = store.locks := by
      rw [← locks_write store link change, same]
    exact regrips_same exclusive gripped locks outside
  · cases done
    exact regrips_same exclusive gripped rfl outside

theorem gripped_effect {order : RowOrder} {statement : Statement} {answer : Answer statement.Row}
    (exclusive : Exclusive store) (gripped : Gripped store index (some link) grip)
    (fits : Fits statement grip)
    (done : effect mysql index order store link statement = some (answer, (after, link'))) :
    ∃ later, Grips statement answer grip later ∧ Regrips store after index link' later := by
  have unchanged : ∀ {other : Store} {last : Link}, other = store → last = link →
      Regrips store other index last grip := by
    rintro _ _ rfl rfl
    exact regrips_same exclusive gripped rfl fun outside => gripped.closed outside _ rfl
  cases statement with
  | begin =>
      cases done
      exact ⟨_, rfl, regrips_release exclusive rfl nofun⟩
  | commit =>
      cases done
      exact ⟨_, rfl, regrips_release exclusive rfl fun _ => rfl⟩
  | rollback =>
      cases done
      exact ⟨_, rfl, regrips_release exclusive rfl fun _ => rfl⟩
  | insertPlayer account displayName =>
      obtain rfl : grip = .closed := fits
      refine ⟨_, rfl, ?_⟩
      have closed := gripped.closed rfl link rfl
      simp only [effect] at done
      split_ifs at done
      · cases done
        exact unchanged rfl rfl
      · cases done
        exact unchanged rfl rfl
      · split at done
        · obtain ⟨rfl, same⟩ := Prod.mk.inj (Option.some.inj done)
          have locks : after.locks = store.locks := by
            rw [← locks_write store link (.player account displayName), same]
          refine regrips_same exclusive gripped locks fun _ => ?_
          rw [← closed_write closed store (.player account displayName), same]
        · split_ifs at done
          cases done
          exact regrips_same exclusive gripped rfl fun _ => closed
  | selectPlayer account | selectPlayerId account | selectCharacters account
  | selectItems account =>
      cases done
      exact ⟨_, rfl, unchanged rfl rfl⟩
  | touchLogin id =>
      obtain rfl : grip = .closed := fits
      have closed := gripped.closed rfl link rfl
      simp only [effect] at done
      split_ifs at done
      cases done
      refine ⟨_, rfl, unchanged ?_ rfl⟩
      rw [Store.lock, closed]
      rfl
  | selectPlayerIdForUpdate account =>
      obtain rfl : grip = .locking none := fits
      simp only [effect] at done
      split at done
      · cases done
        exact ⟨_, ⟨none, rfl, nofun⟩, unchanged rfl rfl⟩
      · split_ifs at done with locked
        cases done
        refine ⟨_, ⟨some _, rfl, ?_⟩, regrips_lock exclusive gripped (Bool.eq_false_iff.mpr locked)⟩
        intro id listed
        rw [List.mem_singleton.mp listed]
  | upsertCharacter playerId name level gold | upsertPosition playerId name x y
  | upsertItem playerId slot itemId stackCount =>
      obtain rfl : grip = .locking (some playerId) := fits
      exact ⟨_, rfl, regrips_write_row exclusive gripped nofun done⟩
  | deleteItem playerId slot =>
      obtain ⟨rfl, same⟩ := Prod.mk.inj (Option.some.inj done)
      have locks : after.locks = store.locks := by
        rw [← locks_write store link (.clear playerId slot), same]
      exact ⟨_, rfl, regrips_same exclusive gripped locks fun outside => absurd outside fits⟩

/-- An answer that tells less leaves the script with the same grip. -/
theorem grips_less {statement : Statement} {answer told : Answer statement.Row} {before later : Grip}
    (grips : Grips statement answer before later)
    (select : Stage.storeResult ∈ statement.stages)
    (less : ∀ row ∈ Answer.rows told, row ∈ Answer.rows answer) :
    Grips statement told before later := by
  cases statement with
  | selectPlayerIdForUpdate account =>
      rcases grips with ⟨row, rfl, known⟩
      exact ⟨row, rfl, fun id listed => known id (less id listed)⟩
  | selectPlayer | selectPlayerId | selectCharacters | selectItems => exact grips
  | begin | commit | rollback | insertPlayer | touchLogin | upsertCharacter | upsertPosition
  | deleteItem | upsertItem => simp [Statement.stages] at select

theorem grips_failed {statement : Statement} {stage : Stage} {text : Bytes}
    (fits : Fits statement grip) (reached : stage ∈ statement.stages) :
    Grips statement (.failed stage text) grip grip := by
  cases statement with
  | rollback => cases reached
  | selectPlayerIdForUpdate account => exact ⟨none, fits, nofun⟩
  | begin | commit | insertPlayer | selectPlayer | touchLogin | selectPlayerId | upsertCharacter
  | upsertPosition | selectCharacters | deleteItem | upsertItem | selectItems => exact rfl

theorem select_of_late {statement : Statement} {stage : Stage} (reached : stage ∈ statement.stages)
    (late : stage = .bindResult ∨ stage = .storeResult) : Stage.storeResult ∈ statement.stages := by
  rcases late with rfl | rfl <;> cases statement <;> simp_all [Statement.stages]

theorem gripped_perform {statement : Statement} {choice : Choice} {answer : Answer statement.Row}
    (exclusive : Exclusive store) (gripped : Gripped store index (some link) grip)
    (fits : Fits statement grip)
    (performed : perform mysql index (store, link) statement choice =
      some (answer, (after, link'))) :
    ∃ later, Grips statement answer grip later ∧ Regrips store after index link' later := by
  cases choice with
  | goes order =>
      simp only [perform] at performed
      split_ifs at performed
      exact gripped_effect exclusive gripped fits performed
  | fails stage text =>
      simp only [perform] at performed
      split_ifs at performed with reached late
      · rcases Option.map_eq_some_iff.mp performed with ⟨⟨raw, ends⟩, done, same⟩
        cases same
        rcases gripped_effect exclusive gripped fits done with ⟨later, grips, regrips⟩
        have select := select_of_late reached (by simpa using (Bool.and_eq_true_iff.mp late).2)
        refine ⟨later, grips_less grips select ?_, regrips⟩
        intro row listed
        cases listed
      · cases performed
        exact ⟨grip, grips_failed fits reached, regrips_same exclusive gripped rfl fun outside =>
          gripped.closed outside _ rfl⟩
  | breaks order count text =>
      simp only [perform] at performed
      split_ifs at performed with possible
      rcases Option.map_eq_some_iff.mp performed with ⟨⟨raw, ends⟩, done, same⟩
      cases same
      rcases gripped_effect exclusive gripped fits done with ⟨later, grips, regrips⟩
      have select : Stage.storeResult ∈ statement.stages :=
        of_decide_eq_true (Bool.and_eq_true_iff.mp possible).2
      refine ⟨later, grips_less grips select ?_, regrips⟩
      intro row listed
      cases raw with
      | failed | duplicate => cases listed
      | fetched rows broken => exact List.mem_of_mem_take listed
  | loses stage text =>
      simp only [perform] at performed
      split_ifs at performed with reached
      cases performed
      exact ⟨grip, grips_failed fits reached, regrips_release exclusive rfl fun _ => rfl⟩

/-- What is left of a script keeps the order; between two jobs nothing is held. -/
def Keeps (phase : Phase) (grip : Grip) : Prop :=
  match phase with
  | .executing _ script => script.Holds orders Released grip
  | .popping | .connecting _ | .signalling | .exited => grip = .closed

def Mindful (store : Store) (index : Nat) (worker : Worker) : Prop :=
  ∃ grip, Gripped store index worker.connection grip ∧ Keeps worker.phase grip

structure Disciplined (pool : Pool) : Prop where
  exclusive : Exclusive pool.store
  mindful : ∀ index, Mindful pool.store index (pool.workers index)

theorem disciplined_start (poolSize : Nat) (tables : Tables) :
    Disciplined (Pool.start poolSize tables) where
  exclusive := nofun
  mindful := fun _ => ⟨.closed, ⟨nofun, nofun⟩, rfl⟩

variable {pool next : Pool}

/-- One worker changes, the locks of the others at most shrink. -/
theorem disciplined_worker (disciplined : Disciplined pool) (worker : Worker) (later : Store)
    (exclusive : Exclusive later) (mine : Mindful later index worker)
    (others : ∀ other row, other ≠ index → (other, row) ∈ later.locks →
      (other, row) ∈ pool.store.locks) :
    Disciplined ({ pool with store := later }.setWorker index worker) := by
  refine ⟨exclusive, fun other => ?_⟩
  by_cases here : other = index
  · rw [here, Pool.set_worker_same]
    exact mine
  · rw [Pool.set_worker_other here]
    rcases disciplined.mindful other with ⟨grip, gripped, phase⟩
    exact ⟨grip, ⟨fun row listed => gripped.rows row (others other row here listed),
      gripped.closed⟩, phase⟩

theorem disciplined_same (disciplined : Disciplined pool) (store : next.store = pool.store)
    (workers : next.workers = pool.workers) : Disciplined next := by
  refine ⟨?_, fun index => ?_⟩
  · rw [store]
    exact disciplined.exclusive
  · rw [store, workers]
    exact disciplined.mindful index

theorem disciplined_phase (disciplined : Disciplined pool) (index : Nat) (worker : Worker)
    (goes : ∀ grip, Gripped pool.store index (pool.workers index).connection grip →
      Keeps (pool.workers index).phase grip → Mindful pool.store index worker) :
    Disciplined (pool.setWorker index worker) := by
  rcases disciplined.mindful index with ⟨grip, gripped, keeps⟩
  exact disciplined_worker disciplined worker pool.store disciplined.exclusive
    (goes grip gripped keeps) fun _ _ _ listed => listed

theorem disciplined_act {chosen : Act} (disciplined : Disciplined pool)
    (taken : act mysql pool index chosen = some next) : Disciplined next := by
  cases chosen with
  | pop =>
      rcases Pool.pop_cases taken with ⟨idle, ⟨_, _, rfl⟩ | ⟨job, rest, phase, _, starts, rfl⟩⟩
      · refine disciplined_same (disciplined_phase disciplined index
          ⟨(pool.workers index).connection, .exited⟩ ?_) rfl rfl
        intro grip gripped keeps
        rw [idle] at keeps
        exact ⟨grip, gripped, keeps⟩
      · refine disciplined_same (disciplined_phase disciplined index
          ⟨(pool.workers index).connection, phase⟩ ?_) rfl rfl
        intro grip gripped keeps
        rw [idle] at keeps
        obtain rfl : grip = .closed := keeps
        rcases starts with ⟨_, rfl⟩ | ⟨_, rfl⟩
        · exact ⟨.closed, gripped, rfl⟩
        · exact ⟨.closed, gripped, job_in_order job⟩
  | connect outcome =>
      rcases Pool.connect_cases taken with ⟨popped, waiting, ⟨_, rfl⟩ | ⟨error, _, rfl⟩⟩
      · apply disciplined_phase disciplined index
        intro grip gripped keeps
        rw [waiting] at keeps
        obtain rfl : grip = .closed := keeps
        refine ⟨.closed, ⟨fun row listed => ?_, ?_⟩, job_in_order popped.job⟩
        · cases gripped.rows row listed
        · rintro _ link same
          cases same
          rfl
      · apply disciplined_phase disciplined index
        intro grip gripped keeps
        rw [waiting] at keeps
        obtain rfl : grip = .closed := keeps
        exact ⟨.closed, ⟨gripped.rows, nofun⟩, rfl⟩
  | execute choice =>
      rcases Pool.execute_cases taken with
        ⟨popped, statement, continues, link, answer, store, later, busy, connected, performed, rfl⟩
      rcases disciplined.mindful index with ⟨grip, gripped, keeps⟩
      rw [busy] at keeps
      rw [connected] at gripped
      rcases gripped_perform disciplined.exclusive gripped keeps.1 performed with
        ⟨after, grips, regrips⟩
      refine disciplined_same (disciplined_worker disciplined
        ⟨some later, .executing popped (continues answer)⟩ store regrips.exclusive ?_
        regrips.others) rfl rfl
      exact ⟨after, regrips.gripped, keeps.2 answer after grips⟩
  | push =>
      rcases Pool.push_cases taken with ⟨popped, script, result, busy, ended, rfl⟩
      refine disciplined_same (disciplined_phase disciplined index
        ⟨(pool.workers index).connection, .signalling⟩ ?_) rfl rfl
      intro grip gripped keeps
      rw [busy] at keeps
      refine ⟨grip, gripped, ?_⟩
      cases script with
      | done value => exact keeps
      | throws error => exact keeps
      | call statement continues => cases ended
  | signal =>
      rcases Pool.signal_cases taken with ⟨owing, rfl⟩
      refine disciplined_same (disciplined_phase disciplined index
        ⟨(pool.workers index).connection, .popping⟩ ?_) rfl rfl
      intro grip gripped keeps
      rw [owing] at keeps
      exact ⟨grip, gripped, keeps⟩
  | lose =>
      rcases Pool.lose_cases taken with ⟨link, connected, rfl⟩
      rcases disciplined.mindful index with ⟨grip, gripped, keeps⟩
      have regrips : Regrips pool.store (pool.store.release index) index ⟨false, none⟩ grip :=
        regrips_release disciplined.exclusive rfl fun _ => rfl
      exact disciplined_worker disciplined _ _ regrips.exclusive ⟨grip, regrips.gripped, keeps⟩
        regrips.others

theorem disciplined_step {label : Workers.Label} (disciplined : Disciplined pool)
    (taken : step mysql pool label = some next) : Disciplined next := by
  cases label with
  | submit job | close | drainEvents =>
      cases taken
      exact disciplined_same disciplined rfl rfl
  | join =>
      rcases Pool.join_cases taken with ⟨_, rfl⟩
      exact disciplined_same disciplined rfl rfl
  | popCompletion =>
      cases taken
      unfold Pool.popCompletion
      cases pool.completions with
      | nil => exact disciplined
      | cons completion rest => exact disciplined_same disciplined rfl rfl
  | worker index chosen =>
      simp only [step] at taken
      split_ifs at taken
      exact disciplined_act disciplined taken

end DungeonPortfolio.Locks
