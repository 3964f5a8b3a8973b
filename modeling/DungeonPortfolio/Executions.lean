import DungeonPortfolio.Atomicity

/-!
# Jobs executed one after another

A job run by a worker whose connection has no open transaction, with nothing
else on the server: it ends, and it is its command in one step or, if a call
failed, an error without effect. Histories are jobs executed one after another.
-/

namespace DungeonPortfolio.Executions

open DungeonPortfolio.Text DungeonPortfolio.Dispatcher DungeonPortfolio.Schema
open DungeonPortfolio.Statements DungeonPortfolio.Connection DungeonPortfolio.Commands
open DungeonPortfolio.Atomicity
open Library

set_option autoImplicit false

/-- A job executed alone, from its first call to the completion that the worker
pushes. Calls may fail if `faulty`; `order` is the order in which a LOAD gets its
rows. -/
def Executes (mysql : Mysql) (faulty : Bool) (order : RowOrder) (before : Tables) (job : DbJob)
    (completion : DbCompletion) (after : Tables) : Prop :=
  ∃ (self : Nat) (link link' : Link) (choices : Nat → Choice) (store : Store)
    (result : Except StdException DbCompletion),
    link.transaction = none ∧
    (∀ index, (choices index).isFault = true → faulty = true) ∧
    (∀ index, (choices index).Ordered order) ∧
    (executeJob job).run (perform mysql self) (⟨before, []⟩, link) choices =
      some (result, (store, link')) ∧
    completion = pushed job result ∧ after = store.tables

variable {mysql : Mysql} {self : Nat} {faulty : Bool} {job : DbJob} {order : RowOrder}

theorem Executes.may_fail {before after : Tables} {completion : DbCompletion}
    (executes : Executes mysql false order before job completion after) :
    Executes mysql true order before job completion after := by
  rcases executes with ⟨self, link, link', choices, store, result, closed, _, rest⟩
  exact ⟨self, link, link', choices, store, result, closed, fun _ _ => rfl, rest⟩

/-- Between two states of a run the job has acted at most once. -/
def Acted (mysql : Mysql) (job : DbJob) (order : RowOrder) (before after : Tables)
    (settled settled' : Option (Except StdException Bytes)) : Prop :=
  (settled' = settled ∧ after = before) ∨
    (settled = none ∧ settled' = some (atomically mysql order before job).1 ∧
      after = (atomically mysql order before job).2)

/-- What holds of a script for every interference holds of a run without any. -/
theorem holds_run {Value : Type} {post : Except StdException Value → Moment → Prop}
    {script : JobScript Value} {store store' : Store} {link link' : Link}
    {settled : Option (Except StdException Bytes)} {choices : Nat → Choice}
    {result : Except StdException Value}
    (holds : script.Holds (calls mysql self faulty job) post
      ⟨link, settled, store.tables.players⟩)
    (sound : Sound mysql store.tables)
    (allowed : ∀ index, (choices index).isFault = true → faulty = true)
    (ordered : ∀ index, (choices index).Ordered order)
    (ran : script.run (perform mysql self) (store, link) choices = some (result, (store', link'))) :
    ∃ settled', post result ⟨link', settled', store'.tables.players⟩ ∧
      Sound mysql store'.tables ∧ Acted mysql job order store.tables store'.tables settled settled' := by
  induction script generalizing store link settled choices with
  | done value =>
      cases ran
      exact ⟨settled, holds, sound, Or.inl ⟨rfl, rfl⟩⟩
  | throws error =>
      cases ran
      exact ⟨settled, holds, sound, Or.inl ⟨rfl, rfl⟩⟩
  | call statement next ih =>
      simp only [Script.run] at ran
      split at ran
      · cases ran
      · rename_i answer later performed
        rcases later with ⟨after, linked⟩
        have fewer : ∀ index, (choices (index + 1)).isFault = true → faulty = true :=
          fun index => allowed (index + 1)
        have still : ∀ index, (choices (index + 1)).Ordered order := fun index => ordered (index + 1)
        rcases holds store (choices 0) order answer after linked (List.prefix_refl _) sound
          (allowed 0) (ordered 0) performed with ⟨same, continued⟩ |
          ⟨fresh, _, acted, continued⟩
        · rw [← same] at continued sound ⊢
          exact ih answer continued sound fewer still ran
        · have kept : Sound mysql after.tables := by
            rw [acted]
            exact sound_atomically sound order job
          rcases ih answer continued kept fewer still ran with ⟨settled', ended, sound', rest⟩
          refine ⟨settled', ended, sound', Or.inr ⟨fresh, ?_⟩⟩
          rcases rest with ⟨rfl, unchanged⟩ | ⟨again, _⟩
          · exact ⟨rfl, unchanged.trans acted⟩
          · cases again

theorem login_changes_nothing (kind : job.operation = .loginPlayer) (order : RowOrder)
    (tables : Tables) : (atomically mysql order tables job).2 = tables := by
  unfold atomically commandOf
  rw [kind]
  cases first : at? job.args 0 with
  | error error => rfl
  | ok account =>
      simp only [Command.outcome, forOwner, bind, Except.bind, pure, Except.pure]
      split
      · rfl
      · split_ifs <;> rfl

/-- A job alone is its command in one step, or it fails and leaves the tables
alone because a call failed. -/
theorem executes_cases {before after : Tables} {completion : DbCompletion}
    (sound : Sound mysql before)
    (executes : Executes mysql faulty order before job completion after) :
    Sound mysql after ∧
      ((∃ line, atomically mysql order before job = (.ok line, after) ∧
          completion = completed job line) ∨
        (∃ error, atomically mysql order before job = (.error error, after) ∧
          completion = errorCompletion job error) ∨
        (faulty = true ∧ after = before ∧ ∃ error, completion = errorCompletion job error)) := by
  rcases executes with ⟨self, link, link', choices, store, result, closed, allowed, ordered, ran,
    rfl, rfl⟩
  have holds : (executeJob job).Holds (calls mysql self faulty job) (Finished faulty job)
      ⟨link, none, before.players⟩ := holds_job rfl closed
  rcases holds_run holds sound allowed ordered ran with ⟨settled, finished, sound', acted⟩
  refine ⟨sound', ?_⟩
  cases result with
  | ok completion =>
      rcases finished with ⟨_, line, rfl, answered⟩
      rcases acted with ⟨same, _⟩ | ⟨_, outcome, changed⟩
      · cases same.symm.trans answered
      · left
        refine ⟨line, ?_, rfl⟩
        rw [changed, ← Option.some.inj (outcome.symm.trans answered)]
  | error error =>
      rcases finished with ⟨_, answered | ⟨fresh, bad⟩ | ⟨faults, early⟩⟩
      · rcases acted with ⟨same, _⟩ | ⟨_, outcome, changed⟩
        · cases same.symm.trans answered
        · right
          left
          refine ⟨error, ?_, rfl⟩
          rw [changed, ← Option.some.inj (outcome.symm.trans answered)]
      · rcases acted with ⟨_, unchanged⟩ | ⟨_, outcome, _⟩
        · right
          left
          refine ⟨error, ?_, rfl⟩
          rw [unchanged]
          unfold atomically
          rw [bad]
        · cases fresh.symm.trans outcome
      · right
        right
        refine ⟨faults, ?_, error, rfl⟩
        rcases acted with ⟨_, unchanged⟩ | ⟨_, outcome, changed⟩
        · exact unchanged
        · rcases early with fresh | kind
          · cases fresh.symm.trans outcome
          · exact changed.trans (login_changes_nothing kind order before)

def Alone (self : Nat) (store : Store) : Prop := ∀ id, store.lockedByOther self id = false

theorem alone_tables {store : Store} {tables : Tables} (alone : Alone self store) :
    Alone self { store with tables } := alone

theorem alone_release {store : Store} (alone : Alone self store) : Alone self (store.release self) := by
  intro id
  have free := alone id
  simp only [Store.lockedByOther, Store.release, List.any_eq_false] at free ⊢
  intro lock member
  exact free lock (List.mem_filter.mp member).1

theorem alone_lock {store : Store} (alone : Alone self store) (playerId : Nat) (link : Link) :
    Alone self (store.lock self playerId link) := by
  intro id
  unfold Store.lock
  split_ifs
  · have free := alone id
    simp only [Store.lockedByOther, List.any_append, Bool.or_eq_false_iff] at free ⊢
    refine ⟨free, ?_⟩
    simp
  · exact alone id

def Possible (mysql : Mysql) (self : Nat) (order : RowOrder) (store : Store) (link : Link)
    (statement : Statement) : Prop :=
  ∃ answer after link', effect mysql self order store link statement =
    some (answer, (after, link')) ∧ Alone self after ∧ link'.alive = link.alive

theorem alone_write {store : Store} (alone : Alone self store) (link : Link) (change : Write) :
    Alone self (write mysql store link change).1 ∧
      (write mysql store link change).2.alive = link.alive := by
  unfold write
  split
  · exact ⟨alone_tables alone, rfl⟩
  · exact ⟨alone, rfl⟩

theorem write_row_possible {store : Store} (alone : Alone self store) (link : Link) (playerId : Nat)
    (name : Option Bytes) (change : Write) :
    ∃ answer after link', writeRow mysql self store link playerId name change =
      some (answer, (after, link')) ∧ Alone self after ∧ link'.alive = link.alive := by
  unfold writeRow
  rw [alone playerId, if_neg Bool.false_ne_true]
  split_ifs
  · exact ⟨_, _, _, rfl, alone, rfl⟩
  · exact ⟨_, _, _, rfl, alone_write alone link change⟩
  · exact ⟨_, _, _, rfl, alone, rfl⟩

theorem effect_possible (mysql : Mysql) {store : Store} (alone : Alone self store) (link : Link)
    (statement : Statement) (order : RowOrder) :
    Possible mysql self order store link statement := by
  cases statement with
  | begin | commit => exact ⟨_, _, _, rfl, alone_release (alone_tables alone), rfl⟩
  | rollback => exact ⟨_, _, _, rfl, alone_release alone, rfl⟩
  | insertPlayer account displayName =>
      unfold Possible
      simp only [effect]
      split_ifs
      · exact ⟨_, _, _, rfl, alone, rfl⟩
      · exact ⟨_, _, _, rfl, alone, rfl⟩
      · split
        · exact ⟨_, _, _, rfl, alone_write alone link _⟩
        · rename_i row _
          rw [alone row.id]
          exact ⟨_, _, _, rfl, alone_tables alone, rfl⟩
  | selectPlayer account | selectPlayerId account | selectCharacters account
  | selectItems account => exact ⟨_, _, _, rfl, alone, rfl⟩
  | touchLogin id =>
      refine ⟨.fetched [] none, store.lock self id link, link, ?_, alone_lock alone id link, rfl⟩
      simp only [effect, alone id]
      rfl
  | selectPlayerIdForUpdate account =>
      unfold Possible
      simp only [effect]
      split
      · exact ⟨_, _, _, rfl, alone, rfl⟩
      · rename_i row _
        rw [alone row.id]
        exact ⟨_, _, _, rfl, alone_lock alone row.id link, rfl⟩
  | upsertCharacter playerId name level gold => exact write_row_possible alone link playerId _ _
  | upsertPosition playerId name x y => exact write_row_possible alone link playerId _ _
  | deleteItem playerId slot => exact ⟨_, _, _, rfl, alone_write alone link _⟩
  | upsertItem playerId slot itemId count => exact write_row_possible alone link playerId _ _

theorem run_possible (mysql : Mysql) (order : RowOrder) {Value : Type} (script : JobScript Value)
    {store : Store} {link : Link} (alone : Alone self store) (alive : link.alive = true) :
    ∃ result after, script.run (perform mysql self) (store, link) (fun _ => .goes order) =
      some (result, after) := by
  induction script generalizing store link with
  | done value => exact ⟨_, _, rfl⟩
  | throws error => exact ⟨_, _, rfl⟩
  | call statement next ih =>
      rcases effect_possible mysql alone link statement order with
        ⟨answer, after, link', done, stays, same⟩
      rcases ih answer stays (same.trans alive) with ⟨result, final, ran⟩
      refine ⟨result, final, ?_⟩
      have performed : perform mysql self (store, link) statement (.goes order) =
          some (answer, (after, link')) := by
        simp only [perform, alive, Bool.true_or, if_true]
        exact done
      rw [Script.run_call performed]
      exact ran

/-- The completion of a job and the tables after it, without faults. -/
def executedAlone (mysql : Mysql) (order : RowOrder) (tables : Tables) (job : DbJob) :
    DbCompletion × Tables :=
  let (outcome, after) := atomically mysql order tables job
  (pushed job (outcome.map (completed job)), after)

theorem executes_some (mysql : Mysql) (before : Tables) (job : DbJob) (order : RowOrder) :
    ∃ completion after, Executes mysql false order before job completion after := by
  have alone : Alone 0 (⟨before, []⟩ : Store) := fun _ => rfl
  have alive : Link.fresh.alive = true := rfl
  rcases run_possible mysql order (executeJob job) alone alive with ⟨result, ⟨store, link'⟩, ran⟩
  refine ⟨_, _, 0, Link.fresh, link', fun _ => .goes order, store, result, rfl, ?_, ?_, ran, rfl,
    rfl⟩
  · intro index fault
    cases fault
  · intro index
    exact rfl

theorem executes_only {before after : Tables} {completion : DbCompletion}
    (sound : Sound mysql before) (executes : Executes mysql false order before job completion after) :
    completion = (executedAlone mysql order before job).1 ∧
      after = (executedAlone mysql order before job).2 := by
  rcases (executes_cases sound executes).2 with
    ⟨line, outcome, rfl⟩ | ⟨error, outcome, rfl⟩ | ⟨fault, _⟩
  · rw [executedAlone, outcome]
    exact ⟨rfl, rfl⟩
  · rw [executedAlone, outcome]
    exact ⟨rfl, rfl⟩
  · cases fault

/-- Without faults a job executes in exactly one way for each order of rows. -/
theorem executes_iff {before after : Tables} {completion : DbCompletion}
    (sound : Sound mysql before) :
    Executes mysql false order before job completion after ↔
      executedAlone mysql order before job = (completion, after) := by
  constructor
  · intro executes
    have only := executes_only sound executes
    rw [only.1, only.2]
  · intro same
    rcases executes_some mysql before job order with ⟨some, last, executes⟩
    have only := executes_only sound executes
    rw [same] at only
    rw [only.1, only.2] at executes
    exact executes

inductive History (mysql : Mysql) (faulty : Bool) :
    Tables → List (DbJob × DbCompletion) → Tables → Prop where
  | start (tables : Tables) : History mysql faulty tables [] tables
  | next {first before after : Tables} {entries : List (DbJob × DbCompletion)} {job : DbJob}
      {completion : DbCompletion} {order : RowOrder} :
      History mysql faulty first entries before →
      Executes mysql faulty order before job completion after →
      History mysql faulty first (entries ++ [(job, completion)]) after

/-- What every job in one step keeps, executions keep. -/
theorem executes_keeps {property : Tables → Prop} {before after : Tables}
    {completion : DbCompletion} (sound : Sound mysql before)
    (executes : Executes mysql faulty order before job completion after) (holds : property before)
    (kept : property (atomically mysql order before job).2) : property after := by
  rcases (executes_cases sound executes).2 with ⟨line, outcome, _⟩ | ⟨error, outcome, _⟩ |
    ⟨_, rfl, _⟩
  · rw [outcome] at kept
    exact kept
  · rw [outcome] at kept
    exact kept
  · exact holds

theorem sound_history {first last : Tables} {entries : List (DbJob × DbCompletion)}
    (sound : Sound mysql first) (history : History mysql faulty first entries last) :
    Sound mysql last := by
  induction history with
  | start => exact sound
  | next _ executes ih => exact (executes_cases ih executes).1

def executedInTurn (mysql : Mysql) (order : RowOrder) (tables : Tables) (jobs : List DbJob) :
    List (DbJob × DbCompletion) × Tables :=
  jobs.foldl (fun before job =>
    let (completion, after) := executedAlone mysql order before.2 job
    (before.1 ++ [(job, completion)], after)) ([], tables)

theorem history_of_jobs {tables : Tables} (sound : Sound mysql tables) (order : RowOrder)
    (jobs : List DbJob) :
    History mysql false tables (executedInTurn mysql order tables jobs).1
      (executedInTurn mysql order tables jobs).2 := by
  induction jobs using List.reverseRecOn with
  | nil => exact History.start tables
  | append_singleton jobs job ih =>
      rw [executedInTurn, List.foldl_append]
      exact History.next ih ((executes_iff (sound_history sound ih)).mpr rfl)

/-- The same rows, ids that are still to be given apart. -/
def SameRows (before after : Tables) : Prop :=
  after.players = before.players ∧ after.characters = before.characters ∧
    after.inventoryItems = before.inventoryItems

theorem error_same_rows {tables : Tables} {order : RowOrder} {error : StdException}
    (failed : (atomically mysql order tables job).1 = .error error) :
    SameRows tables (atomically mysql order tables job).2 := by
  rcases (atomically_cases order tables job : (atomically mysql order tables job).2 = tables ∨ _) with
    same | ⟨command, written, _, writes, same⟩
  · rw [same]
    exact ⟨rfl, rfl, rfl⟩
  · rw [failed] at writes
    rw [same]
    cases command with
    | register account displayName =>
        rcases writes with ⟨_, _, rfl⟩ | ⟨other, _⟩
        · exact ⟨rfl, rfl, rfl⟩
        · cases other
    | login account | load account | loadInventory account => cases writes
    | save account character level gold | savePosition account character x y =>
        rcases writes with ⟨_, _, _, other, _⟩
        cases other
    | saveItem account slot itemId count =>
        rcases writes with ⟨_, _, other, _⟩
        cases other

/-- A job that fails leaves every row as it was, a job that succeeds has had its
full effect. -/
theorem executes_all_or_nothing {before after : Tables} {completion : DbCompletion}
    (sound : Sound mysql before)
    (executes : Executes mysql faulty order before job completion after) :
    (completion.ok = false ∧ SameRows before after) ∨
      ∃ line, completion = completed job line ∧
        atomically mysql order before job = (.ok line, after) := by
  rcases (executes_cases sound executes).2 with ⟨line, outcome, rfl⟩ | ⟨error, outcome, rfl⟩ |
    ⟨_, rfl, error, rfl⟩
  · exact Or.inr ⟨line, rfl, outcome⟩
  · left
    refine ⟨rfl, ?_⟩
    have failed : (atomically mysql order before job).1 = .error error := by rw [outcome]
    have same := error_same_rows failed
    rw [outcome] at same
    exact same
  · exact Or.inl ⟨rfl, rfl, rfl, rfl⟩

end DungeonPortfolio.Executions
