import DungeonPortfolio.CharacterTable
import DungeonPortfolio.Faults
import DungeonPortfolio.Inventory

/-!
# The last submitted save

Saves of the same columns of one row, executed by several workers. What a save has
written stays until a save of the same columns commits, so the last submitted one
wins in every run in which no save commits after one of the same columns that was
submitted later. Nothing in the dispatcher keeps two workers from doing so.
-/

namespace DungeonPortfolio.LastWrites

open DungeonPortfolio.Text DungeonPortfolio.Dispatcher DungeonPortfolio.Schema
open DungeonPortfolio.Statements DungeonPortfolio.Connection DungeonPortfolio.Commands
open DungeonPortfolio.Atomicity DungeonPortfolio.Replaying DungeonPortfolio.CharacterTable
open DungeonPortfolio.Inventory DungeonPortfolio.Workers DungeonPortfolio.ExactlyOnce
open DungeonPortfolio.Linearized DungeonPortfolio.Faults
open Library Library.Execution

set_option autoImplicit false

/-- What a save puts into its columns; the columns of an emptied slot are gone. -/
inductive Content where
  | stats (level gold : Nat)
  | place (x y : Int32)
  | stack (itemId count : Nat)
  deriving DecidableEq, Repr

def contentOf : Command → Option Content
  | .save _ _ level gold => some (.stats level gold)
  | .savePosition _ _ x y => some (.place x y)
  | .saveItem _ _ itemId count => if count = 0 then none else some (.stack itemId count)
  | _ => none

def contentUnder (mysql : Mysql) (tables : Tables) (playerId : Nat) : Command → Option Content
  | .save _ character _ _ =>
      (halvesUnder mysql tables playerId character).map fun halves =>
        .stats halves.1.1 halves.1.2
  | .savePosition _ character _ _ =>
      (halvesUnder mysql tables playerId character).map fun halves =>
        .place halves.2.1 halves.2.2
  | .saveItem _ slot _ _ =>
      (stacksUnder tables playerId slot).map fun stack => .stack stack.1 stack.2
  | _ => none

def Written (mysql : Mysql) (tables : Tables) (command : Command) : Prop :=
  ∃ row, tables.player mysql (accountOf command) = some row ∧
    contentUnder mysql tables row.id command = contentOf command

/-- Two saves of the same columns of one row. -/
def sameColumns (mysql : Mysql) : Command → Command → Bool
  | .save owner character _ _, .save account name _ _ =>
      mysql.same owner account && mysql.same character name
  | .savePosition owner character _ _, .savePosition account name _ _ =>
      mysql.same owner account && mysql.same character name
  | .saveItem owner used _ _, .saveItem account slot _ _ =>
      mysql.same owner account && used == slot
  | _, _ => false

def rivals (mysql : Mysql) (job other : DbJob) : Bool :=
  match commandOf job, commandOf other with
  | .ok command, .ok second => sameColumns mysql command second
  | _, _ => false

def AllSucceeded (pool : Pool) : Prop :=
  ∀ entry ∈ pool.accepted, ∃ answer ∈ pool.pushed, answer.2.1 = entry.1 ∧ answer.2.2.ok = true

/-- The columns that a save writes hold the values of the last save of them, in the
order of the submissions. -/
def LastWins (mysql : Mysql) (pool : Pool) : Prop :=
  ∀ ticket job command, (ticket, job) ∈ pool.accepted → commandOf job = .ok command →
    command.isSave = true →
    (∀ later other, (later, other) ∈ pool.accepted → ticket < later →
      rivals mysql other job = false) →
    Written mysql pool.store.tables command

def committing (pool : Pool) : Label → Option Popped
  | .worker index (.execute _) =>
      match (pool.workers index).phase with
      | .executing popped (.call .commit _) => some popped
      | _ => none
  | _ => none

def hasCommitted (pool : Pool) (ticket : Nat) : Bool :=
  pool.history.any fun event =>
    match event with
    | .ran _ number .commit => number == ticket
    | _ => false

/-- A save of the same columns that was submitted later has committed. -/
def overtaken (mysql : Mysql) (pool : Pool) (popped : Popped) : Bool :=
  pool.accepted.any fun entry =>
    decide (popped.ticket < entry.1) && rivals mysql popped.job entry.2 && hasCommitted pool entry.1

/-- No save commits after one of the same columns that was submitted later. -/
def InOrder (mysql : Mysql) (pool : Pool) (label : Label) : Prop :=
  ∀ popped ∈ (committing pool label).toList, overtaken mysql pool popped = false

instance (mysql : Mysql) (pool : Pool) (label : Label) : Decidable (InOrder mysql pool label) :=
  inferInstanceAs (Decidable (∀ popped ∈ (committing pool label).toList,
    overtaken mysql pool popped = false))

variable {mysql : Mysql} {before after : Tables}

theorem keys_apart (sound : Sound mysql before) {owner account : Bytes} {ownerRow row : PlayerRow}
    {test : Bool} (found : before.player mysql owner = some ownerRow)
    (there : before.player mysql account = some row)
    (apart : (mysql.same owner account && test) = false) :
    ¬ (ownerRow.id = row.id ∧ test = true) := by
  rintro ⟨ids, passes⟩
  rw [(same_owner_iff sound found there).mp ids, passes] at apart
  cases apart

section

variable {command other : Command} {line : Bytes} {written : Write} {row : PlayerRow}

theorem content_written (saves : command.isSave = true)
    (writes : command.Writes mysql before (.ok line) written) :
    Written mysql (before.apply mysql written) command := by
  cases command with
  | register | login | load | loadInventory => cases saves
  | save account character level gold =>
      rcases writes with ⟨row, there, _, _, rfl⟩
      refine ⟨row, there, ?_⟩
      rw [contentUnder, halvesUnder, halves_after_save, if_pos ⟨rfl, mysql.same_refl character⟩]
      rfl
  | savePosition account character x y =>
      rcases writes with ⟨row, there, _, _, rfl⟩
      refine ⟨row, there, ?_⟩
      rw [contentUnder, halvesUnder, halves_after_position,
        if_pos ⟨rfl, mysql.same_refl character⟩]
      rfl
  | saveItem account slot itemId count =>
      rcases writes with ⟨row, there, _, rfl⟩
      refine ⟨row, ?_, ?_⟩
      · split_ifs <;> exact there
      · rw [contentUnder, stacks_after_save, if_pos ⟨rfl, rfl⟩, contentOf]
        split_ifs <;> rfl

theorem half_kept {Half : Type} {old : Option Halves} {pick : Halves → Half} {half : Half}
    (held : old.map pick = some half) {new : Halves}
    (same : ∀ halves, old = some halves → pick new = pick halves) :
    (some new).map pick = some half := by
  cases old with
  | none => cases held
  | some halves =>
      rw [← held, Option.map_some, Option.map_some, same halves rfl]

theorem content_kept (sound : Sound mysql before) (saves : command.isSave = true)
    (there : before.player mysql (accountOf command) = some row)
    (holds : contentUnder mysql before row.id command = contentOf command)
    (writes : other.Writes mysql before (.ok line) written)
    (apart : sameColumns mysql other command = false) :
    contentUnder mysql (before.apply mysql written) row.id command = contentOf command := by
  cases other with
  | login | load | loadInventory => cases writes
  | register account displayName =>
      rcases writes with ⟨_, failed, _⟩ | ⟨_, _, rfl⟩
      · cases failed
      · cases command with
        | register | login | load | loadInventory => cases saves
        | save | savePosition | saveItem => exact holds
  | save owner character level gold =>
      rcases writes with ⟨ownerRow, found, _, _, rfl⟩
      cases command with
      | register | login | load | loadInventory => cases saves
      | save account name newLevel newGold =>
          have distinct := keys_apart sound found there apart
          rw [contentUnder, halvesUnder, halves_after_save, if_neg distinct]
          exact holds
      | savePosition account name x y =>
          rw [contentUnder, halvesUnder, halves_after_save]
          split_ifs
          · apply half_kept holds
            intro halves old
            rw [halvesUnder] at old
            rw [old]
            rfl
          · exact holds
      | saveItem => exact holds
  | savePosition owner character x y =>
      rcases writes with ⟨ownerRow, found, _, _, rfl⟩
      cases command with
      | register | login | load | loadInventory => cases saves
      | save account name level gold =>
          rw [contentUnder, halvesUnder, halves_after_position]
          split_ifs
          · apply half_kept holds
            intro halves old
            rw [halvesUnder] at old
            rw [old]
            rfl
          · exact holds
      | savePosition account name newX newY =>
          have distinct := keys_apart sound found there apart
          rw [contentUnder, halvesUnder, halves_after_position, if_neg distinct]
          exact holds
      | saveItem => exact holds
  | saveItem owner used itemId count =>
      rcases writes with ⟨ownerRow, found, _, rfl⟩
      cases command with
      | register | login | load | loadInventory => cases saves
      | save | savePosition =>
          split_ifs
          · exact holds
          · exact holds
      | saveItem account slot newId newCount =>
          have distinct := keys_apart sound found there apart
          rw [beq_iff_eq] at distinct
          rw [contentUnder, stacks_after_save, if_neg distinct]
          exact holds

end

theorem written_acts {job : DbJob} {command : Command} {order : RowOrder} {line : Bytes}
    (converted : commandOf job = .ok command) (saves : command.isSave = true)
    (acted : atomically mysql order before job = (.ok line, after)) :
    Written mysql after command := by
  rcases atomically_ok acted with ⟨same, again, ⟨written, writes, rfl⟩ | ⟨reads, _⟩⟩
  · rw [converted] at again
    cases again
    exact content_written saves writes
  · rw [converted] at again
    cases again
    cases command with
    | register | login | load | loadInventory => cases saves
    | save | savePosition | saveItem => cases reads

theorem written_kept {job other : DbJob} {command : Command} {order : RowOrder} {line : Bytes}
    (sound : Sound mysql before) (converted : commandOf job = .ok command)
    (saves : command.isSave = true) (written : Written mysql before command)
    (apart : rivals mysql other job = false)
    (acted : atomically mysql order before other = (.ok line, after)) :
    Written mysql after command := by
  rcases written with ⟨row, there, holds⟩
  have grown : before.players <+: after.players := by
    have prefixed := @players_atomically mysql before order other
    rw [acted] at prefixed
    exact prefixed
  refine ⟨row, player_of_known grown there, ?_⟩
  rcases atomically_ok acted with ⟨second, again, ⟨change, writes, rfl⟩ | ⟨_, rfl⟩⟩
  · rw [rivals, again, converted] at apart
    exact content_kept sound saves there holds writes apart
  · exact holds

variable {pool : Pool} {start : Pool} {labels : List Label}

theorem changed_cases (mysql : Mysql) (pool : Pool) (label : Label) :
    changed mysql pool label = [] ∨ ∃ change index choice popped next,
      changed mysql pool label = [change] ∧ label = .worker index (.execute choice) ∧
      (pool.workers index).phase = .executing popped (.call change.statement next) ∧
      popped.ticket = change.ticket := by
  cases label with
  | submit | close | join | popCompletion | drainEvents => exact Or.inl rfl
  | worker index chosen =>
      cases chosen with
      | pop | connect | push | signal | lose => exact Or.inl rfl
      | execute choice =>
          simp only [changed]
          split
          · rename_i popped statement next link busy connected
            cases performed : perform mysql index (pool.store, link) statement choice with
            | none => exact Or.inl rfl
            | some after =>
                exact Or.inr ⟨_, index, choice, popped, next, rfl, rfl, busy, rfl⟩
          · exact Or.inl rfl

/-- The step behind a change. -/
theorem step_of_change {front back : List Change} {change : Change}
    (split : changes mysql start labels = front ++ change :: back) :
    ∃ before label after source target, labels = before ++ label :: after ∧
      run (step mysql) start before = some source ∧ step mysql source label = some target ∧
      changes mysql start before = front ∧ changed mysql source label = [change] := by
  induction labels generalizing start front with
  | nil => simp [changes] at split
  | cons label rest ih =>
      rw [changes] at split
      cases taken : step mysql start label with
      | none => simp [taken] at split
      | some next =>
          simp only [taken] at split
          have later : ∀ early, changes mysql next rest = early ++ change :: back →
              ∃ before other after source target, label :: rest = before ++ other :: after ∧
                run (step mysql) start before = some source ∧
                step mysql source other = some target ∧
                changes mysql start before = changed mysql start label ++ early ∧
                changed mysql source other = [change] := by
            intro early same
            rcases ih same with ⟨before, other, after, source, target, rfl, ran, stepped, made, one⟩
            refine ⟨label :: before, other, after, source, target, rfl, ?_, stepped, ?_, one⟩
            · rw [run, taken]
              exact ran
            · simp only [changes, taken, made]
          rcases changed_cases mysql start label with none | ⟨first, _, _, _, _, single, _⟩
          · rw [none] at split later
            exact later front split
          · rw [single] at split later
            cases front with
            | nil =>
                rcases List.cons.inj split with ⟨rfl, _⟩
                exact ⟨[], label, rest, start, next, rfl, rfl, taken, rfl, single⟩
            | cons head early =>
                rcases List.cons.inj split with ⟨rfl, same⟩
                exact later early same

theorem history_step {pool after : Pool} {label : Label} (taken : step mysql pool label = some after) :
    pool.history <+: after.history := by
  cases label with
  | submit job =>
      cases taken
      exact List.prefix_append _ _
  | close | drainEvents =>
      cases taken
      exact List.prefix_refl _
  | popCompletion =>
      cases taken
      unfold Pool.popCompletion
      split
      · exact List.prefix_refl _
      · exact List.prefix_append _ _
  | join =>
      rcases Pool.join_cases taken with ⟨_, rfl⟩
      exact List.prefix_refl _
  | worker index chosen =>
      simp only [step] at taken
      split_ifs at taken
      cases chosen with
      | pop =>
          rcases Pool.pop_cases taken with ⟨_, ⟨_, _, rfl⟩ | ⟨_, _, _, _, _, rfl⟩⟩
          · exact List.prefix_append _ _
          · exact List.prefix_append _ _
      | connect outcome =>
          rcases Pool.connect_cases taken with ⟨_, _, ⟨_, rfl⟩ | ⟨_, _, rfl⟩⟩
          · exact List.prefix_refl _
          · exact List.prefix_refl _
      | execute choice =>
          rcases Pool.execute_cases taken with ⟨_, _, _, _, _, _, _, _, _, _, rfl⟩
          exact List.prefix_append _ _
      | push =>
          rcases Pool.push_cases taken with ⟨_, _, _, _, _, rfl⟩
          exact List.prefix_append _ _
      | signal =>
          rcases Pool.signal_cases taken with ⟨_, rfl⟩
          exact List.prefix_refl _
      | lose =>
          rcases Pool.lose_cases taken with ⟨_, _, rfl⟩
          exact List.prefix_refl _

theorem history_run {after : Pool} (ran : run (step mysql) pool labels = some after) :
    pool.history <+: after.history := by
  let grown : Pool → Prop := fun later => pool.history <+: later.history
  have preserved : ∀ source label next, grown source → step mysql source label = some next →
      grown next := fun _ _ _ kept taken => kept.trans (history_step taken)
  have last : grown after := invariant_of_run (List.prefix_refl _) preserved ran
  exact last

/-- Every change is on record as a statement that ran. -/
theorem changes_recorded {after : Pool} (ran : run (step mysql) start labels = some after)
    {change : Change} (listed : change ∈ changes mysql start labels) :
    ∃ index, .ran index change.ticket change.statement ∈ after.history := by
  rcases List.append_of_mem listed with ⟨front, back, split⟩
  rcases step_of_change split with
    ⟨before, label, rest, source, target, rfl, earlier, taken, _, single⟩
  have later : run (step mysql) target rest = some after := by
    rw [run_append, earlier, Option.bind_some, run, taken, Option.bind_some] at ran
    exact ran
  rcases changed_cases mysql source label with none | ⟨same, index, choice, popped, next, one, rfl,
    busy, ticket⟩
  · rw [none] at single
    cases single
  · rw [one] at single
    cases single
    refine ⟨index, (history_run later).subset ?_⟩
    simp only [step] at taken
    split_ifs at taken
    rcases Pool.execute_cases taken with
      ⟨other, statement, _, _, _, _, _, phase, _, _, rfl⟩
    rw [busy] at phase
    cases phase
    rw [← ticket]
    exact List.mem_append_right _ (List.mem_singleton_self _)

theorem accepted_same (accounted : Accounted pool) {ticket : Nat} {job other : DbJob}
    (one : (ticket, job) ∈ pool.accepted) (two : (ticket, other) ∈ pool.accepted) :
    job = other := by
  have numbers : (pool.accepted.map Prod.fst).Nodup := accounted.numbered ▸ List.nodup_range
  have same := List.inj_on_of_nodup_map numbers one two rfl
  exact (Prod.mk.inj same).2

theorem accepted_of_lt (accounted : Accounted pool) {ticket : Nat}
    (bound : ticket < pool.popped.length) : ∃ job, (ticket, job) ∈ pool.accepted := by
  have fewer := popped_le_accepted accounted
  have listed : ticket ∈ pool.accepted.map Prod.fst := by
    rw [accounted.numbered]
    exact List.mem_range.mpr (by omega)
  rcases List.mem_map.mp listed with ⟨⟨number, job⟩, member, rfl⟩
  exact ⟨job, member⟩

section

variable {poolSize : Nat} {tables : Tables}

theorem acts_of_succeeded {done : List Change} (accounted : Accounted pool)
    (traced : Traced mysql tables pool done) (all : AllSucceeded pool) {ticket : Nat} {job : DbJob}
    (accepted : (ticket, job) ∈ pool.accepted) :
    ∃ line, ActsOnce mysql job (.ok line) (ofJob ticket done) := by
  rcases all _ accepted with ⟨⟨index, number, completion⟩, pushed, same, succeeded⟩
  obtain rfl : number = ticket := same
  rcases traced.answered index number completion pushed with ⟨other, taken, whole⟩
  obtain rfl := accepted_same accounted accepted (popped_accepted accounted taken)
  rcases whole.all succeeded with ⟨line, _, acts, _⟩
  exact ⟨line, acts⟩

/-- What a change did when every job has succeeded. -/
def Harmless (mysql : Mysql) (pool : Pool) (change : Change) : Prop :=
  change.after = change.before ∨
    ∃ job order line, (change.ticket, job) ∈ pool.accepted ∧
      atomically mysql order change.before job = (.ok line, change.after) ∧
      Timely job change.statement (.ok line)

theorem all_harmless {done : List Change} (accounted : Accounted pool)
    (traced : Traced mysql tables pool done) (all : AllSucceeded pool) :
    ∀ change ∈ done, Harmless mysql pool change := by
  intro change listed
  rcases accepted_of_lt accounted (traced.known change listed) with ⟨job, accepted⟩
  rcases acts_of_succeeded accounted traced all accepted with
    ⟨line, early, acting, late, order, own, first, last, acted, timely⟩
  have mine : change ∈ ofJob change.ticket done :=
    List.mem_filter.mpr ⟨listed, beq_self_eq_true _⟩
  rw [own] at mine
  rcases List.mem_append.mp mine with before | rest
  · exact Or.inl (first change before)
  · rcases List.mem_cons.mp rest with same | later
    · rw [← same] at acted timely
      exact Or.inr ⟨job, order, line, accepted, acted, timely⟩
    · exact Or.inl (last change later)

theorem chained_keeps {property : Tables → Prop} {first last : Tables} {changes : List Change}
    (chained : Chained first changes last) (holds : property first)
    (keeps : ∀ early change late, changes = early ++ change :: late → property change.before →
      property change.after) : property last := by
  induction changes generalizing first with
  | nil =>
      rw [chained]
      exact holds
  | cons change rest ih =>
      rcases chained with ⟨rfl, later⟩
      refine ih later (keeps [] change rest rfl holds) ?_
      intro early other late split
      exact keeps (change :: early) other late (by rw [split, List.cons_append])

theorem harmless_sound {change : Change} (harmless : Harmless mysql pool change)
    (sound : Sound mysql change.before) : Sound mysql change.after := by
  rcases harmless with same | ⟨job, order, line, _, acted, _⟩
  · rw [same]
    exact sound
  · have kept := sound_atomically sound order job
    rw [acted] at kept
    exact kept

theorem committing_of {index : Nat} {popped : Popped} {statement : Statement} {choice : Choice}
    {next : Answer statement.Row → JobScript DbCompletion}
    (busy : (pool.workers index).phase = .executing popped (.call statement next))
    (commits : statement = .commit) :
    committing pool (.worker index (.execute choice)) = some popped := by
  subst commits
  simp only [committing, busy]

/-- A rival's COMMIT comes after no COMMIT of the later submission. -/
theorem no_rival_after {front back : List Change} {change acting : Change} {job other : DbJob}
    (sound : Sound mysql tables)
    (ran : run (step mysql) (Pool.start poolSize tables) labels = some pool)
    (inOrder : EveryStep (step mysql) (fun source label _ => InOrder mysql source label)
      (Pool.start poolSize tables) labels)
    (split : changes mysql (Pool.start poolSize tables) labels = front ++ change :: back)
    (committed : acting.statement = .commit) (earlier : acting ∈ front)
    (accepted : (acting.ticket, job) ∈ pool.accepted)
    (theirs : (change.ticket, other) ∈ pool.accepted) (less : change.ticket < acting.ticket)
    (commits : change.statement = .commit) : rivals mysql other job = false := by
  rcases step_of_change split with
    ⟨before, label, rest, source, target, rfl, reached, taken, rfl, single⟩
  rcases traced_run sound reached with ⟨accounted, traced⟩
  rcases traced_run sound ran with ⟨whole, _⟩
  have grown : ∀ entry ∈ source.accepted, entry ∈ pool.accepted := by
    have later : run (step mysql) source (label :: rest) = some pool := by
      rw [run_append, reached, Option.bind_some] at ran
      exact ran
    intro entry listed
    exact ((history_run later).filterMap _).subset listed
  rcases accepted_of_lt accounted (traced.known acting earlier) with ⟨job', known⟩
  obtain rfl := accepted_same whole accepted (grown _ known)
  rcases changes_recorded reached earlier with ⟨index, recorded⟩
  rw [committed] at recorded
  rcases changed_cases mysql source label with none | ⟨same, worker, choice, popped, next, one, rfl,
    busy, ticket⟩
  · rw [none] at single
    cases single
  · rw [one] at single
    cases single
    have held : (source.workers worker).holds = some popped := by
      rw [Worker.holds, busy]
    have own := grown _ (popped_accepted accounted (accounted.held worker popped held).1)
    rw [ticket] at own
    obtain rfl := accepted_same whole theirs own
    have order := inOrder before _ rest source target rfl reached taken popped
      (by rw [committing_of busy commits]; exact List.mem_singleton_self _)
    have fine := List.any_eq_false.mp order _ known
    have done : hasCommitted source acting.ticket = true :=
      List.any_eq_true.mpr ⟨_, recorded, beq_self_eq_true acting.ticket⟩
    have before : popped.ticket < acting.ticket := by omega
    simpa only [before, decide_true, Bool.true_and, done, Bool.and_true, Bool.not_eq_true] using fine

theorem commits_of_rival {job other : DbJob} {statement : Statement} {line : Bytes}
    (rival : rivals mysql other job = true) (timely : Timely other statement (.ok line)) :
    statement = .commit := by
  unfold rivals at rival
  split at rival
  · rename_i command second converted _
    refine timely command line converted ?_ rfl
    cases command with
    | register | login | load | loadInventory => cases rival
    | save | savePosition | saveItem => rfl
  · cases rival

/-- The last submitted save wins in every run in which no save commits after one of
the same columns that was submitted later. -/
theorem last_write_wins (sound : Sound mysql tables)
    (ran : run (step mysql) (Pool.start poolSize tables) labels = some pool)
    (inOrder : EveryStep (step mysql) (fun source label _ => InOrder mysql source label)
      (Pool.start poolSize tables) labels)
    (all : AllSucceeded pool) : LastWins mysql pool := by
  intro ticket job command accepted converted saves lastOne
  rcases traced_run sound ran with ⟨accounted, traced⟩
  have harmless := all_harmless accounted traced all
  rcases acts_of_succeeded accounted traced all accepted with
    ⟨line, early, acting, late, order, own, _, _, acted, timely⟩
  have mine : acting ∈ ofJob ticket (changes mysql (Pool.start poolSize tables) labels) := by
    rw [own]
    exact List.mem_append_right _ List.mem_cons_self
  rcases List.mem_filter.mp mine with ⟨listed, same⟩
  obtain rfl : acting.ticket = ticket := beq_iff_eq.mp same
  have committed : acting.statement = .commit := timely command line converted saves rfl
  rcases List.append_of_mem listed with ⟨front, back, split⟩
  have chained := traced.chained
  rw [split] at chained
  rcases chained_append.mp chained with ⟨middle, opening, starts, closing⟩
  have soundNow : Sound mysql acting.before := by
    rw [starts]
    refine chained_keeps opening sound ?_
    intro before change after same kept
    refine harmless_sound (harmless change ?_) kept
    rw [split, same]
    simp
  let kept : Tables → Prop := fun tables => Sound mysql tables ∧ Written mysql tables command
  have initial : kept acting.after :=
    ⟨harmless_sound (harmless acting listed) soundNow, written_acts converted saves acted⟩
  have final : kept pool.store.tables := by
    refine chained_keeps closing initial ?_
    rintro before change after rfl ⟨soundThere, written⟩
    have whole : changes mysql (Pool.start poolSize tables) labels =
        (front ++ acting :: before) ++ change :: after := by
      rw [split]
      simp
    have there : change ∈ changes mysql (Pool.start poolSize tables) labels := by
      rw [whole]
      simp
    refine ⟨harmless_sound (harmless change there) soundThere, ?_⟩
    rcases harmless change there with unchanged | ⟨other, how, said, theirs, did, when⟩
    · rw [unchanged]
      exact written
    · by_cases again : change.ticket = acting.ticket
      · -- the job's own change once more
        rw [again] at theirs
        obtain rfl := accepted_same accounted accepted theirs
        exact written_acts converted saves did
      · refine written_kept soundThere converted saves written ?_ did
        rcases Nat.lt_or_gt_of_ne again with less | greater
        · cases rival : rivals mysql other job with
          | false => rfl
          | true =>
              have commits := commits_of_rival rival when
              rw [no_rival_after sound ran inOrder whole committed (by simp) accepted theirs less
                commits] at rival
              cases rival
        · exact lastOne change.ticket other theirs greater
  exact final.2

end

def enterAda : DbJob :=
  ⟨⟨7, 1⟩, 2, .savePosition, ascii "SAVE_POSITION",
    [ascii "ada", ascii "mage", ascii "0", ascii "0"], false⟩

def quitAda : DbJob :=
  ⟨⟨7, 1⟩, 3, .savePosition, ascii "SAVE_POSITION",
    [ascii "ada", ascii "mage", ascii "99", ascii "99"], false⟩

/-- A registration, then two workers with a position save each. -/
def bothPopped : List Label :=
  [.submit registerAda, .worker 0 .pop, .worker 0 (.connect (.ok ())),
    .worker 0 (.execute (.goes .asStored)), .worker 0 .push, .worker 0 .signal,
    .submit enterAda, .submit quitAda, .worker 0 .pop, .worker 1 .pop,
    .worker 1 (.connect (.ok ()))]

def saving (index : Nat) : List Label :=
  List.replicate 4 (.worker index (.execute (.goes .asStored))) ++ [.worker index .push]

theorem last_write_wins_in_order :
    ∃ pool, run (step Mysql.binary) (Pool.start 2 Tables.empty)
        (bothPopped ++ saving 0 ++ saving 1) = some pool ∧ LastWins Mysql.binary pool := by
  refine ⟨_, rfl, ?_⟩
  exact last_write_wins (sound_empty Mysql.binary) (rfl : run (step Mysql.binary)
    (Pool.start 2 Tables.empty) (bothPopped ++ saving 0 ++ saving 1) = some _)
    (every_step_of_meets (by decide)) (by unfold AllSucceeded; decide)

theorem none_later {ticket : Nat} {job : DbJob} (last : ∀ entry ∈ pool.accepted, entry.1 ≤ ticket) :
    ∀ later other, (later, other) ∈ pool.accepted → ticket < later →
      rivals mysql other job = false := by
  intro later other listed less
  have bound := last (later, other) listed
  exact absurd less (Nat.not_lt.mpr bound)

/-- The worker with the later save is faster. -/
theorem later_save_overwritten :
    ∃ pool, run (step Mysql.binary) (Pool.start 2 Tables.empty)
        (bothPopped ++ saving 1 ++ saving 0) = some pool ∧
      AllSucceeded pool ∧ ¬ LastWins Mysql.binary pool := by
  refine ⟨_, rfl, ?_, ?_⟩
  · unfold AllSucceeded
    decide
  · intro wins
    have written := wins 2 quitAda _ (by decide) rfl rfl (none_later (by decide))
    rcases written with ⟨row, there, content⟩
    cases there
    revert content
    decide

end DungeonPortfolio.LastWrites
