import DungeonPortfolio.World

/-!
# The database dispatcher as the event loop sees it

`BlockingQueue` and `DbDispatcher` of the headers and of `src/database.cpp`
without the SQL: jobs in the queue, jobs in the hands of workers, completions
and the eventfd counter. A worker's push of a completion and its write to the
eventfd are two steps.
-/

namespace DungeonPortfolio.Dispatcher

open DungeonPortfolio.Text DungeonPortfolio.World

set_option autoImplicit false

inductive DbOperation where
  | registerPlayer
  | loginPlayer
  | saveCharacter
  | loadCharacters
  | saveInventoryItem
  | loadInventory
  | savePosition
  deriving DecidableEq, Repr

structure DbJob where
  client : SessionRef
  requestId : Nat
  operation : DbOperation
  commandName : Bytes
  args : List Bytes
  notifyClient : Bool
  deriving DecidableEq, Repr

structure DbCompletion where
  client : SessionRef
  requestId : Nat
  ok : Bool
  line : Bytes
  notifyClient : Bool
  deriving DecidableEq, Repr

/-- `base_completion` and `error_completion` with the outcome filled in: every
other field is the job's. -/
def completionOf (job : DbJob) (ok : Bool) (line : Bytes) : DbCompletion :=
  ⟨job.client, job.requestId, ok, line, job.notifyClient⟩

structure BlockingQueue (Item : Type) where
  items : List Item
  closed : Bool

def BlockingQueue.push {Item : Type} (queue : BlockingQueue Item) (item : Item) :
    BlockingQueue Item :=
  if queue.closed then queue else { queue with items := queue.items ++ [item] }

/-- `pop`: `none` while it waits, `some none` where it returns false. -/
def BlockingQueue.pop {Item : Type} (queue : BlockingQueue Item) :
    Option (Option (Item × BlockingQueue Item)) :=
  match queue.items with
  | [] => if queue.closed then some none else none
  | item :: rest => some (some (item, { queue with items := rest }))

def BlockingQueue.close {Item : Type} (queue : BlockingQueue Item) : BlockingQueue Item :=
  { queue with closed := true }

structure DbDispatcher where
  poolSize : Nat
  jobs : BlockingQueue DbJob
  /-- Popped by a worker, completion not pushed yet. -/
  held : List DbJob
  completions : List DbCompletion
  /-- Workers between the push of a completion and the write to the eventfd. -/
  unsignalled : Nat
  eventCount : Nat

namespace DbDispatcher

def start (poolSize : Nat) : DbDispatcher := ⟨poolSize, ⟨[], false⟩, [], [], 0, 0⟩

def submit (database : DbDispatcher) (job : DbJob) : DbDispatcher :=
  { database with jobs := database.jobs.push job }

/-- The read loop on the non-blocking eventfd empties the counter. -/
def drainEvents (database : DbDispatcher) : DbDispatcher := { database with eventCount := 0 }

def take (database : DbDispatcher) : Option DbDispatcher :=
  match database.jobs.items with
  | [] => none
  | job :: rest =>
      if database.held.length + database.unsignalled < database.poolSize then
        some { database with
          jobs := { database.jobs with items := rest }
          held := database.held ++ [job] }
      else none

def finish (database : DbDispatcher) (index : Nat) (ok : Bool) (line : Bytes) :
    Option DbDispatcher :=
  match database.held[index]? with
  | none => none
  | some job => some { database with
      held := database.held.eraseIdx index
      completions := database.completions ++ [completionOf job ok line]
      unsignalled := database.unsignalled + 1 }

def signal (database : DbDispatcher) : Option DbDispatcher :=
  if database.unsignalled = 0 then none
  else some { database with
    unsignalled := database.unsignalled - 1
    eventCount := database.eventCount + 1 }

end DbDispatcher

end DungeonPortfolio.Dispatcher
