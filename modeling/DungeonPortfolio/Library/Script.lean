import Mathlib.Logic.Basic

/-!
# Programs that make calls and may throw

A script is a sequential program whose only way to touch the outside world is a
call. What a call does, and whether it is possible now, is left to a step
function, so one script can be run alone or interleaved with others, and the
same steps can be made to fail.
-/

namespace Library

set_option autoImplicit false

inductive Script (Call : Type) (Answer : Call → Type) (Fault : Type) (Value : Type) where
  | done (value : Value)
  | throws (fault : Fault)
  | call (request : Call) (next : Answer request → Script Call Answer Fault Value)

variable {Call : Type} {Answer : Call → Type} {Fault Value Result : Type}

namespace Script

def bind : Script Call Answer Fault Value → (Value → Script Call Answer Fault Result) →
    Script Call Answer Fault Result
  | .done value, next => next value
  | .throws fault, _ => .throws fault
  | .call request continue_, next => .call request fun answer => (continue_ answer).bind next

instance : Monad (Script Call Answer Fault) where
  pure := .done
  bind := bind

/-- A handler that sees every fault of the body. -/
def rescue : Script Call Answer Fault Value → (Fault → Script Call Answer Fault Value) →
    Script Call Answer Fault Value
  | .done value, _ => .done value
  | .throws fault, handler => handler fault
  | .call request next, handler => .call request fun answer => (next answer).rescue handler

def lift : Except Fault Value → Script Call Answer Fault Value
  | .ok value => .done value
  | .error fault => .throws fault

def request (call : Call) : Script Call Answer Fault (Answer call) := .call call .done

@[simp] theorem pure_eq (value : Value) :
    (pure value : Script Call Answer Fault Value) = .done value := rfl

@[simp] theorem done_bind (value : Value) (next : Value → Script Call Answer Fault Result) :
    ((.done value : Script Call Answer Fault Value) >>= next) = next value := rfl

@[simp] theorem throws_bind (fault : Fault) (next : Value → Script Call Answer Fault Result) :
    ((.throws fault : Script Call Answer Fault Value) >>= next) = .throws fault := rfl

@[simp] theorem call_bind (request : Call) (continue_ : Answer request →
    Script Call Answer Fault Value) (next : Value → Script Call Answer Fault Result) :
    ((.call request continue_ : Script Call Answer Fault Value) >>= next) =
      .call request fun answer => continue_ answer >>= next := rfl

theorem bind_assoc {Last : Type} (script : Script Call Answer Fault Value)
    (first : Value → Script Call Answer Fault Result)
    (second : Result → Script Call Answer Fault Last) :
    (script >>= first) >>= second = script >>= fun value => first value >>= second := by
  induction script with
  | done value => rfl
  | throws fault => rfl
  | call request next ih =>
      simp only [call_bind]
      exact congrArg (Script.call request) (funext ih)

@[simp] theorem lift_ok (value : Value) :
    (lift (.ok value) : Script Call Answer Fault Value) = .done value := rfl

@[simp] theorem lift_error (fault : Fault) :
    (lift (.error fault) : Script Call Answer Fault Value) = .throws fault := rfl

section

variable {World : Type}

/-- The script ends only in results and worlds that satisfy the postcondition. -/
def Holds (calls : (request : Call) → (Answer request → World → Prop) → World → Prop)
    (post : Except Fault Value → World → Prop) : Script Call Answer Fault Value → World → Prop
  | .done value, world => post (.ok value) world
  | .throws fault, world => post (.error fault) world
  | .call request next, world =>
      calls request (fun answer later => (next answer).Holds calls post later) world

variable {calls : (request : Call) → (Answer request → World → Prop) → World → Prop}
  {post other : Except Fault Value → World → Prop}

@[simp] theorem holds_done {value : Value} {world : World} :
    (.done value : Script Call Answer Fault Value).Holds calls post world ↔
      post (.ok value) world := Iff.rfl

@[simp] theorem holds_throws {fault : Fault} {world : World} :
    (.throws fault : Script Call Answer Fault Value).Holds calls post world ↔
      post (.error fault) world := Iff.rfl

def andThen (calls : (request : Call) → (Answer request → World → Prop) → World → Prop)
    (post : Except Fault Result → World → Prop) (next : Value → Script Call Answer Fault Result) :
    Except Fault Value → World → Prop
  | .ok value, world => (next value).Holds calls post world
  | .error fault, world => post (.error fault) world

def orElse (calls : (request : Call) → (Answer request → World → Prop) → World → Prop)
    (post : Except Fault Value → World → Prop)
    (handler : Fault → Script Call Answer Fault Value) : Except Fault Value → World → Prop
  | .ok value, world => post (.ok value) world
  | .error fault, world => (handler fault).Holds calls post world

theorem holds_bind (post : Except Fault Result → World → Prop)
    (script : Script Call Answer Fault Value) (next : Value → Script Call Answer Fault Result) :
    (script >>= next).Holds calls post = script.Holds calls (andThen calls post next) := by
  induction script with
  | done value => rfl
  | throws fault => rfl
  | call request continue_ ih =>
      funext world
      have same : (fun answer later => ((continue_ answer) >>= next).Holds calls post later) =
          fun answer later => (continue_ answer).Holds calls (andThen calls post next) later := by
        funext answer
        exact ih answer
      exact congrArg (fun after => calls request after world) same

theorem holds_rescue (post : Except Fault Value → World → Prop)
    (script : Script Call Answer Fault Value)
    (handler : Fault → Script Call Answer Fault Value) :
    (script.rescue handler).Holds calls post = script.Holds calls (orElse calls post handler) := by
  induction script with
  | done value => rfl
  | throws fault => rfl
  | call request continue_ ih =>
      funext world
      have same : (fun answer later => ((continue_ answer).rescue handler).Holds calls post later) =
          fun answer later => (continue_ answer).Holds calls (orElse calls post handler) later := by
        funext answer
        exact ih answer
      exact congrArg (fun after => calls request after world) same

/-- Weaker conditions after a call are reached by the same calls. -/
def Monotone (calls : (request : Call) → (Answer request → World → Prop) → World → Prop) : Prop :=
  ∀ request (next wider : Answer request → World → Prop) world,
    (∀ answer later, next answer later → wider answer later) →
      calls request next world → calls request wider world

theorem holds_mono (monotone : Monotone calls)
    (weaker : ∀ result world, post result world → other result world)
    {script : Script Call Answer Fault Value} {world : World}
    (holds : script.Holds calls post world) : script.Holds calls other world := by
  induction script generalizing world with
  | done value => exact weaker _ _ holds
  | throws fault => exact weaker _ _ holds
  | call request next ih =>
      apply monotone request _ _ world _ holds
      intro answer later continued
      exact ih answer continued

end

def Returns (allowed : Value → Prop) : Script Call Answer Fault Value → Prop
  | .done value => allowed value
  | .throws _ => True
  | .call _ next => ∀ answer, (next answer).Returns allowed

theorem returns_bind {allowed : Result → Prop} (script : Script Call Answer Fault Value)
    {next : Value → Script Call Answer Fault Result} (last : ∀ value, (next value).Returns allowed) :
    (script >>= next).Returns allowed := by
  induction script with
  | done value => exact last value
  | throws fault => trivial
  | call request continue_ ih =>
      intro answer
      exact ih answer

def ended : Script Call Answer Fault Value → Option (Except Fault Value)
  | .done value => some (.ok value)
  | .throws fault => some (.error fault)
  | .call _ _ => none

def Within : Nat → Script Call Answer Fault Value → Prop
  | _, .done _ => True
  | _, .throws _ => True
  | 0, .call _ _ => False
  | count + 1, .call _ next => ∀ answer, (next answer).Within count

theorem within_more {script : Script Call Answer Fault Value} {count more : Nat}
    (within : script.Within count) (fewer : count ≤ more) : script.Within more := by
  induction script generalizing count more with
  | done value => cases more <;> trivial
  | throws fault => cases more <;> trivial
  | call request next ih =>
      cases count with
      | zero => cases within
      | succ count =>
          cases more with
          | zero => exact absurd fewer (Nat.not_succ_le_zero count)
          | succ more => exact fun answer => ih answer (within answer) (Nat.le_of_succ_le_succ fewer)

theorem within_done (value : Value) (count : Nat) :
    (.done value : Script Call Answer Fault Value).Within count := by
  cases count <;> trivial

theorem within_throws (fault : Fault) (count : Nat) :
    (.throws fault : Script Call Answer Fault Value).Within count := by
  cases count <;> trivial

theorem within_bind {script : Script Call Answer Fault Value}
    {next : Value → Script Call Answer Fault Result} {count more : Nat}
    (first : script.Within count) (rest : ∀ value, (next value).Within more) :
    (script >>= next).Within (count + more) := by
  induction script generalizing count with
  | done value => exact within_more (rest value) (Nat.le_add_left more count)
  | throws fault => exact within_throws fault _
  | call request continue_ ih =>
      cases count with
      | zero => cases first
      | succ count =>
          rw [call_bind, Nat.add_right_comm]
          exact fun answer => ih answer (first answer)

theorem within_rescue {script : Script Call Answer Fault Value}
    {handler : Fault → Script Call Answer Fault Value} {count more : Nat}
    (first : script.Within count) (rest : ∀ fault, (handler fault).Within more) :
    (script.rescue handler).Within (count + more) := by
  induction script generalizing count with
  | done value => exact within_done value _
  | throws fault => exact within_more (rest fault) (Nat.le_add_left more count)
  | call request next ih =>
      cases count with
      | zero => cases first
      | succ count =>
          rw [Nat.add_right_comm]
          exact fun answer => ih answer (first answer)

theorem within_lift (result : Except Fault Value) (count : Nat) :
    (lift result : Script Call Answer Fault Value).Within count := by
  cases result with
  | ok value => exact within_done value count
  | error fault => exact within_throws fault count

theorem holds_silent {World : Type}
    {calls : (request : Call) → (Answer request → World → Prop) → World → Prop}
    {post : Except Fault Value → World → Prop} {script : Script Call Answer Fault Value}
    {world : World} (silent : script.Within 0) (ends : ∀ result, post result world) :
    script.Holds calls post world := by
  cases script with
  | done value => exact ends (.ok value)
  | throws fault => exact ends (.error fault)
  | call request next => cases silent

variable {State Choice : Type}

/-- Run to the end with one choice of the environment for each call; `none` when a
call is not possible. -/
def run (perform : State → (request : Call) → Choice → Option (Answer request × State)) :
    Script Call Answer Fault Value → State → (Nat → Choice) → Option (Except Fault Value × State)
  | .done value, state, _ => some (.ok value, state)
  | .throws fault, state, _ => some (.error fault, state)
  | .call request next, state, choices =>
      match perform state request (choices 0) with
      | none => none
      | some (answer, later) => (next answer).run perform later fun index => choices (index + 1)

variable {perform : State → (request : Call) → Choice → Option (Answer request × State)}

@[simp] theorem run_done (value : Value) (state : State) (choices : Nat → Choice) :
    run perform (.done value : Script Call Answer Fault Value) state choices =
      some (.ok value, state) := rfl

@[simp] theorem run_throws (fault : Fault) (state : State) (choices : Nat → Choice) :
    run perform (.throws fault : Script Call Answer Fault Value) state choices =
      some (.error fault, state) := rfl

theorem run_call {request : Call} {next : Answer request → Script Call Answer Fault Value}
    {state later : State} {choices : Nat → Choice} {answer : Answer request}
    (performed : perform state request (choices 0) = some (answer, later)) :
    run perform (.call request next) state choices =
      run perform (next answer) later fun index => choices (index + 1) := by
  simp only [run, performed]

end Script

end Library
