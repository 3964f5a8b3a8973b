import Mathlib.Data.List.Basic
import Mathlib.Logic.Function.Basic

/-!
# Views updated by addressed messages

Every receiver keeps a view that only its own messages change. Folding a list of
messages over all views amounts, for one receiver, to folding the messages
addressed to it.
-/

namespace Library.Mailbox

set_option autoImplicit false

variable {Receiver Message View : Type*} [DecidableEq Receiver]

def observe (receiver : Message → Receiver) (apply : View → Message → View)
    (views : Receiver → View) (message : Message) : Receiver → View :=
  Function.update views (receiver message) (apply (views (receiver message)) message)

def observeAll (receiver : Message → Receiver) (apply : View → Message → View)
    (views : Receiver → View) (messages : List Message) : Receiver → View :=
  messages.foldl (observe receiver apply) views

theorem observe_all_append (receiver : Message → Receiver) (apply : View → Message → View)
    (views : Receiver → View) (first second : List Message) :
    observeAll receiver apply views (first ++ second) =
      observeAll receiver apply (observeAll receiver apply views first) second :=
  List.foldl_append

theorem observe_all_apply (receiver : Message → Receiver) (apply : View → Message → View)
    (views : Receiver → View) (messages : List Message) (who : Receiver) :
    observeAll receiver apply views messages who =
      (messages.filter fun message => decide (receiver message = who)).foldl apply (views who) := by
  induction messages generalizing views with
  | nil => rfl
  | cons message rest ih =>
      have tail := ih (observe receiver apply views message)
      simp only [observeAll, List.foldl_cons] at tail ⊢
      rw [tail]
      by_cases addressed : receiver message = who
      · subst who
        simp [observe]
      · simp [observe, addressed, Function.update_of_ne (Ne.symm addressed)]

end Library.Mailbox
