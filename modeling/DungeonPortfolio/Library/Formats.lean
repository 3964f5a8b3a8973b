import Mathlib.Data.List.Basic

/-!
# Lines of labelled tokens

A format begins with the tokens of its label and goes on with one token for each
field, written behind the tag of the field. A reader that knows all formats finds
the one a line was written in and its fields, if no two formats of the same
number of tokens have compatible labels.
-/

namespace Library.Formats

set_option autoImplicit false

variable {Symbol Kind : Type*}

structure Format (Symbol : Type*) where
  label : List (List Symbol)
  tags : List (List Symbol)

namespace Format

def size (format : Format Symbol) : Nat := format.label.length + format.tags.length

def render (format : Format Symbol) (fields : List (List Symbol)) : List (List Symbol) :=
  format.label ++ List.zipWith (· ++ ·) format.tags fields

/-- The tokens could have been written in this format. -/
def Fits (format : Format Symbol) (tokens : List (List Symbol)) : Prop :=
  tokens.length = format.size ∧ tokens.take format.label.length = format.label

instance [DecidableEq Symbol] (format : Format Symbol) (tokens : List (List Symbol)) :
    Decidable (format.Fits tokens) := inferInstanceAs (Decidable (_ ∧ _))

def fields (format : Format Symbol) (tokens : List (List Symbol)) : List (List Symbol) :=
  List.zipWith (fun tag token => token.drop tag.length) format.tags
    (tokens.drop format.label.length)

/-- No line fits both formats. -/
def Apart (first second : Format Symbol) : Prop :=
  first.size ≠ second.size ∨
    first.label.take second.label.length ≠ second.label.take first.label.length

instance [DecidableEq Symbol] (first second : Format Symbol) : Decidable (Apart first second) :=
  inferInstanceAs (Decidable (_ ∨ _))

variable {format : Format Symbol} {values : List (List Symbol)}

theorem render_length (full : values.length = format.tags.length) :
    (format.render values).length = format.size := by
  rw [render, List.length_append, List.length_zipWith, full, Nat.min_self, size]

theorem fits_render (full : values.length = format.tags.length) :
    format.Fits (format.render values) := by
  refine ⟨render_length full, ?_⟩
  rw [render, List.take_left]

theorem untag {tags values : List (List Symbol)} (full : values.length = tags.length) :
    List.zipWith (fun tag token => token.drop tag.length) tags
      (List.zipWith (· ++ ·) tags values) = values := by
  induction tags generalizing values with
  | nil => exact (List.eq_nil_of_length_eq_zero full).symm
  | cons tag rest ih =>
      cases values with
      | nil => cases full
      | cons value others =>
          rw [List.zipWith_cons_cons, List.zipWith_cons_cons, List.drop_left,
            ih (Nat.succ.inj full)]

theorem fields_render (full : values.length = format.tags.length) :
    format.fields (format.render values) = values := by
  rw [fields, render, List.drop_left, untag full]

theorem not_fits {other : Format Symbol} (apart : Apart format other)
    (full : values.length = format.tags.length) : ¬other.Fits (format.render values) := by
  rintro ⟨length, labelled⟩
  rcases apart with sizes | labels
  · rw [render_length full] at length
    exact sizes length
  · apply labels
    have both : ∀ count, ((format.render values).take count).take format.label.length =
        format.label.take count := by
      intro count
      rw [List.take_take, Nat.min_comm, ← List.take_take, render, List.take_left]
    rw [← both, labelled]

end Format

open Format

variable [DecidableEq Symbol]

/-- Find the format of a line and read its fields. -/
def recover (format : Kind → Format Symbol) (kinds : List Kind) (tokens : List (List Symbol)) :
    Option (Kind × List (List Symbol)) :=
  (kinds.find? fun kind => decide ((format kind).Fits tokens)).map fun kind =>
    (kind, (format kind).fields tokens)

theorem recover_render {format : Kind → Format Symbol} {kinds : List Kind}
    (apart : ∀ first ∈ kinds, ∀ second ∈ kinds, first ≠ second →
      Apart (format first) (format second)) {kind : Kind} (known : kind ∈ kinds)
    {values : List (List Symbol)} (full : values.length = (format kind).tags.length) :
    recover format kinds ((format kind).render values) = some (kind, values) := by
  have found : kinds.find? (fun other => decide ((format other).Fits ((format kind).render values))) =
      some kind := by
    cases search : kinds.find? fun other => decide ((format other).Fits ((format kind).render values))
      with
    | none =>
        have none := List.find?_eq_none.mp search kind known
        exact absurd (decide_eq_true (fits_render full)) none
    | some other =>
        have accepted := List.find?_some search
        have fits := of_decide_eq_true accepted
        by_contra different
        have distinct : kind ≠ other := fun same => different (congrArg some same.symm)
        exact not_fits (apart kind known other (List.mem_of_find?_eq_some search) distinct) full fits
  rw [recover, found, Option.map_some, fields_render full]

end Library.Formats
