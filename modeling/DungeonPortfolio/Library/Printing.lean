import DungeonPortfolio.Library.Framing

/-!
# Rows joined without quoting

A row is printed as a name and a tail, rows are separated by a symbol that tails
do not contain but names may. Whether a list of rows can be read back depends on
what its names hide: a tail and a separator inside a name look like the end of a
row, and a row boundary next to it can then be taken away.
-/

namespace Library.Printing

open Library.Framing

set_option autoImplicit false

section

variable {Symbol : Type*} {separator : Symbol}

theorem cut_cases {first second rest more : List Symbol}
    (same : first ++ separator :: rest = second ++ separator :: more) :
    (first = second ∧ rest = more) ∨
      (∃ between, second = first ++ separator :: between ∧ rest = between ++ separator :: more) ∨
      ∃ between, first = second ++ separator :: between ∧ more = between ++ separator :: rest := by
  rcases List.append_eq_append_iff.mp same with ⟨between, rfl, cut⟩ | ⟨between, rfl, cut⟩
  · cases between with
    | nil => exact Or.inl ⟨(List.append_nil _).symm, (List.cons.inj cut).2⟩
    | cons head between =>
        rcases List.cons.inj cut with ⟨rfl, rest⟩
        exact Or.inr (Or.inl ⟨between, rfl, rest⟩)
  · cases between with
    | nil => exact Or.inl ⟨List.append_nil _, (List.cons.inj cut).2.symm⟩
    | cons head between =>
        rcases List.cons.inj cut with ⟨rfl, rest⟩
        exact Or.inr (Or.inr ⟨between, rfl, rest⟩)

theorem cut_before {front last first rest : List Symbol} (clean : separator ∉ last)
    (same : front ++ last = first ++ separator :: rest) :
    ∃ between, rest = between ++ last ∧ front = first ++ separator :: between := by
  rcases List.append_eq_append_iff.mp same with ⟨between, rfl, cut⟩ | ⟨between, rfl, cut⟩
  · rw [cut] at clean
    exact absurd (List.mem_append_right _ List.mem_cons_self) clean
  · cases between with
    | nil =>
        rw [List.nil_append] at cut
        rw [← cut] at clean
        exact absurd List.mem_cons_self clean
    | cons head between =>
        rcases List.cons.inj cut with ⟨rfl, rest⟩
        exact ⟨between, rest, rfl⟩

theorem cut_first {first second rest more : List Symbol} (clean : separator ∉ first)
    (also : separator ∉ second) (same : first ++ separator :: rest = second ++ separator :: more) :
    first = second ∧ rest = more := by
  rcases cut_cases same with equal | ⟨between, rfl, _⟩ | ⟨between, rfl, _⟩
  · exact equal
  · exact absurd (List.mem_append_right _ List.mem_cons_self) also
  · exact absurd (List.mem_append_right _ List.mem_cons_self) clean

theorem cut_last {first second rest more : List Symbol} (clean : separator ∉ rest)
    (also : separator ∉ more) (same : first ++ separator :: rest = second ++ separator :: more) :
    first = second ∧ rest = more := by
  rcases cut_cases same with equal | ⟨between, _, rfl⟩ | ⟨between, _, rfl⟩
  · exact equal
  · exact absurd (List.mem_append_right _ List.mem_cons_self) clean
  · exact absurd (List.mem_append_right _ List.mem_cons_self) also

end

structure Layout (Row Symbol : Type*) where
  name : Row → List Symbol
  tail : Row → List Symbol
  separator : Symbol
  /-- The symbols of names. -/
  allowed : Symbol → Prop
  /-- What the rest of a row has to satisfy. -/
  typed : Row → Prop
  rename : Row → List Symbol → Row
  clean : ∀ row, separator ∉ tail row
  ends : ∀ {front back first second}, front ++ tail first = back ++ tail second →
    front = back ∧ tail first = tail second
  exact : ∀ {first second}, name first = name second → tail first = tail second → first = second
  allowed_tail : ∀ row, ∀ symbol ∈ tail row, allowed symbol
  allowed_separator : allowed separator
  name_rename : ∀ row name', name (rename row name') = name'
  tail_rename : ∀ row name', tail (rename row name') = tail row
  typed_rename : ∀ row name', typed row → typed (rename row name')

namespace Layout

variable {Row Symbol : Type*} (layout : Layout Row Symbol)

def text (row : Row) : List Symbol := layout.name row ++ layout.tail row

structure Valid (row : Row) : Prop where
  named : layout.name row ≠ []
  allowed : ∀ symbol ∈ layout.name row, layout.allowed symbol
  typed : layout.typed row

def printed (rows : List Row) : List Symbol := joined layout.separator (rows.map layout.text)

def Hides (row : Row) (front back : List Symbol) : Prop :=
  ∃ other, layout.Valid other ∧
    layout.name row = front ++ layout.tail other ++ layout.separator :: back

/-- The end hidden in a name can take the place of the row's own end or of the
end of the row before. -/
def Confusable (rows : List Row) : Prop :=
  ∃ earlier row next later, rows = earlier ++ row :: next :: later ∧
    ((∃ front back, front ≠ [] ∧ layout.Hides row front back) ∨
      ∃ front back, back ≠ [] ∧ layout.Hides next front back)

variable {layout}

theorem printed_cons (row : Row) (rows : List Row) :
    layout.printed (row :: rows) = layout.text row ++ layout.separator :: layout.printed rows := by
  simp [printed, joined]

theorem confusable_cons {row : Row} {rows : List Row} (confusable : layout.Confusable rows) :
    layout.Confusable (row :: rows) := by
  rcases confusable with ⟨earlier, first, next, later, rfl, hides⟩
  exact ⟨row :: earlier, first, next, later, rfl, hides⟩

/-- A row is printed in one way. -/
theorem text_injective {first second : Row} (same : layout.text first = layout.text second) :
    first = second := by
  rcases layout.ends same with ⟨names, tails⟩
  exact layout.exact names tails

theorem hides_of_ahead {rows other : List Row} {front : List Symbol} {last : Row}
    (typed : layout.Valid last) (valid : ∀ row ∈ other, layout.Valid row)
    (counts : rows.length = other.length)
    (ahead : layout.printed rows = front ++ layout.tail last ++
      layout.separator :: layout.printed other) :
    ∃ earlier row later, rows = earlier ++ row :: later ∧
      ∃ front back, back ≠ [] ∧ layout.Hides row front back := by
  induction rows generalizing other front last with
  | nil => cases (List.append_eq_nil_iff.mp ahead.symm).2
  | cons row rest ih =>
      cases other with
      | nil => cases counts
      | cons taken others =>
          have here := valid taken List.mem_cons_self
          have there : ∀ row ∈ others, layout.Valid row := fun row member =>
            valid row (List.mem_cons_of_mem taken member)
          rw [printed_cons, printed_cons, ← List.cons_append, ← List.append_assoc] at ahead
          rcases cut_cases ahead with ⟨same, _⟩ | ⟨between, further, left⟩ | ⟨between, within, _⟩
          · -- both end together: the name taken is behind the hidden end
            have split : layout.name row ++ layout.tail row =
                (front ++ layout.tail last ++ layout.separator :: layout.name taken) ++
                  layout.tail taken := by
              rw [List.append_assoc _ (_ :: _), List.cons_append]
              exact same
            exact ⟨[], row, rest, rfl, front, _, here.named, last, typed, (layout.ends split).1⟩
          · -- still ahead after the row
            have split : (front ++ layout.tail last ++ layout.separator :: layout.name taken) ++
                layout.tail taken = layout.text row ++ layout.separator :: between := by
              rw [List.append_assoc _ (_ :: _), List.cons_append]
              exact further
            rcases cut_before (layout.clean taken) split with ⟨front', rfl, _⟩
            have fewer : rest.length = others.length := Nat.succ.inj counts
            rcases ih here there fewer left with ⟨earlier, hider, later, rfl, hides⟩
            exact ⟨row :: earlier, hider, later, rfl, hides⟩
          · -- the row taken lies within this one
            rcases cut_before (layout.clean row) within with ⟨back, _, named⟩
            rw [List.append_assoc _ (_ :: _), List.cons_append] at named
            exact ⟨[], row, rest, rfl, front, _, List.append_ne_nil_of_right_ne_nil _
              (List.cons_ne_nil _ _), last, typed, named⟩

/-- Rows that are not confusable are the only rows printed so. -/
theorem printed_determines {rows other : List Row} (valid : ∀ row ∈ other, layout.Valid row)
    (clear : ¬ layout.Confusable rows) (counts : rows.length = other.length)
    (same : layout.printed rows = layout.printed other) : rows = other := by
  induction rows generalizing other with
  | nil => exact (List.length_eq_zero_iff.mp counts.symm).symm
  | cons row rest ih =>
      cases other with
      | nil => cases counts
      | cons taken others =>
          have here := valid taken List.mem_cons_self
          have there : ∀ row ∈ others, layout.Valid row := fun row member =>
            valid row (List.mem_cons_of_mem taken member)
          have fewer : rest.length = others.length := Nat.succ.inj counts
          rw [printed_cons, printed_cons] at same
          rcases cut_cases same with ⟨equal, left⟩ | ⟨between, further, left⟩ | ⟨between, within, left⟩
          · rw [text_injective equal, ih there (fun confusable => clear (confusable_cons confusable))
              fewer left]
          · rcases cut_before (layout.clean taken) further with ⟨front, rfl, _⟩
            rcases hides_of_ahead here there fewer left with ⟨earlier, hider, later, rfl, hides⟩
            refine absurd ?_ clear
            cases earlier with
            | nil => exact ⟨[], row, hider, later, rfl, Or.inr hides⟩
            | cons first earlier =>
                rcases List.eq_nil_or_concat (first :: earlier) with none | ⟨before, previous, shape⟩
                · cases none
                · refine ⟨row :: before, previous, hider, later, ?_, Or.inr hides⟩
                  rw [shape]
                  simp
          · rcases cut_before (layout.clean row) within with ⟨back, _, named⟩
            refine absurd ?_ clear
            cases rest with
            | nil =>
                rw [List.length_eq_zero_iff.mp fewer.symm] at left
                cases (List.append_eq_nil_iff.mp left.symm).2
            | cons next later =>
                exact ⟨[], row, next, later, rfl,
                  Or.inl ⟨layout.name taken, back, here.named, taken, here, named⟩⟩

theorem printed_append (first second : List Row) :
    layout.printed (first ++ second) = layout.printed first ++ layout.printed second := by
  rw [printed, List.map_append, joined_append]
  rfl

theorem text_rename (row : Row) (name : List Symbol) :
    layout.text (layout.rename row name) = name ++ layout.tail row := by
  rw [text, layout.name_rename, layout.tail_rename]

theorem valid_rename {row : Row} {name : List Symbol} (typed : layout.typed row) (named : name ≠ [])
    (allowed : ∀ symbol ∈ name, layout.allowed symbol) : layout.Valid (layout.rename row name) where
  named := by
    rw [layout.name_rename]
    exact named
  allowed := by
    rw [layout.name_rename]
    exact allowed
  typed := layout.typed_rename row name typed

theorem printed_exchange {first second row next : Row} (earlier later : List Row)
    (same : layout.printed [first, second] = layout.printed [row, next]) :
    layout.printed (earlier ++ first :: second :: later) =
      layout.printed (earlier ++ row :: next :: later) := by
  have pairs : ∀ one other : Row, one :: other :: later = [one, other] ++ later := fun _ _ => rfl
  rw [pairs first second, pairs row next, printed_append, printed_append, printed_append,
    printed_append, same]

/-- Confusable rows have a double: the row boundary moves to the hidden end. -/
theorem confusable_double {rows : List Row} (valid : ∀ row ∈ rows, layout.Valid row)
    (confusable : layout.Confusable rows) :
    ∃ other, (∀ row ∈ other, layout.Valid row) ∧ other.length = rows.length ∧
      layout.printed other = layout.printed rows ∧ other ≠ rows := by
  rcases confusable with ⟨earlier, row, next, later, rfl, hidden⟩
  have here : layout.Valid row := valid row (by simp)
  have there : layout.Valid next := valid next (by simp)
  have exchange : ∀ first second : Row, layout.Valid first → layout.Valid second →
      layout.printed [first, second] = layout.printed [row, next] →
      ¬ (first = row ∧ second = next) →
      ∃ other, (∀ row ∈ other, layout.Valid row) ∧
        other.length = (earlier ++ row :: next :: later).length ∧
        layout.printed other = layout.printed (earlier ++ row :: next :: later) ∧
        other ≠ earlier ++ row :: next :: later := by
    intro first second one other same apart
    refine ⟨earlier ++ first :: second :: later, ?_, by simp, printed_exchange _ _ same, ?_⟩
    · intro taken member
      simp only [List.mem_append, List.mem_cons] at member valid
      rcases member with before | rfl | rfl | behind
      · exact valid taken (Or.inl before)
      · exact one
      · exact other
      · exact valid taken (Or.inr (Or.inr (Or.inr behind)))
    · intro equal
      have rest := List.append_cancel_left equal
      simp only [List.cons.injEq] at rest
      exact apart ⟨rest.1, rest.2.1⟩
  rcases hidden with ⟨front, back, something, hider, typed, named⟩ |
    ⟨front, back, something, hider, typed, named⟩
  · -- the row ends at the hidden end, the rest of its name begins the next row
    have allowed := here.allowed
    rw [named] at allowed
    simp only [List.mem_append, List.mem_cons] at allowed
    apply exchange (layout.rename hider front)
      (layout.rename next (back ++ layout.tail row ++ layout.separator :: layout.name next))
    · exact valid_rename typed.typed something fun symbol member => allowed symbol (Or.inl (Or.inl member))
    · apply valid_rename there.typed
      · simp
      · intro symbol member
        simp only [List.mem_append, List.mem_cons] at member
        rcases member with (behind | tail) | rfl | name
        · exact allowed symbol (Or.inr (Or.inr behind))
        · exact layout.allowed_tail row symbol tail
        · exact layout.allowed_separator
        · exact there.allowed symbol name
    · simp only [printed_cons, text_rename]
      simp only [text, named, List.append_assoc, List.cons_append]
    · rintro ⟨same, _⟩
      have names := congrArg layout.name same
      rw [layout.name_rename, named] at names
      have lengths := congrArg List.length names
      simp only [List.length_append, List.length_cons] at lengths
      omega
  · -- the row before ends at the hidden end
    have allowed := there.allowed
    rw [named] at allowed
    simp only [List.mem_append, List.mem_cons] at allowed
    apply exchange
      (layout.rename hider (layout.name row ++ layout.tail row ++ layout.separator :: front))
      (layout.rename next back)
    · apply valid_rename typed.typed
      · simp
      · intro symbol member
        simp only [List.mem_append, List.mem_cons] at member
        rcases member with (name | tail) | rfl | before
        · exact here.allowed symbol name
        · exact layout.allowed_tail row symbol tail
        · exact layout.allowed_separator
        · exact allowed symbol (Or.inl (Or.inl before))
    · exact valid_rename there.typed something fun symbol member => allowed symbol (Or.inr (Or.inr member))
    · simp only [printed_cons, text_rename]
      simp only [text, named, List.append_assoc, List.cons_append]
    · rintro ⟨_, same⟩
      have names := congrArg layout.name same
      rw [layout.name_rename, named] at names
      have lengths := congrArg List.length names
      simp only [List.length_append, List.length_cons] at lengths
      omega

/-- A list of rows is the only one printed so exactly when it is not confusable. -/
theorem determined_iff {rows : List Row} (valid : ∀ row ∈ rows, layout.Valid row) :
    (∀ other, (∀ row ∈ other, layout.Valid row) → other.length = rows.length →
        layout.printed other = layout.printed rows → other = rows) ↔
      ¬ layout.Confusable rows := by
  constructor
  · intro determined confusable
    rcases confusable_double valid confusable with ⟨other, typed, counts, same, apart⟩
    exact apart (determined other typed counts same)
  · intro clear other typed counts same
    exact (printed_determines typed clear counts.symm same.symm).symm

end Layout

end Library.Printing
