import Mathlib.Data.List.TakeWhile

/-!
# Words between separators

The words of a text are the non-empty pieces between its separators. More
separators where there is one, or at either end, change nothing; a reader that
skips separators and takes the symbols up to the next one finds the words in
turn.
-/

namespace Library.Words

set_option autoImplicit false

variable {Symbol : Type*} (separates : Symbol → Bool)

def words (text : List Symbol) : List (List Symbol) :=
  (text.splitOnP separates).filter fun piece => !piece.isEmpty

def IsWord (word : List Symbol) : Prop :=
  word ≠ [] ∧ ∀ symbol ∈ word, separates symbol = false

variable {separates}

@[simp] theorem words_nil : words separates [] = [] := rfl

theorem words_word {word : List Symbol} (isWord : IsWord separates word) :
    words separates word = [word] := by
  rw [words, List.splitOnP_eq_singleton isWord.2]
  cases word with
  | nil => exact absurd rfl isWord.1
  | cons first rest => rfl

theorem words_append {symbol : Symbol} (separator : separates symbol = true)
    (front back : List Symbol) :
    words separates (front ++ symbol :: back) = words separates front ++ words separates back := by
  rw [words, List.splitOnP_append_cons front back separator, List.filter_append]
  rfl

theorem words_separator {symbol : Symbol} (separator : separates symbol = true)
    (back : List Symbol) : words separates (symbol :: back) = words separates back :=
  words_append separator [] back

theorem words_gap {gap : List Symbol} (blank : ∀ symbol ∈ gap, separates symbol = true)
    (back : List Symbol) : words separates (gap ++ back) = words separates back := by
  induction gap with
  | nil => rfl
  | cons symbol rest ih =>
      rw [List.cons_append, words_separator (blank symbol List.mem_cons_self)]
      exact ih fun other member => blank other (List.mem_cons_of_mem symbol member)

/-- A gap of any length parts the words before it from those behind. -/
theorem words_parted {gap : List Symbol} (blank : ∀ symbol ∈ gap, separates symbol = true)
    (some : gap ≠ []) (front back : List Symbol) :
    words separates (front ++ gap ++ back) = words separates front ++ words separates back := by
  cases gap with
  | nil => exact absurd rfl some
  | cons symbol rest =>
      have later : ∀ other ∈ rest, separates other = true := fun other member =>
        blank other (List.mem_cons_of_mem symbol member)
      rw [List.append_assoc, List.cons_append, words_append (blank symbol List.mem_cons_self),
        words_gap later]

theorem words_surrounded {before after : List Symbol}
    (left : ∀ symbol ∈ before, separates symbol = true)
    (right : ∀ symbol ∈ after, separates symbol = true) (text : List Symbol) :
    words separates (before ++ text ++ after) = words separates text := by
  rw [List.append_assoc, words_gap left]
  cases after with
  | nil => rw [List.append_nil]
  | cons symbol rest =>
      have later : ∀ other ∈ rest, separates other = true := fun other member =>
        right other (List.mem_cons_of_mem symbol member)
      have blank := words_gap later []
      rw [List.append_nil, words_nil] at blank
      rw [words_append (right symbol List.mem_cons_self), blank, List.append_nil]

theorem is_word_of_mem {text word : List Symbol} (listed : word ∈ words separates text) :
    IsWord separates word := by
  rcases List.mem_filter.mp listed with ⟨piece, some⟩
  have nonempty : word ≠ [] := by
    rintro rfl
    cases some
  refine ⟨nonempty, ?_⟩
  clear some nonempty listed
  induction text generalizing word with
  | nil =>
      rw [List.splitOnP_nil, List.mem_singleton] at piece
      rw [piece]
      nofun
  | cons symbol rest ih =>
      rw [List.splitOnP_cons_eq_if_modifyHead] at piece
      by_cases separator : separates symbol = true
      · rw [if_pos separator] at piece
        rcases List.mem_cons.mp piece with rfl | later
        · nofun
        · exact ih later
      · rw [if_neg separator] at piece
        rcases List.exists_cons_of_ne_nil (List.splitOnP_ne_nil separates rest) with
          ⟨first, others, split⟩
        rw [split, List.modifyHead_cons] at piece
        rw [split] at ih
        rcases List.mem_cons.mp piece with rfl | later
        · have plain := ih List.mem_cons_self
          intro other member
          rcases List.mem_cons.mp member with rfl | inside
          · exact Bool.eq_false_iff.mpr separator
          · exact plain other inside
        · exact ih (List.mem_cons_of_mem first later)

theorem words_intercalate {separator : Symbol} (separating : separates separator = true)
    {texts : List (List Symbol)} (all : ∀ word ∈ texts, IsWord separates word) :
    words separates ([separator].intercalate texts) = texts := by
  induction texts with
  | nil => rfl
  | cons word rest ih =>
      have here := words_word (all word List.mem_cons_self)
      have later := ih fun other member => all other (List.mem_cons_of_mem word member)
      cases rest with
      | nil =>
          rw [List.intercalate_singleton]
          exact here
      | cons next others =>
          rw [List.intercalate_cons_cons, List.append_assoc, List.singleton_append,
            words_append separating, here, later]
          rfl

theorem words_skip (text : List Symbol) :
    words separates (text.dropWhile separates) = words separates text := by
  have blank : ∀ symbol ∈ text.takeWhile separates, separates symbol = true := fun symbol member =>
    List.mem_takeWhile_imp member
  have whole := words_gap blank (text.dropWhile separates)
  rw [List.takeWhile_append_dropWhile] at whole
  exact whole.symm

/-- The symbols up to the next separator are the first word. -/
theorem words_take {text : List Symbol}
    (starts : text.takeWhile (fun symbol => !separates symbol) ≠ []) :
    words separates text = text.takeWhile (fun symbol => !separates symbol) ::
      words separates (text.dropWhile fun symbol => !separates symbol) := by
  have first : IsWord separates (text.takeWhile fun symbol => !separates symbol) := by
    refine ⟨starts, ?_⟩
    intro symbol member
    simpa using List.mem_takeWhile_imp member
  have whole := List.takeWhile_append_dropWhile (p := fun symbol => !separates symbol) (l := text)
  cases rest : text.dropWhile (fun symbol => !separates symbol) with
  | nil =>
      rw [rest, List.append_nil] at whole
      rw [words_nil, ← words_word first, whole]
  | cons symbol others =>
      have separator : separates symbol = true := by
        have stops := List.head_dropWhile_not (fun symbol => !separates symbol) (l := text)
          (by rw [rest]; exact List.cons_ne_nil symbol others)
        simpa [rest] using stops
      rw [rest] at whole
      rw [words_separator separator, ← List.singleton_append, ← words_word first,
        ← words_append separator, whole]

end Library.Words
