import DungeonPortfolio.Decimals
import DungeonPortfolio.Library.Words
import DungeonPortfolio.Protocol
import Mathlib.Data.List.Forall2

/-!
# The command grammar

The commands as a table of names and argument forms. `parse_line` accepts a line
exactly if its words are one of them, and what it answers depends on the words
alone.
-/

namespace DungeonPortfolio.Grammar

open DungeonPortfolio.Text DungeonPortfolio.Protocol DungeonPortfolio.Decimals
open Library.Words

set_option autoImplicit false

inductive ArgumentForm where
  | word
  | unsigned
  | signed
  deriving DecidableEq, Repr

/-- Any word, digits, or digits behind an optional minus sign. -/
def ArgumentForm.Admits : ArgumentForm → Bytes → Prop
  | .word, _ => True
  | .unsigned, argument => IsDigits argument
  | .signed, argument => IsSignedDecimal argument

/-- A command with the forms of its arguments and its two error messages. Only a
command with numbers has the second. -/
structure CommandForm where
  name : Bytes
  type : CommandType
  arguments : List ArgumentForm
  usage : String
  complaint : String := ""
  deriving DecidableEq, Repr

def grammar : List CommandForm :=
  [{ name := ascii "REGISTER", type := .register, arguments := [.word, .word]
     usage := "usage: REGISTER <account> <display_name>" },
    { name := ascii "LOGIN", type := .login, arguments := [.word]
      usage := "usage: LOGIN <account>" },
    { name := ascii "SAVE", type := .saveCharacter
      arguments := [.word, .word, .unsigned, .unsigned]
      usage := "usage: SAVE <account> <character> <level> <gold>"
      complaint := "level and gold must be unsigned integers" },
    { name := ascii "LOAD", type := .loadCharacters, arguments := [.word]
      usage := "usage: LOAD <account>" },
    { name := ascii "ENTER", type := .enterWorld, arguments := [.word, .word, .signed, .signed]
      usage := "usage: ENTER <account> <character> <x> <y>"
      complaint := "x and y must be signed integers" },
    { name := ascii "MOVE", type := .move, arguments := [.signed, .signed]
      usage := "usage: MOVE <x> <y>"
      complaint := "x and y must be signed integers" },
    { name := ascii "ATTACK", type := .attack, arguments := [.word, .word]
      usage := "usage: ATTACK <skill> <target>" },
    { name := ascii "SAVE_ITEM", type := .saveInventoryItem
      arguments := [.word, .unsigned, .unsigned, .unsigned]
      usage := "usage: SAVE_ITEM <account> <slot> <item_id> <count>"
      complaint := "slot, item_id, and count must be unsigned integers" },
    { name := ascii "LOAD_INVENTORY", type := .loadInventory, arguments := [.word]
      usage := "usage: LOAD_INVENTORY <account>" },
    { name := ascii "QUIT", type := .quit, arguments := [], usage := "usage: QUIT" }]

def Derives (line : Bytes) (request : Request) : Prop :=
  ∃ command args form, words isSpace line = command :: args ∧ form ∈ grammar ∧
    upper command = form.name ∧ List.Forall₂ ArgumentForm.Admits form.arguments args ∧
      request = ⟨form.type, form.name, args⟩

theorem extract_tokens_words {fuel : Nat} {input : Bytes} (enough : input.length ≤ fuel) :
    extractTokens fuel input = words isSpace input := by
  induction fuel generalizing input with
  | zero =>
      have empty : input = [] := List.eq_nil_of_length_eq_zero (Nat.le_zero.mp enough)
      rw [empty]
      rfl
  | succ fuel ih =>
      have shorter := (List.dropWhile_suffix isSpace (l := input)).length_le
      rw [← words_skip input, extractTokens, extractToken]
      cases unspaced : input.dropWhile isSpace with
      | nil => rfl
      | cons head rest =>
          have plain : isSpace head = false := by
            have stops := List.head_dropWhile_not isSpace (l := input)
              (by rw [unspaced]; exact List.cons_ne_nil head rest)
            simpa [unspaced] using stops
          have token : (head :: rest).takeWhile (fun byte => !isSpace byte) =
              head :: rest.takeWhile fun byte => !isSpace byte := by
            rw [List.takeWhile_cons_of_pos (by rw [plain]; rfl)]
          have left : (head :: rest).dropWhile (fun byte => !isSpace byte) =
              rest.dropWhile fun byte => !isSpace byte := by
            rw [List.dropWhile_cons_of_pos (by rw [plain]; rfl)]
          have remaining := (List.dropWhile_suffix (fun byte => !isSpace byte) (l := rest)).length_le
          rw [unspaced, List.length_cons] at shorter
          rw [words_take (by rw [token]; exact List.cons_ne_nil _ _), token, left]
          simp only
          rw [ih (by omega)]

/-- A carriage return at the end is a separator, so that it does not matter. -/
theorem words_strip (line : Bytes) :
    words isSpace (stripCarriageReturn line) = words isSpace line := by
  rw [stripCarriageReturn]
  by_cases ends : line.getLast? = some carriageReturn
  · rcases List.getLast?_eq_some_iff.mp ends with ⟨front, rfl⟩
    have blank : ∀ byte ∈ [carriageReturn], isSpace byte = true :=
      List.all_eq_true.mp (by decide)
    have none : ∀ byte ∈ ([] : Bytes), isSpace byte = true := nofun
    rw [if_pos ends, List.dropLast_concat]
    exact (words_surrounded none blank front).symm
  · rw [if_neg ends]

theorem tokens_strip (line : Bytes) :
    tokens (stripCarriageReturn line) = words isSpace line := by
  rw [tokens, extract_tokens_words (Nat.le_refl _), words_strip]

theorem parse_line_words {line command : Bytes} {args : List Bytes}
    (cut : words isSpace line = command :: args) :
    parseLine line = parseCommand command args := by
  rw [parseLine, tokens_strip, cut]

theorem parse_line_blank {line : Bytes} (cut : words isSpace line = []) :
    parseLine line = error "empty command" := by
  rw [parseLine, tokens_strip, cut]

theorem unsigned_number_iff (value : Bytes) : isUnsignedNumber value = true ↔ IsDigits value := by
  constructor
  · exact is_digits_of_unsigned
  · intro digits
    simp [isUnsignedNumber, digits.1, List.all_eq_true.mpr digits.2]

theorem signed_number_iff (value : Bytes) :
    isSignedNumber value = true ↔ IsSignedDecimal value := by
  constructor
  · exact signed_number_is_signed_decimal
  · rintro ⟨negative, digits, rfl, some, all⟩
    rcases List.exists_cons_of_ne_nil some with ⟨head, tail, rfl⟩
    have plain := digit_ne_minus (all head List.mem_cons_self)
    have digits := List.all_eq_true.mpr all
    cases negative with
    | true => simp [isSignedNumber, digits]
    | false => simp [isSignedNumber, plain, digits]

def dispatch {Key Value : Type*} [DecidableEq Key] (key : Key) (otherwise : Value) :
    List (Key × Value) → Value
  | [] => otherwise
  | (name, value) :: rest => if key = name then value else dispatch key otherwise rest

theorem dispatch_of_mem {Key Value : Type*} [DecidableEq Key] {table : List (Key × Value)}
    (distinct : (table.map Prod.fst).Nodup) {key : Key} {value : Value}
    (listed : (key, value) ∈ table) (otherwise : Value) :
    dispatch key otherwise table = value := by
  induction table with
  | nil => cases listed
  | cons entry rest ih =>
      rcases entry with ⟨name, first⟩
      rcases List.nodup_cons.mp distinct with ⟨fresh, later⟩
      rw [dispatch]
      rcases List.mem_cons.mp listed with here | there
      · rcases Prod.mk.inj here with ⟨rfl, rfl⟩
        rw [if_pos rfl]
      · have member : key ∈ rest.map Prod.fst := List.mem_map_of_mem (f := Prod.fst) there
        have other : key ≠ name := fun same => fresh (same ▸ member)
        rw [if_neg other, ih later there]

theorem dispatch_of_not_mem {Key Value : Type*} [DecidableEq Key] {table : List (Key × Value)}
    {key : Key} (absent : key ∉ table.map Prod.fst) (otherwise : Value) :
    dispatch key otherwise table = otherwise := by
  induction table with
  | nil => rfl
  | cons entry rest ih =>
      rcases entry with ⟨name, first⟩
      rw [List.map_cons, List.mem_cons, not_or] at absent
      rw [dispatch, if_neg absent.1, ih absent.2]

def ArgumentForm.accepts : ArgumentForm → Bytes → Bool
  | .word, _ => true
  | .unsigned, argument => isUnsignedNumber argument
  | .signed, argument => isSignedNumber argument

/-- What a row of the table says to the arguments behind its command word. -/
def CommandForm.answer (form : CommandForm) (normalized : Bytes) (args : List Bytes) : ParseResult :=
  if args.length = form.arguments.length then
    if (form.arguments.zip args).all fun pair => pair.1.accepts pair.2 then
      ok form.type normalized args
    else error form.complaint
  else error form.usage

/-- The source rejects when one check fails, the table accepts when none does. -/
theorem two_checks {Answer : Type*} (first second : Bool) (reject accept : Answer) :
    (if (!first || !second) = true then reject else accept) =
      if (first && (second && true)) = true then accept else reject := by
  cases first <;> cases second <;> rfl

theorem three_checks {Answer : Type*} (first second third : Bool) (reject accept : Answer) :
    (if (!first || !second || !third) = true then reject else accept) =
      if (first && (second && (third && true))) = true then accept else reject := by
  cases first <;> cases second <;> cases third <;> rfl

/-- The ten branches of `parse_line` are the rows of the table. -/
theorem parse_command_dispatch (command : Bytes) (args : List Bytes) :
    parseCommand command args =
      dispatch (upper command) (.error (ascii "unknown command: " ++ command))
        (grammar.map fun form => (form.name, form.answer (upper command) args)) := by
  rcases args with _ | ⟨a, _ | ⟨b, _ | ⟨c, _ | ⟨d, _ | ⟨e, rest⟩⟩⟩⟩⟩
  · rfl
  · rfl
  · rw [parseCommand]
    simp only [two_checks]
    rfl
  · rfl
  · rw [parseCommand]
    simp only [two_checks, three_checks]
    rfl
  · rfl

theorem accepts_iff (form : ArgumentForm) (argument : Bytes) :
    form.accepts argument = true ↔ form.Admits argument := by
  cases form with
  | word => exact iff_of_true rfl trivial
  | unsigned => exact unsigned_number_iff argument
  | signed => exact signed_number_iff argument

theorem answer_ok_iff (form : CommandForm) (normalized : Bytes) (args : List Bytes)
    (request : Request) :
    form.answer normalized args = .ok request ↔
      List.Forall₂ ArgumentForm.Admits form.arguments args ∧
        request = ⟨form.type, normalized, args⟩ := by
  have checked : ((form.arguments.zip args).all fun pair => pair.1.accepts pair.2) = true ↔
      ∀ {kind argument}, (kind, argument) ∈ form.arguments.zip args → kind.Admits argument := by
    rw [List.all_eq_true]
    constructor
    · intro all kind argument paired
      exact (accepts_iff kind argument).mp (all (kind, argument) paired)
    · intro all pair paired
      exact (accepts_iff pair.1 pair.2).mpr (all paired)
  rw [CommandForm.answer, List.forall₂_iff_zip, ← checked]
  by_cases arity : args.length = form.arguments.length
  · rw [if_pos arity]
    by_cases all : ((form.arguments.zip args).all fun pair => pair.1.accepts pair.2) = true
    · rw [if_pos all]
      simp only [ok, ParseResult.ok.injEq, arity, all, true_and]
      exact eq_comm
    · rw [if_neg all]
      simp [error, all]
  · rw [if_neg arity]
    simp [error, Ne.symm arity]

theorem names_distinct : (grammar.map CommandForm.name).Nodup := by decide

theorem parse_command_of_form {form : CommandForm} (listed : form ∈ grammar) {command : Bytes}
    (name : upper command = form.name) (args : List Bytes) :
    parseCommand command args = form.answer form.name args := by
  rw [parse_command_dispatch, name]
  apply dispatch_of_mem
  · rw [List.map_map]
    exact names_distinct
  · rw [List.mem_map]
    exact ⟨form, listed, rfl⟩

theorem parse_command_unknown {command : Bytes}
    (unknown : ∀ form ∈ grammar, upper command ≠ form.name) (args : List Bytes) :
    parseCommand command args = .error (ascii "unknown command: " ++ command) := by
  rw [parse_command_dispatch]
  apply dispatch_of_not_mem
  rw [List.map_map, List.mem_map]
  rintro ⟨form, listed, same⟩
  exact unknown form listed same.symm

theorem parse_command_iff (command : Bytes) (args : List Bytes) (request : Request) :
    parseCommand command args = .ok request ↔
      ∃ form ∈ grammar, upper command = form.name ∧
        List.Forall₂ ArgumentForm.Admits form.arguments args ∧
          request = ⟨form.type, form.name, args⟩ := by
  constructor
  · intro parsed
    by_cases known : ∃ form ∈ grammar, upper command = form.name
    · rcases known with ⟨form, listed, name⟩
      rw [parse_command_of_form listed name, answer_ok_iff] at parsed
      exact ⟨form, listed, name, parsed⟩
    · rw [parse_command_unknown (fun form listed same => known ⟨form, listed, same⟩)] at parsed
      cases parsed
  · rintro ⟨form, listed, name, admitted⟩
    rw [parse_command_of_form listed name, answer_ok_iff]
    exact admitted

theorem parse_line_iff (line : Bytes) (request : Request) :
    parseLine line = .ok request ↔ Derives line request := by
  cases cut : words isSpace line with
  | nil =>
      rw [parse_line_blank cut]
      constructor
      · nofun
      · rintro ⟨command, args, form, split, _⟩
        rw [cut] at split
        cases split
  | cons command args =>
      rw [parse_line_words cut, parse_command_iff]
      constructor
      · rintro ⟨form, listed, derived⟩
        exact ⟨command, args, form, cut, listed, derived⟩
      · rintro ⟨word, rest, form, split, listed, derived⟩
        rw [cut] at split
        rcases List.cons.inj split with ⟨rfl, rfl⟩
        exact ⟨form, listed, derived⟩

theorem accepts_words {forms : List ArgumentForm} (words : ∀ form ∈ forms, form = .word)
    (args : List Bytes) :
    ((forms.zip args).all fun pair => pair.1.accepts pair.2) = true := by
  rw [List.all_eq_true]
  intro pair paired
  rw [words pair.1 (List.of_mem_zip (a := pair.1) (b := pair.2) paired).1]
  rfl

/-- The message of a row: its usage, or its complaint if the row has numbers. -/
theorem answer_error {form : CommandForm} {normalized : Bytes} {args : List Bytes}
    {message : Bytes} (rejected : form.answer normalized args = .error message) :
    message = ascii form.usage ∨
      (∃ kind ∈ form.arguments, kind ≠ .word) ∧ message = ascii form.complaint := by
  rw [CommandForm.answer] at rejected
  split at rejected
  · split at rejected
    · cases rejected
    · rename_i failed
      refine Or.inr ⟨?_, (ParseResult.error.inj rejected).symm⟩
      by_contra plain
      apply failed
      apply accepts_words
      intro kind listed
      by_contra number
      exact plain ⟨kind, listed, number⟩
  · exact Or.inl (ParseResult.error.inj rejected).symm

theorem parse_line_error {line message : Bytes} (rejected : parseLine line = .error message) :
    message = ascii "empty command" ∨
    (∃ form ∈ grammar, message = ascii form.usage ∨
      (∃ kind ∈ form.arguments, kind ≠ .word) ∧ message = ascii form.complaint) ∨
    ∃ command, IsWord isSpace command ∧ message = ascii "unknown command: " ++ command := by
  cases cut : words isSpace line with
  | nil =>
      rw [parse_line_blank cut] at rejected
      exact Or.inl (ParseResult.error.inj rejected).symm
  | cons command args =>
      rw [parse_line_words cut] at rejected
      right
      by_cases known : ∃ form ∈ grammar, upper command = form.name
      · rcases known with ⟨form, listed, name⟩
        rw [parse_command_of_form listed name] at rejected
        exact Or.inl ⟨form, listed, answer_error rejected⟩
      · rw [parse_command_unknown (fun form listed same => known ⟨form, listed, same⟩)] at rejected
        refine Or.inr ⟨command, ?_, (ParseResult.error.inj rejected).symm⟩
        have member : command ∈ words isSpace line := by
          rw [cut]
          exact List.mem_cons_self
        exact is_word_of_mem member

theorem parse_line_of_words {first second : Bytes}
    (same : words isSpace first = words isSpace second) : parseLine first = parseLine second := by
  rw [parseLine, parseLine, tokens_strip, tokens_strip, same]

theorem parse_command_of_case {first second : Bytes} (same : upper first = upper second)
    {form : CommandForm} (listed : form ∈ grammar) (name : upper first = form.name)
    (args : List Bytes) : parseCommand first args = parseCommand second args := by
  rw [parse_command_of_form listed name, parse_command_of_form listed (same.symm.trans name)]

def printRequest (request : Request) : Bytes :=
  [32].intercalate (request.commandName :: request.args)

theorem upper_name {form : CommandForm} (listed : form ∈ grammar) :
    upper form.name = form.name ∧ IsWord isSpace form.name := by
  have rows : ∀ form ∈ grammar, upper form.name = form.name ∧ IsToken form.name := by decide
  exact rows form listed

theorem words_print {line : Bytes} {request : Request} (derived : Derives line request) :
    words isSpace (printRequest request) = request.commandName :: request.args := by
  rcases derived with ⟨command, args, form, cut, listed, name, _, rfl⟩
  apply words_intercalate (by decide)
  intro word member
  rcases List.mem_cons.mp member with rfl | argument
  · exact (upper_name listed).2
  · have member : word ∈ words isSpace line := by
      rw [cut]
      exact List.mem_cons_of_mem command argument
    exact is_word_of_mem member

theorem derives_print {line : Bytes} {request : Request} (derived : Derives line request) :
    Derives (printRequest request) request := by
  have print := words_print derived
  rcases derived with ⟨command, args, form, cut, listed, name, admitted, rfl⟩
  exact ⟨form.name, args, form, print, listed, (upper_name listed).1, admitted, rfl⟩

/-- Print and parse, with more or other white space, in any case of the word. -/
theorem parse_line_grammar :
    (∀ line request, parseLine line = .ok request ↔ Derives line request) ∧
    (∀ line request, parseLine line = .ok request →
      parseLine (printRequest request) = .ok request ∧
      parseLine (printRequest request ++ [carriageReturn]) = .ok request) ∧
    (∀ before line after, (∀ byte ∈ before ++ after, isSpace byte = true) →
      parseLine (before ++ line ++ after) = parseLine line) ∧
    (∀ front gap other back, gap ≠ [] → other ≠ [] → (∀ byte ∈ gap ++ other, isSpace byte = true) →
      parseLine (front ++ gap ++ back) = parseLine (front ++ other ++ back)) ∧
    ∀ first second command word args, words isSpace first = command :: args →
      words isSpace second = word :: args → upper command = upper word →
        (∀ request, parseLine first = .ok request ↔ parseLine second = .ok request) ∧
        (upper command ∈ grammar.map CommandForm.name → parseLine first = parseLine second) := by
  refine ⟨parse_line_iff, ?_, ?_, ?_, ?_⟩
  · intro line request parsed
    have printed := (parse_line_iff _ _).mpr (derives_print ((parse_line_iff _ _).mp parsed))
    refine ⟨printed, ?_⟩
    have blank : ∀ byte ∈ [carriageReturn], isSpace byte = true :=
      List.all_eq_true.mp (by decide)
    have none : ∀ byte ∈ ([] : Bytes), isSpace byte = true := nofun
    rw [← printed]
    exact parse_line_of_words (words_surrounded none blank (printRequest request))
  · intro before line after blank
    apply parse_line_of_words
    exact words_surrounded (fun byte member => blank byte (List.mem_append_left after member))
      (fun byte member => blank byte (List.mem_append_right before member)) line
  · intro front gap other back some also blank
    apply parse_line_of_words
    rw [words_parted (fun byte member => blank byte (List.mem_append_left other member)) some,
      words_parted (fun byte member => blank byte (List.mem_append_right gap member)) also]
  · intro first second command word args cut split same
    rw [parse_line_words cut, parse_line_words split]
    constructor
    · intro request
      rw [parse_command_iff, parse_command_iff, same]
    · intro named
      rcases List.mem_map.mp named with ⟨form, listed, name⟩
      exact parse_command_of_case same listed name.symm args

theorem parse_line_grammar_move :
    (Derives (ascii "mOve -12 7") ⟨.move, ascii "MOVE", [ascii "-12", ascii "7"]⟩ ∧
      parseLine (printRequest ⟨.move, ascii "MOVE", [ascii "-12", ascii "7"]⟩ ++ [carriageReturn]) =
        .ok ⟨.move, ascii "MOVE", [ascii "-12", ascii "7"]⟩) ∧
    parseLine (ascii " \t" ++ ascii "QUIT now" ++ ascii "  ") = parseLine (ascii "QUIT now") ∧
    parseLine (ascii "LOGIN" ++ ascii " " ++ ascii "a") =
      parseLine (ascii "LOGIN" ++ ascii "\t\t " ++ ascii "a") ∧
    parseLine (ascii "Quit now") = parseLine (ascii "QUIT now") := by
  have grammar := parse_line_grammar
  have moved : parseLine (ascii "mOve -12 7") =
      .ok ⟨.move, ascii "MOVE", [ascii "-12", ascii "7"]⟩ := by decide
  exact ⟨⟨(grammar.1 _ _).mp moved, (grammar.2.1 _ _ moved).2⟩,
    grammar.2.2.1 _ _ _ (List.all_eq_true.mp (by decide)),
    grammar.2.2.2.1 _ _ _ _ (by decide) (by decide) (List.all_eq_true.mp (by decide)),
    (grammar.2.2.2.2 _ _ (ascii "Quit") (ascii "QUIT") [ascii "now"] (by decide) (by decide)
      (by decide)).2 (by decide)⟩

end DungeonPortfolio.Grammar
