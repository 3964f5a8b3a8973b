import DungeonPortfolio.Text

/-!
# The line protocol

`parse_line` of `src/protocol.cpp`: the stream tokenizer, the number checks and
the ten command branches in the order of the source.
-/

namespace DungeonPortfolio.Protocol

open DungeonPortfolio.Text

set_option autoImplicit false

inductive CommandType where
  | register
  | login
  | saveCharacter
  | loadCharacters
  | enterWorld
  | move
  | attack
  | saveInventoryItem
  | loadInventory
  | quit
  | unknown
  deriving DecidableEq, Repr

structure Request where
  type : CommandType
  commandName : Bytes
  args : List Bytes
  deriving DecidableEq, Repr

inductive ParseResult where
  | ok (request : Request)
  | error (message : Bytes)
  deriving DecidableEq, Repr

def upper (value : Bytes) : Bytes := value.map toUpper

def isUnsignedNumber (value : Bytes) : Bool := !value.isEmpty && value.all isDigit

def isSignedNumber (value : Bytes) : Bool :=
  if value.isEmpty then false
  else
    let start := if value.head? = some 45 then 1 else 0
    decide (start < value.length) && (value.drop start).all isDigit

/-- `input >> token`: skip white space, take the bytes before the next white
space. The token is empty exactly when the extraction fails. -/
def extractToken (input : Bytes) : Bytes × Bytes :=
  let unspaced := input.dropWhile isSpace
  (unspaced.takeWhile fun byte => !isSpace byte, unspaced.dropWhile fun byte => !isSpace byte)

/-- `while (input >> token)`. Every extraction consumes a byte, so the length of
the input is enough fuel. -/
def extractTokens : Nat → Bytes → List Bytes
  | 0, _ => []
  | fuel + 1, input =>
      match extractToken input with
      | ([], _) => []
      | (token, rest) => token :: extractTokens fuel rest

def tokens (line : Bytes) : List Bytes := extractTokens line.length line

def stripCarriageReturn (line : Bytes) : Bytes :=
  if line.getLast? = some carriageReturn then line.dropLast else line

def ok (type : CommandType) (commandName : Bytes) (args : List Bytes) : ParseResult :=
  .ok ⟨type, commandName, args⟩

def error (message : String) : ParseResult := .error (ascii message)

/-- The branches of `parse_line` after the command word, one per command. -/
def parseCommand (command : Bytes) (args : List Bytes) : ParseResult :=
  let normalized := upper command
  if normalized = ascii "REGISTER" then
    match args with
    | [_, _] => ok .register normalized args
    | _ => error "usage: REGISTER <account> <display_name>"
  else if normalized = ascii "LOGIN" then
    match args with
    | [_] => ok .login normalized args
    | _ => error "usage: LOGIN <account>"
  else if normalized = ascii "SAVE" then
    match args with
    | [_, _, level, gold] =>
        if !isUnsignedNumber level || !isUnsignedNumber gold then
          error "level and gold must be unsigned integers"
        else ok .saveCharacter normalized args
    | _ => error "usage: SAVE <account> <character> <level> <gold>"
  else if normalized = ascii "LOAD" then
    match args with
    | [_] => ok .loadCharacters normalized args
    | _ => error "usage: LOAD <account>"
  else if normalized = ascii "ENTER" then
    match args with
    | [_, _, x, y] =>
        if !isSignedNumber x || !isSignedNumber y then error "x and y must be signed integers"
        else ok .enterWorld normalized args
    | _ => error "usage: ENTER <account> <character> <x> <y>"
  else if normalized = ascii "MOVE" then
    match args with
    | [x, y] =>
        if !isSignedNumber x || !isSignedNumber y then error "x and y must be signed integers"
        else ok .move normalized args
    | _ => error "usage: MOVE <x> <y>"
  else if normalized = ascii "ATTACK" then
    match args with
    | [_, _] => ok .attack normalized args
    | _ => error "usage: ATTACK <skill> <target>"
  else if normalized = ascii "SAVE_ITEM" then
    match args with
    | [_, slot, itemId, count] =>
        if !isUnsignedNumber slot || !isUnsignedNumber itemId || !isUnsignedNumber count then
          error "slot, item_id, and count must be unsigned integers"
        else ok .saveInventoryItem normalized args
    | _ => error "usage: SAVE_ITEM <account> <slot> <item_id> <count>"
  else if normalized = ascii "LOAD_INVENTORY" then
    match args with
    | [_] => ok .loadInventory normalized args
    | _ => error "usage: LOAD_INVENTORY <account>"
  else if normalized = ascii "QUIT" then
    match args with
    | [] => ok .quit normalized []
    | _ => error "usage: QUIT"
  else .error (ascii "unknown command: " ++ command)

def parseLine (originalLine : Bytes) : ParseResult :=
  match tokens (stripCarriageReturn originalLine) with
  | [] => error "empty command"
  | command :: args => parseCommand command args

/-- The arguments `parse_line` lets through, command by command. -/
def Request.Accepted (request : Request) : Prop :=
  match request.type with
  | .register | .attack => ∃ first second, request.args = [first, second]
  | .login | .loadCharacters | .loadInventory => ∃ account, request.args = [account]
  | .saveCharacter => ∃ account character level gold,
      request.args = [account, character, level, gold] ∧
        isUnsignedNumber level = true ∧ isUnsignedNumber gold = true
  | .enterWorld => ∃ account character x y, request.args = [account, character, x, y] ∧
      isSignedNumber x = true ∧ isSignedNumber y = true
  | .move => ∃ x y, request.args = [x, y] ∧ isSignedNumber x = true ∧ isSignedNumber y = true
  | .saveInventoryItem => ∃ account slot itemId count,
      request.args = [account, slot, itemId, count] ∧ isUnsignedNumber slot = true ∧
        isUnsignedNumber itemId = true ∧ isUnsignedNumber count = true
  | .quit => request.args = []
  | .unknown => False

/-- Without white space and not empty, as the tokenizer cuts them. -/
def IsToken (token : Bytes) : Prop := token ≠ [] ∧ ∀ byte ∈ token, isSpace byte = false

theorem plain_iff_all (text : Bytes) :
    (text.all fun byte => !isSpace byte) = true ↔ ∀ byte ∈ text, isSpace byte = false := by
  simp only [List.all_eq_true, Bool.not_eq_true']

/-- Decided byte by byte of the token, not over all bytes there are. -/
instance (token : Bytes) : Decidable (IsToken token) :=
  decidable_of_iff (token ≠ [] ∧ (token.all fun byte => !isSpace byte) = true)
    (and_congr_right fun _ => plain_iff_all token)

theorem extract_token_is_token {input token rest : Bytes}
    (extracted : extractToken input = (token, rest)) (nonempty : token ≠ []) : IsToken token := by
  refine ⟨nonempty, ?_⟩
  intro byte member
  have taken : token = (input.dropWhile isSpace).takeWhile fun byte => !isSpace byte :=
    (congrArg Prod.fst extracted).symm
  rw [taken] at member
  simpa using List.mem_takeWhile_imp member

theorem extract_tokens_are_tokens (fuel : Nat) (input : Bytes) :
    ∀ token ∈ extractTokens fuel input, IsToken token := by
  induction fuel generalizing input with
  | zero => simp [extractTokens]
  | succ fuel ih =>
      intro token member
      simp only [extractTokens] at member
      split at member
      · simp at member
      · rename_i head rest nonempty extracted
        rcases List.mem_cons.mp member with rfl | later
        · exact extract_token_is_token extracted nonempty
        · exact ih rest token later

theorem checked_ok {bad : Bool} {message : Bytes} {accepted request : Request}
    (parsed : (if bad = true then ParseResult.error message else .ok accepted) = .ok request) :
    bad = false ∧ request = accepted := by
  cases bad with
  | true => cases parsed
  | false =>
      cases parsed
      exact ⟨rfl, rfl⟩

theorem parse_command_accepted {command : Bytes} {args : List Bytes} {request : Request}
    (parsed : parseCommand command args = .ok request) :
    request.Accepted ∧ request.args = args ∧ request.commandName = upper command := by
  unfold parseCommand ok error at parsed
  simp only at parsed
  -- one case for each command, in the order of the branches
  split at parsed
  · split at parsed
    · cases parsed
      exact ⟨⟨_, _, rfl⟩, rfl, rfl⟩
    · cases parsed
  split at parsed
  · split at parsed
    · cases parsed
      exact ⟨⟨_, rfl⟩, rfl, rfl⟩
    · cases parsed
  split at parsed
  · split at parsed
    · rcases checked_ok parsed with ⟨good, rfl⟩
      simp only [Bool.or_eq_false_iff, Bool.not_eq_false'] at good
      exact ⟨⟨_, _, _, _, rfl, good.1, good.2⟩, rfl, rfl⟩
    · cases parsed
  split at parsed
  · split at parsed
    · cases parsed
      exact ⟨⟨_, rfl⟩, rfl, rfl⟩
    · cases parsed
  split at parsed
  · split at parsed
    · rcases checked_ok parsed with ⟨good, rfl⟩
      simp only [Bool.or_eq_false_iff, Bool.not_eq_false'] at good
      exact ⟨⟨_, _, _, _, rfl, good.1, good.2⟩, rfl, rfl⟩
    · cases parsed
  split at parsed
  · split at parsed
    · rcases checked_ok parsed with ⟨good, rfl⟩
      simp only [Bool.or_eq_false_iff, Bool.not_eq_false'] at good
      exact ⟨⟨_, _, rfl, good.1, good.2⟩, rfl, rfl⟩
    · cases parsed
  split at parsed
  · split at parsed
    · cases parsed
      exact ⟨⟨_, _, rfl⟩, rfl, rfl⟩
    · cases parsed
  split at parsed
  · split at parsed
    · rcases checked_ok parsed with ⟨good, rfl⟩
      simp only [Bool.or_eq_false_iff, Bool.not_eq_false'] at good
      exact ⟨⟨_, _, _, _, rfl, good.1.1, good.1.2, good.2⟩, rfl, rfl⟩
    · cases parsed
  split at parsed
  · split at parsed
    · cases parsed
      exact ⟨⟨_, rfl⟩, rfl, rfl⟩
    · cases parsed
  split at parsed
  · split at parsed
    · cases parsed
      exact ⟨rfl, rfl, rfl⟩
    · cases parsed
  cases parsed

theorem parse_line_accepted {line : Bytes} {request : Request}
    (parsed : parseLine line = .ok request) :
    request.Accepted ∧ ∀ argument ∈ request.args, IsToken argument := by
  unfold parseLine at parsed
  split at parsed
  · cases parsed
  · rename_i command args cut
    obtain ⟨accepted, sameArgs, _⟩ := parse_command_accepted parsed
    refine ⟨accepted, ?_⟩
    intro argument member
    rw [sameArgs] at member
    have cutArgument : argument ∈ tokens (stripCarriageReturn line) := by
      rw [cut]
      exact List.mem_cons_of_mem _ member
    exact extract_tokens_are_tokens _ _ argument cutArgument

theorem signed_number_is_signed_decimal {value : Bytes} (signed : isSignedNumber value = true) :
    IsSignedDecimal value := by
  cases value with
  | nil => cases signed
  | cons head tail =>
      simp only [isSignedNumber, List.isEmpty_cons, Bool.false_eq_true, if_false, List.head?_cons,
        Option.some.injEq, Bool.and_eq_true, decide_eq_true_eq, List.all_eq_true] at signed
      by_cases minus : head = 45
      · subst head
        refine ⟨true, tail, rfl, ?_, ?_⟩
        · rintro rfl
          simp at signed
        · simpa using signed.2
      · refine ⟨false, head :: tail, rfl, List.cons_ne_nil _ _, ?_⟩
        simpa [minus] using signed.2

example : parseLine (ascii "move -12 7\r") =
    .ok ⟨.move, ascii "MOVE", [ascii "-12", ascii "7"]⟩ := by decide

end DungeonPortfolio.Protocol
