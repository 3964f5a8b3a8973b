import DungeonPortfolio.Grammar
import DungeonPortfolio.Library.Formats
import DungeonPortfolio.Library.Framing
import DungeonPortfolio.Server

/-!
# The formats of the server's lines

World events, parse errors and acknowledgements as labelled tokens with one space
between them, and a client that reads a line back. Nothing is escaped on the way,
so all depends on the fields being single words.
-/

namespace DungeonPortfolio.WireFormat

open DungeonPortfolio.Decimals DungeonPortfolio.Grammar DungeonPortfolio.Protocol
open DungeonPortfolio.Server DungeonPortfolio.Text DungeonPortfolio.World
open Library.Formats Library.Framing

set_option autoImplicit false

/-- A fixed error is a kind of its own. -/
inductive Kind where
  | worldEntered
  | worldMoved
  | worldAttack
  | evtEnter
  | evtSnapshot
  | evtMove
  | evtDespawn
  | evtAttack
  | pending
  | unknownCommand
  | fixedError (message : Bytes)
  deriving DecidableEq, Repr

def format : Kind → Format UInt8
  | .worldEntered => ⟨[ascii "WORLD", ascii "ENTERED"], [[], ascii "x=", ascii "y=", ascii "sector="]⟩
  | .worldMoved => ⟨[ascii "WORLD", ascii "MOVED"], [[], ascii "x=", ascii "y=", ascii "sector="]⟩
  | .worldAttack => ⟨[ascii "WORLD", ascii "ATTACK"], [ascii "skill=", ascii "target="]⟩
  | .evtEnter => ⟨[ascii "EVT", ascii "ENTER"],
      [[], ascii "account=", ascii "x=", ascii "y=", ascii "sector="]⟩
  | .evtSnapshot => ⟨[ascii "EVT", ascii "SNAPSHOT"],
      [[], ascii "account=", ascii "x=", ascii "y=", ascii "sector="]⟩
  | .evtMove => ⟨[ascii "EVT", ascii "MOVE"], [[], ascii "x=", ascii "y=", ascii "sector="]⟩
  | .evtDespawn => ⟨[ascii "EVT", ascii "DESPAWN"], [[], ascii "reason=", ascii "sector="]⟩
  | .evtAttack => ⟨[ascii "EVT", ascii "ATTACK"],
      [ascii "attacker=", ascii "skill=", ascii "target=", ascii "x=", ascii "y="]⟩
  | .pending => ⟨[ascii "PENDING"], [[], []]⟩
  | .unknownCommand => ⟨[ascii "ERR", ascii "unknown", ascii "command:"], [[]]⟩
  | .fixedError message => ⟨ascii "ERR" :: message.splitOn space, []⟩

/-- The messages without a part of the client's. -/
def fixedMessages : List Bytes :=
  ascii "empty command" :: ascii "unsupported command" :: ascii "line too long" ::
    ascii "not in world; use ENTER first" ::
    (grammar.map fun form => ascii form.usage) ++
    (grammar.filter fun form => form.arguments.any fun kind => kind ≠ .word).map fun form =>
      ascii form.complaint

def kinds : List Kind :=
  [.worldEntered, .worldMoved, .worldAttack, .evtEnter, .evtSnapshot, .evtMove, .evtDespawn,
    .evtAttack, .pending, .unknownCommand] ++ fixedMessages.map .fixedError

inductive Content where
  | worldEntered (character : Bytes) (x y : Int32) (sector : SectorCoord)
  | worldMoved (character : Bytes) (x y : Int32) (sector : SectorCoord)
  | worldAttack (skill target : Bytes)
  | evtEnter (character account : Bytes) (x y : Int32) (sector : SectorCoord)
  | evtSnapshot (character account : Bytes) (x y : Int32) (sector : SectorCoord)
  | evtMove (character : Bytes) (x y : Int32) (sector : SectorCoord)
  | evtDespawn (character reason : Bytes) (sector : SectorCoord)
  | evtAttack (attacker skill target : Bytes) (x y : Int32)
  | pending (requestId : Nat) (commandName : Bytes)
  | unknownCommand (command : Bytes)
  | fixedError (message : Bytes)
  deriving DecidableEq, Repr

def Content.kind : Content → Kind
  | .worldEntered _ _ _ _ => .worldEntered
  | .worldMoved _ _ _ _ => .worldMoved
  | .worldAttack _ _ => .worldAttack
  | .evtEnter _ _ _ _ _ => .evtEnter
  | .evtSnapshot _ _ _ _ _ => .evtSnapshot
  | .evtMove _ _ _ _ => .evtMove
  | .evtDespawn _ _ _ => .evtDespawn
  | .evtAttack _ _ _ _ _ => .evtAttack
  | .pending _ _ => .pending
  | .unknownCommand _ => .unknownCommand
  | .fixedError message => .fixedError message

def Content.fields : Content → List Bytes
  | .worldEntered character x y sector => [character, printInt x, printInt y, sectorString sector]
  | .worldMoved character x y sector => [character, printInt x, printInt y, sectorString sector]
  | .worldAttack skill target => [skill, target]
  | .evtEnter character account x y sector =>
      [character, account, printInt x, printInt y, sectorString sector]
  | .evtSnapshot character account x y sector =>
      [character, account, printInt x, printInt y, sectorString sector]
  | .evtMove character x y sector => [character, printInt x, printInt y, sectorString sector]
  | .evtDespawn character reason sector => [character, reason, sectorString sector]
  | .evtAttack attacker skill target x y => [attacker, skill, target, printInt x, printInt y]
  | .pending requestId commandName => [printNat requestId, commandName]
  | .unknownCommand command => [command]
  | .fixedError _ => []

def Content.tokens (content : Content) : List Bytes := (format content.kind).render content.fields

/-- The words of the clients are words, the errors are those of the source. -/
def Content.Valid : Content → Prop
  | .worldEntered character _ _ _ => IsToken character
  | .worldMoved character _ _ _ => IsToken character
  | .worldAttack skill target => IsToken skill ∧ IsToken target
  | .evtEnter character account _ _ _ => IsToken character ∧ IsToken account
  | .evtSnapshot character account _ _ _ => IsToken character ∧ IsToken account
  | .evtMove character _ _ _ => IsToken character
  | .evtDespawn character reason _ => IsToken character ∧ IsToken reason
  | .evtAttack attacker skill target _ _ => IsToken attacker ∧ IsToken skill ∧ IsToken target
  | .pending _ commandName => IsToken commandName
  | .unknownCommand command => IsToken command
  | .fixedError message => message ∈ fixedMessages

def behind (front text : Bytes) : Option Bytes :=
  if text.take front.length = front then some (text.drop front.length) else none

def errorContent (message : Bytes) : Content :=
  match behind (ascii "unknown command: ") message with
  | some command => .unknownCommand command
  | none => .fixedError message

def worldContent : WorldLine → Content
  | .worldEntered player => .worldEntered player.character player.x player.y player.sector
  | .evtEnter player => .evtEnter player.character player.account player.x player.y player.sector
  | .evtSnapshot player =>
      .evtSnapshot player.character player.account player.x player.y player.sector
  | .worldMoved player => .worldMoved player.character player.x player.y player.sector
  | .evtMove player => .evtMove player.character player.x player.y player.sector
  | .evtDespawn player reason => .evtDespawn player.character reason player.sector
  | .worldAttack skill target => .worldAttack skill target
  | .evtAttack player skill target => .evtAttack player.character skill target player.x player.y
  | .errNotInWorld => .fixedError (ascii "not in world; use ENTER first")

/-- What the line tells, if it is a world event, an error or an acknowledgement. -/
def contentOf : ServerLine → Option Content
  | .world line => some (worldContent line)
  | .err message => some (errorContent message)
  | .pending requestId commandName => some (.pending requestId commandName)
  | .hello | .bye | .completion _ _ _ => none

def readInt (text : Bytes) : Option Int32 := (stoi text).toOption

def readSector (text : Bytes) : Option SectorCoord :=
  match text.splitOn comma with
  | [x, y] => do
      let x ← readInt x
      let y ← readInt y
      return ⟨x, y⟩
  | _ => none

def readContent : Kind → List Bytes → Option Content
  | .worldEntered, [character, x, y, sector] => do
      return .worldEntered character (← readInt x) (← readInt y) (← readSector sector)
  | .worldMoved, [character, x, y, sector] => do
      return .worldMoved character (← readInt x) (← readInt y) (← readSector sector)
  | .worldAttack, [skill, target] => some (.worldAttack skill target)
  | .evtEnter, [character, account, x, y, sector] => do
      return .evtEnter character account (← readInt x) (← readInt y) (← readSector sector)
  | .evtSnapshot, [character, account, x, y, sector] => do
      return .evtSnapshot character account (← readInt x) (← readInt y) (← readSector sector)
  | .evtMove, [character, x, y, sector] => do
      return .evtMove character (← readInt x) (← readInt y) (← readSector sector)
  | .evtDespawn, [character, reason, sector] => do
      return .evtDespawn character reason (← readSector sector)
  | .evtAttack, [attacker, skill, target, x, y] => do
      return .evtAttack attacker skill target (← readInt x) (← readInt y)
  | .pending, [requestId, commandName] => some (.pending (decimalValue requestId) commandName)
  | .unknownCommand, [command] => some (.unknownCommand command)
  | .fixedError message, [] => some (.fixedError message)
  | _, _ => none

def readLine (line : Bytes) : Option Content :=
  (recover format kinds (line.dropLast.splitOn space)).bind fun found =>
    readContent found.1 found.2

theorem formats_apart : ∀ first ∈ kinds, ∀ second ∈ kinds, first ≠ second →
    (format first).Apart (format second) := by decide +kernel

theorem fixed_tokens : ∀ message ∈ fixedMessages, ∀ token ∈ message.splitOn space,
    IsToken token := by
  decide +kernel

theorem label_tokens : ∀ kind ∈ kinds, ∀ token ∈ (format kind).label, IsToken token := by
  have plain : ∀ kind ∈ kinds.take 10, ∀ token ∈ (format kind).label, IsToken token := by
    decide +kernel
  intro kind known token labelled
  rcases List.mem_append.mp known with named | fixed
  · exact plain kind named token labelled
  · rcases List.mem_map.mp fixed with ⟨message, listed, rfl⟩
    rcases List.mem_cons.mp labelled with rfl | word
    · decide
    · exact fixed_tokens message listed token word

theorem tags_plain : ∀ kind, ∀ tag ∈ (format kind).tags, ∀ byte ∈ tag, isSpace byte = false := by
  intro kind tag listed
  apply (plain_iff_all tag).mp
  revert tag
  cases kind with
  | fixedError message => nofun
  | _ => decide

theorem no_other_unknown : ∀ message ∈ fixedMessages,
    behind (ascii "unknown command: ") message = none := by decide +kernel

theorem number_token (value : Nat) : IsToken (printNat value) := by
  have digits := print_nat_digits value
  exact ⟨digits.1, fun byte member => digit_is_not_space (digits.2 byte member)⟩

theorem int_token (value : Int32) : IsToken (printInt value) := by
  have number := number_token value.toInt.natAbs
  rw [printInt]
  split
  · refine ⟨List.cons_ne_nil _ _, ?_⟩
    intro byte member
    rcases List.mem_cons.mp member with rfl | digit
    · decide
    · exact number.2 byte digit
  · exact number

theorem append_token {first second : Bytes} (plain : ∀ byte ∈ first, isSpace byte = false)
    (token : IsToken second) : IsToken (first ++ second) := by
  constructor
  · intro empty
    exact token.1 (List.append_eq_nil_iff.mp empty).2
  · intro byte member
    rcases List.mem_append.mp member with front | back
    · exact plain byte front
    · exact token.2 byte back

theorem sector_token (sector : SectorCoord) : IsToken (sectorString sector) := by
  have front : IsToken (printInt sector.x ++ ascii ",") :=
    append_token (int_token sector.x).2 (by decide)
  exact append_token front.2 (int_token sector.y)

theorem Content.Valid.known {content : Content} (valid : content.Valid) :
    content.kind ∈ kinds := by
  cases content with
  | fixedError message =>
      exact List.mem_append_right _ (List.mem_map_of_mem (f := Kind.fixedError) valid)
  | _ => exact List.mem_append_left _ (by simp [Content.kind])

theorem Content.full (content : Content) :
    content.fields.length = (format content.kind).tags.length := by
  cases content <;> rfl

theorem Content.Valid.field_tokens {content : Content} (valid : content.Valid) :
    ∀ field ∈ content.fields, IsToken field := by
  cases content with
  | fixedError message => nofun
  | _ =>
      simp only [Content.Valid] at valid
      simp [Content.fields, int_token, sector_token, number_token, valid]

theorem tagged_tokens {tags fields : List Bytes}
    (plain : ∀ tag ∈ tags, ∀ byte ∈ tag, isSpace byte = false)
    (tokens : ∀ field ∈ fields, IsToken field) :
    ∀ token ∈ List.zipWith (· ++ ·) tags fields, IsToken token := by
  induction tags generalizing fields with
  | nil => nofun
  | cons tag rest ih =>
      cases fields with
      | nil => nofun
      | cons field others =>
          intro token member
          rw [List.zipWith_cons_cons] at member
          rcases List.mem_cons.mp member with rfl | later
          · exact append_token (plain tag List.mem_cons_self) (tokens field List.mem_cons_self)
          · exact ih (fun other listed => plain other (List.mem_cons_of_mem tag listed))
              (fun other listed => tokens other (List.mem_cons_of_mem field listed)) token later

theorem Content.Valid.tokens {content : Content} (valid : content.Valid) :
    ∀ token ∈ content.tokens, IsToken token := by
  intro token member
  rcases List.mem_append.mp member with labelled | tagged
  · exact label_tokens content.kind valid.known token labelled
  · exact tagged_tokens (tags_plain content.kind) valid.field_tokens token tagged

theorem behind_append (front rest : Bytes) : behind front (front ++ rest) = some rest := by
  rw [behind, List.take_left, if_pos rfl, List.drop_left]

theorem eq_of_behind {front text rest : Bytes} (found : behind front text = some rest) :
    text = front ++ rest := by
  rw [behind] at found
  split at found
  · rename_i same
    rw [← Option.some.inj found]
    calc text = text.take front.length ++ text.drop front.length :=
          (List.take_append_drop _ _).symm
      _ = front ++ text.drop front.length := by rw [same]
  · cases found

theorem error_text (message : Bytes) :
    ascii "ERR " ++ message = [space].intercalate (errorContent message).tokens := by
  rw [errorContent]
  cases found : behind (ascii "unknown command: ") message with
  | some command =>
      rw [eq_of_behind found]
      simp only [Content.tokens, Content.kind, Content.fields, format, Format.render,
        List.zipWith_cons_cons, List.zipWith_nil_left, List.cons_append, List.nil_append,
        List.intercalate_cons_cons, List.intercalate_singleton, List.append_assoc]
      rfl
  | none =>
      have rest : [space].intercalate (message.splitOn space) = message :=
        List.intercalate_splitOn space
      simp only [Content.tokens, Content.kind, Content.fields, format, Format.render,
        List.zipWith_nil_left, List.append_nil]
      rw [List.intercalate_cons_of_ne_nil (List.splitOn_ne_nil space message), rest]
      rfl

theorem world_text (line : WorldLine) :
    line.text = [space].intercalate (worldContent line).tokens := by
  cases line with
  | errNotInWorld => decide +kernel
  | _ =>
      simp only [WorldLine.text, positionText, worldContent, Content.tokens, Content.kind,
        Content.fields, format, Format.render, List.zipWith_cons_cons, List.zipWith_nil_left,
        List.cons_append, List.nil_append, List.intercalate_cons_cons,
        List.intercalate_singleton, List.append_assoc]
      rfl

theorem content_text {line : ServerLine} {content : Content} (tells : contentOf line = some content) :
    line.text = [space].intercalate content.tokens := by
  cases line with
  | hello | bye => cases tells
  | completion ok requestId reply => cases tells
  | err message =>
      rw [← Option.some.inj tells]
      exact error_text message
  | pending requestId commandName =>
      rw [← Option.some.inj tells]
      simp only [ServerLine.text, Content.tokens, Content.kind, Content.fields, format,
        Format.render, List.zipWith_cons_cons, List.zipWith_nil_left, List.cons_append,
        List.nil_append, List.intercalate_cons_cons, List.intercalate_singleton,
        List.append_assoc]
      rfl
  | world line =>
      rw [← Option.some.inj tells]
      exact world_text line

theorem Content.Valid.no_newline {content : Content} (valid : content.Valid) :
    newline ∉ [space].intercalate content.tokens := by
  intro member
  rcases mem_intercalate member with between | ⟨token, listed, inside⟩
  · exact absurd (List.mem_singleton.mp between) (by decide)
  · exact absurd ((valid.tokens token listed).2 newline inside) (by decide)

theorem Content.tokens_nonempty (content : Content) : content.tokens ≠ [] := by
  cases content <;> exact List.cons_ne_nil _ _

theorem terminated_text {line : ServerLine} {content : Content}
    (tells : contentOf line = some content) (valid : content.Valid) :
    terminated line.text = [space].intercalate content.tokens ++ [newline] := by
  rw [content_text tells, terminated, if_neg]
  intro ends
  exact valid.no_newline (List.mem_of_getLast? ends)

theorem Content.Valid.split {content : Content} (valid : content.Valid) :
    ([space].intercalate content.tokens).splitOn space = content.tokens := by
  apply List.splitOn_intercalate space _ content.tokens_nonempty
  intro token listed inside
  exact absurd ((valid.tokens token listed).2 space inside) (by decide)

theorem read_print_int (value : Int32) : readInt (printInt value) = some value := by
  rw [readInt, stoi_print_int]
  rfl

theorem read_sector (sector : SectorCoord) : readSector (sectorString sector) = some sector := by
  have clean : comma ∉ printInt sector.x := not_in_int _ (by decide) (by decide)
  have also : comma ∉ printInt sector.y := not_in_int _ (by decide) (by decide)
  have split : (sectorString sector).splitOn comma = [printInt sector.x, printInt sector.y] := by
    rw [sectorString, List.append_assoc]
    change (printInt sector.x ++ comma :: printInt sector.y).splitOn comma = _
    rw [List.splitOn_append_cons_self_of_not_mem clean, List.splitOn_eq_singleton also]
  rw [readSector, split]
  simp only [read_print_int]
  rfl

theorem read_content (content : Content) :
    readContent content.kind content.fields = some content := by
  cases content with
  | pending requestId commandName =>
      simp only [Content.kind, Content.fields, readContent, decimal_value_print_nat]
  | worldAttack | unknownCommand | fixedError => rfl
  | _ =>
      simp only [Content.kind, Content.fields, readContent, read_print_int, read_sector]
      rfl

/-- A client recovers the kind and every field of a line. -/
theorem read_line {line : ServerLine} {content : Content} (tells : contentOf line = some content)
    (valid : content.Valid) : readLine (terminated line.text) = some content := by
  rw [terminated_text tells valid, readLine, List.dropLast_concat, valid.split, Content.tokens,
    recover_render formats_apart valid.known content.full]
  exact read_content content

end DungeonPortfolio.WireFormat
