import Fiction.Decimal.Natural
import Fiction.Value.Kind

/-!
# Fiction.Fault.Cause

Why something in a story cannot be read, computed or played.

* `Cause` lists the reasons; the flaws of calls, links, values and stories have lists of their own.
* `Cause.category` groups them, and `Cause.code` names each one in a word.
* `Cause.text` is the wording an author reads and `Cause.help?` the advice that goes with it.
-/

namespace Fiction

/-- What is wrong with the arguments of a call. -/
inductive CallFlaw where
  /-- A fixed number of arguments was expected. -/
  | argumentCount (expected found : Nat)
  /-- A state change without the value to store. -/
  | missingValue
  /-- A state change without the path to change. -/
  | missingPath
  /-- `if` with conditions and results that do not pair up. -/
  | unpairedCondition
  /-- `random` with neither a list nor two bounds. -/
  | missingBounds
  /-- A change of the inventory with too few or too many arguments. -/
  | itemCount
  /-- A change of the inventory without an item. -/
  | missingItem
  /-- A look at the inventory with several arguments. -/
  | manyFilters
  /-- A listing by something other than a category. -/
  | badFilter
deriving Repr, DecidableEq

/-- The wording of a call's flaw. -/
def CallFlaw.text : CallFlaw → String
  | argumentCount expected found =>
      let plural := if expected = 1 then "" else "s"
      s!"expected {Decimal.ofNat expected} argument{plural}, found {Decimal.ofNat found}"
  | missingValue => "missing value"
  | missingPath => "missing path"
  | unpairedCondition => "expected condition and result pairs"
  | missingBounds => "expected a list or two bounds"
  | itemCount => "expected an item and an optional amount"
  | missingItem => "missing item"
  | manyFilters => "expected at most one argument"
  | badFilter => "filters look like #category"

/-- What is wrong with a link. -/
inductive LinkFlaw where
  /-- A link is written in one to three parts. -/
  | partCount (found : Nat)
  /-- The part for the target is blank. -/
  | noTarget
  /-- The target is blank once it is expanded. -/
  | emptyTarget
  /-- The part for commands holds something else. -/
  | notCommand
  /-- A command that needs a value has none. -/
  | noValue (command : String)
deriving Repr, DecidableEq

/-- The wording of a link's flaw. -/
def LinkFlaw.text : LinkFlaw → String
  | partCount found => s!"expected 1 to 3 '|'-separated parts, found {Decimal.ofNat found}"
  | noTarget => "link has no target"
  | emptyTarget => "the target expands to nothing"
  | notCommand => "traversal text may only contain set, add and invert calls"
  | noValue command => s!"'{command}' has no value"

/-- What makes a value of the right kind unusable. -/
inductive ValueFlaw where
  /-- The exact result does not fit in 64 bits. -/
  | overflow (operation : String)
  /-- The negation of a stored integer does not fit in 64 bits. -/
  | cannotInvert (n : Int)
  /-- A text or list was to be repeated a negative number of times. -/
  | negativeRepeat (what : String) (count : Int)
  /-- A repetition longer than the limit. -/
  | longRepeat (what : String) (count : Int) (limit : Nat)
  /-- No element or character at this position. -/
  | outOfRange (index : Int) (length : Nat)
  /-- A split on nothing. -/
  | emptyDelimiter
  /-- A choice from an empty list. -/
  | emptyChoice
  /-- A range whose lower bound is above its upper one. -/
  | emptyRange (low high : Int)
deriving Repr, DecidableEq

/-- The wording of a value's flaw. -/
def ValueFlaw.text : ValueFlaw → String
  | overflow operation => s!"integer overflow in '{operation}'"
  | cannotInvert n => s!"cannot invert {Decimal.ofInt n}: integer overflow"
  | negativeRepeat what count =>
      s!"cannot repeat {what} a negative number of times ({Decimal.ofInt count})"
  | longRepeat what count limit =>
      s!"repeating {what} {Decimal.ofInt count} times exceeds the limit of {Decimal.ofNat limit}"
  | outOfRange index length =>
      s!"index {Decimal.ofInt index} is out of range for length {Decimal.ofNat length}"
  | emptyDelimiter => "cannot split on an empty delimiter"
  | emptyChoice => "cannot choose from an empty list"
  | emptyRange low high => s!"empty range {Decimal.ofInt low} to {Decimal.ofInt high}"

/-- What is wrong with a command that is written as text. -/
inductive CommandFlaw where
  | unknownVerb
  | badPath
  | unwantedValue
  | missingValue
  /-- The value is no data tree. -/
  | badValue
deriving Repr, DecidableEq

/-- The wording of a command's flaw. -/
def CommandFlaw.text : CommandFlaw → String
  | unknownVerb => "unknown verb"
  | badPath => "missing or invalid path"
  | unwantedValue => "invert takes no value"
  | missingValue => "missing value"
  | badValue => "<json>"

/-- What is wrong with a story as a whole. -/
inductive StoryFlaw where
  /-- The header has no start field. -/
  | noStart
  /-- The start node is not among the nodes. -/
  | missingStart (name : String)
  /-- Two nodes have one name. -/
  | twice (name : String)
  /-- The initial state is no data tree. -/
  | badState
  /-- The text of a static story is no record of a story. -/
  | badRecord
  /-- A node's name differs from the key it stands under. -/
  | misnamed (key name : String)
  /-- A fixed link leads to a node that is not there. -/
  | dangling (node target : String)
  /-- A command of a fixed link cannot be read. -/
  | badCommand (command : String) (flaw : CommandFlaw)
deriving Repr, DecidableEq

/-- The wording of a story's flaw. -/
def StoryFlaw.text : StoryFlaw → String
  | noStart => "the header does not name a start node"
  | missingStart name => s!"start node '{name}' does not exist"
  | twice name => s!"node '{name}' is defined twice"
  | badState => "the initial state is not valid JSON"
  | badRecord => "<json>"
  | misnamed key name => s!"node '{key}' is named '{name}'"
  | dangling node target => s!"node '{node}' links to unknown node '{target}'"
  | badCommand command flaw => s!"bad command '{command}': {flaw.text}"

/-- Why something failed. -/
inductive Cause where
  /-- A call without its closing parenthesis. -/
  | unterminatedCall (name : String)
  /-- A link without its closing brackets. -/
  | unterminatedLink
  /-- A quoted text without its closing quote. -/
  | unterminatedText
  /-- A bracket without its partner. -/
  | unbalanced (delimiter : Char)
  /-- Something else stands where this was expected. -/
  | unexpected (expected found : String)
  /-- Text in front of the first node of a story. -/
  | strayText
  /-- An expression with nothing in it. -/
  | emptyExpression
  | malformedCall (name : String) (flaw : CallFlaw)
  | malformedLink (flaw : LinkFlaw)
  /-- Digits that are no number. -/
  | invalidNumber (digits : String)
  /-- An operation that does not apply to operands of these kinds. -/
  | mismatch (operation : String) (operands : List Kind)
  | expectedKind (expected : String) (actual : Kind)
  | divisionByZero (operation : String)
  | invalidPattern (pattern : String)
  | invalidValue (flaw : ValueFlaw)
  /-- Nothing is stored at this path. -/
  | undefined (path : String)
  /-- A path goes through something that is no mapping. -/
  | notMapping (path segment : String) (found : Kind)
  | readOnly (name : String)
  | invalidPath (path : String)
  /-- Calls are nested deeper than the limit. -/
  | recursionLimit (limit : Nat)
  /-- Neither a call of the library nor a node has this name. -/
  | unknownCall (name : String)
  | unknownNode (name : String)
  | unknownModule (name : String)
  | invalidStory (flaw : StoryFlaw)
  /-- The story is over. -/
  | storyFinished
  /-- The settings cannot be read. -/
  | invalidSettings
  /-- The settings leave no room for calls. -/
  | zeroDepth
  /-- A file cannot be read. -/
  | unreadableFile
deriving Repr, DecidableEq

/-- The groups of causes. -/
inductive Category where
  | syntactic
  | type
  | value
  | path
  | recursion
  | story
deriving Repr, DecidableEq

namespace Category

/-- The name of a category in codes. -/
def name : Category → String
  | syntactic => "syntax"
  | type => "type"
  | value => "value"
  | path => "path"
  | recursion => "recursion"
  | story => "story"

/-- The heading of messages in a category. -/
def heading : Category → String
  | syntactic => "Syntax error"
  | type => "Type error"
  | value => "Value error"
  | path => "Path error"
  | recursion => "Recursion error"
  | story => "Story error"

/-- The mark at the place a message points to. -/
def label : Category → String
  | syntactic => "malformed here"
  | type => "type mismatch"
  | value => "invalid value"
  | path => "path failure"
  | recursion => "recursion limit hit here"
  | story => "story error"

end Category

namespace Cause

/-- The category of a cause. -/
def category : Cause → Category
  | unterminatedCall _ => .syntactic
  | unterminatedLink => .syntactic
  | unterminatedText => .syntactic
  | unbalanced _ => .syntactic
  | unexpected _ _ => .syntactic
  | strayText => .syntactic
  | emptyExpression => .syntactic
  | malformedCall _ _ => .syntactic
  | malformedLink _ => .syntactic
  | invalidNumber _ => .syntactic
  | mismatch _ _ => .type
  | expectedKind _ _ => .type
  | divisionByZero _ => .value
  | invalidPattern _ => .value
  | invalidValue _ => .value
  | undefined _ => .path
  | notMapping _ _ _ => .path
  | readOnly _ => .path
  | invalidPath _ => .path
  | recursionLimit _ => .recursion
  | unknownCall _ => .story
  | unknownNode _ => .story
  | unknownModule _ => .story
  | invalidStory _ => .story
  | storyFinished => .story
  | invalidSettings => .story
  | zeroDepth => .story
  | unreadableFile => .story

/-- The word for a cause. -/
def code : Cause → String
  | unterminatedCall _ => "unterminated_macro"
  | unterminatedLink => "unterminated_link"
  | unterminatedText => "unterminated_string"
  | unbalanced _ => "unbalanced_delimiter"
  | unexpected _ _ => "unexpected_token"
  | strayText => "unexpected_token"
  | emptyExpression => "empty_expression"
  | malformedCall _ _ => "malformed_macro"
  | malformedLink _ => "malformed_link"
  | invalidNumber _ => "invalid_literal"
  | mismatch _ _ => "type_mismatch"
  | expectedKind _ _ => "expected_kind"
  | divisionByZero _ => "division_by_zero"
  | invalidPattern _ => "invalid_regex"
  | invalidValue _ => "invalid_value"
  | undefined _ => "undefined_path"
  | notMapping _ _ _ => "not_a_mapping"
  | readOnly _ => "read_only"
  | invalidPath _ => "invalid_path"
  | recursionLimit _ => "recursion_limit"
  | unknownCall _ => "unknown_macro"
  | unknownNode _ => "unknown_node"
  | unknownModule _ => "unknown_module"
  | invalidStory _ => "invalid_story"
  | storyFinished => "story_finished"
  | invalidSettings => "invalid_config"
  | zeroDepth => "invalid_config"
  | unreadableFile => "io"

/-- The wording of a cause. -/
def text : Cause → String
  | unterminatedCall name => s!"unterminated call to macro '{name}'"
  | unterminatedLink => "unterminated link"
  | unterminatedText => "unterminated string literal"
  | unbalanced delimiter => s!"unbalanced '{delimiter}'"
  | unexpected expected found => s!"expected {expected}, found {found}"
  | strayText => "expected a '% key: value' header line or a '# node' header, found text"
  | emptyExpression => "empty expression"
  | malformedCall name flaw => s!"malformed call to '{name}': {flaw.text}"
  | malformedLink flaw => s!"malformed link: {flaw.text}"
  | invalidNumber digits => s!"invalid number '{digits}'"
  | mismatch operation operands =>
      let kinds := String.intercalate " and " (operands.map Kind.name)
      s!"operator '{operation}' does not apply to {kinds}"
  | expectedKind expected actual => s!"expected {expected}, got {actual.name}"
  | divisionByZero operation => s!"division by zero in '{operation}'"
  | invalidPattern pattern => s!"invalid regular expression '{pattern}'"
  | invalidValue flaw => flaw.text
  | undefined path => s!"'{path}' is not defined"
  | notMapping path segment found =>
      s!"cannot traverse '{path}': '{segment}' is a {found.name}, not a mapping"
  | readOnly name => s!"'{name}' is read-only"
  | invalidPath path => s!"invalid path '{path}'"
  | recursionLimit limit => s!"recursion limit of {Decimal.ofNat limit} exceeded"
  | unknownCall name => s!"unknown macro or node '{name}'"
  | unknownNode name => s!"unknown node '{name}'"
  | unknownModule name => s!"unknown module '{name}'"
  | invalidStory flaw => s!"invalid story: {flaw.text}"
  | storyFinished => "this telling has come to an end"
  | invalidSettings => "invalid configuration"
  | zeroDepth => "invalid configuration: max_depth must be at least 1"
  | unreadableFile => "i/o failure"

/-- The advice that goes with a cause. -/
def help? : Cause → Option String
  | unterminatedCall _ => some "every '(' must be closed by a matching ')'"
  | strayText => some "node text must follow a '# name' line"
  | recursionLimit _ => some "a node may be including itself without a base case"
  | storyFinished => some "reset the session to play again"
  | _ => none

end Cause

end Fiction
