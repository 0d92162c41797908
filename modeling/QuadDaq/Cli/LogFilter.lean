import QuadDaq.Text.Alphanumeric
import QuadDaq.Text.Blank
import QuadDaq.Text.Whole

/-!
# Log filters

Which messages are logged is a list of filters with commas between them. A filter is
the name of a level, or the place that a level is meant for with the level behind an
equals sign:

    filter  ::= target | target? span ("=" level)? | target "=" level
    span    ::= "[" name ("{" field "}")? "]"

A target starts with a letter, a digit, or one of `-`, `:` and `_`. A target without a
level may well be the name of a level; nothing else is known of targets, spans and
fields, so that only the shape of a filter and the level behind its equals sign can
be wrong.
-/

namespace QuadDaq.Cli

/-- What is wrong with a filter. -/
inductive FilterProblem
  | malformed
  | unknownLevel
  deriving Repr, DecidableEq

/-- The wording of an unknown level. -/
def unknownLevelText : String :=
  "error parsing level filter: expected one of \"off\", \"error\", \"warn\", \"info\", \"debug\", "
    ++ "\"trace\", or a number 0-5"

/-- The wording of a problem, with its cause behind it. -/
def FilterProblem.message : FilterProblem → String
  | malformed => "invalid filter directive"
  | unknownLevel => unknownLevelText ++ ": " ++ unknownLevelText

namespace LogFilter

/-- The text is the name or the number of a level. Without a text the level is that of
errors. -/
def isLevel (text : List Char) : Bool :=
  (Text.unsigned? 64 10 text).any (· ≤ 5)
    || String.ofList (text.map Char.toLower) ∈ ["", "off", "error", "warn", "info", "debug", "trace"]

/-- A target may start with this character. -/
def startsTarget (c : Char) : Bool := c = '-' || c = ':' || c = '_' || Text.isAlphanumeric c

/-- What stands behind the equals sign of a filter, if there is one; nothing if the
filter is malformed. This is the part behind a span. -/
def behindSpan : List Char → Option (Option (List Char))
  | [] => some none
  | '=' :: level => some (some level)
  | _ => none

/-- The same for the part behind the opening bracket of a span. A field must not be
empty, and nothing may stand between its closing brace and the bracket. -/
def inSpan (cs : List Char) : Option (Option (List Char)) :=
  match cs.dropWhile fun c => c ≠ ']' && c ≠ '{' with
  | ']' :: rest => behindSpan rest
  | '{' :: rest =>
    match rest with
    | '}' :: _ => none
    | rest =>
      match rest.dropWhile (· ≠ '}') with
      | '}' :: ']' :: rest => behindSpan rest
      | _ => none
  | _ => none

/-- The same for a whole filter. -/
def levelPart : List Char → Option (Option (List Char))
  | [] => none
  | '[' :: rest => inSpan rest
  | c :: rest =>
    if startsTarget c then
      match rest.dropWhile fun c => c ≠ '=' && c ≠ '[' with
      | [] => some none
      | '[' :: rest => inSpan rest
      | _ :: level => some (some level)
    else none

/-- What is wrong with one filter. Blanks around it are no part of its shape, but its
level is looked for as far from the beginning as if there were none in front of it,
and goes up to the very end. -/
def problem? (filter : List Char) : Option FilterProblem :=
  let shape := Text.trimChars filter
  match levelPart shape with
  | none => some .malformed
  | some none => none
  | some (some level) =>
    if isLevel (filter.drop (shape.length - level.length)) then none else some .unknownLevel

end LogFilter

/-- What is wrong with a list of filters: the first problem. Filters without any text
are skipped. -/
def filterProblem? (filters : String) : Option FilterProblem :=
  ((filters.toList.splitOn ',').filter (· ≠ [])).findSome? LogFilter.problem?

/-- What is wrong with the filters of the console. Those of the environment count if they are in
order; otherwise those of the command line have to be. -/
def consoleProblem? (environment : Option String) (level : String) : Option FilterProblem :=
  if environment.any fun filters => (filterProblem? filters).isNone then none
  else filterProblem? level

end QuadDaq.Cli
