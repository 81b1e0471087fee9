import RecurringBilling.Logging
import RecurringBilling.Text.Alphanumeric

/-!
Which records of the log are written. A filter is a list of rules; of the rules that concern a
record the most specific one decides, and a record that none concerns is not written. A filter is
read from directives, each a level, a target, a condition in brackets or some of these together.
-/

namespace RecurringBilling

/-- Lets records of the targets that begin with the given one, and that have the field if one is
named, through up to a rank; rank zero lets none through. -/
structure LogRule where
  target : String := ""
  field? : Option String := none
  rank : Nat
  deriving DecidableEq

namespace LogRule

def concerns (r : LogRule) (record : LogRecord) : Bool :=
  record.target.startsWith r.target &&
    r.field?.all fun name => name == "message" || record.fields.any (·.1 == name)

/-- The longer target is more specific, then the rule with a field, then the greater name of it. -/
def isMoreSpecific (r other : LogRule) : Bool :=
  other.target.length < r.target.length ||
    (r.target.length == other.target.length &&
      match r.field?, other.field? with
      | some name, some otherName => otherName < name
      | some _, none => true
      | none, _ => false)

end LogRule

/-- What one directive asks for. A condition on the span that a record is in is never met, as no
part of the program opens one. -/
inductive LogDirective where
  | rule (r : LogRule)
  | withinSpan
  deriving DecidableEq

namespace LogDirective

/-- The rank that a word gives, which may also be a number. -/
def rankOf? (word : String) : Option Nat :=
  match Text.lowerAscii word with
  | "off" => some 0
  | "error" => some LogLevel.error.rank
  | "warn" => some LogLevel.warn.rank
  | "info" => some LogLevel.info.rank
  | "debug" => some LogLevel.debug.rank
  | "trace" => some LogLevel.trace.rank
  | _ => (Text.count? word.toList).filter (· ≤ LogLevel.trace.rank)

def startsTarget (c : Char) : Bool :=
  Text.isAlphanumeric c || c == '_' || c == ':' || c == '-'

/-- The part of a text between two places. -/
def part (cs : List Char) (start stop : Nat) : String := String.ofList ((cs.take stop).drop start)

/-- The rank that the end of a text gives; one that is empty lets all through. -/
def rankAt? (cs : List Char) (start : Nat) : Option Nat :=
  let word := String.ofList (cs.drop start)
  if word.isEmpty then some LogLevel.trace.rank else rankOf? word

/-- What brackets demand of a record: a field, or a span by its name or by the value of a field. -/
inductive Condition where
  | field (name : String)
  | span

/-- Reads what follows an opening bracket, and gives the place behind the closing one. -/
def condition? (given trimmed : List Char) (start : Nat) : Option (Condition × Nat) :=
  let inside := trimmed.drop start
  let stop := start + (inside.takeWhile fun c => c != ']' && c != '\x7b').length
  match trimmed.drop stop with
  | ']' :: _ => some (.span, stop + 1)
  | '\x7b' :: rest =>
    let last := stop + 1 + (rest.takeWhile (· != '\x7d')).length
    match trimmed.drop last with
    | '\x7d' :: ']' :: _ =>
      let field := part given (stop + 1) last
      if field.isEmpty then none
      else if (part given start stop).isEmpty && !field.contains '=' then
        some (.field field, last + 2)
      else some (.span, last + 2)
    | _ => none
  | _ => none

/-- Reads one directive. Its marks are found in the trimmed text, and its parts are cut out of the
given text at the same places, so that a level with blanks around it is none. -/
def ofText? (s : String) : Option LogDirective :=
  let given := s.toList
  let trimmed := (Text.trim s).toList
  let named := (trimmed.takeWhile fun c => c != '=' && c != '[').length
  if !trimmed.head?.any fun c => c == '[' || startsTarget c then none
  else
    match trimmed.drop named with
    | [] =>
      some (.rule (match rankOf? s with
        | some rank => { rank := rank }
        | none => { target := s, rank := LogLevel.trace.rank }))
    | '[' :: _ => do
      let (condition, next) ← condition? given trimmed (named + 1)
      let rank ← match trimmed.drop next with
        | [] => some LogLevel.trace.rank
        | '=' :: _ => rankAt? given (next + 1)
        | _ => none
      return match condition with
        | .field name => .rule { target := part given 0 named, field? := some name, rank := rank }
        | .span => .withinSpan
    | _ => do return .rule { target := part given 0 named, rank := ← rankAt? given (named + 1) }

def rule? : LogDirective → Option LogRule
  | rule r => some r
  | withinSpan => none

end LogDirective

abbrev LogFilter := List LogRule

namespace LogFilter

/-- A later rule replaces an earlier one for the same records. -/
def add (f : LogFilter) (r : LogRule) : LogFilter :=
  f.filter (fun other => other.target != r.target || other.field? != r.field?) ++ [r]

def ofLevel (l : LogLevel) : LogFilter := [{ rank := l.rank }]

/-- Reads directives divided by commas. Without any of them errors alone are let through. -/
def ofText? (s : String) : Option LogFilter := do
  let directives ← ((s.splitOn ",").filter (!·.isEmpty)).mapM LogDirective.ofText?
  return if directives.isEmpty then ofLevel .error
    else (directives.filterMap LogDirective.rule?).foldl add []

/-- The rule that decides on a record. -/
def ruleFor? (f : LogFilter) (record : LogRecord) : Option LogRule :=
  f.foldl (fun best r =>
    if r.concerns record && best.all r.isMoreSpecific then some r else best) none

def lets (f : LogFilter) (record : LogRecord) : Bool :=
  (f.ruleFor? record).any fun r => record.level.rank ≤ r.rank

end LogFilter

end RecurringBilling
