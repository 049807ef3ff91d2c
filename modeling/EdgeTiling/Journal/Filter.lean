import EdgeTiling.Journal
import EdgeTiling.Pattern.Compile

/-! Which records are shown: rules give a limit to the whole program or to some part of it. -/

namespace EdgeTiling.Journal

/-- The most detailed level that is shown; none shows nothing. -/
abbrev Limit := Option Level

namespace Limit

def detail (l : Limit) : Nat := (l.map Level.detail).getD 0

def label (l : Limit) : String := (l.map Level.label).getD "OFF"

def ofName? (name : String) : Option Limit :=
  let small := name.map Char.toLower
  if small = "off" then some none
  else (Level.all.find? fun l => l.name == small).map some

end Limit

structure Rule where
  part : Option String
  limit : Limit
  deriving DecidableEq, Repr

namespace Rule

def covers (r : Rule) (target : String) : Bool :=
  match r.part with
  | none => true
  | some p => p.toList.isPrefixOf target.toList

/-- The longer the name, the more a rule counts. -/
def rank (r : Rule) : Nat := (r.part.map String.utf8ByteSize).getD 0

/-- One rule as it is written: a limit, a part, or a part and its limit. Of what is no rule the part
at fault is given. -/
def ofText (text : String) : Except String Rule :=
  match text.splitOn "=" with
  | [one] =>
    match Limit.ofName? one with
    | some l => .ok ⟨none, l⟩
    | none => .ok ⟨some one, some .trace⟩
  | [part, limit] =>
    let limit := Text.trim limit
    if limit = "" then .ok ⟨some part, some .trace⟩
    else match Limit.ofName? limit with
      | some l => .ok ⟨some part, l⟩
      | none => .error limit
  | _ => .error text

end Rule

structure Filter where
  rules : List Rule := []
  pattern : Option Pattern := none

namespace Filter

/-- A later rule for a part takes the place of an earlier one. -/
def insert (f : Filter) (r : Rule) : Filter :=
  if f.rules.any fun q => q.part == r.part then
    { f with rules := f.rules.map fun q => if q.part == r.part then r else q }
  else { f with rules := f.rules ++ [r] }

def parts (text : String) : List String :=
  ((text.splitOn ",").map Text.trim).filter (· != "")

def insertAll (f : Filter) (rules : String) : Filter :=
  ((parts rules).filterMap fun t => (Rule.ofText t).toOption).foldl insert f

/-- Adds the rules of a text, which count as later ones. What follows a slash is a pattern for
messages; with two slashes the text says nothing. -/
def add (f : Filter) (text : String) : Filter :=
  match text.splitOn "/" with
  | [rules] => f.insertAll rules
  | [rules, pattern] => { f.insertAll rules with pattern := (Pattern.compile pattern).toOption }
  | _ => f

/-- The parts of a text that say nothing, each in a sentence of its own. -/
def complaints (text : String) : List String :=
  let unclear (rules : String) : List String := (parts rules).filterMap fun t =>
    match Rule.ofText t with
    | .ok _ => none
    | .error part => some s!"warning: invalid logging spec '{part}', ignoring it"
  match text.splitOn "/" with
  | [rules] => unclear rules
  | [rules, pattern] =>
    unclear rules ++ match Pattern.compile pattern with
      | .ok _ => []
      | .error f => [s!"warning: invalid regex filter - {f.message pattern}, ignoring it"]
  | _ => [s!"warning: invalid logging spec '{text}' (too many '/'s), ignoring it"]

/-- The limit for a part: the rule with the longest name decides. -/
def limit (f : Filter) (target : String) : Limit :=
  let best := f.rules.foldl (fun (best : Option Rule) r =>
    if r.covers target ∧ (best.map Rule.rank).getD 0 ≤ r.rank then some r else best) none
  (best.map (·.limit)).getD none

def max (f : Filter) : Limit :=
  f.rules.foldl (fun l r => if l.detail ≤ r.limit.detail then r.limit else l) none

def shows (f : Filter) (r : Record) : Bool :=
  r.level.detail ≤ (f.limit r.target).detail &&
    (f.pattern.map fun p => p.occursIn r.message).getD true

end Filter

end EdgeTiling.Journal

namespace EdgeTiling

/-- A record as it is shown, with the level in a column of its own. Further lines of a message are
indented. -/
def Record.line (r : Record) : String :=
  "[" ++ r.level.label ++ "".pushn ' ' (5 - r.level.label.length) ++ " " ++ r.target ++ "] " ++
    String.intercalate "\n    " (r.message.splitOn "\n")

end EdgeTiling
