/-! Documents of the JSON format and their text, compact or laid out over lines. -/

namespace EdgeTiling.Json

inductive Tree
  | null
  | number (n : Nat)
  | text (s : String)
  | list (items : List Tree)
  | object (members : List (String × Tree))

/-- Quotes, backslashes and control characters are escaped, everything else stands for itself. -/
def escape (c : Char) : List Char :=
  match c with
  | '"' => ['\\', '"']
  | '\\' => ['\\', '\\']
  | '\n' => ['\\', 'n']
  | '\r' => ['\\', 'r']
  | '\t' => ['\\', 't']
  | '\x08' => ['\\', 'b']
  | '\x0c' => ['\\', 'f']
  | _ =>
    if c.toNat < 0x20 then
      ['\\', 'u', '0', '0', (c.toNat / 16).digitChar, (c.toNat % 16).digitChar]
    else [c]

def quoted (s : String) : List Char := '"' :: s.toList.flatMap escape ++ ['"']

namespace Tree

mutual

def compact : Tree → List Char
  | .null => ['n', 'u', 'l', 'l']
  | .number n => Nat.toDigits 10 n
  | .text s => quoted s
  | .list items => '[' :: compactItems items ++ [']']
  | .object members => '{' :: compactMembers members ++ ['}']

def compactItems : List Tree → List Char
  | [] => []
  | [t] => t.compact
  | t :: rest => t.compact ++ ',' :: compactItems rest

def compactMembers : List (String × Tree) → List Char
  | [] => []
  | [(k, t)] => quoted k ++ ':' :: t.compact
  | (k, t) :: rest => quoted k ++ ':' :: (t.compact ++ ',' :: compactMembers rest)

end

def newline (level : Nat) : List Char := '\n' :: List.replicate (2 * level) ' '

mutual

/-- The text with one item or member a line; an empty list stays on its line. -/
def pretty (level : Nat) : Tree → List Char
  | .null => ['n', 'u', 'l', 'l']
  | .number n => Nat.toDigits 10 n
  | .text s => quoted s
  | .list [] => ['[', ']']
  | .list items => '[' :: prettyItems (level + 1) items ++ newline level ++ [']']
  | .object [] => ['{', '}']
  | .object members => '{' :: prettyMembers (level + 1) members ++ newline level ++ ['}']

def prettyItems (level : Nat) : List Tree → List Char
  | [] => []
  | [t] => newline level ++ t.pretty level
  | t :: rest => newline level ++ t.pretty level ++ ',' :: prettyItems level rest

def prettyMembers (level : Nat) : List (String × Tree) → List Char
  | [] => []
  | [(k, t)] => newline level ++ quoted k ++ ':' :: ' ' :: t.pretty level
  | (k, t) :: rest =>
    newline level ++ quoted k ++ ':' :: ' ' :: (t.pretty level ++ ',' :: prettyMembers level rest)

end

end Tree

end EdgeTiling.Json
