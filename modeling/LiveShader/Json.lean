/-!
# JSON values

A JSON value as a tree. An object keeps its members in the order in which they were
given; `sorted` puts the members of all objects in the order of their keys. `pretty`
is the one written form: two blanks a level, one member a line, and no line for an
empty array or object.
-/

namespace LiveShader

/-- A JSON value. -/
inductive Json where
  | null
  | bool (value : Bool)
  | number (value : Int)
  | string (text : String)
  | array (items : List Json)
  | object (members : List (String × Json))
deriving Inhabited

namespace Json

/-- The value of a natural number. -/
def ofNat (value : Nat) : Json := .number value

/-- The hexadecimal digit with a value below sixteen. -/
def hexDigit (value : Nat) : Char :=
  if value < 10 then Char.ofNat (48 + value) else Char.ofNat (87 + value)

/-- A character as it is written between quotes: quote, backslash and the control
characters below U+0020 are escaped, and nothing else. -/
def escape (character : Char) : List Char :=
  match character with
  | '"' => ['\\', '"']
  | '\\' => ['\\', '\\']
  | '\n' => ['\\', 'n']
  | '\r' => ['\\', 'r']
  | '\t' => ['\\', 't']
  | '\x08' => ['\\', 'b']
  | '\x0c' => ['\\', 'f']
  | _ =>
    if character.toNat < 0x20 then
      ['\\', 'u', '0', '0', hexDigit (character.toNat / 16), hexDigit (character.toNat % 16)]
    else
      [character]

/-- A text between quotes. -/
def quote (text : String) : String :=
  String.ofList ('"' :: text.toList.flatMap escape ++ ['"'])

/-- The blanks in front of a line at some depth. -/
def indent (depth : Nat) : String :=
  String.ofList (List.replicate (2 * depth) ' ')

/-- Parts between brackets, each on a line of its own, one level deeper than the
brackets. Without parts the brackets stand together. -/
def enclose (left right : String) (depth : Nat) (parts : List String) : String :=
  if parts.isEmpty then left ++ right
  else
    left ++ "\n" ++
      ",\n".intercalate (parts.map fun part => indent (depth + 1) ++ part) ++
      "\n" ++ indent depth ++ right

mutual

/-- A value as it is written at some depth. -/
def write (depth : Nat) : Json → String
  | .null => "null"
  | .bool true => "true"
  | .bool false => "false"
  | .number value => toString value
  | .string text => quote text
  | .array items => enclose "[" "]" depth (writeItems (depth + 1) items)
  | .object members => enclose "\x7b" "\x7d" depth (writeMembers (depth + 1) members)

/-- The items of an array as they are written at some depth. -/
def writeItems (depth : Nat) : List Json → List String
  | [] => []
  | item :: items => write depth item :: writeItems depth items

/-- The members of an object as they are written at some depth. -/
def writeMembers (depth : Nat) : List (String × Json) → List String
  | [] => []
  | (key, value) :: members =>
    (quote key ++ ": " ++ write depth value) :: writeMembers depth members

end

/-- The written form of a value. -/
def pretty (value : Json) : String :=
  value.write 0

/-- Put a member among members in the order of their keys. Of two members with one key
the one put in later stays. -/
def insertMember (key : String) (value : Json) : List (String × Json) → List (String × Json)
  | [] => [(key, value)]
  | (otherKey, other) :: members =>
    if key < otherKey then (key, value) :: (otherKey, other) :: members
    else if key = otherKey then (otherKey, other) :: members
    else (otherKey, other) :: insertMember key value members

mutual

/-- The value with the members of all its objects in the order of their keys. -/
def sorted : Json → Json
  | .array items => .array (sortedItems items)
  | .object members => .object (sortedMembers members)
  | value => value

/-- The items, each sorted. -/
def sortedItems : List Json → List Json
  | [] => []
  | item :: items => item.sorted :: sortedItems items

/-- The members in the order of their keys, each sorted. -/
def sortedMembers : List (String × Json) → List (String × Json)
  | [] => []
  | (key, value) :: members => insertMember key value.sorted (sortedMembers members)

end

/-- The value of a member of an object. -/
def get? (value : Json) (key : String) : Option Json :=
  match value with
  | .object members => members.lookup key
  | _ => none

end Json

end LiveShader
