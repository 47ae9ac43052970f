import PeripheralBus.Json.Scan
import PeripheralBus.Text.Quoted

/-!
# Reading typed data

Readers of single values, objects and lists whose types are known beforehand. The text is read once
from front to back, so a mismatch counts when it is met even if the text is malformed further on.

* `readUnsigned`, `readText`: single values.
* `readMembers`: the members of an object, one after the other.
* `nextElement?`, `closeList`: the elements of a list.
* `complete`: a value that makes up a whole text.
-/

namespace PeripheralBus.Json

/-- The failure for a value of the wrong type, which begins at the next byte. Single values are
read to see what they are. -/
def wrongType (expected : String) (s : Bytes) : Failure :=
  let named (word : String) (found : Found) (rest : Bytes) : Failure :=
    match scanWord word rest with
    | .error f => f
    | .ok rest => .mismatch (.type found expected) rest
  let number (negative : Bool) (rest : Bytes) : Failure :=
    match scanNumber negative rest with
    | .error f => f
    | .ok (n, rest) => .mismatch (.type n.found expected) rest
  match s with
  | [] => .ends .value
  | b :: rest =>
    if b = byte 'n' then named "null" .null rest
    else if b = byte 't' then named "true" (.boolean true) rest
    else if b = byte 'f' then named "false" (.boolean false) rest
    else if b = byte '-' then number true rest
    else if isDigit b then number false s
    else if b = byte '"' then
      match scanString rest with
      | .error f => f
      | .ok (text, rest) => .mismatch (.type (.text (Quoted.text text)) expected) rest
    else if b = byte '[' then .mismatch (.type .list expected) s
    else if b = byte '\x7b' then .mismatch (.type .map expected) s
    else .atNext .expectedValue s

/-- A number as an integer below `bound`. -/
def unsignedOf (bound : Nat) (expected : String) (rest : Bytes) (n : Number) :
    Except Failure (Nat × Bytes) :=
  match n with
  | .unsigned k =>
    if k < bound then .ok (k, rest) else .error (.mismatch (.value n.found expected) rest)
  | .negative _ => .error (.mismatch (.value n.found expected) rest)
  | .fraction _ => .error (.mismatch (.type n.found expected) rest)

/-- An integer below `bound`. -/
def readUnsigned (bound : Nat) (expected : String) (s : Bytes) : Except Failure (Nat × Bytes) :=
  match skipBlanks s with
  | [] => .error (.ends .value)
  | b :: rest =>
    if b = byte '-' then
      match scanNumber true rest with
      | .error f => .error f
      | .ok (n, rest) => unsignedOf bound expected rest n
    else if isDigit b then
      match scanNumber false (b :: rest) with
      | .error f => .error f
      | .ok (n, rest) => unsignedOf bound expected rest n
    else .error (wrongType expected (b :: rest))

/-- A string. -/
def readText (expected : String) (s : Bytes) : Except Failure (String × Bytes) :=
  match skipBlanks s with
  | [] => .error (.ends .value)
  | b :: rest => if b = byte '"' then scanString rest else .error (wrongType expected (b :: rest))

/-- The colon between a key and its value. -/
def readColon (s : Bytes) : Except Failure Bytes :=
  match skipBlanks s with
  | [] => .error (.ends .object)
  | b :: rest => if b = byte ':' then .ok rest else .error (.atNext .expectedColon (b :: rest))

/-- The value after a key. -/
def readValue {α : Type} (reader : Bytes → Except Failure (α × Bytes)) (s : Bytes) :
    Except Failure (α × Bytes) :=
  match readColon s with
  | .error f => .error f
  | .ok rest => reader rest

/-- The failure for a key that was there before. Its place is after the end of the object if that
comes next. -/
def duplicate (name : String) (s : Bytes) : Failure :=
  .mismatch (.duplicateField name) <|
    match skipBlanks s with
    | [] => []
    | b :: rest => if b = byte '\x7d' then rest else b :: rest

/-- The key of the next member after its opening quote is met, or the failure when something else
is met. -/
def readKey (s : Bytes) : Except Failure (String × Bytes) :=
  match s with
  | [] => .error (.ends .value)
  | b :: rest =>
    if b = byte '"' then scanString rest
    else if b = byte '\x7d' then .error (.atNext .trailingComma s)
    else .error (.atNext .keyNotString s)

/-- The members of an object after its opening brace, up to and with the closing one. `member`
gets the bytes after a key. `fuel` bounds the number of members. -/
def readMembersWithin {α : Type} (member : α → String → Bytes → Except Failure (α × Bytes)) :
    Nat → Bool → α → Bytes → Except Failure (α × Bytes)
  | 0, _, _, _ => .error (.ends .object)
  | fuel + 1, first, state, s =>
    let continueAt (s : Bytes) : Except Failure (α × Bytes) :=
      match readKey s with
      | .error f => .error f
      | .ok (key, rest) =>
        match member state key rest with
        | .error f => .error f
        | .ok (state, rest) => readMembersWithin member fuel false state rest
    match skipBlanks s with
    | [] => .error (.ends .object)
    | b :: rest =>
      if b = byte '\x7d' then .ok (state, rest)
      else if first then continueAt (b :: rest)
      else if b = byte ',' then continueAt (skipBlanks rest)
      else .error (.atNext .expectedObjectCommaOrEnd (b :: rest))

/-- The members of an object after its opening brace. Each member has a byte of its own, so the
length is enough fuel. -/
def readMembers {α : Type} (member : α → String → Bytes → Except Failure (α × Bytes))
    (start : α) (s : Bytes) : Except Failure (α × Bytes) :=
  readMembersWithin member (s.length + 1) true start s

/-- Where the next element of a list begins, or what follows the list when it ends. -/
def nextElement? (first : Bool) (s : Bytes) : Except Failure (Bytes ⊕ Bytes) :=
  match skipBlanks s with
  | [] => .error (.ends .list)
  | b :: rest =>
    if b = byte ']' then .ok (.inr rest)
    else if first then .ok (.inl (b :: rest))
    else if b = byte ',' then
      match skipBlanks rest with
      | [] => .error (.ends .value)
      | c :: rest =>
        if c = byte ']' then .error (.atNext .trailingComma (c :: rest))
        else .ok (.inl (c :: rest))
    else .error (.atNext .expectedListCommaOrEnd (b :: rest))

/-- The end of a list that can have no more elements. -/
def closeList (s : Bytes) : Except Failure Bytes :=
  match skipBlanks s with
  | [] => .error (.ends .list)
  | b :: rest =>
    if b = byte ']' then .ok rest
    else if b = byte ',' then
      match skipBlanks rest with
      | [] => .error (.after .trailingCharacters [])
      | c :: rest =>
        .error (.atNext (if c = byte ']' then .trailingComma else .trailingCharacters) (c :: rest))
    else .error (.atNext .trailingCharacters (b :: rest))

/-- A record of named fields, written as a list of their values or as an object. -/
def readRecord {α : Type} (expected : String) (list object : Bytes → Except Failure (α × Bytes))
    (s : Bytes) : Except Failure (α × Bytes) :=
  match skipBlanks s with
  | [] => .error (.ends .value)
  | b :: rest =>
    if b = byte '[' then list rest
    else if b = byte '\x7b' then object rest
    else .error (wrongType expected (b :: rest))

/-- A value that is the whole text, blanks apart. -/
def complete {α : Type} (reader : Bytes → Except Failure (α × Bytes)) (text : Bytes) :
    Except Error α :=
  match reader text with
  | .error f => .error (f.locate text)
  | .ok (value, rest) =>
    match skipBlanks rest with
    | [] => .ok value
    | more => .error ((Failure.atNext .trailingCharacters more).locate text)

end PeripheralBus.Json
