import Interprocess.Text.Numeral

/-!
# Reading JSON

A strict reader of JSON texts: one value, blanks around its tokens, nothing after it. Of a number
only its whole, unsigned, exactly written form has a value here; of a text only one whose escapes
spell characters.
-/

namespace Interprocess

/-- A value as a JSON text writes it. -/
inductive Json where
  | null
  | bool (b : Bool)
  /-- A number; `none` unless it is written with digits alone. -/
  | number (n : Option Nat)
  /-- A text; `none` if an escape in it names half of a character. -/
  | text (s : Option String)
  | array (items : List Json)
  /-- The members in the order of the text, repeated names included. -/
  | object (members : List (Option String × Json))
  deriving Inhabited

namespace Json

/-! ## Tokens -/

def isBlank (c : Char) : Bool :=
  c == ' ' || c == '\n' || c == '\t' || c == '\r'

/-- The characters after any blanks. -/
def skipBlanks (cs : List Char) : List Char :=
  cs.dropWhile isBlank

/-- What follows `word`, if the characters start with it. -/
def expect : (word : List Char) → List Char → Option (List Char)
  | [], cs => some cs
  | w :: word, c :: cs => if w = c then expect word cs else none
  | _ :: _, [] => none

/-- The number that four hexadecimal digits spell, and what follows them. -/
def readUnit : List Char → Option (Nat × List Char)
  | a :: b :: c :: d :: rest => do
    let a ← digitValue? a
    let b ← digitValue? b
    let c ← digitValue? c
    let d ← digitValue? d
    some (((a * 16 + b) * 16 + c) * 16 + d, rest)
  | _ => none

/-- The character of a one-letter escape. -/
def shortEscape : Char → Option Char
  | '"' => some '"'
  | '\\' => some '\\'
  | '/' => some '/'
  | 'b' => some '\x08'
  | 'f' => some '\x0c'
  | 'n' => some '\n'
  | 'r' => some '\r'
  | 't' => some '\t'
  | _ => none

/-- The pieces of a text up to its closing quote: characters, and 16-bit units that were written as
escapes. -/
def readPieces : Nat → List Char → Option (List (Char ⊕ Nat) × List Char)
  | 0, _ => none
  | _ + 1, [] => none
  | _ + 1, '"' :: rest => some ([], rest)
  | fuel + 1, '\\' :: 'u' :: rest => do
    let (unit, rest) ← readUnit rest
    let (pieces, rest) ← readPieces fuel rest
    some (.inr unit :: pieces, rest)
  | fuel + 1, '\\' :: c :: rest => do
    let c ← shortEscape c
    let (pieces, rest) ← readPieces fuel rest
    some (.inl c :: pieces, rest)
  | fuel + 1, c :: rest =>
    if c.toNat < 0x20 ∨ c = '\\' then none
    else do
      let (pieces, rest) ← readPieces fuel rest
      some (.inl c :: pieces, rest)

/-- The characters that pieces spell: a high and a low surrogate make one character, a surrogate
that stands alone makes none. -/
def joinPieces : List (Char ⊕ Nat) → Option (List Char)
  | [] => some []
  | .inl c :: rest => (joinPieces rest).map (c :: ·)
  | .inr unit :: rest =>
    if unit < 0xd800 ∨ 0xdfff < unit then (joinPieces rest).map (Char.ofNat unit :: ·)
    else if 0xdbff < unit then none
    else match rest with
      | .inr low :: rest =>
        if low < 0xdc00 ∨ 0xdfff < low then none
        else (joinPieces rest).map
          (Char.ofNat (0x10000 + (unit - 0xd800) * 0x400 + (low - 0xdc00)) :: ·)
      | _ => none

/-- A text after its opening quote. -/
def readText (cs : List Char) : Option (Option String × List Char) := do
  let (pieces, rest) ← readPieces (cs.length + 1) cs
  some ((joinPieces pieces).map String.ofList, rest)

/-- One or more digits, and what follows them. -/
def readSomeDigits (cs : List Char) : Option (List Char × List Char) :=
  let digits := cs.takeWhile Char.isDigit
  if digits.isEmpty then none else some (digits, cs.dropWhile Char.isDigit)

/-- What follows the fraction, if one is there. -/
def skipFraction : List Char → Option (Bool × List Char)
  | '.' :: rest => (readSomeDigits rest).map fun (_, rest) => (true, rest)
  | cs => some (false, cs)

/-- What follows the exponent, if one is there. -/
def skipExponent : List Char → Option (Bool × List Char)
  | 'e' :: rest | 'E' :: rest =>
    let digits := match rest with
      | '+' :: rest | '-' :: rest => rest
      | rest => rest
    (readSomeDigits digits).map fun (_, rest) => (true, rest)
  | cs => some (false, cs)

/-- A number: no zero before another digit, digits on both sides of a point. -/
def readNumber (cs : List Char) : Option (Option Nat × List Char) := do
  let (negative, digits) := match cs with
    | '-' :: rest => (true, rest)
    | cs => (false, cs)
  let (whole, rest) ← readSomeDigits digits
  if whole.head? = some '0' ∧ whole.length ≠ 1 then none
  else do
    let (fraction, rest) ← skipFraction rest
    let (exponent, rest) ← skipExponent rest
    let value := whole.foldl (fun n c => 10 * n + (c.toNat - 48)) 0
    some (if negative ∨ fraction ∨ exponent then none else some value, rest)

/-! ## Values -/

mutual

/-- A value and what follows it. The fuel bounds the depth and length of what is read. -/
def readValue : Nat → List Char → Option (Json × List Char)
  | 0, _ => none
  | fuel + 1, cs =>
    match skipBlanks cs with
    | 'n' :: rest => (expect "ull".toList rest).map (.null, ·)
    | 't' :: rest => (expect "rue".toList rest).map (.bool true, ·)
    | 'f' :: rest => (expect "alse".toList rest).map (.bool false, ·)
    | '"' :: rest => (readText rest).map fun (s, rest) => (.text s, rest)
    | '[' :: rest =>
      match skipBlanks rest with
      | ']' :: rest => some (.array [], rest)
      | rest => (readItems fuel rest).map fun (items, rest) => (.array items, rest)
    | '{' :: rest =>
      match skipBlanks rest with
      | '}' :: rest => some (.object [], rest)
      | rest => (readMembers fuel rest).map fun (members, rest) => (.object members, rest)
    | rest => (readNumber rest).map fun (n, rest) => (.number n, rest)

/-- The items of an array that is not empty, up to its bracket. -/
def readItems : Nat → List Char → Option (List Json × List Char)
  | 0, _ => none
  | fuel + 1, cs => do
    let (item, rest) ← readValue fuel cs
    match skipBlanks rest with
    | ',' :: rest => do
      let (items, rest) ← readItems fuel rest
      some (item :: items, rest)
    | ']' :: rest => some ([item], rest)
    | _ => none

/-- The members of an object that is not empty, up to its brace. -/
def readMembers : Nat → List Char → Option (List (Option String × Json) × List Char)
  | 0, _ => none
  | fuel + 1, cs =>
    match skipBlanks cs with
    | '"' :: rest => do
      let (name, rest) ← readText rest
      match skipBlanks rest with
      | ':' :: rest => do
        let (value, rest) ← readValue fuel rest
        match skipBlanks rest with
        | ',' :: rest => do
          let (members, rest) ← readMembers fuel rest
          some ((name, value) :: members, rest)
        | '}' :: rest => some ([(name, value)], rest)
        | _ => none
      | _ => none
    | _ => none

end

def read (s : String) : Option Json := do
  let (value, rest) ← readValue (s.length + 2) s.toList
  if (skipBlanks rest).isEmpty then some value else none

/-! ## Records -/

/-- The values of a record's fields, in the order of `names`: an array of as many items, or an
object that has no name twice and whose other members are skipped. A field that is not there is
`none`. -/
def fields (names : List String) : Json → Option (List (Option Json))
  | .array items => if items.length = names.length then some (items.map some) else none
  | .object members =>
    let known := members.filter fun (name, _) => name.any names.contains
    if members.any (·.1.isNone) then none
    else if (known.map (·.1)).Nodup then
      some (names.map fun name => (known.find? (·.1 == some name)).map (·.2))
    else none
  | _ => none

/-- The number of a number that is at most `largest`. -/
def nat? (largest : Nat) : Json → Option Nat
  | .number n => n.filter (· ≤ largest)
  | _ => none

def word? (json : Json) : Option UInt32 :=
  (json.nat? 0xffffffff).map UInt32.ofNat

def bool? : Json → Option Bool
  | .bool b => some b
  | _ => none

def text? : Json → Option String
  | .text s => s
  | _ => none

end Json

end Interprocess
