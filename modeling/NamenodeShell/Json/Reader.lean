import NamenodeShell.Json.Basic
import NamenodeShell.Decimal.Reading

/-!
# Reading JSON

The reader of answer bodies. It takes a whole text to one value or says what is wrong and where:
`Json.read` is the one entry, `SyntaxError.message` the wording. Beyond the standard it knows the
words for the infinities and for no number, and among members of one name the last counts.

Every function takes the characters still to be read together with the position of the first of
them. The three functions that call each other spend one unit of fuel a call; a text of `n`
characters cannot nest or continue more than `2 n + 1` times, so `read` gives that much.
-/
set_option autoImplicit false

namespace NamenodeShell.Json

/-- What can be wrong with a text. -/
inductive Problem where
  | noValue
  | trailing
  | noColon
  | noComma
  | noName
  | controlCharacter
  | unterminated
  | badEscape
  | badUnicodeEscape
  | byteOrderMark
  | tooManyDigits (digits : Nat)
  /-- A list or an object lies inside too many others. -/
  | tooDeep (inObject : Bool)
  deriving DecidableEq

/-- What a problem is called. -/
def Problem.message : Problem → String
  | noValue => "Expecting value"
  | trailing => "Extra data"
  | noColon => "Expecting ':' delimiter"
  | noComma => "Expecting ',' delimiter"
  | noName => "Expecting property name enclosed in double quotes"
  | controlCharacter => "Invalid control character at"
  | unterminated => "Unterminated string starting at"
  | badEscape => "Invalid \\escape"
  | badUnicodeEscape => "Invalid \\uXXXX escape"
  | byteOrderMark => "Unexpected UTF-8 BOM (decode using utf-8-sig)"
  | tooManyDigits digits => Decimal.overlongMessage digits
  | tooDeep inObject =>
    let kind := if inObject then "object" else "array"
    s!"maximum recursion depth exceeded while decoding a JSON {kind} from a unicode string"

/-- **Why a text is not JSON**: the problem, and the place as a count of characters before it, as a
line from one and as a column from one. -/
structure SyntaxError where
  problem : Problem
  offset : Nat
  line : Nat
  column : Nat
  deriving DecidableEq

/-- The place of the character `offset` of a text. -/
def SyntaxError.at (cs : List Char) (problem : Problem) (offset : Nat) : SyntaxError :=
  let before := cs.take offset
  { problem, offset
    line := before.count '\n' + 1
    column := (before.reverse.takeWhile (· != '\n')).length + 1 }

/-- The error as a message. -/
def SyntaxError.message (e : SyntaxError) : String :=
  match e.problem with
  | .tooManyDigits _ | .tooDeep _ => e.problem.message
  | p => s!"{p.message}: line {e.line} column {e.column} (char {e.offset})"

/-- A problem with the offset where it shows. -/
abbrev Fault := Problem × Nat

/-- What is read, what is left, and the offset of what is left. -/
structure Parsed (α : Type) where
  value : α
  rest : List Char
  pos : Nat

/-- The four blanks JSON allows between its tokens. -/
def isGap (c : Char) : Bool :=
  c == ' ' || c == '\t' || c == '\n' || c == '\r'

/-- Blanks dropped, and the offset after them. -/
def skipGaps : List Char → Nat → List Char × Nat
  | [], pos => ([], pos)
  | c :: rest, pos => if isGap c then skipGaps rest (pos + 1) else (c :: rest, pos)

/-- Four hexadecimal digits, when there are four. -/
def fourHex? : List Char → Option (Nat × List Char)
  | a :: b :: c :: d :: rest => do
    let a ← Text.hexValue? a
    let b ← Text.hexValue? b
    let c ← Text.hexValue? c
    let d ← Text.hexValue? d
    return (((a * 16 + b) * 16 + c) * 16 + d, rest)
  | _ => none

/-- What the letter after a backslash stands for. -/
def escapedChar? : Char → Option Char
  | '"' => some '"'
  | '\\' => some '\\'
  | '/' => some '/'
  | 'b' => some '\x08'
  | 'f' => some '\x0c'
  | 'n' => some '\n'
  | 'r' => some '\r'
  | 't' => some '\t'
  | _ => none

/-- The second half of a surrogate pair, when one follows a first half. -/
def lowSurrogate? (high : Nat) : List Char → Except Unit (Option (Nat × List Char))
  | '\\' :: 'u' :: rest =>
    if 0xD800 ≤ high ∧ high ≤ 0xDBFF ∧ !(rest.drop 4).isEmpty then
      match fourHex? rest with
      | some (low, rest) =>
        if 0xDC00 ≤ low ∧ low ≤ 0xDFFF then
          .ok (some (0x10000 + (high - 0xD800) * 0x400 + (low - 0xDC00), rest))
        else .ok none
      | none => .error ()
    else .ok none
  | _ => .ok none

/-- The characters of a text up to its closing quote. `start` is the offset of the opening quote.
There is more fuel than there are characters left. -/
def textTail : (fuel : Nat) → (start : Nat) → (acc : List Char) → List Char → Nat →
    Except Fault (Parsed String)
  | 0, start, _, _, _ => .error (.unterminated, start)
  | _ + 1, start, _, [], _ => .error (.unterminated, start)
  | fuel + 1, start, acc, c :: rest, pos =>
    if c == '"' then .ok ⟨.ofList acc.reverse, rest, pos + 1⟩
    else if c.toNat ≤ 0x1F then .error (.controlCharacter, pos)
    else if c != '\\' then textTail fuel start (c :: acc) rest (pos + 1)
    else match rest with
      | [] => .error (.unterminated, start)
      | 'u' :: digits =>
        if (digits.drop 4).isEmpty then .error (.badUnicodeEscape, pos + 1)
        else match fourHex? digits with
          | none => .error (.badUnicodeEscape, pos + 1)
          | some (n, after) =>
            match lowSurrogate? n after with
            | .error _ => .error (.badUnicodeEscape, pos + 7)
            | .ok (some (m, after)) => textTail fuel start (Char.ofNat m :: acc) after (pos + 12)
            | .ok none => textTail fuel start (Text.charOfCode n :: acc) after (pos + 6)
      | e :: after =>
        match escapedChar? e with
        | some d => textTail fuel start (d :: acc) after (pos + 2)
        | none => .error (.badEscape, pos)

/-- Digits at the front of a text, and the rest. -/
def takeDigits (cs : List Char) : List Char × List Char :=
  (cs.takeWhile Char.isDigit, cs.dropWhile Char.isDigit)

/-- The digits of a whole part: a zero alone, or a run that does not begin with one. -/
def wholePart? : List Char → Option (List Char × List Char)
  | '0' :: rest => some (['0'], rest)
  | c :: rest => if c.isDigit then some (takeDigits (c :: rest)) else none
  | [] => none

/-- A point with at least one digit after it. -/
def fractionPart : List Char → List Char × List Char
  | '.' :: c :: rest => if c.isDigit then takeDigits (c :: rest) else ([], '.' :: c :: rest)
  | cs => ([], cs)

/-- An exponent with at least one digit: its value, its length and the rest. -/
def exponentPart? : List Char → Option (Int × Nat × List Char)
  | c :: rest =>
    if c == 'e' || c == 'E' then
      let (negative, after) := Decimal.takeSign rest
      let (ds, left) := takeDigits after
      if ds.isEmpty then none
      else
        let n : Int := Decimal.natOfDigits ds
        some (if negative then -n else n, 1 + (rest.length - after.length) + ds.length, left)
    else none
  | [] => none

/-- A number. -/
def number (cs : List Char) (pos : Nat) : Except Fault (Parsed Json) :=
  let (negative, unsigned) := match cs with
    | '-' :: rest => (true, rest)
    | cs => (false, cs)
  match wholePart? unsigned with
  | none => .error (.noValue, pos)
  | some (digits, rest) =>
    let start := pos + if negative then 1 else 0
    let (fraction, afterFraction) := fractionPart rest
    let fractionLength := if fraction.isEmpty then 0 else 1 + fraction.length
    match exponentPart? afterFraction with
    | some (e, length, left) =>
      let x := Decimal.floatOf (Decimal.natOfDigits (digits ++ fraction)) (e - fraction.length)
      .ok ⟨.float (if negative then -x else x), left,
        start + digits.length + fractionLength + length⟩
    | none =>
      if fraction.isEmpty then
        if Decimal.maxDigits < digits.length then .error (.tooManyDigits digits.length, pos)
        else
          let n : Int := Decimal.natOfDigits digits
          .ok ⟨.int (if negative then -n else n), rest, start + digits.length⟩
      else
        let x := Decimal.floatOf (Decimal.natOfDigits (digits ++ fraction)) (-fraction.length)
        .ok ⟨.float (if negative then -x else x), afterFraction,
          start + digits.length + fractionLength⟩

/-- The words, each with what it stands for. -/
def words : List (List Char × Json) :=
  [(['n', 'u', 'l', 'l'], null), (['t', 'r', 'u', 'e'], bool true),
    (['f', 'a', 'l', 's', 'e'], bool false), (['N', 'a', 'N'], float (0.0 / 0.0)),
    (['I', 'n', 'f', 'i', 'n', 'i', 't', 'y'], float (1.0 / 0.0)),
    (['-', 'I', 'n', 'f', 'i', 'n', 'i', 't', 'y'], float (-1.0 / 0.0))]

/-- A word or a number. -/
def scalar (cs : List Char) (pos : Nat) : Except Fault (Parsed Json) :=
  match words.find? fun (w, _) => w.isPrefixOf cs with
  | some (w, v) => .ok ⟨v, cs.drop w.length, pos + w.length⟩
  | none => number cs pos

/-- How many lists and objects may lie one inside the other. The number is not one of the format: it
is how deep one reader gets that is called from the depth at which a shell reads its answers. A
reader with a larger stack, or called from less deep, gets further. -/
def maxNesting : Nat := 980

mutual

/-- A value at the front of a text. `room` is how many lists and objects it may lie in and hold, one
inside the other. -/
def value : (fuel room : Nat) → List Char → Nat → Except Fault (Parsed Json)
  | 0, _, _, pos => .error (.noValue, pos)
  | _ + 1, _, [], pos => .error (.noValue, pos)
  | fuel + 1, room, c :: rest, pos =>
    if c == '"' then
      match textTail fuel pos [] rest (pos + 1) with
      | .error e => .error e
      | .ok ⟨s, rest, pos⟩ => .ok ⟨text s, rest, pos⟩
    else if c == '[' then
      if room = 0 then .error (.tooDeep false, pos)
      else match skipGaps rest (pos + 1) with
        | (']' :: rest, pos) => .ok ⟨list [], rest, pos + 1⟩
        | (rest, pos) => elements fuel (room - 1) [] rest pos
    else if c == '\x7b' then
      if room = 0 then .error (.tooDeep true, pos)
      else match skipGaps rest (pos + 1) with
        | ('\x7d' :: rest, pos) => .ok ⟨object [], rest, pos + 1⟩
        | (rest, pos) => members fuel (room - 1) [] rest pos
    else scalar (c :: rest) pos

/-- The elements of a list from the next one on; those read so far are in reverse. -/
def elements : (fuel room : Nat) → (acc : List Json) → List Char → Nat → Except Fault (Parsed Json)
  | 0, _, _, _, pos => .error (.noValue, pos)
  | fuel + 1, room, acc, cs, pos =>
    match value fuel room cs pos with
    | .error e => .error e
    | .ok ⟨v, rest, pos⟩ =>
      match skipGaps rest pos with
      | (']' :: rest, pos) => .ok ⟨list (v :: acc).reverse, rest, pos + 1⟩
      | (',' :: rest, pos) =>
        let (rest, pos) := skipGaps rest (pos + 1)
        elements fuel room (v :: acc) rest pos
      | (_, pos) => .error (.noComma, pos)

/-- The members of an object from the next one on. -/
def members : (fuel room : Nat) → (acc : List (String × Json)) → List Char → Nat →
    Except Fault (Parsed Json)
  | 0, _, _, _, pos => .error (.noName, pos)
  | _ + 1, _, _, [], pos => .error (.noName, pos)
  | fuel + 1, room, acc, c :: rest, pos =>
    if c != '"' then .error (.noName, pos)
    else match textTail fuel pos [] rest (pos + 1) with
      | .error e => .error e
      | .ok ⟨name, rest, pos⟩ =>
        match skipGaps rest pos with
        | (':' :: rest, pos) =>
          let (rest, pos) := skipGaps rest (pos + 1)
          match value fuel room rest pos with
          | .error e => .error e
          | .ok ⟨v, rest, pos⟩ =>
            match skipGaps rest pos with
            | ('\x7d' :: rest, pos) => .ok ⟨object (insert name v acc), rest, pos + 1⟩
            | (',' :: rest, pos) =>
              let (rest, pos) := skipGaps rest (pos + 1)
              members fuel room (insert name v acc) rest pos
            | (_, pos) => .error (.noComma, pos)
        | (_, pos) => .error (.noColon, pos)

end

/-- A value with nothing but blanks around it. -/
def document (cs : List Char) : Except Fault Json :=
  match cs with
  | '\uFEFF' :: _ => .error (.byteOrderMark, 0)
  | _ =>
    let (rest, pos) := skipGaps cs 0
    match value (2 * cs.length + 2) maxNesting rest pos with
    | .error e => .error e
    | .ok ⟨v, rest, pos⟩ =>
      match skipGaps rest pos with
      | ([], _) => .ok v
      | (_, pos) => .error (.trailing, pos)

/-- **Reads a text.** -/
def read (s : String) : Except SyntaxError Json :=
  let cs := s.toList
  match document cs with
  | .ok v => .ok v
  | .error (problem, offset) => .error (.at cs problem offset)

end NamenodeShell.Json
