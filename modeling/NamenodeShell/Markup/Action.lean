import NamenodeShell.Text.Blank
import NamenodeShell.Text.Hex
import NamenodeShell.Text.Printable

/-!
# Actions

A tag whose name begins with an at sign ties an action to a stretch of text. What stands behind its
equals sign is the name of a handler, perhaps with arguments in parentheses, or arguments alone. The
action is never carried out here, but its arguments have to be values written out: numbers, quoted
texts, the three words for truth, falsehood and nothing, and groups of these in parentheses or
braces. `isReadable` says whether they are.
-/
set_option autoImplicit false

namespace NamenodeShell.Markup.Action

/-- What is known of a value: whether it is a number, an imaginary one, a text or bytes, and whether
it may be a member of a set. -/
inductive Kind where
  | number
  | imaginary
  | text
  | bytes
  | member
  | container
  deriving DecidableEq, Repr

/-- A value, and what is left behind it. -/
abbrev Read := Kind × List Char

/-- The blanks between the parts of a value. -/
def skip (cs : List Char) : List Char :=
  cs.dropWhile fun c => c == ' ' || c == '\t' || c == '\x0c' || c == '\n'

/-- The characters of words and numbers. -/
def isWordChar (c : Char) : Bool :=
  c.isAlphanum || c == '_' || (0x80 ≤ c.toNat && Text.isPrintable c && !Text.isBlank c)

/-! ## Words and numbers -/

/-- Digits with single underscores between them. -/
def isDigits (isDigit : Char → Bool) : List Char → Bool
  | [] => false
  | [c] => isDigit c
  | c :: '_' :: rest => isDigit c && isDigits isDigit rest
  | c :: rest => isDigit c && isDigits isDigit rest

/-- Whether a text is a whole number: one to another base behind a zero and a letter, zeros alone,
or one that does not begin with a zero. -/
def isWhole : List Char → Bool
  | '0' :: letter :: rest =>
    let digits := match rest with
      | '_' :: rest => rest
      | rest => rest
    if letter == 'x' || letter == 'X' then isDigits (fun c => (Text.hexValue? c).isSome) digits
    else if letter == 'o' || letter == 'O' then isDigits (fun c => '0' ≤ c && c ≤ '7') digits
    else if letter == 'b' || letter == 'B' then isDigits (fun c => c == '0' || c == '1') digits
    else isDigits (· == '0') ('0' :: letter :: rest)
  | cs => isDigits Char.isDigit cs

/-- Whether a text is a number with a point or an exponent or both. -/
def isDecimal (cs : List Char) : Bool :=
  let isE (c : Char) : Bool := c == 'e' || c == 'E'
  let mantissa := cs.takeWhile fun c => !isE c
  let exponent := match cs.dropWhile fun c => !isE c with
    | [] => true
    | _ :: '-' :: ds => isDigits Char.isDigit ds
    | _ :: '+' :: ds => isDigits Char.isDigit ds
    | _ :: ds => isDigits Char.isDigit ds
  let whole := mantissa.takeWhile (· ≠ '.')
  match mantissa.dropWhile (· ≠ '.') with
  | [] => isDigits Char.isDigit whole && exponent
  | _ :: fraction =>
    (whole.isEmpty || isDigits Char.isDigit whole) &&
      (fraction.isEmpty || isDigits Char.isDigit fraction) &&
      !(whole.isEmpty && fraction.isEmpty) && exponent

/-- The characters of a number: a sign belongs to it behind the letter of an exponent. -/
def takeNumber : (last : Char) → List Char → List Char × List Char
  | _, [] => ([], [])
  | last, c :: rest =>
    if isWordChar c || c == '.' || ((c == '-' || c == '+') && (last == 'e' || last == 'E')) then
      let (more, behind) := takeNumber c rest
      (c :: more, behind)
    else ([], c :: rest)

/-- A number. -/
def number? (cs : List Char) : Option Read :=
  let (number, rest) := takeNumber ' ' cs
  let real := number.dropLast
  match number.getLast? with
  | some 'j' | some 'J' =>
    if isDecimal real then some (.imaginary, rest) else none
  | _ =>
    if isWhole number || (isDecimal number && !number.all fun c => c.isDigit || c == '_') then
      some (.number, rest)
    else none

/-! ## Quoted texts -/

/-- How many hexadecimal digits an escape has. -/
def escapeDigits : Char → Nat
  | 'x' => 2
  | 'u' => 4
  | 'U' => 8
  | _ => 0

/-- What stands behind the quote that ends a text. -/
def quoteEnd? (mark : Char) (raw bytes : Bool) : (fuel : Nat) → List Char → Option (List Char)
  | 0, _ => none
  | _ + 1, [] => none
  | fuel + 1, c :: rest =>
    if c == mark then some rest
    else if c == '\n' then none
    else if bytes && 0x80 ≤ c.toNat then none
    else if c == '\\' then
      match rest with
      | [] => none
      | e :: after =>
        let count := if raw || (bytes && e != 'x') then 0 else escapeDigits e
        let digits := after.take count
        if digits.length = count && digits.all (fun d => (Text.hexValue? d).isSome) &&
            !(e == 'N' && !raw && !bytes) then
          quoteEnd? mark raw bytes fuel (after.drop count)
        else none
    else quoteEnd? mark raw bytes fuel rest

/-- A quoted text behind its opening quote. -/
def quoted? (mark : Char) (raw bytes : Bool) (cs : List Char) : Option Read :=
  (quoteEnd? mark raw bytes (cs.length + 1) cs).map fun rest =>
    (if bytes then .bytes else .text, rest)

/-- A word, or a text whose quote follows letters that say how it is written. -/
def word? (cs : List Char) : Option Read :=
  let letters := String.ofList (cs.takeWhile isWordChar)
  let lowered := String.ofList (letters.toList.map Char.toLower)
  match cs.dropWhile isWordChar with
  | '\'' :: rest | '"' :: rest =>
    let mark := if (cs.dropWhile isWordChar).head? == some '"' then '"' else '\''
    match lowered with
    | "" | "u" => quoted? mark false false rest
    | "r" => quoted? mark true false rest
    | "b" => quoted? mark false true rest
    | "rb" | "br" => quoted? mark true true rest
    | _ => none
  | rest =>
    if ["None", "True", "False"].contains letters then some (.member, rest)
    else match rest with
      | '.' :: '.' :: '.' :: rest => if letters = "" then some (.member, rest) else none
      | _ => none

/-! ## Values -/

/-- Quoted texts that follow each other without anything between them are one. -/
def joined? (kind : Kind) : (fuel : Nat) → List Char → Option Read
  | 0, cs => some (kind, cs)
  | fuel + 1, cs =>
    match word? (skip cs) with
    | some (.text, rest) => if kind = .text then joined? kind fuel rest else none
    | some (.bytes, rest) => if kind = .bytes then joined? kind fuel rest else none
    | _ => some (kind, cs)

/-- What values in parentheses are together. -/
def group (kinds : List Kind) : Kind :=
  if kinds.contains .container then .container else .member

mutual

/-- A value without a sign. -/
def atom? : (fuel : Nat) → List Char → Option Read
  | 0, _ => none
  | _ + 1, [] => none
  | fuel + 1, '(' :: rest =>
    match skip rest with
    | ')' :: rest => some (.member, rest)
    | rest => do
      let (kinds, comma, rest) ← items? fuel rest
      match rest, kinds with
      | ')' :: rest, [kind] => if comma then some (group kinds, rest) else some (kind, rest)
      | ')' :: rest, _ => some (group kinds, rest)
      | _, _ => none
  | fuel + 1, '\x7b' :: rest =>
    match skip rest with
    | '\x7d' :: rest => some (.container, rest)
    | rest => braces? fuel rest
  | _ + 1, c :: rest =>
    if c.isDigit || (c == '.' && (rest.head?.map Char.isDigit).getD false) then number? (c :: rest)
    else
      match word? (c :: rest) with
      | some (.text, behind) => joined? .text behind.length behind
      | some (.bytes, behind) => joined? .bytes behind.length behind
      | r => r

/-- A value with a sign, or a number and an imaginary one put together by a sign. -/
def value? : (fuel : Nat) → List Char → Option Read
  | 0, _ => none
  | fuel + 1, cs => do
    let (signed, behind) := match skip cs with
      | '-' :: rest => (true, rest)
      | '+' :: rest => (true, rest)
      | rest => (false, rest)
    let (kind, rest) ← atom? fuel (skip behind)
    if signed && kind != .number && kind != .imaginary then none
    else match skip rest with
      | '-' :: more | '+' :: more =>
        match kind, atom? fuel (skip more) with
        | .number, some (.imaginary, rest) => some (.imaginary, skip rest)
        | _, _ => none
      | rest => some (kind, rest)

/-- Values with commas between them, and whether a comma ends them or separates any. -/
def items? : (fuel : Nat) → List Char → Option (List Kind × Bool × List Char)
  | 0, _ => none
  | fuel + 1, cs => do
    let (kind, rest) ← value? fuel cs
    match rest with
    | ',' :: rest =>
      match skip rest with
      | [] => some ([kind], true, [])
      | ')' :: rest => some ([kind], true, ')' :: rest)
      | rest => do
        let (kinds, _, rest) ← items? fuel rest
        some (kind :: kinds, true, rest)
    | rest => some ([kind], false, rest)

/-- The members of a set, or the names and values of a table. -/
def braces? : (fuel : Nat) → List Char → Option Read
  | 0, _ => none
  | fuel + 1, cs => do
    let (kind, rest) ← value? fuel cs
    if kind = .container then none
    else match rest with
      | ':' :: rest => do
        let (_, rest) ← value? fuel rest
        pairs? fuel rest
      | '\x7d' :: rest => some (.container, rest)
      | ',' :: rest => members? fuel (skip rest)
      | _ => none

/-- The members of a set from the next one on. -/
def members? : (fuel : Nat) → List Char → Option Read
  | 0, _ => none
  | _ + 1, '\x7d' :: rest => some (.container, rest)
  | fuel + 1, cs => do
    let (kind, rest) ← value? fuel cs
    if kind = .container then none
    else match rest with
      | '\x7d' :: rest => some (.container, rest)
      | ',' :: rest => members? fuel (skip rest)
      | _ => none

/-- The names and values of a table behind one of them. -/
def pairs? : (fuel : Nat) → List Char → Option Read
  | 0, _ => none
  | _ + 1, '\x7d' :: rest => some (.container, rest)
  | fuel + 1, ',' :: rest =>
    match skip rest with
    | '\x7d' :: rest => some (.container, rest)
    | rest => do
      let (kind, rest) ← value? fuel rest
      if kind = .container then none
      else match rest with
        | ':' :: rest => do
          let (_, rest) ← value? fuel rest
          pairs? fuel rest
        | _ => none
  | _, _ => none

end

/-- Whether a text is a value written out, or several with commas between them. A value spends at
most three units of fuel on a character. -/
def isWritten (cs : List Char) : Bool :=
  match items? (3 * cs.length + 3) (cs.dropWhile fun c => c == ' ' || c == '\t') with
  | some (_, _, rest) => (skip rest).isEmpty
  | none => false

/-- What stands in parentheses behind the name of a handler, if the text has that form: a name,
which may be missing, and perhaps a pair of parentheses that ends the text. -/
def argumentsOf? (cs : List Char) : Option (List Char) :=
  let rest := cs.dropWhile fun c => isWordChar c || c == '.'
  match rest with
  | [] => some ['(', ')']
  | '(' :: _ => if rest.getLast? == some ')' && !rest.contains '\n' then some rest else none
  | _ => none

/-- **Whether the arguments of an action are values written out.** -/
def isReadable (parameters : List Char) : Bool :=
  let cs := Text.strip parameters
  isWritten ((argumentsOf? cs).getD cs)

end NamenodeShell.Markup.Action
