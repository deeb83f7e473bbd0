/-!
# Bytes

The contents of files and bodies. A text goes out as UTF-8 and comes back from it, where each
longest beginning of a character that is never finished reads as one replacement character; a body
that is there as a whole is taken in chunks of one size, the last of which may be shorter.
-/
set_option autoImplicit false

namespace NamenodeShell

/-- A sequence of bytes. -/
abbrev Bytes := List UInt8

namespace Bytes

/-- The UTF-8 of a text. -/
def ofText (s : String) : Bytes :=
  s.toList.flatMap String.utf8EncodeChar

/-- A character of which some bytes have been read: the value they give, how many more are needed,
and the least and greatest byte that may come next. -/
structure Pending where
  value : Nat
  need : Nat
  low : Nat := 0x80
  high : Nat := 0xBF

/-- What the first byte of a character gives: a character, or the promise of one. -/
def first (b : Nat) : Char ⊕ Pending :=
  if b < 0x80 then .inl (Char.ofNat b)
  else if b < 0xC2 then .inl '\uFFFD'
  else if b < 0xE0 then .inr { value := b - 0xC0, need := 1 }
  else if b < 0xF0 then
    .inr { value := b - 0xE0, need := 2
           low := if b = 0xE0 then 0xA0 else 0x80, high := if b = 0xED then 0x9F else 0xBF }
  else if b < 0xF5 then
    .inr { value := b - 0xF0, need := 3
           low := if b = 0xF0 then 0x90 else 0x80, high := if b = 0xF4 then 0x8F else 0xBF }
  else .inl '\uFFFD'

/-- The characters of bytes read after the bytes of `pending`. -/
def decode : (pending : Option Pending) → Bytes → List Char
  | none, [] => []
  | some _, [] => ['\uFFFD']
  | none, b :: rest =>
    match first b.toNat with
    | .inl c => c :: decode none rest
    | .inr p => decode (some p) rest
  | some p, b :: rest =>
    if p.low ≤ b.toNat ∧ b.toNat ≤ p.high then
      let value := p.value * 64 + (b.toNat - 0x80)
      if p.need ≤ 1 then Char.ofNat value :: decode none rest
      else decode (some { value, need := p.need - 1 }) rest
    else
      '\uFFFD' :: match first b.toNat with
        | .inl c => c :: decode none rest
        | .inr q => decode (some q) rest

/-- The text of bytes. -/
def text (b : Bytes) : String :=
  .ofList (decode none b)

/-- **The chunks of a body** that is asked for so many bytes at a time: each of that size while
there is as much left, none of them empty. A size of zero counts as one. -/
def chunks (size : Nat) : Bytes → List Bytes
  | [] => []
  | b :: rest => (b :: rest.take (size - 1)) :: chunks size (rest.drop (size - 1))
termination_by bytes => bytes.length
decreasing_by
  simp only [List.length_drop, List.length_cons]
  omega

end Bytes

end NamenodeShell
