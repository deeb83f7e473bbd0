import NamenodeShell.Client
import NamenodeShell.Proofs.Normal

/-!
# URLs say which path they are of

The path in a URL is written with few characters (`IsUrlText`), none of which ends a path there or
stands for anything but itself, and it is told what the path is by reading the escapes back
(`unescaped`) and the bytes as UTF-8 (`fromUTF8?_unescaped`). So a request cannot reach another file
than the one it is for, nor say more in its URL than which file that is (`url_tells_path`).

A slash stands for itself and nothing else is written with one, so a path is written piece by piece
(`pieces_encoded`).
-/
set_option autoImplicit false

namespace NamenodeShell

namespace Url

/-! ## The characters of a URL -/

/-- **A text that may stand for a path in a URL**: letters, digits, a few marks and slashes, and
percent signs with two hexadecimal digits behind each. -/
inductive IsUrlText : List Char → Prop
  | nil : IsUrlText []
  | plain {c : Char} {rest : List Char}
      (hc : c.isAlphanum = true ∨ c ∈ ['_', '.', '-', '~', '/']) (hrest : IsUrlText rest) :
      IsUrlText (c :: rest)
  | escape {high low : Char} {rest : List Char} (hhigh : high.isHexDigit = true)
      (hlow : low.isHexDigit = true) (hrest : IsUrlText rest) :
      IsUrlText ('%' :: high :: low :: rest)

/-- The characters that stand for themselves are the ones that no URL reserves, and the slash. -/
theorem isPlain_iff {c : Char} :
    isPlain c = true ↔ c.isAlphanum = true ∨ c ∈ ['_', '.', '-', '~', '/'] := by
  simp only [isPlain, Bool.or_eq_true, beq_iff_eq, List.mem_cons, List.not_mem_nil, or_false,
    or_assoc]

theorem isHexDigit_upperHexDigit : ∀ n < 16, (Text.upperHexDigit n).isHexDigit = true := by
  decide

theorem hexValue?_upperHexDigit : ∀ n < 16, Text.hexValue? (Text.upperHexDigit n) = some n := by
  decide

/-- Both halves of a byte are digits to base sixteen. -/
theorem halves_lt (b : UInt8) : b.toNat / 16 < 16 ∧ b.toNat % 16 < 16 := by
  have hb := b.toNat_lt
  omega

/-- An escape begins with a percent sign, the one character of a URL that stands for no character of
the path. -/
theorem isUrlText_escapedByte (b : UInt8) {rest : List Char} (h : IsUrlText rest) :
    IsUrlText (escapedByte b ++ rest) := by
  obtain ⟨hhigh, hlow⟩ := halves_lt b
  exact .escape (isHexDigit_upperHexDigit _ hhigh) (isHexDigit_upperHexDigit _ hlow) h

/-- A character is written as itself or as the escapes of its bytes, of which there may be up to
four. -/
theorem isUrlText_encodedChar (c : Char) {rest : List Char} (h : IsUrlText rest) :
    IsUrlText (encodedChar c ++ rest) := by
  unfold encodedChar
  split
  next hc => exact .plain (isPlain_iff.mp hc) h
  next =>
    -- On the bytes of the character, each of which is an escape of its own.
    induction String.utf8EncodeChar c with
    | nil => exact h
    | cons b bytes ih =>
      rw [List.flatMap_cons, List.append_assoc]
      exact isUrlText_escapedByte b ih

/-- **Every path is written with the characters of a URL.** -/
theorem isUrlText_flatMap (cs : List Char) : IsUrlText (cs.flatMap encodedChar) := by
  induction cs with
  | nil => exact .nil
  | cons c cs ih =>
    rw [List.flatMap_cons]
    exact isUrlText_encodedChar c ih

/-- Nothing else stands in such a text. -/
theorem IsUrlText.not_mem {cs : List Char} {mark : Char} (h : IsUrlText cs)
    (hplain : isPlain mark = false) (hdigit : mark.isHexDigit = false) (hpercent : mark ≠ '%') :
    mark ∉ cs := by
  induction h with
  | nil => exact List.not_mem_nil
  | plain hc _ ih =>
    refine List.not_mem_cons_of_ne_of_not_mem ?_ ih
    rintro rfl
    exact absurd (isPlain_iff.mpr hc) (Bool.eq_false_iff.mp hplain)
  | escape hhigh hlow _ ih =>
    have hother : ∀ digit : Char, digit.isHexDigit = true → mark ≠ digit := by
      rintro digit hdigit' rfl
      exact absurd hdigit' (Bool.eq_false_iff.mp hdigit)
    refine List.not_mem_cons_of_ne_of_not_mem hpercent ?_
    refine List.not_mem_cons_of_ne_of_not_mem (hother _ hhigh) ?_
    exact List.not_mem_cons_of_ne_of_not_mem (hother _ hlow) ih

/-! ## Reading back -/

/-- **The bytes that a text in a URL stands for**: an escape is the byte of its digits, and any
other character is its UTF-8. -/
def unescaped : List Char → Bytes
  | [] => []
  | '%' :: high :: low :: rest =>
    match Text.hexValue? high, Text.hexValue? low with
    | some h, some l => UInt8.ofNat (16 * h + l) :: unescaped rest
    | _, _ => String.utf8EncodeChar '%' ++ unescaped (high :: low :: rest)
  | c :: rest => String.utf8EncodeChar c ++ unescaped rest

/-- Only a percent sign begins an escape. -/
theorem unescaped_cons {c : Char} (h : c ≠ '%') (rest : List Char) :
    unescaped (c :: rest) = String.utf8EncodeChar c ++ unescaped rest := by
  rw [unescaped]
  rintro high low rest rfl
  exact absurd rfl h

/-- **An escape is read back as the byte it was written for.** No other text is taken for it, since
its two digits are always there. -/
theorem unescaped_escapedByte (b : UInt8) (rest : List Char) :
    unescaped (escapedByte b ++ rest) = b :: unescaped rest := by
  obtain ⟨hhigh, hlow⟩ := halves_lt b
  have hb : 16 * (b.toNat / 16) + b.toNat % 16 = b.toNat := Nat.div_add_mod _ _
  simp only [escapedByte, List.cons_append, List.nil_append, unescaped,
    hexValue?_upperHexDigit _ hhigh, hexValue?_upperHexDigit _ hlow, hb, UInt8.ofNat_toNat]

/-- What a character is written as stands for its UTF-8, whatever is behind it: a plain character is
itself, and the escapes of the others are read one after the other. -/
theorem unescaped_encodedChar (c : Char) (rest : List Char) :
    unescaped (encodedChar c ++ rest) = String.utf8EncodeChar c ++ unescaped rest := by
  unfold encodedChar
  split
  next hc =>
    -- A percent sign is not plain: it is written as an escape itself, or it could not be told from
    -- one.
    refine unescaped_cons ?_ rest
    rintro rfl
    exact absurd hc (by decide)
  next =>
    induction String.utf8EncodeChar c with
    | nil => rfl
    | cons b bytes ih =>
      rw [List.flatMap_cons, List.append_assoc, unescaped_escapedByte, ih, List.cons_append]

/-- **What a path is written as stands for its UTF-8.** -/
theorem unescaped_flatMap (cs : List Char) :
    unescaped (cs.flatMap encodedChar) = cs.flatMap String.utf8EncodeChar := by
  induction cs with
  | nil => rfl
  | cons c cs ih => rw [List.flatMap_cons, List.flatMap_cons, unescaped_encodedChar, ih]

/-- A path is written character by character. -/
theorem toList_encoded (path : String) :
    (encoded path).toList = path.toList.flatMap encodedChar :=
  String.toList_ofList

/-- **A path is read back from its URL.** -/
theorem fromUTF8?_unescaped (path : String) :
    String.fromUTF8? (unescaped (encoded path).toList).toByteArray = some path := by
  have hbytes : (unescaped (encoded path).toList).toByteArray = path.toByteArray := by
    rw [toList_encoded, unescaped_flatMap]
    exact String.utf8Encode_toList
  rw [hbytes, String.fromUTF8?, dif_pos path.isValidUTF8]
  rfl

/-- **Different paths have different texts in a URL**: each is read back from its own. -/
theorem encoded_injective {path other : String} (h : encoded path = encoded other) :
    path = other := by
  have hback := fromUTF8?_unescaped path
  rw [h, fromUTF8?_unescaped] at hback
  exact (Option.some.inj hback).symm

/-- What is put behind a path is put behind its text in a URL, since no character depends on
another. -/
theorem encoded_append (path more : String) :
    encoded (path ++ more) = encoded path ++ encoded more := by
  apply String.toList_injective
  rw [String.toList_append, toList_encoded, toList_encoded, toList_encoded, String.toList_append,
    List.flatMap_append]

/-! ## Piece by piece -/

/-- Only a slash is written with one. -/
theorem slash_free_encodedChar {c : Char} (h : c ≠ '/') : '/' ∉ encodedChar c := by
  unfold encodedChar
  split
  next => exact fun hm => h (List.mem_singleton.mp hm).symm
  next =>
    -- The percent sign and the digits of an escape are no slashes.
    have hdigits : ∀ n < 16, Text.upperHexDigit n ≠ '/' := by
      decide
    intro hm
    obtain ⟨b, -, hb⟩ := List.mem_flatMap.mp hm
    obtain ⟨hhigh, hlow⟩ := halves_lt b
    simp only [escapedByte, List.mem_cons, List.not_mem_nil, or_false] at hb
    rcases hb with hb | hb | hb
    · exact absurd hb (by decide)
    · exact hdigits _ hhigh hb.symm
    · exact hdigits _ hlow hb.symm

/-- A piece of a path stays one piece of its URL. -/
theorem slash_free_flatMap {cs : List Char} (h : '/' ∉ cs) : '/' ∉ cs.flatMap encodedChar := by
  intro hm
  obtain ⟨c, hc, hslash⟩ := List.mem_flatMap.mp hm
  refine slash_free_encodedChar ?_ hslash
  rintro rfl
  exact h hc

/-- The pieces of a text of which the beginning has been seen, without a slash so far. -/
theorem pieces_flatMap (cs : List Char) : ∀ front : List Char, '/' ∉ front →
    Path.pieces ((front ++ cs).flatMap encodedChar) =
      (Path.pieces (front ++ cs)).map (·.flatMap encodedChar) := by
  -- On what is behind the part that has been seen: a slash ends the piece, and any other character
  -- is seen with it.
  induction cs with
  | nil =>
    intro front hfront
    rw [List.append_nil, Path.pieces_of_slash_free hfront,
      Path.pieces_of_slash_free (slash_free_flatMap hfront), List.map_singleton]
  | cons c cs ih =>
    intro front hfront
    by_cases hc : c = '/'
    · subst hc
      have hslash : ('/' :: cs).flatMap encodedChar = '/' :: cs.flatMap encodedChar := rfl
      have hbehind := ih [] List.not_mem_nil
      rw [List.nil_append] at hbehind
      rw [List.flatMap_append, hslash, Path.pieces_append_slash, Path.pieces_append_slash, hbehind,
        Path.pieces_of_slash_free hfront, Path.pieces_of_slash_free (slash_free_flatMap hfront),
        List.map_append, List.map_singleton]
    · have hseen : '/' ∉ front ++ [c] := by
        simp [hfront, Ne.symm hc]
      have hmoved := ih (front ++ [c]) hseen
      rwa [List.append_assoc, List.singleton_append] at hmoved

/-- **A path is written piece by piece.** -/
theorem pieces_encoded (path : String) : Path.pieces (encoded path).toList =
    (Path.pieces path.toList).map fun piece => (encoded (.ofList piece)).toList := by
  have hpiece (piece : List Char) :
      (encoded (.ofList piece)).toList = piece.flatMap encodedChar := by
    rw [toList_encoded, String.toList_ofList]
  simp only [hpiece, toList_encoded]
  exact pieces_flatMap path.toList [] List.not_mem_nil

end Url

/-- **A URL tells which path it is of**, and nothing else. Behind what all URLs begin with there is
a text of few characters, among them none that ends the path there, and the path is read back from
it. So no two paths have one URL; and what is put behind a path is put behind its URL, and a slash
in the URL is one of the path. -/
theorem Client.url_tells_path (c : Client) (path : String) :
    c.url path = c.apiBase ++ Url.encoded path ∧
      Url.IsUrlText (Url.encoded path).toList ∧
      (∀ mark ∈ ['?', '#', ' ', '"', '\x27'], mark ∉ (Url.encoded path).toList) ∧
      String.fromUTF8? (Url.unescaped (Url.encoded path).toList).toByteArray = some path ∧
      Function.Injective c.url ∧
      (∀ more, c.url (path ++ more) = c.url path ++ Url.encoded more) ∧
      Path.pieces (Url.encoded path).toList =
        (Path.pieces path.toList).map fun piece => (Url.encoded (.ofList piece)).toList := by
  have htext : Url.IsUrlText (Url.encoded path).toList := by
    rw [Url.toList_encoded]
    exact Url.isUrlText_flatMap path.toList
  refine ⟨rfl, htext, fun mark hmark => ?_, Url.fromUTF8?_unescaped path, fun one other h => ?_,
    fun more => ?_, Url.pieces_encoded path⟩
  -- A query, a fragment, a blank and the quotes of the log begin with none of the three.
  · have hother : Url.isPlain mark = false ∧ mark.isHexDigit = false ∧ mark ≠ '%' := by
      simp only [List.mem_cons, List.not_mem_nil, or_false] at hmark
      rcases hmark with rfl | rfl | rfl | rfl | rfl <;> decide
    exact htext.not_mem hother.1 hother.2.1 hother.2.2
  · exact Url.encoded_injective ((String.append_right_inj c.apiBase).mp h)
  · rw [Client.url, Url.encoded_append, ← String.append_assoc]
    rfl

end NamenodeShell
