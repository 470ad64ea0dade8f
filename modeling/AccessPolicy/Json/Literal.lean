import AccessPolicy.Json.Flaw
import AccessPolicy.Text.Hexadecimal

/-!
# AccessPolicy.Json.Literal

String literals in documents.

Written literals escape the quote, the backslash and the characters below the
space, the common ones of these by a letter.

A literal is read in one of two ways:

* `read` gives its text.  An escaped code unit of a surrogate pair has to be
  followed by the other one.
* `skip` passes over it; escapes need to have the right form only.

The functions start behind the opening quote.
-/

namespace AccessPolicy.Json

/-! ## Writing -/

/-- The letter that stands for a character behind a backslash. -/
def escapeLetter? (c : Char) : Option Char :=
  if c = '"' then some '"'
  else if c = '\\' then some '\\'
  else if c = '\x08' then some 'b'
  else if c = '\x0c' then some 'f'
  else if c = '\n' then some 'n'
  else if c = '\r' then some 'r'
  else if c = '\t' then some 't'
  else none

/-- How a character is written in a literal. -/
def escapeChar (c : Char) : List Char :=
  match escapeLetter? c with
  | some letter => ['\\', letter]
  | none => if c.toNat < 0x20 then ['\\', 'u'] ++ Text.hexPadded 4 c.toNat else [c]

/-- The literal of a text. -/
def literal (s : String) : List Char := '"' :: s.toList.flatMap escapeChar ++ ['"']

/-! ## Escapes -/

/-- The character for which a letter stands behind a backslash. -/
def unescapeLetter? : Char → Option Char
  | '"' => some '"'
  | '\\' => some '\\'
  | '/' => some '/'
  | 'b' => some '\x08'
  | 'f' => some '\x0c'
  | 'n' => some '\n'
  | 'r' => some '\r'
  | 't' => some '\t'
  | _ => none

/-- The code unit of four digits. -/
def codeUnit? (a b c d : Char) : Option Nat := Text.readHex [a, b, c, d]

/-- The flaw of an escape with fewer than four characters behind its `u`: the four
digits would be four bytes, and only fewer bytes leave room for them. -/
def shortEscapeFlaw (rest : List Char) : Flaw :=
  if (String.ofList rest).utf8ByteSize < 4 then .unfinished else .malformed

/-- Whether a code unit is the first of a pair. -/
def isLeading (n : Nat) : Bool := 0xD800 ≤ n && n ≤ 0xDBFF

/-- Whether a code unit is the second of a pair. -/
def isTrailing (n : Nat) : Bool := 0xDC00 ≤ n && n ≤ 0xDFFF

/-- The character of a pair of code units. -/
def ofPair (lead trail : Nat) : Char :=
  Char.ofNat (0x10000 + (lead - 0xD800) * 0x400 + (trail - 0xDC00))

/-! ## Reading -/

/-- Put a character in front of what has been read. -/
def consRead (c : Char) : Except Flaw (List Char × List Char) → Except Flaw (List Char × List Char)
  | .ok (cs, rest) => .ok (c :: cs, rest)
  | .error flaw => .error flaw

/-- The text of a literal, and what follows it. -/
def readLiteral : List Char → Except Flaw (List Char × List Char)
  | [] => .error .unfinished
  | '"' :: rest => .ok ([], rest)
  | '\\' :: 'u' :: a :: b :: c :: d :: rest =>
      match codeUnit? a b c d with
      | none => .error .malformed
      | some n =>
          if isTrailing n then .error .malformed
          else if isLeading n then
            match rest with
            | [] => .error .unfinished
            | ['\\'] => .error .unfinished
            | '\\' :: 'u' :: e :: f :: g :: h :: rest =>
                match codeUnit? e f g h with
                | none => .error .malformed
                | some m =>
                    if isTrailing m then consRead (ofPair n m) (readLiteral rest)
                    else .error .malformed
            | '\\' :: 'u' :: rest => .error (shortEscapeFlaw rest)
            | _ => .error .malformed
          else consRead (Char.ofNat n) (readLiteral rest)
  | '\\' :: 'u' :: rest => .error (shortEscapeFlaw rest)
  | ['\\'] => .error .unfinished
  | '\\' :: letter :: rest =>
      match unescapeLetter? letter with
      | some c => consRead c (readLiteral rest)
      | none => .error .malformed
  | c :: rest => if c.toNat < 0x20 then .error .malformed else consRead c (readLiteral rest)

/-- What follows a literal. -/
def skipLiteral : List Char → Except Flaw (List Char)
  | [] => .error .unfinished
  | '"' :: rest => .ok rest
  | '\\' :: 'u' :: a :: b :: c :: d :: rest =>
      if (codeUnit? a b c d).isSome then skipLiteral rest else .error .malformed
  | '\\' :: 'u' :: rest => .error (shortEscapeFlaw rest)
  | ['\\'] => .error .unfinished
  | '\\' :: letter :: rest =>
      if (unescapeLetter? letter).isSome then skipLiteral rest else .error .malformed
  | c :: rest => if c.toNat < 0x20 then .error .malformed else skipLiteral rest

theorem length_skipLiteral_lt {cs rest : List Char} (h : skipLiteral cs = .ok rest) :
    rest.length < cs.length := by
  fun_induction skipLiteral cs with
  | case1 => simp at h
  | case2 => simp_all
  | case3 a b c d rest' _ ih =>
      have := ih h
      simp only [List.length_cons]
      omega
  | case4 => simp at h
  | case5 => simp at h
  | case6 => simp at h
  | case7 letter rest' _ _ _ ih =>
      have := ih h
      simp only [List.length_cons]
      omega
  | case8 => simp at h
  | case9 => simp at h
  | case10 c rest' _ _ _ _ _ _ ih =>
      have := ih h
      simp only [List.length_cons]
      omega

end AccessPolicy.Json
