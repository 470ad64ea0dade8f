/-!
# AccessPolicy.Text.Utf8

Reading UTF-8.  A string of bytes that is not UTF-8 is refused at its first
faulty character, by these rules:

1. a byte that begins no character is a fault of length 1;
2. a character whose second byte is out of its range is a fault of length 1,
   one whose third or fourth byte does not continue it of length 2 or 3;
3. a character that the end cuts short is incomplete.

The range of the second byte depends on the first, which excludes overlong
forms, surrogates and numbers beyond the last code point.
-/

namespace AccessPolicy.Text

/-- Where and how a string of bytes stops being UTF-8. -/
structure Utf8Error where
  /-- Number of bytes before the faulty character. -/
  offset : Nat
  /-- Length of the fault; `none` for a character cut short by the end. -/
  length : Option Nat
  deriving DecidableEq, Repr

/-- The fault in words. -/
def Utf8Error.message (e : Utf8Error) : String :=
  match e.length with
  | some n => "invalid utf-8 sequence of " ++ toString n ++ " bytes from index " ++ toString e.offset
  | none => "incomplete utf-8 byte sequence from index " ++ toString e.offset

/-- Whether a byte continues a character. -/
def continuesChar (b : UInt8) : Bool := 0x80 ≤ b && b ≤ 0xBF

/-- Whether `b` may follow the first byte `a` of a character of three bytes. -/
def secondOfThree (a b : UInt8) : Bool :=
  if a = 0xE0 then 0xA0 ≤ b && b ≤ 0xBF
  else if a = 0xED then 0x80 ≤ b && b ≤ 0x9F
  else continuesChar b

/-- Whether `b` may follow the first byte `a` of a character of four bytes. -/
def secondOfFour (a b : UInt8) : Bool :=
  if a = 0xF0 then 0x90 ≤ b && b ≤ 0xBF
  else if a = 0xF4 then 0x80 ≤ b && b ≤ 0x8F
  else continuesChar b

/-- The six bits that a continuing byte carries. -/
def lowSix (b : UInt8) : Nat := b.toNat % 64

/-- Read the characters of a string of bytes, `offset` bytes into the whole. -/
def decodeUtf8From (offset : Nat) : List UInt8 → Except Utf8Error (List Char)
  | [] => .ok []
  | a :: rest =>
      if a < 0x80 then
        (Char.ofNat a.toNat :: ·) <$> decodeUtf8From (offset + 1) rest
      else if a < 0xC2 then
        .error ⟨offset, some 1⟩
      else if a < 0xE0 then
        match rest with
        | [] => .error ⟨offset, none⟩
        | b :: rest =>
            if continuesChar b then
              (Char.ofNat (a.toNat % 32 * 64 + lowSix b) :: ·) <$> decodeUtf8From (offset + 2) rest
            else .error ⟨offset, some 1⟩
      else if a < 0xF0 then
        match rest with
        | [] => .error ⟨offset, none⟩
        | b :: rest =>
            if !secondOfThree a b then .error ⟨offset, some 1⟩
            else
              match rest with
              | [] => .error ⟨offset, none⟩
              | c :: rest =>
                  if continuesChar c then
                    (Char.ofNat ((a.toNat % 16 * 64 + lowSix b) * 64 + lowSix c) :: ·) <$>
                      decodeUtf8From (offset + 3) rest
                  else .error ⟨offset, some 2⟩
      else if a < 0xF5 then
        match rest with
        | [] => .error ⟨offset, none⟩
        | b :: rest =>
            if !secondOfFour a b then .error ⟨offset, some 1⟩
            else
              match rest with
              | [] => .error ⟨offset, none⟩
              | c :: rest =>
                  if !continuesChar c then .error ⟨offset, some 2⟩
                  else
                    match rest with
                    | [] => .error ⟨offset, none⟩
                    | d :: rest =>
                        if continuesChar d then
                          (Char.ofNat (((a.toNat % 8 * 64 + lowSix b) * 64 + lowSix c) * 64 + lowSix d)
                              :: ·) <$> decodeUtf8From (offset + 4) rest
                        else .error ⟨offset, some 3⟩
      else .error ⟨offset, some 1⟩

/-- Read a string of bytes as a text. -/
def decodeUtf8 (bs : List UInt8) : Except Utf8Error String :=
  String.ofList <$> decodeUtf8From 0 bs

/-- The bytes of a text. -/
def encodeUtf8 (s : String) : List UInt8 := s.toList.flatMap String.utf8EncodeChar

end AccessPolicy.Text
