import AccessPolicy.Json.Literal
import AccessPolicy.Json.Number

/-!
# AccessPolicy.Json.Token

The tokens of a document.

A literal or numeral may be passed over although it has no value: a string with
half a surrogate pair, a number beyond all finite ones.  Such a token carries
`none`.  A piece of text that cannot even be passed over is the last token.
-/

namespace AccessPolicy.Json

/-- A token. -/
inductive Token where
  | openArray
  | closeArray
  | openObject
  | closeObject
  | comma
  | colon
  | null
  | bool (b : Bool)
  | number (n : Option Number)
  | string (s : Option String)
  | broken (b : Break)
  deriving Repr

/-- Whether a character may stand between tokens. -/
def isSpace (c : Char) : Bool := c = ' ' || c = '\n' || c = '\t' || c = '\r'

/-! ## Words -/

/-- Read the rest of a word. -/
def readWord : (word : List Char) → List Char → Except Flaw (List Char)
  | [], cs => .ok cs
  | _ :: _, [] => .error .unfinished
  | w :: word, c :: cs => if c = w then readWord word cs else .error .malformed

theorem length_readWord_le {word cs rest : List Char} (h : readWord word cs = .ok rest) :
    rest.length ≤ cs.length := by
  fun_induction readWord word cs with
  | case1 => simp_all
  | case2 => simp at h
  | case3 word c cs ih =>
      have := ih h
      simp only [List.length_cons]
      omega
  | case4 => simp at h

/-! ## One token -/

/-- A token and the text behind it; behind a broken one there is nothing. -/
structure Lexeme where
  token : Token
  rest : List Char
  deriving Repr

/-- A piece of text that cannot be passed over. -/
def Lexeme.ofBreak (b : Break) : Lexeme := ⟨.broken b, []⟩

/-- The token of a word whose first letter has been read. -/
def lexWord (token : Token) (word cs : List Char) : Lexeme :=
  match readWord word cs with
  | .ok rest => ⟨token, rest⟩
  | .error flaw => .ofBreak (.word flaw)

/-- The token of a literal whose opening quote has been read. -/
def lexLiteral (cs : List Char) : Lexeme :=
  match skipLiteral cs, readLiteral cs with
  | .ok rest, .ok (s, _) => ⟨.string (some (String.ofList s)), rest⟩
  | .ok rest, .error _ => ⟨.string none, rest⟩
  | .error flaw, .ok _ => .ofBreak (.literal flaw flaw)
  | .error skipped, .error used => .ofBreak (.literal used skipped)

/-- The token of a numeral. -/
def lexNumeral (cs : List Char) : Lexeme :=
  match readNumeral cs with
  | .ok (n, rest) => ⟨.number n.value?, rest⟩
  | .error flaw => .ofBreak (.numeral flaw)

/-- The first token of a text that starts with `c`. -/
def lexOne (c : Char) (cs : List Char) : Lexeme :=
  match c with
  | '[' => ⟨.openArray, cs⟩
  | ']' => ⟨.closeArray, cs⟩
  | '\x7b' => ⟨.openObject, cs⟩
  | '\x7d' => ⟨.closeObject, cs⟩
  | ',' => ⟨.comma, cs⟩
  | ':' => ⟨.colon, cs⟩
  | '"' => lexLiteral cs
  | 'n' => lexWord .null ['u', 'l', 'l'] cs
  | 't' => lexWord (.bool true) ['r', 'u', 'e'] cs
  | 'f' => lexWord (.bool false) ['a', 'l', 's', 'e'] cs
  | _ =>
      if c = '-' || c.isDigit then lexNumeral (c :: cs)
      else .ofBreak .stray

theorem length_lexWord_le (token : Token) (word cs : List Char) :
    (lexWord token word cs).rest.length ≤ cs.length := by
  unfold lexWord
  split
  · exact length_readWord_le (by assumption)
  · simp [Lexeme.ofBreak]

theorem length_lexLiteral_le (cs : List Char) : (lexLiteral cs).rest.length ≤ cs.length := by
  unfold lexLiteral
  split
  · exact Nat.le_of_lt (length_skipLiteral_lt (by assumption))
  · exact Nat.le_of_lt (length_skipLiteral_lt (by assumption))
  · simp [Lexeme.ofBreak]
  · simp [Lexeme.ofBreak]

theorem length_lexNumeral_lt {cs : List Char} (h : cs ≠ []) :
    (lexNumeral cs).rest.length < cs.length := by
  unfold lexNumeral
  split
  · exact length_readNumeral_lt (by assumption)
  · simpa [Lexeme.ofBreak] using List.length_pos_iff.2 h

/-- A token takes up at least one character. -/
theorem length_lexOne_le (c : Char) (cs : List Char) : (lexOne c cs).rest.length ≤ cs.length := by
  unfold lexOne
  split
  all_goals first
    | exact Nat.le_refl _
    | exact length_lexLiteral_le cs
    | exact length_lexWord_le _ _ cs
    | skip
  split
  · exact Nat.le_of_lt_succ (length_lexNumeral_lt (List.cons_ne_nil c cs))
  · simp [Lexeme.ofBreak]

/-! ## All tokens -/

/-- The tokens of a text. -/
def lex : List Char → List Token
  | [] => []
  | c :: cs =>
      if isSpace c then lex cs
      else
        let next := lexOne c cs
        next.token :: lex next.rest
termination_by cs => cs.length
decreasing_by
  · simp
  · have := length_lexOne_le c cs
    simp only [List.length_cons]
    omega

end AccessPolicy.Json
