import AccessPolicy.Json.Value
import AccessPolicy.Proofs.Numerals

/-!
# AccessPolicy.Proofs.Spelling

A document is read as the value that it writes, however it spells it.

A text *writes* a value when it spells the tokens of the value in their order.  There are many
such texts:

1. white space stands before, between and behind the tokens as it likes;
2. in a literal every character may be written as it is, by a letter, by its code unit or by
   a pair of them, as far as the format knows such a spelling for it.

Numbers are natural, of at most 64 bits.

* `SpellsChar.read`, `Spells.read` — literals are read back;
* `lex_of_writes` — so are tokens;
* `readFrom_tokens` — the tokens of a value read as the value;
* `readDocument_of_writes` — a text that writes a value reads as its document;
* `writes_text` — the text of a value on one line writes it.
-/

namespace AccessPolicy.Json

/-! ## Literals -/

/-- How a character may be written in a literal. -/
inductive SpellsChar : Char → List Char → Prop where
  /-- As it is. -/
  | plain {c : Char} : 0x20 ≤ c.toNat → c ≠ '"' → c ≠ '\\' → SpellsChar c [c]
  /-- By the letter that stands for it. -/
  | letter {c letter : Char} : unescapeLetter? letter = some c → SpellsChar c ['\\', letter]
  /-- By its code unit. -/
  | unit {c x y z w : Char} : codeUnit? x y z w = some c.toNat →
      SpellsChar c ['\\', 'u', x, y, z, w]
  /-- By the two code units of a character that has no single one. -/
  | pair {c x y z w x' y' z' w' : Char} {lead trail : Nat} :
      codeUnit? x y z w = some lead → isLeading lead = true →
      codeUnit? x' y' z' w' = some trail → isTrailing trail = true →
      c.toNat = 0x10000 + (lead - 0xD800) * 0x400 + (trail - 0xDC00) →
      SpellsChar c ['\\', 'u', x, y, z, w, '\\', 'u', x', y', z', w']

/-- How a text may be written between the quotes of a literal. -/
inductive Spells : List Char → List Char → Prop where
  | nil : Spells [] []
  | cons {c : Char} {cs xs ys : List Char} : SpellsChar c xs → Spells cs ys →
      Spells (c :: cs) (xs ++ ys)

/-- No character is half of a pair. -/
theorem not_surrogate (c : Char) : isLeading c.toNat = false ∧ isTrailing c.toNat = false := by
  have hvalid : c.toNat < 0xD800 ∨ 0xDFFF < c.toNat ∧ c.toNat < 0x110000 := c.valid
  simp only [isLeading, isTrailing, Bool.and_eq_false_iff, decide_eq_false_iff_not]
  omega

theorem not_isTrailing_of_isLeading {n : Nat} (h : isLeading n = true) : isTrailing n = false := by
  simp only [isLeading, isTrailing, Bool.and_eq_true, Bool.and_eq_false_iff, decide_eq_true_eq,
    decide_eq_false_iff_not] at h ⊢
  omega

/-- A character is read in each of its spellings. -/
theorem SpellsChar.read {c : Char} {xs : List Char} (h : SpellsChar c xs) (rest : List Char) :
    readLiteral (xs ++ rest) = consRead c (readLiteral rest) ∧
      skipLiteral (xs ++ rest) = skipLiteral rest := by
  cases h with
  | plain hprintable hquote hbackslash =>
      have hnot : ¬ c.toNat < 0x20 := Nat.not_lt.2 hprintable
      constructor
      · rw [List.singleton_append, readLiteral] <;> simp_all
      · rw [List.singleton_append, skipLiteral] <;> simp_all
  | @letter letter hletter =>
      have hunit : letter ≠ 'u' := by
        rintro rfl
        cases hletter
      constructor
      · simp only [List.cons_append, List.nil_append]
        rw [readLiteral] <;> simp_all
      · simp only [List.cons_append, List.nil_append]
        rw [skipLiteral] <;> simp_all
  | unit hunit =>
      obtain ⟨hlead, htrail⟩ := not_surrogate c
      simp [readLiteral, skipLiteral, hunit, hlead, htrail]
  | pair hfirst hlead hsecond htrail hc =>
      rename_i lead trail
      have hnot := not_isTrailing_of_isLeading hlead
      have hpair : ofPair lead trail = c := by
        rw [ofPair, ← hc]
        exact Char.ofNat_toNat c
      simp [readLiteral, skipLiteral, hfirst, hlead, hnot, hsecond, htrail, hpair]

/-- A text is read in each of its spellings, up to the closing quote. -/
theorem Spells.read {cs xs : List Char} (h : Spells cs xs) (rest : List Char) :
    readLiteral (xs ++ '"' :: rest) = .ok (cs, rest) ∧
      skipLiteral (xs ++ '"' :: rest) = .ok rest := by
  induction h with
  | nil => simp [readLiteral, skipLiteral]
  | @cons c cs xs ys hc _ ih =>
      obtain ⟨hread, hskip⟩ := hc.read (ys ++ '"' :: rest)
      rw [List.append_assoc, hread, hskip, ih.1, ih.2]
      exact ⟨rfl, rfl⟩

/-! ## Tokens -/

/-- How a token may be written. -/
inductive SpellsToken : Token → List Char → Prop where
  | openArray : SpellsToken .openArray ['[']
  | closeArray : SpellsToken .closeArray [']']
  | openObject : SpellsToken .openObject ['\x7b']
  | closeObject : SpellsToken .closeObject ['\x7d']
  | comma : SpellsToken .comma [',']
  | colon : SpellsToken .colon [':']
  | null : SpellsToken .null ['n', 'u', 'l', 'l']
  | bool {b : Bool} : SpellsToken (.bool b) (Value.boolText b)
  | natural {n : Nat} : n < UInt64.size →
      SpellsToken (.number (some (.integer n))) (Nat.toDigits 10 n)
  | string {s : String} {xs : List Char} : Spells s.toList xs →
      SpellsToken (.string (some s)) ('"' :: (xs ++ ['"']))

/-- A text that spells some tokens, with white space where it likes. -/
inductive Writes : List Token → List Char → Prop where
  | nil {space : List Char} : (∀ c ∈ space, isSpace c = true) → Writes [] space
  | cons {space xs ys : List Char} {t : Token} {ts : List Token} :
      (∀ c ∈ space, isSpace c = true) → SpellsToken t xs → Writes ts ys →
      Writes (t :: ts) (space ++ (xs ++ ys))

/-- Whether a token may follow a number. -/
def Token.isMark : Token → Bool
  | .comma => true
  | .closeArray => true
  | .closeObject => true
  | _ => false

/-- Tokens among which every number is followed by a mark, or by nothing. -/
def Separated : List Token → Prop
  | [] => True
  | .number _ :: ts => (∀ t ∈ ts.head?, t.isMark = true) ∧ Separated ts
  | _ :: ts => Separated ts

/-- White space and marks end a numeral. -/
theorem endsNumeral_cons {c : Char} (h : isSpace c = true ∨ c ∈ [']', '\x7d', ','])
    (rest : List Char) : EndsNumeral (c :: rest) := by
  intro d hd
  obtain rfl : c = d := Option.some.inj hd
  simp only [isSpace, Bool.or_eq_true, decide_eq_true_eq, List.mem_cons, List.not_mem_nil,
    or_false] at h
  rcases h with (((rfl | rfl) | rfl) | rfl) | rfl | rfl | rfl <;> decide

theorem endsNumeral_of_writes {ts : List Token} {cs : List Char} (h : Writes ts cs)
    (hts : ∀ t ∈ ts.head?, t.isMark = true) : EndsNumeral cs := by
  have hspace {space : List Char} (hspace : ∀ c ∈ space, isSpace c = true) {rest : List Char}
      (hrest : EndsNumeral rest) : EndsNumeral (space ++ rest) := by
    cases space with
    | nil => exact hrest
    | cons c space => exact endsNumeral_cons (.inl (hspace c List.mem_cons_self)) _
  cases h with
  | nil hblank => simpa using hspace hblank endsNumeral_nil
  | cons hblank ht _ =>
      refine hspace hblank ?_
      have hmark := hts _ rfl
      cases ht with
      | closeArray => exact endsNumeral_cons (.inr (by decide)) _
      | closeObject => exact endsNumeral_cons (.inr (by decide)) _
      | comma => exact endsNumeral_cons (.inr (by decide)) _
      | _ => cases hmark

theorem lexOne_digit {c : Char} (h : c.isDigit = true) (cs : List Char) :
    isSpace c = false ∧ lexOne c cs = lexNumeral (c :: cs) := by
  have hne {d : Char} (hd : d.isDigit = false) : c ≠ d := by
    rintro rfl
    rw [h] at hd
    cases hd
  constructor
  · simp [isSpace, @hne ' ' rfl, @hne '\n' rfl, @hne '\t' rfl, @hne '\r' rfl]
  · unfold lexOne
    split
    case h_11 => simp [h]
    all_goals exact absurd h (by decide)

/-- A token is read in each of its spellings. -/
theorem SpellsToken.read {t : Token} {xs : List Char} (h : SpellsToken t xs) (rest : List Char)
    (hrest : ∀ n, t = .number n → EndsNumeral rest) :
    ∃ c ys, xs = c :: ys ∧ isSpace c = false ∧ lexOne c (ys ++ rest) = ⟨t, rest⟩ := by
  cases h with
  | @natural n hn =>
      have hread := readNumeral_toDigits n (hrest _ rfl)
      cases hds : Nat.toDigits 10 n with
      | nil => exact absurd hds Nat.toDigits_ne_nil
      | cons d ds =>
          have hdigit : d.isDigit = true := isDigit_of_mem_toDigits (hds ▸ List.mem_cons_self)
          obtain ⟨hspace, hlex⟩ := lexOne_digit hdigit (ds ++ rest)
          rw [hds, List.cons_append] at hread
          refine ⟨d, ds, rfl, hspace, ?_⟩
          rw [hlex, lexNumeral, hread]
          simp only [value?_natural hn]
  | string hs =>
      obtain ⟨hread, hskip⟩ := hs.read rest
      refine ⟨_, _, rfl, by decide, ?_⟩
      simp [lexOne, lexLiteral, hread, hskip]
  | @bool b => cases b <;> exact ⟨_, _, rfl, by decide, rfl⟩
  | _ => exact ⟨_, _, rfl, by decide, rfl⟩

theorem lex_space {space : List Char} (h : ∀ c ∈ space, isSpace c = true) (rest : List Char) :
    lex (space ++ rest) = lex rest := by
  induction space with
  | nil => rfl
  | cons c space ih =>
      obtain ⟨hc, hspace⟩ := List.forall_mem_cons.1 h
      rw [List.cons_append, lex, if_pos hc, ih hspace]

/-- A text is read as the tokens that it spells. -/
theorem lex_of_writes {ts : List Token} {cs : List Char} (h : Writes ts cs)
    (hts : Separated ts) : lex cs = ts := by
  induction h with
  | nil hspace =>
      have hlex := lex_space hspace []
      rwa [List.append_nil, lex] at hlex
  | @cons space xs ys t ts hspace ht hys ih =>
      -- Only a numeral could go on with what stands behind it.
      have hseparated : Separated ts ∧ ∀ n, t = .number n → EndsNumeral ys := by
        cases t with
        | number n => exact ⟨hts.2, fun _ _ => endsNumeral_of_writes hys hts.1⟩
        | _ => exact ⟨hts, fun _ hn => by cases hn⟩
      obtain ⟨c, zs, rfl, hc, hlex⟩ := ht.read ys hseparated.2
      rw [lex_space hspace, List.cons_append, lex, if_neg (by simp [hc])]
      simp only [hlex, ih hseparated.1]

/-! ## Values -/

mutual

/-- The tokens of a value. -/
def Value.tokens : Value → List Token
  | .null => [.null]
  | .bool b => [.bool b]
  | .number n => [.number (some n)]
  | .string s => [.string (some s)]
  | .array [] => [.openArray, .closeArray]
  | .array (v :: vs) => .openArray :: (Value.tokens v ++ itemTokens vs)
  | .object [] => [.openObject, .closeObject]
  | .object (m :: ms) => .openObject :: (memberTokens m ++ membersTokens ms)

/-- The tokens of the items of an array after the first. -/
def itemTokens : List Value → List Token
  | [] => [.closeArray]
  | v :: vs => .comma :: (Value.tokens v ++ itemTokens vs)

/-- The tokens of a member of an object. -/
def memberTokens : String × Value → List Token
  | (key, v) => .string (some key) :: .colon :: Value.tokens v

/-- The tokens of the members of an object after the first. -/
def membersTokens : List (String × Value) → List Token
  | [] => [.closeObject]
  | m :: ms => .comma :: (memberTokens m ++ membersTokens ms)

end

/-- A text that writes a value. -/
def Value.WrittenAs (v : Value) (s : String) : Prop := Writes v.tokens s.toList

mutual

theorem separated_tokens {ts : List Token} (h : Separated ts)
    (hhead : ∀ t ∈ ts.head?, t.isMark = true) : (v : Value) → Separated (v.tokens ++ ts)
  | .null => h
  | .bool _ => h
  | .number _ => ⟨hhead, h⟩
  | .string _ => h
  | .array [] => h
  | .array (v :: vs) => by
      obtain ⟨hitems, hmark⟩ := separated_itemTokens h vs
      rw [Value.tokens, List.cons_append, List.append_assoc]
      exact separated_tokens hitems hmark v
  | .object [] => h
  | .object (m :: ms) => by
      obtain ⟨hmembers, hmark⟩ := separated_membersTokens h ms
      rw [Value.tokens, List.cons_append, List.append_assoc]
      exact separated_memberTokens hmembers hmark m

theorem separated_itemTokens {ts : List Token} (h : Separated ts) :
    (vs : List Value) → Separated (itemTokens vs ++ ts) ∧
      ∀ t ∈ (itemTokens vs ++ ts).head?, t.isMark = true
  | [] => ⟨h, fun t ht => by cases ht; rfl⟩
  | v :: vs => by
      obtain ⟨hitems, hmark⟩ := separated_itemTokens h vs
      rw [itemTokens, List.cons_append, List.append_assoc]
      exact ⟨separated_tokens hitems hmark v, fun t ht => by cases ht; rfl⟩

theorem separated_memberTokens {ts : List Token} (h : Separated ts)
    (hhead : ∀ t ∈ ts.head?, t.isMark = true) :
    (m : String × Value) → Separated (memberTokens m ++ ts)
  | (_, v) => separated_tokens h hhead v

theorem separated_membersTokens {ts : List Token} (h : Separated ts) :
    (ms : List (String × Value)) → Separated (membersTokens ms ++ ts) ∧
      ∀ t ∈ (membersTokens ms ++ ts).head?, t.isMark = true
  | [] => ⟨h, fun t ht => by cases ht; rfl⟩
  | m :: ms => by
      obtain ⟨hmembers, hmark⟩ := separated_membersTokens h ms
      rw [membersTokens, List.cons_append, List.append_assoc]
      exact ⟨separated_memberTokens hmembers hmark m, fun t ht => by cases ht; rfl⟩

end

/-- Where an array may end, a value may stand as well. -/
theorem readFrom_item (frames : List Frame) (ts : List Token) (v : Value) :
    readFrom frames .item (v.tokens ++ ts) = readFrom frames .value (v.tokens ++ ts) := by
  have hfirst (t : Token) (h : t ≠ .closeArray) (ts : List Token) :
      readFrom frames .item (t :: ts) = readFrom frames .value (t :: ts) := by
    have hread : readToken frames .item t = readToken frames .value t := by
      unfold readToken
      split <;> simp_all
    rw [readFrom, readFrom, hread]
  cases v with
  | array vs => cases vs <;> exact hfirst _ (by simp) _
  | object ms => cases ms <;> exact hfirst _ (by simp) _
  | _ => exact hfirst _ (by simp) _

theorem readFrom_memberTokens (frames : List Frame) (ts : List Token)
    (members : List (Key × Doc)) (first : Bool) (key : String) (v : Value) :
    readFrom frames (.key members first) (memberTokens (key, v) ++ ts) =
      readFrom (.object members (.name (some key)) :: frames) .value (v.tokens ++ ts) := rfl

mutual

/-- The tokens of a value are read as the value. -/
theorem readFrom_tokens (frames : List Frame) (ts : List Token) :
    (v : Value) → readFrom frames .value (v.tokens ++ ts) = readFrom frames (.behind v.toDoc) ts
  | .null => rfl
  | .bool _ => rfl
  | .number _ => rfl
  | .string _ => rfl
  | .array [] => rfl
  | .array (v :: vs) => by
      have hopen : readFrom frames .value ((Value.array (v :: vs)).tokens ++ ts) =
          readFrom (.array [] :: frames) .item (v.tokens ++ (itemTokens vs ++ ts)) := by
        rw [Value.tokens, List.cons_append, List.append_assoc]
        rfl
      have hitems := readFrom_itemTokens frames ts [] v.toDoc vs
      rw [hopen, readFrom_item, readFrom_tokens, hitems]
      rfl
  | .object [] => rfl
  | .object ((key, v) :: ms) => by
      have hopen : readFrom frames .value ((Value.object ((key, v) :: ms)).tokens ++ ts) =
          readFrom frames (.key [] true) (memberTokens (key, v) ++ (membersTokens ms ++ ts)) := by
        rw [Value.tokens, List.cons_append, List.append_assoc]
        rfl
      have hmembers := readFrom_membersTokens frames ts [] key v.toDoc ms
      rw [hopen, readFrom_memberTokens, readFrom_tokens, hmembers]
      rfl

theorem readFrom_itemTokens (frames : List Frame) (ts : List Token) (items : List Doc) (d : Doc) :
    (vs : List Value) → readFrom (.array items :: frames) (.behind d) (itemTokens vs ++ ts) =
      readFrom frames (.behind (.array ((d :: items).reverse ++ Value.itemDocs vs) .closed)) ts
  | [] => by
      rw [Value.itemDocs, List.append_nil]
      rfl
  | v :: vs => by
      have hcomma : readFrom (.array items :: frames) (.behind d) (itemTokens (v :: vs) ++ ts) =
          readFrom (.array (d :: items) :: frames) .value (v.tokens ++ (itemTokens vs ++ ts)) := by
        rw [itemTokens, List.cons_append, List.append_assoc]
        rfl
      have hrest := readFrom_itemTokens frames ts (d :: items) v.toDoc vs
      rw [hcomma, readFrom_tokens, hrest, Value.itemDocs]
      simp

theorem readFrom_membersTokens (frames : List Frame) (ts : List Token)
    (members : List (Key × Doc)) (key : String) (d : Doc) :
    (ms : List (String × Value)) →
      readFrom (.object members (.name (some key)) :: frames) (.behind d)
          (membersTokens ms ++ ts) =
        readFrom frames
          (.behind (.object (((.name (some key), d) :: members).reverse ++ Value.memberDocs ms)
            .closed)) ts
  | [] => by
      rw [Value.memberDocs, List.append_nil]
      rfl
  | (key', v) :: ms => by
      have hcomma : readFrom (.object members (.name (some key)) :: frames) (.behind d)
            (membersTokens ((key', v) :: ms) ++ ts) =
          readFrom frames (.key ((.name (some key), d) :: members) false)
            (memberTokens (key', v) ++ (membersTokens ms ++ ts)) := by
        rw [membersTokens, List.cons_append, List.append_assoc]
        rfl
      have hrest :=
        readFrom_membersTokens frames ts ((.name (some key), d) :: members) key' v.toDoc ms
      rw [hcomma, readFrom_memberTokens, readFrom_tokens, hrest, Value.memberDocs]
      simp

end

/-- A text that writes a value is read as the document of the value. -/
theorem readDocument_of_writes {v : Value} {s : String} (h : v.WrittenAs s) :
    readDocument s = ⟨v.toDoc, false⟩ := by
  have hseparated := @separated_tokens [] trivial (fun _ ht => by cases ht) v
  rw [List.append_nil] at hseparated
  have hlex : lex s.toList = v.tokens := lex_of_writes h hseparated
  have hread := readFrom_tokens [] [] v
  rw [List.append_nil] at hread
  rw [readDocument, hlex, hread]
  rfl

/-! ## The text on one line -/

theorem unescapeLetter?_of_escapeLetter? {c letter : Char} (h : escapeLetter? c = some letter) :
    unescapeLetter? letter = some c := by
  unfold escapeLetter? at h
  repeat' split at h
  all_goals
    cases h
    try subst c
    try rfl

/-- The four digits of a character below the space. -/
theorem hexPadded_control {n : Nat} (h : n < 0x20) :
    Text.hexPadded 4 n = ['0', '0', Nat.digitChar (n / 16), Nat.digitChar (n % 16)] ∧
      codeUnit? '0' '0' (Nat.digitChar (n / 16)) (Nat.digitChar (n % 16)) = some n := by
  have hall : ∀ n < 0x20,
      Text.hexPadded 4 n = ['0', '0', Nat.digitChar (n / 16), Nat.digitChar (n % 16)] ∧
        codeUnit? '0' '0' (Nat.digitChar (n / 16)) (Nat.digitChar (n % 16)) = some n := by
    decide +kernel
  exact hall n h

theorem spellsChar_escapeChar (c : Char) : SpellsChar c (escapeChar c) := by
  unfold escapeChar
  split
  · rename_i letter hletter
    exact .letter (unescapeLetter?_of_escapeLetter? hletter)
  · rename_i hnone
    split
    · rename_i hcontrol
      obtain ⟨hdigits, hunit⟩ := hexPadded_control hcontrol
      rw [hdigits]
      exact .unit hunit
    · rename_i hprintable
      have hquote : c ≠ '"' := by
        rintro rfl
        cases hnone
      have hbackslash : c ≠ '\\' := by
        rintro rfl
        cases hnone
      exact .plain (Nat.le_of_not_lt hprintable) hquote hbackslash

theorem spellsToken_literal (s : String) : SpellsToken (.string (some s)) (literal s) := by
  have hspells (cs : List Char) : Spells cs (cs.flatMap escapeChar) := by
    induction cs with
    | nil => exact .nil
    | cons c cs ih => exact .cons (spellsChar_escapeChar c) ih
  exact .string (hspells s.toList)

mutual

/-- All numbers of a value are natural, of at most 64 bits. -/
def Value.IsNatural : Value → Prop
  | .number (.integer n) => 0 ≤ n ∧ n < UInt64.size
  | .number (.float _) => False
  | .array vs => allNatural vs
  | .object ms => allMembersNatural ms
  | _ => True

/-- So it is with the items of an array. -/
def allNatural : List Value → Prop
  | [] => True
  | v :: vs => v.IsNatural ∧ allNatural vs

/-- So it is with the members of an object. -/
def allMembersNatural : List (String × Value) → Prop
  | [] => True
  | (_, v) :: ms => v.IsNatural ∧ allMembersNatural ms

end

theorem allMembersNatural_iff {ms : List (String × Value)} :
    allMembersNatural ms ↔ ∀ m ∈ ms, m.2.IsNatural := by
  induction ms with
  | nil => simp [allMembersNatural]
  | cons m ms ih => simp [allMembersNatural, ih]

/-- A token without white space in front of it. -/
theorem Writes.token {t : Token} {ts : List Token} {xs ys : List Char} (ht : SpellsToken t xs)
    (h : Writes ts ys) : Writes (t :: ts) (xs ++ ys) :=
  @Writes.cons [] xs ys t ts (by simp) ht h

/-- A natural number on one line is its digits. -/
theorem compact_natural (n : Nat) :
    (Value.number (.integer n)).compact = Nat.toDigits 10 n := by
  show (Nat.repr n).toList = Nat.toDigits 10 n
  simp [Nat.repr_eq_ofList_toDigits]

mutual

theorem writes_compact {ts : List Token} {cs : List Char} (h : Writes ts cs) :
    (v : Value) → v.IsNatural → Writes (v.tokens ++ ts) (v.compact ++ cs)
  | .null, _ => .token .null h
  | .bool _, _ => .token .bool h
  | .number (.integer n), hn => by
      obtain ⟨m, rfl⟩ := Int.eq_ofNat_of_zero_le hn.1
      rw [compact_natural]
      exact .token (.natural (Int.ofNat_lt.1 hn.2)) h
  | .string s, _ => .token (spellsToken_literal s) h
  | .array [], _ => by
      have hall := Writes.token .openArray (.token .closeArray h)
      simpa [Value.tokens, Value.compact] using hall
  | .array (v :: vs), hn => by
      have hitems := writes_compactItems h vs hn.2
      have hall := Writes.token .openArray (writes_compact hitems v hn.1)
      simpa [Value.tokens, Value.compact] using hall
  | .object [], _ => by
      have hall := Writes.token .openObject (.token .closeObject h)
      simpa [Value.tokens, Value.compact] using hall
  | .object ((key, v) :: ms), hn => by
      have hmembers := writes_compactMembers h ms hn.2
      have hmember := writes_compact hmembers v hn.1
      have hall :=
        Writes.token .openObject (.token (spellsToken_literal key) (.token .colon hmember))
      simpa [Value.tokens, Value.compact, memberTokens, Value.compactMember] using hall

theorem writes_compactItems {ts : List Token} {cs : List Char} (h : Writes ts cs) :
    (vs : List Value) → allNatural vs →
      Writes (itemTokens vs ++ ts) (Value.compactItems vs ++ cs)
  | [], _ => .token .closeArray h
  | v :: vs, hn => by
      have hitems := writes_compactItems h vs hn.2
      have hall := Writes.token .comma (writes_compact hitems v hn.1)
      simpa [itemTokens, Value.compactItems] using hall

theorem writes_compactMembers {ts : List Token} {cs : List Char} (h : Writes ts cs) :
    (ms : List (String × Value)) → allMembersNatural ms →
      Writes (membersTokens ms ++ ts) (Value.compactMembers ms ++ cs)
  | [], _ => .token .closeObject h
  | (key, v) :: ms, hn => by
      have hmembers := writes_compactMembers h ms hn.2
      have hmember := writes_compact hmembers v hn.1
      have hall := Writes.token .comma (.token (spellsToken_literal key) (.token .colon hmember))
      simpa [membersTokens, Value.compactMembers, memberTokens, Value.compactMember] using hall

end

/-- The text of a value on one line writes it. -/
theorem writes_text {v : Value} (h : v.IsNatural) : v.WrittenAs v.text := by
  have hwrites := writes_compact (.nil (by simp) : Writes [] []) v h
  simpa [Value.WrittenAs, Value.text] using hwrites

end AccessPolicy.Json
