import AccessPolicy.Json.Token

/-!
# AccessPolicy.Json.Document

A document as far as it can be read.

A text that fails to be a document is one up to some place, and what has been read
before that place still counts: readers go through a document from left to right
and complain of the first thing that they cannot accept, be it a value of the
wrong kind or the end of what is readable.  So a `Doc` records the place, too: as a
broken value, as a key that is none, or as the ending of an array or object that is
cut off.

Reading goes token by token, with the arrays and objects that are open on a stack.
-/

namespace AccessPolicy.Json

/-- How an array or object ends. -/
inductive Ending where
  /-- By its closing bracket. -/
  | closed
  /-- By a flaw of the text, here or further inside, when it is passed over. -/
  | cut (flaw : Flaw)
  deriving DecidableEq, Repr

/-- What stands in the place of a key. -/
inductive Key where
  /-- A string; none if it has no value. -/
  | name (s : Option String)
  /-- Another token, or the end of the text. -/
  | stray (t : Option Token)
  deriving Repr

/-- A value as far as it can be read. -/
inductive Doc where
  | null
  | bool (b : Bool)
  | number (n : Option Number)
  | string (s : Option String)
  | array (items : List Doc) (ending : Ending)
  | object (members : List (Key × Doc)) (ending : Ending)
  | broken (b : Break)
  deriving Repr

/-- A document: its value, and whether more text follows it. -/
structure Document where
  root : Doc
  trailing : Bool
  deriving Repr

/-! ## Open arrays and objects -/

/-- An array or object that is open.  What it holds so far stands last first. -/
inductive Frame where
  | array (items : List Doc)
  /-- The key is that of the member whose value is being read. -/
  | object (members : List (Key × Doc)) (key : Key)
  deriving Repr

/-- What an open array or object comes to with one more value. -/
def Frame.finish (doc : Doc) (ending : Ending) : Frame → Doc
  | .array items => .array (doc :: items).reverse ending
  | .object members key => .object ((key, doc) :: members).reverse ending

/-- What everything open comes to when the innermost value is cut off. -/
def cutOff (flaw : Flaw) (doc : Doc) (frames : List Frame) : Doc :=
  frames.foldl (fun doc frame => frame.finish doc (.cut flaw)) doc

/-- What everything open comes to when no value stands in its place. -/
def breakOff (b : Break) (frames : List Frame) : Document :=
  ⟨cutOff b.skipped (.broken b) frames, false⟩

/-- What everything open comes to when no key stands in its place. -/
def breakOffKey (members : List (Key × Doc)) (t : Option Token) (flaw : Flaw)
    (frames : List Frame) : Document :=
  ⟨cutOff flaw (Frame.finish (.broken .stray) (.cut flaw) (.object members (.stray t))) frames,
    false⟩

/-! ## Reading -/

/-- What is due next. -/
inductive Place where
  /-- A value. -/
  | value
  /-- The first item of an array, or its end. -/
  | item
  /-- A key of an object that has some members; or, if it has none yet, its end. -/
  | key (members : List (Key × Doc)) (first : Bool)
  /-- A colon. -/
  | colon
  /-- Whatever may follow a value. -/
  | behind (doc : Doc)
  deriving Repr

/-- What is left of reading after a token: more of it, or a document. -/
inductive Progress where
  | next (frames : List Frame) (place : Place)
  | done (d : Document)
  deriving Repr

/-- Read a token where a value is due. -/
def readValue (frames : List Frame) : Token → Progress
  | .null => .next frames (.behind .null)
  | .bool b => .next frames (.behind (.bool b))
  | .number n => .next frames (.behind (.number n))
  | .string s => .next frames (.behind (.string s))
  | .openArray => .next (.array [] :: frames) .item
  | .openObject => .next frames (.key [] true)
  | .broken b => .done (breakOff b frames)
  | .closeArray | .closeObject | .comma | .colon => .done (breakOff .stray frames)

/-- Read a token behind the value `doc`. -/
def readBehind (doc : Doc) : List Frame → Token → Progress
  | [], _ => .done ⟨doc, true⟩
  | .array items :: up, .comma => .next (.array (doc :: items) :: up) .value
  | .object members key :: up, .comma => .next up (.key ((key, doc) :: members) false)
  | .array items :: up, .closeArray => .next up (.behind (Frame.finish doc .closed (.array items)))
  | .object members key :: up, .closeObject =>
      .next up (.behind (Frame.finish doc .closed (.object members key)))
  | frames, _ => .done ⟨cutOff .malformed doc frames, false⟩

/-- The flaw of a token where a key is due, when the key is passed over. -/
def skippedKeyFlaw : Token → Flaw
  | .broken b => b.skippedName
  | _ => .malformed

/-- Read a token. -/
def readToken (frames : List Frame) (place : Place) (t : Token) : Progress :=
  match place with
  | .value => readValue frames t
  | .item =>
      match frames, t with
      | .array items :: up, .closeArray => .next up (.behind (.array items .closed))
      | _, _ => readValue frames t
  | .key members first =>
      match t with
      | .string s => .next (.object members (.name s) :: frames) .colon
      | .closeObject =>
          if first then .next frames (.behind (.object [] .closed))
          else .done (breakOffKey members (some t) .malformed frames)
      | _ => .done (breakOffKey members (some t) (skippedKeyFlaw t) frames)
  | .colon =>
      match t with
      | .colon => .next frames .value
      | _ => .done (breakOff .stray frames)
  | .behind doc => readBehind doc frames t

/-- What has been read when the text ends. -/
def readEnd (frames : List Frame) : Place → Document
  | .value | .item | .colon => breakOff .ended frames
  | .key members _ => breakOffKey members none .unfinished frames
  | .behind doc => ⟨cutOff .unfinished doc frames, false⟩

/-- Read on. -/
def readFrom (frames : List Frame) (place : Place) : List Token → Document
  | [] => readEnd frames place
  | t :: ts =>
      match readToken frames place t with
      | .next frames place => readFrom frames place ts
      | .done d => d

/-- The document of a text. -/
def readDocument (s : String) : Document := readFrom [] .value (lex s.toList)

end AccessPolicy.Json
