import Fiction.Yaml.Scalar

/-!
# Fiction.Yaml.Reader

Reading settings files.

`Yaml.parse?` reads a text that holds one document: nothing, or keys with scalars or lists of
scalars. Keys and lists are told apart by indentation or written in brackets. Values may have a name
(`&name`), by which later ones can repeat them (`*name`), and a tag. Everything else is refused:
nested structure, keys that run over a line end, and further documents.

* `value` reads what stands behind a key.
* `pairs` reads the keys of a column and `flowPairs` those in braces.
* `document` reads a text from its directives to its end.
-/

namespace Fiction.Yaml

/-- Where a reader is, and the values that have a name. -/
structure State where
  /-- The place in the text. -/
  cursor : Cursor
  /-- The named values, the latest first. -/
  anchors : List (String × Item)
deriving Inhabited

/-- Computations that read. -/
abbrev Reader := StateT State Option

namespace Reader

/-- Where the reader is. -/
def cursor : Reader Cursor :=
  State.cursor <$> get

/-- The text that follows. -/
def rest : Reader (List Char) :=
  Cursor.rest <$> cursor

/-- Goes to a place. -/
def goTo (c : Cursor) : Reader Unit :=
  modify fun s => { s with cursor := c }

/-- Goes some characters further on the line. -/
def skip (n : Nat) : Reader Unit := do
  goTo ((← cursor).skip n)

/-- Goes to the next token, and tells whether it stands on a later line. -/
def next (flow tabs : Bool) : Reader Bool := do
  let (c, crossed) := (← cursor).next flow tabs
  goTo c
  return crossed

/-! ## Names and tags -/

/-- The characters of names. -/
def isNameChar (c : Char) : Bool :=
  c.isAlphanum || c = '_' || c = '-'

/-- Reads a name behind its sign. -/
def name : Reader String := do
  let cs := (← rest).drop 1
  let word := cs.takeWhile isNameChar
  let after := cs.drop word.length
  let ends := endsWord after ||
    after.head?.any fun c => c = '?' || c = ':' || c = ',' || c = ']' || c = '}' || c = '%' ||
      c = '@' || c = '\x60'
  if word.isEmpty || !ends then failure
  skip (word.length + 1)
  return String.ofList word

/-- The characters of tags. -/
def isTagChar (c : Char) : Bool :=
  isNameChar c || c = ';' || c = '/' || c = '?' || c = ':' || c = '@' || c = '&' || c = '=' ||
    c = '+' || c = '$' || c = '.' || c = '~' || c = '*' || c = '\'' || c = '(' || c = ')' || c = '%'

/-- What the tags of the standard start with. -/
def standardTag : String := "tag:yaml.org,2002:"

/-- Reads a tag. -/
def tag (flow : Bool) : Reader String := do
  let (text, length) ← match ← rest with
    | '!' :: '<' :: cs =>
        let word := cs.takeWhile fun c => isTagChar c || c = '!' || c = ',' || c = '[' || c = ']'
        if word.isEmpty || (cs.drop word.length).head? != some '>' then failure
        else pure (String.ofList word, word.length + 3)
    | '!' :: '!' :: cs =>
        let word := cs.takeWhile isTagChar
        if word.isEmpty then failure
        else pure (standardTag ++ String.ofList word, word.length + 2)
    | '!' :: cs =>
        let word := cs.takeWhile isTagChar
        pure (String.ofList ('!' :: word), word.length + 1)
    | _ => failure
  skip length
  let after ← rest
  if endsWord after || (flow && after.head? == some ',') then return text else failure

/-- What stands in front of a value. -/
structure Properties where
  anchor : Option String := none
  tag : Option String := none
deriving Inhabited

/-- Reads up to `count` properties. The result tells whether a line ended behind the last one; without
any it is `later`. -/
def properties (flow : Bool) : (count : Nat) → Properties → (later : Bool) → Reader (Properties × Bool)
  | 0, p, later => return (p, later)
  | count + 1, p, later => do
      match ← rest with
      | '&' :: _ =>
          if p.anchor.isSome then failure
          let anchor ← name
          properties flow count { p with anchor := some anchor } (← next flow true)
      | '!' :: _ =>
          if p.tag.isSome then failure
          let text ← tag flow
          properties flow count { p with tag := some text } (← next flow true)
      | _ => return (p, later)

/-- Names a value, if its properties say so. -/
def define (p : Properties) (item : Item) : Reader Unit :=
  match p.anchor with
  | some anchor => modify fun s => { s with anchors := (anchor, item) :: s.anchors }
  | none => pure ()

/-- Reads the name of an earlier value. -/
def earlier : Reader Item := do
  let word ← name
  match (← get).anchors.lookup word with
  | some item => return item
  | none => failure

/-! ## Scalars -/

/-- Reads a scalar and goes to the next token. The result tells whether a line ended in between. -/
def scalar (flow : Bool) (least : Nat) (tag : Option String) : Reader (Scalar × Bool) := do
  let c ← cursor
  match c.rest with
  | '\'' :: _ | '"' :: _ =>
      let (text, c) ← readQuoted c
      goTo c
      return (⟨false, tag, text⟩, ← next flow true)
  | '|' :: _ | '>' :: _ =>
      if flow then failure
      let (text, c) ← readBlock least c
      goTo c
      let _ ← next false false
      return (⟨false, tag, text⟩, true)
  | _ =>
      let (text, c, crossed) ← readPlain flow least c
      goTo c
      let later ← next flow (!crossed)
      return (⟨true, tag, text⟩, crossed || later)

/-- Fails unless the next token stands on a later line. -/
def needLine (later : Bool) : Reader Unit := do
  if later || (← rest).isEmpty then pure () else failure

/-- Reads a scalar or the name of one, with its properties `p` already read. -/
def scalarOrName (flow : Bool) (least : Nat) (p : Properties) : Reader (Scalar × Bool) := do
  match ← rest with
  | '*' :: _ =>
      if p.anchor.isSome || p.tag.isSome then failure
      match ← earlier with
      | .scalar s => return (s, ← next flow true)
      | .list _ => failure
  | _ =>
      let (s, later) ← scalar flow least p.tag
      define p (.scalar s)
      return (s, later)

/-! ## Brackets -/

/-- Whether a value in brackets ends here. -/
def endsFlow : List Char → Bool
  | c :: _ => c = ',' || c = ']' || c = '}'
  | [] => false

/-- Reads a scalar in brackets. -/
def flowScalar (least : Nat) : Reader Scalar := do
  let (p, _) ← properties true 2 {} false
  if (p.anchor.isSome || p.tag.isSome) && endsFlow (← rest) then
    define p (.scalar (.missing p.tag))
    return .missing p.tag
  else return (← scalarOrName true least p).1

/-- Reads the scalars of a list in brackets, from behind the opening one. -/
def flowScalars (least : Nat) : (fuel : Nat) → List Scalar → Reader (List Scalar)
  | 0, _ => failure
  | fuel + 1, items => do
      match ← rest with
      | ']' :: _ =>
          skip 1
          return items.reverse
      | _ =>
          let item ← flowScalar least
          match ← rest with
          | ']' :: _ =>
              skip 1
              return (item :: items).reverse
          | ',' :: _ =>
              skip 1
              let _ ← next true true
              flowScalars least fuel (item :: items)
          | _ => failure

/-- Reads a list in brackets. -/
def flowList (least : Nat) : Reader (List Scalar) := do
  skip 1
  let _ ← next true true
  flowScalars least ((← rest).length + 1) []

/-- Reads the value of a key in braces and goes to the next token. -/
def flowValue : Reader Item := do
  let (p, _) ← properties true 2 {} false
  if endsFlow (← rest) then
    define p (.scalar (.missing p.tag))
    return .scalar (.missing p.tag)
  match ← rest with
  | '[' :: _ =>
      let item := .list (← flowList 0)
      define p item
      let _ ← next true true
      return item
  | '*' :: _ =>
      if p.anchor.isSome || p.tag.isSome then failure
      let item ← earlier
      let _ ← next true true
      return item
  | _ => return .scalar (← scalarOrName true 0 p).1

/-- The key of a pair: a scalar on one line, up to its colon. Behind a key in braces the colon may be
missing; the result tells whether it is there. -/
def key (flow : Bool) : Reader (String × Bool) := do
  let c ← cursor
  let line := c.rest.takeWhile (!isBreak ·)
  goTo { c with rest := line }
  let (p, _) ← properties flow 2 {} false
  let (s, _) ← scalarOrName flow 0 p
  let after ← rest
  let length := line.length - after.length
  goTo (c.skip length)
  match after with
  | ':' :: cs =>
      if length ≤ 1024 && (flow || endsWord cs) then
        skip 1
        return (s.text, true)
      else failure
  | _ =>
      if flow then
        let _ ← next true true
        return (s.text, false)
      else failure

/-- Reads the pairs in braces, from behind the opening one. -/
def flowPairs : (fuel : Nat) → Document → Reader Document
  | 0, _ => failure
  | fuel + 1, pairs => do
      match ← rest with
      | '}' :: _ =>
          skip 1
          return pairs.reverse
      | _ =>
          let (k, hasValue) ← key true
          let item ←
            if hasValue then
              let _ ← next true true
              flowValue
            else pure (.scalar (.missing none))
          match ← rest with
          | '}' :: _ =>
              skip 1
              return ((k, item) :: pairs).reverse
          | ',' :: _ =>
              skip 1
              let _ ← next true true
              flowPairs fuel ((k, item) :: pairs)
          | _ => failure

/-! ## Indentation -/

/-- Whether an entry of a list starts here. -/
def startsEntry : List Char → Bool
  | '-' :: cs => endsWord cs
  | _ => false

/-- Whether nothing is written for a value that would have to be indented by more than `column`, or be
a list at `column`. -/
def isAbsent (column : Nat) (list later : Bool) : Reader Bool := do
  let c ← cursor
  return c.rest.isEmpty || (later && (c.atMarker || c.column < column ||
    (c.column == column && !(list && startsEntry c.rest))))

/-- Reads the entries of a list at `column`. -/
def entries (column : Nat) : (fuel : Nat) → List Scalar → Reader (List Scalar)
  | 0, _ => failure
  | fuel + 1, items => do
      let c ← cursor
      if c.column == column && startsEntry c.rest && !c.atEnd then
        skip 1
        let later ← next false false
        if ← isAbsent column false later then
          entries column fuel (.missing none :: items)
        else
          let (p, later) ← properties false 2 {} later
          if ← isAbsent column false later then
            define p (.scalar (.missing p.tag))
            entries column fuel (.missing p.tag :: items)
          else
            let (s, later) ← scalarOrName false (column + 1) p
            needLine later
            entries column fuel (s :: items)
      else return items.reverse

/-- Reads what stands behind the colon of a key at `column`. -/
def value (column : Nat) : Reader Item := do
  let later ← next false true
  if ← isAbsent column true later then return .scalar (.missing none)
  let (p, later) ← properties false 2 {} later
  if ← isAbsent column true later then
    define p (.scalar (.missing p.tag))
    return .scalar (.missing p.tag)
  let c ← cursor
  if later && startsEntry c.rest then
    let item := .list (← entries c.column (c.rest.length + 1) [])
    define p item
    return item
  match c.rest with
  | '[' :: _ =>
      let item := .list (← flowList (column + 1))
      define p item
      needLine (← next false true)
      return item
  | '*' :: _ =>
      if p.anchor.isSome || p.tag.isSome then failure
      let item ← earlier
      needLine (← next false true)
      return item
  | _ =>
      let (s, later) ← scalarOrName false (column + 1) p
      needLine later
      return .scalar s

/-- Reads the pairs whose keys stand at `column`. -/
def pairs (column : Nat) : (fuel : Nat) → Document → Reader Document
  | 0, _ => failure
  | fuel + 1, read => do
      let c ← cursor
      if c.atEnd then return read.reverse
      else if c.column == column then
        let (k, _) ← key false
        let item ← value column
        pairs column fuel ((k, item) :: read)
      else failure

/-! ## Documents -/

/-- Reads pairs in braces, or below each other if they start on a line of their own. -/
def collection (fresh : Bool) : Reader Document := do
  let c ← cursor
  match c.rest with
  | '{' :: _ =>
      skip 1
      let _ ← next true true
      let read ← flowPairs (c.rest.length + 1) []
      let _ ← next false true
      return read
  | _ => if fresh then pairs c.column (c.rest.length + 1) [] else failure

/-- Reads what a document holds. -/
def root (fresh : Bool) : Reader Document := do
  if (← cursor).atEnd then return []
  collection fresh <|> do
    let (_, later) ← properties false 2 {} fresh
    if (← cursor).atEnd then return [] else collection later

/-- Goes over the marks at the end of a document, up to the end of the text. -/
def epilogue : (fuel : Nat) → Reader Unit
  | 0 => failure
  | fuel + 1 => do
      let c ← cursor
      match c.rest with
      | [] => pure ()
      | '.' :: _ =>
          if c.atMarker then
            skip 3
            let _ ← next false true
            epilogue fuel
          else failure
      | _ => failure

/-- Goes over a directive that gives the version of the format. -/
def version : Reader Unit := do
  match (← rest) with
  | '%' :: 'Y' :: 'A' :: 'M' :: 'L' :: cs =>
      match cs.dropWhile isSpace with
      | '1' :: '.' :: minor :: after =>
          if (minor = '1' || minor = '2') && endsWord after && endsWord cs then
            goTo ⟨after, 1⟩
            needLine (← next false true)
          else failure
      | _ => failure
  | _ => failure

/-- Reads a text from its directives to its end. -/
def document : Reader Document := do
  let _ ← next false false
  let c ← cursor
  let directed := c.column == 0 && c.rest.head? == some '%'
  if directed then version
  let c ← cursor
  let read ←
    if c.atMarker then
      if c.rest.head? == some '-' then
        skip 3
        root (← next false true)
      else failure
    else if directed then failure
    else root true
  epilogue ((← rest).length + 1)
  return read

end Reader

/-- Drops the mark that some editors put at the start of a text. -/
def dropByteOrder : List Char → List Char
  | '\ufeff' :: cs => cs
  | cs => cs

/-- The document that a text holds. -/
def parse? (text : String) : Option Document :=
  let cs := dropByteOrder text.toList
  if cs.all isAllowed then (Reader.document.run ⟨⟨cs, 0⟩, []⟩).map Prod.fst else none

end Fiction.Yaml
