import Fiction.Fault.Basic
import Fiction.Markup.Nesting
import Fiction.Story.Basic
import Fiction.Text.Letter

/-!
# Fiction.Story.Manuscript

Stories written as markup.

A manuscript starts with header lines `% key: value`, which lines that start with `%` continue, and
goes on with nodes: a line `# name` and the lines up to the next one. Two backquotes start a comment.

* `Manuscript.normalize` removes comments and brings line ends into one form. Positions in faults
  refer to its result.
* `Manuscript.parse` reads a story.
-/

namespace Fiction.Manuscript

/-! ## Normal form -/

/-- The text with every line end written as a line feed. -/
def unifyLines (cs : List Char) : List Char :=
  let cs := Text.replaceAll ['\n', '\r'] ['\n'] cs
  let cs := Text.replaceAll ['\r', '\n'] ['\n'] cs
  Text.replaceAll ['\r'] ['\n'] cs

/-- A line up to its comment. -/
def dropComment : List Char → List Char
  | [] => []
  | c :: cs => if c = '\x60' && cs.head? == some '\x60' then [] else c :: dropComment cs

/-- The text without comments and with a line feed at its end. -/
def normalize (cs : List Char) : List Char :=
  let lines := (Text.split ['\n'] (unifyLines cs)).map dropComment
  let lines := if lines.getLast? == some [] then lines.dropLast else lines
  if lines.isEmpty then ['\n'] else lines.flatMap fun line => line ++ ['\n']

/-! ## Lines -/

/-- The lines of a text that ends with a line feed, each without it and with its position. -/
def lines (cs : List Char) : List Fragment :=
  (Fragment.place '\n' 0 (Text.split ['\n'] cs)).dropLast

/-- The range of a line with its line feed. -/
def lineSpan (line : Fragment) : Span :=
  ⟨line.offset, line.stop + 1⟩

/-- A space or a tab. -/
def isInlineSpace (c : Char) : Bool :=
  c = ' ' || c = '\t'

/-- A character of the names of fields and nodes. -/
def isNameChar (c : Char) : Bool :=
  Text.isPlain c || c = '.' || c = '-'

/-- A line of the header: a field, a continuation, or nothing but spaces. -/
def isHeaderLine (line : Fragment) : Bool :=
  line.chars.head? == some '%' || line.chars.all isInlineSpace

/-- The name on the line that starts a node. -/
def nodeName? : List Char → Option (List Char)
  | '#' :: cs =>
      let start := cs.dropWhile isInlineSpace
      let name := start.takeWhile isNameChar
      if !name.isEmpty && (start.dropWhile isNameChar).all isInlineSpace then some name else none
  | _ => none

/-! ## Header -/

/-- The key and the value of a line that starts a field, from behind its percent sign. -/
def field? : List Char → Option (List Char × List Char)
  | ' ' :: cs =>
      let key := cs.takeWhile isNameChar
      match key, cs.dropWhile isNameChar with
      | _ :: _, ':' :: value => some (key, value)
      | _, _ => none
  | _ => none

/-- Puts a continuation behind a value. -/
def continueValue (value text : String) : String :=
  if text.isEmpty then value else if value.isEmpty then text else value ++ " " ++ text

/-- Reads header lines into fields; `current` is the key that a continuation belongs to. -/
def readHeader : (fields : Mapping String) → (current : Option String) → List Fragment →
    Except Flaw (Mapping String)
  | fields, _, [] => .ok fields
  | fields, current, line :: rest =>
      match line.chars with
      | '%' :: cs =>
          match field? cs with
          | some (key, value) =>
              let key := String.ofList key
              let value := String.ofList (Text.trim value)
              readHeader (Mapping.insert fields key value) (some key) rest
          | none =>
              match current with
              | none =>
                  .error (.of (.unexpected "a '% key: value' field" "a continuation line")
                    (lineSpan line))
              | some key =>
                  let value := (Mapping.get? fields key).getD ""
                  let text := String.ofList (Text.trim cs)
                  readHeader (Mapping.insert fields key (continueValue value text)) current rest
      | _ => readHeader fields current rest

/-- The words of a list of modules. -/
def moduleNames (s : String) : List String :=
  (s.toList.splitBy fun a b => isSeparator a == isSeparator b).filterMap fun word =>
    if word.any isSeparator then none else some (String.ofList word)
where
  /-- A comma or a blank. -/
  isSeparator (c : Char) : Bool := c = ',' || Text.isBlank c

/-- The story that header fields describe, still without nodes. -/
def ofFields (fields : Mapping String) : Except Cause Story := do
  let start := (Mapping.get? fields "start").getD ""
  if start.isEmpty then throw (.invalidStory .noStart)
  let new := Story.new start
  let state ←
    match Mapping.get? fields "state" with
    | none => pure Store.empty
    | some text =>
        match Json.parse? text with
        | some tree => Store.ofValue (.ofSorted tree)
        | none => throw (.invalidStory .badState)
  return { new with
    title := (Mapping.get? fields "title").getD new.title
    author := (Mapping.get? fields "author").getD new.author
    modules := ((Mapping.get? fields "modules").map moduleNames).getD []
    state
    metadata := ["start", "title", "author", "modules", "state"].foldl Mapping.erase fields }

/-! ## Nodes -/

/-- A node's lines without the blank ones at both ends, as one text. -/
def bodyText (lines : List Fragment) : String :=
  let kept := (lines.dropWhile Fragment.isBlank).reverse.dropWhile Fragment.isBlank
  String.ofList (Text.join ['\n'] (kept.reverse.map Fragment.chars))

/-- A node as it is read: its name, its lines and its range. -/
structure Entry where
  /-- The name. -/
  name : String
  /-- The lines behind the one with the name. -/
  lines : List Fragment
  /-- The range of the node, from its name to the next node. -/
  span : Span

/-- Groups lines into nodes. The first result holds the lines before the first node. -/
def groupNodes : List Fragment → List Fragment × List Entry
  | [] => ([], [])
  | line :: rest =>
      let (before, entries) := groupNodes rest
      match nodeName? line.chars with
      | some name =>
          let stop := ((before.getLast?.getD line).stop) + 1
          ([], ⟨String.ofList name, before, ⟨line.offset, stop⟩⟩ :: entries)
      | none => (line :: before, entries)

/-- Where a line that belongs nowhere goes wrong: at its start, or behind the sign of a node without
a name. -/
def strayPosition (line : Fragment) : Nat :=
  match line.chars with
  | '#' :: cs =>
      match cs.dropWhile isInlineSpace with
      | c :: _ =>
          if isNameChar c then line.offset
          else line.offset + 1 + (cs.takeWhile isInlineSpace).length
      | [] => line.offset + 1 + cs.length
  | _ => line.offset

/-- Adds nodes to a story. -/
def addNodes (story : Story) : List Entry → Except Flaw Story
  | [] => .ok story
  | entry :: rest =>
      match story.addNode entry.name (.markup (bodyText entry.lines)) with
      | .ok story => addNodes story rest
      | .error cause => .error (.of cause entry.span)

/-- Reads a text in normal form. -/
def read (cs : List Char) : Except Flaw Story := do
  let lines := lines cs
  let header := lines.takeWhile isHeaderLine
  let (stray, entries) := groupNodes (lines.dropWhile isHeaderLine)
  match stray with
  | line :: _ => throw (.of .strayText (.at (strayPosition line)))
  | [] =>
      let headerSpan : Span := ⟨0, (header.getLast?.map fun line => line.stop + 1).getD 0⟩
      let atHeader {α : Type} : Except Cause α → Except Flaw α
        | .ok a => .ok a
        | .error cause => .error (.of cause headerSpan)
      let fields ← readHeader [] none header
      let story ← atHeader (ofFields fields)
      let story ← addNodes story entries
      atHeader story.validate
      return story

/-- Reads a story from its manuscript. -/
def parse (source : Source) : Except Fault Story :=
  let normal := normalize source.text.toList
  match read normal with
  | .ok story => .ok story
  | .error flaw => .error (.ofFlaw ⟨source.name, String.ofList normal⟩ .load flaw)

end Fiction.Manuscript
