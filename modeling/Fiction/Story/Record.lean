import Fiction.Fault.Basic
import Fiction.Story.Basic

/-!
# Fiction.Story.Record

Stories written as data: fixed nodes with their links.

* `Record.parse` reads a story from the text of a data tree.
* `Story.toJson` writes one; markup is written as it stands and without links.

A record is an object with named fields, or an array with the fields in their order.
-/

namespace Fiction

namespace Record

/-! ## Fields -/

/-- The fields of a record in the order of their names. A field must not be given twice; fields with
other names do not count. -/
def fields? (names : List String) : Json → Option (List (Option Json))
  | .object members =>
      if names.all fun name => decide ((members.filter fun m => m.1 == name).length ≤ 1) then
        some (names.map fun name => Mapping.get? members name)
      else none
  | .array items =>
      if items.length ≤ names.length then
        some (items.map some ++ List.replicate (names.length - items.length) none)
      else none
  | _ => none

/-- A text. -/
def text? : Json → Option String
  | .text s => some s
  | _ => none

/-- A list of texts. -/
def texts? : Json → Option (List String)
  | .array items => items.mapM text?
  | _ => none

/-- A field that may be missing. -/
def withDefault {α : Type} (read : Json → Option α) (default : α) : Option Json → Option α
  | some j => read j
  | none => some default

/-- A field that may be missing or null. -/
def optional {α : Type} (read : Json → Option α) : Option Json → Option (Option α)
  | none => some none
  | some .null => some none
  | some j => (read j).map some

/-- An object as a mapping. The last value of a repeated key counts. -/
def mapping? {α : Type} (read : Json → Option α) : Json → Option (Mapping α)
  | .object members => do
      let entries ← members.mapM fun (k, j) => (read j).map (k, ·)
      return Mapping.ofEntries entries
  | _ => none

/-! ## Nodes -/

/-- A link as it is written: a target, or a target and commands. -/
structure SuccessorRecord where
  target : String
  commands : List String

/-- A node as it is written. -/
structure NodeRecord where
  name : Option String
  content : String
  successors : Mapping SuccessorRecord

/-- A story as it is written. -/
structure StoryRecord where
  title : String
  author : String
  start : String
  modules : List String
  state : Option Json
  nodes : Mapping NodeRecord

/-- Reads a link. -/
def successor? : Json → Option SuccessorRecord
  | .text target => some ⟨target, []⟩
  | .array [.text target, commands] => (texts? commands).map (⟨target, ·⟩)
  | _ => none

/-- Reads a node. -/
def node? (j : Json) : Option NodeRecord := do
  match ← fields? ["name", "content", "successors"] j with
  | [name, some content, successors] =>
      return ⟨← optional text? name, ← text? content,
        ← withDefault (mapping? successor?) [] successors⟩
  | _ => none

/-- Reads a story. -/
def story? (j : Json) : Option StoryRecord := do
  match ← fields? ["title", "author", "start", "modules", "state", "nodes"] j with
  | [title, author, some start, modules, state, some nodes] =>
      return ⟨← withDefault text? "Untitled" title, ← withDefault text? "Unknown" author,
        ← text? start, ← withDefault texts? [] modules, ← optional some state,
        ← mapping? node? nodes⟩
  | _ => none

/-! ## Stories -/

/-- The links of a node, with their commands read. -/
def successors (m : Mapping SuccessorRecord) : Except Cause (List Successor) :=
  m.mapM fun (anchor, record) => do
    let commands ← record.commands.mapM Command.parse
    return ⟨anchor, record.target, commands⟩

/-- Adds nodes to a story. A node's name, if it is given, is the key it stands under. -/
def addNodes (story : Story) : Mapping NodeRecord → Except Cause Story
  | [] => .ok story
  | (key, node) :: rest =>
      match node.name with
      | some name =>
          if name = key then add key node rest
          else .error (.invalidStory (.misnamed key name))
      | none => add key node rest
where
  /-- Adds a node and then the others. -/
  add (key : String) (node : NodeRecord) (rest : Mapping NodeRecord) : Except Cause Story := do
    let links ← successors node.successors
    let story ← story.addNode key (.fixed node.content links)
    addNodes story rest

/-- The story of a record. -/
def toStory (record : StoryRecord) : Except Cause Story := do
  let state ←
    match record.state with
    | some tree => Store.ofValue (.ofSorted tree)
    | none => pure .empty
  let story := { Story.new record.start with
    title := record.title, author := record.author, modules := record.modules, state }
  let story ← addNodes story record.nodes
  story.validate
  return story

/-- Reads a story from the text of a data tree. -/
def parse (source : Source) : Except Fault Story :=
  let fail {α : Type} (cause : Cause) : Except Fault α :=
    .error (.ofFlaw source .load (.of cause ⟨0, 0⟩))
  match (Json.parse? source.text).bind story? with
  | none => fail (.invalidStory .badRecord)
  | some record =>
      match toStory record with
      | .ok story => .ok story
      | .error cause => fail cause

end Record

namespace Story

/-! ## Writing -/

/-- A link as data. -/
def successorJson (l : Successor) : Json :=
  if l.commands.isEmpty then .text l.target
  else .array [.text l.target, .array (l.commands.map fun c => .text c.text)]

/-- A node as data. -/
def nodeJson (name : String) (body : NodeBody) : Json :=
  let successors :=
    match body with
    | .markup _ => []
    | .fixed _ ls => Mapping.ofEntries (ls.map fun l => (l.anchor, successorJson l))
  .object ([("name", .text name), ("content", .text body.content)] ++
    if successors.isEmpty then [] else [("successors", .object successors)])

/-- A story as data. Modules and variables are left out when there are none. -/
def toJson (s : Story) : Json :=
  .object ([("title", .text s.title), ("author", .text s.author), ("start", .text s.start)] ++
    (if s.modules.isEmpty then [] else [("modules", .array (s.modules.map .text))]) ++
    (if s.state.isEmpty then [] else [("state", s.state.toValue.toSorted)]) ++
    [("nodes", .object (s.nodes.map fun (name, body) => (name, nodeJson name body)))])

/-- The text of a story as data. -/
def toRecordText (s : Story) : String :=
  s.toJson.pretty

end Story

end Fiction
