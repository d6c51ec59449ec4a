import Fiction.Proofs.Markup.Pieces
import Fiction.Proofs.Story.Command
import Fiction.Story.Record

/-!
# Fiction.Proofs.Story.Record

**Stories written as data are read as they were.**

* `Record.Loaded` says what stories come out of `Record.parse`: fixed nodes with distinct names,
  links with distinct anchors, literal commands, and variables in the order of their keys.
* `StoryRecord.ofStory` is the record of such a story. `story?_toJson` reads it from the story's
  data, and `toStory_ofStory` makes it the story again.
* `parse_toRecordText`: a story that was read and has no reals is read from its own text.
-/

namespace Fiction

/-- The fixed links of a node. -/
def NodeBody.links : NodeBody → List Successor
  | markup _ => []
  | fixed _ links => links

/-- No value of the variables or of a command has a real. -/
def Story.RealFree (s : Story) : Prop :=
  s.state.toValue.RealFree ∧
    ∀ node ∈ s.nodes, ∀ link ∈ node.2.links, ∀ c ∈ link.commands, c.RealFree

instance (s : Story) : Decidable s.RealFree :=
  inferInstanceAs (Decidable (_ ∧ _))

namespace Record

variable {α β : Type}

/-! ## Reading lists -/

theorem mapM_eq_pure {m : Type → Type} [Monad m] [LawfulMonad m] {f : α → m β} {g : α → β}
    {xs : List α} (h : ∀ x ∈ xs, f x = pure (g x)) : xs.mapM f = pure (xs.map g) := by
  induction xs with
  | nil => exact List.mapM_nil
  | cons x xs ih =>
      rw [List.mapM_cons, h x List.mem_cons_self, ih fun x hx => h x (List.mem_cons_of_mem _ hx)]
      simp only [pure_bind, List.map_cons]

theorem exists_of_mapM_eq_some {f : α → Option β} {xs : List α} {ys : List β}
    (h : xs.mapM f = some ys) : ∀ y ∈ ys, ∃ x ∈ xs, f x = some y := by
  induction xs generalizing ys with
  | nil =>
      rw [List.mapM_nil] at h
      cases h
      exact List.forall_mem_nil _
  | cons x xs ih =>
      rw [List.mapM_cons] at h
      obtain ⟨y, hy, h⟩ := Option.bind_eq_some_iff.mp h
      obtain ⟨rest, hrest, h⟩ := Option.bind_eq_some_iff.mp h
      cases h
      rw [List.forall_mem_cons]
      refine ⟨⟨x, List.mem_cons_self, hy⟩, fun z hz => ?_⟩
      obtain ⟨w, hw, found⟩ := ih hrest z hz
      exact ⟨w, List.mem_cons_of_mem _ hw, found⟩

theorem exists_of_mapM_eq_ok {ε : Type} {f : α → Except ε β} {xs : List α} {ys : List β}
    (h : xs.mapM f = .ok ys) : ∀ y ∈ ys, ∃ x ∈ xs, f x = .ok y := by
  induction xs generalizing ys with
  | nil =>
      rw [List.mapM_nil] at h
      cases h
      exact List.forall_mem_nil _
  | cons x xs ih =>
      rw [List.mapM_cons] at h
      obtain ⟨y, hy, h⟩ := Outcome.bind_eq_ok.mp h
      obtain ⟨rest, hrest, h⟩ := Outcome.bind_eq_ok.mp h
      cases h
      rw [List.forall_mem_cons]
      refine ⟨⟨x, List.mem_cons_self, hy⟩, fun z hz => ?_⟩
      obtain ⟨w, hw, found⟩ := ih hrest z hz
      exact ⟨w, List.mem_cons_of_mem _ hw, found⟩

/-! ## Reading fields -/

/-- A mapping that is read has distinct keys, and its values were read. -/
theorem of_mapping? {read : Json → Option α} {j : Json} {m : Mapping α}
    (h : mapping? read j = some m) :
    Mapping.Distinct m ∧ ∀ entry ∈ m, ∃ k, read k = some entry.2 := by
  cases j with
  | object members =>
      obtain ⟨entries, hentries, h⟩ := Option.bind_eq_some_iff.mp h
      cases h
      refine ⟨Mapping.distinct_ofEntries entries, fun entry hentry => ?_⟩
      obtain ⟨member, -, found⟩ :=
        exists_of_mapM_eq_some hentries entry (Mapping.mem_of_mem_ofEntries hentry)
      obtain ⟨value, hvalue, rfl⟩ := Option.map_eq_some_iff.mp found
      exact ⟨member.2, hvalue⟩
  | null | bool b | int n | real x | text s | array items => cases h

/-- Members with distinct keys are read as the mapping they make up. -/
theorem mapping?_object {read : Json → Option β} {xs : List α} {key : α → String}
    {write : α → Json} {value : α → β} (h : (xs.map key).Nodup)
    (hread : ∀ x ∈ xs, read (write x) = some (value x)) :
    mapping? read (.object (xs.map fun x => (key x, write x))) =
      some (xs.map fun x => (key x, value x)) := by
  have all : ((xs.map fun x => (key x, write x)).mapM fun member =>
      (read member.2).map (member.1, ·)) = some (xs.map fun x => (key x, value x)) := by
    rw [List.mapM_map]
    refine mapM_eq_pure fun x hx => ?_
    rw [Function.comp, hread x hx]
    rfl
  have distinct : Mapping.Distinct (xs.map fun x => (key x, value x)) := by
    unfold Mapping.Distinct
    rwa [List.map_map]
  have read : mapping? read (.object (xs.map fun x => (key x, write x))) =
      (some (xs.map fun x => (key x, value x))).bind fun entries =>
        some (Mapping.ofEntries entries) := by
    rw [← all]
    rfl
  rw [read, Option.bind_some, Mapping.ofEntries_of_distinct distinct]

/-- A field is nested less deep than its record. -/
theorem depth_lt_of_fields? {names : List String} {j : Json} {fields : List (Option Json)}
    (h : fields? names j = some fields) {n : Nat} (deep : j.depth ≤ n) :
    ∀ field ∈ fields, ∀ tree ∈ field, tree.depth < n := by
  cases j with
  | object members =>
      obtain ⟨n, rfl⟩ := Nat.exists_eq_succ_of_ne_zero (Nat.ne_of_gt (Nat.zero_lt_of_lt deep))
      rw [fields?] at h
      split at h
      · cases h
        rw [List.forall_mem_map]
        intro name _ tree htree
        exact Nat.lt_succ_of_le (Json.depth_object_le_iff.mp deep _ (Mapping.mem_of_get? htree))
      · cases h
  | array items =>
      obtain ⟨n, rfl⟩ := Nat.exists_eq_succ_of_ne_zero (Nat.ne_of_gt (Nat.zero_lt_of_lt deep))
      rw [fields?] at h
      split at h
      · cases h
        intro field hfield tree htree
        rcases List.mem_append.mp hfield with given | missing
        · obtain ⟨item, hitem, rfl⟩ := List.mem_map.mp given
          cases htree
          exact Nat.lt_succ_of_le (Json.depth_array_le_iff.mp deep tree hitem)
        · rw [List.eq_of_mem_replicate missing] at htree
          cases htree
      · cases h
  | null | bool b | int n | real x | text s => cases h

/-! ## What is read -/

theorem distinct_of_node? {j : Json} {node : NodeRecord} (h : node? j = some node) :
    Mapping.Distinct node.successors := by
  obtain ⟨fields, -, h⟩ := Option.bind_eq_some_iff.mp h
  split at h
  · next name content successors =>
      obtain ⟨name, -, h⟩ := Option.bind_eq_some_iff.mp h
      obtain ⟨content, -, h⟩ := Option.bind_eq_some_iff.mp h
      obtain ⟨links, hlinks, h⟩ := Option.bind_eq_some_iff.mp h
      cases h
      cases successors with
      | none =>
          cases hlinks
          exact List.nodup_nil
      | some j => exact (of_mapping? hlinks).1
  · cases h

theorem of_story? {j : Json} {record : StoryRecord} (h : story? j = some record) {n : Nat}
    (deep : j.depth ≤ n) :
    (∀ tree ∈ record.state, tree.depth < n) ∧
      ∀ node ∈ record.nodes, Mapping.Distinct node.2.successors := by
  obtain ⟨fields, hfields, h⟩ := Option.bind_eq_some_iff.mp h
  split at h
  · next title author start modules state nodes =>
      obtain ⟨title, -, h⟩ := Option.bind_eq_some_iff.mp h
      obtain ⟨author, -, h⟩ := Option.bind_eq_some_iff.mp h
      obtain ⟨start, -, h⟩ := Option.bind_eq_some_iff.mp h
      obtain ⟨modules, -, h⟩ := Option.bind_eq_some_iff.mp h
      obtain ⟨initial, hinitial, h⟩ := Option.bind_eq_some_iff.mp h
      obtain ⟨bodies, hbodies, h⟩ := Option.bind_eq_some_iff.mp h
      cases h
      constructor
      · intro tree htree
        refine depth_lt_of_fields? hfields deep state (by simp) tree ?_
        cases state with
        | none =>
            cases hinitial
            cases htree
        | some j =>
            cases j with
            | null =>
                cases hinitial
                cases htree
            | bool b | int n | real x | text s | array items | object members =>
                cases hinitial
                exact htree
      · intro node hnode
        obtain ⟨k, hk⟩ := (of_mapping? hbodies).2 node hnode
        exact distinct_of_node? hk
  · cases h

theorem map_of_mapM_eq_ok {ε γ : Type} {f : α → Except ε β} {key : α → γ} {key' : β → γ}
    {xs : List α} {ys : List β} (h : xs.mapM f = .ok ys)
    (same : ∀ x y, f x = .ok y → key' y = key x) : ys.map key' = xs.map key := by
  induction xs generalizing ys with
  | nil =>
      rw [List.mapM_nil] at h
      cases h
      rfl
  | cons x xs ih =>
      rw [List.mapM_cons] at h
      obtain ⟨y, hy, h⟩ := Outcome.bind_eq_ok.mp h
      obtain ⟨rest, hrest, h⟩ := Outcome.bind_eq_ok.mp h
      cases h
      rw [List.map_cons, List.map_cons, same x y hy, ih hrest]

/-- The nodes that are read: fixed text, links with distinct anchors and literal commands. -/
inductive LoadedBody : NodeBody → Prop
  | fixed {content : String} {links : List Successor} : (links.map Successor.anchor).Nodup →
      (∀ link ∈ links, ∀ c ∈ link.commands, c.Parsed) → LoadedBody (.fixed content links)

theorem LoadedBody.fixed_eq {body : NodeBody} (h : LoadedBody body) :
    .fixed body.content body.links = body := by
  cases h with
  | fixed _ _ => rfl

/-- The link of a record under its anchor. -/
def Successor.ofRecord (entry : String × SuccessorRecord) : Except Cause Successor := do
  let commands ← entry.2.commands.mapM Command.parse
  return ⟨entry.1, entry.2.target, commands⟩

theorem successors_eq (m : Mapping SuccessorRecord) : successors m = m.mapM Successor.ofRecord :=
  rfl

theorem loadedBody_of_successors {m : Mapping SuccessorRecord} {links : List Successor}
    (h : successors m = .ok links) (distinct : Mapping.Distinct m) (content : String) :
    LoadedBody (.fixed content links) := by
  rw [successors_eq] at h
  have anchors : ∀ entry link, Successor.ofRecord entry = .ok link → link.anchor = entry.1 := by
    intro entry link made
    obtain ⟨commands, -, made⟩ := Outcome.bind_eq_ok.mp made
    cases made
    rfl
  refine .fixed ?_ fun link hlink c hc => ?_
  · rw [map_of_mapM_eq_ok h anchors]
    exact distinct
  · obtain ⟨entry, -, made⟩ := exists_of_mapM_eq_ok h link hlink
    obtain ⟨commands, hcommands, made⟩ := Outcome.bind_eq_ok.mp made
    cases made
    obtain ⟨text, -, parsed⟩ := exists_of_mapM_eq_ok hcommands c hc
    exact Command.parsed_of_parse parsed

/-- The nodes of a story have distinct names and are as they are read. -/
def LoadedNodes (nodes : Mapping NodeBody) : Prop :=
  Mapping.Distinct nodes ∧ ∀ node ∈ nodes, LoadedBody node.2

theorem LoadedNodes.insert {nodes : Mapping NodeBody} (h : LoadedNodes nodes) {name : String}
    {body : NodeBody} (hbody : LoadedBody body) : LoadedNodes (nodes.insert name body) := by
  refine ⟨Mapping.distinct_insert h.1, fun node hnode => ?_⟩
  rcases Mapping.mem_insert hnode with old | rfl
  · exact h.2 node old
  · exact hbody

/-- Adding nodes changes nothing but the nodes. -/
theorem of_addNodes {story story' : Story} {m : Mapping NodeRecord}
    (h : addNodes story m = .ok story')
    (distinct : ∀ node ∈ m, Mapping.Distinct node.2.successors) (loaded : LoadedNodes story.nodes) :
    LoadedNodes story'.nodes ∧ story' = { story with nodes := story'.nodes } := by
  induction m generalizing story with
  | nil =>
      rw [addNodes] at h
      cases h
      exact ⟨loaded, rfl⟩
  | cons entry rest ih =>
      obtain ⟨key, node⟩ := entry
      rw [List.forall_mem_cons] at distinct
      have added (h : addNodes.add story key node rest = .ok story') :
          LoadedNodes story'.nodes ∧ story' = { story with nodes := story'.nodes } := by
        rw [addNodes.add] at h
        obtain ⟨links, hlinks, h⟩ := Outcome.bind_eq_ok.mp h
        obtain ⟨next, hnext, h⟩ := Outcome.bind_eq_ok.mp h
        rw [Story.addNode] at hnext
        split at hnext
        · cases hnext
        · cases hnext
          have body := loadedBody_of_successors hlinks distinct.1 node.content
          obtain ⟨nodes, fields⟩ := ih h distinct.2 (loaded.insert body)
          exact ⟨nodes, fields⟩
      rw [addNodes] at h
      split at h
      · split at h
        · exact added h
        · cases h
      · exact added h

/-- The stories that are read. -/
structure Loaded (s : Story) : Prop where
  metadata : s.metadata = []
  state : ∃ tree : Json, tree.depth < Json.nestingLimit ∧ s.state.toValue = .ofSorted tree
  nodes : LoadedNodes s.nodes
  valid : s.validate = .ok ()

/-- The variables of a record. -/
def initialState : Option Json → Except Cause Store
  | some tree => Store.ofValue (.ofSorted tree)
  | none => .ok .empty

/-- The story of a record before its nodes are added. -/
def blankStory (record : StoryRecord) (state : Store) : Story :=
  ⟨record.title, record.author, record.start, record.modules, state, [], []⟩

theorem toStory_eq (record : StoryRecord) : toStory record = do
    let state ← initialState record.state
    let story ← addNodes (blankStory record state) record.nodes
    story.validate
    return story := by
  unfold toStory
  cases record.state with
  | none => rfl
  | some tree => rfl

/-- The variables of a record are the value of a tree that is nested no deeper than its fields. -/
theorem exists_of_initialState {given : Option Json} {state : Store}
    (h : initialState given = .ok state) (deep : ∀ tree ∈ given, tree.depth < Json.nestingLimit) :
    ∃ tree : Json, tree.depth < Json.nestingLimit ∧ state.toValue = .ofSorted tree := by
  have empty : Store.empty.toValue = .ofSorted (.object []) := by
    rw [Value.ofSorted, Value.ofSortedMembers, Mapping.sorted_of_inOrder .nil]
    rfl
  cases given with
  | none =>
      cases h
      exact ⟨.object [], by decide, empty⟩
  | some tree =>
      rw [initialState] at h
      cases value : Value.ofSorted tree with
      | mapping root =>
          rw [value] at h
          cases h
          exact ⟨tree, deep tree rfl, value.symm⟩
      | null =>
          rw [value] at h
          cases h
          -- null stands for no variables
          exact ⟨.object [], by decide, empty⟩
      | bool b | int n | real x | text s | list items =>
          rw [value] at h
          cases h

theorem loaded_of_toStory {record : StoryRecord} {story : Story} (h : toStory record = .ok story)
    (deep : ∀ tree ∈ record.state, tree.depth < Json.nestingLimit)
    (distinct : ∀ node ∈ record.nodes, Mapping.Distinct node.2.successors) : Loaded story := by
  rw [toStory_eq] at h
  obtain ⟨state, hstate, h⟩ := Outcome.bind_eq_ok.mp h
  obtain ⟨full, hfull, h⟩ := Outcome.bind_eq_ok.mp h
  obtain ⟨valid, hvalid, h⟩ := Outcome.bind_eq_ok.mp h
  cases h
  obtain ⟨nodes, fields⟩ := of_addNodes hfull distinct ⟨List.nodup_nil, List.forall_mem_nil _⟩
  refine ⟨by rw [fields]; rfl, ?_, nodes, hvalid⟩
  have same : story.state = state := by
    rw [fields]
    rfl
  rw [same]
  exact exists_of_initialState hstate deep

/-- **What is read from a text is loaded.** -/
theorem loaded_of_parse {source : Source} {story : Story} (h : parse source = .ok story) :
    Loaded story := by
  unfold parse at h
  simp only at h
  split at h
  · cases h
  · next record hrecord =>
      split at h
      · next made =>
          cases h
          obtain ⟨tree, htree, hrecord⟩ := Option.bind_eq_some_iff.mp hrecord
          obtain ⟨deep, distinct⟩ := of_story? hrecord (Json.depth_le_of_parse? htree)
          exact loaded_of_toStory made deep distinct
      · cases h

/-! ## Writing -/

/-- The record of a link. -/
def SuccessorRecord.ofSuccessor (l : Successor) : SuccessorRecord :=
  ⟨l.target, l.commands.map Command.text⟩

/-- The record of a node. -/
def NodeRecord.ofNode (name : String) (body : NodeBody) : NodeRecord :=
  ⟨some name, body.content, body.links.map fun l => (l.anchor, .ofSuccessor l)⟩

/-- The record of a story. -/
def StoryRecord.ofStory (s : Story) : StoryRecord where
  title := s.title
  author := s.author
  start := s.start
  modules := s.modules
  state := if s.state.isEmpty then none else some s.state.toValue.toSorted
  nodes := s.nodes.map fun node => (node.1, .ofNode node.1 node.2)

theorem texts?_array (xs : List String) : texts? (.array (xs.map .text)) = some xs := by
  have all : xs.mapM (text? ∘ .text) = pure (xs.map id) := mapM_eq_pure fun _ _ => rfl
  rw [texts?, List.mapM_map, all, List.map_id]
  rfl

theorem successor?_successorJson (l : Successor) :
    successor? (Story.successorJson l) = some (.ofSuccessor l) := by
  unfold Story.successorJson
  split
  · next empty =>
      rw [List.isEmpty_iff] at empty
      simp [successor?, SuccessorRecord.ofSuccessor, empty]
  · have texts := texts?_array (l.commands.map Command.text)
    rw [List.map_map] at texts
    show (texts? _).map _ = _
    rw [show (fun c : Command => Json.text c.text) = Json.text ∘ Command.text from rfl, texts]
    rfl

/-- The fields of a node as data. -/
theorem fields?_nodeJson (name content : String) {links : List Successor}
    (distinct : (links.map Successor.anchor).Nodup) :
    fields? ["name", "content", "successors"] (Story.nodeJson name (.fixed content links)) =
      some [some (.text name), some (.text content), if links.isEmpty then none else
        some (.object (links.map fun l => (l.anchor, Story.successorJson l)))] := by
  have entries : Mapping.Distinct (links.map fun l => (l.anchor, Story.successorJson l)) := by
    unfold Mapping.Distinct
    rwa [List.map_map]
  unfold Story.nodeJson
  simp only [Mapping.ofEntries_of_distinct entries, NodeBody.content, List.isEmpty_map]
  cases links.isEmpty <;> simp [fields?, Mapping.get?]

theorem node?_nodeJson (name : String) {body : NodeBody} (h : LoadedBody body) :
    node? (Story.nodeJson name body) = some (.ofNode name body) := by
  cases h with
  | @fixed content links distinct commands =>
      have read : withDefault (mapping? successor?) [] (if links.isEmpty then none else
          some (.object (links.map fun l => (l.anchor, Story.successorJson l)))) =
            some (links.map fun l => (l.anchor, .ofSuccessor l)) := by
        split
        · next empty =>
            rw [List.isEmpty_iff] at empty
            rw [empty]
            rfl
        · exact mapping?_object distinct fun l _ => successor?_successorJson l
      rw [node?, fields?_nodeJson name content distinct]
      show (withDefault (mapping? successor?) [] _).bind _ = _
      rw [read]
      rfl

/-- The fields of a story as data. -/
theorem fields?_toJson (s : Story) :
    fields? ["title", "author", "start", "modules", "state", "nodes"] s.toJson =
      some [some (.text s.title), some (.text s.author), some (.text s.start),
        if s.modules.isEmpty then none else some (.array (s.modules.map .text)),
        if s.state.isEmpty then none else some s.state.toValue.toSorted,
        some (.object (s.nodes.map fun node => (node.1, Story.nodeJson node.1 node.2)))] := by
  unfold Story.toJson
  cases s.modules.isEmpty <;> cases s.state.isEmpty <;> simp [fields?, Mapping.get?]

theorem story?_toJson {s : Story} (h : Loaded s) : story? s.toJson = some (.ofStory s) := by
  have nodes := mapping?_object h.nodes.1 fun node hnode => node?_nodeJson node.1 (h.nodes.2 node hnode)
  have modules : withDefault texts? []
      (if s.modules.isEmpty then none else some (.array (s.modules.map .text))) = some s.modules := by
    split
    · next empty =>
        rw [List.isEmpty_iff] at empty
        rw [empty]
        rfl
    · exact texts?_array s.modules
  have state : optional some (if s.state.isEmpty then none else some s.state.toValue.toSorted) =
      some (StoryRecord.ofStory s).state := by
    unfold StoryRecord.ofStory
    dsimp only
    split
    · rfl
    · rw [Store.toValue, Value.toSorted]
      rfl
  rw [story?, fields?_toJson]
  show (withDefault texts? [] _).bind _ = _
  rw [modules]
  show (optional some _).bind _ = _
  rw [state]
  show (mapping? node? _).bind _ = _
  rw [nodes]
  rfl

/-! ## Reading what was written -/

theorem initialState_ofStory {s : Story} (h : Loaded s) (hreal : s.state.toValue.RealFree) :
    initialState (StoryRecord.ofStory s).state = .ok s.state := by
  unfold StoryRecord.ofStory
  dsimp only
  split
  · next empty =>
      have root : s.state.root = [] := List.isEmpty_iff.mp empty
      exact congrArg Except.ok (congrArg Store.mk root).symm
  · obtain ⟨tree, -, value⟩ := h.state
    have order : s.state.toValue.InOrder := value ▸ Value.inOrder_ofSorted tree
    rw [initialState, Value.ofSorted_toSorted order hreal]
    rfl

theorem ofRecord_ofSuccessor {link : Successor}
    (parsed : ∀ c ∈ link.commands, c.Parsed) (hreal : ∀ c ∈ link.commands, c.RealFree) :
    Successor.ofRecord (link.anchor, .ofSuccessor link) = .ok link := by
  have each : ∀ c ∈ link.commands, (Command.parse ∘ Command.text) c = pure (id c) := by
    intro c hc
    rw [Function.comp_apply, Command.parse_text_of_parsed (parsed c hc) (hreal c hc)]
    rfl
  have commands : (link.commands.map Command.text).mapM Command.parse = .ok link.commands := by
    rw [List.mapM_map, mapM_eq_pure each, List.map_id]
    rfl
  unfold Successor.ofRecord SuccessorRecord.ofSuccessor
  dsimp only
  rw [commands]
  rfl

theorem successors_ofNode {body : NodeBody} (h : LoadedBody body)
    (hreal : ∀ link ∈ body.links, ∀ c ∈ link.commands, c.RealFree) (name : String) :
    successors (NodeRecord.ofNode name body).successors = .ok body.links := by
  cases h with
  | @fixed content links distinct parsed =>
      have each : ∀ link ∈ links, (Successor.ofRecord ∘ fun link =>
          (link.anchor, SuccessorRecord.ofSuccessor link)) link = pure (id link) :=
        fun link hlink => ofRecord_ofSuccessor (parsed link hlink) (hreal link hlink)
      rw [successors_eq, NodeRecord.ofNode, List.mapM_map, NodeBody.links, mapM_eq_pure each,
        List.map_id]
      rfl

/-- The nodes of a story are added one by one. -/
theorem addNodes_ofStory {story : Story} {front back : Mapping NodeBody}
    (h : LoadedNodes (front ++ back))
    (hreal : ∀ node ∈ back, ∀ link ∈ node.2.links, ∀ c ∈ link.commands, c.RealFree) :
    addNodes { story with nodes := front } (back.map fun node => (node.1, .ofNode node.1 node.2)) =
      .ok { story with nodes := front ++ back } := by
  induction back generalizing front with
  | nil => rw [List.map_nil, addNodes, List.append_nil]
  | cons node back ih =>
      obtain ⟨name, body⟩ := node
      rw [List.forall_mem_cons] at hreal
      have loaded : LoadedBody body := h.2 (name, body) (by simp)
      have new : name ∉ front.map Prod.fst := by
        have names := h.1
        unfold Mapping.Distinct at names
        rw [List.map_append, List.nodup_append] at names
        exact fun old => names.2.2 name old name List.mem_cons_self rfl
      have absent : Mapping.contains front name = false := by
        rw [← Bool.not_eq_true, Mapping.contains_iff]
        exact new
      have added : Story.addNode { story with nodes := front } name
          (.fixed body.content body.links) =
            .ok { story with nodes := front ++ [(name, body)] } := by
        rw [Story.addNode, Story.hasNode, absent, loaded.fixed_eq, Mapping.insert_of_not_mem new]
        rfl
      -- a node is written under its own name, so that the name is accepted
      rw [List.map_cons, addNodes]
      show (if name = name then _ else _) = _
      rw [if_pos rfl, addNodes.add, successors_ofNode loaded hreal.1 name]
      show (Story.addNode { story with nodes := front } name (.fixed body.content body.links) >>= _) = _
      rw [added]
      show addNodes _ _ = _
      rw [ih (by rwa [List.append_assoc]) hreal.2, List.append_assoc]
      rfl

theorem toStory_ofStory {s : Story} (h : Loaded s) (hreal : s.RealFree) :
    toStory (.ofStory s) = .ok s := by
  have blank : blankStory (.ofStory s) s.state = { s with nodes := [] } := by
    unfold blankStory StoryRecord.ofStory
    rw [h.metadata]
  have added : addNodes (blankStory (.ofStory s) s.state) (StoryRecord.ofStory s).nodes = .ok s := by
    rw [blank]
    exact addNodes_ofStory h.nodes hreal.2
  rw [toStory_eq, initialState_ofStory h hreal.1]
  show (addNodes _ _ >>= _) = _
  rw [added]
  show (s.validate >>= _) = _
  rw [h.valid]
  rfl

theorem isRealFree_texts (xs : List String) : (Json.array (xs.map .text)).isRealFree = true := by
  rw [Json.isRealFree_array_iff, List.forall_mem_map]
  exact fun _ _ => rfl

theorem depth_texts_le (xs : List String) : (Json.array (xs.map .text)).depth ≤ 1 := by
  rw [Json.depth_array_le_iff, List.forall_mem_map]
  exact fun _ _ => Nat.le_refl 0

theorem isRealFree_successorJson (l : Successor) : (Story.successorJson l).isRealFree = true := by
  unfold Story.successorJson
  split
  · rfl
  · have texts := isRealFree_texts (l.commands.map Command.text)
    rw [List.map_map] at texts
    rw [Json.isRealFree_array_iff, List.forall_mem_cons, List.forall_mem_singleton]
    exact ⟨rfl, texts⟩

theorem depth_successorJson_le (l : Successor) : (Story.successorJson l).depth ≤ 2 := by
  unfold Story.successorJson
  split
  · exact Nat.zero_le 2
  · have texts := depth_texts_le (l.commands.map Command.text)
    rw [List.map_map] at texts
    rw [Json.depth_array_le_iff, List.forall_mem_cons, List.forall_mem_singleton]
    exact ⟨Nat.zero_le 1, texts⟩

/-- What is said of the fields of an object is said of those that are given. -/
theorem forall_mem_unless {P : String × Json → Prop} {b : Bool} {member : String × Json}
    (h : b = false → P member) : ∀ m ∈ (if b then [] else [member]), P m := by
  cases b with
  | true => exact List.forall_mem_nil _
  | false => exact List.forall_mem_singleton.mpr (h rfl)

theorem isRealFree_nodeJson (name : String) (body : NodeBody) :
    (Story.nodeJson name body).isRealFree = true := by
  unfold Story.nodeJson
  rw [Json.isRealFree_object_iff, List.forall_mem_append]
  refine ⟨by simp [Json.isRealFree], forall_mem_unless fun _ => ?_⟩
  rw [Json.isRealFree_object_iff]
  cases body with
  | markup content => exact List.forall_mem_nil _
  | fixed content links =>
      intro member hmember
      obtain ⟨l, -, rfl⟩ := List.mem_map.mp (Mapping.mem_of_mem_ofEntries hmember)
      exact isRealFree_successorJson l

theorem depth_nodeJson_le (name : String) (body : NodeBody) :
    (Story.nodeJson name body).depth ≤ 4 := by
  unfold Story.nodeJson
  rw [Json.depth_object_le_iff, List.forall_mem_append]
  refine ⟨by simp [Json.depth], forall_mem_unless fun _ => ?_⟩
  rw [Json.depth_object_le_iff]
  cases body with
  | markup content => exact List.forall_mem_nil _
  | fixed content links =>
      intro member hmember
      obtain ⟨l, -, rfl⟩ := List.mem_map.mp (Mapping.mem_of_mem_ofEntries hmember)
      exact depth_successorJson_le l

theorem isRealFree_toJson {s : Story} (hreal : s.state.toValue.RealFree) :
    s.toJson.isRealFree = true := by
  unfold Story.toJson
  simp only [Json.isRealFree_object_iff, List.forall_mem_append]
  refine ⟨⟨⟨by simp [Json.isRealFree], forall_mem_unless fun _ => ?_⟩,
    forall_mem_unless fun _ => ?_⟩, ?_⟩
  · exact isRealFree_texts s.modules
  · exact Value.isRealFree_toSorted hreal
  · rw [List.forall_mem_singleton, Json.isRealFree_object_iff, List.forall_mem_map]
    exact fun node _ => isRealFree_nodeJson node.1 node.2

theorem depth_toJson_le {s : Story} (h : Loaded s) : s.toJson.depth ≤ Json.nestingLimit := by
  obtain ⟨tree, deep, value⟩ := h.state
  have state : s.state.toValue.toSorted.depth ≤ 126 := by
    rw [value]
    exact Value.depth_toSorted_ofSorted_le (Nat.le_of_lt_succ deep)
  unfold Story.toJson
  simp only [Json.nestingLimit, Json.depth_object_le_iff, List.forall_mem_append]
  refine ⟨⟨⟨by simp [Json.depth], forall_mem_unless fun _ => ?_⟩,
    forall_mem_unless fun _ => ?_⟩, ?_⟩
  · exact Nat.le_trans (depth_texts_le s.modules) (by decide)
  · exact state
  · rw [List.forall_mem_singleton, Json.depth_object_le_iff, List.forall_mem_map]
    exact fun node _ => Nat.le_trans (depth_nodeJson_le node.1 node.2) (by decide)

/-- **Stories survive writing and reading.** A story that was read from a text and whose variables
and commands have no reals is read from its own text, whatever the source is called. -/
theorem parse_toRecordText {source : Source} {story : Story} (h : parse source = .ok story)
    (hreal : story.RealFree) (name : String) : parse ⟨name, story.toRecordText⟩ = .ok story := by
  have loaded := loaded_of_parse h
  have read : Json.parse? story.toRecordText = some story.toJson :=
    Json.parse?_pretty (isRealFree_toJson hreal.1) (depth_toJson_le loaded)
  unfold parse
  simp only [read, Option.bind_some, story?_toJson loaded, toStory_ofStory loaded hreal]

/-- A story with a variable below zero, a value that is null and a command without a value. -/
def tale : Story :=
  ⟨"Tale", "Ann", "a", ["dice"], ⟨[("b", .null), ("z", .int (-7))]⟩, [],
    [("a", .fixed "Hi" [⟨"Go", "a", [.literal .set ⟨"x", []⟩ (some .null),
      .literal .invert ⟨"y", ["z"]⟩ none]⟩])]⟩

/-- The tale in fields without names, with its variables out of order. -/
def taleSource : Source :=
  ⟨"tale", "[\"Tale\",\"Ann\",\"a\",[\"dice\"],\x7b\"z\":-7,\"b\":null\x7d," ++
    "\x7b\"a\":[null,\"Hi\",\x7b\"Go\":[\"a\",[\"set x null\",\"invert y.z\"]]\x7d]\x7d]"⟩

/-- The variables of the tale as they are written. -/
def taleState : Json :=
  .object [("z", .int (-7)), ("b", .null)]

/-- What stands in the source. -/
def taleTree : Json :=
  .array [.text "Tale", .text "Ann", .text "a", .array [.text "dice"], taleState,
    .object [("a", .array [.null, .text "Hi",
      .object [("Go", .array [.text "a", .array [.text "set x null", .text "invert y.z"]])]])]]

def taleRecord : StoryRecord :=
  ⟨"Tale", "Ann", "a", ["dice"], some taleState,
    [("a", ⟨none, "Hi", [("Go", ⟨"a", ["set x null", "invert y.z"]⟩)]⟩)]⟩

theorem parse_toRecordText_tale : parse taleSource = .ok tale ∧ tale.RealFree ∧
    parse ⟨"copy", tale.toRecordText⟩ = .ok tale := by
  have text : taleSource.text = taleTree.compact := by decide +kernel
  have tree : Json.parse? taleSource.text = some taleTree := by
    rw [text]
    exact Json.parse?_compact (by decide) (by decide)
  -- sorting recurses on lengths and does not evaluate by itself
  have order : Text.keyLe "z" "b" = false := by decide
  have sorted : Value.ofSorted taleState = .mapping [("b", .null), ("z", .int (-7))] := by
    simp [taleState, Value.ofSorted, Value.ofSortedMembers, Mapping.sorted, Mapping.ofEntries,
      Mapping.insert, List.mergeSort, List.MergeSort.Internal.splitInTwo, order]
  have found : story? taleTree = some taleRecord := rfl
  have loaded : toStory taleRecord = .ok tale := by
    unfold toStory taleRecord
    simp only [sorted, addNodes, addNodes.add]
    rfl
  have read : parse taleSource = .ok tale := by
    unfold parse
    simp only [tree, Option.bind_some, found, loaded]
  have real : tale.RealFree := by decide
  exact ⟨read, real, parse_toRecordText read real "copy"⟩

end Record

end Fiction
