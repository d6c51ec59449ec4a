import Fiction.Proofs.Mapping
import Fiction.Proofs.Story.NormalForm
import Mathlib.Data.List.TakeWhile
import Mathlib.Tactic.MkIffOfInductiveProp

/-!
# Fiction.Proofs.Story.Draft

**A manuscript says what was written into it.**

* `Draft` is what an author decides on: a title, fields and nodes, with texts that can stand in a
  manuscript. `Draft.write` puts them down.
* `map_chars_lines`, `header_lines`, `readHeader_fields` and `groupNodes_written` follow the steps of
  reading: lines, the header with its fields, and nodes with their lines.
* `Draft.parse_write` puts them together.
-/

namespace Fiction.Manuscript

/-! ## Texts that can be written -/

/-- A name of a field or of a node. -/
def isName (cs : List Char) : Bool :=
  !cs.isEmpty && cs.all isNameChar

/-- A value of a field: one line without comments, and no blanks at its ends. -/
@[mk_iff] structure IsValue (cs : List Char) : Prop where
  noFeed : '\n' ∉ cs
  noReturn : '\r' ∉ cs
  noComment : NoComment cs
  trimmed : Text.trim cs = cs

/-- A text of a node: no comments, no line that starts a node, and, unless there is nothing at all, no
blank line at its ends. -/
@[mk_iff] structure IsBody (cs : List Char) : Prop where
  noReturn : '\r' ∉ cs
  noComment : NoComment cs
  noName : ∀ line ∈ Text.split ['\n'] cs, nodeName? line = none
  visibleStart : cs ≠ [] → ∀ line ∈ (Text.split ['\n'] cs).head?, Text.isEmptyText line = false
  visibleStop : cs ≠ [] → ∀ line ∈ (Text.split ['\n'] cs).getLast?, Text.isEmptyText line = false

instance (cs : List Char) : Decidable (NoComment cs) :=
  inferInstanceAs (Decidable (cs.IsChain _))

instance (cs : List Char) : Decidable (IsValue cs) :=
  decidable_of_iff _ (isValue_iff cs).symm

instance (cs : List Char) : Decidable (IsBody cs) :=
  decidable_of_iff _ (isBody_iff cs).symm

/-- The keys of fields that are no metadata. -/
def reservedKeys : List String :=
  ["start", "title", "author", "modules", "state"]

/-- What can be written as a manuscript. -/
structure Draft where
  title : String
  author : String
  start : String
  metadata : Mapping String
  /-- The nodes with their texts. -/
  nodes : Mapping String
  title_isValue : IsValue title.toList
  author_isValue : IsValue author.toList
  metadata_isName : ∀ field ∈ metadata, isName field.1.toList = true ∧ field.1 ∉ reservedKeys
  metadata_isValue : ∀ field ∈ metadata, IsValue field.2.toList
  metadata_distinct : Mapping.Distinct metadata
  nodes_isName : ∀ node ∈ nodes, isName node.1.toList = true
  nodes_isBody : ∀ node ∈ nodes, IsBody node.2.toList
  nodes_distinct : Mapping.Distinct nodes
  start_mem : start ∈ nodes.map Prod.fst

/-- The line of a field. -/
def fieldLine (field : String × String) : List Char :=
  "% ".toList ++ field.1.toList ++ ": ".toList ++ field.2.toList

/-- The line that starts a node. -/
def nameLine (name : String) : List Char :=
  "# ".toList ++ name.toList

namespace Draft

/-- All that goes into the header. -/
def fields (d : Draft) : Mapping String :=
  ("title", d.title) :: ("author", d.author) :: ("start", d.start) :: d.metadata

/-- The manuscript: a line for each field, and for each node a line with its name and then its
text. -/
def write (d : Draft) (fields : Mapping String) : List Char :=
  (fields.flatMap fun field => fieldLine field ++ ['\n']) ++
    d.nodes.flatMap fun node => nameLine node.1 ++ ['\n'] ++ node.2.toList ++ ['\n']

/-- The story that is meant. -/
def story (d : Draft) : Story where
  title := d.title
  author := d.author
  start := d.start
  modules := []
  state := .empty
  metadata := d.metadata
  nodes := d.nodes.map fun node => (node.1, .markup node.2)

end Draft

/-! ## Characters of names -/

variable {name value : List Char}

theorem isName_iff : isName name = true ↔ name ≠ [] ∧ ∀ c ∈ name, isNameChar c = true := by
  simp [isName]

theorem not_mem_of_isName {c : Char} (hc : isNameChar c = false) (h : isName name = true) :
    c ∉ name := by
  intro found
  rw [(isName_iff.mp h).2 c found] at hc
  cases hc

theorem isBlank_of_isNameChar {c : Char} (h : isNameChar c = true) : Text.isBlank c = false :=
  Text.isBlank_of_any (P := isNameChar) (by decide) h

/-- A text without backquotes can stand in front. -/
theorem noComment_append {front cs : List Char} (h : '\x60' ∉ front) (hcs : NoComment cs) :
    NoComment (front ++ cs) := by
  induction front with
  | nil => exact hcs
  | cons c front ih =>
      rw [List.mem_cons, not_or] at h
      exact (ih h.2).cons fun _ _ pair => h.1 pair.1.symm

theorem isValue_of_isName (h : isName name = true) : IsValue name where
  noFeed := not_mem_of_isName (by decide) h
  noReturn := not_mem_of_isName (by decide) h
  noComment := List.append_nil name ▸ noComment_append (not_mem_of_isName (by decide) h) .nil
  trimmed := Text.trim_of_no_blanks fun c hc => isBlank_of_isNameChar ((isName_iff.mp h).2 c hc)

/-- A name is not taken for spaces. -/
theorem dropWhile_isInlineSpace (h : isName name = true) :
    name.dropWhile isInlineSpace = name := by
  obtain ⟨nonempty, chars⟩ := isName_iff.mp h
  cases name with
  | nil => exact absurd rfl nonempty
  | cons c cs =>
      have space : ¬ isInlineSpace c = true := by
        intro space
        have inside := chars c List.mem_cons_self
        rcases (Bool.or_eq_true _ _).mp space with hc | hc
        · rw [of_decide_eq_true hc] at inside
          exact absurd inside (by decide)
        · rw [of_decide_eq_true hc] at inside
          exact absurd inside (by decide)
      exact List.dropWhile_cons_of_neg space

/-- The name on its line is found. -/
theorem nodeName?_nameLine {name : String} (h : isName name.toList = true) :
    nodeName? (nameLine name) = some name.toList := by
  obtain ⟨nonempty, chars⟩ := isName_iff.mp h
  have line : nameLine name = '#' :: ' ' :: name.toList := rfl
  have space : (' ' :: name.toList).dropWhile isInlineSpace = name.toList := by
    rw [List.dropWhile_cons_of_pos (by decide), dropWhile_isInlineSpace h]
  have taken : name.toList.takeWhile isNameChar = name.toList := List.takeWhile_eq_self_iff.mpr chars
  have dropped : name.toList.dropWhile isNameChar = [] := List.dropWhile_eq_nil_iff.mpr chars
  simp only [line, nodeName?, space, taken, dropped]
  simpa using nonempty

/-- The field on its line is found. -/
theorem field?_fieldLine (h : isName name = true) :
    field? (' ' :: name ++ ':' :: value) = some (name, value) := by
  obtain ⟨nonempty, chars⟩ := isName_iff.mp h
  have taken : (name ++ ':' :: value).takeWhile isNameChar = name := by
    rw [List.takeWhile_append_of_pos chars, List.takeWhile_cons_of_neg (by decide), List.append_nil]
  have dropped : (name ++ ':' :: value).dropWhile isNameChar = ':' :: value := by
    rw [List.dropWhile_append_of_pos chars, List.dropWhile_cons_of_neg (by decide)]
  rw [List.cons_append, field?]
  simp only [taken, dropped]
  cases name with
  | nil => exact absurd rfl nonempty
  | cons c cs => rfl

theorem trim_space_cons (cs : List Char) : Text.trim (' ' :: cs) = Text.trim cs := by
  rw [Text.trim, Text.trimStart, List.dropWhile_cons_of_pos (by decide)]
  rfl

/-! ## Lines -/

theorem map_chars_place (delimiter : Char) (offset : Nat) (pieces : List (List Char)) :
    (Fragment.place delimiter offset pieces).map Fragment.chars = pieces := by
  induction pieces generalizing offset with
  | nil => rfl
  | cons piece pieces ih => rw [Fragment.place, List.map_cons, ih]

/-- The lines of a text that is made of lines. -/
theorem map_chars_lines {ls : List (List Char)} (h : ∀ l ∈ ls, '\n' ∉ l) :
    (lines (unlines ls)).map Fragment.chars = ls := by
  rw [lines, split_unlines h, List.map_dropLast, map_chars_place, List.dropLast_concat]

/-- The header is made of the lines with a percent sign before the first line without one. -/
theorem header_lines {ls : List Fragment} {front back : List (List Char)}
    (h : ls.map Fragment.chars = front ++ back) (hfront : ∀ l ∈ front, l.head? = some '%')
    (hback : ∀ l ∈ back.head?, l.head? = some '#') :
    (ls.takeWhile isHeaderLine).map Fragment.chars = front ∧
      (ls.dropWhile isHeaderLine).map Fragment.chars = back := by
  have onChars : isHeaderLine =
      (fun cs : List Char => cs.head? == some '%' || cs.all isInlineSpace) ∘ Fragment.chars := rfl
  have header : ∀ l ∈ front, (l.head? == some '%' || l.all isInlineSpace) = true := by
    intro l hl
    simp [hfront l hl]
  rw [onChars, ← List.takeWhile_map, ← List.dropWhile_map, h, List.takeWhile_append_of_pos header,
    List.dropWhile_append_of_pos header]
  cases back with
  | nil => simp
  | cons l back =>
      obtain ⟨rest, rfl⟩ := List.head?_eq_some_iff.mp (hback l rfl)
      simp [isInlineSpace]

/-! ## Fields -/

/-- Lines of fields are read one by one. -/
theorem readHeader_fields {ls : List Fragment} {fields : Mapping String}
    (h : ls.map Fragment.chars = fields.map fieldLine)
    (hfields : ∀ field ∈ fields, isName field.1.toList = true ∧ IsValue field.2.toList)
    (before : Mapping String) (current : Option String) :
    readHeader before current ls =
      .ok (fields.foldl (fun m field => Mapping.insert m field.1 field.2) before) := by
  induction fields generalizing ls before current with
  | nil =>
      rw [List.map_eq_nil_iff.mp h]
      rfl
  | cons field fields ih =>
      obtain ⟨line, rest, rfl, hline, hrest⟩ := List.map_eq_cons_iff.mp h
      rw [List.forall_mem_cons] at hfields
      obtain ⟨⟨hname, hvalue⟩, others⟩ := hfields
      have text : line.chars = '%' :: (' ' :: field.1.toList ++ ':' :: ' ' :: field.2.toList) := by
        rw [hline, fieldLine]
        simp
      rw [readHeader, text]
      simp only [field?_fieldLine hname]
      rw [trim_space_cons, hvalue.trimmed, String.ofList_toList, String.ofList_toList, ih hrest others,
        List.foldl_cons]

variable {d : Draft} {fields : Mapping String}

theorem Draft.reserved_not_mem (d : Draft) {key : String} (h : key ∈ reservedKeys) :
    key ∉ d.metadata.map Prod.fst := by
  intro found
  obtain ⟨field, hfield, rfl⟩ := List.mem_map.mp found
  exact (d.metadata_isName field hfield).2 h

theorem Draft.fields_distinct (d : Draft) : Mapping.Distinct d.fields := by
  unfold Mapping.Distinct fields
  simp only [List.map_cons, List.nodup_cons, List.mem_cons, not_or]
  refine ⟨⟨by decide, by decide, d.reserved_not_mem (by decide)⟩,
    ⟨by decide, d.reserved_not_mem (by decide)⟩, d.reserved_not_mem (by decide), d.metadata_distinct⟩

theorem Draft.distinct_of_perm (d : Draft) (h : fields.Perm d.fields) : Mapping.Distinct fields :=
  (h.map Prod.fst).nodup_iff.mpr d.fields_distinct

/-- The start is a name, so it is not missing. -/
theorem Draft.start_isName (d : Draft) : isName d.start.toList = true := by
  obtain ⟨node, hnode, same⟩ := List.mem_map.mp d.start_mem
  exact same ▸ d.nodes_isName node hnode

/-- A field of the header is what the draft has for its key. -/
theorem Draft.fields_written (d : Draft) :
    ∀ field ∈ d.fields, isName field.1.toList = true ∧ IsValue field.2.toList := by
  simp only [fields, List.forall_mem_cons]
  refine ⟨⟨by decide, d.title_isValue⟩, ⟨by decide, d.author_isValue⟩,
    ⟨by decide, isValue_of_isName d.start_isName⟩, fun field hfield => ?_⟩
  exact ⟨(d.metadata_isName field hfield).1, d.metadata_isValue field hfield⟩

/-- The metadata are the other fields. -/
theorem Draft.filter_fields (d : Draft) (hperm : fields.Perm d.fields)
    (hsub : d.metadata.Sublist fields) : fields.filter (·.1 ∉ reservedKeys) = d.metadata := by
  have kept : d.metadata.filter (·.1 ∉ reservedKeys) = d.metadata := by
    rw [List.filter_eq_self]
    exact fun field hfield => decide_eq_true (d.metadata_isName field hfield).2
  have among : d.metadata.Sublist (fields.filter (·.1 ∉ reservedKeys)) := by
    rw [← kept]
    exact hsub.filter _
  have others : d.fields.filter (·.1 ∉ reservedKeys) = d.metadata := by
    simpa [Draft.fields, reservedKeys] using kept
  refine (among.eq_of_length ?_).symm
  rw [← others]
  exact ((hperm.filter _).length_eq).symm

/-- **The fields of the header are read for what they mean**, in any order. -/
theorem Draft.ofFields_perm (d : Draft) (hperm : fields.Perm d.fields)
    (hsub : d.metadata.Sublist fields) : ofFields fields = .ok { d.story with nodes := [] } := by
  have distinct := d.distinct_of_perm hperm
  have found (key value : String) (h : (key, value) ∈ d.fields) :
      Mapping.get? fields key = some value :=
    Mapping.get?_of_mem distinct (hperm.mem_iff.mpr h)
  have missing (key : String) (h : key ∈ reservedKeys) (hkey : key ∉ ["title", "author", "start"]) :
      Mapping.get? fields key = none := by
    refine Mapping.get?_of_not_mem fun there => ?_
    have listed : key ∈ ["title", "author", "start"] ++ d.metadata.map Prod.fst :=
      (hperm.map Prod.fst).mem_iff.mp there
    exact (List.mem_append.mp listed).elim hkey (d.reserved_not_mem h)
  have start : d.start.isEmpty = false := by
    simpa using (isName_iff.mp d.start_isName).1
  unfold ofFields
  rw [found "start" d.start (by simp [Draft.fields]), found "title" d.title (by simp [Draft.fields]),
    found "author" d.author (by simp [Draft.fields]), missing "modules" (by decide) (by decide),
    missing "state" (by decide) (by decide)]
  have metadata := d.filter_fields hperm hsub
  rw [← Mapping.foldl_erase_eq_filter] at metadata
  unfold reservedKeys at metadata
  rw [metadata]
  simp only [Option.getD_some, start]
  rfl

/-! ## Nodes -/

/-- The lines of a node. -/
def nodeLines (node : String × String) : List (List Char) :=
  nameLine node.1 :: Text.split ['\n'] node.2.toList

/-- Lines without names belong to what stands before the first node. -/
theorem groupNodes_append {ls rest : List Fragment} (h : ∀ l ∈ ls, nodeName? l.chars = none) :
    groupNodes (ls ++ rest) = (ls ++ (groupNodes rest).1, (groupNodes rest).2) := by
  induction ls with
  | nil => rfl
  | cons line ls ih =>
      rw [List.forall_mem_cons] at h
      rw [List.cons_append, groupNodes, ih h.2, h.1]
      rfl

/-- **Nodes are found with their names and their lines.** -/
theorem groupNodes_written {nodes : Mapping String} {ls : List Fragment}
    (h : ls.map Fragment.chars = nodes.flatMap nodeLines)
    (hname : ∀ node ∈ nodes, isName node.1.toList = true)
    (hbody : ∀ node ∈ nodes, IsBody node.2.toList) :
    (groupNodes ls).1 = [] ∧
      (groupNodes ls).2.map (fun entry => (entry.name, entry.lines.map Fragment.chars)) =
        nodes.map fun node => (node.1, Text.split ['\n'] node.2.toList) := by
  induction nodes generalizing ls with
  | nil =>
      rw [List.map_eq_nil_iff.mp h]
      exact ⟨rfl, rfl⟩
  | cons node nodes ih =>
      rw [List.flatMap_cons, List.map_eq_append_iff] at h
      obtain ⟨own, rest, rfl, hown, hrest⟩ := h
      obtain ⟨line, lines, rfl, hline, hlines⟩ := List.map_eq_cons_iff.mp hown
      rw [List.forall_mem_cons] at hname hbody
      obtain ⟨front, others⟩ := ih hrest hname.2 hbody.2
      have inside : ∀ l ∈ lines, nodeName? l.chars = none := by
        intro l hl
        exact hbody.1.noName l.chars (hlines ▸ List.mem_map_of_mem hl)
      rw [List.cons_append, groupNodes, groupNodes_append inside, hline, nodeName?_nameLine hname.1,
        front, List.append_nil]
      refine ⟨rfl, ?_⟩
      simp only [List.map_cons, hlines, others, String.ofList_toList]

theorem dropWhile_isBlank {ls : List Fragment}
    (h : ∀ cs ∈ (ls.map Fragment.chars).head?, Text.isEmptyText cs = false) :
    ls.dropWhile Fragment.isBlank = ls := by
  cases ls with
  | nil => rfl
  | cons line ls =>
      have visible : line.isBlank = false := h line.chars rfl
      exact List.dropWhile_cons_of_neg (by simp [visible])

/-- The text of a node is what its lines make up. -/
theorem bodyText_lines {cs : List Char} (h : IsBody cs) {ls : List Fragment}
    (hls : ls.map Fragment.chars = Text.split ['\n'] cs) : bodyText ls = String.ofList cs := by
  unfold bodyText
  dsimp only
  by_cases empty : cs = []
  · subst empty
    have blank : ls.dropWhile Fragment.isBlank = [] := by
      rw [List.dropWhile_eq_nil_iff]
      intro line hline
      have chars : line.chars ∈ Text.split ['\n'] [] := hls ▸ List.mem_map_of_mem hline
      rw [Fragment.isBlank, List.mem_singleton.mp chars]
      rfl
    rw [blank]
    rfl
  · have front : ls.dropWhile Fragment.isBlank = ls := by
      refine dropWhile_isBlank ?_
      rw [hls]
      exact h.visibleStart empty
    have back : ls.reverse.dropWhile Fragment.isBlank = ls.reverse := by
      refine dropWhile_isBlank ?_
      rw [List.map_reverse, hls, List.head?_reverse]
      exact h.visibleStop empty
    rw [front, back, List.reverse_reverse, hls, Text.join_split (List.cons_ne_nil _ _)]

/-- **Nodes are added in their order**, each with its text. -/
theorem addNodes_written {nodes : Mapping String} {entries : List Entry}
    (h : entries.map (fun entry => (entry.name, entry.lines.map Fragment.chars)) =
      nodes.map fun node => (node.1, Text.split ['\n'] node.2.toList))
    (hbody : ∀ node ∈ nodes, IsBody node.2.toList) (story : Story)
    (hdistinct : ((story.nodes.map Prod.fst) ++ nodes.map Prod.fst).Nodup) :
    addNodes story entries = .ok { story with
      nodes := story.nodes ++ nodes.map fun node => (node.1, .markup node.2) } := by
  induction nodes generalizing entries story with
  | nil =>
      rw [List.map_eq_nil_iff.mp h]
      simp [addNodes]
  | cons node nodes ih =>
      obtain ⟨entry, rest, rfl, hentry, hrest⟩ := List.map_eq_cons_iff.mp h
      obtain ⟨hname, hlines⟩ := Prod.ext_iff.mp hentry
      dsimp only at hname hlines
      rw [List.forall_mem_cons] at hbody
      have new : node.1 ∉ story.nodes.map Prod.fst := by
        intro there
        exact (List.nodup_append.mp hdistinct).2.2 _ there _ List.mem_cons_self rfl
      have added : story.addNode entry.name (.markup (bodyText entry.lines)) =
          .ok { story with nodes := story.nodes ++ [(node.1, .markup node.2)] } := by
        have unused : story.hasNode node.1 = false := by
          rw [Story.hasNode, ← Bool.not_eq_true, Mapping.contains_iff]
          exact new
        rw [Story.addNode, hname, unused, Mapping.insert_of_not_mem new, bodyText_lines hbody.1 hlines,
          String.ofList_toList]
        rfl
      rw [addNodes, added]
      dsimp only
      rw [ih hrest hbody.2 _ (by simpa using hdistinct)]
      simp

/-! ## Manuscripts -/

/-- What is asked of the lines of a manuscript. -/
def IsLine (cs : List Char) : Prop :=
  '\n' ∉ cs ∧ '\r' ∉ cs ∧ NoComment cs

theorem isLine_fieldLine {field : String × String} (hname : isName field.1.toList = true)
    (hvalue : IsValue field.2.toList) : IsLine (fieldLine field) := by
  have front {c : Char} (hc : isNameChar c = false) (hc' : c ∉ "% : ".toList) :
      c ∉ "% ".toList ++ field.1.toList ++ ": ".toList := by
    have key := not_mem_of_isName hc hname
    simp_all
  refine ⟨?_, ?_, noComment_append (front (by decide) (by decide)) hvalue.noComment⟩
  · exact fun found => (List.mem_append.mp found).elim (front (by decide) (by decide)) hvalue.noFeed
  · exact fun found => (List.mem_append.mp found).elim (front (by decide) (by decide)) hvalue.noReturn

theorem isLine_nodeLines {node : String × String} (hname : isName node.1.toList = true)
    (hbody : IsBody node.2.toList) : ∀ l ∈ nodeLines node, IsLine l := by
  rw [nodeLines, List.forall_mem_cons]
  constructor
  · have name := isValue_of_isName hname
    refine ⟨?_, ?_, noComment_append (show '\x60' ∉ "# ".toList by decide) name.noComment⟩
    · exact fun found => (List.mem_append.mp found).elim (by decide) name.noFeed
    · exact fun found => (List.mem_append.mp found).elim (by decide) name.noReturn
  · intro l hl
    refine ⟨Text.not_mem_of_mem_split hl, fun found => hbody.noReturn (Text.mem_of_mem_split hl found),
      ?_⟩
    -- a line feed behind the text makes it one of lines
    have ended : NoComment (unlines (Text.split ['\n'] node.2.toList)) := by
      rw [← join_append_feed (Text.split_ne_nil _ _), Text.join_split (List.cons_ne_nil _ _), NoComment,
        List.isChain_append]
      exact ⟨hbody.noComment, .singleton _, by simp⟩
    exact noComment_unlines_iff.mp ended l hl

namespace Draft

theorem write_eq_unlines (d : Draft) (fields : Mapping String) :
    d.write fields = unlines (fields.map fieldLine ++ d.nodes.flatMap nodeLines) := by
  have node (node : String × String) : nameLine node.1 ++ ['\n'] ++ node.2.toList ++ ['\n'] =
      unlines (nodeLines node) := by
    rw [nodeLines, unlines_cons, ← join_append_feed (Text.split_ne_nil _ _),
      Text.join_split (List.cons_ne_nil _ _)]
    simp
  have nodes : (d.nodes.flatMap fun node => nameLine node.1 ++ ['\n'] ++ node.2.toList ++ ['\n']) =
      unlines (d.nodes.flatMap nodeLines) := by
    simp only [node, unlines, List.flatMap_assoc]
  rw [write, nodes]
  simp [unlines, List.flatMap_map]

theorem isLine_written (d : Draft) (hperm : fields.Perm d.fields) :
    ∀ l ∈ fields.map fieldLine ++ d.nodes.flatMap nodeLines, IsLine l := by
  intro l hl
  rcases List.mem_append.mp hl with header | body
  · obtain ⟨field, hfield, rfl⟩ := List.mem_map.mp header
    obtain ⟨hname, hvalue⟩ := d.fields_written field (hperm.mem_iff.mp hfield)
    exact isLine_fieldLine hname hvalue
  · obtain ⟨node, hnode, hl⟩ := List.mem_flatMap.mp body
    exact isLine_nodeLines (d.nodes_isName node hnode) (d.nodes_isBody node hnode) l hl

theorem validate_story (d : Draft) : d.story.validate = .ok () := by
  have start : d.story.hasNode d.story.start = true := by
    rw [Story.hasNode, Mapping.contains_iff, story, List.map_map]
    exact d.start_mem
  have dangling : (d.story.nodes.findSome? fun node =>
      (d.story.danglingTarget? node.2).map (node.1, ·)) = none := by
    rw [List.findSome?_eq_none_iff]
    intro node hnode
    obtain ⟨written, -, rfl⟩ := List.mem_map.mp hnode
    rfl
  rw [Story.validate, start]
  simp only [Bool.not_true, Bool.false_eq_true, if_false]
  rw [dangling]

theorem read_write (d : Draft) (hperm : fields.Perm d.fields) (hsub : d.metadata.Sublist fields) :
    read (d.write fields) = .ok d.story := by
  have lines := map_chars_lines fun l hl => (d.isLine_written hperm l hl).1
  rw [← write_eq_unlines] at lines
  have percent : ∀ l ∈ fields.map fieldLine, l.head? = some '%' := by
    intro l hl
    obtain ⟨field, -, rfl⟩ := List.mem_map.mp hl
    rfl
  have hash : ∀ l ∈ (d.nodes.flatMap nodeLines).head?, l.head? = some '#' := by
    intro l hl
    cases hnodes : d.nodes with
    | nil => simp [hnodes] at hl
    | cons node nodes =>
        rw [hnodes, List.flatMap_cons] at hl
        cases hl
        rfl
  obtain ⟨header, body⟩ := header_lines lines percent hash
  obtain ⟨stray, entries⟩ := groupNodes_written body d.nodes_isName d.nodes_isBody
  have fieldsRead := readHeader_fields header
    (fun field hfield => d.fields_written field (hperm.mem_iff.mp hfield)) [] none
  rw [← Mapping.ofEntries, Mapping.ofEntries_of_distinct (d.distinct_of_perm hperm)] at fieldsRead
  have nodesAdded : addNodes { d.story with nodes := [] } _ = .ok d.story :=
    addNodes_written entries d.nodes_isBody _ d.nodes_distinct
  unfold read
  rcases hgroup : groupNodes ((Manuscript.lines (d.write fields)).dropWhile isHeaderLine) with
    ⟨front, found⟩
  rw [hgroup] at stray nodesAdded
  dsimp only at stray nodesAdded
  subst stray
  simp only [hgroup, fieldsRead, d.ofFields_perm hperm hsub, nodesAdded, d.validate_story, bind,
    Except.bind]
  rfl

/-- **A manuscript says what was written into it.** The fields may come in any order, with the metadata
in theirs. -/
theorem parse_write (d : Draft) (name : String) (fields : Mapping String)
    (hperm : fields.Perm d.fields) (hsub : d.metadata.Sublist fields) :
    parse ⟨name, String.ofList (d.write fields)⟩ = .ok d.story := by
  have title : ("title", d.title) ∈ fields := hperm.mem_iff.mpr List.mem_cons_self
  have nonempty : fields.map fieldLine ++ d.nodes.flatMap nodeLines ≠ [] :=
    List.ne_nil_of_mem (List.mem_append_left _ (List.mem_map_of_mem title))
  have normal : IsNormal (d.write fields) := by
    rw [write_eq_unlines]
    exact isNormal_unlines nonempty fun l hl => (d.isLine_written hperm l hl).2
  unfold parse
  dsimp only
  rw [String.toList_ofList, normalize_of_isNormal normal, d.read_write hperm hsub]

/-- A draft with a line that only looks like a field, one that only looks like the start of a node, and
a node without text. -/
def fork : Draft where
  title := "A fork"
  author := ""
  start := "road.left"
  metadata := [("ifid", "A-1"), ("genre", "walk: slow")]
  nodes := [("road", ""), ("road.left", "% a \x60b\x60\n\n#a b\n\t[[on>road]]")]
  title_isValue := by decide
  author_isValue := by decide
  metadata_isName := by decide
  metadata_isValue := by decide
  metadata_distinct := by decide
  nodes_isName := by decide
  nodes_isBody := by decide +kernel
  nodes_distinct := by decide
  start_mem := by decide

/-- The fields of the draft in another order. -/
def forkFields : Mapping String :=
  [("ifid", "A-1"), ("start", "road.left"), ("genre", "walk: slow"), ("author", ""),
    ("title", "A fork")]

theorem parse_write_fork :
    forkFields.Perm fork.fields ∧ fork.metadata.Sublist forkFields ∧
      parse ⟨"fork", String.ofList (fork.write forkFields)⟩ = .ok fork.story := by
  have perm : forkFields.Perm fork.fields := by decide
  have sub : fork.metadata.Sublist forkFields := by decide
  exact ⟨perm, sub, fork.parse_write "fork" forkFields perm sub⟩

end Draft

end Fiction.Manuscript
