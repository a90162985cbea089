import CriteriaSearch.Yaml.Token

/-!
# Documents

The tokens of a text make up a document.  They are taken one after the other: collections that have
started are kept on a stack, and what is finished goes into the collection around it.

A node may be left out where something else shows that it is missing.  Each token is therefore first
asked what it ends: a node that is left out in front of it, a sequence that has no mark for its end,
and a key without a value.
-/

namespace CriteriaSearch.Yaml

/-- What stands in front of a node. -/
structure Properties where
  anchor : Option String := none
  tag : Option String := none

/-- Whether nothing stands in front of a node. -/
def Properties.isEmpty (properties : Properties) : Bool :=
  properties.anchor.isNone && properties.tag.isNone

/-- How a sequence is written. -/
inductive SequenceForm where
  | block
  /-- A block sequence whose dashes stand below the key that it belongs to.  It ends where there is
  no dash. -/
  | bare
  | flow
  deriving DecidableEq

/-- How a mapping is written. -/
inductive MappingForm where
  | block
  | flow
  /-- A single entry among the items of a flow sequence. -/
  | pair
  deriving DecidableEq

/-- How far a mapping has been read. -/
inductive EntryStage where
  /-- An entry is complete, or in block form none has come yet. -/
  | between
  /-- In flow form an entry may start. -/
  | start
  | key
  /-- Behind a key. -/
  | colon (key : Yaml)
  | value (key : Yaml)

/-- A collection that has started, with its items or entries in reverse. -/
inductive Collection where
  /-- A sequence, and whether the next item is due. -/
  | sequence (form : SequenceForm) (items : List Yaml) (itemDue : Bool)
  | mapping (form : MappingForm) (entries : List (Yaml × Yaml)) (stage : EntryStage)

namespace Collection

/-- The collection as a value. -/
def toYaml : Collection → Yaml
  | .sequence _ items _ => .sequence items.reverse
  | .mapping _ entries _ => .mapping entries.reverse

/-- Whether a node may come next. -/
def nodeDue : Collection → Bool
  | .sequence _ _ itemDue => itemDue
  | .mapping _ _ stage => match stage with
    | .start | .key | .value _ => true
    | .between | .colon _ => false

/-- Whether a token shows that the node that is due has been left out. -/
def leavesOut : Collection → Token → Bool
  | .sequence .block _ true, .entry | .sequence .block _ true, .blockEnd => true
  | .sequence .bare _ true, .entry | .sequence .bare _ true, .key
  | .sequence .bare _ true, .value | .sequence .bare _ true, .blockEnd => true
  | .mapping form _ .key, token => match form, token with
    | .block, .key | .block, .value | .block, .blockEnd => true
    | .flow, .value | .flow, .comma | .flow, .closeMapping => true
    | .pair, .value | .pair, .comma | .pair, .closeSequence => true
    | _, _ => false
  | .mapping form _ (.value _), token => match form, token with
    | .block, .key | .block, .value | .block, .blockEnd => true
    | .flow, .comma | .flow, .closeMapping => true
    | .pair, .comma | .pair, .closeSequence => true
    | _, _ => false
  | _, _ => false

/-- Whether block collections may stand in the collection. -/
def isBlock : Collection → Bool
  | .sequence form _ _ => form ≠ .flow
  | .mapping form _ _ => form = .block

/-- Whether a sequence without indentation may stand in the collection. -/
def takesBare : Collection → Bool
  | .mapping .block _ _ => true
  | _ => false

end Collection

/-- A collection that has started, and the mark that it has been given if it carries an anchor. -/
structure OpenCollection where
  collection : Collection
  mark : Option Nat := none

/-- A document that is being put together.

Nodes that carry anchors are marked with numbers in the order in which they start.  An anchor itself
is known by the number of names that were in use when it was given, and stands for the node that was
marked last under that number. -/
structure Draft where
  /-- What the handles of tags stand for. -/
  handles : List (String × String)
  /-- Collections that have started, innermost first. -/
  stack : List OpenCollection := []
  /-- What stands in front of the node that is due. -/
  properties : Properties := {}
  root : Option Yaml := none
  /-- The numbers of the anchors by their names. -/
  names : List (String × Nat) := []
  /-- The mark of each anchor, the last one first. -/
  marks : List (Nat × Nat) := []
  /-- The nodes that are complete by their marks. -/
  nodes : List (Nat × Yaml) := []

namespace Draft

/-- Whether a node may come next. -/
def nodeDue (draft : Draft) : Bool :=
  match draft.stack with
  | [] => draft.root.isNone
  | top :: _ => top.collection.nodeDue

/-- A node that is complete goes to its place.  A pair is complete with its value. -/
def place (node : Yaml) : List OpenCollection → List OpenCollection × Option Yaml
  | [] => ([], some node)
  | top :: rest =>
    match top.collection with
    | .sequence form items _ =>
      ({ top with collection := .sequence form (node :: items) false } :: rest, none)
    | .mapping .pair _ (.value key) => place (.mapping [(key, node)]) rest
    | .mapping form entries (.value key) =>
      ({ top with collection := .mapping form ((key, node) :: entries) .between } :: rest, none)
    | .mapping form entries .key =>
      ({ top with collection := .mapping form entries (.colon node) } :: rest, none)
    | .mapping form entries _ =>
      ({ top with collection := .mapping form ((node, absent) :: entries) .between } :: rest, none)

/-- A node is complete. -/
def put (node : Yaml) (draft : Draft) : Draft :=
  let (stack, root) := place node draft.stack
  { draft with stack, root := draft.root.or root }

/-- A node starts: what stands in front of it is used up, and it gets a mark if it carries an
anchor. -/
def begin (draft : Draft) : Option Nat × Draft :=
  match draft.properties.anchor with
  | none => (none, { draft with properties := {} })
  | some name =>
    let number := draft.names.length
    let mark := draft.marks.length
    (some mark, { draft with
      properties := {}
      names := (name, number) :: draft.names.filter (·.1 ≠ name)
      marks := (number, mark) :: draft.marks })

/-- The node that a mark belongs to is complete. -/
def record (mark : Option Nat) (node : Yaml) (draft : Draft) : Draft :=
  match mark with
  | none => draft
  | some mark => { draft with nodes := (mark, node) :: draft.nodes }

/-- A scalar.  What the tag `!` says of it is that its text is its value. -/
def scalar (style : ScalarStyle) (text : String) (draft : Draft) : Draft :=
  let tag := draft.properties.tag.filter (· ≠ "!")
  let node : Yaml := .scalar style tag text
  let (mark, draft) := draft.begin
  (draft.record mark node).put node

/-- A node without content. -/
def leaveOut (draft : Draft) : Draft :=
  let node : Yaml := .scalar .plain draft.properties.tag ""
  let (mark, draft) := draft.begin
  (draft.record mark node).put node

/-- A collection starts. -/
def start (collection : Collection) (draft : Draft) : Draft :=
  let (mark, draft) := draft.begin
  { draft with stack := { collection, mark } :: draft.stack }

/-- The innermost collection goes on. -/
def goOn (collection : Collection) (draft : Draft) : Draft :=
  match draft.stack with
  | [] => draft
  | top :: rest => { draft with stack := { top with collection } :: rest }

/-- The innermost collection is complete. -/
def finish (draft : Draft) : Draft :=
  match draft.stack with
  | [] => draft
  | top :: stack =>
    let node := top.collection.toYaml
    ({ draft with stack }.record top.mark node).put node

/-- Whether a token goes on with the node that is due. -/
def accepts (draft : Draft) (token : Token) : Bool :=
  match token with
  | .reference _ => draft.properties.isEmpty
  | .anchor _ => draft.properties.anchor.isNone
  | .tag _ => draft.properties.tag.isNone
  | .scalar _ _ | .openSequence | .openMapping => true
  | .blockSequence | .blockMapping => draft.stack.head?.all (·.collection.isBlock)
  | .entry => draft.stack.head?.any (·.collection.takesBare)
  | _ => false

/-- A node that is left out in front of a token. -/
def endNode (token : Token) (draft : Draft) : Draft :=
  let shown := !draft.properties.isEmpty || draft.stack.head?.any (·.collection.leavesOut token)
  if draft.nodeDue && !draft.accepts token && shown then draft.leaveOut else draft

/-- A sequence that has no mark for its end, in front of a token that is no dash. -/
def endSequence (token : Token) (draft : Draft) : Draft :=
  match draft.stack.head?.map OpenCollection.collection, token with
  | some (.sequence .bare _ false), .entry => draft
  | some (.sequence .bare _ false), _ => draft.finish
  | _, _ => draft

/-- A key without a value in front of a token that is no colon. -/
def endKey (token : Token) (draft : Draft) : Draft :=
  match draft.stack.head?.map OpenCollection.collection, token with
  | some (.mapping _ _ (.colon _)), .value => draft
  | some (.mapping form entries (.colon key)), _ =>
    (draft.goOn (.mapping form entries (.value key))).leaveOut
  | _, _ => draft

/-- The tag that is written in some way. -/
def tag? (tag : TagName) (draft : Draft) : Option String :=
  if tag.handle.isEmpty then some tag.suffix
  else (draft.handles.lookup tag.handle).map (· ++ tag.suffix)

/-- A token that goes on with the node that is due. -/
def node? (draft : Draft) : Token → Option Draft
  | .reference name => (draft.names.lookup name).map fun number => draft.put (.reference number)
  | .anchor name => some { draft with properties := { draft.properties with anchor := some name } }
  | .tag tag =>
    (draft.tag? tag).map fun tag =>
      { draft with properties := { draft.properties with tag := some tag } }
  | .scalar style text => some (draft.scalar style text)
  | .openSequence => some (draft.start (.sequence .flow [] true))
  | .openMapping => some (draft.start (.mapping .flow [] .start))
  | .blockSequence => some (draft.start (.sequence .block [] false))
  | .blockMapping => some (draft.start (.mapping .block [] .between))
  | .entry => some (draft.start (.sequence .bare [] true))
  | _ => none

/-- A token that goes on with the innermost collection. -/
def mark? (token : Token) (draft : Draft) : Option Draft := do
  match (← draft.stack.head?).collection, token with
  | .sequence .block items false, .entry => some (draft.goOn (.sequence .block items true))
  | .sequence .bare items false, .entry => some (draft.goOn (.sequence .bare items true))
  | .sequence .flow items false, .comma => some (draft.goOn (.sequence .flow items true))
  | .sequence .flow _ true, .key => some (draft.start (.mapping .pair [] .key))
  | .sequence .block _ false, .blockEnd => some draft.finish
  | .sequence .flow _ _, .closeSequence => some draft.finish
  | .mapping .block entries .between, .key => some (draft.goOn (.mapping .block entries .key))
  | .mapping .flow entries .between, .comma => some (draft.goOn (.mapping .flow entries .start))
  | .mapping .flow entries .start, .key => some (draft.goOn (.mapping .flow entries .key))
  | .mapping form entries (.colon key), .value =>
    some (draft.goOn (.mapping form entries (.value key)))
  | .mapping .block _ .between, .blockEnd => some draft.finish
  | .mapping .flow _ .between, .closeMapping => some draft.finish
  | .mapping .flow _ .start, .closeMapping => some draft.finish
  | _, _ => none

/-- Whether a token is used up by showing that the key of a pair has been left out. -/
def losesKey (token : Token) (draft : Draft) : Bool :=
  match draft.stack.head?.map OpenCollection.collection with
  | some (.mapping .pair entries .key) =>
    draft.properties.isEmpty && (Collection.mapping .pair entries .key).leavesOut token
  | _ => false

/-- The document goes on with a token. -/
def step? (draft : Draft) (token : Token) : Option Draft :=
  if draft.losesKey token then some draft.leaveOut
  else
    let draft := ((draft.endNode token).endSequence token).endKey token
    if draft.nodeDue && draft.accepts token then draft.node? token else draft.mark? token

/-- The document, once all of its tokens have been taken.  A document whose start is marked may have
no content. -/
def document? (isMarked : Bool) (draft : Draft) : Option Document :=
  let draft :=
    if draft.nodeDue && (isMarked || !draft.properties.isEmpty) then draft.leaveOut else draft
  match draft.stack, draft.root with
  | [], some root =>
    some {
      root
      anchored := draft.marks.filterMap fun (number, mark) =>
        (draft.nodes.lookup mark).map (number, ·) }
  | _, _ => none

end Draft

/-- What handles stand for where no directive says otherwise. -/
def standardHandles : List (String × String) :=
  [("!", "!"), ("!!", standardTag "")]

/-- What the directives in front of a document say about handles, and the tokens behind them.  There
may be one version, which is 1.1 or 1.2, and one directive for each handle. -/
def directives? : (hasVersion : Bool) → (handles : List (String × String)) → List Token →
    Option (List (String × String) × List Token)
  | hasVersion, handles, .directive (.version major minor) :: rest =>
    if hasVersion || major ≠ 1 || (minor ≠ 1 && minor ≠ 2) then none
    else directives? true handles rest
  | hasVersion, handles, .directive (.tagHandle handle tag) :: rest =>
    if (handles.lookup handle).isSome then none
    else directives? hasVersion ((handle, tag) :: handles) rest
  | _, handles, rest => some (handles, rest)

namespace Document

/-- The one document that tokens make up.  Where there is none no value is written.  Behind
directives the start of the document has to be marked, and nothing but marks for its end may come
after it. -/
def ofTokens? (tokens : List Token) : Option Document := do
  let (handles, behind) ← directives? false [] tokens
  let isMarked := behind.head?.any (· = .documentStart)
  let body := if isMarked then behind.drop 1 else behind
  let content := body.takeWhile (· ≠ .documentEnd)
  if !isMarked && behind.length ≠ tokens.length then none
  else if (body.drop content.length).any (· ≠ .documentEnd) then none
  else if !isMarked && body.isEmpty then some { root := absent }
  else
    let draft ← content.foldlM Draft.step? { handles := handles ++ standardHandles }
    draft.document? isMarked

/-- The document that a text holds. -/
def ofText? (text : String) : Option Document := do
  ofTokens? (← tokens? text)

end Document

end CriteriaSearch.Yaml
