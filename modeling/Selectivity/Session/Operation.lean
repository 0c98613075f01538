import Selectivity.Catalog.File
import Selectivity.Query.Input
import Selectivity.Session.Report

/-!
# Operations of a session

A session is a store together with the choice whether compilations are strict that do not choose
for themselves. An operation either is refused and leaves the session as it was, or does its work.
Only an estimation can do a part of its work before it is refused: what it has estimated until
then stays.
-/

namespace Selectivity

/-- The state between operations. -/
structure Session where
  store : Store
  strict : Bool

def Session.initial : Session :=
  ⟨.empty, false⟩

/-- How queries are compiled. -/
structure Compiler where
  catalog : CatalogRef
  /-- Is a missing relation a fault? Without a choice the session chooses. -/
  strict : Option Bool
  verbose : Bool
  deriving DecidableEq, Repr

/-- Is a missing relation a fault for this compiler now? -/
def Compiler.isStrict (compiler : Compiler) (session : Session) : Bool :=
  compiler.strict.getD session.strict

/-- Something that changes a session. -/
inductive Operation where
  | makeAttribute (name : Label) (count : Int)
  | copyAttribute (column : AttributeRef)
  | recountAttribute (column : AttributeRef) (count : Int)
  | assignCount (column : AttributeRef) (count : Int)
  | makeRelation (tupleCount : Int) (columns : List AttributeRef)
  | appendAttribute (relation : RelationRef) (column : AttributeRef)
  | copyRelation (relation : RelationRef)
  | scan (name : String) (base : RelationRef)
  | project (input : NodeRef) (attributes : List String)
  | select (input : NodeRef) (condition : Option Predicate)
  | product (inputs : List NodeRef)
  | join (left right : NodeRef) (condition : Option Predicate)
  | foreign (kind : String) (inputs : List NodeRef)
  | setOutput (node : NodeRef) (output : RelationRef)
  | estimate (node : NodeRef) (verbose : Bool)
  /-- Makes a catalogue of the given relations; a later one of a name takes the place of an
  earlier one. -/
  | makeCatalog (entries : List (String × RelationRef))
  | addToCatalog (catalog : CatalogRef) (name : String) (relation : RelationRef)
  | importFrame (columns : CatalogColumns) (frame : Frame)
  | loadCatalog (format : CatalogFormat) (files : Files) (path : String)
  | compile (compiler : Compiler) (input : Query.Input)
  | setStrict (value : Bool)

namespace Session

/-- The session with another store, and a quiet result. -/
def done (session : Session) (store : Store) (outcome : Outcome) : Session × Report :=
  ({ session with store := store }, .success outcome)

/-- The session as it was, and a quiet fault. -/
def refuse (session : Session) (fault : Fault) : Session × Report :=
  (session, .failure fault)

/-- Keeps an attribute, if its count was accepted. -/
def keepAttribute (session : Session) (made : Except StatisticFault Attribute) :
    Session × Report :=
  match made with
  | .error fault => session.refuse (.statistic fault)
  | .ok column =>
      let (store, ref) := session.store.addAttribute column
      session.done store (.attribute ref)

def keepNode (session : Session) (operator : Operator RelationRef) (inputs : List Node) :
    Session × Report :=
  let (store, node) := session.store.addNode operator inputs
  session.done store (.node node.ref)

/-- Keeps a new catalogue with relations of its own, if it was read. -/
def keepStatistics (session : Session) (read : Except CatalogFault (Catalog Relation)) :
    Session × Report :=
  match read with
  | .error fault => session.refuse (.catalog fault)
  | .ok catalog =>
      let (store, ref) := session.store.addStatistics catalog
      session.done store (.catalog ref)

def assignCount (session : Session) (ref : AttributeRef) (column : Attribute) (count : Int) :
    Session × Report :=
  match Attribute.ofCount column.name count with
  | .error fault => session.refuse (.statistic fault)
  | .ok changed => session.done (session.store.replaceAttribute ref changed) (.attribute ref)

/-- Makes a relation of attributes that are in use. -/
def makeRelation (session : Session) (tupleCount : Int) (columns : List AttributeRef) :
    Session × Report :=
  match tupleCountOf tupleCount with
  | .error fault => session.refuse (.statistic fault)
  | .ok count =>
      let (store, ref) := session.store.addCell ⟨count, columns⟩
      session.done store (.relation ref)

/-- Joins two nodes, if the condition compares attributes. -/
def join (session : Session) (left right : Node) : Option Predicate → Session × Report
  | some (.equalsAttribute comparison) => session.keepNode (.join comparison) [left, right]
  | some condition => session.refuse (.joinCondition condition.render)
  | none => session.refuse (.joinCondition "None")

/-- Says what a node puts out, unless that is known. -/
def setOutput (session : Session) (node : Node) (output : RelationRef) : Session × Report :=
  if (session.store.output? node.ref).isSome then
    session.refuse (.outputKnown node.caption)
  else session.done (session.store.setOutput node.ref output) (.node node.ref)

/-- Estimates a node, unless its output is known. The result is the relation that it puts out. -/
def estimate (session : Session) (node : Node) (verbose : Bool) : Session × Report :=
  if (session.store.output? node.ref).isSome then
    session.refuse (.alreadyEstimated node.caption)
  else
    let estimation := session.store.estimateNode node
    let log := if verbose then estimation.computed.map Computed.logEntry else []
    let result :=
      match estimation.fault, estimation.store.output? node.ref with
      | some fault, _ => .error (.estimate fault)
      | none, some output => .ok (.relation output)
      | none, none => .ok .done
    ({ session with store := estimation.store }, ⟨result, [], log⟩)

def compile (session : Session) (catalog : Catalog RelationRef) (strict verbose : Bool)
    (input : Query.Input) : Session × Report :=
  let compilation := Query.compile catalog.lookup? strict input.characters
  let warnings := compilation.notices.filterMap Query.Notice.warning?
  let log := if verbose then compilation.notices.filterMap Query.Notice.logEntry? else []
  match compilation.outcome with
  | .error fault => (session, ⟨.error (.query fault), warnings, log⟩)
  | .ok plan =>
      let (store, node) := plan.assemble Store.addNode session.store
      ({ session with store := store }, ⟨.ok (.node node.ref), warnings, log⟩)

/-- Goes on with what was looked up, or refuses a reference that is not in use. -/
def ifKnown {α : Type} (session : Session) (found : Option α) (go : α → Session × Report) :
    Session × Report :=
  match found with
  | some value => go value
  | none => session.refuse .unknownReference

def perform (session : Session) : Operation → Session × Report
  | .makeAttribute name count => session.keepAttribute (Attribute.ofCount name count)
  | .copyAttribute ref =>
      session.ifKnown (session.store.attribute? ref) fun column =>
        session.keepAttribute (.ok column)
  | .recountAttribute ref count =>
      session.ifKnown (session.store.attribute? ref) fun column =>
        session.keepAttribute (Attribute.ofCount column.name count)
  | .assignCount ref count =>
      session.ifKnown (session.store.attribute? ref) fun column =>
        session.assignCount ref column count
  | .makeRelation tupleCount refs =>
      session.ifKnown (refs.mapM session.store.attribute?) fun _ =>
        session.makeRelation tupleCount refs
  | .appendAttribute ref column =>
      session.ifKnown (session.store.cell? ref) fun _ =>
        session.ifKnown (session.store.attribute? column) fun _ =>
          session.done (session.store.appendAttribute ref column) (.relation ref)
  | .copyRelation ref =>
      session.ifKnown (session.store.cell? ref) fun cell =>
        let (store, copy) := session.store.addRelation (session.store.relationOf cell)
        session.done store (.relation copy)
  | .scan name base =>
      session.ifKnown (session.store.cell? base) fun _ => session.keepNode (.scan name base) []
  | .project input attributes =>
      session.ifKnown (session.store.node? input) fun node =>
        session.keepNode (.project attributes) [node]
  | .select input condition =>
      session.ifKnown (session.store.node? input) fun node =>
        session.keepNode (.select condition) [node]
  | .product inputs =>
      session.ifKnown (inputs.mapM session.store.node?) fun nodes =>
        if nodes.length < 2 then session.refuse (.tooFewInputs nodes.length)
        else session.keepNode .product nodes
  | .join left right condition =>
      session.ifKnown (session.store.node? left) fun left =>
        session.ifKnown (session.store.node? right) fun right =>
          session.join left right condition
  | .foreign kind inputs =>
      session.ifKnown (inputs.mapM session.store.node?) fun nodes =>
        session.keepNode (.foreign kind) nodes
  | .setOutput ref output =>
      session.ifKnown (session.store.node? ref) fun node =>
        session.ifKnown (session.store.cell? output) fun _ => session.setOutput node output
  | .estimate ref verbose =>
      session.ifKnown (session.store.node? ref) fun node => session.estimate node verbose
  | .makeCatalog entries =>
      session.ifKnown (entries.mapM fun entry => session.store.cell? entry.2) fun _ =>
        let (store, ref) := session.store.addCatalog (.ofList entries)
        session.done store (.catalog ref)
  | .addToCatalog ref name relation =>
      session.ifKnown (session.store.catalog? ref) fun _ =>
        session.ifKnown (session.store.cell? relation) fun _ =>
          session.done (session.store.putRelation ref name relation) (.catalog ref)
  | .importFrame columns frame => session.keepStatistics (Catalog.ofFrame columns frame)
  | .loadCatalog format files path =>
      session.keepStatistics (Catalog.ofFile format files path)
  | .compile compiler input =>
      session.ifKnown (session.store.catalog? compiler.catalog) fun catalog =>
        session.compile catalog (compiler.isStrict session) compiler.verbose input
  | .setStrict value => ({ session with strict := value }, .success .done)

end Session

end Selectivity
