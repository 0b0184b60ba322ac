import Stepwise.Template.Tree
/-!
# The names of a template's parts

Some parts of a template have names of their own: the template itself, its blocks and macros, the
bodies of loops and a few other tags. Which names a part owns, and what they hold before anything
is assigned, follows from its nodes alone: `Symbols` collects it in reading order. A name
that is first assigned hides one from outside; a name that is first read belongs to the part
only if nothing outside knows it, and then its value is that of the variable of that name.
-/

namespace Stepwise.Template

/-! ## Names in expressions -/

mutual

/-- The names that an expression reads. -/
def Expr.reads : Expr → List String
  | .name id => [id]
  | .tuple es | .list es | .dict es | .concat es | .compare _ es => readsOf es
  | .pair a b | .index a b | .binary _ a b | .both a b | .either a b => a.reads ++ b.reads
  | .cond a b c _ | .slice a b c => a.reads ++ b.reads ++ c.reads
  | .filter e _ es | .test e _ es | .call e es => e.reads ++ readsOf es
  | .keyword _ e | .starred e | .doubleStarred e | .attr e _ | .unary _ e => e.reads
  | .fieldRef id _ => [id]
  | .omitted | .lit _ | .data _ => []

def readsOf : List Expr → List String
  | [] => []
  | e :: es => e.reads ++ readsOf es

end

/-- The names that a target gives values to. -/
def Expr.writes : Expr → List String
  | .name id => [id]
  | .tuple es => es.attach.flatMap fun ⟨e, _⟩ => e.writes
  | _ => []

/-- The names whose attributes a target gives values to. -/
def Expr.owners : Expr → List String
  | .fieldRef id _ => [id]
  | .tuple es => es.attach.flatMap fun ⟨e, _⟩ => e.owners
  | _ => []

/-! ## Names in nodes -/

/-- One mention of a name. -/
inductive Mention where
  | read (id : String)
  | write (id : String)
  deriving DecidableEq, Inhabited

def readsIn (es : List Expr) : List Mention := es.flatMap fun e => e.reads.map .read
private def writesIn (es : List Expr) : List Mention :=
  es.flatMap fun e => e.writes.map .write ++ e.owners.map .read

mutual

/-- The names that nodes mention, in reading order, and those of the nodes inside; blocks are left
out. Parameters count as written. -/
def Node.mentions : Node → List Mention
  | .output parts => readsIn parts
  | .forLoop target source body otherwise test _ =>
    writesIn [target] ++ readsIn [source] ++ mentionsOf body ++ mentionsOf otherwise ++ readsIn [test]
  | .ite test yes no => readsIn [test] ++ mentionsOf yes ++ mentionsOf no
  | .macroDef _ params defaults body => params.map .write ++ readsIn defaults ++ mentionsOf body
  | .callBlock call params defaults body =>
    readsIn [call] ++ params.map .write ++ readsIn defaults ++ mentionsOf body
  | .filterBlock filter body => mentionsOf body ++ readsIn [filter]
  | .withBlock targets values body => writesIn targets ++ readsIn values ++ mentionsOf body
  | .block .. => []
  | .assign target value => writesIn [target] ++ readsIn [value]
  | .assignBlock target filter body => writesIn [target] ++ readsIn [filter] ++ mentionsOf body
  | .extends e | .included e _ | .importAs e _ | .importFrom e _ => readsIn [e]
  | .autoescape value body => readsIn [value] ++ mentionsOf body

private def mentionsOf : List Node → List Mention
  | [] => []
  | n :: ns => n.mentions ++ mentionsOf ns

end

/-- Is the name read before it is written? -/
def isFree (id : String) (nodes : List Node) : Bool :=
  match (nodes.flatMap Node.mentions).find? fun m => m == .read id || m == .write id with
  | some (.read _) => true
  | _ => false

/-! ## Symbols -/

/-- What a name holds when its part is entered. -/
inductive Start where
  /-- A value that is handed in. -/
  | given
  /-- The variable of that name. -/
  | fromPage
  /-- What the name holds outside. -/
  | fromOutside
  | unset
  deriving DecidableEq, Inhabited

/-- The names of a part, and those among them that it gives values to. -/
structure Symbols where
  starts : List (String × Start) := []
  stored : List String := []
  deriving Inhabited

namespace Symbols

/-! `outside` tells which names the parts around know. -/

variable (outside : String → Bool)

def put (s : Symbols) (id : String) (start : Start) : Symbols :=
  { s with starts := (id, start) :: s.starts.filter (·.1 != id) }

def noteStored (s : Symbols) (id : String) : Symbols :=
  if s.stored.contains id then s else { s with stored := id :: s.stored }

def knows (s : Symbols) (id : String) : Bool := s.starts.any (·.1 == id)

/-- A name that is handed a value. -/
def declare (s : Symbols) (id : String) : Symbols := (s.put id .given).noteStored id

def declareAll (s : Symbols) (ids : List String) : Symbols := ids.foldl declare s

def read (s : Symbols) (id : String) : Symbols :=
  if s.knows id || outside id then s else s.put id .fromPage

def write (s : Symbols) (id : String) : Symbols :=
  let s := s.noteStored id
  if s.knows id then s else s.put id (if outside id then .fromOutside else .unset)

def readAll (s : Symbols) (es : List Expr) : Symbols :=
  (es.flatMap Expr.reads).foldl (read outside) s

def writeTarget (s : Symbols) (e : Expr) : Symbols :=
  e.writes.foldl (write outside) (e.owners.foldl (read outside) s)

/-- Puts branches together, of which any may be the one that runs: a name that only branches write
starts with what it would be without them. -/
private def merge (s : Symbols) (branches : List Symbols) : Symbols :=
  let all := branches.foldl (fun acc b =>
    let acc := b.starts.foldr (fun (id, start) acc => acc.put id start) acc
    b.stored.foldl noteStored acc) s
  let new := (branches.flatMap (·.stored)).filter fun id => !s.stored.contains id
  new.foldl (fun acc id => acc.put id (if outside id then .fromOutside else .fromPage)) all

mutual

/-- The names of a node; parts with names of their own keep them. -/
def node (s : Symbols) : Node → Symbols
  | .output parts => s.readAll outside parts
  | .forLoop _ source _ _ _ _ => s.readAll outside [source]
  | .ite test yes no =>
    let s := s.readAll outside [test]
    s.merge outside [nodes s yes, nodes s no]
  | .macroDef id .. => s.write outside id
  | .callBlock call .. => s.readAll outside [call]
  | .filterBlock filter _ => s.readAll outside [filter]
  | .withBlock _ values _ => s.readAll outside values
  | .block .. | .autoescape .. => s
  | .assign target value => (s.readAll outside [value]).writeTarget outside target
  | .assignBlock target .. => s.writeTarget outside target
  | .extends e | .included e _ => s.readAll outside [e]
  | .importAs e id => (s.readAll outside [e]).write outside id
  | .importFrom e ids => ids.foldl (write outside) (s.readAll outside [e])

/-- The names of nodes that follow each other. -/
def nodes (s : Symbols) : List Node → Symbols
  | [] => s
  | n :: ns => nodes (node s n) ns

end

/-! ## The parts -/

/-- The names of the whole template, or of a block of it. -/
def ofBody (given : List String) (body : List Node) : Symbols :=
  nodes (fun _ => false) (declareAll {} given) body

/-- The names of a macro, with those special parameters that its body reads. -/
def ofMacro (params special : List String) (defaults : List Expr) (body : List Node) : Symbols :=
  let s := declareAll {} params
  (nodes outside (s.readAll outside defaults) body).declareAll special

/-- The names of one turn of a loop. -/
def ofTurn (target : Expr) (body : List Node) : Symbols :=
  nodes outside (declareAll {} ("loop" :: target.writes)) body

/-- The names that the condition of a loop sees. -/
def ofCondition (target test : Expr) : Symbols :=
  (declareAll {} target.writes).readAll outside [test]

/-- The names of a body that stands in a tag, with the expressions that are read among them. -/
def ofInner (given : List String) (before : List Expr) (body : List Node) (behind : List Expr) : Symbols :=
  (nodes outside ((declareAll {} given).readAll outside before) body).readAll outside behind

end Symbols

end Stepwise.Template
