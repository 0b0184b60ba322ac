import Stepwise.Template.Statement
import Stepwise.Template.Names
import Stepwise.Template.Vocabulary
/-!
# Templates that can be meant

A template that reads well is still refused if it names a filter or a test that does not exist, unless
that stands under a condition, if it defines a block twice, gives a value to the `loop` of a loop,
extends another template from inside a tag, or has a macro that wants its caller twice.
-/

namespace Stepwise.Template

mutual

/-- Does an expression name only what exists? Under a condition anything goes. -/
def Expr.wellNamed (soft : Bool) : Expr → Bool
  | .filter e id args => (soft || isFilter id) && e.wellNamed soft && allWellNamed soft args
  | .test e id args => (soft || isTest id) && e.wellNamed soft && allWellNamed soft args
  | .cond a b c _ => a.wellNamed true && b.wellNamed true && c.wellNamed true
  | .tuple es | .list es | .dict es | .concat es | .compare _ es => allWellNamed soft es
  | .pair a b | .index a b | .binary _ a b | .both a b | .either a b => a.wellNamed soft && b.wellNamed soft
  | .slice a b c => a.wellNamed soft && b.wellNamed soft && c.wellNamed soft
  | .call e es => e.wellNamed soft && allWellNamed soft es
  | .keyword _ e | .starred e | .doubleStarred e | .attr e _ | .unary _ e => e.wellNamed soft
  | .omitted | .lit _ | .data _ | .name _ | .fieldRef .. => true

def allWellNamed (soft : Bool) : List Expr → Bool
  | [] => true
  | e :: es => e.wellNamed soft && allWellNamed soft es

end

mutual

/-- All blocks of nodes, each before those inside it. -/
def Node.blocks : Node → List (String × List Node)
  | .block id body _ _ => (id, body) :: blocksOf body
  | .forLoop _ _ body otherwise _ _ => blocksOf body ++ blocksOf otherwise
  | .ite _ yes no => blocksOf yes ++ blocksOf no
  | .macroDef _ _ _ body | .callBlock _ _ _ body | .filterBlock _ body | .withBlock _ _ body
  | .assignBlock _ _ body | .autoescape _ body => blocksOf body
  | .output _ | .assign .. | .extends _ | .included .. | .importAs .. | .importFrom .. => []

def blocksOf : List Node → List (String × List Node)
  | [] => []
  | n :: ns => n.blocks ++ blocksOf ns

end

mutual

/-- Is a name the target of an assignment or of a loop somewhere inside? -/
def Node.assigns (id : String) : Node → Bool
  | .assign target _ => target.writes.contains id
  | .assignBlock target _ body => target.writes.contains id || anyAssigns id body
  | .forLoop target _ body otherwise _ _ =>
    target.writes.contains id || anyAssigns id body || anyAssigns id otherwise
  | .ite _ yes no => anyAssigns id yes || anyAssigns id no
  | .macroDef _ _ _ body | .callBlock _ _ _ body | .filterBlock _ body | .withBlock _ _ body
  | .block _ body _ _ | .autoescape _ body => anyAssigns id body
  | .output _ | .extends _ | .included .. | .importAs .. | .importFrom .. => false

private def anyAssigns (id : String) : List Node → Bool
  | [] => false
  | n :: ns => n.assigns id || anyAssigns id ns

end

/-- May a macro have these parameters? `caller` is handed in anyway, so as a parameter it needs a
default. -/
def callerIsClear (params : List String) (defaults : List Expr) (body : List Node) : Bool :=
  match params.findIdx? (· == "caller") with
  | none => true
  | some i => !isFree "caller" body || params.length - defaults.length ≤ i

mutual

/-- Can a node be meant? `top` holds where templates may be extended. -/
def Node.meaningful (soft top : Bool) : Node → Bool
  | .output parts => allWellNamed soft parts
  | .forLoop target source body otherwise test r =>
    source.wellNamed soft && test.wellNamed false && allMeaningful false false body &&
      allMeaningful false false otherwise &&
      !(Node.forLoop target source body otherwise test r).assigns "loop"
  | .ite test yes no => test.wellNamed true && allMeaningful true top yes && allMeaningful true top no
  | .macroDef _ params defaults body =>
    callerIsClear params defaults body && allWellNamed false defaults && allMeaningful false false body
  | .callBlock call params defaults body =>
    call.wellNamed soft && callerIsClear params defaults body && allWellNamed false defaults &&
      allMeaningful false false body
  | .filterBlock filter body | .assignBlock _ filter body =>
    filter.wellNamed false && allMeaningful false false body
  | .withBlock _ values body => allWellNamed soft values && allMeaningful false false body
  | .block _ body _ _ => allMeaningful false false body
  | .assign _ value => value.wellNamed soft
  | .extends e => top && e.wellNamed soft
  | .included e _ | .importAs e _ | .importFrom e _ => e.wellNamed soft
  | .autoescape value body => value.wellNamed false && allMeaningful false false body

def allMeaningful (soft top : Bool) : List Node → Bool
  | [] => true
  | n :: ns => n.meaningful soft top && allMeaningful soft top ns

end

/-- Can the template be meant? -/
def isMeaningful (nodes : List Node) : Bool :=
  let ids := (blocksOf nodes).map (·.1)
  ids.eraseDups.length == ids.length && nodes.all (Node.meaningful false true)

/-- The nodes of a template. -/
def parse (source : String) : Except Fault (List Node) := do
  let nodes ← read source
  if isMeaningful nodes then return nodes else throw .meaningless

end Stepwise.Template
