import Stepwise.Proofs.Compiling
import Stepwise.Proofs.Sharing
/-!
# Attributes that no script reaches

Attributes whose names begin with an underscore lead behind the objects that a script is given. What a tree
holds is said here without the policy: `Expr.Within` and `Stmt.Within` go down through all parts of all
constructors. `Policy.ofExpr_within` and `Policy.ofStmts_within` say that the policy goes down as far, so
that `hidden_attribute_refused` holds wherever in a script such an attribute stands.
-/

namespace Stepwise

namespace Script

/-! ## What a tree holds -/

namespace Expr

/-- The expressions that an expression is made of. -/
def parts : Expr → List Expr
  | .omitted | .lit _ | .name .. => []
  | .unary _ e | .attr _ e _ | .starred _ e | .keyword _ _ e | .doubleStarred e | .named _ _ e | .yield _ e
  | .yieldFrom _ e | .await _ e => [e]
  | .binary _ l r => [l, r]
  | .logic _ es | .compare _ es | .display _ es | .joined es => es
  | .cond test yes no => [test, yes, no]
  | .lambda _ _ defaults keywordDefaults body => defaults ++ keywordDefaults ++ [body]
  | .call _ f args => f :: args
  | .index _ e i => [e, i]
  | .slice lo hi step => [lo, hi, step]
  | .pair k v => [k, v]
  | .comprehension _ _ item clauses => item :: clauses
  | .clause _ target source conditions => target :: source :: conditions
  | .field e _ spec => [e, spec]

/-- The expression is the other one or stands in it, at any depth. -/
inductive Within (x : Expr) : Expr → Prop
  | self : Within x x
  | part {e p : Expr} : p ∈ e.parts → Within x p → Within x e

end Expr

namespace Stmt

/-- The expressions that a statement is made of. -/
def exprs : Stmt → List Expr
  | .expr _ e | .ret _ e | .collect _ e => [e]
  | .assign _ targets value => targets ++ [value]
  | .augment _ target _ value => [target, value]
  | .delete _ targets => targets
  | .ite test _ _ | .whileLoop test _ _ => [test]
  | .forLoop _ target source _ _ => [target, source]
  | .handler _ kind _ _ => [kind]
  | .withBlock _ items _ => items
  | .raise _ error cause => [error, cause]
  | .assert _ test message => [test, message]
  | .function _ _ _ defaults keywordDefaults annotations decorators _ =>
    defaults ++ keywordDefaults ++ annotations ++ decorators
  | .classDef _ _ bases decorators _ => bases ++ decorators
  | .pass | .leave _ | .next _ | .attempt .. | .importModules .. | .importFrom .. | .global .. | .refused .. => []

/-- The statements that a statement is made of. -/
def blocks : Stmt → List Stmt
  | .ite _ yes no => yes ++ no
  | .whileLoop _ body otherwise | .forLoop _ _ _ body otherwise => body ++ otherwise
  | .attempt _ body handlers otherwise final => body ++ handlers ++ otherwise ++ final
  | .handler _ _ _ body | .withBlock _ _ body | .function _ _ _ _ _ _ _ body | .classDef _ _ _ _ body => body
  | _ => []

/-- The statement is the other one or stands in it, at any depth. -/
inductive Within (s : Stmt) : Stmt → Prop
  | self : Within s s
  | block {t b : Stmt} : b ∈ t.blocks → Within s b → Within s t

end Stmt

/-- The statement stands somewhere in the script. -/
def Holds (script : List Stmt) (s : Stmt) : Prop := ∃ top ∈ script, s.Within top

/-- The expression stands somewhere in the script. -/
def Mentions (script : List Stmt) (x : Expr) : Prop := ∃ s, Holds script s ∧ ∃ e ∈ s.exprs, x.Within e

/-- The name begins with an underscore and is longer than that. -/
def IsHiddenName (id : String) : Prop := ∃ c rest, id.toList = '_' :: c :: rest

/-- Somewhere in the script a hidden attribute is named. A statement of a kind that no script may hold counts
as well, for the tree does not say what is in it. -/
def NamesHidden (script : List Stmt) : Prop :=
  (∃ line e id, Mentions script (.attr line e id) ∧ IsHiddenName id) ∨
    ∃ line kind, Holds script (.refused line kind)

/-- The text is one of a script, and this is its tree. A text with a null character is none. -/
def Parses (source : String) (script : List Stmt) : Prop :=
  '\x00' ∉ source.toList ∧ read (Text.dedent source.toList) = .ok script

namespace Policy

theorem isHidden_of_isHiddenName {id : String} (h : IsHiddenName id) : isHidden id = true := by
  obtain ⟨c, rest, hid⟩ := h
  have hne : id ≠ "_" := by
    rintro rfl
    cases hid
  rw [isHidden, hid, bne_iff_ne.2 hne]
  rfl

/-! ## How far the policy goes down -/

/-- No offences in expressions, in whatever order they are looked through, means none in each. -/
theorem ofExprs_eq_nil {bound : Bool} {es : List Expr} (h : ofExprs bound es = []) :
    ∀ e ∈ es, ofExpr bound e = [] := by
  induction es with
  | nil => exact List.forall_mem_nil _
  | cons e es ih =>
    rw [ofExprs, List.append_eq_nil_iff] at h
    exact List.forall_mem_cons.2 ⟨h.1, ih h.2⟩

theorem ofArguments_eq_nil {args : List Expr} (hplain : ofArguments false args = [])
    (hnamed : ofArguments true args = []) : ∀ e ∈ args, ofExpr false e = [] := by
  induction args with
  | nil => exact List.forall_mem_nil _
  | cons e es ih =>
    -- an argument by name is looked through in the second round, every other one in the first
    have hhere : ofExpr false e = [] ∧ ofArguments false es = [] ∧ ofArguments true es = [] := by
      rw [ofArguments.eq_def] at hplain hnamed
      split at hplain
      case h_1 heq => cases heq
      case h_2 heq =>
        cases heq
        simp only [Bool.false_eq_true, if_false, if_true, List.nil_append, List.append_eq_nil_iff] at hplain hnamed
        exact ⟨by rw [ofExpr]; exact hnamed.1, hplain, hnamed.2⟩
      case h_3 heq =>
        cases heq
        simp only [Bool.false_eq_true, if_false, if_true, List.nil_append, List.append_eq_nil_iff] at hplain hnamed
        exact ⟨by rw [ofExpr]; exact hnamed.1, hplain, hnamed.2⟩
      case h_4 heq =>
        cases heq
        simp only [Bool.false_eq_true, if_false, List.append_eq_nil_iff] at hplain
        refine ⟨hplain.1, hplain.2, ?_⟩
        split at hnamed
        case h_1 heq => cases heq
        case h_2 heq => cases heq; exact (List.append_eq_nil_iff.1 hnamed).2
        case h_3 heq => cases heq; exact (List.append_eq_nil_iff.1 hnamed).2
        case h_4 heq => cases heq; exact (List.append_eq_nil_iff.1 hnamed).2
    exact List.forall_mem_cons.2 ⟨hhere.1, ih hhere.2.1 hhere.2.2⟩

theorem ofEntries_eq_nil {es : List Expr} (hkeys : ofKeys es = []) (hvalues : ofEntries es = []) :
    ∀ e ∈ es, ofExpr false e = [] := by
  induction es with
  | nil => exact List.forall_mem_nil _
  | cons e es ih =>
    have hhere : ofExpr false e = [] ∧ ofKeys es = [] ∧ ofEntries es = [] := by
      rw [ofKeys.eq_def] at hkeys
      rw [ofEntries.eq_def] at hvalues
      split at hkeys
      case h_1 heq => cases heq
      case h_2 heq =>
        cases heq
        rw [List.append_eq_nil_iff] at hkeys hvalues
        exact ⟨by rw [ofExpr, hkeys.1, hvalues.1]; rfl, hkeys.2, hvalues.2⟩
      case h_3 hpair heq =>
        cases heq
        split at hvalues
        case h_1 heq => cases heq
        case h_2 heq => cases heq; exact (hpair _ _ rfl).elim
        case h_3 heq =>
          cases heq
          rw [List.append_eq_nil_iff] at hvalues
          exact ⟨hvalues.1, hkeys, hvalues.2⟩
    exact List.forall_mem_cons.2 ⟨hhere.1, ih hhere.2.1 hhere.2.2⟩

/-- None of the expressions holds an offence, be it that it is read or that it is bound. -/
def AreFree (es : List Expr) : Prop := ∀ e ∈ es, ∃ bound, ofExpr bound e = []

theorem areFree_one {bound : Bool} {e : Expr} (h : ofExpr bound e = []) : AreFree [e] :=
  List.forall_mem_singleton.2 ⟨bound, h⟩

theorem areFree_all {bound : Bool} {es : List Expr} (h : ofExprs bound es = []) : AreFree es :=
  fun e he => ⟨bound, ofExprs_eq_nil h e he⟩

theorem AreFree.append {es fs : List Expr} (hes : AreFree es) (hfs : AreFree fs) : AreFree (es ++ fs) :=
  List.forall_mem_append.2 ⟨hes, hfs⟩

/-- **An expression that is free of offences is made of such expressions.** -/
theorem areFree_parts {bound : Bool} {e : Expr} (h : ofExpr bound e = []) : AreFree e.parts := by
  cases e
  all_goals simp only [ofExpr, List.append_eq_nil_iff] at h
  case omitted | lit | name => exact List.forall_mem_nil _
  case unary | starred | keyword | doubleStarred | yield | yieldFrom => exact areFree_one h
  case attr | named => exact areFree_one h.2
  case await => cases h
  case logic | compare | joined => exact areFree_all h
  case binary | index | pair | field => exact (areFree_one h.1).append (areFree_one h.2)
  case cond | slice => exact ((areFree_one h.1.1).append (areFree_one h.1.2)).append (areFree_one h.2)
  case lambda => exact ((areFree_all h.1.2).append (areFree_all h.1.1.2)).append (areFree_one h.2)
  case call =>
    have hargs : AreFree _ := fun e he => ⟨false, ofArguments_eq_nil h.1.2 h.2 e he⟩
    exact (areFree_one h.1.1.2).append hargs
  case comprehension => exact (areFree_one h.1).append (areFree_all h.2)
  case clause => exact ((areFree_one h.1.1).append (areFree_one h.1.2)).append (areFree_all h.2)
  case display shape es =>
    split at h
    case isTrue =>
      rw [List.append_eq_nil_iff] at h
      exact fun e he => ⟨false, ofEntries_eq_nil h.1 h.2 e he⟩
    case isFalse => exact areFree_all h

/-- So the policy goes down to every expression that stands in another one. -/
theorem ofExpr_within {x e : Expr} (hx : x.Within e) :
    ∀ {bound : Bool}, ofExpr bound e = [] → ∃ b, ofExpr b x = [] := by
  induction hx with
  | self => exact fun h => ⟨_, h⟩
  | part hp _ ih =>
    intro bound h
    obtain ⟨b, hb⟩ := areFree_parts h _ hp
    exact ih hb

/-- A hidden attribute is an offence where it stands. -/
theorem ofExpr_attr_ne_nil {id : String} (hid : IsHiddenName id) (bound : Bool) (line : Nat) (e : Expr) :
    ofExpr bound (.attr line e id) ≠ [] := by
  rw [ofExpr]
  intro h
  have hname : (attributeOffences id).map (Violation.mk line) = [] := (List.append_eq_nil_iff.1 h).1
  rw [List.map_eq_nil_iff, attributeOffences, if_pos (isHidden_of_isHiddenName hid)] at hname
  cases hname

/-! ## Statements -/

mutual

/-- A name that may be given may be read. -/
theorem ofExpr_read : (e : Expr) → ofExpr true e = [] → ofExpr false e = []
  | .name _ id, h => by
    simp only [ofExpr, if_true, Bool.false_eq_true, if_false, readOffences] at h ⊢
    split
    case isTrue => rfl
    case isFalse => exact h
  | .starred _ e, h => by
    rw [ofExpr] at h ⊢
    exact ofExpr_read e h
  | .display shape es, h => by
    rw [ofExpr] at h ⊢
    split at h
    case isTrue hdict => rw [if_pos hdict, h]
    case isFalse hdict => rw [if_neg hdict, ofExprs_read es h]
  | .omitted, _ | .lit _, _ => by rw [ofExpr]
  | .unary _ _, h | .binary _ _ _, h | .logic _ _, h | .compare _ _, h | .cond _ _ _, h
  | .lambda _ _ _ _ _, h | .call _ _ _, h | .attr _ _ _, h | .index _ _ _, h | .slice _ _ _, h | .keyword _ _ _, h
  | .doubleStarred _, h | .pair _ _, h | .comprehension _ _ _ _, h | .clause _ _ _ _, h | .named _ _ _, h
  | .yield _ _, h | .yieldFrom _ _, h | .await _ _, h | .joined _, h | .field _ _ _, h => by
    rw [ofExpr] at h ⊢
    exact h

theorem ofExprs_read : (es : List Expr) → ofExprs true es = [] → ofExprs false es = []
  | [], _ => rfl
  | e :: es, h => by
    rw [ofExprs, List.append_eq_nil_iff] at h
    rw [ofExprs, ofExpr_read e h.1, ofExprs_read es h.2]
    rfl

end

theorem areFree_managers {items : List Expr} (h : ofManagers items = []) : AreFree items := by
  induction items with
  | nil => exact List.forall_mem_nil _
  | cons e es ih =>
    rw [ofManagers.eq_def] at h
    split at h
    case h_1 heq => cases heq
    case h_2 heq =>
      cases heq
      rw [List.append_eq_nil_iff, List.append_eq_nil_iff] at h
      refine List.forall_mem_cons.2 ⟨⟨false, ?_⟩, ih h.2⟩
      rw [ofExpr, h.1.1, ofExpr_read _ h.1.2]
      rfl
    case h_3 heq =>
      cases heq
      rw [List.append_eq_nil_iff] at h
      exact List.forall_mem_cons.2 ⟨⟨false, h.1⟩, ih h.2⟩

/-- **A statement that is free of offences is made of expressions that are**, -/
theorem areFree_exprs {top : Bool} {s : Stmt} (h : ofStmt top s = []) : AreFree s.exprs := by
  cases s
  all_goals simp only [ofStmt, List.append_eq_nil_iff] at h
  case pass | leave | next | attempt | importModules | importFrom | global | refused => exact List.forall_mem_nil _
  case expr | ret | collect => exact areFree_one h
  case assign => exact (areFree_all h.1).append (areFree_one h.2)
  case augment => exact (areFree_one h.1.1).append (areFree_one h.1.2)
  case delete => exact areFree_all h
  case ite | whileLoop | handler => exact areFree_one h.1.1
  case forLoop => exact (areFree_one h.1.1.1).append (areFree_one h.1.1.2)
  case withBlock => exact areFree_managers h.1
  case raise | assert => exact (areFree_one h.1).append (areFree_one h.2)
  case function =>
    exact (((areFree_all h.1.1.2).append (areFree_all h.1.1.1.2)).append (areFree_all h.1.1.1.1.2)).append
      (areFree_all h.2)
  case classDef =>
    have hbases : AreFree _ := fun e he => ⟨false, ofArguments_eq_nil h.1.1.1.1.2 h.1.1.1.2 e he⟩
    exact hbases.append (areFree_all h.1.2)

theorem ofStmts_eq_nil {top : Bool} {ss : List Stmt} (h : ofStmts top ss = []) : ∀ s ∈ ss, ofStmt top s = [] := by
  induction ss with
  | nil => exact List.forall_mem_nil _
  | cons s ss ih =>
    rw [ofStmts, List.append_eq_nil_iff] at h
    exact List.forall_mem_cons.2 ⟨h.1, ih h.2⟩

/-- **and of statements that are.** -/
theorem ofStmt_blocks {top : Bool} {s : Stmt} (h : ofStmt top s = []) : ∀ b ∈ s.blocks, ofStmt false b = [] := by
  have both {ss ts : List Stmt} (hss : ∀ b ∈ ss, ofStmt false b = []) (hts : ∀ b ∈ ts, ofStmt false b = []) :
      ∀ b ∈ ss ++ ts, ofStmt false b = [] := List.forall_mem_append.2 ⟨hss, hts⟩
  cases s
  all_goals simp only [ofStmt, List.append_eq_nil_iff] at h
  case ite | whileLoop | forLoop => exact both (ofStmts_eq_nil h.1.2) (ofStmts_eq_nil h.2)
  case attempt =>
    have hbody := both (ofStmts_eq_nil h.1.1.1) (ofStmts_eq_nil h.1.1.2)
    exact both (both hbody (ofStmts_eq_nil h.1.2)) (ofStmts_eq_nil h.2)
  case handler => exact ofStmts_eq_nil h.1.2
  case withBlock => exact ofStmts_eq_nil h.2
  case function => exact ofStmts_eq_nil h.1.2
  case classDef => exact ofStmts_eq_nil h.1.1.2
  all_goals exact List.forall_mem_nil _

/-- So the policy goes down to every statement that stands in another one. -/
theorem ofStmt_within {x s : Stmt} (hx : x.Within s) :
    ∀ {top : Bool}, ofStmt top s = [] → ∃ b, ofStmt b x = [] := by
  induction hx with
  | self => exact fun h => ⟨_, h⟩
  | block hb _ ih => exact fun h => ih (ofStmt_blocks h _ hb)

/-- **A script that names a hidden attribute anywhere holds an offence.** -/
theorem violations_ne_nil {script : List Stmt} (h : NamesHidden script) : violations script ≠ [] := by
  intro hnone
  have hstmt {s : Stmt} (hs : Holds script s) : ∃ top, ofStmt top s = [] := by
    obtain ⟨t, ht, hwithin⟩ := hs
    exact ofStmt_within hwithin (ofStmts_eq_nil hnone t ht)
  obtain ⟨line, e, id, ⟨s, hs, x, hx, hwithin⟩, hid⟩ | ⟨line, kind, hs⟩ := h
  · obtain ⟨top, hfree⟩ := hstmt hs
    obtain ⟨bound, hbound⟩ := areFree_exprs hfree x hx
    obtain ⟨b, hb⟩ := ofExpr_within hwithin hbound
    exact ofExpr_attr_ne_nil hid b line e hb
  · obtain ⟨top, hfree⟩ := hstmt hs
    rw [ofStmt] at hfree
    cases hfree

end Policy
end Script

/-! ## Refused before it runs -/

namespace ScriptEngine

open Script (Parses NamesHidden)
open Engine (Untouched)

/-- Whether a text is compiled or refused, no object is touched and nothing reaches the host. -/
theorem compile_touches_nothing (source step : String) (w : World) :
    Untouched w ((compile source step).act w).world ∧ ((compile source step).act w).world.hostCalls = w.hostCalls := by
  have huntouched : Untouched w w := fun _ _ h => h
  rw [compile]
  cases Script.compile source with
  | ok script => exact ⟨huntouched, rfl⟩
  | error refusal =>
    cases refusal with
    | nullCharacter | misplaced _ => exact ⟨huntouched.push _, rfl⟩
    | unreadable _ | offences _ => exact ⟨(huntouched.push _).push _, rfl⟩

/-- What is refused with an error is not run: there is no result to go on with. -/
theorem execute_act_of_compile {source step : String} {w w' : World} {f : Failure}
    (h : (compile source step).act w = .error f w') (m : Machine) (host : Host) (inThread : Bool) (context : Value) :
    (execute m host inThread source context step).act w = .error f w' := by
  have hstart : (start m inThread source context step).act w = .error f w' := by rw [start, Run.bind_act, h]
  rw [execute, Run.bind_act, hstart]

/-- **A script that names a hidden attribute is refused**, at whatever depth and in whatever part of the script
the attribute stands. The error is the report of the policy. It comes up without the evaluator, the host and
the context having any part in it, so no statement of the script runs; every object is what it was, and
nothing reaches the host. -/
theorem hidden_attribute_refused {source : String} {script : List Script.Stmt} (hparses : Parses source script)
    (hhidden : NamesHidden script) (step : String) (w : World) :
    ∃ errors error w', errors ≠ [] ∧ w'.IsReport step errors error ∧ Untouched w w' ∧ w'.hostCalls = w.hostCalls ∧
      ∀ m host inThread context,
        (execute m host inThread source context step).act w = .error (.raised error) w' := by
  have hviolations := Script.Policy.violations_ne_nil hhidden
  have hcompile : Script.compile source = .error (.offences (Script.Policy.violations script)) := by
    have hverdict := Script.verdict source
    generalize Script.compile source = verdict at hverdict
    cases hverdict with
    | null hnull => exact absurd hnull hparses.1
    | unreadable _ hread => cases hparses.2.symm.trans hread
    | offences _ hread _ =>
      cases hparses.2.symm.trans hread
      rfl
    | misplaced _ hread hnone _ =>
      cases hparses.2.symm.trans hread
      exact absurd hnone hviolations
    | accepted _ hread hnone _ =>
      cases hparses.2.symm.trans hread
      exact absurd hnone hviolations
  obtain ⟨error, w', hact, htells⟩ := compile_act_error hcompile step w
  obtain ⟨huntouched, hcalls⟩ := compile_touches_nothing source step w
  rw [hact] at huntouched hcalls
  exact ⟨_, error, w', Script.errors_ne_nil hcompile rfl, htells, huntouched, hcalls,
    fun m host inThread context => execute_act_of_compile hact m host inThread context⟩

/-- The attribute at which the default of a function begins a slice, if the script is such a function. -/
def slicedAt? : List Script.Stmt → Option String
  | [.function _ _ _ [.lambda _ _ _ _ (.index _ _ (.slice (.attr _ _ id) _ _))] _ _ _ _] => some id
  | _ => none

theorem namesHidden_of_slicedAt {script : List Script.Stmt} {id : String} (h : slicedAt? script = some id)
    (hid : Script.IsHiddenName id) : NamesHidden script := by
  rw [slicedAt?.eq_def] at h
  split at h
  case h_1 line e _ hi st _ _ _ _ =>
    cases h
    let hidden : Script.Expr := .attr line e id
    have hslice : hidden.Within (.slice hidden hi st) := .part List.mem_cons_self .self
    refine .inl ⟨line, e, id, ⟨_, ⟨_, List.mem_singleton_self _, .self⟩, _,
      List.mem_append_left _ List.mem_cons_self, ?_⟩, hid⟩
    exact .part (List.mem_append_right _ List.mem_cons_self) (.part (List.mem_cons_of_mem _ List.mem_cons_self) hslice)
  case h_2 => cases h

/-- In a slice, in a nameless function, in a default: the attribute is found. -/
theorem hidden_attribute_refused_in_default :
    let source := "def f(x=lambda:a[b._c:]):\n  return x"
    ∃ script, Parses source script ∧ NamesHidden script ∧
      ∃ errors error w', errors ≠ [] ∧ w'.IsReport "s" errors error ∧ Untouched {} w' ∧ w'.hostCalls = #[] ∧
        ∀ m host inThread context,
          (execute m host inThread source context "s").act {} = .error (.raised error) w' := by
  intro source
  have hnull : '\x00' ∉ source.toList := by decide +kernel
  have hsliced : (Script.read (Text.dedent source.toList)).toOption.bind slicedAt? = some "_c" := by decide +kernel
  cases hread : Script.read (Text.dedent source.toList) with
  | error f =>
    rw [hread] at hsliced
    cases hsliced
  | ok script =>
    rw [hread] at hsliced
    have hhidden : NamesHidden script := namesHidden_of_slicedAt hsliced ⟨'c', [], rfl⟩
    exact ⟨script, ⟨hnull, hread⟩, hhidden, hidden_attribute_refused ⟨hnull, hread⟩ hhidden "s" {}⟩

end ScriptEngine

end Stepwise
