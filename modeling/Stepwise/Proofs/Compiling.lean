import Stepwise.Proofs.Contexts
/-!
# What a refused script is told by

The text of a script passes three judges: the reader, the policy, and the search for what stands out of
place. The first two report what they find as a list of errors; the last one raises an error of its own, and
so does a text that holds a null character. `Script.verdict` says once how compiling ends, and
`compile_reports_iff` reads off it for which texts there is always a script or a report.
-/

namespace Stepwise

namespace Script

/-! ## Statements out of place -/

/-- The statement holds one that means nothing where it stands: it leaves a loop or goes on with one that is
not there, it returns though the body around it is that of a class, or it asks for features behind other
statements. What stands around it is a function or a class, within a loop or not. -/
inductive Stray : Bool → Bool → Stmt → Prop
  | leave {inFunction : Bool} {line : Nat} : Stray inFunction false (.leave line)
  | next {inFunction : Bool} {line : Nat} : Stray inFunction false (.next line)
  | ret {inLoop : Bool} {line : Nat} {e : Expr} : Stray false inLoop (.ret line e)
  | features {inFunction inLoop : Bool} {line level : Nat} {names : List Alias} :
      Stray inFunction inLoop (.importFrom line "__future__" names level)
  | branch {inFunction inLoop : Bool} {test : Expr} {yes no : List Stmt} {s : Stmt} : s ∈ yes ++ no →
      Stray inFunction inLoop s → Stray inFunction inLoop (.ite test yes no)
  | whileBody {inFunction inLoop : Bool} {test : Expr} {body otherwise : List Stmt} {s : Stmt} : s ∈ body →
      Stray inFunction true s → Stray inFunction inLoop (.whileLoop test body otherwise)
  | whileElse {inFunction inLoop : Bool} {test : Expr} {body otherwise : List Stmt} {s : Stmt} : s ∈ otherwise →
      Stray inFunction inLoop s → Stray inFunction inLoop (.whileLoop test body otherwise)
  | forBody {inFunction inLoop : Bool} {line : Nat} {target source : Expr} {body otherwise : List Stmt} {s : Stmt} :
      s ∈ body → Stray inFunction true s → Stray inFunction inLoop (.forLoop line target source body otherwise)
  | forElse {inFunction inLoop : Bool} {line : Nat} {target source : Expr} {body otherwise : List Stmt} {s : Stmt} :
      s ∈ otherwise → Stray inFunction inLoop s →
      Stray inFunction inLoop (.forLoop line target source body otherwise)
  | attempt {inFunction inLoop : Bool} {line : Nat} {body handlers otherwise final : List Stmt} {s : Stmt} :
      s ∈ body ++ handlers ++ otherwise ++ final → Stray inFunction inLoop s →
      Stray inFunction inLoop (.attempt line body handlers otherwise final)
  | handler {inFunction inLoop : Bool} {line : Nat} {kind : Expr} {id : Option String} {body : List Stmt} {s : Stmt} :
      s ∈ body → Stray inFunction inLoop s → Stray inFunction inLoop (.handler line kind id body)
  | withBlock {inFunction inLoop : Bool} {line : Nat} {items : List Expr} {body : List Stmt} {s : Stmt} :
      s ∈ body → Stray inFunction inLoop s → Stray inFunction inLoop (.withBlock line items body)
  | function {inFunction inLoop : Bool} {line : Nat} {id : String} {sig : Signature}
      {defaults keywordDefaults annotations decorators : List Expr} {body : List Stmt} {s : Stmt} :
      s ∈ body → Stray true false s →
      Stray inFunction inLoop (.function line id sig defaults keywordDefaults annotations decorators body)
  | classDef {inFunction inLoop : Bool} {line : Nat} {id : String} {bases decorators : List Expr} {body : List Stmt}
      {s : Stmt} : s ∈ body → Stray false false s →
      Stray inFunction inLoop (.classDef line id bases decorators body)

namespace Placement

theorem bind_ok {α β : Type} {x : Except Misplacement α} {f : α → Except Misplacement β} {b : β} :
    (x >>= f) = .ok b ↔ ∃ a, x = .ok a ∧ f a = .ok b := by
  cases x with
  | error m => exact ⟨fun h => (nomatch h), fun ⟨_, h, _⟩ => (nomatch h)⟩
  | ok a => exact ⟨fun h => ⟨a, rfl, h⟩, fun ⟨_, h, hf⟩ => by cases h; exact hf⟩

/-- Entering a block changes nothing but whether a loop is around. -/
theorem enter_ok {h inner : Here} {line : Nat} {loop : Bool} (hin : h.enter line loop = .ok inner) :
    inner.inFunction = h.inFunction ∧ inner.inLoop = (h.inLoop || loop) := by
  rw [Here.enter] at hin
  split at hin
  · cases hin
  · cases hin
    exact ⟨rfl, rfl⟩

/-- Where all statements are in place, each of them is. -/
theorem ofStmts_ok {h : Here} : (ss : List Stmt) → ofStmts h ss = .ok () → ∀ s ∈ ss, ofStmt h s = .ok ()
  | [], _ => fun _ hs => nomatch hs
  | s :: ss, hok => by
    rw [ofStmts.eq_def] at hok
    split at hok
    case h_1 heq => cases heq
    case h_2 line id body second rest heq =>
      -- the handler of every error is judged by its body alone, for it has no kind
      cases heq
      replace hok : (ofStmts h body >>= fun _ => ofStmt h second >>= fun _ => ofStmts h rest) = .ok () := by
        dsimp only at hok
        split at hok
        · cases hok
        · exact hok
      obtain ⟨_, hbody, hok⟩ := bind_ok.1 hok
      obtain ⟨_, hsecond, hrest⟩ := bind_ok.1 hok
      refine List.forall_mem_cons.2 ⟨?_, List.forall_mem_cons.2 ⟨hsecond, ofStmts_ok rest hrest⟩⟩
      rw [ofStmt]
      exact hbody
    case h_3 heq =>
      cases heq
      obtain ⟨_, hfirst, hrest⟩ := bind_ok.1 hok
      exact List.forall_mem_cons.2 ⟨hfirst, ofStmts_ok ss hrest⟩

/-- **A statement that holds a stray one is not in place**, however deep it stands. -/
theorem not_ok_of_stray {inFunction inLoop : Bool} {s : Stmt} (hs : Stray inFunction inLoop s) {h : Here}
    (hfunction : h.inFunction = inFunction) (hloop : h.inLoop = inLoop) : ofStmt h s ≠ .ok () := by
  -- along the way to the stray statement: a block keeps what stands around, a loop adds itself, and only the
  -- bodies of functions and classes begin anew
  induction hs generalizing h with
  | leave =>
    rw [ofStmt, hloop]
    exact nofun
  | next =>
    rw [ofStmt, hloop]
    exact nofun
  | ret =>
    rw [ofStmt, hfunction]
    exact nofun
  | features =>
    rw [ofStmt]
    exact nofun
  | branch hmem _ ih =>
    intro hok
    rw [ofStmt] at hok
    obtain ⟨_, -, hok⟩ := bind_ok.1 hok
    obtain ⟨_, hyes, hno⟩ := bind_ok.1 hok
    obtain hmem | hmem := List.mem_append.1 hmem
    · exact ih hfunction hloop (ofStmts_ok _ hyes _ hmem)
    · exact ih hfunction hloop (ofStmts_ok _ hno _ hmem)
  | whileBody hmem _ ih =>
    intro hok
    rw [ofStmt] at hok
    obtain ⟨_, -, hok⟩ := bind_ok.1 hok
    obtain ⟨inner, henter, hok⟩ := bind_ok.1 hok
    obtain ⟨_, hbody, -⟩ := bind_ok.1 hok
    obtain ⟨hf, hl⟩ := enter_ok henter
    exact ih (hf.trans hfunction) (hl.trans (Bool.or_true _)) (ofStmts_ok _ hbody _ hmem)
  | whileElse hmem _ ih =>
    intro hok
    rw [ofStmt] at hok
    obtain ⟨_, -, hok⟩ := bind_ok.1 hok
    obtain ⟨inner, -, hok⟩ := bind_ok.1 hok
    obtain ⟨_, -, hotherwise⟩ := bind_ok.1 hok
    exact ih hfunction hloop (ofStmts_ok _ hotherwise _ hmem)
  | forBody hmem _ ih =>
    intro hok
    rw [ofStmt] at hok
    obtain ⟨_, -, hok⟩ := bind_ok.1 hok
    obtain ⟨inner, henter, hok⟩ := bind_ok.1 hok
    obtain ⟨_, -, hok⟩ := bind_ok.1 hok
    obtain ⟨_, hbody, -⟩ := bind_ok.1 hok
    obtain ⟨hf, hl⟩ := enter_ok henter
    exact ih (hf.trans hfunction) (hl.trans (Bool.or_true _)) (ofStmts_ok _ hbody _ hmem)
  | forElse hmem _ ih =>
    intro hok
    rw [ofStmt] at hok
    obtain ⟨_, -, hok⟩ := bind_ok.1 hok
    obtain ⟨inner, -, hok⟩ := bind_ok.1 hok
    obtain ⟨_, -, hok⟩ := bind_ok.1 hok
    obtain ⟨_, -, hotherwise⟩ := bind_ok.1 hok
    exact ih hfunction hloop (ofStmts_ok _ hotherwise _ hmem)
  | attempt hmem _ ih =>
    intro hok
    rw [ofStmt] at hok
    obtain ⟨inner, henter, hok⟩ := bind_ok.1 hok
    obtain ⟨_, hbody, hok⟩ := bind_ok.1 hok
    obtain ⟨_, hhandlers, hok⟩ := bind_ok.1 hok
    obtain ⟨_, hotherwise, hfinal⟩ := bind_ok.1 hok
    obtain ⟨hf, hl⟩ := enter_ok henter
    have hinner := ih (h := inner) (hf.trans hfunction) ((hl.trans (Bool.or_false _)).trans hloop)
    rw [List.mem_append, List.mem_append, List.mem_append] at hmem
    obtain ((hmem | hmem) | hmem) | hmem := hmem
    · exact hinner (ofStmts_ok _ hbody _ hmem)
    · exact hinner (ofStmts_ok _ hhandlers _ hmem)
    · exact ih hfunction hloop (ofStmts_ok _ hotherwise _ hmem)
    · exact ih hfunction hloop (ofStmts_ok _ hfinal _ hmem)
  | handler hmem _ ih =>
    intro hok
    rw [ofStmt] at hok
    obtain ⟨_, -, hbody⟩ := bind_ok.1 hok
    exact ih hfunction hloop (ofStmts_ok _ hbody _ hmem)
  | withBlock hmem _ ih =>
    intro hok
    rw [ofStmt] at hok
    obtain ⟨_, -, hok⟩ := bind_ok.1 hok
    obtain ⟨inner, henter, hbody⟩ := bind_ok.1 hok
    obtain ⟨hf, hl⟩ := enter_ok henter
    exact ih (hf.trans hfunction) ((hl.trans (Bool.or_false _)).trans hloop) (ofStmts_ok _ hbody _ hmem)
  | function hmem _ ih =>
    intro hok
    rw [ofStmt] at hok
    obtain ⟨_, -, hok⟩ := bind_ok.1 hok
    obtain ⟨_, -, hok⟩ := bind_ok.1 hok
    obtain ⟨_, -, hok⟩ := bind_ok.1 hok
    obtain ⟨_, -, hbody⟩ := bind_ok.1 hok
    exact ih rfl rfl (ofStmts_ok _ hbody _ hmem)
  | classDef hmem _ ih =>
    intro hok
    rw [ofStmt] at hok
    obtain ⟨_, -, hok⟩ := bind_ok.1 hok
    obtain ⟨_, hbody, -⟩ := bind_ok.1 hok
    exact ih rfl rfl (ofStmts_ok _ hbody _ hmem)

end Placement

/-- **Something is out of place in a script that holds a stray statement.** -/
theorem exists_misplacement {script : List Stmt} {s : Stmt} (hmem : s ∈ script) (hs : Stray true false s) :
    ∃ m, misplacement? script = some m := by
  have hcheck : ∃ m, Placement.check script = some m := by
    cases hall : Placement.ofStmts {} script with
    | error m => exact ⟨m, by rw [Placement.check, hall]⟩
    | ok u => exact absurd (Placement.ofStmts_ok script hall s hmem) (Placement.not_ok_of_stray hs rfl rfl)
  rw [misplacement?]
  cases Scope.check script with
  | none => exact hcheck
  | some m => exact ⟨m, rfl⟩

/-! ## Verdicts -/

/-- What becomes of a text, by which of the judges refuses it. -/
inductive Verdict (source : String) : Except Refusal (List Stmt) → Prop
  | null : '\x00' ∈ source.toList → Verdict source (.error .nullCharacter)
  | unreadable {f : Fault} : '\x00' ∉ source.toList → read (Text.dedent source.toList) = .error f →
      Verdict source (.error (.unreadable f))
  | offences {script : List Stmt} : '\x00' ∉ source.toList → read (Text.dedent source.toList) = .ok script →
      Policy.violations script ≠ [] → Verdict source (.error (.offences (Policy.violations script)))
  | misplaced {script : List Stmt} {m : Misplacement} : '\x00' ∉ source.toList →
      read (Text.dedent source.toList) = .ok script → Policy.violations script = [] →
      misplacement? script = some m → Verdict source (.error (.misplaced m))
  | accepted {script : List Stmt} : '\x00' ∉ source.toList → read (Text.dedent source.toList) = .ok script →
      Policy.violations script = [] → misplacement? script = none → Verdict source (.ok script)

/-- **What becomes of a text is one of the five**, and the judges are heard in this order. -/
theorem verdict (source : String) : Verdict source (compile source) := by
  by_cases hnull : '\x00' ∈ source.toList
  case pos =>
    have hcompile : compile source = .error .nullCharacter := by
      rw [compile, if_pos (List.contains_iff_mem.2 hnull)]
      rfl
    rw [hcompile]
    exact .null hnull
  case neg =>
    rw [compile, if_neg fun h => hnull (List.contains_iff_mem.1 h)]
    cases hread : read (Text.dedent source.toList) with
    | error f => exact .unreadable hnull hread
    | ok script =>
      dsimp only
      rw [pure_bind]
      split
      case h_1 hviolations =>
        cases hmisplacement : misplacement? script with
        | some m => exact .misplaced hnull hread hviolations hmisplacement
        | none => exact .accepted hnull hread hviolations hmisplacement
      case h_2 hviolations => exact .offences hnull hread hviolations

/-- Nothing is wrong with the text but what the reader or the policy finds. -/
def Reportable (source : String) : Prop :=
  '\x00' ∉ source.toList ∧ ∀ script, read (Text.dedent source.toList) = .ok script →
    Policy.violations script = [] → misplacement? script = none

/-- The class of the error that tells of a refusal. -/
def Refusal.cls : Refusal → String
  | .nullCharacter => "ValueError"
  | .misplaced _ => "SyntaxError"
  | .unreadable _ | .offences _ => Classes.scriptCompilationError

/-- What is out of place is not told of by a report. -/
theorem Refusal.cls_misplaced_ne (m : Misplacement) : (Refusal.misplaced m).cls ≠ Classes.scriptCompilationError := by
  change "SyntaxError" ≠ Classes.scriptCompilationError
  decide

variable {source : String}

theorem reportable_of_ok {script : List Stmt} (h : compile source = .ok script) : Reportable source := by
  have hv := verdict source
  rw [h] at hv
  cases hv with
  | accepted hnull hread _ hnone =>
    refine ⟨hnull, fun other hother _ => ?_⟩
    cases hread.symm.trans hother
    exact hnone

/-- A text that is refused is reportable if it is refused with a report. -/
theorem reportable_iff_of_error {refusal : Refusal} (h : compile source = .error refusal) :
    Reportable source ↔ refusal.cls = Classes.scriptCompilationError := by
  have hv := verdict source
  rw [h] at hv
  cases hv with
  | null hnull => exact iff_of_false (fun hr => hr.1 hnull) (by decide)
  | unreadable hnull hread =>
    refine iff_of_true ⟨hnull, fun script hscript _ => ?_⟩ rfl
    cases hread.symm.trans hscript
  | offences hnull hread hviolations =>
    refine iff_of_true ⟨hnull, fun script hscript hnone => ?_⟩ rfl
    cases hread.symm.trans hscript
    exact absurd hnone hviolations
  | misplaced _ hread hviolations hsome =>
    refine iff_of_false (fun hr => ?_) (Refusal.cls_misplaced_ne _)
    cases (hr.2 _ hread hviolations).symm.trans hsome

/-- A report has something in it. -/
theorem errors_ne_nil {refusal : Refusal} (h : compile source = .error refusal)
    (hcls : refusal.cls = Classes.scriptCompilationError) : refusal.errors ≠ [] := by
  have hv := verdict source
  rw [h] at hv
  cases hv with
  | null => exact absurd hcls (by decide)
  | unreadable => exact List.cons_ne_nil _ _
  | offences _ _ hviolations => exact fun hnil => hviolations (List.map_eq_nil_iff.1 hnil)
  | misplaced => exact absurd hcls (Refusal.cls_misplaced_ne _)

/-- A stray statement is what neither the reader nor the policy finds. -/
theorem not_reportable_of_stray {script : List Stmt} {s : Stmt} (hread : read (Text.dedent source.toList) = .ok script)
    (hviolations : Policy.violations script = []) (hmem : s ∈ script) (hs : Stray true false s) :
    ¬ Reportable source := by
  intro hr
  obtain ⟨m, hm⟩ := exists_misplacement hmem hs
  cases (hr.2 script hread hviolations).symm.trans hm

end Script

/-! ## Reports -/

namespace World

/-- The error is the report that a script must not run: it tells of the step and all errors, and has them in a
list of its own. -/
def IsReport (w : World) (step : String) (errors : List String) (error : Addr) : Prop :=
  ∃ list, w.store[list]? = some (.list (errors.map Value.str).toArray) ∧
    w.store[error]? = some (.error (.cls Classes.scriptCompilationError)
      [.str ("Invalid script in step '" ++ step ++ "': " ++ Text.joinWith "; " errors)] [("errors", .ref list)])

/-- The error tells of the refusal: with a report what the reader or the policy finds, and with an error of
another class the rest. -/
def Tells (w : World) (step : String) (error : Addr) : Script.Refusal → Prop
  | .nullCharacter =>
    w.store[error]? = some (.error (.cls "ValueError") [.str "source code string cannot contain null bytes"] [])
  | .misplaced m => ∃ fields, w.store[error]? = some (.error (.cls "SyntaxError") [.str m.message] fields)
  | refusal => w.IsReport step refusal.errors error

variable {w : World} {step : String} {error : Addr}

theorem IsReport.errorClass {errors : List String} (h : w.IsReport step errors error) :
    w.errorClass? error = some Classes.scriptCompilationError := by
  obtain ⟨list, -, herror⟩ := h
  exact errorClass?_of_get herror

theorem Tells.errorClass {refusal : Script.Refusal} (h : w.Tells step error refusal) :
    w.errorClass? error = some refusal.cls := by
  cases refusal with
  | nullCharacter => exact errorClass?_of_get h
  | misplaced m =>
    obtain ⟨fields, herror⟩ := h
    exact errorClass?_of_get herror
  | unreadable f => exact IsReport.errorClass h
  | offences vs => exact IsReport.errorClass h

/-- What tells of a refusal with an error of the class of reports is a report. -/
theorem Tells.isReport {refusal : Script.Refusal} (h : w.Tells step error refusal)
    (hcls : refusal.cls = Classes.scriptCompilationError) : w.IsReport step refusal.errors error := by
  cases refusal with
  | nullCharacter => exact absurd hcls (by decide)
  | misplaced m => exact absurd hcls (Script.Refusal.cls_misplaced_ne m)
  | unreadable f => exact h
  | offences vs => exact h

end World

namespace ScriptEngine

open Script (Refusal Reportable Stray)

variable {source step : String} {w : World}

/-- What has a script is compiled to it, and nothing happens. -/
theorem compile_act_ok {script : List Script.Stmt} (h : Script.compile source = .ok script) :
    (compile source step).act w = .ok script w := by
  rw [compile, h]
  rfl

/-- A new list and the report that has it. -/
theorem report_act (step : String) (errors : List String) (w : World) :
    ∃ error w', ((Run.list (errors.map Value.str) >>= fun list => Run.raiseWith Classes.scriptCompilationError
        [.str ("Invalid script in step '" ++ step ++ "': " ++ Text.joinWith "; " errors)]
        [("errors", list)] : Run (List Script.Stmt))).act w = .error (.raised error) w' ∧
      w'.IsReport step errors error := by
  let list : Obj := .list (errors.map Value.str).toArray
  have hlist : (w.store.push list)[w.store.size]? = some list := Array.getElem?_push_size
  refine ⟨_, _, rfl, w.store.size, ?_, Array.getElem?_push_size⟩
  have hne : w.store.size ≠ (w.store.push list).size := by
    rw [Array.size_push]
    exact Nat.ne_of_lt (Nat.lt_succ_self _)
  exact (Array.getElem?_push ..).trans ((if_neg hne).trans hlist)

/-- **A refusal is told of by an error.** -/
theorem compile_act_error {refusal : Refusal} (h : Script.compile source = .error refusal) (step : String) (w : World) :
    ∃ error w', (compile source step).act w = .error (.raised error) w' ∧ w'.Tells step error refusal := by
  rw [compile, h]
  cases refusal with
  | nullCharacter => exact ⟨_, _, rfl, Array.getElem?_push_size⟩
  | misplaced m => exact ⟨_, _, rfl, _, Array.getElem?_push_size⟩
  | unreadable f => exact report_act step _ _
  | offences vs => exact report_act step _ _

/-- What is out of place in a text that is refused for that. -/
def misplaced? (source : String) : Option Script.Misplacement :=
  match Script.compile source with
  | .error (.misplaced m) => some m
  | _ => none

end ScriptEngine
end Stepwise
