import Stepwise.Engine.ScriptEngine
import Stepwise.Proofs.Stepping
/-!
# Scripts as functions

The statements of a step are the body of a function, with a scope of its own inside the scope of the whole script.
`World.entering` is the world in which they begin, and `ScriptEngine.start_act` says that the step ends as they do.
A name that none of them gives a value to means the same for all scripts (`lookup_entering`): it is one of the names
that were given, or one that every script knows, or the function itself.
-/

namespace Stepwise

namespace Script

/-! ## The scopes of a script -/

/-- The function that the body of a script is. -/
def mainClosure (top : Addr) (body : List Stmt) : Closure :=
  { id := "run_step", path := "run_step", sig := {}, defaults := [], keywordDefaults := [], body := .block body,
    scope := top, bound := Scope.bound body, globals := Scope.globalsInAll body, yields := Scope.yieldsIn body,
    prints := Scope.printsIn body }

/-- The scope of a whole script: the names that it was given, and its function. -/
def topScope (given : List (String × Value)) (self : Addr) : Scope :=
  { kind := .module, path := "", bound := [], globals := [], vars := put "run_step" (.ref self) given, parent := none,
    printer := none }

/-- The scope of a call of the function. -/
def callScope (top : Addr) (body : List Stmt) (printer : Option Addr) : Scope :=
  { kind := .function, path := "run_step", bound := Scope.bound body, globals := Scope.globalsInAll body, vars := [],
    parent := some top, printer }

end Script

namespace World

open Script

/-- The world with the function of a script. -/
def defining (w : World) (body : List Stmt) (given : List (String × Value)) : World :=
  let top : Obj := .scope (topScope given (w.store.size + 1))
  { w with store := (w.store.push top).push (.function (mainClosure w.store.size body)) }

/-- The store with a call of the function, which collects what it prints, if it prints anything. -/
def calling (store : Array Obj) (top : Addr) (body : List Stmt) : Array Obj :=
  if Scope.printsIn body then (store.push (.printer [])).push (.scope (callScope top body (some store.size)))
  else store.push (.scope (callScope top body none))

/-- The world in which the statements of a script begin. -/
def entering (w : World) (body : List Stmt) (given : List (String × Value)) : World :=
  let defined := w.defining body given
  { defined with store := calling defined.store w.store.size body, depth := w.depth + 1 }

/-- The scope in which they do. -/
def scopeOf (w : World) (body : List Stmt) : Addr :=
  if Scope.printsIn body then w.store.size + 3 else w.store.size + 2

variable (w : World) (body : List Stmt) (given : List (String × Value))

theorem size_defining : (w.defining body given).store.size = w.store.size + 2 := by
  rw [defining, Array.size_push, Array.size_push]

theorem defining_old {b : Nat} (hb : b < w.store.size) : (w.defining body given).store[b]? = w.store[b]? := by
  rw [defining, Array.getElem?_push, if_neg (by rw [Array.size_push]; omega), Array.getElem?_push, if_neg (by omega)]

theorem defining_top :
    (w.defining body given).store[w.store.size]? = some (.scope (topScope given (w.store.size + 1))) := by
  rw [defining, Array.getElem?_push, if_neg (by rw [Array.size_push]; omega), Array.getElem?_push_size]

theorem defining_function :
    (w.defining body given).store[w.store.size + 1]? = some (.function (mainClosure w.store.size body)) := by
  rw [defining, Array.getElem?_push, if_pos (Array.size_push _).symm]

theorem entering_defined {b : Nat} (hb : b < w.store.size + 2) :
    (w.entering body given).store[b]? = (w.defining body given).store[b]? := by
  have hsize := w.size_defining body given
  rw [entering, calling]
  dsimp only
  split
  · rw [Array.getElem?_push, if_neg (by rw [Array.size_push, hsize]; omega), Array.getElem?_push,
      if_neg (by rw [hsize]; omega)]
  · rw [Array.getElem?_push, if_neg (by rw [hsize]; omega)]

theorem entering_scope : ∃ printer,
    (w.entering body given).store[w.scopeOf body]? = some (.scope (callScope w.store.size body printer)) := by
  have hsize := w.size_defining body given
  rw [entering, calling, scopeOf]
  dsimp only
  split
  · refine ⟨some (w.defining body given).store.size, ?_⟩
    rw [Array.getElem?_push, if_pos (by rw [Array.size_push, hsize])]
  · refine ⟨none, ?_⟩
    rw [Array.getElem?_push, if_pos hsize.symm]

end World

namespace Script

variable {body : List Stmt} {given : List (String × Value)} {w : World} {t : Thread} {id : String}

/-! ## The meaning of names -/

theorem load_actIn {a : Addr} {o : Obj} (h : w.store[a]? = some o) : (Run.load a).actIn t w = .ok o w :=
  Run.load_act h

/-- A walk through scopes ends where its step has an answer. -/
theorem outwards_here {α : Type} {σ : Addr} {s : Scope} {step : Addr → Scope → Run (Addr ⊕ α)} {r : Ending α}
    (hs : w.store[σ]? = some (.scope s))
    (hstep : (step σ s).actIn t w = match r with
      | .ok a w' => .ok (.inr a) w'
      | .error e w' => .error e w') :
    (outwards σ step).actIn t w = r := by
  have hpatience : Run.patience = 999999999 + 1 := rfl
  rw [outwards, hpatience, Run.iterate_actIn, Run.bind_actIn, load_actIn hs]
  dsimp only
  rw [hstep]
  cases r <;> rfl

theorem lookup_put (id k : String) (v : Value) (vars : List (String × Value)) :
    (put k v vars).lookup id = if id = k then some v else vars.lookup id := by
  have hcons (k : String) (v : Value) (rest : List (String × Value)) :
      ((k, v) :: rest).lookup id = if id = k then some v else rest.lookup id := by
    rw [List.lookup_cons]
    by_cases h : id = k
    · rw [if_pos h, beq_iff_eq.2 h]
    · rw [if_neg h, beq_false_of_ne h]
  induction vars with
  | nil => exact hcons k v []
  | cons x vars ih =>
    obtain ⟨k', v'⟩ := x
    rw [put]
    split
    case isTrue hk => rw [hcons, hcons, hk]; split <;> rfl
    case isFalse hk =>
      rw [hcons, hcons, ih]
      by_cases h : id = k'
      · rw [if_pos h, if_neg fun hself => hk (h.symm.trans hself), if_pos h]
      · rw [if_neg h, if_neg h]

/-- What a name means that the statements of a script give no value to. -/
def freeName (given : List (String × Value)) (self : Addr) (id : String) : Run Value :=
  if id = "run_step" then return .ref self
  else match (given.lookup id).orElse fun _ => known? id with
    | some v => return v
    | none => notDefined id

theorem fromOutermost_entering (w : World) (body : List Stmt) (given : List (String × Value)) (t : Thread)
    (id : String) :
    (fromOutermost w.store.size id).actIn t (w.entering body given) =
      (freeName given (w.store.size + 1) id).actIn t (w.entering body given) := by
  have htop : (w.entering body given).store[w.store.size]? = some (.scope (topScope given (w.store.size + 1))) :=
    (w.entering_defined body given (by omega)).trans (w.defining_top body given)
  have houter : (outermost w.store.size).actIn t (w.entering body given) = .ok w.store.size (w.entering body given) :=
    outwards_here htop rfl
  rw [fromOutermost, Run.bind_actIn, houter]
  dsimp only
  rw [Run.bind_actIn, load_actIn htop]
  dsimp only [topScope]
  rw [lookup_put]
  by_cases hself : id = "run_step"
  · rw [if_pos hself]
    exact congrArg (Run.actIn · t _) (if_pos hself).symm
  · rw [if_neg hself]
    exact congrArg (Run.actIn · t _) (if_neg hself).symm

/-- **A name that a script does not bind means what it means for all scripts**, unless it is the name of the function
that the script is. -/
theorem lookup_entering (hbound : id ∉ Scope.bound body) (hglobals : id ∉ Scope.globalsInAll body) :
    (lookup (w.scopeOf body) id).actIn t (w.entering body given) =
      (freeName given (w.store.size + 1) id).actIn t (w.entering body given) := by
  have htop : (w.entering body given).store[w.store.size]? = some (.scope (topScope given (w.store.size + 1))) :=
    (w.entering_defined body given (by omega)).trans (w.defining_top body given)
  have haround : (fromAround (some w.store.size) id).actIn t (w.entering body given) =
      (freeName given (w.store.size + 1) id).actIn t (w.entering body given) := by
    refine outwards_here htop ?_
    have hfurther : (fromOutermost w.store.size id >>= fun v => (pure (.inr v) : Run (Addr ⊕ Value))).actIn t
        (w.entering body given) = _ := Run.bind_actIn ..
    rw [fromOutermost_entering] at hfurther
    exact hfurther
  obtain ⟨printer, hscope⟩ := w.entering_scope body given
  rw [lookup, Run.bind_actIn, load_actIn hscope]
  dsimp only [callScope]
  rw [if_neg (by simpa using hglobals), if_neg (by simpa using hbound)]
  exact haround

/-! ## Calls -/

/-- What runs as one more function leaves the count of those as it was. -/
def settled {α : Type} (depth : Nat) : Ending α → Ending α
  | .ok a w => .ok a { w with depth }
  | .error (.raised e) w => .error (.raised e) { w with depth }
  | .error .exhausted w => .error .exhausted w

/-- How a call ends whose statements end so. -/
def returned (depth : Nat) (x : Ending Signal) : Ending Value :=
  match settled depth x with
  | .ok (.finished v) w => .ok v w
  | .ok (.yielded ..) w => .ok .null w
  | .error f w => .error f w

theorem nested_actIn {α : Type} (x : Run α) (t : Thread) (hdepth : w.depth < depthLimit) :
    (nested x).actIn t w = settled w.depth (x.actIn t { w with depth := w.depth + 1 }) := by
  have hdeeper : deeper.actIn t w = .ok () { w with depth := w.depth + 1 } := by
    rw [deeper, Run.bind_actIn, show Run.world.actIn t w = .ok w w from rfl]
    dsimp only
    rw [if_neg (Nat.not_le.2 hdepth)]
    rfl
  rw [nested, Run.bind_actIn, show Run.world.actIn t w = .ok w w from rfl]
  dsimp only
  rw [Run.bind_actIn, hdeeper]
  dsimp only
  rw [Run.bind_actIn, Run.outcome_actIn]
  rcases x.actIn t { w with depth := w.depth + 1 } with ⟨r, left⟩ | ⟨e | _, left⟩ <;> rfl

theorem modify_pushed (store : Array Obj) (f : Obj → Obj) (o p : Obj) :
    ((store.push o).push p).modify store.size f = (store.push (f o)).push p := by
  refine Array.ext_getElem? fun b => ?_
  rw [Array.getElem?_modify, Array.getElem?_push, Array.getElem?_push, Array.getElem?_push, Array.getElem?_push,
    Array.size_push, Array.size_push]
  by_cases hself : store.size = b
  · rw [if_pos hself, if_neg (by omega), if_pos hself.symm, if_neg (by omega), if_pos hself.symm]
    rfl
  · rw [if_neg hself, if_neg (Ne.symm hself), if_neg (Ne.symm hself)]

theorem mainFunction_act (w : World) (body : List Stmt) (given : List (String × Value)) :
    (mainFunction body given).act w =
      .ok (w.store.size + 1, mainClosure w.store.size body) (w.defining body given) := by
  -- the scope has the given names alone until the function is there, which gets its name last
  let top (vars : List (String × Value)) : Obj :=
    .scope { kind := .module, path := "", bound := [], globals := [], vars, parent := none, printer := none }
  let closure : Obj := .function (mainClosure w.store.size body)
  let made : World := { w with store := (w.store.push (top given)).push closure }
  have hsize : (w.store.push (top given)).size = w.store.size + 1 := Array.size_push _
  have htop : made.store[w.store.size]? = some (top given) := by
    change ((w.store.push (top given)).push closure)[w.store.size]? = _
    rw [Array.getElem?_push, if_neg (by rw [hsize]; omega), Array.getElem?_push_size]
  have howner : (ownerOf w.store.size "run_step").act made = .ok w.store.size made := outwards_here htop rfl
  have hbind : (bind w.store.size "run_step" (.ref (w.store.size + 1))).act made = .ok () (w.defining body given) := by
    rw [bind, Run.bind_act, howner]
    change EStateM.Result.ok () { made with store := made.store.modify w.store.size (Obj.changedBy (withVars _)) } = _
    rw [modify_pushed]
    rfl
  have hact : (mainFunction body given).act w =
      (bind w.store.size "run_step" (.ref (w.store.push (top given)).size) >>= fun _ =>
        pure ((w.store.push (top given)).size, mainClosure w.store.size body)).act made := rfl
  rw [hact, hsize, Run.bind_act, hbind]
  rfl

theorem openScope_main (t : Thread) (w : World) (body : List Stmt) (given : List (String × Value)) :
    (openScope (mainClosure w.store.size body) ⟨[], []⟩).actIn t (w.defining body given) =
      .ok (w.scopeOf body) { w.entering body given with depth := w.depth } := by
  have hassign : (Signature.assign (mainClosure w.store.size body).sig (mainClosure w.store.size body).path
      (mainClosure w.store.size body).defaults (mainClosure w.store.size body).keywordDefaults ⟨[], []⟩).actIn t
        (w.defining body given) = .ok [] (w.defining body given) := rfl
  have hscope : w.scopeOf body = if Scope.printsIn body then ((w.defining body given).store.push (.printer [])).size
      else (w.defining body given).store.size := by
    rw [Array.size_push, w.size_defining body given]
    rfl
  rw [openScope, Run.bind_actIn, hassign]
  dsimp only
  rw [show (mainClosure w.store.size body).prints = Scope.printsIn body from rfl, hscope, World.entering, World.calling]
  dsimp only
  cases Scope.printsIn body <;> rfl

/-- The call of a script is the run of its statements. -/
theorem callMain_actIn (m : Machine) (t : Thread) (given : List (String × Value))
    (hyields : Scope.yieldsIn body = false) (hdepth : w.depth < depthLimit) :
    (callFunction m (mainClosure w.store.size body) ⟨[], []⟩).actIn t (w.defining body given) =
      returned w.depth ((run m ⟨.exec body, [], w.scopeOf body⟩).actIn t (w.entering body given)) := by
  let called : World := { w.entering body given with depth := w.depth }
  have hplain : (mainClosure w.store.size body).yields = false := hyields
  have hnested : (nested (run m ⟨bodyOf (mainClosure w.store.size body).body, [], w.scopeOf body⟩)).actIn t called =
      settled w.depth ((run m ⟨.exec body, [], w.scopeOf body⟩).actIn t (w.entering body given)) :=
    nested_actIn _ t hdepth
  rw [callFunction, Run.bind_actIn, openScope_main]
  dsimp only
  rw [hplain, if_neg Bool.false_ne_true, Run.bind_actIn, hnested, returned]
  rcases settled w.depth ((run m ⟨.exec body, [], w.scopeOf body⟩).actIn t (w.entering body given)) with
    ⟨v | ⟨v, r⟩, left⟩ | ⟨f, left⟩ <;> rfl

end Script

namespace ScriptEngine

open Script

/-- The names that every step is given. -/
def givenTo (context : Value) : List (String × Value) := [("context", context), ("run_async", .fn "run_async")]

/-- The thread in which the statements of a step run. -/
def threadOf (inThread : Bool) : Thread := if inThread then .own else .common

/-- **A step ends as its statements do**, in the world in which they begin. -/
theorem start_act (host : Host) (n : Nat) (inThread : Bool) {source : String} {body : List Stmt} {w : World}
    (context : Value) (step : String) (hsource : Script.compile source = .ok body)
    (hyields : Scope.yieldsIn body = false) (hdepth : w.depth < depthLimit) :
    (start (Machine.at host (n + 1)) inThread source context step).act w =
      Run.Ending.outcome (returned w.depth ((run (Machine.at host n) ⟨.exec body, [], w.scopeOf body⟩).actIn
        (threadOf inThread) (w.entering body (givenTo context)))) := by
  have hcompiled : (compile source step).act w = .ok body w := by
    rw [compile, hsource]
    rfl
  have hstatements (t : Thread) :
      ((Machine.at host (n + 1)).apply (.ref (w.store.size + 1)) []).actIn t (w.defining body (givenTo context)) =
        returned w.depth ((run (Machine.at host n) ⟨.exec body, [], w.scopeOf body⟩).actIn t
          (w.entering body (givenTo context))) := by
    change (callValue (Machine.at host n) host (.ref (w.store.size + 1)) ⟨[], []⟩).actIn t
      (w.defining body (givenTo context)) = _
    rw [callValue, Run.bind_actIn, load_actIn (w.defining_function body _)]
    exact callMain_actIn _ t _ hyields hdepth
  rw [start, Run.bind_act, hcompiled]
  dsimp only
  rw [Run.bind_act, ← givenTo, mainFunction_act]
  dsimp only
  rw [← hstatements]
  cases inThread <;> rfl

end ScriptEngine

end Stepwise
