import Stepwise.Proofs.Isolation
import Stepwise.Proofs.Stepping
import Stepwise.Proofs.Threads
/-!
# Augmented assignments

An assignment such as `x += y` puts what its operator gives back into the name. For a value that cannot be changed
in place that is what the operator gives between two operands (`operateInPlace_act`, `operate_akin`), so that
`x += y` and `x = x + y` end akin: with the same, or with errors of one class. What parts them is how the augmented
one reports its failures (`augmented_agrees_iff`): an operator is looked up by its sign, and a `KeyError` that the
operator itself raises is taken for one of that search.
-/

namespace Stepwise

/-! ## Ways to end akin -/

/-- Two runs end akin: with the same, or with errors of one class. -/
inductive Ending.Akin {α : Type} : Ending α → Ending α → Prop
  | same (x : Ending α) : Akin x x
  | raised {e e' : Addr} {w w' : World} {cls : String} : w.errorClass? e = some cls → w'.errorClass? e' = some cls →
      Akin (.error (.raised e) w) (.error (.raised e') w')

namespace Run

variable {α β : Type}

/-- Two runs end akin from wherever they begin. -/
def Akin (x y : Run α) : Prop := ∀ w, (x.act w).Akin (y.act w)

theorem Akin.refl (x : Run α) : x.Akin x := fun w => .same (x.act w)

/-- Akin beginnings that go on akin end akin. -/
theorem bind_akin {x y : Run α} {f g : α → Run β} {w : World} (h : (x.act w).Akin (y.act w))
    (hrest : ∀ a, (f a).Akin (g a)) : ((x >>= f).act w).Akin ((y >>= g).act w) := by
  rw [bind_act, bind_act]
  generalize x.act w = a at h
  generalize y.act w = b at h
  cases h with
  | same =>
    cases a with
    | ok a w' => exact hrest a w'
    | error f w' => exact .same _
  | raised hx hy => exact .raised hx hy

theorem Akin.bind {x y : Run α} {f g : α → Run β} (h : x.Akin y) (hrest : ∀ a, (f a).Akin (g a)) :
    (x >>= f).Akin (y >>= g) := fun w => bind_akin (h w) hrest

theorem akin_typeError (s t : String) : (typeError s : Run α).Akin (typeError t) := by
  intro w
  obtain ⟨e, left, hs, hcls⟩ := @raiseWith_act α "TypeError" [.str s] [] w
  obtain ⟨e', left', ht, hcls'⟩ := @raiseWith_act α "TypeError" [.str t] [] w
  have hs' : (typeError s : Run α).act w = .error (.raised e) left := hs
  have ht' : (typeError t : Run α).act w = .error (.raised e') left' := ht
  rw [hs', ht']
  exact .raised hcls hcls'

end Run

/-! ## Operators in place -/

theorem unsupported_akin (op : BinaryOp) (a b : Value) :
    (unsupported op true a b).Akin (unsupported op false a b) := by
  -- whatever is asked on the way, the end is a `TypeError`; only its text knows of the place
  have hend (s t : String) : (Run.typeError s : Run Value).Akin (Run.typeError t) := Run.akin_typeError s t
  have hlate {α : Type} (x : Run α) {y z : α → Run Value} (h : ∀ r, (y r).Akin (z r)) : (x >>= y).Akin (x >>= z) :=
    (Run.Akin.refl x).bind h
  have hearly (c : Bool) (x : Run Unit) (s t : String) :
      (if c = true then (do x; Run.typeError s) else Run.typeError s : Run Value).Akin
        (if c = true then (do x; Run.typeError t) else Run.typeError t) := by
    cases c
    · exact hend s t
    · exact hlate x fun _ => hend s t
  refine hlate _ fun ka => hlate _ fun kb => ?_
  cases op with
  | add =>
    cases a with
    | str _ => exact hearly _ _ _ _
    | bytes _ => exact hlate _ fun _ => hend _ _
    | ref i =>
      refine hlate _ fun o => ?_
      cases o with
      | list _ | tuple _ _ | deque _ _ => exact hlate _ fun _ => hend _ _
      | _ => exact hend _ _
    | _ => exact hend _ _
  | mul =>
    refine hlate _ fun first => ?_
    cases first
    · exact hlate _ fun second => hearly second _ _ _
    · exact hlate _ fun _ => hlate _ fun second => hearly second _ _ _
  | _ => exact hend _ _

theorem firstOf_akin (ways : List (Run (Option Value))) {x y : Run Value} (h : x.Akin y) :
    (firstOf ways x).Akin (firstOf ways y) := by
  induction ways with
  | nil => exact h
  | cons way ways ih =>
    refine (Run.Akin.refl way).bind fun found => ?_
    cases found with
    | none => exact ih
    | some v => exact .refl _

/-- An operator that is told that it works in place does what it does otherwise. -/
theorem operate_akin (op : BinaryOp) (a b : Value) : (operate op a b true).Akin (operate op a b) := by
  unfold operate
  refine (Run.Akin.refl _).bind fun ka => (Run.Akin.refl _).bind fun kb => ?_
  dsimp only
  split <;> exact firstOf_akin _ (unsupported_akin op a b)

/-- The value cannot be changed in place: it is small, or a fixed object. -/
def World.IsImmutable (w : World) (v : Value) : Prop :=
  ∀ i, v = .ref i → ∃ o, w.store[i]? = some o ∧ o.isFixed = true

theorem operateInPlace_act {m : Machine} {op : BinaryOp} {v u : Value} {w : World} (h : w.IsImmutable v) :
    (operateInPlace m op v u).act w = (operate op v u true).act w := by
  cases v with
  | ref i =>
    obtain ⟨o, ho, hfixed⟩ := h i rfl
    rw [operateInPlace, Run.bind_act, Run.load_act ho]
    dsimp only
    split
    all_goals first | exact absurd hfixed Bool.false_ne_true | rfl
  | _ => rfl

/-! ## What is taken for an unknown operator -/

namespace World

/-- The error is a `KeyError`, or of a class below it. -/
def IsKeyError (w : World) (error : Addr) : Prop :=
  ((Run.errorClass error >>= fun c => Value.isSubclass c (.cls "KeyError")).act w).result? = some true

instance (w : World) (error : Addr) : Decidable (w.IsKeyError error) := inferInstanceAs (Decidable (_ = _))

/-- Whether it is can be seen without touching anything. -/
theorem isKeyError_act (w : World) (error : Addr) :
    (Run.errorClass error >>= fun c => Value.isSubclass c (.cls "KeyError")).act w =
      .ok (decide (w.IsKeyError error)) w := by
  obtain ⟨b, hb⟩ := ((Run.reads_errorClass error).bind fun c => (Value.inspects_isSubclass c _).reads) w
  have hiff : w.IsKeyError error ↔ b = true := by
    rw [IsKeyError, hb]
    exact Option.some.injEq b true ▸ Iff.rfl
  rw [hb]
  cases b with
  | true => rw [decide_eq_true (hiff.2 rfl)]
  | false => rw [decide_eq_false fun h => nomatch hiff.1 h]

theorem isKeyError_iff {w : World} {error : Addr} {cls : String} (h : w.errorClass? error = some cls) :
    w.IsKeyError error ↔ (cls == "KeyError" || Classes.isBelow cls "KeyError") = true := by
  have hact : (Run.errorClass error).act w = .ok (.cls cls) w := by
    rw [errorClass?] at h
    split at h
    case h_1 hget =>
      cases h
      rw [Run.errorClass, Run.bind_act, Run.load_act hget]
      rfl
    case h_2 => cases h
  rw [IsKeyError, Run.bind_act, hact]
  exact Option.some.injEq _ true ▸ Iff.rfl

/-- Errors of one class are both or neither. -/
theorem isKeyError_congr {w w' : World} {error error' : Addr} {cls : String} (h : w.errorClass? error = some cls)
    (h' : w'.errorClass? error' = some cls) : w.IsKeyError error ↔ w'.IsKeyError error' := by
  rw [isKeyError_iff h, isKeyError_iff h']

end World

namespace Script

variable {m : Machine} {op : BinaryOp} {v u : Value} {w w' : World} {σ : Addr} {e : Addr}

/-- The value that an augmented assignment gives to its name. -/
def augmented (m : Machine) (op : BinaryOp) (v u : Value) : Run Value :=
  Run.recover (operateInPlace m op v u) fun e => do
    if ← Value.isSubclass (← Run.errorClass e) (.cls "KeyError") then
      Run.raise "SyntaxError" ("Unsupported in-place operator: " ++ op.sign ++ "=")
    else Run.raiseObject e

theorem augmented_ok {r : Value} (h : (operateInPlace m op v u).act w = .ok r w') :
    (augmented m op v u).act w = .ok r w' := by
  rw [augmented, Run.recover, Run.bind_act, Run.outcome_act, h]
  rfl

theorem augmented_exhausted (h : (operateInPlace m op v u).act w = .error .exhausted w') :
    (augmented m op v u).act w = .error .exhausted w' := by
  rw [augmented, Run.recover, Run.bind_act, Run.outcome_act, h]
  rfl

theorem augmented_raised (h : (operateInPlace m op v u).act w = .error (.raised e) w') :
    (augmented m op v u).act w =
      if w'.IsKeyError e then
        .error (.raised w'.store.size)
          (w'.raising "SyntaxError" ("Unsupported in-place operator: " ++ op.sign ++ "="))
      else .error (.raised e) w' := by
  have hact : (augmented m op v u).act w =
      ((Run.errorClass e >>= fun c => Value.isSubclass c (.cls "KeyError")) >>= fun b =>
        if b = true then Run.raise "SyntaxError" ("Unsupported in-place operator: " ++ op.sign ++ "=")
        else Run.raiseObject e : Run Value).act w' := by
    rw [augmented, Run.recover, Run.bind_act, Run.outcome_act, h, bind_assoc]
    rfl
  rw [hact, Run.bind_act, World.isKeyError_act]
  by_cases hkey : w'.IsKeyError e
  · simp only [hkey, decide_true, if_true]
    rfl
  · simp only [hkey, decide_false, if_false]
    rfl

/-- A `KeyError` of the operator becomes a `SyntaxError`. -/
theorem augmented_of_keyError {left : World} (hv : w.IsImmutable v)
    (hplain : (operate op v u).act w = .error (.raised e) left) (hkey : left.IsKeyError e) :
    ∃ left' : World, (augmented m op v u).act w = .error (.raised left'.store.size)
      (left'.raising "SyntaxError" ("Unsupported in-place operator: " ++ op.sign ++ "=")) := by
  have hakin := operate_akin op v u w
  rw [← operateInPlace_act (m := m) hv, hplain] at hakin
  cases hplace : (operateInPlace m op v u).act w with
  | ok r w' =>
    rw [hplace] at hakin
    cases hakin
  | error f w' =>
    rw [hplace] at hakin
    cases hakin with
    | same => exact ⟨left, (augmented_raised hplace).trans (if_pos hkey)⟩
    | raised hclass' hclass =>
      exact ⟨w', (augmented_raised hplace).trans (if_pos ((World.isKeyError_congr hclass hclass').1 hkey))⟩

/-- Whatever else the operator does, the augmented assignment does as well. -/
theorem augmented_of_no_keyError (hv : w.IsImmutable v)
    (hno : ∀ e left, (operate op v u).act w = .error (.raised e) left → ¬ left.IsKeyError e) :
    ((augmented m op v u).act w).Akin ((operate op v u).act w) := by
  have hakin := operate_akin op v u w
  rw [← operateInPlace_act (m := m) hv] at hakin
  generalize (operate op v u).act w = plain at hakin hno
  cases hplace : (operateInPlace m op v u).act w with
  | ok r w' =>
    rw [hplace] at hakin
    cases hakin
    rw [augmented_ok hplace]
    exact .same _
  | error f w' =>
    rw [hplace] at hakin
    cases hakin with
    | same =>
      cases f with
      | exhausted =>
        rw [augmented_exhausted hplace]
        exact .same _
      | raised e =>
        rw [augmented_raised hplace, if_neg (hno e w' rfl)]
        exact .same _
    | raised hclass' hclass =>
      have hnot := mt (World.isKeyError_congr hclass hclass').2 (hno _ _ rfl)
      rw [augmented_raised hplace, if_neg hnot]
      exact .raised hclass' hclass

/-- A `SyntaxError` is no end akin to a `KeyError`. -/
theorem not_akin_of_keyError {α : Type} {left left' : World} {message : String} (hkey : left.IsKeyError e) :
    ¬ Ending.Akin (.error (.raised left'.store.size) (left'.raising "SyntaxError" message) : Ending α)
      (.error (.raised e) left) := by
  have hmisread : (left'.raising "SyntaxError" message).errorClass? left'.store.size = some "SyntaxError" :=
    World.errorClass?_of_get Array.getElem?_push_size
  have hnot {w : World} {e : Addr} (h : w.errorClass? e = some "SyntaxError") : ¬ w.IsKeyError e := by
    rw [World.isKeyError_iff h]
    decide
  intro hakin
  generalize hx : (.error (.raised left'.store.size) (left'.raising "SyntaxError" message) : Ending α) = x at hakin
  cases hakin with
  | same =>
    cases hx
    exact hnot hmisread hkey
  | raised hclass hclass' =>
    cases hx
    rw [hmisread] at hclass
    exact hnot (hclass'.trans hclass.symm) hkey

/-! ## The statements -/

/-- The text is `x op= y`, and nothing else. -/
def isAugment (op : BinaryOp) : Except Refusal (List Stmt) → Bool
  | .ok [.augment 1 (.name 1 "x") op' (.name 1 "y")] => op' = op
  | _ => false

theorem compile_augment (op : BinaryOp) :
    compile ("x " ++ op.sign ++ "= y") = .ok [.augment 1 (.name 1 "x") op (.name 1 "y")] := by
  have h : isAugment op (compile ("x " ++ op.sign ++ "= y")) = true := by cases op <;> decide +kernel
  generalize compile ("x " ++ op.sign ++ "= y") = script at h ⊢
  unfold isAugment at h
  split at h
  · rw [of_decide_eq_true h]
  · cases h

/-- The text is `x = x op y`, and nothing else. -/
def isBinary (op : BinaryOp) : Except Refusal (List Stmt) → Bool
  | .ok [.assign 1 [.name 1 "x"] (.binary op' (.name 1 "x") (.name 1 "y"))] => op' = op
  | _ => false

theorem compile_binary (op : BinaryOp) :
    compile ("x = x " ++ op.sign ++ " y") =
      .ok [.assign 1 [.name 1 "x"] (.binary op (.name 1 "x") (.name 1 "y"))] := by
  have h : isBinary op (compile ("x = x " ++ op.sign ++ " y")) = true := by cases op <;> decide +kernel
  generalize compile ("x = x " ++ op.sign ++ " y") = script at h ⊢
  unfold isBinary at h
  split at h
  · rw [of_decide_eq_true h]
  · cases h

variable {x y : String} {l k : Nat} {stack : List Frame}

theorem reaches_augment (hx : Names w σ x v) (hy : Names w σ y u) :
    Reaches m .common 4 ⟨.exec [.augment l (.name l x) op (.name l y)], stack, σ⟩ w
      ⟨.value u, .operands [v] [] (.inPlace x op) :: stack, σ⟩ w :=
  .step rfl (.step (leads_name hx) (.step rfl (.one (leads_name hy))))

theorem reaches_binary (hx : Names w σ x v) (hy : Names w σ y u) :
    Reaches m .common 5 ⟨.exec [.assign l [.name l x] (.binary op (.name l x) (.name l y))], stack, σ⟩ w
      ⟨.value u, .operands [v] [] (.binary op) :: .operands [] [] (.assign [.name l x]) :: stack, σ⟩ w :=
  .step rfl (.step rfl (.step (leads_name hx) (.step rfl (.one (leads_name hy)))))

/-- What is left to do with a value that is to be given a name. -/
def bound (σ : Addr) (x : String) (r : Value) : Run Signal := do
  bind σ x r
  return .finished .null

/-- `x op= y` as a run of its own. -/
theorem run_augment (hx : Names w σ x v) (hy : Names w σ y u) :
    (run m ⟨.exec [.augment l (.name l x) op (.name l y)], [], σ⟩).act w =
      (augmented m op v u >>= bound σ x).act w := by
  have hpatience : Run.patience - 4 = 999999994 + 2 := rfl
  have htry : tryStep m ⟨.value u, [.operands [v] [] (.inPlace x op)], σ⟩ =
      ((augmented m op v u >>= bind σ x) >>= fun _ => next ⟨.done, [], σ⟩) := by
    rw [bind_assoc]
    rfl
  have hbound : (augmented m op v u >>= bound σ x) =
      ((augmented m op v u >>= bind σ x) >>= fun _ => pure (.finished .null)) := by
    rw [bind_assoc]
    rfl
  generalize augmented m op v u >>= bind σ x = effect at htry hbound
  rw [run_of_reaches (reaches_augment hx hy) (by decide), hpatience, turns_effect htry, hbound, Run.bind_act]
  rcases effect.act w with ⟨_, w'⟩ | ⟨e | _, w'⟩ <;> rfl

/-- A value that is assigned to a name is bound to it. -/
theorem turns_assign (r : Value) (w : World) :
    Run.turns (step m) .common (k + 4) ⟨.value r, [.operands [] [] (.assign [.name l x])], σ⟩ w =
      (bound σ x r).act w := by
  have hstore : Run.turns (step m) .common (k + 4) ⟨.value r, [.operands [] [] (.assign [.name l x])], σ⟩ w =
      Run.turns (step m) .common (k + 3) ⟨.done, [.store [(.name l x, r)]], σ⟩ w := rfl
  have htry : tryStep m ⟨.done, [.store [(.name l x, r)]], σ⟩ =
      (bind σ x r >>= fun _ => next ⟨.done, [.store []], σ⟩) := rfl
  rw [hstore, turns_effect htry, bound, Run.bind_act]
  rcases (bind σ x r).act w with ⟨_, w'⟩ | ⟨e | _, w'⟩ <;> rfl

/-- `x = x op y` as a run of its own. -/
theorem run_binary (hx : Names w σ x v) (hy : Names w σ y u) :
    (run m ⟨.exec [.assign l [.name l x] (.binary op (.name l x) (.name l y))], [], σ⟩).act w =
      (operate op v u >>= bound σ x).act w := by
  have hpatience : Run.patience - 5 = (999999990 + 4) + 1 := rfl
  have htry : tryStep m ⟨.value u, [.operands [v] [] (.binary op), .operands [] [] (.assign [.name l x])], σ⟩ =
      (operate op v u >>= fun r => next ⟨.value r, [.operands [] [] (.assign [.name l x])], σ⟩) := rfl
  rw [run_of_reaches (reaches_binary hx hy) (by decide), hpatience, turns_effect htry, Run.bind_act]
  rcases (operate op v u).act w with ⟨r, w'⟩ | ⟨e | _, w'⟩
  · exact turns_assign r w'
  · rfl
  · rfl

/-- **Augmented assignment agrees with the plain operator exactly where this raises no `KeyError`.** In a scope in
which the two names have values, the first of them one that cannot be changed in place, `x op= y` and `x = x op y` end
akin: with the same value under the first name, in the same world, or with errors of one class. A `KeyError` of the
operator, with which `x = x op y` ends, is for `x op= y` a `SyntaxError` that there is no such operator. -/
theorem augmented_agrees_iff (m : Machine) (op : BinaryOp) {w : World} {σ : Addr} {v u : Value}
    (hx : Names w σ "x" v) (hy : Names w σ "y" u) (hv : w.IsImmutable v) :
    ∃ augment plain, compile ("x " ++ op.sign ++ "= y") = .ok augment ∧
      compile ("x = x " ++ op.sign ++ " y") = .ok plain ∧
      (((run m ⟨.exec augment, [], σ⟩).act w).Akin ((run m ⟨.exec plain, [], σ⟩).act w) ↔
        ∀ e left, (operate op v u).act w = .error (.raised e) left → ¬ left.IsKeyError e) ∧
      ∀ e left, (operate op v u).act w = .error (.raised e) left →
        (run m ⟨.exec plain, [], σ⟩).act w = .error (.raised e) left ∧
        (left.IsKeyError e → ∃ left' : World,
          (run m ⟨.exec augment, [], σ⟩).act w = .error (.raised left'.store.size)
            (left'.raising "SyntaxError" ("Unsupported in-place operator: " ++ op.sign ++ "="))) := by
  have haugment := @run_augment m op v u w σ "x" "y" 1 hx hy
  have hplain := @run_binary m op v u w σ "x" "y" 1 hx hy
  have hraised : ∀ e left, (operate op v u).act w = .error (.raised e) left →
      (operate op v u >>= bound σ "x").act w = .error (.raised e) left ∧
      (left.IsKeyError e → ∃ left' : World,
        (augmented m op v u >>= bound σ "x").act w = .error (.raised left'.store.size)
          (left'.raising "SyntaxError" ("Unsupported in-place operator: " ++ op.sign ++ "="))) := by
    intro e left hop
    refine ⟨by rw [Run.bind_act, hop], fun hkey => ?_⟩
    obtain ⟨left', hmisread⟩ := augmented_of_keyError (m := m) hv hop hkey
    exact ⟨left', by rw [Run.bind_act, hmisread]⟩
  refine ⟨_, _, compile_augment op, compile_binary op, ?_⟩
  rw [haugment, hplain]
  refine ⟨⟨fun hakin e left hop hkey => ?_, fun hno => ?_⟩, hraised⟩
  · obtain ⟨hend, hmisread⟩ := hraised e left hop
    obtain ⟨left', hmisread⟩ := hmisread hkey
    rw [hend, hmisread] at hakin
    exact not_akin_of_keyError hkey hakin
  · exact Run.bind_akin (augmented_of_no_keyError hv hno) fun r => .refl _

/-! ## A division and a missing key -/

/-- A world with one scope, in which a number is to be divided by zero. -/
def dividing : World :=
  { store := #[.scope
      { kind := .function, path := "run_step", bound := ["x", "y"], globals := [],
        vars := [("x", .int 7), ("y", .int 0)], parent := none, printer := none }] }

/-- Both ways to divide by zero raise the same. -/
theorem division_akin :
    Names dividing 0 "x" (.int 7) ∧ Names dividing 0 "y" (.int 0) ∧ dividing.IsImmutable (.int 7) ∧
      ∃ augment plain, compile "x //= y" = .ok augment ∧ compile "x = x // y" = .ok plain ∧
        ((run Engine.barePlatform.machine ⟨.exec augment, [], 0⟩).act dividing).Akin
          ((run Engine.barePlatform.machine ⟨.exec plain, [], 0⟩).act dividing) := by
  have hx : Names dividing 0 "x" (.int 7) := ⟨by decide, rfl⟩
  have hy : Names dividing 0 "y" (.int 0) := ⟨by decide, rfl⟩
  have hv : dividing.IsImmutable (.int 7) := fun _ h => nomatch h
  have hno : ∀ e left, (operate .floorDiv (.int 7) (.int 0)).act dividing = .error (.raised e) left →
      ¬ left.IsKeyError e := by
    intro e left hop
    have hraised : ((operate .floorDiv (.int 7) (.int 0)).act dividing).raised? = some 1 := by decide +kernel
    have hclass : ¬ ((operate .floorDiv (.int 7) (.int 0)).act dividing).world.IsKeyError 1 := by decide +kernel
    rw [hop] at hraised hclass
    cases hraised
    exact hclass
  obtain ⟨augment, plain, haugment, hplain, hakin, -⟩ :=
    augmented_agrees_iff Engine.barePlatform.machine .floorDiv hx hy hv
  exact ⟨hx, hy, hv, augment, plain, haugment, hplain, hakin.2 hno⟩

open ScriptEngine (EndsBy statementsEnd) in
/-- **A key that is missing is reported as an operator that is missing.** -/
theorem missing_key_misreported :
    EndsBy (fun left e => left.errorClass? e = some "KeyError")
        (statementsEnd "x = '%(a)s'\nx = x % \x7b\x7d") ∧
      EndsBy (fun left e => left.errorClass? e = some "SyntaxError")
        (statementsEnd "x = '%(a)s'\nx %= \x7b\x7d") := by
  decide +kernel

end Script

end Stepwise
