import Stepwise.Proofs.Stepping
/-!
# What frames wait for

A state of a script fits if each of its frames waits for what arrives from above, a value or the end of statements,
and the last one goes on in the scope where the script began. Statements that are to follow go below all frames
(`State.before`). A step of a state that fits takes no notice of them: `Follows` is the relation between the two
steps, with one lemma for each kind of control and frame, and `follows_tryStep` puts them together. It also says that
the next state fits, so that a whole run can be followed.
-/

namespace Stepwise

namespace Script

/-! ## Arrivals -/

/-- What arrives at a frame when all goes well. -/
inductive Arrival where
  | value
  | done
  deriving DecidableEq

/-- What an action hands on to the frame below. -/
def Action.hands : Action → Arrival
  | .discard | .inPlace .. | .collect _ | .ret | .raise _ | .assertion | .assign _ | .setAttr .. | .setIndex _
  | .deleteAttr _ | .deleteIndex | .manage | .iterate .. | .makeFunction .. | .makeClass .. => .done
  | _ => .value

namespace Frame

/-- Does the frame wait for that? -/
def takes : Frame → Arrival → Bool
  | operands .., k | logic .., k | compareLeft .., k | compareRight .., k | choose .., k | branch .., k
  | assertTest _, k | whileTest .., k | matching .., k | decorate .., k => k = .value
  | function _, _ | delegate _, _ => true
  | _, k => k = .done

/-- What the frame hands on to the one below. -/
def hands : Frame → Arrival
  | operands _ _ action => action.hands
  | logic .. | compareLeft .. | compareRight .. | choose .. | function _ | comprehension .. | delegate _ => .value
  | _ => .done

/-- The scope in which the frame goes on. -/
def scopeBelow (σ : Addr) : Frame → Addr
  | function τ | comprehension τ _ | classBody τ .. => τ
  | _ => σ

end Frame

/-- Every frame of a stack waits for what arrives, and the last one goes on at home: with the statements of the
scope. -/
def Fits (home : Addr) : Arrival → List Frame → Addr → Prop
  | k, [], σ => k = .done ∧ σ = home
  | k, f :: stack, σ => f.takes k = true ∧ Fits home f.hands stack (f.scopeBelow σ)

/-- The state is one that a script in the scope can be in. -/
def State.Fits (home : Addr) (s : State) : Prop :=
  match s.control with
  | .eval _ | .value _ => Script.Fits home .value s.stack s.scope
  | .exec _ | .done => Script.Fits home .done s.stack s.scope
  | .exit _ => ∃ k, Script.Fits home k s.stack s.scope

/-- The state with statements that follow when it has come to its end. -/
def State.before (rest : List Stmt) (s : State) : State := { s with stack := s.stack ++ [.seq rest] }

theorem collection?_before (stack : List Frame) (rest : List Stmt) :
    collection? (stack ++ [.seq rest]) = collection? stack := by
  rw [collection?, List.findSome?_append]
  exact Option.or_none

theorem handled?_before (stack : List Frame) (rest : List Stmt) :
    handled? (stack ++ [.seq rest]) = handled? stack := by
  rw [handled?, List.findSome?_append]
  exact Option.or_none

/-! ## Two steps side by side -/

/-- The second does what the first does, with statements that follow; the states that they lead to fit. -/
inductive Follows (home : Addr) (rest : List Stmt) : Next → Next → Prop
  | next {s : State} : s.Fits home → Follows home rest (next s) (next (s.before rest))
  | yielded (v : Value) (s : State) :
    Follows home rest (return .inr (.yielded v s)) (return .inr (.yielded v (s.before rest)))
  | fail (f : Failure) : Follows home rest (Run.fail f) (Run.fail f)
  | bind {α : Type} (x : Run α) {f g : α → Next} : (∀ a, Follows home rest (f a) (g a)) →
    Follows home rest (x >>= f) (x >>= g)

variable {home σ : Addr} {rest : List Stmt} {m : Machine} {c : Control} {stack : List Frame} {x y x' y' : Next}
variable {action : Action} {k : Arrival} {s : State} {t : Thread} {w w' : World}

theorem Follows.raise (cls : String) (args : List Value) (fields : List (String × Value)) :
    Follows home rest (Run.raiseWith cls args fields) (Run.raiseWith cls args fields) := .bind _ fun _ => .fail _

theorem Follows.ite (b : Bool) (h : Follows home rest x y) (h' : Follows home rest x' y') :
    Follows home rest (if b = true then x else x') (if b = true then y else y') := by
  cases b
  · exact h'
  · exact h

/-- What runs that follow one another have in common. -/
theorem Follows.actIn (h : Follows home rest x y) (t : Thread) (w : World) :
    match x.actIn t w with
    | .ok (.inl s) w' => y.actIn t w = .ok (.inl (s.before rest)) w' ∧ s.Fits home
    | .ok (.inr (.yielded v s)) w' => y.actIn t w = .ok (.inr (.yielded v (s.before rest))) w'
    | .ok (.inr (.finished _)) _ => False
    | .error e w' => y.actIn t w = .error e w' := by
  induction h generalizing w with
  | next h => exact ⟨rfl, h⟩
  | yielded v s => rfl
  | fail f => rfl
  | bind x h ih =>
    rw [Run.bind_actIn, Run.bind_actIn]
    rcases x.actIn t w with ⟨a, w'⟩ | ⟨e, w'⟩
    · exact ih a w'
    · rfl

/-! ## Kinds of control and frame -/

theorem follows_enter (h : Fits home .value stack σ) (f : Value) (a : Args) :
    Follows home rest (enter m ⟨c, stack, σ⟩ f a) (enter m (State.before rest ⟨c, stack, σ⟩) f a) := by
  refine .bind _ fun (f, a) => .bind _ fun o => ?_
  cases o with
  | none => exact .bind _ fun _ => .next h
  | some o =>
    cases o with
    | function closure =>
      refine .bind _ fun scope => .ite _ (.bind _ fun _ => ?_) (.bind _ fun _ => ?_)
      · exact .next h
      · cases closure.body <;> exact .next ⟨rfl, h⟩
    | _ => exact .bind _ fun _ => .next h

theorem follows_perform (h : Fits home action.hands stack σ) (vs : List Value) :
    Follows home rest (perform m ⟨c, stack, σ⟩ vs action) (perform m (State.before rest ⟨c, stack, σ⟩) vs action) := by
  cases action with
  | discard | join => exact .next h
  | unary | binary | attr | index | slice | display | dict | makeLambda => exact .bind _ fun _ => .next h
  | setAttr | setIndex | deleteAttr | deleteIndex | bind => exact .bind _ fun _ => .next h
  | inPlace => exact .bind _ fun _ => .bind _ fun _ => .next h
  | call => exact .bind _ fun _ => follows_enter h _ _
  | format conversion =>
    unfold perform
    generalize (vs.drop 1).headD .null = w
    cases w <;> exact .bind _ fun _ => .bind _ fun _ => .bind _ fun _ => .next h
  | collect shape =>
    -- the collection is looked for in all frames, and the statements that follow are none
    have hcollection := collection?_before stack rest
    unfold perform
    dsimp only [State.before]
    rw [hcollection]
    cases shape with
    | generator => exact .yielded _ _
    | list | tuple | set | dict =>
      cases collection? stack with
      | none => exact .next h
      | some _ => exact .bind _ fun _ => .next h
  | yield => exact .yielded _ _
  | yieldFrom | assign | iterate | makeFunction => exact .bind _ fun _ => .next ⟨rfl, h⟩
  | ret => exact .next ⟨_, h⟩
  | raise => exact .bind _ fun _ => .ite _ (.bind _ fun _ => .fail _) (.fail _)
  | assertion => exact .raise _ _ _
  | manage => exact .bind _ fun _ => .raise _ _ _
  | gather shape names target body =>
    refine .bind _ fun _ => .bind _ fun _ => .bind _ fun _ => ?_
    cases shape with
    | list | set | dict => exact .bind _ fun _ => .next ⟨rfl, rfl, h⟩
    | tuple | generator => exact .bind _ fun _ => .next h
  | makeClass => exact .bind _ fun _ => .bind _ fun _ => .bind _ fun _ => .next ⟨rfl, h⟩

theorem follows_operands (h : Fits home k stack σ) (es : List Expr) (hk : action.hands = k) :
    Follows home rest (operands m (perform m) ⟨c, stack, σ⟩ es action)
      (operands m (perform m) (State.before rest ⟨c, stack, σ⟩) es action) := by
  subst hk
  cases es with
  | nil => exact follows_perform h []
  | cons e es => exact .next ⟨rfl, h⟩

theorem follows_evalStep (h : Fits home .value stack σ) (e : Expr) :
    Follows home rest (evalStep m (perform m) ⟨c, stack, σ⟩ e)
      (evalStep m (perform m) (State.before rest ⟨c, stack, σ⟩) e) := by
  cases e with
  | omitted | starred | keyword | doubleStarred | await | clause => exact .next h
  | lit l => exact .bind _ fun _ => .next h
  | name l id =>
    by_cases hprint : id = "print"
    · subst hprint
      exact .bind _ fun _ => .next h
    · by_cases hprinted : id = "printed"
      · subst hprinted
        exact .bind _ fun _ => .next h
      · rw [evalStep_name ⟨hprint, hprinted⟩, evalStep_name ⟨hprint, hprinted⟩]
        exact .bind _ fun _ => .next h
  | unary | binary | call | attr | index | slice | named | yield | yieldFrom | joined | field | lambda | pair =>
    simp only [evalStep]
    exact follows_operands h _ rfl
  | logic conjunction es =>
    cases es with
    | nil => exact .next h
    | cons e es => exact .next ⟨rfl, h⟩
  | compare ops es =>
    cases es with
    | nil => exact .next h
    | cons e es => exact .next ⟨rfl, h⟩
  | cond => exact .next ⟨rfl, h⟩
  | display shape es => cases shape <;> exact follows_operands h _ rfl
  | comprehension l shape item clauses =>
    simp only [evalStep]
    split
    · exact follows_operands h _ rfl
    · exact .next h

theorem follows_execStep (h : Fits home .done stack σ) (st : Stmt) :
    Follows home rest (execStep m (perform m) ⟨c, stack, σ⟩ st)
      (execStep m (perform m) (State.before rest ⟨c, stack, σ⟩) st) := by
  cases st with
  | expr | ret | function | classDef | forLoop =>
    simp only [execStep]
    exact follows_operands h _ rfl
  | assign line targets value =>
    simp only [execStep]
    split
    · exact .next h
    · exact follows_operands h _ rfl
  | augment line target op value =>
    simp only [execStep]
    split
    · exact follows_operands h _ rfl
    · exact .next h
  | pass | global | refused | handler => exact .next h
  | leave | next => exact .next ⟨_, h⟩
  | delete | ite | whileLoop | attempt | assert => exact .next ⟨rfl, h⟩
  | withBlock line items body =>
    simp only [execStep]
    split
    · exact follows_operands h _ rfl
    · exact follows_operands h _ rfl
    · exact .next h
  | raise line error cause =>
    have hhandled := handled?_before stack rest
    simp only [execStep, State.before]
    rw [hhandled]
    split
    · cases handled? stack with
      | none => exact .raise _ _ _
      | some e => exact .fail _
    · exact follows_operands h _ rfl
    · exact follows_operands h _ rfl
  | importModules | importFrom => exact .bind _ fun _ => .next h
  | collect shape item =>
    simp only [execStep]
    split <;> exact follows_operands h _ rfl

theorem follows_handle (h : Fits home .done stack σ) (e : Addr) (handlers : List Stmt) :
    Follows home rest (next (handle ⟨c, stack, σ⟩ e handlers))
      (next (handle (State.before rest ⟨c, stack, σ⟩) e handlers)) := by
  have hexit : Follows home rest (next (State.go ⟨c, stack, σ⟩ (.exit (.raised e))))
    (next (State.go (State.before rest ⟨c, stack, σ⟩) (.exit (.raised e)))) := .next ⟨_, h⟩
  cases handlers with
  | nil => exact hexit
  | cons handler handlers =>
    cases handler with
    | handler line kind id body =>
      cases kind <;> exact .next (s := State.goAbove ⟨c, stack, σ⟩ _ _) ⟨rfl, h⟩
    | _ => exact hexit

theorem follows_valueStep {f : Frame} (h : Fits home .value (f :: stack) σ) (v : Value) :
    Follows home rest (valueStep m ⟨c, stack, σ⟩ f v) (valueStep m (State.before rest ⟨c, stack, σ⟩) f v) := by
  obtain ⟨htakes, h⟩ := h
  cases f with
  | operands before todo action =>
    cases todo with
    | nil => exact follows_perform h _
    | cons e todo => exact .next ⟨rfl, h⟩
  | logic conjunction es =>
    cases es with
    | nil => exact .next h
    | cons e es =>
      refine .bind _ fun _ => .ite _ ?_ ?_
      · exact .next ⟨rfl, h⟩
      · exact .next h
  | compareLeft ops es =>
    cases ops with
    | nil => exact .next h
    | cons op ops =>
      cases es with
      | nil => exact .next h
      | cons e es => exact .next ⟨rfl, h⟩
  | compareRight left op ops es =>
    refine .bind _ fun r => ?_
    cases ops with
    | nil => exact .next h
    | cons op ops =>
      cases es with
      | nil => exact .next h
      | cons e es =>
        refine .bind _ fun _ => .ite _ ?_ ?_
        · exact .next ⟨rfl, h⟩
        · exact .next h
  | choose | branch => exact .bind _ fun _ => .next h
  | assertTest message =>
    refine .bind _ fun _ => .ite _ ?_ ?_
    · exact .next h
    · cases message with
      | omitted => exact .raise _ _ _
      | _ => exact .next ⟨rfl, h⟩
  | whileTest test body otherwise =>
    refine .bind _ fun _ => .ite _ ?_ ?_
    · exact .next ⟨rfl, h⟩
    · exact .next h
  | matching e id body handlers =>
    refine .bind _ fun _ => .bind _ fun _ => .ite _ ?_ ?_
    · cases id with
      | none => exact .next ⟨rfl, h⟩
      | some n => exact .bind _ fun _ => .next ⟨rfl, h⟩
    · exact follows_handle h _ _
  | function => exact .bind _ fun _ => .next h
  | decorate todo id =>
    cases todo with
    | nil => exact .bind _ fun _ => .next h
    | cons d todo =>
      have hbelow : Fits home .value (.decorate todo id :: stack) σ := ⟨rfl, h⟩
      exact follows_enter hbelow _ _
  | delegate source =>
    cases source with
    | ref a =>
      refine .bind _ fun o => ?_
      cases o with
      | generator id g =>
        refine .bind _ fun turn => ?_
        cases turn with
        | yielded x => exact .yielded _ _
        | finished x => exact .next h
      | _ =>
        refine .bind _ fun x => ?_
        cases x with
        | none => exact .next h
        | some x => exact .yielded _ _
    | _ => exact .next h
  | _ => cases htakes

theorem follows_doneStep {f : Frame} (h : Fits home .done (f :: stack) σ) :
    Follows home rest (doneStep m ⟨c, stack, σ⟩ f) (doneStep m (State.before rest ⟨c, stack, σ⟩) f) := by
  obtain ⟨htakes, h⟩ := h
  cases f with
  | seq ss => cases ss <;> exact .next h
  | store todo =>
    cases todo with
    | nil => exact .next h
    | cons t todo =>
      obtain ⟨target, v⟩ := t
      cases target with
      | name => exact .bind _ fun _ => .next ⟨rfl, h⟩
      | attr | index => exact .next ⟨rfl, rfl, h⟩
      | display => exact .bind _ fun _ => .next ⟨rfl, rfl, h⟩
      | _ => exact .next ⟨rfl, h⟩
  | delete todo =>
    cases todo with
    | nil => exact .next h
    | cons target todo =>
      cases target with
      | name => exact .bind _ fun _ => .next ⟨rfl, h⟩
      | attr | index | display => exact .next ⟨rfl, rfl, h⟩
      | _ => exact .next ⟨rfl, h⟩
  | whileBody | attempt => exact .next ⟨rfl, h⟩
  | forBody iter target body otherwise =>
    refine .bind _ fun v => ?_
    cases v with
    | none => exact .next h
    | some v => exact .bind _ fun _ => .next ⟨rfl, rfl, rfl, h⟩
  | handling e id => exact .bind _ fun _ => .next h
  | closing final =>
    cases final with
    | nil => exact .next h
    | cons => exact .next ⟨rfl, h⟩
  | finishing pending =>
    cases pending with
    | none => exact .next h
    | some why => exact .next ⟨_, h⟩
  | function => exact .bind _ fun _ => .next h
  | comprehension => exact .next h
  | classBody scope id bases decorators =>
    refine .bind _ fun o => ?_
    cases o with
    | scope inner => exact .bind _ fun _ => .next ⟨rfl, h⟩
    | _ => exact .next h
  | delegate => exact .next ⟨rfl, h⟩
  | _ => cases htakes

theorem follows_exitStep {f : Frame} (h : Fits home k (f :: stack) σ) (why : Exit) :
    Follows home rest (exitStep m ⟨c, stack, σ⟩ f why) (exitStep m (State.before rest ⟨c, stack, σ⟩) f why) := by
  obtain ⟨htakes, h⟩ := h
  have hexit (hscope : f.scopeBelow σ = σ) : Follows home rest (next (State.go ⟨c, stack, σ⟩ (.exit why)))
      (next (State.go (State.before rest ⟨c, stack, σ⟩) (.exit why))) := .next ⟨_, hscope ▸ h⟩
  cases f with
  | whileBody test body otherwise =>
    cases why with
    | leave => exact .next h
    | next => exact .next ⟨rfl, h⟩
    | _ => exact hexit rfl
  | forBody iter target body otherwise =>
    cases why with
    | leave => exact .next h
    | next => exact .next ⟨rfl, h⟩
    | _ => exact hexit rfl
  | attempt handlers otherwise final =>
    have hfinal : Follows home rest
        (if final.isEmpty = true then next (State.go ⟨c, stack, σ⟩ (.exit why))
          else next (State.goAbove ⟨c, stack, σ⟩ (.finishing (some why)) (.exec final)))
        (if final.isEmpty = true then next (State.go (State.before rest ⟨c, stack, σ⟩) (.exit why))
          else next (State.goAbove (State.before rest ⟨c, stack, σ⟩) (.finishing (some why)) (.exec final))) :=
      .ite _ (hexit rfl) (.next ⟨rfl, h⟩)
    cases why with
    | raised e =>
      have hbelow : Fits home .done (.closing final :: stack) σ := ⟨rfl, h⟩
      exact follows_handle hbelow _ _
    | _ => exact hfinal
  | closing final => exact .ite _ (hexit rfl) (.next ⟨rfl, h⟩)
  | handling e id => exact .bind _ fun _ => hexit rfl
  | function scope =>
    cases why with
    | ret v => exact .bind _ fun _ => .next h
    | _ => exact .bind _ fun _ => .next ⟨_, h⟩
  | comprehension | classBody => exact .next ⟨_, h⟩
  | delegate source =>
    cases source with
    | ref a =>
      cases why with
      | raised e =>
        refine .bind _ fun o => ?_
        cases o with
        | generator id g =>
          refine .bind _ fun turn => ?_
          cases turn with
          | yielded x => exact .yielded _ _
          | finished x => exact .next h
        | _ => exact hexit rfl
      | _ => exact hexit rfl
    | _ => exact hexit rfl
  | _ => exact hexit rfl

/-! ## One step -/

namespace State

/-- The state is at its end: no frame waits for what comes. -/
def atEnd (s : State) : Bool :=
  match s.control, s.stack with
  | .value _, [] | .done, [] | .exit _, [] => true
  | _, _ => false

end State

/-- Statements have come to their end, or have been left. -/
theorem atEnd_cases (h : s.Fits home) (hend : s.atEnd = true) :
    s = ⟨.done, [], home⟩ ∨ ∃ why, s = ⟨.exit why, [], home⟩ := by
  obtain ⟨control, stack, σ⟩ := s
  cases stack with
  | nil =>
    cases control with
    | eval | exec => cases hend
    | value => cases h.1
    | done =>
      obtain ⟨-, rfl⟩ := h
      exact .inl rfl
    | exit why =>
      obtain ⟨k, -, rfl⟩ := h
      exact .inr ⟨why, rfl⟩
  | cons => cases control <;> cases hend

theorem follows_tryStep (h : s.Fits home) (hgoes : s.atEnd = false) :
    Follows home rest (tryStep m s) (tryStep m (s.before rest)) := by
  obtain ⟨control, stack, σ⟩ := s
  cases control with
  | eval e => exact follows_evalStep h e
  | exec ss =>
    match ss with
    | [] => exact .next h
    | [st] => exact follows_execStep h st
    | st :: st' :: ss =>
      have hbelow : Fits home .done (.seq (st' :: ss) :: stack) σ := ⟨rfl, h⟩
      exact follows_execStep hbelow st
  | value v =>
    cases stack with
    | nil => cases hgoes
    | cons f stack => exact follows_valueStep h v
  | done =>
    cases stack with
    | nil => cases hgoes
    | cons f stack => exact follows_doneStep h
  | exit why =>
    cases stack with
    | nil => cases why <;> cases hgoes
    | cons f stack =>
      obtain ⟨k, h⟩ := h
      exact follows_exitStep h why

/-- What is left when an error comes up fits: a frame that goes back to another scope raises none. -/
theorem fits_afterError {e : Addr} (h : s.Fits home)
    (herror : (tryStep m s).actIn t w = .error (.raised e) w') :
    ∃ k, Fits home k (afterError s) s.scope := by
  obtain ⟨control, stack, σ⟩ := s
  -- an error leaves the scope as it is, so the frame that is gone must not have had another one below
  cases control with
  | eval | exec => exact ⟨_, h⟩
  | value v =>
    cases stack with
    | nil => cases h.1
    | cons f stack =>
      cases f with
      | function => nomatch herror
      | comprehension | classBody => cases h.1
      | _ => exact ⟨_, h.2⟩
  | done =>
    cases stack with
    | nil => exact ⟨_, h⟩
    | cons f stack =>
      cases f with
      | function | comprehension => nomatch herror
      | classBody τ id bases decorators =>
        change (doneStep m ⟨.done, stack, σ⟩ (.classBody τ id bases decorators)).actIn t w = _ at herror
        rw [doneStep, Run.bind_actIn, show (Run.load σ).actIn t w = .ok (w.store.getD σ (.module "")) w from rfl] at herror
        generalize w.store.getD σ (.module "") = o at herror
        cases o <;> nomatch herror
      | _ => exact ⟨_, h.2⟩
  | exit why =>
    obtain ⟨k, h⟩ := h
    cases stack with
    | nil => exact ⟨_, h⟩
    | cons f stack =>
      cases f with
      | function => cases why <;> nomatch herror
      | comprehension | classBody => nomatch herror
      | _ => exact ⟨_, h.2⟩

/-! ## Statements that follow -/

theorem afterError_before (hgoes : s.atEnd = false) (rest : List Stmt) :
    afterError (s.before rest) = afterError s ++ [.seq rest] := by
  obtain ⟨control, stack, σ⟩ := s
  cases control with
  | eval | exec => rfl
  | value | done | exit =>
    cases stack with
    | nil => cases hgoes
    | cons => rfl

/-- A step of a state, and the same step with statements that follow. -/
inductive StepsAlike (m : Machine) (t : Thread) (home : Addr) (rest : List Stmt) (s : State) (w : World) : Prop
  | leads {s' : State} {w' : World} : Leads m t s w s' w' → s'.Fits home →
    Leads m t (s.before rest) w (s'.before rest) w' → StepsAlike m t home rest s w
  | yielded {v : Value} {r : State} {w' : World} : (step m s).actIn t w = .ok (.inr (.yielded v r)) w' →
    (step m (s.before rest)).actIn t w = .ok (.inr (.yielded v (r.before rest))) w' → StepsAlike m t home rest s w
  /-- An error that nothing takes up reaches the statements that follow before it ends the run. -/
  | raised {e : Addr} {w' : World} : (step m s).actIn t w = .error (.raised e) w' →
    Leads m t (s.before rest) w ⟨.exit (.raised e), [.seq rest], s.scope⟩ w' → StepsAlike m t home rest s w
  | exhausted {w' : World} : (step m s).actIn t w = .error .exhausted w' →
    (step m (s.before rest)).actIn t w = .error .exhausted w' → StepsAlike m t home rest s w

/-- **A step takes no notice of the statements that follow**, as long as the state is not at its end. -/
theorem steps_alike (m : Machine) (t : Thread) (h : s.Fits home) (hgoes : s.atEnd = false) (rest : List Stmt)
    (w : World) : StepsAlike m t home rest s w := by
  have hfollows := (@follows_tryStep _ rest m s h hgoes).actIn t w
  have hstep := step_actIn m s t w
  have hbefore := step_actIn m (s.before rest) t w
  rw [afterError_before hgoes] at hbefore
  rcases htry : (tryStep m s).actIn t w with ⟨s' | (v | ⟨v, r⟩), w'⟩ | ⟨e | _, w'⟩
  all_goals
    rw [htry] at hstep hfollows
  · obtain ⟨hnext, hfits⟩ := hfollows
    rw [hnext] at hbefore
    exact .leads hstep hfits hbefore
  · exact hfollows.elim
  · rw [hfollows] at hbefore
    exact .yielded hstep hbefore
  · obtain ⟨k, hleft⟩ := fits_afterError h htry
    rw [hfollows] at hbefore
    cases hframes : afterError s with
    | nil =>
      rw [hframes] at hstep hbefore
      exact .raised hstep hbefore
    | cons f stack =>
      rw [hframes] at hstep hbefore hleft
      exact .leads hstep ⟨k, hleft⟩ hbefore
  · rw [hfollows] at hbefore
    exact .exhausted hstep hbefore

end Script

end Stepwise
