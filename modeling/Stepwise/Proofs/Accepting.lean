import Stepwise.Proofs.Constructing
import Stepwise.Proofs.Dispatch
/-!
# When a value is a recipe, and when it is refused

Loading a recipe from a value looks at its parts in a fixed order, and asks some of them for their truth or
for their text. `Recipe.plan` lists what is asked before the value is accepted or refused, and says which of
the two it is. `follows_ofValue` says that loading does just that, so that a value is accepted or refused
exactly when everything has what it is asked for: otherwise the first thing that has not ends the loading with
an error of its own.
-/

namespace Stepwise

/-- The run ends with a result, or with the error of a value that is no recipe. -/
def Ending.Answered {α : Type} : Ending α → Prop
  | .ok .. => True
  | .error (.raised error) w => w.errorClass? error = some Classes.validationError
  | .error .exhausted _ => False

/-- The class of the error that was raised. -/
def Ending.raisedClass? {α : Type} : Ending α → Option String
  | .error (.raised error) w => w.errorClass? error
  | _ => none

instance {α : Type} : DecidablePred (@Ending.Answered α)
  | .ok .. => inferInstanceAs (Decidable True)
  | .error (.raised _) _ => inferInstanceAs (Decidable (_ = _))
  | .error .exhausted _ => inferInstanceAs (Decidable False)

/-- Of all that can be raised newly, only one class is an answer. -/
theorem answered_raise_iff {α : Type} (cls message : String) (w : World) :
    ((Run.raise cls message : Run α).act w).Answered ↔ cls = Classes.validationError := by
  obtain ⟨error, left, hend, hclass⟩ := Run.raiseWith_act (α := α) cls [.str message] [] w
  rw [Run.raise, hend, Ending.Answered, hclass, Option.some.injEq]

/-! ## What is asked -/

/-- What a value is asked for. -/
inductive Ask where
  | truth (v : Value)
  | text (v : Value)

/-- There is an answer. -/
def Ask.Told (w : World) : Ask → Prop
  | truth v => ∃ b, v.truthy.act w = .ok b w
  | text v => ∃ s, v.plain.act w = .ok s w

/-- What is asked until a value is accepted or refused, and whether it is accepted. -/
structure Plan where
  asks : List Ask
  accepted : Bool

namespace Plan

/-- The value is refused at once. -/
def refused : Plan := ⟨[], false⟩

def asking (asks : List Ask) : Plan := ⟨asks, true⟩

/-- Goes on to another value, if the first one is accepted. -/
def andThen (p q : Plan) : Plan := ⟨p.asks ++ (if p.accepted then q.asks else []), p.accepted && q.accepted⟩

def all : List Plan → Plan
  | [] => asking []
  | p :: ps => p.andThen (all ps)

theorem andThen_nil (p : Plan) : p.andThen (asking []) = p := by
  rw [andThen, asking, ite_self, List.append_nil, Bool.and_true]

theorem asking_andThen (xs ys : List Ask) : (asking xs).andThen (asking ys) = asking (xs ++ ys) := rfl

theorem all_asking {α : Type} (ask : α → Ask) (xs : List α) :
    all (xs.map fun x => asking [ask x]) = asking (xs.map ask) := by
  induction xs with
  | nil => rfl
  | cons x xs ih => rw [List.map_cons, all, ih, asking_andThen, List.map_cons, List.singleton_append]

end Plan

namespace World

/-- The dictionary that a value is. -/
def dict? (w : World) : Value → Option Dict
  | .ref a => w.contents? a
  | _ => none

/-- The members of the list that a value is. -/
def list? (w : World) : Value → Option (List Value)
  | .ref a => match w.store[a]? with
    | some (.list xs) => some xs.toList
    | _ => none
  | _ => none

/-- The members of a field: what is not true has none. -/
def listField? (w : World) (v : Value) : Option (List Value) :=
  if (v.truthy.act w).result? = some true then w.list? v else some []

end World

/-- The fields of a step are asked for their texts. -/
def Step.plan (w : World) (v : Value) : Plan :=
  match w.dict? v with
  | none => .refused
  | some d => .asking [.text (d.field "name"), .text (d.field "engine"), .text (d.field "code")]

/-- The keys of a mapping are asked for their texts. -/
def Input.plan (w : World) (v : Value) : Plan :=
  match v.text? with
  | some s => if Text.isBlankText s then .refused else .asking []
  | none => match w.dict? v with
    | none => .refused
    | some d => if d.isEmpty then .refused else .asking (d.pairs.map (.text ·.1))

namespace Recipe

/-- The two lists are asked for their truth; then the inputs and the steps in their order; and last the
description, and whether the source was given. -/
def plan (w : World) (v source : Value) : Plan :=
  match w.dict? v with
  | none => .refused
  | some d => match (d.field "jinx_name").text? with
    | none => .refused
    | some name =>
      let inputs := d.field "inputs"
      let steps := d.field "steps"
      if Text.isBlankText name then .refused
      else
        Plan.andThen ⟨[.truth inputs], (w.listField? inputs).isSome⟩ <|
        Plan.andThen ⟨[.truth steps], (w.listField? steps).isSome⟩ <|
        Plan.andThen (.all (((w.listField? inputs).getD []).map (Input.plan w))) <|
        Plan.andThen (.all (((w.listField? steps).getD []).map (Step.plan w))) <|
        .asking [.text (d.field "description"), .truth source]

end Recipe

/-! ## Runs that follow a plan -/

/-- The ending is that of the plan: a result or a refusal when all that is asked is told, as the plan has it;
and otherwise an error of the kind that telling raises. -/
inductive Plan.Ends (w : World) (p : Plan) {α : Type} : Ending α → Prop
  | accepted {a : α} {left : World} : (∀ ask ∈ p.asks, ask.Told w) → p.accepted = true → left.store = w.store →
      Ends w p (.ok a left)
  | refused {error : Addr} {left : World} : (∀ ask ∈ p.asks, ask.Told w) → p.accepted = false →
      left.errorClass? error = some Classes.validationError → Ends w p (.error (.raised error) left)
  | untold {error : Addr} {left : World} {cls : String} : (¬ ∀ ask ∈ p.asks, ask.Told w) → cls ∈ textErrors →
      left.errorClass? error = some cls → Ends w p (.error (.raised error) left)

/-- The run follows the plan in every world with these objects. -/
def Run.Follows {α : Type} (x : Run α) (w : World) (p : Plan) : Prop :=
  ∀ w', w'.store = w.store → p.Ends w (x.act w')

namespace Run.Follows

variable {α β : Type} {x : Run α} {f : α → Run β} {w : World} {p q : Plan}

theorem pure (a : α) : (Pure.pure a : Run α).Follows w (.asking []) := by
  intro w' hw'
  exact .accepted (List.forall_mem_nil _) rfl hw'

/-- **One run after the other follows one plan after the other.** -/
theorem bind (hx : x.Follows w p) (hf : ∀ a w' left, w'.store = w.store → x.act w' = .ok a left → (f a).Follows w q) :
    (x >>= f).Follows w (p.andThen q) := by
  intro w' hw'
  rw [Run.bind_act]
  have hend := hx w' hw'
  cases hxw : x.act w' with
  | ok a left =>
    rw [hxw] at hend
    cases hend with
    | accepted htold haccepted hstore =>
      have hasks : (p.andThen q).asks = p.asks ++ q.asks := by rw [Plan.andThen, if_pos haccepted]
      have hall : (∀ ask ∈ (p.andThen q).asks, ask.Told w) ↔ ∀ ask ∈ q.asks, ask.Told w := by
        rw [hasks, List.forall_mem_append]
        exact and_iff_right htold
      have hboth : (p.andThen q).accepted = q.accepted := by rw [Plan.andThen, haccepted, Bool.true_and]
      have hsecond := hf a w' left hw' hxw left hstore
      dsimp only
      cases hfw : (f a).act left with
      | ok b left' =>
        rw [hfw] at hsecond
        cases hsecond with
        | accepted ht ha hs => exact .accepted (hall.2 ht) (hboth.trans ha) hs
      | error failure left' =>
        rw [hfw] at hsecond
        cases hsecond with
        | refused ht ha hc => exact .refused (hall.2 ht) (hboth.trans ha) hc
        | untold ht hcls hc => exact .untold (fun h => ht (hall.1 h)) hcls hc
  | error failure left =>
    rw [hxw] at hend
    cases hend with
    | refused htold hrefused hclass =>
      have hasks : (p.andThen q).asks = p.asks := by
        rw [Plan.andThen, if_neg (by rw [hrefused]; exact Bool.false_ne_true), List.append_nil]
      refine .refused (hasks ▸ htold) ?_ hclass
      rw [Plan.andThen, hrefused, Bool.false_and]
    | untold huntold hcls hclass =>
      refine .untold (fun h => huntold fun ask hask => h ask ?_) hcls hclass
      exact List.mem_append_left _ hask

/-- What is made of the result is asked of no value. -/
theorem bind_pure (hx : x.Follows w p) (g : α → β) : (x >>= fun a => Pure.pure (g a)).Follows w p := by
  have h := hx.bind (q := .asking []) fun a _ _ _ _ => pure (g a)
  rwa [Plan.andThen_nil] at h

/-- A run that only looks follows the plan of one ask, if its result is the answer. -/
theorem of_inspects (hx : x.Inspects textErrors) {ask : Ask} (hask : ask.Told w ↔ ∃ a, x.act w = .ok a w) :
    x.Follows w (.asking [ask]) := by
  intro w' hw'
  have hall : (∀ other ∈ (Plan.asking [ask]).asks, other.Told w) ↔ ask.Told w := List.forall_mem_singleton
  obtain ⟨a, ha⟩ | ⟨cls, hcls, hraised⟩ := hx.ends w
  · rw [ha w' hw']
    exact .accepted (hall.2 (hask.2 ⟨a, ha w rfl⟩)) rfl hw'
  · obtain ⟨error, left, hend, hclass⟩ := hraised w' hw'
    rw [hend]
    refine .untold (fun h => ?_) hcls hclass
    obtain ⟨a, ha⟩ := hask.1 (hall.1 h)
    obtain ⟨_, _, hend', -⟩ := hraised w rfl
    cases ha.symm.trans hend'

theorem throw (fault : RecipeFault) : (fault.throw : Run α).Follows w .refused := by
  intro w' _
  obtain ⟨error, left, hend, hclass⟩ := Run.raiseWith_act (α := α) Classes.validationError [.str fault.message] [] w'
  rw [show (fault.throw : Run α).act w' = _ from hend]
  exact .refused (List.forall_mem_nil _) rfl hclass

/-- What never fails and leaves the world as it was is asked of no value. -/
theorem after (hx : x.Reads) (hf : ∀ a, (f a).Follows w p) : (x >>= f).Follows w p := by
  intro w' hw'
  obtain ⟨a, ha⟩ := hx w'
  rw [Run.bind_act, ha]
  exact hf a w' hw'

theorem mapM {f : α → Run β} {plan : α → Plan} (xs : List α) (hf : ∀ x, (f x).Follows w (plan x)) :
    (xs.mapM f).Follows w (.all (xs.map plan)) := by
  induction xs with
  | nil => exact pure []
  | cons x xs ih =>
    rw [List.mapM_cons]
    exact (hf x).bind fun b _ _ _ _ => ih.bind_pure (b :: ·)

/-- **A run that follows a plan answers exactly when all that is asked is told.** -/
theorem answered_iff (hx : x.Follows w p) : (x.act w).Answered ↔ ∀ ask ∈ p.asks, ask.Told w := by
  have hend := hx w rfl
  cases hxw : x.act w with
  | ok a left =>
    rw [hxw] at hend
    cases hend with
    | accepted htold => exact iff_of_true trivial htold
  | error failure left =>
    rw [hxw] at hend
    cases hend with
    | refused htold _ hclass => exact iff_of_true hclass htold
    | untold huntold hcls hclass =>
      refine iff_of_false (fun h => ?_) huntold
      cases Option.some.inj (hclass.symm.trans h)
      exact absurd hcls (by decide)

/-- There is an end, and what is raised has a class. -/
theorem result_or_raised (hx : x.Follows w p) :
    (x.act w).result?.isSome = true ∨ (x.act w).raisedClass?.isSome = true := by
  have hend := hx w rfl
  cases hxw : x.act w with
  | ok a left => exact .inl rfl
  | error failure left =>
    rw [hxw] at hend
    cases hend with
    | refused _ _ hclass => exact .inr (by rw [Ending.raisedClass?, hclass]; rfl)
    | untold _ _ hclass => exact .inr (by rw [Ending.raisedClass?, hclass]; rfl)

end Run.Follows

/-! ## Looking at values -/

open Run (Inspects Follows)

namespace Value

theorem inspects_truthy (v : Value) : v.truthy.Inspects textErrors := by
  unfold truthy
  split
  case h_8 a =>
    refine (Inspects.load a).bind fun o => ?_
    split
    case h_10 kind d =>
      refine (Inspects.load d).bind fun o => ?_
      split <;> exact .pure _
    case h_11 u =>
      split
      · exact inspects_failUndefined u
      · exact .pure _
    case h_9 payload => split <;> exact .pure _
    all_goals exact .pure _
  all_goals exact .pure _

theorem reads_kindName (v : Value) : v.kindName.Reads :=
  ((inspects_classOf v).bind fun c => inspects_classLabel c).reads

/-- What is at an address is loaded in every world with these objects. -/
theorem load_act_of_eq {w w' : World} (h : w'.store = w.store) (a : Addr) :
    (Run.load a).act w' = .ok ((w.store[a]?).getD (.module "")) w' := by
  rw [← h, ← Array.getD_eq_getD_getElem?]
  rfl

theorem dict?_act {w w' : World} (h : w'.store = w.store) (v : Value) :
    ∃ r, v.dict?.act w' = .ok r w' ∧ r.map (·.2.2) = w.dict? v := by
  cases v with
  | ref a =>
    rw [dict?, Run.bind_act, load_act_of_eq h, World.dict?, World.contents?]
    cases w.store[a]? with
    | none => exact ⟨none, rfl, rfl⟩
    | some o => cases o <;> exact ⟨_, rfl, rfl⟩
  | _ => exact ⟨none, rfl, rfl⟩

theorem list?_act {w w' : World} (h : w'.store = w.store) (v : Value) :
    ∃ r, v.list?.act w' = .ok r w' ∧ r.map (·.2.toList) = w.list? v := by
  cases v with
  | ref a =>
    rw [list?, Run.bind_act, load_act_of_eq h, World.list?]
    cases w.store[a]? with
    | none => exact ⟨none, rfl, rfl⟩
    | some o => cases o <;> exact ⟨_, rfl, rfl⟩
  | _ => exact ⟨none, rfl, rfl⟩

end Value

/-- After looking whether a value is a dictionary there are two ways on. -/
theorem Run.Follows.dict {β : Type} {w : World} {v : Value} {p : Plan} {f : Option (Addr × DictFlavour × Dict) → Run β}
    (hnone : w.dict? v = none → (f none).Follows w p)
    (hsome : ∀ a fl d, w.dict? v = some d → (f (some (a, fl, d))).Follows w p) : (v.dict? >>= f).Follows w p := by
  intro w' hw'
  obtain ⟨r, hr, hdict⟩ := Value.dict?_act hw' v
  rw [Run.bind_act, hr]
  cases r with
  | none => exact hnone hdict.symm w' hw'
  | some r => exact hsome r.1 r.2.1 r.2.2 hdict.symm w' hw'

variable {w : World}

/-! ## Loading follows its plan -/

/-- A text is asked for a text, though a missing one is not. -/
theorem follows_fieldText (v : Value) : (fieldText v).Follows w (.asking [.text v]) := by
  cases v with
  | null => exact Follows.of_inspects (.pure "") ⟨fun _ => ⟨"", rfl⟩, fun _ => ⟨"None", rfl⟩⟩
  | _ => exact Follows.of_inspects (Value.inspects_plain _) Iff.rfl

/-- **A whole number has a text exactly when it has no more digits than are written out.** -/
theorem told_int_iff (n : Int) : (Ask.text (.int n)).Told w ↔ n.natAbs < Nat.pow 10 maxDigits := by
  have hdigits : (toString n.natAbs).toList = Nat.toDigits 10 n.natAbs := Nat.toList_repr
  have hlength (k : Nat) (hk : 0 < k) : (toString n.natAbs).length ≤ k ↔ n.natAbs < Nat.pow 10 k := by
    rw [← String.length_toList, hdigits]
    exact Nat.length_toDigits_le_iff (by decide) hk
  have hfew (bits : Nat) (h : n.natAbs.log2 < bits) (hle : Nat.pow 2 bits ≤ Nat.pow 10 maxDigits) :
      n.natAbs < Nat.pow 10 maxDigits :=
    Nat.lt_of_lt_of_le Nat.lt_log2_self (Nat.le_trans (Nat.pow_le_pow_right Nat.two_pos h) hle)
  have hiff := hlength maxDigits (by decide)
  change (∃ s, (showInt n).act w = .ok s w) ↔ _
  rw [showInt]
  split
  case isTrue hlog => exact iff_of_true ⟨_, rfl⟩ (hfew 14280 hlog (by decide +kernel))
  case isFalse =>
    dsimp only
    split
    case isTrue hlong => exact iff_of_false (fun ⟨_, h⟩ => (nomatch h)) fun h => absurd (hiff.2 h) (Nat.not_le.2 hlong)
    case isFalse hshort => exact iff_of_true ⟨_, rfl⟩ (hiff.1 (Nat.not_lt.1 hshort))

theorem Step.follows_ofValue (v : Value) : (Step.ofValue v).Follows w (Step.plan w v) := by
  refine Follows.dict (fun hnone => ?_) (fun a fl d hsome => ?_)
  · rw [plan, hnone]
    exact .after (Value.reads_kindName v) fun kind => .throw _
  · rw [plan, hsome]
    exact (follows_fieldText _).bind fun id _ _ _ _ => (follows_fieldText _).bind fun engine _ _ _ _ =>
      (follows_fieldText _).bind_pure (Step.mk id engine)

theorem Input.follows_ofValue (recipe : String) (v : Value) : (Input.ofValue recipe v).Follows w (Input.plan w v) := by
  rw [Input.ofValue, plan]
  cases v.text? with
  | some s =>
    dsimp only
    split
    · exact .throw _
    · exact .pure _
  | none =>
    refine Follows.dict (fun hnone => ?_) (fun a fl d hsome => ?_)
    · rw [hnone]
      exact .after (Value.reads_kindName v) fun kind => .throw _
    · rw [hsome]
      dsimp only
      split
      · exact .throw _
      · rw [← Plan.all_asking]
        have hkey (x : Value × Value) : x.1.plain.Follows w (.asking [.text x.1]) :=
          Follows.of_inspects (Value.inspects_plain x.1) Iff.rfl
        have hpair (x : Value × Value) := (hkey x).bind_pure (·, x.2)
        exact (Follows.mapM d.pairs hpair).bind_pure fun pairs => Input.defaults (OrderedMap.ofList pairs)

namespace Recipe

/-- Where the truth of a field is told, it has the members that the world has for it, or is refused. -/
theorem listField_act {v : Value} {b : Bool} (hb : ∀ w' : World, w'.store = w.store → v.truthy.act w' = .ok b w')
    (fault : RecipeFault) {w' : World} (hw' : w'.store = w.store) :
    (listField v fault).act w' =
      ((match w.listField? v with
        | some xs => pure xs
        | none => fault.throw : Run (List Value))).act w' := by
  rw [listField, Run.bind_act, hb w' hw', World.listField?, hb w rfl]
  cases b with
  | false => rfl
  | true =>
    obtain ⟨r, hr, hlist⟩ := Value.list?_act hw' v
    have htrue : Ending.result? (.ok true w : Ending Bool) = some true := rfl
    rw [if_pos htrue, ← hlist]
    simp only [if_true, Run.bind_act, hr]
    cases r <;> rfl

theorem follows_listField (v : Value) (fault : RecipeFault) :
    (listField v fault).Follows w ⟨[.truth v], (w.listField? v).isSome⟩ := by
  intro w' hw'
  obtain ⟨b, hb⟩ | ⟨cls, hcls, hraised⟩ := (Value.inspects_truthy v).ends w
  · have htold : ∀ ask ∈ [Ask.truth v], ask.Told w := List.forall_mem_singleton.2 ⟨b, hb w rfl⟩
    rw [listField_act hb fault hw']
    cases w.listField? v with
    | some xs => exact .accepted htold rfl hw'
    | none =>
      obtain ⟨error, left, hend, hclass⟩ :=
        Run.raiseWith_act (α := List Value) Classes.validationError [.str fault.message] [] w'
      rw [show (fault.throw : Run (List Value)).act w' = _ from hend]
      exact .refused htold rfl hclass
  · obtain ⟨error, left, hend, hclass⟩ := hraised w' hw'
    have hfield : (listField v fault).act w' = .error (.raised error) left := by rw [listField, Run.bind_act, hend]
    rw [hfield]
    refine .untold (fun h => ?_) hcls hclass
    obtain ⟨b, hb⟩ := List.forall_mem_singleton.1 h
    obtain ⟨_, _, hend', -⟩ := hraised w rfl
    cases hb.symm.trans hend'

theorem listField_eq {v : Value} {fault : RecipeFault} {w' left : World} {xs : List Value} (hw' : w'.store = w.store)
    (h : (listField v fault).act w' = .ok xs left) : w.listField? v = some xs := by
  obtain ⟨b, hb⟩ | ⟨cls, -, hraised⟩ := (Value.inspects_truthy v).ends w
  · rw [listField_act hb fault hw'] at h
    cases hlist : w.listField? v with
    | some ys =>
      rw [hlist] at h
      cases h
      rfl
    | none =>
      rw [hlist] at h
      cases h
  · obtain ⟨error, left', hend, -⟩ := hraised w' hw'
    rw [listField, Run.bind_act, hend] at h
    cases h

/-- What is reported changes no object. -/
theorem follows_report (names : List String) (message : String → String) :
    (names.forM fun s => Run.log .warning (message s)).Follows w (.asking []) := by
  induction names with
  | nil => exact .pure ()
  | cons s names ih => exact fun w' hw' => ih { w' with log := w'.log.push ⟨.warning, message s⟩ } hw'

/-- **Loading a recipe from a value follows its plan.** -/
theorem follows_ofValue (v source : Value) : (ofValue v source).Follows w (plan w v source) := by
  refine Follows.dict (fun hnone => ?_) (fun a fl d hsome => ?_)
  · rw [plan, hnone]
    exact .after (Value.reads_kindName v) fun kind => .throw _
  · rw [plan, hsome]
    dsimp only
    cases (d.field "jinx_name").text? with
    | none => exact .throw _
    | some name =>
      dsimp only
      split
      · exact .throw _
      · refine (follows_listField _ _).bind fun inputs w₁ left₁ hw₁ hinputs => ?_
        refine (follows_listField _ _).bind fun steps w₂ left₂ hw₂ hsteps => ?_
        rw [listField_eq hw₁ hinputs, listField_eq hw₂ hsteps]
        refine (Follows.mapM inputs (Input.follows_ofValue name)).bind fun declared _ _ _ _ => ?_
        refine (Follows.mapM steps Step.follows_ofValue).bind fun steps _ _ _ _ => ?_
        refine (follows_report _ _).bind (q := .asking [.text _, .truth source]) fun _ _ _ _ _ => ?_
        refine (follows_fieldText _).bind (q := .asking [.truth source]) fun description _ _ _ _ => ?_
        have htruth : source.truthy.Follows w (.asking [.truth source]) :=
          Follows.of_inspects (Value.inspects_truthy source) Iff.rfl
        rw [← Plan.andThen_nil (.asking [.truth source])]
        exact htruth.bind fun given _ _ _ _ => by cases given <;> exact .pure _

/-! ## Loading -/

/-- The value has all that is asked of it; a text is no document or has such a value. -/
def Answerable (w : World) (raw source : Value) : Prop :=
  match raw.text? with
  | none => ∀ ask ∈ (plan w raw source).asks, ask.Told w
  | some text => match (Document.read text).act w with
    | .ok (.ok v) left => ∀ ask ∈ (plan left v source).asks, ask.Told left
    | .ok (.error fault) _ => fault = .malformed
    | .error .. => False

/-- Loading always ends. -/
theorem load_ends (raw source : Value) (w : World) :
    ((load raw source).act w).result?.isSome = true ∨ ((load raw source).act w).raisedClass?.isSome = true := by
  have hraised (cls message : String) (w : World) :
      ((Run.raise cls message : Run Recipe).act w).raisedClass?.isSome = true := by
    obtain ⟨error, left, hend, hclass⟩ := Run.raiseWith_act (α := Recipe) cls [.str message] [] w
    rw [Run.raise, hend, Ending.raisedClass?, hclass]
    rfl
  rw [load]
  cases raw.text? with
  | none => exact (follows_ofValue raw source).result_or_raised
  | some text =>
    dsimp only
    rw [ofText, Run.bind_act]
    have hread := Document.read_ends text w
    cases hend : (Document.read text).act w with
    | error failure left =>
      rw [hend] at hread
      cases hread with
      | meaningless _ _ hclass _ => exact .inr (by rw [Ending.raisedClass?, hclass]; rfl)
    | ok r left =>
      cases r with
      | ok v => exact (follows_ofValue v source).result_or_raised
      | error fault =>
        cases fault with
        | malformed => exact .inr (hraised _ _ left)
        | noSuchChar code =>
          dsimp only
          split <;> exact .inr (hraised _ _ left)

/-- **Loading ends with a recipe or the error of a value that is none exactly when all that is asked is told.**
That is so of every value, and of every text as what is read from it has it; and there always is an end. A text
from which nothing can be read, though the reader takes it for a document, has a scalar without a meaning; and
what the reader finds wrong beyond that is a number that stands for no character. -/
theorem load_answered_iff (raw source : Value) (w : World) :
    (((load raw source).act w).result?.isSome = true ∨ ((load raw source).act w).raisedClass?.isSome = true) ∧
    (((load raw source).act w).Answered ↔ Answerable w raw source) ∧
    ∀ text, raw.text? = some text →
      (∀ failure left, (Document.read text).act w = .error failure left →
        ∃ g root, Document.graphOf text = .ok (g, root) ∧ Document.Meaningless g) ∧
      ∀ code left, (Document.read text).act w = .ok (.error (.noSuchChar code)) left →
        Document.graphOf text = .error (.noSuchChar code) := by
  refine ⟨load_ends raw source w, ?_, fun text _ => ?_⟩
  · rw [load, Answerable]
    cases raw.text? with
    | none => exact (follows_ofValue raw source).answered_iff
    | some text =>
      dsimp only
      rw [ofText, Run.bind_act]
      have hread := Document.read_ends text w
      cases hend : (Document.read text).act w with
      | error failure left =>
        rw [hend] at hread
        cases hread with
        | meaningless _ _ hclass hcls =>
          exact iff_of_false (fun h => hcls (Option.some.inj (hclass.symm.trans h))) id
      | ok r left =>
        cases r with
        | ok v => exact (follows_ofValue v source).answered_iff
        | error fault =>
          cases fault with
          | malformed => exact iff_of_true ((answered_raise_iff _ _ left).2 rfl) rfl
          | noSuchChar code =>
            refine iff_of_false (fun h => ?_) (nomatch ·)
            dsimp only at h
            split at h
            · exact absurd ((answered_raise_iff _ _ left).1 h) (by decide)
            · exact absurd ((answered_raise_iff _ _ left).1 h) (by decide)
  · have hread := Document.read_ends text w
    constructor
    · intro failure left hend
      rw [hend] at hread
      cases hread with
      | meaningless hgraph hmeaningless => exact ⟨_, _, hgraph, hmeaningless⟩
    · intro code left hend
      rw [hend] at hread
      cases hread with
      | fault hgraph => exact hgraph

/-- **A day that is not in the calendar is no answer**: the error is that of the conversion. -/
theorem load_not_answered_of_day :
    ((load (.str "jinx_name: 2020-13-01") .null).act {}).raisedClass? = some "ValueError" ∧
      ¬ ((load (.str "jinx_name: 2020-13-01") .null).act {}).Answered := by
  decide +kernel

end Recipe

end Stepwise
