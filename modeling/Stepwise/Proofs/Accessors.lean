import Stepwise.Proofs.Accepting
/-!
# What the accessors of a context answer

An accessor insists on a kind. `Kind.Promised` is what it is said to answer: the default as it was given, the
value if it is of the kind, and otherwise an error that names the kind. `Context.get_promised_iff` says where
that is true. The accessors of numbers treat a default like a value of the context, so that `get_int` refuses
truth values that it was given itself and `get_float` converts what it was given.
-/

namespace Stepwise

/-! ## What a value is -/

namespace World

/-- What an instance holds, and any other value itself. -/
def payload (w : World) (v : Value) : Value :=
  match v with
  | .ref a =>
    match w.store[a]? with
    | some (.instance _ p) => if p.isNull then v else p
    | _ => v
  | _ => v

/-- The members of the tuple that a value is. -/
def tuple? (w : World) : Value → Option (List Value)
  | .ref a => match w.store[a]? with
    | some (.tuple _ xs) => some xs
    | _ => none
  | _ => none

end World

namespace Value

theorem payload_act (v : Value) (w : World) : v.payload.act w = .ok (w.payload v) w := by
  cases v with
  | ref a =>
    rw [Value.payload, Run.bind_act, load_act_of_eq rfl, World.payload]
    cases w.store[a]? with
    | none => rfl
    | some o =>
      cases o with
      | «instance» c p =>
        dsimp only [Option.getD_some]
        split <;> rfl
      | _ => rfl
  | _ => rfl

theorem tuple?_act (v : Value) (w : World) : v.tuple?.act w = .ok (w.tuple? v) w := by
  cases v with
  | ref a =>
    rw [Value.tuple?, Run.bind_act, load_act_of_eq rfl, World.tuple?]
    cases w.store[a]? with
    | none => rfl
    | some o => cases o <;> rfl
  | _ => rfl

theorem reads_isCallable (v : Value) : v.isCallable.Reads := by
  unfold isCallable
  split
  case h_4 => exact (Run.reads_load _).bind fun o => by split <;> exact Run.reads_pure _
  all_goals exact Run.reads_pure _

end Value

/-! ## What a value is converted to -/

/-- The classes of the errors that a conversion to a double may raise. -/
def conversionErrors : List String := "TypeError" :: "OverflowError" :: textErrors

open Run (Inspects)

namespace Value

theorem inspects_toFloat (v : Value) : v.toFloat.Inspects conversionErrors := by
  unfold toFloat
  split
  case h_2 n =>
    unfold floatOfInt
    split
    · exact .pure _
    · exact .raise _ (by decide)
  case h_7 =>
    have hname : v.kindName.Inspects conversionErrors := (inspects_classOf v).bind fun c => inspects_classLabel c
    exact hname.bind fun name => .raise _ (by decide)
  all_goals first
    | exact .pure _
    | (split <;> first | exact .pure _ | exact .raise _ (by decide))

theorem inspects_payload {errors : List String} (v : Value) : v.payload.Inspects errors := by
  cases v with
  | ref a =>
    refine (Inspects.load a).bind fun o => ?_
    split
    · split <;> exact .pure _
    · exact .pure _
  | _ => exact .pure _

/-- **Converting a value to a double is looking.** -/
theorem inspects_convertToFloat (v : Value) : v.convertToFloat.Inspects conversionErrors := by
  have hobject : (Run.object? v).Inspects conversionErrors := by
    cases v with
    | ref a => exact (Inspects.load a).bind fun o => .pure _
    | _ => exact .pure _
  refine hobject.bind fun o => ?_
  split
  · exact (inspects_failUndefined _).mono (by decide)
  · refine (inspects_payload v).bind fun p => ?_
    split
    · exact inspects_toFloat v
    · exact inspects_toFloat _

end Value

/-! ## What the accessors promise -/

namespace Context

/-- The value is of the kind. A truth value is no number, and an instance is what it holds. -/
def Kind.Has (kind : Kind) (w : World) (v : Value) : Prop :=
  match kind with
  | .str => (w.payload v).text?.isSome
  | .int => (∀ b, v ≠ .bool b) ∧ (w.payload v).int?.isSome
  | .float => (∀ b, v ≠ .bool b) ∧ (w.payload v).numeric?.isSome
  | .bool => ∃ b, v = .bool b
  | .list => (w.list? (w.payload v)).isSome ∨ (w.tuple? (w.payload v)).isSome
  | .dict => (w.dict? (w.payload v)).isSome
  | .callable => ((w.payload v).isCallable.act w).result? = some true

/-- What the accessor for a kind is said to answer to a key, by the value that the context holds under the key
and by the default, where there are any. The world is as it was, but for an error that is new. -/
inductive Kind.Promised (kind : Kind) (w : World) (key : Value) : Option Value → Option Value → Ending Value → Prop
  | default (d : Value) : Promised kind w key none (some d) (.ok d w)
  | missing : Promised kind w key none none ((Run.raiseWith "KeyError" [key]).act w)
  | value {v : Value} {default : Option Value} : kind ≠ .float → kind.Has w v →
      Promised kind w key (some v) default (.ok v w)
  | number {v : Value} {default : Option Value} {x : Float} : kind = .float → kind.Has w v →
      v.convertToFloat.act w = .ok x w → Promised kind w key (some v) default (.ok (.float x) w)
  | refused {v : Value} {default : Option Value} (message : String) : ¬ kind.Has w v →
      Promised kind w key (some v) default ((Run.raise Classes.contextTypeError message).act w)

/-- Where the accessor for a kind answers something else: `get_int` refuses a default that is a truth value,
`get_float` converts its default, some whole numbers are too large for a double, and the text of a key can be
impossible to tell. -/
inductive Kind.Strays (w : World) (key : Value) : Kind → Option Value → Option Value → Prop
  | truth (b : Bool) : Strays w key .int none (some (.bool b))
  | converted {d : Value} : (∀ x, d ≠ .float x) → Strays w key .float none (some d)
  | overflow {v : Value} {default : Option Value} {n : Int} : (∀ b, v ≠ .bool b) → w.payload v = .int n →
      Number.ofInt? n = none → Strays w key .float (some v) default
  | untold {kind : Kind} {v : Value} {default : Option Value} : ¬ kind.Has w v →
      (∀ text, key.plain.act w ≠ .ok text w) → Strays w key kind (some v) default

/-! ## What the accessors do -/

variable {w : World} {kind : Kind} {key v : Value} {default : Option Value} {context : Addr} {k : Key}

/-- Looking for the kind tells whether the value is of it; truth values are taken for numbers at first. -/
theorem Kind.accepts_act (kind : Kind) (v : Value) (w : World) :
    ∃ b, (kind.accepts v).act w = .ok b w ∧
      (kind.Has w v ↔ b = true ∧ (kind = .int ∨ kind = .float → ∀ t, v ≠ .bool t)) := by
  have hpayload := v.payload_act w
  cases kind with
  | str =>
    refine ⟨_, by unfold accepts; rw [Run.bind_act, hpayload]; rfl, ?_⟩
    simp [Has]
  | int =>
    refine ⟨_, by unfold accepts; rw [Run.bind_act, hpayload]; rfl, ?_⟩
    simp [Has, and_comm]
  | float =>
    refine ⟨_, by unfold accepts; rw [Run.bind_act, hpayload]; rfl, ?_⟩
    simp [Has, and_comm]
  | bool =>
    cases v with
    | bool t => exact ⟨true, by unfold accepts; rw [Run.bind_act, hpayload]; rfl, by simp [Has]⟩
    | _ => exact ⟨false, by unfold accepts; rw [Run.bind_act, hpayload]; rfl, by simp [Has]⟩
  | list =>
    obtain ⟨r, hr, hlist⟩ := Value.list?_act (w := w) rfl (w.payload v)
    refine ⟨r.isSome || (w.tuple? (w.payload v)).isSome, ?_, ?_⟩
    · unfold accepts
      simp only [Run.bind_act, hpayload, hr, Value.tuple?_act, Run.pure_act]
    · rw [Has, ← hlist]
      cases r <;> simp
  | dict =>
    obtain ⟨r, hr, hdict⟩ := Value.dict?_act (w := w) rfl (w.payload v)
    refine ⟨r.isSome, ?_, ?_⟩
    · unfold accepts
      simp only [Run.bind_act, hpayload, hr, Run.pure_act]
    · rw [Has, ← hdict]
      cases r <;> simp
  | callable =>
    obtain ⟨b, hb⟩ := (w.payload v).reads_isCallable w
    refine ⟨b, ?_, ?_⟩
    · unfold accepts
      simp only [Run.bind_act, hpayload, hb]
    · rw [Has, hb]
      simp [Ending.result?]

/-- Either a number is asked for and there is a truth value, or not. -/
theorem Kind.truth_or_not (kind : Kind) (v : Value) :
    ((kind = .int ∨ kind = .float) ∧ ∃ t, v = .bool t) ∨ (kind = .int ∨ kind = .float → ∀ t, v ≠ .bool t) := by
  by_cases h : ∃ t, v = .bool t
  · by_cases hkind : kind = .int ∨ kind = .float
    · exact .inl ⟨hkind, h⟩
    · exact .inr fun hnumber => absurd hnumber hkind
  · exact .inr fun _ t ht => h ⟨t, ht⟩

/-- What is not refused as a truth value is handed over, and converted where a double is asked for. -/
theorem Kind.finish_act (hv : kind = .int ∨ kind = .float → ∀ t, v ≠ .bool t) :
    (kind.finish key v).act w =
      if kind = .float then (do return .float (← v.convertToFloat) : Run Value).act w else .ok v w := by
  cases kind with
  | int | float =>
    have hbool : ∀ t, v ≠ .bool t := hv (by simp)
    cases v with
    | bool t => exact absurd rfl (hbool t)
    | _ => rfl
  | _ => rfl

/-- A refusal that names the key is made exactly where the key can be named. -/
theorem refusal_iff {refuse : String → Run Value}
    (hrefuse : ∀ text, ∃ message, (refuse text).act w = (Run.raise Classes.contextTypeError message).act w) :
    (∃ message, (key.plain >>= refuse).act w = (Run.raise Classes.contextTypeError message).act w) ↔
      ∃ text, key.plain.act w = .ok text w := by
  rw [Run.bind_act]
  obtain ⟨text, htext⟩ | ⟨cls, hcls, message, htext⟩ := (Value.inspects_plain key).act_cases w
  · rw [htext]
    exact iff_of_true (hrefuse text) ⟨text, rfl⟩
  · rw [htext]
    refine iff_of_false ?_ (by rintro ⟨text, h⟩; cases h)
    rintro ⟨message', h⟩
    have hother : (w.raising cls message).errorClass? w.store.size = some cls :=
      World.errorClass?_of_get Array.getElem?_push_size
    have hrefused : (w.raising Classes.contextTypeError message').errorClass? w.store.size =
        some Classes.contextTypeError := World.errorClass?_of_get Array.getElem?_push_size
    have hworld : w.raising cls message = w.raising Classes.contextTypeError message' :=
      congrArg Ending.world h
    rw [hworld, hrefused] at hother
    cases hother
    revert hcls
    decide

theorem Kind.finish_truth_iff (hkind : kind = .int ∨ kind = .float) (t : Bool) :
    (∃ message, (kind.finish key (.bool t)).act w = (Run.raise Classes.contextTypeError message).act w) ↔
      ∃ text, key.plain.act w = .ok text w := by
  rcases hkind with rfl | rfl <;> exact refusal_iff fun text => ⟨_, rfl⟩

theorem Kind.finish_truth_ne_ok (hkind : kind = .int ∨ kind = .float) (t : Bool) (x : Value) (w' : World) :
    (kind.finish key (.bool t)).act w ≠ .ok x w' := by
  have hends : ∀ message : String → String,
      (key.plain >>= fun text => (Run.raise Classes.contextTypeError (message text) : Run Value)).act w ≠ .ok x w' := by
    intro message h
    rw [Run.bind_act] at h
    split at h <;> cases h
  rcases hkind with rfl | rfl <;> exact hends _

theorem wrongKind_iff :
    (∃ message, (wrongKind kind key v : Run Value).act w = (Run.raise Classes.contextTypeError message).act w) ↔
      ∃ text, key.plain.act w = .ok text w := by
  refine refusal_iff fun text => ?_
  obtain ⟨name, hname⟩ := v.reads_kindName w
  exact ⟨_, by rw [Run.bind_act, hname]⟩

/-- There is no undefined value behind a number. -/
theorem object?_of_number (hv : (w.payload v).numeric?.isSome) :
    ∃ o, (Run.object? v).act w = .ok o w ∧ ∀ u, o ≠ some (.undefined u) := by
  cases v with
  | ref a =>
    refine ⟨some ((w.store[a]?).getD (.module "")), ?_, fun u hu => ?_⟩
    · rw [Run.object?, Run.bind_act, Value.load_act_of_eq rfl]
      rfl
    · rw [World.payload] at hv
      cases hget : w.store[a]? with
      | none =>
        rw [hget] at hv
        cases hv
      | some o =>
        rw [hget] at hu hv
        cases hu
        cases hv
  | _ => exact ⟨none, rfl, by simp⟩

/-- A number is converted as what it holds. -/
theorem convertToFloat_act (hv : (w.payload v).numeric?.isSome) :
    v.convertToFloat.act w = (w.payload v).toFloat.act w := by
  obtain ⟨o, ho, hdefined⟩ := object?_of_number hv
  rw [Value.convertToFloat, Run.bind_act, ho]
  dsimp only
  split
  case h_1 u => exact absurd rfl (hdefined u)
  case h_2 =>
    rw [Run.bind_act, Value.payload_act]
    cases hp : w.payload v with
    | ref =>
      rw [hp] at hv
      cases hv
    | _ => rfl

/-- A number that is no truth value is converted, unless it is a whole number that is too large. -/
theorem convertToFloat_ok_iff (hv : Kind.float.Has w v) :
    (∃ x, v.convertToFloat.act w = .ok x w) ↔ ∀ n, w.payload v = .int n → Number.ofInt? n ≠ none := by
  rw [convertToFloat_act hv.2]
  cases hp : w.payload v with
  | int n =>
    have hconvert : (Value.int n).toFloat.act w = (floatOfInt n).act w := rfl
    rw [hconvert, floatOfInt]
    cases hn : Number.ofInt? n with
    | some x => simp [hn]
    | none =>
      refine iff_of_false ?_ (by simp [hn])
      rintro ⟨x, hx⟩
      cases hx
  | float x => exact iff_of_true ⟨x, rfl⟩ (by simp)
  | bool b => exact iff_of_true ⟨_, rfl⟩ (by simp)
  | _ =>
    have hnumber := hv.2
    rw [hp] at hnumber
    cases hnumber

/-! ## Where the promise is kept -/

theorem get_missing (hcontext : w.HasContext context) (hkey : key.key.act w = .ok k w)
    (hmissing : w.item? context k = none) :
    (get kind context key default).act w = (match default with
      | none => Run.raiseWith "KeyError" [key]
      | some d => kind.finish key d : Run Value).act w := by
  obtain ⟨names, d, hd⟩ := hcontext
  have hfind : d.get? k = none := by rwa [World.item?, World.contents?, hd] at hmissing
  cases default <;> simp only [get, dict, Run.bind_act, Run.load_act hd, Run.pure_act, hkey, hfind]

theorem get_found (hcontext : w.HasContext context) (hkey : key.key.act w = .ok k w)
    (hfound : w.item? context k = some v) :
    (get kind context key default).act w =
      (do if ← kind.accepts v then kind.finish key v else wrongKind kind key v : Run Value).act w := by
  obtain ⟨names, d, hd⟩ := hcontext
  have hfind : d.get? k = some v := by rwa [World.item?, World.contents?, hd] at hfound
  simp only [get, dict, Run.bind_act, Run.load_act hd, Run.pure_act, hkey, hfind]

/-- What is not of the kind is refused as promised where the key can be named. -/
theorem Kind.promised_refusal_iff {e : Ending Value} (hv : ¬ kind.Has w v)
    (hrefused : (∃ message, e = (Run.raise Classes.contextTypeError message).act w) ↔
      ∃ text, key.plain.act w = .ok text w) :
    kind.Promised w key (some v) default e ↔ ¬ kind.Strays w key (some v) default := by
  have hpromised : kind.Promised w key (some v) default e ↔
      ∃ message, e = (Run.raise Classes.contextTypeError message).act w := by
    constructor
    · intro h
      cases h with
      | value _ hhas => exact absurd hhas hv
      | number _ hhas => exact absurd hhas hv
      | refused message => exact ⟨message, rfl⟩
    · rintro ⟨message, rfl⟩
      exact .refused message hv
  rw [hpromised, hrefused]
  constructor
  · rintro ⟨text, htext⟩ hstrays
    cases hstrays with
    | overflow hbool hpayload => exact hv ⟨hbool, by rw [hpayload]; rfl⟩
    | untold _ huntold => exact huntold text htext
  · intro hstrays
    refine Classical.byContradiction fun htext => hstrays (.untold hv fun text h => htext ⟨text, h⟩)

/-- The default is handed over unchanged except where the accessor strays. -/
theorem Kind.finish_default_iff (d : Value) :
    (kind.finish key d).act w = .ok d w ↔ ¬ kind.Strays w key none (some d) := by
  obtain ⟨hkind, t, rfl⟩ | hbool := kind.truth_or_not d
  · refine iff_of_false (finish_truth_ne_ok hkind t _ _) (fun h => h ?_)
    rcases hkind with rfl | rfl
    · exact .truth t
    · exact .converted (by simp)
  · rw [finish_act hbool]
    split
    case isFalse hkind =>
      refine iff_of_true rfl fun h => ?_
      cases h with
      | truth b => exact hbool (.inl rfl) b rfl
      | converted => exact hkind rfl
    case isTrue hkind =>
      subst hkind
      by_cases hfloat : ∃ x, d = .float x
      · obtain ⟨x, rfl⟩ := hfloat
        refine iff_of_true rfl fun h => ?_
        cases h with
        | converted hother => exact hother x rfl
      · have hother : ∀ x, d ≠ .float x := by simpa using hfloat
        refine iff_of_false (fun h => ?_) (fun h => h (.converted hother))
        rw [Run.bind_act] at h
        split at h
        · cases h
          exact hother _ rfl
        · cases h

/-- **The accessors answer what they promise except where they stray.** That is for every context and key, whatever
the context holds under the key and whatever the default. -/
theorem get_promised_iff (kind : Kind) {context : Addr} {w : World} {key : Value} {k : Key} (default : Option Value)
    (hcontext : w.HasContext context) (hkey : key.key.act w = .ok k w) :
    kind.Promised w key (w.item? context k) default ((get kind context key default).act w) ↔
      ¬ kind.Strays w key (w.item? context k) default := by
  cases hitem : w.item? context k with
  | none =>
    rw [get_missing hcontext hkey hitem]
    cases default with
    | none => exact iff_of_true .missing (by intro h; cases h)
    | some d =>
      rw [← Kind.finish_default_iff d]
      constructor
      · intro h
        generalize (kind.finish key d).act w = e at h
        cases h
        rfl
      · intro h
        dsimp only
        rw [h]
        exact .default d
  | some v =>
    rw [get_found hcontext hkey hitem]
    obtain ⟨b, hb, hhas⟩ := kind.accepts_act v w
    rw [Run.bind_act, hb]
    cases b with
    | false => exact Kind.promised_refusal_iff (fun h => by simpa using (hhas.1 h).1) wrongKind_iff
    | true =>
      obtain ⟨hkind, t, rfl⟩ | hbool := kind.truth_or_not v
      · exact Kind.promised_refusal_iff (fun h => (hhas.1 h).2 hkind t rfl) (Kind.finish_truth_iff hkind t)
      · have hv : kind.Has w v := hhas.2 ⟨rfl, hbool⟩
        dsimp only
        rw [if_pos rfl, Kind.finish_act hbool]
        split
        case isFalse hkind =>
          refine iff_of_true (.value hkind hv) fun h => ?_
          cases h with
          | overflow => exact hkind rfl
          | untold hnot => exact hnot hv
        case isTrue hkind =>
          subst hkind
          rw [Run.bind_act]
          obtain ⟨x, hx⟩ | ⟨cls, -, message, hx⟩ := v.inspects_convertToFloat.act_cases w
          · rw [hx]
            refine iff_of_true (.number rfl hv hx) fun h => ?_
            cases h with
            | overflow _ hpayload hlarge => exact (convertToFloat_ok_iff hv).1 ⟨x, hx⟩ _ hpayload hlarge
            | untold hnot => exact hnot hv
          · rw [hx]
            have hfails : ¬ ∃ x, v.convertToFloat.act w = .ok x w := by
              rintro ⟨x, h⟩
              cases hx.symm.trans h
            dsimp only
            refine iff_of_false (fun h => ?_) (fun h => hfails ?_)
            · generalize (.error (.raised w.store.size) (w.raising cls message) : Ending Value) = e at h
              cases h with
              | value hkind => exact hkind rfl
              | number _ _ hconverted => exact hfails ⟨_, hconverted⟩
              | refused _ hnot => exact hnot hv
            · exact (convertToFloat_ok_iff hv).2 fun n hpayload hlarge => h (.overflow hv.1 hpayload hlarge)

/-- A world with a context that holds a number and an empty output. -/
def shelf : World :=
  { store := #[.dict (.context []) (Dict.ofTexts [(outputKey, .null), ("n", .int 3)])] }

/-- What is there is handed over and the default does not count, and a default that is no number is as good as
another for `get_int`. -/
theorem get_promised_of_number :
    Kind.int.Promised shelf (.str "n") (some (.int 3)) (some (.bool true))
        ((get .int 0 (.str "n") (some (.bool true))).act shelf) ∧
      Kind.int.Promised shelf (.str "x") none (some (.str "none"))
        ((get .int 0 (.str "x") (some (.str "none"))).act shelf) := by
  have hcontext : shelf.HasContext 0 := ⟨[], _, rfl⟩
  have hkey : ∀ s, (Value.str s).key.act shelf = .ok (Dict.textKey s) shelf := fun _ => rfl
  constructor
  · refine (get_promised_iff .int (some (.bool true)) hcontext (hkey "n")).2 fun h => ?_
    cases h with
    | untold hnot => exact hnot ⟨by simp, rfl⟩
  · refine (get_promised_iff .int (some (.str "none")) hcontext (hkey "x")).2 fun h => ?_
    cases h

/-- **A default is not always handed over unchanged.** `get_float` fails on nothing and makes a double of a whole
number, and `get_int` refuses a truth value. -/
theorem default_not_kept :
    shelf.item? 0 (Dict.textKey "x") = none ∧
      ((get .float 0 (.str "x") (some .null)).act shelf).raisedClass? = some "TypeError" ∧
      (∀ w, (get .float 0 (.str "x") (some (.int 5))).act shelf ≠ .ok (.int 5) w) ∧
      ((get .int 0 (.str "x") (some (.bool true))).act shelf).raisedClass? = some Classes.contextTypeError := by
  refine ⟨by decide +kernel, by decide +kernel, fun w h => ?_, by decide +kernel⟩
  cases h

end Context

end Stepwise
