import Stepwise.Proofs.Messages
/-!
# Scripts in threads of their own

A script runs in the thread that all share or in one of its own. Where it was never refused to wait, its
statements end alike in both (`ScriptEngine.start_agrees`), because every run carries the proof of it. What is
left is the way of an error from one thread to the other: an error of time that has run out is made anew from
its arguments, and a file that it names is not among them. `ScriptEngine.threads_alike_iff` says when nothing
is lost on that way.
-/

namespace Stepwise

namespace Run

variable {α β : Type}

/-- The run is not refused to wait. -/
def Quiet (x : Run α) (w : World) : Prop := (x.act w).world.refusals = w.refusals

instance (x : Run α) (w : World) : Decidable (x.Quiet w) := inferInstanceAs (Decidable (_ = _))

/-- A run that is not refused to wait is not refused in its second part. -/
theorem Quiet.of_bind {x : Run α} {f : α → Run β} {w w' : World} {a : α} (h : (x >>= f).Quiet w)
    (hx : x.act w = .ok a w') : (f a).Quiet w' := by
  have hfirst := x.grows w
  have hrest := (f a).grows w'
  rw [Quiet, bind_act, hx] at h
  rw [hx] at hfirst
  exact Nat.le_antisymm (h ▸ hfirst.refusals_le) hrest.refusals_le

/-- Runs that begin alike end alike if they go on alike where they are not refused to wait. -/
theorem bind_agrees {x : Run α} {f g : α → Run β} {w : World} (h : (x >>= f).Quiet w)
    (hrest : ∀ a w', (f a).Quiet w' → (g a).act w' = (f a).act w') : (x >>= g).act w = (x >>= f).act w := by
  cases hx : x.act w with
  | error f w' => rw [bind_act, bind_act, hx]
  | ok a w' =>
    rw [bind_act, bind_act, hx]
    exact hrest a w' (h.of_bind hx)

/-- In a thread of its own a run ends as it does in the common one, if it is not refused to wait there. -/
theorem outcome_aside_agrees {x : Run α} {w : World} (h : (outcome x).Quiet w) :
    (outcome x.aside).act w = (outcome x).act w := by
  rw [Quiet, outcome_act, Ending.world_outcome] at h
  exact congrArg Ending.outcome (x.agrees w h)

end Run

/-! ## Errors made anew -/

/-- A file is named in the error. -/
def Obj.NamesFile : Obj → Prop
  | .error _ _ fields => (fields.lookup "filename").isSome = true
  | _ => False

theorem namedFiles_cases (rest : List Value) :
    namedFiles rest = [] ∨ ∃ f others, namedFiles rest = ("filename", f) :: others := by
  cases rest with
  | nil => exact .inl rfl
  | cons f more =>
    cases hf : f.isNull with
    | true => exact .inl (if_pos hf)
    | false => exact .inr ⟨f, _, if_neg (hf ▸ Bool.false_ne_true)⟩

section

variable {cls : String} {n m : Value} {rest : List Value}

theorem systemError_long (hlong : 3 < rest.length) :
    systemError cls (n :: m :: rest) = .error (.cls cls) (n :: m :: rest) [] := if_pos hlong

theorem systemError_unnamed (hshort : ¬ 3 < rest.length) (hfiles : namedFiles rest = []) :
    systemError cls (n :: m :: rest) =
      .error (.cls cls) (n :: m :: rest) [("errno", n), ("strerror", m)] := by
  rw [systemError, if_neg hshort, hfiles]
  rfl

/-- Only the number and the text stay among the arguments where a file is named. -/
theorem systemError_named (hshort : ¬ 3 < rest.length) {f : Value} {others : List (String × Value)}
    (hfiles : namedFiles rest = ("filename", f) :: others) :
    systemError cls (n :: m :: rest) =
      .error (.cls cls) [n, m] ([("errno", n), ("strerror", m)] ++ ("filename", f) :: others) := by
  rw [systemError, if_neg hshort, hfiles]
  rfl

end

/-- **Made anew from its arguments a system error is what it was, unless it named a file.** -/
theorem systemError_again_iff {cls : String} {given args : List Value} {fields : List (String × Value)}
    (h : systemError cls given = .error (.cls cls) args fields) :
    systemError cls args = .error (.cls cls) args fields ↔ ¬ (systemError cls given).NamesFile := by
  -- where nothing is taken away the arguments are those that were given
  have hsame (hargs : args = given) (hnot : ¬ (systemError cls given).NamesFile) :
      systemError cls args = .error (.cls cls) args fields ↔ ¬ (systemError cls given).NamesFile :=
    ⟨fun _ => hnot, fun _ => hargs ▸ h⟩
  match given with
  | [] | [_] =>
    cases h
    exact hsame rfl Bool.false_ne_true
  | n :: m :: rest =>
    by_cases hlong : 3 < rest.length
    case pos =>
      rw [systemError_long hlong] at h hsame ⊢
      cases h
      exact hsame rfl Bool.false_ne_true
    case neg =>
      obtain hfiles | ⟨f, others, hfiles⟩ := namedFiles_cases rest
      case inl =>
        rw [systemError_unnamed hlong hfiles] at h hsame ⊢
        cases h
        exact hsame rfl Bool.false_ne_true
      case inr =>
        rw [systemError_named hlong hfiles] at h ⊢
        cases h
        exact ⟨fun hagain => (nomatch hagain), fun hnot => absurd rfl hnot⟩

/-! ## Ways to end alike -/

/-- Two runs end alike: in the same way, or the second raises an error behind all objects that is the same as
the one that the first raised. -/
inductive Ending.Alike {α : Type} : Ending α → Ending α → Prop
  | same (x : Ending α) : Alike x x
  | moved {error : Addr} {w : World} {cls : Value} {args : List Value} {fields : List (String × Value)} :
      w.store[error]? = some (.error cls args fields) →
      Alike (.error (.raised error) w)
        (.error (.raised w.store.size) { w with store := w.store.push (.error cls args fields) })

/-- The text of an error is that of its class, its arguments and its fields. -/
theorem errorMessage_act {w : World} {error : Addr} {cls : Value} {args : List Value}
    {fields : List (String × Value)} (h : w.store[error]? = some (.error cls args fields)) :
    (errorMessage error).act w = (errorText cls args fields (Value.plainAt 899)).act w := by
  have hmessage : errorMessage error = Value.plainAt (899 + 1) (.ref error) := rfl
  rw [hmessage, Value.plainAt, Run.bind_act, Run.load_act h]

/-- Runs that end alike raise the same error with the same text, if any. -/
theorem Ending.Alike.same_error {α : Type} {x y : Ending α} (h : x.Alike y) {error : Addr}
    (hx : x.raised? = some error) :
    ∃ error', y.raised? = some error' ∧ y.world.store[error']? = y.world.store[error]? ∧
      (errorMessage error').act y.world = (errorMessage error).act y.world := by
  cases h with
  | same => exact ⟨error, hx, rfl, rfl⟩
  | @moved _ w cls args fields ho =>
    cases hx
    have hold : (w.store.push (.error cls args fields))[error]? = some (.error cls args fields) :=
      World.get_push ho _
    have hnew : (w.store.push (.error cls args fields))[w.store.size]? = some (.error cls args fields) :=
      Array.getElem?_push_size
    exact ⟨w.store.size, rfl, hnew.trans hold.symm, (errorMessage_act hnew).trans (errorMessage_act hold).symm⟩

namespace World

/-- The error is of the class of the end of an iteration, or of one below it. -/
def StopsIteration (w : World) (error : Addr) : Prop :=
  ((Run.errorClass error >>= fun c => Value.isSubclass c (.cls "StopIteration")).act w).result? = some true

instance (w : World) (error : Addr) : Decidable (w.StopsIteration error) := inferInstanceAs (Decidable (_ = _))

/-- If the error is one of time that has run out, it is what its class makes of its arguments. -/
def Lasts (w : World) (error : Addr) : Prop :=
  ∀ args fields, w.store[error]? = some (.error (.cls "TimeoutError") args fields) →
    systemError "TimeoutError" args = .error (.cls "TimeoutError") args fields

theorem lasts_of_class {w : World} {error : Addr} (h : w.errorClass? error ≠ some "TimeoutError") :
    w.Lasts error :=
  fun _ _ hstored => absurd (errorClass?_of_get hstored) h

/-- An error that its class made lasts exactly if it names no file. -/
theorem lasts_iff {w : World} {error : Addr} {given : List Value}
    (h : w.store[error]? = some (systemError "TimeoutError" given)) :
    w.Lasts error ↔ ¬ (systemError "TimeoutError" given).NamesFile := by
  obtain ⟨args, fields, hmade⟩ : ∃ args fields,
      systemError "TimeoutError" given = .error (.cls "TimeoutError") args fields := by
    unfold systemError
    split
    case h_1 =>
      split
      · exact ⟨_, _, rfl⟩
      · exact ⟨_, _, rfl⟩
    case h_2 => exact ⟨_, _, rfl⟩
  rw [← systemError_again_iff hmade]
  rw [hmade] at h
  refine ⟨fun hlasts => hlasts args fields h, fun hagain args' fields' hstored => ?_⟩
  cases h.symm.trans hstored
  exact hagain

end World

namespace ScriptEngine

variable {m : Machine} {host : Host} {source : String} {context : Value} {step : String} {w : World}

/-- **The statements of a script end alike in both threads**, unless they are refused to wait. -/
theorem start_agrees (hquiet : (start m false source context step).Quiet w) :
    (start m true source context step).act w = (start m false source context step).act w :=
  Run.bind_agrees hquiet fun _ _ hbody =>
    Run.bind_agrees hbody fun _ _ hstatements => Run.outcome_aside_agrees hstatements

/-- An error of time that has run out arrives behind all objects. -/
theorem arriving_remade {error : Addr} {args : List Value} {fields : List (String × Value)}
    (h : w.store[error]? = some (.error (.cls "TimeoutError") args fields)) :
    (arriving error).act w =
      .ok w.store.size { w with store := w.store.push (systemError "TimeoutError" args) } := by
  rw [arriving, Run.bind_act, Run.load_act h]
  rfl

/-- Any other one arrives as it is. -/
theorem arriving_same {error : Addr}
    (h : ∀ args fields, w.store[error]? ≠ some (.error (.cls "TimeoutError") args fields)) :
    (arriving error).act w = .ok error w := by
  obtain ⟨o, hload, ho⟩ : ∃ o, (Run.load error).act w = .ok o w ∧
      ∀ args fields, o ≠ .error (.cls "TimeoutError") args fields := by
    cases hstore : w.store[error]? with
    | none =>
      refine ⟨_, rfl, fun args fields => ?_⟩
      rw [Array.getD_eq_getD_getElem?, hstore]
      exact fun hmodule => nomatch hmodule
    | some o => exact ⟨o, Run.load_act hstore, fun args fields heq => h args fields (heq ▸ hstore)⟩
  rw [arriving, Run.bind_act, hload]
  dsimp only
  split
  · exact absurd rfl (ho _ _)
  · rfl

/-- In a thread of its own a script ends with its error as it arrives. -/
theorem finish_threaded {error arrived : Addr} {w' : World} (h : (arriving error).act w = .ok arrived w') :
    (finish host true step (.error error)).act w = .error (.raised arrived) w' := by
  simp only [finish, if_true, Run.bind_act, h]
  rfl

/-- In the common thread it ends with the error itself, unless that is taken for the end of an iteration. -/
theorem finish_inline {error : Addr} (hgoes : ¬ w.StopsIteration error) :
    (finish host false step (.error error)).act w = .error (.raised error) w := by
  obtain ⟨c, hc⟩ := Run.reads_errorClass error w
  obtain ⟨b, hb⟩ := (Value.inspects_isSubclass c (.cls "StopIteration")).reads w
  have hfalse : b = false := by
    simp only [World.StopsIteration, Run.bind_act, hc, hb] at hgoes
    exact Bool.eq_false_iff.2 fun htrue => hgoes (congrArg some htrue)
  simp only [finish, Bool.false_eq_true, if_false, Run.bind_act, hc, hb, hfalse]
  rfl

/-- An error that is raised here and arrives there is alike exactly if it lasts. -/
theorem alike_arriving_iff (error : Addr) (w : World) :
    ∃ arrived left, (arriving error).act w = .ok arrived left ∧
      (Ending.Alike (.error (.raised error) w : Ending Unit) (.error (.raised arrived) left) ↔ w.Lasts error) := by
  by_cases htime : ∃ args fields, w.store[error]? = some (.error (.cls "TimeoutError") args fields)
  case neg =>
    have hnone (args fields) : w.store[error]? ≠ some (.error (.cls "TimeoutError") args fields) :=
      fun h => htime ⟨args, fields, h⟩
    exact ⟨error, w, arriving_same hnone, fun _ args fields h => absurd h (hnone args fields), fun _ => .same _⟩
  case pos =>
    obtain ⟨args, fields, htime⟩ := htime
    refine ⟨w.store.size, _, arriving_remade htime, fun halike => ?_, fun hlasts => ?_⟩
    · generalize hx : (EStateM.Result.error _ w : Ending Unit) = x at halike
      generalize hy : (EStateM.Result.error (.raised w.store.size) _ : Ending Unit) = y at halike
      cases halike with
      | same =>
        have hlt : error < w.store.size := (Array.getElem?_eq_some_iff.1 htime).1
        cases (EStateM.Result.error.inj (hx.trans hy.symm)).1
        exact absurd hlt (Nat.lt_irrefl _)
      | moved ho =>
        obtain ⟨hraised, rfl⟩ := EStateM.Result.error.inj hx
        cases hraised
        have hworlds := congrArg World.store (EStateM.Result.error.inj hy).2
        have hmade := (Array.push_eq_push.1 hworlds).1
        cases htime.symm.trans ho
        intro args' fields' hstored
        cases htime.symm.trans hstored
        exact hmade
    · rw [hlasts args fields htime]
      exact .moved htime

/-- The statements ended with an error that is so. -/
def EndsBy (P : World → Addr → Prop) : Ending (Except Addr Value) → Prop
  | .ok (.error error) left => P left error
  | _ => False

instance (P : World → Addr → Prop) [∀ w error, Decidable (P w error)] : DecidablePred (EndsBy P)
  | .ok (.error _) _ => inferInstanceAs (Decidable (P _ _))
  | .ok (.ok _) _ | .error .. => inferInstanceAs (Decidable False)

/-- **A script ends alike in both threads exactly if its error lasts**, where it is not refused to wait and does
not end with what is taken for the end of an iteration. Alike means the same error with the same text, or the same
result, in the same world. An error of time that has run out lasts exactly if it names no file, and every other
one does. -/
theorem threads_alike_iff (m : Machine) (host : Host) (source : String) (context : Value) (step : String)
    (w : World) (hquiet : (start m false source context step).Quiet w)
    (hgoes : ¬ EndsBy World.StopsIteration ((start m false source context step).act w)) :
    let inline := (execute m host false source context step).act w
    let threaded := (execute m host true source context step).act w
    (inline.Alike threaded ↔
      ∀ error left, (start m false source context step).act w = .ok (.error error) left → left.Lasts error) ∧
    (inline.Alike threaded → ∀ error, inline.raised? = some error → ∃ error', threaded.raised? = some error' ∧
      threaded.world.store[error']? = threaded.world.store[error]? ∧
      (errorMessage error').act threaded.world = (errorMessage error).act threaded.world) ∧
    ∀ error left, (start m false source context step).act w = .ok (.error error) left →
      (left.errorClass? error ≠ some "TimeoutError" → inline.Alike threaded) ∧
      ∀ given, left.store[error]? = some (systemError "TimeoutError" given) →
        (inline.Alike threaded ↔ ¬ (systemError "TimeoutError" given).NamesFile) := by
  intro inline threaded
  have halike : inline.Alike threaded ↔
      ∀ error left, (start m false source context step).act w = .ok (.error error) left → left.Lasts error := by
    unfold inline threaded
    rw [execute, execute, Run.bind_act, Run.bind_act, start_agrees hquiet]
    rcases hstart : (start m false source context step).act w with ⟨error | v, left⟩ | ⟨f, left⟩
    case error => exact ⟨fun _ _ _ h => (nomatch h), fun _ => .same _⟩
    case ok.ok => exact ⟨fun _ _ _ h => (nomatch h), fun _ => .same _⟩
    case ok.error =>
      rw [hstart] at hgoes
      obtain ⟨arrived, left', harrives, halike⟩ := alike_arriving_iff error left
      dsimp only
      rw [finish_inline hgoes, finish_threaded harrives, halike]
      refine ⟨fun hlasts _ _ h => ?_, fun hlasts => hlasts error left rfl⟩
      cases h
      exact hlasts
  refine ⟨halike, fun h _ hraised => h.same_error hraised, fun error left hstart => ?_⟩
  have hone : inline.Alike threaded ↔ left.Lasts error := by
    rw [halike, hstart]
    refine ⟨fun hall => hall error left rfl, fun hlasts _ _ h => ?_⟩
    cases h
    exact hlasts
  exact ⟨fun hclass => hone.2 (World.lasts_of_class hclass), fun given hgiven => hone.trans (World.lasts_iff hgiven)⟩

/-! Scripts without a host, over no context. -/

open Engine (barePlatform bareWorld)

/-- The statements of a script in the common thread, and where they end. -/
def statementsEnd (source : String) : Ending (Except Addr Value) :=
  (start barePlatform.machine false source .null "s").act bareWorld

/-- How a script ends, in a thread of its own or not. -/
def scriptEnd (inThread : Bool) (source : String) : Ending Unit :=
  (execute barePlatform.machine barePlatform.host inThread source .null "s").act bareWorld

/-- The text of the error that a script raises. -/
def complaint? (inThread : Bool) (source : String) : Option String :=
  (scriptEnd inThread source).raised?.bind fun error =>
    ((errorMessage error).act (scriptEnd inThread source).world).result?

/-- A division by zero ends alike in both threads. -/
theorem division_alike :
    (start barePlatform.machine false "1 / 0" .null "s").Quiet bareWorld ∧
      ¬ EndsBy World.StopsIteration (statementsEnd "1 / 0") ∧
      (scriptEnd false "1 / 0").Alike (scriptEnd true "1 / 0") := by
  have hquiet : (start barePlatform.machine false "1 / 0" .null "s").Quiet bareWorld := by decide +kernel
  have hgoes : ¬ EndsBy World.StopsIteration (statementsEnd "1 / 0") := by decide +kernel
  have hclass : ¬ EndsBy (fun left error => left.errorClass? error = some "TimeoutError")
      (statementsEnd "1 / 0") := by decide +kernel
  refine ⟨hquiet, hgoes, (threads_alike_iff _ _ _ _ _ _ hquiet hgoes).1.2 fun error left hend => ?_⟩
  have hstart : statementsEnd "1 / 0" = .ok (.error error) left := hend
  rw [hstart] at hclass
  exact World.lasts_of_class hclass

/-- **The file that time ran out for is told only by the script in the common thread**, though it is not refused
to wait. -/
theorem file_told_in_one_thread :
    (start barePlatform.machine false "raise OSError(110, 'm', 'f')" .null "s").Quiet bareWorld ∧
      ¬ EndsBy World.StopsIteration (statementsEnd "raise OSError(110, 'm', 'f')") ∧
      complaint? false "raise OSError(110, 'm', 'f')" = some "[Errno 110] m: 'f'" ∧
      complaint? true "raise OSError(110, 'm', 'f')" = some "[Errno 110] m" := by
  decide +kernel

end ScriptEngine

end Stepwise
