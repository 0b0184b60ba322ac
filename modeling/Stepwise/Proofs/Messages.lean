import Stepwise.Proofs.Isolation
/-!
# Texts of values

Telling the text of a value may fail, and then an error is new in the world; but where there is a text the
world is as it was. `Value.inspects_plain` says more: telling a text is looking at objects, and what it may
raise is of four classes.
-/

namespace Stepwise

/-- The classes of the errors that telling a text may raise: values too deep, numbers too long, and names that
are not defined or hidden. -/
def textErrors : List String := ["RecursionError", "ValueError", Classes.undefinedError, Classes.securityError]

open Run (Inspects)

theorem inspects_showInt (n : Int) : (showInt n).Inspects textErrors := by
  unfold showInt
  split
  · exact .pure _
  · simp only
    split
    · exact .raise _ (by decide)
    · exact .pure _

namespace Value

variable {errors : List String}

theorem inspects_classPath (c : Value) : (classPath c).Inspects errors := by
  unfold classPath
  split
  · exact .pure _
  · refine (Inspects.load _).bind fun o => ?_
    split <;> exact .pure _
  · exact .pure _

theorem inspects_classLabel (c : Value) : (classLabel c).Inspects errors := by
  unfold classLabel
  split
  · exact .pure _
  · refine (Inspects.load _).bind fun o => ?_
    split <;> exact .pure _
  · exact .pure _

theorem inspects_classOf (v : Value) : (classOf v).Inspects errors := by
  cases v with
  | ref a => exact (Inspects.load a).bind fun o => .pure _
  | _ => exact .pure _

theorem inspects_describe (v : Value) : (describe v).Inspects errors := by
  unfold describe
  split
  · exact .pure _
  · exact .pure _
  · refine (inspects_classOf v).bind fun c => ?_
    split
    · exact .pure _
    · exact (inspects_classPath _).bind fun path => .pure _

/-- **Displaying a value is looking**, by the depth to which it is displayed. -/
theorem inspects_displayAt (n : Nat) (inside : List Addr) (v : Value) :
    (displayAt n inside v).Inspects textErrors := by
  induction n generalizing inside v with
  | zero => exact .raise _ (by decide)
  | succ n ih =>
    unfold displayAt
    cases v with
    | int i => exact inspects_showInt i
    | ref a =>
      dsimp only
      -- every branch is put together from runs that look
      repeat' first
        | exact .pure _
        | exact ih _ _
        | exact .load _
        | exact inspects_classLabel _
        | exact inspects_classPath _
        | exact inspects_classOf _
        | refine Inspects.mapM (fun p => ?_) _
        | refine Inspects.bind ?_ (fun _ => ?_)
        | split
    | fn id =>
      simp only
      split <;> exact .pure _
    | _ => exact .pure _

theorem inspects_display (v : Value) : v.display.Inspects textErrors := inspects_displayAt displayDepth [] v

end Value

theorem inspects_undefinedMessage (u : Undefined) : (undefinedMessage u).Inspects textErrors := by
  unfold undefinedMessage
  split
  · exact .pure _
  · split
    · exact (Value.inspects_display _).bind fun shown => .pure _
    · split
      · exact (Value.inspects_describe _).bind fun owner => .pure _
      · exact (Value.inspects_describe _).bind fun owner => .pure _
      · exact (Value.inspects_describe _).bind fun owner => (Value.inspects_display _).bind fun shown => .pure _

theorem inspects_failUndefined {α : Type} (u : Undefined) : (failUndefined u : Run α).Inspects textErrors := by
  refine (inspects_undefinedMessage u).bind fun message => .raise _ ?_
  split <;> decide

/-- Telling the text of an error is looking, if telling those of its arguments is. -/
theorem inspects_errorText {plain : Value → Run String} (hplain : ∀ v, (plain v).Inspects textErrors) (cls : Value)
    (args : List Value) (fields : List (String × Value)) : (errorText cls args fields plain).Inspects textErrors := by
  unfold errorText
  dsimp only
  repeat' first
    | exact .pure _
    | exact hplain _
    | exact Value.inspects_display _
    | exact Value.inspects_isSubclass _ _
    | refine Inspects.mapM Value.inspects_display _
    | refine Inspects.bind ?_ (fun _ => ?_)
    | split

namespace Value

theorem inspects_plainAt (n : Nat) (v : Value) : (plainAt n v).Inspects textErrors := by
  induction n generalizing v with
  | zero => exact .raise _ (by decide)
  | succ n ih =>
    unfold plainAt
    cases v with
    | str | markup => exact .pure _
    | ref a =>
      refine (Inspects.load a).bind fun o => ?_
      split
      case h_1 => exact inspects_errorText ih _ _ _
      case h_7 u =>
        split
        · exact inspects_failUndefined u
        · exact .pure _
      case h_8 => exact (Inspects.mapM ih _).bind fun texts => .pure _
      case h_9 =>
        split
        · exact inspects_display _
        · exact ih _
      case h_11 => exact inspects_display _
      all_goals exact .pure _
    | _ => exact inspects_display _

/-- **Telling the plain text of a value is looking.** -/
theorem inspects_plain (v : Value) : v.plain.Inspects textErrors := inspects_plainAt displayDepth v

end Value

/-- Where an error has a text, telling it leaves the world as it was. -/
theorem eq_of_errorMessage {error : Addr} {message : String} {w w' : World}
    (h : (errorMessage error).act w = .ok message w') : w' = w :=
  (Value.inspects_plain (.ref error)).eq_of_ok h

end Stepwise
