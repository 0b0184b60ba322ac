import Stepwise.Proofs.Calling
import Stepwise.Proofs.Margins
import Stepwise.Proofs.Output
import Stepwise.Proofs.Threads
/-!
# Literals of several lines

A script that gives its output a literal between three quotes is followed all the way: its text is moved to the left
(`Text.dedent_around`), cut into words (`ofChars_output`), read (`read_output`), and run (`run_assigned`). What the
output is in the end is what the move has left of the literal (`ScriptEngine.literal_kept_iff`): all of it, but that
lines of blanks are empty.
-/

namespace Stepwise

namespace Script

/-! ## An assignment -/

variable {m : Machine} {w : World} {σ : Addr}

/-- The assignment of a literal to an item of what has a name. -/
def assigned (id key : String) (v : Literal) : List Stmt :=
  [.assign 1 [.index 1 (.name 1 id) (.lit (.str key))] (.lit v)]

/-- **Such an assignment writes the item and nothing else.** -/
theorem run_assigned {a : Addr} {id key v : String} {names : List (String × Value)} {d : Dict}
    (hname : Names w σ id (.ref a)) (hcontext : w.store[a]? = some (.dict (.context names) d)) :
    ∃ store : Array Obj,
      (run m ⟨.exec (assigned id key (.str v)), [], σ⟩).act w = .ok (.finished .null) { w with store } ∧
      store[a]? = some (.dict (.context names) (d.putText key (.str v))) ∧
      ∀ b, b ≠ a → store[b]? = w.store[b]? := by
  obtain ⟨w', hput, hwritten, hothers⟩ := Run.putItem_act hcontext key (.str v)
  have hstore : w' = { w with store := w'.store } := by
    cases hput
    rfl
  have hreach : Reaches m .common 7 ⟨.exec (assigned id key (.str v)), [], σ⟩ w
      ⟨.value (.str key), [.operands [.ref a] [] (.setIndex (.str v)), .store []], σ⟩ w :=
    .step rfl (.step rfl (.step rfl (.step rfl (.step (leads_name hname) (.step rfl (.one rfl))))))
  have htry : tryStep m ⟨.value (.str key), [.operands [.ref a] [] (.setIndex (.str v)), .store []], σ⟩ =
    (do next ((fun _ => ⟨.done, [.store []], σ⟩) (← writeItem m (.ref a) (.str key) (.str v)))) := rfl
  have hwritable : (isWritable (.ref a)).act w = .ok true w := by
    rw [isWritable, Run.bind_act, Run.object?, Run.bind_act, Run.load_act hcontext]
    rfl
  have hwrite : (writeItem m (.ref a) (.str key) (.str v)).act w = .ok () w' := by
    rw [writeItem, Run.bind_act, hwritable]
    simp only [if_true]
    rw [setItem, Run.bind_act, Run.load_act hcontext]
    exact hput
  have hpatience : Run.patience - 7 = 999999992 + 1 := rfl
  refine ⟨w'.store, ?_, hwritten, hothers⟩
  rw [run_of_reaches hreach (by decide), hpatience, turns_effect htry, hwrite, ← hstore]
  rfl

/-! ## Words -/

namespace Scan

variable {b : List Char}

theorem body_cons {c : Char} (hquote : c ≠ '"') (hback : c ≠ '\\') (r acc : List Char) :
    body '"' true (c :: r) acc = body '"' true r (c :: acc) := by
  rw [body.eq_def]
  split
  case h_1 heq => cases heq; exact absurd rfl hback
  case h_2 heq =>
    cases heq
    simp only [beq_iff_eq, if_neg hquote, Bool.not_true, Bool.and_false, Bool.false_eq_true, if_false]
  case h_3 heq => cases heq

/-- A body without quotes and escapes goes on to the closing quotes. -/
theorem body_plain (hquote : '"' ∉ b) (hback : '\\' ∉ b) (r acc : List Char) :
    body '"' true (b ++ '"' :: '"' :: '"' :: r) acc = some (acc.reverse ++ b, r) := by
  induction b generalizing acc with
  | nil => simp [body]
  | cons c b ih =>
    rw [List.mem_cons, not_or] at hquote hback
    rw [List.cons_append, body_cons (Ne.symm hquote.1) (Ne.symm hback.1), ih hquote.2 hback.2]
    simp

/-- A text without carriage returns is ended by a line feed, if it is not yet. -/
theorem unifyLines_of_notMem {s : List Char} {c : Char} (hreturn : '\r' ∉ s ++ [c]) (hlast : c ≠ '\n') :
    unifyLines (s ++ [c]) = s ++ [c, '\n'] := by
  induction s with
  | nil =>
    have hc : c ≠ '\r' := fun h => hreturn (List.mem_singleton.2 h.symm)
    rw [List.nil_append, unifyLines.eq_def]
    split
    case h_1 heq => cases heq
    case h_2 heq => exact absurd (List.cons.inj heq).1 hc
    case h_3 heq =>
      cases heq
      rw [if_neg (by simpa using hlast)]
      rfl
    case h_4 hno heq => exact absurd (List.cons.inj heq).2 fun h => hno h.symm
    case h_5 heq => cases heq
  | cons d s ih =>
    rw [List.cons_append, List.mem_cons, not_or] at hreturn
    have hstep : unifyLines (d :: (s ++ [c])) = d :: unifyLines (s ++ [c]) := by
      rw [unifyLines.eq_def]
      split
      case h_1 heq => exact absurd (List.cons.inj heq).1.symm hreturn.1
      case h_2 heq => exact absurd (List.cons.inj heq).1.symm hreturn.1
      case h_3 heq => simp at heq
      case h_4 heq => cases heq; rfl
      case h_5 heq => cases heq
    rw [List.cons_append, hstep, ih hreturn.2]
    rfl

theorem run_on {s s' : State} (h : step s = .on s') (n : Nat) : run (n + 1) s = run n s' := by
  rw [run, h]

/-- What stands in front of the literal. -/
def opening : List Char := "context[\"output\"] = \"\"\"".toList

theorem opening_length : opening.length = 23 := rfl

/-- What stands behind it. -/
def closing : List Char := "\"\"\"".toList

/-- The words of the place that the literal is given to. -/
def placeWords : List Lexeme :=
  [⟨.name "context", 1, 0⟩, ⟨.op "[", 1, 0⟩, ⟨.text ⟨false, false, false, "output".toList⟩, 1, 1⟩, ⟨.op "]", 1, 0⟩]

/-- The words of a line that holds nothing but a literal. -/
def alone (w : Written) (l d n : Nat) (rest : List Lexeme) : List Lexeme := ⟨.text w, l, d⟩ :: ⟨.newline, n, 0⟩ :: rest

theorem run_opening (rest : List Char) (n : Nat) :
    run (n + 8) ⟨opening ++ rest, 1, true, [], [], []⟩ =
      run n ⟨'"' :: '"' :: '"' :: rest, 1, false, [], [], ⟨.op "=", 1, 0⟩ :: placeWords.reverse⟩ := rfl

theorem step_literal (hquote : '"' ∉ b) (hback : '\\' ∉ b) (rest : List Char) (found : List Lexeme) (line : Nat) :
    step ⟨'"' :: '"' :: '"' :: (b ++ closing ++ rest), line, false, [], [], found⟩ =
      .on ⟨rest, line + b.count '\n', false, [], [], ⟨.text ⟨false, false, false, b⟩, line, 0⟩ :: found⟩ := by
  have hbody : body '"' true (b ++ closing ++ rest) [] = some (b, rest) := by
    rw [List.append_assoc]
    exact body_plain hquote hback rest []
  have hstep : step ⟨'"' :: '"' :: '"' :: (b ++ closing ++ rest), line, false, [], [], found⟩ =
      text ⟨'"' :: '"' :: '"' :: (b ++ closing ++ rest), line, false, [], [], found⟩ ⟨false, false, false, []⟩ '"'
        ('"' :: '"' :: (b ++ closing ++ rest)) := rfl
  rw [hstep, text]
  simp only [beq_self_eq_true, Bool.and_self, if_true, hbody]
  rfl

theorem run_end (n line : Nat) (found : List Lexeme) :
    run (n + 2) ⟨['\n'], line, false, [], [], found⟩ =
      .ok ⟨(⟨.done, line, 0⟩ :: ⟨.newline, line, 0⟩ :: found).reverse, none⟩ := rfl

end Scan

open Scan

variable {b : List Char}

/-- The literal is one word between those around it. -/
theorem ofChars_output (hquote : '"' ∉ b) (hback : '\\' ∉ b) (hreturn : '\r' ∉ b) :
    Lexemes.ofChars 1 (opening ++ b ++ closing) =
      .ok ⟨placeWords ++ ⟨.op "=", 1, 0⟩ :: alone ⟨false, false, false, b⟩ 1 0 (1 + b.count '\n')
        [⟨.done, 1 + b.count '\n', 0⟩], none⟩ := by
  have hends : opening ++ b ++ closing = opening ++ b ++ ['"', '"'] ++ ['"'] := by
    rw [List.append_assoc (opening ++ b)]
    rfl
  have hreturn : '\r' ∉ opening ++ b ++ ['"', '"'] ++ ['"'] := by
    simp only [List.mem_append, not_or]
    exact ⟨⟨⟨by decide, hreturn⟩, by decide⟩, by decide⟩
  have hlines : Scan.unifyLines (opening ++ b ++ closing) = opening ++ (b ++ closing ++ ['\n']) := by
    rw [hends, Scan.unifyLines_of_notMem hreturn (by decide)]
    simp [closing]
  -- eight steps up to the literal, one over it and two behind it, of more than twice as many as there are characters
  obtain ⟨fuel, hfuel⟩ : ∃ fuel, 2 * (opening ++ (b ++ closing ++ ['\n'])).length + 4 = fuel + 2 + 1 + 8 :=
    ⟨2 * (b ++ closing ++ ['\n']).length + 39, by rw [List.length_append, opening_length]; omega⟩
  rw [Lexemes.ofChars, hlines, hfuel, Scan.run_opening, Scan.run_on (Scan.step_literal hquote hback _ _ _),
    Scan.run_end]
  rfl

theorem Written.unescape_plain {s : List Char} (hback : '\\' ∉ s) : Written.unescape false s = some s := by
  rw [Written.unescape]
  induction s with
  | nil => rfl
  | cons c s ih =>
    rw [List.mem_cons, not_or] at hback
    rw [List.length_cons, Written.unescapeLoop.eq_def]
    split
    case h_1 heq => cases heq
    case h_2 heq => cases heq
    case h_3 heq => exact absurd (List.cons.inj heq).1.symm hback.1
    case h_4 hfuel heq =>
      cases heq
      cases hfuel
      rw [ih hback.2]
      rfl

/-! ## Statements -/

namespace Reading

variable {α β σ : Type} {s s' : List Lexeme}

theorem bind_ok {x : Reading α} {f : α → Reading β} {a : α} (h : x s = .ok (a, s')) : (x >>= f) s = f a s' := by
  change Except.bind (x s) _ = _
  rw [h]
  rfl

theorem loop_done {step : σ → Reading (σ ⊕ α)} {a : σ} {b : α} (h : step a s = .ok (.inr b, s')) :
    loop a step s = .ok (b, s') := by
  change repeatFor step (s.length + 1 + 1) a s = _
  rw [repeatFor, bind_ok h]
  rfl

theorem loop_on {step : σ → Reading (σ ⊕ α)} {a a' : σ} (h : step a s = .ok (.inl a', s')) :
    loop a step s = repeatFor step (s.length + 1) a' s' := by
  change repeatFor step (s.length + 1 + 1) a s = _
  rw [repeatFor, bind_ok h]

end Reading

open Reading

/-- The reader takes the literal for the expression, and stops at the end of its line. -/
def TakesLiteral (r : Reading Expr) (w : Written) (e : Expr) : Prop :=
  ∀ l d n rest, r (alone w l d n rest) = .ok (e, ⟨.newline, n, 0⟩ :: rest)

namespace TakesLiteral

variable {r : Reading Expr} {k : Inner} {w : Written} {e : Expr}

theorem texts {cs : List Char} (hbytes : w.bytes = false) (hformatted : w.formatted = false)
    (hchars : w.chars? = some cs) : TakesLiteral (texts k) w (.lit (.str (String.ofList cs))) := by
  intro l d n rest
  refine (bind_ok (show loop _ _ _ = .ok ([(w, l)], ⟨.newline, n, 0⟩ :: rest) from rfl)).trans ?_
  simp [hbytes, hformatted, hchars]
  rfl

/-- No index, call, attribute or power follows. -/
theorem factor (h : TakesLiteral (Script.texts k) w e) : TakesLiteral (factor k) w e := by
  intro l d n rest
  have hatom : atom k (alone w l d n rest) = .ok (e, ⟨.newline, n, 0⟩ :: rest) := h l d n rest
  have hprimary : primary k (atom k) (alone w l d n rest) = .ok (e, ⟨.newline, n, 0⟩ :: rest) := by
    rw [primary, bind_ok (show line _ = .ok (l, _) from rfl), bind_ok hatom]
    exact loop_done rfl
  have hfactor : Script.factor k (alone w l d n rest) = (primary k (atom k) >>= fun base => do
      if ← takeOp "**" then return .binary .pow base (← k.factor) else return base) (alone w l d n rest) := rfl
  rw [hfactor, bind_ok hprimary]
  rfl

/-- No further operand follows. -/
theorem leftJoined (h : TakesLiteral r w e) (ops : List String) : TakesLiteral (leftJoined r ops) w e := by
  intro l d n rest
  rw [Script.leftJoined, bind_ok (h l d n rest)]
  exact loop_done rfl

theorem joined (h : TakesLiteral k.factor w e) (ranks : List (List String)) : TakesLiteral (joined k ranks) w e := by
  induction ranks with
  | nil => exact h
  | cons ops ranks ih => exact ih.leftJoined ops

theorem comparison (h : TakesLiteral k.factor w e) : TakesLiteral (comparison k) w e := by
  intro l d n rest
  have hoperand : operand k (alone w l d n rest) = .ok (e, ⟨.newline, n, 0⟩ :: rest) := h.joined _ l d n rest
  rw [Script.comparison, bind_ok hoperand]
  exact loop_done rfl

theorem inversion (h : TakesLiteral k.factor w e) : TakesLiteral (inversion k) w e := by
  intro l d n rest
  have hnots : loop 0 (fun n => do if ← takeWord "not" then return .inl (n + 1) else return .inr n)
      (alone w l d n rest) = .ok (0, alone w l d n rest) := loop_done rfl
  refine (bind_ok hnots).trans ?_
  exact (bind_ok (h.comparison l d n rest)).trans rfl

theorem logic (h : TakesLiteral r w e) (word : String) (conjunction : Bool) :
    TakesLiteral (logic word conjunction r) w e := by
  intro l d n rest
  exact (bind_ok (h l d n rest)).trans (loop_done rfl)

theorem disjunction (h : TakesLiteral k.factor w e) : TakesLiteral (disjunction k) w e :=
  (h.inversion.logic "and" true).logic "or" false

theorem expression (h : TakesLiteral k.factor w e) : TakesLiteral (expression k) w e := by
  intro l d n rest
  have hword : isWord "lambda" (alone w l d n rest) = .ok (false, alone w l d n rest) := rfl
  have hfirst : peek (alone w l d n rest) = .ok (⟨.text w, l, d⟩, alone w l d n rest) := rfl
  have hsecond : peekSecond (alone w l d n rest) = .ok (.newline, alone w l d n rest) := rfl
  refine (bind_ok hword).trans <| (bind_ok hfirst).trans <| (bind_ok hsecond).trans ?_
  exact (bind_ok (h.disjunction l d n rest)).trans rfl

theorem value (h : TakesLiteral k.expr w e) : TakesLiteral (value k) w e := by
  intro l d n rest
  have helement : element k k.expr (alone w l d n rest) = .ok (e, ⟨.newline, n, 0⟩ :: rest) := h l d n rest
  have hword : isWord "yield" (alone w l d n rest) = .ok (false, alone w l d n rest) := rfl
  exact (bind_ok hword).trans ((bind_ok helement).trans rfl)

end TakesLiteral

/-- The assignment of what stands on the rest of the line. -/
theorem assignment_literal {m l d n : Nat} {rest : List Lexeme} {w : Written} {v : Literal}
    (h : TakesLiteral (value (expressions (m + 8))) w (.lit v)) :
    assignment (expressions (m + 8)) (placeWords ++ ⟨.op "=", 1, 0⟩ :: alone w l d n rest) =
      .ok (.assign 1 [.index 1 (.name 1 "context") (.lit (.str "output"))] (.lit v), ⟨.newline, n, 0⟩ :: rest) := by
  let target : Expr := .index 1 (.name 1 "context") (.lit (.str "output"))
  let assigned : List Lexeme := ⟨.op "=", 1, 0⟩ :: alone w l d n rest
  have hline : line (placeWords ++ assigned) = .ok (1, placeWords ++ assigned) := rfl
  have hplace : value (expressions (m + 8)) (placeWords ++ assigned) =
      .ok (.index 1 (.name 1 "context") (.lit (.str "output")), assigned) := rfl
  have hnext : peek assigned = .ok (⟨.op "=", 1, 0⟩, assigned) := rfl
  have hsign : takeOp "=" assigned = .ok (true, alone w l d n rest) := rfl
  refine (bind_ok hline).trans <| (bind_ok hplace).trans <| (bind_ok hnext).trans ?_
  change loop [target] _ assigned = _
  refine (@loop_on _ _ _ (⟨.newline, n, 0⟩ :: rest) _ _ [.lit v, target] ?_).trans rfl
  exact (bind_ok hsign).trans ((bind_ok (h l d n rest)).trans rfl)

/-- A script of one line is one statement. -/
theorem statements_one {k : Inner} {m l n : Nat} {s : List Lexeme} {st : Stmt}
    (h : simple k (⟨.name "context", 1, 0⟩ :: s) = .ok (st, [⟨.newline, n, 0⟩, ⟨.done, l, 0⟩])) :
    statements k (m + 1) (⟨.name "context", 1, 0⟩ :: s) = .ok ([st], [⟨.done, l, 0⟩]) := by
  have hline : simpleLine k (⟨.name "context", 1, 0⟩ :: s) = .ok ([st], [⟨.done, l, 0⟩]) :=
    loop_done ((bind_ok h).trans rfl)
  have hstatement : statement ⟨k, block k (statements k m)⟩ (⟨.name "context", 1, 0⟩ :: s) =
      .ok ([st], [⟨.done, l, 0⟩]) := hline
  have hmore : atBlockEnd (⟨.name "context", 1, 0⟩ :: s) = .ok (false, ⟨.name "context", 1, 0⟩ :: s) := rfl
  rw [statements]
  refine (@loop_on _ _ _ [⟨.done, l, 0⟩] _ _ [st] ?_).trans rfl
  exact (bind_ok hmore).trans ((bind_ok hstatement).trans rfl)

theorem read_of_statements {text : List Char} {words : Lexemes} {ss : List Stmt} {l : Nat}
    (hwords : Lexemes.ofChars 1 text = .ok words)
    (hss : statements (expressions (text.length + 8)) 110 words.all = .ok (ss, [⟨.done, l, 0⟩])) :
    read text = .ok ss := by
  rw [read, hwords]
  change Except.bind (.ok words) _ = _
  dsimp only [Except.bind]
  rw [bind_ok hss]
  rfl

/-- **The script is one assignment of the literal.** -/
theorem read_output (hquote : '"' ∉ b) (hback : '\\' ∉ b) (hreturn : '\r' ∉ b) :
    read (opening ++ b ++ closing) = .ok (assigned "context" "output" (.str (String.ofList b))) := by
  -- how deep expressions may be nested is told by the length of the text, which is never too short for this one
  obtain ⟨n, hn⟩ : ∃ n, (opening ++ b ++ closing).length + 8 = n + 1 + 8 :=
    ⟨(b ++ closing).length + 22, by rw [List.append_assoc, List.length_append, opening_length]; omega⟩
  have hchars : (⟨false, false, false, b⟩ : Written).chars? = some b := Written.unescape_plain hback
  have hliteral : TakesLiteral (value (expressions (n + 1 + 8))) ⟨false, false, false, b⟩
      (.lit (.str (String.ofList b))) := (TakesLiteral.texts rfl rfl hchars).factor.expression.value
  have hsimple : simple (expressions (n + 1 + 8)) (placeWords ++ ⟨.op "=", 1, 0⟩ ::
      alone ⟨false, false, false, b⟩ 1 0 (1 + b.count '\n') [⟨.done, 1 + b.count '\n', 0⟩]) =
      .ok (.assign 1 [.index 1 (.name 1 "context") (.lit (.str "output"))] (.lit (.str (String.ofList b))),
        [⟨.newline, 1 + b.count '\n', 0⟩, ⟨.done, 1 + b.count '\n', 0⟩]) :=
    assignment_literal hliteral
  have hstatements := @statements_one _ 109 _ _ _ _ hsimple
  rw [← hn] at hstatements
  exact read_of_statements (ofChars_output hquote hback hreturn) hstatements

/-- The script that gives its output the text between three quotes. -/
def giving (v : String) : String := "context[\"output\"] = \"\"\"" ++ v ++ "\"\"\""

theorem giving_toList (v : String) : (giving v).toList = opening ++ v.toList ++ closing := by
  unfold giving opening closing
  simp only [String.toList_append]

/-- The text can stand between three quotes as it is. -/
structure IsPlain (v : String) : Prop where
  no_quote : '"' ∉ v.toList
  no_backslash : '\\' ∉ v.toList
  no_return : '\r' ∉ v.toList
  no_null : '\x00' ∉ v.toList

/-- What is left of the literal when its script was moved to the left. -/
def keptText (v : String) : String := String.ofList (Text.kept v.toList)

/-- **The script assigns what is left of the literal.** -/
theorem compile_giving {v : String} (hv : IsPlain v) :
    compile (giving v) = .ok (assigned "context" "output" (.str (keptText v))) := by
  have hnull : (giving v).toList.contains '\x00' = false := by
    rw [giving_toList, List.contains_eq_mem, decide_eq_false_iff_not]
    simp only [List.mem_append, not_or]
    exact ⟨⟨by decide, hv.no_null⟩, by decide⟩
  have hdedent : Text.dedent (giving v).toList = opening ++ Text.kept v.toList ++ closing := by
    have hopening : opening = 'c' :: "ontext[\"output\"] = \"\"\"".toList := rfl
    have hline : '\n' ∉ opening := by decide
    have hclosing : '\n' ∉ closing ∧ '"' ∈ closing := by decide
    rw [giving_toList]
    rw [hopening] at hline ⊢
    exact Text.dedent_around v.toList rfl hline hclosing.1 hclosing.2 rfl
  have hread := read_output (Text.notMem_kept (by decide) hv.no_quote) (Text.notMem_kept (by decide) hv.no_backslash)
    (Text.notMem_kept (by decide) hv.no_return)
  rw [compile, hnull, hdedent, hread]
  rfl

end Script

namespace ScriptEngine

open Script

variable {host : Host} {n : Nat} {v step : String} {w : World} {a : Addr}

/-- **In the common thread the script writes the output and nothing else that there was.** -/
theorem start_giving (hv : IsPlain v) (hw : w.HasContext a) (hdepth : w.depth < depthLimit) :
    ∃ store : Array Obj,
      (start (Machine.at host (n + 1)) false (giving v) (.ref a) step).act w = .ok (.ok .null) { w with store } ∧
      World.item? { w with store } a (Dict.textKey Context.outputKey) = some (.str (keptText v)) ∧
      ∀ b, b < w.store.size → b ≠ a → store[b]? = w.store[b]? := by
  obtain ⟨names, d, hd⟩ := hw
  -- the context is older than all that the step makes, so it is found unchanged where the statements begin
  have ha : a < w.store.size := (Array.getElem?_eq_some_iff.1 hd).1
  let body := assigned "context" "output" (.str (keptText v))
  let entered := w.entering body (givenTo (.ref a))
  have hold (b : Nat) (hb : b < w.store.size) : entered.store[b]? = w.store[b]? :=
    (w.entering_defined _ _ (by omega)).trans (w.defining_old _ _ hb)
  have hname : Script.Names entered (w.scopeOf body) "context" (.ref a) :=
    ⟨by decide, (@lookup_entering _ _ _ .common _ List.not_mem_nil List.not_mem_nil).trans rfl⟩
  obtain ⟨store, hrun, hwritten, hkept⟩ :=
    @run_assigned (Machine.at host n) _ _ a "context" "output" (keptText v) names d hname ((hold a ha).trans hd)
  refine ⟨store, ?_, ?_, fun b hb hne => (hkept b hne).trans (hold b hb)⟩
  · let statements := run (Machine.at host n) ⟨.exec body, [], w.scopeOf body⟩
    have hends : statements.actIn .common entered = .ok (.finished .null) { entered with store } := hrun
    have hreturned : returned w.depth (statements.actIn .common entered) = .ok .null { w with store } := by
      rw [hends]
      rfl
    rw [start_act host n false (.ref a) step (compile_giving hv) rfl hdepth]
    exact congrArg Run.Ending.outcome hreturned
  · simp only [World.item?, World.contents?, hwritten, Option.bind_some]
    exact Dict.get?_putText_self d "output" (.str (keptText v))

theorem keptText_eq_iff (v : String) : keptText v = v ↔
    ∀ l ∈ (Text.splitChars '\n' v.toList).tail.dropLast, l.all Text.isIndent = true → l = [] := by
  rw [← Text.kept_eq_iff, ← String.toList_inj, keptText, String.toList_ofList]

/-- **A literal of several lines becomes the output with its inner lines of blanks emptied.** In both threads the
script that gives its output the text `v` between three quotes ends without an error and leaves all other objects as
they were. The output is `v` itself exactly if no line between the first and the last of `v` is made of blanks and
tabs alone, empty ones aside. -/
theorem literal_kept_iff (host : Host) (n : Nat) (inThread : Bool) (step : String) {v : String} {w : World}
    {a : Addr} (hv : IsPlain v) (hw : w.HasContext a) (hdepth : w.depth < depthLimit) :
    ∃ w', (execute (Machine.at host (n + 1)) host inThread (giving v) (.ref a) step).act w = .ok () w' ∧
      w'.item? a (Dict.textKey Context.outputKey) = some (.str (keptText v)) ∧
      (w'.item? a (Dict.textKey Context.outputKey) = some (.str v) ↔
        ∀ l ∈ (Text.splitChars '\n' v.toList).tail.dropLast, l.all Text.isIndent = true → l = []) ∧
      ∀ b, b < w.store.size → b ≠ a → w'.store[b]? = w.store[b]? := by
  obtain ⟨store, hstart, hitem, hothers⟩ := @start_giving host n v step w a hv hw hdepth
  have hstarts : (start (Machine.at host (n + 1)) inThread (giving v) (.ref a) step).act w =
      .ok (.ok .null) { w with store } := by
    cases inThread with
    | false => exact hstart
    | true => exact (start_agrees (by rw [Run.Quiet, hstart]; rfl)).trans hstart
  refine ⟨{ w with store, log := w.log.push ⟨.debug, "Script step '" ++ step ++ "' finished"⟩ }, ?_, hitem, ?_, hothers⟩
  · rw [execute, Run.bind_act, hstarts]
    rfl
  · rw [← keptText_eq_iff]
    refine ⟨fun h => ?_, fun h => ?_⟩
    · exact Value.str.inj (Option.some.inj (hitem.symm.trans h))
    · exact hitem.trans (by rw [h])

/-! Scripts over an empty context. -/

open Engine (barePlatform)

/-- A world with nothing but an empty context. -/
def contextWorld : World := { store := #[.dict (.context []) (Dict.ofTexts [(Context.outputKey, .null)])] }

/-- The text that a script leaves as the output. -/
def writtenText? (inThread : Bool) (source : String) : Option String :=
  (((execute barePlatform.machine barePlatform.host inThread source (.ref 0) "s").act contextWorld).world.item? 0
    (Dict.textKey Context.outputKey)).bind Value.text?

/-- Empty lines and lines that are further in are kept. -/
theorem indented_lines_kept :
    IsPlain "a\n\n  b\n\tc" ∧ contextWorld.HasContext 0 ∧ contextWorld.depth < depthLimit ∧
      ∃ w', (execute (Machine.at barePlatform.host 1) barePlatform.host true (giving "a\n\n  b\n\tc") (.ref 0) "s").act
          contextWorld = .ok () w' ∧
        w'.item? 0 (Dict.textKey Context.outputKey) = some (.str "a\n\n  b\n\tc") := by
  have hv : IsPlain "a\n\n  b\n\tc" := by constructor <;> decide
  have hcontext : contextWorld.HasContext 0 := ⟨_, _, rfl⟩
  have hdepth : contextWorld.depth < depthLimit := by decide
  obtain ⟨w', hends, -, hiff, -⟩ := literal_kept_iff barePlatform.host 0 true "s" hv hcontext hdepth
  exact ⟨hv, hcontext, hdepth, w', hends, hiff.2 (by decide)⟩

/-- **A line of blanks within a literal is lost**, in both threads. -/
theorem blank_line_emptied :
    writtenText? false (giving "a\n \t\nb") = some "a\n\nb" ∧
      writtenText? true (giving "a\n \t\nb") = some "a\n\nb" := by
  decide +kernel

end ScriptEngine

end Stepwise
