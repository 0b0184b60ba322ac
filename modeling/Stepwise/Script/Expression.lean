import Stepwise.Script.Reading
import Stepwise.Script.Literal
/-!
# Reading expressions

Expressions nest, so every reader here is given the readers of whole expressions and of operands
one level further in; `expressions` ties them together with a bound on the nesting.
-/

namespace Stepwise.Script

open Reading

/-- The readers that the others fall back on. -/
structure Inner where
  expr : Reading Expr
  factor : Reading Expr

namespace Expr

mutual

/-- Can a value be assigned to it? -/
def isTarget : Expr → Bool
  | .name .. | .attr .. | .index .. => true
  | .starred _ e => isTarget e
  | .display .tuple es | .display .list es => areTargets es
  | _ => false

def areTargets : List Expr → Bool
  | [] => true
  | e :: es => isTarget e && areTargets es

end

mutual

/-- Can it be deleted? -/
def isDeletable : Expr → Bool
  | .name .. | .attr .. | .index .. => true
  | .display .tuple es | .display .list es => areDeletable es
  | _ => false

def areDeletable : List Expr → Bool
  | [] => true
  | e :: es => isDeletable e && areDeletable es

end

end Expr

/-! ## Operators -/

private def binarySign : String → BinaryOp
  | "+" => .add | "-" => .sub | "*" => .mul | "@" => .matMul | "/" => .div | "//" => .floorDiv
  | "%" => .mod | "**" => .pow | "<<" => .shiftLeft | ">>" => .shiftRight | "&" => .bitAnd
  | "^" => .bitXor | _ => .bitOr

/-- The operator of an assignment that works on what is there, such as `+=`. -/
def augmentSign? (s : String) : Option BinaryOp :=
  if ["+=", "-=", "*=", "@=", "/=", "//=", "%=", "**=", "<<=", ">>=", "&=", "^=", "|="].contains s
  then some (binarySign (s.dropEnd 1).toString) else none

def nextSign (ops : List String) : Reading (Option BinaryOp) := do
  match (← peek).token with
  | .op s =>
    if ops.contains s then
      advance
      return some (binarySign s)
    else return none
  | _ => return none

/-- Operands joined by signs of one rank, grouped from the left. -/
def leftJoined (operand : Reading Expr) (ops : List String) : Reading Expr := do
  loop (← operand) fun l => do
    match ← nextSign ops with
    | some op => return .inl (.binary op l (← operand))
    | none => return .inr l

def joined (k : Inner) : List (List String) → Reading Expr
  | [] => k.factor
  | ops :: tighter => leftJoined (joined k tighter) ops

/-- An operand of a comparison. -/
def operand (k : Inner) : Reading Expr :=
  joined k [["|"], ["^"], ["&"], ["<<", ">>"], ["+", "-"], ["*", "/", "//", "%", "@"]]

def compareSign? : Reading (Option CompareOp) := do
  match (← peek).token with
  | .op s =>
    let found : Option CompareOp := match s with
      | "==" => some .eq | "!=" => some .ne | "<" => some .lt | "<=" => some .le
      | ">" => some .gt | ">=" => some .ge | _ => none
    if found.isSome then advance
    return found
  | .name "in" => do
    advance
    return some .member
  | .name "is" => do
    advance
    return some (if ← takeWord "not" then .notSame else .same)
  | .name "not" =>
    match ← peekSecond with
    | .name "in" => do
      advance
      advance
      return some .notMember
    | _ => return none
  | _ => return none

def comparison (k : Inner) : Reading Expr := do
  let first ← operand k
  loop (([], [first]) : List CompareOp × List Expr) fun (ops, es) => do
    match ← compareSign? with
    | some op => return .inl (op :: ops, (← operand k) :: es)
    | none =>
      if ops.isEmpty then return .inr first
      else return .inr (.compare ops.reverse es.reverse)

def inversion (k : Inner) : Reading Expr := do
  let n ← loop 0 fun n => do
    if ← takeWord "not" then return .inl (n + 1) else return .inr n
  return (List.range n).foldl (fun e _ => .unary .negate e) (← comparison k)

def logic (word : String) (conjunction : Bool) (part : Reading Expr) : Reading Expr := do
  let first ← part
  loop [first] fun es => do
    if ← takeWord word then return .inl ((← part) :: es)
    else match es with
      | [e] => return .inr e
      | es => return .inr (.logic conjunction es.reverse)

/-- An expression without a condition around it. -/
def disjunction (k : Inner) : Reading Expr := logic "or" false (logic "and" true (inversion k))

/-! ## Parameters -/

structure Parameters where
  sig : Signature := {}
  defaults : List Expr := []
  keywordDefaults : List Expr := []
  annotations : List Expr := []
  deriving Inhabited

private structure ParameterState where
  found : Parameters := {}
  starred : Bool := false
  /-- A star without a name still waits for a named parameter. -/
  bare : Bool := false
  finished : Bool := false

private def parameter (k : Inner) (annotated : Bool) (s : ParameterState) :
    Reading ParameterState := do
  let p := s.found
  if s.finished then stray
  if ← isOp "/" then
    if s.starred || p.sig.positional.isEmpty || !p.sig.positionalOnly.isEmpty then stray
    advance
    return { s with found := { p with
      sig := { p.sig with positionalOnly := p.sig.positional, positional := [] } } }
  else if ← takeOp "*" then
    if s.starred then stray
    match ← name? with
    | some n =>
      advance
      let notes ← if annotated then annotation true else pure []
      return { s with starred := true, found := { p with
        sig := { p.sig with rest := some n }, annotations := p.annotations ++ notes } }
    | none =>
      if !(← isOp ",") then stray
      return { s with starred := true, bare := true }
  else if ← takeOp "**" then
    if s.bare then stray
    let n ← needName
    let notes ← if annotated then annotation false else pure []
    return { s with finished := true, found := { p with
      sig := { p.sig with keywordRest := some n }, annotations := p.annotations ++ notes } }
  else
    let n ← needName
    let notes ← if annotated then annotation false else pure []
    let default ← if ← takeOp "=" then some <$> k.expr else pure none
    let p := { p with annotations := p.annotations ++ notes }
    if s.starred then
      return { s with bare := false, found := { p with
        sig := { p.sig with keywordOnly := p.sig.keywordOnly ++ [n] }
        keywordDefaults := p.keywordDefaults ++ [default.getD .omitted] } }
    else
      if default.isNone && !p.defaults.isEmpty then stray
      return { s with found := { p with
        sig := { p.sig with positional := p.sig.positional ++ [n] }
        defaults := p.defaults ++ default.toList } }
where
  annotation (starAllowed : Bool) : Reading (List Expr) := do
    if ← takeOp ":" then
      if starAllowed && (← isOp "*") then
        let l ← line
        advance
        return [.starred l (← operand k)]
      else return [← k.expr]
    else return []

/-- Parameters up to the sign that closes them, which is left in place. -/
def parameters (k : Inner) (annotated : Bool) (closing : String) : Reading Parameters :=
  loop ({} : ParameterState) fun s => do
    let finish (s : ParameterState) : Reading (ParameterState ⊕ Parameters) :=
      if s.bare then stray else return .inr s.found
    if ← isOp closing then finish s
    else
      let s ← parameter k annotated s
      if ← takeOp "," then return .inl s
      else if ← isOp closing then finish s
      else stray

/-! ## Whole expressions -/

private def lambda (k : Inner) : Reading Expr := do
  let l ← line
  advance
  let p ← parameters k false ":"
  needOp ":"
  return .lambda l p.sig p.defaults p.keywordDefaults (← k.expr)

/-- Can an expression begin with the token, and not go on with it? -/
def begins : Token → Bool
  | .name s => !keywords.contains s || ["None", "True", "False", "lambda"].contains s
  | .number _ | .text _ => true
  | .op s => s == "\x7b" || s == "~" || s == "..."
  | _ => false

/-- An expression. Inside brackets, a second one right behind it is taken for a forgotten comma. -/
def expression (k : Inner) : Reading Expr := do
  if ← isWord "lambda" then lambda k
  else
    let start ← peek
    let second ← peekSecond
    let e ← disjunction k
    if ← takeWord "if" then
      let test ← disjunction k
      needWord "else"
      return .cond test e (← k.expr)
    let next ← peek
    if next.depth > 0 && begins next.token then
      let marked := match start.token, second with
        | .name _, .text _ => true
        | .name s, _ => ["_", "case", "match"].contains s
        | _, _ => false
      if !marked && (← attempt (disjunction k)).isSome then failAt start.line
      stray
    return e

/-- An expression that may give its value a name. -/
def namedExpression (k : Inner) : Reading Expr := do
  match ← name?, ← peekSecond with
  | some n, .op ":=" =>
    let l ← line
    advance
    advance
    return .named l n (← k.expr)
  | _, _ =>
    let e ← k.expr
    if ← isOp ":=" then stray
    return e

/-- An element of a display: an expression or a starred operand. -/
def element (k : Inner) (whole : Reading Expr) : Reading Expr := do
  if ← isOp "*" then
    let l ← line
    advance
    return .starred l (← operand k)
  else whole

/-- Elements separated by commas make a tuple; a single one without a comma is itself. -/
def tupleOf (closes : Reading Bool) (item : Reading Expr) : Reading Expr := do
  let first ← item
  if ← takeOp "," then
    let (rest, _) ← commaList closes item
    return .display .tuple (first :: rest)
  else return first

/-- Can no further element follow here? -/
def atEnd : Reading Bool := do
  match (← peek).token with
  | .newline | .done | .indent | .dedent => return true
  | .op s =>
    return [")", "]", "\x7d", "=", ":", ";"].contains s || (augmentSign? s).isSome
  | .name s => return s == "in"
  | _ => return false

def starExpressions (k : Inner) : Reading Expr := tupleOf atEnd (element k k.expr)

/-- The targets of a loop or a `with`. -/
def targets (k : Inner) : Reading Expr := do
  let l ← line
  let t ← tupleOf atEnd (element k (operand k))
  if t.isTarget then return t else failAt l

def yieldExpression (k : Inner) : Reading Expr := do
  let l ← line
  advance
  if ← takeWord "from" then return .yieldFrom l (← k.expr)
  else if ← atEnd then return .yield l .omitted
  else return .yield l (← starExpressions k)

/-! ## Comprehensions -/

private def startsClause : Reading Bool := do
  if ← isWord "for" then return true
  else if ← isWord "async" then
    match ← peekSecond with
    | .name "for" => return true
    | _ => return false
  else return false

private def clauses (k : Inner) : Reading (List Expr) :=
  loop ([] : List Expr) fun acc => do
    if !(← startsClause) then return .inr acc.reverse
    let concurrent ← takeWord "async"
    needWord "for"
    let target ← targets k
    needWord "in"
    let source ← disjunction k
    let conditions ← loop ([] : List Expr) fun cs => do
      if ← takeWord "if" then return .inl ((← disjunction k) :: cs) else return .inr cs.reverse
    return .inl (.clause concurrent target source conditions :: acc)

/-! ## Calls and indexes -/

/-- One argument, with whether it was a loop without brackets of its own. -/
def argument (k : Inner) : Reading (Expr × Bool) := do
  let l ← line
  if ← takeOp "**" then return (.doubleStarred (← k.expr), false)
  else if ← takeOp "*" then return (.starred l (← k.expr), false)
  else
    match ← name?, ← peekSecond with
    | some n, .op "=" =>
      advance
      advance
      return (.keyword l n (← k.expr), false)
    | _, _ =>
      let e ← namedExpression k
      if ← startsClause then return (.comprehension l .generator e (← clauses k), true)
      else return (e, false)

private def isNamed : Expr → Bool
  | .keyword .. | .doubleStarred _ => true
  | _ => false

private def isSpreadNamed : Expr → Bool
  | .doubleStarred _ => true
  | _ => false

/-- The arguments of a call up to its closing bracket, which is taken. -/
def arguments (k : Inner) : Reading (List Expr) := do
  let start ← line
  let args ← loop (([], false) : List Expr × Bool) fun (acc, loops) => do
    if ← takeOp ")" then return .inr acc.reverse
    if loops then failAt start
    let l ← line
    let (a, isLoop) ← argument k
    let fits : Bool := match a with
      | .starred .. => !acc.any isSpreadNamed
      | .keyword .. | .doubleStarred _ => true
      | _ => !acc.any isNamed
    if !fits then failAt l
    if isLoop && !acc.isEmpty then failAt l
    if ← takeOp "," then
      -- a loop without brackets of its own must be the only argument
      return .inl (a :: acc, isLoop)
    needOp ")"
    return .inr (a :: acc).reverse
  return args

private def slicePart (k : Inner) : Reading Expr := do
  if (← isOp ":") || (← isOp "]") || (← isOp ",") then return .omitted else k.expr

def subscript (k : Inner) : Reading Expr := do
  if ← isOp "*" then element k k.expr
  else
    let lo ← if ← isOp ":" then pure .omitted else namedExpression k
    if ← takeOp ":" then
      let hi ← slicePart k
      let step ← if ← takeOp ":" then slicePart k else pure .omitted
      return .slice lo hi step
    else return lo

def primary (k : Inner) (atom : Reading Expr) : Reading Expr := do
  let l ← line
  loop (← atom) fun e => do
    if ← takeOp "." then return .inl (.attr l e (← needName))
    else if ← takeOp "(" then return .inl (.call l e (← arguments k))
    else if ← takeOp "[" then
      let i ← tupleOf (isOp "]") (subscript k)
      -- a starred index makes a tuple even by itself
      let i := match i with
        | .starred .. => .display .tuple [i]
        | i => i
      needOp "]"
      return .inl (.index l e i)
    else return .inr e

/-! ## Formatted texts -/

private inductive Piece where
  | chars (s : List Char)
  | part (e : Expr)

private def join (ps : List Piece) : List Expr :=
  let (out, last) := ps.foldl (fun ((out, last) : List Expr × List Char) p => match p with
    | .chars s => (out, last ++ s)
    | .part e => (e :: (if last.isEmpty then out else .lit (.str (String.ofList last)) :: out), [])) ([], [])
  (if last.isEmpty then out else .lit (.str (String.ofList last)) :: out).reverse

/-- What the last characters of plain text mean for the next one. -/
private inductive After where
  | text | backslash | nameMark | name
  deriving DecidableEq

/-- The text up to the next brace that matters, the rest, and whether a doubled brace was met, so
that text goes on; none if a closing brace stands alone. Inside the name of a character braces do
not matter. -/
private def plainPart (raw nested : Bool) (after : After) : List Char → List Char →
    Option (List Char × List Char × Bool)
  | [], acc => some (acc.reverse, [], false)
  | c :: r, acc =>
    if after = .name then plainPart raw nested (if c == '\x7d' then .text else .name) r (c :: acc)
    else if after = .nameMark && c == '\x7b' then plainPart raw nested .name r (c :: acc)
    else if c == '\x7b' || c == '\x7d' then
      if nested then some (acc.reverse, c :: r, false)
      else if r.head? == some c then some ((c :: acc).reverse, r.drop 1, true)
      else if c == '\x7d' then none
      else some (acc.reverse, c :: r, false)
    else if after = .backslash then
      plainPart raw nested (if c == 'N' then .nameMark else .text) r (c :: acc)
    else plainPart raw nested (if c == '\\' && !raw then .backslash else .text) r (c :: acc)

/-- The expression up to the sign that ends it, which stays in front of the rest. -/
private def expressionPart : Option (Char × Bool) → List Char → List Char → List Char →
    Option (List Char × List Char)
  | _, _, [], _ => none
  | some (q, long), stack, c :: r, acc =>
    if c == '\\' then none
    else if c == q then
      if long then
        match r with
        | d :: e :: r' =>
          if d == q && e == q then expressionPart none stack r' (e :: d :: c :: acc)
          else expressionPart (some (q, long)) stack (d :: e :: r') (c :: acc)
        | _ => none
      else expressionPart none stack r (c :: acc)
    else expressionPart (some (q, long)) stack r (c :: acc)
  | none, stack, c :: r, acc =>
    if c == '\\' || c == '#' then none
    else if c == '"' || c == '\'' then
      match r with
      | d :: e :: r' =>
        if d == c && e == c then expressionPart (some (c, true)) stack r' (e :: d :: c :: acc)
        else expressionPart (some (c, false)) stack (d :: e :: r') (c :: acc)
      | r => expressionPart (some (c, false)) stack r (c :: acc)
    else if c == '(' || c == '[' || c == '{' then expressionPart none (c :: stack) r (c :: acc)
    else if stack.isEmpty && (c == '!' || c == ':' || c == '}' || c == '=' || c == '<' || c == '>') then
      match r with
      | '=' :: r' =>
        if c == '!' || c == '=' || c == '<' || c == '>' then
          expressionPart none stack r' ('=' :: c :: acc)
        else some (acc.reverse, c :: r)
      | r =>
        if c == '<' || c == '>' then expressionPart none stack r (c :: acc)
        else some (acc.reverse, c :: r)
    else if c == ')' || c == ']' || c == '}' then
      match stack with
      | o :: outer =>
        if (o == '(' && c == ')') || (o == '[' && c == ']') || (o == '{' && c == '}') then
          expressionPart none outer r (c :: acc)
        else none
      | [] => none
    else expressionPart none stack r (c :: acc)

private def refuse {α : Type} : Reading α := do failAt (← line)

/-- Reads the expression inside a formatted text as if brackets stood around it. -/
private def embedded (k : Inner) (n : Nat) (s : List Char) : Reading Expr := do
  if s.all fun c => c == ' ' || c == '\t' || c == '\n' || c == '\x0c' || c == '\r' then refuse
  match Lexemes.ofChars n ('(' :: s ++ [')']) with
  | .error f => throw f
  | .ok l =>
    let read : Reading Expr := do
      let e ← starExpressions k
      if !(← isNewline) then stray
      return e
    match read l.all with
    | .ok (e, _) => return e
    | .error f => throw f

private structure FieldTail where
  conversion : Option Char
  spec : Option Expr
  rest : List Char

/-- The pieces of a formatted text. `lineAt` tells the line of a place by what is left there;
`depth` counts the fields around. -/
private def pieces (k : Inner) (raw : Bool) (lineAt : List Char → Nat) : Nat → Nat → List Char →
    Reading (List Piece × List Char)
  | 0, _, _ => refuse
  | fuel + 1, depth, s => do
    let some (text, rest, again) := plainPart raw (depth > 0) .text s [] | refuse
    let some chars := if raw then some text else Written.unescape false text | refuse
    let onward (ps : List Piece) (rest : List Char) : Reading (List Piece × List Char) := do
      let (more, rest) ← pieces k raw lineAt fuel depth rest
      return (.chars chars :: ps ++ more, rest)
    if again then onward [] rest
    else match rest with
      | '{' :: inside => do
        if depth ≥ 2 then refuse
        let some (source, tail) := expressionPart none [] inside [] | refuse
        let e ← embedded k (lineAt rest) source
        let (shown, tail) := match tail with
          | '=' :: r =>
            let blanks := r.takeWhile fun c => c == ' ' || ('\t' ≤ c && c ≤ '\r')
            (source ++ '=' :: blanks, r.drop blanks.length)
          | r => ([], r)
        let (conversion, tail) ← match tail with
          | '!' :: c :: r => if c == 's' || c == 'r' || c == 'a' then pure (some c, r) else refuse
          | r => pure (none, r)
        let (spec, tail) ← match tail with
          | ':' :: r => do
            let (ps, r) ← pieces k raw lineAt fuel (depth + 1) r
            pure (some (Expr.joined (join ps)), r)
          | r => pure (none, r)
        match tail with
        | '}' :: r =>
          let conversion :=
            if !shown.isEmpty && spec.isNone && conversion.isNone then some 'r' else conversion
          onward [.chars shown, .part (.field e conversion (spec.getD .omitted))] r
        | _ => refuse
      | rest => return ([.chars chars], rest)

/-- Literals of text that stand next to each other are one. -/
def texts (k : Inner) : Reading Expr := do
  let ws ← loop ([] : List (Written × Nat)) fun ws => do
    let l ← peek
    match l.token with
    | .text w =>
      advance
      return .inl ((w, l.line) :: ws)
    | _ => return .inr ws.reverse
  if ws.any (·.1.bytes) then
    if !ws.all (·.1.bytes) then refuse
    let some cs := ws.mapM (·.1.chars?) | refuse
    return .lit (.bytes (cs.flatten.map fun c => c.toNat.toUInt8))
  else if ws.any (·.1.formatted) then
    let ps ← ws.mapM fun (w, l) => do
      if w.formatted then
        let lineAt (rest : List Char) : Nat := l + w.body.count '\n' - rest.count '\n'
        return (← pieces k w.raw lineAt (w.body.length + 1) 0 w.body).1
      else
        let some cs := w.chars? | refuse
        return [.chars cs]
    return .joined (join ps.flatten)
  else
    let some cs := ws.mapM (·.1.chars?) | refuse
    return .lit (.str (String.ofList cs.flatten))

/-! ## Atoms -/

/-- What stands between round brackets, up to the closing one, which is taken. -/
private def bracketed (k : Inner) : Reading Expr := do
  let l ← line
  if ← takeOp ")" then return .display .tuple []
  if ← isWord "yield" then
    let e ← yieldExpression k
    needOp ")"
    return e
  let first ← element k (namedExpression k)
  if ← startsClause then
    match first with
    | .starred .. => failAt l
    | _ => pure ()
    let cs ← clauses k
    needOp ")"
    return .comprehension l .generator first cs
  if ← takeOp "," then
    let (rest, _) ← commaList (isOp ")") (element k (namedExpression k))
    needOp ")"
    return .display .tuple (first :: rest)
  needOp ")"
  match first with
  | .starred .. => failAt l
  | e => return e

private def listDisplay (k : Inner) (start : Nat) : Reading Expr := do
  if ← takeOp "]" then return .display .list []
  let first ← element k (namedExpression k)
  if ← startsClause then
    match first with
    | .starred .. => failAt start
    | _ => pure ()
    let cs ← clauses k
    needOp "]"
    return .comprehension start .list first cs
  let rest ← if ← takeOp "," then
      Prod.fst <$> commaList (isOp "]") (element k (namedExpression k))
    else pure []
  needOp "]"
  return .display .list (first :: rest)

private def dictEntry (k : Inner) : Reading Expr := do
  if ← takeOp "**" then return .doubleStarred (← operand k)
  else
    let key ← k.expr
    needOp ":"
    return .pair key (← k.expr)

/-- A dictionary or a set; the first entry decides. -/
private def braced (k : Inner) (start : Nat) : Reading Expr := do
  if ← takeOp "\x7d" then return .display .dict []
  if ← isOp "**" then
    let first ← dictEntry k
    if ← startsClause then failAt start
    let rest ← if ← takeOp "," then Prod.fst <$> commaList (isOp "\x7d") (dictEntry k) else pure []
    needOp "\x7d"
    return .display .dict (first :: rest)
  let first ← element k (namedExpression k)
  let starred := first.isStarred
  if (← isOp ":") && !starred then
    advance
    let e := Expr.pair first (← k.expr)
    if ← startsClause then
      let cs ← clauses k
      needOp "\x7d"
      return .comprehension start .dict e cs
    let rest ← if ← takeOp "," then Prod.fst <$> commaList (isOp "\x7d") (dictEntry k) else pure []
    needOp "\x7d"
    return .display .dict (e :: rest)
  if ← startsClause then
    if starred then failAt start
    let cs ← clauses k
    needOp "\x7d"
    return .comprehension start .set first cs
  let rest ← if ← takeOp "," then
      Prod.fst <$> commaList (isOp "\x7d") (element k (namedExpression k))
    else pure []
  needOp "\x7d"
  return .display .set (first :: rest)

def atom (k : Inner) : Reading Expr := do
  let l ← peek
  match l.token with
  | .name "None" => advance; return .lit .null
  | .name "True" => advance; return .lit (.bool true)
  | .name "False" => advance; return .lit (.bool false)
  | .name s =>
    if keywords.contains s then stray
    else
      advance
      return .name l.line s
  | .number (.int n) =>
    advance
    -- literals have no more digits than numbers may show
    if n.natAbs.log2 ≥ 14280 && (toString n).length > 4300 then failAt l.line
    return .lit (.int n)
  | .number n => advance; return .lit n
  | .text _ => texts k
  | .op "(" => advance; bracketed k
  | .op "[" => advance; listDisplay k l.line
  | .op "\x7b" => advance; braced k l.line
  | .op "..." => advance; return .lit .ellipsis
  | _ => stray

/-- Signs in front of an operand, and a power behind it. -/
def factor (k : Inner) : Reading Expr := do
  let l ← peek
  match l.token with
  | .op "-" => advance; return .unary .minus (← k.factor)
  | .op "+" => advance; return .unary .plus (← k.factor)
  | .op "~" => advance; return .unary .invert (← k.factor)
  | _ =>
    let base ← if ← takeWord "await" then do
        let e ← primary k (atom k)
        pure (Expr.await l.line e)
      else primary k (atom k)
    if ← takeOp "**" then return .binary .pow base (← k.factor) else return base

/-- The readers of expressions nested at most so deeply. -/
def expressions : Nat → Inner
  | 0 => ⟨stray, stray⟩
  | n + 1 =>
    let k := expressions n
    ⟨expression k, factor k⟩

end Stepwise.Script
