import Detype.Lexer.Scan

/-
**The parser's state and its primitive steps.**

A parser reads a state that holds the current token and gives a result with the state after it, or
stops with a fault. Since the state is a value, trying a reading and going back costs nothing but the
attempt.

* `Parser` — the monad; `tryParse` and `lookAhead` go back.
* `Context` — what the surroundings of a place allow.
* `Grammar` — the recursive entry points that the grammar's rules call, so that the rules themselves
  are plain functions; `Detype.Parser.Program` ties them together.
-/

namespace Detype

/-- What the surroundings of a place allow or demand. -/
structure Context where
  strict : Bool := false
  /-- Whether an import or export has shown the text to be a module. -/
  isModule : Bool := false
  canBeModule : Bool := true
  topLevel : Bool := false
  inNamespace : Bool := false
  inFunction : Bool := false
  inAsync : Bool := false
  inGenerator : Bool := false
  inClass : Bool := false
  inClassField : Bool := false
  inStaticBlock : Bool := false
  inParameters : Bool := false
  inDeclare : Bool := false
  includeIn : Bool := true
  breakAllowed : Bool := false
  continueAllowed : Bool := false
  inCond : Bool := false
  willExpectColon : Bool := false
  noConditionalTypes : Bool := false
  insideNonArrow : Bool := false
  forLoopInit : Bool := false
  forAwaitInit : Bool := false
  hasSuperClass : Bool := false
  ignoreErrors : Bool := false

/-- Words that only strict code reserves. -/
def Context.futureWords : List String :=
  ["implements", "package", "protected", "interface", "private", "public"]

/-- Whether a word, spelled without escapes, is reserved here. -/
def Context.isReserved (c : Context) (word : String) : Bool :=
  if word == "let" then c.strict
  else if word == "await" then c.inAsync || c.inStaticBlock || c.isModule
  else if word == "yield" then c.inGenerator || c.strict
  else if word == "enum" then true
  else Token.reservedWords.contains word || (c.strict && Context.futureWords.contains word)

structure ParserState where
  token : Token
  /-- Indices of the current token. -/
  start : Nat
  stop : Nat
  /-- The position of the first comment in the old style before the token: the token counts from there. -/
  marker : Option Nat := none
  /-- Whether a line ends between the previous token and the current one. -/
  lineBreak : Bool
  /-- What was noted on the current token, told once it is consumed. -/
  notes : List Lexer.Note
  prevSpan : Span
  /-- Whether a token has been read. -/
  begun : Bool
  context : Context := {}
  labels : List String := []
  errors : Array FaultAt := #[]
  /-- Faults that count only if the text turns out to be a module. -/
  moduleErrors : Array FaultAt := #[]
  leading : Array (Nat × Comment) := #[]
  trailing : Array (Nat × Comment) := #[]
  foundModuleItem : Bool := false
  /-- Where an arrow function may begin. -/
  arrowStart : Option Nat := none
  /-- The commas before a closing bracket, by the position of the opening one. -/
  trailingCommas : List (Nat × Span) := []

/-- What a parser reads but never changes. -/
structure ParserEnv where
  source : Source
  jsx : Bool

inductive Outcome (α : Type) where
  | done (value : α) (state : ParserState)
  /-- The fault that stopped the parser, and where it had come to. -/
  | fail (fault : FaultAt) (state : ParserState)

def Parser (α : Type) := ParserEnv → ParserState → Outcome α

namespace Parser

@[inline] def run (p : Parser α) (env : ParserEnv) (s : ParserState) : Outcome α := p env s

instance : Monad Parser where
  pure a := fun _ s => .done a s
  bind p f := fun env s =>
    match p env s with
    | .done a s' => f a env s'
    | .fail e s' => .fail e s'

@[inline] def get : Parser ParserState := fun _ s => .done s s

@[inline] def modify (f : ParserState → ParserState) : Parser Unit := fun _ s => .done () (f s)

@[inline] def env : Parser ParserEnv := fun e s => .done e s

/-- Stops with a fault at a place. -/
def failAt (fault : Fault) (span : Span) : Parser α := fun _ s => .fail ⟨fault, span⟩ s

def failWith (e : FaultAt) : Parser α := fun _ s => .fail e s

@[inline] def context : Parser Context := fun _ s => .done s.context s

/-- Runs a parser in a changed context. -/
def inContext (change : Context → Context) (p : Parser α) : Parser α := fun env s =>
  match p env { s with context := change s.context } with
  | .done a s' => .done a { s' with context := s.context }
  | .fail e s' => .fail e { s' with context := s.context }

/-- Notes a fault of strict code. In code that is not known to be strict it waits for the verdict on
the whole text. -/
def emitStrict (fault : Fault) (span : Span) : Parser Unit :=
  modify fun s =>
    if s.context.ignoreErrors then s
    else if s.context.strict then { s with errors := s.errors.push ⟨fault, span⟩ }
    else { s with moduleErrors := s.moduleErrors.push ⟨fault, span⟩ }

/-- Runs a parser that may give up. If it does, or fails, nothing has happened. -/
def tryParse (p : Parser (Option α)) : Parser (Option α) := fun env s =>
  match p env { s with context := { s.context with ignoreErrors := true } } with
  | .done (some a) s' =>
    .done (some a) { s' with context := { s'.context with ignoreErrors := s.context.ignoreErrors } }
  | .done none _ | .fail _ _ => .done none s

/-- Runs a parser for its answer alone. -/
def lookAhead (p : Parser Bool) : Parser Bool := fun env s =>
  match p env { s with context := { s.context with ignoreErrors := true } } with
  | .done b _ => .done b s
  | .fail _ _ => .done false s

/-- Runs a parser and, where it stops, goes on with another. -/
def orElse (p : Parser α) (handler : FaultAt → Parser α) : Parser α := fun env s =>
  match p env s with
  | .done a s' => .done a s'
  | .fail e s' => handler e env s'

/-! ### Tokens -/

/-- How the token after the current one is read. -/
inductive Next where
  | code | jsxTag | jsxText | jsxAttrValue
deriving DecidableEq

def scanNext (env : ParserEnv) (next : Next) (i : Nat) : Lexer.Scan :=
  match next with
  | .code => Lexer.scanToken env.source .code i
  | .jsxTag => Lexer.scanToken env.source .jsxTag i
  | .jsxText => Lexer.scanJsxText env.source i
  | .jsxAttrValue =>
    match env.source.at? i with
    | some '"' => Lexer.scanJsxString env.source i '"'
    | some '\'' => Lexer.scanJsxString env.source i '\''
    | _ => Lexer.scanToken env.source .jsxTag i

/-- Hands out the comments before a token: to the token, or to the one before. At the end of the
text all go to the last token. -/
def attachComments (s : ParserState) (prevHi lo : Nat) (isEof : Bool) (comments : List (Bool × Comment)) :
    ParserState :=
  comments.foldl (fun s (forNext, c) =>
    if forNext && !(isEof && s.begun) then { s with leading := s.leading.push (lo, c) }
    else { s with trailing := s.trailing.push (prevHi, c) }) s

/-- Reads the token at an index as the current one. A comment in the old style, or the line of a merge
conflict, counts as its start. -/
def load (env : ParserEnv) (next : Next) (i : Nat) (prev : Token) (prevSpan : Span) (s : ParserState) :
    ParserState :=
  let trivia : Lexer.Trivia :=
    if next == .jsxText then ⟨i, false, [], [], none⟩
    else Lexer.scanTrivia env.source prev (env.source.size + 1) i (!s.begun) [] []
  let scan : Lexer.Scan := match trivia.failure with
    | some fault => { token := .error fault, stop := trivia.stop }
    | none => scanNext env next trivia.stop
  let isEof := match scan.token with | .eof => true | _ => false
  let marker := (trivia.notes.find? (·.fault.startsToken)).map (·.span.lo)
  let lo := if isEof && !s.begun then 1 else marker.getD (env.source.position trivia.stop)
  let prevHi := if isEof && marker.isSome then env.source.position scan.stop else prevSpan.hi
  let s := attachComments s prevHi lo isEof trivia.comments
  { s with
    token := scan.token, start := trivia.stop, stop := scan.stop, marker, lineBreak := trivia.lineBreak
    notes := trivia.notes ++ scan.notes, prevSpan := prevSpan }

def tokenLo (env : ParserEnv) (s : ParserState) : Nat := s.marker.getD (env.source.position s.start)

def tokenSpan (env : ParserEnv) (s : ParserState) : Span := ⟨tokenLo env s, env.source.position s.stop⟩

/-- Tells what was noted on the current token. -/
def tellNotes (s : ParserState) : ParserState :=
  if s.context.ignoreErrors then { s with notes := [] }
  else
    let s' := s.notes.foldl (fun s n =>
      if n.strictOnly && !s.context.strict then
        { s with moduleErrors := s.moduleErrors.push ⟨n.fault, n.span⟩ }
      else { s with errors := s.errors.push ⟨n.fault, n.span⟩ }) s
    { s' with notes := [] }

/-- Consumes the current token and reads the next in a given way. -/
def bumpInto (next : Next) : Parser Unit := fun env s =>
  let s := { tellNotes s with begun := true }
  .done () (load env next s.stop s.token (tokenSpan env s) s)

/-- Consumes the current token. -/
def bump : Parser Unit := bumpInto .code

/-- Notes a fault and goes on. A place where no token could be read is noted too, and passed over. -/
def emit (fault : Fault) (span : Span) : Parser Unit := fun env s =>
  if s.context.ignoreErrors then .done () s
  else
    let note (f : FaultAt) (s : ParserState) : ParserState := { s with errors := s.errors.push f }
    match s.token with
    | .error e =>
      match bump env (note e s) with
      | .done _ s' => .done () (note ⟨fault, span⟩ s')
      | .fail e s' => .fail e s'
    | _ => .done () (note ⟨fault, span⟩ s)

/-- Stops with the fault of an error token, which is consumed. -/
def stopAtError (e : FaultAt) : Parser α := do
  bump
  failWith e

/-- Reads the current token anew from its start. -/
def rescan (scan : Source → Nat → Lexer.Scan) : Parser Unit := fun env s =>
  let r := scan env.source s.start
  .done () { s with token := r.token, stop := r.stop, notes := r.notes }

/-- Cuts the current punctuator down to its first character. -/
def splitPunct : Parser Unit := fun env s =>
  match s.token with
  | .punct text =>
    if text.length > 1 then
      .done () { s with token := .punct (env.source.slice s.start (s.start + 1)), stop := s.start + 1 }
    else .done () s
  | _ => .done () s

@[inline] def token : Parser Token := fun _ s => .done s.token s

@[inline] def curSpan : Parser Span := fun env s => .done (tokenSpan env s) s

@[inline] def curLo : Parser Nat := fun env s => .done (tokenLo env s) s

@[inline] def prevSpan : Parser Span := fun _ s => .done s.prevSpan s

/-- From a position to the end of the last consumed token. -/
@[inline] def spanFrom (lo : Nat) : Parser Span := fun _ s => .done ⟨lo, s.prevSpan.hi⟩ s

@[inline] def hadLineBreak : Parser Bool := fun _ s => .done s.lineBreak s

/-- The token after the current one, and whether a line ends between them. -/
def peek : Parser (Token × Bool) := fun env s =>
  let s' := load env .code s.stop s.token (tokenSpan env s) { s with begun := true }
  .done (s'.token, s'.lineBreak) s

/-- The name of the current token in messages. -/
def shownToken : Parser String := return (← token).shown

/-- Stops because of the current token. -/
def unexpected (wanted : String) : Parser α := do
  failAt (.unexpected (← shownToken) wanted) (← curSpan)

def isPunct (text : String) : Parser Bool := do
  match ← token with
  | .punct t => return t == text
  | _ => return false

/-- Whether the current token is a given word, spelled without escapes. -/
def isWord (text : String) : Parser Bool := do
  match ← token with
  | .word t escaped => return t == text && !escaped
  | _ => return false

def isEof : Parser Bool := do
  match ← token with
  | .eof => return true
  | _ => return false

def eatPunct (text : String) : Parser Bool := do
  if ← isPunct text then bump; return true else return false

def eatWord (text : String) : Parser Bool := do
  if ← isWord text then bump; return true else return false

def expectPunct (text : String) : Parser Unit := do
  unless ← eatPunct text do failAt (.expected text (← shownToken)) (← curSpan)

def expectWord (text : String) : Parser Unit := do
  unless ← eatWord text do failAt (.expected text (← shownToken)) (← curSpan)

/-- A semicolon, or a place where one may be left out. -/
def isSemicolon : Parser Bool := do
  match ← token with
  | .punct ";" | .punct "\x7d" | .eof => return true
  | _ => hadLineBreak

/-- Consumes the end of a statement. An old comment at the end of the text belongs to it. -/
def eatSemicolon : Parser Bool := do
  if ← eatPunct ";" then return true
  if (← get).marker.isSome then
    if let .eof ← token then bump
  isSemicolon

def expectSemicolon : Parser Unit := do
  unless ← eatSemicolon do failAt (.expected ";" (← shownToken)) (← curSpan)

/-- The first character of an angle bracket, also when it starts a longer operator. -/
def isOpenAngle : Parser Bool := do
  match ← token with
  | .punct "<" | .punct "<<" => return true
  | _ => return false

def expectOpenAngle : Parser Unit := do
  if ← isOpenAngle then splitPunct
  expectPunct "<"

def isCloseAngle : Parser Bool := do
  match ← token with
  | .punct t => return t.startsWith ">"
  | _ => return false

/-- Consumes a closing angle bracket and leaves the rest of a longer operator. -/
def expectCloseAngle : Parser Unit := do
  if ← isCloseAngle then splitPunct
  expectPunct ">"

/-! ### Words -/

def isAnyWord : Parser Bool := do
  match ← token with
  | .word _ _ => return true
  | _ => return false

/-- Whether the current token can be a reference to a variable. -/
def isIdentRef : Parser Bool := do
  match ← token with
  | .word t escaped => return escaped || !(← context).isReserved t
  | _ => return false

def tokenIsIdentRef (c : Context) : Token → Bool
  | .word t escaped => escaped || !c.isReserved t
  | _ => false

def tokenIsWord (text : String) : Token → Bool
  | .word t escaped => t == text && !escaped
  | _ => false

def tokenIsAnyWord : Token → Bool
  | .word _ _ => true
  | _ => false

def tokenIsPunct (text : String) : Token → Bool
  | .punct t => t == text
  | _ => false

def peekIsWord (text : String) : Parser Bool := return tokenIsWord text (← peek).1

def peekIsPunct (text : String) : Parser Bool := return tokenIsPunct text (← peek).1

/-- Whether the current token is one word and the next another, on one line. -/
def isWordsOnLine (first second : String) : Parser Bool := do
  if ← isWord first then
    let (next, broken) ← peek
    return tokenIsWord second next && !broken
  else return false

/-- The longest chain of steps that a text of this length can need. -/
def loopFuel : Parser Nat := return 2 * (← env).source.size + 16

/-- Collects results of a step until it gives none. -/
def collect (step : Parser (Option α)) : Nat → Parser (List α)
  | 0 => return []
  | fuel + 1 => do
    match ← step with
    | some a => return a :: (← collect step fuel)
    | none => return []

/-- Repeats a step on a value until it says to stop. -/
def iterate (step : α → Parser (α × Bool)) : Nat → α → Parser α
  | 0, a => return a
  | fuel + 1, a => do
    let (b, goOn) ← step a
    if goOn then iterate step fuel b else return b

end Parser

/-- How an expression that turned out to be a pattern is to be read. -/
inductive PatternUse where
  | binding | bindingElement | assign | assignElement
deriving DecidableEq

/-- How the parts of a pattern are to be read. -/
def PatternUse.element : PatternUse → PatternUse
  | .binding | .bindingElement => .bindingElement
  | .assign | .assignElement => .assignElement

/-- The recursive entry points of the grammar. -/
structure Grammar where
  expr : Parser Expr
  assign : Parser Expr
  unary : Parser Expr
  binary : Parser Expr
  binaryRest : Expr → Nat → Parser Expr
  bindingPat : (disallowLet : Bool) → Parser Pat
  asPattern : PatternUse → Expr → Parser Pat
  params : Parser (List Pat)
  stmt : Parser Stmt
  stmtListItem : Parser Stmt
  moduleItem : Parser Stmt
  functionRest : (start : Nat) → (isAsync isGenerator : Bool) → (params : Parser (List Pat)) → Parser Func
  type : Parser Ty
  plainType : Parser Ty
  jsx : (after : Parser.Next) → Parser Expr

end Detype
