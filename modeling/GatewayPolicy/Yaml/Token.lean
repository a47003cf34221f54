import GatewayPolicy.Yaml.Text
/-!
# YAML tokens

The first half of reading a YAML document: characters to tokens. Outside of brackets the indentation
says where blocks begin and end, so the scanner keeps the columns of the open blocks and turns them
into tokens. That a scalar is a key is known only when its colon comes; until then the scanner keeps
where the scalar began, and a key has to end on its line.

Anchors, tags, directives and folded texts are refused.
-/

namespace GatewayPolicy

namespace Yaml

/-- A token of a document. -/
inductive Token where
  /-- The mark of the start of a document. -/
  | documentStart
  /-- The mark of the end of a document. -/
  | documentEnd
  /-- The start of a sequence in a block. -/
  | sequenceStart
  /-- The start of a mapping in a block. -/
  | mappingStart
  /-- The end of a block. -/
  | blockEnd
  /-- An opening bracket. -/
  | openSequence
  /-- A closing bracket. -/
  | closeSequence
  /-- An opening brace. -/
  | openMapping
  /-- A closing brace. -/
  | closeMapping
  /-- The dash in front of an item. -/
  | item
  /-- A comma. -/
  | comma
  /-- The start of a key. -/
  | key
  /-- The colon in front of a value. -/
  | value
  /-- A plain scalar. -/
  | plain (text : String)
  /-- A scalar in quotes, or a literal one. -/
  | quoted (text : String)
  deriving DecidableEq, Repr

/-- A place in a document. -/
structure Position where
  /-- The line. -/
  line : Nat := 0
  /-- The column. -/
  column : Nat := 0
  /-- The characters in front. -/
  offset : Nat := 0

namespace Position

/-- The place after a character. -/
def next (p : Position) (c : Char) : Position :=
  if isBreak c then ⟨p.line + 1, 0, p.offset + 1⟩ else ⟨p.line, p.column + 1, p.offset + 1⟩

/-- The place after a list of characters. -/
def after (p : Position) (cs : List Char) : Position := cs.foldl next p

end Position

/-- What may turn out to be a key. -/
structure KeyCandidate where
  /-- Only a key may begin here. -/
  required : Bool
  /-- How many tokens are in front of it. -/
  index : Nat
  /-- Where it begins. -/
  start : Position

/-- How long a key may be. -/
def maxKeyLength : Nat := 1024

/-- What has begun at the place cannot be a key any more at the later place. -/
def KeyCandidate.isStale (k : KeyCandidate) (p : Position) : Bool :=
  k.start.line < p.line || k.start.offset + maxKeyLength < p.offset

/-- The state of the scanner. -/
structure Scanner where
  /-- The characters that are left. -/
  input : List Char
  /-- Where they begin. -/
  position : Position := {}
  /-- The tokens so far. -/
  tokens : Array Token := #[]
  /-- The columns of the open blocks, innermost first. -/
  indents : List Nat := []
  /-- What may be a key inside of the innermost brackets. -/
  candidate : Option KeyCandidate := none
  /-- What may be a key outside of each of the open brackets, innermost first. -/
  outer : List (Option KeyCandidate) := []
  /-- A key may begin here. -/
  keyAllowed : Bool := true

namespace Scanner

/-- The scanner is inside of brackets. -/
def inFlow (s : Scanner) : Bool := !s.outer.isEmpty

/-- The least indentation of what belongs to the innermost block. -/
def innerIndent (s : Scanner) : Nat :=
  match s.indents with
  | [] => 0
  | column :: _ => column + 1

/-- The scanner in front of later characters. -/
def advance (s : Scanner) (rest : List Char) : Scanner :=
  { s with
    input := rest
    position := s.position.after (s.input.take (s.input.length - rest.length)) }

/-- Adds a token. -/
def emit (s : Scanner) (t : Token) : Scanner := { s with tokens := s.tokens.push t }

/-! ## Blocks -/

/-- How many of the blocks are indented by more than what follows, and the others. -/
def closedBlocks (column : Nat) : List Nat → Nat × List Nat
  | [] => (0, [])
  | indent :: rest =>
    if column < indent then
      let (n, open') := closedBlocks column rest
      (n + 1, open')
    else (0, indent :: rest)

/-- Ends blocks. -/
def endBlocks (s : Scanner) (n : Nat) (open' : List Nat) : Scanner :=
  { s with tokens := s.tokens ++ Array.replicate n .blockEnd, indents := open' }

/-- Ends the blocks that are indented by more than what follows. -/
def unindent (s : Scanner) : Scanner :=
  if s.inFlow then s
  else
    let (n, open') := closedBlocks s.position.column s.indents
    s.endBlocks n open'

/-- Ends all blocks. -/
def unindentAll (s : Scanner) : Scanner :=
  if s.inFlow then s else s.endBlocks s.indents.length []

/-- Starts a block at the column, unless one that is indented so far is open; the token of its start
comes at the index. -/
def indent (s : Scanner) (column index : Nat) (t : Token) : Scanner :=
  if !s.inFlow && s.innerIndent ≤ column then
    { s with tokens := s.tokens.insertIdxIfInBounds index t, indents := column :: s.indents }
  else s

/-! ## Keys -/

/-- Drops the candidate, unless only a key was allowed there. -/
def dropCandidate? (s : Scanner) : Option Scanner :=
  if s.candidate.any (·.required) then none else some { s with candidate := none }

/-- A candidate without those that are stale; none if only a key was allowed there. -/
def freshCandidate? (p : Position) (k : Option KeyCandidate) : Option (Option KeyCandidate) :=
  match k with
  | some k => if k.isStale p then (if k.required then none else some none) else some (some k)
  | none => some none

/-- Drops all candidates that are stale. -/
def dropStale? (s : Scanner) : Option Scanner := do
  let candidate ← freshCandidate? s.position s.candidate
  let outer ← s.outer.mapM (freshCandidate? s.position)
  return { s with candidate, outer }

/-- Notes that what follows may be a key, if keys are allowed here. -/
def noteCandidate? (s : Scanner) : Option Scanner := do
  if s.keyAllowed then
    let s ← s.dropCandidate?
    let required := !s.inFlow && s.indents.head? == some s.position.column
    return { s with candidate := some ⟨required, s.tokens.size, s.position⟩ }
  else return s

/-! ## Steps -/

/-- Skips blanks, comments and line ends. Outside of brackets a key may begin on a new line, and no
tabs may be in front of it. -/
def skipSpace (inFlow keyAllowed inComment : Bool) : List Char → Bool × List Char
  | [] => (keyAllowed, [])
  | c :: cs =>
    if isBreak c then skipSpace inFlow (keyAllowed || !inFlow) false cs
    else if inComment then skipSpace inFlow keyAllowed true cs
    else if c == ' ' || (c == '\t' && (inFlow || !keyAllowed)) then
      skipSpace inFlow keyAllowed false cs
    else if c == '#' then skipSpace inFlow keyAllowed true cs
    else (keyAllowed, c :: cs)

/-- Goes to the next token. -/
def toToken? (s : Scanner) : Option Scanner := do
  let (keyAllowed, rest) := skipSpace s.inFlow s.keyAllowed false s.input
  let s ← ({ s.advance rest with keyAllowed }).dropStale?
  return s.unindent

/-- The mark of the start or the end of a document. -/
def documentMark? (s : Scanner) (t : Token) : Option Scanner := do
  let s ← s.unindentAll.dropCandidate?
  return ({ s.advance (s.input.drop 3) with keyAllowed := false }).emit t

/-- An opening bracket or brace. -/
def openBracket? (s : Scanner) (t : Token) (rest : List Char) : Option Scanner := do
  let s ← s.noteCandidate?
  return ({ s.advance rest with
    candidate := none, outer := s.candidate :: s.outer, keyAllowed := true }).emit t

/-- A closing bracket or brace. -/
def closeBracket? (s : Scanner) (t : Token) (rest : List Char) : Option Scanner := do
  let s ← s.dropCandidate?
  return ({ s.advance rest with
    candidate := s.outer.head?.getD none, outer := s.outer.tail, keyAllowed := false }).emit t

/-- A comma inside of brackets. -/
def comma? (s : Scanner) (rest : List Char) : Option Scanner := do
  let s ← s.dropCandidate?
  return ({ s.advance rest with keyAllowed := true }).emit .comma

/-- The dash in front of an item of a block. -/
def item? (s : Scanner) (rest : List Char) : Option Scanner := do
  if !s.inFlow && !s.keyAllowed then none
  let s ← (s.indent s.position.column s.tokens.size .sequenceStart).dropCandidate?
  return ({ s.advance rest with keyAllowed := true }).emit .item

/-- The question mark in front of a key that need not end on its line. -/
def longKey? (s : Scanner) (rest : List Char) : Option Scanner := do
  if !s.inFlow && !s.keyAllowed then none
  let s ← (s.indent s.position.column s.tokens.size .mappingStart).dropCandidate?
  return ({ s.advance rest with keyAllowed := !s.inFlow }).emit .key

/-- The colon in front of a value, which makes a key of the candidate. -/
def value? (s : Scanner) (rest : List Char) : Option Scanner :=
  match s.candidate with
  | some k =>
    let s := { s with
      tokens := s.tokens.insertIdxIfInBounds k.index .key, candidate := none, keyAllowed := false }
    let s := s.indent k.start.column k.index .mappingStart
    some ((s.advance rest).emit .value)
  | none =>
    if !s.inFlow && !s.keyAllowed then none
    else
      let s := s.indent s.position.column s.tokens.size .mappingStart
      some (({ s.advance rest with keyAllowed := !s.inFlow }).emit .value)

/-- A scalar in quotes. -/
def quotedScalar? (s : Scanner) (q : Quotes) (rest : List Char) : Option Scanner := do
  let s ← s.noteCandidate?
  let (text, rest) ← quotedChars? q rest
  return ({ s.advance rest with keyAllowed := false }).emit (.quoted (.ofList text))

/-- A literal scalar. -/
def literalScalar? (s : Scanner) (rest : List Char) : Option Scanner := do
  let s ← s.dropCandidate?
  let (text, rest) ← literalText? s.innerIndent rest
  return ({ s.advance rest with keyAllowed := true }).emit (.quoted text)

/-- A plain scalar. -/
def plainScalar? (s : Scanner) : Option Scanner := do
  let s ← s.noteCandidate?
  let (text, rest, onNewLine) ← plainText? ⟨s.inFlow, s.innerIndent⟩ s.input
  return ({ s.advance rest with keyAllowed := onNewLine }).emit (.plain text)

/-- The next token, which begins with `c`. -/
def token? (s : Scanner) (c : Char) (rest : List Char) : Option Scanner :=
  if s.position.column = 0 && atDocumentMark s.input then
    s.documentMark? (if c = '-' then .documentStart else .documentEnd)
  else if c = '[' then s.openBracket? .openSequence rest
  else if c = '\x7b' then s.openBracket? .openMapping rest
  else if c = ']' then s.closeBracket? .closeSequence rest
  else if c = '\x7d' then s.closeBracket? .closeMapping rest
  else if c = ',' then s.comma? rest
  else if c = '-' && atSpace rest then s.item? rest
  else if c = '?' && (s.inFlow || atSpace rest) then s.longKey? rest
  else if c = ':' && (s.inFlow || atSpace rest) then s.value? rest
  else if c = '|' && !s.inFlow then s.literalScalar? rest
  else if c = '\'' then s.quotedScalar? .single rest
  else if c = '"' then s.quotedScalar? .double rest
  else if isReserved c then none
  else s.plainScalar?

/-- The end of the document, which is the start of a new line. -/
def finish? (s : Scanner) : Option (List Token) := do
  let s ← s.unindentAll.dropCandidate?
  return s.tokens.toList

/-- The tokens up to the end; every token takes a character at least. -/
def scan? : (fuel : Nat) → Scanner → Option (List Token)
  | 0, _ => none
  | fuel + 1, s => do
    let s ← s.toToken?
    match s.input with
    | [] => s.finish?
    | c :: rest => scan? fuel (← s.token? c rest)

end Scanner

/-- The tokens of a document. A byte order mark in front of it does not count. -/
def tokens? (cs : List Char) : Option (List Token) :=
  let cs := match cs with
    | '\ufeff' :: rest => rest
    | _ => cs
  if cs.all isAllowed then Scanner.scan? (cs.length + 1) { input := cs } else none

end Yaml

end GatewayPolicy
