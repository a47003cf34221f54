import GatewayPolicy.Text.Integer
/-!
# Scalars, read

How the text of a scalar is read: a plain one up to where it ends, a quoted one up to its closing
quote, a literal one as far as its lines are indented. Within plain and quoted scalars line ends
fold: a single one is a space, of several all but the first stay, and the blanks around them go.

Each reader gives the text and what follows the scalar.
-/

namespace GatewayPolicy

namespace Yaml

/-! ## Characters -/

/-- A space or a tab. -/
def isSpace (c : Char) : Bool := c == ' ' || c == '\t'

/-- A line end. -/
def isBreak (c : Char) : Bool :=
  c == '\n' || c == '\r' || c == '\u0085' || c == '\u2028' || c == '\u2029'

/-- A space, a tab or a line end. -/
def isSpaceOrBreak (c : Char) : Bool := isSpace c || isBreak c

/-- What follows is a space, a tab, a line end or nothing at all. -/
def atSpace : List Char → Bool
  | [] => true
  | c :: _ => isSpaceOrBreak c

/-- What follows the start of a line marks the start or the end of a document. -/
def atDocumentMark : List Char → Bool
  | '-' :: '-' :: '-' :: rest => atSpace rest
  | '.' :: '.' :: '.' :: rest => atSpace rest
  | _ => false

/-- A character that documents may contain. -/
def isAllowed (c : Char) : Bool :=
  c == '\t' || c == '\n' || c == '\r' || (' ' ≤ c && c ≤ '~') || c == '\u0085' ||
    ('\u00a0' ≤ c && c != '\ufffe' && c != '\uffff')

/-! ## Folding -/

/-- The line ends of a run of blanks; most of them become line feeds. -/
def breaks : List Char → List Char
  | [] => []
  | '\r' :: '\n' :: cs => '\n' :: breaks cs
  | c :: cs =>
    if c == '\u2028' || c == '\u2029' then c :: breaks cs
    else if isBreak c then '\n' :: breaks cs
    else breaks cs

/-- What a run of blanks inside a scalar stands for. -/
def fold (run : List Char) : List Char :=
  match breaks run with
  | [] => run
  | ['\n'] => [' ']
  | '\n' :: more => more
  | all => all

/-- The blanks after the last line end of a run. -/
def lastIndent (run : List Char) : Nat := (run.reverse.takeWhile isSpace).length

/-- A run that has a line end, and no blanks after the last one. -/
def endsAtLineStart (run : List Char) : Bool := run.any isBreak && lastIndent run == 0

theorem length_dropRun_lt {c : Char} {cs : List Char} (h : isSpaceOrBreak c = true) :
    ((c :: cs).dropWhile isSpaceOrBreak).length < (c :: cs).length := by
  rw [List.dropWhile_cons_of_pos h, List.length_cons]
  exact Nat.lt_succ_of_le (List.dropWhile_sublist _).length_le

/-! ## Plain scalars -/

/-- Where a scalar stands. -/
structure Place where
  /-- The scalar is inside of brackets. -/
  inFlow : Bool
  /-- The least indentation of its further lines outside of brackets. -/
  indent : Nat

/-- A character that structures the inside of brackets. -/
def isFlowMark (c : Char) : Bool := [',', '[', ']', '\x7b', '\x7d'].contains c

/-- A character that no plain scalar begins with. -/
def isReserved (c : Char) : Bool :=
  isSpaceOrBreak c || isFlowMark c ||
    ['#', '&', '*', '!', '|', '>', '\'', '"', '%', '@', '\x60'].contains c

/-- A word of a plain scalar ends in front of what follows. -/
def endsWord (inFlow : Bool) : List Char → Bool
  | [] => true
  | c :: rest => isSpaceOrBreak c || (c == ':' && atSpace rest) || (inFlow && isFlowMark c)

/-- A colon directly in front of a mark, which brackets do not allow. -/
def isBadColon (inFlow : Bool) (c : Char) (rest : List Char) : Bool :=
  inFlow && c == ':' && rest.head?.any fun d => isFlowMark d || d == '?'

/-- The characters up to the end of the word, and what follows them. -/
def word? (inFlow : Bool) : List Char → Option (List Char × List Char)
  | [] => some ([], [])
  | c :: rest =>
    if endsWord inFlow (c :: rest) then some ([], c :: rest)
    else if isBadColon inFlow c rest then none
    else (word? inFlow rest).map fun (word, rest) => (c :: word, rest)

theorem length_of_word? {inFlow : Bool} {cs word rest : List Char}
    (h : word? inFlow cs = some (word, rest)) : rest.length ≤ cs.length := by
  induction cs generalizing word with
  | nil => simp only [word?, Option.some.injEq, Prod.mk.injEq] at h; simp [← h.2]
  | cons c cs ih =>
    unfold word? at h
    split at h
    · simp only [Option.some.injEq, Prod.mk.injEq] at h; simp [← h.2]
    · split at h
      · simp at h
      · obtain ⟨⟨w, r⟩, h₁, h₂⟩ := Option.map_eq_some_iff.1 h
        obtain ⟨-, rfl⟩ := Prod.mk.inj h₂
        exact Nat.le_succ_of_le (ih h₁)

/-- A tab stands where a line has to be indented by spaces. -/
def tabInIndent (indent : Nat) : (column : Nat) → List Char → Bool
  | _, [] => false
  | column, c :: cs =>
    if isBreak c then tabInIndent indent 0 cs
    else (c == '\t' && column < indent) || tabInIndent indent (column + 1) cs

/-- The scalar ends with a run of blanks. -/
def endsScalar (p : Place) (run rest : List Char) : Bool :=
  (run.any isBreak && !p.inFlow && lastIndent run < p.indent) ||
    (endsAtLineStart run && atDocumentMark rest) || rest.head? == some '#' ||
    endsWord p.inFlow rest

/-- The words that follow the first one, with the runs between them; what follows the scalar; and
whether that is on a new line. -/
def moreWords? (p : Place) (cs : List Char) : Option (List Char × List Char × Bool) :=
  match cs with
  | [] => some ([], [], false)
  | c :: rest =>
    if _hc : isSpaceOrBreak c then
      let run := (c :: rest).takeWhile isSpaceOrBreak
      let after := (c :: rest).dropWhile isSpaceOrBreak
      if tabInIndent p.indent 0 (run.dropWhile isSpace) then none
      else if endsScalar p run after then some ([], after, run.any isBreak)
      else
        match _h : word? p.inFlow after with
        | none => none
        | some (word, unread) =>
          (moreWords? p unread).map fun (more, rest) => (fold run ++ word ++ more, rest)
    else some ([], c :: rest, false)
termination_by cs.length
decreasing_by exact Nat.lt_of_le_of_lt (length_of_word? ‹_›) (length_dropRun_lt ‹_›)

/-- A plain scalar, what follows it, and whether that is on a new line. -/
def plainText? (p : Place) (cs : List Char) : Option (String × List Char × Bool) := do
  let (first, rest) ← word? p.inFlow cs
  let (more, rest) ← moreWords? p rest
  return (.ofList (first ++ more), rest)

/-! ## Quoted scalars -/

/-- A part of a quoted scalar: characters, or none for the closing quote; and what follows. -/
abbrev Piece := Option (List Char) × List Char

/-- A run of blanks in a quoted scalar. No line may start with a document mark. -/
def runPiece? (cs : List Char) : Option Piece :=
  let run := cs.takeWhile isSpaceOrBreak
  let rest := cs.dropWhile isSpaceOrBreak
  if endsAtLineStart run && atDocumentMark rest then none else some (some (fold run), rest)

/-- A part of a scalar in single quotes; the quote itself is written twice. -/
def singlePiece? : List Char → Option Piece
  | '\'' :: '\'' :: cs => some (some ['\''], cs)
  | '\'' :: cs => some (none, cs)
  | c :: cs => if isSpaceOrBreak c then runPiece? (c :: cs) else some (some [c], cs)
  | [] => none

/-- What a letter after a backslash stands for. -/
def escapes : List (Char × Char) :=
  [('0', '\x00'), ('a', '\x07'), ('b', '\x08'), ('t', '\t'), ('\t', '\t'), ('n', '\n'),
    ('v', '\x0b'), ('f', '\x0c'), ('r', '\r'), ('e', '\x1b'), (' ', ' '), ('"', '"'), ('/', '/'),
    ('\\', '\\'), ('N', '\u0085'), ('_', '\u00a0'), ('L', '\u2028'), ('P', '\u2029')]

/-- How many digits follow a letter after a backslash. -/
def escapeDigits? (c : Char) : Option Nat := [('x', 2), ('u', 4), ('U', 8)].lookup c

/-- The character with the code point. -/
def charOf? (n : Nat) : Option Char := if n.isValidChar then some (Char.ofNat n) else none

/-- A line end after a backslash, which joins the lines. -/
def joinedPiece? (cs : List Char) : Option Piece :=
  let run := cs.takeWhile isSpaceOrBreak
  let rest := cs.dropWhile isSpaceOrBreak
  if lastIndent run == 0 && atDocumentMark rest then none else some (some (breaks run), rest)

/-- What follows a backslash. -/
def escapePiece? : List Char → Option Piece
  | '\r' :: '\n' :: cs => joinedPiece? cs
  | c :: cs =>
    if isBreak c then joinedPiece? cs
    else
      match escapes.lookup c, escapeDigits? c with
      | some d, _ => some (some [d], cs)
      | none, some n =>
        if (cs.take n).length = n then
          ((Text.readDigits? 16 (cs.take n)).bind charOf?).map fun d => (some [d], cs.drop n)
        else none
      | none, none => none
  | [] => none

/-- A part of a scalar in double quotes. -/
def doublePiece? : List Char → Option Piece
  | '"' :: cs => some (none, cs)
  | '\\' :: cs => escapePiece? cs
  | c :: cs => if isSpaceOrBreak c then runPiece? (c :: cs) else some (some [c], cs)
  | [] => none

/-- Every part of a quoted scalar takes at least one character. -/
theorem length_of_runPiece? {c : Char} {cs : List Char} {p : Piece} (hc : isSpaceOrBreak c = true)
    (h : runPiece? (c :: cs) = some p) : p.2.length < (c :: cs).length := by
  unfold runPiece? at h
  dsimp only at h
  split at h
  · simp at h
  · rw [← Option.some.inj h]; exact length_dropRun_lt hc

theorem length_of_singlePiece? {cs : List Char} {p : Piece} (h : singlePiece? cs = some p) :
    p.2.length < cs.length := by
  unfold singlePiece? at h
  split at h
  · rw [← Option.some.inj h]; simp only [List.length_cons]; omega
  · rw [← Option.some.inj h]; simp
  · split at h
    · exact length_of_runPiece? ‹_› h
    · rw [← Option.some.inj h]; simp
  · simp at h

theorem length_of_joinedPiece? {cs : List Char} {p : Piece} (h : joinedPiece? cs = some p) :
    p.2.length ≤ cs.length := by
  unfold joinedPiece? at h
  dsimp only at h
  split at h
  · simp at h
  · rw [← Option.some.inj h]; exact (List.dropWhile_sublist _).length_le

theorem length_of_escapePiece? {cs : List Char} {p : Piece} (h : escapePiece? cs = some p) :
    p.2.length ≤ cs.length := by
  unfold escapePiece? at h
  split at h
  · have := length_of_joinedPiece? h; simp only [List.length_cons]; omega
  · split at h
    · have := length_of_joinedPiece? h; simp only [List.length_cons]; omega
    · split at h
      · rw [← Option.some.inj h]; simp
      · split at h
        · obtain ⟨d, -, rfl⟩ := Option.map_eq_some_iff.1 h
          simp only [List.length_drop, List.length_cons]; omega
        · simp at h
      · simp at h
  · simp at h

theorem length_of_doublePiece? {cs : List Char} {p : Piece} (h : doublePiece? cs = some p) :
    p.2.length < cs.length := by
  unfold doublePiece? at h
  split at h
  · rw [← Option.some.inj h]; simp
  · exact Nat.lt_succ_of_le (length_of_escapePiece? h)
  · split at h
    · exact length_of_runPiece? ‹_› h
    · rw [← Option.some.inj h]; simp
  · simp at h

/-- A kind of quotes: how the parts between them are read. -/
structure Quotes where
  /-- Reads a part. -/
  piece? : List Char → Option Piece
  /-- Every part takes at least one character. -/
  progress : ∀ {cs p}, piece? cs = some p → p.2.length < cs.length

/-- Single quotes. -/
def Quotes.single : Quotes := ⟨singlePiece?, length_of_singlePiece?⟩

/-- Double quotes. -/
def Quotes.double : Quotes := ⟨doublePiece?, length_of_doublePiece?⟩

/-- The characters up to the closing quote, and what follows it. -/
def quotedChars? (q : Quotes) (cs : List Char) : Option (List Char × List Char) :=
  match _h : q.piece? cs with
  | none => none
  | some (none, rest) => some ([], rest)
  | some (some piece, rest) =>
    (quotedChars? q rest).map fun (more, rest) => (piece ++ more, rest)
termination_by cs.length
decreasing_by exact q.progress ‹_›

/-! ## Literal scalars -/

/-- What becomes of the line ends at the end of a literal scalar. -/
inductive Chomping where
  /-- All of them go. -/
  | strip
  /-- The first of them stays. -/
  | clip
  /-- All of them stay. -/
  | keep

/-- The mark of what becomes of the line ends at the end. -/
def chomping? (c : Char) : Option Chomping := [('-', .strip), ('+', .keep)].lookup c

/-- The mark of an indentation that is given. -/
def givenIndent? (c : Char) : Option Nat :=
  if '1' ≤ c && c ≤ '9' then some (Text.digitValue c) else none

/-- The marks at the head of a literal scalar, in any order. -/
def literalHead? : List Char → Option (Option Nat × Chomping)
  | [] => some (none, .clip)
  | [c] => ((chomping? c).map (none, ·)).or ((givenIndent? c).map (some ·, .clip))
  | [c, d] =>
    match givenIndent? c, chomping? d, givenIndent? d, chomping? c with
    | some n, some m, _, _ => some (some n, m)
    | _, _, some n, some m => some (some n, m)
    | _, _, _, _ => none
  | _ => none

/-- The first line, and what follows its line end; nothing does at the end of the document. -/
def cutLine : List Char → List Char × Option (List Char)
  | [] => ([], none)
  | '\r' :: '\n' :: cs => ([], some cs)
  | c :: cs =>
    if isBreak c then ([], some cs)
    else
      let (line, rest) := cutLine cs
      (c :: line, rest)

theorem length_of_cutLine {cs rest : List Char} (h : (cutLine cs).2 = some rest) :
    rest.length < cs.length := by
  fun_induction cutLine cs with
  | case1 => simp at h
  | case2 cs => simp only [Option.some.injEq] at h; simp only [← h, List.length_cons]; omega
  | case3 c cs _ hc => simp only [Option.some.injEq] at h; simp [← h]
  | case4 c cs _ hc line rest' hcut ih =>
    rw [hcut] at ih
    exact Nat.lt_succ_of_lt (ih h)

/-- The spaces in front of a line. -/
def leadingSpaces (line : List Char) : Nat := (line.takeWhile (· == ' ')).length

/-- The line has no characters but spaces. -/
def isEmptyLine (line : List Char) : Bool := line.all (· == ' ')

/-- The lines up to one that is not indented far enough, each without its indentation and with its
line end; and that line with all that follows. -/
def literalLines (indent : Nat) (cs : List Char) : List (List Char) × List Char :=
  let line := (cutLine cs).1
  if cs.isEmpty || (leadingSpaces line < indent && !isEmptyLine line) then ([], cs)
  else
    match _h : (cutLine cs).2 with
    | none => ([line.drop indent], [])
    | some rest =>
      let (lines, unread) := literalLines indent rest
      ((line.drop indent ++ ['\n']) :: lines, unread)
termination_by cs.length
decreasing_by exact length_of_cutLine ‹_›

/-- The indentation of a literal scalar: that of its first line that is not empty, but no less than
that of the empty lines in front of it. -/
def literalIndent (least : Nat) (cs : List Char) : Nat :=
  let line := (cutLine cs).1
  if isEmptyLine line then
    match _h : (cutLine cs).2 with
    | none => max least line.length
    | some rest => literalIndent (max least line.length) rest
  else max least (leadingSpaces line)
termination_by cs.length
decreasing_by exact length_of_cutLine ‹_›

/-- The line ends at the end of a literal scalar, treated as its head says. -/
def Chomping.apply (chomping : Chomping) (cs : List Char) : List Char :=
  let body := (cs.reverse.dropWhile (· == '\n')).reverse
  match chomping with
  | .strip => body
  | .keep => cs
  | .clip => if body.isEmpty then [] else cs.take (body.length + 1)

/-- A literal scalar whose lines are indented at least so far, after its first mark. -/
def literalText? (least : Nat) (cs : List Char) : Option (String × List Char) := do
  let (given, chomping) ← literalHead? (cs.takeWhile fun c => !isSpaceOrBreak c)
  let comment := (cs.dropWhile fun c => !isSpaceOrBreak c).dropWhile isSpace
  match cutLine comment with
  | ([], rest) | ('#' :: _, rest) =>
    let rest := rest.getD []
    let indent := match given with
      | some n => least - 1 + n
      | none => literalIndent (max least 1) rest
    let (lines, unread) := literalLines indent rest
    return (.ofList (chomping.apply lines.flatten), unread)
  | _ => none

end Yaml

end GatewayPolicy
