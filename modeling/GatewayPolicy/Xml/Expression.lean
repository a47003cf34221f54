/-!
# Policy expressions

A gateway evaluates expressions such as `@(context.Request.Url.Path)` or `@{ return 1; }` when a
request comes in. They are written into documents as they are, with raw quotes inside attribute
values and raw angle brackets inside text, so a reader has to find where an expression ends: at the
bracket that closes the one after the at sign. Brackets inside double-quoted literals do not count,
and in a literal a backslash takes the next character with it.
-/

namespace GatewayPolicy.Xml

/-- The kinds of brackets around an expression. -/
inductive Bracket where
  /-- Round brackets, around an expression. -/
  | round
  /-- Braces, around a block of statements. -/
  | brace
  deriving DecidableEq, Repr

namespace Bracket

/-- The opening bracket. -/
def opening : Bracket → Char
  | round => '('
  | brace => '\x7b'

/-- The closing bracket. -/
def closing : Bracket → Char
  | round => ')'
  | brace => '\x7d'

/-- The kind of an opening bracket. -/
def ofChar? (c : Char) : Option Bracket :=
  if c = '(' then some round else if c = '\x7b' then some brace else none

end Bracket

/-- Where in an expression a character stands. -/
inductive ScanMode where
  /-- Outside of literals. -/
  | code
  /-- Inside a literal. -/
  | literal
  /-- Inside a literal, right after a backslash. -/
  | escaped
  deriving DecidableEq, Repr

/-- What a character does to the place in an expression and to the number of brackets that are open
inside it; none if it closes the expression. -/
def scanStep (b : Bracket) (mode : ScanMode) (inner : Nat) (c : Char) : Option (ScanMode × Nat) :=
  match mode with
  | .escaped => some (.literal, inner)
  | .literal =>
    some (if c = '\\' then .escaped else if c = '"' then .code else .literal, inner)
  | .code =>
    if c = '"' then some (.literal, inner)
    else if c = b.opening then some (.code, inner + 1)
    else if c = b.closing then if inner = 0 then none else some (.code, inner - 1)
    else some (.code, inner)

/-- Splits the input after the bracket that closes the expression. -/
def scanToClosing (b : Bracket) (mode : ScanMode) (inner : Nat) :
    List Char → Option (List Char × List Char)
  | [] => none
  | c :: cs =>
    match scanStep b mode inner c with
    | none => some ([c], cs)
    | some (mode', inner') =>
      (scanToClosing b mode' inner' cs).map fun (e, r) => (c :: e, r)

/-- The expression that the input starts with, and what follows it. -/
def scanExpression? : List Char → Option (List Char × List Char)
  | '@' :: c :: cs =>
    (Bracket.ofChar? c).bind fun b =>
      (scanToClosing b .code 0 cs).map fun (e, r) => ('@' :: c :: e, r)
  | _ => none

/-- A text that the gateway evaluates; it is written without references. -/
def isExpression (s : String) : Bool := s.toList.head? == some '@'

theorem length_of_scanToClosing {b : Bracket} {mode : ScanMode} {inner : Nat}
    {cs e r : List Char} (h : scanToClosing b mode inner cs = some (e, r)) :
    r.length < cs.length := by
  induction cs generalizing mode inner e with
  | nil => simp [scanToClosing] at h
  | cons c cs ih =>
    unfold scanToClosing at h
    split at h
    · simp only [Option.some.injEq, Prod.mk.injEq] at h
      obtain ⟨-, rfl⟩ := h
      simp
    · obtain ⟨⟨e', r'⟩, h₁, h₂⟩ := Option.map_eq_some_iff.1 h
      obtain ⟨-, rfl⟩ := Prod.mk.inj h₂
      have := ih h₁
      simp only [List.length_cons]
      omega

/-- An expression has characters. -/
theorem length_of_scanExpression? {cs e r : List Char} (h : scanExpression? cs = some (e, r)) :
    r.length < cs.length := by
  unfold scanExpression? at h
  split at h
  · obtain ⟨b, -, h⟩ := Option.bind_eq_some_iff.1 h
    obtain ⟨⟨e', r'⟩, h₁, h₂⟩ := Option.map_eq_some_iff.1 h
    obtain ⟨-, rfl⟩ := Prod.mk.inj h₂
    have := length_of_scanToClosing h₁
    simp only [List.length_cons]
    omega
  · simp at h

end GatewayPolicy.Xml
