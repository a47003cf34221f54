import GatewayPolicy.Json.Literal
/-!
# JSON tokens

The first half of reading JSON text: characters to tokens. Strings and numbers are complete tokens,
as they are spelled; blanks disappear. A text is refused as a whole when some part of it is no
token.
-/

namespace GatewayPolicy

namespace Json

open Text

/-- A token of JSON text. -/
inductive Token where
  /-- An opening square bracket. -/
  | openArray
  /-- A closing square bracket. -/
  | closeArray
  /-- An opening brace. -/
  | openObject
  /-- A closing brace. -/
  | closeObject
  /-- A comma. -/
  | comma
  /-- A colon. -/
  | colon
  /-- The word `null`. -/
  | null
  /-- The word `true` or `false`. -/
  | bool (value : Bool)
  /-- A number. -/
  | number (literal : NumberLiteral)
  /-- A string. -/
  | text (literal : StringLiteral)
  deriving DecidableEq, Repr

/-- The four characters that may stand between tokens. -/
def isSpace (c : Char) : Bool := c == ' ' || c == '\n' || c == '\t' || c == '\r'

/-! ## Numbers -/

/-- Reads the digits before the point: no leading zero unless it is the only digit. -/
def readWhole? (cs : List Char) : Option (List Char × List Char) :=
  match cs with
  | '0' :: rest => some (['0'], rest)
  | _ =>
    let digits := cs.takeWhile Char.isDigit
    if digits.isEmpty then none else some (digits, cs.dropWhile Char.isDigit)

/-- Reads at least one digit. -/
def readDigitRun? (cs : List Char) : Option (List Char × List Char) :=
  let digits := cs.takeWhile Char.isDigit
  if digits.isEmpty then none else some (digits, cs.dropWhile Char.isDigit)

/-- Reads the part after a point; without a point there is none. -/
def readFraction? (cs : List Char) : Option (Option (List Char) × List Char) :=
  match cs with
  | '.' :: rest => (readDigitRun? rest).map fun (ds, rest) => (some ds, rest)
  | _ => some (none, cs)

/-- Takes a sign off the front; tells whether it is a minus. -/
def splitSign : List Char → Bool × List Char
  | '-' :: rest => (true, rest)
  | '+' :: rest => (false, rest)
  | cs => (false, cs)

/-- Reads the exponent after its mark; without a mark there is none. -/
def readPower? (cs : List Char) : Option (Option Int × List Char) :=
  match cs with
  | c :: rest =>
    if c = 'e' || c = 'E' then
      (readDigitRun? (splitSign rest).2).map fun (ds, r) =>
        let n : Int := digitsValue 10 ds
        (some (if (splitSign rest).1 then -n else n), r)
    else some (none, cs)
  | [] => some (none, [])

/-- Reads a number without its sign. -/
def readMagnitude? (negative : Bool) (cs : List Char) : Option (NumberLiteral × List Char) := do
  let (whole, cs) ← readWhole? cs
  let (fraction, cs) ← readFraction? cs
  let (power, cs) ← readPower? cs
  return ({ negative, whole, fraction, power }, cs)

/-- Reads a number. -/
def readNumber? (cs : List Char) : Option (NumberLiteral × List Char) :=
  match cs with
  | '-' :: rest => readMagnitude? true rest
  | _ => readMagnitude? false cs

theorem length_of_readDigitRun? {cs ds r : List Char} (h : readDigitRun? cs = some (ds, r)) :
    r.length < cs.length := by
  simp only [readDigitRun?] at h
  split at h
  · simp at h
  · rename_i hd
    simp only [Option.some.injEq, Prod.mk.injEq] at h
    obtain ⟨-, rfl⟩ := h
    have hl := congrArg List.length (List.takeWhile_append_dropWhile (p := Char.isDigit) (l := cs))
    have : (cs.takeWhile Char.isDigit).length ≠ 0 := by simpa using hd
    simp only [List.length_append] at hl
    omega

theorem length_of_readWhole? {cs ds r : List Char} (h : readWhole? cs = some (ds, r)) :
    r.length < cs.length := by
  unfold readWhole? at h
  split at h
  · simp only [Option.some.injEq, Prod.mk.injEq] at h
    obtain ⟨-, rfl⟩ := h
    simp
  · have hr : readDigitRun? cs = some (ds, r) := by simpa [readDigitRun?] using h
    exact length_of_readDigitRun? hr

theorem length_of_readFraction? {cs r : List Char} {f : Option (List Char)}
    (h : readFraction? cs = some (f, r)) : r.length ≤ cs.length := by
  unfold readFraction? at h
  split at h
  · obtain ⟨⟨ds, r'⟩, h₁, h₂⟩ := Option.map_eq_some_iff.1 h
    obtain ⟨-, rfl⟩ := Prod.mk.inj h₂
    have := length_of_readDigitRun? h₁
    simp only [List.length_cons]
    omega
  · simp only [Option.some.injEq, Prod.mk.injEq] at h
    obtain ⟨-, rfl⟩ := h
    exact Nat.le_refl _

theorem length_splitSign_le (cs : List Char) : (splitSign cs).2.length ≤ cs.length := by
  unfold splitSign
  split <;> simp

theorem length_of_readPower? {cs r : List Char} {e : Option Int}
    (h : readPower? cs = some (e, r)) : r.length ≤ cs.length := by
  unfold readPower? at h
  split at h
  · rename_i c rest
    split at h
    · obtain ⟨⟨ds, r'⟩, h₁, h₂⟩ := Option.map_eq_some_iff.1 h
      obtain ⟨-, rfl⟩ := Prod.mk.inj h₂
      have := length_of_readDigitRun? h₁
      have := length_splitSign_le rest
      simp only [List.length_cons]
      omega
    · simp only [Option.some.injEq, Prod.mk.injEq] at h
      obtain ⟨-, rfl⟩ := h
      exact Nat.le_refl _
  · simp only [Option.some.injEq, Prod.mk.injEq] at h
    obtain ⟨-, rfl⟩ := h
    exact Nat.le_refl _

theorem length_of_readMagnitude? {negative : Bool} {cs r : List Char} {n : NumberLiteral}
    (h : readMagnitude? negative cs = some (n, r)) : r.length < cs.length := by
  unfold readMagnitude? at h
  obtain ⟨⟨whole, cs₁⟩, h₁, h⟩ := Option.bind_eq_some_iff.1 h
  obtain ⟨⟨fraction, cs₂⟩, h₂, h⟩ := Option.bind_eq_some_iff.1 h
  obtain ⟨⟨power, cs₃⟩, h₃, h⟩ := Option.bind_eq_some_iff.1 h
  simp only [pure, Option.some.injEq, Prod.mk.injEq] at h
  obtain ⟨-, rfl⟩ := h
  have := length_of_readWhole? h₁
  have := length_of_readFraction? h₂
  have := length_of_readPower? h₃
  omega

/-- Reading a number uses up input. -/
theorem length_of_readNumber? {cs r : List Char} {n : NumberLiteral}
    (h : readNumber? cs = some (n, r)) : r.length < cs.length := by
  unfold readNumber? at h
  split at h
  · have := length_of_readMagnitude? h
    simp only [List.length_cons]
    omega
  · exact length_of_readMagnitude? h

/-! ## Strings -/

/-- Reads four digits of base sixteen. -/
def readHex4? : List Char → Option (Nat × List Char)
  | a :: b :: c :: d :: rest =>
    if [a, b, c, d].all (isDigitOf 16) then some (digitsValue 16 [a, b, c, d], rest) else none
  | _ => none

/-- The character for a letter after a backslash. -/
def simpleEscape? (c : Char) : Option Char :=
  if c = '"' || c = '\\' || c = '/' then some c
  else if c = 'b' then some '\x08'
  else if c = 'f' then some '\x0c'
  else if c = 'n' then some '\n'
  else if c = 'r' then some '\r'
  else if c = 't' then some '\t'
  else none

/-- Reads one piece of a string. -/
def readPiece? (cs : List Char) : Option (StringPiece × List Char) :=
  match cs with
  | '\\' :: 'u' :: rest => (readHex4? rest).map fun (n, r) => (.unit n, r)
  | '\\' :: c :: rest => (simpleEscape? c).map (.char ·, rest)
  | c :: rest => if c < ' ' || c = '\\' then none else some (.char c, rest)
  | [] => none

theorem length_of_readHex4? {cs r : List Char} {n : Nat} (h : readHex4? cs = some (n, r)) :
    r.length < cs.length := by
  unfold readHex4? at h
  split at h
  · split at h
    · simp only [Option.some.injEq, Prod.mk.injEq] at h
      obtain ⟨-, rfl⟩ := h
      simp only [List.length_cons]
      omega
    · simp at h
  · simp at h

/-- Reading a piece of a string uses up input. -/
theorem length_of_readPiece? {cs r : List Char} {p : StringPiece}
    (h : readPiece? cs = some (p, r)) : r.length < cs.length := by
  unfold readPiece? at h
  split at h
  · obtain ⟨⟨n, r'⟩, h₁, h₂⟩ := Option.map_eq_some_iff.1 h
    obtain ⟨-, rfl⟩ := Prod.mk.inj h₂
    have := length_of_readHex4? h₁
    simp only [List.length_cons]
    omega
  · simp only [Option.map_eq_some_iff, Prod.mk.injEq] at h
    obtain ⟨_, -, -, rfl⟩ := h
    simp only [List.length_cons]
    omega
  · split at h
    · simp at h
    · simp only [Option.some.injEq, Prod.mk.injEq] at h
      obtain ⟨-, rfl⟩ := h
      simp
  · simp at h

/-- Reads the rest of a string up to its closing quote. -/
def readString? (cs : List Char) : Option (StringLiteral × List Char) :=
  match cs with
  | '"' :: rest => some ([], rest)
  | cs =>
    match _h : readPiece? cs with
    | some (p, rest) => (readString? rest).map fun (s, r) => (p :: s, r)
    | none => none
termination_by cs.length
decreasing_by exact length_of_readPiece? _h

/-- Reading the rest of a string uses up input. -/
theorem length_of_readString? {cs r : List Char} {s : StringLiteral}
    (h : readString? cs = some (s, r)) : r.length < cs.length := by
  fun_induction readString? cs generalizing s r with
  | case1 rest =>
    simp only [Option.some.injEq, Prod.mk.injEq] at h
    obtain ⟨-, rfl⟩ := h
    simp
  | case2 cs _ p rest hp ih =>
    obtain ⟨⟨s', r'⟩, h₁, h₂⟩ := Option.map_eq_some_iff.1 h
    obtain ⟨-, rfl⟩ := Prod.mk.inj h₂
    have := length_of_readPiece? hp
    have := ih h₁
    omega
  | case3 => simp at h

/-! ## Tokens -/

/-- The token of a punctuation character. -/
def punctuation? (c : Char) : Option Token :=
  if c = '[' then some .openArray
  else if c = ']' then some .closeArray
  else if c = '\x7b' then some .openObject
  else if c = '\x7d' then some .closeObject
  else if c = ',' then some .comma
  else if c = ':' then some .colon
  else none

/-- Reads one token; the input starts with a character that is not a space. -/
def readToken? (cs : List Char) : Option (Token × List Char) :=
  match cs with
  | [] => none
  | c :: rest =>
    match punctuation? c with
    | some t => some (t, rest)
    | none =>
      match cs with
      | '"' :: rest => (readString? rest).map fun (s, r) => (.text s, r)
      | 't' :: 'r' :: 'u' :: 'e' :: rest => some (.bool true, rest)
      | 'f' :: 'a' :: 'l' :: 's' :: 'e' :: rest => some (.bool false, rest)
      | 'n' :: 'u' :: 'l' :: 'l' :: rest => some (.null, rest)
      | _ => (readNumber? cs).map fun (n, r) => (.number n, r)

/-- Reading a token uses up input. -/
theorem length_of_readToken? {cs r : List Char} {t : Token} (h : readToken? cs = some (t, r)) :
    r.length < cs.length := by
  unfold readToken? at h
  split at h
  · simp at h
  · split at h
    · simp only [Option.some.injEq, Prod.mk.injEq] at h
      obtain ⟨-, rfl⟩ := h
      simp
    · split at h
      · obtain ⟨⟨s, r'⟩, h₁, h₂⟩ := Option.map_eq_some_iff.1 h
        obtain ⟨-, rfl⟩ := Prod.mk.inj h₂
        have := length_of_readString? h₁
        simp_all only [List.length_cons]
        omega
      · simp_all only [List.length_cons, Option.some.injEq, Prod.mk.injEq]
        omega
      · simp_all only [List.length_cons, Option.some.injEq, Prod.mk.injEq]
        omega
      · simp_all only [List.length_cons, Option.some.injEq, Prod.mk.injEq]
        omega
      · obtain ⟨⟨n, r'⟩, h₁, h₂⟩ := Option.map_eq_some_iff.1 h
        obtain ⟨-, rfl⟩ := Prod.mk.inj h₂
        exact length_of_readNumber? h₁

/-- The tokens of a text; none if some part of it is no token. -/
def tokens? (cs : List Char) : Option (List Token) :=
  match cs with
  | [] => some []
  | c :: rest =>
    if isSpace c then tokens? rest
    else
      match _h : readToken? (c :: rest) with
      | some (t, r) => (tokens? r).map (t :: ·)
      | none => none
termination_by cs.length
decreasing_by
  · simp
  · exact length_of_readToken? _h

end Json

end GatewayPolicy
