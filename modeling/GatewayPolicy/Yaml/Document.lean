import GatewayPolicy.Yaml.Basic
import GatewayPolicy.Yaml.Token
/-!
# YAML documents, read

The second half of reading a YAML document: tokens to a value. What is missing where a value could
be is an empty scalar. A text holds one document; without any tokens it is an empty scalar, too.
-/

namespace GatewayPolicy

namespace Yaml

/-- The scalar that stands where a value is missing. -/
def missing : Yaml := plain ""

/-- What a value is part of, as far as it matters for what the value may be. -/
inductive Within where
  /-- A mapping in a block, where the items of a sequence need no further indentation. -/
  | blockMapping
  /-- A sequence in a block, or the document itself. -/
  | block
  /-- Brackets. -/
  | flow
  deriving DecidableEq

/-- Skips the comma in front of what is not the first part of brackets. -/
def skipComma? (first : Bool) (ts : List Token) : Option (List Token) :=
  match first, ts with
  | true, ts => some ts
  | false, .comma :: rest => some rest
  | false, _ => none

mutual

/-- Reads a value. Every token that is read takes one from the fuel. -/
def readNode (fuel : Nat) (within : Within) (ts : List Token) : Option (Yaml × List Token) :=
  match fuel, ts with
  | _ + 1, .plain s :: rest => some (plain s, rest)
  | _ + 1, .quoted s :: rest => some (quoted s, rest)
  | fuel + 1, .openSequence :: rest => do
    let (items, rest) ← readFlowItems fuel true rest
    return (sequence items, rest)
  | fuel + 1, .openMapping :: rest => do
    let (entries, rest) ← readFlowEntries fuel true rest
    return (mapping entries, rest)
  | fuel + 1, .sequenceStart :: rest => do
    if within = .flow then none
    let (items, rest) ← readItems fuel rest
    match rest with
    | .blockEnd :: rest => return (sequence items, rest)
    | _ => none
  | fuel + 1, .mappingStart :: rest => do
    if within = .flow then none
    let (entries, rest) ← readEntries fuel rest
    match rest with
    | .blockEnd :: rest => return (mapping entries, rest)
    | _ => none
  | fuel + 1, .item :: rest => do
    if within ≠ .blockMapping then none
    let (items, rest) ← readItems fuel (.item :: rest)
    return (sequence items, rest)
  | _, _ => none

/-- Reads the items of a sequence in a block. -/
def readItems (fuel : Nat) (ts : List Token) : Option (List Yaml × List Token) :=
  match fuel, ts with
  | fuel + 1, .item :: rest => do
    let (v, rest) ← readUnless fuel .block [.item, .key, .value, .blockEnd] rest
    let (items, rest) ← readItems fuel rest
    return (v :: items, rest)
  | _ + 1, ts => some ([], ts)
  | 0, _ => none

/-- Reads the entries of a mapping in a block. -/
def readEntries (fuel : Nat) (ts : List Token) : Option (List (Yaml × Yaml) × List Token) :=
  match fuel, ts with
  | fuel + 1, .key :: rest => do
    let (k, rest) ← readUnless fuel .blockMapping [.key, .value, .blockEnd] rest
    let (v, rest) ← readValue fuel .blockMapping [.key, .value, .blockEnd] rest
    let (entries, rest) ← readEntries fuel rest
    return ((k, v) :: entries, rest)
  | _ + 1, ts => some ([], ts)
  | 0, _ => none

/-- Reads the items of a sequence in brackets, and the closing one. -/
def readFlowItems (fuel : Nat) (first : Bool) (ts : List Token) :
    Option (List Yaml × List Token) :=
  match fuel, ts with
  | _ + 1, .closeSequence :: rest => some ([], rest)
  | fuel + 1, ts => do
    match ← skipComma? first ts with
    | .closeSequence :: rest => return ([], rest)
    | .key :: rest =>
      let (k, rest) ← readUnless fuel .flow [.value, .comma, .closeSequence] rest
      let (v, rest) ← readValue fuel .flow [.comma, .closeSequence] rest
      let (items, rest) ← readFlowItems fuel false rest
      return (mapping [(k, v)] :: items, rest)
    | rest =>
      let (v, rest) ← readNode fuel .flow rest
      let (items, rest) ← readFlowItems fuel false rest
      return (v :: items, rest)
  | 0, _ => none

/-- Reads the entries of a mapping in braces, and the closing one. -/
def readFlowEntries (fuel : Nat) (first : Bool) (ts : List Token) :
    Option (List (Yaml × Yaml) × List Token) :=
  match fuel, ts with
  | _ + 1, .closeMapping :: rest => some ([], rest)
  | fuel + 1, ts => do
    match ← skipComma? first ts with
    | .closeMapping :: rest => return ([], rest)
    | .key :: rest =>
      let (k, rest) ← readUnless fuel .flow [.value, .comma, .closeMapping] rest
      let (v, rest) ← readValue fuel .flow [.comma, .closeMapping] rest
      let (entries, rest) ← readFlowEntries fuel false rest
      return ((k, v) :: entries, rest)
    | rest =>
      let (k, rest) ← readNode fuel .flow rest
      let (entries, rest) ← readFlowEntries fuel false rest
      return ((k, missing) :: entries, rest)
  | 0, _ => none

/-- Reads a value, unless it is missing in front of one of the tokens. -/
def readUnless (fuel : Nat) (within : Within) (ends : List Token) (ts : List Token) :
    Option (Yaml × List Token) :=
  match fuel with
  | fuel + 1 =>
    if ts.head?.any ends.contains then some (missing, ts) else readNode fuel within ts
  | 0 => none

/-- Reads the colon and the value after a key, either of which may be missing. -/
def readValue (fuel : Nat) (within : Within) (ends : List Token) (ts : List Token) :
    Option (Yaml × List Token) :=
  match fuel, ts with
  | fuel + 1, .value :: rest => readUnless fuel within ends rest
  | _ + 1, ts => some (missing, ts)
  | 0, _ => none

end

/-- Reads the value of a document, which may be missing after the mark of its start. -/
def readRoot (ts : List Token) : Option (Yaml × List Token) :=
  match ts with
  | [] | [.documentStart] => some (missing, [])
  | .documentStart :: t :: rest =>
    if t = .documentStart || t = .documentEnd then some (missing, t :: rest)
    else readNode (3 * ts.length) .block (t :: rest)
  | ts => readNode (3 * ts.length) .block ts

/-- The value of the tokens of a text. Nothing but marks of the end may follow the document. -/
def ofTokens? (ts : List Token) : Option Yaml :=
  (readRoot ts).bind fun (v, rest) => if rest.all (· = .documentEnd) then some v else none

/-- The value of a text. -/
def read? (s : String) : Option Yaml := (tokens? s.toList).bind ofTokens?

/-- Reads a text as a typed value. -/
def readAs? {α : Type} (read : Nested → Option α) (s : String) : Option α :=
  (read? s).bind fun v => read ⟨v, maxDepth⟩

end Yaml

end GatewayPolicy
