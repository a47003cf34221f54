import GatewayPolicy.Json.Raw
import GatewayPolicy.Json.Token
/-!
# JSON text, read

The second half of reading JSON text: tokens to a tree, and the tree to a value. The reader is an
automaton that takes one token at a time and keeps the arrays and objects that are still open, so it
reads any nesting and its run is a fold over the tokens.

The value is what the text says: repeated keys are kept, in order. Nesting is not limited here; the
readers of typed values limit it for the parts they keep.
-/

namespace GatewayPolicy

namespace Json

/-- An array or object that is still open, with what it holds so far in reverse. -/
inductive Frame where
  /-- An array that waits for its next item. -/
  | items (before : List Raw)
  /-- An object that waits for the value of the field `key`. -/
  | field (before : List (StringLiteral × Raw)) (key : StringLiteral)

/-- What the reader expects next; `outer` holds the open arrays and objects, innermost first. -/
inductive ReadState where
  /-- A value. -/
  | value (outer : List Frame)
  /-- The first item of an array, or its end. -/
  | firstItem (outer : List Frame)
  /-- The first key of an object, or its end. -/
  | firstKey (outer : List Frame)
  /-- A key, after a comma. -/
  | key (before : List (StringLiteral × Raw)) (outer : List Frame)
  /-- The colon after a key. -/
  | colon (before : List (StringLiteral × Raw)) (key : StringLiteral) (outer : List Frame)
  /-- What follows the complete value `v`. -/
  | after (v : Raw) (outer : List Frame)

/-- The start of a value. -/
def beginValue (t : Token) (outer : List Frame) : Option ReadState :=
  match t with
  | .null => some (.after .null outer)
  | .bool b => some (.after (.bool b) outer)
  | .number n => some (.after (.number n) outer)
  | .text s => some (.after (.text s) outer)
  | .openArray => some (.firstItem outer)
  | .openObject => some (.firstKey outer)
  | _ => none

/-- One step of the reader; none where the token is not allowed. -/
def readStep (state : ReadState) (t : Token) : Option ReadState :=
  match state with
  | .value outer => beginValue t outer
  | .firstItem outer =>
    match t with
    | .closeArray => some (.after (.array []) outer)
    | _ => beginValue t (.items [] :: outer)
  | .firstKey outer =>
    match t with
    | .closeObject => some (.after (.object []) outer)
    | .text k => some (.colon [] k outer)
    | _ => none
  | .key before outer =>
    match t with
    | .text k => some (.colon before k outer)
    | _ => none
  | .colon before k outer =>
    match t with
    | .colon => some (.value (.field before k :: outer))
    | _ => none
  | .after v (.items before :: outer) =>
    match t with
    | .comma => some (.value (.items (v :: before) :: outer))
    | .closeArray => some (.after (.array (v :: before).reverse) outer)
    | _ => none
  | .after v (.field before k :: outer) =>
    match t with
    | .comma => some (.key ((k, v) :: before) outer)
    | .closeObject => some (.after (.object ((k, v) :: before).reverse) outer)
    | _ => none
  | .after _ [] => none

/-- The tree of a complete list of tokens. -/
def ofTokens? (ts : List Token) : Option Raw :=
  match ts.foldlM readStep (.value []) with
  | some (.after v []) => some v
  | _ => none

/-- The tree of a JSON text. -/
def readRaw? (s : String) : Option Raw := (tokens? s.toList).bind ofTokens?

/-- The value of a JSON text, with repeated keys as they are. -/
def read? (s : String) : Option Json := (readRaw? s).bind Raw.value?

end Json

end GatewayPolicy
