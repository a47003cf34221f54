import GatewayPolicy.Policy.Reading
import GatewayPolicy.Proofs.Xml.Loops
/-!
# Reading is safe

Reading a document comes to an end on every input, well-formed or not, with a value or with an error
that says where the document is at fault. Nothing is cut out of a document except between two of its
characters, and the loops of the reader use up input in every pass.
-/

namespace GatewayPolicy

open Text Xml

variable {α : Type} {document : String}

/-- Reading ends in a value or in an error of the document, whose place is a boundary. -/
inductive EndsSafely (document : String) : Except Error α → Prop
  /-- The document is read. -/
  | value (a : α) : EndsSafely document (.ok a)
  /-- The document is refused. -/
  | fault {message : String} {position : Nat} (h : IsBoundary document position) :
      EndsSafely document (.error (.parse message position))

/-- The front of a document is a boundary. -/
theorem isBoundary_zero (document : String) : IsBoundary document 0 :=
  @isBoundary_utf8Length document [] _ rfl

theorem endsSafely_parse (document : String) : EndsSafely document (parse document) := by
  unfold parse
  split
  · exact .value _
  · rename_i f hread
    exact .fault (isBoundary_position (suffix_of_readDocument hread))

/-- The place counts bytes, two for the letter in front. -/
example : parse "<a>é</b>" = .error (.parse "mismatched closing tag </b> for <a>" 5) := by
  with_unfolding_all rfl

theorem endsSafely_ofXml (settings : Settings) (document : String) :
    EndsSafely document (Model.ofXml settings document) := by
  have hparse := endsSafely_parse document
  unfold Model.ofXml
  split
  · rename_i e heq
    rw [heq] at hparse
    cases hparse with
    | fault h => exact .fault h
  · split
    · exact .value _
    · exact .fault (isBoundary_zero document)

/-- A document is read safely. -/
structure IsSafelyRead (settings : Settings) (document : String) : Prop where
  /-- Reading the tree ends in the root or in an error of the document. -/
  tree : EndsSafely document (parse document)
  /-- Reading the model ends in a model or in an error of the document. -/
  model : EndsSafely document (Model.ofXml settings document)
  /-- Whatever is cut out of a stretch of the document starts and ends at a boundary. -/
  pieces : ∀ {front cs back piece rest : List Char}, document.toList = front ++ (cs ++ back) →
    Cuts cs piece rest →
      IsBoundary document (utf8Length front) ∧
        IsBoundary document (utf8Length front + utf8Length piece)
  /-- The loop over what stands around the root element is safe. -/
  misc : IsSafeLoop miscPass id skipMisc
  /-- The loop over the attributes of a start tag is safe. -/
  attributes : ∀ (start : List Char) (name : String),
    IsSafeLoop (attributesPass start name) Prod.snd fun s => readAttributes start name s.1 s.2
  /-- The loop over the content of the open elements is safe. -/
  content : IsSafeLoop contentPass ContentState.input fun s => readContent s.top s.around s.input
  /-- The loop over the characters of a text is safe. -/
  text : IsSafeLoop textPass id fun cs => (readText cs).2

/-- Every document is read safely. -/
theorem isSafelyRead (settings : Settings) (document : String) : IsSafelyRead settings document where
  tree := endsSafely_parse document
  model := endsSafely_ofXml settings document
  pieces := fun hdocument hcuts => hcuts.isBoundary hdocument
  misc := isSafeLoop_misc
  attributes := isSafeLoop_attributes
  content := isSafeLoop_content
  text := isSafeLoop_text

end GatewayPolicy
