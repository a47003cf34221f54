import GatewayPolicy.Proofs.Bindings
import GatewayPolicy.Proofs.Policy.Document
/-!
# References to fragments

A reference to a fragment is written as one closed tag, and is read back from it.
-/

namespace GatewayPolicy

open Text Xml

variable {settings : Settings} {fragmentId : String}

/-- The element that refers to a fragment. -/
def fragmentElement (fragmentId : String) : Element where
  name := "include-fragment"
  attributes := [("fragment-id", fragmentId)]

/-- A name of a fragment that can be written. The writer knows no expressions here, so one that has
reserved characters is no longer an expression. -/
structure IsWritableReference (fragmentId : String) : Prop where
  /-- It is literal or a complete expression. -/
  clean : IsCleanValue fragmentId
  /-- It is written like other values. -/
  escaped : attributeText fragmentId = escape fragmentId
  /-- It is on one line. -/
  unbroken : '\n' ∉ fragmentId.toList

theorem toList_renderFragment (i : FragmentItem) :
    (Writer.renderFragment i).toList =
      closedChars "include-fragment" [("fragment-id", escape i.fragmentId)] := by
  have hstart : "<include-fragment fragment-id=\"".toList =
      '<' :: ("include-fragment".toList ++ ' ' :: ("fragment-id".toList ++ ['=', '"'])) := by decide
  have hend : "\" />".toList = ['"', ' ', '/', '>'] := by decide
  -- The equation of the definition is slow to make, because its texts are long.
  delta Writer.renderFragment
  rw [String.toList_append, String.toList_append, hstart, hend, closedChars, attributeChars]
  simp

theorem isWrittenAs_fragment {i : FragmentItem} (h : IsWritableReference i.fragmentId) :
    IsWrittenAs { settings } (.fragment i) (fragmentElement i.fragmentId).node := by
  have hclean : AreCleanAttributes [("fragment-id", i.fragmentId)] := by
    refine ⟨?_, by simp, ?_⟩
    · exact List.forall_mem_singleton.2 (show IsName "fragment-id" by decide)
    · exact List.forall_mem_singleton.2 h.clean
  have hwritten : writtenAttributes [("fragment-id", i.fragmentId)] =
      [("fragment-id", escape i.fragmentId)] := by
    rw [← h.escaped]
    rfl
  have hread := readsAsElement_closed (show IsName "include-fragment" by decide)
    (areReadable_writtenAttributes hclean) tidyNodes_nil
  rw [readRaw_writtenAttributes hclean, hwritten, ← toList_renderFragment] at hread
  refine isWrittenAs_of_isLine ?_ hread.inside rfl
  have hescape : '\n' ∉ (escape i.fragmentId).toList := by
    rw [toList_escape]
    exact fun hm => h.unbroken (mem_of_mem_escapeChars (by decide) (by decide) hm)
  have hattribute : '\n' ∉ attributeChars [("fragment-id", escape i.fragmentId)] :=
    lineFeed_notMem_attributeChars
      (List.forall_mem_singleton.2 ⟨show '\n' ∉ "fragment-id".toList by decide, hescape⟩)
  have hline : IsLine ('<' :: "include-fragment".toList ++
      attributeChars [("fragment-id", escape i.fragmentId)] ++ [' ', '/'] ++ ['>']) :=
    isLine_append_bracket (by simp [hattribute])
  rw [Writer.renderItem, toList_renderFragment, closedChars]
  simpa using hline

theorem fragmentReference?_of_attributes {e : Element}
    (he : e.attributes = [("fragment-id", fragmentId)]) (htrim : trim fragmentId = fragmentId)
    (hne : fragmentId ≠ "") : fragmentReference? e = some fragmentId := by
  rw [fragmentReference?, Element.attribute?, he, lookup_cons_of_eq rfl, Option.map_some, htrim,
    Option.filter_some, if_pos (by simpa using hne)]

theorem isReadAs_fragment (settings : Settings) (htrim : trim fragmentId = fragmentId)
    (hne : fragmentId ≠ "") :
    IsReadAs settings (fragmentElement fragmentId).node
      fun id order i => i = .fragment { id, order, fragmentId } := by
  refine isReadAs_node fun e htidy id order => ?_
  have hreference := fragmentReference?_of_attributes
    (show e.attributes = [("fragment-id", fragmentId)] from attributes_eq_of_tidy_eq htidy) htrim hne
  have hname : e.name = "include-fragment" := name_eq_of_tidy_eq htidy
  have hleaf : e.hasElementChildren = false := by
    rw [← hasElementChildren_tidy, htidy, hasElementChildren_tidy]
    rfl
  have hshape : shape e = .fragment := by
    rw [shape, hname, hreference, hleaf]
    rfl
  refine ⟨_, ?_, rfl⟩
  rw [elementItem?, hshape, hreference]
  rfl

end GatewayPolicy
