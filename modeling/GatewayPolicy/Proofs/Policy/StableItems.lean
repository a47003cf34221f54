import GatewayPolicy.Proofs.Policy.Fragment
import GatewayPolicy.Proofs.Policy.SendRequest
/-!
# Items that are written alike again

An item is stable if what is written for it is read back as an item that is written in the same way.
Raw elements, comments, expressions, references to fragments and `send-request` policies are stable
if what is written for them stands on lines of its own.
-/

namespace GatewayPolicy

open Json Text Xml

variable {settings : Settings} {id : String} {order : Int} {i : Item} {n : Node} {e : Element}
  {s : String}

/-- The item is written as the node, and what is read back of the node is written like the item. -/
structure IsStableAs (settings : Settings) (i : Item) (n : Node) : Prop where
  /-- It is written as the node. -/
  written : IsWrittenAs { settings } i n
  /-- What is read back is written alike. -/
  read : IsReadAs settings n fun _ _ i' =>
    ({ settings } : Writer).renderItem i' = ({ settings } : Writer).renderItem i

/-- An item that is written as an element is stable if what is read back of the element is. -/
theorem isStableAs_of_serialize
    (hrender : ({ settings } : Writer).renderItem i = e.serialize settings.indentWidth)
    (hclean : e.IsClean) (hunbroken : e.IsUnbroken)
    (hread : ∀ e' : Element, e'.tidy = e.tidy → ∀ id order, ∃ i',
      elementItem? settings id order e' = some i' ∧
        ({ settings } : Writer).renderItem i' = e.serialize settings.indentWidth) :
    IsStableAs settings i e.node := by
  refine ⟨isWrittenAs_of_serialize hrender hclean hunbroken,
    isReadAs_node fun e' htidy id order => ?_⟩
  rw [hrender]
  exact hread e' htidy id order

/-! ## Raw elements -/

theorem rawItem_eq_of_tidy_eq {e' : Element} (h : e'.tidy = e.tidy) :
    rawItem settings id order e' = rawItem settings id order e := by
  rw [rawItem, rawItem, serialize_eq_of_tidy_eq h]

theorem renderItem_rawItem (hclean : e.IsClean) (hunbroken : e.IsUnbroken) :
    ({ settings } : Writer).renderItem (rawItem settings id order e) =
      e.serialize settings.indentWidth := by
  rw [rawItem, Writer.renderItem]
  exact unlines_reindent_serialize hclean hunbroken settings.indentWidth

theorem exists_elementItem?_of_complex (hshape : shape e = .complex) (hclean : e.IsClean)
    (hunbroken : e.IsUnbroken) {e' : Element} (htidy : e'.tidy = e.tidy) (id : String)
    (order : Int) :
    ∃ i', elementItem? settings id order e' = some i' ∧
      ({ settings } : Writer).renderItem i' = e.serialize settings.indentWidth := by
  refine ⟨rawItem settings id order e', ?_, ?_⟩
  · rw [elementItem?, shape_eq_of_tidy_eq htidy, hshape]
  · rw [rawItem_eq_of_tidy_eq htidy, renderItem_rawItem hclean hunbroken]

theorem isStableAs_complex (hshape : shape e = .complex) (hclean : e.IsClean)
    (hunbroken : e.IsUnbroken) : IsStableAs settings (rawItem settings id order e) e.node :=
  isStableAs_of_serialize (renderItem_rawItem hclean hunbroken) hclean hunbroken
    fun _ htidy => exists_elementItem?_of_complex hshape hclean hunbroken htidy

/-! ## The policy `send-request` -/

/-- A `send-request` element that is no record stays raw. -/
theorem isStableAs_sendRequest_raw (hshape : shape e = .sendRequest)
    (hnone : SendRequest.ofElement? settings e = none) (hclean : e.IsClean)
    (hunbroken : e.IsUnbroken) : IsStableAs settings (rawItem settings id order e) e.node := by
  refine isStableAs_of_serialize (renderItem_rawItem hclean hunbroken) hclean hunbroken ?_
  intro e' htidy id order
  have hnone' : SendRequest.ofElement? settings e' = none := by
    rw [SendRequest.ofElement?_eq_none_iff] at hnone ⊢
    exact fun h => hnone (h.of_tidy_eq htidy.symm)
  refine ⟨rawItem settings id order e', ?_, ?_⟩
  · rw [elementItem?, shape_eq_of_tidy_eq htidy, hshape, hnone']
  · rw [rawItem_eq_of_tidy_eq htidy, renderItem_rawItem hclean hunbroken]

/-- The element that a record is written as. -/
def SendRequest.writtenElement (settings : Settings) (s : SendRequest) : Element :=
  (SendRequest.ofConfiguration s.toConfiguration).toElement settings

theorem renderItem_sendRequest (settings : Settings) (id : String) (order : Int) (s : SendRequest) :
    ({ settings } : Writer).renderItem (.catalog
        { id, order, policyId := SendRequest.policyId, configuration := s.toConfiguration }) =
      (s.writtenElement settings).serialize settings.indentWidth := by
  rw [Writer.renderItem, Writer.renderCatalog, if_pos rfl, SendRequest.writtenElement]

theorem shape_writtenElement (settings : Settings) (s : SendRequest) :
    shape (s.writtenElement settings) = .sendRequest :=
  SendRequest.shape_of_name rfl

theorem isStableAs_sendRequest {s : SendRequest} (hread : SendRequest.ofElement? settings e = some s)
    (hclean : (s.writtenElement settings).IsClean)
    (hunbroken : (s.writtenElement settings).IsUnbroken) :
    IsStableAs settings (.catalog
        { id, order, policyId := SendRequest.policyId, configuration := s.toConfiguration })
      (s.writtenElement settings).node := by
  refine isStableAs_of_serialize (renderItem_sendRequest settings id order s) hclean hunbroken ?_
  intro e' htidy id order
  obtain ⟨s', hs', htidy'⟩ := SendRequest.exists_ofElement?_of_tidy_eq hread htidy
  refine ⟨.catalog
    { id, order, policyId := SendRequest.policyId, configuration := s'.toConfiguration }, ?_, ?_⟩
  · rw [elementItem?, shape_eq_of_tidy_eq htidy, shape_writtenElement, hs']
  · rw [renderItem_sendRequest]
    exact serialize_eq_of_tidy_eq htidy' settings.indentWidth

/-! ## References to fragments -/

theorem exists_fragmentReference? (hshape : shape e = .fragment) :
    ∃ fragmentId, fragmentReference? e = some fragmentId ∧ trim fragmentId = fragmentId ∧
      fragmentId ≠ "" := by
  obtain ⟨reference, -, hfragment, hne⟩ := fragmentReference?_eq_some hshape
  exact ⟨trim reference, hfragment, trim_trim reference, hne⟩

theorem isStableAs_fragment {fragmentId : String} (htrim : trim fragmentId = fragmentId)
    (hne : fragmentId ≠ "") (h : IsWritableReference fragmentId) :
    IsStableAs settings (.fragment { id, order, fragmentId }) (fragmentElement fragmentId).node := by
  refine ⟨isWrittenAs_fragment h, fun n hn id' order' => ?_⟩
  obtain ⟨i', hi', rfl⟩ := isReadAs_fragment settings htrim hne n hn id' order'
  exact ⟨_, hi', rfl⟩

/-! ## Comments and expressions -/

theorem isStableAs_comment (hclean : (Node.comment s).IsClean)
    (hunbroken : (Node.comment s).IsUnbroken) :
    IsStableAs settings (.customXml { id, order, xml := commentText s }) (.comment s) := by
  cases hclean with
  | comment hclean =>
    cases hunbroken with
    | comment hunbroken =>
      have hline : IsLine (commentText s).toList := by
        have hline : IsLine ("<!--".toList ++ s.toList ++ ['-', '-'] ++ ['>']) :=
          isLine_append_bracket (by simp [hunbroken])
        simpa [commentText] using hline
      have hrender (id : String) (order : Int) : ({ settings } : Writer).renderItem
          (.customXml { id, order, xml := commentText s }) = commentText s := by
        have hfirst : (commentText s).toList.head?.any isIndent = false := by
          rw [commentText, String.toList_append, String.toList_append]
          rfl
        have hself : unlines [commentText s] = commentText s := by
          rw [← String.toList_inj, toList_unlines_cons, lineChars_nil, List.append_nil]
        have hreindent :
            unlines (reindent (unlines [commentText s])) = unlines [commentText s] := by
          rw [reindent_unlines (by simpa using hline) hfirst]
        rw [hself] at hreindent
        rw [Writer.renderItem, hreindent]
      refine ⟨isWrittenAs_of_isLine ?_ ?_ rfl, fun n hn id' order' => ?_⟩
      · rwa [hrender]
      · rw [hrender]
        exact readsAs_commentText hclean
      · obtain rfl : n = .comment s := by
          cases n with
          | comment s' => exact hn
          | _ => simp [Node.tidy] at hn
        exact ⟨_, rfl, (hrender id' order').trans (hrender id order).symm⟩

theorem charactersItem?_of_isExpression (h : isExpression (trim s) = true) :
    charactersItem? id order s =
      some (.expression { id, order, expression := trim s, context := some .condition }) := by
  rw [charactersItem?]
  exact if_pos h

/-- Whatever has the tidy form of an expression is read as the expression. -/
theorem isReadAs_expression (htrim : trim s = s) (hexpression : isExpression s = true) :
    IsReadAs settings (.text s) fun id order i =>
      i = .expression { id, order, expression := s, context := some .condition } := by
  intro n hn id order
  obtain ⟨s', rfl, hs'⟩ : ∃ s', n = .text s' ∧ trim s' = s := by
    cases n with
    | text s' =>
      rw [Node.tidy, Node.tidy, htrim] at hn
      exact ⟨s', rfl, Node.text.inj hn⟩
    | _ => simp [Node.tidy] at hn
  rw [nodeItem?, charactersItem?_of_isExpression (by rw [hs', hexpression]), hs']
  exact ⟨_, rfl, rfl⟩

theorem isStableAs_expression (hexpression : isExpression (trim s) = true)
    (hclean : (Node.text (trim s)).IsClean) (hunbroken : (Node.text (trim s)).IsUnbroken) :
    IsStableAs settings
      (.expression { id, order, expression := trim s, context := some .condition })
      (.text (trim s)) := by
  have hrender (id : String) (order : Int) : ({ settings } : Writer).renderItem
      (.expression { id, order, expression := trim s, context := some .condition }) = trim s := by
    have hmarked : Writer.markedExpression (trim s) = trim s := by
      rw [Writer.markedExpression, trim_trim]
      exact if_pos hexpression
    exact hmarked
  have hvisible : isBlankText (trim s) = false := by
    rw [Bool.eq_false_iff]
    intro hblank
    rw [← trim_trim, trim_eq_empty_iff.2 hblank] at hexpression
    simp [isExpression] at hexpression
  -- Expressions are written as they are, without references.
  have hcontent : contentText (trim s) = trim s := if_pos hexpression
  cases hclean with
  | text hclean =>
    cases hunbroken with
    | text hunbroken =>
      have hclean := hclean.resolve_left (by simp [hvisible])
      have hline := isLine_contentText hunbroken hvisible
      have hreads := readsAs_contentText hclean
      rw [trim_trim, hcontent] at hline hreads
      refine ⟨isWrittenAs_of_isLine ?_ ?_ hvisible,
        (isReadAs_expression (trim_trim s) hexpression).imp ?_⟩
      · rwa [hrender]
      · rwa [hrender]
      · rintro id' order' _ rfl
        rw [hrender, hrender]

end GatewayPolicy
