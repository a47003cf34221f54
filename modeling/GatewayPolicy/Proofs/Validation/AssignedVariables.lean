import GatewayPolicy.Proofs.Policy.StartTags
import GatewayPolicy.Proofs.Validation.Repetitions
import Mathlib.Data.List.Dedup
/-!
# Assigned variables

A gateway finds the variable that a policy assigns in the document, validation finds it in the
model. Both look at the configuration and at the attributes, and both find the same name, unless the
name is not written plainly: as a list, an object, a reference, or in two places that disagree.

One warning is given for each variable that is assigned more than once.
-/

namespace GatewayPolicy

open Json Text Validation Xml

/-! ## Names that are written -/

section Names

variable {style : NamedValueStyle} {v : Json} {s raw : String}

theorem scalarText?_of_plainText? (h : SendRequest.plainText? v = some s) :
    scalarText? style v = some s := by
  cases v with
  | null => simp [SendRequest.plainText?] at h
  | bool b => rwa [scalarText?]
  | number n => rwa [scalarText?]
  | text t => rwa [scalarText?]
  | array items => simp [SendRequest.plainText?] at h
  | object fields => simp [SendRequest.plainText?] at h

/-- A text that is read from an attribute is the one that was written, expressions aside. -/
theorem unescape_attributeText_of_not_isExpression
    (h : isExpression (unescape (attributeText s)) = false) : unescape (attributeText s) = s := by
  refine unescape_attributeText (.inl ?_)
  rw [Bool.eq_false_iff]
  intro hs
  rw [attributeText, if_pos hs, isExpression_unescape hs] at h
  exact Bool.noConfusion h

/-- A parameter that is read from an attribute is the one that was written, tokens and expressions
aside. -/
theorem unescape_attributeForm (hplain : SendRequest.plainText? v = some s)
    (hamp : NamedValue.isToken s = true → '&' ∉ s.toList) (hraw : attributeForm? style v = some raw)
    (htoken : NamedValue.isToken (unescape raw) = false)
    (hexpression : isExpression (unescape raw) = false) : unescape raw = s := by
  rw [attributeForm?, scalarText?_of_plainText? hplain, Option.map_some, Option.some.injEq] at hraw
  subst hraw
  by_cases hs : NamedValue.isToken s = true
  · rw [if_pos hs] at htoken ⊢
    rw [unescape, unescapeChars_of_notMem (hamp hs), String.ofList_toList]
  · rw [if_neg hs] at hexpression ⊢
    exact unescape_attributeText_of_not_isExpression hexpression

end Names

/-! ## The variable of a policy -/

namespace CatalogItem

variable {settings : Settings} {i : CatalogItem} {key v : String}

/-- The policies that assign variables are single elements with attributes. -/
theorem policy_of_variableParameter? {id : String} (h : variableParameter? id = some key) :
    IsName id ∧ id ≠ SendRequest.policyId ∧ Template.ofPolicy? id = none ∧ key ≠ textKey := by
  have hmem := mem_of_lookup h
  simp only [List.mem_cons, Prod.mk.injEq, List.not_mem_nil, or_false] at hmem
  rcases hmem with ⟨rfl, rfl⟩ | ⟨rfl, rfl⟩ <;> decide

/-- The name of the variable is written plainly. -/
structure AssignsPlainly (settings : Settings) (i : CatalogItem) (key : String) : Prop where
  /-- The tag can be read. -/
  legible : i.HasLegibleTag settings
  /-- A name that is given twice, in the configuration and as an attribute, is the same. -/
  consistent : ∀ a name, i.attributes.get? key = some a →
    ((i.configuration.get? key).bind SendRequest.plainText?).bind visible? = some name →
    (Validation.literal? a).bind visible? = some name
  /-- A parameter is neither a list nor an object, and a token has no references. -/
  parameter : i.attributes.get? key = none → ∀ j, i.configuration.get? key = some j → j ≠ .null →
    ∃ s, SendRequest.plainText? j = some s ∧ (NamedValue.isToken s = true → '&' ∉ s.toList)
  /-- A named value has a name that makes it a token. -/
  reference : ∀ r, i.attributes.get? key = some (.namedValue r) →
    NamedValue.IsTokenName r.name.toList ∧ '&' ∉ r.name.toList

/-- The document of the policy shows the name of a variable: a visible text under the key that is
neither a token nor an expression. -/
structure ShowsVariable (settings : Settings) (i : CatalogItem) (key v : String) : Prop where
  /-- The document is an element with the attribute. -/
  written : ∃ e, parse (({ settings } : Writer).renderItem (.catalog i)) = .ok e ∧
    e.attribute? key = some v
  /-- The text is visible. -/
  visible : isBlankText v = false
  /-- It does not stand for a named value. -/
  no_token : NamedValue.isToken v = false
  /-- It is not computed. -/
  no_expression : isExpression v = false

/-- The attribute under the key, as it stands in the document: attributes go before parameters. -/
theorem attribute?_of_parse (hkey : variableParameter? i.policyId = some key)
    (h : i.HasLegibleTag settings) {e : Element}
    (hparse : parse (({ settings } : Writer).renderItem (.catalog i)) = .ok e) :
    e.attribute? key = (((i.attributes.get? key).map
      (Writer.attributeValueText settings.namedValueStyle)).or
        ((i.configuration.get? key).bind (attributeForm? settings.namedValueStyle))).map
      unescape := by
  obtain ⟨hname, hpolicy, htemplate, htext⟩ := policy_of_variableParameter? hkey
  have htag := (h.tag_of_parse hname hparse).2
  rw [Element.attribute?, htag, lookup_readRaw,
    writtenTag_of_not_templated? hpolicy (templated?_of_ofPolicy? htemplate), rawAttributes_eq,
    lookup_attributesWith _ _ h.distinct, if_neg htext]

/-- Validation finds the variable that the document shows. -/
theorem ShowsVariable.assignedVariable? (hkey : variableParameter? i.policyId = some key)
    (hplainly : i.AssignsPlainly settings key) (h : i.ShowsVariable settings key v) :
    assignedVariable? i = some (trim v) := by
  obtain ⟨e, hparse, hv⟩ := h.written
  rw [attribute?_of_parse hkey hplainly.legible hparse] at hv
  have hvisible : visible? v = some (trim v) := by rw [visible?, h.visible]; rfl
  rw [Validation.assignedVariable?, hkey, Option.bind_some]
  cases ha : i.attributes.get? key with
  | some a =>
    rw [ha, Option.map_some, Option.some_or, Option.map_some, Option.some.injEq] at hv
    have hliteral : (Validation.literal? a).bind visible? = some (trim v) := by
      cases a with
      | literal s =>
        have hexpression := h.no_expression
        rw [← hv] at hexpression
        have hs : v = s := hv.symm.trans (unescape_attributeText_of_not_isExpression hexpression)
        rw [Validation.literal?, Option.bind_some, ← hs, hvisible]
      | namedValue r =>
        -- A reference would be a token in the document.
        obtain ⟨hname, hamp⟩ := hplainly.reference r ha
        have htoken := NamedValue.isToken_token settings.namedValueStyle hname
        have hself : unescape (NamedValue.token settings.namedValueStyle r.name) = v := hv
        rw [unescape, unescapeChars_of_notMem, String.ofList_toList] at hself
        · rw [hself, h.no_token] at htoken
          exact Bool.noConfusion htoken
        · intro hmem
          rcases NamedValue.mem_token hmem with hmem | hmem
          · simp at hmem
          · exact hamp hmem
    cases hc : ((i.configuration.get? key).bind SendRequest.plainText?).bind visible? with
    | some name =>
      rw [Option.some_or, ← hliteral]
      exact (hplainly.consistent a name ha hc).symm
    | none => rwa [Option.none_or, Option.bind_some]
  | none =>
    rw [ha, Option.map_none, Option.none_or] at hv
    obtain ⟨raw, hraw, rfl⟩ := Option.map_eq_some_iff.1 hv
    obtain ⟨j, hj, hraw⟩ := Option.bind_eq_some_iff.1 hraw
    have hnull : j ≠ .null := by
      rintro rfl
      simp [attributeForm?, scalarText?] at hraw
    obtain ⟨s, hs, hamp⟩ := hplainly.parameter ha j hj hnull
    have hread := unescape_attributeForm hs hamp hraw h.no_token h.no_expression
    rw [hj, Option.bind_some, hs, Option.bind_some, ← hread, hvisible, Option.some_or]

end CatalogItem

/-! ## Counting assignments -/

namespace Validation

/-- The variables that items assign, in document order. -/
def assignedNames (ps : List PlacedItem) : List String :=
  ps.filterMap fun p => p.item.catalog?.bind assignedVariable?

/-- The variables that are assigned more than once. -/
def repeatedNames (m : Model) : List String :=
  (assignedNames m.placedItems).dedup.filter fun name =>
    2 ≤ (assignedNames m.placedItems).count name

theorem length_usersOf_assignedName? (ps : List PlacedItem) (name : String) :
    (usersOf assignedName? ps name).length = (assignedNames ps).count name := by
  rw [usersOf, ← List.countP_eq_length_filter, List.count, assignedNames, List.countP_filterMap]
  refine List.countP_congr fun p _ => ?_
  cases hname : assignedName? p.item with
  | none =>
    have hitem : p.item.catalog?.bind assignedVariable? = none := hname
    simp [hitem]
  | some name' =>
    have hitem : p.item.catalog?.bind assignedVariable? = some name' := hname
    simp [hitem]

theorem areRepeated_repeatedNames (m : Model) :
    AreRepeated assignedName? m.placedItems (repeatedNames m) := by
  refine ⟨(List.nodup_dedup _).filter _, fun name => ?_⟩
  rw [length_usersOf_assignedName?, repeatedNames, List.mem_filter, List.mem_dedup,
    decide_eq_true_eq]
  exact ⟨And.right, fun h => ⟨List.count_pos_iff.1 (by omega), h⟩⟩

/-- There is one warning for each variable that is assigned more than once. -/
theorem length_variableWarnings (m : Model) :
    (variableWarnings m).length = (repeatedNames m).length := by
  obtain ⟨names, hnames, -, hissues⟩ := exists_areRepeated_variables m
  rw [← hissues.length_eq]
  exact (hnames.perm (areRepeated_repeatedNames m) fun _ => rfl).length_eq

end Validation

/-! ## Agreement -/

/-- A model of two policies that assign one variable repeats that variable only. -/
theorem length_repeatedNames_of_two {m : Model} {i i' : CatalogItem} {name : String}
    (hitems : m.items.map Prod.snd = [.catalog i, .catalog i'])
    (h : assignedVariable? i = some name) (h' : assignedVariable? i' = some name) :
    (Validation.repeatedNames m).length = 1 := by
  have hplaced : m.placedItems.map PlacedItem.item = [.catalog i, .catalog i'] := by
    rw [← hitems, items_eq_map_placedItems, List.map_map]
    rfl
  have hnames : Validation.assignedNames m.placedItems = [name, name] := by
    have hmap : Validation.assignedNames m.placedItems =
        (m.placedItems.map PlacedItem.item).filterMap
          fun item => item.catalog?.bind assignedVariable? := by
      rw [List.filterMap_map]
      rfl
    rw [hmap, hplaced]
    simp [Item.catalog?, h, h']
  rw [Validation.repeatedNames, hnames]
  simp

/-- Validation and the document agree on the variable that a policy assigns, and a model of two
policies whose documents show one variable has one warning about it. -/
theorem assignedVariable?_of_shown (settings : Settings) :
    (∀ i key v, variableParameter? i.policyId = some key → i.AssignsPlainly settings key →
      i.ShowsVariable settings key v → assignedVariable? i = some (trim v)) ∧
    ∀ (catalog : Catalog) (m : Model) i i' key key' v v',
      m.items.map Prod.snd = [.catalog i, .catalog i'] →
      variableParameter? i.policyId = some key → variableParameter? i'.policyId = some key' →
      i.AssignsPlainly settings key → i'.AssignsPlainly settings key' →
      i.ShowsVariable settings key v → i'.ShowsVariable settings key' v' → trim v = trim v' →
      (m.validate catalog).count .duplicateVariableName = 1 := by
  refine ⟨fun i key v hkey hplainly h => h.assignedVariable? hkey hplainly, ?_⟩
  intro catalog m i i' key key' v v' hitems hkey hkey' hplainly hplainly' h h' htrim
  rw [count_duplicateVariableName, Validation.length_variableWarnings]
  refine length_repeatedNames_of_two hitems (h.assignedVariable? hkey hplainly) ?_
  rw [htrim]
  exact h'.assignedVariable? hkey' hplainly'

/-! ## Policies that agree and policies that do not -/

theorem renderItem_of_variableParameter? {i : CatalogItem} {key : String} (settings : Settings)
    (hkey : variableParameter? i.policyId = some key) :
    ({ settings } : Writer).renderItem (.catalog i) = ({ settings } : Writer).renderGeneric i := by
  obtain ⟨-, hpolicy, htemplate, -⟩ := CatalogItem.policy_of_variableParameter? hkey
  rw [Writer.renderItem, Writer.renderCatalog_eq settings i hpolicy,
    CatalogItem.templated?_of_ofPolicy? htemplate]

/-- A given document shows a variable if it is the one that is written and has the attribute. -/
theorem showsVariable_of_document {i : CatalogItem} {key v : String} (document : String)
    (hkey : variableParameter? i.policyId = some key)
    (hdocument : ({} : Writer).renderGeneric i = document)
    (hparse : (parse document).toOption.bind (·.attribute? key) = some v)
    (hvisible : isBlankText v = false) (htoken : NamedValue.isToken v = false)
    (hexpression : isExpression v = false) : i.ShowsVariable {} key v := by
  refine ⟨?_, hvisible, htoken, hexpression⟩
  obtain ⟨e, he, hv⟩ := Option.bind_eq_some_iff.1 hparse
  refine ⟨e, ?_, hv⟩
  rw [renderItem_of_variableParameter? {} hkey, hdocument]
  cases h : parse document with
  | error f =>
    rw [h] at he
    simp [Except.toOption] at he
  | ok e' =>
    rw [h] at he
    rw [Option.some.inj he]

/-- A variable whose name is a number. -/
def numberedItem : CatalogItem where
  id := "limit"
  order := 0
  policyId := "set-variable"
  configuration := [("name", .number (.int 1)), ("value", .text "@(context.Api.Id)")]

/-- The same variable, named by an attribute. -/
def cachedItem : CatalogItem where
  id := "cached"
  order := 1
  policyId := "cache-lookup-value"
  configuration := [("key", .text "limit"), ("variable-name", .text " ")]
  attributes := .ofList [("variable-name", .literal " 1 ")]

/-- A variable that is assigned in two sections. -/
def numberedModel : Model where
  scope := .global
  sections :=
    { inbound := some { items := [.catalog numberedItem] }
      outbound := some { items := [.catalog cachedItem] } }

theorem hasLegibleTag_numberedItem : numberedItem.HasLegibleTag {} := by
  have htag : numberedItem.writtenTag {} = [("name", "1"), ("value", "@(context.Api.Id)")] := by
    decide +kernel
  refine ⟨by decide, by rw [htag]; decide, ?_⟩
  rw [htag]
  simp only [List.forall_mem_cons]
  exact ⟨isQuotable_of_notMem (by decide) (by decide),
    isQuotable_of_scanExpression? (by decide +kernel), List.forall_mem_nil _⟩

theorem hasLegibleTag_cachedItem : cachedItem.HasLegibleTag {} := by
  have htag : cachedItem.writtenTag {} = [("key", "limit"), ("variable-name", " 1 ")] := by
    decide +kernel
  refine ⟨by decide, by rw [htag]; decide, ?_⟩
  rw [htag]
  simp only [List.forall_mem_cons]
  exact ⟨isQuotable_of_notMem (by decide) (by decide),
    isQuotable_of_notMem (by decide) (by decide), List.forall_mem_nil _⟩

theorem assignsPlainly_numberedItem : numberedItem.AssignsPlainly {} "name" := by
  have hattribute : numberedItem.attributes.get? "name" = none := rfl
  refine ⟨hasLegibleTag_numberedItem, by simp [hattribute], ?_, by simp [hattribute]⟩
  rintro - j hj -
  have hget : numberedItem.configuration.get? "name" = some (.number (.int 1)) := rfl
  obtain rfl := Option.some.inj (hget.symm.trans hj)
  exact ⟨"1", rfl, fun h => absurd h (by decide)⟩

theorem assignsPlainly_cachedItem : cachedItem.AssignsPlainly {} "variable-name" := by
  have hattribute : cachedItem.attributes.get? "variable-name" = some (.literal " 1 ") := by
    decide
  have hblank : ((cachedItem.configuration.get? "variable-name").bind
      SendRequest.plainText?).bind visible? = none := by
    decide
  refine ⟨hasLegibleTag_cachedItem, ?_, by simp [hattribute], by simp [hattribute]⟩
  intro a name _ hname
  simp [hblank] at hname

set_option maxRecDepth 20000 in
theorem showsVariable_numberedItem : numberedItem.ShowsVariable {} "name" "1" :=
  showsVariable_of_document "<set-variable name=\"1\" value=\"@(context.Api.Id)\" />" rfl
    (by decide +kernel) (by with_unfolding_all rfl) (by decide) (by decide) (by decide)

set_option maxRecDepth 20000 in
theorem showsVariable_cachedItem : cachedItem.ShowsVariable {} "variable-name" " 1 " :=
  showsVariable_of_document "<cache-lookup-value key=\"limit\" variable-name=\" 1 \" />" rfl
    (by decide +kernel) (by with_unfolding_all rfl) (by decide) (by decide) (by decide)

theorem assignedVariable?_of_shown_numberedModel :
    assignedVariable? numberedItem = some (trim "1") ∧
      numberedModel.validate.count .duplicateVariableName = 1 :=
  ⟨(assignedVariable?_of_shown {}).1 numberedItem "name" "1" rfl assignsPlainly_numberedItem
      showsVariable_numberedItem,
    (assignedVariable?_of_shown {}).2 Catalog.builtin numberedModel numberedItem cachedItem "name"
      "variable-name" "1" " 1 " rfl rfl rfl assignsPlainly_numberedItem assignsPlainly_cachedItem
      showsVariable_numberedItem showsVariable_cachedItem (by decide)⟩

/-! ### Names that are not plain -/

/-- A policy that sets a variable. -/
def settingItem (configuration : Fields) (attributes : NameMap AttributeValue := .empty) :
    CatalogItem where
  id := "variable"
  order := 0
  policyId := "set-variable"
  configuration
  attributes

/-- The document of the policy shows a variable that validation does not find. -/
def IsOverlooked (i : CatalogItem) (v : String) : Prop :=
  i.ShowsVariable {} "name" v ∧ assignedVariable? i ≠ some (trim v)

theorem isOverlooked_of_document {i : CatalogItem} {v : String} (document : String)
    (hpolicy : i.policyId = "set-variable") (hdocument : ({} : Writer).renderGeneric i = document)
    (hparse : (parse document).toOption.bind (·.attribute? "name") = some v)
    (hvisible : isBlankText v = false ∧ NamedValue.isToken v = false ∧ isExpression v = false)
    (hassigned : assignedVariable? i ≠ some (trim v)) : IsOverlooked i v :=
  ⟨showsVariable_of_document document (by rw [hpolicy]; rfl) hdocument hparse hvisible.1
    hvisible.2.1 hvisible.2.2, hassigned⟩

/-- A list of names is written with commas. -/
def listedItem : CatalogItem := settingItem [("name", .array [.text "a", .text "b"])]

/-- Two lists of names. -/
def listedModel : Model where
  scope := .global
  sections := { inbound := some { items := [.catalog listedItem, .catalog listedItem] } }

/-- A reference without a name is no token. -/
def namelessItem : CatalogItem := settingItem [] (.ofList [("name", .namedValue { name := "" })])

/-- A token that has a reference is no token once the reference is read. -/
def bracedItem : CatalogItem := settingItem [("name", .text "\x7b\x7ba&#125;b\x7d\x7d")]

/-- A key that is no name. -/
def keyedItem : CatalogItem := settingItem [("of=\"\" name", .text "a")]

/-- An expression that ends before its quote. -/
def quotedItem : CatalogItem := settingItem [("value", .text "@\" name=\"a")]

set_option maxRecDepth 20000 in
/-- Documents show lists, references and names inside of other attributes, which validation does
not look for. -/
theorem not_assignedVariable?_of_shown :
    IsOverlooked listedItem "a,b" ∧
      listedModel.validate.count .duplicateVariableName = 0 ∧
      IsOverlooked namelessItem "$\x7b\x7b\x7d\x7d" ∧
      IsOverlooked bracedItem "\x7b\x7ba\x7db\x7d\x7d" ∧
      IsOverlooked keyedItem "a" ∧ IsOverlooked quotedItem "a" := by
  refine ⟨?_, ?_, ?_, ?_, ?_, ?_⟩
  · exact isOverlooked_of_document "<set-variable name=\"a,b\" />" rfl (by decide +kernel)
      (by with_unfolding_all rfl) (by decide) (by decide +kernel)
  · rw [count_duplicateVariableName]
    decide +kernel
  · exact isOverlooked_of_document "<set-variable name=\"$\x7b\x7b\x7d\x7d\" />" rfl
      (by decide +kernel) (by with_unfolding_all rfl) (by decide) (by decide +kernel)
  · exact isOverlooked_of_document "<set-variable name=\"\x7b\x7ba&#125;b\x7d\x7d\" />" rfl
      (by decide +kernel) (by with_unfolding_all rfl) (by decide) (by decide +kernel)
  · exact isOverlooked_of_document "<set-variable of=\"\" name=\"a\" />" rfl
      (by decide +kernel) (by with_unfolding_all rfl) (by decide) (by decide +kernel)
  · exact isOverlooked_of_document "<set-variable value=\"@\" name=\"a\" />" rfl
      (by decide +kernel) (by with_unfolding_all rfl) (by decide) (by decide +kernel)

end GatewayPolicy
