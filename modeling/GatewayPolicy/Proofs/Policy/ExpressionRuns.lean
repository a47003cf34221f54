import GatewayPolicy.Proofs.Policy.StableItems
/-!
# Expressions under each other

An expression on its own has no markup: it is a line of text in its section. Expressions under each
other are lines of one text, so they are read back as one item that holds all of them. Only a section
with one expression at most is read back as it was.
-/

namespace GatewayPolicy

open Text Xml

variable {settings : Settings} {w : Writer} {kind : SectionKind} {s : Section} {i : Item}
  {t : String} {cs : List Char}

/-! ## Expressions on one line -/

/-- One complete expression on one line. -/
structure IsLineExpression (t : String) : Prop where
  complete : IsCompleteExpression t
  unbroken : '\n' ∉ t.toList

theorem IsLineExpression.head? (ht : IsLineExpression t) : t.toList.head? = some '@' := by
  obtain ⟨b, cs', e', hcs, -, -⟩ := exists_of_scanExpression? ht.complete.1
  rw [hcs]
  rfl

/-- An expression ends in a closing bracket, which is visible. -/
theorem IsLineExpression.exists_append (ht : IsLineExpression t) :
    ∃ rest c, t.toList = rest ++ [c] ∧ isBlank c = false := by
  obtain ⟨b, cs', e', -, he, hscan⟩ := exists_of_scanExpression? ht.complete.1
  obtain ⟨e'', rfl⟩ := exists_append_of_scanToClosing hscan
  refine ⟨'@' :: b.opening :: e'', b.closing, he, ?_⟩
  cases b <;> rfl

theorem IsLineExpression.isLine (ht : IsLineExpression t) : IsLine t.toList := by
  obtain ⟨rest, c, heq, hc⟩ := ht.exists_append
  have hmem := ht.unbroken
  rw [heq] at hmem ⊢
  exact ⟨by simp, hmem, by simpa using hc⟩

/-! ## Runs of expressions -/

/-- Expressions under each other, with blanks in front of all but the first. -/
inductive IsExpressionRun : List Char → Prop
  | single {t : String} (ht : IsLineExpression t) : IsExpressionRun t.toList
  | cons {t : String} {ws cs : List Char} (ht : IsLineExpression t) (hws : IsBlankRun ws)
      (hcs : IsExpressionRun cs) : IsExpressionRun (t.toList ++ '\n' :: (ws ++ cs))

theorem IsExpressionRun.isTextRun (h : IsExpressionRun cs) : isTextRun cs = true := by
  induction h with
  | single ht => rw [isTextRun_expression ht.complete.1, isTextRun_nil]
  | @cons t ws cs ht hws _ ih =>
    have hscan := scanExpression?_append ht.complete.1 ('\n' :: (ws ++ cs))
    have hgap : IsBlankRun ('\n' :: ws) := isBlankRun_cons.2 ⟨by decide, hws⟩
    rw [isTextRun_expression hscan, List.nil_append, ← List.cons_append,
      isTextRun_blanks_append hgap, ih]

theorem IsLineExpression.unescapeChars_eq (ht : IsLineExpression t) :
    unescapeChars t.toList = t.toList := by
  have hself := ht.complete.2
  rwa [unescape, ← String.toList_inj, String.toList_ofList] at hself

/-- A line end is no part of a reference, so none is read across two expressions. -/
theorem IsExpressionRun.unescapeChars_eq (h : IsExpressionRun cs) : unescapeChars cs = cs := by
  induction h with
  | single ht => exact ht.unescapeChars_eq
  | @cons t ws cs ht hws _ ih =>
    have hamp : '&' ∉ ws := hws.notMem (by decide)
    rw [unescapeChars_append_cons (by simp [boundaries]), ht.unescapeChars_eq,
      unescapeChars_append_of_notMem hamp, ih]

theorem IsExpressionRun.head? (h : IsExpressionRun cs) : cs.head? = some '@' := by
  cases h with
  | single ht => exact ht.head?
  | cons ht => rw [List.head?_append, ht.head?, Option.some_or]

theorem IsExpressionRun.exists_append (h : IsExpressionRun cs) :
    ∃ rest c, cs = rest ++ [c] ∧ isBlank c = false := by
  induction h with
  | single ht => exact ht.exists_append
  | @cons t ws cs _ _ _ ih =>
    obtain ⟨rest, c, rfl, hc⟩ := ih
    exact ⟨t.toList ++ '\n' :: (ws ++ rest), c, by simp, hc⟩

theorem IsExpressionRun.trimChars_eq (h : IsExpressionRun cs) : trimChars cs = cs := by
  have hskip : skipBlanks cs = cs := by
    cases cs with
    | nil => rfl
    | cons c cs =>
      obtain rfl : c = '@' := Option.some.inj h.head?
      exact skipBlanks_cons (by decide) cs
  obtain ⟨rest, c, heq, hc⟩ := h.exists_append
  rw [trimChars, hskip, heq, dropEndBlanks_append_singleton hc]

theorem IsExpressionRun.trim_eq (h : IsExpressionRun t.toList) : trim t = t := by
  rw [trim, h.trimChars_eq, String.ofList_toList]

theorem IsExpressionRun.isExpression_eq (h : IsExpressionRun t.toList) : isExpression t = true := by
  rw [isExpression, h.head?, beq_self_eq_true]

theorem IsExpressionRun.isBlank_eq (h : IsExpressionRun t.toList) :
    (Node.text t).isBlank = false := by
  rw [Node.isBlank, Bool.eq_false_iff]
  intro hblank
  have hat : '@' ∈ t.toList := List.mem_of_mem_head? h.head?
  exact (isBlankText_iff.1 hblank).notMem (by decide) hat

theorem IsExpressionRun.readsAs (h : IsExpressionRun t.toList) : ReadsAs t.toList (.text t) :=
  .text h.isTextRun (by rw [h.unescapeChars_eq])

/-! ## Sections of expressions -/

/-- The text of the item, if it is an expression. -/
def Item.expression? : Item → Option String
  | .expression i => some i.expression
  | _ => none

/-- The expressions of a section, in the order in which they are written. -/
def Section.expressions (s : Section) : List String := s.sortedItems.filterMap Item.expression?

/-- An expression that stands on its own line. -/
inductive IsBareExpression : Item → Prop
  | intro {i : ExpressionItem} (hcontext : i.context = some .condition)
      (hline : IsLineExpression i.expression) : IsBareExpression (.expression i)

theorem markedExpression_of_isLineExpression (ht : IsLineExpression t) :
    Writer.markedExpression t = t := by
  have hrun := IsExpressionRun.single ht
  rw [Writer.markedExpression, hrun.trim_eq]
  exact if_pos hrun.isExpression_eq

/-- A bare expression is written as it is, on one line. -/
theorem exists_renderItem_of_isBareExpression (w : Writer) (h : IsBareExpression i) :
    ∃ t, IsLineExpression t ∧ i.expression? = some t ∧ w.renderItem i = t := by
  cases h with
  | @intro i hcontext hline =>
    refine ⟨i.expression, hline, rfl, ?_⟩
    rw [Writer.renderItem, Writer.renderExpression, hcontext,
      markedExpression_of_isLineExpression hline]

theorem itemLines_of_areBareExpressions {items : List Item}
    (h : ∀ i ∈ items, IsBareExpression i) :
    items.flatMap w.itemLines =
      (items.filterMap Item.expression?).map (w.settings.indent 2 ++ ·) := by
  induction items with
  | nil => rfl
  | cons i items ih =>
    obtain ⟨hi, hitems⟩ := List.forall_mem_cons.1 h
    obtain ⟨t, ht, hexpression, hrender⟩ := exists_renderItem_of_isBareExpression w hi
    have hlines := itemLines_of_isLine (hrender ▸ ht.isLine)
    rw [List.flatMap_cons, List.filterMap_cons_some hexpression, List.map_cons, hlines, hrender,
      ih hitems]
    rfl

/-- What expressions under each other are read back as. -/
def joinedExpression? (settings : Settings) : List String → Option String
  | [] => none
  | e :: es => some (unlines (e :: es.map (settings.indent 2 ++ ·)))

theorem isExpressionRun_unlines {e : String} {es : List String}
    (h : ∀ t ∈ e :: es, IsLineExpression t) :
    IsExpressionRun (unlines (e :: es.map (settings.indent 2 ++ ·))).toList := by
  induction es generalizing e with
  | nil =>
    rw [toList_unlines_cons]
    simpa using IsExpressionRun.single (h e List.mem_cons_self)
  | cons f es ih =>
    obtain ⟨he, hes⟩ := List.forall_mem_cons.1 h
    have hrest := ih hes
    have hblank : IsBlankRun (settings.indent 2).toList := by
      rw [Settings.indent, toList_indentation]
      exact isBlankRun_replicate _
    have hrun := IsExpressionRun.cons he hblank hrest
    rw [toList_unlines_cons] at hrun ⊢
    simpa using hrun

/-! ## Written and read back -/

/-- The texts that expressions under each other are read back as. -/
def runNodes (settings : Settings) (es : List String) : List Node :=
  (joinedExpression? settings es).toList.map Node.text

theorem areWritten_runNodes {es : List String} (h : ∀ t ∈ es, IsLineExpression t) :
    ∃ written, AreWritten written (runNodes settings es) ∧
      lineChars (es.map (settings.indent 2 ++ ·)) =
        gappedChars (lineGap settings.indentWidth 2) written := by
  cases es with
  | nil => exact ⟨[], areWritten_nil, rfl⟩
  | cons e es =>
    have hrun : IsExpressionRun (unlines (e :: es.map (settings.indent 2 ++ ·))).toList :=
      isExpressionRun_unlines h
    have hchars := toList_unlines_cons e (es.map (settings.indent 2 ++ ·))
    rw [runNodes, joinedExpression?, Option.toList_some, List.map_singleton]
    generalize unlines (e :: es.map (settings.indent 2 ++ ·)) = run at hrun hchars ⊢
    refine ⟨_, areWritten_nil.cons hrun.isBlank_eq hrun.readsAs, ?_⟩
    rw [List.map_cons, lineChars_cons, gappedChars_cons, hchars]
    simp [lineGap, Settings.indent]

theorem isBlank_of_mem_runNodes {es : List String} (h : ∀ t ∈ es, IsLineExpression t) :
    ∀ n ∈ runNodes settings es, n.isBlank = false := by
  cases es with
  | nil => exact List.forall_mem_nil _
  | cons e es => exact List.forall_mem_singleton.2 (isExpressionRun_unlines h).isBlank_eq

theorem haveSeparateTexts_runNodes (es : List String) :
    HaveSeparateTexts (runNodes settings es) := by
  refine haveSeparateTexts_of_pairwise ?_
  cases es with
  | nil => exact List.Pairwise.nil
  | cons e es => exact List.pairwise_singleton _ _

theorem isLineExpression_of_mem_expressions (h : ∀ i ∈ s.items, IsBareExpression i)
    (ht : t ∈ s.expressions) : IsLineExpression t := by
  obtain ⟨i, hi, hit⟩ := List.mem_filterMap.1 ht
  obtain ⟨t', ht', hexpression, -⟩ :=
    exists_renderItem_of_isBareExpression {} (h i (List.mem_mergeSort.1 hi))
  obtain rfl : t = t' := Option.some.inj (hit.symm.trans hexpression)
  exact ht'

/-- A section of bare expressions is read back as one text. -/
theorem sectionReadsAs_of_areBareExpressions (h : ∀ i ∈ s.items, IsBareExpression i) :
    SectionReadsAs { settings } kind (some s)
      (baseNodes s.includesBase ++ runNodes settings s.expressions) := by
  have hsorted : ∀ i ∈ s.sortedItems, IsBareExpression i :=
    fun i hi => h i (List.mem_mergeSort.1 hi)
  have hlines := itemLines_of_areBareExpressions (w := { settings }) hsorted
  have hexpressions : ∀ t ∈ s.expressions, IsLineExpression t :=
    fun t ht => isLineExpression_of_mem_expressions h ht
  obtain ⟨written, hw, heq⟩ := areWritten_runNodes hexpressions
  refine sectionReadsAs_of_areWritten hw (haveSeparateTexts_runNodes _) ?_
  rw [hlines]
  exact heq

theorem length_expressions (h : ∀ i ∈ s.items, IsBareExpression i) :
    s.expressions.length = s.items.length := by
  have hall : ∀ i ∈ s.sortedItems, i.expression?.isSome := by
    intro i hi
    obtain ⟨t, -, hexpression, -⟩ :=
      exists_renderItem_of_isBareExpression {} (h i (List.mem_mergeSort.1 hi))
    rw [hexpression]
    rfl
  have hlength : s.sortedItems.length = s.items.length := (List.mergeSort_perm _ _).length_eq
  rw [← hlength, Section.expressions, List.length_filterMap_eq_countP]
  exact List.countP_eq_length.2 hall

/-- One expression on its own stays what it is; several become one. -/
theorem toList_joinedExpression?_eq_iff (es : List String) :
    (joinedExpression? settings es).toList = es ↔ es.length ≤ 1 := by
  match es with
  | [] => simp [joinedExpression?]
  | [e] =>
    have hone : unlines [e] = e := by simp [unlines]
    simp [joinedExpression?, hone]
  | e :: f :: es =>
    constructor
    · intro heq
      have hlength := congrArg List.length heq
      simp [joinedExpression?] at hlength
    · intro hle
      simp at hle

/-- What is read of expressions under each other. -/
theorem forall₂_isReadAs_runNodes {es : List String} (h : ∀ t ∈ es, IsLineExpression t) :
    List.Forall₂ (fun t n => IsReadAs settings n fun id order i =>
        i = .expression { id, order, expression := t, context := some .condition })
      (joinedExpression? settings es).toList (runNodes settings es) := by
  cases es with
  | nil => exact .nil
  | cons e es =>
    have hrun : IsExpressionRun (unlines (e :: es.map (settings.indent 2 ++ ·))).toList :=
      isExpressionRun_unlines h
    rw [runNodes, joinedExpression?, Option.toList_some, List.map_singleton]
    generalize unlines (e :: es.map (settings.indent 2 ++ ·)) = run at hrun ⊢
    exact .cons (isReadAs_expression hrun.trim_eq hrun.isExpression_eq) .nil

theorem expressions_of_forall₂ {o : Option String}
    (h : List.Forall₂ (fun (a : String × Nat) i => i = .expression
        { id := itemId kind a.2, order := a.2, expression := a.1, context := some .condition })
      o.toList.zipIdx s.items) : s.expressions = o.toList := by
  rw [Section.expressions, Section.sortedItems]
  cases o with
  | none =>
    generalize s.items = items at h ⊢
    cases h
    simp
  | some t =>
    generalize s.items = items at h ⊢
    cases h with
    | cons hi hrest =>
      cases hrest
      rw [hi, List.mergeSort_singleton]
      rfl

/-- **Expressions under each other are merged.** A section of bare expressions is read back with all of
them as one expression, so their number and their texts survive if there is one at most. The other
sections have to be read back at all, as absent sections and sections of bare expressions are. -/
theorem exists_ofXml_toXml_of_areBareExpressions {m : Model}
    (hs : m.sections.get? kind = some s) (hitems : ∀ i ∈ s.items, IsBareExpression i)
    (hothers : ∀ other, other ≠ kind →
      ∃ ns, SectionReadsAs { settings } other (m.sections.get? other) ns) :
    ∃ m' s', Model.ofXml settings (m.toXml settings) = .ok m' ∧
      m'.sections.get? kind = some s' ∧
      s'.expressions = (joinedExpression? settings s.expressions).toList ∧
      (s'.expressions = s.expressions ↔ s.items.length ≤ 1) := by
  have hexpressions : ∀ t ∈ s.expressions, IsLineExpression t :=
    fun t ht => isLineExpression_of_mem_expressions hitems ht
  have hall : ∀ other, ∃ ns, SectionReadsAs { settings } other (m.sections.get? other) ns ∧
      (other = kind → ns = baseNodes s.includesBase ++ runNodes settings s.expressions) := by
    intro other
    by_cases hother : other = kind
    · subst hother
      rw [hs]
      exact ⟨_, sectionReadsAs_of_areBareExpressions hitems, fun _ => rfl⟩
    · obtain ⟨ns, hns⟩ := hothers other hother
      exact ⟨ns, hns, fun heq => absurd heq hother⟩
  choose nodes hreads hnodes using hall
  obtain ⟨sections, hparse, hget⟩ := exists_ofXml_write hreads
  obtain ⟨e, htidy, hsection⟩ := hget kind
  rw [hnodes kind rfl] at htidy
  have hread := (readSection_of_isReadAs htidy (isBlank_of_mem_runNodes hexpressions)
    (forall₂_isReadAs_runNodes hexpressions) kind).2
  have hjoined := expressions_of_forall₂ hread
  refine ⟨_, _, hparse, hsection, hjoined, ?_⟩
  rw [hjoined, toList_joinedExpression?_eq_iff, length_expressions hitems]

/-- Two expressions that are stored in another order than they are written. -/
def pairedSection : Section where
  items :=
    [.expression { id := "b", order := 1, expression := "@(b)", context := some .condition },
      .expression { id := "a", order := 0, expression := "@(a)", context := some .condition }]

/-- A model with the two expressions in one section and one expression in another. -/
def pairedModel : Model where
  scope := .api
  sections := {
    inbound := some pairedSection
    outbound := some { items := [.expression
      { id := "c", order := 0, expression := "@(c)", context := some .condition }] } }

theorem expressions_pairedSection : pairedSection.expressions = ["@(a)", "@(b)"] := by
  simp [Section.expressions, Section.sortedItems, pairedSection, List.mergeSort,
    List.MergeSort.Internal.splitInTwo, Item.order, Item.expression?]

theorem exists_ofXml_toXml_pairedModel :
    pairedModel.sections.get? .inbound = some pairedSection ∧
      (∀ i ∈ pairedSection.items, IsBareExpression i) ∧
      (∀ other, other ≠ .inbound →
        ∃ ns, SectionReadsAs {} other (pairedModel.sections.get? other) ns) ∧
      ∃ m' s', Model.ofXml {} (pairedModel.toXml {}) = .ok m' ∧
        m'.sections.get? .inbound = some s' ∧ s'.expressions = ["@(a)\n    @(b)"] ∧
        s'.expressions ≠ pairedSection.expressions := by
  have hline : ∀ t ∈ ["@(a)", "@(b)", "@(c)"], IsLineExpression t := by
    have hcomplete : ∀ t ∈ ["@(a)", "@(b)", "@(c)"], IsCompleteExpression t := by decide +kernel
    have hunbroken : ∀ t ∈ ["@(a)", "@(b)", "@(c)"], '\n' ∉ t.toList := by decide
    exact fun t ht => ⟨hcomplete t ht, hunbroken t ht⟩
  have hitems : ∀ i ∈ pairedSection.items, IsBareExpression i := by
    simp only [pairedSection, List.forall_mem_cons]
    exact ⟨.intro rfl (hline _ (by simp)), .intro rfl (hline _ (by simp)), List.forall_mem_nil _⟩
  have hothers : ∀ other, other ≠ .inbound →
      ∃ ns, SectionReadsAs {} other (pairedModel.sections.get? other) ns := by
    intro other hother
    cases other with
    | inbound => exact absurd rfl hother
    | backend => exact ⟨_, (SectionIsWrittenAs.forwarding rfl).readsAs⟩
    | outbound =>
      refine ⟨_, sectionReadsAs_of_areBareExpressions ?_⟩
      exact List.forall_mem_singleton.2 (.intro rfl (hline _ (by simp)))
    | onError => exact ⟨_, (SectionIsWrittenAs.empty (by decide)).readsAs⟩
  have hget : pairedModel.sections.get? .inbound = some pairedSection := rfl
  obtain ⟨m', s', hread, hsection, hexpressions, hkept⟩ :=
    exists_ofXml_toXml_of_areBareExpressions hget hitems hothers
  refine ⟨hget, hitems, hothers, m', s', hread, hsection, ?_, fun heq => ?_⟩
  · rw [hexpressions, expressions_pairedSection]
    decide +kernel
  · exact absurd (hkept.1 heq) (by simp [pairedSection])

end GatewayPolicy
