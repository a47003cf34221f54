import GatewayPolicy.Proofs.Export.Resource
import GatewayPolicy.Proofs.Text.Padding
/-!
# Declarations tell their resources apart

A declaration puts the version, the name and the document of a resource between quotes as they are.
A document that contains the quotes around it is refused, so the document can always be read off the
declaration, and so can the type. There is no such check for the version and the name: they can be
read off together with what stands between them, and apart from each other if the version does not
contain that itself.
-/

namespace GatewayPolicy

open Text

variable {m m' : Model} {o o' : ExportOptions} {r r' : Resource} {s s' : Scope} {e : Error}
  {name xml xml' t t' : String}

/-! ## Searching -/

theorem isSome_splitAtFirst?_iff {pattern cs : List Char} (hp : pattern ≠ []) :
    (splitAtFirst? pattern cs).isSome = true ↔ pattern <:+: cs := by
  induction cs with
  | nil => simp [splitAtFirst?, hp]
  | cons c cs ih =>
    rw [splitAtFirst?, List.infix_cons_iff, ← ih]
    by_cases h : pattern.isPrefixOf (c :: cs) = true
    · simp [h, List.isPrefixOf_iff_prefix.1 h]
    · have hnot : ¬ pattern <+: c :: cs := fun hstarts => h (List.isPrefixOf_iff_prefix.2 hstarts)
      simp [h, hnot]

theorem containsText_iff {pattern text : String} (hp : pattern ≠ "") :
    containsText pattern text = true ↔ pattern.toList <:+: text.toList := by
  have hempty : pattern.isEmpty = false := String.isEmpty_eq_false_iff.2 hp
  have hne : pattern.toList ≠ [] := fun h => hp (String.toList_inj.1 (by simpa using h))
  rw [containsText, hempty, Bool.false_or, isSome_splitAtFirst?_iff hne]

/-! ## Texts between quotes -/

/-- Two splits of a list are one if nothing can be moved over from either of them. -/
theorem append_inj_of_forall_eq_nil {α : Type} {a b x y : List α} (h : a ++ x = b ++ y)
    (hb : ∀ w, b = a ++ w → x = w ++ y → w = []) (ha : ∀ w, a = b ++ w → y = w ++ x → w = []) :
    a = b ∧ x = y := by
  rcases List.append_eq_append_iff.1 h with ⟨w, rfl, hw⟩ | ⟨w, rfl, hw⟩
  · obtain rfl := hb w rfl hw
    simpa using hw
  · obtain rfl := ha w rfl hw
    simpa [eq_comm] using hw

/-- The quotes around a document. -/
def quotes : List Char := ['\'', '\'', '\'']

/-- What stands between the version and the name: the end of a line and the start of the next. -/
def nameOpening : String := unlines ["' = \x7b", "  name: '"]

/-- What stands between the name and the quotes around the document. -/
def valueOpening (format : String) : String :=
  unlines ["'", "  properties: \x7b", "    format: '" ++ format ++ "'", "    value: "]

/-- What stands behind the document. -/
def valueClosing : String := unlines ["", "'''", "  \x7d", "\x7d", ""]

/-- The last quotes in a text can be told, if a line end follows them. -/
theorem eq_of_append_quotes_eq {a b x y : List Char} (hx : ¬ quotes <:+: x) (hy : ¬ quotes <:+: y)
    (h : a ++ (quotes ++ '\n' :: x) = b ++ (quotes ++ '\n' :: y)) : a = b ∧ x = y := by
  -- Other quotes further on lie in the document, since the line end keeps them from overlapping.
  have later {x y w : List Char} (hx : ¬ quotes <:+: x)
      (h : quotes ++ '\n' :: x = w ++ (quotes ++ '\n' :: y)) : w = [] := by
    rcases w with _ | ⟨c₁, _ | ⟨c₂, _ | ⟨c₃, _ | ⟨c₄, w⟩⟩⟩⟩
    · rfl
    · simp [quotes] at h
    · simp [quotes] at h
    · simp [quotes] at h
    · simp only [quotes, List.cons_append, List.nil_append, List.cons.injEq] at h
      exact absurd ⟨w, '\n' :: y, by simp [quotes, h]⟩ hx
  simpa using append_inj_of_forall_eq_nil h (fun w _ hw => later hx hw) fun w _ hw => later hy hw

theorem toList_nameOpening : nameOpening.toList =
    ['\'', ' ', '=', ' ', '\x7b', '\n', ' ', ' ', 'n', 'a', 'm', 'e', ':', ' ', '\''] := by
  decide

/-- What ends the opening of a name does not start another, its last quote and all of it apart. -/
theorem eq_of_drop_prefix_nameOpening : ∀ k ≤ nameOpening.toList.length,
    nameOpening.toList.drop k <+: nameOpening.toList → k = 0 ∨ k = 14 ∨ k = 15 := by
  rw [toList_nameOpening]
  decide

/-- The opening of a name can be told if it is not in the version and no blank follows it. -/
theorem eq_of_append_nameOpening_eq {a b x y : List Char} (ha : ¬ nameOpening.toList <:+: a)
    (hb : ¬ nameOpening.toList <:+: b) (hx : x.head? ≠ some ' ') (hy : y.head? ≠ some ' ')
    (h : a ++ (nameOpening.toList ++ x) = b ++ (nameOpening.toList ++ y)) : a = b ∧ x = y := by
  have later {x y w : List Char} (hx : x.head? ≠ some ' ') (hw : ¬ nameOpening.toList <:+: w)
      (h : nameOpening.toList ++ x = w ++ (nameOpening.toList ++ y)) : w = [] := by
    rcases List.append_eq_append_iff.1 h with ⟨u, rfl, -⟩ | ⟨u, hu, hrest⟩
    · exact absurd (List.infix_append' [] _ u) hw
    · have hdrop : nameOpening.toList.drop w.length = u := by rw [hu, List.drop_left]
      have hlength : w.length ≤ nameOpening.toList.length := by simp [hu]
      have hstarts : u <+: nameOpening.toList :=
        List.prefix_of_prefix_length_le (hrest ▸ List.prefix_append u x)
          (List.prefix_append _ y) (by simp [hu])
      rcases eq_of_drop_prefix_nameOpening _ hlength (hdrop ▸ hstarts) with hk | hk | hk
      · exact List.length_eq_zero_iff.1 hk
      · -- The last quote opens another name, so the first name starts with a blank.
        rw [hk, toList_nameOpening] at hdrop
        subst hdrop
        rw [toList_nameOpening] at hrest
        exact absurd (congrArg List.head? (List.cons.inj hrest).2).symm hx
      · rw [hk, toList_nameOpening] at hdrop
        subst hdrop
        obtain rfl : nameOpening.toList = w := by simpa using hu
        exact absurd List.infix_rfl hw
  have notWithin {c c' w : List Char} (hc : ¬ nameOpening.toList <:+: c) (hw : c = c' ++ w) :
      ¬ nameOpening.toList <:+: w :=
    fun hwithin => hc (hwithin.trans (hw ▸ (List.suffix_append c' w).isInfix))
  simpa using append_inj_of_forall_eq_nil h (fun w hw => later hx (notWithin hb hw))
    fun w hw => later hy (notWithin ha hw)

/-! ## Declarations -/

/-- The declaration of a resource for documents of a scope. -/
def Scope.declaration (s : Scope) (r : Resource) : String :=
  unlines (Model.declarationLines s.declarationName r) ++ "\n"

theorem declaration_eq (s : Scope) (r : Resource) : s.declaration r =
    "resource " ++ (s.declarationName ++ (" '" ++ r.type ++ "@" ++ ((r.apiVersion ++ nameOpening ++
      r.name ++ valueOpening r.format) ++ (Model.multilineQuote ++ "\n" ++ r.value) ++
        valueClosing))) := by
  simp only [Scope.declaration, Model.declarationLines, unlines, nameOpening, valueOpening,
    valueClosing, Model.multilineQuote, String.intercalate_cons_cons, String.intercalate_singleton,
    String.append_assoc, String.empty_append, String.append_empty]

theorem bicep_eq_ok_iff : m.bicep xml o = .ok t ↔
    ¬ quotes <:+: xml.toList ∧ ∃ r, r.Deploys m xml o ∧ m.scope.declaration r = t := by
  have hquotes : containsText Model.multilineQuote xml = true ↔ quotes <:+: xml.toList :=
    containsText_iff (by decide)
  unfold Model.bicep
  by_cases h : quotes <:+: xml.toList
  · simp [hquotes.2 h, h]
  · rw [if_neg (by rwa [hquotes]), bind_eq_ok_iff]
    simp only [← Model.resource_eq_ok_iff, pure, Except.pure, Except.ok.injEq, h, not_false_eq_true,
      true_and]
    rfl

theorem eq_of_declarationName_append_eq (h : s.declarationName ++ t = s'.declarationName ++ t') :
    s = s' := by
  have hhead := congrArg (·.toList.head?) h
  cases s <;> cases s' <;> simp [Scope.declarationName] at hhead ⊢

theorem resourceType_injective (h : s.resourceType = s'.resourceType) : s = s' := by
  revert h
  cases s <;> cases s' <;> decide

/-- A declaration tells the type and the document, and what it has from the version to the name. -/
theorem declaration_eq_iff (hr : r.Deploys m xml o) (hr' : r'.Deploys m' xml' o')
    (hxml : ¬ quotes <:+: xml.toList) (hxml' : ¬ quotes <:+: xml'.toList) :
    m.scope.declaration r = m'.scope.declaration r' ↔
      r.type = r'.type ∧ r.value = r'.value ∧
        r.apiVersion ++ nameOpening ++ r.name = r'.apiVersion ++ nameOpening ++ r'.name := by
  have htype : r.type = r'.type ↔ m.scope = m'.scope := by
    rw [hr.type, hr'.type]
    exact ⟨resourceType_injective, congrArg _⟩
  have hformat : r.format = r'.format := hr.format.trans hr'.format.symm
  rw [declaration_eq, declaration_eq]
  constructor
  · intro h
    have hrest := String.append_right_inj _ |>.1 h
    have hscope := eq_of_declarationName_append_eq hrest
    rw [hscope, htype.2 hscope, String.append_right_inj, String.append_right_inj,
      String.append_left_inj, ← String.toList_inj] at hrest
    obtain ⟨hfront, hvalue⟩ := eq_of_append_quotes_eq
      (a := (r.apiVersion ++ nameOpening ++ r.name ++ valueOpening r.format).toList)
      (b := (r'.apiVersion ++ nameOpening ++ r'.name ++ valueOpening r'.format).toList)
      (x := r.value.toList) (y := r'.value.toList) (by rwa [hr.value]) (by rwa [hr'.value])
      (by simpa [Model.multilineQuote, quotes] using hrest)
    rw [String.toList_inj, hformat, String.append_left_inj] at hfront
    exact ⟨htype.2 hscope, String.toList_inj.1 hvalue, hfront⟩
  · rintro ⟨ht, hvalue, hfront⟩
    rw [htype.1 ht, ht, hvalue, hfront, hformat]

/-- The opening of a name in neither version: the whole resource can be told. -/
theorem eq_of_declaration_eq (hr : r.Deploys m xml o) (hr' : r'.Deploys m' xml' o')
    (hxml : ¬ quotes <:+: xml.toList) (hxml' : ¬ quotes <:+: xml'.toList)
    (hversion : ¬ nameOpening.toList <:+: o.apiVersion.toList)
    (hversion' : ¬ nameOpening.toList <:+: o'.apiVersion.toList)
    (h : m.scope.declaration r = m'.scope.declaration r') : r = r' := by
  obtain ⟨htype, hvalue, hfront⟩ := (declaration_eq_iff hr hr' hxml hxml').1 h
  have hname {m : Model} {o : ExportOptions} {r : Resource} {xml : String}
      (hr : r.Deploys m xml o) : r.name.toList.head? ≠ some ' ' :=
    fun hblank => absurd (Model.isBlank_of_resourceName hr.name hblank) (by decide)
  obtain ⟨hversions, hnames⟩ := eq_of_append_nameOpening_eq (a := r.apiVersion.toList)
    (b := r'.apiVersion.toList) (by rwa [hr.apiVersion]) (by rwa [hr'.apiVersion]) (hname hr)
    (hname hr') (by simpa using congrArg String.toList hfront)
  have hformat : r.format = r'.format := hr.format.trans hr'.format.symm
  cases r
  cases r'
  simp_all [String.toList_inj]

/-! ## Versions that open a name -/

/-- A text that starts with a visible character and ends with a trimmed text is trimmed. -/
theorem trim_append_trim {a b : String} (ha : ∃ c ∈ a.toList.head?, isBlank c = false)
    (hb : isBlankText b = false) : trim (a ++ trim b) = a ++ trim b := by
  obtain ⟨c, hc, hvisible⟩ := ha
  obtain ⟨cs, hcs⟩ : ∃ cs, a.toList = c :: cs := by
    cases ha : a.toList with
    | nil => simp [ha] at hc
    | cons d ds =>
      obtain rfl : d = c := by simpa [ha] using hc
      exact ⟨ds, rfl⟩
  have hne : trimChars b.toList ≠ [] := fun h => by
    rw [isBlankText_iff.2 (trimChars_eq_nil_iff.1 h)] at hb
    simp at hb
  obtain ⟨ds, d, hds⟩ : ∃ ds d, trimChars b.toList = ds ++ [d] :=
    ⟨_, _, (List.dropLast_concat_getLast hne).symm⟩
  rw [← String.toList_inj, toList_trim, String.toList_append, toList_trim, hcs, hds]
  have heq : c :: cs ++ (ds ++ [d]) = (c :: (cs ++ ds)) ++ [d] := by simp
  exact trimChars_of_visible hvisible (isBlank_of_trimChars_eq_append hds) heq

/-- A version that holds the opening of a name declares another resource as well: the version ends
there, and the service starts with what follows. -/
theorem exists_declaration_eq {a b : String} (hr : r.Deploys m xml o)
    (hversion : o.apiVersion = a ++ nameOpening ++ b)
    (hb : ∀ c ∈ b.toList.head?, isBlank c = false) :
    ∃ o' r', r'.Deploys m xml o' ∧ m.scope.declaration r' = m.scope.declaration r ∧ r' ≠ r := by
  obtain ⟨hvisible, path, hpath, hname⟩ := Model.resourceName_eq_ok_iff.1 hr.name
  have hhead : ∃ c ∈ (b ++ nameOpening).toList.head?, isBlank c = false := by
    cases hcs : b.toList with
    | nil => exact ⟨'\'', by simp [hcs, toList_nameOpening], by decide⟩
    | cons c cs => exact ⟨c, by simp [hcs], hb c (by simp [hcs])⟩
  have htrim := trim_append_trim hhead hvisible
  refine ⟨{ o with apiVersion := a, serviceName := b ++ nameOpening ++ trim o.serviceName },
    { r with apiVersion := a, name := b ++ nameOpening ++ r.name }, ?_, ?_, ?_⟩
  · refine ⟨hr.type, rfl, Model.resourceName_eq_ok_iff.2 ⟨?_, path, hpath, ?_⟩, hr.format, hr.value⟩
    · rw [← Bool.not_eq_true, isBlankText_iff]
      exact fun hrun => hrun.notMem (show isBlank '\'' = false by decide)
        (by simp [toList_nameOpening])
    · rw [htrim, ← hname]
      simp only [String.append_assoc]
  · rw [declaration_eq, declaration_eq, hr.apiVersion, hversion]
    simp only [String.append_assoc]
  · intro h
    have hsame : a = o.apiVersion := (congrArg Resource.apiVersion h).trans hr.apiVersion
    rw [hversion] at hsame
    have hlength := congrArg (·.toList.length) hsame
    simp [toList_nameOpening] at hlength

/-! ## Calls -/

/-- There is a declaration whenever there is a resource and the document has no quotes in it. Two
declarations are the same text exactly if their resources have the same type, the same document and
the same characters from the version to the name; they declare one resource then, unless a version
holds what opens a name. With such a version the same text declares another resource too. -/
theorem bicep_determines (m m' : Model) (xml xml' : String) (o o' : ExportOptions) :
    ((∃ t, m.bicep xml o = .ok t) ↔
      (∃ r, m.resource xml o = .ok r) ∧ ¬ ['\'', '\'', '\''] <:+: xml.toList) ∧
    (∀ t t', m.bicep xml o = .ok t → m'.bicep xml' o' = .ok t' →
      ∃ r r', m.resource xml o = .ok r ∧ m'.resource xml' o' = .ok r' ∧
        (t = t' ↔ r.type = r'.type ∧ r.value = r'.value ∧
          r.apiVersion ++ nameOpening ++ r.name = r'.apiVersion ++ nameOpening ++ r'.name) ∧
        (t = t' → ¬ nameOpening.toList <:+: o.apiVersion.toList →
          ¬ nameOpening.toList <:+: o'.apiVersion.toList → r = r')) ∧
    ∀ t a b, m.bicep xml o = .ok t → o.apiVersion = a ++ nameOpening ++ b →
      (∀ c ∈ b.toList.head?, isBlank c = false) →
        ∃ o₂, m.bicep xml o₂ = .ok t ∧ m.resource xml o₂ ≠ m.resource xml o := by
  refine ⟨?_, fun t t' ht ht' => ?_, fun t a b ht hversion hb => ?_⟩
  · simp only [bicep_eq_ok_iff, Model.resource_eq_ok_iff]
    constructor
    · rintro ⟨t, hxml, r, hr, -⟩
      exact ⟨⟨r, hr⟩, hxml⟩
    · rintro ⟨⟨r, hr⟩, hxml⟩
      exact ⟨_, hxml, r, hr, rfl⟩
  · obtain ⟨hxml, r, hr, rfl⟩ := bicep_eq_ok_iff.1 ht
    obtain ⟨hxml', r', hr', rfl⟩ := bicep_eq_ok_iff.1 ht'
    exact ⟨r, r', Model.resource_eq_ok_iff.2 hr, Model.resource_eq_ok_iff.2 hr',
      declaration_eq_iff hr hr' hxml hxml',
      fun h hversion hversion' => eq_of_declaration_eq hr hr' hxml hxml' hversion hversion' h⟩
  · obtain ⟨hxml, r, hr, rfl⟩ := bicep_eq_ok_iff.1 ht
    obtain ⟨o₂, r₂, hr₂, hdeclaration, hne⟩ := exists_declaration_eq hr hversion hb
    refine ⟨o₂, bicep_eq_ok_iff.2 ⟨hxml, r₂, hr₂, hdeclaration⟩, ?_⟩
    rw [Model.resource_eq_ok_iff.2 hr₂, Model.resource_eq_ok_iff.2 hr]
    simpa using hne

/-- A version in which a quote ends the type and a name follows. -/
def namingOptions : ExportOptions where
  serviceName := "b"
  apiVersion := "v' = \x7b\n  name: 'a"

theorem exists_resource_namingOptions :
    ∃ r, Model.resource { scope := .global } "<policies />" namingOptions = .ok r := by
  have hsome :
      (Model.resource { scope := .global } "<policies />" namingOptions).toBool = true := by
    decide +kernel
  cases hr : Model.resource { scope := .global } "<policies />" namingOptions with
  | error e => simp [hr, Except.toBool] at hsome
  | ok r => exact ⟨r, rfl⟩

theorem bicep_determines_namingOptions :
    ∃ t o', Model.bicep { scope := .global } "<policies />" namingOptions = .ok t ∧
      Model.bicep { scope := .global } "<policies />" o' = .ok t ∧
      Model.resource { scope := .global } "<policies />" o' ≠
        Model.resource { scope := .global } "<policies />" namingOptions := by
  have hquotes : ¬ ['\'', '\'', '\''] <:+: "<policies />".toList := by decide +kernel
  have hversion : namingOptions.apiVersion = "v" ++ nameOpening ++ "a" := by decide
  have hvisible : ∀ c ∈ "a".toList.head?, isBlank c = false := by
    intro c hc
    obtain rfl : 'a' = c := by simpa using hc
    decide
  obtain ⟨hsucceeds, -, hambiguous⟩ := bicep_determines { scope := .global } { scope := .global }
    "<policies />" "<policies />" namingOptions namingOptions
  obtain ⟨t, ht⟩ := hsucceeds.2 ⟨exists_resource_namingOptions, hquotes⟩
  obtain ⟨o', ho', hne⟩ := hambiguous t "v" "a" ht hversion hvisible
  exact ⟨t, o', ht, ho', hne⟩

end GatewayPolicy
