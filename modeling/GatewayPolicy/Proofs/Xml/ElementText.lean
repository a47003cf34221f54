import GatewayPolicy.Proofs.Xml.Tidy
/-!
# The text of an element

The trimmed text of an element is put together from all its character data. An element with at most
one visible piece of character data has a text that its tidy form determines.
-/

namespace GatewayPolicy.Xml

open Text

variable {e e' : Element} {n : Node} {ns : List Node} {t : String}

/-- The pieces of character data that are visible, in tidy form. -/
def visibleCharacters (ns : List Node) : List Node := (tidyNodes ns).filter Node.isCharacters

theorem characters_of_isCharacters (h : n.isCharacters = false) : n.characters = "" := by
  cases n with
  | text s => simp [Node.isCharacters] at h
  | cdata s => simp [Node.isCharacters] at h
  | _ => rfl

theorem trimChars_characters_tidy (n : Node) :
    trimChars n.tidy.characters.toList = trimChars n.characters.toList := by
  cases n with
  | text s =>
    show trimChars (trim s).toList = trimChars s.toList
    rw [toList_trim, trimChars_trimChars]
  | _ => rfl

theorem isBlankRun_characters (h : visibleCharacters ns = []) :
    IsBlankRun (ns.flatMap (·.characters.toList)) := by
  unfold visibleCharacters at h
  induction ns with
  | nil => simp
  | cons n ns ih =>
    rw [List.flatMap_cons, isBlankRun_append]
    by_cases hb : n.isBlank = true
    · rw [tidyNodes_cons_of_isBlank hb] at h
      refine ⟨?_, ih h⟩
      cases n with
      | text s => exact isBlankText_iff.1 hb
      | _ => simp [Node.isBlank] at hb
    · rw [Bool.not_eq_true] at hb
      rw [tidyNodes_cons hb] at h
      by_cases hc : n.isCharacters = true
      · rw [List.filter_cons_of_pos (by rw [isCharacters_tidy, hc])] at h
        simp at h
      · rw [Bool.not_eq_true] at hc
        rw [List.filter_cons_of_neg (by simp [hc])] at h
        rw [characters_of_isCharacters hc]
        exact ⟨isBlankRun_nil, ih h⟩

/-- One visible piece of character data is the text, up to blanks around it. -/
theorem trimChars_characters (h : visibleCharacters ns = [n]) :
    trimChars (ns.flatMap (·.characters.toList)) = trimChars n.characters.toList := by
  unfold visibleCharacters at h
  induction ns with
  | nil => simp at h
  | cons m ns ih =>
    rw [List.flatMap_cons]
    by_cases hb : m.isBlank = true
    · rw [tidyNodes_cons_of_isBlank hb] at h
      have hm : IsBlankRun m.characters.toList := by
        cases m with
        | text s => exact isBlankText_iff.1 hb
        | _ => simp [Node.isBlank] at hb
      rw [← ih h]
      simpa using trimChars_surround hm isBlankRun_nil (ns.flatMap (·.characters.toList))
    · rw [Bool.not_eq_true] at hb
      rw [tidyNodes_cons hb] at h
      by_cases hc : m.isCharacters = true
      · rw [List.filter_cons_of_pos (by rw [isCharacters_tidy, hc])] at h
        obtain ⟨hm, hns⟩ := List.cons.inj h
        have hblank := isBlankRun_characters hns
        rw [← hm, trimChars_characters_tidy]
        simpa using trimChars_surround isBlankRun_nil hblank m.characters.toList
      · rw [Bool.not_eq_true] at hc
        rw [List.filter_cons_of_neg (by simp [hc])] at h
        rw [characters_of_isCharacters hc]
        exact ih h

theorem toList_text (e : Element) :
    e.text.toList = e.children.flatMap (·.characters.toList) := by
  rw [Element.text, String.toList_join, List.flatMap_map]

theorem trimmedText?_eq_some_iff :
    e.trimmedText? = some t ↔ trim e.text = t ∧ t ≠ "" := by
  unfold Element.trimmedText?
  dsimp only
  by_cases h : (trim e.text).isEmpty = true
  · rw [if_pos h]
    have h' : trim e.text = "" := by simpa using h
    constructor
    · intro hn
      simp at hn
    · rintro ⟨rfl, hne⟩
      exact absurd h' hne
  · rw [if_neg h]
    have h' : trim e.text ≠ "" := by simpa using h
    constructor
    · intro hs
      obtain rfl := Option.some.inj hs
      exact ⟨rfl, h'⟩
    · rintro ⟨rfl, -⟩
      rfl

theorem trimmedText?_eq_none_iff : e.trimmedText? = none ↔ trim e.text = "" := by
  unfold Element.trimmedText?
  dsimp only
  by_cases h : (trim e.text).isEmpty = true
  · rw [if_pos h]
    simpa using h
  · rw [if_neg h]
    simpa using h

theorem trimmedText?_congr (h : trim e.text = trim e'.text) :
    e.trimmedText? = e'.trimmedText? := by
  unfold Element.trimmedText?
  rw [h]

/-- A text that an element can give: it is trimmed and not empty. -/
def IsElementText (t : String) : Prop := trim t = t ∧ t ≠ ""

theorem trim_of_trimmedText? (h : e.trimmedText? = some t) : IsElementText t := by
  obtain ⟨rfl, hne⟩ := trimmedText?_eq_some_iff.1 h
  exact ⟨trim_trim _, hne⟩

theorem trimmedText?_of_visibleCharacters_nil (h : visibleCharacters e.children = []) :
    e.trimmedText? = none := by
  rw [trimmedText?_eq_none_iff, trim_eq_empty_iff, isBlankText_iff, toList_text]
  exact isBlankRun_characters h

/-- The text of an element with one visible piece of character data. -/
theorem trim_text_of_visibleCharacters (h : visibleCharacters e.children = [n]) :
    trim e.text = trim n.characters := by
  rw [trim, trim, toList_text, trimChars_characters h]

theorem visibleCharacters_eq_nil (h : ∀ n ∈ ns, n.isCharacters = false) :
    visibleCharacters ns = [] := by
  rw [visibleCharacters, tidyNodes_eq, List.filter_eq_nil_iff]
  intro m hm
  obtain ⟨n, hn, rfl⟩ := List.mem_map.1 hm
  rw [isCharacters_tidy, h n (List.mem_filter.1 hn).1]
  exact Bool.false_ne_true

theorem length_visibleCharacters_le (ns : List Node) :
    (visibleCharacters ns).length ≤ ns.length := by
  rw [visibleCharacters, tidyNodes_eq]
  have h₁ := List.length_filter_le Node.isCharacters ((ns.filter (!·.isBlank)).map Node.tidy)
  have h₂ := List.length_filter_le (!Node.isBlank ·) ns
  rw [List.length_map] at h₁
  omega

theorem trimmedText?_of_children_text {s : String} (hc : e.children = [.text s]) :
    e.trimmedText? = (some (trim s)).filter (!·.isEmpty) := by
  have htext : e.text = s := by
    rw [Element.text, hc]
    simp [Node.characters]
  unfold Element.trimmedText?
  rw [htext]
  cases h : (trim s).isEmpty <;> simp [h, Option.filter]

theorem trimmedText?_of_children_nil (hc : e.children = []) : e.trimmedText? = none :=
  trimmedText?_of_visibleCharacters_nil (by rw [hc]; rfl)

/-- The text of an element that holds at most one text. -/
theorem trimmedText?_of_texts {o : Option String} (hc : e.children = (o.map Node.text).toList)
    (ho : ∀ t, o = some t → IsElementText t) : e.trimmedText? = o := by
  cases o with
  | none => exact trimmedText?_of_children_nil hc
  | some t =>
    obtain ⟨htrim, hne⟩ := ho t rfl
    rw [trimmedText?_of_children_text hc, htrim, Option.filter_some, if_pos (by simpa using hne)]

/-- Elements with one tidy form and at most one visible piece of character data have one trimmed
text. -/
theorem trimmedText?_eq_of_tidy_eq (h : e'.tidy = e.tidy)
    (hone : (visibleCharacters e.children).length ≤ 1) : e'.trimmedText? = e.trimmedText? := by
  have hchildren := tidyNodes_children_of_tidy_eq h
  have hvisible : visibleCharacters e'.children = visibleCharacters e.children := by
    rw [visibleCharacters, hchildren, visibleCharacters]
  match hv : visibleCharacters e.children with
  | [] =>
    rw [trimmedText?_of_visibleCharacters_nil hv,
      trimmedText?_of_visibleCharacters_nil (hvisible.trans hv)]
  | [n] =>
    refine trimmedText?_congr ?_
    rw [trim_text_of_visibleCharacters hv, trim_text_of_visibleCharacters (hvisible.trans hv)]
  | n :: m :: rest =>
    rw [hv] at hone
    simp at hone

end GatewayPolicy.Xml
