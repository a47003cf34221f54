import GatewayPolicy.Proofs.Policy.ReadItems
import GatewayPolicy.Proofs.Xml.Padding
/-!
# Named values that are read

The reader finds a named value where a text is a token as a whole. So the policies that it reads refer
to named values that the values and texts of an element refer to, and to no others, wherever layout
puts blanks.
-/

namespace GatewayPolicy

open Json Text Xml

variable {names : List String} {s s' : String} {k : Nat} {settings : Settings} {id : String}
  {order : Int} {e e' : Element} {n n' : Node} {ns ms : List Node} {fs : Fields} {v : Json}

/-! ## Tokens -/

namespace NamedValue

variable {cs m : List Char} {name : String} {style : NamedValueStyle}

theorem name?_eq_of_trim_eq (h : trim s' = trim s) : name? s' = name? s := by
  rw [← String.toList_inj, toList_trim, toList_trim] at h
  rw [name?, name?, nameChars?, nameChars?, h]

theorem name?_of_isBlankText (h : isBlankText s = true) : name? s = none := by
  have htrim : trimChars s.toList = [] := trimChars_eq_nil_iff.2 (isBlankText_iff.1 h)
  rw [name?, nameChars?, htrim]
  rfl

theorem name?_of_notMem (h : '\x7b' ∉ s.toList) : name? s = none :=
  name?_of_isToken_eq_false (isToken_of_notMem h)

/-- What is read from the token for a name is the name without blanks at its ends. -/
theorem eq_trim_of_name?_token {found : String} (h : name? (token style name) = some found) :
    found = trim name := by
  rw [name?_token_eq] at h
  split at h
  · simp at h
  · exact (Option.some.inj h).symm

/-! ## Padded tokens -/

theorem isBrace_of_mem_padLines (h : ∀ c ∈ m, isBrace c = false) :
    ∀ c ∈ padLines (spaces k) m, isBrace c = false := by
  intro c hc
  rcases mem_of_mem_padLines hc with hc | hc
  · exact h c hc
  · rw [List.eq_of_mem_replicate hc]
    rfl

theorem eq_of_padLines_eq_closing (h : padLines (spaces k) cs = closing) : cs = closing := by
  obtain ⟨rest, rfl, hrest⟩ := exists_append_of_padLines_eq (m := closing) (r := [])
    (by simp [closing, isBlank]) (h.trans (List.append_nil closing).symm)
  by_cases hne : rest = []
  · rw [hne, List.append_nil]
  · exact absurd hrest (padLines_ne_nil hne)

theorem readName?_padLines (h : readName? (padLines (spaces k) cs) = some m) :
    ∃ m', readName? cs = some m' ∧ m = padLines (spaces k) m' := by
  obtain ⟨inner, heq, hbrace, rfl, hne⟩ := readName?_eq_some_iff.1 h
  obtain ⟨hinner, hclosing⟩ := span_brace (b := '\x7d') (r := ['\x7d']) hbrace rfl
  rw [← closing, ← heq] at hinner hclosing
  cases hd : cs.dropWhile fun c => !isBrace c with
  | nil =>
    have hall : ∀ c ∈ cs, isBrace c = false := by simpa using List.dropWhile_eq_nil_iff.1 hd
    have hclose := isBrace_of_mem_padLines (k := k) hall '\x7d' (by rw [heq]; simp [closing])
    simp [isBrace] at hclose
  | cons b rest =>
    have hb : isBrace b = true := by
      have hhead := List.head?_dropWhile_not (fun c => !isBrace c) cs
      rw [hd] at hhead
      simpa using hhead
    have hline : isLineEnd b = false := by
      unfold isBrace at hb
      rw [Bool.or_eq_true, beq_iff_eq, beq_iff_eq] at hb
      rcases hb with rfl | rfl
      · decide
      · decide
    have hfront : ∀ c ∈ cs.takeWhile fun c => !isBrace c, isBrace c = false := fun c hmem => by
      simpa using List.all_eq_true.1 (List.all_takeWhile (l := cs)) c hmem
    have hcs : (cs.takeWhile fun c => !isBrace c) ++ b :: rest = cs := by
      rw [← hd, List.takeWhile_append_dropWhile]
    rw [← hcs, padLines_append_cons hline] at hinner hclosing
    obtain ⟨htake, hdrop⟩ := span_brace (r := padLines (spaces k) rest)
      (isBrace_of_mem_padLines (k := k) hfront) hb
    rw [htake] at hinner
    rw [hdrop, ← padLines_cons hline] at hclosing
    rw [← hinner, trimChars_padLines (isBlankRun_replicate k)] at hne ⊢
    refine ⟨_, readName?_eq_some_iff.2 ⟨_, ?_, hfront, rfl, ?_⟩, rfl⟩
    · rw [← eq_of_padLines_eq_closing hclosing, hcs]
    · intro hnil
      rw [hnil] at hne
      exact hne rfl

theorem nameChars?_padLines (h : nameChars? (padLines (spaces k) cs) = some m) :
    ∃ m', nameChars? cs = some m' ∧ m = padLines (spaces k) m' := by
  unfold nameChars? at h ⊢
  rw [trimChars_padLines (isBlankRun_replicate k)] at h
  generalize trimChars cs = ts at h ⊢
  split at h
  · rename_i heq
    obtain ⟨rest, rfl, rfl⟩ := exists_append_of_padLines_eq (m := ['$', '\x7b', '\x7b'])
      (by simp [isBlank]) heq
    exact readName?_padLines h
  · rename_i heq
    obtain ⟨rest, rfl, rfl⟩ := exists_append_of_padLines_eq (m := ['\x7b', '\x7b'])
      (by simp [isBlank]) heq
    exact readName?_padLines h
  · simp at h

/-- Padding pads the name in a token. -/
theorem exists_name?_of_padText {found : String} (h : name? (padText k s) = some found) :
    ∃ name, name? s = some name ∧ found = padText k name := by
  obtain ⟨m, hm, rfl⟩ := Option.map_eq_some_iff.1 h
  rw [toList_padText] at hm
  obtain ⟨m', hm', rfl⟩ := nameChars?_padLines hm
  refine ⟨.ofList m', by rw [name?, hm', Option.map_some], ?_⟩
  rw [← String.toList_inj, String.toList_ofList, toList_padText, String.toList_ofList]

/-! ## Texts that refer to names -/

/-- The text is no token, or a token for one of the names. -/
def RefersWithin (names : List String) (s : String) : Prop :=
  ∀ name, name? s = some name → name ∈ names

theorem refersWithin_of_trim_eq (h : trim s' = trim s) (hs : RefersWithin names s) :
    RefersWithin names s' := by
  intro name hname
  rw [name?_eq_of_trim_eq h] at hname
  exact hs name hname

theorem refersWithin_of_name?_eq_none (h : name? s = none) : RefersWithin names s := by
  intro name hname
  rw [h] at hname
  simp at hname

/-- A text refers to the same names wherever it stands, if no name goes over the end of a line. -/
theorem RefersWithin.padText (hs : RefersWithin names s) (hnames : ∀ name ∈ names, '\n' ∉ name.toList)
    (k : Nat) : RefersWithin names (padText k s) := by
  intro found hfound
  obtain ⟨name, hname, rfl⟩ := exists_name?_of_padText hfound
  have hmem := hs name hname
  rwa [padText_of_notMem (hnames name hmem)]

end NamedValue

/-! ## Elements that refer to names -/

open NamedValue

/-- The values and texts in the node are no tokens, or tokens for some of the names, and its elements
have one visible text each at most. -/
inductive Xml.Node.HoldsWithin (names : List String) : Node → Prop where
  | element {name : String} {attributes : Attributes} {children : List Node}
    (hvalues : ∀ a ∈ attributes, RefersWithin names a.2)
    (hone : (visibleCharacters children).length ≤ 1)
    (hchildren : ∀ n ∈ children, n.HoldsWithin names) :
    HoldsWithin names (.element name attributes children)
  | text {s : String} (h : RefersWithin names s) : HoldsWithin names (.text s)

namespace Xml.Node

theorem holdsWithin_of_isBlank (h : n.isBlank = true) : n.HoldsWithin names := by
  cases n with
  | text s => exact .text (refersWithin_of_name?_eq_none (name?_of_isBlankText h))
  | _ => simp [Node.isBlank] at h

/-- Blanks that layout may add refer to nothing. -/
theorem HoldsWithin.of_tidy_eq (h : n.HoldsWithin names) (htidy : n'.tidy = n.tidy) :
    n'.HoldsWithin names := by
  induction h generalizing n' with
  | @element name attributes children hvalues hone _ ih =>
    obtain ⟨e, rfl, heq⟩ := exists_element_of_tidy_eq (e := ⟨name, attributes, children⟩) htidy
    have hnodes := tidyNodes_children_of_tidy_eq heq
    have hattributes := attributes_eq_of_tidy_eq heq
    rw [Element.node]
    refine .element (hattributes ▸ hvalues) ?_ fun m hm => ?_
    · rwa [visibleCharacters, hnodes]
    · cases hb : m.isBlank with
      | true => exact holdsWithin_of_isBlank hb
      | false =>
        obtain ⟨m', hm', heq'⟩ := exists_mem_of_tidyNodes_eq hnodes hm hb
        exact ih m' hm' heq'
  | @text s h =>
    cases n' with
    | text s' => exact .text (refersWithin_of_trim_eq (Node.text.inj htidy) h)
    | _ => simp [Node.tidy] at htidy

theorem visibleCharacters_paddedNodes (k : Nat) (ns : List Node) :
    (visibleCharacters (paddedNodes k ns)).length = (visibleCharacters ns).length := by
  have htidy (ns : List Node) : visibleCharacters ns =
      ((visibleNodes ns).filter Node.isCharacters).map Node.tidy := by
    rw [visibleCharacters, tidyNodes_eq, List.filter_map]
    simp only [Function.comp_def, isCharacters_tidy, visibleNodes]
  rw [htidy, htidy, visibleNodes_paddedNodes, List.filter_map]
  simp only [List.length_map, Function.comp_def, isCharacters_padded]

theorem HoldsWithin.padded (h : n.HoldsWithin names)
    (hnames : ∀ name ∈ names, '\n' ∉ name.toList) (k : Nat) : (n.padded k).HoldsWithin names := by
  induction h with
  | element hvalues hone _ ih =>
    refine .element (fun a ha => ?_) ?_ fun m hm => ?_
    · obtain ⟨b, hb, rfl⟩ := List.mem_map.1 ha
      exact (hvalues b hb).padText hnames k
    · rwa [visibleCharacters_paddedNodes]
    · rw [paddedNodes_eq] at hm
      obtain ⟨m', hm', rfl⟩ := List.mem_map.1 hm
      exact ih m' hm'
  | text h => exact .text (h.padText hnames k)

theorem HoldsWithin.attributes (h : e.node.HoldsWithin names) :
    ∀ a ∈ e.attributes, RefersWithin names a.2 := by
  rw [Element.node] at h
  cases h with
  | element hvalues _ _ => exact hvalues

theorem HoldsWithin.attribute? (h : e.node.HoldsWithin names) {key : String}
    (hkey : e.attribute? key = some s) : RefersWithin names s := by
  rw [Element.attribute?] at hkey
  exact h.attributes (key, s) (mem_of_lookup hkey)

theorem HoldsWithin.trimmedText? (h : e.node.HoldsWithin names) (ht : e.trimmedText? = some s) :
    RefersWithin names s := by
  rw [Element.node] at h
  cases h with
  | element _ hone hchildren =>
    obtain ⟨htrim, -⟩ := trimmedText?_eq_some_iff.1 ht
    rcases hvisible : visibleCharacters e.children with _ | ⟨m, _ | ⟨m', rest⟩⟩
    · rw [trimmedText?_of_visibleCharacters_nil hvisible] at ht
      simp at ht
    · have hm : m ∈ visibleCharacters e.children := by simp [hvisible]
      obtain ⟨hmem, hcharacters⟩ := List.mem_filter.1 hm
      rw [tidyNodes_eq] at hmem
      obtain ⟨m', hm', rfl⟩ := List.mem_map.1 hmem
      have hholds := hchildren m' (List.mem_filter.1 hm').1
      rw [trim_text_of_visibleCharacters hvisible] at htrim
      cases hholds with
      | element => simp [Node.tidy, Node.isCharacters] at hcharacters
      | @text t htext =>
        refine refersWithin_of_trim_eq ?_ htext
        rw [← htrim, Node.tidy, Node.characters, trim_trim, trim_trim]
    · rw [hvisible] at hone
      simp at hone

theorem HoldsWithin.childElements (h : e.node.HoldsWithin names) :
    ∀ c ∈ e.childElements, c.node.HoldsWithin names := by
  intro c hc
  obtain ⟨n, hn, heq⟩ := List.mem_filterMap.1 hc
  rw [Element.node] at h
  cases h with
  | element _ _ hchildren =>
    have hnode : n = c.node := by
      cases n with
      | element name attributes children =>
        rw [← Option.some.inj heq]
        rfl
      | _ => simp [Node.element?] at heq
    exact hnode ▸ hchildren n hn

end Xml.Node

/-! ## Configurations that refer to names -/

theorem mem_namedValuesOfItems {name : String} {vs : List Json} :
    name ∈ Json.namedValuesOfItems vs ↔ ∃ v ∈ vs, name ∈ v.namedValues := by
  induction vs with
  | nil => simp [Json.namedValuesOfItems]
  | cons v vs ih => simp [Json.namedValuesOfItems, ih]

theorem mem_namedValuesOfFields {name : String} :
    name ∈ Json.namedValuesOfFields fs ↔ ∃ f ∈ fs, name ∈ f.2.namedValues := by
  induction fs with
  | nil => simp [Json.namedValuesOfFields]
  | cons f fs ih =>
    obtain ⟨key, v⟩ := f
    simp [Json.namedValuesOfFields, ih]

/-- The value refers to no names but the given ones. -/
def Json.RefersWithin (names : List String) (v : Json) : Prop := ∀ name ∈ v.namedValues, name ∈ names

/-- The fields refer to no names but the given ones. -/
def Json.Fields.ReferWithin (names : List String) (fs : Fields) : Prop :=
  ∀ f ∈ fs, f.2.RefersWithin names

theorem refersWithin_text : (Json.text s).RefersWithin names ↔ NamedValue.RefersWithin names s := by
  simp [Json.RefersWithin, Json.namedValues, NamedValue.RefersWithin]

theorem refersWithin_coerce (enabled : Bool) (h : NamedValue.RefersWithin names s) :
    (coerce enabled s).RefersWithin names := by
  rcases coerce_cases enabled s with heq | ⟨b, heq⟩ | ⟨n, heq⟩
  · rw [heq]
    exact refersWithin_text.2 h
  · simp [heq, Json.RefersWithin, Json.namedValues]
  · simp [heq, Json.RefersWithin, Json.namedValues]

namespace Json.Fields

variable {gs : Fields} {key : String}

theorem ReferWithin.append (hfs : fs.ReferWithin names) (hgs : gs.ReferWithin names) :
    ReferWithin names (fs ++ gs) := List.forall_mem_append.2 ⟨hfs, hgs⟩

theorem referWithin_field? {o : Option Json} (h : ∀ v, o = some v → v.RefersWithin names) :
    ReferWithin names (field? key o) := by
  cases o with
  | none => exact fun f hf => absurd hf List.not_mem_nil
  | some v => exact List.forall_mem_singleton.2 (h v rfl)

theorem ReferWithin.foldl_set (hfs : fs.ReferWithin names) (hgs : gs.ReferWithin names) :
    ReferWithin names (gs.foldl (fun acc (k, v) => Fields.set acc k v) fs) := by
  induction gs generalizing fs with
  | nil => exact hfs
  | cons g gs ih =>
    obtain ⟨hg, hgs⟩ := List.forall_mem_cons.1 hgs
    exact ih (forall_mem_set hfs hg g.1) hgs

end Json.Fields

/-! ## Simple elements -/

theorem referWithin_simpleConfiguration (settings : Settings) (h : e.node.HoldsWithin names) :
    (simpleConfiguration settings e).ReferWithin names := by
  have hattributes : (parameterAttributes settings e.attributes).ReferWithin names := by
    rw [parameterAttributes, Fields.merge]
    refine Fields.ReferWithin.foldl_set (fun f hf => absurd hf List.not_mem_nil) fun f hf => ?_
    obtain ⟨a, ha, rfl⟩ := List.mem_map.1 hf
    exact refersWithin_coerce _ (h.attributes a (List.mem_filter.1 ha).1)
  have hleaves : (leafFields e).ReferWithin names := by
    intro f hf
    obtain ⟨c, hc, heq⟩ := List.mem_filterMap.1 hf
    obtain ⟨t, ht, rfl⟩ := Option.map_eq_some_iff.1 heq
    exact refersWithin_text.2 ((h.childElements c hc).trimmedText? ht)
  unfold simpleConfiguration
  dsimp only
  split
  · rename_i t ht
    exact Fields.forall_mem_set (hattributes.foldl_set hleaves)
      (refersWithin_text.2 (h.trimmedText? ht)) _
  · exact hattributes.foldl_set hleaves

theorem namedValues_simpleCatalogItem (settings : Settings) (id : String) (order : Int)
    (h : e.node.HoldsWithin names) :
    ∀ name ∈ (simpleCatalogItem settings id order e).namedValues, name ∈ names := by
  intro name hname
  rw [CatalogItem.namedValues, attributes_simpleCatalogItem, configuration_simpleCatalogItem,
    List.mem_append, mem_namedValuesOfFields] at hname
  rcases hname with hname | ⟨f, hf, hname⟩
  · obtain ⟨⟨key, value⟩, ha, heq⟩ := List.mem_filterMap.1 hname
    obtain ⟨found, t, rfl, hfound, hmem⟩ := exists_name?_of_mem_referenceAttributes ha
    obtain rfl := Option.some.inj heq
    exact h.attributes _ hmem found hfound
  · exact referWithin_simpleConfiguration settings h f hf name hname

/-! ## The policy `send-request` -/

namespace SendRequest

variable {s s' : SendRequest} {p p' : Parts} {x : SendRequestHeader}

/-- The header refers to no names but the given ones. -/
structure HeaderRefersWithin (names : List String) (x : SendRequestHeader) : Prop where
  name : NamedValue.RefersWithin names x.name
  value : x.value.RefersWithin names
  existsAction : ∀ t, x.existsAction = some t → NamedValue.RefersWithin names t

/-- The record refers to no names but the given ones. -/
structure RefersWithin (names : List String) (s : SendRequest) : Prop where
  mode : ∀ t, s.mode = some t → NamedValue.RefersWithin names t
  url : ∀ t, s.url = some t → NamedValue.RefersWithin names t
  setUrl : ∀ t, s.setUrl = some (.target t) → NamedValue.RefersWithin names t
  method : ∀ t, s.method = some t → NamedValue.RefersWithin names t
  headers : ∀ x ∈ s.headers, HeaderRefersWithin names x
  body : ∀ t, s.body = some t → NamedValue.RefersWithin names t
  timeout : ∀ v, s.timeout = some v → v.RefersWithin names
  responseVariableName : ∀ t, s.responseVariableName = some t → NamedValue.RefersWithin names t

theorem refersWithin_empty : RefersWithin names {} := by
  constructor <;> simp

theorem forall_eq_some {P : String → Prop} {t : String} (h : P t) :
    ∀ t', some t = some t' → P t' := by
  rintro _ ⟨⟩
  exact h

theorem RefersWithin.of_readAttribute? {a : String × String} (hs : RefersWithin names s)
    (ha : NamedValue.RefersWithin names a.2) (h : readAttribute? settings s a = some s') :
    RefersWithin names s' := by
  cases readAttribute?_eq_some_iff.1 h with
  | mode => exact { hs with mode := forall_eq_some ha }
  | responseVariableName => exact { hs with responseVariableName := forall_eq_some ha }
  | timeout =>
    refine { hs with timeout := ?_ }
    rintro _ ⟨⟩
    exact refersWithin_coerce _ ha
  | ignoreErrors => exact { hs with }

theorem refersWithin_headerValue {t : String} (h : NamedValue.RefersWithin names t) :
    (headerValue t).RefersWithin names := by
  unfold headerValue
  split
  · rename_i name hname
    have htoken := NamedValue.isTokenName_of_name? hname
    have hnone : NamedValue.name? name = none := name?_of_notMem fun hm => by
      have hbrace := htoken.no_brace _ hm
      simp [isBrace] at hbrace
    intro found hfound
    have heq : found = name := by
      simpa [Json.namedValues, Json.namedValuesOfFields, referenceName?, Fields.get?, hnone]
        using hfound
    exact heq ▸ h name hname
  · exact refersWithin_text.2 h

theorem refersWithin_headerValue? {o : Option String}
    (h : ∀ t, o = some t → NamedValue.RefersWithin names t) :
    (headerValue? o).RefersWithin names := by
  cases o with
  | none => simp [headerValue?, Json.RefersWithin, Json.namedValues]
  | some t => exact refersWithin_headerValue (h t rfl)

theorem headerRefersWithin_of_readHeader? (h : e.node.HoldsWithin names)
    (hx : readHeader? e = some x) : HeaderRefersWithin names x := by
  unfold readHeader? at hx
  split at hx
  · obtain ⟨name, hname, rfl⟩ := Option.map_eq_some_iff.1 hx
    exact ⟨h.attribute? hname, refersWithin_headerValue? fun t ht => h.attribute? ht,
      fun t ht => h.attribute? ht⟩
  · simp at hx

/-- What has been read refers to no names but the given ones. -/
structure PartsReferWithin (names : List String) (p : Parts) : Prop where
  request : RefersWithin names p.request
  setUrl : ∀ t, p.setUrl = some t → NamedValue.RefersWithin names t
  baseUrl : ∀ t, p.baseUrl = some t → NamedValue.RefersWithin names t

/-- A child element adds what it refers to. A `set-header` is left out: it joins texts. -/
theorem PartsReferWithin.of_readChild? (hp : PartsReferWithin names p)
    (he : e.node.HoldsWithin names) (hname : e.name ≠ "set-header") (h : readChild? p e = some p') :
    PartsReferWithin names p' := by
  have htext : ∀ t, e.trimmedText? = some t → NamedValue.RefersWithin names t :=
    fun t ht => he.trimmedText? ht
  obtain ⟨hrequest, hsetUrl, hbaseUrl⟩ := hp
  cases readChild?_eq_some_iff.1 h with
  | setUrl =>
    refine ⟨hrequest, fun t ht => ?_, hbaseUrl⟩
    obtain rfl := Option.some.inj ht
    generalize e.trimmedText? = text at htext ⊢
    cases text with
    | none => exact refersWithin_of_name?_eq_none (name?_of_isBlankText (by decide))
    | some t => exact htext t rfl
  | setMethod =>
    generalize e.trimmedText? = text at htext ⊢
    exact ⟨{ hrequest with method := htext }, hsetUrl, hbaseUrl⟩
  | setBody =>
    generalize e.trimmedText? = text at htext ⊢
    exact ⟨{ hrequest with body := htext }, hsetUrl, hbaseUrl⟩
  | setBackendService _ hbase =>
    exact ⟨hrequest, hsetUrl, forall_eq_some (he.attribute? hbase)⟩
  | setHeaders _ hread =>
    refine ⟨{ hrequest with headers := fun x hx => ?_ }, hsetUrl, hbaseUrl⟩
    rcases List.mem_append.1 hx with hx | hx
    · exact hrequest.headers x hx
    · obtain ⟨c, hc, hcx⟩ := exists_of_mem_mapM hread x hx
      exact headerRefersWithin_of_readHeader? (he.childElements c hc) hcx
  | setHeader heq => exact absurd heq hname

theorem PartsReferWithin.complete (hp : PartsReferWithin names p) :
    RefersWithin names p.complete := by
  obtain ⟨hrequest, hsetUrl, hbaseUrl⟩ := hp
  unfold Parts.complete
  split
  · rename_i t ht
    split
    · rename_i base hbase
      refine { hrequest with setUrl := ?_, url := forall_eq_some (hbaseUrl base hbase) }
      rintro _ ⟨⟩
      exact hsetUrl t ht
    · exact { hrequest with setUrl := by simp, url := forall_eq_some (hsetUrl t ht) }
  · exact { hrequest with url := hbaseUrl }

theorem refersWithin_of_ofElement? (he : e.node.HoldsWithin names)
    (hnames : ∀ c ∈ e.childElements, c.name ≠ "set-header") (h : ofElement? settings e = some s) :
    RefersWithin names s := by
  rw [ofElement?_eq] at h
  obtain ⟨request, hrequest, h⟩ := Option.bind_eq_some_iff.1 h
  obtain ⟨p, hp, rfl⟩ := Option.map_eq_some_iff.1 h
  have hread : RefersWithin names request := of_foldlM_eq_some
    (fun a ha _ _ hs => hs.of_readAttribute? (he.attributes a ha)) refersWithin_empty hrequest
  have hparts : PartsReferWithin names { request } := ⟨hread, by simp, by simp⟩
  refine (of_foldlM_eq_some (fun n hn q q' hq hstep => ?_) hparts hp).complete
  unfold readNode? at hstep
  split at hstep
  · rwa [← Option.some.inj hstep]
  · obtain ⟨c, hc, hchild⟩ := Option.bind_eq_some_iff.1 hstep
    have hmem : c ∈ e.childElements := List.mem_filterMap.2 ⟨n, hn, hc⟩
    exact hq.of_readChild? (he.childElements c hmem) (hnames c hmem) hchild

/-! ## Its configuration -/

theorem refersWithin_headerToJson (h : HeaderRefersWithin names x) :
    (headerToJson x).RefersWithin names := by
  obtain ⟨name, value, existsAction⟩ := x
  have hnone : referenceName? ([("name", .text name), ("value", value)] ++
      field? "existsAction" (existsAction.map .text)) = none := by
    cases existsAction <;> simp [referenceName?, field?, Fields.get?, Fields.contains]
  have hfields : Fields.ReferWithin names ([("name", .text name), ("value", value)] ++
      field? "existsAction" (existsAction.map .text)) := by
    refine Fields.ReferWithin.append ?_ (Fields.referWithin_field? fun v hv => ?_)
    · exact List.forall_mem_cons.2 ⟨refersWithin_text.2 h.name, List.forall_mem_singleton.2 h.value⟩
    · obtain ⟨t, ht, rfl⟩ := Option.map_eq_some_iff.1 hv
      exact refersWithin_text.2 (h.existsAction t ht)
  intro found hfound
  rw [headerToJson, Json.namedValues, hnone, Option.toList_none, List.nil_append,
    mem_namedValuesOfFields] at hfound
  obtain ⟨f, hf, hfound⟩ := hfound
  exact hfields f hf found hfound

theorem RefersWithin.toConfiguration (h : RefersWithin names s) :
    s.toConfiguration.ReferWithin names := by
  have htext (key : String) {o : Option String}
      (ho : ∀ t, o = some t → NamedValue.RefersWithin names t) :
      Fields.ReferWithin names (field? key (o.map .text)) := by
    refine Fields.referWithin_field? fun v hv => ?_
    obtain ⟨t, ht, rfl⟩ := Option.map_eq_some_iff.1 hv
    exact refersWithin_text.2 (ho t ht)
  have hsetUrl : Fields.ReferWithin names (field? "setUrl" (s.setUrl.map setUrlToJson)) := by
    refine Fields.referWithin_field? fun v hv => ?_
    obtain ⟨u, hu, rfl⟩ := Option.map_eq_some_iff.1 hv
    cases u with
    | flag b => simp [setUrlToJson, Json.RefersWithin, Json.namedValues]
    | target t => exact refersWithin_text.2 (h.setUrl t hu)
  have hheaders : Fields.ReferWithin names (field? "headers"
      (if s.headers.isEmpty then none else some (.array (s.headers.map headerToJson)))) := by
    refine Fields.referWithin_field? fun v hv found hfound => ?_
    split at hv
    · simp at hv
    · obtain rfl := Option.some.inj hv
      rw [Json.namedValues, mem_namedValuesOfItems] at hfound
      obtain ⟨v, hv, hfound⟩ := hfound
      obtain ⟨x, hx, rfl⟩ := List.mem_map.1 hv
      exact refersWithin_headerToJson (h.headers x hx) found hfound
  have hignore : Fields.ReferWithin names (field? "ignoreErrors" (s.ignoreErrors.map .bool)) := by
    refine Fields.referWithin_field? fun v hv => ?_
    obtain ⟨b, -, rfl⟩ := Option.map_eq_some_iff.1 hv
    simp [Json.RefersWithin, Json.namedValues]
  unfold SendRequest.toConfiguration
  exact ((((((((htext "mode" h.mode).append (htext "url" h.url)).append hsetUrl).append
    (htext "method" h.method)).append hheaders).append (htext "body" h.body)).append
      (Fields.referWithin_field? h.timeout)).append hignore).append
        (htext "responseVariableName" h.responseVariableName)

end SendRequest

/-! ## Every element -/

/-- Policies that are read from an element refer to names that it refers to. -/
theorem namedValues_of_elementItem? {i : CatalogItem} (h : e.node.HoldsWithin names)
    (hnames : ∀ c ∈ e.childElements, c.name ≠ "set-header")
    (hi : elementItem? settings id order e = some (.catalog i)) :
    ∀ name ∈ i.namedValues, name ∈ names := by
  unfold elementItem? at hi
  split at hi
  · simp at hi
  · simp at hi
  · split at hi
    · rename_i s hs
      obtain rfl := Item.catalog.inj (Option.some.inj hi)
      have hconfiguration := (SendRequest.refersWithin_of_ofElement? h hnames hs).toConfiguration
      intro name hname
      obtain ⟨f, hf, hname⟩ := mem_namedValuesOfFields.1 hname
      exact hconfiguration f hf name hname
    · simp [rawItem] at hi
  · rw [simpleItem_eq] at hi
    obtain rfl := Item.catalog.inj (Option.some.inj hi)
    exact namedValues_simpleCatalogItem settings id order h
  · simp [rawItem] at hi

end GatewayPolicy
