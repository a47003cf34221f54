import GatewayPolicy.Policy.Reading
import GatewayPolicy.Proofs.Bindings
import GatewayPolicy.Proofs.Policy.RequestReading
/-!
# Requests that are kept as raw XML

An element `send-request` is taken apart if the record has a place for each of its attributes and each
of its children; otherwise it is kept as raw XML. Whether there is a place is a matter of names and of
the attributes that are needed. What a child carries beyond them is dropped without notice, and so are
all but the last of its repetitions.
-/

namespace GatewayPolicy

open Json Xml

namespace SendRequest

variable {settings : Settings} {s : SendRequest} {p q p' : Parts} {e c : Element} {n : Node}
  {ns : List Node} {a : String × String} {name : String}

/-! ## What is beyond the written form -/

/-- The child elements that are written once at most and replace each other. -/
def singleParts : List String := ["set-url", "set-method", "set-body", "set-backend-service"]

/-- The attributes that are written on a child element, or on a header. -/
def writtenKeys (name : String) : List String :=
  if name = "set-backend-service" then ["base-url"]
  else if name = "header" then ["name", "value", "exists-action"]
  else []

/-- The element has something that is not written for any request, in a child element that the record
has a place for. -/
inductive HasSurplus (e : Element) : Prop
  /-- An attribute of a part that is not written on it. -/
  | partAttribute {c : Element} (hc : c ∈ e.childElements) (hsingle : c.name ∈ singleParts)
      {a : String × String} (ha : a ∈ c.attributes) (hkey : a.1 ∉ writtenKeys c.name)
  /-- A part that is there once more. -/
  | repetition {name : String} (hsingle : name ∈ singleParts)
      (htwice : 1 < (e.childElements.filter (·.name == name)).length)
  /-- An attribute of the headers. -/
  | headersAttribute {c : Element} (hc : c ∈ e.childElements) (hname : c.name = "set-headers")
      {a : String × String} (ha : a ∈ c.attributes)
  /-- An attribute of one header that is not written on it. -/
  | headerAttribute {c h : Element} (hc : c ∈ e.childElements) (hname : c.name = "set-headers")
      (hh : h ∈ c.childElements) (hheader : h.name = "header")
      {a : String × String} (ha : a ∈ h.attributes) (hkey : a.1 ∉ writtenKeys h.name)

/-- The element with the attributes that are written on it. -/
def restricted (c : Element) : Element :=
  { c with attributes := c.attributes.filter fun a => (writtenKeys c.name).contains a.1 }

/-- A header with the attributes that are written on it. -/
def prunedHeader : Node → Node
  | .element name attributes children =>
    if name = "header" then (restricted ⟨name, attributes, children⟩).node
    else .element name attributes children
  | n => n

/-- A child element with the attributes that are written on it and, if it holds the headers, on each of
them. -/
def prunedPart (c : Element) : Element :=
  if c.name ∈ singleParts then restricted c
  else if c.name = "set-headers" then
    { restricted c with children := c.children.map prunedHeader }
  else c

/-- A later node replaces what is read of the element. -/
def IsReplaced (c : Element) (later : List Node) : Prop :=
  c.name ∈ singleParts ∧ ∃ d ∈ later.filterMap Node.element?, d.name = c.name

instance (c : Element) (later : List Node) : Decidable (IsReplaced c later) :=
  inferInstanceAs (Decidable (_ ∧ _))

/-- The nodes without surplus: each child element is pruned, unless a later one replaces it. -/
def prunedNodes : List Node → List Node
  | [] => []
  | .element name attributes children :: later =>
    if IsReplaced ⟨name, attributes, children⟩ later then prunedNodes later
    else (prunedPart ⟨name, attributes, children⟩).node :: prunedNodes later
  | n :: later => n :: prunedNodes later

/-- The element without surplus: of repeated child elements the last one stays. -/
def pruned (e : Element) : Element := { e with children := prunedNodes e.children }

/-! ## What is beyond is dropped -/

theorem attribute?_restricted {key : String} (hkey : key ∈ writtenKeys c.name) :
    (restricted c).attribute? key = c.attribute? key := by
  have hlookup := lookup_filter (fun k => (writtenKeys c.name).contains k) c.attributes key
  rw [if_pos (by simpa using hkey)] at hlookup
  exact hlookup

theorem element?_prunedHeader (n : Node) :
    (prunedHeader n).element?.map readHeader? = n.element?.map readHeader? := by
  cases n with
  | element name attributes children =>
    rw [prunedHeader]
    by_cases hname : name = "header"
    · have hkeys : ∀ key ∈ ["name", "value", "exists-action"],
          (restricted ⟨name, attributes, children⟩).attribute? key =
            Element.attribute? ⟨name, attributes, children⟩ key := by
        intro key hkey
        refine attribute?_restricted ?_
        rw [hname]
        exact hkey
      have hread : readHeader? (restricted ⟨name, attributes, children⟩) =
          readHeader? ⟨name, attributes, children⟩ := by
        rw [readHeader?, readHeader?, hkeys "name" (by simp), hkeys "value" (by simp),
          hkeys "exists-action" (by simp)]
        rfl
      rw [if_pos hname]
      exact congrArg some hread
    · rw [if_neg hname]
  | text s => rfl
  | cdata s => rfl
  | comment s => rfl

theorem mapM_filterMap {α β γ : Type} (f : β → Option γ) (g : α → Option β) (as : List α) :
    (as.filterMap g).mapM f = (as.filterMap fun a => (g a).map f).mapM id := by
  induction as with
  | nil => rfl
  | cons a as ih =>
    cases hg : g a with
    | none => rw [List.filterMap_cons_none hg, List.filterMap_cons_none (by rw [hg]; rfl), ih]
    | some b =>
      rw [List.filterMap_cons_some hg, List.filterMap_cons_some (b := f b) (by rw [hg]; rfl),
        List.mapM_cons, List.mapM_cons, ih]
      rfl

theorem mapM_readHeader?_prunedHeader (ns : List Node) :
    ((ns.map prunedHeader).filterMap Node.element?).mapM readHeader? =
      (ns.filterMap Node.element?).mapM readHeader? := by
  have hsame : ((fun n => n.element?.map readHeader?) ∘ prunedHeader) =
      fun n : Node => n.element?.map readHeader? := funext element?_prunedHeader
  rw [mapM_filterMap readHeader?, mapM_filterMap readHeader?, List.filterMap_map, hsame]

theorem readChild?_of_setHeaders (hname : c.name = "set-headers") (p : Parts) :
    readChild? p c = (c.childElements.mapM readHeader?).map fun hs =>
      { p with request := { p.request with headers := p.request.headers ++ hs } } := by
  simp [readChild?, hname]

/-- Surplus attributes are not looked at. -/
theorem readChild?_prunedPart (p : Parts) (c : Element) :
    readChild? p (prunedPart c) = readChild? p c := by
  have htext : (restricted c).trimmedText? = c.trimmedText? := rfl
  have hname : (restricted c).name = c.name := rfl
  unfold prunedPart
  by_cases hsingle : c.name ∈ singleParts
  · rw [if_pos hsingle]
    by_cases hbackend : c.name = "set-backend-service"
    · have hbase : (restricted c).attribute? "base-url" = c.attribute? "base-url" :=
        attribute?_restricted (by simp [writtenKeys, hbackend])
      simp [readChild?, hname, hbackend, hbase]
    · have hother : c.name = "set-url" ∨ c.name = "set-method" ∨ c.name = "set-body" := by
        simpa [singleParts, hbackend] using hsingle
      rcases hother with h | h | h
      · simp [readChild?, hname, h, htext]
      · simp [readChild?, hname, h, htext]
      · simp [readChild?, hname, h, htext]
  · rw [if_neg hsingle]
    by_cases hheaders : c.name = "set-headers"
    · have hpart : ({ restricted c with children := c.children.map prunedHeader } : Element).name =
          "set-headers" := hheaders
      rw [if_pos hheaders, readChild?_of_setHeaders hpart, readChild?_of_setHeaders hheaders]
      exact congrArg (Option.map _) (mapM_readHeader?_prunedHeader c.children)
    · rw [if_neg hheaders]

/-! ## Repetitions replace each other -/

/-- The parts without what is read of elements with the name. -/
def Parts.clear (name : String) (p : Parts) : Parts :=
  if name = "set-url" then { p with setUrl := none }
  else if name = "set-method" then { p with request := { p.request with method := none } }
  else if name = "set-body" then { p with request := { p.request with body := none } }
  else { p with baseUrl := none }

theorem mem_singleParts_iff : name ∈ singleParts ↔
    name = "set-url" ∨ name = "set-method" ∨ name = "set-body" ∨ name = "set-backend-service" := by
  simp [singleParts]

/-- An element replaces what was read of elements with its name. -/
theorem readChild?_clear (hsingle : c.name ∈ singleParts) (p : Parts) :
    readChild? (p.clear c.name) c = readChild? p c := by
  rcases mem_singleParts_iff.1 hsingle with h | h | h | h
  · simp [readChild?, Parts.clear, h]
  · simp [readChild?, Parts.clear, h]
  · simp [readChild?, Parts.clear, h]
  · simp [readChild?, Parts.clear, h]

theorem clear_of_readChild? (hsingle : c.name ∈ singleParts) (h : readChild? p c = some p') :
    p'.clear c.name = p.clear c.name := by
  cases readChild?_eq_some_iff.1 h with
  | setUrl hname => simp [Parts.clear, hname]
  | setMethod hname => simp [Parts.clear, hname]
  | setBody hname => simp [Parts.clear, hname]
  | setBackendService hname => simp [Parts.clear, hname]
  | setHeaders hname => simp [singleParts, hname] at hsingle
  | setHeader hname => simp [singleParts, hname] at hsingle

/-- An element leaves alone what was read of elements with another name. -/
theorem map_clear_readChild? (hsingle : name ∈ singleParts) (hne : c.name ≠ name) (p : Parts) :
    (readChild? p c).map (Parts.clear name) = readChild? (p.clear name) c := by
  rcases mem_singleParts_iff.1 hsingle with rfl | rfl | rfl | rfl
  · simp only [readChild?, if_neg hne]
    split_ifs <;> simp [Parts.clear, Function.comp_def]
  · simp only [readChild?, if_neg hne]
    split_ifs <;> simp [Parts.clear, Function.comp_def]
  · simp only [readChild?, if_neg hne]
    split_ifs <;> simp [Parts.clear, Function.comp_def]
  · simp only [readChild?, if_neg hne]
    split_ifs <;> simp [Parts.clear, Function.comp_def]

/-- What was read of elements with a name does not matter if another one comes later. -/
theorem foldlM_readNode?_of_clear_eq (hsingle : name ∈ singleParts)
    (hlater : ∃ d ∈ ns.filterMap Node.element?, d.name = name) (hpq : p.clear name = q.clear name) :
    ns.foldlM readNode? p = ns.foldlM readNode? q := by
  induction ns generalizing p q with
  | nil => simp at hlater
  | cons n ns ih =>
    rw [List.foldlM_cons, List.foldlM_cons]
    cases hn : n.element? with
    | none =>
      rw [List.filterMap_cons_none hn] at hlater
      rw [readNode?, readNode?, hn]
      by_cases hblank : n.isBlank = true
      · rw [if_pos hblank, if_pos hblank]
        exact ih hlater hpq
      · rw [if_neg hblank, if_neg hblank]
        rfl
    | some c =>
      rw [readNode?_of_element? hn, readNode?_of_element? hn]
      by_cases hname : c.name = name
      · -- The element itself replaces what the two differ in.
        subst hname
        rw [← readChild?_clear hsingle p, hpq, readChild?_clear hsingle q]
      · rw [List.filterMap_cons_some hn] at hlater
        have hrest : ∃ d ∈ ns.filterMap Node.element?, d.name = name := by
          obtain ⟨d, hd, hdname⟩ := hlater
          rcases List.mem_cons.1 hd with rfl | hd
          · exact absurd hdname hname
          · exact ⟨d, hd, hdname⟩
        have hclear : (readChild? p c).map (Parts.clear name) =
            (readChild? q c).map (Parts.clear name) := by
          rw [map_clear_readChild? hsingle hname, hpq, map_clear_readChild? hsingle hname]
        cases hp : readChild? p c with
        | none =>
          rw [hp, Option.map_none, eq_comm, Option.map_eq_none_iff] at hclear
          rw [hclear]
        | some p' =>
          rw [hp, Option.map_some, eq_comm, Option.map_eq_some_iff] at hclear
          obtain ⟨q', hq, hq'⟩ := hclear
          rw [hq]
          exact ih hrest hq'.symm

/-- Without the surplus the same parts are read. -/
theorem foldlM_prunedNodes
    (hplaces : ∀ n ∈ ns, n.isBlank = true ∨ ∃ c, n.element? = some c ∧ HasPlace c) (p : Parts) :
    (prunedNodes ns).foldlM readNode? p = ns.foldlM readNode? p := by
  induction ns generalizing p with
  | nil => rfl
  | cons n ns ih =>
    obtain ⟨hn, hns⟩ := List.forall_mem_cons.1 hplaces
    have hkept (m : Node) (hm : readNode? p m = readNode? p n) :
        (m :: prunedNodes ns).foldlM readNode? p = (n :: ns).foldlM readNode? p := by
      rw [List.foldlM_cons, List.foldlM_cons, hm]
      cases readNode? p n with
      | none => rfl
      | some p' => exact ih hns p'
    cases n with
    | element tag attributes children =>
      rw [prunedNodes]
      by_cases hreplaced : IsReplaced ⟨tag, attributes, children⟩ ns
      · obtain ⟨c, hc, hplace⟩ := hn.resolve_left Bool.false_ne_true
        obtain rfl : Element.mk tag attributes children = c := Option.some.inj hc
        obtain ⟨p', hp'⟩ := Option.isSome_iff_exists.1 (isSome_readChild?_iff (p := p).2 hplace)
        have hread : readNode? p (.element tag attributes children) = some p' := hp'
        rw [if_pos hreplaced, ih hns, List.foldlM_cons, hread]
        exact foldlM_readNode?_of_clear_eq hreplaced.1 hreplaced.2
          (clear_of_readChild? hreplaced.1 hp').symm
      · rw [if_neg hreplaced]
        exact hkept _ (readChild?_prunedPart p ⟨tag, attributes, children⟩)
    | text s => exact hkept _ rfl
    | cdata s => exact hkept _ rfl
    | comment s => exact hkept _ rfl

theorem ofElement?_pruned (h : IsRequest e) :
    ofElement? settings (pruned e) = ofElement? settings e := by
  have hchildren (p : Parts) : (pruned e).children.foldlM readNode? p =
      e.children.foldlM readNode? p := foldlM_prunedNodes h.children p
  rw [ofElement?_eq, ofElement?_eq]
  simp only [hchildren]
  rfl

/-! ## Nothing else is dropped -/

theorem filterMap_node_cons (c : Element) (ns : List Node) :
    (c.node :: ns).filterMap Node.element? = c :: ns.filterMap Node.element? := rfl

@[simp] theorem name_prunedPart (c : Element) : (prunedPart c).name = c.name := by
  unfold prunedPart
  split_ifs <;> rfl

theorem mem_filterMap_prunedNodes (hc : c ∈ (prunedNodes ns).filterMap Node.element?) :
    ∃ d ∈ ns.filterMap Node.element?, c = prunedPart d := by
  induction ns with
  | nil => simp [prunedNodes] at hc
  | cons n ns ih =>
    cases n with
    | element tag attributes children =>
      rw [prunedNodes] at hc
      split at hc
      · obtain ⟨d, hd, heq⟩ := ih hc
        exact ⟨d, List.mem_cons_of_mem _ hd, heq⟩
      · rw [filterMap_node_cons] at hc
        rcases List.mem_cons.1 hc with rfl | hc
        · exact ⟨_, List.mem_cons_self, rfl⟩
        · obtain ⟨d, hd, heq⟩ := ih hc
          exact ⟨d, List.mem_cons_of_mem _ hd, heq⟩
    | text s => exact ih hc
    | cdata s => exact ih hc
    | comment s => exact ih hc

theorem length_filter_prunedNodes_le (hsingle : name ∈ singleParts) (ns : List Node) :
    (((prunedNodes ns).filterMap Node.element?).filter (·.name == name)).length ≤ 1 := by
  induction ns with
  | nil => simp [prunedNodes]
  | cons n ns ih =>
    cases n with
    | element tag attributes children =>
      rw [prunedNodes]
      by_cases hreplaced : IsReplaced ⟨tag, attributes, children⟩ ns
      · rw [if_pos hreplaced]
        exact ih
      · rw [if_neg hreplaced, filterMap_node_cons]
        by_cases htag : tag = name
        · subst htag
          have hnone : ((prunedNodes ns).filterMap Node.element?).filter (·.name == tag) = [] := by
            rw [List.filter_eq_nil_iff]
            intro c hc
            obtain ⟨d, hd, rfl⟩ := mem_filterMap_prunedNodes hc
            intro hname
            exact hreplaced ⟨hsingle, d, hd, by simpa using hname⟩
          rw [List.filter_cons_of_pos (by simp), hnone]
          exact Nat.le_refl 1
        · rw [List.filter_cons_of_neg (by simpa using htag)]
          exact ih
    | text s => exact ih
    | cdata s => exact ih
    | comment s => exact ih

theorem mem_writtenKeys_of_mem_restricted (ha : a ∈ (restricted c).attributes) :
    a.1 ∈ writtenKeys c.name := by
  have hkey := (List.mem_filter.1 ha).2
  simpa using hkey

theorem prunedPart_of_single (hsingle : c.name ∈ singleParts) : prunedPart c = restricted c :=
  if_pos hsingle

theorem prunedPart_of_headers (hname : c.name = "set-headers") :
    prunedPart c = { restricted c with children := c.children.map prunedHeader } := by
  rw [prunedPart, if_neg (by simp [hname, singleParts]), if_pos hname]

theorem not_hasSurplus_pruned (e : Element) : ¬ HasSurplus (pruned e) := by
  intro h
  cases h with
  | @partAttribute c hc hsingle a ha hkey =>
    obtain ⟨d, -, rfl⟩ := mem_filterMap_prunedNodes hc
    rw [name_prunedPart] at hsingle hkey
    rw [prunedPart_of_single hsingle] at ha
    exact hkey (mem_writtenKeys_of_mem_restricted ha)
  | @repetition name hsingle htwice =>
    have hle := length_filter_prunedNodes_le hsingle e.children
    exact absurd htwice (Nat.not_lt.2 hle)
  | @headersAttribute c hc hname a ha =>
    obtain ⟨d, -, rfl⟩ := mem_filterMap_prunedNodes hc
    rw [name_prunedPart] at hname
    rw [prunedPart_of_headers hname] at ha
    have hkey := mem_writtenKeys_of_mem_restricted (c := d) ha
    simp [writtenKeys, hname] at hkey
  | @headerAttribute c h hc hname hh hheader a ha hkey =>
    obtain ⟨d, -, rfl⟩ := mem_filterMap_prunedNodes hc
    rw [name_prunedPart] at hname
    rw [prunedPart_of_headers hname] at hh
    obtain ⟨m, hm, hmh⟩ := List.mem_filterMap.1 hh
    obtain ⟨n, -, rfl⟩ := List.mem_map.1 hm
    cases n with
    | element tag attributes children =>
      rw [prunedHeader] at hmh
      split at hmh
      · obtain rfl := Option.some.inj hmh
        exact hkey (mem_writtenKeys_of_mem_restricted (c := ⟨tag, attributes, children⟩) ha)
      · rename_i htag
        obtain rfl := Option.some.inj hmh
        exact htag hheader
    | text s => simp [prunedHeader, Node.element?] at hmh
    | cdata s => simp [prunedHeader, Node.element?] at hmh
    | comment s => simp [prunedHeader, Node.element?] at hmh

theorem restricted_eq_self (h : ∀ a ∈ c.attributes, a.1 ∈ writtenKeys c.name) :
    restricted c = c := by
  have hall : c.attributes.filter (fun a => (writtenKeys c.name).contains a.1) = c.attributes :=
    List.filter_eq_self.2 fun a ha => by simpa using h a ha
  rw [restricted, hall]

theorem prunedHeader_eq_self (h : ∀ d, n.element? = some d → d.name = "header" →
    ∀ a ∈ d.attributes, a.1 ∈ writtenKeys d.name) : prunedHeader n = n := by
  cases n with
  | element tag attributes children =>
    rw [prunedHeader]
    by_cases htag : tag = "header"
    · have hsame : restricted ⟨tag, attributes, children⟩ = ⟨tag, attributes, children⟩ :=
        restricted_eq_self (h _ rfl htag)
      rw [if_pos htag, hsame]
      rfl
    · rw [if_neg htag]
  | text s => rfl
  | cdata s => rfl
  | comment s => rfl

theorem prunedPart_eq_self (h : ¬ HasSurplus e) (hc : c ∈ e.childElements) : prunedPart c = c := by
  by_cases hsingle : c.name ∈ singleParts
  · rw [prunedPart_of_single hsingle]
    refine restricted_eq_self fun a ha => ?_
    by_contra hkey
    exact h (.partAttribute hc hsingle ha hkey)
  · by_cases hname : c.name = "set-headers"
    · have hattributes : restricted c = c := restricted_eq_self fun a ha =>
        absurd (.headersAttribute hc hname ha) h
      have hchildren : c.children.map prunedHeader = c.children := by
        conv => rhs; rw [← List.map_id c.children]
        refine List.map_congr_left fun n hn => prunedHeader_eq_self fun d hd hheader a ha => ?_
        by_contra hkey
        have hmem : d ∈ c.childElements := List.mem_filterMap.2 ⟨n, hn, hd⟩
        exact h (.headerAttribute hc hname hmem hheader ha hkey)
      rw [prunedPart_of_headers hname, hattributes, hchildren]
    · rw [prunedPart, if_neg hsingle, if_neg hname]

theorem prunedNodes_eq_self (hparts : ∀ c ∈ ns.filterMap Node.element?, prunedPart c = c)
    (honce : ∀ name ∈ singleParts,
      ((ns.filterMap Node.element?).filter (·.name == name)).length ≤ 1) :
    prunedNodes ns = ns := by
  induction ns with
  | nil => rfl
  | cons n ns ih =>
    cases n with
    | element tag attributes children =>
      have hcons := filterMap_node_cons ⟨tag, attributes, children⟩ ns
      rw [Element.node] at hcons
      rw [hcons] at hparts honce
      obtain ⟨hpart, hparts⟩ := List.forall_mem_cons.1 hparts
      have hkept : ¬ IsReplaced ⟨tag, attributes, children⟩ ns := by
        rintro ⟨hsingle, d, hd, hname⟩
        have hle := honce tag hsingle
        have hmem : d ∈ (ns.filterMap Node.element?).filter (·.name == tag) :=
          List.mem_filter.2 ⟨hd, by simpa using hname⟩
        have hpos := List.length_pos_of_mem hmem
        rw [List.filter_cons_of_pos (by simp), List.length_cons] at hle
        omega
      have hrest : ∀ name ∈ singleParts,
          ((ns.filterMap Node.element?).filter (·.name == name)).length ≤ 1 := by
        intro name hname
        refine le_trans ?_ (honce name hname)
        exact ((List.sublist_cons_self _ _).filter _).length_le
      rw [prunedNodes, if_neg hkept, hpart, ih hparts hrest]
      rfl
    | text s => exact congrArg _ (ih hparts honce)
    | cdata s => exact congrArg _ (ih hparts honce)
    | comment s => exact congrArg _ (ih hparts honce)

/-- An element without surplus stays as it is. -/
theorem pruned_eq_self_iff : pruned e = e ↔ ¬ HasSurplus e := by
  constructor
  · intro heq
    rw [← heq]
    exact not_hasSurplus_pruned e
  · intro h
    have hnodes : prunedNodes e.children = e.children := by
      refine prunedNodes_eq_self (fun c hc => prunedPart_eq_self h hc) fun name hsingle => ?_
      by_contra htwice
      exact h (.repetition hsingle (Nat.not_le.1 htwice))
    rw [pruned, hnodes]

/-! ## What is refused -/

theorem elementItem?_eq_rawItem_iff (hname : e.name = policyId) {id : String} {order : Int} :
    elementItem? settings id order e = some (rawItem settings id order e) ↔
      ofElement? settings e = none := by
  rw [elementItem?, shape_of_name hname]
  cases ofElement? settings e with
  | none => simp
  | some s => simp [rawItem]

/-- **What is kept as raw XML, and what is dropped.** A request is kept as raw XML if the record has no
place for one of its attributes or children, and for no other reason. So surplus attributes and
repetitions are dropped. What else stands inside of the children and is not read (elements, comments,
other text) is dropped as well, and nothing is said of it here. -/
theorem elementItem?_eq_rawItem_iff_not_isRequest (hname : e.name = policyId) (id : String)
    (order : Int) :
    (elementItem? settings id order e = some (rawItem settings id order e) ↔ ¬ IsRequest e) ∧
      (ofElement? settings e = none ↔ ¬ IsRequest e) ∧
      (IsRequest e → ofElement? settings (pruned e) = ofElement? settings e) ∧
      ¬ HasSurplus (pruned e) ∧ (pruned e = e ↔ ¬ HasSurplus e) := by
  have hnone : ofElement? settings e = none ↔ ¬ IsRequest e := ofElement?_eq_none_iff
  exact ⟨(elementItem?_eq_rawItem_iff hname).trans hnone, hnone, ofElement?_pruned,
    not_hasSurplus_pruned e, pruned_eq_self_iff⟩

/-- An element with a note on its address, two methods and a note on a header. -/
def annotatedElement : Element where
  name := policyId
  attributes := [("mode", "new")]
  children :=
    [.element "set-url" [("note", "x")] [.text "https://backend"], .element "set-method" [] [.text "GET"],
      .element "set-method" [] [.text "PUT"],
      .element "set-headers" [] [.element "header" [("name", "Key"), ("note", "y")] []]]

/-- It is taken apart, and the notes and one of the methods are gone. -/
theorem elementItem?_annotatedElement :
    annotatedElement.name = policyId ∧ HasSurplus annotatedElement ∧ IsRequest annotatedElement ∧
      elementItem? {} "inbound-0" 0 annotatedElement ≠
        some (rawItem {} "inbound-0" 0 annotatedElement) ∧
      ofElement? {} annotatedElement ≠ none ∧
      ofElement? {} (pruned annotatedElement) = ofElement? {} annotatedElement ∧
      pruned annotatedElement ≠ annotatedElement := by
  have hname : annotatedElement.name = policyId := rfl
  have hsurplus : HasSurplus annotatedElement :=
    .repetition (by simp [singleParts] : "set-method" ∈ singleParts) (Nat.lt_succ_self 1)
  have hsome : (ofElement? {} annotatedElement).isSome := by rfl
  have hrequest : IsRequest annotatedElement := isSome_ofElement?_iff.1 hsome
  obtain ⟨hraw, hnone, hpruned, -, hself⟩ :=
    @elementItem?_eq_rawItem_iff_not_isRequest {} annotatedElement hname "inbound-0" 0
  exact ⟨hname, hsurplus, hrequest, fun h => hraw.1 h hrequest, fun h => hnone.1 h hrequest,
    hpruned hrequest, fun h => hself.1 h hsurplus⟩

end SendRequest

end GatewayPolicy
