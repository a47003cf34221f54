import GatewayPolicy.Policy.Shape
import GatewayPolicy.Proofs.Text.Trimming
import GatewayPolicy.Xml.Layout
/-!
# Tidy trees

Layout puts blanks between nodes and around texts, so a tree that is read back differs from the tree
that was written in its blank texts and in the blanks at the ends of its texts. A tree without these
is called tidy. Two trees with one tidy form are written alike and have one shape.
-/

namespace GatewayPolicy.Xml

open Text

mutual

/-- The node without blanks that layout may add. -/
def Node.tidy : Node → Node
  | .element name attributes children => .element name attributes (tidyNodes children)
  | .text s => .text (trim s)
  | .cdata s => .cdata s
  | .comment s => .comment s

/-- The nodes without blanks that layout may add: blank texts are dropped. -/
def tidyNodes : List Node → List Node
  | [] => []
  | n :: ns => if n.isBlank then tidyNodes ns else n.tidy :: tidyNodes ns

end

/-- The element without blanks that layout may add. -/
def Element.tidy (e : Element) : Element := ⟨e.name, e.attributes, tidyNodes e.children⟩

variable {n : Node} {ns ms : List Node} {e e' : Element}

theorem name_eq_of_tidy_eq (h : e'.tidy = e.tidy) : e'.name = e.name := by
  have := congrArg Element.name h
  exact this

theorem attributes_eq_of_tidy_eq (h : e'.tidy = e.tidy) : e'.attributes = e.attributes := by
  have := congrArg Element.attributes h
  exact this

theorem tidyNodes_children_of_tidy_eq (h : e'.tidy = e.tidy) :
    tidyNodes e'.children = tidyNodes e.children := by
  have := congrArg Element.children h
  exact this

/-! ## Lists of nodes -/

@[simp] theorem tidyNodes_nil : tidyNodes [] = [] := by
  rw [tidyNodes]

theorem tidyNodes_cons_of_isBlank (h : n.isBlank = true) (ns : List Node) :
    tidyNodes (n :: ns) = tidyNodes ns := by
  rw [tidyNodes, if_pos h]

theorem tidyNodes_cons (h : n.isBlank = false) (ns : List Node) :
    tidyNodes (n :: ns) = n.tidy :: tidyNodes ns := by
  rw [tidyNodes, if_neg (by simp [h])]

/-- The tidy form of a list of nodes, without recursion over the list. -/
theorem tidyNodes_eq (ns : List Node) :
    tidyNodes ns = (ns.filter (!·.isBlank)).map Node.tidy := by
  induction ns with
  | nil => simp
  | cons n ns ih =>
    by_cases h : n.isBlank = true
    · rw [tidyNodes_cons_of_isBlank h, ih, List.filter_cons_of_neg (by simp [h])]
    · rw [Bool.not_eq_true] at h
      rw [tidyNodes_cons h, ih, List.filter_cons_of_pos (by simp [h]), List.map_cons]

/-- A visible node is found among nodes of the same tidy form. -/
theorem exists_mem_of_tidyNodes_eq (h : tidyNodes ms = tidyNodes ns) (hm : n ∈ ms)
    (hvisible : n.isBlank = false) : ∃ n' ∈ ns, n.tidy = n'.tidy := by
  have hmem : n.tidy ∈ tidyNodes ns := by
    rw [← h, tidyNodes_eq]
    exact List.mem_map_of_mem (List.mem_filter.2 ⟨hm, by simp [hvisible]⟩)
  rw [tidyNodes_eq] at hmem
  obtain ⟨n', hn', heq⟩ := List.mem_map.1 hmem
  exact ⟨n', (List.mem_filter.1 hn').1, heq.symm⟩

theorem tidyNodes_append (ns ms : List Node) :
    tidyNodes (ns ++ ms) = tidyNodes ns ++ tidyNodes ms := by
  simp [tidyNodes_eq]

@[simp] theorem isBlank_tidy (n : Node) : n.tidy.isBlank = n.isBlank := by
  cases n with
  | text s =>
    show isBlankText (trim s) = isBlankText s
    rw [Bool.eq_iff_iff, ← trim_eq_empty_iff, ← trim_eq_empty_iff, trim_trim]
  | _ => rfl

@[simp] theorem isText_tidy (n : Node) : n.tidy.isText = n.isText := by
  cases n <;> rfl

@[simp] theorem isCharacters_tidy (n : Node) : n.tidy.isCharacters = n.isCharacters := by
  cases n <;> rfl

theorem isText_of_isBlank (h : n.isBlank = true) : n.isText = true := by
  cases n with
  | text s => rfl
  | _ => simp [Node.isBlank] at h

theorem isCharacters_of_isBlank (h : n.isBlank = true) : n.isCharacters = true := by
  cases n with
  | text s => rfl
  | _ => simp [Node.isBlank] at h

/-- A property that tidying keeps and that blank nodes have holds of all nodes or of all tidy
ones. -/
theorem all_tidyNodes {p : Node → Bool} (hp : ∀ n : Node, p n.tidy = p n)
    (hblank : ∀ n : Node, n.isBlank = true → p n = true) (ns : List Node) :
    (tidyNodes ns).all p = ns.all p := by
  induction ns with
  | nil => simp
  | cons n ns ih =>
    by_cases h : n.isBlank = true
    · rw [tidyNodes_cons_of_isBlank h, ih, List.all_cons, hblank n h, Bool.true_and]
    · rw [Bool.not_eq_true] at h
      rw [tidyNodes_cons h, List.all_cons, List.all_cons, ih, hp]

theorem all_isBlank_tidyNodes (ns : List Node) :
    (tidyNodes ns).all Node.isBlank = ns.all Node.isBlank :=
  all_tidyNodes isBlank_tidy (fun _ h => h) ns

theorem all_isText_tidyNodes (ns : List Node) :
    (tidyNodes ns).all Node.isText = ns.all Node.isText :=
  all_tidyNodes isText_tidy (fun _ => isText_of_isBlank) ns

theorem all_isCharacters_tidyNodes (ns : List Node) :
    (tidyNodes ns).all Node.isCharacters = ns.all Node.isCharacters :=
  all_tidyNodes isCharacters_tidy (fun _ => isCharacters_of_isBlank) ns

/-! ## Child elements and shapes -/

@[simp] theorem childElements_tidy (e : Element) :
    e.tidy.childElements = e.childElements.map Element.tidy := by
  unfold Element.childElements Element.tidy
  induction e.children with
  | nil => simp
  | cons n ns ih =>
    cases n with
    | element name attributes children =>
      rw [tidyNodes_cons rfl]
      simp only [Node.tidy, List.filterMap_cons, Node.element?, List.map_cons]
      rw [ih]
    | text s =>
      by_cases h : (Node.text s).isBlank = true
      · rw [tidyNodes_cons_of_isBlank h, ih]
        rfl
      · rw [Bool.not_eq_true] at h
        rw [tidyNodes_cons h]
        exact ih
    | cdata s =>
      rw [tidyNodes_cons rfl]
      exact ih
    | comment s =>
      rw [tidyNodes_cons rfl]
      exact ih

theorem hasElementChildren_eq (e : Element) :
    e.hasElementChildren = !e.childElements.isEmpty := by
  unfold Element.hasElementChildren Element.childElements
  induction e.children with
  | nil => rfl
  | cons n ns ih =>
    cases n with
    | element name attributes children => rfl
    | text s => exact ih
    | cdata s => exact ih
    | comment s => exact ih

@[simp] theorem hasElementChildren_tidy (e : Element) :
    e.tidy.hasElementChildren = e.hasElementChildren := by
  rw [hasElementChildren_eq, hasElementChildren_eq, childElements_tidy, List.isEmpty_map]

@[simp] theorem isLeaf_tidy (leaves : List String) (name : String) (attributes : Attributes)
    (children : List Node) :
    isLeaf leaves ⟨name, attributes, tidyNodes children⟩ =
      isLeaf leaves ⟨name, attributes, children⟩ := by
  simp only [isLeaf, all_isText_tidyNodes]

/-- Structure is made of elements, comments and CDATA sections, which tidying keeps. -/
theorem isStructured_tidyNodes (leaves seen : List String) (ns : List Node) :
    isStructured leaves seen (tidyNodes ns) = isStructured leaves seen ns := by
  induction ns generalizing seen with
  | nil => simp
  | cons n ns ih =>
    cases n with
    | element name attributes children =>
      rw [tidyNodes_cons rfl, Node.tidy, isStructured, isStructured, isLeaf_tidy, ih]
    | text s =>
      by_cases h : (Node.text s).isBlank = true
      · rw [tidyNodes_cons_of_isBlank h, ih, isStructured]
      · rw [Bool.not_eq_true] at h
        rw [tidyNodes_cons h, Node.tidy, isStructured, isStructured, ih]
    | cdata s => rw [tidyNodes_cons rfl, Node.tidy, isStructured, isStructured] <;> simp
    | comment s => rw [tidyNodes_cons rfl, Node.tidy, isStructured, isStructured] <;> simp

/-- The shape of an element does not depend on blanks that layout may add. -/
@[simp] theorem shape_tidy (e : Element) : shape e.tidy = shape e := by
  have hreference : fragmentReference? e.tidy = fragmentReference? e := rfl
  have hname : e.tidy.name = e.name := rfl
  have hstructured : isStructured (leafParameters e.name) [] e.tidy.children =
      isStructured (leafParameters e.name) [] e.children := isStructured_tidyNodes _ _ _
  rw [shape, shape, hreference, hname, hasElementChildren_tidy, hstructured]

/-! ## Layout -/

theorem inlineText_tidy (n : Node) : inlineText n.tidy = inlineText n := by
  cases n with
  | text s => simp [Node.tidy, inlineText]
  | _ => rfl

theorem inlineText_of_isBlank (h : n.isBlank = true) : inlineText n = "" := by
  cases n with
  | text s =>
    have hs : trim s = "" := trim_eq_empty_iff.2 h
    rw [inlineText, hs]
    rfl
  | _ => simp [Node.isBlank] at h

theorem join_inlineText_tidyNodes (ns : List Node) :
    String.join ((tidyNodes ns).map inlineText) = String.join (ns.map inlineText) := by
  induction ns with
  | nil => simp
  | cons n ns ih =>
    by_cases h : n.isBlank = true
    · rw [tidyNodes_cons_of_isBlank h, List.map_cons, String.join_cons, inlineText_of_isBlank h, ih,
        String.empty_append]
    · rw [Bool.not_eq_true] at h
      rw [tidyNodes_cons h, List.map_cons, List.map_cons, String.join_cons, String.join_cons, ih,
        inlineText_tidy]

theorem nodeLines_of_isBlank {width depth : Nat} (h : n.isBlank = true) :
    nodeLines width depth n = [] := by
  cases n with
  | text s =>
    rw [nodeLines]
    exact if_pos h
  | _ => simp [Node.isBlank] at h

mutual

/-- A node is written as its tidy form is. -/
theorem nodeLines_tidy (width depth : Nat) (n : Node) :
    nodeLines width depth n.tidy = nodeLines width depth n := by
  match n with
  | .element name attributes children =>
    rw [Node.tidy, nodeLines, nodeLines, all_isBlank_tidyNodes, all_isCharacters_tidyNodes,
      join_inlineText_tidyNodes, childLines_tidyNodes]
  | .text s =>
    have h : isBlankText (trim s) = isBlankText s := isBlank_tidy (.text s)
    rw [Node.tidy, nodeLines, nodeLines, h, trim_trim]
  | .cdata s => rw [Node.tidy]
  | .comment s => rw [Node.tidy]

/-- Blank texts have no lines, and the other nodes are written as their tidy forms are. -/
theorem childLines_tidyNodes (width depth : Nat) (ns : List Node) :
    childLines width depth (tidyNodes ns) = childLines width depth ns := by
  match ns with
  | [] => rw [tidyNodes]
  | n :: ns =>
    by_cases h : n.isBlank = true
    · rw [tidyNodes_cons_of_isBlank h, childLines_tidyNodes, childLines, nodeLines_of_isBlank h,
        List.nil_append]
    · rw [Bool.not_eq_true] at h
      rw [tidyNodes_cons h, childLines, childLines, nodeLines_tidy, childLines_tidyNodes]

end

theorem serialize_tidy (e : Element) (width : Nat) : e.tidy.serialize width = e.serialize width := by
  have hnode : e.tidy.node = e.node.tidy := by
    rw [Element.node, Element.node, Node.tidy]
    rfl
  rw [Element.serialize, hnode, nodeLines_tidy]
  rfl

/-- What has the tidy form of an element is an element. -/
theorem exists_element_of_tidy_eq (h : n.tidy = e.node.tidy) :
    ∃ e' : Element, n = e'.node ∧ e'.tidy = e.tidy := by
  rw [Element.node] at h
  cases n with
  | element name attributes children =>
    rw [Node.tidy, Node.tidy] at h
    obtain ⟨hname, hattributes, hchildren⟩ := Node.element.inj h
    refine ⟨⟨name, attributes, children⟩, rfl, ?_⟩
    rw [Element.tidy, Element.tidy, hname, hattributes, hchildren]
  | _ => simp [Node.tidy] at h

theorem shape_eq_of_tidy_eq (h : e.tidy = e'.tidy) : shape e = shape e' := by
  rw [← shape_tidy e, h, shape_tidy]

theorem serialize_eq_of_tidy_eq (h : e.tidy = e'.tidy) (width : Nat) :
    e.serialize width = e'.serialize width := by
  rw [← serialize_tidy e, h, serialize_tidy]

end GatewayPolicy.Xml
