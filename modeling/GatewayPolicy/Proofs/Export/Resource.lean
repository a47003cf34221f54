import GatewayPolicy.Export.Resource
import GatewayPolicy.Proofs.Text.Trimming
/-!
# Names of resources

The name of a resource is a path of trimmed segments: the service, what the scope asks for, and the
policy. It can be formed exactly if none of the segments is missing or blank; everything else about
the resource comes from the scope, the options and the document.
-/

namespace GatewayPolicy

open Text

variable {m : Model} {o : ExportOptions} {e : Error} {r : Resource} {scope : Scope}
  {what name xml : String} {value : Option String}

/-! ## Computations that may stop -/

theorem bind_eq_ok_iff {α β : Type} {x : Except Error α} {f : α → Except Error β} {b : β} :
    (x >>= f) = .ok b ↔ ∃ a, x = .ok a ∧ f a = .ok b := by
  cases x <;> simp [Bind.bind, Except.bind]

theorem bind_eq_error_iff {α β : Type} {x : Except Error α} {f : α → Except Error β} :
    (x >>= f) = .error e ↔ x = .error e ∨ ∃ a, x = .ok a ∧ f a = .error e := by
  cases x <;> simp [Bind.bind, Except.bind]

/-- Work on a list stops where it stops at an item. -/
theorem exists_of_mapM_eq_error {α β : Type} {f : α → Except Error β} {as : List α}
    (h : as.mapM f = .error e) : ∃ a ∈ as, f a = .error e := by
  induction as with
  | nil => simp [pure, Except.pure] at h
  | cons a as ih =>
    rw [List.mapM_cons] at h
    rcases bind_eq_error_iff.1 h with h | ⟨b, -, h⟩
    · exact ⟨a, List.mem_cons_self, h⟩
    · rcases bind_eq_error_iff.1 h with h | ⟨bs, -, h⟩
      · obtain ⟨a', ha', h⟩ := ih h
        exact ⟨a', List.mem_cons_of_mem a ha', h⟩
      · simp [pure, Except.pure] at h

/-! ## Segments -/

theorem requiredSegment_eq_ok_iff {s : String} : requiredSegment scope what value = .ok s ↔
    ∃ v, value = some v ∧ isBlankText v = false ∧ trim v = s := by
  cases value with
  | none => simp [requiredSegment]
  | some v => cases h : isBlankText v <;> simp [requiredSegment, Option.filter_some, h]

/-- A segment that is missing or blank is asked for. -/
theorem eq_of_requiredSegment_eq_error (h : requiredSegment scope what value = .error e) :
    e = .validation (scope.name ++ " scope export requires " ++ what) := by
  unfold requiredSegment at h
  split at h
  · simp at h
  · exact (Except.error.inj h).symm

/-! ## Names -/

namespace Model

/-- What follows the service in the name of a resource. -/
def innerPath (m : Model) (o : ExportOptions) : Except Error String := do
  let names ← (m.innerSegments o).mapM fun (what, value) => requiredSegment m.scope what value
  return String.intercalate "/" (names ++ ["policy"])

theorem resourceName_eq_ok_iff : m.resourceName o = .ok name ↔
    isBlankText o.serviceName = false ∧
      ∃ path, m.innerPath o = .ok path ∧ trim o.serviceName ++ "/" ++ path = name := by
  have hjoin (service : String) (names : List String) :
      String.intercalate "/" (service :: names ++ ["policy"]) =
        service ++ "/" ++ String.intercalate "/" (names ++ ["policy"]) :=
    String.intercalate_cons_of_ne_nil (by simp)
  simp only [resourceName, innerPath, List.mapM_cons, bind_eq_ok_iff, requiredSegment_eq_ok_iff,
    pure, Except.pure, Except.ok.injEq]
  constructor
  · rintro ⟨_, ⟨service, ⟨_, ⟨⟩, hvisible, rfl⟩, names, hnames, rfl⟩, rfl⟩
    exact ⟨hvisible, _, ⟨names, hnames, rfl⟩, (hjoin _ _).symm⟩
  · rintro ⟨hvisible, _, ⟨names, hnames, rfl⟩, rfl⟩
    exact ⟨_, ⟨_, ⟨_, rfl, hvisible, rfl⟩, names, hnames, rfl⟩, hjoin _ _⟩

/-- A name starts with the service, and so with a visible character. -/
theorem isBlank_of_resourceName {c : Char} (h : m.resourceName o = .ok name)
    (hc : name.toList.head? = some c) : isBlank c = false := by
  obtain ⟨hvisible, path, -, rfl⟩ := resourceName_eq_ok_iff.1 h
  cases htrim : trimChars o.serviceName.toList with
  | nil =>
    rw [isBlankText_iff.2 (trimChars_eq_nil_iff.1 htrim)] at hvisible
    simp at hvisible
  | cons d ds =>
    obtain rfl : d = c := by simpa [htrim] using hc
    exact isBlank_of_trimChars_eq_cons htrim

/-- A name that cannot be formed lacks a segment that its scope asks for. -/
theorem exists_of_resourceName_eq_error (h : m.resourceName o = .error e) :
    ∃ what, e = .validation (m.scope.name ++ " scope export requires " ++ what) := by
  rcases bind_eq_error_iff.1 h with h | ⟨names, -, h⟩
  · obtain ⟨⟨what, value⟩, -, h⟩ := exists_of_mapM_eq_error h
    exact ⟨what, eq_of_requiredSegment_eq_error h⟩
  · simp [pure, Except.pure] at h

end Model

/-! ## Resources -/

/-- The resource deploys the document at the scope of the model. -/
structure Resource.Deploys (r : Resource) (m : Model) (xml : String) (o : ExportOptions) :
    Prop where
  type : r.type = m.scope.resourceType
  apiVersion : r.apiVersion = o.apiVersion
  name : m.resourceName o = .ok r.name
  format : r.format = rawFormat
  value : r.value = xml

namespace Model

theorem resource_eq_ok_iff : m.resource xml o = .ok r ↔ r.Deploys m xml o := by
  unfold resource
  rw [bind_eq_ok_iff]
  constructor
  · rintro ⟨name, hname, h⟩
    obtain rfl := Except.ok.inj h
    exact ⟨rfl, rfl, hname, rfl, rfl⟩
  · rintro ⟨htype, hversion, hname, hformat, hvalue⟩
    refine ⟨r.name, hname, ?_⟩
    rw [← htype, ← hversion, ← hformat, ← hvalue]
    rfl

theorem resource_eq_error_iff : m.resource xml o = .error e ↔ m.resourceName o = .error e := by
  unfold resource
  rw [bind_eq_error_iff]
  simp [pure, Except.pure]

end Model

end GatewayPolicy
