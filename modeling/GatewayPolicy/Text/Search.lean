/-!
# Searching in texts

A pattern is looked for from the front; its first occurrence splits the text into what stands in
front and what follows.
-/

namespace GatewayPolicy.Text

/-- The text in front of the first occurrence of a pattern, and what follows the occurrence. A text
without characters has no occurrence. -/
def splitAtFirst? (pattern : List Char) : List Char → Option (List Char × List Char)
  | [] => none
  | c :: cs =>
    if pattern.isPrefixOf (c :: cs) then some ([], (c :: cs).drop pattern.length)
    else (splitAtFirst? pattern cs).map fun (before, after) => (c :: before, after)

/-- What follows the pattern is shorter by the pattern at least. -/
theorem length_of_splitAtFirst? {pattern cs b a : List Char}
    (h : splitAtFirst? pattern cs = some (b, a)) : a.length + pattern.length ≤ cs.length := by
  induction cs generalizing b with
  | nil => simp [splitAtFirst?] at h
  | cons c cs ih =>
    unfold splitAtFirst? at h
    split at h
    · rename_i hp
      have := (List.isPrefixOf_iff_prefix.1 hp).length_le
      simp only [Option.some.injEq, Prod.mk.injEq] at h
      obtain ⟨-, rfl⟩ := h
      simp only [List.length_drop]
      omega
    · obtain ⟨⟨b', a'⟩, h₁, h₂⟩ := Option.map_eq_some_iff.1 h
      obtain ⟨-, rfl⟩ := Prod.mk.inj h₂
      have := ih h₁
      simp only [List.length_cons]
      omega

/-- The pattern occurs in the text. -/
def containsText (pattern s : String) : Bool :=
  pattern.isEmpty || (splitAtFirst? pattern.toList s.toList).isSome

end GatewayPolicy.Text
