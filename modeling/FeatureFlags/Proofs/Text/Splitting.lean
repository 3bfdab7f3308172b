/-!
Texts that can be taken apart in one way only: what stands before a mark, where the mark does not
occur in it, and what has a known size.
-/

namespace FeatureFlags.Text
variable {α : Type}

/-- A mark that does not occur before it ends what comes before it. -/
theorem append_cons_inj (inside : α → Prop) {first second rest rest' : List α} {mark mark' : α}
    (before : ∀ a ∈ first, inside a) (before' : ∀ a ∈ second, inside a)
    (outside : ¬ inside mark) (outside' : ¬ inside mark')
    (same : first ++ mark :: rest = second ++ mark' :: rest') :
    first = second ∧ mark = mark' ∧ rest = rest' := by
  induction first generalizing second with
  | nil =>
      cases second with
      | nil =>
          cases same
          exact ⟨rfl, rfl, rfl⟩
      | cons a second =>
          cases same
          exact absurd (before' _ List.mem_cons_self) outside
  | cons a first ih =>
      cases second with
      | nil =>
          cases same
          exact absurd (before _ List.mem_cons_self) outside'
      | cons a' second =>
          rw [List.cons_append, List.cons_append] at same
          obtain ⟨heads, tails⟩ := List.cons.inj same
          obtain ⟨sameTail, rests⟩ := ih (fun a member => before a (List.mem_cons_of_mem _ member))
            (fun a member => before' a (List.mem_cons_of_mem _ member)) tails
          exact ⟨by rw [heads, sameTail], rests⟩

private theorem append_eq_left_of_size {text more : String}
    (size : (text ++ more).utf8ByteSize = text.utf8ByteSize) : more = "" := by
  rw [String.utf8ByteSize_append] at size
  exact String.utf8ByteSize_eq_zero_iff.mp (Nat.left_eq_add.mp size.symm)

/-- Of a text of known size it is known where it ends. -/
theorem append_inj_of_size {first second rest rest' : String}
    (size : first.utf8ByteSize = second.utf8ByteSize) (same : first ++ rest = second ++ rest') :
    first = second ∧ rest = rest' := by
  suffices sameFirst : first = second by
    subst sameFirst
    exact ⟨rfl, (String.append_right_inj first).mp same⟩
  have lists : first.toList ++ rest.toList = second.toList ++ rest'.toList := by
    simpa only [String.toList_append] using congrArg String.toList same
  rcases List.append_eq_append_iff.mp lists with ⟨more, longer, -⟩ | ⟨more, longer, -⟩
  · have grown : second = first ++ String.ofList more := String.toList_inj.mp (by simp [longer])
    rw [grown] at size
    rw [grown, append_eq_left_of_size size.symm, String.append_empty]
  · have grown : first = second ++ String.ofList more := String.toList_inj.mp (by simp [longer])
    rw [grown] at size
    rw [grown, append_eq_left_of_size size, String.append_empty]

end FeatureFlags.Text
