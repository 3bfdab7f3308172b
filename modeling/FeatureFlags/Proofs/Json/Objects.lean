import FeatureFlags.Proofs.Json.Scalars

/-!
Objects whose members are values without parts are written alike only if they are the same.
-/

namespace FeatureFlags.Json

/-- The text of a member. -/
def memberText (member : String × Json) : List Char :=
  (renderString member.1).toList ++ ':' :: member.2.render.toList

/-- The text behind a member, up to the end of the object. -/
def closing : List (String × Json) → List Char
  | [] => ['\x7d']
  | member :: members => ',' :: memberText member ++ closing members

/-- The text behind the opening brace of an object. -/
def opened : List (String × Json) → List Char
  | [] => ['\x7d']
  | member :: members => memberText member ++ closing members

private theorem memberText_begins (member : String × Json) :
    ∃ rest, memberText member = '"' :: rest := by
  rw [memberText, renderString, String.toList_ofList]
  exact ⟨_, rfl⟩

private theorem toList_renderMembers (member : String × Json) (members : List (String × Json)) :
    (",".intercalate (renderMembers (member :: members))).toList ++ ['\x7d'] =
      memberText member ++ closing members := by
  induction members generalizing member with
  | nil => simp [renderMembers, memberText, closing]
  | cons next members ih =>
      have step : ",".intercalate (renderMembers (member :: next :: members)) =
          renderString member.1 ++ ":" ++ render member.2 ++ "," ++
            ",".intercalate (renderMembers (next :: members)) := String.intercalate_cons_cons
      rw [step, String.toList_append, List.append_assoc, ih]
      simp [memberText, closing]

theorem toList_render_object (members : List (String × Json)) :
    (render (.object members)).toList = '\x7b' :: opened members := by
  cases members with
  | nil => rfl
  | cons member members =>
      rw [opened, ← toList_renderMembers]
      simp [render]

/-- What follows a member begins with a mark that no number has. -/
private theorem closing_begins (members : List (String × Json)) :
    ∃ mark rest, closing members = mark :: rest ∧ ¬ IsNumberChar mark := by
  cases members with
  | nil => exact ⟨'\x7d', [], rfl, by decide⟩
  | cons member members => exact ⟨',', _, rfl, by decide⟩

private theorem member_append_inj {member member' : String × Json}
    {members members' : List (String × Json)} (scalar : IsScalar member.2)
    (scalar' : IsScalar member'.2)
    (same : memberText member ++ closing members = memberText member' ++ closing members') :
    member = member' ∧ closing members = closing members' := by
  obtain ⟨mark, rest, begins, outside⟩ := closing_begins members
  obtain ⟨mark', rest', begins', outside'⟩ := closing_begins members'
  rw [memberText, memberText, List.append_assoc, List.append_assoc] at same
  obtain ⟨keys, values⟩ := renderString_append_inj same
  have values := (List.cons.inj values).2
  change member.2.render.toList ++ closing members =
    member'.2.render.toList ++ closing members' at values
  rw [begins, begins'] at values ⊢
  obtain ⟨value, marks, rests⟩ := render_append_inj scalar scalar' outside outside' values
  exact ⟨Prod.ext keys value, by rw [marks, rests]⟩

private theorem closing_inj {members members' : List (String × Json)}
    (scalars : ∀ member ∈ members, IsScalar member.2)
    (scalars' : ∀ member ∈ members', IsScalar member.2)
    (same : closing members = closing members') : members = members' := by
  induction members generalizing members' with
  | nil =>
      cases members' with
      | nil => rfl
      | cons => cases (List.cons.inj same).1
  | cons member members ih =>
      cases members' with
      | nil => cases (List.cons.inj same).1
      | cons member' members' =>
          obtain ⟨first, others⟩ := member_append_inj (scalars member List.mem_cons_self)
            (scalars' member' List.mem_cons_self) (List.cons.inj same).2
          rw [first, ih (fun m mem => scalars m (List.mem_cons_of_mem _ mem))
            (fun m mem => scalars' m (List.mem_cons_of_mem _ mem)) others]

/-- The text of an object tells its members. -/
theorem render_object_inj {members members' : List (String × Json)}
    (scalars : ∀ member ∈ members, IsScalar member.2)
    (scalars' : ∀ member ∈ members', IsScalar member.2)
    (same : render (.object members) = render (.object members')) : members = members' := by
  have texts := congrArg String.toList same
  rw [toList_render_object, toList_render_object] at texts
  have inner := (List.cons.inj texts).2
  cases members with
  | nil =>
      cases members' with
      | nil => rfl
      | cons member' _ =>
          obtain ⟨rest, begins⟩ := memberText_begins member'
          rw [opened, opened, begins] at inner
          cases (List.cons.inj inner).1
  | cons member members =>
      cases members' with
      | nil =>
          obtain ⟨rest, begins⟩ := memberText_begins member
          rw [opened, opened, begins] at inner
          cases (List.cons.inj inner).1
      | cons => exact closing_inj scalars scalars' (congrArg (',' :: ·) inner)

end FeatureFlags.Json
