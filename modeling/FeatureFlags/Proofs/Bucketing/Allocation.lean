import FeatureFlags.Bucketing

/-!
Traffic allocation divides the bucket values among its entries. An entry covers what lies between
the largest end before it and its own end, which is nothing if an earlier entry reaches as far. The
ends need not be in order.
-/

namespace FeatureFlags.TrafficAllocation

/-- The largest end of a range. -/
def reach (allocations : List TrafficAllocation) : Nat :=
  (allocations.map (·.endOfRange)).foldr max 0

theorem reach_le_iff {allocations : List TrafficAllocation} {value : Nat} :
    reach allocations ≤ value ↔ ∀ entry ∈ allocations, entry.endOfRange ≤ value := by
  induction allocations with
  | nil => simp [reach]
  | cons entry rest ih =>
      change max entry.endOfRange (reach rest) ≤ value ↔ _
      rw [Nat.max_le, ih, List.forall_mem_cons]

/-- The bucket value lies between the largest end before the entry at the position and the end of
that entry. -/
def Covers (allocations : List TrafficAllocation) (position value : Nat) : Prop :=
  ∃ entry, allocations[position]? = some entry ∧
    reach (allocations.take position) ≤ value ∧ value < entry.endOfRange

/-- The position of the entry that decides. -/
def decidingPosition? (value : Nat) (allocations : List TrafficAllocation) : Option Nat :=
  allocations.findIdx? (value < ·.endOfRange)

/-- The entity of an entry, unless its traffic is left out on purpose. -/
def entity? (entry : TrafficAllocation) : Option String :=
  if entry.entityId = "" then none else some entry.entityId

variable {allocations : List TrafficAllocation} {position value : Nat}

theorem deciding?_eq (value : Nat) (allocations : List TrafficAllocation) :
    deciding? value allocations =
      (decidingPosition? value allocations).bind (allocations[·]?) :=
  List.find?_eq_bind_findIdx?_getElem?

theorem allocate_eq (value : Nat) (allocations : List TrafficAllocation) :
    allocate value allocations = (deciding? value allocations).bind entity? := by
  simp only [allocate]
  split
  · rename_i entry decides
    simp [decides, entity?]
  · rename_i nobody
    rw [nobody, Option.bind_none]

theorem decidingPosition?_eq_some_iff :
    decidingPosition? value allocations = some position ↔ Covers allocations position value := by
  rw [decidingPosition?, List.findIdx?_eq_some_iff_getElem]
  simp only [Covers, reach_le_iff, decide_eq_true_eq, Nat.not_lt]
  constructor
  · rintro ⟨bound, below, passed⟩
    refine ⟨allocations[position], List.getElem?_eq_getElem bound, fun entry earlier => ?_, below⟩
    obtain ⟨index, short, rfl⟩ := List.mem_take_iff_getElem.mp earlier
    exact passed index (by omega)
  · rintro ⟨entry, found, passed, below⟩
    obtain ⟨bound, rfl⟩ := List.getElem?_eq_some_iff.mp found
    refine ⟨bound, below, fun index earlier => passed _ ?_⟩
    exact List.mem_take_iff_getElem.mpr ⟨index, by omega, rfl⟩

theorem decidingPosition?_eq_none_iff :
    decidingPosition? value allocations = none ↔
      ∀ entry ∈ allocations, entry.endOfRange ≤ value := by
  simp [decidingPosition?, List.findIdx?_eq_none_iff]

theorem Covers.exists_deciding (covered : Covers allocations position value) :
    ∃ entry, deciding? value allocations = some entry := by
  obtain ⟨entry, found, -⟩ := id covered
  refine ⟨entry, ?_⟩
  rw [deciding?_eq, decidingPosition?_eq_some_iff.mpr covered]
  exact found

theorem deciding?_append (value : Nat) (front back : List TrafficAllocation) :
    deciding? value (front ++ back) = (deciding? value front).or (deciding? value back) :=
  List.find?_append

theorem allocate_append (covered : Covers allocations position value)
    (more : List TrafficAllocation) :
    allocate value (allocations ++ more) = allocate value allocations := by
  obtain ⟨entry, decides⟩ := covered.exists_deciding
  rw [allocate_eq, allocate_eq, deciding?_append, decides, Option.some_or]

theorem deciding?_singleton (value : Nat) (entry : TrafficAllocation) :
    deciding? value [entry] = if value < entry.endOfRange then some entry else none := by
  by_cases below : value < entry.endOfRange <;> simp [deciding?, below]

theorem allocate_raised {front : List TrafficAllocation} {last : TrafficAllocation} {raised : Nat}
    (covered : Covers (front ++ [last]) position value) (further : last.endOfRange ≤ raised) :
    allocate value (front ++ [{ last with endOfRange := raised }]) =
      allocate value (front ++ [last]) := by
  obtain ⟨entry, decides⟩ := covered.exists_deciding
  simp only [allocate_eq, deciding?_append, deciding?_singleton] at decides ⊢
  cases earlier : deciding? value front with
  | some _ => rfl
  | none =>
      -- The last entry decides, and it is still the same entity after its end is raised.
      have below : value < last.endOfRange := by
        apply Nat.lt_of_not_le
        intro beyond
        simp [earlier, Nat.not_lt.mpr beyond] at decides
      simp [below, Nat.lt_of_lt_of_le below further, entity?]

/-- Every bucket value is decided by the one entry that covers it, and by none if it lies beyond
all ends. More entries and a later end change nothing for what is covered already. -/
theorem allocation_partitions_values (allocations : List TrafficAllocation) (value : Nat) :
    deciding? value allocations =
        (decidingPosition? value allocations).bind (allocations[·]?) ∧
      allocate value allocations = (deciding? value allocations).bind entity? ∧
      (∀ position, decidingPosition? value allocations = some position ↔
        Covers allocations position value) ∧
      (∀ position position', Covers allocations position value →
        Covers allocations position' value → position = position') ∧
      (decidingPosition? value allocations = none ↔
        ∀ entry ∈ allocations, entry.endOfRange ≤ value) ∧
      ∀ position, Covers allocations position value →
        (∀ more, allocate value (allocations ++ more) = allocate value allocations) ∧
        ∀ front last raised, allocations = front ++ [last] → last.endOfRange ≤ raised →
          allocate value (front ++ [{ last with endOfRange := raised }]) =
            allocate value allocations := by
  refine ⟨deciding?_eq value allocations, allocate_eq value allocations,
    fun _ => decidingPosition?_eq_some_iff, fun position position' covered covered' => ?_,
    decidingPosition?_eq_none_iff, fun position covered => ⟨allocate_append covered, ?_⟩⟩
  · have decides := decidingPosition?_eq_some_iff.mpr covered
    rw [decidingPosition?_eq_some_iff.mpr covered'] at decides
    exact (Option.some.inj decides).symm
  · rintro front last raised rfl further
    exact allocate_raised covered further

/-- The second entry is shadowed and the third one a hole: behind it only the last entry, whose end
is beyond all bucket values, is left with anything. -/
theorem allocation_partitions_unsorted :
    let allocations : List TrafficAllocation :=
      [⟨"a", 5000⟩, ⟨"b", 5000⟩, ⟨"", 6000⟩, ⟨"c", 20000⟩]
    Covers allocations 3 6000 ∧ ¬ Covers allocations 1 4999 ∧
      allocate 5999 allocations = none ∧
      allocate 6000 (allocations ++ [⟨"d", 30000⟩]) = some "c" ∧
      allocate 6000 [⟨"a", 5000⟩, ⟨"b", 5000⟩, ⟨"", 6000⟩, ⟨"c", 30000⟩] = some "c" := by
  intro allocations
  have covered : Covers allocations 3 6000 := ⟨⟨"c", 20000⟩, rfl, by decide, by decide⟩
  obtain ⟨-, -, -, unique, -, kept⟩ := allocation_partitions_values allocations 6000
  obtain ⟨-, -, -, unique', -⟩ := allocation_partitions_values allocations 4999
  obtain ⟨appended, raised⟩ := kept 3 covered
  have decides : allocate 6000 allocations = some "c" := by decide
  refine ⟨covered, fun shadowed => ?_, by decide, (appended _).trans decides, ?_⟩
  · have first : Covers allocations 0 4999 := ⟨⟨"a", 5000⟩, rfl, by decide, by decide⟩
    exact absurd (unique' 0 1 first shadowed) (by decide)
  · exact (raised (allocations.take 3) ⟨"c", 20000⟩ 30000 rfl (by decide)).trans decides

end FeatureFlags.TrafficAllocation
