import FeatureFlags.Proofs.Bandit.AttributeHash
import FeatureFlags.Proofs.Bandit.Provenance

/-!
For which attributes a choice is given again. The cache compares hashes of the JSON text of
attributes, and the text does not tell an infinite number from a missing value.
-/

namespace FeatureFlags.Bandit

/-- What is given without a call was fetched before, for the same user and the same rule. -/
theorem Inquiry.Handled.origin_of_uncalled {transcript : List Exchange} {inquiry : Inquiry}
    {cache after : Cache} {choice : Choice}
    (handled : inquiry.Handled cache (.ok choice) [] after)
    (recorded : ∀ entry ∈ cache.entries, Recorded transcript entry) :
    ∃ origin ∈ transcript, origin.Fetched choice ∧ inquiry.SamePair origin.inquiry ∧
      hashAttributes inquiry.attributes = hashAttributes origin.inquiry.attributes := by
  cases handled with
  | @reused found _ member key fresh same =>
      obtain ⟨held, -⟩ := mem_prepareCache.mp member
      obtain ⟨origin, choice, ⟨fetched, -, before, after, rfl, -⟩, rfl⟩ := recorded found held
      exact ⟨origin, by simp, fetched, Inquiry.key_eq_iff.mp key.symm, same.symm⟩

/-- Whenever a choice is given without a call, it was fetched for attributes that are alike, or the
texts of both collide. -/
theorem choice_reused_for_alike (correlationId : Nat → String) (capacity : Nat) (timeout : Int)
    (earlier : List Inquiry) (inquiry : Inquiry) (choice : Choice) :
    let present := inquiry.exchange correlationId
      (stateAfter correlationId (.fresh capacity timeout) earlier)
    present.result = .ok choice → present.requests = [] →
      ∃ origin ∈ transcript correlationId (.fresh capacity timeout) earlier,
        origin.Fetched choice ∧ inquiry.SamePair origin.inquiry ∧
          (inquiry.attributes.Alike origin.inquiry.attributes ∨
            Collide inquiry.attributes origin.inquiry.attributes) := by
  intro present chosen uncalled
  have handled := inquiry.handled_answer correlationId
    (stateAfter correlationId (.fresh capacity timeout) earlier)
  change inquiry.Handled _ present.result present.requests _ at handled
  rw [chosen, uncalled] at handled
  obtain ⟨origin, member, fetched, pair, hashes⟩ :=
    handled.origin_of_uncalled (recorded_of_fresh correlationId capacity timeout earlier)
  exact ⟨origin, member, fetched, pair, alike_or_collide hashes⟩

namespace Sample

/-- A rule that is decided by the age of a user. -/
def byAge : Config :=
  { experimentsById := Dict.ofPairs [("20",
      { id := "20", key := "bandit", status := .running
        variations := [], trafficAllocation := []
        bandit := some { attributeIds := ["a1"], trafficAllocation := 10000 } })]
    attributesById := Dict.ofPairs [("a1", { id := "a1", key := "age" })] }

def visitAt (age : AttributeValue) : Inquiry :=
  { visit with
    config := byAge
    user := { id := "user", attributes := Dict.ofPairs [("age", age)] } }

def thirty : Inquiry := visitAt (.string "thirty")

def infinity : Float := 1 / 0

end Sample

/-- A visitor of the same age gets the choice of the first visit. -/
theorem choice_reused_for_same_age :
    (Sample.thirty.exchange Nat.repr
        (stateAfter Nat.repr (.fresh 10 300) [Sample.thirty])).requests = [] ∧
      ∃ origin ∈ transcript Nat.repr (.fresh 10 300) [Sample.thirty],
        origin.Fetched { variationId := "1", correlationId := "0" } ∧
          (Sample.thirty.attributes.Alike origin.inquiry.attributes ∨
            Collide Sample.thirty.attributes origin.inquiry.attributes) := by
  obtain ⟨origin, member, fetched, _, attributes⟩ :=
    choice_reused_for_alike Nat.repr 10 300 [Sample.thirty] Sample.thirty
      { variationId := "1", correlationId := "0" } rfl rfl
  exact ⟨rfl, origin, member, fetched, attributes⟩

/-- The choice that was fetched for an infinite age is given again for a missing one, although the
attributes differ. -/
theorem choice_reused_for_missing_age :
    ((Sample.visitAt (.number Sample.infinity)).exchange Nat.repr (.fresh 10 300)).Fetched
        { variationId := "1", correlationId := "0" } ∧
      (Sample.visitAt .null).exchange Nat.repr
          (stateAfter Nat.repr (.fresh 10 300) [Sample.visitAt (.number Sample.infinity)]) =
        { inquiry := Sample.visitAt .null
          result := .ok { variationId := "1", correlationId := "0" }
          requests := [] } ∧
      (Sample.visitAt (.number Sample.infinity)).attributes["age"]? =
        some (.number Sample.infinity) ∧
      (Sample.visitAt .null).attributes["age"]? = some .null :=
  ⟨⟨rfl, rfl, rfl, by decide⟩, rfl, rfl, rfl⟩

end FeatureFlags.Bandit
