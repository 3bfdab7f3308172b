import FeatureFlags.Proofs.Condition.Kleene
import FeatureFlags.Proofs.Dict
import FeatureFlags.Proofs.Targeting

/-!
What more knowledge does to targeting. An unknown answer may become anything once more attributes or
audiences are known, but a definite one stays. Only tests for presence are different: they deny what
is merely missing.
-/

namespace FeatureFlags

namespace Truth

/-- The second value is the first one, unless that is unknown. -/
def Below (t u : Truth) : Prop := t = .unknown ∨ t = u

namespace Below

theorem refl (t : Truth) : t.Below t := .inr rfl

theorem unknown (u : Truth) : Truth.unknown.Below u := .inl rfl

theorem eq_of_definite {t u : Truth} (below : t.Below u) (definite : t ≠ .unknown) : u = t :=
  (below.resolve_left definite).symm

theorem not {t u : Truth} (below : t.Below u) : t.not.Below u.not := by
  rcases below with rfl | rfl
  · exact .unknown _
  · exact .refl _

theorem and {t u t' u' : Truth} (below : t.Below u) (below' : t'.Below u') :
    (t.and t').Below (u.and u') := by
  rcases below with rfl | rfl <;> rcases below' with rfl | rfl
  · exact .unknown _
  · cases t' with
    | no => cases u <;> exact .refl _
    | unknown | yes => exact .unknown _
  · cases t with
    | no => exact .refl _
    | unknown | yes => exact .unknown _
  · exact .refl _

theorem or {t u t' u' : Truth} (below : t.Below u) (below' : t'.Below u') :
    (t.or t').Below (u.or u') := by
  rcases below with rfl | rfl <;> rcases below' with rfl | rfl
  · exact .unknown _
  · cases t' with
    | yes => cases u <;> exact .refl _
    | unknown | no => exact .unknown _
  · cases t with
    | yes => exact .refl _
    | unknown | no => exact .unknown _
  · exact .refl _

end Below
end Truth

namespace Condition
variable {α : Type} {leafValue leafValue' : α → Truth}

theorem foldr_below {join : Truth → Truth → Truth}
    (mono : ∀ {t u t' u' : Truth}, t.Below u → t'.Below u' → (join t t').Below (join u u'))
    (unit : Truth) {operands : List (Condition α)}
    (below : ∀ operand ∈ operands, (operand.value leafValue).Below (operand.value leafValue')) :
    ((operands.map (value leafValue)).foldr join unit).Below
      ((operands.map (value leafValue')).foldr join unit) := by
  induction operands with
  | nil => exact .refl unit
  | cons operand rest ih =>
      have first := below operand List.mem_cons_self
      have later := ih fun other member => below other (List.mem_cons_of_mem _ member)
      exact mono first later

/-- If the leaves only become more definite, so does the whole tree. -/
theorem value_below (tree : Condition α)
    (below : ∀ test ∈ tree.leaves, (leafValue test).Below (leafValue' test)) :
    (tree.value leafValue).Below (tree.value leafValue') := by
  induction tree with
  | leaf test => exact below test List.mem_cons_self
  | pending => exact .refl _
  | and operands ih =>
      rw [leaves, leavesOfAll_eq_flatMap] at below
      rw [value, value, valueAll_eq_foldr, valueAll_eq_foldr]
      refine foldr_below .and _ fun operand member => ih operand member fun test listed => ?_
      exact below test (List.mem_flatMap.mpr ⟨operand, member, listed⟩)
  | or operands ih =>
      rw [leaves, leavesOfAll_eq_flatMap] at below
      rw [value, value, valueAny_eq_foldr, valueAny_eq_foldr]
      refine foldr_below .or _ fun operand member => ih operand member fun test listed => ?_
      exact below test (List.mem_flatMap.mpr ⟨operand, member, listed⟩)
  | not operand ih => exact (ih below).not

theorem value_evaluateTraced (leaf : α → Traced Truth) (tree : Condition α) :
    (tree.evaluateTraced leaf).value = tree.value fun test => (leaf test).value :=
  truth_evaluate _ tree

end Condition

/-- Whatever is set in the first attributes is the same in the second. A null value counts as not
set. -/
def Attributes.KnownIn (attributes more : Attributes) : Prop :=
  ∀ (name : String) (value : AttributeValue),
    attributes[name]? = some value → value ≠ .null → more[name]? = some value

/-- Setting an attribute that was not set only adds knowledge. -/
theorem Attributes.knownIn_insert {attributes : Attributes} {name : String}
    (unset : ∀ value, attributes[name]? = some value → value = .null) (value : AttributeValue) :
    attributes.KnownIn (attributes.insert name value) := by
  intro other known found notNull
  exact Dict.getElem?_insert_of_found found (fun set => notNull (unset known set)) value

namespace Config

/-- The audiences of the first configuration are there in the second. -/
def AudiencesKnownIn (config more : Config) : Prop :=
  ∀ (id : String) (audience : Audience),
    config.audiencesById[id]? = some audience → more.audiencesById[id]? = some audience

theorem audiencesKnownIn_insert {config : Config} {id : String}
    (missing : config.audiencesById[id]? = none) (audience : Audience) :
    config.AudiencesKnownIn
      { config with audiencesById := config.audiencesById.insert id audience } := by
  intro other known found
  refine Dict.getElem?_insert_of_found found (fun present => ?_) audience
  rw [missing] at present
  cases present

/-- No audience tests whether an attribute is there. -/
def TestsNoPresence (config : Config) : Prop :=
  ∀ (id : String) (audience : Audience), config.audiencesById[id]? = some audience →
    ∀ test ∈ audience.conditions.leaves, test.kind ≠ .present

end Config

namespace Targeting
variable {attributes more : Attributes} {test : AttributeTest} {config config' : Config}

theorem testAnswer_congr (same : attributes[test.name]? = more[test.name]?) :
    testAnswer attributes test = testAnswer more test := by
  simp only [testAnswer, AttributeTest.evaluate, same]

theorem value_testAnswer_of_unset (others : test.kind ≠ .present)
    (unset : attributes[test.name]? = none ∨ attributes[test.name]? = some .null) :
    (testAnswer attributes test).value = .unknown := by
  by_cases supported : test.type = AttributeTest.supportedType
  · rcases unset with missing | null
    · simp [testAnswer, AttributeTest.evaluate, supported, missing, MatchKind.evaluate, others]
    · simp [testAnswer, AttributeTest.evaluate, supported, null, MatchKind.evaluate, others]
  · simp [testAnswer, AttributeTest.evaluate, supported]

/-- Any other test than one for presence waits for its attribute. -/
theorem testAnswer_below (known : attributes.KnownIn more) (others : test.kind ≠ .present) :
    (testAnswer attributes test).value.Below (testAnswer more test).value := by
  cases found : attributes[test.name]? with
  | none => exact .inl (value_testAnswer_of_unset others (.inl found))
  | some value =>
      by_cases null : value = .null
      · exact .inl (value_testAnswer_of_unset others (.inr (null ▸ found)))
      · rw [testAnswer_congr (found.trans (known _ _ found null).symm)]
        exact .refl _

theorem evaluateTests_below (known : attributes.KnownIn more) (tests : Condition AttributeTest)
    (others : ∀ test ∈ tests.leaves, test.kind ≠ .present) :
    (evaluateTests attributes tests).value.Below (evaluateTests more tests).value := by
  rw [evaluateTests, evaluateTests, Condition.value_evaluateTraced, Condition.value_evaluateTraced]
  exact tests.value_below fun test member => testAnswer_below known (others test member)

theorem value_audienceAnswer_of_missing {audience : AudienceRef}
    (missing : config.audiencesById[audience.id]? = none) :
    (audienceAnswer config attributes audience).value = .unknown := by
  simp [audienceAnswer, missing]

theorem value_audienceAnswer_of_found {audience : AudienceRef} {found : Audience}
    (listed : config.audiencesById[audience.id]? = some found) :
    (audienceAnswer config attributes audience).value =
      (evaluateTests attributes found.conditions).value := by
  simp [audienceAnswer, listed]

/-- More knowledge about a user, or about audiences: either no audience tests for presence, or the
attributes stay as they are. -/
theorem audienceAnswer_below (extended : config.AudiencesKnownIn config')
    (known : attributes = more ∨ config.TestsNoPresence ∧ attributes.KnownIn more)
    (audience : AudienceRef) :
    (audienceAnswer config attributes audience).value.Below
      (audienceAnswer config' more audience).value := by
  cases listed : config.audiencesById[audience.id]? with
  | none => exact .inl (value_audienceAnswer_of_missing listed)
  | some found =>
      rw [value_audienceAnswer_of_found listed,
        value_audienceAnswer_of_found (extended _ _ listed)]
      rcases known with rfl | ⟨others, known⟩
      · exact .refl _
      · exact evaluateTests_below known found.conditions (others _ _ listed)

theorem evaluateAudiences_below (extended : config.AudiencesKnownIn config')
    (known : attributes = more ∨ config.TestsNoPresence ∧ attributes.KnownIn more)
    (audiences : Condition AudienceRef) :
    (evaluateAudiences config attributes audiences).value.Below
      (evaluateAudiences config' more audiences).value := by
  rw [evaluateAudiences, evaluateAudiences, Condition.value_evaluateTraced,
    Condition.value_evaluateTraced]
  exact audiences.value_below fun audience _ => audienceAnswer_below extended known audience

/-- A definite answer stays when more attributes are known, as long as no audience tests for
presence, and when more audiences are known. Hence users who are admitted stay admitted. -/
theorem definite_answer_stays (extended : config.AudiencesKnownIn config')
    (known : attributes = more ∨ config.TestsNoPresence ∧ attributes.KnownIn more) :
    (∀ audiences : Condition AudienceRef,
      (evaluateAudiences config attributes audiences).value ≠ .unknown →
        (evaluateAudiences config' more audiences).value =
          (evaluateAudiences config attributes audiences).value) ∧
    ∀ (experiment : Experiment) (kind name : String),
      (admits config attributes experiment kind name).value = true →
        (admits config' more experiment kind name).value = true := by
  have stays (audiences : Condition AudienceRef) :=
    (evaluateAudiences_below extended known audiences).eq_of_definite
  refine ⟨stays, ?_⟩
  intro experiment kind name admitted
  rw [value_admits] at admitted ⊢
  cases listed : experiment.audiences? with
  | none => simp [Experiment.admits, listed]
  | some audiences =>
      simp only [Experiment.admits, listed, decide_eq_true_eq] at admitted ⊢
      rw [stays audiences (by rw [admitted]; decide), admitted]

namespace Sample

def onPlan : Audience :=
  { id := "gold"
    conditions := .leaf { name := "plan", kind := .exact, operand := .string "gold" } }

def onTrial : Audience :=
  { id := "trial"
    conditions := .not (some (.leaf { name := "trial", kind := .legacy, operand := .string "" })) }

/-- The audience of trial users does not exist yet. -/
def sketch : Config := { audiencesById := (∅ : Dict Audience).insert "gold" onPlan }

def golden : Attributes := (∅ : Attributes).insert "plan" (.string "gold")

end Sample

/-- A user on the golden plan is admitted, whether trials are known or not. -/
theorem definite_answer_stays_on_plan :
    let audiencesById := Sample.sketch.audiencesById.insert "trial" Sample.onTrial
    let complete := { Sample.sketch with audiencesById }
    let more := Sample.golden.insert "trial" (.string "")
    let audiences : Condition AudienceRef := .or [.leaf ⟨"trial"⟩, .leaf ⟨"gold"⟩]
    Sample.sketch.AudiencesKnownIn complete ∧ Sample.sketch.TestsNoPresence ∧
      Sample.golden.KnownIn more ∧
      (evaluateAudiences Sample.sketch Sample.golden audiences).value = .yes ∧
      (evaluateAudiences complete more audiences).value = .yes := by
  intro audiencesById complete more audiences
  have extended : Sample.sketch.AudiencesKnownIn complete :=
    Config.audiencesKnownIn_insert rfl Sample.onTrial
  have others : Sample.sketch.TestsNoPresence := by
    intro id audience listed
    rw [Sample.sketch, Std.ExtTreeMap.getElem?_insert] at listed
    split at listed
    · cases listed
      decide
    · simp at listed
  have known : Sample.golden.KnownIn more :=
    Attributes.knownIn_insert (fun _ found => by cases found) _
  have certain : (evaluateAudiences Sample.sketch Sample.golden audiences).value = .yes := rfl
  obtain ⟨stays, _⟩ := definite_answer_stays extended (.inr ⟨others, known⟩)
  exact ⟨extended, others, known, certain, stays audiences (by rw [certain]; decide)⟩

end Targeting
end FeatureFlags
