import FeatureFlags.Proofs.Simulation

/-!
Clauses whose operator has a name that is not known. Such an operator holds of no values, but it is
the clause that is negated, after its values were gone through. So the clause matches no subject,
unless it is negated: then it matches every subject that has the attribute.
-/
namespace FeatureFlags

namespace Operator

def writtenName? : Nat → Document → Option String
  | _, .string name => name
  | _ + 1, .object [(name, .null)] => name
  | _, _ => none

theorem decoder_eq (room : Nat) (document : Document) :
    decoder room document = (writtenName? room document).map ofName := by
  match room, document with
  | _, .string name => cases name <;> rfl
  | _, .object _ => unfold decoder writtenName?; split <;> simp_all
  | _, .null | _, .bool _ | _, .number _ | _, .array _ => rfl

def names : List String := named.map Prod.fst

theorem ofName_of_not_mem {name : String} (h : name ∉ names) : ofName name = .unknown := by
  have hlookup : named.lookup name = none := by
    refine List.lookup_eq_none_iff.mpr fun entry hentry => ?_
    rw [bne_iff_ne]
    rintro rfl
    exact h (List.mem_map_of_mem hentry)
  unfold ofName
  rw [hlookup, Option.getD_none]

end Operator

/-- Whether the subject has an attribute; null counts for nothing. -/
def Subject.has (subject : Subject) (name : String) : Bool :=
  match subject.value? name with
  | none | some .null => false
  | some _ => true

namespace Clause

def operatorName? (room : Nat) (document : Document) : Option String := do
  let members ← Members.read? ["attribute", "op", "values", "negate"] room document
  members.required "op" Operator.writtenName?

variable {clause : Clause}

/-- A clause reads with the operator of its written name. -/
theorem op_of_decoder {room : Nat} {document : Document} {name : String}
    (hname : operatorName? room document = some name)
    (hread : decoder room document = some clause) : clause.op = Operator.ofName name := by
  obtain ⟨members, hmembers, hop⟩ := Option.bind_eq_some_iff.mp hname
  unfold decoder at hread
  rw [hmembers, Option.bind_eq_bind, Option.bind_some] at hread
  obtain ⟨attributeName, -, hread⟩ := Option.bind_eq_some_iff.mp hread
  obtain ⟨op, hread_op, hread⟩ := Option.bind_eq_some_iff.mp hread
  obtain ⟨values, -, hread⟩ := Option.bind_eq_some_iff.mp hread
  obtain ⟨negate, -, hread⟩ := Option.bind_eq_some_iff.mp hread
  obtain ⟨document, hfound, hop⟩ := Option.bind_eq_some_iff.mp hop
  cases hread
  unfold Members.required at hread_op
  rw [hfound, Option.bind_some, Operator.decoder_eq, hop] at hread_op
  exact (Option.some.inj hread_op).symm

theorem not_accepts_of_unknown (hop : clause.op = .unknown) (actual : Attribute) :
    clause.accepts actual = false := by
  unfold accepts
  rw [hop]
  exact List.any_eq_false.mpr fun _ _ => Bool.false_ne_true

/-- An unknown operator accepts nothing, of an array either. -/
theorem not_acceptsAny_of_unknown (hop : clause.op = .unknown) (actual : Attribute) :
    clause.acceptsAny actual = false := by
  cases actual with
  | array items =>
    refine List.any_eq_false.mpr fun item _ => ?_
    rw [not_accepts_of_unknown hop]
    exact Bool.false_ne_true
  | _ => exact not_accepts_of_unknown hop _

/-- Only the negation is left of the clause. -/
theorem describes_of_unknown (hop : clause.op = .unknown) (subject : Subject) :
    clause.describes subject = (clause.negate && subject.has clause.attributeName) := by
  unfold describes Subject.has
  cases subject.value? clause.attributeName with
  | none => exact (Bool.and_false _).symm
  | some actual =>
    cases actual with
    | null => exact (Bool.and_false _).symm
    | _ => simp only [not_acceptsAny_of_unknown hop, Bool.false_bne, Bool.and_true]

end Clause

namespace Evaluation

variable {ι : Type} {p : ι → Evaluation Bool} {list : List ι} {t u : Trail}

/-- Where all hold, each one was found to. -/
theorem exists_of_allM (h : list.allM p t = some (true, u)) {i : ι} (hi : i ∈ list) :
    ∃ before after, p i before = some (true, after) := by
  induction list generalizing t with
  | nil => cases hi
  | cons head rest ih =>
    rw [List.allM_cons] at h
    obtain ⟨holds, between, hhead, hrest⟩ := bind_eq_some_iff.mp h
    cases holds with
    | false => cases hrest
    | true =>
      rcases List.mem_cons.mp hi with heq | hi
      · exact ⟨t, between, heq ▸ hhead⟩
      · exact ih hrest hi

/-- What is found was found to hold. -/
theorem exists_of_findM? {i : ι} (h : list.findM? p t = some (some i, u)) :
    ∃ before after, p i before = some (true, after) := by
  induction list generalizing t with
  | nil => cases h
  | cons head rest ih =>
    rw [findM?_cons] at h
    obtain ⟨found, between, hhead, hrest⟩ := bind_eq_some_iff.mp h
    cases found with
    | false => exact ih hrest
    | true =>
      cases hrest
      exact ⟨t, u, hhead⟩

end Evaluation

open Evaluation

variable {setting : Setting} {member : Segment → Evaluation Bool} {clause : Clause} {t u : Trail}

/-- A clause that never matches. -/
def Clause.Fails (setting : Setting) (member : Segment → Evaluation Bool) (clause : Clause) : Prop :=
  ∀ before after, clause.applies setting member before ≠ some (true, after)

/-- A rule with a clause that fails is not the one that matches. -/
theorem Flag.matchingRule_of_fails (hclause : clause.Fails setting member) {flag : Flag}
    {rule : Flag.Rule} {index : Nat}
    (h : flag.matchingRule setting member t = some (some (rule, index), u)) :
    clause ∉ rule.clauses := by
  intro hmem
  obtain ⟨before, after, hrule⟩ := exists_of_findM? h
  obtain ⟨before, after, happlies⟩ := exists_of_allM hrule hmem
  exact hclause before after happlies

theorem Segment.Rule.applies_of_fails (hclause : clause.Fails setting member) {segment : Segment}
    {rule : Segment.Rule} (hmem : clause ∈ rule.clauses) :
    rule.applies setting member segment t ≠ some (true, u) := by
  intro h
  obtain ⟨holds, between, hclauses, hweight⟩ := bind_eq_some_iff.mp h
  cases holds with
  | false => cases hweight
  | true =>
    obtain ⟨before, after, happlies⟩ := exists_of_allM hclauses hmem
    exact hclause before after happlies

/-- A clause with an operator of an unknown name is read as one, and it matches exactly if it is
negated and the subject has the attribute. Where it does not match, no rule with it applies. -/
theorem Clause.applies_of_unknown_name {room : Nat} {document : Document} {name : String}
    (hname : operatorName? room document = some name) (hunknown : name ∉ Operator.names)
    (hread : decoder room document = some clause) (setting : Setting)
    (member : Segment → Evaluation Bool) :
    let matched := clause.negate && setting.subject.has clause.attributeName
    clause.op = .unknown ∧ clause.applies setting member = pure matched ∧
      (matched = false →
        (∀ flag : Flag, ∀ rule index t u,
          flag.matchingRule setting member t = some (some (rule, index), u) →
            clause ∉ rule.clauses) ∧
        ∀ segment, ∀ rule : Segment.Rule, ∀ t u, clause ∈ rule.clauses →
          rule.applies setting member segment t ≠ some (true, u)) := by
  intro matched
  have hop : clause.op = .unknown :=
    (op_of_decoder hname hread).trans (Operator.ofName_of_not_mem hunknown)
  have happlies : clause.applies setting member = pure matched := by
    rw [applies_of_ne (by rw [hop]; decide), describes_of_unknown hop]
  refine ⟨hop, happlies, fun hmatched => ?_⟩
  have hfails : clause.Fails setting member := by
    intro before after h
    rw [happlies, hmatched] at h
    cases h
  exact ⟨fun _ _ _ _ _ h => Flag.matchingRule_of_fails hfails h,
    fun _ _ _ _ hmem => Segment.Rule.applies_of_fails hfails hmem⟩

namespace Clause

/-- A negated clause that compares an attribute by an operator of the future. -/
def future (attributeName : String) : Document :=
  .object [(some "attribute", .string (some attributeName)),
    (some "op", .string (some "someFutureOp")),
    (some "values", .array [.string (some "alice")]), (some "negate", .bool true)]

def alices : Setting := ⟨Dataset.empty.catalog, { key := "alice" }, Murmur3.bucketer, true⟩

/-- An attribute that the subject does not have. -/
theorem future_without_attribute :
    (decoder Document.maxDepth (future "groups")).map (fun clause => clause.op) =
        some Operator.unknown ∧
      (decoder Document.maxDepth (future "groups")).map (fun clause =>
        (clause.applies alices fun _ => pure false) {}) = some (some (false, {})) := by
  obtain ⟨clause, hread⟩ : ∃ clause, decoder Document.maxDepth (future "groups") = some clause :=
    ⟨_, rfl⟩
  have hclause : clause.attributeName = "groups" := by cases hread; rfl
  obtain ⟨hop, happlies, -⟩ := applies_of_unknown_name rfl (by decide) hread alices
    (fun _ => pure false)
  rw [hread, Option.map_some, Option.map_some, hop, happlies, hclause]
  have hhas : alices.subject.has "groups" = false := rfl
  rw [hhas, Bool.and_false]
  exact ⟨rfl, rfl⟩

/-- The subject has a key, so the negated clause matches, and so does a rule of it. -/
theorem future_matches_key :
    operatorName? Document.maxDepth (future "key") = some "someFutureOp" ∧
      "someFutureOp" ∉ Operator.names ∧
      (decoder Document.maxDepth (future "key")).map (fun clause =>
        ((clause.applies alices fun _ => pure false) {},
          ({ clauses := [clause] } : Segment.Rule).applies alices (fun _ => pure false)
            { key := "beta" } {})) =
        some (some (true, {}), some (true, {})) :=
  ⟨rfl, by decide, rfl⟩

end Clause

end FeatureFlags
