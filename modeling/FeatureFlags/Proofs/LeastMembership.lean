import FeatureFlags.Proofs.Termination
import Mathlib.Data.Fintype.Order
import Mathlib.Order.FixedPoints

/-!
Members of segments that refer to each other. Evaluation has no members in a segment that is open,
so what it tells on the way is too little; what it tells in the end is the least assignment of
memberships that fits all definitions. With a set of segments open it tells the least assignment
that fits where these segments have no rules, and opening one more takes away nothing that its own
rules do not need.
-/
namespace FeatureFlags

open Evaluation

/-- Segments are found under the keys they give themselves. -/
def Catalog.SegmentsSelfKeyed (catalog : Catalog) : Prop :=
  ∀ key segment, catalog.segment? key = some segment → segment.key = key

def Segment.Affirmative (segment : Segment) : Prop :=
  ∀ rule ∈ segment.rules, ∀ clause ∈ rule.clauses, clause.op = .segmentMatch → clause.negate = false

/-- No rule asks that the subject is no member of a segment. -/
def Catalog.Affirmative (catalog : Catalog) : Prop :=
  ∀ key segment, catalog.segment? key = some segment → segment.Affirmative

/-- Each segment has the subject as a member if and only if its definition says so. -/
def Setting.Fits (setting : Setting) (member : String → Bool) : Prop :=
  ∀ key segment, setting.catalog.segment? key = some segment →
    member key = segment.verdict setting fun other => member other.key

section

variable {setting : Setting} {member member' : Segment → Bool}
  (hmore : ∀ segment, member segment = true → member' segment = true)

include hmore

/-- With more members of segments, more clauses match. -/
theorem Clause.verdict_mono {clause : Clause}
    (haffirm : clause.op = .segmentMatch → clause.negate = false)
    (h : clause.verdict setting member = true) : clause.verdict setting member' = true := by
  by_cases hop : clause.op = .segmentMatch
  · simp only [Clause.verdict, hop, haffirm hop, bne_iff_ne, ne_eq, Bool.not_eq_false,
      List.any_eq_true, Option.any_eq_true] at h ⊢
    obtain ⟨value, hvalue, segment, hfound, hmember⟩ := h
    exact ⟨value, hvalue, segment, hfound, hmore segment hmember⟩
  · rw [Clause.verdict_of_ne hop] at h ⊢
    exact h

theorem Segment.Rule.verdict_mono {segment : Segment} {rule : Segment.Rule}
    (haffirm : ∀ clause ∈ rule.clauses, clause.op = .segmentMatch → clause.negate = false)
    (h : rule.verdict setting member segment = true) :
    rule.verdict setting member' segment = true := by
  unfold Segment.Rule.verdict at h ⊢
  rw [Bool.and_eq_true, List.all_eq_true] at h ⊢
  refine ⟨fun clause hclause => ?_, h.2⟩
  exact Clause.verdict_mono hmore (haffirm clause hclause) (h.1 clause hclause)

/-- With more members of other segments, a segment has more. -/
theorem Segment.verdict_mono {segment : Segment} (haffirm : segment.Affirmative)
    (h : segment.verdict setting member = true) : segment.verdict setting member' = true := by
  unfold Segment.verdict at h ⊢
  rw [Bool.or_eq_true, Bool.and_eq_true, List.any_eq_true] at h ⊢
  rcases h with hincluded | ⟨hexcluded, rule, hrule, hverdict⟩
  · exact .inl hincluded
  · exact .inr ⟨hexcluded, rule, hrule, Rule.verdict_mono hmore (haffirm rule hrule) hverdict⟩

end

namespace Setting

variable {setting : Setting}

/-- Who is a member if these are; the open segments have no members but those they include. -/
def round (haffirm : setting.catalog.Affirmative) (opened : List String) :
    (String → Bool) →o (String → Bool) where
  toFun member key :=
    match setting.catalog.segment? key with
    | none => false
    | some segment => segment.included.contains setting.subject.key ||
        (!opened.contains key && segment.verdict setting fun other => member other.key)
  monotone' := by
    intro member member' hle key
    rw [Bool.le_iff_imp]
    dsimp only
    cases hfound : setting.catalog.segment? key with
    | none => exact id
    | some segment =>
      simp only [Bool.or_eq_true, Bool.and_eq_true]
      rintro (hincluded | ⟨hclosed, hverdict⟩)
      · exact .inl hincluded
      · refine .inr ⟨hclosed, Segment.verdict_mono (fun other => ?_) (haffirm key segment hfound)
          hverdict⟩
        exact Bool.le_iff_imp.mp (hle other.key)

/-- The least assignment, while these segments are open. -/
noncomputable def least (haffirm : setting.catalog.Affirmative) (opened : List String) :
    String → Bool := OrderHom.lfp (round haffirm opened)

variable (haffirm : setting.catalog.Affirmative) {key : String} {segment : Segment}
  {opened : List String}

theorem round_of_found (hfound : setting.catalog.segment? key = some segment)
    (member : String → Bool) : round haffirm opened member key =
      (segment.included.contains setting.subject.key ||
        (!opened.contains key && segment.verdict setting fun other => member other.key)) := by
  change (match setting.catalog.segment? key with | none => false | some segment => _) = _
  rw [hfound]

theorem round_of_missing (hmissing : setting.catalog.segment? key = none)
    (member : String → Bool) : round haffirm opened member key = false := by
  change (match setting.catalog.segment? key with | none => false | some segment => _) = _
  rw [hmissing]

/-- Another round adds nothing to the least assignment. -/
theorem round_least (opened : List String) :
    round haffirm opened (least haffirm opened) = least haffirm opened :=
  OrderHom.map_lfp (round haffirm opened)

theorem verdict_of_included {member : Segment → Bool}
    (h : segment.included.contains setting.subject.key = true) :
    segment.verdict setting member = true := by
  rw [Segment.verdict, h, Bool.true_or]

theorem included_or_verdict (member : Segment → Bool) :
    (segment.included.contains setting.subject.key || segment.verdict setting member) =
      segment.verdict setting member := by
  cases h : segment.included.contains setting.subject.key with
  | true => rw [verdict_of_included h, Bool.or_self]
  | false => exact Bool.false_or _

/-- A segment that is not open has the members its definition gives it. -/
theorem least_of_closed (hfound : setting.catalog.segment? key = some segment)
    (hclosed : key ∉ opened) : least haffirm opened key =
      segment.verdict setting fun other => least haffirm opened other.key := by
  have hnot : opened.contains key = false := by simpa using hclosed
  rw [← round_least, round_of_found haffirm hfound, round_least, hnot, Bool.not_false,
    Bool.true_and, included_or_verdict]

theorem least_of_open (hfound : setting.catalog.segment? key = some segment)
    (hopen : key ∈ opened) :
    least haffirm opened key = segment.included.contains setting.subject.key := by
  have hcontains : opened.contains key = true := by simpa using hopen
  rw [← round_least, round_of_found haffirm hfound, hcontains, Bool.not_true, Bool.false_and,
    Bool.or_false]

/-- Opening one more segment makes no more members. -/
theorem least_cons_le (key : String) (opened : List String) :
    least haffirm (key :: opened) ≤ least haffirm opened := by
  refine OrderHom.lfp_le _ fun other => ?_
  rw [Bool.le_iff_imp]
  cases hfound : setting.catalog.segment? other with
  | none =>
    rw [round_of_missing haffirm hfound]
    exact fun h => absurd h Bool.false_ne_true
  | some segment =>
    rw [← round_least haffirm opened, round_of_found haffirm hfound,
      round_of_found haffirm hfound, round_least haffirm opened]
    simp only [Bool.or_eq_true, Bool.and_eq_true, Bool.not_eq_true', List.contains_cons,
      Bool.or_eq_false_iff]
    rintro (hincluded | ⟨⟨-, hclosed⟩, hverdict⟩)
    · exact .inl hincluded
    · exact .inr ⟨hclosed, hverdict⟩

/-- What a segment has for members is told with the segment itself open: a subject that would be a
member by its own membership only is none. -/
theorem verdict_least_cons (hfound : setting.catalog.segment? key = some segment)
    (hclosed : key ∉ opened) :
    (segment.verdict setting fun other => least haffirm (key :: opened) other.key) =
      least haffirm opened key := by
  have hle := least_cons_le haffirm key opened
  cases hverdict : segment.verdict setting fun other => least haffirm (key :: opened) other.key with
  | true =>
    rw [least_of_closed haffirm hfound hclosed]
    refine (Segment.verdict_mono (fun other => ?_) (haffirm key segment hfound) hverdict).symm
    exact Bool.le_iff_imp.mp (hle other.key)
  | false =>
    -- Without its rules the assignment is the least one with its rules, too: they admit nobody.
    have hnot : segment.included.contains setting.subject.key = false := by
      by_contra hincluded
      rw [verdict_of_included (Bool.eq_true_of_not_eq_false hincluded)] at hverdict
      cases hverdict
    have hleast : least haffirm opened ≤ least haffirm (key :: opened) := by
      refine OrderHom.lfp_le _ fun other => ?_
      rw [Bool.le_iff_imp]
      cases hother : setting.catalog.segment? other with
      | none =>
        rw [round_of_missing haffirm hother]
        exact fun h => absurd h Bool.false_ne_true
      | some found =>
        by_cases hsame : other = key
        · subst hsame
          rw [hfound] at hother
          cases hother
          rw [round_of_found haffirm hfound, hverdict, hnot, Bool.and_false, Bool.or_false]
          exact fun h => absurd h Bool.false_ne_true
        · rw [← round_least haffirm (key :: opened), round_of_found haffirm hother,
            round_of_found haffirm hother, round_least haffirm (key :: opened)]
          have hcons : (key :: opened).contains other = opened.contains other := by
            simp [hsame]
          rw [hcons]
          exact id
    have hinside : least haffirm (key :: opened) key = false := by
      rw [least_of_open haffirm hfound List.mem_cons_self, hnot]
    have hkey := hleast key
    rw [hinside] at hkey
    exact (Bool.eq_false_of_le_false hkey).symm

/-- It is the least assignment that fits. -/
theorem isLeast_least : IsLeast {member | setting.Fits member} (least haffirm []) := by
  constructor
  · intro key segment hfound
    exact least_of_closed haffirm hfound List.not_mem_nil
  · intro member hfits
    refine OrderHom.lfp_le _ fun key => ?_
    cases hfound : setting.catalog.segment? key with
    | none =>
      rw [round_of_missing haffirm hfound]
      exact Bool.false_le _
    | some segment =>
      rw [round_of_found haffirm hfound, hfits key segment hfound, List.contains_nil,
        Bool.not_false, Bool.true_and, included_or_verdict]

end Setting

namespace Segment

variable {setting : Setting} (haffirm : setting.catalog.Affirmative)
  (hself : setting.catalog.SegmentsSelfKeyed)

include haffirm hself

/-- With segments open, evaluation tells the least assignment for these being open. -/
theorem contains_gives_least {keys opened : List String}
    (hkeys : ∀ key segment, setting.catalog.segment? key = some segment → segment.key ∈ keys)
    (depth : ℕ) {key : String} {segment : Segment}
    (hfound : setting.catalog.segment? key = some segment) (hnodup : opened.Nodup)
    (hsub : opened ⊆ keys) (hdepth : keys.length < depth + opened.length) :
    Gives (segment.contains setting depth) opened (Setting.least haffirm opened key) := by
  induction depth generalizing opened key segment with
  | zero =>
    have hle : opened.length ≤ keys.length := (hnodup.subperm hsub).length_le
    omega
  | succ depth ih =>
    have hkey : segment.key = key := hself key segment hfound
    by_cases hopen : key ∈ opened
    · rw [Setting.least_of_open haffirm hfound hopen]
      exact contains_gives_of_open (by rw [hkey]; exact hopen)
    · have hmem : key ∈ keys := by
        rw [← hkey]
        exact hkeys key segment hfound
      rw [← Setting.verdict_least_cons haffirm hfound hopen]
      refine contains_gives (by rw [hkey]; exact hopen) fun other found hother => ?_
      rw [hkey, hself other found hother]
      exact ih hother (List.nodup_cons.mpr ⟨hopen, hnodup⟩) (List.cons_subset.mpr ⟨hmem, hsub⟩)
        (by simp only [List.length_cons]; omega)

end Segment

namespace Dataset

/-- Of all assignments of memberships that fit the definitions of the segments there is a least one,
and it is what evaluation tells. -/
theorem contains_is_least_membership (data : Dataset) (bucketer : Bucketer) (subject : Subject)
    (recording : Bool) (hself : data.catalog.SegmentsSelfKeyed)
    (haffirm : data.catalog.Affirmative) :
    ∃ least, IsLeast {member | (data.setting bucketer subject recording).Fits member} least ∧
      ∀ key segment, data.segment? key = some segment →
        ∀ depth > data.segments.size, ∀ t : Trail, t.openSegments = [] →
          (segment.contains (data.setting bucketer subject recording) depth t).map Prod.fst =
            some (least key) := by
  refine ⟨_, Setting.isLeast_least haffirm, fun key segment hlive depth hdepth t ht => ?_⟩
  obtain ⟨keys, hkeys, hlength⟩ := data.catalog_within
  have hfound : (data.setting bucketer subject recording).catalog.segment? key = some segment := hlive
  obtain ⟨texts, hsettles⟩ := Segment.contains_gives_least haffirm hself hkeys depth hfound
    List.nodup_nil (List.nil_subset keys) (by simp only [List.length_nil]; omega)
  rw [hsettles t ht]
  rfl

def referring (key other : String) : Segment where
  key := key
  rules := [{ clauses := [{ op := .segmentMatch, values := [.string other] }] }]

/-- Two segments that refer to each other, so that nothing decides who is a member. -/
def eachWay : Dataset where
  segments := ((∅ : Keyed Descriptor).insert "a" (.ofItem (.segment (referring "a" "b")))).insert "b"
    (.ofItem (.segment (referring "b" "a")))

theorem eachWay_segment {key : String} {segment : Segment}
    (h : eachWay.segment? key = some segment) :
    (key = "a" ∧ segment = referring "a" "b") ∨ (key = "b" ∧ segment = referring "b" "a") := by
  obtain ⟨descriptor, hmem, hsegment⟩ := find_live_iff.mp h
  change (key, descriptor) ∈ [("a", Descriptor.ofItem (.segment (referring "a" "b"))),
    ("b", Descriptor.ofItem (.segment (referring "b" "a")))] at hmem
  rcases List.mem_pair.mp hmem with heq | heq
  · cases heq
    cases hsegment
    exact .inl ⟨rfl, rfl⟩
  · cases heq
    cases hsegment
    exact .inr ⟨rfl, rfl⟩

/-- Taking everybody in fits both definitions, but so does taking nobody in. -/
theorem eachWay_has_no_members :
    eachWay.catalog.SegmentsSelfKeyed ∧ eachWay.catalog.Affirmative ∧
      (eachWay.setting Murmur3.bucketer { key := "alice" } true).Fits (fun _ => true) ∧
      ((referring "a" "b").contains (eachWay.setting Murmur3.bucketer { key := "alice" } true) 3
        {}).map Prod.fst = some false := by
  have hself : eachWay.catalog.SegmentsSelfKeyed := by
    intro key segment hfound
    rcases eachWay_segment hfound with ⟨rfl, rfl⟩ | ⟨rfl, rfl⟩ <;> rfl
  have haffirm : eachWay.catalog.Affirmative := by
    intro key segment hfound rule hrule clause hclause _
    rcases eachWay_segment hfound with ⟨rfl, rfl⟩ | ⟨rfl, rfl⟩ <;>
    · rw [List.mem_singleton.mp hrule] at hclause
      rw [List.mem_singleton.mp hclause]
  have hfits : ∀ taken, (eachWay.setting Murmur3.bucketer { key := "alice" } true).Fits
      (fun _ => taken) := by
    intro taken key segment hfound
    rcases eachWay_segment hfound with ⟨rfl, rfl⟩ | ⟨rfl, rfl⟩ <;> cases taken <;> rfl
  obtain ⟨least, hleast, htold⟩ := contains_is_least_membership eachWay Murmur3.bucketer
    { key := "alice" } true hself haffirm
  refine ⟨hself, haffirm, hfits true, ?_⟩
  have hnobody : least "a" ≤ false := hleast.2 (hfits false) "a"
  rw [htold "a" (referring "a" "b") rfl 3 (by decide) {} rfl]
  exact congrArg some (Bool.eq_false_of_le_false hnobody)

end Dataset

end FeatureFlags
