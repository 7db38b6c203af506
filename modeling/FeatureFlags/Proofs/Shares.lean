import FeatureFlags.Proofs.Doubles
import FeatureFlags.Proofs.Verdicts

/-!
What weights come to. The shares of a rollout are gone through for the first running sum that the
bucket is below, and only a share with a weight raises the sum. A bucket that is below none of them,
as the last bucket is wherever the sums stop at one, belongs to the variation listed last, and that
one may have no weight. A rule whose weight is the whole leaves out the last bucket as well.
-/
namespace FeatureFlags

open Doubles

theorem share_zero : share 0 = 0.0 := by decide +kernel

theorem share_whole : share 100000 = 1.0 := by decide +kernel

namespace Rollout

def total (rollout : Rollout) : Nat :=
  rollout.variations.foldl (fun total weighted => total + weighted.weight) 0

def sumFrom (sum : Float) (entries : List WeightedVariation) (count : Nat) : Float :=
  (entries.take count).foldl (fun sum weighted => sum + share weighted.weight) sum

def Covers (rollout : Rollout) (bucket : Float) : Prop :=
  ∃ count, bucket < sumFrom 0 rollout.variations count

/-- Whether a variation is listed with a weight other than zero. -/
def Weighs (rollout : Rollout) (index : Nat) : Prop :=
  ∃ weighted ∈ rollout.variations, weighted.variation = index ∧ weighted.weight ≠ 0

variable {bucket sum : Float} {entries : List WeightedVariation}

/-- A share without weight moves no sum, and so takes no bucket. -/
theorem weight_ne_zero {weighted : WeightedVariation} (hbefore : ¬ bucket < sum)
    (hafter : bucket < sum + share weighted.weight) : weighted.weight ≠ 0 := by
  intro hzero
  rw [hzero, share_zero, lt_add_zero_iff] at hafter
  exact hbefore hafter

theorem pickFrom_of_lt {weighted : WeightedVariation} (h : bucket < sum + share weighted.weight) :
    pickFrom bucket sum (weighted :: entries) = some weighted.variation := by
  cases entries with
  | nil => rfl
  | cons _ _ => exact if_pos h

theorem pickFrom_of_not_lt {weighted next : WeightedVariation}
    (h : ¬ bucket < sum + share weighted.weight) :
    pickFrom bucket sum (weighted :: next :: entries) =
      pickFrom bucket (sum + share weighted.weight) (next :: entries) :=
  if_neg h

/-- A bucket below some running sum goes to a variation that has weight. -/
theorem pickFrom_of_lt_sumFrom {count : Nat} (hbefore : ¬ bucket < sum)
    (h : bucket < sumFrom sum entries count) :
    ∃ weighted ∈ entries,
      weighted.weight ≠ 0 ∧ pickFrom bucket sum entries = some weighted.variation := by
  induction entries generalizing sum count with
  | nil =>
    unfold sumFrom at h
    rw [List.take_nil] at h
    exact absurd h hbefore
  | cons weighted rest ih =>
    cases count with
    | zero => exact absurd h hbefore
    | succ count =>
      by_cases hafter : bucket < sum + share weighted.weight
      · exact ⟨weighted, List.mem_cons_self, weight_ne_zero hbefore hafter, pickFrom_of_lt hafter⟩
      · obtain ⟨picked, hpicked, hweight, hpick⟩ := ih hafter h
        refine ⟨picked, List.mem_cons_of_mem weighted hpicked, hweight, ?_⟩
        obtain ⟨next, others, rfl⟩ := List.exists_cons_of_ne_nil (List.ne_nil_of_mem hpicked)
        rw [pickFrom_of_not_lt hafter, hpick]

/-- A bucket that no running sum exceeds goes to the last variation. -/
theorem pickFrom_of_not_lt_sumFrom (h : ∀ count, ¬ bucket < sumFrom sum entries count) :
    pickFrom bucket sum entries = entries.getLast?.map (·.variation) := by
  induction entries generalizing sum with
  | nil => rfl
  | cons weighted rest ih =>
    have hrest : ∀ count, ¬ bucket < sumFrom (sum + share weighted.weight) rest count :=
      fun count => h (count + 1)
    cases rest with
    | nil => rfl
    | cons next others => rw [pickFrom_of_not_lt (hrest 0), ih hrest, List.getLast?_cons_cons]

/-- What is served has a weight if the bucket is below a running sum; otherwise the last entry is
served, and it is up to that one. -/
theorem weighs_pick_iff (rollout : Rollout) (hbucket : 0.0 ≤ bucket)
    (hentries : rollout.variations ≠ []) :
    ∃ index, rollout.pick bucket = some index ∧
      (rollout.Weighs index ↔ rollout.Covers bucket ∨
        ∃ last, rollout.variations.getLast? = some last ∧ rollout.Weighs last.variation) := by
  have hzero : (0 : Float) = 0.0 := by decide +kernel
  by_cases hcovers : rollout.Covers bucket
  · obtain ⟨count, hcount⟩ := hcovers
    obtain ⟨weighted, hmem, hweight, hpick⟩ :=
      pickFrom_of_lt_sumFrom (hzero ▸ not_lt_zero hbucket) hcount
    exact ⟨weighted.variation, hpick,
      iff_of_true ⟨weighted, hmem, rfl, hweight⟩ (.inl ⟨count, hcount⟩)⟩
  · have hlast := List.getLast?_eq_some_getLast hentries
    have hpick : rollout.pick bucket = some (rollout.variations.getLast hentries).variation := by
      unfold pick
      rw [pickFrom_of_not_lt_sumFrom (not_exists.mp hcovers), hlast, Option.map_some]
    refine ⟨_, hpick, fun hweighs => .inr ⟨_, hlast, hweighs⟩, ?_⟩
    rintro (hcovers' | ⟨last, hfound, hweighs⟩)
    · exact absurd hcovers' hcovers
    · exact Option.some.inj (hlast.symm.trans hfound) ▸ hweighs

end Rollout

/-- A rule whose weight is the whole takes in every bucket but the last. -/
theorem Segment.Rule.admits_whole {bucket : Float} (h : bucket ≤ 1.0) :
    Rule.admits bucket 100000 = !(bucket == 1.0) := by
  unfold Rule.admits
  rw [share_whole, Bool.eq_iff_iff, decide_eq_true_iff, Bool.not_eq_true', lt_iff_beq_eq_false h]

namespace Setting

open Evaluation

/-- Keeps to the buckets between zero and one. -/
def BucketsWithin (bucketer : Bucketer) : Prop :=
  ∀ text, 0.0 ≤ bucketer text ∧ bucketer text ≤ 1.0

variable {setting : Setting}

theorem place_within (h : BucketsWithin setting.bucketer) (key salt : String)
    (bucketBy : Option String) :
    0.0 ≤ setting.place key salt bucketBy ∧ setting.place key salt bucketBy ≤ 1.0 := by
  have hfirst : (0.0 : Float) ≤ 0.0 ∧ (0.0 : Float) ≤ 1.0 := by decide +kernel
  unfold place
  cases setting.subject.bucketText? key salt bucketBy with
  | none => exact hfirst
  | some text => exact h text

/-- Weights that add up to the whole always serve a variation. It is listed with a weight if and only
if the bucket is below a running sum or the last variation listed has a weight somewhere. A rule of
the whole weight takes in who satisfies its clauses, unless the bucket is the last. -/
theorem weights_decide (h : BucketsWithin setting.bucketer) :
    (∀ (flag : Flag) (shares : Rollout) (t : Trail),
      shares.total = 100000 →
        ∃ index u, flag.choose setting (.rollout shares) t = some (some index, u) ∧
          (shares.Weighs index ↔
            shares.Covers (setting.place flag.key flag.salt shares.bucketBy) ∨
              ∃ last, shares.variations.getLast? = some last ∧ shares.Weighs last.variation)) ∧
    ∀ (member : Segment → Evaluation Bool) (segment : Segment) (rule : Segment.Rule) (t u : Trail),
      rule.weight = some 100000 →
      rule.clauses.allM (Clause.applies setting member) t = some (true, u) →
        ∃ v, rule.applies setting member segment t =
          some (!(setting.place segment.key segment.salt rule.bucketBy == 1.0), v) := by
  refine ⟨fun flag shares t hweights => ?_, fun member segment rule t u hweight hclauses => ?_⟩
  · have hentries : shares.variations ≠ [] := by
      rintro hnil
      unfold Rollout.total at hweights
      rw [hnil] at hweights
      cases hweights
    obtain ⟨index, hpick, hweighs⟩ := shares.weighs_pick_iff
      (place_within h flag.key flag.salt shares.bucketBy).1 hentries
    obtain ⟨texts, hbucket⟩ : Gives (setting.bucket flag.key flag.salt shares.bucketBy)
      t.openSegments (setting.place flag.key flag.salt shares.bucketBy) := bucket_gives _ _ _
    refine ⟨index, { t with hashed := t.hashed ++ texts }, ?_, hweighs⟩
    change (setting.bucket _ _ _ >>= _) t = _
    rw [bind_apply, hbucket t rfl, Option.bind_some, hpick]
    rfl
  · obtain ⟨texts, hbucket⟩ : Gives (setting.bucket segment.key segment.salt rule.bucketBy)
      u.openSegments (setting.place segment.key segment.salt rule.bucketBy) := bucket_gives _ _ _
    refine ⟨{ u with hashed := u.hashed ++ texts }, ?_⟩
    unfold Segment.Rule.applies
    rw [bind_apply, hclauses, Option.bind_some, if_pos rfl, hweight]
    change (setting.bucket _ _ _ >>= _) u = _
    rw [bind_apply, hbucket u rfl, Option.bind_some, Segment.Rule.admits_whole
      (place_within h segment.key segment.salt rule.bucketBy).2]
    rfl

def constant (bucket : Float) : Setting :=
  ⟨Dataset.empty.catalog, { key := "alice" }, fun _ => bucket, true⟩

/-- The share is the whole, and another one of no weight follows it. -/
def wholeThenNone : Rollout := { variations := [⟨0, 100000⟩, ⟨1, 0⟩] }

/-- In the middle the variation with the weight is served, and the whole takes the subject in. -/
theorem middle_weighs :
    BucketsWithin (constant 0.5).bucketer ∧
      wholeThenNone.total = 100000 ∧
      (∃ index u, ({ key := "checkout" } : Flag).choose (constant 0.5) (.rollout wholeThenNone) {} =
        some (some index, u) ∧ wholeThenNone.Weighs index) ∧
      ∃ v, ({ weight := some 100000 } : Segment.Rule).applies (constant 0.5) (fun _ => pure false)
        { key := "beta" } {} = some (true, v) := by
  have hmiddle : (0.0 : Float) ≤ 0.5 ∧ (0.5 : Float) ≤ 1.0 ∧ (0.5 : Float) < 0 + share 100000 := by
    decide +kernel
  have hwithin : BucketsWithin (constant 0.5).bucketer := fun _ => ⟨hmiddle.1, hmiddle.2.1⟩
  obtain ⟨hrollout, hsegment⟩ := weights_decide hwithin
  obtain ⟨index, u, hchoose, hweighs⟩ := hrollout { key := "checkout" } wholeThenNone {} rfl
  obtain ⟨v, hrule⟩ := hsegment (fun _ => pure false) { key := "beta" } { weight := some 100000 }
    {} {} rfl rfl
  have hnotlast : (!((0.5 : Float) == 1.0)) = true := by decide +kernel
  refine ⟨hwithin, rfl, ⟨index, u, hchoose, hweighs.mpr (.inl ⟨1, hmiddle.2.2⟩)⟩, v, ?_⟩
  rw [hrule]
  exact congrArg (fun holds => some (holds, v)) hnotlast

/-- A text that Murmur3 gives the last bucket. -/
def lastText : String := "checkout.launch.TqOtBMFQNmR3ofUV"

/-- Of the last bucket, the variation without a weight is served, and the whole leaves it out. -/
theorem last_weighs_nothing :
    BucketsWithin (constant 1.0).bucketer ∧
      Murmur3.bucketer lastText = 1.0 ∧
      wholeThenNone.total = 100000 ∧
      (∃ u, ({ key := "checkout" } : Flag).choose (constant 1.0) (.rollout wholeThenNone) {} =
        some (some 1, u)) ∧
      ¬ wholeThenNone.Weighs 1 ∧
      ∃ v, ({ weight := some 100000 } : Segment.Rule).applies (constant 1.0) (fun _ => pure false)
        { key := "beta" } {} = some (false, v) := by
  have hlast : (0.0 : Float) ≤ 1.0 ∧ (1.0 : Float) ≤ 1.0 := by decide +kernel
  have hwhole : ¬ (1.0 : Float) < 0 + share 100000 := by decide +kernel
  have hpick : wholeThenNone.pick 1.0 = some 1 := Rollout.pickFrom_of_not_lt hwhole
  have hadmits : Segment.Rule.admits 1.0 100000 = false := by decide +kernel
  refine ⟨fun _ => hlast, by decide +kernel, rfl, ⟨{ hashed := ["checkout..alice"] }, ?_⟩, ?_,
    { hashed := ["beta..alice"] }, ?_⟩
  · exact congrArg (fun picked => some (picked, _)) hpick
  · rintro ⟨weighted, hmem, hvariation, hweight⟩
    simp only [wholeThenNone, List.mem_cons, List.not_mem_nil, or_false] at hmem
    rcases hmem with rfl | rfl
    · cases hvariation
    · exact hweight rfl
  · exact congrArg (fun holds => some (holds, _)) hadmits

end Setting

end FeatureFlags
