import FeatureFlags.Evaluation

/-!
What flags and segments refer to: flags that they require, segments that their clauses ask about, and
attributes of the subject that clauses or buckets go by. Settings agree on some items if everything
that these refer to is the same in both.
-/
namespace FeatureFlags

/-- Only a clause about segments refers to segments, and only by texts. -/
def Clause.segmentKeys (clause : Clause) : List String :=
  match clause.op with
  | .segmentMatch => clause.values.filterMap Attribute.string?
  | _ => []

/-- The attribute that a rollout goes by, if it names one. -/
def Choice.bucketBy : Choice → Option String
  | .rollout shares => shares.bucketBy
  | .variation _ => none
  | .malformed _ => none

def Flag.choices (flag : Flag) : List Choice := flag.fallthrough :: flag.rules.map Flag.Rule.serve

namespace Item

def clauses : Item → List Clause
  | .flag f => f.rules.flatMap Flag.Rule.clauses
  | .segment s => s.rules.flatMap Segment.Rule.clauses

def bucketBys : Item → List (Option String)
  | .flag f => f.choices.map Choice.bucketBy
  | .segment s => s.rules.map Segment.Rule.bucketBy

def attributeNames (item : Item) : List String :=
  item.clauses.map Clause.attributeName ++ item.bucketBys.filterMap id

def flagKeys : Item → List String
  | .flag f => f.prerequisites.map Prerequisite.key
  | .segment _ => []

def segmentKeys (item : Item) : List String := item.clauses.flatMap Clause.segmentKeys

theorem mem_clauses_of_flag {flag : Flag} {rule : Flag.Rule} {clause : Clause}
    (hrule : rule ∈ flag.rules) (hclause : clause ∈ rule.clauses) :
    clause ∈ (Item.flag flag).clauses := List.mem_flatMap.mpr ⟨rule, hrule, hclause⟩

theorem mem_clauses_of_segment {segment : Segment} {rule : Segment.Rule} {clause : Clause}
    (hrule : rule ∈ segment.rules) (hclause : clause ∈ rule.clauses) :
    clause ∈ (Item.segment segment).clauses := List.mem_flatMap.mpr ⟨rule, hrule, hclause⟩

end Item

/-- The texts of a clause about segments are the keys it refers to. -/
theorem Clause.mem_segmentKeys {clause : Clause} {value : Attribute} {key : String}
    (hop : clause.op = .segmentMatch) (hvalue : value ∈ clause.values)
    (hkey : value.string? = some key) : key ∈ clause.segmentKeys := by
  unfold segmentKeys
  rw [hop]
  exact List.mem_filterMap.mpr ⟨value, hvalue, hkey⟩

namespace Catalog

/-- What these items refer to are such items. -/
structure Closed (catalog : Catalog) (items : Item → Prop) : Prop where
  flag : ∀ {item key other}, items item → key ∈ item.flagKeys → catalog.flag? key = some other →
    items (.flag other)
  segment : ∀ {item key other}, items item → key ∈ item.segmentKeys →
    catalog.segment? key = some other → items (.segment other)

/-- Items that are found by following references. -/
inductive Reaches (catalog : Catalog) (start : Item) : Item → Prop where
  | start : catalog.Reaches start start
  | flag {item : Item} {key : String} {other : Flag} :
      catalog.Reaches start item → key ∈ item.flagKeys → catalog.flag? key = some other →
        catalog.Reaches start (.flag other)
  | segment {item : Item} {key : String} {other : Segment} :
      catalog.Reaches start item → key ∈ item.segmentKeys → catalog.segment? key = some other →
        catalog.Reaches start (.segment other)

variable {catalog : Catalog} {items : Item → Prop}

theorem closed_true (catalog : Catalog) : catalog.Closed fun _ => True where
  flag _ _ _ := trivial
  segment _ _ _ := trivial

/-- What is reached from an item leads nowhere else. -/
theorem closed_reaches (catalog : Catalog) (start : Item) :
    catalog.Closed (catalog.Reaches start) where
  flag := .flag
  segment := .segment

/-- What is reached is the least that is closed. -/
theorem Closed.of_reaches (hclosed : catalog.Closed items) {start item : Item}
    (hstart : items start) (h : catalog.Reaches start item) : items item := by
  induction h with
  | start => exact hstart
  | flag _ hkey hfound ih => exact hclosed.flag ih hkey hfound
  | segment _ hkey hfound ih => exact hclosed.segment ih hkey hfound

end Catalog

namespace Setting

/-- The same is found under every key that the items refer to by, and the subjects have the same keys
and the same attributes that the items name. -/
structure AgreeOn (first second : Setting) (items : Item → Prop) : Prop where
  bucketer : first.bucketer = second.bucketer
  key : first.subject.key = second.subject.key
  secondary : first.subject.secondary = second.subject.secondary
  value : ∀ {item}, items item → ∀ name ∈ item.attributeNames,
    first.subject.value? name = second.subject.value? name
  flag : ∀ {item}, items item → ∀ key ∈ item.flagKeys,
    first.catalog.flag? key = second.catalog.flag? key
  segment : ∀ {item}, items item → ∀ key ∈ item.segmentKeys,
    first.catalog.segment? key = second.catalog.segment? key

variable {first second : Setting} {items : Item → Prop}

theorem agreeOn_recording (setting : Setting) (recording : Bool) :
    setting.AgreeOn { setting with recording } items where
  bucketer := rfl
  key := rfl
  secondary := rfl
  value _ _ _ := rfl
  flag _ _ _ := rfl
  segment _ _ _ := rfl

namespace AgreeOn

theorem symm (h : first.AgreeOn second items) : second.AgreeOn first items where
  bucketer := h.bucketer.symm
  key := h.key.symm
  secondary := h.secondary.symm
  value hitem name hname := (h.value hitem name hname).symm
  flag hitem key hkey := (h.flag hitem key hkey).symm
  segment hitem key hkey := (h.segment hitem key hkey).symm

theorem mono {fewer : Item → Prop} (h : first.AgreeOn second items)
    (hle : ∀ item, fewer item → items item) : first.AgreeOn second fewer where
  bucketer := h.bucketer
  key := h.key
  secondary := h.secondary
  value hitem := h.value (hle _ hitem)
  flag hitem := h.flag (hle _ hitem)
  segment hitem := h.segment (hle _ hitem)

/-- Settings that agree on items lead from them to the same. -/
theorem closed (h : first.AgreeOn second items) (hclosed : first.catalog.Closed items) :
    second.catalog.Closed items where
  flag hitem hkey hfound := hclosed.flag hitem hkey ((h.flag hitem _ hkey).trans hfound)
  segment hitem hkey hfound := hclosed.segment hitem hkey ((h.segment hitem _ hkey).trans hfound)

variable (h : first.AgreeOn second items) {item : Item} (hitem : items item)

include h hitem

/-- A clause among the items sees no difference between the subjects. -/
theorem describes_eq {clause : Clause} (hclause : clause ∈ item.clauses) :
    clause.describes first.subject = clause.describes second.subject := by
  have hname : clause.attributeName ∈ item.attributeNames :=
    List.mem_append_left _ (List.mem_map_of_mem hclause)
  unfold Clause.describes
  rw [h.value hitem _ hname]

/-- Without a name the bucket goes by the key, which is always there. -/
theorem bucket_eq {bucketBy : Option String} (hbucketBy : bucketBy ∈ item.bucketBys)
    (key salt : String) : first.bucket key salt bucketBy = second.bucket key salt bucketBy := by
  have hvalue : first.subject.value? (bucketBy.getD "key") =
      second.subject.value? (bucketBy.getD "key") := by
    cases bucketBy with
    | none =>
      unfold Subject.value?
      rw [Option.getD_none, if_pos rfl, if_pos rfl, h.key]
    | some name =>
      apply h.value hitem
      exact List.mem_append_right _ (List.mem_filterMap.mpr ⟨some name, hbucketBy, rfl⟩)
  unfold bucket Subject.bucketText?
  rw [hvalue, h.secondary, h.bucketer]

end AgreeOn

end Setting

end FeatureFlags
