import FeatureFlags.Unicode.CharSet
import Mathlib.Data.List.Basic
import Mathlib.Order.MinMax

/-!
What sets of characters hold. Joining ranges keeps what they hold and leaves gaps between them, and so
the gaps of a set are all other characters. A set that is written in lines holds what the ranges in
these lines hold.
-/
namespace FeatureFlags.Unicode.CharSet

def Covers (ranges : List (Nat × Nat)) (n : Nat) : Prop := ∃ r ∈ ranges, r.1 ≤ n ∧ n ≤ r.2

/-- A code point that is one of a character. -/
structure IsPoint (n : Nat) : Prop where
  scalar : n < 0xD800 ∨ 0xDFFF < n
  le_max : n ≤ maxPoint

/-- Ranges in order with gaps between them. -/
structure IsTidy (ranges : List (Nat × Nat)) : Prop where
  valid : ∀ r ∈ ranges, r.1 ≤ r.2
  apart : ranges.Pairwise fun a b => a.2 + 1 < b.1

variable {ranges : List (Nat × Nat)} {n : Nat}

/-- Membership in a set is membership in one of its ranges. -/
theorem containsPoint_iff {set : CharSet} : set.containsPoint n = true ↔ Covers set.ranges n := by
  simp [containsPoint, Covers]

theorem covers_nil : ¬ Covers [] n := fun ⟨_, hr, _⟩ => List.not_mem_nil hr

theorem covers_cons {first last : Nat} :
    Covers ((first, last) :: ranges) n ↔ (first ≤ n ∧ n ≤ last) ∨ Covers ranges n := by
  simp [Covers]

theorem covers_append {others : List (Nat × Nat)} :
    Covers (ranges ++ others) n ↔ Covers ranges n ∨ Covers others n := by
  simp [Covers, or_and_right, exists_or]

theorem covers_perm {others : List (Nat × Nat)} (h : ranges.Perm others) :
    Covers ranges n ↔ Covers others n := by
  simp only [Covers, h.mem_iff]

/-- A range holds the same characters without its surrogates. -/
theorem covers_withoutSurrogates (hn : IsPoint n) (range : Nat × Nat) :
    Covers (withoutSurrogates range) n ↔ range.1 ≤ n ∧ n ≤ range.2 := by
  obtain ⟨first, last⟩ := range
  have hscalar := hn.scalar
  have hbelow : Covers (if first < 0xD800 then [(first, min last 0xD7FF)] else []) n ↔
      first ≤ n ∧ n ≤ last ∧ n < 0xD800 := by
    split <;> simp [covers_cons, covers_nil] <;> omega
  have habove : Covers (if 0xDFFF < last then [(max first 0xE000, last)] else []) n ↔
      first ≤ n ∧ n ≤ last ∧ 0xDFFF < n := by
    split <;> simp [covers_cons, covers_nil] <;> omega
  rw [withoutSurrogates, covers_append, hbelow, habove]
  omega

theorem covers_flatMap_withoutSurrogates (hn : IsPoint n) (ranges : List (Nat × Nat)) :
    Covers (ranges.flatMap withoutSurrogates) n ↔ Covers ranges n := by
  induction ranges with
  | nil => rfl
  | cons range rest ih =>
    rw [List.flatMap_cons, covers_append, covers_withoutSurrogates hn, ih]
    exact covers_cons.symm

/-- Joining ranges that overlap or touch loses no point and adds none. -/
theorem covers_joinFrom {first last : Nat} (hfirst : ∀ r ∈ ranges, first ≤ r.1)
    (hordered : ranges.Pairwise fun a b => a.1 ≤ b.1) :
    Covers (joinFrom first last ranges) n ↔ (first ≤ n ∧ n ≤ last) ∨ Covers ranges n := by
  induction ranges generalizing first last with
  | nil => exact covers_cons
  | cons range rest ih =>
    obtain ⟨a, b⟩ := range
    obtain ⟨hnext, hrest⟩ := List.pairwise_cons.mp hordered
    have ha : first ≤ a := hfirst (a, b) List.mem_cons_self
    rw [joinFrom, covers_cons]
    split
    · next htouch =>
      rw [ih (fun r hr => ha.trans (hnext r hr)) hrest, ← or_assoc]
      exact or_congr_left (by omega)
    · rw [covers_cons, ih hnext hrest]

/-- What was joined does not touch any more. -/
theorem tidy_joinFrom {first last : Nat} (hvalid : first ≤ last)
    (hfirst : ∀ r ∈ ranges, first ≤ r.1 ∧ r.1 ≤ r.2)
    (hordered : ranges.Pairwise fun a b => a.1 ≤ b.1) :
    IsTidy (joinFrom first last ranges) ∧ ∀ r ∈ joinFrom first last ranges, first ≤ r.1 := by
  induction ranges generalizing first last with
  | nil => exact ⟨⟨by simpa [joinFrom] using hvalid, List.pairwise_singleton _ _⟩, by simp [joinFrom]⟩
  | cons range rest ih =>
    obtain ⟨a, b⟩ := range
    obtain ⟨hnext, hrest⟩ := List.pairwise_cons.mp hordered
    obtain ⟨⟨ha, hab⟩, hvalids⟩ := List.forall_mem_cons.mp hfirst
    rw [joinFrom]
    split
    · exact ih (hvalid.trans (le_max_left _ _)) hvalids hrest
    · next hgap =>
      obtain ⟨htidy, hlow⟩ := ih hab (fun r hr => ⟨hnext r hr, (hvalids r hr).2⟩) hrest
      refine ⟨⟨List.forall_mem_cons.mpr ⟨hvalid, htidy.valid⟩, ?_⟩, ?_⟩
      · refine List.pairwise_cons.mpr ⟨fun r hr => ?_, htidy.apart⟩
        have hr := hlow r hr
        omega
      · exact List.forall_mem_cons.mpr ⟨le_refl _, fun r hr => ha.trans (hlow r hr)⟩

theorem covers_join (hordered : ranges.Pairwise fun a b => a.1 ≤ b.1) :
    Covers (join ranges) n ↔ Covers ranges n := by
  cases ranges with
  | nil => rfl
  | cons range rest =>
    obtain ⟨hfirst, hrest⟩ := List.pairwise_cons.mp hordered
    exact (covers_joinFrom hfirst hrest).trans covers_cons.symm

theorem tidy_join (hvalid : ∀ r ∈ ranges, r.1 ≤ r.2)
    (hordered : ranges.Pairwise fun a b => a.1 ≤ b.1) : IsTidy (join ranges) := by
  cases ranges with
  | nil => exact ⟨by simp [join], List.Pairwise.nil⟩
  | cons range rest =>
    obtain ⟨hfirst, hrest⟩ := List.pairwise_cons.mp hordered
    obtain ⟨hrange, hvalids⟩ := List.forall_mem_cons.mp hvalid
    exact (tidy_joinFrom hrange (fun r hr => ⟨hfirst r hr, hvalids r hr⟩) hrest).1

theorem isBefore_trans (a b c : Nat × Nat) (hab : isBefore a b = true) (hbc : isBefore b c = true) :
    isBefore a c = true := by
  simp only [isBefore, decide_eq_true_eq] at *
  omega

theorem isBefore_total (a b : Nat × Nat) : (isBefore a b || isBefore b a) = true := by
  simp only [isBefore, Bool.or_eq_true, decide_eq_true_eq]
  omega

theorem ordered_mergeSort (ranges : List (Nat × Nat)) :
    (ranges.mergeSort isBefore).Pairwise fun a b => a.1 ≤ b.1 :=
  (List.pairwise_mergeSort isBefore_trans isBefore_total ranges).imp of_decide_eq_true

theorem IsTidy.ordered (h : IsTidy ranges) : ranges.Pairwise fun a b => isBefore a b = true := by
  refine List.Pairwise.imp_of_mem (fun {a b} ha _ hab => ?_) h.apart
  have hvalid := h.valid a ha
  exact decide_eq_true (by omega)

/-- A set holds the points of the ranges it was made of, in whatever order they were given. -/
theorem contains_ofRanges (hn : IsPoint n) (ranges : List (Nat × Nat)) :
    (ofRanges ranges).containsPoint n = true ↔ Covers ranges n := by
  rw [containsPoint_iff, ofRanges, covers_join (ordered_mergeSort _),
    covers_perm (List.mergeSort_perm _ _), covers_flatMap_withoutSurrogates hn]

theorem valid_withoutSurrogates {range : Nat × Nat} (hvalid : range.1 ≤ range.2) :
    ∀ r ∈ withoutSurrogates range, r.1 ≤ r.2 ∧ range.1 ≤ r.1 ∧ r.2 ≤ range.2 := by
  obtain ⟨first, last⟩ := range
  intro r hr
  simp only [withoutSurrogates, List.mem_append] at hr
  rcases hr with hr | hr
  · split at hr
    · rw [List.mem_singleton.mp hr]
      dsimp only at *
      omega
    · cases hr
  · split at hr
    · rw [List.mem_singleton.mp hr]
      dsimp only at *
      omega
    · cases hr

theorem apart_withoutSurrogates (range : Nat × Nat) :
    (withoutSurrogates range).Pairwise fun a b => a.2 + 1 < b.1 := by
  obtain ⟨first, last⟩ := range
  simp only [withoutSurrogates]
  split <;> split <;> simp
  omega

theorem tidy_flatMap_withoutSurrogates (h : IsTidy ranges) :
    IsTidy (ranges.flatMap withoutSurrogates) := by
  induction ranges with
  | nil => exact h
  | cons range rest ih =>
    obtain ⟨hrange, hvalids⟩ := List.forall_mem_cons.mp h.valid
    obtain ⟨hgap, hapart⟩ := List.pairwise_cons.mp h.apart
    have hrest := ih ⟨hvalids, hapart⟩
    have hparts := valid_withoutSurrogates hrange
    rw [List.flatMap_cons]
    refine ⟨List.forall_mem_append.mpr ⟨fun r hr => (hparts r hr).1, hrest.valid⟩,
      List.pairwise_append.mpr ⟨apart_withoutSurrogates range, hrest.apart, fun r hr s hs => ?_⟩⟩
    obtain ⟨later, hlater, hs⟩ := List.mem_flatMap.mp hs
    have hlow := (valid_withoutSurrogates (hvalids later hlater) s hs).2.1
    have hhigh := (hparts r hr).2.2
    have hnext := hgap later hlater
    omega

theorem tidy_ofRanges (hvalid : ∀ r ∈ ranges, r.1 ≤ r.2) : IsTidy (ofRanges ranges).ranges := by
  refine tidy_join (fun r hr => ?_) (ordered_mergeSort _)
  obtain ⟨range, hrange, hr⟩ := List.mem_flatMap.mp ((List.mergeSort_perm _ _).mem_iff.mp hr)
  exact (valid_withoutSurrogates (hvalid range hrange) r hr).1

section

variable {a b : CharSet}

theorem ordered_merge (ha : IsTidy a.ranges) (hb : IsTidy b.ranges) :
    (a.ranges.merge b.ranges isBefore).Pairwise fun a b => a.1 ≤ b.1 :=
  (List.pairwise_merge isBefore_trans isBefore_total _ _ ha.ordered hb.ordered).imp of_decide_eq_true

/-- A union holds what either set holds. -/
theorem contains_union (ha : IsTidy a.ranges) (hb : IsTidy b.ranges) :
    (a.union b).containsPoint n = true ↔ a.containsPoint n = true ∨ b.containsPoint n = true := by
  simp only [containsPoint_iff]
  rw [union, covers_join (ordered_merge ha hb), covers_perm (List.merge_perm_append _), covers_append]

theorem tidy_union (ha : IsTidy a.ranges) (hb : IsTidy b.ranges) : IsTidy (a.union b).ranges := by
  refine tidy_join (fun r hr => ?_) (ordered_merge ha hb)
  rcases List.mem_append.mp ((List.merge_perm_append _).mem_iff.mp hr) with hr | hr
  · exact ha.valid r hr
  · exact hb.valid r hr

/-- From a point on, the gaps hold what the ranges leave out. -/
theorem covers_gapsFrom (hn : n ≤ maxPoint) {next : Nat} (htidy : IsTidy ranges)
    (hnext : ∀ r ∈ ranges, next ≤ r.1) :
    Covers (gapsFrom next ranges) n ↔ next ≤ n ∧ ¬ Covers ranges n := by
  induction ranges generalizing next with
  | nil =>
    rw [gapsFrom]
    split
    · simp [covers_cons, covers_nil, hn]
    · simp [covers_nil]
      omega
  | cons range rest ih =>
    obtain ⟨first, last⟩ := range
    obtain ⟨hvalid, hvalids⟩ := List.forall_mem_cons.mp htidy.valid
    obtain ⟨hgap, hapart⟩ := List.pairwise_cons.mp htidy.apart
    have hfirst : next ≤ first := hnext (first, last) List.mem_cons_self
    have hlater : Covers rest n → last + 1 < n := fun ⟨r, hr, hle, _⟩ => (hgap r hr).trans_le hle
    have hrest := ih ⟨hvalids, hapart⟩ fun r hr => (hgap r hr).le
    dsimp only at hvalid
    rw [gapsFrom, covers_cons]
    split
    · rw [covers_cons, hrest]
      by_cases hcovers : Covers rest n
      · have := hlater hcovers
        simp only [hcovers, not_true, and_false, or_true, or_false, iff_false]
        omega
      · simp only [hcovers, not_false_eq_true, and_true, or_false]
        omega
    · rw [hrest]
      by_cases hcovers : Covers rest n
      · simp [hcovers]
      · simp only [hcovers, not_false_eq_true, and_true, or_false]
        omega

theorem tidy_gapsFrom {next : Nat} (htidy : IsTidy ranges) (hnext : ∀ r ∈ ranges, next ≤ r.1) :
    IsTidy (gapsFrom next ranges) ∧ ∀ r ∈ gapsFrom next ranges, next ≤ r.1 := by
  induction ranges generalizing next with
  | nil =>
    rw [gapsFrom]
    split
    · next hle => exact ⟨⟨by simpa using hle, List.pairwise_singleton _ _⟩, by simp⟩
    · exact ⟨⟨by simp, List.Pairwise.nil⟩, by simp⟩
  | cons range rest ih =>
    obtain ⟨first, last⟩ := range
    obtain ⟨hvalid, hvalids⟩ := List.forall_mem_cons.mp htidy.valid
    obtain ⟨hgap, hapart⟩ := List.pairwise_cons.mp htidy.apart
    have hfirst : next ≤ first := hnext (first, last) List.mem_cons_self
    obtain ⟨hrest, hlow⟩ := ih ⟨hvalids, hapart⟩ fun r hr => (hgap r hr).le
    dsimp only at hvalid hlow
    rw [gapsFrom]
    split
    · refine ⟨⟨List.forall_mem_cons.mpr ⟨?_, hrest.valid⟩, ?_⟩, ?_⟩
      · dsimp only
        omega
      · refine List.pairwise_cons.mpr ⟨fun r hr => ?_, hrest.apart⟩
        have hr := hlow r hr
        omega
      · refine List.forall_mem_cons.mpr ⟨le_refl _, fun r hr => ?_⟩
        have hr := hlow r hr
        omega
    · refine ⟨hrest, fun r hr => ?_⟩
      have hr := hlow r hr
      omega

/-- The complement of a tidy set holds exactly the other points. -/
theorem contains_compl (hn : IsPoint n) (ha : IsTidy a.ranges) :
    a.compl.containsPoint n = true ↔ ¬ a.containsPoint n = true := by
  simp only [containsPoint_iff]
  rw [compl, covers_flatMap_withoutSurrogates hn,
    covers_gapsFrom hn.le_max ha fun r _ => Nat.zero_le r.1]
  simp

theorem tidy_compl (ha : IsTidy a.ranges) : IsTidy a.compl.ranges :=
  tidy_flatMap_withoutSurrogates (tidy_gapsFrom ha fun r _ => Nat.zero_le r.1).1

/-- A difference holds what the first set holds and the second does not. -/
theorem contains_diff (hn : IsPoint n) (ha : IsTidy a.ranges) (hb : IsTidy b.ranges) :
    (a.diff b).containsPoint n = true ↔ a.containsPoint n = true ∧ ¬ b.containsPoint n = true := by
  rw [diff, contains_compl hn (tidy_union (tidy_compl ha) hb), contains_union (tidy_compl ha) hb,
    contains_compl hn ha, not_or, not_not]

end

/-- Lines with the characters of each. A closed table is read through its characters, which are found
much faster than a text is taken off its bytes. -/
inductive Spelled : List String → List (List Char) → Prop
  | nil : Spelled [] []
  | cons {line : String} {chars : List Char} {lines : List String} {texts : List (List Char)}
      (first : line = String.ofList chars) (rest : Spelled lines texts) :
      Spelled (line :: lines) (chars :: texts)

theorem Spelled.map_toList {lines : List String} {texts : List (List Char)} (h : Spelled lines texts) :
    lines.map String.toList = texts := by
  induction h with
  | nil => rfl
  | cons first rest ih => rw [List.map_cons, first, String.toList_ofList, ih]

/-- What the characters of each line show holds of the texts of the lines. -/
theorem Spelled.forall {lines : List String} {texts : List (List Char)} (h : Spelled lines texts)
    {P : List Char → Bool} (hall : texts.all P = true) : ∀ line ∈ lines, P line.toList = true := by
  rw [← h.map_toList, List.all_map] at hall
  exact List.all_eq_true.mp hall

def wordsAll (P : Nat × Nat → Bool) (text : List Char) : Bool := (words text).all (P ∘ readRange)

/-- A fact about all ranges of a table follows from a check of its lines, character by character. -/
theorem forall_mem_readLines {P : Nat × Nat → Bool} {lines : List String}
    (h : ∀ line ∈ lines, wordsAll P line.toList = true) : ∀ r ∈ readLines lines, P r = true := by
  intro r hr
  obtain ⟨line, hline, hr⟩ := List.mem_flatMap.mp hr
  obtain ⟨word, hword, rfl⟩ := List.mem_map.mp hr
  exact List.all_eq_true.mp (h line hline) word hword

/-- Lines whose ranges begin no later than they end. -/
def AreValid (lines : List String) : Prop :=
  ∀ line ∈ lines, wordsAll (fun r => r.1 ≤ r.2) line.toList = true

theorem AreValid.le {lines : List String} (h : AreValid lines) : ∀ r ∈ readLines lines, r.1 ≤ r.2 :=
  fun r hr => of_decide_eq_true (forall_mem_readLines h r hr)

theorem AreValid.tidy_ofLines {lines : List String} (h : AreValid lines) :
    IsTidy (ofLines lines).ranges := tidy_ofRanges h.le

theorem contains_ofLines (hn : IsPoint n) (lines : List String) :
    (ofLines lines).containsPoint n = true ↔ Covers (readLines lines) n := contains_ofRanges hn _

theorem contains_unions (hn : IsPoint n) (sets : List CharSet) :
    (unions sets).containsPoint n = true ↔ ∃ set ∈ sets, set.containsPoint n = true := by
  rw [unions, contains_ofRanges hn]
  simp only [Covers, List.mem_flatMap, containsPoint_iff]
  constructor
  · rintro ⟨r, ⟨set, hset, hr⟩, hrange⟩
    exact ⟨set, hset, r, hr, hrange⟩
  · rintro ⟨set, hset, r, hr, hrange⟩
    exact ⟨r, ⟨set, hset, hr⟩, hrange⟩

theorem tidy_unions {sets : List CharSet} (h : ∀ set ∈ sets, IsTidy set.ranges) :
    IsTidy (unions sets).ranges := by
  refine tidy_ofRanges fun r hr => ?_
  obtain ⟨set, hset, hr⟩ := List.mem_flatMap.mp hr
  exact (h set hset).valid r hr

def categoryLines : { lines : List String // AreValid lines } :=
  ⟨categoryTable.flatMap (·.2), by
    apply Spelled.forall
    · repeat (apply Spelled.cons rfl)
      exact .nil
    · decide +kernel⟩

theorem tidy_categories {row : String × CharSet} (h : row ∈ categories) : IsTidy row.2.ranges := by
  obtain ⟨given, hgiven, rfl⟩ := List.mem_map.mp h
  have hvalid : AreValid given.2 :=
    fun line hline => categoryLines.property line (List.mem_flatMap.mpr ⟨given, hgiven, hline⟩)
  exact hvalid.tidy_ofLines

theorem contains_assigned (hn : IsPoint n) :
    assigned.containsPoint n = true ↔ ∃ row ∈ categoryTable, Covers (readLines row.2) n := by
  rw [assigned, contains_unions hn]
  simp [categories, contains_ofLines hn]

theorem tidy_assigned : IsTidy assigned.ranges := by
  refine tidy_unions fun set hset => ?_
  obtain ⟨row, hrow, rfl⟩ := List.mem_map.mp hset
  exact tidy_categories hrow

theorem tidy_named (names : List String) :
    IsTidy (unions ((categories.filter (names.contains ·.1)).map (·.2))).ranges := by
  refine tidy_unions fun set hset => ?_
  obtain ⟨row, hrow, rfl⟩ := List.mem_map.mp hset
  exact tidy_categories (List.mem_filter.mp hrow).1

/-- Categories hold what their rows hold, and unassigned is what no row holds. -/
theorem contains_ofCategories (hn : IsPoint n) (names : List String) :
    (ofCategories names).containsPoint n = true ↔
      (∃ row ∈ categoryTable, names.contains row.1 = true ∧ Covers (readLines row.2) n) ∨
        (names.contains "Cn" = true ∧ ∀ row ∈ categoryTable, ¬ Covers (readLines row.2) n) := by
  have hnamed : (unions ((categories.filter (names.contains ·.1)).map (·.2))).containsPoint n = true ↔
      ∃ row ∈ categoryTable, names.contains row.1 = true ∧ Covers (readLines row.2) n := by
    rw [contains_unions hn]
    simp [categories, List.filter_map, contains_ofLines hn, and_assoc]
  rw [ofCategories]
  split
  · next hunassigned =>
    rw [contains_union (tidy_named names) (tidy_compl tidy_assigned), hnamed,
      contains_compl hn tidy_assigned, contains_assigned hn]
    simp only [hunassigned, true_and, not_exists, not_and]
  · next hassigned =>
    simp only [hnamed, hassigned, Bool.false_eq_true, false_and, or_false]

theorem tidy_ofCategories (names : List String) : IsTidy (ofCategories names).ranges := by
  rw [ofCategories]
  split
  · exact tidy_union (tidy_named names) (tidy_compl tidy_assigned)
  · exact tidy_named names

end FeatureFlags.Unicode.CharSet
