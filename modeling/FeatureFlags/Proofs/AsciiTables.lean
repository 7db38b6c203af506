import FeatureFlags.Proofs.CharSets
import FeatureFlags.Proofs.HostTexts

/-!
What the tables of characters say of ASCII, which is little: every ASCII character is assigned, and
none is a mark, composed, mapped in names or written from right to left.
-/
namespace FeatureFlags

namespace Unicode.CharSet

variable {n : Nat} {names : List String}

theorem isPoint_of_ascii (hn : n < 0x80) : IsPoint n :=
  ⟨.inl (hn.trans (by decide)), hn.le.trans (by decide)⟩

/-- Lines whose ranges begin beyond ASCII, and no later than they end. -/
def AreBeyond (lines : List String) : Prop :=
  ∀ line ∈ lines, wordsAll (fun r => 0x7F < r.1 ∧ r.1 ≤ r.2) line.toList = true

theorem AreBeyond.valid {lines : List String} (h : AreBeyond lines) : AreValid lines := by
  refine fun line hline => List.all_eq_true.mpr fun word hword => decide_eq_true ?_
  exact (of_decide_eq_true (List.all_eq_true.mp (h line hline) word hword)).2

theorem AreBeyond.not_covers {lines : List String} (h : AreBeyond lines) (hn : n < 0x80) :
    ¬ Covers (readLines lines) n := by
  rintro ⟨r, hr, hle, -⟩
  have hbeyond := (of_decide_eq_true (forall_mem_readLines h r hr)).1
  omega

/-- A set that is read from such lines has no ASCII character. -/
theorem AreBeyond.contains {lines : List String} (h : AreBeyond lines) (hn : n < 0x80) :
    (ofLines lines).containsPoint n = false := by
  rw [← Bool.not_eq_true, contains_ofLines (isPoint_of_ascii hn)]
  exact h.not_covers hn

def asciiRanges : List (Nat × Nat) :=
  [(0x41, 0x5A), (0x61, 0x7A), (0x30, 0x39), (0x5F, 0x5F), (0x2D, 0x2D), (0x28, 0x28), (0x5B, 0x5B),
   (0x7B, 0x7B), (0x29, 0x29), (0x5D, 0x5D), (0x7D, 0x7D), (0x21, 0x23), (0x25, 0x27), (0x2A, 0x2A),
   (0x2C, 0x2C), (0x2E, 0x2F), (0x3A, 0x3B), (0x3F, 0x40), (0x5C, 0x5C), (0x2B, 0x2B), (0x3C, 0x3E),
   (0x7C, 0x7C), (0x7E, 0x7E), (0x24, 0x24), (0x5E, 0x5E), (0x60, 0x60), (0x20, 0x20), (0, 0x1F),
   (0x7F, 0x9F)]

/-- What the first lines of the categories have below 128 is these ranges. -/
theorem firstLines_ascii : ∃ texts, Spelled (categoryTable.flatMap (·.2.take 1)) texts ∧
    (texts.flatMap fun text => (words text).map readRange).filter (·.1 < 0x80) = asciiRanges := by
  apply Exists.intro
  apply And.intro
  · repeat (apply Spelled.cons rfl)
    exact .nil
  · decide +kernel

/-- Every ASCII character is assigned. -/
theorem exists_category_ascii (hn : n < 0x80) : ∃ row ∈ categoryTable, Covers (readLines row.2) n := by
  have hall : ∀ n < 0x80, ∃ r ∈ asciiRanges, r.1 ≤ n ∧ n ≤ r.2 := by decide +kernel
  obtain ⟨r, hr, hrange⟩ := hall n hn
  obtain ⟨texts, hspelled, hranges⟩ := firstLines_ascii
  rw [← hranges, ← hspelled.map_toList] at hr
  obtain ⟨text, htext, hr⟩ := List.mem_flatMap.mp (List.mem_filter.mp hr).1
  obtain ⟨line, hline, rfl⟩ := List.mem_map.mp htext
  obtain ⟨row, hrow, hline⟩ := List.mem_flatMap.mp hline
  exact ⟨row, hrow, r, List.mem_flatMap.mpr ⟨line, List.mem_of_mem_take hline, hr⟩, hrange⟩

def foreignCategories : List String := ["Mn", "Mc", "Me", "Cn", "Co"]

def foreignLines : { lines : List String // AreBeyond lines } :=
  ⟨(categoryTable.filter (foreignCategories.contains ·.1)).flatMap (·.2), by
    apply Spelled.forall
    · simp only [categoryTable, foreignCategories, List.filter_cons, List.contains_cons]
      repeat (apply Spelled.cons rfl)
      exact .nil
    · decide +kernel⟩

theorem ofCategories_ascii (hnames : names ⊆ foreignCategories) (hn : n < 0x80) :
    (ofCategories names).containsPoint n = false := by
  rw [← Bool.not_eq_true, contains_ofCategories (isPoint_of_ascii hn), not_or]
  constructor
  · rintro ⟨row, hrow, hname, hcovers⟩
    have hforeign : row ∈ categoryTable.filter (foreignCategories.contains ·.1) :=
      List.mem_filter.mpr ⟨hrow, List.contains_iff_mem.mpr (hnames (List.contains_iff_mem.mp hname))⟩
    refine AreBeyond.not_covers (fun line hline => ?_) hn hcovers
    exact foreignLines.property line (List.mem_flatMap.mpr ⟨row, hforeign, hline⟩)
  · rintro ⟨-, hnone⟩
    obtain ⟨row, hrow, hcovers⟩ := exists_category_ascii hn
    exact hnone row hrow hcovers

theorem union_ascii {lines : List String} (hnames : names ⊆ foreignCategories)
    (hlines : AreBeyond lines) (hn : n < 0x80) :
    ((ofCategories names).union (ofLines lines)).containsPoint n = false := by
  rw [← Bool.not_eq_true, contains_union (tidy_ofCategories names) hlines.valid.tidy_ofLines,
    ofCategories_ascii hnames hn, hlines.contains hn]
  simp

/-- Neither has a row of such categories, whatever else it is without. -/
theorem row_ascii {row : PropertyRow} (hcategories : row.categories ⊆ foreignCategories)
    (hbesides : AreBeyond row.besides) (hwithout : AreValid row.without) (hn : n < 0x80) :
    row.set.containsPoint n = false := by
  have htidy := tidy_union (tidy_ofCategories row.categories) hbesides.valid.tidy_ofLines
  rw [← Bool.not_eq_true, PropertyRow.set, contains_diff (isPoint_of_ascii hn) htidy hwithout.tidy_ofLines,
    union_ascii hcategories hbesides hn]
  simp

end Unicode.CharSet

namespace Unicode.Normal

open CharSet (Spelled AreBeyond)

def pairsBeyond (line : List Char) : Bool :=
  ((readLine line).flatMap fun run => readRun (CharSet.words run)).all fun pair =>
    0x7F < pair.composed && 0x7F < pair.second

def foreignCompositions : { lines : List String // ∀ line ∈ lines, pairsBeyond line.toList = true } :=
  ⟨compositionLines, by
    apply Spelled.forall
    · repeat (apply Spelled.cons rfl)
      exact .nil
    · decide +kernel⟩

theorem beyond_compositions {pair : Composition} (h : pair ∈ compositions) :
    0x7F < pair.composed ∧ 0x7F < pair.second := by
  obtain ⟨line, hline, hpair⟩ := List.mem_flatMap.mp h
  simpa using List.all_eq_true.mp (foreignCompositions.property line hline) pair hpair

theorem beyond_rankTable : AreBeyond (rankTable.flatMap (·.2)) := by
  apply Spelled.forall
  · repeat (apply Spelled.cons rfl)
    exact .nil
  · decide +kernel

theorem rank_ascii {c : Nat} (hc : c < 0x80) : rank c = 0 := by
  have hnone : ranks.find? (·.2.containsPoint c) = none := by
    refine List.find?_eq_none.mpr fun row hrow => ?_
    obtain ⟨given, hgiven, rfl⟩ := List.mem_map.mp hrow
    have hbeyond : AreBeyond given.2 :=
      fun line hline => beyond_rankTable line (List.mem_flatMap.mpr ⟨given, hgiven, hline⟩)
    simp [hbeyond.contains hc]
  rw [rank, hnone]

theorem isSyllable_ascii {c : Nat} (hc : c < 0x80) : Hangul.isSyllable c = false := by
  have hbelow : ¬ 0xAC00 ≤ c := by omega
  simp [Hangul.isSyllable, Hangul.syllableBase, hbelow]

/-- An ASCII character is composed of nothing else. -/
theorem decompose_ascii {c : Nat} (hc : c < 0x80) : decompose maxDepth c = [c] := by
  have hnone : compositions.find? (·.composed == c) = none := by
    refine List.find?_eq_none.mpr fun pair hpair => ?_
    have := (beyond_compositions hpair).1
    simp only [beq_iff_eq]
    omega
  simp [maxDepth, decompose, isSyllable_ascii hc, hnone]

theorem compose?_ascii {a b : Nat} (ha : a < 0x80) (hb : b < 0x80) : compose? a b = none := by
  have hhangul : Hangul.compose? a b = none := by
    rw [Hangul.compose?, if_neg (by simp only [Hangul.leadBase]; omega),
      if_neg (by simp [isSyllable_ascii ha])]
  have hnone : (compositions.find? fun pair => pair.first == a && pair.second == b) = none := by
    refine List.find?_eq_none.mpr fun pair hpair => ?_
    have := (beyond_compositions hpair).2
    simp only [Bool.and_eq_true, beq_iff_eq, not_and]
    omega
  rw [compose?, hhangul, hnone]
  rfl

theorem inOrder_ascii {text : List Nat} (h : ∀ c ∈ text, c < 0x80) : inOrder text = text := by
  have hfold (before : List Nat) :
      text.foldl (fun before c => insert c before) before = text.reverse ++ before := by
    induction text generalizing before with
    | nil => rfl
    | cons c rest ih =>
      obtain ⟨hc, hrest⟩ := List.forall_mem_cons.mp h
      have hinsert : insert c before = c :: before := by
        cases before <;> simp [insert, rank_ascii hc]
      rw [List.foldl_cons, ih hrest, hinsert, List.reverse_cons, List.append_assoc]
      rfl
  rw [inOrder, hfold, List.append_nil, List.reverse_reverse]

theorem composeFrom_ascii {base : Nat} {text : List Nat} (hbase : base < 0x80)
    (h : ∀ c ∈ text, c < 0x80) : composeFrom base [] text = base :: text := by
  induction text generalizing base with
  | nil => rfl
  | cons c rest ih =>
    obtain ⟨hc, hrest⟩ := List.forall_mem_cons.mp h
    rw [composeFrom]
    simp [compose?_ascii hbase hc, rank_ascii hc, ih hc hrest]

/-- ASCII texts are in normal form. -/
theorem form_ascii {text : List Char} (h : ∀ c ∈ text, c.toNat < 0x80) : form text = text := by
  have hpoints : (text.flatMap fun c => decompose maxDepth c.toNat) = text.map Char.toNat := by
    rw [List.map_eq_flatMap]
    exact List.flatMap_congr fun c hc => decompose_ascii (h c hc)
  have hascii : ∀ n ∈ text.map Char.toNat, n < 0x80 := List.forall_mem_map.mpr h
  rw [form, hpoints, inOrder_ascii hascii]
  cases text with
  | nil => rfl
  | cons c rest =>
    obtain ⟨hc, hrest⟩ := List.forall_mem_cons.mp hascii
    rw [List.map_cons, composeAll, if_pos (rank_ascii hc), composeFrom_ascii hc hrest, ← List.map_cons,
      List.map_map]
    exact List.map_id'' (fun d => Char.ofNat_toNat d) _

end Unicode.Normal

namespace Url.Domain

open Unicode
open CharSet (Spelled AreBeyond AreValid)

def runsBeyond (line : List Char) : Bool :=
  ((splitAt (· == ';') line).map readRun).all fun run => 0x7F < run.1

def foreignMappings : { lines : List String // ∀ line ∈ lines, runsBeyond line.toList = true } :=
  ⟨mappingLines, by
    apply Spelled.forall
    · repeat (apply Spelled.cons rfl)
      exact .nil
    · decide +kernel⟩

theorem mapping?_ascii {c : Char} (hc : c.toNat < 0x80) : mapping? c = none := by
  refine List.findSome?_eq_none_iff.mpr fun run hrun => ?_
  obtain ⟨line, hline, hrun⟩ := List.mem_flatMap.mp hrun
  have := of_decide_eq_true (List.all_eq_true.mp (foreignMappings.property line hline) run hrun)
  exact if_neg (by omega)

theorem ignored_ascii {c : Char} (hc : c.toNat < 0x80) : ignored.contains c = false := by
  apply AreBeyond.contains _ hc
  apply Spelled.forall
  · repeat (apply Spelled.cons rfl)
    exact .nil
  · decide +kernel

theorem disallowed_ascii {c : Char} (hc : c.toNat < 0x80) : disallowed.contains c = false := by
  refine CharSet.row_ascii (by decide) ?_ ?_ hc
  all_goals
    apply Spelled.forall
    · repeat (apply Spelled.cons rfl)
      exact .nil
    · decide +kernel

/-- Of ASCII characters, only capital letters are folded. -/
theorem fold_ascii {c : Char} (hc : c.toNat < 0x80) (hcapital : c.isUpper = false) : fold c = c := by
  have hforeign : ∀ row ∈ foldTable.tail, 0x7F < row.first := by decide +kernel
  have hcapitals : foldTable = ⟨0x41, 0x5A, 1, 32⟩ :: foldTable.tail := rfl
  have hnone : foldTable.find? (·.covers c.toNat) = none := by
    refine List.find?_eq_none.mpr fun row hrow hcovers => ?_
    simp only [FoldRow.covers, Bool.and_eq_true, decide_eq_true_eq] at hcovers
    rw [hcapitals] at hrow
    rcases List.mem_cons.mp hrow with rfl | hrow
    · exact absurd hcovers.1 (by simpa [Char.isUpper, UInt32.le_iff_toNat_le] using hcapital)
    · have := hforeign row hrow
      omega
  rw [fold, hnone]

/-- An ASCII character that is no capital letter stands for itself in a name. -/
theorem mapped?_ascii {c : Char} (hc : c.toNat < 0x80) (hcapital : c.isUpper = false) :
    mapped? c = some [c] := by
  have hsigma : c ≠ finalSigma := fun h => absurd (h ▸ hc) (by decide)
  rw [mapped?, ignored_ascii hc, mapping?_ascii hc, disallowed_ascii hc]
  simp [hsigma, fold_ascii hc hcapital]

theorem marks_ascii {c : Char} (hc : c.toNat < 0x80) : marks.contains c = false := by
  refine CharSet.union_ascii (by decide) ?_ hc
  apply Spelled.forall
  · repeat (apply Spelled.cons rfl)
    exact .nil
  · decide +kernel

theorem rightToLeft_ascii {c : Char} (hc : c.toNat < 0x80) :
    Direction.rightToLeft.contains c = false := by
  apply AreBeyond.contains _ hc
  apply Spelled.forall
  · repeat (apply Spelled.cons rfl)
    exact .nil
  · decide +kernel

theorem arabicDigits_ascii {c : Char} (hc : c.toNat < 0x80) :
    Direction.arabicDigits.contains c = false := by
  apply AreBeyond.contains _ hc
  apply Spelled.forall
  · repeat (apply Spelled.cons rfl)
    exact .nil
  · decide +kernel

end Url.Domain

end FeatureFlags
