import FeatureFlags.Condition
import FeatureFlags.Proofs.TextParts
import Mathlib

/-!
The order of versions as operators tell it. Every part of a version is ordered totally, so versions are:
of two that are read one is the other, or less, or greater, and only one of these. A comparison says equal
only of versions that are the same in all parts, which is what the operator for equality asks.
-/
namespace FeatureFlags

open Std

namespace Identifier

/-- Numbers are told apart by their values, and then by the zeros before them. -/
theorem transCmp_numbers :
    TransCmp (compareLex (compareOn (Prod.fst : ℕ × ℕ → ℕ)) (compareOn Prod.snd)) := inferInstance

/-- Identifiers are in order whatever their kinds are. -/
instance : TransCmp compare where
  eq_swap {a b} := by
    cases a with
    | number value zeros =>
      cases b with
      | number value' zeros' =>
        exact transCmp_numbers.eq_swap (a := (value, zeros)) (b := (value', zeros'))
      | word text' => rfl
    | word text =>
      cases b with
      | number value' zeros' => rfl
      | word text' => exact OrientedOrd.eq_swap
  isLE_trans {a b c} hab hbc := by
    cases a with
    | number value zeros =>
      cases c with
      | number value'' zeros'' =>
        cases b with
        | number value' zeros' =>
          exact transCmp_numbers.isLE_trans (a := (value, zeros)) (b := (value', zeros'))
            (c := (value'', zeros'')) hab hbc
        | word text' => cases hbc
      | word text'' => rfl
    | word text =>
      cases b with
      | number value' zeros' => cases hab
      | word text' =>
        cases c with
        | number value'' zeros'' => cases hbc
        | word text'' => exact TransOrd.isLE_trans hab hbc

instance : LawfulEqCmp compare where
  eq_of_compare {a b} h := by
    cases a with
    | number value zeros =>
      cases b with
      | number value' zeros' =>
        obtain ⟨hvalue, hzeros⟩ := Ordering.then_eq_eq.mp h
        rw [LawfulEqCmp.eq_of_compare hvalue, LawfulEqCmp.eq_of_compare hzeros]
      | word text' => cases h
    | word text =>
      cases b with
      | number value' zeros' => cases h
      | word text' => exact congrArg word (LawfulEqOrd.eq_of_compare h)

/-- Lists of identifiers are compared as the library compares lists. -/
theorem compareLists_eq (as bs : List Identifier) : compareLists as bs = List.compareLex compare as bs := by
  induction as generalizing bs with
  | nil =>
    cases bs with
    | nil => rfl
    | cons b bs => rfl
  | cons a as ih =>
    cases bs with
    | nil => rfl
    | cons b bs =>
      rw [compareLists, ih, List.compareLex_cons_cons]

instance : TransCmp compareLists := by
  rw [funext₂ compareLists_eq]
  infer_instance

instance : LawfulEqCmp compareLists := by
  rw [funext₂ compareLists_eq]
  infer_instance

end Identifier

namespace SemVer

/-- No pre-release identifiers at all are above any that there are. -/
instance : TransCmp comparePre where
  eq_swap {as bs} := by
    cases as with
    | nil =>
      cases bs with
      | nil => rfl
      | cons b bs => rfl
    | cons a as =>
      cases bs with
      | nil => rfl
      | cons b bs =>
        change Identifier.compareLists (a :: as) (b :: bs) = (Identifier.compareLists (b :: bs) (a :: as)).swap
        exact OrientedCmp.eq_swap
  isLE_trans {as bs cs} hab hbc := by
    cases cs with
    | nil =>
      cases as with
      | nil => rfl
      | cons a as => rfl
    | cons c cs =>
      cases bs with
      | nil => cases hbc
      | cons b bs =>
        cases as with
        | nil => cases hab
        | cons a as =>
          change (Identifier.compareLists (a :: as) (b :: bs)).isLE = true at hab
          change (Identifier.compareLists (b :: bs) (c :: cs)).isLE = true at hbc
          change (Identifier.compareLists (a :: as) (c :: cs)).isLE = true
          exact TransCmp.isLE_trans hab hbc

instance : LawfulEqCmp comparePre where
  eq_of_compare {as bs} h := by
    cases as with
    | nil =>
      cases bs with
      | nil => rfl
      | cons b bs => cases h
    | cons a as =>
      cases bs with
      | nil => cases h
      | cons b bs =>
        change Identifier.compareLists (a :: as) (b :: bs) = .eq at h
        exact LawfulEqCmp.eq_of_compare h

/-- A comparison by a part is in order if the comparison of the parts is. -/
theorem transCmp_part {α β : Type} (part : α → β) (cmp : β → β → Ordering) [TransCmp cmp] :
    TransCmp fun a b => cmp (part a) (part b) where
  eq_swap := OrientedCmp.eq_swap
  isLE_trans := TransCmp.isLE_trans

instance : TransCmp compare :=
  have := transCmp_part pre comparePre
  have := transCmp_part build Identifier.compareLists
  inferInstanceAs (TransCmp <| compareLex (compareOn major) <| compareLex (compareOn minor) <|
    compareLex (compareOn patch) <| compareLex (fun v w => comparePre v.pre w.pre)
      fun v w => Identifier.compareLists v.build w.build)

/-- Only versions that are the same in every part come out as equal. -/
instance : LawfulEqCmp compare where
  eq_of_compare {v w} h := by
    obtain ⟨hmajor, h⟩ := Ordering.then_eq_eq.mp h
    obtain ⟨hminor, h⟩ := Ordering.then_eq_eq.mp h
    obtain ⟨hpatch, h⟩ := Ordering.then_eq_eq.mp h
    obtain ⟨hpre, hbuild⟩ := Ordering.then_eq_eq.mp h
    obtain ⟨major, minor, patch, pre, build⟩ := v
    obtain ⟨major', minor', patch', pre', build'⟩ := w
    obtain rfl : major = major' := LawfulEqCmp.eq_of_compare hmajor
    obtain rfl : minor = minor' := LawfulEqCmp.eq_of_compare hminor
    obtain rfl : patch = patch' := LawfulEqCmp.eq_of_compare hpatch
    obtain rfl : pre = pre' := LawfulEqCmp.eq_of_compare hpre
    obtain rfl : build = build' := LawfulEqCmp.eq_of_compare hbuild
    rfl

/-- A text of a version whose numbers end before the first `-` or `+`. -/
structure IsParted (core rest : List Char) : Prop where
  numbers : ∀ c ∈ core, (c != '-' && c != '+') = true
  ends : ∀ c ∈ rest.head?, (c != '-' && c != '+') = false

theorem IsParted.span_eq {core rest : List Char} (h : IsParted core rest) :
    (core ++ rest).span (fun c => c != '-' && c != '+') = (core, rest) :=
  Url.span_eq_iff.mpr ⟨rfl, h.numbers, h.ends⟩

theorem IsParted.takeWhile_eq {core rest : List Char} (h : IsParted core rest) :
    (core ++ rest).takeWhile (fun c => c != '-' && c != '+') = core := by
  have hspan := h.span_eq
  rw [List.span_eq_takeWhile_dropWhile] at hspan
  exact (Prod.mk.inj hspan).1

theorem isNumeric_of_isDigit {c : Char} (h : Identifier.isDigit c = true) :
    (c != '-' && c != '+') = true := by
  rw [Bool.and_eq_true, bne_iff_ne, bne_iff_ne]
  constructor
  · rintro rfl
    cases h
  · rintro rfl
    cases h

def zeros (core : List Char) : List Char := (List.replicate (2 - core.count '.') ['.', '0']).flatten

/-- A number is read from the digits at the beginning. -/
theorem of_readNumber? {text after : List Char} {n : Nat} (h : readNumber? text = some (n, after)) :
    ∃ digits, text = digits ++ after ∧ ∀ c ∈ digits, Identifier.isDigit c = true := by
  unfold readNumber? at h
  rcases hspan : text.span Identifier.isDigit with ⟨digits, rest⟩
  obtain ⟨rfl, hdigits, -⟩ := Url.span_eq_iff.mp hspan
  rw [hspan] at h
  refine ⟨digits, ?_, hdigits⟩
  simp only at h
  split at h
  · cases h
  · cases h
  · split at h
    · cases h; rfl
    · cases h

theorem eq_of_readDot? {text after : List Char} (h : readDot? text = some after) : text = '.' :: after := by
  unfold readDot? at h
  split at h
  · cases h; rfl
  · cases h

/-- A version that is written out in full has two dots before its first `-` or `+`. -/
theorem two_le_count {core rest : List Char} (hparted : IsParted core rest) {version : SemVer}
    (h : readChars? (core ++ rest) = some version) : 2 ≤ core.count '.' := by
  simp only [readChars?, Option.bind_eq_bind, Option.bind_eq_some_iff] at h
  obtain ⟨⟨major, afterMajor⟩, hmajor, afterDot, hdot, ⟨minor, afterMinor⟩, hminor, last, hlast, -⟩ := h
  obtain ⟨first, hfirst, hfirst_digits⟩ := of_readNumber? hmajor
  obtain ⟨second, hsecond, hsecond_digits⟩ := of_readNumber? hminor
  have hmajor_end : afterMajor = '.' :: afterDot := eq_of_readDot? hdot
  have hminor_end : afterMinor = '.' :: last := eq_of_readDot? hlast
  -- Both dots stand before the first mark, which parts the text here and there.
  have hnumbers : ∀ c ∈ first ++ '.' :: (second ++ ['.']), (c != '-' && c != '+') = true := by
    intro c hc
    by_cases hdigit : Identifier.isDigit c = true
    · exact isNumeric_of_isDigit hdigit
    · have : c = '.' := by
        simp only [List.mem_append, List.mem_cons, List.not_mem_nil, or_false] at hc
        rcases hc with hc | rfl | hc | rfl
        · exact absurd (hfirst_digits c hc) hdigit
        · rfl
        · exact absurd (hsecond_digits c hc) hdigit
        · rfl
      rw [this]
      rfl
  have htext : core ++ rest = (first ++ '.' :: (second ++ ['.'])) ++ last := by
    rw [hfirst, hmajor_end, hsecond, hminor_end]
    simp
  have hcore : core = (first ++ '.' :: (second ++ ['.'])) ++ last.takeWhile fun c => c != '-' && c != '+' := by
    rw [← List.takeWhile_append_of_pos hnumbers, ← htext]
    exact hparted.takeWhile_eq.symm
  rw [hcore]
  simp only [List.count_append, List.count_cons_self, List.count_nil]
  omega

theorem count_zeros (core : List Char) : (zeros core).count '.' = 2 - core.count '.' := by
  unfold zeros
  induction 2 - core.count '.' with
  | zero => rfl
  | succ n ih =>
    rw [List.replicate_succ, List.flatten_cons, List.count_append, ih]
    change 1 + n = n + 1
    omega

/-- Filling in zeros leaves the rest of a version where it was. -/
theorem IsParted.filled {core rest : List Char} (h : IsParted core rest) :
    IsParted (core ++ zeros core) rest where
  numbers c hc := by
    rcases List.mem_append.mp hc with hc | hc
    · exact h.numbers c hc
    · obtain ⟨zero, hzero, hc⟩ := List.mem_flatten.mp hc
      rw [List.eq_of_mem_replicate hzero] at hc
      simp only [List.mem_cons, List.not_mem_nil, or_false] at hc
      rcases hc with rfl | rfl <;> decide
  ends := h.ends

/-- Where numbers are missing, they are filled in. -/
theorem pad?_short {core rest : List Char} (h : IsParted core rest) (hshort : core.count '.' < 2) :
    pad? (core ++ rest) = some (core ++ zeros core ++ rest) := by
  simp only [pad?, h.span_eq]
  have hdots : core.count '.' = 0 ∨ core.count '.' = 1 := by omega
  rcases hdots with hdots | hdots
  · simp [hdots, zeros]
  · simp [hdots, zeros]

theorem pad?_full {core rest : List Char} (h : IsParted core rest) (hfull : core.count '.' = 2) :
    pad? (core ++ rest) = none := by
  simp only [pad?, h.span_eq, hfull]

/-- What is missing at the end of the numbers is read as zeros. -/
theorem read?_short {core rest : List Char} (hparted : IsParted core rest) (hshort : core.count '.' < 2) :
    read? (String.ofList (core ++ rest)) = read? (String.ofList (core ++ zeros core ++ rest)) := by
  have hfilled : (core ++ zeros core).count '.' = 2 := by
    rw [List.count_append, count_zeros]
    omega
  have hnone : readChars? (core ++ rest) = none := by
    cases hread : readChars? (core ++ rest) with
    | none => rfl
    | some version =>
      have := two_le_count hparted hread
      omega
  unfold read?
  rw [String.toList_ofList, String.toList_ofList, hnone, pad?_short hparted hshort,
    pad?_full hparted.filled hfilled, Option.bind_some]
  cases readChars? (core ++ zeros core ++ rest) with
  | none => rfl
  | some version => rfl

end SemVer

namespace Operator

def ofVersions : List Operator := [.semVerEqual, .semVerLessThan, .semVerGreaterThan]

variable {a b c : Attribute} {v w : SemVer}

theorem compareVersions_of_read (holds : SemVer → SemVer → Bool) (ha : a.semVer? = some v)
    (hb : b.semVer? = some w) : compareVersions holds a b = holds v w := by
  unfold compareVersions
  rw [ha, hb]

theorem compareVersions_of_unread (holds : SemVer → SemVer → Bool)
    (h : a.semVer? = none ∨ b.semVer? = none) : compareVersions holds a b = false := by
  unfold compareVersions
  rcases h with h | h
  · rw [h]
  · rw [h]
    cases a.semVer? with
    | none => rfl
    | some v => rfl

theorem semVerEqual_iff (ha : a.semVer? = some v) (hb : b.semVer? = some w) :
    semVerEqual.holds a b = true ↔ v.compare w = .eq := by
  change compareVersions _ a b = true ↔ _
  rw [compareVersions_of_read _ ha hb, beq_iff_eq, LawfulEqCmp.compare_eq_iff_eq]

theorem semVerLessThan_iff (ha : a.semVer? = some v) (hb : b.semVer? = some w) :
    semVerLessThan.holds a b = true ↔ v.compare w = .lt := by
  change compareVersions _ a b = true ↔ _
  rw [compareVersions_of_read _ ha hb, beq_iff_eq]

theorem semVerGreaterThan_iff (ha : a.semVer? = some v) (hb : b.semVer? = some w) :
    semVerGreaterThan.holds a b = true ↔ v.compare w = .gt := by
  change compareVersions _ a b = true ↔ _
  rw [compareVersions_of_read _ ha hb, beq_iff_eq]

/-- Nothing is said of a value that is no version. -/
theorem not_holds_of_unread (h : a.semVer? = none ∨ b.semVer? = none) :
    ∀ op ∈ ofVersions, op.holds a b = false := by
  intro op hop
  simp only [ofVersions, List.mem_cons, List.not_mem_nil, or_false] at hop
  rcases hop with rfl | rfl | rfl
  · exact compareVersions_of_unread _ h
  · exact compareVersions_of_unread _ h
  · exact compareVersions_of_unread _ h

theorem exists_semVer?_of_holds {op : Operator} (hop : op ∈ ofVersions) (h : op.holds a b = true) :
    ∃ v w, a.semVer? = some v ∧ b.semVer? = some w := by
  cases ha : a.semVer? with
  | none =>
    rw [not_holds_of_unread (.inl ha) op hop] at h
    cases h
  | some v =>
    cases hb : b.semVer? with
    | none =>
      rw [not_holds_of_unread (.inr hb) op hop] at h
      cases h
    | some w => exact ⟨v, w, rfl, rfl⟩

/-- The operator that says how two versions stand. -/
def ofOrdering : Ordering → Operator
  | .eq => .semVerEqual
  | .lt => .semVerLessThan
  | .gt => .semVerGreaterThan

/-- Between two versions the one operator holds that says how they stand. -/
theorem holds_iff_eq_ofOrdering (ha : a.semVer? = some v) (hb : b.semVer? = some w) (op : Operator) :
    op ∈ ofVersions ∧ op.holds a b = true ↔ op = ofOrdering (v.compare w) := by
  constructor
  · rintro ⟨hop, hholds⟩
    simp only [ofVersions, List.mem_cons, List.not_mem_nil, or_false] at hop
    rcases hop with rfl | rfl | rfl
    · rw [(semVerEqual_iff ha hb).mp hholds, ofOrdering]
    · rw [(semVerLessThan_iff ha hb).mp hholds, ofOrdering]
    · rw [(semVerGreaterThan_iff ha hb).mp hholds, ofOrdering]
  · rintro rfl
    cases hcompare : v.compare w with
    | eq => exact ⟨by decide, (semVerEqual_iff ha hb).mpr hcompare⟩
    | lt => exact ⟨by decide, (semVerLessThan_iff ha hb).mpr hcompare⟩
    | gt => exact ⟨by decide, (semVerGreaterThan_iff ha hb).mpr hcompare⟩

theorem semVerGreaterThan_eq (a b : Attribute) : semVerGreaterThan.holds a b = semVerLessThan.holds b a := by
  rw [Bool.eq_iff_iff]
  constructor
  · intro h
    obtain ⟨v, w, ha, hb⟩ := exists_semVer?_of_holds (by decide) h
    exact (semVerLessThan_iff hb ha).mpr (OrientedCmp.gt_iff_lt.mp ((semVerGreaterThan_iff ha hb).mp h))
  · intro h
    obtain ⟨w, v, hb, ha⟩ := exists_semVer?_of_holds (by decide) h
    exact (semVerGreaterThan_iff ha hb).mpr (OrientedCmp.gt_iff_lt.mpr ((semVerLessThan_iff hb ha).mp h))

/-- The order of versions is transitive, since that of their parts is. -/
theorem semVerLessThan_trans (hab : semVerLessThan.holds a b = true) (hbc : semVerLessThan.holds b c = true) :
    semVerLessThan.holds a c = true := by
  obtain ⟨u, v, ha, hb⟩ := exists_semVer?_of_holds (by decide) hab
  obtain ⟨v', w, hb', hc⟩ := exists_semVer?_of_holds (by decide) hbc
  obtain rfl : v = v' := Option.some.inj (hb.symm.trans hb')
  have huv := (semVerLessThan_iff ha hb).mp hab
  have hvw := (semVerLessThan_iff hb hc).mp hbc
  exact (semVerLessThan_iff ha hc).mpr (TransCmp.lt_trans huv hvw)

/-- What the operators say of three attribute values, and of values that leave numbers out. -/
structure OrdersVersions (a b c : Attribute) : Prop where
  /-- Of two versions exactly one operator holds. -/
  one_of_three : a.semVer?.isSome = true → b.semVer?.isSome = true →
    ∃! op, op ∈ ofVersions ∧ op.holds a b = true
  none_of_unread : a.semVer? = none ∨ b.semVer? = none → ∀ op ∈ ofVersions, op.holds a b = false
  swapped : semVerGreaterThan.holds a b = semVerLessThan.holds b a
  transitive : semVerLessThan.holds a b = true → semVerLessThan.holds b c = true →
    semVerLessThan.holds a c = true
  /-- Numbers that are missing before the first `-` or `+` count as zeros. -/
  short : ∀ core rest, SemVer.IsParted core rest → core.count '.' < 2 →
    (Attribute.string (String.ofList (core ++ rest))).semVer? =
      (Attribute.string (String.ofList (core ++ SemVer.zeros core ++ rest))).semVer?

/-- The operators put all values that read as versions in one order, and say nothing of others. -/
theorem versions_in_order (a b c : Attribute) : OrdersVersions a b c where
  one_of_three ha hb := by
    obtain ⟨v, ha⟩ := Option.isSome_iff_exists.mp ha
    obtain ⟨w, hb⟩ := Option.isSome_iff_exists.mp hb
    refine ⟨ofOrdering (v.compare w), (holds_iff_eq_ofOrdering ha hb _).mpr rfl, fun op hop => ?_⟩
    exact (holds_iff_eq_ofOrdering ha hb op).mp hop
  none_of_unread := not_holds_of_unread
  swapped := semVerGreaterThan_eq a b
  transitive := semVerLessThan_trans
  short _ _ := SemVer.read?_short

/-- A version that comes before a release, the release written short, and one with build metadata, in
their order; and a text that is no version. -/
theorem versions_in_order_of_texts :
    (Attribute.string "2.0.0-rc.1").semVer? = some ⟨2, 0, 0, [.word "rc", .number 1 0], []⟩ ∧
      (Attribute.string "2").semVer? = some ⟨2, 0, 0, [], []⟩ ∧
      (Attribute.string "2.0.0+b").semVer? = some ⟨2, 0, 0, [], [.word "b"]⟩ ∧
      semVerLessThan.holds (.string "2.0.0-rc.1") (.string "2") = true ∧
      semVerLessThan.holds (.string "2") (.string "2.0.0+b") = true ∧
      semVerLessThan.holds (.string "2.0.0-rc.1") (.string "2.0.0+b") = true ∧
      semVerGreaterThan.holds (.string "2") (.string "2.0.0-rc.1") = true ∧
      (∀ op ∈ ofVersions, op.holds (.string "2") (.string "2.0.0") = true → op = semVerEqual) ∧
      (Attribute.string "2.0.0-01").semVer? = none ∧
      ∀ op ∈ ofVersions, op.holds (.string "2.0.0-01") (.string "2") = false := by
  have hrelease : semVerLessThan.holds (.string "2.0.0-rc.1") (.string "2") = true := by
    decide +kernel
  have hbuilt : semVerLessThan.holds (.string "2") (.string "2.0.0+b") = true := by decide +kernel
  have hsame : semVerEqual.holds (.string "2") (.string "2.0.0") = true := by decide +kernel
  have hunread : (Attribute.string "2.0.0-01").semVer? = none := by decide +kernel
  have horder := versions_in_order (.string "2.0.0-rc.1") (.string "2") (.string "2.0.0+b")
  have hone := (versions_in_order (.string "2") (.string "2.0.0") (.string "2")).one_of_three
    (by decide +kernel) (by decide +kernel)
  refine ⟨by decide +kernel, by decide +kernel, by decide +kernel, hrelease, hbuilt,
    horder.transitive hrelease hbuilt, ?_, fun op hop hholds => ?_, hunread, ?_⟩
  · exact (versions_in_order (.string "2") (.string "2.0.0-rc.1") (.string "2")).swapped.trans hrelease
  · exact hone.unique ⟨hop, hholds⟩ ⟨by decide, hsame⟩
  · exact (versions_in_order (.string "2.0.0-01") (.string "2") (.string "2")).none_of_unread
      (Or.inl hunread)

end Operator

end FeatureFlags
