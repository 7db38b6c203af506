import FeatureFlags.Url.Parser
import Mathlib.Data.List.DropRight
import Mathlib.Data.List.TakeDrop
import Mathlib.Data.List.TakeWhile

/-!
Texts in parts. A text is parted where a character is the first or the last of its kind, or wherever
such a character stands; what comes before and after is then known by what it does not contain.
-/
namespace FeatureFlags.Url

section

variable {α : Type} {P : α → Prop} [DecidablePred P]

-- What holds of the characters of a given text is looked for in the text, not among all characters.
theorem forall_mem_of_all {list : List α} (h : list.all (P ·) = true) : ∀ a ∈ list, P a := by
  simpa using h

theorem forall_mem_of_all? {last : Option α} (h : last.all (P ·) = true) : ∀ a ∈ last, P a := by
  rintro a rfl
  exact of_decide_eq_true h

end

theorem mem_of_mapM {f : α → Option β} {given : List α} {results : List β}
    (h : given.mapM f = some results) {b : β} (hb : b ∈ results) : ∃ a ∈ given, f a = some b := by
  induction given generalizing results with
  | nil =>
    obtain rfl := Option.some.inj h
    cases hb
  | cons a given ih =>
    simp only [List.mapM_cons, Option.bind_eq_bind, Option.bind_eq_some_iff] at h
    obtain ⟨first, hfirst, rest, hrest, hresults⟩ := h
    obtain rfl := Option.some.inj hresults
    rcases List.mem_cons.mp hb with rfl | hb
    · exact ⟨a, List.mem_cons_self, hfirst⟩
    · obtain ⟨a', ha', hb⟩ := ih hrest hb
      exact ⟨a', List.mem_cons_of_mem a ha', hb⟩

theorem mem_intercalate {separator : List α} {parts : List (List α)} {c : α}
    (h : c ∈ separator.intercalate parts) : c ∈ separator ∨ ∃ part ∈ parts, c ∈ part := by
  induction parts with
  | nil => cases h
  | cons part parts ih =>
    cases parts with
    | nil =>
      rw [List.intercalate_singleton] at h
      exact .inr ⟨part, List.mem_cons_self, h⟩
    | cons next parts =>
      rw [List.intercalate_cons_cons, List.append_assoc, List.mem_append, List.mem_append] at h
      rcases h with h | h | h
      · exact .inr ⟨part, List.mem_cons_self, h⟩
      · exact .inl h
      · exact (ih h).imp_right fun ⟨later, hlater, hc⟩ => ⟨later, List.mem_cons_of_mem part hlater, hc⟩

section

variable {p : Char → Bool} {text before after : List Char}

/-- A span is told by what holds before its end and fails there. -/
theorem span_eq_iff : text.span p = (before, after) ↔
    text = before ++ after ∧ (∀ c ∈ before, p c = true) ∧ ∀ c ∈ after.head?, p c = false := by
  rw [List.span_eq_takeWhile_dropWhile, Prod.mk.injEq]
  constructor
  · rintro ⟨rfl, rfl⟩
    refine ⟨List.takeWhile_append_dropWhile.symm, fun c hc => List.mem_takeWhile_imp hc, ?_⟩
    intro c hc
    have := List.head?_dropWhile_not p text
    rw [Option.mem_def.mp hc] at this
    simpa using this
  · rintro ⟨rfl, hbefore, hafter⟩
    have hnone : after.takeWhile p = [] ∧ after.dropWhile p = after := by
      cases after with
      | nil => exact ⟨rfl, rfl⟩
      | cons c after =>
        have hc : p c = false := hafter c rfl
        exact ⟨by rw [List.takeWhile_cons_of_neg (by simp [hc])],
          by rw [List.dropWhile_cons_of_neg (by simp [hc])]⟩
    rw [List.takeWhile_append_of_pos hbefore, List.dropWhile_append_of_pos hbefore, hnone.1, hnone.2,
      List.append_nil]
    exact ⟨rfl, rfl⟩

/-- What is appended where a mark stands is no part of what comes before the first mark. -/
theorem span_append (text : List Char) {tail : List Char} (htail : ∀ c ∈ tail.head?, p c = false) :
    (text ++ tail).span p = ((text.span p).1, (text.span p).2 ++ tail) := by
  rcases hspan : text.span p with ⟨before, after⟩
  obtain ⟨rfl, hbefore, hafter⟩ := span_eq_iff.mp hspan
  refine span_eq_iff.mpr ⟨List.append_assoc _ _ _, hbefore, ?_⟩
  cases after with
  | nil => exact htail
  | cons c after => exact hafter

theorem dropWhile_of_head? (h : ∀ c ∈ text.head?, p c = false) :
    text.dropWhile p = text := by
  cases text with
  | nil => rfl
  | cons c text => rw [List.dropWhile_cons_of_neg (by simp [h c rfl])]

theorem dropWhile_ne_nil (h : ∃ c ∈ text, p c = false) : text.dropWhile p ≠ [] := by
  intro hnil
  obtain ⟨c, hc, hp⟩ := h
  rw [List.dropWhile_eq_nil_iff.mp hnil c hc] at hp
  cases hp

theorem getLast?_dropWhile (h : ∃ c ∈ text, p c = false) : (text.dropWhile p).getLast? = text.getLast? := by
  rw [← List.getLast?_append_of_ne_nil (text.takeWhile p) (dropWhile_ne_nil h),
    List.takeWhile_append_dropWhile]

end

section

variable {x : α}

theorem getLast?_append_ne {before after : List α} (hne : after ≠ []) (h : x ∉ after) :
    (before ++ after).getLast? ≠ some x := by
  rw [List.getLast?_append_of_ne_nil _ hne]
  exact fun hlast => h (List.mem_of_getLast? hlast)

variable [DecidableEq α]

theorem rdropWhile_concat_self (list : List α) :
    (list ++ [x]).rdropWhile (· = x) = list.rdropWhile (· = x) :=
  List.rdropWhile_concat_pos _ _ _ (by simp)

/-- Copies of a letter are dropped from the end down to another one. -/
theorem rdropWhile_append_replicate {kept : List α} (h : kept.getLast? ≠ some x) (count : Nat) :
    (kept ++ List.replicate count x).rdropWhile (· = x) = kept := by
  induction count with
  | zero =>
    rw [List.replicate_zero, List.append_nil, List.rdropWhile_eq_self_iff]
    intro hne hlast
    rw [List.getLast?_eq_some_getLast hne, of_decide_eq_true hlast] at h
    exact h rfl
  | succ count ih =>
    rw [List.replicate_succ', ← List.append_assoc, rdropWhile_concat_self, ih]

theorem exists_rdropWhile (list : List α) :
    (list.rdropWhile (· = x)).getLast? ≠ some x ∧
      ∃ count, list = list.rdropWhile (· = x) ++ List.replicate count x := by
  induction list using List.reverseRecOn with
  | nil => exact ⟨by simp, 0, by simp⟩
  | append_singleton list y ih =>
    by_cases hy : y = x
    · obtain ⟨hlast, count, hcount⟩ := ih
      rw [hy, rdropWhile_concat_self]
      refine ⟨hlast, count + 1, ?_⟩
      rw [List.replicate_succ', ← List.append_assoc, ← hcount]
    · rw [List.rdropWhile_concat_neg _ _ _ (by simpa using hy)]
      exact ⟨by simpa using hy, 0, by simp⟩

end

section

variable {mark : Char} {text before after : List Char}

theorem splitFirst_of_not_mem (h : mark ∉ text) : splitFirst mark text = (text, none) := by
  have hspan : text.span (· != mark) = (text, []) :=
    span_eq_iff.mpr ⟨(List.append_nil _).symm, fun c hc => bne_iff_ne.mpr fun heq => h (heq ▸ hc),
      fun c hc => by cases hc⟩
  simp only [splitFirst, hspan]

/-- A text is parted at the first mark. -/
theorem splitFirst_append (h : mark ∉ before) (after : List Char) :
    splitFirst mark (before ++ mark :: after) = (before, some after) := by
  have hspan : (before ++ mark :: after).span (· != mark) = (before, mark :: after) :=
    span_eq_iff.mpr ⟨rfl, fun c hc => bne_iff_ne.mpr fun heq => h (heq ▸ hc),
      fun c hc => by rw [← Option.some.inj hc]; exact bne_self_eq_false _⟩
  simp only [splitFirst, hspan]

theorem splitLast_of_not_mem (h : mark ∉ text) : splitLast mark text = none := by
  rw [splitLast, splitFirst_of_not_mem (mt List.mem_reverse.mp h)]

/-- A text is parted at the last mark. -/
theorem splitLast_append (before : List Char) (h : mark ∉ after) :
    splitLast mark (before ++ mark :: after) = some (before, after) := by
  have hreverse : (before ++ mark :: after).reverse = after.reverse ++ mark :: before.reverse := by
    simp
  rw [splitLast, hreverse, splitFirst_append (mt List.mem_reverse.mp h)]
  simp only [List.reverse_reverse]

theorem mem_of_mem_splitLast {c : Char} (h : c ∈ ((splitLast mark text).getD ([], text)).2) :
    c ∈ text := by
  by_cases hmark : mark ∈ text
  · obtain ⟨after, before, hreverse, hafter⟩ := List.eq_append_cons_of_mem (List.mem_reverse.mpr hmark)
    have htext : text = before.reverse ++ mark :: after.reverse := by
      rw [← List.reverse_reverse text, hreverse]
      simp
    rw [htext, splitLast_append _ (mt List.mem_reverse.mp hafter)] at h
    rw [htext]
    exact List.mem_append_right _ (List.mem_cons_of_mem mark h)
  · rwa [splitLast_of_not_mem hmark] at h

end

section

variable {separator : Char → Bool} {c : Char}

theorem splitAt_ne_nil (text : List Char) : splitAt separator text ≠ [] := by
  cases text with
  | nil => exact List.cons_ne_nil _ _
  | cons c rest =>
    unfold splitAt
    split
    · exact List.cons_ne_nil _ _
    · split <;> exact List.cons_ne_nil _ _

/-- A separator parts what is split before it from what is split after it. -/
theorem splitAt_append (hc : separator c = true) (before after : List Char) :
    splitAt separator (before ++ c :: after) =
      splitAt separator before ++ splitAt separator after := by
  induction before with
  | nil => simp [splitAt, hc]
  | cons d before ih =>
    rw [List.cons_append, splitAt, splitAt, ih]
    split
    · rfl
    · obtain ⟨part, parts, hparts⟩ := List.exists_cons_of_ne_nil (splitAt_ne_nil before)
      rw [hparts]
      rfl

theorem splitAt_of_forall {text : List Char} (h : ∀ c ∈ text, separator c = false) :
    splitAt separator text = [text] := by
  induction text with
  | nil => rfl
  | cons c rest ih =>
    obtain ⟨hc, hrest⟩ := List.forall_mem_cons.mp h
    rw [splitAt, if_neg (by rw [hc]; exact Bool.false_ne_true), ih hrest]

/-- The last part of a text that ends in no separator is not empty. -/
theorem getLast?_splitAt {text : List Char} (hne : text ≠ [])
    (hlast : ∀ c ∈ text.getLast?, separator c = false) : (splitAt separator text).getLast? ≠ some [] := by
  induction text with
  | nil => exact absurd rfl hne
  | cons c rest ih =>
    rw [splitAt]
    by_cases hrest : rest = []
    · subst hrest
      rw [if_neg (by rw [hlast c rfl]; exact Bool.false_ne_true)]
      simp [splitAt]
    · have hlast' : ∀ c ∈ rest.getLast?, separator c = false := fun d hd =>
        hlast d (by rwa [List.getLast?_cons_of_ne_nil hrest])
      have ih := ih hrest hlast'
      obtain ⟨part, parts, hparts⟩ := List.exists_cons_of_ne_nil (splitAt_ne_nil rest : splitAt separator rest ≠ [])
      rw [hparts] at ih ⊢
      split
      · rwa [List.getLast?_cons_cons]
      · cases parts with
        | nil => simp
        | cons next parts => rwa [List.getLast?_cons_cons] at ih ⊢

theorem mem_of_mem_splitAt {text part : List Char} (hpart : part ∈ splitAt separator text)
    {d : Char} (hd : d ∈ part) : d ∈ text ∧ separator d = false := by
  induction text generalizing part with
  | nil =>
    rw [splitAt, List.mem_singleton] at hpart
    rw [hpart] at hd
    cases hd
  | cons c rest ih =>
    have hrest {part : List Char} (hpart : part ∈ splitAt separator rest) (hd : d ∈ part) :
        d ∈ c :: rest ∧ separator d = false :=
      ⟨List.mem_cons_of_mem c (ih hpart hd).1, (ih hpart hd).2⟩
    rw [splitAt] at hpart
    split at hpart
    · rcases List.mem_cons.mp hpart with rfl | hpart
      · cases hd
      · exact hrest hpart hd
    · next hc =>
      rw [Bool.not_eq_true] at hc
      obtain ⟨first, parts, hparts⟩ := List.exists_cons_of_ne_nil
        (splitAt_ne_nil rest : splitAt separator rest ≠ [])
      rw [hparts] at hpart
      rcases List.mem_cons.mp hpart with rfl | hpart
      · rcases List.mem_cons.mp hd with rfl | hd
        · exact ⟨List.mem_cons_self, hc⟩
        · exact hrest (hparts ▸ List.mem_cons_self) hd
      · exact hrest (hparts ▸ List.mem_cons_of_mem first hpart) hd

end

end FeatureFlags.Url
