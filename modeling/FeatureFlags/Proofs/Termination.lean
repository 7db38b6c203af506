import FeatureFlags.Proofs.FlagRuns
import FeatureFlags.Proofs.Hashing
import Mathlib.Data.Finset.Card
import Mathlib.Data.Finset.Powerset
import Mathlib.Data.Finset.Prod

/-!
When an evaluation comes to an end. A flag whose evaluation comes to the same flag again, with the
same keys open, is evaluated for ever. There is no other way not to come to an end, since a flag and
the keys that are open make finitely many states. If every flag is stored under its own key, each
state has one more key open than the one before, and every evaluation comes to an end.
-/
namespace FeatureFlags

open Evaluation Relation

/-- No segment is open, and the flags that are have these keys. -/
structure Trail.Tidy (keys : List String) (t : Trail) : Prop where
  openSegments : t.openSegments = []
  nodup : t.openFlags.Nodup
  subset : t.openFlags ⊆ keys

namespace Trail.Tidy

variable {keys : List String} {t : Trail} {flag : Flag}

theorem start (keys : List String) : ({} : Trail).Tidy keys :=
  ⟨rfl, List.nodup_nil, List.nil_subset keys⟩

theorem enter (h : t.Tidy keys) (hkey : flag.key ∈ keys) : (t.enter flag).Tidy keys := by
  unfold Trail.enter
  split
  · exact h
  · refine ⟨h.openSegments, h.nodup.insert, fun key hmem => ?_⟩
    rcases List.mem_insert_iff.mp hmem with rfl | hold
    · exact hkey
    · exact h.subset hold

theorem leave (h : t.Tidy keys) : (t.leave flag).Tidy keys := by
  unfold Trail.leave
  split
  · exact h
  · exact ⟨h.openSegments, h.nodup.erase _, fun key hmem => h.subset (List.mem_of_mem_erase hmem)⟩

theorem noting (h : t.Tidy keys) (recording : Bool) (record : PrerequisiteRecord) :
    (t.noting recording record).Tidy keys := by
  constructor
  · rw [noting_openSegments]; exact h.openSegments
  · rw [noting_openFlags]; exact h.nodup
  · rw [noting_openFlags]; exact h.subset

end Trail.Tidy

section

variable {setting : Setting} {depth : ℕ} {flag : Flag} {t u : Trail} {keys : List String}
variable (hkeys : ∀ key flag, setting.catalog.flag? key = some flag → flag.key ∈ keys)

include hkeys

/-- Evaluation leaves the trail tidy. -/
theorem Flag.tidyRule : Flag.RunRule setting
    (fun _ flag t _ u => flag.key ∈ keys → t.Tidy keys → u.Tidy keys)
    (fun _ _ _ t _ u => t.Tidy keys → u.Tidy keys) where
  off _ _ ht := ht
  unmet _ hchecked hkey ht := (hchecked (ht.enter hkey)).leave
  met _ _ hchecked hserve hkey ht := by
    have hbefore := hchecked (ht.enter hkey)
    obtain ⟨texts, rfl⟩ := Flag.serveMet_onlyHashes _ _ hserve
    exact ⟨hbefore.leave.openSegments, hbefore.leave.nodup, hbefore.leave.subset⟩
  done ht := ht
  again _ ht := ⟨ht.openSegments, ht.nodup, ht.subset⟩
  missing _ _ ht := ht
  failed _ hother _ hserved _ ht := (hserved (hkeys _ _ hother) ht).noting _ _
  passed _ hother _ hserved _ _ hrest ht := hrest ((hserved (hkeys _ _ hother) ht).noting _ _)

theorem Flag.firstUnmet_tidy {required : List Prerequisite} {out : Option Prerequisite}
    (ht : t.Tidy keys) (h : flag.firstUnmet setting depth required t = some (out, u)) :
    u.Tidy keys :=
  (Flag.tidyRule hkeys).of_firstUnmet (Flag.tidyRule hkeys).of_evaluate h ht

end

namespace Flag

variable {setting : Setting} {depth room : ℕ} {flag : Flag} {t u : Trail}

/-- The evaluation of a flag comes to that of another. -/
def Calls (setting : Setting) (s s' : Flag × Trail) : Prop :=
  ∃ required, ComesTo setting s.1 s.2 required s'.2 ∧ required.key ∉ s'.2.openFlags ∧
    setting.catalog.flag? required.key = some s'.1

theorem Calls.of_evaluate {s s' : Flag × Trail} (hcalls : Calls setting s s')
    {result : Detail Json × Trail} (h : s.1.evaluate setting depth s.2 = some result) :
    ∃ less < depth, ∃ result', s'.1.evaluate setting less s'.2 = some result' := by
  obtain ⟨required, hcomes, hclosed, hother⟩ := hcalls
  obtain ⟨less, met, v, rfl, hmet, -⟩ := hcomes.of_evaluate h
  refine ⟨less, Nat.lt_succ_self less, ?_⟩
  rcases prerequisiteMet_cases hmet with ⟨hopen, -⟩ | ⟨-, hnone, -⟩ |
    ⟨other, detail, w, -, hfound, hrun, -, -⟩
  · exact absurd hopen hclosed
  · rw [hother] at hnone
    cases hnone
  · rw [hother] at hfound
    cases hfound
    exact ⟨_, hrun⟩

/-- An evaluation with an answer needs less depth for each evaluation it leads to. -/
theorem Calls.of_evaluate_transGen {s s' : Flag × Trail} (hcalls : TransGen (Calls setting) s s')
    {result : Detail Json × Trail} (h : s.1.evaluate setting depth s.2 = some result) :
    ∃ less < depth, ∃ result', s'.1.evaluate setting less s'.2 = some result' :=
  exists_less_of_transGen
    (fun depth (s : Flag × Trail) => ∃ result, s.1.evaluate setting depth s.2 = some result)
    (fun hcall ⟨_, hrun⟩ => hcall.of_evaluate hrun) hcalls ⟨result, h⟩

/-- Evaluation comes to a flag whose evaluation comes to it again with the same keys open. -/
def Circles (setting : Setting) (flag : Flag) : Prop :=
  ∃ other t t', ReflTransGen (Calls setting) (flag, {}) (other, t) ∧
    TransGen (Calls setting) (other, t) (other, t') ∧ t.Alike t'

/-- No depth suffices the second time unless a smaller one sufficed the first time. -/
theorem evaluate_eq_none_of_repeats {t' : Trail}
    (hcalls : TransGen (Calls setting) (flag, t) (flag, t')) (halike : t.Alike t') (depth : ℕ) :
    flag.evaluate setting depth t = none := by
  induction depth using Nat.strongRecOn with
  | _ depth ih =>
    by_contra hsome
    obtain ⟨result, h⟩ := Option.ne_none_iff_exists'.mp hsome
    obtain ⟨less, hless, ⟨detail, u⟩, hagain⟩ := Calls.of_evaluate_transGen hcalls h
    obtain ⟨u', hsame, -⟩ :=
      evaluate_of_alike setting.recording (Nat.le_refl less) halike.symm hagain
    have hnone := ih less hless
    rw [hnone] at hsame
    cases hsame

/-- A circle has no answer at any depth. -/
theorem Circles.evaluate_eq_none (h : Circles setting flag) (depth : ℕ) :
    flag.evaluate setting depth {} = none := by
  obtain ⟨other, t, t', hreach, hagain, halike⟩ := h
  by_contra hsome
  obtain ⟨result, hrun⟩ := Option.ne_none_iff_exists'.mp hsome
  rcases reflTransGen_iff_eq_or_transGen.mp hreach with heq | hcalls
  · cases heq
    rw [evaluate_eq_none_of_repeats hagain halike] at hrun
    cases hrun
  · obtain ⟨less, -, result', hrun'⟩ := Calls.of_evaluate_transGen hcalls hrun
    rw [evaluate_eq_none_of_repeats hagain halike] at hrun'
    cases hrun'

theorem prerequisiteMet_eq_none {evaluate : Flag → Evaluation (Detail Json)}
    {required : Prerequisite} (h : flag.prerequisiteMet setting evaluate required t = none) :
    required.key ∉ t.openFlags ∧
      ∃ other, setting.catalog.flag? required.key = some other ∧ evaluate other t = none := by
  rw [prerequisiteMet_apply] at h
  by_cases hopen : t.openFlags.contains required.key = true
  · rw [if_pos hopen] at h
    cases h
  · rw [if_neg hopen] at h
    refine ⟨fun hmem => hopen (List.contains_iff_mem.mpr hmem), ?_⟩
    cases hother : setting.catalog.flag? required.key with
    | none =>
      rw [hother] at h
      cases h
    | some other =>
      rw [hother] at h
      refine ⟨other, rfl, ?_⟩
      cases hrun : evaluate other t with
      | none => rfl
      | some result =>
        dsimp only at h
        rw [hrun] at h
        cases h

/-- Without an answer there is a prerequisite whose flag has none, and those before it are met. -/
theorem firstUnmet_eq_none {required : List Prerequisite}
    (h : flag.firstUnmet setting depth required t = none) :
    ∃ before r after u other, required = before ++ r :: after ∧
      flag.firstUnmet setting depth before t = some (none, u) ∧ r.key ∉ u.openFlags ∧
      setting.catalog.flag? r.key = some other ∧ other.evaluate setting depth u = none := by
  induction required generalizing t with
  | nil => cases h
  | cons required rest ih =>
    rw [firstUnmet_cons] at h
    cases hmet : flag.prerequisiteMet setting (evaluate setting depth) required t with
    | none =>
      obtain ⟨hclosed, other, hother, hrun⟩ := prerequisiteMet_eq_none hmet
      exact ⟨[], required, rest, t, other, rfl, rfl, hclosed, hother, hrun⟩
    | some result =>
      obtain ⟨met, between⟩ := result
      rw [hmet, Option.bind_some] at h
      cases met with
      | false => cases h
      | true =>
        obtain ⟨before, r, after, u, other, rfl, hbefore, hrest⟩ := ih h
        refine ⟨required :: before, r, after, u, other, rfl, ?_, hrest⟩
        rw [firstUnmet_cons, hmet]
        exact hbefore

/-- Where the depth does not suffice for a flag, it is for want of depth at one it comes to. -/
theorem exists_calls_of_eq_none (hroom : setting.catalog.Within room) (hle : room ≤ depth)
    (h : flag.evaluate setting (depth + 1) t = none) :
    ∃ other u, Calls setting (flag, t) (other, u) ∧ other.evaluate setting depth u = none := by
  rw [evaluate_succ_apply] at h
  cases hon : flag.on with
  | false =>
    rw [hon] at h
    cases h
  | true =>
    rw [if_pos hon] at h
    cases hcheck : flag.firstUnmet setting depth flag.prerequisites (t.enter flag) with
    | none =>
      obtain ⟨before, r, after, u, other, hsplit, hbefore, hclosed, hother, hrun⟩ :=
        firstUnmet_eq_none hcheck
      exact ⟨other, u, ⟨r, ⟨hon, before, after, depth, hsplit, hbefore⟩, hclosed, hother⟩, hrun⟩
    | some result =>
      obtain ⟨out, u⟩ := result
      rw [hcheck, Option.bind_some] at h
      cases out with
      | some required => cases h
      | none =>
        obtain ⟨served, hserve⟩ := flag.serveMet_isSome hroom hle (u.leave flag)
        dsimp only at h
        rw [hserve] at h
        cases h

/-- A flag of these whose evaluation is under way, without anything found open so far. -/
structure UnderWay (flags : List Flag) (s : Flag × Trail) : Prop where
  flag : s.1 ∈ flags
  tidy : s.2.Tidy (flags.map Flag.key)
  cycle : s.2.cycle = false

section

variable {flags : List Flag} (hroom : setting.catalog.Within room)
  (hflags : ∀ key flag, setting.catalog.flag? key = some flag → flag ∈ flags)

include hroom hflags

omit hroom in
theorem Calls.underWay {s s' : Flag × Trail} (hcalls : Calls setting s s')
    (hs : UnderWay flags s) : UnderWay flags s' := by
  obtain ⟨required, ⟨-, before, after, depth, -, hbefore⟩, -, hother⟩ := hcalls
  have hkeys : ∀ key flag, setting.catalog.flag? key = some flag → flag.key ∈ flags.map Flag.key :=
    fun key flag hfound => List.mem_map_of_mem (hflags key flag hfound)
  have henter := hs.tidy.enter (List.mem_map_of_mem hs.flag)
  refine ⟨hflags _ _ hother, firstUnmet_tidy hkeys henter hbefore, ?_⟩
  exact firstUnmet_met_cycle hbefore (by rw [Trail.enter_cycle]; exact hs.cycle)

/-- What does not come to an end calls as often as we like. -/
theorem exists_calls_chain (length : ℕ) (hs : UnderWay flags (flag, t))
    (h : flag.evaluate setting (room + length) t = none) :
    ∃ s : ℕ → Flag × Trail, s 0 = (flag, t) ∧ (∀ i ≤ length, UnderWay flags (s i)) ∧
      ∀ i < length, Calls setting (s i) (s (i + 1)) := by
  induction length generalizing flag t with
  | zero =>
    refine ⟨fun _ => (flag, t), rfl, fun _ _ => hs, fun i hi => ?_⟩
    exact absurd hi (Nat.not_lt_zero i)
  | succ length ih =>
    obtain ⟨other, u, hcall, hnone⟩ :=
      exists_calls_of_eq_none hroom (Nat.le_add_right room length) h
    obtain ⟨s, hstart, hunder, hsteps⟩ := ih (hcall.underWay hflags hs) hnone
    refine ⟨fun i => i.casesOn (flag, t) s, rfl, fun i hi => ?_, fun i hi => ?_⟩
    · cases i with
      | zero => exact hs
      | succ i => exact hunder i (by omega)
    · cases i with
      | zero =>
        change Calls setting (flag, t) (s 0)
        rw [hstart]
        exact hcall
      | succ i => exact hsteps i (by omega)

omit hroom hflags in
/-- In a chain of evaluations the earlier one leads to the later one. -/
theorem transGen_of_chain {s : ℕ → Flag × Trail} {length : ℕ}
    (hsteps : ∀ i < length, Calls setting (s i) (s (i + 1))) {i j : ℕ} (hij : i < j)
    (hj : j ≤ length) : TransGen (Calls setting) (s i) (s j) := by
  induction j with
  | zero => omega
  | succ j ih =>
    rcases Nat.lt_or_eq_of_le (Nat.lt_succ_iff.mp hij) with hlt | rfl
    · exact (ih hlt (by omega)).tail (hsteps j (by omega))
    · exact .single (hsteps i (by omega))

/-- There are no more states than flags, each with any of them open. -/
theorem circles_of_eq_none (hflag : flag ∈ flags)
    (h : flag.evaluate setting (room + flags.length * 2 ^ flags.length) {} = none) :
    Circles setting flag := by
  classical
  obtain ⟨s, hstart, hunder, hsteps⟩ :=
    exists_calls_chain hroom hflags _ ⟨hflag, Trail.Tidy.start _, rfl⟩ h
  let states := flags.toFinset ×ˢ (flags.map Flag.key).toFinset.powerset
  have hcard : states.card < (Finset.range (flags.length * 2 ^ flags.length + 1)).card := by
    have hkeys : (flags.map Flag.key).toFinset.card ≤ flags.length := by
      simpa using List.toFinset_card_le (flags.map Flag.key)
    rw [Finset.card_product, Finset.card_powerset, Finset.card_range]
    exact Nat.lt_succ_of_le
      (Nat.mul_le_mul (List.toFinset_card_le flags) (Nat.pow_le_pow_right (by decide) hkeys))
  have hmaps : ∀ i ∈ Finset.range (flags.length * 2 ^ flags.length + 1),
      ((s i).1, (s i).2.openFlags.toFinset) ∈ states := by
    intro i hi
    have hstate := hunder i (Nat.lt_succ_iff.mp (Finset.mem_range.mp hi))
    refine Finset.mem_product.mpr ⟨List.mem_toFinset.mpr hstate.flag, ?_⟩
    rw [Finset.mem_powerset]
    intro key hkey
    exact List.mem_toFinset.mpr (hstate.tidy.subset (List.mem_toFinset.mp hkey))
  obtain ⟨a, ha, b, hb, hne, hsame⟩ := Finset.exists_ne_map_eq_of_card_lt_of_maps_to hcard hmaps
  obtain ⟨i, j, hij, hj, hsame⟩ : ∃ i j, i < j ∧ j ≤ flags.length * 2 ^ flags.length ∧
      ((s i).1, (s i).2.openFlags.toFinset) = ((s j).1, (s j).2.openFlags.toFinset) := by
    rw [Finset.mem_range] at ha hb
    rcases Nat.lt_or_gt_of_ne hne with hlt | hgt
    · exact ⟨a, b, hlt, by omega, hsame⟩
    · exact ⟨b, a, hgt, by omega, hsame.symm⟩
  obtain ⟨hflagSame, hopenSame⟩ := Prod.mk.inj hsame
  have hi := hunder i (by omega)
  have hj' := hunder j hj
  have hreach : ReflTransGen (Calls setting) (flag, {}) (s i) := by
    rw [← hstart]
    rcases Nat.eq_zero_or_pos i with rfl | hpos
    · exact .refl
    · exact (transGen_of_chain hsteps hpos (by omega)).to_reflTransGen
  have hagain : TransGen (Calls setting) (s i) ((s i).1, (s j).2) := by
    rw [hflagSame]
    exact transGen_of_chain hsteps hij hj
  refine ⟨(s i).1, (s i).2, (s j).2, hreach, hagain, ?_, ?_, ?_⟩
  · exact List.perm_of_nodup_nodup_toFinset_eq hi.tidy.nodup hj'.tidy.nodup hopenSame
  · rw [hi.tidy.openSegments, hj'.tidy.openSegments]
  · rw [hi.cycle, hj'.cycle]

end

end Flag

/-- Flags are found under the keys they give themselves. -/
def Catalog.SelfKeyed (catalog : Catalog) : Prop :=
  ∀ key flag, catalog.flag? key = some flag → flag.key = key

namespace Flag

variable {setting : Setting} {depth room : ℕ} {flag : Flag} {t u : Trail}

section

variable (hself : setting.catalog.SelfKeyed)

include hself

/-- A flag that is not open is closed again when it was evaluated, and no segment is left open. -/
theorem frameRule : RunRule setting
    (fun _ flag t _ u => flag.key ∉ t.openFlags →
      u.openFlags = t.openFlags ∧ u.openSegments = t.openSegments)
    (fun _ _ _ t _ u => u.openFlags = t.openFlags ∧ u.openSegments = t.openSegments) where
  off _ _ := ⟨rfl, rfl⟩
  unmet _ hchecked hclosed := by
    obtain ⟨hopen, hsegments⟩ := hchecked
    rw [Trail.enter_openSegments] at hsegments
    exact ⟨Trail.leave_openFlags hclosed hopen, (Trail.leave_openSegments _ _).trans hsegments⟩
  met _ _ hchecked hserve hclosed := by
    obtain ⟨hopen, hsegments⟩ := hchecked
    obtain ⟨texts, rfl⟩ := serveMet_onlyHashes _ _ hserve
    rw [Trail.enter_openSegments] at hsegments
    exact ⟨Trail.leave_openFlags hclosed hopen, (Trail.leave_openSegments _ _).trans hsegments⟩
  done := ⟨rfl, rfl⟩
  again _ := ⟨rfl, rfl⟩
  missing _ _ := ⟨rfl, rfl⟩
  failed hclosed hother _ hserved _ := by
    rw [Trail.noting_openFlags, Trail.noting_openSegments]
    exact hserved (by rw [hself _ _ hother]; exact hclosed)
  passed hclosed hother _ hserved _ _ hrest := by
    obtain ⟨hopen, hsegments⟩ := hserved (by rw [hself _ _ hother]; exact hclosed)
    obtain ⟨hopen', hsegments'⟩ := hrest
    rw [Trail.noting_openFlags] at hopen'
    rw [Trail.noting_openSegments] at hsegments'
    exact ⟨hopen'.trans hopen, hsegments'.trans hsegments⟩

theorem evaluate_frame (hclosed : flag.key ∉ t.openFlags) {detail : Detail Json}
    (h : flag.evaluate setting depth t = some (detail, u)) :
    u.openFlags = t.openFlags ∧ u.openSegments = t.openSegments :=
  (frameRule hself).of_evaluate h hclosed

theorem firstUnmet_frame {required : List Prerequisite} {out : Option Prerequisite}
    (h : flag.firstUnmet setting depth required t = some (out, u)) :
    u.openFlags = t.openFlags ∧ u.openSegments = t.openSegments :=
  (frameRule hself).of_firstUnmet (frameRule hself).of_evaluate h

/-- At a prerequisite its flag is open, besides what was open before. -/
theorem ComesTo.frame {required : Prerequisite} (hcomes : ComesTo setting flag t required u)
    (hclosed : flag.key ∉ t.openFlags) :
    u.openFlags = flag.key :: t.openFlags ∧ u.openSegments = t.openSegments := by
  obtain ⟨-, before, after, depth, hsplit, hbefore⟩ := hcomes
  have hrequires : flag.prerequisites ≠ [] := by
    rw [hsplit]
    exact List.append_ne_nil_of_right_ne_nil before (List.cons_ne_nil required after)
  obtain ⟨hopen, hsegments⟩ := firstUnmet_frame hself hbefore
  exact ⟨hopen.trans (Trail.enter_openFlags hrequires hclosed),
    hsegments.trans (Trail.enter_openSegments t flag)⟩

/-- Whatever is open, evaluation comes to an end if only the flag is not open itself. -/
theorem exists_evaluate {keys : List String} (hroom : setting.catalog.Within room)
    (hkeys : ∀ key flag, setting.catalog.flag? key = some flag → flag.key ∈ keys)
    (hkey : flag.key ∈ keys) (hclosed : flag.key ∉ t.openFlags)
    (hdepth : room + closedCount keys t.openFlags ≤ depth) :
    ∃ detail u, flag.evaluate setting depth t = some (detail, u) := by
  induction depth generalizing flag t with
  | zero =>
    have hcount := closedCount_cons_lt hkey hclosed
    omega
  | succ depth ih =>
    by_contra hnone
    have hstuck : flag.evaluate setting (depth + 1) t = none := by
      rw [Option.eq_none_iff_forall_ne_some]
      exact fun result hsome => hnone ⟨result.1, result.2, hsome⟩
    -- At what the flag calls, one more key is open.
    have hfewer := closedCount_cons_lt hkey hclosed
    obtain ⟨other, u, ⟨required, hcomes, hfresh, hother⟩, hbelow⟩ :=
      exists_calls_of_eq_none hroom (by omega) hstuck
    obtain ⟨hopened, -⟩ := hcomes.frame hself hclosed
    dsimp only at hopened hfresh hother
    have hfresh' : other.key ∉ u.openFlags := by rw [hself _ _ hother]; exact hfresh
    obtain ⟨detail, v, hrun⟩ := ih (hkeys _ _ hother) hfresh' (by rw [hopened]; omega)
    rw [hrun] at hbelow
    cases hbelow

end

end Flag

namespace Dataset

variable (data : Dataset)

def liveFlags : List Flag := data.flags.entries.filterMap fun entry => entry.2.item.bind Item.flag?

def liveSegments : List Segment :=
  data.segments.entries.filterMap fun entry => entry.2.item.bind Item.segment?

variable {data}

theorem find_live_iff {α : Type} {table : Keyed Descriptor} {part : Item → Option α} {key : String}
    {live : α} : ((table.get? key).bind (·.item)).bind part = some live ↔
      ∃ descriptor, (key, descriptor) ∈ table.entries ∧ descriptor.item.bind part = some live := by
  constructor
  · intro h
    obtain ⟨item, hitem, hlive⟩ := Option.bind_eq_some_iff.mp h
    obtain ⟨descriptor, hget, hdescriptor⟩ := Option.bind_eq_some_iff.mp hitem
    refine ⟨descriptor, Keyed.get?_eq_some_iff.mp hget, ?_⟩
    rw [hdescriptor]
    exact hlive
  · rintro ⟨descriptor, hmem, hlive⟩
    rw [Keyed.get?_eq_some_iff.mpr hmem]
    exact hlive

theorem mem_liveFlags {key : String} {flag : Flag} (h : data.flag? key = some flag) :
    flag ∈ data.liveFlags := by
  obtain ⟨descriptor, hmem, hflag⟩ := find_live_iff.mp h
  exact List.mem_filterMap.mpr ⟨(key, descriptor), hmem, hflag⟩

theorem mem_liveSegments {key : String} {segment : Segment}
    (h : data.segment? key = some segment) : segment ∈ data.liveSegments := by
  obtain ⟨descriptor, hmem, hsegment⟩ := find_live_iff.mp h
  exact List.mem_filterMap.mpr ⟨(key, descriptor), hmem, hsegment⟩

/-- Whether all flags are stored under their own keys can be told from the entries. -/
theorem selfKeyed_iff : data.catalog.SelfKeyed ↔ ∀ entry ∈ data.flags.entries,
    ∀ flag, entry.2.item.bind Item.flag? = some flag → flag.key = entry.1 := by
  constructor
  · intro hself entry hentry flag hflag
    exact hself entry.1 flag (find_live_iff.mpr ⟨entry.2, hentry, hflag⟩)
  · intro hentries key flag hfound
    obtain ⟨descriptor, hmem, hflag⟩ := find_live_iff.mp hfound
    exact hentries (key, descriptor) hmem flag hflag

variable (data)

theorem catalog_within : data.catalog.Within (data.segments.size + 1) := by
  refine ⟨data.liveSegments.map Segment.key, fun key segment hfound => ?_, ?_⟩
  · exact List.mem_map_of_mem (mem_liveSegments hfound)
  · rw [List.length_map]
    exact Nat.lt_succ_of_le (List.length_filterMap_le _ _)

/-- The depth of a dataset suffices for every way its keys can be open. -/
theorem le_depth (flag : Flag) :
    data.segments.size + 1 + (flag :: data.liveFlags).length * 2 ^ (flag :: data.liveFlags).length ≤
      data.depth := by
  have hlength : (flag :: data.liveFlags).length ≤ data.flags.size + 1 :=
    Nat.succ_le_succ (List.length_filterMap_le _ _)
  have hstates := Nat.mul_le_mul hlength (Nat.pow_le_pow_right (n := 2) (by decide) hlength)
  have hdouble : 2 * (data.flags.size + 1) * 2 ^ (data.flags.size + 1) =
    2 * ((data.flags.size + 1) * 2 ^ (data.flags.size + 1)) := Nat.mul_assoc _ _ _
  rw [depth, Nat.shiftLeft_eq]
  omega

def setting (bucketer : Bucketer) (subject : Subject) (recording : Bool) : Setting :=
  ⟨data.catalog, subject, bucketer, recording⟩

variable {data} (bucketer : Bucketer) (subject : Subject) (recording : Bool) {flag : Flag}

/-- Where flags are found under their own keys, the depth of a dataset always suffices. -/
theorem exists_evaluate_depth (hself : data.catalog.SelfKeyed) {key : String}
    (hlive : data.flag? key = some flag) :
    ∃ detail u, flag.evaluate (data.setting bucketer subject recording) data.depth {} =
      some (detail, u) := by
  refine Flag.exists_evaluate hself data.catalog_within
    (fun _ _ hfound => List.mem_map_of_mem (mem_liveFlags hfound))
    (List.mem_map_of_mem (mem_liveFlags hlive)) List.not_mem_nil ?_
  have hcount := closedCount_le (data.liveFlags.map Flag.key) ({} : Trail).openFlags
  have hdepth := data.le_depth flag
  have hpower := Nat.lt_two_pow_self (n := (flag :: data.liveFlags).length)
  have hlength : data.liveFlags.length ≤
      (flag :: data.liveFlags).length * 2 ^ (flag :: data.liveFlags).length := by
    rw [List.length_cons]
    exact Nat.le_trans (Nat.le_succ _) (Nat.le_mul_of_pos_right _ (Nat.two_pow_pos _))
  rw [List.length_map] at hcount
  omega

variable {bucketer subject recording}

theorem evaluate?_isSome : (data.evaluate? bucketer subject flag recording).isSome ↔
    (flag.evaluate (data.setting bucketer subject recording) data.depth {}).isSome := by
  unfold evaluate? Setting.outcome?
  rw [Option.isSome_map]
  rfl

/-- A flag has no answer within the depth of its dataset exactly if it circles. -/
theorem circles_iff :
    flag.Circles (data.setting bucketer subject recording) ↔
      flag.evaluate (data.setting bucketer subject recording) data.depth {} = none := by
  constructor
  · exact fun hcircles => hcircles.evaluate_eq_none data.depth
  · intro hnone
    have hflags : ∀ key other, data.catalog.flag? key = some other →
        other ∈ flag :: data.liveFlags :=
      fun key other hfound => List.mem_cons_of_mem flag (mem_liveFlags hfound)
    refine Flag.circles_of_eq_none data.catalog_within hflags List.mem_cons_self ?_
    by_contra hsome
    obtain ⟨result, hrun⟩ := Option.ne_none_iff_exists'.mp hsome
    rw [Flag.evaluate_mono (data.le_depth flag) hrun] at hnone
    cases hnone

/-- Evaluation comes to an end unless it comes to a flag whose evaluation comes to it again with the
same keys open, and then no depth suffices. Segments are always told, and so are flags that are all
stored under their own keys. -/
theorem evaluation_ends_iff (data : Dataset) (bucketer : Bucketer) (subject : Subject)
    (recording : Bool) :
    (∀ flag, (data.evaluate? bucketer subject flag recording).isSome ↔
      ¬ Flag.Circles (data.setting bucketer subject recording) flag) ∧
    (∀ flag, (∃ depth, (flag.evaluate (data.setting bucketer subject recording) depth {}).isSome) ↔
      ¬ Flag.Circles (data.setting bucketer subject recording) flag) ∧
    (∀ key segment, data.segment? key = some segment →
      (segment.contains (data.setting bucketer subject recording)
        (data.segments.size + 1) {}).isSome) ∧
    (data.catalog.SelfKeyed → ∀ key flag, data.flag? key = some flag →
      ¬ Flag.Circles (data.setting bucketer subject recording) flag) := by
  refine ⟨fun flag => ?_, fun flag => ⟨?_, fun hnot => ?_⟩, fun key segment hlive => ?_, ?_⟩
  · rw [evaluate?_isSome, circles_iff, ← ne_eq, Option.isSome_iff_ne_none]
  · rintro ⟨depth, hsome⟩ hcircles
    rw [hcircles.evaluate_eq_none depth] at hsome
    cases hsome
  · refine ⟨data.depth, ?_⟩
    rw [circles_iff, ← ne_eq] at hnot
    exact Option.isSome_iff_ne_none.mpr hnot
  · obtain ⟨keys, hkeys, hlength⟩ := data.catalog_within
    have hsettled : Settled (segment.contains (data.setting bucketer subject recording)
        (data.segments.size + 1)) [] :=
      Segment.settled_contains hkeys _ (hkeys key segment hlive) List.nodup_nil
        (List.nil_subset keys) (by simpa using hlength)
    obtain ⟨answer, texts, hsettles⟩ := hsettled
    rw [hsettles {} rfl]
    rfl
  · intro hself key flag hlive hcircles
    obtain ⟨detail, u, hrun⟩ := exists_evaluate_depth bucketer subject recording hself hlive
    rw [hcircles.evaluate_eq_none data.depth] at hrun
    cases hrun

def aliased : Flag where
  key := "x"
  version := 1
  on := true
  prerequisites := [⟨"a", 0⟩]
  offVariation := some 1
  fallthrough := .variation 0
  variations := [.string "on", .string "off"]

/-- Under `a` the flag is stored itself, and it is open under `x`. -/
def aliasedDefinitions : Definitions := { flags := Keyed.ofList [("a", aliased)] }

theorem aliased_calls (setting : Setting) (hfound : setting.catalog.flag? "a" = some aliased)
    (t : Trail) (hclosed : "a" ∉ (t.enter aliased).openFlags) :
    Flag.Calls setting (aliased, t) (aliased, t.enter aliased) :=
  ⟨⟨"a", 0⟩, ⟨rfl, [], [], 0, rfl, rfl⟩, hclosed, hfound⟩

/-- The flag asks for itself under the other key, again and again. -/
theorem aliased_never_ends :
    (ofDefinitions aliasedDefinitions).flag? "a" = some aliased ∧
      (ofDefinitions aliasedDefinitions).evaluate? Murmur3.bucketer { key := "alice" } aliased =
        none ∧
      ∀ depth, aliased.evaluate ((ofDefinitions aliasedDefinitions).setting Murmur3.bucketer
        { key := "alice" } true) depth {} = none := by
  have hfound : (ofDefinitions aliasedDefinitions).flag? "a" = some aliased := rfl
  let setting := (ofDefinitions aliasedDefinitions).setting Murmur3.bucketer { key := "alice" } true
  have hcircles : aliased.Circles setting := by
    refine ⟨aliased, ({} : Trail).enter aliased, (({} : Trail).enter aliased).enter aliased,
      .single ?_, .single ?_, .refl _, rfl, rfl⟩
    · exact aliased_calls setting hfound _ (by decide)
    · exact aliased_calls setting hfound _ (by decide)
  refine ⟨hfound, ?_, hcircles.evaluate_eq_none⟩
  have hdepth := hcircles.evaluate_eq_none (ofDefinitions aliasedDefinitions).depth
  unfold evaluate? Setting.outcome?
  rw [Option.map_eq_none_iff]
  exact hdepth

end Dataset

end FeatureFlags
