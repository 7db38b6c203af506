import FeatureFlags.Proofs.Rounding
import FeatureFlags.Proofs.Simulation
import FeatureFlags.Proofs.TextParts

/-!
Rollouts by attributes that are whole numbers. Such an attribute is a double, the one nearest to the
number it was made from, and the text that is hashed is that of the double within 64 bits. So
numbers share a text where they share a double, which none does up to `2 ^ 53`.
-/
namespace FeatureFlags

open Binary64

theorem dot_notMem_toString (n : ℤ) : '.' ∉ (toString n).toList := by
  have hnat : ∀ m : ℕ, '.' ∉ (Nat.repr m).toList := by
    intro m hdot
    rw [Nat.repr_eq_ofList_toDigits, String.toList_ofList] at hdot
    exact absurd (Nat.isDigit_of_mem_toDigits (by decide) (by decide) hdot) (by decide)
  cases n with
  | ofNat m => exact hnat m
  | negSucc m =>
    show '.' ∉ ("-" ++ Nat.repr (m + 1)).toList
    rw [String.toList_append, List.mem_append, not_or]
    exact ⟨by decide, hnat (m + 1)⟩

namespace Subject

def hashedText (subject : Subject) (key salt id : String) : String :=
  key ++ "." ++ salt ++ "." ++
    match subject.secondary with
    | some secondary => id ++ "." ++ secondary
    | none => id

theorem bucketText?_of_value {subject : Subject} {name id : String} {value : Attribute}
    (hvalue : subject.value? name = some value) (hid : value.bucketText? = some id)
    (key salt : String) :
    subject.bucketText? key salt (some name) = some (subject.hashedText key salt id) := by
  unfold bucketText? hashedText
  rw [Option.getD_some, hvalue, Option.bind_eq_bind, Option.bind_some, hid]
  rfl

def ending : Option String → List Char
  | some secondary => '.' :: secondary.toList
  | none => []

theorem toList_hashedText (subject : Subject) (key salt id : String) :
    (subject.hashedText key salt id).toList =
      (key ++ "." ++ salt ++ ".").toList ++ (id.toList ++ ending subject.secondary) := by
  unfold hashedText
  rw [String.toList_append]
  cases subject.secondary with
  | none => rw [ending, List.append_nil]
  | some secondary =>
    dsimp only
    rw [ending, String.toList_append, List.append_cancel_left_eq, String.append_assoc,
      String.toList_append]
    exact congrArg (id.toList ++ ·) String.toList_append

theorem ending_inj {secondary other : Option String} (h : ending secondary = ending other) :
    secondary = other := by
  cases secondary with
  | none => cases other with
    | none => rfl
    | some other => cases h
  | some secondary => cases other with
    | none => cases h
    | some other => rw [String.toList_inj.mp (List.cons.inj h).2]

/-- An id without a dot ends where the secondary key begins. -/
theorem span_ending {id : String} (hid : '.' ∉ id.toList) (secondary : Option String) :
    (id.toList ++ ending secondary).span (· != '.') = (id.toList, ending secondary) := by
  refine Url.span_eq_iff.mpr ⟨rfl, fun c hc => ?_, fun c hc => ?_⟩
  · exact bne_iff_ne.mpr fun hdot => hid (hdot ▸ hc)
  · cases secondary with
    | none => cases hc
    | some secondary =>
      obtain rfl := Option.some.inj hc
      rfl

/-- Ids without a dot are told apart in the text to hash, whatever the secondary keys are. -/
theorem hashedText_inj (subject other : Subject) (key salt : String) {id id' : String}
    (hid : '.' ∉ id.toList) (hid' : '.' ∉ id'.toList) :
    subject.hashedText key salt id = other.hashedText key salt id' ↔
      id = id' ∧ subject.secondary = other.secondary := by
  constructor
  · intro h
    have hlists := congrArg String.toList h
    rw [toList_hashedText, toList_hashedText, List.append_cancel_left_eq] at hlists
    have hspans := congrArg (List.span (· != '.')) hlists
    rw [span_ending hid, span_ending hid', Prod.mk.injEq] at hspans
    exact ⟨String.toList_inj.mp hspans.1, ending_inj hspans.2⟩
  · rintro ⟨rfl, hsecondary⟩
    rw [hashedText, hashedText, hsecondary]

end Subject

/-- The number that the double made from `n` is. -/
def IsRounded (n k : ℤ) : Prop :=
  ∃ p, parts? (Float.ofInt n) = some p ∧ p.value = k ∧ Nearest n p

def InInt64 (n : ℤ) : Prop := minInt64 ≤ n ∧ n ≤ maxInt64

instance (n : ℤ) : Decidable (InInt64 n) := inferInstanceAs (Decidable (_ ∧ _))

theorem InInt64.log2_lt {n : ℤ} (h : InInt64 n) : n.natAbs.log2 < 1023 := by
  obtain ⟨hlow, hhigh⟩ := h
  by_cases hzero : n.natAbs = 0
  · rw [hzero]
    decide
  · have hsize : n.natAbs < 2 ^ 64 := by
      unfold minInt64 at hlow
      unfold maxInt64 at hhigh
      omega
    have hlog := (Nat.log2_lt hzero).mpr hsize
    omega

/-- Every 64-bit integer has a double next to it, and up to the 53rd bit it is the integer itself. -/
theorem InInt64.exists_rounded {n : ℤ} (h : InInt64 n) :
    ∃ k, IsRounded n k ∧ (n.natAbs ≤ 2 ^ 53 → k = n) := by
  obtain ⟨p, k, hparts, hvalue, hnearest, hsmall⟩ := exists_nearest_ofInt h.log2_lt
  exact ⟨k, ⟨p, hparts, hvalue, hnearest⟩, hsmall⟩

theorem parts?_ofInt_minInt64 : parts? (Float.ofInt minInt64) = some ⟨true, 2 ^ 52, 1086⟩ := by
  decide +kernel

/-- The largest integer is made into the double after it. -/
theorem parts?_ofInt_maxInt64 : parts? (Float.ofInt maxInt64) = some ⟨false, 2 ^ 52, 1086⟩ := by
  decide +kernel

theorem value_lowest : (Parts.mk true (2 ^ 52) 1086).value = (minInt64 : ℤ) := by
  norm_num [Parts.value, Parts.sign, minInt64]

theorem value_highest : (Parts.mk false (2 ^ 52) 1086).value = (maxInt64 + 1 : ℤ) := by
  norm_num [Parts.value, Parts.sign, maxInt64]

namespace IsRounded

variable {n n' k k' : ℤ}

/-- The text of a whole number in a rollout is that of its double, held within 64 bits. -/
theorem bucketText? (h : IsRounded n k) :
    (Attribute.ofInt n).bucketText? = some (toString (clamp k)) := by
  obtain ⟨p, hparts, hvalue, -⟩ := h
  obtain ⟨hwhole, hread⟩ := of_value_eq hparts hvalue
  rw [Attribute.ofInt, Attribute.bucketText?, if_pos hwhole, hread]

/-- A number is kept if it is a double. -/
theorem eq_iff (h : IsRounded n k) : k = n ↔ ∃ y q, parts? y = some q ∧ q.value = n := by
  obtain ⟨p, hparts, hvalue, hnearest⟩ := h
  constructor
  · rintro rfl
    exact ⟨_, p, hparts, hvalue⟩
  · rintro ⟨y, q, hy, hq⟩
    exact_mod_cast hvalue.symm.trans (hnearest.value_eq hy hq)

theorem bounds (h : IsRounded n k) (hn : InInt64 n) : minInt64 ≤ k ∧ k ≤ maxInt64 + 1 := by
  obtain ⟨p, hparts, hvalue, hnearest⟩ := h
  obtain ⟨hlow, hhigh⟩ := hn
  constructor
  · have hle := hnearest.le_value parts?_ofInt_minInt64 (by rw [value_lowest]; exact_mod_cast hlow)
    rw [value_lowest, hvalue] at hle
    exact_mod_cast hle
  · have hnext : n ≤ maxInt64 + 1 := by omega
    have hle := hnearest.value_le parts?_ofInt_maxInt64
      (by rw [value_highest]; exact_mod_cast hnext)
    rw [value_highest, hvalue] at hle
    exact_mod_cast hle

theorem of_maxInt64 (h : IsRounded maxInt64 k) : k = maxInt64 + 1 := by
  obtain ⟨p, hparts, hvalue, -⟩ := h
  obtain rfl := Option.some.inj (parts?_ofInt_maxInt64.symm.trans hparts)
  exact_mod_cast hvalue.symm.trans value_highest

/-- The largest integer is no double. -/
theorem ne_maxInt64 (h : IsRounded n k) : k ≠ maxInt64 := by
  rintro rfl
  obtain ⟨p, hparts, hvalue, -⟩ := h
  have hlast : InInt64 maxInt64 := ⟨by decide, le_rfl⟩
  obtain ⟨k, hrounded, -⟩ := hlast.exists_rounded
  have hkept : k = maxInt64 := hrounded.eq_iff.mpr ⟨_, p, hparts, hvalue⟩
  have hnext := hrounded.of_maxInt64
  omega

theorem clamp_eq_iff (h : IsRounded n k) (hn : InInt64 n) :
    clamp k = n ↔ k = n ∨ n = maxInt64 := by
  obtain ⟨hlow, hhigh⟩ := h.bounds hn
  have hne := h.ne_maxInt64
  constructor
  · intro hclamp
    unfold clamp at hclamp
    omega
  · rintro (rfl | rfl)
    · exact clamp_eq_self hn.1 hn.2
    · rw [h.of_maxInt64]
      decide

/-- Holding a number within 64 bits makes no two doubles the same. -/
theorem clamp_inj (h : IsRounded n k) (hn : InInt64 n) (h' : IsRounded n' k') (hn' : InInt64 n') :
    clamp k = clamp k' ↔ k = k' := by
  obtain ⟨hlow, hhigh⟩ := h.bounds hn
  obtain ⟨hlow', hhigh'⟩ := h'.bounds hn'
  have hne := h.ne_maxInt64
  have hne' := h'.ne_maxInt64
  refine ⟨fun hclamp => ?_, congrArg clamp⟩
  unfold clamp at hclamp
  omega

theorem eq_iff_ofInt_eq (h : IsRounded n k) (hn : InInt64 n) (h' : IsRounded n' k')
    (hn' : InInt64 n') : k = k' ↔ Float.ofInt n = Float.ofInt n' := by
  obtain ⟨p, hparts, hvalue, -⟩ := h
  obtain ⟨p', hparts', hvalue', -⟩ := h'
  constructor
  · rintro rfl
    exact ofInt_eq_of_value_eq hn.log2_lt hn'.log2_lt hparts hparts' (hvalue.trans hvalue'.symm)
  · intro hsame
    rw [hsame] at hparts
    obtain rfl := Option.some.inj (hparts.symm.trans hparts')
    exact_mod_cast hvalue.symm.trans hvalue'

end IsRounded

theorem Setting.bucket_of_text {setting : Setting} {key salt text : String} {name : Option String}
    (h : setting.subject.bucketText? key salt name = some text) (t : Trail) :
    setting.bucket key salt name t =
      some (setting.bucketer text, { t with hashed := t.hashed ++ [text] }) := by
  unfold bucket
  rw [h]
  rfl

/-- A choice of shares is made by the bucket of this text. -/
theorem Flag.choose_of_text {setting : Setting} {flag : Flag} {shares : Rollout} {text : String}
    (h : setting.subject.bucketText? flag.key flag.salt shares.bucketBy = some text) (t : Trail) :
    flag.choose setting (.rollout shares) t =
      some (shares.pick (setting.bucketer text), { t with hashed := t.hashed ++ [text] }) := by
  change (setting.bucket _ _ _ >>= _) t = _
  rw [Evaluation.bind_apply, Setting.bucket_of_text h, Option.bind_some]
  rfl

/-- The attribute made from a whole number is the nearest double, and its text is that of the double
within 64 bits, which is the number's own where it is a double, as all are up to `2 ^ 53`, or the
largest. So a rollout by it hashes that text, and subjects share a text to hash exactly if their
numbers have one double and they have one secondary key. -/
theorem whole_numbers_hashed :
    (∀ n : ℤ, InInt64 n → ∃ (p : Parts) (k : ℤ),
      parts? (Float.ofInt n) = some p ∧ Nearest n p ∧ p.value = k ∧
      (Attribute.ofInt n).bucketText? = some (toString (clamp k)) ∧
      (toString (clamp k) = toString n ↔
        (∃ y q, parts? y = some q ∧ q.value = n) ∨ n = maxInt64) ∧
      (n.natAbs ≤ 2 ^ 53 → toString (clamp k) = toString n) ∧
      ∀ (setting : Setting) (flag : Flag) (shares : Rollout) (name : String) (t : Trail),
        shares.bucketBy = some name → setting.subject.value? name = some (.ofInt n) →
        let text := setting.subject.hashedText flag.key flag.salt (toString (clamp k))
        flag.choose setting (.rollout shares) t =
          some (shares.pick (setting.bucketer text), { t with hashed := t.hashed ++ [text] })) ∧
    ∀ (n n' : ℤ) (subject other : Subject) (key salt name : String), InInt64 n → InInt64 n' →
      subject.value? name = some (.ofInt n) → other.value? name = some (.ofInt n') →
      (subject.bucketText? key salt (some name) = other.bucketText? key salt (some name) ↔
        Float.ofInt n = Float.ofInt n' ∧ subject.secondary = other.secondary) := by
  have htext : ∀ {a b : ℤ}, toString a = toString b ↔ a = b := Int.repr_inj
  refine ⟨fun n hn => ?_, fun n n' subject other key salt name hn hn' hvalue hvalue' => ?_⟩
  · obtain ⟨k, hrounded, hsmall⟩ := hn.exists_rounded
    obtain ⟨p, hparts, hvalue, hnearest⟩ := hrounded
    have hrounded : IsRounded n k := ⟨p, hparts, hvalue, hnearest⟩
    refine ⟨p, k, hparts, hnearest, hvalue, hrounded.bucketText?, ?_, fun hfew => ?_, ?_⟩
    · rw [htext, hrounded.clamp_eq_iff hn, hrounded.eq_iff]
    · exact htext.mpr ((hrounded.clamp_eq_iff hn).mpr (.inl (hsmall hfew)))
    · intro setting flag shares name t hname hfound text
      refine Flag.choose_of_text ?_ t
      rw [hname]
      exact Subject.bucketText?_of_value hfound hrounded.bucketText? flag.key flag.salt
  · obtain ⟨k, hrounded, -⟩ := hn.exists_rounded
    obtain ⟨k', hrounded', -⟩ := hn'.exists_rounded
    rw [Subject.bucketText?_of_value hvalue hrounded.bucketText? key salt,
      Subject.bucketText?_of_value hvalue' hrounded'.bucketText? key salt, Option.some.injEq,
      Subject.hashedText_inj _ _ _ _ (dot_notMem_toString _) (dot_notMem_toString _), htext,
      hrounded.clamp_inj hn hrounded' hn', hrounded.eq_iff_ofInt_eq hn hrounded' hn']

def accountHalves : Rollout :=
  { variations := [{ variation := 0, weight := 50000 }, { variation := 1, weight := 50000 }]
    bucketBy := some "account" }

def withAccount (key : String) (account : ℤ) : Subject :=
  Subject.withAttribute { key } "account" (.ofInt account)

theorem withAccount_value? (key : String) (account : ℤ) :
    (withAccount key account).value? "account" = some (.ofInt account) := by
  unfold withAccount Subject.withAttribute Subject.value?
  rw [if_neg (by decide), if_neg (by decide), Keyed.get?_insert, if_pos rfl]

/-- The account `2 ^ 53` is hashed as it is written; another one is hashed the same. -/
theorem accounts_hashed :
    let one := withAccount "alice" 9007199254740992
    let two := withAccount "bob" 9007199254740993
    let setting : Setting := ⟨⟨fun _ => none, fun _ => none⟩, one, Murmur3.bucketer, true⟩
    let flag : Flag := { key := "checkout", version := 1, salt := "launch" }
    one.value? "account" = some (.ofInt 9007199254740992) ∧
      two.value? "account" = some (.ofInt 9007199254740993) ∧
      one.bucketText? "checkout" "launch" (some "account") =
        two.bucketText? "checkout" "launch" (some "account") ∧
      ∃ choice, flag.choose setting (.rollout accountHalves) {} =
        some (choice, { hashed := ["checkout.launch.9007199254740992"] }) := by
  intro one two setting flag
  have hone : one.value? "account" = some (.ofInt 9007199254740992) := withAccount_value? _ _
  have htwo : two.value? "account" = some (.ofInt 9007199254740993) := withAccount_value? _ _
  have hn : InInt64 9007199254740992 := by decide
  have hn' : InInt64 9007199254740993 := by decide
  have hsame : Float.ofInt 9007199254740992 = Float.ofInt 9007199254740993 := by decide +kernel
  have hshared := whole_numbers_hashed.2 _ _ one two "checkout" "launch" "account" hn hn' hone htwo
  obtain ⟨p, k, -, -, -, -, -, hkept, hchoice⟩ := whole_numbers_hashed.1 _ hn
  have hrolled := hchoice setting flag accountHalves "account" {} rfl hone
  rw [hkept (by decide)] at hrolled
  exact ⟨hone, htwo, hshared.mpr ⟨hsame, rfl⟩, _, hrolled⟩

/-- The account `2 ^ 53 + 1` is hashed as the one before it. -/
theorem account_hashed_as_other :
    InInt64 9007199254740993 ∧
      (Attribute.ofInt 9007199254740993).bucketText? = some "9007199254740992" ∧
      (Attribute.ofInt 9007199254740993).bucketText? ≠ some (toString (9007199254740993 : ℤ)) ∧
      (withAccount "alice" 9007199254740992).bucketText? "checkout" "launch" (some "account") =
        some "checkout.launch.9007199254740992" ∧
      (withAccount "bob" 9007199254740993).bucketText? "checkout" "launch" (some "account") =
        some "checkout.launch.9007199254740992" := by
  have htext : (Attribute.ofInt 9007199254740992).bucketText? = some "9007199254740992" := by
    decide +kernel
  have htext' : (Attribute.ofInt 9007199254740993).bucketText? = some "9007199254740992" := by
    decide +kernel
  refine ⟨by decide, htext', ?_, ?_, ?_⟩
  · rw [htext']
    decide +kernel
  · exact Subject.bucketText?_of_value (withAccount_value? _ _) htext "checkout" "launch"
  · exact Subject.bucketText?_of_value (withAccount_value? _ _) htext' "checkout" "launch"

end FeatureFlags
