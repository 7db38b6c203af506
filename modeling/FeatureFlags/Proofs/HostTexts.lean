import FeatureFlags.Proofs.TextParts
import Mathlib

/-!
The written form of hosts. A name that was read has no character that ends a host or parts it from a
port, whether a part of it was written in ASCII to begin with or not; an address has digits, dots and
colons.
-/
namespace FeatureFlags.Url

/-- A fact about ASCII characters is decided by their codes. -/
theorem forall_ascii {P : Char → Prop} (h : ∀ n < 0x80, P (Char.ofNat n)) {c : Char}
    (hc : c.toNat < 0x80) : P c := by
  have := h c.toNat hc
  rwa [Char.ofNat_toNat] at this

namespace Domain

def isPlain (c : Char) : Bool := c.toNat < 0x80 && !isForbidden c

theorem isPlain_iff {c : Char} : isPlain c = true ↔ c.toNat < 0x80 ∧ isForbidden c = false := by
  simp only [isPlain, Bool.and_eq_true, decide_eq_true_eq, Bool.not_eq_true']

theorem isPlain_of_isForbidden {c : Char} (hascii : c.toNat < 0x80) (h : isForbidden c = false) :
    isPlain c = true := isPlain_iff.mpr ⟨hascii, h⟩

theorem isPlain_of_isAlphanum {c : Char} (h : c.isAlphanum = true) : isPlain c = true := by
  have hascii : c.toNat < 0x80 := by
    simp only [Char.isAlphanum, Char.isAlpha, Char.isUpper, Char.isLower, Char.isDigit,
      Bool.or_eq_true, Bool.and_eq_true, decide_eq_true_eq, UInt32.le_iff_toNat_le] at h
    change ((65 ≤ c.toNat ∧ c.toNat ≤ 90) ∨ (97 ≤ c.toNat ∧ c.toNat ≤ 122)) ∨
      (48 ≤ c.toNat ∧ c.toNat ≤ 57) at h
    omega
  exact forall_ascii (P := fun c => c.isAlphanum = true → isPlain c = true) (by decide) hascii h

theorem isPlain_of_value? {c : Char} (h : (Punycode.value? c).isSome = true) : isPlain c = true := by
  apply isPlain_of_isAlphanum
  unfold Punycode.value? at h
  unfold Char.isAlphanum Char.isAlpha
  split at h
  · next hlower => simp [hlower]
  · split at h
    · next hupper => simp [hupper]
    · split at h
      · next hdigit => simp [hdigit]
      · cases h

theorem isPlain_digit : ∀ n < Punycode.base, isPlain (Punycode.digit n) = true := by decide

theorem threshold_le (k bias : Nat) : Punycode.threshold k bias ≤ 26 := by
  unfold Punycode.threshold
  split
  · omega
  · split <;> omega

/-- The digits of Punycode may stand in names. -/
theorem isPlain_of_mem_digits {bias k n : Nat} {c : Char} (h : c ∈ Punycode.digits bias k n) :
    isPlain c = true := by
  induction k, n using Punycode.digits.induct bias with
  | case1 k n t hlast =>
    have ht : t ≤ 26 := threshold_le k bias
    rw [Punycode.digits, if_pos hlast, List.mem_singleton] at h
    rw [h]
    exact isPlain_digit n (by simp only [Punycode.base]; omega)
  | case2 k n t hmore ih =>
    have ht : t ≤ 26 := threshold_le k bias
    have hbase : t < Punycode.base := by simp only [Punycode.base]; omega
    rw [Punycode.digits, if_neg hmore] at h
    rcases List.mem_cons.mp h with rfl | h
    · have hmod : (n - t) % (Punycode.base - t) < Punycode.base - t := Nat.mod_lt _ (by omega)
      exact isPlain_digit (t + (n - t) % (Punycode.base - t)) (by omega)
    · exact ih h

theorem isSome_value?_of_readNumber? {bias read weight k n : Nat} {input rest : List Char}
    (h : Punycode.readNumber? bias read weight k input = some (n, rest)) :
    ∃ digits, input = digits ++ rest ∧ ∀ c ∈ digits, (Punycode.value? c).isSome = true := by
  induction input generalizing read weight k with
  | nil => cases h
  | cons c input ih =>
    simp only [Punycode.readNumber?, Option.bind_eq_bind, Option.bind_eq_some_iff] at h
    obtain ⟨value, hvalue, -, -, h⟩ := h
    have hc : (Punycode.value? c).isSome = true := by rw [hvalue]; rfl
    split at h
    · obtain ⟨rfl, rfl⟩ := Prod.mk.inj (Option.some.inj h)
      exact ⟨[c], rfl, List.forall_mem_singleton.mpr hc⟩
    · obtain ⟨-, -, h⟩ := Option.bind_eq_some_iff.mp h
      obtain ⟨digits, rfl, hdigits⟩ := ih h
      exact ⟨c :: digits, rfl, List.forall_mem_cons.mpr ⟨hc, hdigits⟩⟩

/-- Characters are inserted one by one, so that none is lost, and all that is read are digits. -/
theorem of_insertAll? {fuel point place bias : Nat} {text input out : List Char}
    (h : Punycode.insertAll? fuel point place bias text input = some out) :
    (∀ c ∈ text, c ∈ out) ∧ ∀ c ∈ input, (Punycode.value? c).isSome = true := by
  induction fuel generalizing point place bias text input with
  | zero =>
    cases input with
    | nil =>
      obtain rfl := Option.some.inj h
      exact ⟨fun c hc => hc, fun c hc => absurd hc List.not_mem_nil⟩
    | cons c input => cases h
  | succ fuel ih =>
    cases input with
    | nil =>
      obtain rfl := Option.some.inj h
      exact ⟨fun c hc => hc, fun c hc => absurd hc List.not_mem_nil⟩
    | cons d input =>
      simp only [Punycode.insertAll?, Option.bind_eq_bind, Option.bind_eq_some_iff] at h
      obtain ⟨⟨next, rest⟩, hread, c, -, h⟩ := h
      obtain ⟨digits, hinput, hdigits⟩ := isSome_value?_of_readNumber? hread
      obtain ⟨hkept, hrest⟩ := ih h
      refine ⟨fun d hd => hkept d ?_, ?_⟩
      · rw [← List.take_append_drop (next % (text.length + 1)) text] at hd
        exact (List.mem_append.mp hd).elim (List.mem_append_left _)
          fun hd => List.mem_append_right _ (List.mem_cons_of_mem _ hd)
      · rw [hinput]
        exact List.forall_mem_append.mpr ⟨hdigits, hrest⟩

theorem mem_splitLast {text : List Char} {c : Char} (h : c ∈ text) :
    c ∈ (Punycode.splitLast text).1 ∨ c = '-' ∨ c ∈ (Punycode.splitLast text).2 := by
  unfold Punycode.splitLast
  split
  · next after d before hspan =>
    obtain ⟨hreverse, -, hd⟩ := span_eq_iff.mp hspan
    have hhyphen : d = '-' := bne_eq_false_iff_eq.mp (hd d rfl)
    split
    · exact .inr (.inr h)
    · rw [← List.mem_reverse, hreverse, List.mem_append, List.mem_cons, hhyphen] at h
      rcases h with h | h | h
      · exact .inr (.inr (List.mem_reverse.mpr h))
      · exact .inr (.inl h)
      · exact .inl (List.mem_reverse.mpr h)
  · exact .inr (.inr h)

/-- A name that can be decoded has digits and hyphens, and characters that its text has too. -/
theorem mem_of_decode? {text out : List Char} (h : Punycode.decode? text = some out) {c : Char}
    (hc : c ∈ text) : c ∈ out ∨ isPlain c = true := by
  obtain ⟨hkept, hdigits⟩ := of_insertAll? h
  rcases mem_splitLast hc with hc | rfl | hc
  · exact .inl (hkept c hc)
  · exact .inr (by decide)
  · exact .inr (isPlain_of_value? (hdigits c hc))

theorem mem_foldl_pass {ascii point : Nat} {seen : List Char} {writing : Punycode.Writing} {c : Char}
    (h : c ∈ (seen.foldl (Punycode.Writing.pass ascii point) writing).text) :
    c ∈ writing.text ∨ isPlain c = true := by
  induction seen generalizing writing with
  | nil => exact .inl h
  | cons d seen ih =>
    rcases ih h with h | h
    · unfold Punycode.Writing.pass at h
      split at h
      · exact .inl h
      · split at h
        · exact (List.mem_append.mp h).imp_right isPlain_of_mem_digits
        · exact .inl h
    · exact .inr h

/-- What is written begins with the text of the writing, and digits follow. -/
theorem mem_writePoints {text : List Char} {ascii : Nat} {points : List (Nat × Nat)}
    {writing : Punycode.Writing} {c : Char}
    (h : c ∈ (Punycode.writePoints text ascii points writing).text) :
    c ∈ writing.text ∨ isPlain c = true := by
  induction points generalizing writing with
  | nil => exact .inl h
  | cons place points ih =>
    rcases ih h with h | h
    · exact (mem_foldl_pass h).imp_left id
    · exact .inr h

/-- What is encoded has its own ASCII characters and plain ones. -/
theorem mem_encode {text : List Char} {c : Char} (h : c ∈ Punycode.encode text) :
    (c ∈ text ∧ c.toNat < 0x80) ∨ isPlain c = true := by
  rcases mem_writePoints h with h | h
  · dsimp only at h
    split at h
    · cases h
    · rcases List.mem_append.mp h with h | h
      · exact .inl ((List.mem_filter.mp h).imp_right of_decide_eq_true)
      · exact .inr (by rw [List.mem_singleton.mp h]; decide)
  · exact .inr h

theorem isPlain_of_mem_marker {c : Char} (h : c ∈ marker) : isPlain c = true :=
  forall_mem_of_all (P := (isPlain · = true)) (by decide) c h

/-- What is written of a part that can be read the same way by all. -/
theorem isPlain_of_read? {text : List Char} {label : Label} (h : read? text = some label)
    (hsound : label.isSound = true) : ∀ c ∈ label.ascii, isPlain c = true := by
  have hallowed : ∀ c ∈ label.text, isForbidden c = false := by
    unfold Label.isSound at hsound
    simp only [Bool.and_eq_true, Bool.not_eq_true', List.any_eq_false] at hsound
    exact fun c hc => Bool.not_eq_true _ ▸ hsound.1.1 c hc
  unfold read? at h
  split at h
  · next hascii =>
    have hlow : ∀ c ∈ text, c.toNat < 0x80 := by simpa [isAscii] using hascii
    split at h
    · next hmarker =>
      obtain ⟨decoded, hdecoded, rfl⟩ := Option.map_eq_some_iff.mp h
      obtain ⟨rest, rfl⟩ := List.isPrefixOf_iff_prefix.mp hmarker
      rw [List.drop_left] at hdecoded
      simp only [decoded?, Option.bind_eq_bind, Option.bind_eq_some_iff] at hdecoded
      obtain ⟨out, hout, -, -, hsame⟩ := hdecoded
      obtain rfl := Option.some.inj hsame
      intro c hc
      rcases List.mem_append.mp hc with hc' | hc'
      · exact isPlain_of_mem_marker hc'
      · exact (mem_of_decode? hout hc').elim
          (fun hin => isPlain_of_isForbidden (hlow c hc) (hallowed c hin)) id
    · obtain rfl := Option.some.inj h
      exact fun c hc => isPlain_of_isForbidden (hlow c hc) (hallowed c hc)
  · split at h
    · cases h
    · obtain rfl := Option.some.inj h
      intro c hc
      rcases List.mem_append.mp hc with hc | hc
      · exact isPlain_of_mem_marker hc
      · exact (mem_encode hc).elim (fun hin => isPlain_of_isForbidden hin.2 (hallowed c hin.1)) id

/-- Names are written in characters that end no host. -/
theorem isPlain_of_ofText? {text name : List Char} (h : ofText? text = some name) :
    ∀ c ∈ name, isPlain c = true := by
  simp only [ofText?, Option.bind_eq_bind, Option.bind_eq_some_iff] at h
  obtain ⟨mapped, -, labels, hlabels, _, hguard, hname⟩ := h
  have hfit : (labels.all Label.isSound && directionsFit labels) = true := by
    unfold guard at hguard
    split at hguard
    · assumption
    · cases hguard
  have hsound : ∀ label ∈ labels, label.isSound = true :=
    List.all_eq_true.mp (Bool.and_eq_true_iff.mp hfit).1
  intro c hc
  rw [← Option.some.inj hname] at hc
  rcases mem_intercalate hc with hc | ⟨ascii, hascii, hc⟩
  · rw [List.mem_singleton.mp hc]
    decide
  · obtain ⟨label, hlabel, rfl⟩ := List.mem_map.mp hascii
    obtain ⟨part, -, hread⟩ := mem_of_mapM hlabels hlabel
    exact isPlain_of_read? hread (hsound label hlabel) c hc

end Domain

namespace Host

/-- A character that ends no host when one is read from a URL. -/
def isInner (c : Char) : Bool := 0x20 < c.toNat && c.toNat < 0x7F && !isOneOf "#/?@\\" c

/-- A text that is read from a URL as a host, as a whole and no further than to its end. -/
structure IsText (text : List Char) : Prop where
  ne_nil : text ≠ []
  inner : ∀ c ∈ text, isInner c = true
  whole : ∀ rest, (∀ c ∈ rest.head?, c = ':') → splitHost (text ++ rest) = (text, rest)

/-- A plain character ends no host. -/
theorem isInner_of_isPlain {c : Char} (h : Domain.isPlain c = true) :
    isInner c = true ∧ c ≠ ':' ∧ c ≠ '[' :=
  forall_ascii (P := fun c => Domain.isPlain c = true → isInner c = true ∧ c ≠ ':' ∧ c ≠ '[')
    (by decide) (Domain.isPlain_iff.mp h).1 h

/-- A text of such characters goes on to a colon at least. -/
theorem isText_of_isPlain {text : List Char} (hne : text ≠ [])
    (h : ∀ c ∈ text, Domain.isPlain c = true) : IsText text where
  ne_nil := hne
  inner c hc := (isInner_of_isPlain (h c hc)).1
  whole rest hrest := by
    obtain ⟨first, more, rfl⟩ := List.exists_cons_of_ne_nil hne
    have hspan : (first :: more ++ rest).span (· != ':') = (first :: more, rest) := by
      refine span_eq_iff.mpr ⟨rfl, fun c hc => bne_iff_ne.mpr (isInner_of_isPlain (h c hc)).2.1, ?_⟩
      intro c hc
      rw [hrest c hc]
      rfl
    have hbracket : first ≠ '[' := (isInner_of_isPlain (h first List.mem_cons_self)).2.2
    unfold splitHost
    split
    · next heq => exact absurd (List.cons.inj heq).1 hbracket
    · exact hspan

/-- An address in brackets goes on to the bracket at its end. -/
theorem isText_of_bracketed {inside : List Char}
    (h : ∀ c ∈ inside, isInner c = true ∧ c ≠ ']') : IsText ('[' :: (inside ++ [']'])) where
  ne_nil := List.cons_ne_nil _ _
  inner := by
    refine List.forall_mem_cons.mpr ⟨by decide, List.forall_mem_append.mpr ⟨fun c hc => (h c hc).1, ?_⟩⟩
    exact List.forall_mem_singleton.mpr (by decide)
  whole rest hrest := by
    have hbracket : ('[' :: (inside ++ [']']) ++ rest).span (· != ']') =
        ('[' :: inside, ']' :: rest) := by
      refine span_eq_iff.mpr ⟨by simp, List.forall_mem_cons.mpr ⟨by decide, fun c hc =>
        bne_iff_ne.mpr (h c hc).2⟩, fun c hc => ?_⟩
      rw [← Option.some.inj hc]
      rfl
    have hcolon : (']' :: rest).span (· != ':') = ([']'], rest) := by
      refine span_eq_iff.mpr ⟨rfl, List.forall_mem_singleton.mpr (by decide), fun c hc => ?_⟩
      rw [hrest c hc]
      rfl
    rw [List.cons_append] at hbracket ⊢
    simp only [splitHost, hbracket, hcolon]
    rfl

theorem mem_toDigits {base n : Nat} (hbase : 1 < base) {c : Char} (h : c ∈ Nat.toDigits base n) :
    ∃ digit < base, c = Nat.digitChar digit := by
  induction n using Nat.strongRecOn with
  | ind n ih =>
    rw [Nat.toDigits_eq_if hbase] at h
    split at h
    · next hn => exact ⟨n, hn, List.mem_singleton.mp h⟩
    · rcases List.mem_append.mp h with h | h
      · exact ih (n / base) (Nat.div_lt_self (by omega) hbase) h
      · exact ⟨n % base, Nat.mod_lt n (by omega), List.mem_singleton.mp h⟩

theorem toList_toString (n : Nat) : (toString n).toList = Nat.toDigits 10 n := by
  change n.repr.toList = _
  rw [Nat.repr_eq_ofList_toDigits, String.toList_ofList]

theorem isPlain_of_mem_toString {n : Nat} {c : Char} (h : c ∈ (toString n).toList) :
    Domain.isPlain c = true := by
  have hall : ∀ digit < 10, Domain.isPlain (Nat.digitChar digit) = true := by decide
  rw [toList_toString] at h
  obtain ⟨digit, hdigit, rfl⟩ := mem_toDigits (by decide) h
  exact hall digit hdigit

theorem isText_ipv4 (address : Nat) : IsText (Host.ipv4 address).toText.toList := by
  rw [Host.toText, String.toList_intercalate]
  refine isText_of_isPlain (by simp) fun c hc => ?_
  rcases mem_intercalate hc with hc | ⟨part, hpart, hc⟩
  · rw [List.mem_singleton.mp hc]
    decide
  · obtain ⟨text, htext, rfl⟩ := List.mem_map.mp hpart
    obtain ⟨n, -, rfl⟩ := List.mem_map.mp htext
    exact isPlain_of_mem_toString hc

theorem isInner_of_mem_joinPieces {pieces : List Nat} {c : Char}
    (h : c ∈ (joinPieces pieces).toList) : isInner c = true ∧ c ≠ ']' := by
  have hall : ∀ digit < 16, isInner (Nat.digitChar digit) = true ∧ Nat.digitChar digit ≠ ']' := by
    decide
  rw [joinPieces, String.toList_intercalate] at h
  rcases mem_intercalate h with h | ⟨part, hpart, h⟩
  · rw [List.mem_singleton.mp h]
    decide
  · obtain ⟨text, htext, rfl⟩ := List.mem_map.mp hpart
    obtain ⟨n, -, rfl⟩ := List.mem_map.mp htext
    rw [pieceText, String.toList_ofList] at h
    obtain ⟨digit, hdigit, rfl⟩ := mem_toDigits (by decide) h
    exact hall digit hdigit

/-- An address of eight pieces stands in brackets, and is read to the closing one. -/
theorem isText_ipv6 (pieces : List Nat) : IsText (Host.ipv6 pieces).toText.toList := by
  unfold Host.toText
  dsimp only
  split
  · simp only [String.toList_append]
    exact isText_of_bracketed fun c hc => isInner_of_mem_joinPieces hc
  · have hcolons : ∀ c ∈ "::".toList, isInner c = true ∧ c ≠ ']' :=
      forall_mem_of_all (by decide)
    have hgap (before after : List Nat) : IsText ('[' :: ((joinPieces before).toList ++
        ("::".toList ++ (joinPieces after).toList) ++ [']'])) :=
      isText_of_bracketed (List.forall_mem_append.mpr ⟨fun c hc => isInner_of_mem_joinPieces hc,
        List.forall_mem_append.mpr ⟨hcolons, fun c hc => isInner_of_mem_joinPieces hc⟩⟩)
    simp only [String.toList_append, List.append_assoc] at hgap ⊢
    exact hgap _ _

/-- Hosts are written as texts that are hosts as a whole. -/
theorem isText_toText {text : List Char} {host : Host} (h : special? text = some host) :
    IsText host.toText.toList := by
  unfold special? at h
  split at h
  · unfold closed? at h
    split at h
    · obtain ⟨pieces, -, rfl⟩ := Option.map_eq_some_iff.mp h
      exact isText_ipv6 pieces
    · cases h
  · simp only [Option.bind_eq_bind, Option.bind_eq_some_iff] at h
    obtain ⟨decoded, -, name, hname, h⟩ := h
    split at h
    · cases h
    · next hne =>
      split at h
      · obtain ⟨address, -, rfl⟩ := Option.map_eq_some_iff.mp h
        exact isText_ipv4 address
      · obtain rfl := Option.some.inj h
        rw [Host.toText, String.toList_ofList]
        exact isText_of_isPlain hne (Domain.isPlain_of_ofText? hname)

end Host

end FeatureFlags.Url
