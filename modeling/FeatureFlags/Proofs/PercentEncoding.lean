import FeatureFlags.Url.Percent

/-!
Percent-encoded text. It holds the characters that are not of the set, and beside them percent signs
and capital digits; where these are not of the set, encoding a text again leaves it as it is. Where a
percent sign is encoded too, the bytes of the text are read back.
-/
namespace FeatureFlags.Url

variable {inSet : Char → Bool} {text : List Char}

theorem isCapital_of_mem_encodeChar {c d : Char} (h : d ∈ encodeChar c) :
    d = '%' ∨ ∃ n < 16, d = Hex.capital n := by
  obtain ⟨byte, -, hd⟩ := List.mem_flatMap.mp h
  have hbyte := byte.toNat_lt
  rcases List.mem_cons.mp hd with rfl | hd
  · exact .inl rfl
  · rcases List.mem_cons.mp hd with rfl | hd
    · exact .inr ⟨byte.toNat / 16, by omega, rfl⟩
    · exact .inr ⟨byte.toNat % 16, by omega, List.mem_singleton.mp hd⟩

/-- What holds of the characters that are left as they are, and of those that codes are made of, holds
throughout. -/
theorem forall_mem_percentEncode {P : Char → Prop} (hleft : ∀ c ∈ text, inSet c = false → P c)
    (hpercent : P '%') (hcapital : ∀ n < 16, P (Hex.capital n)) :
    ∀ c ∈ percentEncode inSet text, P c := by
  intro d hd
  obtain ⟨c, hc, hd⟩ := List.mem_flatMap.mp hd
  split at hd
  · rcases isCapital_of_mem_encodeChar hd with rfl | ⟨n, hn, rfl⟩
    · exact hpercent
    · exact hcapital n hn
  · next hset =>
    rw [List.mem_singleton.mp hd]
    exact hleft c hc (Bool.not_eq_true _ ▸ hset)

/-- A text is left as it is where nothing in it is to be encoded. -/
theorem percentEncode_of_forall (h : ∀ c ∈ text, inSet c = false) : percentEncode inSet text = text := by
  induction text with
  | nil => rfl
  | cons c rest ih =>
    obtain ⟨hc, hrest⟩ := List.forall_mem_cons.mp h
    change (if inSet c then encodeChar c else [c]) ++ percentEncode inSet rest = _
    rw [hc, ih hrest]
    rfl

theorem percentEncode_ne_nil (h : text ≠ []) : percentEncode inSet text ≠ [] := by
  obtain ⟨c, rest, rfl⟩ := List.exists_cons_of_ne_nil h
  have hbytes : String.utf8EncodeChar c ≠ [] := by
    rw [← List.length_pos_iff, String.length_utf8EncodeChar]
    exact c.utf8Size_pos
  obtain ⟨byte, bytes, hbytes⟩ := List.exists_cons_of_ne_nil hbytes
  have hcode : encodeChar c ≠ [] := by
    rw [encodeChar, hbytes]
    exact List.cons_ne_nil _ _
  change (if inSet c then encodeChar c else [c]) ++ percentEncode inSet rest ≠ []
  split
  · exact List.append_ne_nil_of_left_ne_nil hcode _
  · exact List.cons_ne_nil _ _

theorem percentDecode_encodeByte (byte : UInt8) (rest : List Char) :
    percentDecode (encodeByte byte ++ rest) = byte :: percentDecode rest := by
  have hbyte := byte.toNat_lt
  have hhigh : Hex.value? (Hex.capital (byte.toNat / 16)) = some (byte.toNat / 16) :=
    Hex.value?_capital (by omega)
  have hlow : Hex.value? (Hex.capital (byte.toNat % 16)) = some (byte.toNat % 16) :=
    Hex.value?_capital (by omega)
  have hvalue : 16 * (byte.toNat / 16) + byte.toNat % 16 = byte.toNat := by omega
  simp [encodeByte, percentDecode, hhigh, hlow, hvalue]

/-- An encoded character decodes to its own bytes. -/
theorem percentDecode_encodeChar (c : Char) (rest : List Char) :
    percentDecode (encodeChar c ++ rest) = String.utf8EncodeChar c ++ percentDecode rest := by
  unfold encodeChar
  induction String.utf8EncodeChar c with
  | nil => rfl
  | cons byte bytes ih =>
    rw [List.flatMap_cons, List.append_assoc, percentDecode_encodeByte, ih, List.cons_append]

theorem percentDecode_cons {c : Char} (hc : c ≠ '%') (rest : List Char) :
    percentDecode (c :: rest) = String.utf8EncodeChar c ++ percentDecode rest := by
  rw [percentDecode]
  intro a b after hpercent
  exact absurd hpercent hc

/-- Encoding that spares no percent sign can be undone. -/
theorem percentDecode_percentEncode (hpercent : inSet '%' = true) (text : List Char) :
    percentDecode (percentEncode inSet text) = bytesOf text := by
  induction text with
  | nil => rfl
  | cons c rest ih =>
    change percentDecode ((if inSet c then encodeChar c else [c]) ++ percentEncode inSet rest) = _
    split
    · rw [percentDecode_encodeChar, ih]
      rfl
    · next hc =>
      have hne : c ≠ '%' := fun h => hc (h ▸ hpercent)
      rw [List.singleton_append, percentDecode_cons hne, ih]
      rfl

/-- No two texts have the same bytes. -/
theorem bytesOf_injective {a b : List Char} (h : bytesOf a = bytesOf b) : a = b := by
  have hbytes : (String.ofList a).toByteArray = (String.ofList b).toByteArray := by
    rw [String.toByteArray_ofList, String.toByteArray_ofList]
    exact congrArg List.toByteArray h
  exact String.ofList_injective (String.toByteArray_inj.mp hbytes)

/-- Texts that encoding spares no percent sign of are told apart by what is written of them. -/
theorem percentEncode_injective (hpercent : inSet '%' = true) {a b : List Char}
    (h : percentEncode inSet a = percentEncode inSet b) : a = b := by
  apply bytesOf_injective
  rw [← percentDecode_percentEncode hpercent a, h, percentDecode_percentEncode hpercent b]

end FeatureFlags.Url
