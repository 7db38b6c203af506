import FeatureFlags.EventStream
import Mathlib.Data.List.TakeWhile

/-!
How the bytes of an event stream fall into lines, and what the lines say one after the other. Bytes
that arrive later lengthen the line that was begun and touch no line before it. A text without line
ends stays in one line, for no byte of another character is one that ends a line.
-/
namespace FeatureFlags.EventStream

theorem splitLines_of_not_mem {bytes : List UInt8} (h : 10 ∉ bytes) :
    splitLines bytes = ([], bytes) := by
  induction bytes with
  | nil => rfl
  | cons byte rest ih =>
    have hbyte : (byte == 10) = false := by
      rw [beq_eq_false_iff_ne]
      exact fun heq => h (heq ▸ List.mem_cons_self)
    have hrest := ih fun hmem => h (List.mem_cons_of_mem byte hmem)
    rw [splitLines, hbyte, hrest]

theorem not_mem_begun (bytes : List UInt8) : 10 ∉ (splitLines bytes).2 := by
  induction bytes with
  | nil => exact List.not_mem_nil
  | cons byte rest ih =>
    rcases hsplit : splitLines rest with ⟨lines, begun⟩
    rw [hsplit] at ih
    cases hbyte : byte == 10 with
    | true =>
      rw [splitLines, hbyte, hsplit]
      exact ih
    | false =>
      rw [splitLines, hbyte, hsplit]
      cases lines with
      | nil =>
        rw [beq_eq_false_iff_ne] at hbyte
        simpa using ⟨hbyte.symm, ih⟩
      | cons line lines => exact ih

/-- What arrives later goes on where the line that was begun stands. -/
theorem splitLines_append (first second : List UInt8) :
    splitLines (first ++ second) =
      ((splitLines first).1 ++ (splitLines ((splitLines first).2 ++ second)).1,
        (splitLines ((splitLines first).2 ++ second)).2) := by
  induction first with
  | nil => rfl
  | cons byte rest ih =>
    rcases hsplit : splitLines rest with ⟨lines, begun⟩
    rw [hsplit] at ih
    rw [List.cons_append, splitLines, ih]
    conv => rhs; rw [splitLines, hsplit]
    cases hbyte : byte == 10 with
    | true => rfl
    | false =>
      cases lines with
      | nil => simp [splitLines, hbyte]
      | cons line lines => rfl

theorem splitLines_line {line : List UInt8} (h : 10 ∉ line) (rest : List UInt8) :
    splitLines (line ++ 10 :: rest) = (line :: (splitLines rest).1, (splitLines rest).2) := by
  induction line with
  | nil => rfl
  | cons byte line ih =>
    have hbyte : (byte == 10) = false := by
      rw [beq_eq_false_iff_ne]
      exact fun heq => h (heq ▸ List.mem_cons_self)
    rw [List.cons_append, splitLines, hbyte, ih fun hmem => h (List.mem_cons_of_mem byte hmem)]

/-- Lines with their ends are found again, and no line is begun. -/
theorem splitLines_lines {lines : List (List UInt8)} (h : ∀ line ∈ lines, 10 ∉ line) :
    splitLines (lines.flatMap (· ++ [10])) = (lines, []) := by
  induction lines with
  | nil => rfl
  | cons line rest ih =>
    rw [List.flatMap_cons, List.append_assoc, List.singleton_append,
      splitLines_line (h line List.mem_cons_self),
      ih fun later hmem => h later (List.mem_cons_of_mem line hmem)]

def utf8 (text : String) : List UInt8 := text.toUTF8.data.toList

theorem utf8_eq_flatMap (text : String) : utf8 text = text.toList.flatMap String.utf8EncodeChar := by
  have hbytes : text.toUTF8 = (text.toList.flatMap String.utf8EncodeChar).toByteArray :=
    String.utf8Encode_toList.symm
  rw [utf8, hbytes, List.data_toByteArray]

theorem utf8_append (first second : String) : utf8 (first ++ second) = utf8 first ++ utf8 second := by
  simp [utf8_eq_flatMap]

theorem toByteArray_utf8 (text : String) : (utf8 text).toByteArray = text.toUTF8 := by
  apply ByteArray.ext
  rw [List.data_toByteArray]
  exact Array.toArray_toList

/-- A text is read back from its bytes. -/
theorem fromUTF8?_utf8 (text : String) : String.fromUTF8? (utf8 text).toByteArray = some text := by
  rw [toByteArray_utf8]
  exact dif_pos text.isValidUTF8

/-- Only the bytes of a text are read as it. -/
theorem eq_utf8_of_fromUTF8? {bytes : List UInt8} {text : String}
    (h : String.fromUTF8? bytes.toByteArray = some text) : bytes = utf8 text := by
  unfold String.fromUTF8? at h
  split at h
  · obtain rfl := Option.some.inj h
    change bytes = bytes.toByteArray.data.toList
    rw [List.data_toByteArray]
  · cases h

/-- A byte below 128 is a character by itself. -/
theorem toNat_of_mem_utf8EncodeChar {c : Char} {byte : UInt8} (hmem : byte ∈ String.utf8EncodeChar c)
    (hbyte : byte.toNat < 128) : byte.toNat = c.toNat := by
  have hc : c.val.toNat = c.toNat := rfl
  unfold String.utf8EncodeChar at hmem
  dsimp only at hmem
  split at hmem
  · rw [List.mem_singleton.mp hmem, UInt8.toNat_ofNat']
    omega
  · exfalso
    split at hmem
    · simp only [List.mem_cons, List.not_mem_nil, or_false] at hmem
      rcases hmem with rfl | rfl <;> rw [UInt8.toNat_ofNat'] at hbyte <;> omega
    · split at hmem <;> simp only [List.mem_cons, List.not_mem_nil, or_false] at hmem
      · rcases hmem with rfl | rfl | rfl <;> rw [UInt8.toNat_ofNat'] at hbyte <;> omega
      · rcases hmem with rfl | rfl | rfl | rfl <;> rw [UInt8.toNat_ofNat'] at hbyte <;> omega

/-- No character but a line feed has its byte. -/
theorem lineFeed_not_mem_utf8 {text : String} (h : '\n' ∉ text.toList) : 10 ∉ utf8 text := by
  rw [utf8_eq_flatMap, List.mem_flatMap]
  rintro ⟨c, hc, hmem⟩
  have hcode := toNat_of_mem_utf8EncodeChar hmem (by decide)
  have heq : '\n' = c := Char.toNat_inj.mp hcode
  exact h (heq ▸ hc)

def isLineEnd (c : Char) : Bool := c == '\n' || c == '\r'

theorem dropLineEnd_append {text ending : List Char} (htext : ∀ c ∈ text, isLineEnd c = false)
    (hending : ∀ c ∈ ending, isLineEnd c = true) : dropLineEnd (text ++ ending) = text := by
  have hkept : text.reverse.dropWhile isLineEnd = text.reverse := by
    cases hreverse : text.reverse with
    | nil => rfl
    | cons c rest =>
      have hc : c ∈ text := List.mem_reverse.mp (hreverse ▸ List.mem_cons_self)
      rw [List.dropWhile_cons_of_neg (by simp [htext c hc])]
  change ((text ++ ending).reverse.dropWhile isLineEnd).reverse = text
  rw [List.reverse_append,
    List.dropWhile_append_of_pos fun c hc => hending c (List.mem_reverse.mp hc), hkept,
    List.reverse_reverse]

theorem dropLineEnd_eq_nil_iff {text : List Char} :
    dropLineEnd text = [] ↔ ∀ c ∈ text, isLineEnd c = true := by
  change (text.reverse.dropWhile isLineEnd).reverse = [] ↔ _
  rw [List.reverse_eq_nil_iff, List.dropWhile_eq_nil_iff]
  simp

namespace Reader

/-- Lines are read one part after the other. -/
theorem lines_append (r : Reader) (first second : List (List UInt8)) :
    r.lines (first ++ second) =
      (((r.lines first).1.lines second).1, (r.lines first).2 ++ ((r.lines first).1.lines second).2) := by
  induction first generalizing r with
  | nil => rfl
  | cons bytes rest ih =>
    simp only [List.cons_append, lines, ih, List.append_assoc]

/-- Only an empty line ends an event. -/
theorem text_of_ne_nil {r : Reader} {line : List Char} (h : line ≠ []) :
    ∀ event, (r.text line).2 ≠ some (.event event) := by
  intro event
  unfold text
  split
  · exact absurd rfl h
  · dsimp only
    split <;> simp
  · simp

end Reader

end FeatureFlags.EventStream
