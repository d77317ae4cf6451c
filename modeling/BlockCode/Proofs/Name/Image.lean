import BlockCode.Proofs.Name.Legal
import Mathlib.Data.List.Forall2

namespace BlockCode.Name

section Passes

/-- Spaces as underscores. -/
def spaced (s : String) : String :=
  String.ofList (s.toList.map fun c => if c = ' ' then '_' else c)

/-- A byte in two hexadecimal digits. -/
def hexPair (b : UInt8) : List Char :=
  ((Nat.toDigits 16 b.toNat).map Char.toUpper).leftpad 2 '0'

/-- Letters, digits and common punctuation are not escaped. -/
def isUnescaped (b : UInt8) : Bool :=
  let c := Char.ofNat b.toNat
  c.isAlphanum || ";,/?:@&=+$-_.!~*'()#".toList.contains c

def escapedByte (b : UInt8) : List Char :=
  if isUnescaped b then [Char.ofNat b.toNat] else '%' :: hexPair b

/-- The bytes of a text, escaped where they have to be. -/
def escaped (s : String) : String :=
  String.ofList (s.toUTF8.data.toList.flatMap escapedByte)

def underscoredChar (c : Char) : Char :=
  if Text.isAsciiWord c then c else '_'

/-- Anything but word characters as underscores. -/
def underscored (s : String) : String :=
  String.ofList (s.toList.map underscoredChar)

/-- The image of a name after all three passes. -/
def image (name : String) : String :=
  underscored (escaped (spaced name))

end Passes

/-- The image of a character by itself. -/
inductive Depicts (c : Char) : List Char → Prop
  | word (h : Text.isAsciiWord c = true) : Depicts c [c]
  | mark (h : c ∈ punctuation) : Depicts c ['_']
  | bytes (hword : Text.isAsciiWord c = false) (hmark : c ∉ punctuation) :
      Depicts c ((String.utf8EncodeChar c).flatMap fun b => '_' :: hexPair b)

section Bytes

theorem byteImage_eq (b : UInt8) : byteImage b = '_' :: hexPair b := by
  have hpair : ∀ n < 256, [upperHexDigit (n / 16), upperHexDigit (n % 16)] =
      ((Nat.toDigits 16 n).map Char.toUpper).leftpad 2 '0' := by
    decide +kernel
  rw [byteImage, hexPair, ← hpair b.toNat b.toNat_lt]

theorem charImage_depicts (c : Char) : Depicts c (charImage c) := by
  unfold charImage
  split
  · next hword => exact .word hword
  · next hword =>
    have hword : Text.isAsciiWord c = false := by simpa using hword
    split
    · next hmark => exact .mark hmark
    · next hmark =>
      have himage : byteImage = fun b => '_' :: hexPair b := funext byteImage_eq
      rw [himage]
      exact .bytes hword hmark

/-- Every byte of a character beyond the first 128 is beyond them too. -/
theorem le_of_mem_utf8EncodeChar {c : Char} (hc : 128 ≤ c.val.toNat) {b : UInt8}
    (hb : b ∈ String.utf8EncodeChar c) : 128 ≤ b.toNat := by
  have hfirst : ¬ c.val.toNat ≤ 127 := by omega
  simp only [String.utf8EncodeChar, hfirst, if_false] at hb
  split_ifs at hb
  · rcases hb with _ | ⟨_, _ | ⟨_, ⟨⟩⟩⟩ <;> simp only [UInt8.toNat_ofNat'] <;> omega
  · rcases hb with _ | ⟨_, _ | ⟨_, _ | ⟨_, ⟨⟩⟩⟩⟩ <;> simp only [UInt8.toNat_ofNat'] <;> omega
  · rcases hb with _ | ⟨_, _ | ⟨_, _ | ⟨_, _ | ⟨_, ⟨⟩⟩⟩⟩⟩ <;> simp only [UInt8.toNat_ofNat'] <;> omega

theorem escapedByte_of_le {b : UInt8} (hb : 128 ≤ b.toNat) : escapedByte b = '%' :: hexPair b := by
  have hall : ∀ n < 256, 128 ≤ n → isUnescaped (UInt8.ofNat n) = false := by decide +kernel
  have hesc : isUnescaped b = false := by
    have h := hall b.toNat b.toNat_lt hb
    rwa [UInt8.ofNat_toNat] at h
  simp [escapedByte, hesc]

theorem map_underscoredChar_escaped {b : UInt8} (hb : 128 ≤ b.toNat) :
    (escapedByte b).map underscoredChar = byteImage b := by
  have hkept : ∀ c ∈ hexPair b, underscoredChar c = c := by
    intro c hc
    have hmem : c ∈ byteImage b := by simp [byteImage_eq, hc]
    simp [underscoredChar, isAsciiWord_of_mem_byteImage hmem]
  have hpercent : underscoredChar '%' = '_' := by decide
  rw [escapedByte_of_le hb, List.map_cons, List.map_congr_left hkept, List.map_id', hpercent,
    byteImage_eq]

end Bytes

section Characters

/-- What the passes make of one character. -/
def passedChar (c : Char) : List Char :=
  ((String.utf8EncodeChar (if c = ' ' then '_' else c)).flatMap escapedByte).map underscoredChar

theorem isAsciiWord_of_le {c : Char} (hc : 128 ≤ c.val.toNat) : Text.isAsciiWord c = false := by
  rw [← Bool.not_eq_true]
  intro hword
  rw [Text.isAsciiWord, Char.isAlphanum] at hword
  delta Char.isAlpha Char.isUpper Char.isLower Char.isDigit at hword
  simp only [Bool.or_eq_true, Bool.and_eq_true, decide_eq_true_eq, beq_iff_eq,
    UInt32.le_iff_toNat_le, ge_iff_le] at hword
  have hlast : 'Z'.val.toNat = 90 ∧ 'z'.val.toNat = 122 ∧ '9'.val.toNat = 57 := by decide
  rcases hword with hword | rfl
  · omega
  · revert hc
    decide

theorem passedChar_eq (c : Char) : passedChar c = charImage c := by
  by_cases hc : c.val.toNat < 128
  · have hall : ∀ n < 128, passedChar (Char.ofNat n) = charImage (Char.ofNat n) := by
      decide +kernel
    have h := hall c.toNat hc
    rwa [Char.ofNat_toNat] at h
  · have hc : 128 ≤ c.val.toNat := by omega
    have hword := isAsciiWord_of_le hc
    have hspace : c ≠ ' ' := by
      rintro rfl
      revert hc
      decide
    have hmark : c ∉ punctuation := by
      intro hmem
      have hlow : punctuation.all (·.val.toNat < 128) = true := by decide
      have := List.all_eq_true.1 hlow c hmem
      simp only [decide_eq_true_eq] at this
      omega
    rw [passedChar, if_neg hspace, charImage, if_neg (by simp [hword]), if_neg hmark,
      List.map_flatMap]
    refine List.flatMap_congr ?_
    intro b hb
    exact map_underscoredChar_escaped (le_of_mem_utf8EncodeChar hc hb)

/-- The passes over a text come to the image of each of its characters. -/
theorem toList_image (name : String) : (image name).toList = name.toList.flatMap charImage := by
  have hbytes : (spaced name).toUTF8.data.toList =
      name.toList.flatMap fun c => String.utf8EncodeChar (if c = ' ' then '_' else c) := by
    simp [spaced, String.toUTF8, String.toByteArray_ofList, List.utf8Encode, List.flatMap_map]
  simp only [image, underscored, escaped, String.toList_ofList]
  rw [hbytes, List.flatMap_assoc, List.map_flatMap]
  exact List.flatMap_congr fun c _ => passedChar_eq c

theorem image_append (a b : String) : image (a ++ b) = image a ++ image b := by
  apply String.toList_injective
  simp only [toList_image, String.toList_append, List.flatMap_append]

theorem image_ne_nil {name : String} (hne : name ≠ "") : (image name).toList ≠ [] := by
  obtain ⟨c, cs, hname⟩ := List.exists_cons_of_ne_nil (mt String.toList_eq_nil_iff.1 hne)
  simp [toList_image, hname, charImage_ne_nil]

end Characters

/-- Where the image does not start with a digit, it is the identifier. -/
theorem identifier_eq_image {name : String} (hne : name ≠ "")
    (hdigit : (image name).toList.head?.any Char.isDigit = false) : identifier name = image name := by
  have hname : name.toList.isEmpty = false := by simpa using hne
  apply String.toList_injective
  rw [identifier, String.toList_ofList, identifierChars, hname, ← toList_image, leadLetter, hdigit]
  simp

/-- Identifiers are legal and stay as they are, and so do legal names. Every character has an image
of its own, and what is added to a name adds its image to the identifier, unless that had to be kept
from starting with a digit. -/
theorem identifier_legal_stable_by_images (name : String) :
    isLegal (identifier name) = true ∧ identifier (identifier name) = identifier name ∧
      (isLegal name = true → identifier name = name) ∧
      (∃ images, List.Forall₂ Depicts name.toList images ∧
        (image name).toList = images.flatten) ∧
      ∀ more : String, name ≠ "" → (image name).toList.head?.any Char.isDigit = false →
        identifier (name ++ more) = identifier name ++ image more := by
  have hlegal := isLegal_identifier name
  refine ⟨hlegal, identifier_of_isLegal hlegal, identifier_of_isLegal, ?_, ?_⟩
  · refine ⟨name.toList.map charImage, ?_, ?_⟩
    · rw [List.forall₂_map_right_iff, List.forall₂_same]
      exact fun c _ => charImage_depicts c
    · rw [toList_image, List.flatMap_def]
  · intro more hne hdigit
    have hlonger : name ++ more ≠ "" := by simp [hne]
    have hsame : (image (name ++ more)).toList.head? = (image name).toList.head? := by
      rw [image_append, String.toList_append, List.head?_append_of_ne_nil _ (image_ne_nil hne)]
    rw [identifier_eq_image hlonger (by rw [hsame, hdigit]), identifier_eq_image hne hdigit,
      image_append]

theorem street_by_images :
    identifier "street_5" = "street_5" ∧ identifier "straße 5" = "stra_C3_9Fe_5" ∧
      identifier ("straße 5" ++ "%½") = "stra_C3_9Fe_5" ++ "_25_C2_BD" := by
  have hlegal := (identifier_legal_stable_by_images "street_5").2.2.1 (by decide)
  have hname : identifier "straße 5" = "stra_C3_9Fe_5" := by decide +kernel
  have hmore : image "%½" = "_25_C2_BD" := by decide +kernel
  have hadded := (identifier_legal_stable_by_images "straße 5").2.2.2.2 "%½" (by decide)
    (by decide +kernel)
  exact ⟨hlegal, hname, by rw [hadded, hname, hmore]⟩

end BlockCode.Name
