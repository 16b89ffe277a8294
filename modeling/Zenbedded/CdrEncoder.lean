import Zenbedded.ByteOrder

/-!
# CDR encoders

An encoder says which bytes a field appends to a message body that already
holds a given number of bytes.  Alignment padding depends on that number only,
so encoders compose and the bytes of a composite are those of its parts laid
end to end.
-/

namespace Cdr

open ByteOrder

/-- The bytes a field appends to a body holding `position` bytes. -/
abbrev Encoder := Nat → List UInt8

/-- The number of bytes from a position to the next multiple of an alignment. -/
def padding (alignment position : Nat) : Nat :=
  (alignment - position % alignment) % alignment

def pad (alignment : Nat) : Encoder :=
  fun position => List.replicate (padding alignment position) 0

def raw (bytes : List UInt8) : Encoder :=
  fun _ => bytes

def andThen (first second : Encoder) : Encoder :=
  fun position => first position ++ second (position + (first position).length)

def all : List Encoder → Encoder
  | [] => raw []
  | first :: rest => andThen first (all rest)

/-- A number aligned to its own width. -/
def word (order : Endianness) (width value : Nat) : Encoder :=
  andThen (pad width) (raw (order.encode width value))

/-- A string: a count that includes the terminator, the text, the terminator. -/
def string (order : Endianness) (text : List UInt8) : Encoder :=
  andThen (word order 4 (text.length + 1)) (raw (text ++ [0]))

def sequence (order : Endianness) (elements : List Encoder) : Encoder :=
  andThen (word order 4 elements.length) (all elements)

/-- The four bytes in front of a plain CDR body; they do not count for alignment. -/
def encapsulationHeader : Endianness → List UInt8
  | .little => [0x00, 0x01, 0x00, 0x00]
  | .big => [0x00, 0x00, 0x00, 0x00]

def encapsulate (order : Endianness) (body : Encoder) : List UInt8 :=
  encapsulationHeader order ++ body 0

@[simp]
theorem length_encapsulationHeader (order : Endianness) :
    (encapsulationHeader order).length = 4 := by
  cases order <;> rfl

@[simp]
theorem raw_apply (bytes : List UInt8) (position : Nat) : raw bytes position = bytes :=
  rfl

theorem andThen_apply (first second : Encoder) (position : Nat) :
    andThen first second position =
      first position ++ second (position + (first position).length) :=
  rfl

theorem andThen_assoc (first second third : Encoder) :
    andThen (andThen first second) third = andThen first (andThen second third) := by
  funext position
  simp [andThen_apply, Nat.add_assoc]

@[simp]
theorem andThen_raw_nil (encoder : Encoder) : andThen encoder (raw []) = encoder := by
  funext position
  simp [andThen_apply]

@[simp]
theorem raw_nil_andThen (encoder : Encoder) : andThen (raw []) encoder = encoder := by
  funext position
  simp [andThen_apply]

theorem raw_andThen_raw (first second : List UInt8) :
    andThen (raw first) (raw second) = raw (first ++ second) :=
  rfl

theorem padding_eq_zero {alignment position : Nat} (aligned : position % alignment = 0) :
    padding alignment position = 0 := by
  simp [padding, aligned]

/-- Padding reaches a multiple of the alignment. -/
theorem add_padding_mod {alignment : Nat} (position : Nat) (positive : 0 < alignment) :
    (position + padding alignment position) % alignment = 0 := by
  have remainderLt := Nat.mod_lt position positive
  have division := Nat.div_add_mod position alignment
  rcases Nat.eq_zero_or_pos (position % alignment) with aligned | ragged
  · rw [padding_eq_zero aligned, Nat.add_zero, aligned]
  · have paddingEq : padding alignment position = alignment - position % alignment :=
      Nat.mod_eq_of_lt (by omega)
    have multiple : position + padding alignment position =
        alignment * (position / alignment + 1) := by
      rw [paddingEq, Nat.mul_add]
      omega
    rw [multiple, Nat.mul_mod_right]

/-- Padding rounds a position up. -/
theorem add_padding {alignment : Nat} (position : Nat) (positive : 0 < alignment) :
    position + padding alignment position =
      (position + alignment - 1) / alignment * alignment := by
  have division := Nat.div_add_mod position alignment
  have remainderLt := Nat.mod_lt position positive
  rcases Nat.eq_zero_or_pos (position % alignment) with aligned | ragged
  · have quotient : (position + alignment - 1) / alignment = position / alignment := by
      rw [Nat.div_eq_iff positive]
      constructor
      · rw [Nat.mul_comm]; omega
      · rw [Nat.mul_comm]; omega
    rw [quotient, padding_eq_zero aligned, Nat.mul_comm]
    omega
  · have quotient : (position + alignment - 1) / alignment = position / alignment + 1 := by
      rw [Nat.div_eq_iff positive, Nat.add_mul, Nat.mul_comm]
      constructor <;> omega
    have paddingEq : padding alignment position = alignment - position % alignment :=
      Nat.mod_eq_of_lt (by omega)
    rw [quotient, paddingEq, Nat.add_mul, Nat.mul_comm]
    omega

@[simp]
theorem length_pad (alignment position : Nat) :
    (pad alignment position).length = padding alignment position :=
  List.length_replicate

theorem pad_of_aligned {alignment position : Nat} (aligned : position % alignment = 0) :
    pad alignment position = [] := by
  simp [pad, padding_eq_zero aligned]

theorem word_of_aligned {order : Endianness} {width value position : Nat}
    (aligned : position % width = 0) :
    word order width value position = order.encode width value := by
  simp [word, andThen_apply, pad_of_aligned aligned]

@[simp]
theorem length_word (order : Endianness) (width value position : Nat) :
    (word order width value position).length = padding width position + width := by
  simp [word, andThen_apply]

@[simp]
theorem length_andThen (first second : Encoder) (position : Nat) :
    (andThen first second position).length =
      (first position).length + (second (position + (first position).length)).length := by
  simp [andThen_apply]

theorem length_string (order : Endianness) (text : List UInt8) (position : Nat) :
    (string order text position).length = padding 4 position + 4 + (text.length + 1) := by
  simp [string, andThen_apply]

/-- An encoder appends at least so many bytes, wherever it starts. -/
def AtLeast (count : Nat) (encoder : Encoder) : Prop :=
  ∀ position, count ≤ (encoder position).length

theorem AtLeast.andThen_left {count : Nat} {first : Encoder} (long : AtLeast count first)
    (second : Encoder) : AtLeast count (andThen first second) := by
  intro position
  have firstLong := long position
  rw [length_andThen]
  omega

theorem AtLeast.andThen_right {count : Nat} {second : Encoder} (long : AtLeast count second)
    (first : Encoder) : AtLeast count (andThen first second) := by
  intro position
  have secondLong := long (position + (first position).length)
  rw [length_andThen]
  omega

theorem AtLeast.all_of_mem {count : Nat} {encoder : Encoder} (long : AtLeast count encoder)
    {encoders : List Encoder} (member : encoder ∈ encoders) :
    AtLeast count (all encoders) := by
  induction encoders with
  | nil => simp at member
  | cons first rest ih =>
      rcases List.mem_cons.mp member with rfl | inRest
      · exact long.andThen_left _
      · exact (ih inRest).andThen_right _

theorem atLeast_string (order : Endianness) (text : List UInt8) :
    AtLeast (text.length + 1) (string order text) := by
  intro position
  rw [length_string]
  omega

/-- Consecutive numbers of one width, started aligned, have no padding between them. -/
theorem all_words_of_aligned {order : Endianness} {width position : Nat} (values : List Nat)
    (aligned : position % width = 0) :
    all (values.map (word order width)) position = order.spell width values := by
  induction values generalizing position with
  | nil => rfl
  | cons value values ih =>
      have advanced : (position + width) % width = 0 := by simp [aligned]
      simp only [List.map_cons, all, andThen_apply, word_of_aligned aligned, length_encode,
        ih advanced]
      rfl

/-- Consecutive numbers of one width: padding in front of the first one only. -/
theorem all_words_of_ne_nil {order : Endianness} {width position : Nat} {values : List Nat}
    (positive : 0 < width) (nonempty : values ≠ []) :
    all (values.map (word order width)) position =
      andThen (pad width) (raw (order.spell width values)) position := by
  obtain ⟨value, rest, rfl⟩ := List.exists_cons_of_ne_nil nonempty
  have aligned : (position + (padding width position + width)) % width = 0 := by
    rw [← Nat.add_assoc, Nat.add_mod_right, add_padding_mod position positive]
  simp only [List.map_cons, all, andThen_apply, length_word]
  rw [all_words_of_aligned rest aligned]
  simp [word, andThen_apply, Endianness.spell]

theorem sequence_words_of_ne_nil {order : Endianness} {width : Nat} {values : List Nat}
    (positive : 0 < width) (nonempty : values ≠ []) :
    sequence order (values.map (word order width)) =
      andThen (word order 4 values.length)
        (andThen (pad width) (raw (order.spell width values))) := by
  funext position
  simp only [sequence, List.length_map, andThen_apply _ (all _),
    all_words_of_ne_nil positive nonempty]
  rfl

theorem exists_sequence_words_eq_append (order : Endianness) (width : Nat) (values : List Nat)
    (positive : 0 < width) (position : Nat) :
    ∃ front, sequence order (values.map (word order width)) position =
      front ++ order.spell width values := by
  rcases eq_or_ne values [] with rfl | nonempty
  · exact ⟨sequence order [] position, by simp [Endianness.spell]⟩
  · rw [sequence_words_of_ne_nil positive nonempty]
    exact ⟨_, by simp only [andThen_apply, raw_apply, ← List.append_assoc]; rfl⟩

end Cdr
