import Zenbedded.Serialization

/-!
# The layout of a template

What the template initializers leave in a buffer, as encoders: the image of a
template has holes for the stamp and the arrays, which the serializers fill in
place.  One pass over an initializer yields how large a buffer it needs, which
offsets it answers, and, in a zeroed buffer, which bytes it leaves.
-/

namespace Zenbedded

open ByteOrder ByteBlock

/-- The length word and the bytes that `putString` writes. -/
def stringImage : Option CString → List UInt8
  | some text =>
      uint32Bytes (UInt32.ofNat (text.strlen + 1)) ++
        (text.bytes ++ [0]).take (UInt32.ofNat (text.strlen + 1)).toNat
  | none => uint32Bytes 1 ++ [0]

def namesImage : List CString → Cdr.Encoder
  | [] => Cdr.raw []
  | name :: names =>
      Cdr.andThen (Cdr.pad 4) <|
      Cdr.andThen (Cdr.raw (stringImage (some name))) (namesImage names)

def countImage (count : UInt32) : Cdr.Encoder :=
  Cdr.andThen (Cdr.pad 4) (Cdr.raw (uint32Bytes count))

/-- An element count up to the aligned start of the elements. -/
def arrayFront (count : UInt32) : Cdr.Encoder :=
  Cdr.andThen (countImage count) (Cdr.pad 8)

def stringsImage (frameId : Option CString) (jointNames : JointNames) : Cdr.Encoder :=
  Cdr.andThen (Cdr.raw (stringImage frameId)) <|
  Cdr.andThen (countImage jointNames.numJoints) (namesImage jointNames.names)

@[simp]
theorem length_uint32Bytes (value : UInt32) : (uint32Bytes value).length = 4 :=
  length_littleEndian 4 _

@[simp]
theorem length_kCdrHeader : kCdrHeader.length = 4 :=
  rfl

/-- Rounding up in the source is padding relative to the end of the header. -/
theorem alignUp_eq {offset alignment : Nat} (positive : 0 < alignment)
    (pastHeader : 4 ≤ offset) :
    alignUp offset alignment = offset + Cdr.padding alignment (offset - 4) := by
  obtain ⟨position, rfl⟩ := Nat.exists_eq_add_of_le pastHeader
  simp only [alignUp, cdrHeaderSize, Nat.add_sub_cancel_left,
    ← Cdr.add_padding position positive]
  omega

namespace Cursor

variable {size : Nat} {zeroed : Prop} {written : List UInt8} {state : Cursor size}

/-- The cursor stands behind `written`; in a buffer that was `zeroed` at first,
`written` and zeros are all it holds. -/
def Laid (zeroed : Prop) (written : List UInt8) (state : Cursor size) : Prop :=
  state.cursor = written.length ∧
    (zeroed → written.length ≤ size → state.outBuffer.Prefixed 0 written)

theorem Laid.put (laid : Laid zeroed written state) (data : List UInt8) :
    Needs size (written ++ data).length (state.put data)
      (Laid zeroed (written ++ data)) := by
  have cursorEq := laid.1
  rw [Cursor.put, cursorEq]
  constructor
  · intro fits
    obtain ⟨stored, storeEq⟩ := Block.exists_store state.outBuffer written.length data
      (by simpa using fits)
    refine ⟨⟨stored, written.length + data.length⟩, by rw [storeEq]; rfl, by simp, ?_⟩
    intro wasZeroed _
    have holds := laid.2 wasZeroed (by simp at fits; omega)
    obtain ⟨other, otherEq, prefixed⟩ := holds.store fits
    rw [storeEq] at otherEq
    exact Option.some.inj otherEq ▸ prefixed
  · intro tooSmall
    rw [Block.store_eq_none_iff.mpr (by simpa using tooSmall)]
    rfl

theorem Laid.advance (laid : Laid zeroed written state) (count : Nat) :
    Laid zeroed (written ++ List.replicate count 0) (state.advance count) := by
  refine ⟨by simp [Cursor.advance, laid.1], fun wasZeroed fits => ?_⟩
  simp only [List.length_append, List.length_replicate] at fits
  exact (laid.2 wasZeroed (by omega)).skip count fits

theorem Laid.align (laid : Laid zeroed written state) {alignment : Nat}
    (positive : 0 < alignment) (pastHeader : 4 ≤ written.length) :
    Laid zeroed (written ++ Cdr.pad alignment (written.length - 4))
      (state.align alignment) := by
  have aligned := laid.advance (Cdr.padding alignment (written.length - 4))
  have cursorEq : (state.align alignment).cursor =
      (state.advance (Cdr.padding alignment (written.length - 4))).cursor := by
    simp only [Cursor.align, Cursor.advance, laid.1]
    exact alignUp_eq positive pastHeader
  exact ⟨cursorEq.trans aligned.1, aligned.2⟩

/-- The encapsulation header and `body` stand in front of the cursor. -/
abbrev LaidBody (zeroed : Prop) (body : List UInt8) (state : Cursor size) : Prop :=
  Laid zeroed (kCdrHeader ++ body) state

variable {body : List UInt8}

theorem LaidBody.put (laid : LaidBody zeroed body state) (data : List UInt8) :
    Needs size (4 + (body ++ data).length) (state.put data)
      (LaidBody zeroed (body ++ data)) := by
  simpa [LaidBody, Nat.add_assoc] using Laid.put laid data

theorem LaidBody.advance (laid : LaidBody zeroed body state) (count : Nat) :
    LaidBody zeroed (body ++ List.replicate count 0) (state.advance count) := by
  simpa [LaidBody] using Laid.advance laid count

theorem LaidBody.align (laid : LaidBody zeroed body state) (alignment : Nat)
    (positive : 0 < alignment) :
    LaidBody zeroed (body ++ Cdr.pad alignment body.length) (state.align alignment) := by
  simpa [LaidBody] using Laid.align laid positive (by simp)

theorem LaidBody.putString (laid : LaidBody zeroed body state) (text : Option CString) :
    Needs size (4 + (body ++ stringImage text).length) (state.putString text)
      (LaidBody zeroed (body ++ stringImage text)) := by
  cases text with
  | none =>
      refine (laid.put _).bind (fun _ afterLength => ?_) (by simp [stringImage])
      simpa only [stringImage, List.append_assoc] using afterLength.put [0]
  | some text =>
      refine (laid.put _).bind (fun _ afterLength => ?_) (by simp [stringImage])
      simpa only [stringImage, List.append_assoc] using afterLength.put _

theorem LaidBody.putNames (laid : LaidBody zeroed body state)
    (room : 4 + body.length ≤ size) (names : List CString) :
    Needs size (4 + (body ++ namesImage names body.length).length) (state.putNames names)
      (LaidBody zeroed (body ++ namesImage names body.length)) := by
  induction names generalizing body state with
  | nil =>
      simp only [namesImage, Cdr.raw_apply, List.append_nil]
      exact ⟨fun _ => ⟨state, rfl, laid⟩, fun tooSmall => by omega⟩
  | cons name names ih =>
      have afterAlign := laid.align 4 (by omega)
      refine (afterAlign.putString (some name)).withRoom.bind (fun _ afterName => ?_)
        (by simp [namesImage, Cdr.andThen_apply])
      have rest := ih afterName.1 afterName.2
      simpa [namesImage, Cdr.andThen_apply, Nat.add_assoc] using rest

theorem LaidBody.putCount (laid : LaidBody zeroed body state) (count : UInt32) :
    Needs size (4 + (body ++ countImage count body.length).length)
      ((state.align 4).put (uint32Bytes count))
      (LaidBody zeroed (body ++ countImage count body.length)) := by
  simpa [countImage, Cdr.andThen_apply] using
    (laid.align 4 (by omega)).put (uint32Bytes count)

/-- `body` stands in front of the cursor and has length `position`. -/
def LaidAt (zeroed : Prop) (body : List UInt8) (position : Nat) (state : Cursor size) : Prop :=
  body.length = position ∧ LaidBody zeroed body state

/-- The space of an array is only counted, so what must fit ends with the count. -/
theorem LaidAt.putArraySpace {position : Nat} (laid : LaidAt zeroed body position state)
    (count : UInt32) :
    Needs size (4 + (position + (countImage count position).length))
      (state.putArraySpace count)
      (fun outcome =>
        outcome.1 = 4 + (position + (arrayFront count position).length) ∧
        LaidAt zeroed
          (body ++ (arrayFront count position ++ List.replicate (8 * count).toNat 0))
          (position + (arrayFront count position).length + (8 * count).toNat) outcome.2) := by
  obtain ⟨rfl, laid⟩ := laid
  rw [← List.length_append]
  refine (laid.putCount count).bind_some (fun afterCount laidCount => ?_)
  have laidFront : LaidBody zeroed (body ++ arrayFront count body.length)
      (afterCount.align 8) := by
    simpa [arrayFront, Cdr.andThen_apply] using laidCount.align 8 (by omega)
  refine ⟨by simpa using laidFront.1, by simp [Nat.add_assoc], ?_⟩
  simpa only [List.append_assoc] using laidFront.advance (8 * count).toNat

theorem putPreamble_needs (outBuffer : Block UInt8 size) (frameId : Option CString)
    (jointNames : JointNames) :
    Needs size (4 + (8 + (stringsImage frameId jointNames 8).length))
      (putPreamble ⟨outBuffer, 0⟩ frameId jointNames)
      (fun outcome => outcome.1 = 4 ∧
        LaidAt (outBuffer = Block.filled size 0)
          (List.replicate 8 0 ++ stringsImage frameId jointNames 8)
          (8 + (stringsImage frameId jointNames 8).length) outcome.2) := by
  have start : Laid (outBuffer = Block.filled size 0) [] (⟨outBuffer, 0⟩ : Cursor size) :=
    ⟨rfl, fun wasZeroed _ => wasZeroed ▸ Block.prefixed_filled 0⟩
  obtain ⟨stamp, stampEq⟩ : ∃ stamp : List UInt8, stamp = List.replicate 8 0 := ⟨_, rfl⟩
  have stampLength : stamp.length = 8 := by rw [stampEq, List.length_replicate]
  have lengthEq : 8 + (stringsImage frameId jointNames 8).length =
      (stamp ++ stringsImage frameId jointNames 8).length := by
    rw [List.length_append, stampLength]
  rw [lengthEq, ← stampEq]
  refine (start.put kCdrHeader).bind (fun afterHeader laidHeader => ?_) (by simp)
  have laidStamp : LaidBody _ ([] ++ List.replicate 8 0) (afterHeader.advance 8) :=
    LaidBody.advance laidHeader 8
  rw [List.nil_append, ← stampEq] at laidStamp
  refine (laidStamp.putString frameId).bind (fun afterFrame laidFrame => ?_)
    (by simp [stringsImage, Cdr.andThen_apply])
  refine (laidFrame.putCount jointNames.numJoints).withRoom.bind
    (fun afterCount laidCount => ?_)
    (by simp [stringsImage, Cdr.andThen_apply, stampLength])
  have laidNames : Needs size _ (afterCount.putNames jointNames.names >>= fun afterNames =>
      some (afterHeader.cursor, afterNames)) fun outcome =>
        outcome.1 = 4 ∧ LaidAt _ _ _ outcome.2 :=
    (laidCount.1.putNames laidCount.2 jointNames.names).bind_some
      fun _ laid => ⟨laidHeader.1, rfl, laid⟩
  simpa [stringsImage, Cdr.andThen_apply, Nat.add_assoc, stampLength] using laidNames

end Cursor

end Zenbedded
