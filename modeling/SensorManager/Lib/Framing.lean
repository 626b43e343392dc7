import SensorManager.Lib.Bytes
import Mathlib.Data.List.Infix

/-!
# Length-prefixed frames

A frame is a fixed-width little-endian length followed by that many bytes.
`Decodes` relates a byte stream to the bodies of the frames at its front and
to the bytes after them; it determines both, and the bodies are those of the
longest prefix of the stream that is a sequence of frames.
-/

namespace SensorManager.Framing

open SensorManager.Bytes

/-- The width of the length field and the longest body a frame may have.  A
signed length field can hold every allowed length. -/
structure Format where
  width : Nat
  limit : Nat
  holds : limit * 2 < 256 ^ width

namespace Format

variable (format : Format)

/-- One frame. -/
def frame (body : List UInt8) : List UInt8 :=
  toLittleEndian format.width body.length ++ body

/-- The bodies a frame may carry. -/
def Allowed (body : List UInt8) : Prop :=
  body ≠ [] ∧ body.length ≤ format.limit

/-- The frames of `bodies`, one after the other. -/
def encode (bodies : List (List UInt8)) : List UInt8 :=
  bodies.flatMap format.frame

/-- The signed length field at the front of `bytes`. -/
def header (bytes : List UInt8) : Int :=
  signed format.width (littleEndian (bytes.take format.width))

/-- `stream` is the frames of `bodies` followed by `rest`, and no further
frame stands at the front of `rest`. -/
structure Decodes (stream : List UInt8) (bodies : List (List UInt8))
    (rest : List UInt8) : Prop where
  allowed : ∀ body ∈ bodies, format.Allowed body
  split : stream = format.encode bodies ++ rest
  stuck : ∀ body, format.Allowed body → ¬ format.frame body <+: rest

/-- The frames of `bodies` are the longest prefix of `stream` that is a
sequence of frames. -/
structure Longest (stream : List UInt8) (bodies : List (List UInt8)) : Prop where
  allowed : ∀ body ∈ bodies, format.Allowed body
  covers : format.encode bodies <+: stream
  longest : ∀ others, (∀ body ∈ others, format.Allowed body) →
    format.encode others <+: stream → others <+: bodies

@[simp] theorem length_frame (body : List UInt8) :
    (format.frame body).length = format.width + body.length := by
  simp [frame]

@[simp] theorem encode_nil : format.encode [] = [] := rfl

@[simp] theorem encode_cons (body : List UInt8) (bodies : List (List UInt8)) :
    format.encode (body :: bodies) = format.frame body ++ format.encode bodies :=
  rfl

@[simp] theorem encode_append (left right : List (List UInt8)) :
    format.encode (left ++ right) = format.encode left ++ format.encode right := by
  simp [encode]

variable {format}

theorem Allowed.length_pos {body : List UInt8} (allowed : format.Allowed body) :
    0 < body.length :=
  List.length_pos_iff.mpr allowed.1

theorem frame_ne_nil {body : List UInt8} (allowed : format.Allowed body) :
    format.frame body ≠ [] := by
  have positive := allowed.length_pos
  apply List.ne_nil_of_length_pos
  simp only [length_frame]
  omega

/-- The bodies whose length the length field can hold. -/
def Fits (format : Format) (body : List UInt8) : Prop :=
  body ≠ [] ∧ body.length < 256 ^ format.width

theorem Allowed.fits {body : List UInt8} (allowed : format.Allowed body) :
    format.Fits body := by
  have := format.holds
  have := allowed.2
  exact ⟨allowed.1, by omega⟩

theorem take_frame (body later : List UInt8) :
    (format.frame body ++ later).take format.width =
      toLittleEndian format.width body.length := by
  simp [frame]

/-- The length field of a frame is the length of its body, whatever follows. -/
theorem header_frame {body : List UInt8} (allowed : format.Allowed body)
    (later : List UInt8) :
    format.header (format.frame body ++ later) = body.length := by
  have small : body.length * 2 < 256 ^ format.width := by
    have := format.holds
    have := allowed.2
    omega
  rw [header, take_frame, littleEndian_toLittleEndian (by omega), signed_of_lt small]

/-- Two frames at the front of one stream are the same frame. -/
theorem Fits.unique {left right stream : List UInt8}
    (leftFits : format.Fits left) (rightFits : format.Fits right)
    (leftPrefix : format.frame left <+: stream)
    (rightPrefix : format.frame right <+: stream) : left = right := by
  obtain ⟨leftRest, leftSplit⟩ := leftPrefix
  obtain ⟨rightRest, rightSplit⟩ := rightPrefix
  have sameField : toLittleEndian format.width left.length =
      toLittleEndian format.width right.length := by
    rw [← take_frame left leftRest, ← take_frame right rightRest, leftSplit, rightSplit]
  have sameLength : left.length = right.length := by
    have leftRead := littleEndian_toLittleEndian leftFits.2
    rw [sameField, littleEndian_toLittleEndian rightFits.2] at leftRead
    exact leftRead.symm
  have sameFrame : format.frame left = format.frame right :=
    (List.append_inj (leftSplit.trans rightSplit.symm) (by simp [sameLength])).1
  exact (List.append_inj sameFrame (by simp)).2

theorem frame_prefix_unique {left right stream : List UInt8}
    (leftAllowed : format.Allowed left) (rightAllowed : format.Allowed right)
    (leftPrefix : format.frame left <+: stream)
    (rightPrefix : format.frame right <+: stream) : left = right :=
  leftAllowed.fits.unique rightAllowed.fits leftPrefix rightPrefix

/-- Frames at the front of a sequence of frames are the first of them. -/
theorem prefix_of_encode_prefix {bodies shorter : List (List UInt8)}
    (fits : ∀ body ∈ bodies, format.Fits body) (shorterFits : ∀ body ∈ shorter, format.Fits body)
    (covers : format.encode shorter <+: format.encode bodies) : shorter <+: bodies := by
  induction shorter generalizing bodies with
  | nil => exact List.nil_prefix
  | cons body shorter ih =>
      have bodyFits := shorterFits body (by simp)
      rw [encode_cons] at covers
      have front : format.frame body <+: format.encode bodies :=
        (List.prefix_append _ _).trans covers
      cases bodies with
      | nil =>
          have length := front.length_le
          have := List.length_pos_iff.mpr bodyFits.1
          simp only [length_frame, encode_nil, List.length_nil] at length
          omega
      | cons first bodies =>
          have firstFront : format.frame first <+: format.encode (first :: bodies) :=
            List.prefix_append _ _
          obtain rfl := bodyFits.unique (fits first (by simp)) front firstFront
          rw [encode_cons, List.prefix_append_right_inj] at covers
          rw [List.prefix_cons_inj]
          apply ih
          · exact fun candidate member => fits candidate (by simp [member])
          · exact fun candidate member => shorterFits candidate (by simp [member])
          · exact covers

theorem Decodes.nil_of_stuck {rest : List UInt8}
    (stuck : ∀ body, format.Allowed body → ¬ format.frame body <+: rest) :
    format.Decodes rest [] rest :=
  ⟨by simp, by simp, stuck⟩

theorem Decodes.cons {body stream rest : List UInt8}
    {bodies : List (List UInt8)} (allowed : format.Allowed body)
    (decodes : format.Decodes stream bodies rest) :
    format.Decodes (format.frame body ++ stream) (body :: bodies) rest := by
  refine ⟨?_, ?_, decodes.stuck⟩
  · intro candidate member
    rcases List.mem_cons.mp member with rfl | later
    · exact allowed
    · exact decodes.allowed candidate later
  · rw [encode_cons, List.append_assoc, ← decodes.split]

/-- Bytes that arrive later are decoded from where decoding stopped. -/
theorem Decodes.extend {stream rest more : List UInt8}
    {bodies moreBodies : List (List UInt8)} {newRest : List UInt8}
    (decodes : format.Decodes stream bodies rest)
    (next : format.Decodes (rest ++ more) moreBodies newRest) :
    format.Decodes (stream ++ more) (bodies ++ moreBodies) newRest := by
  refine ⟨?_, ?_, next.stuck⟩
  · intro body member
    rcases List.mem_append.mp member with early | late
    · exact decodes.allowed body early
    · exact next.allowed body late
  · rw [encode_append, List.append_assoc, ← next.split, decodes.split,
      List.append_assoc]

/-- The bodies of any sequence of frames at the front of the stream are the
first of those decoded. -/
theorem Decodes.prefix_bodies {stream rest : List UInt8}
    {bodies shorter : List (List UInt8)}
    (decodes : format.Decodes stream bodies rest)
    (allowed : ∀ body ∈ shorter, format.Allowed body)
    (covers : format.encode shorter <+: stream) : shorter <+: bodies := by
  induction shorter generalizing stream bodies with
  | nil => exact List.nil_prefix
  | cons body shorter ih =>
      have bodyAllowed : format.Allowed body := allowed body (by simp)
      have restAllowed : ∀ candidate ∈ shorter, format.Allowed candidate :=
        fun candidate member => allowed candidate (by simp [member])
      rw [encode_cons] at covers
      have bodyFront : format.frame body <+: stream :=
        (List.prefix_append _ _).trans covers
      cases bodies with
      | nil =>
          have same : stream = rest := by simpa using decodes.split
          rw [same] at bodyFront
          exact absurd bodyFront (decodes.stuck body bodyAllowed)
      | cons first bodies =>
          have firstAllowed : format.Allowed first :=
            decodes.allowed first (by simp)
          have firstFront : format.frame first <+: stream := by
            rw [decodes.split, encode_cons, List.append_assoc]
            exact List.prefix_append _ _
          obtain rfl := frame_prefix_unique bodyAllowed firstAllowed
            bodyFront firstFront
          have tail : format.Decodes (format.encode bodies ++ rest) bodies rest :=
            ⟨fun candidate member => decodes.allowed candidate (by simp [member]),
              rfl, decodes.stuck⟩
          rw [decodes.split, encode_cons, List.append_assoc,
            List.prefix_append_right_inj] at covers
          exact (List.prefix_cons_inj body).mpr (ih tail restAllowed covers)

/-- A stream has one decoding. -/
theorem Decodes.unique {stream rest otherRest : List UInt8} {bodies others : List (List UInt8)}
    (decodes : format.Decodes stream bodies rest)
    (other : format.Decodes stream others otherRest) : bodies = others := by
  have left := decodes.prefix_bodies other.allowed ⟨otherRest, other.split.symm⟩
  have right := other.prefix_bodies decodes.allowed ⟨rest, decodes.split.symm⟩
  exact right.eq_of_length (le_antisymm right.length_le left.length_le)

theorem Decodes.longest {stream rest : List UInt8}
    {bodies : List (List UInt8)}
    (decodes : format.Decodes stream bodies rest) :
    format.Longest stream bodies :=
  ⟨decodes.allowed, ⟨rest, decodes.split.symm⟩,
    fun _ allowed covers => decodes.prefix_bodies allowed covers⟩

/-- A sequence of frames is decoded into their bodies. -/
theorem decodes_encode {bodies : List (List UInt8)}
    (allowed : ∀ body ∈ bodies, format.Allowed body) :
    format.Decodes (format.encode bodies) bodies [] := by
  refine ⟨allowed, by simp, ?_⟩
  intro body bodyAllowed front
  exact frame_ne_nil bodyAllowed (List.prefix_nil.mp front)

/-- What is left of a sequence of frames after some of them is the frames of
the bodies that are left. -/
theorem encode_eq_append {bodies shorter : List (List UInt8)} {rest : List UInt8}
    (allowed : ∀ body ∈ bodies, format.Allowed body)
    (shorterAllowed : ∀ body ∈ shorter, format.Allowed body)
    (split : format.encode bodies = format.encode shorter ++ rest) :
    ∃ later, bodies = shorter ++ later ∧ rest = format.encode later := by
  obtain ⟨later, rfl⟩ :=
    (decodes_encode allowed).prefix_bodies shorterAllowed ⟨rest, split.symm⟩
  refine ⟨later, rfl, ?_⟩
  rw [encode_append] at split
  exact (List.append_cancel_left split).symm

/-- A string shorter than a frame's length field, or than the frame that its
length field announces, begins with no frame. -/
theorem stuck_of_short {rest : List UInt8}
    (short : format.width ≤ rest.length →
      (rest.length : Int) < format.width + format.header rest) :
    ∀ body, format.Allowed body → ¬ format.frame body <+: rest := by
  intro body allowed front
  have long := front.length_le
  rw [length_frame] at long
  obtain ⟨later, rfl⟩ := front
  have announced := header_frame allowed later
  have := short (by omega)
  rw [announced] at this
  omega

/-- A length field that no frame may have begins no frame. -/
theorem stuck_of_invalid {rest : List UInt8}
    (invalid : format.header rest ≤ 0 ∨ (format.limit : Int) < format.header rest) :
    ∀ body, format.Allowed body → ¬ format.frame body <+: rest := by
  intro body allowed front
  obtain ⟨later, rfl⟩ := front
  rw [header_frame allowed later] at invalid
  have := allowed.length_pos
  have := allowed.2
  omega

/-- The length field of a longer string is that of any front part holding it. -/
theorem header_append {bytes : List UInt8} (long : format.width ≤ bytes.length)
    (more : List UInt8) :
    format.header (bytes ++ more) = format.header bytes := by
  rw [header, header, List.take_append_of_le_length long]

/-- A complete field that announces exactly the bytes after it is a frame. -/
theorem frame_drop {bytes : List UInt8} (long : format.width ≤ bytes.length)
    (announced : format.header bytes = bytes.length - format.width)
    (small : bytes.length - format.width ≤ format.limit) :
    format.frame (bytes.drop format.width) = bytes := by
  have fieldLength : (bytes.take format.width).length = format.width := by
    simp [long]
  have fieldLt := littleEndian_lt (bytes.take format.width)
  rw [fieldLength] at fieldLt
  have bodyLength : (bytes.drop format.width).length = bytes.length - format.width := by
    simp
  have field :
      littleEndian (bytes.take format.width) = bytes.length - format.width := by
    have congruent := congrArg (· % ((256 ^ format.width : Nat) : Int)) announced
    simp only [header, signed, Int.bmod_emod] at congruent
    have holds := format.holds
    rw [Int.emod_eq_of_lt (by omega) (by exact_mod_cast fieldLt),
      Int.emod_eq_of_lt (by omega) (by omega)] at congruent
    omega
  have written := toLittleEndian_littleEndian (bytes.take format.width)
  rw [fieldLength] at written
  rw [frame, bodyLength, ← field, written, List.take_append_drop]

end Format

end SensorManager.Framing
