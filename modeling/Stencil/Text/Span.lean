/-!
Positions in a text are byte offsets into its UTF-8 form.
-/

namespace Stencil

/-- The bytes from `start` up to, and not including, `stop`. -/
structure Span where
  start : Nat
  stop : Nat
  deriving DecidableEq

structure WordSpan where
  start : UInt64
  stop : UInt64
  deriving DecidableEq

namespace WordSpan

/-- A sum that is too large for a word wraps. -/
def ofLength (start : UInt64) (length : Nat) : WordSpan := ⟨start, start + .ofNat length⟩

def span (words : WordSpan) : Span := ⟨words.start.toNat, words.stop.toNat⟩

theorem span_ofLength_iff {start : UInt64} {length : Nat} :
    (ofLength start length).span = ⟨start.toNat, start.toNat + length⟩ ↔
      start.toNat + length < UInt64.size := by
  have stop : (start + .ofNat length).toNat = (start.toNat + length) % UInt64.size := by
    rw [UInt64.toNat_add, UInt64.toNat_ofNat', Nat.add_mod_mod]
  rw [ofLength, span, Span.mk.injEq, stop]
  constructor
  · rintro ⟨-, same⟩
    rw [← same]
    exact Nat.mod_lt _ (by decide)
  · intro fits
    exact ⟨rfl, Nat.mod_eq_of_lt fits⟩

end WordSpan

def byteLength : List Char → Nat
  | [] => 0
  | c :: rest => c.utf8Size + byteLength rest

theorem byteLength_append (a b : List Char) :
    byteLength (a ++ b) = byteLength a + byteLength b := by
  induction a with
  | nil => simp [byteLength]
  | cons c rest ih => simp [byteLength, ih, Nat.add_assoc]

theorem byteLength_pos {text : List Char} (nonempty : text ≠ []) : 0 < byteLength text := by
  cases text with
  | nil => contradiction
  | cons c rest =>
      have := c.utf8Size_pos
      simp only [byteLength]
      omega

theorem utf8ByteSize_ofList (text : List Char) :
    (String.ofList text).utf8ByteSize = byteLength text := by
  induction text with
  | nil => rfl
  | cons c rest ih =>
      have split : String.ofList (c :: rest) = String.singleton c ++ String.ofList rest := by
        rw [← String.toList_inj]; simp
      rw [split, String.utf8ByteSize_append, ih]
      simp [byteLength]

theorem byteLength_toList (text : String) : byteLength text.toList = text.utf8ByteSize := by
  rw [← utf8ByteSize_ofList, String.ofList_toList]

def dropBytes (n : Nat) : List Char → List Char
  | [] => []
  | c :: rest => if n = 0 then c :: rest else dropBytes (n - c.utf8Size) rest

def takeBytes (n : Nat) : List Char → List Char
  | [] => []
  | c :: rest => if n = 0 then [] else c :: takeBytes (n - c.utf8Size) rest

def Span.slice (span : Span) (text : List Char) : List Char :=
  takeBytes (span.stop - span.start) (dropBytes span.start text)

theorem dropBytes_append (before after : List Char) :
    dropBytes (byteLength before) (before ++ after) = after := by
  induction before with
  | nil => cases after <;> simp [byteLength, dropBytes]
  | cons c rest ih =>
      simp [byteLength, dropBytes, ih, Nat.ne_of_gt c.utf8Size_pos]

theorem takeBytes_append (before after : List Char) :
    takeBytes (byteLength before) (before ++ after) = before := by
  induction before with
  | nil => cases after <;> simp [byteLength, takeBytes]
  | cons c rest ih =>
      simp [byteLength, takeBytes, ih, Nat.ne_of_gt c.utf8Size_pos]

end Stencil
