/-!
# UTF-8

Bytes are cut into segments: a segment is either one encoded character or a maximal broken
subpart, that is, the longest start of an encoding that the bytes hold, or one byte that starts
none. Strict decoding accepts bytes without broken segments; lossy decoding writes one U+FFFD for
each broken segment.
-/
namespace TreeBundle

abbrev Bytes := List UInt8

namespace Utf8
set_option autoImplicit false

def encodeChar (c : Char) : Bytes :=
  let code := c.toNat
  if code < 0x80 then [code.toUInt8]
  else if code < 0x800 then
    [(0xC0 + code / 0x40).toUInt8, (0x80 + code % 0x40).toUInt8]
  else if code < 0x10000 then
    [(0xE0 + code / 0x1000).toUInt8, (0x80 + code / 0x40 % 0x40).toUInt8,
      (0x80 + code % 0x40).toUInt8]
  else
    [(0xF0 + code / 0x40000).toUInt8, (0x80 + code / 0x1000 % 0x40).toUInt8,
      (0x80 + code / 0x40 % 0x40).toUInt8, (0x80 + code % 0x40).toUInt8]

def encode (text : List Char) : Bytes :=
  text.flatMap encodeChar

def ofString (text : String) : Bytes :=
  encode text.toList

/-- An inclusive range of bytes. -/
abbrev ByteRange := UInt8 × UInt8

/-- The ranges of the bytes that must follow a leading byte; none if the byte leads nothing. The
first range is narrowed where it would admit an overlong form, a surrogate or a code point above
U+10FFFF. -/
def followers (lead : UInt8) : Option (List ByteRange) :=
  if lead < 0x80 then some []
  else if lead < 0xC2 then none
  else if lead < 0xE0 then some [(0x80, 0xBF)]
  else if lead = 0xE0 then some [(0xA0, 0xBF), (0x80, 0xBF)]
  else if lead = 0xED then some [(0x80, 0x9F), (0x80, 0xBF)]
  else if lead < 0xF0 then some [(0x80, 0xBF), (0x80, 0xBF)]
  else if lead = 0xF0 then some [(0x90, 0xBF), (0x80, 0xBF), (0x80, 0xBF)]
  else if lead < 0xF4 then some [(0x80, 0xBF), (0x80, 0xBF), (0x80, 0xBF)]
  else if lead = 0xF4 then some [(0x80, 0x8F), (0x80, 0xBF), (0x80, 0xBF)]
  else none

/-- The longest start of the bytes that falls into the ranges one by one, and what is left. -/
def takeFollowers : List ByteRange → Bytes → Bytes × Bytes
  | (low, high) :: ranges, byte :: rest =>
    if low ≤ byte ∧ byte ≤ high then
      let taken := takeFollowers ranges rest
      (byte :: taken.1, taken.2)
    else ([], byte :: rest)
  | _, bytes => ([], bytes)

theorem takeFollowers_append (ranges : List ByteRange) (bytes : Bytes) :
    (takeFollowers ranges bytes).1 ++ (takeFollowers ranges bytes).2 = bytes := by
  fun_induction takeFollowers ranges bytes with
  | case1 low high ranges byte rest inside taken ih => simpa using ih
  | case2 low high ranges byte rest outside => rfl
  | case3 => rfl

theorem length_takeFollowers_le (ranges : List ByteRange) (bytes : Bytes) :
    (takeFollowers ranges bytes).2.length ≤ bytes.length := by
  have h := congrArg List.length (takeFollowers_append ranges bytes)
  simp only [List.length_append] at h
  omega

/-- The code point that a leading byte and its followers spell. -/
def assemble (lead : UInt8) (tail : Bytes) : Nat :=
  let payload :=
    match tail.length with
    | 0 => lead.toNat
    | 1 => lead.toNat - 0xC0
    | 2 => lead.toNat - 0xE0
    | _ => lead.toNat - 0xF0
  tail.foldl (fun code byte => code * 0x40 + (byte.toNat - 0x80)) payload

inductive Segment where
  | character (c : Char)
  | broken (bytes : Bytes)
  deriving DecidableEq, Repr

def segments : Bytes → List Segment
  | [] => []
  | lead :: rest =>
    match followers lead with
    | none => .broken [lead] :: segments rest
    | some ranges =>
      let taken := takeFollowers ranges rest
      (if taken.1.length = ranges.length then
          .character (Char.ofNat (assemble lead taken.1))
        else .broken (lead :: taken.1)) ::
        segments taken.2
termination_by bytes => bytes.length
decreasing_by
  · simp
  · have := length_takeFollowers_le ranges rest
    simp only [List.length_cons]
    omega

def replacement : Char := '\uFFFD'

def Segment.shown : Segment → Char
  | .character c => c
  | .broken _ => replacement

def Segment.char? : Segment → Option Char
  | .character c => some c
  | .broken _ => none

def decodeLossy (bytes : Bytes) : List Char :=
  (segments bytes).map Segment.shown

/-- The characters, if every segment is one. -/
def decode? (bytes : Bytes) : Option (List Char) :=
  (segments bytes).mapM Segment.char?

def lossyString (bytes : Bytes) : String :=
  String.ofList (decodeLossy bytes)

def string? (bytes : Bytes) : Option String :=
  (decode? bytes).map String.ofList

end Utf8
end TreeBundle
