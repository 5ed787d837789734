/-!
Contents of files and of environment settings. A content is a text, or bytes that are not UTF-8;
the latter are shown with a replacement character for each malformed sequence.
-/

namespace TimeMarkup

/-- A text, or bytes that are not the UTF-8 of any text. -/
inductive Content
  | text (cs : List Char)
  | bytes (raw : List UInt8)
  deriving DecidableEq, Inhabited

namespace Utf8

/-- For a leading byte of a longer sequence: how many bytes follow, between which bounds the first
of them lies, and the bits that the leading byte adds. -/
def leading? (b : UInt8) : Option (Nat × UInt8 × UInt8 × Nat) :=
  if 0xC2 ≤ b && b ≤ 0xDF then some (1, 0x80, 0xBF, b.toNat - 0xC0)
  else if b == 0xE0 then some (2, 0xA0, 0xBF, 0)
  else if b == 0xED then some (2, 0x80, 0x9F, 13)
  else if 0xE1 ≤ b && b ≤ 0xEF then some (2, 0x80, 0xBF, b.toNat - 0xE0)
  else if b == 0xF0 then some (3, 0x90, 0xBF, 0)
  else if 0xF1 ≤ b && b ≤ 0xF3 then some (3, 0x80, 0xBF, b.toNat - 0xF0)
  else if b == 0xF4 then some (3, 0x80, 0x8F, 4)
  else none

/-- Reads the bytes that continue a sequence; the replacement character stands for a sequence that
breaks off. -/
def continued : Nat → UInt8 → UInt8 → Nat → List UInt8 → Char × List UInt8
  | 0, _, _, n, bs => (Char.ofNat n, bs)
  | _ + 1, _, _, _, [] => ('\uFFFD', [])
  | k + 1, lo, hi, n, b :: bs =>
    if lo ≤ b && b ≤ hi then continued k 0x80 0xBF (64 * n + (b.toNat - 0x80)) bs
    else ('\uFFFD', b :: bs)

theorem continued_length_le (k : Nat) (lo hi : UInt8) (n : Nat) (bs : List UInt8) :
    (continued k lo hi n bs).2.length ≤ bs.length := by
  fun_induction continued k lo hi n bs with
  | case3 => simp only [List.length_cons]; omega
  | _ => simp

/-- The characters that bytes stand for, each malformed sequence shown as one replacement
character. -/
def decodeLossy : List UInt8 → List Char
  | [] => []
  | b :: bs =>
    if b < 0x80 then Char.ofNat b.toNat :: decodeLossy bs
    else match leading? b with
      | none => '\uFFFD' :: decodeLossy bs
      | some (k, lo, hi, n) => (continued k lo hi n bs).1 :: decodeLossy (continued k lo hi n bs).2
termination_by bs => bs.length
decreasing_by
  all_goals simp only [List.length_cons]
  · omega
  · omega
  · have := continued_length_le k lo hi n bs
    omega

end Utf8

namespace Content

def text? : Content → Option (List Char)
  | text cs => some cs
  | bytes _ => none

def shown : Content → List Char
  | text cs => cs
  | bytes raw => Utf8.decodeLossy raw

@[simp] theorem text?_text (cs : List Char) : (text cs).text? = some cs := rfl

@[simp] theorem shown_text (cs : List Char) : (text cs).shown = cs := rfl

def ofBytes (raw : ByteArray) : Content :=
  match String.fromUTF8? raw with
  | some s => text s.toList
  | none => bytes raw.toList

end Content

end TimeMarkup
