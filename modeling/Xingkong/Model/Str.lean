import Mathlib.Logic.Function.Basic

/-!
# Searching strings

`SundaySearch` of `service/str.go`. Strings are lists of bytes; the offset map has runes as keys,
which `range` decodes from the pattern, while the text is read byte by byte. `none` is a read
outside of the text, or a loop that has not ended.
-/

namespace Xingkong

/-- The rune at the head of a string and its width, as `range` reads them. -/
def decodeRune (s : List UInt8) : Nat × Nat :=
  match s.toByteArray.utf8DecodeChar? 0 with
  | some c => (c.toNat, c.utf8Size)
  | none => (0xFFFD, 1)

/-- `offset[c] = len(pattern) - i` for the rest of the pattern, after the bytes of the last rune. -/
def fillOffset (offset : Nat → Option Nat) : Nat → List UInt8 → Nat → Option Nat
  | _, [] => offset
  | skip + 1, _ :: s => fillOffset offset skip s
  | 0, b :: s =>
    let (c, width) := decodeRune (b :: s)
    fillOffset (Function.update offset c (some (s.length + 1))) (width - 1) s

/-- The inner loop: `j` after it. -/
def matched (text : List UInt8) (i : Nat) : List UInt8 → Option Nat
  | [] => some 0
  | b :: pattern => do
    let c ← text[i]?
    if c = b then return (← matched text (i + 1) pattern) + 1 else return 0

def sundayLoop (text pattern : List UInt8) (offset : Nat → Option Nat) : Nat → Nat → Option Bool
  | 0, _ => none
  | fuel + 1, i =>
    if i + pattern.length ≤ text.length then do
      let j ← matched text i pattern
      if j = pattern.length then return true
      if i + pattern.length < text.length then
        let next ← text[i + pattern.length]?
        match offset next.toNat with
        | some val => sundayLoop text pattern offset fuel (i + val)
        | none => sundayLoop text pattern offset fuel (i + (pattern.length + 1))
      else return false
    else return false

def sundaySearch (fuel : Nat) (text pattern : List UInt8) : Option Bool :=
  sundayLoop text pattern (fillOffset (fun _ => none) 0 pattern) fuel 0

end Xingkong
