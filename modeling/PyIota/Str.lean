import Mathlib

set_option autoImplicit false

namespace PyIota

abbrev Bytes := List UInt8

-- A Python str is a sequence of code points; lone surrogates are allowed.
abbrev CodePoint := Fin 0x110000
abbrev Str := List CodePoint

instance (s : Str) (p : CodePoint → Prop) [DecidablePred p] : Decidable (∀ c ∈ s, p c) := List.decidableBAll p s
instance (s : Str) (p : CodePoint → Prop) [DecidablePred p] : Decidable (∃ c ∈ s, p c) := List.decidableBEx p s

def cp (c : Char) : CodePoint :=
  ⟨c.toNat, by
    have valid : c.toNat < 0xD800 ∨ 0xDFFF < c.toNat ∧ c.toNat < 0x110000 := c.valid
    omega⟩

def str (text : String) : Str := text.toList.map cp

def isAscii (c : CodePoint) : Prop := c.val < 0x80
instance (c : CodePoint) : Decidable (isAscii c) := inferInstanceAs (Decidable (c.val < 0x80))

-- str.lower. U+0130 and U+212A are the only code points above ASCII whose
-- lower case contains an ASCII one. The remaining non-ASCII letters lower to
-- non-ASCII letters, which no caller tells apart, and are left as they are.
def lowerChar (c : CodePoint) : Str :=
  if upper : 0x41 ≤ c.val ∧ c.val ≤ 0x5A then [⟨c.val + 0x20, by omega⟩]
  else if c.val = 0x130 then [cp 'i', 0x307]
  else if c.val = 0x212A then [cp 'k']
  else [c]

def lower (s : Str) : Str := s.flatMap lowerChar

def startswith (s pre : Str) : Prop := pre <+: s
instance (s pre : Str) : Decidable (startswith s pre) := inferInstanceAs (Decidable (pre <+: s))

def endswith (s suffix : Str) : Prop := suffix <:+ s
instance (s suffix : Str) : Decidable (endswith s suffix) := inferInstanceAs (Decidable (suffix <:+ s))

def removeprefix (s pre : Str) : Str := if startswith s pre then s.drop pre.length else s

-- Zeros go behind a leading sign.
def zfill (s : Str) (width : Nat) : Str :=
  if width ≤ s.length then s
  else
    let zeros := List.replicate (width - s.length) (cp '0')
    match s with
    | [] => zeros
    | first :: rest =>
        if first = cp '+' ∨ first = cp '-' then first :: (zeros ++ rest) else zeros ++ first :: rest

def isSpace (c : CodePoint) : Bool :=
  (0x09 ≤ c.val && c.val ≤ 0x0D) || (0x1C ≤ c.val && c.val ≤ 0x20) || c.val == 0x85 || c.val == 0xA0 ||
    c.val == 0x1680 || (0x2000 ≤ c.val && c.val ≤ 0x200A) || c.val == 0x2028 || c.val == 0x2029 ||
    c.val == 0x202F || c.val == 0x205F || c.val == 0x3000

def strip (s : Str) : Str := ((s.dropWhile isSpace).reverse.dropWhile isSpace).reverse

def splitColonsFrom (current : Str) : Str → List Str
  | [] => [current]
  | [c] => [current ++ [c]]
  | c :: d :: rest =>
      if c = cp ':' ∧ d = cp ':' then current :: splitColonsFrom [] rest
      else splitColonsFrom (current ++ [c]) (d :: rest)

def splitColons (s : Str) : List Str := splitColonsFrom [] s

-- Index arithmetic of a sequence slice: negative positions count from the end
-- and every position is clamped to the sequence.
def clampIndex (length : Nat) (i : Int) : Nat :=
  if i < 0 then (i + length).toNat else min i.toNat length

def slice {α : Type} (xs : List α) (start stop : Int) : List α :=
  (xs.take (clampIndex xs.length stop)).drop (clampIndex xs.length start)

def index? {α : Type} (xs : List α) (i : Int) : Option α :=
  if 0 ≤ i then xs[i.toNat]? else if 0 ≤ i + xs.length then xs[(i + xs.length).toNat]? else none

theorem slice_between {α : Type} (before middle after : List α) (start stop : Int)
    (startEq : start = before.length) (stopEq : stop = (before ++ middle).length) :
    slice (before ++ (middle ++ after)) start stop = middle := by
  have lower : clampIndex (before ++ (middle ++ after)).length start = before.length := by
    simp only [clampIndex, startEq, List.length_append]
    split <;> omega
  have upper : clampIndex (before ++ (middle ++ after)).length stop = (before ++ middle).length := by
    simp only [clampIndex, stopEq, List.length_append]
    split <;> omega
  rw [slice, lower, upper, ← List.append_assoc, List.take_left, List.drop_left]

theorem index_at {α : Type} (before after : List α) (x : α) :
    index? (before ++ x :: after) before.length = some x := by
  simp [index?]

theorem slice_drop_last {α : Type} (xs : List α) (start : Nat) :
    slice xs start (-1) = xs.dropLast.drop start := by
  have upper : clampIndex xs.length (-1) = xs.length - 1 := by
    simp only [clampIndex]
    split <;> omega
  have lower : clampIndex xs.length (start : Int) = min start xs.length := by
    simp only [clampIndex]
    split <;> omega
  rw [slice, upper, lower, List.dropLast_eq_take]
  rcases Nat.le_total start xs.length with small | large
  · rw [Nat.min_eq_left small]
  · rw [Nat.min_eq_right large]
    rw [List.drop_eq_nil_of_le (by simp), List.drop_eq_nil_of_le (by rw [List.length_take]; omega)]

theorem slice_front {α : Type} (xs : List α) (stop : Nat) (within : stop ≤ xs.length) :
    slice xs 0 stop = xs.take stop := by
  have lower : clampIndex xs.length 0 = 0 := by simp [clampIndex]
  have upper : clampIndex xs.length (stop : Int) = stop := by
    simp only [clampIndex]
    split <;> omega
  rw [slice, lower, upper, List.drop_zero]

theorem length_strip_le (s : Str) : (strip s).length ≤ s.length := by
  have outer := (List.dropWhile_sublist (p := isSpace) (l := (s.dropWhile isSpace).reverse)).length_le
  have inner := (List.dropWhile_sublist (p := isSpace) (l := s)).length_le
  simp only [List.length_reverse] at outer
  simp only [strip, List.length_reverse]
  omega

end PyIota
