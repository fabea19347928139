import Mathlib

set_option autoImplicit false

namespace Nesting

variable {α : Type}

-- A pair of brackets and the separator that is cut at outside of them.
structure Marks (α : Type) where
  opening : α
  closing : α
  separator : α
  openingNotClosing : opening ≠ closing
  openingNotSeparator : opening ≠ separator
  closingNotSeparator : closing ≠ separator

def join (marks : Marks α) : List (List α) → List α
  | [] => []
  | [piece] => piece
  | piece :: rest => piece ++ marks.separator :: join marks rest

def Plain (marks : Marks α) (text : List α) : Prop :=
  ∀ c ∈ text, c ≠ marks.opening ∧ c ≠ marks.closing ∧ c ≠ marks.separator

theorem join_cons (marks : Marks α) (piece : List α) (rest : List (List α)) (more : rest ≠ []) :
    join marks (piece :: rest) = piece ++ marks.separator :: join marks rest := by
  cases rest with
  | nil => exact absurd rfl more
  | cons next rest => rfl

variable [DecidableEq α]

-- One scan with a depth counter; `current` is the open piece. Nothing stops the
-- depth from going below zero, and there the separator no longer cuts.
def pieces (marks : Marks α) (depth : Int) (current : List α) : List α → List (List α)
  | [] => [current]
  | c :: rest =>
      if c = marks.opening then pieces marks (depth + 1) (current ++ [c]) rest
      else if c = marks.closing then pieces marks (depth - 1) (current ++ [c]) rest
      else if c = marks.separator ∧ depth = 0 then current :: pieces marks depth [] rest
      else pieces marks depth (current ++ [c]) rest

-- From any depth of at least `floor` the scan runs over the text without
-- cutting it and comes out at the depth it went in.
def Passes (marks : Marks α) (floor : Int) (text : List α) : Prop :=
  ∀ depth current rest, floor ≤ depth →
    pieces marks depth current (text ++ rest) = pieces marks depth (current ++ text) rest

theorem pieces_ne_nil (marks : Marks α) (depth : Int) (current text : List α) :
    pieces marks depth current text ≠ [] := by
  fun_induction pieces marks depth current text <;> simp_all

theorem join_pieces (marks : Marks α) (depth : Int) (current text : List α) :
    join marks (pieces marks depth current text) = current ++ text := by
  fun_induction pieces marks depth current text with
  | case1 => simp [join]
  | case2 _ _ _ ih => simpa using ih
  | case3 _ _ _ _ ih => simpa using ih
  | case4 depth current c rest _ _ cut ih =>
      rw [join_cons marks current _ (pieces_ne_nil marks depth [] rest), ih, cut.1]
      rfl
  | case5 _ _ _ _ _ _ _ ih => simpa using ih

theorem passes_nil (marks : Marks α) (floor : Int) : Passes marks floor [] := by
  intro depth current rest _
  simp

theorem passes_append (marks : Marks α) (floor : Int) (left right : List α)
    (first : Passes marks floor left) (second : Passes marks floor right) :
    Passes marks floor (left ++ right) := by
  intro depth current rest above
  rw [List.append_assoc, first depth current (right ++ rest) above, second depth _ rest above, List.append_assoc]

theorem passes_mono (marks : Marks α) (low high : Int) (text : List α) (le : low ≤ high)
    (passes : Passes marks low text) : Passes marks high text :=
  fun depth current rest above => passes depth current rest (le.trans above)

theorem passes_plain (marks : Marks α) (floor : Int) (text : List α) (plain : Plain marks text) :
    Passes marks floor text := by
  induction text with
  | nil => exact passes_nil marks floor
  | cons c text ih =>
      intro depth current rest above
      obtain ⟨notOpening, notClosing, notSeparator⟩ := plain c List.mem_cons_self
      have tail := ih (fun x member => plain x (List.mem_cons_of_mem _ member)) depth (current ++ [c]) rest above
      rw [List.cons_append, pieces, if_neg notOpening, if_neg notClosing, if_neg (fun cut => notSeparator cut.1), tail]
      simp

-- Inside a bracket the separator is an ordinary symbol.
theorem passes_separator (marks : Marks α) (floor : Int) (inside : 0 < floor) :
    Passes marks floor [marks.separator] := by
  intro depth current rest above
  change pieces marks depth current (marks.separator :: rest) = _
  rw [pieces, if_neg marks.openingNotSeparator.symm, if_neg marks.closingNotSeparator.symm,
    if_neg (fun cut => by omega)]

theorem passes_wrap (marks : Marks α) (floor : Int) (inner : List α) (passes : Passes marks (floor + 1) inner) :
    Passes marks floor (marks.opening :: (inner ++ [marks.closing])) := by
  intro depth current rest above
  simp only [List.cons_append, List.append_assoc]
  rw [pieces, if_pos rfl, passes (depth + 1) _ _ (by omega)]
  change pieces marks (depth + 1) _ (marks.closing :: rest) = _
  rw [pieces, if_neg marks.openingNotClosing.symm, if_pos rfl, Int.add_sub_cancel]
  simp

theorem passes_join (marks : Marks α) (floor : Int) (inside : 0 < floor) (parts : List (List α))
    (each : ∀ part ∈ parts, Passes marks floor part) : Passes marks floor (join marks parts) := by
  induction parts with
  | nil => exact passes_nil marks floor
  | cons part parts ih =>
      have tail := ih (fun x member => each x (List.mem_cons_of_mem _ member))
      have head := each part List.mem_cons_self
      cases parts with
      | nil => exact head
      | cons next parts =>
          exact passes_append marks floor part _ head
            (passes_append marks floor [marks.separator] _ (passes_separator marks floor inside) tail)

theorem pieces_join (marks : Marks α) (parts : List (List α)) (nonempty : parts ≠ [])
    (each : ∀ part ∈ parts, Passes marks 0 part) : pieces marks 0 [] (join marks parts) = parts := by
  induction parts with
  | nil => exact absurd rfl nonempty
  | cons part parts ih =>
      have head := each part List.mem_cons_self
      cases parts with
      | nil =>
          have scanned := head 0 [] [] (Int.le_refl 0)
          simpa only [List.append_nil, List.nil_append, pieces, join] using scanned
      | cons next parts =>
          have tail := ih (by simp) (fun x member => each x (List.mem_cons_of_mem _ member))
          change pieces marks 0 [] (part ++ marks.separator :: join marks (next :: parts)) = _
          rw [head 0 [] _ (Int.le_refl 0), pieces, if_neg marks.openingNotSeparator.symm,
            if_neg marks.closingNotSeparator.symm, if_pos ⟨rfl, rfl⟩, tail]
          rfl

theorem length_pieces_le (marks : Marks α) (depth : Int) (current text : List α) :
    ∀ piece ∈ pieces marks depth current text, piece.length ≤ current.length + text.length := by
  fun_induction pieces marks depth current text with
  | case1 => simp
  | case2 _ _ _ ih => simpa [Nat.add_assoc, Nat.add_comm 1] using ih
  | case3 _ _ _ _ ih => simpa [Nat.add_assoc, Nat.add_comm 1] using ih
  | case4 depth current c rest _ _ _ ih =>
      intro piece member
      rw [List.length_cons]
      rcases List.mem_cons.mp member with rfl | later
      · omega
      · have bound := ih piece later
        rw [List.length_nil] at bound
        omega
  | case5 _ _ _ _ _ _ _ ih => simpa [Nat.add_assoc, Nat.add_comm 1] using ih

end Nesting
