import PyIota.Library.Fallible

set_option autoImplicit false

-- A reader walks an immutable sequence with a signed position, as an index
-- held in a dynamic language does. Nothing here assumes the position is valid.
structure Cursor (β : Type) where
  data : List β
  pos : Int

namespace Cursor

variable {ε β α γ : Type}

abbrev Reader (ε β α : Type) := EStateM ε (Cursor β) α

def behind (before after : List β) : Cursor β := ⟨before ++ after, before.length⟩

-- Whatever stands before and after, the program takes exactly these symbols.
def Reads (program : Reader ε β α) (symbols : List β) (value : α) : Prop :=
  ∀ before after, program.run (behind before (symbols ++ after)) =
    .ok value (behind (before ++ symbols) after)

def Yields (program : Reader ε β α) (explains : List β → α → Prop) : Prop :=
  ∀ before rest value final, program.run (behind before rest) = .ok value final →
    ∃ symbols after, rest = symbols ++ after ∧ final = behind (before ++ symbols) after ∧
      explains symbols value

theorem reads_pure (value : α) : Reads (pure value : Reader ε β α) [] value := by
  intro before after
  simp

theorem reads_bind (program : Reader ε β α) (next : α → Reader ε β γ) (left right : List β)
    (value : α) (result : γ) (first : Reads program left value) (second : Reads (next value) right result) :
    Reads (program >>= next) (left ++ right) result := by
  intro before after
  have head := first before (right ++ after)
  have tail := second (before ++ left) after
  simp only [EStateM.run_bind, List.append_assoc] at head tail ⊢
  rw [head]
  exact tail

theorem reads_map (program : Reader ε β α) (f : α → γ) (symbols : List β) (value : α)
    (reads : Reads program symbols value) : Reads (do let a ← program; pure (f a)) symbols (f value) := by
  simpa using reads_bind program (fun a => pure (f a)) symbols [] value (f value) reads (reads_pure (f value))

theorem reads_then (program : Reader ε β α) (next : α → Reader ε β γ) (symbols : List β)
    (value : α) (result : γ) (first : Reads program symbols value) (second : Reads (next value) [] result) :
    Reads (program >>= next) symbols result := by
  simpa using reads_bind program next symbols [] value result first second

def times (count : Nat) (program : Reader ε β α) : Reader ε β (List α) :=
  match count with
  | 0 => pure []
  | count + 1 => do
      let value ← program
      let rest ← times count program
      pure (value :: rest)

theorem yields_pure (value : α) :
    Yields (pure value : Reader ε β α) (fun symbols result => symbols = [] ∧ result = value) := by
  intro before rest result final run
  have both := EStateM.Result.ok.inj run
  exact ⟨[], rest, rfl, by simp [← both.2], rfl, both.1.symm⟩

theorem yields_weaken (program : Reader ε β α) (strong weak : List β → α → Prop)
    (yields : Yields program strong) (imply : ∀ symbols value, strong symbols value → weak symbols value) :
    Yields program weak := by
  intro before rest value final run
  obtain ⟨symbols, after, restEq, finalEq, holds⟩ := yields before rest value final run
  exact ⟨symbols, after, restEq, finalEq, imply symbols value holds⟩

theorem yields_bind (program : Reader ε β α) (next : α → Reader ε β γ)
    (left : List β → α → Prop) (right : α → List β → γ → Prop)
    (first : Yields program left) (second : ∀ value, Yields (next value) (right value)) :
    Yields (program >>= next) (fun symbols result =>
      ∃ value head tail, symbols = head ++ tail ∧ left head value ∧ right value tail result) := by
  intro before rest result final run
  simp only [EStateM.run_bind] at run
  cases step : program.run (behind before rest) with
  | error error middle => simp [step] at run
  | ok value middle =>
      simp only [step] at run
      obtain ⟨head, mid, rfl, rfl, headHolds⟩ := first before rest value middle step
      obtain ⟨tail, after, rfl, rfl, tailHolds⟩ := second value (before ++ head) mid result final run
      exact ⟨head ++ tail, after, by simp, by simp, value, head, tail, rfl, headHolds, tailHolds⟩

theorem yields_map (program : Reader ε β α) (f : α → γ) (strong : List β → α → Prop) (weak : List β → γ → Prop)
    (yields : Yields program strong) (imply : ∀ symbols value, strong symbols value → weak symbols (f value)) :
    Yields (do let value ← program; pure (f value)) weak := by
  apply yields_weaken _ _ _ (yields_bind program (fun value => pure (f value)) strong _ yields
    (fun value => yields_pure (f value)))
  rintro symbols result ⟨value, head, tail, rfl, holds, rfl, rfl⟩
  simpa using imply head value holds

theorem yields_of_except (result : Except ε α) :
    Yields (MonadExcept.ofExcept result : Reader ε β α) (fun symbols value => symbols = [] ∧ result = .ok value) := by
  cases result with
  | error error =>
      intro before rest value final run
      cases run
  | ok known =>
      apply yields_weaken _ _ _ (yields_pure known)
      rintro symbols value ⟨rfl, rfl⟩
      exact ⟨rfl, rfl⟩

-- A fixed-width field: it takes `size` symbols where that many are left.
def Takes (program : Reader ε β α) (size : Nat) (decode : List β → α) : Prop :=
  (∀ before symbols after, symbols.length = size → program.run (behind before (symbols ++ after)) =
    .ok (decode symbols) (behind (before ++ symbols) after)) ∧
  ∀ before rest, rest.length < size → ∃ error final, program.run (behind before rest) = .error error final

theorem takes_map (program : Reader ε β α) (size : Nat) (decode : List β → α) (f : α → γ)
    (takes : Takes program size decode) :
    Takes (do let value ← program; pure (f value)) size (fun symbols => f (decode symbols)) := by
  refine ⟨?_, ?_⟩
  · intro before symbols after exact_
    simp only [EStateM.run_bind, takes.1 before symbols after exact_, EStateM.run_pure]
  · intro before rest short
    obtain ⟨error, final, failed⟩ := takes.2 before rest short
    exact ⟨error, final, by simp only [EStateM.run_bind, failed]⟩

theorem takes_reads (program : Reader ε β α) (size : Nat) (decode : List β → α) (symbols : List β)
    (takes : Takes program size decode) (exact_ : symbols.length = size) :
    Reads program symbols (decode symbols) := by
  intro before after
  exact takes.1 before symbols after exact_

theorem takes_yields (program : Reader ε β α) (size : Nat) (decode : List β → α)
    (takes : Takes program size decode) :
    Yields program (fun symbols value => symbols.length = size ∧ value = decode symbols) := by
  intro before rest value final run
  by_cases short : rest.length < size
  · obtain ⟨error, stopped, failed⟩ := takes.2 before rest short
    simp [failed] at run
  · have length : (rest.take size).length = size := by
      rw [List.length_take]
      omega
    have whole := takes.1 before (rest.take size) (rest.drop size) length
    rw [List.take_append_drop, run] at whole
    obtain ⟨valueEq, finalEq⟩ := EStateM.Result.ok.inj whole
    exact ⟨rest.take size, rest.drop size, (List.take_append_drop size rest).symm, finalEq, length, valueEq⟩

-- What a successful run returns follows from the symbols it moved over.
def Local (program : Reader ε β α) : Prop := Yields program (Reads program)

theorem local_pure (value : α) : Local (pure value : Reader ε β α) := by
  apply yields_weaken _ _ _ (yields_pure value)
  intro symbols result ⟨symbolsEq, resultEq⟩
  rw [symbolsEq, resultEq]
  exact reads_pure value

theorem local_throw (error : ε) : Local (throw error : Reader ε β α) := by
  intro before rest value final run
  cases run

theorem local_bind (program : Reader ε β α) (next : α → Reader ε β γ) (first : Local program)
    (second : ∀ value, Local (next value)) : Local (program >>= next) := by
  apply yields_weaken _ _ _ (yields_bind program next _ _ first second)
  intro symbols result ⟨value, head, tail, split, headReads, tailReads⟩
  rw [split]
  exact reads_bind program next head tail value result headReads tailReads

theorem local_map (program : Reader ε β α) (f : α → γ) (inner : Local program) :
    Local (do let value ← program; pure (f value)) :=
  local_bind program _ inner fun value => local_pure (f value)

theorem local_of_except (result : Except ε α) : Local (MonadExcept.ofExcept result : Reader ε β α) := by
  cases result with
  | error error => exact local_throw error
  | ok value => exact local_pure value

theorem takes_local (program : Reader ε β α) (size : Nat) (decode : List β → α)
    (takes : Takes program size decode) : Local program := by
  apply yields_weaken _ _ _ (takes_yields program size decode takes)
  intro symbols value ⟨exact_, valueEq⟩
  rw [valueEq]
  exact takes_reads program size decode symbols takes exact_

-- A failed run raises one of `kinds` and stops somewhere ahead, inside the data.
def Stops (kinds : ε → Prop) (program : Reader ε β α) : Prop :=
  ∀ before rest error final, program.run (behind before rest) = .error error final →
    kinds error ∧ ∃ symbols after, rest = symbols ++ after ∧ final = behind (before ++ symbols) after

section

variable (kinds : ε → Prop)

theorem stops_pure (value : α) : Stops kinds (pure value : Reader ε β α) := by
  intro before rest error final run
  cases run

theorem stops_of_except (result : Except ε α) (raises : Fallible.RaisesOnly kinds result) :
    Stops kinds (MonadExcept.ofExcept result : Reader ε β α) := by
  intro before rest error final run
  cases result with
  | ok value => cases run
  | error raised =>
      cases run
      exact ⟨raises error rfl, [], rest, rfl, by rw [List.append_nil]⟩

theorem stops_throw (error : ε) (kind : kinds error) : Stops kinds (throw error : Reader ε β α) :=
  stops_of_except kinds (.error error) (Fallible.raises_only_error kinds error kind)

theorem stops_bind (program : Reader ε β α) (next : α → Reader ε β γ) (explains : List β → α → Prop)
    (yields : Yields program explains) (first : Stops kinds program)
    (second : ∀ symbols value, explains symbols value → Stops kinds (next value)) :
    Stops kinds (program >>= next) := by
  intro before rest error final run
  simp only [EStateM.run_bind] at run
  cases step : program.run (behind before rest) with
  | error raised middle =>
      simp only [step] at run
      cases run
      exact first before rest error final step
  | ok value middle =>
      simp only [step] at run
      obtain ⟨head, mid, rfl, rfl, explained⟩ := yields before rest value middle step
      obtain ⟨kind, tail, after, rfl, rfl⟩ := second head value explained (before ++ head) mid error final run
      exact ⟨kind, head ++ tail, after, by simp, by simp⟩

theorem stops_map (program : Reader ε β α) (f : α → γ) (explains : List β → α → Prop)
    (yields : Yields program explains) (inner : Stops kinds program) :
    Stops kinds (do let value ← program; pure (f value)) :=
  stops_bind kinds program _ explains yields inner fun _ value _ => stops_pure kinds (f value)

theorem stops_weaken (program : Reader ε β α) (wider : ε → Prop) (stops : Stops kinds program)
    (imply : ∀ error, kinds error → wider error) : Stops wider program := by
  intro before rest error final run
  obtain ⟨kind, moved⟩ := stops before rest error final run
  exact ⟨imply error kind, moved⟩

end

theorem reads_prefix_free (program : Reader ε β α) (short long : List β) (left right : α)
    (readsShort : Reads program short left) (readsLong : Reads program long right)
    (extends_ : short <+: long) : left = right ∧ short = long := by
  obtain ⟨tail, rfl⟩ := extends_
  have a := readsShort [] tail
  have b := readsLong [] []
  simp only [List.append_nil, List.nil_append] at a b
  obtain ⟨same, cursors⟩ := EStateM.Result.ok.inj (a.symm.trans b)
  have positions : (short.length : Int) = (short ++ tail).length := congrArg Cursor.pos cursors
  have tailEmpty : tail = [] := List.length_eq_zero_iff.mp (by
    simp only [List.length_append] at positions
    omega)
  exact ⟨same, by simp [tailEmpty]⟩

end Cursor
