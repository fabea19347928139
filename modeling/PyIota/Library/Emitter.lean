import PyIota.Library.Fallible

set_option autoImplicit false

namespace Emitter

open Fallible

variable {ε β α γ ι : Type}

-- A program over an append-only buffer. Raising does not undo anything: what
-- was appended before the exception is still in the error state.
abbrev Program (ε β α : Type) := EStateM ε (List β) α

def append (out : List β) : Program ε β Unit := modify (· ++ out)

-- The program treats the buffer it is given as a frame: it runs as it would
-- from the empty buffer, behind whatever was already there.
def Framed (program : Program ε β α) : Prop :=
  ∀ buffer, program.run buffer = match program.run [] with
    | .ok value out => .ok value (buffer ++ out)
    | .error error out => .error error (buffer ++ out)

def emitted (program : Program ε β Unit) : Except ε (List β) :=
  match program.run [] with
  | .ok _ out => .ok out
  | .error error _ => .error error

@[simp] theorem run_append (out buffer : List β) :
    (append out : Program ε β Unit).run buffer = .ok () (buffer ++ out) := rfl

theorem framed_pure (value : α) : Framed (pure value : Program ε β α) := by
  intro buffer
  simp

theorem framed_throw (error : ε) : Framed (throw error : Program ε β α) := by
  intro buffer
  change EStateM.Result.error error buffer = EStateM.Result.error error (buffer ++ [])
  rw [List.append_nil]

theorem framed_append (out : List β) : Framed (append out : Program ε β Unit) := by
  intro buffer
  simp

theorem framed_bind (program : Program ε β α) (next : α → Program ε β γ)
    (first : Framed program) (second : ∀ value, Framed (next value)) :
    Framed (program >>= next) := by
  intro buffer
  simp only [EStateM.run_bind]
  rw [first buffer]
  cases program.run [] with
  | error error out => rfl
  | ok value out =>
      simp only
      rw [second value (buffer ++ out), second value out]
      cases (next value).run [] <;> simp [List.append_assoc]

theorem append_seq (left right : List β) :
    (append left >>= fun _ => append right : Program ε β Unit) = append (left ++ right) := by
  funext buffer
  change EStateM.Result.ok () ((buffer ++ left) ++ right) = EStateM.Result.ok () (buffer ++ (left ++ right))
  rw [List.append_assoc]

-- A primitive either has an encoding, which it appends, or raises untouched.
def write (encoding : Except ε (List β)) : Program ε β Unit :=
  match encoding with
  | .ok out => append out
  | .error error => throw error

theorem framed_write (encoding : Except ε (List β)) : Framed (write encoding) := by
  cases encoding with
  | ok out => exact framed_append out
  | error error => exact framed_throw error

theorem write_error (encoding : Except ε (List β)) (buffer final : List β) (error : ε)
    (failed : (write encoding).run buffer = .error error final) :
    final = buffer ∧ encoding = .error error := by
  cases encoding with
  | ok out => cases failed
  | error raised =>
      cases failed
      exact ⟨rfl, rfl⟩

theorem write_ok (encoding : Except ε (List β)) (buffer final : List β)
    (done : (write encoding).run buffer = .ok () final) :
    ∃ out, encoding = .ok out ∧ final = buffer ++ out := by
  cases encoding with
  | ok out =>
      cases done
      exact ⟨out, rfl, rfl⟩
  | error raised => cases done

theorem framed_for_m (items : List ι) (body : ι → Program ε β PUnit)
    (each : ∀ item, Framed (body item)) : Framed (items.forM body) := by
  induction items with
  | nil => exact framed_pure PUnit.unit
  | cons item rest ih => exact framed_bind _ _ (each item) (fun _ => ih)

@[simp] theorem emitted_write (encoding : Except ε (List β)) : emitted (write encoding) = encoding := by
  cases encoding <;> rfl

@[simp] theorem emitted_append (out : List β) : emitted (append out : Program ε β Unit) = .ok out := rfl

-- Sequencing two programs concatenates what they emit; the first exception wins.
theorem emitted_seq (program : Program ε β Unit) (next : Program ε β Unit) (framed : Framed next) :
    emitted (program >>= fun _ => next) = (do
      let head ← emitted program
      let tail ← emitted next
      pure (head ++ tail)) := by
  unfold emitted
  simp only [EStateM.run_bind]
  cases program.run [] with
  | error error out => rfl
  | ok value out =>
      simp only
      rw [framed out]
      cases next.run [] <;> rfl

theorem emitted_seq_ok (program next : Program ε β Unit) (framed : Framed next) (out : List β) :
    emitted (program >>= fun _ => next) = .ok out ↔
      ∃ head tail, emitted program = .ok head ∧ emitted next = .ok tail ∧ out = head ++ tail := by
  rw [emitted_seq program next framed]
  simp only [bind_ok]
  refine ⟨?_, ?_⟩
  · intro ⟨head, headEq, tail, tailEq, same⟩
    exact ⟨head, tail, headEq, tailEq, (Except.ok.inj same).symm⟩
  · rintro ⟨head, tail, headEq, tailEq, rfl⟩
    exact ⟨head, headEq, tail, tailEq, rfl⟩

theorem emitted_for_m_write (items : List ι) (encoding : ι → Except ε (List β)) :
    emitted (items.forM fun item => write (encoding item)) = (items.mapM encoding).map List.flatten := by
  induction items with
  | nil => rfl
  | cons item rest ih =>
      change emitted (write (encoding item) >>= fun _ => rest.forM fun item => write (encoding item)) = _
      rw [emitted_seq _ _ (framed_for_m rest _ fun item => framed_write (encoding item)), emitted_write, ih,
        List.mapM_cons]
      cases encoding item with
      | error error => rfl
      | ok head => cases rest.mapM encoding <;> rfl

section

variable (kinds : ε → Prop)

end

end Emitter
