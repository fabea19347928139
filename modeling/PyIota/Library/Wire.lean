import PyIota.Library.Emitter
import PyIota.Library.Cursor

set_option autoImplicit false

namespace Wire

open Emitter Cursor

variable {ε β α γ ι : Type}

-- What the program writes, if it does not raise, the reader takes off again,
-- and it comes back as a value that means what was written. Outputs from
-- `limit` symbols on are left open: length prefixes have a bounded width.
def Carries (program : Program ε β Unit) (reader : Reader ε β α) (limit : Nat) (means : α → Prop) : Prop :=
  Framed program ∧ ∀ out, emitted program = .ok out → out.length < limit →
    ∃ value, means value ∧ Reads reader out value

-- The program never leaves an empty encoding behind.
def Productive (program : Program ε β Unit) : Prop := ∀ out, emitted program = .ok out → out ≠ []

theorem carries_pure (value : α) (limit : Nat) :
    Carries (pure () : Program ε β Unit) (pure value) limit (· = value) := by
  refine ⟨framed_pure (), ?_⟩
  intro out written _
  rw [← Except.ok.inj written]
  exact ⟨value, rfl, reads_pure value⟩

theorem carries_weaken (program : Program ε β Unit) (reader : Reader ε β α) (limit : Nat)
    (strong weak : α → Prop) (carries : Carries program reader limit strong)
    (imply : ∀ value, strong value → weak value) : Carries program reader limit weak := by
  refine ⟨carries.1, ?_⟩
  intro out written short
  obtain ⟨value, holds, reads⟩ := carries.2 out written short
  exact ⟨value, imply value holds, reads⟩

-- The value comes from reading the very symbols that were written.
theorem carries_read (program : Program ε β Unit) (reader : Reader ε β α) (limit : Nat) (means : α → Prop)
    (carries : Carries program reader limit means) : Carries program reader limit
      (fun value => means value ∧ ∃ out, emitted program = .ok out ∧ Reads reader out value) := by
  refine ⟨carries.1, ?_⟩
  intro out written short
  obtain ⟨value, holds, reads⟩ := carries.2 out written short
  exact ⟨value, ⟨holds, out, written, reads⟩, reads⟩

theorem carries_below (program : Program ε β Unit) (reader : Reader ε β α) (limit lower : Nat) (means : α → Prop)
    (le : lower ≤ limit) (carries : Carries program reader limit means) : Carries program reader lower means :=
  ⟨carries.1, fun out written short => carries.2 out written (Nat.lt_of_lt_of_le short le)⟩

theorem carries_seq (program next : Program ε β Unit) (reader : Reader ε β α) (nextReader : α → Reader ε β γ)
    (limit : Nat) (means : α → Prop) (nextMeans : γ → Prop) (first : Carries program reader limit means)
    (second : ∀ value, means value → Carries next (nextReader value) limit nextMeans) (framed : Framed next) :
    Carries (program >>= fun _ => next) (reader >>= nextReader) limit nextMeans := by
  refine ⟨framed_bind _ _ first.1 (fun _ => framed), ?_⟩
  intro out written short
  obtain ⟨head, tail, headWritten, tailWritten, rfl⟩ := (emitted_seq_ok program next framed out).mp written
  rw [List.length_append] at short
  obtain ⟨value, holds, headReads⟩ := first.2 head headWritten (by omega)
  obtain ⟨result, resultHolds, tailReads⟩ := (second value holds).2 tail tailWritten (by omega)
  exact ⟨result, resultHolds, reads_bind reader nextReader head tail value result headReads tailReads⟩

theorem carries_map (program : Program ε β Unit) (reader : Reader ε β α) (limit : Nat) (means : α → Prop)
    (f : α → γ) (nextMeans : γ → Prop) (carries : Carries program reader limit means)
    (imply : ∀ value, means value → nextMeans (f value)) :
    Carries program (do let value ← reader; pure (f value)) limit nextMeans := by
  refine ⟨carries.1, ?_⟩
  intro out written short
  obtain ⟨value, holds, reads⟩ := carries.2 out written short
  exact ⟨f value, imply value holds, reads_map reader f out value reads⟩

theorem carries_write (body : Program ε β Unit) (reader : Reader ε β α) (limit : Nat) (means : α → Prop)
    (carries : Carries body reader limit means) : Carries (write (emitted body)) reader limit means := by
  refine ⟨framed_write _, ?_⟩
  rw [emitted_write]
  exact carries.2

theorem carries_throw (error : ε) (reader : Reader ε β α) (limit : Nat) (means : α → Prop) :
    Carries (throw error) reader limit means := by
  refine ⟨framed_throw error, ?_⟩
  intro out written
  cases written

theorem carries_for_m (items : List ι) (body : ι → Program ε β PUnit) (reader : Reader ε β α) (limit : Nat)
    (means : ι → α → Prop) (framed : ∀ item, Framed (body item))
    (each : ∀ item ∈ items, Carries (body item) reader limit (means item)) :
    Carries (items.forM body) (times items.length reader) limit (fun values => List.Forall₂ means items values) := by
  induction items with
  | nil => exact carries_weaken _ _ _ _ _ (carries_pure [] limit) (by rintro _ rfl; exact .nil)
  | cons item items ih =>
      have head := each item List.mem_cons_self
      have tail := ih (fun i member => each i (List.mem_cons_of_mem _ member))
      refine carries_seq (body item) (items.forM body) reader _ limit (means item) _ head ?_ (framed_for_m items body framed)
      intro value holds
      exact carries_map _ _ limit _ (value :: ·) _ tail (fun values rest => .cons holds rest)

theorem means_of_allowed (allowed : ι → Prop) (means : ι → α → Prop) (items : List ι) (values : List α)
    (matched : List.Forall₂ (fun item value => allowed item → means item value) items values)
    (each : ∀ item ∈ items, allowed item) : List.Forall₂ means items values := by
  have both := (List.forall₂_and_left items values).mpr ⟨each, matched⟩
  exact both.imp fun item value pair => pair.2 pair.1

theorem productive_write (body : Program ε β Unit) (productive : Productive body) :
    Productive (write (emitted body)) := by
  intro out written
  rw [emitted_write] at written
  exact productive out written

theorem productive_append (out : List β) (nonempty : out ≠ []) : Productive (append out : Program ε β Unit) := by
  intro written same
  rwa [← Except.ok.inj same]

theorem productive_seq (program next : Program ε β Unit) (framed : Framed next)
    (productive : Productive program ∨ Productive next) : Productive (program >>= fun _ => next) := by
  intro out written
  obtain ⟨head, tail, headWritten, tailWritten, rfl⟩ := (emitted_seq_ok program next framed out).mp written
  rcases productive with first | second
  · simp [first head headWritten]
  · simp [second tail tailWritten]

theorem length_le_of_productive (items : List ι) (body : ι → Program ε β PUnit)
    (framed : ∀ item, Framed (body item)) (productive : ∀ item ∈ items, Productive (body item)) (out : List β)
    (written : emitted (items.forM body) = .ok out) : items.length ≤ out.length := by
  induction items generalizing out with
  | nil => exact Nat.zero_le _
  | cons item items ih =>
      obtain ⟨head, tail, headWritten, tailWritten, rfl⟩ :=
        (emitted_seq_ok (body item) (items.forM body) (framed_for_m items body framed) out).mp written
      have headLength := List.length_pos_iff.mpr (productive item List.mem_cons_self head headWritten)
      have tailLength := ih (fun i member => productive i (List.mem_cons_of_mem _ member)) tail tailWritten
      rw [List.length_cons, List.length_append]
      omega

end Wire
