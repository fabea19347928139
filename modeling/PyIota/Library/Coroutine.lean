import Mathlib

set_option autoImplicit false

namespace Coroutine

variable {σ ε ρ ω α β : Type}

-- A call over a state: it is over, or it is suspended until a request is
-- answered and resumes from the state as it is by then.
inductive Task (σ ε ρ ω α : Type) where
  | done (result : EStateM.Result ε σ α)
  | await (request : ρ) (state : σ) (resume : ω → σ → Task σ ε ρ ω α)

def Task.bind (task : Task σ ε ρ ω α) (next : α → σ → Task σ ε ρ ω β) : Task σ ε ρ ω β :=
  match task with
  | .done (.ok value state) => next value state
  | .done (.error error state) => .done (.error error state)
  | .await request state resume => .await request state fun answer later => (resume answer later).bind next

def Async (σ ε ρ ω α : Type) := σ → Task σ ε ρ ω α

def Async.start (program : Async σ ε ρ ω α) (state : σ) : Task σ ε ρ ω α := program state

instance : Monad (Async σ ε ρ ω) where
  pure value := fun state => .done (.ok value state)
  bind program next := fun state => (program state).bind next

def Async.raise (error : ε) : Async σ ε ρ ω α := fun state => .done (.error error state)

def Async.read : Async σ ε ρ ω σ := fun state => .done (.ok state state)

def Async.await (request : ρ) : Async σ ε ρ ω ω :=
  fun state => .await request state fun answer later => .done (.ok answer later)

def Async.check (result : Except ε α) : Async σ ε ρ ω α :=
  match result with
  | .ok value => pure value
  | .error error => Async.raise error

-- try: ... except: the handler goes on from the state the failure left.
def Task.handle (task : Task σ ε ρ ω α) (handler : ε → σ → Task σ ε ρ ω α) : Task σ ε ρ ω α :=
  match task with
  | .done (.ok value state) => .done (.ok value state)
  | .done (.error error state) => handler error state
  | .await request state resume => .await request state fun answer later => (resume answer later).handle handler

def Async.handle (program : Async σ ε ρ ω α) (handler : ε → Async σ ε ρ ω α) : Async σ ε ρ ω α :=
  fun state => (program.start state).handle fun error => (handler error).start

def Async.method (method : EStateM ε σ α) : Async σ ε ρ ω α := fun state => .done (method.run state)

def Async.attempt (program : Async σ ε ρ ω α) : Async σ ε ρ ω (Except ε α) :=
  Async.handle (program >>= fun value => pure (.ok value)) fun error => pure (.error error)

structure World (σ ρ : Type) where
  state : σ
  sent : List ρ

-- Nobody else runs: the answer comes back to the state the call was left in.
def drive (oracle : List ρ → ω) : Task σ ε ρ ω α → List ρ → EStateM.Result ε (World σ ρ) α
  | .done (.ok value state), sent => .ok value ⟨state, sent⟩
  | .done (.error error state), sent => .error error ⟨state, sent⟩
  | .await request state resume, sent => drive oracle (resume (oracle (sent ++ [request])) state) (sent ++ [request])

abbrev Direct (σ ε ρ α : Type) := EStateM ε (World σ ρ) α

def Direct.raise (error : ε) : Direct σ ε ρ α := throw error

def Direct.read : Direct σ ε ρ σ := do
  let world ← get
  return world.state

def Direct.send (oracle : List ρ → ω) (request : ρ) : Direct σ ε ρ ω := do
  let world ← get
  set (World.mk world.state (world.sent ++ [request]))
  return oracle (world.sent ++ [request])

def Direct.check (result : Except ε α) : Direct σ ε ρ α := MonadExcept.ofExcept result

def Direct.handle (direct : Direct σ ε ρ α) (handler : ε → Direct σ ε ρ α) : Direct σ ε ρ α :=
  tryCatch direct handler

def Direct.method (method : EStateM ε σ α) : Direct σ ε ρ α := fun world =>
  match method.run world.state with
  | .ok value state => .ok value ⟨state, world.sent⟩
  | .error error state => .error error ⟨state, world.sent⟩

def Direct.attempt (direct : Direct σ ε ρ α) : Direct σ ε ρ (Except ε α) :=
  Direct.handle (direct >>= fun value => pure (.ok value)) fun error => pure (.error error)

theorem drive_bind (oracle : List ρ → ω) (task : Task σ ε ρ ω α) (next : α → σ → Task σ ε ρ ω β) (sent : List ρ) :
    drive oracle (task.bind next) sent = match drive oracle task sent with
      | .ok value world => drive oracle (next value world.state) world.sent
      | .error error world => .error error world := by
  induction task generalizing sent with
  | done result => cases result <;> rfl
  | await request state resume ih => exact ih (oracle (sent ++ [request])) state (sent ++ [request])

theorem drive_handle (oracle : List ρ → ω) (task : Task σ ε ρ ω α) (handler : ε → σ → Task σ ε ρ ω α)
    (sent : List ρ) :
    drive oracle (task.handle handler) sent = match drive oracle task sent with
      | .ok value world => .ok value world
      | .error error world => drive oracle (handler error world.state) world.sent := by
  induction task generalizing sent with
  | done result => cases result <;> rfl
  | await request state resume ih => exact ih (oracle (sent ++ [request])) state (sent ++ [request])

-- Driven to its end, the program does what the direct one does from every world.
def Mirrors (oracle : List ρ → ω) (program : Async σ ε ρ ω α) (direct : Direct σ ε ρ α) : Prop :=
  ∀ state sent, drive oracle (program.start state) sent = direct.run ⟨state, sent⟩

section

variable (oracle : List ρ → ω)

theorem mirrors_pure (value : α) : Mirrors oracle (pure value : Async σ ε ρ ω α) (pure value) := by
  intro state sent
  rfl

theorem mirrors_raise (error : ε) : Mirrors oracle (Async.raise error : Async σ ε ρ ω α) (Direct.raise error) := by
  intro state sent
  rfl

theorem mirrors_read : Mirrors oracle (Async.read : Async σ ε ρ ω σ) Direct.read := by
  intro state sent
  rfl

theorem mirrors_await (request : ρ) :
    Mirrors oracle (Async.await request : Async σ ε ρ ω ω) (Direct.send oracle request) := by
  intro state sent
  rfl

theorem mirrors_check (result : Except ε α) :
    Mirrors oracle (Async.check result : Async σ ε ρ ω α) (Direct.check result) := by
  intro state sent
  cases result <;> rfl

theorem mirrors_bind (program : Async σ ε ρ ω α) (direct : Direct σ ε ρ α) (next : α → Async σ ε ρ ω β)
    (directNext : α → Direct σ ε ρ β) (first : Mirrors oracle program direct)
    (second : ∀ value, Mirrors oracle (next value) (directNext value)) :
    Mirrors oracle (program >>= next) (direct >>= directNext) := by
  intro state sent
  have started : (program >>= next).start state = (program.start state).bind fun value => (next value).start := rfl
  rw [started, drive_bind, first state sent, EStateM.run_bind]
  cases direct.run ⟨state, sent⟩ with
  | ok value world => exact second value world.state world.sent
  | error error world => rfl

def settled (result : Except ε α) (world : World σ ρ) : EStateM.Result ε (World σ ρ) α :=
  match result with
  | .ok value => .ok value world
  | .error error => .error error world

theorem settled_inj (result other : Except ε α) (world : World σ ρ) (same : settled result world = settled other world) :
    result = other := by
  cases result <;> cases other <;> cases same <;> rfl

def Settles (direct : Direct σ ε ρ α) (world : World σ ρ) (result : Except ε α) (final : World σ ρ) : Prop :=
  direct.run world = settled result final

theorem settles_pure (value : α) (world : World σ ρ) :
    Settles (pure value : Direct σ ε ρ α) world (.ok value) world := rfl

theorem settles_raise (error : ε) (world : World σ ρ) :
    Settles (Direct.raise error : Direct σ ε ρ α) world (.error error) world := rfl

theorem settles_check (result : Except ε α) (world : World σ ρ) :
    Settles (Direct.check result : Direct σ ε ρ α) world result world := by
  cases result <;> rfl

theorem settles_send (request : ρ) (world : World σ ρ) :
    Settles (Direct.send oracle request : Direct σ ε ρ ω) world (.ok (oracle (world.sent ++ [request])))
      ⟨world.state, world.sent ++ [request]⟩ := rfl

theorem settles_then (direct : Direct σ ε ρ α) (next : α → Direct σ ε ρ β) (value : α) (world middle : World σ ρ)
    (first : Settles direct world (.ok value) middle) : (direct >>= next).run world = (next value).run middle := by
  have run : direct.run world = .ok value middle := first
  rw [EStateM.run_bind, run]

theorem settles_next (direct : Direct σ ε ρ α) (next : α → Direct σ ε ρ β) (value : α) (world middle final : World σ ρ)
    (result : Except ε β) (first : Settles direct world (.ok value) middle)
    (second : Settles (next value) middle result final) : Settles (direct >>= next) world result final := by
  unfold Settles
  rw [settles_then direct next value world middle first]
  exact second

theorem settles_fail (direct : Direct σ ε ρ α) (next : α → Direct σ ε ρ β) (error : ε) (world final : World σ ρ)
    (first : Settles direct world (.error error) final) : Settles (direct >>= next) world (.error error) final := by
  have run : direct.run world = .error error final := first
  unfold Settles
  rw [EStateM.run_bind, run]
  rfl

theorem settles_bind (direct : Direct σ ε ρ α) (next : α → Direct σ ε ρ β) (rest : α → Except ε β)
    (result : Except ε α) (world final : World σ ρ) (first : Settles direct world result final)
    (second : ∀ value, Settles (next value) final (rest value) final) :
    Settles (direct >>= next) world (result >>= rest) final := by
  unfold Settles at first ⊢
  rw [EStateM.run_bind, first]
  cases result with
  | ok value => exact second value
  | error error => rfl

theorem direct_handle_run (direct : Direct σ ε ρ α) (handler : ε → Direct σ ε ρ α) (world : World σ ρ) :
    (direct.handle handler).run world = match direct.run world with
      | .ok value next => .ok value next
      | .error error next => (handler error).run next := by
  change EStateM.tryCatch direct handler world = _
  unfold EStateM.tryCatch EStateM.run
  cases direct world <;> rfl

theorem settles_handle_ok (direct : Direct σ ε ρ α) (handler : ε → Direct σ ε ρ α) (value : α)
    (world final : World σ ρ) (tried : Settles direct world (.ok value) final) :
    Settles (direct.handle handler) world (.ok value) final := by
  unfold Settles at tried ⊢
  rw [direct_handle_run, tried]
  rfl

theorem settles_handle_error (direct : Direct σ ε ρ α) (handler : ε → Direct σ ε ρ α) (error : ε)
    (world middle final : World σ ρ) (result : Except ε α) (tried : Settles direct world (.error error) middle)
    (handled : Settles (handler error) middle result final) : Settles (direct.handle handler) world result final := by
  unfold Settles at tried handled ⊢
  rw [direct_handle_run, tried]
  exact handled

theorem mirrors_handle (program : Async σ ε ρ ω α) (direct : Direct σ ε ρ α) (handler : ε → Async σ ε ρ ω α)
    (directHandler : ε → Direct σ ε ρ α) (first : Mirrors oracle program direct)
    (second : ∀ error, Mirrors oracle (handler error) (directHandler error)) :
    Mirrors oracle (program.handle handler) (direct.handle directHandler) := by
  intro state sent
  have started : (program.handle handler).start state =
      (program.start state).handle fun error => (handler error).start := rfl
  rw [started, drive_handle, first state sent, direct_handle_run]
  cases direct.run ⟨state, sent⟩ with
  | ok value world => rfl
  | error error world => exact second error world.state world.sent

theorem mirrors_method (method : EStateM ε σ α) :
    Mirrors oracle (Async.method method : Async σ ε ρ ω α) (Direct.method method) := by
  intro state sent
  change drive oracle (.done (method.run state)) sent = Direct.method method ⟨state, sent⟩
  unfold Direct.method
  cases method.run state <;> rfl

theorem mirrors_attempt (program : Async σ ε ρ ω α) (direct : Direct σ ε ρ α) (first : Mirrors oracle program direct) :
    Mirrors oracle program.attempt direct.attempt := by
  apply mirrors_handle oracle
  · apply mirrors_bind oracle _ _ _ _ first
    intro value
    exact mirrors_pure oracle _
  · intro error
    exact mirrors_pure oracle _

end

theorem direct_bind_ok (direct : Direct σ ε ρ α) (next : α → Direct σ ε ρ β) (world final : World σ ρ) (out : β) :
    (direct >>= next).run world = .ok out final ↔
      ∃ value middle, direct.run world = .ok value middle ∧ (next value).run middle = .ok out final := by
  rw [EStateM.run_bind]
  cases direct.run world with
  | error error middle =>
      refine ⟨?_, ?_⟩
      · intro equal
        cases equal
      · intro ⟨value, other, equal, _⟩
        cases equal
  | ok value middle =>
      refine ⟨?_, ?_⟩
      · intro equal
        exact ⟨value, middle, rfl, equal⟩
      · intro ⟨other, later, equal, rest⟩
        cases equal
        exact rest

theorem direct_check_ok (result : Except ε α) (world final : World σ ρ) (out : α) :
    (Direct.check result : Direct σ ε ρ α).run world = .ok out final ↔ result = .ok out ∧ final = world := by
  cases result with
  | error error =>
      refine ⟨?_, ?_⟩
      · intro equal
        cases equal
      · intro ⟨equal, _⟩
        cases equal
  | ok value =>
      refine ⟨?_, ?_⟩
      · intro equal
        cases equal
        exact ⟨rfl, rfl⟩
      · intro ⟨equal, same⟩
        cases equal
        rw [same]
        rfl

-- The call leaves the state alone and sends what is planned, in that order: all of it
-- if it returns, and as far as it came if it raises.
def Plans (direct : Direct σ ε ρ α) (world : World σ ρ) (plan : List ρ) : Prop :=
  ∃ result requests, Settles direct world result ⟨world.state, world.sent ++ requests⟩ ∧ requests <+: plan ∧
    ∀ value, result = .ok value → requests = plan

theorem plans_settled (direct : Direct σ ε ρ α) (world : World σ ρ) (plan : List ρ) (result : Except ε α)
    (settles : Settles direct world result ⟨world.state, world.sent ++ plan⟩) : Plans direct world plan :=
  ⟨result, plan, settles, List.prefix_rfl, fun _ _ => rfl⟩

theorem plans_check (result : Except ε α) (world : World σ ρ) :
    Plans (Direct.check result : Direct σ ε ρ α) world [] := by
  apply plans_settled _ world [] result
  rw [List.append_nil]
  exact settles_check result world

theorem plans_pure (value : α) (world : World σ ρ) : Plans (pure value : Direct σ ε ρ α) world [] := by
  apply plans_settled _ world [] (.ok value)
  rw [List.append_nil]
  exact settles_pure value world

theorem plans_raise (error : ε) (world : World σ ρ) (plan : List ρ) :
    Plans (Direct.raise error : Direct σ ε ρ α) world plan := by
  refine ⟨.error error, [], ?_, List.nil_prefix, fun value impossible => (nomatch impossible)⟩
  rw [List.append_nil]
  exact settles_raise error world

theorem plans_bind (direct : Direct σ ε ρ α) (next : α → Direct σ ε ρ β) (world : World σ ρ) (plan later : List ρ)
    (first : Plans direct world plan)
    (second : ∀ value, Settles direct world (.ok value) ⟨world.state, world.sent ++ plan⟩ →
      Plans (next value) ⟨world.state, world.sent ++ plan⟩ later) :
    Plans (direct >>= next) world (plan ++ later) := by
  obtain ⟨result, requests, settles, started, complete⟩ := first
  cases result with
  | error error =>
      refine ⟨.error error, requests, settles_fail direct next error world _ settles, ?_, fun value impossible =>
        (nomatch impossible)⟩
      exact started.trans (List.prefix_append plan later)
  | ok value =>
      obtain rfl := complete value rfl
      obtain ⟨result, more, settlesNext, startedNext, completeNext⟩ := second value settles
      refine ⟨result, requests ++ more, ?_, (List.prefix_append_right_inj requests).mpr startedNext, ?_⟩
      · rw [← List.append_assoc]
        exact settles_next direct next value world _ _ result settles settlesNext
      · intro value done
        rw [completeNext value done]

theorem plans_then (direct : Direct σ ε ρ α) (next : α → Direct σ ε ρ β) (world : World σ ρ) (plan : List ρ)
    (first : Plans direct world plan) (second : ∀ value later, Plans (next value) later []) :
    Plans (direct >>= next) world plan := by
  rw [← List.append_nil plan]
  exact plans_bind direct next world plan [] first fun value _ => second value _

theorem plans_read_then (next : σ → Direct σ ε ρ β) (world : World σ ρ) (plan : List ρ)
    (second : Plans (next world.state) world plan) : Plans (Direct.read >>= next) world plan := second

def Direct.ending (direct : Direct σ ε ρ α) (world : World σ ρ) : Except ε α × World σ ρ :=
  match direct.run world with
  | .ok value final => (.ok value, final)
  | .error error final => (.error error, final)

theorem settles_ending (direct : Direct σ ε ρ α) (world : World σ ρ) :
    Settles direct world (direct.ending world).1 (direct.ending world).2 := by
  unfold Settles Direct.ending
  cases direct.run world <;> rfl

theorem ending_settled (direct : Direct σ ε ρ α) (world final : World σ ρ) (result : Except ε α)
    (settles : Settles direct world result final) : direct.ending world = (result, final) := by
  have run : direct.run world = settled result final := settles
  rw [Direct.ending, run]
  cases result <;> rfl

theorem attempt_settles (direct : Direct σ ε ρ α) (world : World σ ρ) :
    Settles direct.attempt world (.ok (direct.ending world).1) (direct.ending world).2 := by
  have ends := settles_ending direct world
  cases result : (direct.ending world).1 with
  | ok value =>
      rw [result] at ends
      exact settles_handle_ok _ _ _ _ _ (settles_next _ _ value world _ _ _ ends (settles_pure _ _))
  | error error =>
      rw [result] at ends
      exact settles_handle_error _ _ error world _ _ _ (settles_fail _ _ error world _ ends) (settles_pure _ _)

theorem ending_attempt_bind (direct : Direct σ ε ρ α) (next : Except ε α → Direct σ ε ρ β) (world : World σ ρ) :
    (direct.attempt >>= next).ending world = (next (direct.ending world).1).ending (direct.ending world).2 := by
  have run := settles_then _ next _ world _ (attempt_settles direct world)
  rw [Direct.ending, run]
  rfl

-- Of all that the call sends, this is what is of the kind, in the order it is sent.
def Sends (kind : ρ → Bool) (direct : Direct σ ε ρ α) (world : World σ ρ) (chosen : List ρ) : Prop :=
  ∃ requests, (direct.ending world).2.sent = world.sent ++ requests ∧ requests.filter kind = chosen

section

variable (kind : ρ → Bool) (direct : Direct σ ε ρ α) (world : World σ ρ)

theorem sends_settled (final : World σ ρ) (requests : List ρ) (result : Except ε α)
    (settles : Settles direct world result final) (sent : final.sent = world.sent ++ requests) :
    Sends kind direct world (requests.filter kind) := by
  have ends := ending_settled direct world final result settles
  exact ⟨requests, by rw [ends, sent], rfl⟩

theorem sends_other (final : World σ ρ) (requests : List ρ) (result : Except ε α)
    (settles : Settles direct world result final) (sent : final.sent = world.sent ++ requests)
    (other : ∀ request ∈ requests, kind request = false) : Sends kind direct world [] := by
  have none_ : requests.filter kind = [] := by simpa using other
  rw [← none_]
  exact sends_settled kind direct world final requests result settles sent

theorem sends_method (method : EStateM ε σ α) : Sends kind (Direct.method method) world [] := by
  have run : (Direct.method method : Direct σ ε ρ α).run world = match method.run world.state with
    | .ok value state => .ok value ⟨state, world.sent⟩
    | .error error state => .error error ⟨state, world.sent⟩ := rfl
  refine ⟨[], ?_, rfl⟩
  rw [List.append_nil, Direct.ending, run]
  cases method.run world.state <;> rfl

theorem sends_attempt_bind (next : Except ε α → Direct σ ε ρ β) (chosen later : List ρ)
    (first : Sends kind direct world chosen)
    (second : Sends kind (next (direct.ending world).1) (direct.ending world).2 later) :
    Sends kind (direct.attempt >>= next) world (chosen ++ later) := by
  obtain ⟨requests, sent, rfl⟩ := first
  obtain ⟨more, sentMore, rfl⟩ := second
  refine ⟨requests ++ more, ?_, List.filter_append requests more⟩
  rw [ending_attempt_bind, sentMore, sent, List.append_assoc]

end

-- The program may send requests but leaves the state as it found it.
def KeepsState (direct : Direct σ ε ρ α) : Prop :=
  ∀ world, match direct.run world with
    | .ok _ next => next.state = world.state
    | .error _ next => next.state = world.state

theorem keeps_state_pure (value : α) : KeepsState (pure value : Direct σ ε ρ α) := by
  intro world
  rfl

theorem keeps_state_raise (error : ε) : KeepsState (Direct.raise error : Direct σ ε ρ α) := by
  intro world
  rfl

theorem keeps_state_read : KeepsState (Direct.read : Direct σ ε ρ σ) := by
  intro world
  rfl

theorem keeps_state_send (oracle : List ρ → ω) (request : ρ) :
    KeepsState (Direct.send oracle request : Direct σ ε ρ ω) := by
  intro world
  rfl

theorem keeps_state_check (result : Except ε α) : KeepsState (Direct.check result : Direct σ ε ρ α) := by
  intro world
  cases result <;> rfl

theorem state_kept (direct : Direct σ ε ρ α) (world next : World σ ρ) (value : α) (kept : KeepsState direct)
    (run : direct.run world = .ok value next) : next.state = world.state := by
  have same := kept world
  rw [run] at same
  exact same

theorem keeps_state_bind (direct : Direct σ ε ρ α) (next : α → Direct σ ε ρ β) (first : KeepsState direct)
    (second : ∀ value, KeepsState (next value)) : KeepsState (direct >>= next) := by
  intro world
  have kept := first world
  rw [EStateM.run_bind]
  cases run : direct.run world with
  | error error middle =>
      rw [run] at kept
      exact kept
  | ok value middle =>
      rw [run] at kept
      have later := second value middle
      simp only at kept ⊢
      rw [← kept]
      exact later

end Coroutine
