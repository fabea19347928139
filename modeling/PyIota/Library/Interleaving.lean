import PyIota.Library.Coroutine

set_option autoImplicit false

-- Calls that share a state and are suspended at their requests, under every
-- order in which the answers can come in and others can change the state.
namespace Interleaving

open Coroutine

variable {σ ε ρ ω α β : Type}

def finalState : EStateM.Result ε σ α → σ
  | .ok _ state => state
  | .error _ state => state

def left : Task σ ε ρ ω α → σ
  | .done result => finalState result
  | .await _ state _ => state

section

variable (rely : σ → σ → Prop)

-- What a task has become after these exchanges. While it was suspended the
-- others changed the state as rely allows.
inductive Reaches : Task σ ε ρ ω α → List (ρ × ω) → Task σ ε ρ ω α → Prop where
  | here (task : Task σ ε ρ ω α) : Reaches task [] task
  | resumed (request : ρ) (state later : σ) (resume : ω → σ → Task σ ε ρ ω α) (answer : ω) (rest : List (ρ × ω))
      (task : Task σ ε ρ ω α) (changed : rely state later) (reaches : Reaches (resume answer later) rest task) :
      Reaches (.await request state resume) ((request, answer) :: rest) task

def Ends (program : Async σ ε ρ ω α) (state : σ) (exchanges : List (ρ × ω)) (result : EStateM.Result ε σ α) : Prop :=
  Reaches rely (program.start state) exchanges (.done result)

variable {rely}

theorem reaches_resumed (task : Task σ ε ρ ω α) (exchanges : List (ρ × ω)) (request : ρ) (state later : σ)
    (resume : ω → σ → Task σ ε ρ ω α) (answer : ω) (reaches : Reaches rely task exchanges (.await request state resume))
    (changed : rely state later) : Reaches rely task (exchanges ++ [(request, answer)]) (resume answer later) := by
  generalize suspended : Task.await request state resume = last at reaches
  induction reaches with
  | here task =>
      rw [← suspended]
      exact .resumed request state later resume answer [] _ changed (.here _)
  | resumed first before after resumeFirst firstAnswer rest task firstChanged _ ih =>
      exact .resumed first before after resumeFirst firstAnswer _ _ firstChanged (ih suspended)

theorem reaches_mono (wider : σ → σ → Prop) (task last : Task σ ε ρ ω α) (exchanges : List (ρ × ω))
    (allowed : ∀ state later, rely state later → wider state later) (reaches : Reaches rely task exchanges last) :
    Reaches wider task exchanges last := by
  induction reaches with
  | here task => exact .here task
  | resumed request state later resume answer rest task changed _ ih =>
      exact .resumed request state later resume answer rest task (allowed state later changed) ih

theorem reaches_done (result : EStateM.Result ε σ α) (exchanges : List (ρ × ω)) (last : Task σ ε ρ ω α)
    (reaches : Reaches rely (.done result) exchanges last) : exchanges = [] ∧ last = .done result := by
  cases reaches with
  | here => exact ⟨rfl, rfl⟩

theorem ends_pure (value out : α) (state final : σ) (exchanges : List (ρ × ω))
    (ends : Ends rely (pure value : Async σ ε ρ ω α) state exchanges (.ok out final)) :
    exchanges = [] ∧ out = value ∧ final = state := by
  obtain ⟨empty, same⟩ := reaches_done _ _ _ ends
  cases same
  exact ⟨empty, rfl, rfl⟩

theorem ends_read_next (next : σ → Async σ ε ρ ω β) (state : σ) (exchanges : List (ρ × ω))
    (result : EStateM.Result ε σ β) (ends : Ends rely (Async.read >>= next) state exchanges result) :
    Ends rely (next state) state exchanges result := ends

theorem ends_raise (error : ε) (out : α) (state final : σ) (exchanges : List (ρ × ω)) :
    ¬ Ends rely (Async.raise error : Async σ ε ρ ω α) state exchanges (.ok out final) := by
  intro ends
  obtain ⟨_, same⟩ := reaches_done _ _ _ ends
  cases same

theorem ends_check (result : Except ε α) (out : α) (state final : σ) (exchanges : List (ρ × ω))
    (ends : Ends rely (Async.check result : Async σ ε ρ ω α) state exchanges (.ok out final)) :
    exchanges = [] ∧ result = .ok out ∧ final = state := by
  cases result with
  | error error => exact absurd ends (ends_raise error out state final exchanges)
  | ok value =>
      obtain ⟨empty, same, unchanged⟩ := ends_pure value out state final exchanges ends
      exact ⟨empty, by rw [same], unchanged⟩

theorem ends_check_next (result : Except ε α) (next : α → Async σ ε ρ ω β) (out : β) (state final : σ)
    (exchanges : List (ρ × ω)) (ends : Ends rely (Async.check result >>= next) state exchanges (.ok out final)) :
    ∃ value, result = .ok value ∧ Ends rely (next value) state exchanges (.ok out final) := by
  cases result with
  | error error => exact absurd ends (ends_raise error out state final exchanges)
  | ok value => exact ⟨value, rfl, ends⟩

theorem ends_await (request : ρ) (answer : ω) (state final : σ) (exchanges : List (ρ × ω))
    (ends : Ends rely (Async.await request : Async σ ε ρ ω ω) state exchanges (.ok answer final)) :
    exchanges = [(request, answer)] ∧ rely state final := by
  cases ends with
  | resumed _ _ later resume given rest _ changed reaches =>
      obtain ⟨empty, same⟩ := reaches_done _ _ _ reaches
      cases same
      rw [empty]
      exact ⟨rfl, changed⟩

theorem reaches_bind (task : Task σ ε ρ ω α) (next : α → σ → Task σ ε ρ ω β) (exchanges : List (ρ × ω)) (out : β)
    (final : σ) (reaches : Reaches rely (task.bind next) exchanges (.done (.ok out final))) :
    ∃ value middle first second, exchanges = first ++ second ∧ Reaches rely task first (.done (.ok value middle)) ∧
      Reaches rely (next value middle) second (.done (.ok out final)) := by
  induction task generalizing exchanges with
  | done result =>
      cases result with
      | error error state =>
          obtain ⟨_, same⟩ := reaches_done _ _ _ reaches
          cases same
      | ok value state => exact ⟨value, state, [], exchanges, rfl, .here _, reaches⟩
  | await request state resume ih =>
      cases reaches with
      | resumed _ _ later _ answer rest _ changed reaches =>
          obtain ⟨value, middle, first, second, rfl, firstReaches, secondReaches⟩ := ih answer later rest reaches
          exact ⟨value, middle, (request, answer) :: first, second, rfl,
            .resumed request state later resume answer first _ changed firstReaches, secondReaches⟩

theorem ends_bind (program : Async σ ε ρ ω α) (next : α → Async σ ε ρ ω β) (state : σ) (exchanges : List (ρ × ω))
    (out : β) (final : σ) (ends : Ends rely (program >>= next) state exchanges (.ok out final)) :
    ∃ value middle first second, exchanges = first ++ second ∧ Ends rely program state first (.ok value middle) ∧
      Ends rely (next value) middle second (.ok out final) :=
  reaches_bind (program.start state) (fun value => (next value).start) exchanges out final ends

end

-- From one suspension to the next the task changes nothing itself.
def Quiet : Task σ ε ρ ω α → σ → Prop
  | .done result, state => finalState result = state
  | .await _ held resume, state => held = state ∧ ∀ answer later, Quiet (resume answer later) later

def LeavesState (program : Async σ ε ρ ω α) : Prop := ∀ state, Quiet (program.start state) state

theorem leaves_pure (value : α) : LeavesState (pure value : Async σ ε ρ ω α) := by
  intro state
  rfl

theorem leaves_raise (error : ε) : LeavesState (Async.raise error : Async σ ε ρ ω α) := by
  intro state
  rfl

theorem leaves_read : LeavesState (Async.read : Async σ ε ρ ω σ) := by
  intro state
  rfl

theorem leaves_await (request : ρ) : LeavesState (Async.await request : Async σ ε ρ ω ω) := by
  intro state
  exact ⟨rfl, fun _ _ => rfl⟩

theorem leaves_check (result : Except ε α) : LeavesState (Async.check result : Async σ ε ρ ω α) := by
  cases result with
  | ok value => exact leaves_pure value
  | error error => exact leaves_raise error

theorem quiet_bind (task : Task σ ε ρ ω α) (next : α → σ → Task σ ε ρ ω β) (state : σ) (first : Quiet task state)
    (second : ∀ value later, Quiet (next value later) later) : Quiet (task.bind next) state := by
  induction task generalizing state with
  | done result =>
      cases result with
      | error error held => exact first
      | ok value held =>
          obtain rfl : held = state := first
          exact second value held
  | await request held resume ih => exact ⟨first.1, fun answer later => ih answer later later (first.2 answer later)⟩

theorem leaves_bind (program : Async σ ε ρ ω α) (next : α → Async σ ε ρ ω β) (first : LeavesState program)
    (second : ∀ value, LeavesState (next value)) : LeavesState (program >>= next) := by
  intro state
  exact quiet_bind (program.start state) (fun value => (next value).start) state (first state)
    fun value later => second value later

theorem quiet_handle (task : Task σ ε ρ ω α) (handler : ε → σ → Task σ ε ρ ω α) (state : σ) (first : Quiet task state)
    (second : ∀ error later, Quiet (handler error later) later) : Quiet (task.handle handler) state := by
  induction task generalizing state with
  | done result =>
      cases result with
      | ok value held => exact first
      | error error held =>
          obtain rfl : held = state := first
          exact second error held
  | await request held resume ih => exact ⟨first.1, fun answer later => ih answer later later (first.2 answer later)⟩

theorem leaves_handle (program : Async σ ε ρ ω α) (handler : ε → Async σ ε ρ ω α) (first : LeavesState program)
    (second : ∀ error, LeavesState (handler error)) : LeavesState (program.handle handler) := by
  intro state
  exact quiet_handle (program.start state) (fun error => (handler error).start) state (first state)
    fun error later => second error later

theorem leaves_attempt (program : Async σ ε ρ ω α) (leaves : LeavesState program) : LeavesState program.attempt := by
  apply leaves_handle
  · exact leaves_bind program _ leaves fun value => leaves_pure (Except.ok value)
  · intro error
    exact leaves_pure (Except.error error)

theorem quiet_left (task : Task σ ε ρ ω α) (state : σ) (quiet : Quiet task state) : left task = state := by
  cases task with
  | done result => exact quiet
  | await request held resume => exact quiet.1

-- A call in progress: how it began, what it was answered and what is left of it.
structure Thread (σ ε ρ ω α : Type) where
  program : Async σ ε ρ ω α
  began : σ
  exchanged : List (ρ × ω)
  task : Task σ ε ρ ω α

structure Pool (σ ε ρ ω α : Type) where
  state : σ
  threads : List (Thread σ ε ρ ω α)

section

variable (started : Async σ ε ρ ω α → Prop) (others : σ → σ → Prop)

inductive Pool.Step : Pool σ ε ρ ω α → Pool σ ε ρ ω α → Prop where
  | start (pool : Pool σ ε ρ ω α) (program : Async σ ε ρ ω α) (known : started program) :
      Pool.Step pool ⟨left (program.start pool.state),
        pool.threads ++ [⟨program, pool.state, [], program.start pool.state⟩]⟩
  | answer (pool : Pool σ ε ρ ω α) (index : Nat) (thread : Thread σ ε ρ ω α) (request : ρ) (held : σ)
      (resume : ω → σ → Task σ ε ρ ω α) (answer : ω) (found : pool.threads[index]? = some thread)
      (suspended : thread.task = .await request held resume) :
      Pool.Step pool ⟨left (resume answer pool.state), pool.threads.set index
        ⟨thread.program, thread.began, thread.exchanged ++ [(request, answer)], resume answer pool.state⟩⟩
  | change (pool : Pool σ ε ρ ω α) (next : σ) (allowed : others pool.state next) :
      Pool.Step pool ⟨next, pool.threads⟩

def Pool.Later : Pool σ ε ρ ω α → Pool σ ε ρ ω α → Prop := Relation.ReflTransGen (Pool.Step started others)

abbrev Changes : σ → σ → Prop := Relation.ReflTransGen others

-- Everything a thread has seen happened to the state was done by the others.
structure Thread.Valid (state : σ) (thread : Thread σ ε ρ ω α) : Prop where
  reached : Reaches (Changes others) (thread.program.start thread.began) thread.exchanged thread.task
  since : Changes others (left thread.task) state
  quiet : Quiet thread.task (left thread.task)

structure Pool.Valid (first : σ) (pool : Pool σ ε ρ ω α) : Prop where
  changed : Changes others first pool.state
  began : ∀ thread ∈ pool.threads, started thread.program ∧ Changes others first thread.began
  threads : ∀ thread ∈ pool.threads, thread.Valid others pool.state

variable {started others}

theorem quiet_changed (task last : Task σ ε ρ ω α) (state : σ) (exchanges : List (ρ × ω)) (quiet : Quiet task state)
    (reaches : Reaches (Changes others) task exchanges last) : Changes others state (left last) := by
  induction reaches generalizing state with
  | here task =>
      rw [quiet_left task state quiet]
  | resumed request held later resume answer rest task changed _ ih =>
      obtain ⟨same, resumed⟩ := quiet
      rw [← same]
      exact changed.trans (ih later (resumed answer later))

theorem leaves_changed (program : Async σ ε ρ ω α) (state final : σ) (exchanges : List (ρ × ω)) (value : α)
    (leaves : LeavesState program) (ends : Ends (Changes others) program state exchanges (.ok value final)) :
    Changes others state final :=
  quiet_changed (program.start state) _ state exchanges (leaves state) ends

theorem thread_valid_later (state later : σ) (thread : Thread σ ε ρ ω α) (changed : Changes others state later)
    (valid : thread.Valid others state) : thread.Valid others later where
  reached := valid.reached
  since := valid.since.trans changed
  quiet := valid.quiet

theorem pool_step_valid (quiet : ∀ program, started program → LeavesState program) (first : σ)
    (pool next : Pool σ ε ρ ω α) (valid : pool.Valid started others first) (step : Pool.Step started others pool next) :
    next.Valid started others first := by
  cases step with
  | start program known =>
      have own := quiet program known pool.state
      have same := quiet_left _ _ own
      rw [same]
      refine ⟨valid.changed, ?_, ?_⟩
      · rw [List.forall_mem_append, List.forall_mem_singleton]
        exact ⟨valid.began, known, valid.changed⟩
      · rw [List.forall_mem_append, List.forall_mem_singleton]
        refine ⟨valid.threads, .here _, ?_, ?_⟩
        · rw [same]
        · rwa [same]
  | answer index thread request held resume answer found suspended =>
      have member := List.mem_of_getElem? found
      have before := valid.threads thread member
      have suspendedQuiet := before.quiet
      rw [suspended] at suspendedQuiet
      have own := suspendedQuiet.2 answer pool.state
      have same := quiet_left _ _ own
      rw [same]
      refine ⟨valid.changed, ?_, ?_⟩
      · intro other otherMember
        rcases List.mem_or_eq_of_mem_set otherMember with earlier | rfl
        · exact valid.began other earlier
        · exact valid.began thread member
      · intro other otherMember
        rcases List.mem_or_eq_of_mem_set otherMember with earlier | rfl
        · exact valid.threads other earlier
        · have reached := before.reached
          have since := before.since
          rw [suspended] at reached since
          refine ⟨reaches_resumed _ _ request held pool.state resume answer reached since, ?_, ?_⟩
          · rw [same]
          · rwa [same]
  | change state allowed =>
      refine ⟨valid.changed.tail allowed, valid.began, ?_⟩
      intro thread member
      exact thread_valid_later pool.state state thread (.single allowed) (valid.threads thread member)

theorem pool_later_valid (quiet : ∀ program, started program → LeavesState program) (first : σ)
    (pool later : Pool σ ε ρ ω α) (valid : pool.Valid started others first)
    (runs : Pool.Later started others pool later) : later.Valid started others first := by
  induction runs with
  | refl => exact valid
  | tail _ step ih => exact pool_step_valid quiet first _ _ ih step

theorem fresh_pool_valid (first : σ) : Pool.Valid started others first (⟨first, []⟩ : Pool σ ε ρ ω α) where
  changed := .refl
  began := by simp
  threads := by simp

end

theorem changes_nobody (state later : σ) (changed : Changes (fun _ _ => False) state later) : state = later := by
  induction changed with
  | refl => rfl
  | tail _ impossible _ => exact impossible.elim

def concluded (result : EStateM.Result ε σ α) (sent : List ρ) : EStateM.Result ε (World σ ρ) α :=
  match result with
  | .ok value state => .ok value ⟨state, sent⟩
  | .error error state => .error error ⟨state, sent⟩

theorem drive_done (oracle : List ρ → ω) (result : EStateM.Result ε σ α) (sent : List ρ) :
    drive oracle (.done result) sent = concluded result sent := by
  cases result <;> rfl

def replay (exchanges : List (ρ × ω)) (last : ω) (sent : List ρ) : ω :=
  (exchanges[sent.length - 1]?.map Prod.snd).getD last

theorem drive_answered (task : Task σ ε ρ ω α) (exchanges : List (ρ × ω)) (result : EStateM.Result ε σ α)
    (sent : List ρ) (oracle : List ρ → ω) (reaches : Reaches Eq task exchanges (.done result))
    (answers : ∀ index exchange, exchanges[index]? = some exchange →
      oracle (sent ++ (exchanges.take (index + 1)).map Prod.fst) = exchange.2) :
    drive oracle task sent = concluded result (sent ++ exchanges.map Prod.fst) := by
  generalize ended : Task.done result = last at reaches
  induction reaches generalizing sent with
  | here task => rw [← ended, drive_done, List.map_nil, List.append_nil]
  | resumed request state later resume answer rest task changed _ ih =>
      obtain rfl : state = later := changed
      have first : oracle (sent ++ [request]) = answer := answers 0 (request, answer) rfl
      have remaining : ∀ index exchange, rest[index]? = some exchange →
          oracle (sent ++ [request] ++ (rest.take (index + 1)).map Prod.fst) = exchange.2 := by
        intro index exchange found
        rw [List.append_assoc]
        exact answers (index + 1) exchange found
      rw [drive, first, ih (sent ++ [request]) remaining ended, List.append_assoc]
      rfl

theorem replay_answers (exchanges : List (ρ × ω)) (last : ω) (index : Nat) (exchange : ρ × ω)
    (found : exchanges[index]? = some exchange) :
    replay exchanges last ((exchanges.take (index + 1)).map Prod.fst) = exchange.2 := by
  have within : index < exchanges.length := (List.getElem?_eq_some_iff.mp found).1
  have asked : ((exchanges.take (index + 1)).map Prod.fst).length = index + 1 := by
    rw [List.length_map, List.length_take]
    omega
  rw [replay, asked, Nat.add_sub_cancel, found]
  rfl

-- A call nobody interfered with did what it does alone, given the same answers.
theorem undisturbed_alone (program : Async σ ε ρ ω α) (state : σ) (exchanges : List (ρ × ω))
    (result : EStateM.Result ε σ α) (last : ω)
    (ends : Ends (Changes fun _ _ => False) program state exchanges result) :
    drive (replay exchanges last) (program.start state) [] = concluded result (exchanges.map Prod.fst) :=
  drive_answered _ exchanges result [] _ (reaches_mono Eq _ _ exchanges changes_nobody ends)
    (replay_answers exchanges last)

end Interleaving
