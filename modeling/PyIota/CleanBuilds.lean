import PyIota.BuilderSafety
import PyIota.Settings

set_option autoImplicit false

namespace PyIota

open Coroutine

theorem step_after (session : Session) (call : Call) : (session.step call).tx = session.tx.after call := by
  unfold Session.step Transaction.after
  cases call.run.run session.tx <;> rfl

theorem returned_made (session : Session) (call : Call) (handle : Ref) (next : Transaction)
    (run : call.run.run session.tx = .ok handle next) : ∃ made ∈ (session.step call).made, made.call = call := by
  unfold Session.step
  rw [run]
  exact ⟨_, List.mem_append_right _ (List.mem_singleton_self _), rfl⟩

theorem clean_session_well_formed (session : Session) (reachable : session.Reachable)
    (clean : ∀ made ∈ session.made, made.call.Clean) : session.tx.WellFormed := by
  obtain ⟨tx, inputs, commands, runs⟩ := reachable
  induction runs with
  | refl => exact ⟨by simp [inputs], by simp [commands]⟩
  | tail _ next ih =>
      obtain ⟨call, _, rfl⟩ := next
      rw [step_after]
      apply after_well_formed _ call (ih fun made member => clean made ((step_extends _ call).2.2.subset member))
      intro handle later run
      obtain ⟨made, member, callEq⟩ := returned_made _ call handle later run
      rw [← callEq]
      exact clean made member

def splitFirstInput : Call := .splitCoins (.argument Transaction.gas) [.ref (.argument (inputArg 0))]

-- 7 units off the gas coin, with every setting given.
def splitSession : Session :=
  (Session.step ⟨{ gasBudget := some 2, gasPrice := some 1, gasPayment := some [], sender := some senderOfOnes }, []⟩
    (.pure (.int 7) (some (str "u8")))).step splitFirstInput

theorem split_session_reachable : splitSession.Reachable := by
  refine ⟨_, rfl, rfl, .tail (.tail .refl ⟨_, ?_, rfl⟩) ⟨splitFirstInput, ?_, rfl⟩⟩
  · intro ref member
    cases member
  · intro ref member
    have known : ref = .argument Transaction.gas ∨ ref = .argument (inputArg 0) := by
      simpa [splitFirstInput, Call.refs, Amount.refs] using member
    rcases known with rfl | rfl
    · exact .gas
    · exact .handle _ List.mem_cons_self

theorem split_session_settings (signer : Option Ed25519Keypair) (sent : List Request) :
    CleanSettings refusingModels silentNode ⟨splitSession.tx, sent⟩ signer where
  sender := by
    intro sender chosen
    obtain rfl := Option.some.inj (chosen.symm.trans rfl)
    exact sender_of_ones_clean
  explicit := by
    intro coins given c member
    obtain rfl := Option.some.inj given
    cases member
  selected := by
    intro unset
    cases unset

theorem split_session_clean : ∀ made ∈ splitSession.made, made.call.Clean := by
  intro made member
  have calls : made.call = .pure (.int 7) (some (str "u8")) ∨ made.call = splitFirstInput := by
    rcases List.mem_cons.mp member with rfl | later
    · exact Or.inl rfl
    · exact Or.inr (by rw [List.mem_singleton.mp later])
  rcases calls with callEq | callEq
  · rw [callEq]
    trivial
  · rw [callEq]
    trivial

theorem split_session_returns (signer : Option Ed25519Keypair) (sent : List Request) :
    BuildReturns refusingModels silentNode signer splitSession.tx sent splitTransactionBytes := by
  have built : (Transaction.transactionDataSync refusingModels silentNode signer).run ⟨splitSession.tx, sent⟩ =
      .ok splitTransaction ⟨splitSession.tx, sent⟩ := rfl
  exact (build_returns_data _ _ _ _ _ _).mpr ⟨splitTransaction, _, built, split_transaction_serialized⟩

end PyIota
